import SearchAnnotation.Proofs.CodePoints
import SearchAnnotation.Proofs.ReferenceResults

/-!
# What flat snippets say

A snippet flattens to a string or to null, or it has a part of the wrong kind. The flat form of a
structured snippet is what its fragments say, one after the other, so lists of fragments can be
flattened part by part. Of a fragment that is an object only the text counts, and it has to be a
string if it is there at all. A string in place of the list stands for its characters, and an object
for its names.
-/

namespace SearchAnnotation

namespace Snippet

variable {snippet parts flat v : Value} {items xs ys : List Value} {codes : List Nat}
  {pieces : List (List Nat)} {fields : Fields}

theorem textCodes?_ofName (name : Name) : textCodes? (.ofName name) = some name.codes := by
  cases name <;> rfl

/-- The string of code points has those code points. -/
theorem textCodes?_ofCodes (codes : List Nat) :
    textCodes? (.ofCodes codes) = some codes := by
  rw [Value.ofCodes, textCodes?_ofName, Name.codes_ofCodes]

/-- Two strings in one. -/
def joined (a b : Value) : Value :=
  Value.ofCodes ((textCodes? a).getD [] ++ (textCodes? b).getD [])

theorem joined_ofCodes (front back : List Nat) :
    joined (Value.ofCodes front) (Value.ofCodes back) = Value.ofCodes (front ++ back) := by
  simp only [joined, textCodes?_ofCodes, Option.getD_some]

theorem joined_text (s t : String) : joined (.text s) (.text t) = .text (s ++ t) := by
  rw [← Value.ofCodes_text s, ← Value.ofCodes_text t, joined_ofCodes, ← List.map_append,
    ← String.toList_append, Value.ofCodes_text]

/-- What a fragment says, in code points. -/
inductive Says : Value → List Nat → Prop where
  /-- An object without a text says nothing. -/
  | nothing {fields : Fields} (missing : Fields.get? fields "text" = none) :
      Says (.object fields) []
  /-- An object says its text. -/
  | text {fields : Fields} {text : Value} {codes : List Nat}
      (given : Fields.get? fields "text" = some text) (string : textCodes? text = some codes) :
      Says (.object fields) codes
  /-- A string says itself. -/
  | itself {v : Value} {codes : List Nat} (string : textCodes? v = some codes) : Says v codes
  /-- Any other value says its literal text. -/
  | literal {v : Value} (other : v.isString = false) (plain : ∀ fields, v ≠ .object fields) :
      Says v (v.literal.map Char.toNat)

/-- Whether a fragment is an object with a text that is no string. -/
def IsMute (v : Value) : Prop :=
  ∃ fields text, v = .object fields ∧ Fields.get? fields "text" = some text ∧
    text.isString = false

theorem not_isFragment_iff : ¬IsFragment v ↔ IsMute v := by
  simp [IsFragment, IsMute]

/-- A fragment contributes what it says. -/
theorem fragmentCodes_eq_ok : fragmentCodes v = .ok codes ↔ Says v codes := by
  constructor
  · intro h
    cases v with
    | object fields =>
      cases htext : Fields.get? fields "text" with
      | none =>
        simp only [fragmentCodes, htext, Except.ok.injEq] at h
        rw [← h]
        exact .nothing htext
      | some text =>
        cases hcodes : textCodes? text with
        | none => simp only [fragmentCodes, htext, hcodes, reduceCtorEq] at h
        | some own =>
          simp only [fragmentCodes, htext, hcodes, Except.ok.injEq] at h
          rw [← h]
          exact .text htext hcodes
    | text s =>
      simp only [fragmentCodes, textCodes?, Option.getD_some, Except.ok.injEq] at h
      exact .itself (by rw [textCodes?, h])
    | unpaired own =>
      simp only [fragmentCodes, textCodes?, Option.getD_some, Except.ok.injEq] at h
      exact .itself (by rw [textCodes?, h])
    | _ =>
      simp only [fragmentCodes, textCodes?, Option.getD_none, Except.ok.injEq] at h
      rw [← h]
      exact .literal rfl (by simp)
  · intro h
    cases h with
    | nothing missing => simp only [fragmentCodes, missing]
    | text given string => simp only [fragmentCodes, given, string]
    | itself string =>
      cases v with
      | text s => simpa [fragmentCodes, textCodes?] using string
      | unpaired own => simpa [fragmentCodes, textCodes?] using string
      | _ => simp [textCodes?] at string
    | literal other plain =>
      cases v with
      | object fields => exact absurd rfl (plain fields)
      | text s => cases other
      | unpaired own => cases other
      | _ => rfl

theorem joinFragments_cons :
    joinFragments (v :: items) = (do
      let head ← fragmentCodes v
      let tail ← joinFragments items
      return head ++ tail) := rfl

/-- Joined fragments are what they say one after the other. -/
theorem joinFragments_eq_ok :
    joinFragments items = .ok codes ↔
      ∃ pieces, List.Forall₂ Says items pieces ∧ codes = pieces.flatten := by
  induction items generalizing codes with
  | nil =>
    have hnil : joinFragments [] = .ok codes ↔ codes = [] := by
      rw [joinFragments, Except.ok.injEq]
      exact eq_comm
    simp [hnil]
  | cons v rest ih =>
    constructor
    · intro h
      obtain ⟨head, hhead, h⟩ := Outcome.bind_eq_ok.mp h
      obtain ⟨tail, htail, h⟩ := Outcome.bind_eq_ok.mp h
      obtain ⟨pieces, hpieces, rfl⟩ := ih.mp htail
      have hcodes : head ++ pieces.flatten = codes := Except.ok.inj h
      exact ⟨head :: pieces, .cons (fragmentCodes_eq_ok.mp hhead) hpieces, hcodes.symm⟩
    · rintro ⟨pieces, hpieces, rfl⟩
      cases hpieces with
      | cons hhead hrest =>
        have htail := ih.mpr ⟨_, hrest, rfl⟩
        rw [joinFragments_cons, fragmentCodes_eq_ok.mpr hhead, htail]
        rfl

/-- Fragments can be joined part by part. -/
theorem joinFragments_append :
    joinFragments (xs ++ ys) = (do
      let front ← joinFragments xs
      let back ← joinFragments ys
      return front ++ back) := by
  induction xs with
  | nil =>
    cases h : joinFragments ys with
    | error why => simp [joinFragments, h, bind, Except.bind]
    | ok back => simp [joinFragments, h, bind, Except.bind, pure, Except.pure]
  | cons v rest ih =>
    rw [List.cons_append, joinFragments_cons, joinFragments_cons, ih]
    cases fragmentCodes v with
    | error why => rfl
    | ok head =>
      cases joinFragments rest with
      | error why => rfl
      | ok tail =>
        cases joinFragments ys with
        | error why => rfl
        | ok back =>
          have hassoc : head ++ (tail ++ back) = head ++ tail ++ back :=
            (List.append_assoc head tail back).symm
          exact congrArg Except.ok hassoc

/-- Joining fails just on a mute fragment. -/
theorem joinFragments_eq_error_iff :
    joinFragments items = .error .wrongKind ↔ ∃ v ∈ items, IsMute v := by
  have hok : (∃ codes, joinFragments items = .ok codes) ↔ ∀ v ∈ items, IsFragment v :=
    joinFragments_ok_iff
  cases hjoin : joinFragments items with
  | ok codes =>
    have hall : ∀ v ∈ items, IsFragment v := hok.mp ⟨codes, hjoin⟩
    refine iff_of_false nofun fun ⟨v, hv, hmute⟩ => ?_
    exact not_isFragment_iff.mpr hmute (hall v hv)
  | error why =>
    have hkind : why = .wrongKind := joinFragments_eq_error hjoin
    have hnot : ¬∀ v ∈ items, IsFragment v := by
      rw [← hok, hjoin]
      exact fun ⟨codes, h⟩ => nomatch h
    refine iff_of_true (by rw [hkind]) ?_
    simpa [not_isFragment_iff] using hnot

/-- Whether a snippet is structured, with a value as its fragments. Missing fragments are null. -/
def HasFragments (snippet parts : Value) : Prop :=
  ∃ fields inner, snippet = .object fields ∧ Fields.get? fields "text" = some (.object inner) ∧
    Fields.get inner "fragments" = parts

/-- The list of fragments that a value stands for. -/
inductive StandsFor : Value → List Value → Prop where
  /-- A list stands for its items. -/
  | items (items : List Value) : StandsFor (.list items) items
  /-- A text stands for its characters. -/
  | characters (s : String) :
      StandsFor (.text s) (s.toList.map fun c => .text (String.singleton c))
  /-- Code points stand for one string each. -/
  | codes (u : Unpaired) : StandsFor (.unpaired u) (u.codes.map Value.ofCode)
  /-- An object stands for its names. -/
  | names (fields : Fields) :
      StandsFor (.object fields) (fields.map fun field => Value.ofName field.1)

theorem elements?_eq_some_iff : parts.elements? = some items ↔ StandsFor parts items := by
  constructor
  · intro h
    cases parts with
    | list own => exact Option.some.inj h ▸ .items own
    | text s => exact Option.some.inj h ▸ .characters s
    | unpaired own => exact Option.some.inj h ▸ .codes own
    | object fields => exact Option.some.inj h ▸ .names fields
    | _ => cases h
  · rintro ⟨⟩ <;> rfl

/-- A value that stands for fragments is trivial if it stands for none. -/
theorem isTrivial_iff_of_standsFor (h : StandsFor parts items) :
    parts.isTrivial = true ↔ items = [] := by
  cases h with
  | items items => simp [Value.isTrivial]
  | characters s => simp [Value.isTrivial]
  | codes codes => simp [Value.isTrivial]
  | names fields => simp [Value.isTrivial]

theorem fragments_of_standsFor (h : StandsFor parts items) : fragments parts = .ok items := by
  unfold fragments
  split
  · next htrivial => rw [(isTrivial_iff_of_standsFor h).mp htrivial]
  · rw [Value.elements, elements?_eq_some_iff.mpr h]

theorem fragments_of_isTrivial (h : parts.isTrivial = true) : fragments parts = .ok [] := by
  rw [fragments, if_pos h]

theorem fragments_of_none (h : parts.isTrivial = false)
    (none : ∀ items, ¬StandsFor parts items) : fragments parts = .error .wrongKind := by
  have helements : parts.elements? = Option.none :=
    Option.eq_none_iff_forall_not_mem.mpr fun items hitems =>
      none items (elements?_eq_some_iff.mp hitems)
  simp only [fragments, h, Bool.false_eq_true, if_false, Value.elements, helements]

theorem flatten_of_hasFragments (h : HasFragments snippet parts) :
    flatten snippet = (do
      let items ← fragments parts
      let codes ← joinFragments items
      return Value.ofCodes codes) := by
  obtain ⟨fields, inner, rfl, htext, rfl⟩ := h
  simp only [flatten, htext]

theorem flatten_of_standsFor (h : HasFragments snippet parts) (stands : StandsFor parts items) :
    flatten snippet = (joinFragments items).map Value.ofCodes := by
  rw [flatten_of_hasFragments h, fragments_of_standsFor stands]
  rfl

theorem flatten_of_list (h : HasFragments snippet (.list items)) :
    flatten snippet = (joinFragments items).map Value.ofCodes :=
  flatten_of_standsFor h (.items items)

/-- How a structured snippet is flattened, by what it has as its fragments. -/
structure Flattens (snippet parts : Value) : Prop where
  /-- A list cannot be flattened exactly if one of its fragments is mute. -/
  fails : ∀ items, parts = .list items →
    (flatten snippet = .error .wrongKind ↔ ∃ v ∈ items, IsMute v)
  /-- Otherwise its flat form is what its fragments say, in order. -/
  spoken : ∀ items, parts = .list items → ∀ flat, flatten snippet = .ok flat ↔
    ∃ pieces, List.Forall₂ Says items pieces ∧ flat = Value.ofCodes pieces.flatten
  /-- Two lists one after the other are flattened one after the other. -/
  appends : ∀ xs ys front back, parts = .list (xs ++ ys) → HasFragments front (.list xs) →
    HasFragments back (.list ys) → flatten snippet = (do
      let a ← flatten front
      let b ← flatten back
      return joined a b)
  /-- A string counts as the list of its characters, and an object as the list of its names. -/
  spelled : ∀ items other, StandsFor parts items → HasFragments other (.list items) →
    flatten snippet = flatten other
  /-- A trivial value has the empty text as its flat form. -/
  empty : parts.isTrivial = true → flatten snippet = .ok (.text "")
  /-- Any other value cannot be flattened. -/
  unread : parts.isTrivial = false → (∀ items, ¬StandsFor parts items) →
    flatten snippet = .error .wrongKind

theorem flatten_eq_error_iff (h : HasFragments snippet (.list items)) :
    flatten snippet = .error .wrongKind ↔ ∃ v ∈ items, IsMute v := by
  rw [flatten_of_list h, ← joinFragments_eq_error_iff]
  cases joinFragments items <;> simp [Except.map]

theorem flatten_eq_ok_iff (h : HasFragments snippet (.list items)) :
    flatten snippet = .ok flat ↔
      ∃ pieces, List.Forall₂ Says items pieces ∧ flat = Value.ofCodes pieces.flatten := by
  have hflat : flatten snippet = .ok flat ↔
      ∃ codes, joinFragments items = .ok codes ∧ flat = Value.ofCodes codes := by
    rw [flatten_of_list h]
    cases joinFragments items <;> simp [Except.map, eq_comm]
  rw [hflat]
  constructor
  · rintro ⟨codes, hcodes, rfl⟩
    obtain ⟨pieces, hpieces, rfl⟩ := joinFragments_eq_ok.mp hcodes
    exact ⟨pieces, hpieces, rfl⟩
  · rintro ⟨pieces, hpieces, rfl⟩
    exact ⟨pieces.flatten, joinFragments_eq_ok.mpr ⟨pieces, hpieces, rfl⟩, rfl⟩

theorem flatten_append {front back : Value} (h : HasFragments snippet (.list (xs ++ ys)))
    (hfront : HasFragments front (.list xs)) (hback : HasFragments back (.list ys)) :
    flatten snippet = (do
      let a ← flatten front
      let b ← flatten back
      return joined a b) := by
  rw [flatten_of_list h, flatten_of_list hfront, flatten_of_list hback, joinFragments_append]
  cases joinFragments xs with
  | error why => rfl
  | ok a =>
    cases joinFragments ys with
    | error why => rfl
    | ok b =>
      have hjoined := joined_ofCodes a b
      exact congrArg Except.ok hjoined.symm

theorem flattens_of_hasFragments (h : HasFragments snippet parts) : Flattens snippet parts where
  fails items heq := by
    subst heq
    exact flatten_eq_error_iff h
  spoken items heq flat := by
    subst heq
    exact flatten_eq_ok_iff h
  appends xs ys front back heq hfront hback := by
    subst heq
    exact flatten_append h hfront hback
  spelled items other stands hother := by
    rw [flatten_of_standsFor h stands, flatten_of_list hother]
  empty htrivial := by
    rw [flatten_of_hasFragments h, fragments_of_isTrivial htrivial]
    rfl
  unread filled none := by
    rw [flatten_of_hasFragments h, fragments_of_none filled none]
    rfl

theorem flatten_cases (snippet : Value) :
    (∃ flat, flatten snippet = .ok flat ∧ (flat.isString = true ∨ flat = .null)) ∨
      flatten snippet = .error .wrongKind := by
  cases h : flatten snippet with
  | ok flat => exact .inl ⟨flat, rfl, isString_or_null_of_flatten h⟩
  | error why => exact .inr (by rw [flatten_eq_error h])

/-- Every snippet flattens to a string or null, or has a part of the wrong kind. What a structured
one flattens to is what its fragments say: strings are joined by their code points, which for texts
is to append them. -/
theorem flatten_joins_fragments (snippet : Value) :
    ((∃ flat, flatten snippet = .ok flat ∧ (flat.isString = true ∨ flat = .null)) ∨
      flatten snippet = .error .wrongKind) ∧
      (∀ parts, HasFragments snippet parts → Flattens snippet parts) ∧
      (∀ codes, textCodes? (Value.ofCodes codes) = some codes) ∧
      ∀ s t, joined (.text s) (.text t) = .text (s ++ t) :=
  ⟨flatten_cases snippet, fun _ h => flattens_of_hasFragments h, textCodes?_ofCodes, joined_text⟩

/-- A snippet whose fragments are an object with a text, one without, a number and a list. -/
def mixedSnippet (text : Value) : Value :=
  .object [("type", .text "normal"), ("text", .object [("fragments", .list [
    .object [("kind", .text "plain"), ("text", text)], .object [], .int (-7),
    .list [.null, .text "it's"]])])]

theorem hasFragments_mixedSnippet (text : Value) : HasFragments (mixedSnippet text) (.list [
    .object [("kind", .text "plain"), ("text", text)], .object [], .int (-7),
    .list [.null, .text "it's"]]) :=
  ⟨_, _, rfl, rfl, rfl⟩

/-- The fragments of a mixed snippet are joined if the text is a string, and null is none. -/
theorem mixedSnippet_flattened :
    flatten (mixedSnippet (.text "An ")) = .ok (.text "An -7[None, \"it's\"]") ∧
      flatten (mixedSnippet .null) = .error .wrongKind := by
  have hjoined := (flatten_joins_fragments (mixedSnippet (.text "An "))).2.1 _
    (hasFragments_mixedSnippet _)
  have hmute := (flatten_joins_fragments (mixedSnippet .null)).2.1 _ (hasFragments_mixedSnippet _)
  constructor
  · refine (hjoined.spoken _ rfl _).mpr ⟨_, .cons (.text rfl rfl) (.cons (.nothing rfl)
      (.cons (.literal rfl nofun) (.cons (.literal rfl nofun) .nil))), ?_⟩
    decide +kernel
  · refine (hmute.fails _ rfl).mpr ⟨_, List.mem_cons_self, ?_⟩
    exact ⟨_, .null, rfl, rfl, rfl⟩

end Snippet

end SearchAnnotation
