import SearchAnnotation.Value.Elements
import SearchAnnotation.Value.Text

/-!
# Names and texts by their code points

A name is determined by its code points, and any code points make a name: they are a text if all of
them are characters. So nothing is lost where names are taken apart and joined by code points.
-/

namespace SearchAnnotation

namespace Encoding

/-- The character of a code point has that code point. -/
theorem toNat_of_charOf? {n : Nat} {c : Char} (h : charOf? n = some c) : c.toNat = n := by
  unfold charOf? at h
  split at h
  · next hrange =>
    have hvalid : n.isValidChar := by
      simp only [isHigh, isLow, Bool.and_eq_true, Bool.not_eq_true', Bool.and_eq_false_iff,
        decide_eq_true_eq, decide_eq_false_iff_not] at hrange
      unfold Nat.isValidChar
      omega
    have hchar : Char.ofNat n = c := Option.some.inj h
    rw [← hchar, Char.ofNat, dif_pos hvalid]
    rfl
  · cases h

theorem toNat_lt (c : Char) : c.toNat < 0x110000 := by
  have hvalid : c.toNat.isValidChar := c.valid
  unfold Nat.isValidChar at hvalid
  omega

/-- No character is a surrogate. -/
theorem not_surrogate (c : Char) : isHigh c.toNat = false ∧ isLow c.toNat = false := by
  have hvalid : c.toNat.isValidChar := c.valid
  simp only [isHigh, isLow, Bool.and_eq_false_iff, decide_eq_false_iff_not]
  unfold Nat.isValidChar at hvalid
  omega

/-- A character is the one of its code point. -/
theorem charOf?_toNat (c : Char) : charOf? c.toNat = some c := by
  have hrange : (c.toNat < 0x110000 && !isHigh c.toNat && !isLow c.toNat) = true := by
    rw [(not_surrogate c).1, (not_surrogate c).2, decide_eq_true (toNat_lt c)]
    rfl
  rw [charOf?, if_pos hrange, Char.ofNat_toNat]

theorem codes_of_mapM_charOf? {codes : List Nat} {cs : List Char}
    (h : codes.mapM charOf? = some cs) : cs.map Char.toNat = codes := by
  induction codes generalizing cs with
  | nil =>
    simp only [List.mapM_nil, Option.pure_def, Option.some.injEq] at h
    rw [← h, List.map_nil]
  | cons n rest ih =>
    simp only [List.mapM_cons, Option.bind_eq_bind, Option.bind_eq_some_iff, Option.pure_def,
      Option.some.injEq] at h
    obtain ⟨c, hc, more, hmore, rfl⟩ := h
    rw [List.map_cons, toNat_of_charOf? hc, ih hmore]

theorem mapM_charOf?_toNat (cs : List Char) : (cs.map Char.toNat).mapM charOf? = some cs := by
  induction cs with
  | nil => rfl
  | cons c rest ih => simp [charOf?_toNat, ih]

theorem isSome_charOf?_of_text (cs : List Char) :
    ∀ n ∈ cs.map Char.toNat, (charOf? n).isSome = true := by
  intro n hn
  obtain ⟨c, -, rfl⟩ := List.mem_map.mp hn
  rw [charOf?_toNat, Option.isSome_some]

end Encoding

namespace Name

variable {a b : Name} {codes : List Nat}

/-- The name of code points has those code points. -/
@[simp]
theorem codes_ofCodes (codes : List Nat) : (ofCodes codes).codes = codes := by
  unfold ofCodes
  split
  · next cs h => rw [Name.codes, String.toList_ofList, Encoding.codes_of_mapM_charOf? h]
  · rfl

theorem ofCodes_of_mapM {cs : List Char} (h : codes.mapM Encoding.charOf? = some cs) :
    ofCodes codes = .text (String.ofList cs) := by
  unfold ofCodes
  split
  · next cs' h' =>
    have hcs : cs' = cs := Option.some.inj (h'.symm.trans h)
    rw [hcs]
  · next h' =>
    rw [h] at h'
    cases h'

/-- A name is the one of its code points. -/
@[simp]
theorem ofCodes_codes (name : Name) : ofCodes name.codes = name := by
  cases name with
  | text s =>
    rw [Name.codes, ofCodes_of_mapM (Encoding.mapM_charOf?_toNat s.toList), String.ofList_toList]
  | unpaired u =>
    unfold ofCodes
    split
    · next cs h =>
      have hnot := u.not_text
      rw [Name.codes] at h
      rw [h] at hnot
      cases hnot
    · rfl

/-- Names with the same code points are the same. -/
theorem codes_inj : a.codes = b.codes ↔ a = b := by
  constructor
  · intro h
    rw [← ofCodes_codes a, h, ofCodes_codes]
  · exact congrArg Name.codes

/-- Code points make a text just if they are all characters. -/
theorem text?_ofCodes_isSome :
    (ofCodes codes).text?.isSome = true ↔ ∀ n ∈ codes, (Encoding.charOf? n).isSome = true := by
  have hchars : (∃ cs, codes.mapM Encoding.charOf? = some cs) ↔
      ∀ n ∈ codes, (Encoding.charOf? n).isSome = true := by
    induction codes with
    | nil => simp
    | cons n rest ih =>
      rw [List.forall_mem_cons, ← ih, Option.isSome_iff_exists]
      simp only [List.mapM_cons, Option.bind_eq_bind, Option.bind_eq_some_iff, Option.pure_def,
        Option.some.injEq]
      constructor
      · rintro ⟨-, c, hc, more, hmore, rfl⟩
        exact ⟨⟨c, hc⟩, more, hmore⟩
      · rintro ⟨⟨c, hc⟩, more, hmore⟩
        exact ⟨_, c, hc, more, hmore, rfl⟩
  rw [← hchars]
  constructor
  · intro h
    unfold ofCodes at h
    split at h
    · next cs hcs => exact ⟨cs, hcs⟩
    · cases h
  · rintro ⟨cs, hcs⟩
    rw [ofCodes_of_mapM hcs]
    rfl

end Name

namespace Value

/-- The code points of a text make that text. -/
theorem ofCodes_text (s : String) : ofCodes (s.toList.map Char.toNat) = .text s := by
  rw [ofCodes, ← Name.codes, Name.ofCodes_codes]
  rfl

/-- The names of values are told apart as names are. -/
theorem ofName_inj {a b : Name} : ofName a = ofName b ↔ a = b := by
  cases a <;> cases b <;> simp [ofName]

/-- Whether a value is a string, be it a text or one with surrogates that stand alone. -/
def isString : Value → Bool
  | .text _ => true
  | .unpaired _ => true
  | _ => false

/-- A string is a name, and is shown by the code points of that name. -/
theorem exists_name_of_isString {v : Value} (h : v.isString = true) :
    ∃ name, v = ofName name ∧ v.displayCodes = name.codes := by
  cases v with
  | text s => exact ⟨.text s, rfl, rfl⟩
  | unpaired u => exact ⟨.unpaired u, rfl, rfl⟩
  | _ => cases h

/-- Strings that are shown alike are the same. -/
theorem eq_of_displayCodes {v w : Value} (hv : v.isString = true) (hw : w.isString = true)
    (h : v.displayCodes = w.displayCodes) : v = w := by
  obtain ⟨a, rfl, ha⟩ := exists_name_of_isString hv
  obtain ⟨b, rfl, hb⟩ := exists_name_of_isString hw
  rw [ha, hb, Name.codes_inj] at h
  rw [h]

/-- A value is shown by characters unless a surrogate stands alone in it. -/
theorem displayCodes_text_iff {v : Value} :
    (∀ n ∈ v.displayCodes, (Encoding.charOf? n).isSome = true) ↔ ∀ u, v ≠ .unpaired u := by
  cases v with
  | unpaired u =>
    have hcodes : (Name.ofCodes u.codes).text?.isSome = false := by
      rw [← Name.codes, Name.ofCodes_codes]
      rfl
    rw [displayCodes, ← Name.text?_ofCodes_isSome, hcodes]
    simp
  | _ => exact iff_of_true (Encoding.isSome_charOf?_of_text _) nofun

end Value

end SearchAnnotation
