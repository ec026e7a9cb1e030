import SearchAnnotation.Proofs.RereadValues
import SearchAnnotation.Service

/-!
# Visible fields

The service leaves hidden fields out of what it shows, at whatever depth they are. So all that the
strict format has to write of an object are its other fields, whose names must be texts. A hidden
field is still hidden when it comes back from its text, and what comes back of a value can be shown
if the value could.
-/

namespace SearchAnnotation

namespace Fields

variable {fields : Fields} {pairs : List (Name × Value)} {field : Name × Value}

theorem mem_of_mem_put {name : Name} {v : Value} (h : field ∈ put fields name v) :
    field = (name, v) ∨ field ∈ fields := by
  induction fields with
  | nil => exact .inl (List.mem_singleton.mp h)
  | cons old rest ih =>
    rw [put] at h
    split at h
    · next hname =>
      rcases List.mem_cons.mp h with rfl | h
      · exact .inl (Prod.ext hname rfl)
      · exact .inr (List.mem_cons_of_mem old h)
    · rcases List.mem_cons.mp h with rfl | h
      · exact .inr List.mem_cons_self
      · exact (ih h).imp_right (List.mem_cons_of_mem old)

/-- Fields made from pairs are some of the pairs. -/
theorem mem_of_mem_ofPairs (h : field ∈ ofPairs pairs) : field ∈ pairs := by
  have hfold : ∀ {fields : Fields}, field ∈ pairs.foldl (fun fields pair =>
      put fields pair.1 pair.2) fields → field ∈ fields ∨ field ∈ pairs := by
    clear h
    induction pairs with
    | nil => exact .inl
    | cons pair rest ih =>
      intro fields hm
      rcases ih hm with hput | hrest
      · rcases mem_of_mem_put hput with rfl | hold
        · exact .inr List.mem_cons_self
        · exact .inl hold
      · exact .inr (List.mem_cons_of_mem pair hrest)
  exact (hfold h).resolve_left List.not_mem_nil

end Fields

namespace Json

end Json

namespace Service

variable {fields : List (Name × Value)}

/-- Whether the strict format can write a field as far as it is visible. -/
def IsShowable (field : Name × Value) : Prop :=
  isHidden field.1 = false → field.1.text?.isSome = true ∧ Json.isStrict (visible field.2) = true

theorem isStrict_visibleItems_iff {items : List Value} :
    Json.isStrictItems (visibleItems items) = true ↔
      ∀ v ∈ items, Json.isStrict (visible v) = true := by
  induction items with
  | nil => exact iff_of_true rfl fun v hm => nomatch hm
  | cons v rest ih =>
    rw [visibleItems, Json.isStrictItems, Bool.and_eq_true, List.forall_mem_cons, ih]

/-- Of an object just the visible fields have to be written. -/
theorem isStrict_visibleFields_iff :
    Json.isStrictFields (visibleFields fields) = true ↔ ∀ field ∈ fields, IsShowable field := by
  induction fields with
  | nil => exact iff_of_true rfl fun field hm => nomatch hm
  | cons field rest ih =>
    obtain ⟨name, v⟩ := field
    rw [visibleFields, List.forall_mem_cons, ← ih, IsShowable]
    cases hname : isHidden name with
    | true => simp
    | false => simp [Json.isStrictFields, and_assoc]

/-- A hidden field is hidden still when its name comes back. -/
theorem isHidden_reread {name : Name} (h : isHidden name = true) : isHidden name.reread = true := by
  obtain ⟨rest, hrest⟩ := List.isPrefixOf_iff_prefix.mp h
  have hcodes : name.reread.codes = "_sa".toList.map Char.toNat ++ Encoding.joinPairs rest := by
    rw [Name.reread, Name.codes_ofCodes, ← hrest]
    have hbar : Encoding.isHigh '_'.toNat = false := by decide
    have hs : Encoding.isHigh 's'.toNat = false := by decide
    have ha : Encoding.isHigh 'a'.toNat = false := by decide
    show Encoding.joinPairs ('_'.toNat :: 's'.toNat :: 'a'.toNat :: rest) = _
    rw [Json.joinPairs_cons_of_not_isHigh hbar, Json.joinPairs_cons_of_not_isHigh hs,
      Json.joinPairs_cons_of_not_isHigh ha]
    rfl
  rw [isHidden, hcodes]
  exact List.isPrefixOf_iff_prefix.mpr (List.prefix_append _ _)

/-- A field that can be shown can be shown when it comes back, if its value can. -/
theorem IsShowable.reread {field : Name × Value} (h : IsShowable field)
    (back : Json.isStrict (visible field.2) = true →
      Json.isStrict (visible field.2.reread) = true) :
    IsShowable (field.1.reread, field.2.reread) := by
  intro hshown
  cases hhidden : isHidden field.1 with
  | true =>
    rw [isHidden_reread hhidden] at hshown
    cases hshown
  | false =>
    obtain ⟨htext, hstrict⟩ := h hhidden
    refine ⟨?_, back hstrict⟩
    cases hname : field.1 with
    | text s => rw [Name.reread_text]; rfl
    | unpaired u =>
      rw [hname] at htext
      cases htext

mutual

/-- What comes back of a value can be shown if the value could. -/
theorem isStrict_visible_reread (v : Value) (h : Json.isStrict (visible v) = true) :
    Json.isStrict (visible v.reread) = true := by
  match v with
  | .null | .bool _ | .int _ | .text _ => rfl
  | .float x =>
    have hdefined : x.isNaN = false := by
      have hfinite : x.isFinite = true := h
      rw [Binary64.isFinite, bne_iff_ne] at hfinite
      rw [Binary64.isNaN, beq_false_of_ne hfinite, Bool.false_and]
    rw [Value.reread, hdefined]
    exact h
  | .unpaired u => cases h
  | .list items => exact isStrict_visibleItems_reread items h
  | .object fields =>
    have hback := isShowable_rereadFields fields (isStrict_visibleFields_iff.mp h)
    exact isStrict_visibleFields_iff.mpr fun field hm => hback field (Fields.mem_of_mem_ofPairs hm)

theorem isStrict_visibleItems_reread (items : List Value)
    (h : Json.isStrictItems (visibleItems items) = true) :
    Json.isStrictItems (visibleItems (Value.rereadItems items)) = true := by
  match items with
  | [] => rfl
  | v :: rest =>
    rw [visibleItems, Json.isStrictItems, Bool.and_eq_true] at h
    rw [Value.rereadItems, visibleItems, Json.isStrictItems, Bool.and_eq_true]
    exact ⟨isStrict_visible_reread v h.1, isStrict_visibleItems_reread rest h.2⟩

theorem isShowable_rereadFields (fields : List (Name × Value))
    (h : ∀ field ∈ fields, IsShowable field) :
    ∀ field ∈ Value.rereadFields fields, IsShowable field := by
  match fields with
  | [] => exact fun field hm => nomatch hm
  | (name, v) :: rest =>
    obtain ⟨hfield, hrest⟩ := List.forall_mem_cons.mp h
    rw [Value.rereadFields]
    exact List.forall_mem_cons.mpr ⟨hfield.reread (isStrict_visible_reread v),
      isShowable_rereadFields rest hrest⟩

end

end Service

end SearchAnnotation
