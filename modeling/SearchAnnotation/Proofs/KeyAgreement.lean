import SearchAnnotation.Proofs.ExactValues
import SearchAnnotation.Result

/-!
# Agreement of keys

Every key has a canonical form. Truth values and numbers without a fractional part are replaced by
the whole numbers that they equal, and all other keys stay. Keys agree just if their canonical
forms are equal, undefined numbers aside, so agreement tells keys apart as equality does.
-/

namespace SearchAnnotation

namespace Value

/-- The whole number that a key equals, if there is one, and otherwise the key. -/
def canonical : Value → Value
  | .bool b => .int (ofBool b)
  | .float x =>
    match x.toInt? with
    | some n => .int n
    | none => .float x
  | v => v

/-- Whether a value is an undefined number. -/
def isUndefined : Value → Bool
  | .float x => x.isNaN
  | _ => false

variable {a b : Value} {x y : Binary64} {n : Int}

theorem canonical_float_of_some (h : x.toInt? = some n) : canonical (.float x) = .int n := by
  rw [canonical, h]

theorem canonical_float_of_none (h : x.toInt? = none) : canonical (.float x) = .float x := by
  rw [canonical, h]

/-- A number has the canonical form of a whole one just if it equals it. -/
theorem canonical_float_eq_int : canonical (.float x) = .int n ↔ x.toInt? = some n := by
  cases hx : x.toInt? with
  | some m => rw [canonical_float_of_some hx, int.injEq, Option.some_inj]
  | none => rw [canonical_float_of_none hx]; simp only [reduceCtorEq]

/-- Numbers agree just if they are defined and have one canonical form. -/
theorem float_agree_iff :
    x.agree y = true ↔ canonical (.float x) = canonical (.float y) ∧ x.isNaN = false := by
  simp only [Binary64.agree, Bool.and_eq_true, Bool.or_eq_true, Bool.not_eq_true', beq_iff_eq]
  constructor
  · rintro ⟨⟨hx, -⟩, rfl | ⟨hzx, hzy⟩⟩
    · exact ⟨rfl, hx⟩
    · rw [canonical_float_of_some (Binary64.toInt?_of_isZero hzx),
        canonical_float_of_some (Binary64.toInt?_of_isZero hzy)]
      exact ⟨rfl, hx⟩
  · rintro ⟨h, hx⟩
    cases hy : y.toInt? with
    | some n =>
      rw [canonical_float_of_some hy, canonical_float_eq_int] at h
      exact ⟨⟨hx, Binary64.isNaN_of_toInt? hy⟩, Binary64.eq_or_isZero_of_toInt? h hy⟩
    | none =>
      rw [canonical_float_of_none hy] at h
      cases hxn : x.toInt? with
      | some n =>
        rw [canonical_float_of_some hxn] at h
        cases h
      | none =>
        rw [canonical_float_of_none hxn] at h
        cases h
        exact ⟨⟨hx, hx⟩, .inl rfl⟩

/-- A number equals a whole one just if it is defined and has that one as canonical form. -/
theorem toInt?_beq_iff :
    (x.toInt? == some n) = true ↔ canonical (.float x) = .int n ∧ x.isNaN = false := by
  rw [beq_iff_eq, canonical_float_eq_int]
  exact ⟨fun h => ⟨h, Binary64.isNaN_of_toInt? h⟩, And.left⟩

theorem ofBool_inj {c d : Bool} : ofBool c = ofBool d ↔ c = d := by
  cases c <;> cases d <;> decide

/-- Whether a key is a number or a truth value. -/
def isNumeric : Value → Bool
  | .bool _ => true
  | .int _ => true
  | .float _ => true
  | _ => false

theorem isNumeric_canonical (v : Value) : v.canonical.isNumeric = v.isNumeric := by
  cases v with
  | float x =>
    rw [canonical]
    split <;> rfl
  | _ => rfl

/-- Numbers and truth values agree just if they are defined and have one canonical form. -/
theorem agree_iff_of_isNumeric (ha : a.isNumeric = true) (hb : b.isNumeric = true) :
    a.agree b = true ↔ a.canonical = b.canonical ∧ a.isUndefined = false := by
  have hswap : ∀ {m : Int} {y : Binary64}, (y.toInt? == some m) = true ↔
      .int m = canonical (.float y) ∧ (Value.int m).isUndefined = false := by
    intro m y
    rw [beq_iff_eq, ← canonical_float_eq_int, eq_comm (a := Value.int m)]
    exact (and_iff_left rfl).symm
  cases a with
  | float x =>
    cases b with
    | float y => exact float_agree_iff
    | int n => exact toInt?_beq_iff
    | bool d => exact toInt?_beq_iff
    | _ => cases hb
  | int m =>
    cases b with
    | float y => exact hswap
    | int n => simp only [agree, beq_iff_eq, canonical, int.injEq, isUndefined, and_true]
    | bool d => simp only [agree, beq_iff_eq, canonical, int.injEq, isUndefined, and_true]
    | _ => cases hb
  | bool c =>
    cases b with
    | float y => exact hswap
    | int n => simp only [agree, beq_iff_eq, canonical, int.injEq, isUndefined, and_true]
    | bool d =>
      simp only [agree, beq_iff_eq, canonical, int.injEq, isUndefined, and_true, ofBool_inj]
    | _ => cases hb
  | _ => cases ha

/-- Just an undefined number has the canonical form of one. -/
theorem eq_of_canonical_of_isUndefined (undefined : a.isUndefined = true)
    (h : a.canonical = b.canonical) : a = b := by
  cases a with
  | float x =>
    have hx : x.toInt? = none := by
      cases hx : x.toInt? with
      | none => rfl
      | some n => exact absurd undefined (by rw [isUndefined, Binary64.isNaN_of_toInt? hx]; decide)
    rw [canonical_float_of_none hx] at h
    cases b with
    | float y =>
      cases hy : y.toInt? with
      | none => rw [h, canonical_float_of_none hy]
      | some n =>
        rw [canonical_float_of_some hy] at h
        cases h
    | _ => cases h
  | _ => cases undefined

/-- Keys of which just one is numeric neither agree nor have one canonical form. -/
theorem apart_of_isNumeric_ne (h : a.isNumeric ≠ b.isNumeric) :
    a.agree b = false ∧ a.canonical ≠ b.canonical := by
  constructor
  · cases a <;> cases b <;> first | rfl | exact absurd rfl h
  · intro he
    exact h (by rw [← isNumeric_canonical, he, isNumeric_canonical])

/-- Keys agree just if they are defined and have one canonical form. -/
theorem agree_iff (ha : a.isKey = true) (hb : b.isKey = true) :
    a.agree b = true ↔ a.canonical = b.canonical ∧ a.isUndefined = false := by
  by_cases hkind : a.isNumeric = b.isNumeric
  · cases hnumeric : a.isNumeric with
    | true => exact agree_iff_of_isNumeric hnumeric (hkind ▸ hnumeric)
    | false =>
      rw [hnumeric] at hkind
      cases a <;> cases hnumeric <;> cases ha <;> cases b <;> cases hkind <;> cases hb <;>
        simp only [agree, beq_iff_eq, canonical, isUndefined, and_true, reduceCtorEq,
          text.injEq, unpaired.injEq, Bool.false_eq_true]
  · obtain ⟨hagree, hcanonical⟩ := apart_of_isNumeric_ne hkind
    rw [hagree]
    exact iff_of_false Bool.false_ne_true fun h => hcanonical h.1

end Value

namespace SearchResult

variable {a b : Value}

/-- Addresses count as one just if they have one canonical form. -/
theorem sameAddress_eq (ha : a.isKey = true) (hb : b.isKey = true) :
    sameAddress a b = (a.canonical == b.canonical) := by
  rw [Bool.eq_iff_iff, sameAddress, Bool.or_eq_true, beq_iff_eq, beq_iff_eq, Value.agree_iff ha hb]
  constructor
  · rintro (rfl | ⟨h, -⟩)
    · rfl
    · exact h
  · intro h
    cases hu : a.isUndefined with
    | false => exact .inr ⟨h, rfl⟩
    | true => exact .inl (Value.eq_of_canonical_of_isUndefined hu h)

/-- Unless it is an undefined number, an address counts as one with those that it agrees with. -/
theorem sameAddress_eq_agree (ha : a.isKey = true) (hb : b.isKey = true)
    (defined : a.isUndefined = false) : sameAddress a b = a.agree b := by
  rw [sameAddress_eq ha hb, Bool.eq_iff_iff, beq_iff_eq, Value.agree_iff ha hb,
    and_iff_left defined]

end SearchResult

end SearchAnnotation
