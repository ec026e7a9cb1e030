import Mathlib.Tactic.SplitIfs
import SearchAnnotation.Json.Printer
import SearchAnnotation.Proofs.CodePoints

/-!
# Strings written and read back

Between quotes a code point is written as itself, by a letter, or by its sixteen-bit units, and is
read back as the code point. Only two surrogates next to each other are not told apart from the
character of which they are the units. So what is read back of a string are its code points with
all such pairs joined.
-/

namespace SearchAnnotation

namespace Json

variable {n : Nat} {c : Char}

theorem hexDigit?_digitChar (h : n < 16) : hexDigit? n.digitChar = some n := by
  have hall : ∀ d : Fin 16, hexDigit? d.val.digitChar = some d.val := by decide
  exact hall ⟨n, h⟩

/-- A unit has four hexadecimal digits. -/
theorem hexPadded_four (h : n < 0x10000) : Text.hexPadded 4 n =
    [(n / 4096).digitChar, (n / 256 % 16).digitChar, (n / 16 % 16).digitChar,
      (n % 16).digitChar] := by
  have hbase : 1 < 16 := by decide
  have hzero : Nat.digitChar 0 = '0' := rfl
  have split : ∀ {m : Nat}, 16 ≤ m →
      Nat.toDigits 16 m = Nat.toDigits 16 (m / 16) ++ [(m % 16).digitChar] := fun hm =>
    Nat.toDigits_of_base_le hbase hm
  have single : ∀ {m : Nat}, m < 16 → Nat.toDigits 16 m = [m.digitChar] := fun hm =>
    Nat.toDigits_of_lt_base hm
  unfold Text.hexPadded
  by_cases h₁ : n < 16
  · have hhigh : n / 4096 = 0 ∧ n / 256 % 16 = 0 ∧ n / 16 % 16 = 0 ∧ n % 16 = n := by omega
    simp only [single h₁, hhigh, hzero, List.length_singleton]
    rfl
  · by_cases h₂ : n / 16 < 16
    · have hhigh : n / 4096 = 0 ∧ n / 256 % 16 = 0 ∧ n / 16 % 16 = n / 16 := by omega
      simp only [split (Nat.not_lt.mp h₁), single h₂, hhigh, hzero]
      rfl
    · have hdiv : n / 16 / 16 = n / 256 ∧ n / 256 / 16 = n / 4096 := by omega
      by_cases h₃ : n / 256 < 16
      · have hhigh : n / 4096 = 0 ∧ n / 256 % 16 = n / 256 := by omega
        simp only [split (Nat.not_lt.mp h₁), split (Nat.not_lt.mp h₂), hdiv, single h₃, hhigh,
          hzero]
        rfl
      · have hlast : n / 4096 < 16 := by omega
        simp only [split (Nat.not_lt.mp h₁), split (Nat.not_lt.mp h₂), hdiv,
          split (Nat.not_lt.mp h₃), single hlast]
        rfl

variable {waiting : Bool} {acc : List Nat} {rest : List Sign}

/-- The escape of a unit is read as the unit. -/
theorem readCodesFrom_unitEscape (h : n < 0x10000) :
    readCodesFrom (signs (unitEscape n) ++ rest) waiting acc =
      readCodesFrom rest (addUnit waiting n acc).1 (addUnit waiting n acc).2 := by
  have hquad : hexQuad? (.char (n / 4096).digitChar) (.char (n / 256 % 16).digitChar)
      (.char (n / 16 % 16).digitChar) (.char (n % 16).digitChar) = some n := by
    have hsum : ((n / 4096 * 16 + n / 256 % 16) * 16 + n / 16 % 16) * 16 + n % 16 = n := by omega
    have hdigits : n / 4096 < 16 ∧ n / 256 % 16 < 16 ∧ n / 16 % 16 < 16 ∧ n % 16 < 16 := by omega
    simp only [hexQuad?, Sign.hex?, Sign.char?, Option.bind_some, hexDigit?_digitChar hdigits.1,
      hexDigit?_digitChar hdigits.2.1, hexDigit?_digitChar hdigits.2.2.1,
      hexDigit?_digitChar hdigits.2.2.2, Option.bind_eq_bind, hsum, Option.pure_def]
  rw [unitEscape, hexPadded_four h]
  simp only [signs, List.map_cons, List.map_nil, List.cons_append, List.nil_append, readCodesFrom,
    hquad]

/-- A unit that is no trailing surrogate joins nothing. -/
theorem addUnit_of_not_isLow (h : Encoding.isLow n = false) :
    addUnit waiting n acc = (Encoding.isHigh n, n :: acc) := by
  cases acc with
  | nil => rfl
  | cons high more => rw [addUnit, h, Bool.and_false, if_neg Bool.false_ne_true]

/-- The escape of a code point is read as the code point. -/
theorem readCodesFrom_codeEscape (h : n < 0x110000) :
    readCodesFrom (signs (codeEscape n) ++ rest) waiting acc =
      readCodesFrom rest (addUnit waiting n acc).1 (addUnit waiting n acc).2 := by
  unfold codeEscape
  split
  · next hunit => exact readCodesFrom_unitEscape hunit
  · next hpair =>
    -- The first unit waits for the second, and both are joined again.
    have hunits : (n - 0x10000) / 0x400 < 0x400 ∧ (n - 0x10000) % 0x400 < 0x400 := by omega
    have hhigh : Encoding.isHigh (0xd800 + (n - 0x10000) / 0x400) = true ∧
        Encoding.isLow (0xd800 + (n - 0x10000) / 0x400) = false := by
      simp only [Encoding.isHigh, Encoding.isLow, Bool.and_eq_true, Bool.and_eq_false_iff,
        decide_eq_true_eq, decide_eq_false_iff_not]
      omega
    have hlow : Encoding.isLow (0xdc00 + (n - 0x10000) % 0x400) = true := by
      simp only [Encoding.isLow, Bool.and_eq_true, decide_eq_true_eq]
      omega
    have hjoin : Encoding.pairCode (0xd800 + (n - 0x10000) / 0x400)
        (0xdc00 + (n - 0x10000) % 0x400) = n := by
      unfold Encoding.pairCode
      omega
    have hwide : Encoding.isHigh n = false ∧ Encoding.isLow n = false := by
      simp only [Encoding.isHigh, Encoding.isLow, Bool.and_eq_false_iff, decide_eq_false_iff_not]
      omega
    rw [signs, List.map_append, List.append_assoc, ← signs, ← signs,
      readCodesFrom_unitEscape (by omega), readCodesFrom_unitEscape (by omega),
      addUnit_of_not_isLow hhigh.2, addUnit_of_not_isLow hwide.2, hhigh.1, hwide.1, addUnit, hlow,
      Bool.and_self, if_pos rfl, hjoin]

/-- A character that is written as itself is read as itself. -/
theorem readCodesFrom_plain (visible : 0x20 ≤ c.toNat) (quote : c ≠ '"') (backslash : c ≠ '\\') :
    readCodesFrom (.char c :: rest) waiting acc = readCodesFrom rest false (c.toNat :: acc) := by
  have hplain : ¬(Sign.char c).code < 0x20 := Nat.not_lt.mpr visible
  rw [readCodesFrom, if_neg hplain, Sign.code]
  · exact fun h => quote (Sign.char.inj h)
  · exact fun _ _ _ _ _ h _ => backslash (Sign.char.inj h)
  · exact fun _ _ h _ => backslash (Sign.char.inj h)
  · exact fun h _ => backslash (Sign.char.inj h)

/-- What is written for a character is read as the character. -/
theorem readCodesFrom_escape (c : Char) :
    readCodesFrom (signs (escape c) ++ rest) waiting acc =
      readCodesFrom rest (addUnit waiting c.toNat acc).1 (addUnit waiting c.toNat acc).2 := by
  obtain ⟨hhigh, hlow⟩ := Encoding.not_surrogate c
  have hletter : ∀ letter : Char, letter ≠ 'u' → escaped? (.char letter) = some c →
      readCodesFrom (signs ['\\', letter] ++ rest) waiting acc =
        readCodesFrom rest (addUnit waiting c.toNat acc).1 (addUnit waiting c.toNat acc).2 := by
    intro letter hu hescaped
    have hread : readCodesFrom (.char '\\' :: .char letter :: rest) waiting acc =
        readCodesFrom rest false (c.toNat :: acc) := by
      rw [readCodesFrom, hescaped]
      exact fun _ _ _ _ _ h _ => hu (Sign.char.inj h)
    rw [addUnit_of_not_isLow hlow, hhigh]
    exact hread
  simp only [escape, Bool.or_eq_true, Bool.and_eq_true, decide_eq_true_eq]
  split_ifs with hquote hnewline hreturn htab hback hfeed hplain
  · rcases hquote with rfl | rfl
    · exact hletter '"' (by decide) rfl
    · exact hletter '\\' (by decide) rfl
  · exact hletter 'n' (by decide) (hnewline ▸ rfl)
  · exact hletter 'r' (by decide) (hreturn ▸ rfl)
  · exact hletter 't' (by decide) (htab ▸ rfl)
  · exact hletter 'b' (by decide) (hback ▸ rfl)
  · exact hletter 'f' (by decide) (hfeed ▸ rfl)
  · obtain ⟨hquote, hbackslash⟩ := not_or.mp hquote
    rw [addUnit_of_not_isLow hlow, hhigh]
    exact readCodesFrom_plain hplain.1 hquote hbackslash
  · exact readCodesFrom_codeEscape (Encoding.toNat_lt c)

/-- What is written for a code point is read as the code point. -/
theorem readCodesFrom_escapeCode (h : n < 0x110000) :
    readCodesFrom (signs (escapeCode n) ++ rest) waiting acc =
      readCodesFrom rest (addUnit waiting n acc).1 (addUnit waiting n acc).2 := by
  unfold escapeCode
  split
  · next c hc => rw [readCodesFrom_escape, Encoding.toNat_of_charOf? hc]
  · exact readCodesFrom_codeEscape h

theorem joinPairs_cons_of_not_isHigh {codes : List Nat} (h : Encoding.isHigh n = false) :
    Encoding.joinPairs (n :: codes) = n :: Encoding.joinPairs codes := by
  cases codes with
  | nil => rfl
  | cons low more =>
    rw [Encoding.joinPairs, h, Bool.false_and, if_neg Bool.false_ne_true]

/-- Code points written one after the other are read with their surrogate pairs joined. The last one
read before them takes part in this if it waits for its partner. -/
theorem readCodesFrom_escapeCodes {codes : List Nat} (space : inCodeSpace codes = true) :
    readCodesFrom (signs (codes.flatMap escapeCode) ++ .char '"' :: rest) false acc =
        some (acc.reverse ++ Encoding.joinPairs codes, rest) ∧
      ∀ high, Encoding.isHigh high = true →
        readCodesFrom (signs (codes.flatMap escapeCode) ++ .char '"' :: rest) true (high :: acc) =
          some (acc.reverse ++ Encoding.joinPairs (high :: codes), rest) := by
  induction codes generalizing acc with
  | nil => exact ⟨by simp [signs, readCodesFrom, Encoding.joinPairs],
      fun high _ => by simp [signs, readCodesFrom, Encoding.joinPairs]⟩
  | cons n codes ih =>
    rw [inCodeSpace, List.all_cons, Bool.and_eq_true, decide_eq_true_eq] at space
    obtain ⟨hn, hrest⟩ := space
    have hread : ∀ waiting acc, readCodesFrom
        (signs ((n :: codes).flatMap escapeCode) ++ .char '"' :: rest) waiting acc =
          readCodesFrom (signs (codes.flatMap escapeCode) ++ .char '"' :: rest)
            (addUnit waiting n acc).1 (addUnit waiting n acc).2 := by
      intro waiting acc
      rw [List.flatMap_cons, signs, List.map_append, List.append_assoc, ← signs, ← signs,
        readCodesFrom_escapeCode hn]
    -- A unit that joins nothing waits for its own partner just if it is a leading surrogate.
    have hpush : ∀ acc, readCodesFrom (signs (codes.flatMap escapeCode) ++ .char '"' :: rest)
        (Encoding.isHigh n) (n :: acc) =
          some (acc.reverse ++ Encoding.joinPairs (n :: codes), rest) := by
      intro acc
      cases hhigh : Encoding.isHigh n with
      | true => exact (ih hrest).2 n hhigh
      | false =>
        rw [(ih hrest).1, joinPairs_cons_of_not_isHigh hhigh, List.reverse_cons,
          List.append_assoc, List.singleton_append]
    constructor
    · rw [hread]
      cases acc with
      | nil => exact hpush []
      | cons last more => exact hpush (last :: more)
    · intro high hhigh
      rw [hread]
      cases hlow : Encoding.isLow n with
      | true =>
        rw [addUnit, hlow, Bool.and_self, if_pos rfl, (ih hrest).1, Encoding.joinPairs, hhigh, hlow,
          Bool.and_self, if_pos rfl, List.reverse_cons, List.append_assoc, List.singleton_append]
      | false =>
        rw [addUnit_of_not_isLow hlow, hpush, Encoding.joinPairs, hlow, Bool.and_false,
          if_neg Bool.false_ne_true, List.reverse_cons, List.append_assoc, List.singleton_append]

/-- Code points in quotes are read with their surrogate pairs joined. -/
theorem readCodes_render {codes : List Nat} (space : inCodeSpace codes = true) :
    readCodes (signs (codes.flatMap escapeCode ++ ['"']) ++ rest) =
      some (Encoding.joinPairs codes, rest) := by
  have hsigns : signs (codes.flatMap escapeCode ++ ['"']) ++ rest =
      signs (codes.flatMap escapeCode) ++ .char '"' :: rest := by
    rw [signs, List.map_append, List.append_assoc, ← signs]
    rfl
  rw [readCodes, hsigns]
  exact (readCodesFrom_escapeCodes space).1

end Json

end SearchAnnotation
