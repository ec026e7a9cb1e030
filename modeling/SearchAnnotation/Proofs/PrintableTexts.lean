import SearchAnnotation.Proofs.DecimalTexts
import SearchAnnotation.Value.Text

/-!
# Literal texts are printable

Between quotes every character that is not printable is escaped, and an escape consists of a
backslash, a letter and digits. Numbers, words and punctuation are printable anyway, so by
induction on a value its literal text is printable, whatever texts it holds at whatever depth. A
printable character neither breaks a line nor is a control.
-/

namespace SearchAnnotation

namespace Text

/-- The code points at which a text breaks into lines. -/
def lineBreaks : List Nat := [0xa, 0xb, 0xc, 0xd, 0x1c, 0x1d, 0x1e, 0x85, 0x2028, 0x2029]

/-- Whether a text breaks into lines at a character. -/
def isLineBreak (c : Char) : Bool := lineBreaks.contains c.toNat

/-- Whether a character is a control. -/
def isControl (c : Char) : Bool := c.toNat < 0x20 || 0x7f ≤ c.toNat && c.toNat < 0xa0

section Characters

variable {c : Char}

theorem isPrintable_of_lt (hlow : 0x20 ≤ c.toNat) (hhigh : c.toNat < 0x7f) :
    isPrintable c = true := by
  rw [isPrintable, if_pos hhigh]
  exact decide_eq_true hlow

/-- Every range but the first is beyond the seven-bit characters. -/
theorem unprintableRanges_split :
    ∀ range ∈ unprintableRanges, range.2 < 0x20 ∨ 0x7f ≤ range.1 := by
  decide +kernel

/-- A printable character is outside all ranges, those beyond seven bits included. -/
theorem not_mem_range_of_isPrintable (h : isPrintable c = true) :
    ∀ range ∈ unprintableRanges, c.toNat < range.1 ∨ range.2 < c.toNat := by
  intro range hrange
  rw [isPrintable] at h
  split_ifs at h with hseven
  · have hlow : 0x20 ≤ c.toNat := of_decide_eq_true h
    have hsplit := unprintableRanges_split range hrange
    omega
  · have hall := List.all_eq_true.mp h range hrange
    simpa using hall

theorem lineBreaks_unprintable :
    ∀ n ∈ lineBreaks, ∃ range ∈ unprintableRanges, range.1 ≤ n ∧ n ≤ range.2 := by
  decide +kernel

theorem isLineBreak_eq_false (h : isPrintable c = true) : isLineBreak c = false := by
  by_contra hbreak
  have hmem : c.toNat ∈ lineBreaks := by
    simpa [isLineBreak] using hbreak
  obtain ⟨range, hrange, hlow, hhigh⟩ := lineBreaks_unprintable c.toNat hmem
  have houtside := not_mem_range_of_isPrintable h range hrange
  omega

theorem isControl_eq_false (h : isPrintable c = true) : isControl c = false := by
  have hlow := not_mem_range_of_isPrintable h (0x0, 0x1f) (by decide +kernel)
  have hhigh := not_mem_range_of_isPrintable h (0x7f, 0xa0) (by decide +kernel)
  simp only [isControl, Bool.or_eq_false_iff, Bool.and_eq_false_iff, decide_eq_false_iff_not]
  omega

theorem isPrintable_of_isDigit (h : c.isDigit = true) : isPrintable c = true := by
  have hdigit : '0'.toNat ≤ c.toNat ∧ c.toNat ≤ '9'.toNat := by
    simpa [Char.isDigit, UInt32.le_iff_toNat_le] using h
  have hzero : '0'.toNat = 0x30 := rfl
  have hnine : '9'.toNat = 0x39 := rfl
  exact isPrintable_of_lt (by omega) (by omega)

theorem isPrintable_digitChar (n : Nat) : isPrintable n.digitChar = true := by
  have hsmall : ∀ n < 16, isPrintable n.digitChar = true := by decide
  by_cases hn : n < 16
  · exact hsmall n hn
  · have hlarge : n.digitChar = '*' := by
      unfold Nat.digitChar
      repeat rw [if_neg (by omega)]
    rw [hlarge]
    decide

end Characters

/-- Whether a text has printable characters only. -/
def AllPrintable (cs : List Char) : Prop := ∀ c ∈ cs, isPrintable c = true

instance (cs : List Char) : Decidable (AllPrintable cs) :=
  decidable_of_iff (cs.all isPrintable = true) List.all_eq_true

/-- Whether a text stays on one line. -/
def OneLine (cs : List Char) : Prop := ∀ c ∈ cs, isLineBreak c = false

instance (cs : List Char) : Decidable (OneLine cs) :=
  decidable_of_iff (cs.all (!isLineBreak ·) = true) (by simp [OneLine])

section Texts

variable {c quote : Char} {cs ds : List Char}

@[simp]
theorem allPrintable_nil : AllPrintable [] := List.forall_mem_nil _

@[simp]
theorem allPrintable_cons : AllPrintable (c :: cs) ↔ isPrintable c = true ∧ AllPrintable cs :=
  List.forall_mem_cons

@[simp]
theorem allPrintable_append : AllPrintable (cs ++ ds) ↔ AllPrintable cs ∧ AllPrintable ds :=
  List.forall_mem_append

@[simp]
theorem oneLine_append : OneLine (cs ++ ds) ↔ OneLine cs ∧ OneLine ds :=
  List.forall_mem_append

theorem AllPrintable.oneLine (h : AllPrintable cs) : OneLine cs :=
  fun c hc => isLineBreak_eq_false (h c hc)

theorem AllPrintable.subset (h : AllPrintable cs) (hsubset : ds ⊆ cs) : AllPrintable ds :=
  fun c hc => h c (hsubset hc)

theorem allPrintable_replicate (n : Nat) (h : isPrintable c = true) :
    AllPrintable (List.replicate n c) := by
  intro d hd
  rw [List.eq_of_mem_replicate hd]
  exact h

theorem allPrintable_flatMap {α : Type} {parts : List α} {f : α → List Char}
    (h : ∀ part ∈ parts, AllPrintable (f part)) : AllPrintable (parts.flatMap f) :=
  List.forall_mem_flatMap.mpr h

theorem allPrintable_intercalate {parts : List (List Char)} (hbetween : AllPrintable ds)
    (h : ∀ part ∈ parts, AllPrintable part) : AllPrintable (ds.intercalate parts) := by
  match parts with
  | [] => simp
  | [part] => simpa using h
  | part :: next :: rest =>
    obtain ⟨hpart, hrest⟩ := List.forall_mem_cons.mp h
    have htail := allPrintable_intercalate hbetween hrest
    rw [List.intercalate_cons_cons]
    simp [hpart, hbetween, htail]

theorem allPrintable_toDigits {base : Nat} (hbase : 1 < base) (n : Nat) :
    AllPrintable (Nat.toDigits base n) := by
  -- The digits of a number are those of its quotient by the base, and one more.
  induction n using Nat.strong_induction_on with
  | _ n ih =>
    by_cases hn : n < base
    · rw [Nat.toDigits_of_lt_base hn]
      simp [isPrintable_digitChar]
    · have hle : base ≤ n := Nat.le_of_not_lt hn
      have hrest := ih (n / base) (Nat.div_lt_self (by omega) hbase)
      rw [Nat.toDigits_of_base_le hbase hle]
      simp [hrest, isPrintable_digitChar]

theorem allPrintable_hexPadded (width n : Nat) : AllPrintable (hexPadded width n) := by
  have hzeros := allPrintable_replicate (width - (Nat.toDigits 16 n).length)
    (show isPrintable '0' = true by decide)
  have hdigits := allPrintable_toDigits (show 1 < 16 by decide) n
  simpa [hexPadded, hzeros] using hdigits

/-- An escape is printable, whatever it stands for. -/
theorem allPrintable_codeEscape (n : Nat) : AllPrintable (codeEscape n) := by
  have hletters : AllPrintable ['\\', 'x', 'u', 'U'] := by decide
  simp only [allPrintable_cons] at hletters
  unfold codeEscape
  split_ifs <;> simp [allPrintable_hexPadded, hletters]

/-- Between quotes every character becomes printable. -/
theorem allPrintable_quoteChar (hquote : isPrintable quote = true) (c : Char) :
    AllPrintable (quoteChar quote c) := by
  have hletters : AllPrintable ['\\', 'n', 'r', 't'] := by decide
  simp only [allPrintable_cons] at hletters
  unfold quoteChar
  -- The cases are a quote or backslash, the three common controls, a printable character, the rest.
  split_ifs with hescaped hn hr ht hc
  · have hself : isPrintable c = true := by
      rcases (by simpa using hescaped : c = quote ∨ c = '\\') with rfl | rfl
      · exact hquote
      · decide
    simp [hself, hletters]
  · simp [hletters]
  · simp [hletters]
  · simp [hletters]
  · simp [hc]
  · exact allPrintable_codeEscape c.toNat

theorem isPrintable_enclosingQuote (cs : List Char) : isPrintable (enclosingQuote cs) = true := by
  unfold enclosingQuote
  split_ifs <;> decide

theorem allPrintable_quoted (cs : List Char) : AllPrintable (quoted cs) := by
  have hquote := isPrintable_enclosingQuote cs
  have hcs : AllPrintable (cs.flatMap (quoteChar (enclosingQuote cs))) :=
    allPrintable_flatMap fun c _ => allPrintable_quoteChar hquote c
  simp [quoted, hquote, hcs]

/-- Surrogates that stand alone are escaped like other characters that are not printable. -/
theorem allPrintable_quotedCodes (codes : List Nat) : AllPrintable (quotedCodes codes) := by
  have hquote := isPrintable_enclosingQuote (codes.filterMap Encoding.charOf?)
  rw [quotedCodes]
  refine allPrintable_cons.mpr ⟨hquote, allPrintable_append.mpr ⟨?_, by simp [hquote]⟩⟩
  refine allPrintable_flatMap fun n _ => ?_
  cases Encoding.charOf? n with
  | some c => exact allPrintable_quoteChar hquote c
  | none => exact allPrintable_codeEscape n

end Texts

end Text

open Text (AllPrintable allPrintable_append allPrintable_cons)

namespace Decimal

theorem AllDigits.allPrintable {digits : List Char} (h : AllDigits digits) :
    AllPrintable digits := fun c hc => Text.isPrintable_of_isDigit (h c hc)

section Layouts

variable {digits : List Char} (allDigits : AllDigits digits)
include allDigits

theorem allPrintable_positional (leading : ℤ) : AllPrintable (positional digits leading) := by
  have hdigits := allDigits.allPrintable
  have hmarks : Text.isPrintable '0' = true ∧ Text.isPrintable '.' = true := by decide
  have hzeros : ∀ n, AllPrintable (List.replicate n '0') := fun n =>
    (allDigits_zeros n).allPrintable
  have hfront := hdigits.subset (List.take_subset (leading.toNat + 1) digits)
  have hback := hdigits.subset (List.drop_subset (leading.toNat + 1) digits)
  unfold positional
  split_ifs with hbelow
  · simp [hmarks, hzeros, hdigits]
  · have htail : AllPrintable (if (digits.drop (leading.toNat + 1)).isEmpty then ['0']
        else digits.drop (leading.toNat + 1)) := by
      split_ifs
      · simp [hmarks]
      · exact hback
    simp only [allPrintable_append, allPrintable_cons]
    exact ⟨⟨hfront, hzeros _⟩, hmarks.2, htail⟩

theorem allPrintable_scientific (leading : ℤ) (width : Nat) :
    AllPrintable (scientific digits leading width) := by
  have hdigits := allDigits.allPrintable
  have hmarks : Text.isPrintable '.' = true ∧ Text.isPrintable 'e' = true := by decide
  have hfront := hdigits.subset (List.take_subset 1 digits)
  have hback := hdigits.subset (List.drop_subset 1 digits)
  have hpoint : AllPrintable (if digits.length ≤ 1 then [] else '.' :: digits.drop 1) := by
    split_ifs
    · exact Text.allPrintable_nil
    · exact allPrintable_cons.mpr ⟨hmarks.1, hback⟩
  have hsign : Text.isPrintable (if leading < 0 then '-' else '+') = true := by
    split_ifs <;> decide
  have hzeros := (allDigits_zeros (width - (Nat.toDigits 10 leading.natAbs).length)).allPrintable
  have hpower := (allDigits_toDigits leading.natAbs).allPrintable
  simp only [scientific, allPrintable_append, allPrintable_cons]
  exact ⟨⟨hfront, hpoint⟩, hmarks.2, hsign, hzeros, hpower⟩

end Layouts

theorem allPrintable_render (style : Notation) (d : Decimal) : AllPrintable (d.render style) := by
  have hdigits := d.allDigits_significant
  unfold render
  split_ifs
  · exact allPrintable_positional hdigits d.leading
  · exact allPrintable_scientific hdigits d.leading style.exponentWidth

end Decimal

theorem Binary64.allPrintable_render (style : Notation) (x : Binary64) :
    AllPrintable (x.render style) := by
  have hwords : ∀ word ∈ ["nan", "inf", "0.0"], AllPrintable word.toList := by decide
  have hsign : AllPrintable (if x.negative then ['-'] else []) := by
    split_ifs <;> decide
  have hshortest := x.shortest.allPrintable_render style
  dsimp only [render]
  generalize (if x.negative then ['-'] else []) = sign at hsign ⊢
  split_ifs with hnan hinfinite hzero
  · exact hwords "nan" (by decide)
  · exact allPrintable_append.mpr ⟨hsign, hwords "inf" (by decide)⟩
  · exact allPrintable_append.mpr ⟨hsign, hwords "0.0" (by decide)⟩
  · exact allPrintable_append.mpr ⟨hsign, hshortest⟩

namespace Value

theorem allPrintable_intText (n : ℤ) : AllPrintable (intText n) := by
  have hdigits := (Decimal.allDigits_toDigits n.natAbs).allPrintable
  have hsign : AllPrintable (if n < 0 then ['-'] else []) := by
    split_ifs <;> decide
  exact allPrintable_append.mpr ⟨hsign, hdigits⟩

theorem allPrintable_literalName (name : Name) : AllPrintable (literalName name) := by
  cases name with
  | text s => exact Text.allPrintable_quoted s.toList
  | unpaired u => exact Text.allPrintable_quotedCodes u.codes

theorem allPrintable_comma {cs : List Char} :
    AllPrintable (',' :: ' ' :: cs) ↔ AllPrintable cs := by
  have hmarks : Text.isPrintable ',' = true ∧ Text.isPrintable ' ' = true := by decide
  simp [hmarks]

theorem allPrintable_colon {cs : List Char} :
    AllPrintable (':' :: ' ' :: cs) ↔ AllPrintable cs := by
  have hmarks : Text.isPrintable ':' = true ∧ Text.isPrintable ' ' = true := by decide
  simp [hmarks]

mutual

/-- The literal text of a value is printable, whatever texts are in it. -/
theorem allPrintable_literal (v : Value) : AllPrintable v.literal := by
  match v with
  | .null => decide
  | .bool b => cases b <;> decide
  | .int n => exact allPrintable_intText n
  | .float x => exact x.allPrintable_render numberNotation
  | .text s => exact Text.allPrintable_quoted s.toList
  | .unpaired u => exact Text.allPrintable_quotedCodes u.codes
  | .list items =>
    have hmarks : Text.isPrintable '[' = true ∧ Text.isPrintable ']' = true := by decide
    simp [literal, hmarks, allPrintable_literalItems items]
  | .object fields =>
    have hmarks : Text.isPrintable '\x7b' = true ∧ Text.isPrintable '\x7d' = true := by decide
    simp [literal, hmarks, allPrintable_literalFields fields]

theorem allPrintable_literalItems (items : List Value) : AllPrintable (literalItems items) := by
  match items with
  | [] => exact Text.allPrintable_nil
  | [v] => exact allPrintable_literal v
  | v :: w :: rest =>
    rw [literalItems, allPrintable_append, allPrintable_comma]
    exact ⟨allPrintable_literal v, allPrintable_literalItems (w :: rest)⟩

theorem allPrintable_literalFields (fields : List (Name × Value)) :
    AllPrintable (literalFields fields) := by
  match fields with
  | [] => exact Text.allPrintable_nil
  | [(name, v)] =>
    rw [literalFields, allPrintable_append, allPrintable_colon]
    exact ⟨allPrintable_literalName name, allPrintable_literal v⟩
  | (name, v) :: field :: rest =>
    rw [literalFields, allPrintable_append, allPrintable_colon, allPrintable_append,
      allPrintable_comma]
    exact ⟨allPrintable_literalName name, allPrintable_literal v,
      allPrintable_literalFields (field :: rest)⟩

end

end Value

end SearchAnnotation
