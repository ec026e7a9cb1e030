import SearchAnnotation.Proofs.BuiltResults
import SearchAnnotation.Proofs.DecimalTexts
import SearchAnnotation.Proofs.KeyAgreement

/-!
# Texts of keys

A key that is no string is shown as a word or as a number: null and the truth values as words that
begin with a capital letter, whole numbers as digits with a sign, and binary64 numbers with some
further character among their digits. So two of these keys with one text are the same, undefined
numbers aside. The text of a string, though, can be that of any other key.
-/

namespace SearchAnnotation

/-- Whether a character is neither a digit nor a sign of a number. -/
def isForeign (c : Char) : Bool := !c.isDigit && c != '-'

theorem not_isUpper_of_isDigit {c : Char} (h : c.isDigit = true) : c.isUpper = false := by
  simp only [Char.isDigit, Bool.and_eq_true, decide_eq_true_eq, UInt32.le_iff_toNat_le] at h
  have hnine : '9'.val.toNat = 57 := rfl
  have hfirst : 'A'.val.toNat = 65 := rfl
  have hbelow : ¬ 'A'.val ≤ c.val := by
    rw [UInt32.le_iff_toNat_le]
    omega
  exact decide_eq_false fun hupper => hbelow hupper.1

namespace Binary64

variable {x y : Binary64} {style : Notation}

/-- Whether a number is defined or the one undefined number that has a name. -/
def IsPlain (x : Binary64) : Prop := x.isNaN = true → x = nan

/-- The text of a decimal has a point or an exponent. -/
theorem exists_foreign_of_decimal (style : Notation) (d : Decimal) :
    ∃ c ∈ d.render style, isForeign c = true := by
  unfold Decimal.render
  split
  · refine ⟨'.', ?_, rfl⟩
    unfold Decimal.positional
    split
    · exact List.mem_cons_of_mem _ List.mem_cons_self
    · exact List.mem_append_right _ List.mem_cons_self
  · exact ⟨'e', List.mem_append_right _ List.mem_cons_self, rfl⟩

theorem exists_foreign_of_unsigned (style : Notation) (x : Binary64) :
    ∃ c ∈ x.unsignedText style, isForeign c = true := by
  unfold unsignedText
  split
  · exact ⟨'i', List.mem_cons_self, rfl⟩
  · split
    · exact ⟨'.', List.mem_cons_of_mem _ List.mem_cons_self, rfl⟩
    · exact exists_foreign_of_decimal style x.shortest

/-- The text of a number has some character besides digits and its sign. -/
theorem exists_foreign (style : Notation) (x : Binary64) :
    ∃ c ∈ x.render style, isForeign c = true := by
  cases hnan : x.isNaN with
  | true => exact ⟨'n', render_of_isNaN style hnan ▸ List.mem_cons_self, rfl⟩
  | false =>
    obtain ⟨c, hc, hforeign⟩ := exists_foreign_of_unsigned style x
    exact ⟨c, render_eq style hnan ▸ List.mem_append_right _ hc, hforeign⟩

/-- The text of a defined number begins with a digit, a sign or the letter of infinity. -/
theorem head_render (style : Notation) (defined : x.isNaN = false) :
    ∃ c rest, x.render style = c :: rest ∧ (c.isDigit = true ∨ c = '-' ∨ c = 'i') := by
  rw [render_eq style defined]
  split
  · exact ⟨'-', _, rfl, .inr (.inl rfl)⟩
  · unfold unsignedText
    cases hfinite : x.isFinite with
    | false => exact ⟨'i', _, rfl, .inr (.inr rfl)⟩
    | true =>
      cases hzero : x.isZero with
      | true => exact ⟨'0', _, rfl, .inl rfl⟩
      | false =>
        obtain ⟨c, rest, htext, hdigit⟩ :=
          Decimal.render_eq_cons style (shortest_digits_pos hfinite hzero)
        exact ⟨c, rest, htext, .inl hdigit⟩

/-- The text of a number begins with no capital letter. -/
theorem head_render_not_isUpper (style : Notation) (x : Binary64) :
    ∃ c rest, x.render style = c :: rest ∧ c.isUpper = false := by
  cases hnan : x.isNaN with
  | true => exact ⟨'n', _, render_of_isNaN style hnan, rfl⟩
  | false =>
    obtain ⟨c, rest, htext, hdigit | rfl | rfl⟩ := head_render style hnan
    · exact ⟨c, rest, htext, not_isUpper_of_isDigit hdigit⟩
    · exact ⟨'-', rest, htext, rfl⟩
    · exact ⟨'i', rest, htext, rfl⟩

/-- No defined number has the text of the undefined ones. -/
theorem isNaN_eq_of_render (h : x.render style = y.render style) : x.isNaN = y.isNaN := by
  have hne : ∀ {x y : Binary64}, x.isNaN = true → y.isNaN = false →
      x.render style ≠ y.render style := by
    intro x y hx hy htext
    obtain ⟨c, rest, hcons, hc⟩ := head_render style hy
    rw [render_of_isNaN style hx, hcons] at htext
    rw [← (List.cons.inj htext).1] at hc
    revert hc
    decide
  cases hx : x.isNaN <;> cases hy : y.isNaN
  · rfl
  · exact absurd h.symm (hne hy hx)
  · exact absurd h (hne hx hy)
  · rfl

/-- Plain numbers with one text are the same. -/
theorem eq_of_render_of_isPlain (hx : x.IsPlain) (hy : y.IsPlain)
    (h : x.render style = y.render style) : x = y := by
  have hsame := isNaN_eq_of_render h
  cases hyn : y.isNaN with
  | true => rw [hx (hsame.trans hyn), hy hyn]
  | false => exact eq_of_render (hsame.trans hyn) hyn h

end Binary64

namespace Value

variable {a b : Value} {x y : Binary64} {m n : Int}

theorem not_isForeign_of_mem_intText {c : Char} (h : c ∈ intText n) : isForeign c = false := by
  have hdigits : ∀ c ∈ Nat.toDigits 10 n.natAbs, isForeign c = false := by
    intro c hc
    rw [isForeign, Decimal.allDigits_toDigits _ c hc, Bool.not_true, Bool.false_and]
  rcases List.mem_append.mp h with h | h
  · split at h
    · rw [List.mem_singleton.mp h]
      rfl
    · cases h
  · exact hdigits c h

/-- Whole numbers with one text are the same. -/
theorem intText_injective (h : intText m = intText n) : m = n := by
  have hhead : ∀ {n : Nat} {rest : List Char}, Nat.toDigits 10 n ≠ '-' :: rest := by
    intro n rest h
    exact absurd (Decimal.allDigits_toDigits n '-' (h ▸ List.mem_cons_self)) (by decide)
  have habs : ∀ {j k : Nat}, Nat.toDigits 10 j = Nat.toDigits 10 k → j = k := by
    intro j k h
    rw [← Nat.ofDigitChars_ten_toDigits (n := j), h, Nat.ofDigitChars_ten_toDigits]
  unfold intText at h
  split at h <;> split at h
  · have hsame := habs (List.append_cancel_left h)
    omega
  · exact absurd h.symm hhead
  · exact absurd h hhead
  · have hsame := habs h
    omega

/-- Null and the truth values. -/
def isWord : Value → Bool
  | .null => true
  | .bool _ => true
  | _ => false

theorem display_of_isWord (h : a.isWord = true) :
    ∃ c rest, a.display = c :: rest ∧ c.isUpper = true ∧ isForeign c = true := by
  cases a with
  | null => exact ⟨'N', _, rfl, rfl, rfl⟩
  | bool b => cases b with
    | true => exact ⟨'T', _, rfl, rfl, rfl⟩
    | false => exact ⟨'F', _, rfl, rfl, rfl⟩
  | _ => cases h

theorem display_ne_intText (h : a.isWord = true) : a.display ≠ intText n := by
  intro htext
  obtain ⟨c, rest, hcons, -, hforeign⟩ := display_of_isWord h
  rw [not_isForeign_of_mem_intText (htext ▸ hcons ▸ List.mem_cons_self)] at hforeign
  cases hforeign

theorem display_ne_render (h : a.isWord = true) : a.display ≠ x.render numberNotation := by
  intro htext
  obtain ⟨c, rest, hcons, hupper, -⟩ := display_of_isWord h
  obtain ⟨c', rest', hcons', hlower⟩ := x.head_render_not_isUpper numberNotation
  rw [hcons, hcons'] at htext
  rw [(List.cons.inj htext).1, hlower] at hupper
  cases hupper

theorem intText_ne_render : intText n ≠ x.render numberNotation := by
  intro htext
  obtain ⟨c, hc, hforeign⟩ := x.exists_foreign numberNotation
  rw [not_isForeign_of_mem_intText (htext ▸ hc)] at hforeign
  cases hforeign

theorem eq_of_display_of_isWord (ha : a.isWord = true) (hb : b.isWord = true)
    (h : a.display = b.display) : a = b := by
  cases a with
  | null => cases b with
    | null => rfl
    | bool d => cases d <;> cases h
    | _ => cases hb
  | bool c => cases b with
    | null => cases c <;> cases h
    | bool d => cases c <;> cases d <;> first | rfl | cases h
    | _ => cases hb
  | _ => cases ha

/-- Keys that are no strings are words, whole numbers or binary64 numbers. -/
theorem isWord_or_number (ha : a.isKey = true) (has : a.isString = false) :
    a.isWord = true ∨ (∃ n, a = .int n) ∨ ∃ x, a = .float x := by
  cases a with
  | null => exact .inl rfl
  | bool b => exact .inl rfl
  | int n => exact .inr (.inl ⟨n, rfl⟩)
  | float x => exact .inr (.inr ⟨x, rfl⟩)
  | text s => cases has
  | unpaired codes => cases has
  | list items => cases ha
  | object fields => cases ha

/-- Whether a value is no number or a plain one. -/
def IsPlain (v : Value) : Prop := ∀ x, v = .float x → x.IsPlain

/-- Plain keys that are no strings and have one text are the same. -/
theorem eq_of_display (ha : a.isKey = true) (hb : b.isKey = true) (has : a.isString = false)
    (hbs : b.isString = false) (hap : a.IsPlain) (hbp : b.IsPlain) (h : a.display = b.display) :
    a = b := by
  rcases isWord_or_number ha has with ha | ⟨m, rfl⟩ | ⟨x, rfl⟩ <;>
    rcases isWord_or_number hb hbs with hb | ⟨n, rfl⟩ | ⟨y, rfl⟩
  · exact eq_of_display_of_isWord ha hb h
  · exact absurd h (display_ne_intText ha)
  · exact absurd h (display_ne_render ha)
  · exact absurd h.symm (display_ne_intText hb)
  · rw [intText_injective h]
  · exact absurd h intText_ne_render
  · exact absurd h.symm (display_ne_render hb)
  · exact absurd h.symm intText_ne_render
  · rw [Binary64.eq_of_render_of_isPlain (hap x rfl) (hbp y rfl) h]

end Value

end SearchAnnotation
