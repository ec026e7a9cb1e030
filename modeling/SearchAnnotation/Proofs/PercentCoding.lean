import Mathlib.Tactic.IntervalCases
import SearchAnnotation.Text.Percent

/-!
# Percent coding read back

A text that was coded with percent signs is read back as it was, whatever its characters are and
whichever of them stayed uncoded, as long as the percent sign itself is coded. This rests on two
round trips: the octets of a text are decoded to its characters, and the two digits of an escape
are read as its octet.
-/

namespace SearchAnnotation

namespace Encoding

variable {b : UInt8} {c : Char} {p : Partial} {rest : List UInt8}

/-- An octet that is a whole character. -/
theorem utf8From_whole (h : lead b.toNat = .whole c) :
    utf8From none (b :: rest) = some c :: utf8From none rest := by
  simp only [utf8From, h]

/-- An octet that begins a character. -/
theorem utf8From_begun (h : lead b.toNat = .begun p) :
    utf8From none (b :: rest) = utf8From (some p) rest := by
  simp only [utf8From, h]

/-- An octet that continues a character but does not finish it. -/
theorem utf8From_more {owed low high bits : Nat} (hl : low ≤ b.toNat) (hh : b.toNat ≤ high) :
    utf8From (some ⟨owed + 1, low, high, bits⟩) (b :: rest) =
      utf8From (some ⟨owed, 0x80, 0xbf, bits * 64 + (b.toNat - 0x80)⟩) rest := by
  simp only [utf8From, hl, hh, decide_true, Bool.and_self, if_true]

/-- An octet that finishes a character. -/
theorem utf8From_last {low high bits : Nat} (hl : low ≤ b.toNat) (hh : b.toNat ≤ high) :
    utf8From (some ⟨0, low, high, bits⟩) (b :: rest) =
      some (Char.ofNat (bits * 64 + (b.toNat - 0x80))) :: utf8From none rest := by
  simp only [utf8From, hl, hh, decide_true, Bool.and_self, if_true]

theorem toNat_ofNat_octet {n : Nat} (h : n < 256) : (UInt8.ofNat n).toNat = n := by
  rw [UInt8.toNat_ofNat', Nat.mod_eq_of_lt h]

theorem lead_of_one {n : Nat} (h : n < 0x80) : lead n = .whole (Char.ofNat n) := if_pos h

theorem lead_of_two {n : Nat} (hl : 0xc2 ≤ n) (hh : n < 0xe0) :
    lead n = .begun ⟨0, 0x80, 0xbf, n - 0xc0⟩ := by
  rw [lead, if_neg (by omega), if_neg (by omega), if_pos hh]

/-- The second of three octets has bounds of its own after the first and after the surrogates'. -/
theorem lead_of_three {n : Nat} (hl : 0xe0 ≤ n) (hh : n < 0xf0) :
    lead n = .begun ⟨1, if n = 0xe0 then 0xa0 else 0x80, if n = 0xed then 0x9f else 0xbf,
      n - 0xe0⟩ := by
  interval_cases n <;> rfl

/-- The second of four octets has bounds of its own after the first and after the last. -/
theorem lead_of_four {n : Nat} (hl : 0xf0 ≤ n) (hh : n < 0xf5) :
    lead n = .begun ⟨2, if n = 0xf0 then 0x90 else 0x80, if n = 0xf4 then 0x8f else 0xbf,
      n - 0xf0⟩ := by
  interval_cases n <;> rfl

/-- The code point of a character is no surrogate and not too large. -/
theorem toNat_bounds (c : Char) : c.toNat < 0xd800 ∨ 0xdfff < c.toNat ∧ c.toNat < 0x110000 :=
  c.valid

/-- The six bits that an octet after the first carries. -/
theorem toNat_bits (n : Nat) : (UInt8.ofNat (n % 64 + 128)).toNat = n % 64 + 128 :=
  toNat_ofNat_octet (by omega)

/-- The octets of a code point that takes two. -/
theorem utf8From_two {n : Nat} (hl : 0x7f < n) (hh : n ≤ 0x7ff) (rest : List UInt8) :
    utf8From none (.ofNat (n / 64 % 32 + 192) :: .ofNat (n % 64 + 128) :: rest) =
      some (Char.ofNat n) :: utf8From none rest := by
  have hlead : (UInt8.ofNat (n / 64 % 32 + 192)).toNat = n / 64 % 32 + 192 :=
    toNat_ofNat_octet (by omega)
  have hlast := toNat_bits n
  rw [utf8From_begun (by rw [hlead, lead_of_two (by omega) (by omega)]),
    utf8From_last (by omega) (by omega), hlast,
    show (n / 64 % 32 + 192 - 0xc0) * 64 + (n % 64 + 128 - 0x80) = n by omega]

/-- The octets of a code point that takes three. -/
theorem utf8From_three {n : Nat} (hl : 0x7ff < n) (hh : n ≤ 0xffff)
    (hvalid : n < 0xd800 ∨ 0xdfff < n) (rest : List UInt8) :
    utf8From none (.ofNat (n / 4096 % 16 + 224) :: .ofNat (n / 64 % 64 + 128) ::
        .ofNat (n % 64 + 128) :: rest) =
      some (Char.ofNat n) :: utf8From none rest := by
  have hlead : (UInt8.ofNat (n / 4096 % 16 + 224)).toNat = n / 4096 % 16 + 224 :=
    toNat_ofNat_octet (by omega)
  have hsecond := toNat_bits (n / 64)
  have hlast := toNat_bits n
  rw [utf8From_begun (by rw [hlead, lead_of_three (by omega) (by omega)]),
    utf8From_more (by rw [hsecond]; split <;> omega) (by rw [hsecond]; split <;> omega),
    utf8From_last (by omega) (by omega), hlast, hsecond,
    show ((n / 4096 % 16 + 224 - 0xe0) * 64 + (n / 64 % 64 + 128 - 0x80)) * 64 +
      (n % 64 + 128 - 0x80) = n by omega]

/-- The octets of a code point that takes four. -/
theorem utf8From_four {n : Nat} (hl : 0xffff < n) (hh : n < 0x110000) (rest : List UInt8) :
    utf8From none (.ofNat (n / 262144 % 8 + 240) :: .ofNat (n / 4096 % 64 + 128) ::
        .ofNat (n / 64 % 64 + 128) :: .ofNat (n % 64 + 128) :: rest) =
      some (Char.ofNat n) :: utf8From none rest := by
  have hlead : (UInt8.ofNat (n / 262144 % 8 + 240)).toNat = n / 262144 % 8 + 240 :=
    toNat_ofNat_octet (by omega)
  have hsecond := toNat_bits (n / 4096)
  have hthird := toNat_bits (n / 64)
  have hlast := toNat_bits n
  rw [utf8From_begun (by rw [hlead, lead_of_four (by omega) (by omega)]),
    utf8From_more (by rw [hsecond]; split <;> omega) (by rw [hsecond]; split <;> omega),
    utf8From_more (by omega) (by omega), utf8From_last (by omega) (by omega), hlast, hthird,
    hsecond,
    show (((n / 262144 % 8 + 240 - 0xf0) * 64 + (n / 4096 % 64 + 128 - 0x80)) * 64 +
      (n / 64 % 64 + 128 - 0x80)) * 64 + (n % 64 + 128 - 0x80) = n by omega]

/-- The octets of a character are decoded to it. -/
theorem utf8From_utf8EncodeChar (c : Char) (rest : List UInt8) :
    utf8From none (String.utf8EncodeChar c ++ rest) = some c :: utf8From none rest := by
  have hvalid := toNat_bounds c
  have hback : Char.ofNat c.toNat = c := Char.ofNat_toNat c
  unfold String.utf8EncodeChar
  change utf8From none ((if c.toNat ≤ 127 then _ else _) ++ rest) = _
  rw [show c.val.toNat = c.toNat from rfl]
  generalize c.toNat = n at hvalid hback
  rw [← hback]
  split
  · next hone =>
    have hlead : (UInt8.ofNat n).toNat = n := toNat_ofNat_octet (by omega)
    exact utf8From_whole (by rw [hlead, lead_of_one (by omega)])
  split
  · exact utf8From_two (by omega) (by omega) rest
  split
  · exact utf8From_three (by omega) (by omega) (by omega) rest
  · exact utf8From_four (by omega) (by omega) rest

/-- The octets of a text are decoded to its characters. -/
theorem utf8_toUtf8 (cs : List Char) : utf8 (toUtf8 cs) = cs.map some := by
  unfold utf8 toUtf8
  induction cs with
  | nil => rfl
  | cons c rest ih => rw [List.flatMap_cons, utf8From_utf8EncodeChar, ih, List.map_cons]

/-- No character of a text is lost. -/
theorem lossy_utf8_toUtf8 (cs : List Char) : lossy (utf8 (toUtf8 cs)) = cs := by
  rw [utf8_toUtf8, lossy, List.map_map]
  exact List.map_id cs

theorem toUtf8_singleton (c : Char) : toUtf8 [c] = String.utf8EncodeChar c :=
  List.flatMap_singleton ..

theorem toUtf8_append (front back : List Char) :
    toUtf8 (front ++ back) = toUtf8 front ++ toUtf8 back := List.flatMap_append

end Encoding

namespace Text

variable {safe : Char → Bool} {rest : List Char}

/-- The digit of a number below sixteen has its value. -/
theorem hexDigit?_upperHexDigit {n : Nat} (h : n < 16) :
    Json.hexDigit? (upperHexDigit n) = some n := by
  interval_cases n <;> rfl

/-- An escape is read as its octet. -/
theorem percentOctets_percentOctet (b : UInt8) (rest : List Char) :
    percentOctets (percentOctet b ++ rest) = b :: percentOctets rest := by
  have hlt : b.toNat < 256 := b.toNat_lt
  have hwhole : b.toNat / 16 * 16 + b.toNat % 16 = b.toNat := by omega
  simp only [percentOctet, List.cons_append, List.nil_append, percentOctets,
    hexDigit?_upperHexDigit (show b.toNat / 16 < 16 by omega),
    hexDigit?_upperHexDigit (show b.toNat % 16 < 16 by omega), hwhole, UInt8.ofNat_toNat]

/-- Escapes are read as their octets. -/
theorem percentOctets_flatMap (octets : List UInt8) (rest : List Char) :
    percentOctets (octets.flatMap percentOctet ++ rest) = octets ++ percentOctets rest := by
  induction octets with
  | nil => rfl
  | cons b more ih =>
    rw [List.flatMap_cons, List.append_assoc, percentOctets_percentOctet, ih, List.cons_append]

/-- A character that starts no escape stands for itself. -/
theorem percentOctets_cons {c : Char} (h : c ≠ '%') (rest : List Char) :
    percentOctets (c :: rest) = Encoding.toUtf8 [c] ++ percentOctets rest := by
  rw [percentOctets]
  rintro a b more rfl
  exact fun _ => h rfl

/-- A text without percent signs stands for itself. -/
theorem percentOctets_append {plain : List Char} (h : '%' ∉ plain) (rest : List Char) :
    percentOctets (plain ++ rest) = Encoding.toUtf8 plain ++ percentOctets rest := by
  induction plain with
  | nil => rfl
  | cons c more ih =>
    rw [List.mem_cons, not_or] at h
    rw [List.cons_append, percentOctets_cons (Ne.symm h.1), ih h.2, ← List.append_assoc,
      ← Encoding.toUtf8_append, List.singleton_append]

/-- A coded text stands for its octets, if percent signs are coded. -/
theorem percentOctets_percentEncode (h : safe '%' = false) (cs rest : List Char) :
    percentOctets (percentEncode safe cs ++ rest) = Encoding.toUtf8 cs ++ percentOctets rest := by
  induction cs with
  | nil => rfl
  | cons c more ih =>
    rw [percentEncode, List.flatMap_cons, ← percentEncode, List.append_assoc,
      show c :: more = [c] ++ more from rfl, Encoding.toUtf8_append, List.append_assoc]
    by_cases hsafe : safe c = true
    · have hc : c ≠ '%' := by
        rintro rfl
        rw [h] at hsafe
        cases hsafe
      rw [if_pos hsafe, List.singleton_append, percentOctets_cons hc, ih]
    · rw [if_neg hsafe, percentOctets_flatMap, ih, Encoding.toUtf8_singleton]

/-- A coded text between texts without percent signs is read back as it was. -/
theorem percentDecode_percentEncode_between (h : safe '%' = false) {front back : List Char}
    (hfront : '%' ∉ front) (hback : '%' ∉ back) (cs : List Char) :
    percentDecode (front ++ percentEncode safe cs ++ back) = front ++ cs ++ back := by
  have hend : percentOctets back = Encoding.toUtf8 back := by
    have happend := percentOctets_append hback []
    rwa [List.append_nil, percentOctets, List.append_nil] at happend
  rw [percentDecode, List.append_assoc, percentOctets_append hfront,
    percentOctets_percentEncode h, hend, ← Encoding.toUtf8_append, ← Encoding.toUtf8_append,
    Encoding.lossy_utf8_toUtf8, List.append_assoc]

example : percentDecode (percentEncode isUnreserved "é/%2F".toList) = "é/%2F".toList := by
  decide +kernel

end Text

end SearchAnnotation
