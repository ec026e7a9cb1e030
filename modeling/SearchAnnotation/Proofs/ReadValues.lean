import Mathlib.Data.Nat.Digits.Defs
import SearchAnnotation.Json.Octets
import SearchAnnotation.Proofs.Outcomes
import SearchAnnotation.Proofs.VisibleFields
import SearchAnnotation.Proofs.WrittenValues

/-!
# Values that were read can be written

The reader takes no whole number of more digits than the printer writes, and its code points are
below the end of the code space as long as those of its text are, as they are when octets were
decoded. So whatever octets spell has a JSON text, and so has the document of a webpage that is made
of it.
-/

namespace SearchAnnotation.Json

variable {cs rest : List Sign} {codes found : List Nat} {waiting : Bool} {n : Nat} {v : Value}
  {items : List Value} {fields : List (Name × Value)}

theorem isWritableItems_iff : isWritableItems items = true ↔ ∀ v ∈ items, isWritable v = true := by
  induction items with
  | nil => exact iff_of_true rfl (List.forall_mem_nil _)
  | cons v rest ih => rw [isWritableItems, Bool.and_eq_true, List.forall_mem_cons, ih]

theorem isWritableFields_iff : isWritableFields fields = true ↔
    ∀ field ∈ fields, inCodeSpace field.1.codes = true ∧ isWritable field.2 = true := by
  induction fields with
  | nil => exact iff_of_true rfl (List.forall_mem_nil _)
  | cons field rest ih =>
    rw [isWritableFields, Bool.and_eq_true, Bool.and_eq_true, List.forall_mem_cons, ih]

theorem inCodeSpace_iff : inCodeSpace codes = true ↔ ∀ n ∈ codes, n < 0x110000 := by
  simp [inCodeSpace]

/-- A value made of code points can be written if these are in the code space. -/
theorem isWritable_ofCodes (space : inCodeSpace codes = true) :
    isWritable (.ofCodes codes) = true := by
  have hcodes : (Name.ofCodes codes).codes = codes := Name.codes_ofCodes codes
  rw [Value.ofCodes]
  cases hname : Name.ofCodes codes with
  | text s => rfl
  | unpaired u =>
    rw [hname] at hcodes
    have hsame : u.codes = codes := hcodes
    rw [Value.ofName, isWritable, hsame, space]

/-- Whether the code points of signs are below the end of the code space. -/
def InSpace (cs : List Sign) : Prop := ∀ s ∈ cs, s.code < 0x110000

theorem InSpace.of_suffix (h : InSpace cs) (hrest : rest <:+ cs) : InSpace rest :=
  fun s hs => h s (hrest.subset hs)

theorem skip_suffix (cs : List Sign) : skip cs <:+ cs := List.dropWhile_suffix _

/-- The place of a character in a range is at most that of the last one. -/
theorem place_le {c low high : Char} (h : (decide (low ≤ c) && decide (c ≤ high)) = true) :
    c.toNat - low.toNat ≤ high.toNat - low.toNat := by
  rw [Bool.and_eq_true, decide_eq_true_eq, decide_eq_true_eq] at h
  exact Nat.sub_le_sub_right h.2 _

theorem digit_le {c : Char} (h : isDigit c = true) : c.toNat - '0'.toNat ≤ 9 := place_le h

theorem hexDigit?_lt {c : Char} (h : hexDigit? c = some n) : n < 16 := by
  unfold hexDigit? at h
  split_ifs at h with hdigit hlower hupper
  · have hplace : c.toNat - '0'.toNat ≤ 9 := place_le hdigit
    have hn := Option.some.inj h
    omega
  · have hplace : c.toNat - 'a'.toNat ≤ 5 := place_le hlower
    have hn := Option.some.inj h
    omega
  · have hplace : c.toNat - 'A'.toNat ≤ 5 := place_le hupper
    have hn := Option.some.inj h
    omega

theorem hex?_lt {s : Sign} (h : s.hex? = some n) : n < 16 := by
  obtain ⟨c, -, hc⟩ := Option.bind_eq_some_iff.mp h
  exact hexDigit?_lt hc

theorem hexQuad?_lt {a b c d : Sign} (h : hexQuad? a b c d = some n) : n < 0x10000 := by
  simp only [hexQuad?, Option.bind_eq_bind, Option.bind_eq_some_iff, Option.pure_def,
    Option.some.injEq] at h
  obtain ⟨a', ha, b', hb, c', hc, d', hd, rfl⟩ := h
  have ha := hex?_lt ha
  have hb := hex?_lt hb
  have hc := hex?_lt hc
  have hd := hex?_lt hd
  omega

/-- What holds of code points that were read so far: they are in the code space, and one that waits
for its partner is a leading surrogate. -/
structure Gathered (waiting : Bool) (codes : List Nat) : Prop where
  /-- The code points are in the code space. -/
  space : ∀ n ∈ codes, n < 0x110000
  /-- The last one is a leading surrogate if it waits. -/
  leading : waiting = true → ∀ high ∈ codes.head?, Encoding.isHigh high = true

theorem Gathered.cons (h : Gathered waiting codes) (hn : n < 0x110000) :
    Gathered false (n :: codes) where
  space := List.forall_mem_cons.mpr ⟨hn, h.space⟩
  leading hfalse := absurd hfalse Bool.false_ne_true

theorem Gathered.addUnit (h : Gathered waiting codes) (hn : n < 0x10000) :
    Gathered (addUnit waiting n codes).1 (addUnit waiting n codes).2 := by
  have hspace : n < 0x110000 := by omega
  have halone : Gathered (Encoding.isHigh n) (n :: codes) := by
    refine ⟨List.forall_mem_cons.mpr ⟨hspace, h.space⟩, fun hhigh high hm => ?_⟩
    obtain rfl : n = high := Option.some.inj hm
    exact hhigh
  unfold Json.addUnit
  cases codes with
  | nil => exact halone
  | cons high rest =>
    dsimp only
    split
    · next hpair =>
      rw [Bool.and_eq_true] at hpair
      have hhigh := h.leading hpair.1 high rfl
      have hlow := hpair.2
      simp only [Encoding.isHigh, Encoding.isLow, Bool.and_eq_true, decide_eq_true_eq] at hhigh hlow
      have hcode : Encoding.pairCode high n < 0x110000 := by
        unfold Encoding.pairCode
        omega
      have hrest : ∀ n ∈ rest, n < 0x110000 := (List.forall_mem_cons.mp h.space).2
      exact ⟨List.forall_mem_cons.mpr ⟨hcode, hrest⟩,
        fun hfalse => absurd hfalse Bool.false_ne_true⟩
    · exact halone

/-- A text that is read has code points in the code space, and what follows is an end of the
whole. -/
theorem readCodesFrom_sound (h : readCodesFrom cs waiting codes = some (found, rest))
    (space : InSpace cs) (gathered : Gathered waiting codes) :
    inCodeSpace found = true ∧ rest <:+ cs := by
  fun_induction readCodesFrom cs waiting codes with
  | case1 tail waiting codes =>
    cases h
    have hspace : ∀ n ∈ codes.reverse, n < 0x110000 := fun n hn =>
      gathered.space n (List.mem_reverse.mp hn)
    exact ⟨inCodeSpace_iff.mpr hspace, List.suffix_cons _ _⟩
  | case2 a b c d tail waiting codes n hquad ih =>
    have htail : tail <:+ .char '\\' :: .char 'u' :: a :: b :: c :: d :: tail :=
      ⟨[.char '\\', .char 'u', a, b, c, d], rfl⟩
    obtain ⟨hfound, hrest⟩ := ih h (space.of_suffix htail) (gathered.addUnit (hexQuad?_lt hquad))
    exact ⟨hfound, hrest.trans htail⟩
  | case3 => cases h
  | case4 c tail waiting codes _ e hescape ih =>
    have htail : tail <:+ .char '\\' :: c :: tail := ⟨[.char '\\', c], rfl⟩
    obtain ⟨hfound, hrest⟩ := ih h (space.of_suffix htail) (gathered.cons (Encoding.toNat_lt e))
    exact ⟨hfound, hrest.trans htail⟩
  | case5 => cases h
  | case6 => cases h
  | case7 => cases h
  | case8 s tail waiting codes _ _ _ _ _ ih =>
    have htail : tail <:+ s :: tail := List.suffix_cons _ _
    obtain ⟨hfound, hrest⟩ :=
      ih h (space.of_suffix htail) (gathered.cons (space s List.mem_cons_self))
    exact ⟨hfound, hrest.trans htail⟩
  | case9 => cases h

/-- What is known of a value that was read at the start of a text, and of what follows. -/
structure ReadFrom (cs : List Sign) (v : Value) (rest : List Sign) : Prop where
  /-- The value can be written. -/
  writable : isWritable v = true
  /-- What follows is an end of the text. -/
  suffix : rest <:+ cs

theorem ReadFrom.of_suffix {tail : List Sign} (h : ReadFrom tail v rest) (htail : tail <:+ cs) :
    ReadFrom cs v rest :=
  ⟨h.writable, h.suffix.trans htail⟩

theorem readString_sound (h : readCodes cs = some (found, rest)) (space : InSpace cs) :
    inCodeSpace found = true ∧ rest <:+ cs :=
  readCodesFrom_sound h space ⟨List.forall_mem_nil _, fun _ high hm => absurd hm (by simp)⟩

theorem natOf_lt (digits : List Char) (h : ∀ c ∈ digits, isDigit c = true) :
    natOf digits < 10 ^ digits.length := by
  have hfold : ∀ (digits : List Char) (n : Nat), (∀ c ∈ digits, isDigit c = true) →
      digits.foldl (fun n c => n * 10 + (c.toNat - '0'.toNat)) n <
        (n + 1) * 10 ^ digits.length := by
    intro digits
    induction digits with
    | nil => intro n _; simp
    | cons c rest ih =>
      intro n hdigits
      obtain ⟨hc, hrest⟩ := List.forall_mem_cons.mp hdigits
      have hdigit := digit_le hc
      calc rest.foldl (fun n c => n * 10 + (c.toNat - '0'.toNat)) (n * 10 + (c.toNat - '0'.toNat))
          < (n * 10 + (c.toNat - '0'.toNat) + 1) * 10 ^ rest.length := ih _ hrest
        _ ≤ ((n + 1) * 10) * 10 ^ rest.length := Nat.mul_le_mul_right _ (by omega)
        _ = (n + 1) * 10 ^ (c :: rest).length := by rw [List.length_cons, pow_succ]; ring
  have hzero := hfold digits 0 h
  rwa [Nat.zero_add, Nat.one_mul] at hzero

/-- A whole number of few digits can be written. -/
theorem fitsDigits_of_digits {digits : List Sign} (filled : digits ≠ [])
    (few : digits.length ≤ digitLimit) (h : ∀ s ∈ digits, s.isDigit = true) (negative : Bool) :
    fitsDigits (if negative then -(natOfSigns digits : Int) else natOfSigns digits) = true := by
  have hdigits : ∀ c ∈ digits.filterMap Sign.char?, isDigit c = true := by
    intro c hc
    obtain ⟨s, hs, hchar⟩ := List.mem_filterMap.mp hc
    have hdigit := h s hs
    rw [Sign.isDigit, hchar] at hdigit
    exact hdigit
  have hlength : (digits.filterMap Sign.char?).length ≤ digits.length :=
    List.length_filterMap_le _ _
  have hlt : natOfSigns digits < 10 ^ digits.length :=
    (natOf_lt _ hdigits).trans_le (Nat.pow_le_pow_right (by decide) hlength)
  have habs : (if negative then -(natOfSigns digits : Int) else natOfSigns digits).natAbs =
      natOfSigns digits := by
    cases negative <;> simp
  have hpos : 0 < digits.length := List.length_pos_iff.mpr filled
  rw [fitsDigits, decide_eq_true_eq, habs]
  exact (Nat.toDigits_length 10 _ _ hpos hlt).trans few

theorem isDigit_of_mem_wholeDigits {s : Sign} (h : s ∈ wholeDigits cs) : s.isDigit = true := by
  unfold wholeDigits at h
  split at h
  · rw [List.mem_singleton.mp h]
    rfl
  · exact List.mem_takeWhile_imp h

theorem readFraction_suffix (cs : List Sign) : (readFraction cs).2 <:+ cs := by
  unfold readFraction
  split
  · dsimp only
    split
    · exact List.suffix_refl _
    · exact (List.dropWhile_suffix _).trans (List.suffix_cons _ _)
  · exact List.suffix_refl _

theorem readSign_suffix (cs : List Sign) : (readSign cs).2 <:+ cs := by
  unfold readSign
  split
  · exact List.suffix_cons _ _
  · exact List.suffix_cons _ _
  · exact List.suffix_refl _

theorem readExponent_suffix (cs : List Sign) : (readExponent cs).2 <:+ cs := by
  cases cs with
  | nil => exact List.suffix_refl _
  | cons e rest =>
    unfold readExponent
    dsimp only
    split
    · split
      · exact List.suffix_refl _
      · exact ((List.dropWhile_suffix _).trans (readSign_suffix rest)).trans (List.suffix_cons _ _)
    · exact List.suffix_refl _

theorem readNumber_sound {negative : Bool} (h : readNumber negative cs = .ok (v, rest)) :
    ReadFrom cs v rest := by
  unfold readNumber at h
  dsimp only at h
  have hafter : (readExponent (readFraction (cs.drop (wholeDigits cs).length)).2).2 <:+ cs :=
    ((readExponent_suffix _).trans (readFraction_suffix _)).trans (List.drop_suffix _ _)
  split at h
  · cases h
  · next hfilled =>
    split at h
    · split at h
      · cases h
      · next hfew =>
        have hdigits : fitsDigits (if negative then -(natOfSigns (wholeDigits cs) : Int)
            else natOfSigns (wholeDigits cs)) = true :=
          fitsDigits_of_digits (by simpa using hfilled) (Nat.le_of_not_lt hfew)
            (fun s => isDigit_of_mem_wholeDigits) negative
        cases h
        exact ⟨hdigits, hafter⟩
    · cases h
      exact ⟨rfl, hafter⟩

theorem word?_suffix {word : String} (h : word? word cs = some rest) : rest <:+ cs := by
  unfold word? at h
  split at h
  · cases h
    exact List.drop_suffix _ _
  · cases h

theorem readWord_sound {word : String} {w : Value} (writable : isWritable w = true)
    (h : readWord word w cs = .ok (v, rest)) : ReadFrom cs v rest := by
  unfold readWord at h
  split at h
  · next after hword =>
    cases h
    exact ⟨writable, word?_suffix hword⟩
  · cases h

theorem readAtom_sound (h : readAtom cs = .ok (v, rest)) : ReadFrom cs v rest := by
  unfold readAtom at h
  split at h
  · exact readWord_sound rfl h
  · exact readWord_sound rfl h
  · exact readWord_sound rfl h
  · exact readWord_sound rfl h
  · exact readWord_sound rfl h
  · split at h
    · next after hword =>
      cases h
      exact ⟨rfl, (word?_suffix hword).trans (List.suffix_cons _ _)⟩
    · exact (readNumber_sound h).of_suffix (List.suffix_cons _ _)
  · exact readNumber_sound h

/-- What the readers of a value, of items and of fields have in common, given so much work. -/
structure SoundReaders (fuel : Nat) : Prop where
  /-- A value that is read can be written. -/
  value : ∀ {room cs v rest}, readValue fuel room cs = .ok (v, rest) → InSpace cs →
    ReadFrom cs v rest
  /-- So can a list that is read to its end, if the items before can. -/
  items : ∀ {room before cs v rest}, readItems fuel room before cs = .ok (v, rest) → InSpace cs →
    isWritableItems before = true → ReadFrom cs v rest
  /-- So can an object that is read to its end, if the fields before can. -/
  fields : ∀ {room before cs v rest}, readFields fuel room before cs = .ok (v, rest) →
    InSpace cs → isWritableFields before = true → ReadFrom cs v rest

theorem SoundReaders.readValue_succ {fuel room : Nat} (readers : SoundReaders fuel)
    (h : readValue (fuel + 1) room cs = .ok (v, rest)) (space : InSpace cs) :
    ReadFrom cs v rest := by
  unfold readValue at h
  split at h
  · next tail =>
    have htail : tail <:+ .char '"' :: tail := List.suffix_cons _ _
    split at h
    · next codes after hcodes =>
      obtain ⟨hspace, hafter⟩ := readString_sound hcodes (space.of_suffix htail)
      cases h
      exact ⟨isWritable_ofCodes hspace, hafter.trans htail⟩
    · cases h
  · cases h
  · next tail room =>
    have htail : skip tail <:+ .char '[' :: tail :=
      (skip_suffix tail).trans (List.suffix_cons _ _)
    split at h
    · next after hskip =>
      cases h
      exact ⟨rfl, (hskip ▸ List.suffix_cons _ _ : rest <:+ skip tail).trans htail⟩
    · exact (readers.items h (space.of_suffix htail) rfl).of_suffix htail
  · cases h
  · next tail room =>
    have htail : skip tail <:+ .char '\x7b' :: tail :=
      (skip_suffix tail).trans (List.suffix_cons _ _)
    split at h
    · next after hskip =>
      cases h
      exact ⟨rfl, (hskip ▸ List.suffix_cons _ _ : rest <:+ skip tail).trans htail⟩
    · exact (readers.fields h (space.of_suffix htail) rfl).of_suffix htail
  · exact readAtom_sound h

theorem SoundReaders.readItems_succ {fuel room : Nat} {before : List Value}
    (readers : SoundReaders fuel) (h : readItems (fuel + 1) room before cs = .ok (v, rest))
    (space : InSpace cs) (writable : isWritableItems before = true) : ReadFrom cs v rest := by
  unfold readItems at h
  split at h
  · cases h
  · next item after hitem =>
    obtain ⟨hitem, hafter⟩ := readers.value hitem space
    have hbefore : isWritableItems (item :: before) = true := by
      rw [isWritableItems, hitem, writable, Bool.and_self]
    have hskip : skip after <:+ cs := (skip_suffix after).trans hafter
    split at h
    · next tail htail =>
      have hnext : skip tail <:+ cs :=
        (skip_suffix tail).trans ((htail ▸ List.suffix_cons _ _ : tail <:+ skip after).trans hskip)
      exact (readers.items h (space.of_suffix hnext) hbefore).of_suffix hnext
    · next tail htail =>
      cases h
      have hlist : ∀ v ∈ (item :: before).reverse, isWritable v = true := fun v hm =>
        isWritableItems_iff.mp hbefore v (List.mem_reverse.mp hm)
      refine ⟨?_, (htail ▸ List.suffix_cons _ _ : rest <:+ skip after).trans hskip⟩
      rw [isWritable]
      exact isWritableItems_iff.mpr hlist
    · cases h

theorem SoundReaders.readFields_succ {fuel room : Nat} {before : List (Name × Value)}
    (readers : SoundReaders fuel) (h : readFields (fuel + 1) room before cs = .ok (v, rest))
    (space : InSpace cs) (writable : isWritableFields before = true) : ReadFrom cs v rest := by
  unfold readFields at h
  split at h
  · next tail =>
    have htail : tail <:+ .char '"' :: tail := List.suffix_cons _ _
    split at h
    · cases h
    · next codes after hcodes =>
      obtain ⟨hspace, hafter⟩ := readString_sound hcodes (space.of_suffix htail)
      split at h
      · next colon hcolon =>
        have hname : skip colon <:+ .char '"' :: tail :=
          (skip_suffix colon).trans ((hcolon ▸ List.suffix_cons _ _ : colon <:+ skip after).trans
            ((skip_suffix after).trans (hafter.trans htail)))
        split at h
        · cases h
        · next item later hitem =>
          obtain ⟨hitem, hlater⟩ := readers.value hitem (space.of_suffix hname)
          have hcodes : inCodeSpace (Name.ofCodes codes).codes = true := by
            rw [Name.codes_ofCodes, hspace]
          have hbefore : isWritableFields ((.ofCodes codes, item) :: before) = true := by
            rw [isWritableFields, hcodes, hitem, writable]
            rfl
          have hskip : skip later <:+ .char '"' :: tail :=
            (skip_suffix later).trans (hlater.trans hname)
          dsimp only at h
          split at h
          · next more hmore =>
            have hnext : skip more <:+ .char '"' :: tail := (skip_suffix more).trans
              ((hmore ▸ List.suffix_cons _ _ : more <:+ skip later).trans hskip)
            exact (readers.fields h (space.of_suffix hnext) hbefore).of_suffix hnext
          · next more hmore =>
            cases h
            refine ⟨?_, (hmore ▸ List.suffix_cons _ _ : rest <:+ skip later).trans hskip⟩
            rw [isWritable]
            refine isWritableFields_iff.mpr fun field hm => ?_
            have hpairs := Fields.mem_of_mem_ofPairs hm
            exact isWritableFields_iff.mp hbefore field (List.mem_reverse.mp hpairs)
          · cases h
      · cases h
  · cases h

theorem soundReaders (fuel : Nat) : SoundReaders fuel := by
  induction fuel with
  | zero =>
    constructor
    · intro room cs v rest h
      unfold readValue at h
      cases h
    · intro room before cs v rest h
      unfold readItems at h
      cases h
    · intro room before cs v rest h
      unfold readFields at h
      cases h
  | succ fuel ih => exact ⟨ih.readValue_succ, ih.readItems_succ, ih.readFields_succ⟩

theorem isWritable_of_readSigns {nesting : Nat} (h : readSigns nesting cs = .ok v)
    (space : InSpace cs) : isWritable v = true := by
  unfold readSigns at h
  split at h
  · next found after hread =>
    split at h
    · cases h
      exact ((soundReaders _).value hread (space.of_suffix (skip_suffix cs))).writable
    · cases h
  · cases h

section Octets

variable {octets since : List UInt8}

theorem inSpace_signs (text : List Char) : InSpace (signs text) := by
  intro s hs
  obtain ⟨c, -, rfl⟩ := List.mem_map.mp hs
  exact Encoding.toNat_lt c

theorem inSpace_of_signsOfUtf8 (h : signsOfUtf8 since octets = some cs) : InSpace cs := by
  fun_induction signsOfUtf8 since octets generalizing cs with
  | case1 since a b c rest hsurrogate ih =>
    simp only [Option.bind_eq_bind, Option.bind_eq_some_iff, Option.pure_def,
      Option.some.injEq] at h
    obtain ⟨front, -, back, hback, rfl⟩ := h
    have hb : b.toNat < 0x100 := b.toNat_lt
    have hc : c.toNat < 0x100 := c.toNat_lt
    have hcode : 0xd000 + (b.toNat - 0x80) * 64 + (c.toNat - 0x80) < 0x110000 := by omega
    exact List.forall_mem_append.mpr
      ⟨inSpace_signs front, List.forall_mem_cons.mpr ⟨hcode, ih hback⟩⟩
  | case2 since a b c rest _ ih => exact ih h
  | case3 since octets _ =>
    obtain ⟨text, -, rfl⟩ := Option.map_eq_some_iff.mp h
    exact inSpace_signs text

theorem code_signOf (n : Nat) : (signOf n).code = n := by
  unfold signOf
  split
  · next c hc => exact Encoding.toNat_of_charOf? hc
  · rfl

theorem inSpace_of_signsOfCodes {codes : List Nat} (h : signsOfCodes codes = some cs) :
    InSpace cs := by
  unfold signsOfCodes at h
  split at h
  · next hspace =>
    cases h
    intro s hs
    obtain ⟨n, hn, rfl⟩ := List.mem_map.mp hs
    have hlt : n < 0x110000 := by simpa using List.all_eq_true.mp hspace n hn
    rw [code_signOf]
    exact hlt
  · cases h

/-- Octets are decoded to signs in the code space. -/
theorem inSpace_of_signsOfOctets (h : signsOfOctets octets = some cs) : InSpace cs := by
  unfold signsOfOctets at h
  split at h
  · exact inSpace_of_signsOfUtf8 h
  · obtain ⟨units, -, hunits⟩ := Option.bind_eq_some_iff.mp h
    exact inSpace_of_signsOfCodes hunits
  · obtain ⟨units, -, hunits⟩ := Option.bind_eq_some_iff.mp h
    exact inSpace_of_signsOfCodes hunits

/-- Whatever octets spell has a JSON text. -/
theorem isWritable_of_readOctets {nesting : Nat} (h : readOctets nesting octets = .ok v) :
    isWritable v = true := by
  unfold readOctets at h
  split at h
  · cases h
  · next cs hcs =>
    exact isWritable_of_readSigns (Outcome.mapError_eq_ok.mp h) (inSpace_of_signsOfOctets hcs)

end Octets

end SearchAnnotation.Json

namespace SearchAnnotation

open Json (isWritable isWritableFields inCodeSpace)

section Pages

variable {fields : Fields} {name : String} {v snippet record : Value} {items : List Value}
  {codes : List Nat} {page : Webpage}

theorem Fields.isWritable_get? (h : isWritableFields fields = true)
    (hget : Fields.get? fields name = some v) : isWritable v = true := by
  obtain ⟨front, back, hfields, -⟩ := List.lookup_eq_some_iff.mp hget
  have hmem : ((name : Name), v) ∈ fields := by
    rw [hfields]
    exact List.mem_append_right front List.mem_cons_self
  exact (Json.isWritableFields_iff.mp h _ hmem).2

theorem Fields.isWritable_get (h : isWritableFields fields = true) :
    isWritable (Fields.get fields name) = true := by
  rw [Fields.get]
  cases hget : Fields.get? fields name with
  | none => rfl
  | some v => exact Fields.isWritable_get? h hget

/-- The elements of a value that can be written can be written. -/
theorem Value.isWritable_of_elements (h : isWritable v = true)
    (helements : v.elements = .ok items) :
    ∀ item ∈ items, isWritable item = true := by
  unfold Value.elements at helements
  cases v with
  | list inner =>
    cases helements
    rw [isWritable] at h
    exact Json.isWritableItems_iff.mp h
  | text s =>
    cases helements
    intro item hm
    obtain ⟨c, -, rfl⟩ := List.mem_map.mp hm
    rfl
  | unpaired u =>
    cases helements
    intro item hm
    obtain ⟨n, hn, rfl⟩ := List.mem_map.mp hm
    rw [isWritable] at h
    have hcode : inCodeSpace [n] = true :=
      Json.inCodeSpace_iff.mpr (List.forall_mem_singleton.mpr (Json.inCodeSpace_iff.mp h n hn))
    exact Json.isWritable_ofCodes hcode
  | object fields =>
    cases helements
    intro item hm
    obtain ⟨⟨name, w⟩, hfield, rfl⟩ := List.mem_map.mp hm
    rw [isWritable] at h
    have hname := (Json.isWritableFields_iff.mp h _ hfield).1
    cases name with
    | text s => rfl
    | unpaired u =>
      rw [Value.ofName, isWritable]
      exact hname
  | _ => cases helements

namespace Snippet

theorem inCodeSpace_of_textCodes? (h : isWritable v = true) (htext : textCodes? v = some codes) :
    inCodeSpace codes = true := by
  cases v with
  | text s =>
    cases htext
    exact Json.inCodeSpace_text s
  | unpaired u =>
    cases htext
    rw [isWritable] at h
    exact h
  | _ => cases htext

theorem inCodeSpace_of_fragmentCodes (h : isWritable v = true)
    (hfragment : fragmentCodes v = .ok codes) : inCodeSpace codes = true := by
  unfold fragmentCodes at hfragment
  split at hfragment
  · next fields =>
    rw [isWritable] at h
    split at hfragment
    · cases hfragment
      rfl
    · next text hget =>
      split at hfragment
      · next found htext =>
        cases hfragment
        exact inCodeSpace_of_textCodes? (Fields.isWritable_get? h hget) htext
      · cases hfragment
  · obtain rfl := Except.ok.inj hfragment
    cases htext : textCodes? v with
    | some found => exact inCodeSpace_of_textCodes? h htext
    | none =>
      have hdisplay := Json.inCodeSpace_text (String.ofList v.display)
      rw [String.toList_ofList] at hdisplay
      exact hdisplay

theorem inCodeSpace_of_joinFragments (h : ∀ item ∈ items, isWritable item = true)
    (hjoined : joinFragments items = .ok codes) : inCodeSpace codes = true := by
  induction items generalizing codes with
  | nil =>
    cases hjoined
    rfl
  | cons v rest ih =>
    obtain ⟨hv, hrest⟩ := List.forall_mem_cons.mp h
    obtain ⟨head, hhead, hjoined⟩ := Outcome.bind_eq_ok.mp hjoined
    obtain ⟨tail, htail, hjoined⟩ := Outcome.bind_eq_ok.mp hjoined
    cases hjoined
    have hfront := Json.inCodeSpace_iff.mp (inCodeSpace_of_fragmentCodes hv hhead)
    have hback := Json.inCodeSpace_iff.mp (ih hrest htail)
    exact Json.inCodeSpace_iff.mpr (List.forall_mem_append.mpr ⟨hfront, hback⟩)

/-- The flat form of a snippet can be written if the snippet can. -/
theorem isWritable_flatten (h : isWritable snippet = true) (hflat : flatten snippet = .ok v) :
    isWritable v = true := by
  unfold flatten at hflat
  split at hflat
  · cases hflat
    rfl
  · cases hflat
    exact h
  · next fields =>
    rw [isWritable] at h
    split at hflat
    · cases hflat
      rfl
    · next u hget =>
      cases hflat
      exact Fields.isWritable_get? h hget
    · next inner hget =>
      have hinner : isWritableFields inner = true := by
        have hobject := Fields.isWritable_get? h hget
        rwa [isWritable] at hobject
      obtain ⟨parts, hparts, hflat⟩ := Outcome.bind_eq_ok.mp hflat
      obtain ⟨joined, hjoined, hflat⟩ := Outcome.bind_eq_ok.mp hflat
      cases hflat
      have hall : ∀ part ∈ parts, isWritable part = true := by
        unfold fragments at hparts
        split at hparts
        · cases hparts
          exact List.forall_mem_nil _
        · exact Value.isWritable_of_elements (Fields.isWritable_get hinner) hparts
      exact Json.isWritable_ofCodes (inCodeSpace_of_joinFragments hall hjoined)
    · cases hflat
      rfl
  · cases hflat
    rfl

end Snippet

/-- The document of a webpage can be written if the record that it is made of can. -/
theorem Webpage.isWritable_toDocument (h : isWritable record = true)
    (hpage : Webpage.ofRecord record = .ok page) : isWritable page.toDocument = true := by
  obtain ⟨fields, hfields, hpage⟩ := Outcome.bind_eq_ok.mp hpage
  obtain ⟨url, hurl, hpage⟩ := Outcome.bind_eq_ok.mp hpage
  obtain ⟨flat, hflat, hpage⟩ := Outcome.bind_eq_ok.mp hpage
  cases hpage
  have hrecord : isWritableFields fields = true := by
    cases record with
    | object inner =>
      cases hfields
      rwa [isWritable] at h
    | _ => cases hfields
  have hget : ∀ name, isWritable (Fields.get fields name) = true := fun name =>
    Fields.isWritable_get hrecord
  have haddress : isWritable url = true := by
    unfold Webpage.urlOf at hurl
    split at hurl
    · next found hfound =>
      cases hurl
      exact Fields.isWritable_get? hrecord hfound
    · cases hurl
  have htitle : isWritable ((Fields.get fields "title").orElse (.text "")) = true := by
    unfold Value.orElse
    split
    · rfl
    · exact hget "title"
  have hsignals : isWritable (.object (Signals.ofRecord (Fields.get fields "rankingSignals"))) =
      true := by
    have hgiven := hget "rankingSignals"
    unfold Signals.ofRecord
    split
    · next signals hobject =>
      rwa [hobject] at hgiven
    · rfl
  have hname : ∀ s : String, inCodeSpace (Name.text s).codes = true := Json.inCodeSpace_text
  rw [Webpage.toDocument, isWritable]
  refine Json.isWritableFields_iff.mpr ?_
  simp only [List.forall_mem_cons]
  exact ⟨⟨hname _, haddress⟩, ⟨hname _, htitle⟩, ⟨hname _, hget "site"⟩, ⟨hname _, hget "domain"⟩,
    ⟨hname _, hget "prettyUrl"⟩, ⟨hname _, Snippet.isWritable_flatten (hget "snippet") hflat⟩,
    ⟨hname _, hsignals⟩, List.forall_mem_nil _⟩

end Pages

end SearchAnnotation
