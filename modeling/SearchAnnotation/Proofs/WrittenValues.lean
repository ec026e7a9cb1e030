import SearchAnnotation.Proofs.WrittenNumbers
import SearchAnnotation.Proofs.WrittenStrings

/-!
# Values written and read back

The JSON text of a value is read back up to three things: two surrogates next to each other come
back as the character of which they are the units, an undefined number as the one that has a name,
and of fields whose names come back as one only the last. The text must be all that is read, or
something must follow it that does not go on like a number.
-/

namespace SearchAnnotation

/-- The name that is read back where a name was written. -/
def Name.reread (name : Name) : Name := .ofCodes (Encoding.joinPairs name.codes)

namespace Value

mutual

/-- The value that is read back where a value was written. -/
def reread : Value → Value
  | .float x => .float (if x.isNaN then .nan else x)
  | .unpaired u => .ofCodes (Encoding.joinPairs u.codes)
  | .list items => .list (rereadItems items)
  | .object fields => .object (Fields.ofPairs (rereadFields fields))
  | v => v

/-- The items that are read back. -/
def rereadItems : List Value → List Value
  | [] => []
  | v :: rest => reread v :: rereadItems rest

/-- The fields that are read back, before the last of each name is chosen. -/
def rereadFields : List (Name × Value) → List (Name × Value)
  | [] => []
  | (name, v) :: rest => (name.reread, reread v) :: rereadFields rest

end

end Value

namespace Json

theorem joinPairs_text (cs : List Char) :
    Encoding.joinPairs (cs.map Char.toNat) = cs.map Char.toNat := by
  induction cs with
  | nil => rfl
  | cons c more ih =>
    rw [List.map_cons, joinPairs_cons_of_not_isHigh (Encoding.not_surrogate c).1, ih]

theorem escapeCode_toNat (c : Char) : escapeCode c.toNat = escape c := by
  rw [escapeCode, Encoding.charOf?_toNat]

/-- A text is written by its code points. -/
theorem renderText_eq (s : String) : renderText s = renderCodes (s.toList.map Char.toNat) := by
  rw [renderText, renderCodes, List.flatMap_map]
  simp only [escapeCode_toNat]

/-- A name is written by its code points. -/
theorem renderName_eq (name : Name) : renderName name = renderCodes name.codes := by
  cases name with
  | text s => exact renderText_eq s
  | unpaired u => rfl

theorem inCodeSpace_text (s : String) : inCodeSpace (s.toList.map Char.toNat) = true := by
  rw [inCodeSpace, List.all_map, List.all_eq_true]
  exact fun c _ => decide_eq_true (Encoding.toNat_lt c)

variable {fuel room : Nat} {rest : List Sign}

/-- Code points in quotes are read as one value. -/
theorem readValue_renderCodes {codes : List Nat} (space : inCodeSpace codes = true) :
    readValue (fuel + 1) room (signs (renderCodes codes) ++ rest) =
      .ok (.ofCodes (Encoding.joinPairs codes), rest) := by
  rw [renderCodes, signs_cons, List.cons_append, readValue, readCodes_render space]

/-- What begins with no quote, bracket or brace is a number or a word. -/
theorem readValue_atom {c : Char} (quote : c ≠ '"') (bracket : c ≠ '[') (brace : c ≠ '\x7b')
    (cs : List Sign) : readValue (fuel + 1) room (.char c :: cs) = readAtom (.char c :: cs) := by
  rw [readValue]
  all_goals intros; simp_all

/-- Whether a number can begin with a character. -/
def startsNumber (c : Char) : Bool := c.isDigit || c == '-' || c == 'N' || c == 'I'

/-- What cannot begin a number is none of those characters. -/
theorem ne_of_startsNumber {c d : Char} (h : startsNumber c = true) (hd : startsNumber d = false) :
    c ≠ d := by
  rintro rfl
  rw [h] at hd
  cases hd

theorem intText_eq_cons (n : ℤ) :
    ∃ c text, Value.intText n = c :: text ∧ startsNumber c = true := by
  unfold Value.intText
  split
  · exact ⟨'-', _, rfl, rfl⟩
  · obtain ⟨c, more, hdigits⟩ :=
      List.exists_cons_of_ne_nil (Nat.toDigits_ne_nil (b := 10) (n := n.natAbs))
    have hc := Decimal.allDigits_toDigits n.natAbs c (hdigits ▸ List.mem_cons_self)
    exact ⟨c, more, hdigits, by simp [startsNumber, hc]⟩

theorem renderFloat_eq_cons (x : Binary64) :
    ∃ c text, renderFloat x = c :: text ∧ startsNumber c = true := by
  unfold renderFloat
  cases hnan : x.isNaN with
  | true => exact ⟨'N', _, rfl, rfl⟩
  | false =>
    rw [if_neg Bool.false_ne_true]
    cases hfinite : x.isFinite with
    | true =>
      obtain ⟨c, more, htext, -, hc⟩ := x.unsignedText_eq_cons Value.numberNotation
      rw [if_pos rfl, Binary64.render_eq _ hnan, htext]
      cases x.negative with
      | true => exact ⟨'-', _, rfl, rfl⟩
      | false => exact ⟨c, more, rfl, by simp [startsNumber, hc, hfinite]⟩
    | false =>
      cases x.negative with
      | true => exact ⟨'-', _, rfl, rfl⟩
      | false => exact ⟨'I', _, rfl, rfl⟩

/-- The text of a value begins with no blank and no bracket that ends a list. -/
theorem render_eq_cons (v : Value) :
    ∃ c text, render v = c :: text ∧ isSpace c = false ∧ c ≠ ']' := by
  have number : ∀ {c : Char}, startsNumber c = true → isSpace c = false ∧ c ≠ ']' := by
    intro c hc
    have hspaces : c ≠ ' ' ∧ c ≠ '\t' ∧ c ≠ '\n' ∧ c ≠ '\r' :=
      ⟨ne_of_startsNumber hc rfl, ne_of_startsNumber hc rfl, ne_of_startsNumber hc rfl,
        ne_of_startsNumber hc rfl⟩
    exact ⟨by simp [isSpace, hspaces], ne_of_startsNumber hc rfl⟩
  cases v with
  | null => exact ⟨'n', _, rfl, rfl, by decide⟩
  | bool b => cases b with
    | true => exact ⟨'t', _, rfl, rfl, by decide⟩
    | false => exact ⟨'f', _, rfl, rfl, by decide⟩
  | int n =>
    obtain ⟨c, text, htext, hc⟩ := intText_eq_cons n
    exact ⟨c, text, htext, number hc⟩
  | float x =>
    obtain ⟨c, text, htext, hc⟩ := renderFloat_eq_cons x
    exact ⟨c, text, htext, number hc⟩
  | text s => exact ⟨'"', _, rfl, rfl, by decide⟩
  | unpaired u => exact ⟨'"', _, rfl, rfl, by decide⟩
  | list items => exact ⟨'[', _, rfl, rfl, by decide⟩
  | object fields => exact ⟨'\x7b', _, rfl, rfl, by decide⟩

theorem renderItems_eq_cons (v : Value) (items : List Value) :
    ∃ c text, renderItems (v :: items) = c :: text ∧ isSpace c = false ∧ c ≠ ']' := by
  obtain ⟨c, text, htext, hc⟩ := render_eq_cons v
  cases items with
  | nil => exact ⟨c, text, htext, hc⟩
  | cons w more => exact ⟨c, text ++ ',' :: ' ' :: renderItems (w :: more), by
      rw [renderItems, htext, List.cons_append], hc⟩

theorem renderFields_eq_cons (field : Name × Value) (fields : List (Name × Value)) :
    ∃ text, renderFields (field :: fields) = '"' :: text := by
  obtain ⟨name, v⟩ := field
  cases fields with
  | nil => exact ⟨_, by rw [renderFields, renderName_eq, renderCodes, List.cons_append]⟩
  | cons other more => exact ⟨_, by rw [renderFields, renderName_eq, renderCodes, List.cons_append]⟩

theorem skip_cons {c : Char} (h : isSpace c = false) (cs : List Sign) :
    skip (.char c :: cs) = .char c :: cs := by
  have hspace : (Sign.char c).char?.any isSpace = false := h
  rw [skip, List.dropWhile_cons, hspace, if_neg Bool.false_ne_true]

theorem readWord_render (word : String) (v : Value) (rest : List Sign) :
    readWord word v (signs word.toList ++ rest) = .ok (v, rest) := by
  have hfront : (signs word.toList).isPrefixOf (signs word.toList ++ rest) = true :=
    List.isPrefixOf_iff_prefix.mpr (List.prefix_append _ _)
  have hdrop : (signs word.toList ++ rest).drop word.length = rest := by
    rw [← String.length_toList, drop_signs]
  rw [readWord, word?, if_pos hfront, hdrop]

/-- A number is no text, list or object. -/
theorem readValue_number {text : List Char}
    (h : ∃ c more, text = c :: more ∧ startsNumber c = true) (cs : List Sign) :
    readValue (fuel + 1) room (signs text ++ cs) = readAtom (signs text ++ cs) := by
  obtain ⟨c, more, rfl, hc⟩ := h
  exact readValue_atom (ne_of_startsNumber hc rfl) (ne_of_startsNumber hc rfl)
    (ne_of_startsNumber hc rfl) _

/-- What follows an item or a field does not go on like a number. -/
theorem endsNumber_mark {c : Char} (h : c = ',' ∨ c = ']' ∨ c = '\x7d') (rest : List Sign) :
    EndsNumber (.char c :: rest) := by
  rcases h with rfl | rfl | rfl <;> exact endsNumber_cons rfl (by decide) (by decide) (by decide)

/-- A list is read by its items. -/
theorem readValue_list {c : Char} {text : List Char} {cs : List Sign} (blank : isSpace c = false)
    (bracket : c ≠ ']') :
    readValue (fuel + 1) (room + 1) (.char '[' :: (signs (c :: text) ++ cs)) =
      readItems fuel room [] (signs (c :: text) ++ cs) := by
  rw [readValue, signs_cons, List.cons_append, skip_cons blank]
  split
  · next heq => exact absurd (Sign.char.inj (List.cons.inj heq).1) bracket
  · rfl

/-- An object is read by its fields. -/
theorem readValue_object {text : List Char} {cs : List Sign} :
    readValue (fuel + 1) (room + 1) (.char '\x7b' :: (signs ('"' :: text) ++ cs)) =
      readFields fuel room [] (signs ('"' :: text) ++ cs) := by
  rw [readValue, signs_cons, List.cons_append, skip_cons rfl]
  rfl

/-- An item is read, and then the next ones or the end of the list. -/
theorem readItems_item {before : List Value} {v : Value} {cs rest : List Sign}
    (h : readValue fuel room cs = .ok (v, rest)) :
    (∀ more, rest = .char ']' :: more →
        readItems (fuel + 1) room before cs = .ok (.list (v :: before).reverse, more)) ∧
      ∀ more, rest = .char ',' :: .char ' ' :: more → skip more = more →
        readItems (fuel + 1) room before cs = readItems fuel room (v :: before) more := by
  constructor
  · rintro more rfl
    rw [readItems, h]
    rfl
  · rintro more rfl hskip
    have hblank : skip (.char ' ' :: more) = more := hskip
    have hcomma : skip (.char ',' :: .char ' ' :: more) = .char ',' :: .char ' ' :: more :=
      skip_cons rfl _
    rw [readItems, h]
    simp only [hcomma, hblank]

/-- A field is read, and then the next ones or the end of the object. -/
theorem readFields_field {before : List (Name × Value)} {name : Name} {v : Value}
    {cs rest : List Sign} (space : inCodeSpace name.codes = true) (hskip : skip cs = cs)
    (h : readValue fuel room cs = .ok (v, rest)) :
    (∀ more, rest = .char '\x7d' :: more →
        readFields (fuel + 1) room before (signs (renderName name ++ [':', ' ']) ++ cs) =
          .ok (.object (Fields.ofPairs ((name.reread, v) :: before).reverse), more)) ∧
      ∀ more, rest = .char ',' :: .char ' ' :: more → skip more = more →
        readFields (fuel + 1) room before (signs (renderName name ++ [':', ' ']) ++ cs) =
          readFields fuel room ((name.reread, v) :: before) more := by
  have htext : signs (renderName name ++ [':', ' ']) ++ cs =
      .char '"' :: (signs (name.codes.flatMap escapeCode ++ ['"']) ++
        .char ':' :: .char ' ' :: cs) := by
    rw [renderName_eq, renderCodes, signs_append, List.append_assoc]
    rfl
  have hblank : skip (.char ' ' :: cs) = cs := hskip
  have hcolon : skip (.char ':' :: .char ' ' :: cs) = .char ':' :: .char ' ' :: cs :=
    skip_cons rfl _
  rw [htext, readFields, readCodes_render space]
  simp only [hcolon, hblank, h]
  constructor
  · rintro more rfl
    rfl
  · rintro more rfl hmore
    have hnext : skip (.char ' ' :: more) = more := hmore
    have hcomma : skip (.char ',' :: .char ' ' :: more) = .char ',' :: .char ' ' :: more :=
      skip_cons rfl _
    simp only [hcomma, hnext]
    rfl

theorem skip_signs {text : List Char} (h : ∃ c more, text = c :: more ∧ isSpace c = false)
    (cs : List Sign) : skip (signs text ++ cs) = signs text ++ cs := by
  obtain ⟨c, more, rfl, hc⟩ := h
  exact skip_cons hc _

theorem skip_render (v : Value) (cs : List Sign) :
    skip (signs (render v) ++ cs) = signs (render v) ++ cs := by
  obtain ⟨c, more, htext, hc, -⟩ := render_eq_cons v
  exact skip_signs ⟨c, more, htext, hc⟩ cs

theorem length_render_pos (v : Value) : 0 < (render v).length := by
  obtain ⟨c, more, htext, -⟩ := render_eq_cons v
  rw [htext]
  exact Nat.succ_pos _

mutual

/-- The text of a value is read up to its end, and what is read is the value up to the three things
above. Both the steps and the nesting that are needed are bounded by the length of the text. -/
theorem readValue_render (v : Value) {fuel room : Nat} {rest : List Sign}
    (writable : isWritable v = true) (hfuel : 2 * (render v).length ≤ fuel)
    (hroom : (render v).length ≤ room) (hrest : EndsNumber rest) :
    readValue fuel room (signs (render v) ++ rest) = .ok (v.reread, rest) := by
  have hlength := length_render_pos v
  obtain ⟨fuel, rfl⟩ : ∃ n, fuel = n + 1 := ⟨fuel - 1, by omega⟩
  obtain ⟨room, rfl⟩ : ∃ n, room = n + 1 := ⟨room - 1, by omega⟩
  match v with
  | .null => exact readWord_render "null" .null rest
  | .bool true => exact readWord_render "true" (.bool true) rest
  | .bool false => exact readWord_render "false" (.bool false) rest
  | .int n =>
    rw [render, readValue_number (intText_eq_cons n), readAtom_intText writable hrest]
    rfl
  | .float x =>
    rw [render, readValue_number (renderFloat_eq_cons x), Binary64.readAtom_renderFloat x hrest]
    rfl
  | .text s =>
    rw [render, renderText_eq, readValue_renderCodes (inCodeSpace_text s), joinPairs_text,
      Value.ofCodes_text]
    rfl
  | .unpaired u => exact readValue_renderCodes writable
  | .list [] => rfl
  | .list (w :: items) =>
    obtain ⟨c, text, hitems, hblank, hbracket⟩ := renderItems_eq_cons w items
    simp only [render, List.length_cons, List.length_append, List.length_nil] at hfuel hroom
    have htext : signs (render (.list (w :: items))) ++ rest =
        .char '[' :: (signs (renderItems (w :: items)) ++ .char ']' :: rest) := by
      rw [render, signs_cons, signs_append, List.cons_append, List.append_assoc]
      rfl
    have hread := @readItems_render (w :: items) [] fuel room rest (List.cons_ne_nil w items)
      writable (by omega) (by omega)
    rw [htext, hitems, readValue_list hblank hbracket, ← hitems, hread]
    rfl
  | .object [] => rfl
  | .object (field :: fields) =>
    obtain ⟨text, hfields⟩ := renderFields_eq_cons field fields
    simp only [render, List.length_cons, List.length_append, List.length_nil] at hfuel hroom
    have htext : signs (render (.object (field :: fields))) ++ rest =
        .char '\x7b' :: (signs (renderFields (field :: fields)) ++ .char '\x7d' :: rest) := by
      rw [render, signs_cons, signs_append, List.cons_append, List.append_assoc]
      rfl
    have hread := @readFields_render (field :: fields) [] fuel room rest
      (List.cons_ne_nil field fields) writable (by omega) (by omega)
    rw [htext, hfields, readValue_object, ← hfields, hread]
    rfl

/-- The items of a list are read up to its end. -/
theorem readItems_render (items before : List Value) {fuel room : Nat} {rest : List Sign}
    (filled : items ≠ []) (writable : isWritableItems items = true)
    (hfuel : 2 * (renderItems items).length + 1 ≤ fuel)
    (hroom : (renderItems items).length ≤ room) :
    readItems fuel room before (signs (renderItems items) ++ .char ']' :: rest) =
      .ok (.list (before.reverse ++ Value.rereadItems items), rest) := by
  obtain ⟨fuel, rfl⟩ : ∃ n, fuel = n + 1 := ⟨fuel - 1, by omega⟩
  match items with
  | [v] =>
    rw [isWritableItems, Bool.and_eq_true] at writable
    simp only [renderItems] at hfuel hroom
    have hread := @readValue_render v fuel room (.char ']' :: rest) writable.1 (by omega) hroom
      (endsNumber_mark (.inr (.inl rfl)) rest)
    rw [renderItems, (readItems_item hread).1 rest rfl, List.reverse_cons]
    rfl
  | v :: w :: items =>
    rw [isWritableItems, Bool.and_eq_true] at writable
    obtain ⟨c, text, hitems, hblank, -⟩ := renderItems_eq_cons w items
    simp only [renderItems, List.length_append, List.length_cons] at hfuel hroom
    have hread := @readValue_render v fuel room (.char ',' :: .char ' ' ::
      (signs (renderItems (w :: items)) ++ .char ']' :: rest)) writable.1 (by omega) (by omega)
      (endsNumber_mark (.inl rfl) _)
    have hmore := @readItems_render (w :: items) (v.reread :: before) fuel room rest
      (List.cons_ne_nil w items) writable.2 (by omega) (by omega)
    have htext : signs (renderItems (v :: w :: items)) ++ .char ']' :: rest =
        signs (render v) ++ .char ',' :: .char ' ' ::
          (signs (renderItems (w :: items)) ++ .char ']' :: rest) := by
      rw [renderItems, signs_append, List.append_assoc]
      rfl
    rw [htext, (readItems_item hread).2 _ rfl (skip_signs ⟨c, text, hitems, hblank⟩ _), hmore,
      List.reverse_cons, List.append_assoc]
    rfl

/-- The fields of an object are read up to its end. -/
theorem readFields_render (fields before : List (Name × Value)) {fuel room : Nat}
    {rest : List Sign} (filled : fields ≠ []) (writable : isWritableFields fields = true)
    (hfuel : 2 * (renderFields fields).length + 1 ≤ fuel)
    (hroom : (renderFields fields).length ≤ room) :
    readFields fuel room before (signs (renderFields fields) ++ .char '\x7d' :: rest) =
      .ok (.object (Fields.ofPairs (before.reverse ++ Value.rereadFields fields)), rest) := by
  obtain ⟨fuel, rfl⟩ : ∃ n, fuel = n + 1 := ⟨fuel - 1, by omega⟩
  match fields with
  | [(name, v)] =>
    rw [isWritableFields, Bool.and_eq_true, Bool.and_eq_true] at writable
    simp only [renderFields, List.length_append, List.length_cons] at hfuel hroom
    have hread := @readValue_render v fuel room (.char '\x7d' :: rest) writable.1.2 (by omega)
      (by omega) (endsNumber_mark (.inr (.inr rfl)) rest)
    have htext : signs (renderFields [(name, v)]) ++ .char '\x7d' :: rest =
        signs (renderName name ++ [':', ' ']) ++ (signs (render v) ++ .char '\x7d' :: rest) := by
      rw [renderFields]
      simp only [signs_append, signs_cons, List.append_assoc, List.cons_append]
      rfl
    rw [htext, (readFields_field writable.1.1 (skip_render v _) hread).1 rest rfl,
      List.reverse_cons]
    rfl
  | (name, v) :: other :: fields =>
    rw [isWritableFields, Bool.and_eq_true, Bool.and_eq_true] at writable
    obtain ⟨text, hfields⟩ := renderFields_eq_cons other fields
    simp only [renderFields, List.length_append, List.length_cons] at hfuel hroom
    have hread := @readValue_render v fuel room (.char ',' :: .char ' ' ::
      (signs (renderFields (other :: fields)) ++ .char '\x7d' :: rest)) writable.1.2 (by omega)
      (by omega) (endsNumber_mark (.inl rfl) _)
    have hmore := @readFields_render (other :: fields) ((name.reread, v.reread) :: before) fuel room
      rest (List.cons_ne_nil other fields) writable.2 (by omega) (by omega)
    have htext : signs (renderFields ((name, v) :: other :: fields)) ++ .char '\x7d' :: rest =
        signs (renderName name ++ [':', ' ']) ++ (signs (render v) ++ .char ',' :: .char ' ' ::
          (signs (renderFields (other :: fields)) ++ .char '\x7d' :: rest)) := by
      rw [renderFields]
      simp only [signs_append, signs_cons, List.append_assoc, List.cons_append]
      rfl
    rw [htext, (readFields_field writable.1.1 (skip_render v _) hread).2 _ rfl
      (skip_signs ⟨'"', text, hfields, rfl⟩ _), hmore, List.reverse_cons, List.append_assoc]
    rfl

end

/-- A value that can be written is read back from its text, nested however deeply it is. -/
theorem read_render {v : Value} (writable : isWritable v = true) {room : Nat}
    (hroom : (render v).length ≤ room) : read room (render v) = .ok v.reread := by
  have hread := @readValue_render v (2 * (render v).length + 2) room [] writable (by omega) hroom
    endsNumber_nil
  have hskip := skip_render v []
  rw [List.append_nil] at hread hskip
  rw [read, readSigns, hskip, length_signs, hread]
  rfl

end Json

end SearchAnnotation
