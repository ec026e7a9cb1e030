import SearchAnnotation.Log.Line
import SearchAnnotation.Proofs.Lookups
import SearchAnnotation.Proofs.PrintableTexts

/-!
# The context of a log line

The line of a record is what the record would show without further attributes, followed by these
in the order of their names. What follows is printable, so it adds no line, and it does not depend
on the order in which the attributes were given. One name is different: an attribute that hides the
way to the message leaves the record without a line.
-/

namespace SearchAnnotation

open Text (AllPrintable OneLine isPrintable isLineBreak isControl)

namespace LogRecord

variable {record other : LogRecord} {extras items : Attributes} {name : String}
  {clock : Option Clock}

/-- A record without the attributes that not every record has. -/
def bare (record : LogRecord) : LogRecord :=
  { record with extras := record.extras.filter fun extra => reserved.contains extra.1 }

/-- Whether two records agree in all but attributes that not every record has. -/
structure SameBase (record other : LogRecord) : Prop where
  /-- They have one logger. -/
  logger : record.logger = other.logger
  /-- They have one level. -/
  level : record.level = other.level
  /-- They have one message. -/
  message : record.message = other.message
  /-- The same attributes of their own are given. -/
  own : ∀ name ∈ reserved, record.extras.lookup name = other.extras.lookup name
  /-- The way to the message is hidden in both or in none. -/
  getter : record.extras.lookup "getMessage" = other.extras.lookup "getMessage"

namespace SameBase

variable (h : SameBase record other)
include h

theorem own_eq (hname : name ∈ reserved) (fallback : Value) :
    record.own name fallback = other.own name fallback := by
  rw [LogRecord.own, LogRecord.own, h.own name hname]

theorem filledMessage_eq : record.filledMessage = other.filledMessage := by
  have hmessage := h.own_eq (show "msg" ∈ reserved by decide) (.ofName other.message)
  have harguments := h.own_eq (show "args" ∈ reserved by decide) .null
  rw [filledMessage, filledMessage, h.message, hmessage, harguments, h.getter]

theorem errorOf_eq : record.errorOf = other.errorOf := by
  have htext := h.own_eq (show "exc_text" ∈ reserved by decide) .null
  have hfacts := h.own_eq (show "exc_info" ∈ reserved by decide) .null
  rw [errorOf, errorOf, htext, hfacts]

theorem front_eq : record.front clock = other.front clock := by
  cases clock with
  | none => rfl
  | some clock =>
    have hcreated := h.own_eq (show "created" ∈ reserved by decide) clock.created
    have hmsecs := h.own_eq (show "msecs" ∈ reserved by decide) clock.msecs
    rw [front, front, hcreated, hmsecs]

/-- Of records that agree in the base, the one with more to show has it after the other's line. -/
theorem line_eq (hnone : context other.extras = "") :
    record.line clock = (other.line clock).map (· ++ context record.extras) := by
  have hlevel := h.own_eq (show "levelname" ∈ reserved by decide) (.text other.level)
  have hlogger := h.own_eq (show "name" ∈ reserved by decide) (.text other.logger)
  have hstack := h.own_eq (show "stack_info" ∈ reserved by decide) .null
  rw [line, line, h.level, h.logger, hlevel, hlogger, hstack, h.filledMessage_eq, h.errorOf_eq,
    h.front_eq, hnone]
  -- Both lines are one chain of rules now, and only what is appended at its end differs.
  cases other.filledMessage with
  | error why => rfl
  | ok message =>
    cases other.front clock with
    | error why => rfl
    | ok front =>
      cases other.errorOf with
      | error why => rfl
      | ok error =>
        dsimp only [Bind.bind, Except.bind]
        cases withLine _ error with
        | error why => rfl
        | ok text =>
          dsimp only
          cases withLine text _ with
          | error why => rfl
          | ok text => simp [Except.map, pure, Except.pure]

end SameBase

/-- To what stands before the context, neither the order of the attributes matters nor those that
not every record has. -/
theorem sameBase_bare (distinct : (record.extras.map Prod.fst).Nodup)
    (getter : "getMessage" ∉ record.extras.map Prod.fst) (order : extras.Perm record.extras) :
    SameBase { record with extras } record.bare where
  logger := rfl
  level := rfl
  message := rfl
  own name hname := by
    have hkeep : reserved.contains name = true := List.contains_iff_mem.mpr hname
    have hbare : record.bare.extras.lookup name = record.extras.lookup name :=
      Entries.lookup_filter reserved.contains hkeep
    rw [hbare]
    exact Entries.lookup_perm distinct order name
  getter := by
    have hbare : "getMessage" ∉ record.bare.extras.map Prod.fst := fun hm =>
      getter (List.map_subset Prod.fst (List.filter_subset_self _) hm)
    rw [Entries.lookup_perm distinct order, Entries.lookup_eq_none_iff.mpr hbare,
      Entries.lookup_eq_none_iff.mpr getter]

theorem shown_perm (extras : Attributes) :
    (shown extras).Perm (extras.filter fun extra => !reserved.contains extra.1) :=
  List.mergeSort_perm _ _

theorem mem_shown {extra : String × Value} :
    extra ∈ shown extras ↔ extra ∈ extras ∧ extra.1 ∉ reserved := by
  rw [(shown_perm extras).mem_iff, List.mem_filter]
  simp

theorem shown_eq_nil (h : ∀ extra ∈ extras, extra.1 ∈ reserved) : shown extras = [] := by
  rw [List.eq_nil_iff_forall_not_mem]
  intro extra hextra
  have hshown := mem_shown.mp hextra
  exact hshown.2 (h extra hshown.1)

theorem not_lt_iff {a b : String} : (!decide (b < a)) = true ↔ a ≤ b := by
  rw [Bool.not_eq_true', decide_eq_false_iff_not, String.not_lt]

/-- Attributes with distinct names are shown in ascending order of their names. -/
theorem shown_pairwise (distinct : (extras.map Prod.fst).Nodup) :
    (shown extras).Pairwise fun a b => a.1 < b.1 := by
  have hsorted : (shown extras).Pairwise fun a b => (!decide (b.1 < a.1)) = true := by
    refine List.pairwise_mergeSort ?_ ?_ _
    · intro a b c hab hbc
      rw [not_lt_iff] at hab hbc ⊢
      exact String.le_trans hab hbc
    · intro a b
      rw [Bool.or_eq_true, not_lt_iff, not_lt_iff]
      exact String.le_total a.1 b.1
  have hdistinct : ((shown extras).map Prod.fst).Nodup := by
    refine ((shown_perm extras).map Prod.fst).nodup_iff.mpr ?_
    exact distinct.sublist (List.filter_sublist.map Prod.fst)
  refine hsorted.imp₂ (fun a b hle hne => ?_) (List.pairwise_map.mp hdistinct)
  refine String.not_le.mp fun hge => hne ?_
  exact String.le_antisymm (not_lt_iff.mp hle) hge

theorem shown_of_perm (distinct : (record.extras.map Prod.fst).Nodup)
    (order : extras.Perm record.extras) : shown extras = shown record.extras := by
  have hdistinct : (extras.map Prod.fst).Nodup := (order.map Prod.fst).nodup_iff.mpr distinct
  have hperm : (shown extras).Perm (shown record.extras) :=
    ((shown_perm extras).trans (order.filter _)).trans (shown_perm record.extras).symm
  refine hperm.eq_of_pairwise ?_ (shown_pairwise hdistinct) (shown_pairwise distinct)
  intro a b _ _ hab hba
  exact absurd hba (String.lt_asymm hab)

/-- The text of attributes after a base text. -/
def appended (items : Attributes) : String :=
  if items.isEmpty then "" else " | " ++ " ".intercalate (items.map item)

theorem context_eq (extras : Attributes) : context extras = appended (shown extras) := by
  rw [context]
  cases shown extras <;> rfl

theorem allPrintable_item {extra : String × Value} (h : AllPrintable extra.1.toList) :
    AllPrintable (item extra).toList := by
  have hmark : AllPrintable "=".toList := by decide
  have hvalue : AllPrintable extra.2.literalString.toList := by
    rw [Value.literalString, String.toList_ofList]
    exact extra.2.allPrintable_literal
  rw [item, String.toList_append, String.toList_append, Text.allPrintable_append,
    Text.allPrintable_append]
  exact ⟨⟨h, hmark⟩, hvalue⟩

/-- Attributes with printable names have a printable text, whatever their values are. -/
theorem allPrintable_appended (h : ∀ extra ∈ items, AllPrintable extra.1.toList) :
    AllPrintable (appended items).toList := by
  have hbar : AllPrintable " | ".toList := by decide
  have hbetween : AllPrintable " ".toList := by decide
  unfold appended
  split_ifs
  · decide
  · rw [String.toList_append, String.toList_intercalate, List.map_map, Text.allPrintable_append]
    refine ⟨hbar, Text.allPrintable_intercalate hbetween fun part hpart => ?_⟩
    obtain ⟨extra, hextra, rfl⟩ := List.mem_map.mp hpart
    exact allPrintable_item (h extra hextra)

/-- The line of a record with the attributes of another order, by what it shows. -/
theorem line_eq (distinct : (record.extras.map Prod.fst).Nodup)
    (getter : "getMessage" ∉ record.extras.map Prod.fst) (order : extras.Perm record.extras) :
    { record with extras }.line clock =
      (record.bare.line clock).map (· ++ appended (shown record.extras)) := by
  have hnone : context record.bare.extras = "" := by
    have hreserved : ∀ extra ∈ record.bare.extras, extra.1 ∈ reserved := by
      intro extra hextra
      simpa using (List.mem_filter.mp hextra).2
    rw [context_eq, shown_eq_nil hreserved]
    rfl
  have hline : { record with extras }.line clock =
      (record.bare.line clock).map (· ++ context extras) :=
    (sameBase_bare distinct getter order).line_eq hnone
  rw [context_eq, shown_of_perm distinct order] at hline
  exact hline

/-- The text of a clock for the records that it makes, and a blank. -/
def plainFront : Option Clock → Except Fault (List Char)
  | none => .ok []
  | some clock => (clock.text clock.created clock.msecs).map (· ++ [' '])

/-- Without attributes of its own a record shows its time, its level, its logger and its
message. -/
theorem bare_line (h : ∀ extra ∈ record.extras, extra.1 ∉ reserved) :
    record.bare.line clock =
      (plainFront clock).map fun front => String.ofList front ++ record.base := by
  have hnil : record.bare.extras = [] := by
    refine List.filter_eq_nil_iff.mpr fun extra hextra => ?_
    simpa using h extra hextra
  have hown : ∀ name fallback, record.bare.own name fallback = fallback := by
    intro name fallback
    rw [own, hnil]
    rfl
  have hfront : record.bare.front clock = plainFront clock := by
    cases clock with
    | none => rfl
    | some clock =>
      rw [front, hown, hown, plainFront]
      cases clock.text clock.created clock.msecs <;> rfl
  have hbase : record.base.toList = record.level.toList ++ ' ' :: record.logger.toList ++
      ':' :: ' ' :: (Value.ofName record.message).display := by
    rw [base, Value.displayString]
    simp
  have hcontext : context record.bare.extras = "" := by
    rw [hnil, context_eq, shown_eq_nil (by simp)]
    rfl
  have hmessage : record.bare.filledMessage = .ok (Value.ofName record.message).display := by
    rw [filledMessage, hown, hown, hnil]
    rfl
  have herror : record.bare.errorOf = .ok .null := by
    rw [errorOf, hown, hown]
    rfl
  rw [line, hmessage, hfront, herror]
  cases plainFront clock with
  | error why => rfl
  | ok front =>
    have htext : String.ofList (front ++ record.level.toList ++ ' ' :: record.logger.toList ++
        ':' :: ' ' :: (Value.ofName record.message).display) =
          String.ofList front ++ record.base := by
      rw [← String.toList_inj, String.toList_append, String.toList_ofList, String.toList_ofList,
        hbase]
      simp only [List.append_assoc]
    rw [hown, hown, hown, hcontext]
    exact congrArg Except.ok ((String.append_empty).trans htext)

example : line none ⟨"a", "INFO", "m", [("url", .text "u"), ("body", .text "x\nINFO a: y")]⟩ =
    .ok "INFO a: m | body='x\\nINFO a: y' url='u'" := by
  cbv

/-- A record whose message is hidden has no line. -/
theorem line_of_getter (h : "getMessage" ∈ record.extras.map Prod.fst) :
    record.line clock = .error .wrongKind := by
  have hsome : (record.extras.lookup "getMessage").isSome = true :=
    Entries.isSome_lookup_iff.mpr h
  have hmessage : record.filledMessage = .error .wrongKind := by
    rw [filledMessage, if_pos hsome]
  rw [line, hmessage]
  rfl

/-- Whether a record has a line, and a single one. -/
def IsOneLine (clock : Option Clock) (record : LogRecord) : Prop :=
  ∃ line, record.line clock = .ok line ∧ OneLine line.toList

/-- Whether the times of records are shown on one line, if they are shown. -/
def Regular (clock : Option Clock) : Prop := ∃ front, plainFront clock = .ok front ∧ OneLine front

/-- How a record shows its attributes, given some items. -/
structure Shows (clock : Option Clock) (record : LogRecord) (items : Attributes) : Prop where
  /-- The items are the attributes that not every record has. -/
  complete : ∀ extra, extra ∈ items ↔ extra ∈ record.extras ∧ extra.1 ∉ reserved
  /-- They are in the order of their names. -/
  ordered : items.Pairwise fun a b => a.1 < b.1
  /-- In whatever order the attributes are given, the line is a base text and then the items. -/
  line : ∀ extras, extras.Perm record.extras →
    { record with extras }.line clock = (record.bare.line clock).map (· ++ appended items)
  /-- The base text is the time and then level, logger and message if no attribute replaces one of
  them. -/
  base : (∀ extra ∈ record.extras, extra.1 ∉ reserved) → record.bare.line clock =
    (plainFront clock).map fun front => String.ofList front ++ record.base
  /-- What stands after it is printable, without a line break and without a control. -/
  printable : ∀ c ∈ (appended items).toList,
    isPrintable c = true ∧ isLineBreak c = false ∧ isControl c = false
  /-- So the line is single exactly if the base text is on one line. -/
  oneLine : record.IsOneLine clock ↔ record.bare.IsOneLine clock

theorem shows_shown (clock : Option Clock) (distinct : (record.extras.map Prod.fst).Nodup)
    (printable : ∀ extra ∈ record.extras, AllPrintable extra.1.toList)
    (getter : "getMessage" ∉ record.extras.map Prod.fst) :
    Shows clock record (shown record.extras) := by
  have happended : AllPrintable (appended (shown record.extras)).toList :=
    allPrintable_appended fun extra hextra => printable extra (mem_shown.mp hextra).1
  refine ⟨fun extra => mem_shown, shown_pairwise distinct, fun extras => line_eq distinct getter,
    bare_line, fun c hc => ?_, ?_⟩
  · have hc := happended c hc
    exact ⟨hc, Text.isLineBreak_eq_false hc, Text.isControl_eq_false hc⟩
  · have hline : record.line clock = _ := line_eq distinct getter (List.Perm.refl record.extras)
    unfold IsOneLine
    rw [hline]
    cases record.bare.line clock with
    | error why => exact iff_of_false (fun ⟨_, h, _⟩ => nomatch h) fun ⟨_, h, _⟩ => nomatch h
    | ok text =>
      simp only [Except.map, Except.ok.injEq, exists_eq_left', String.toList_append,
        Text.oneLine_append, happended.oneLine, and_true]

/-- Names of attributes that are shown on one line. -/
structure Presentable (names : List String) : Prop where
  /-- No name is given twice. -/
  distinct : names.Nodup
  /-- The names are printable. -/
  printable : ∀ name ∈ names, AllPrintable name.toList
  /-- None of them is an attribute that every record has. -/
  further : ∀ name ∈ names, name ∉ reserved
  /-- None of them hides the way to the message. -/
  getter : "getMessage" ∉ names

instance (names : List String) : Decidable (Presentable names) :=
  decidable_of_iff (names.Nodup ∧ (∀ name ∈ names, AllPrintable name.toList) ∧
      (∀ name ∈ names, name ∉ reserved) ∧ "getMessage" ∉ names)
    ⟨fun h => ⟨h.1, h.2.1, h.2.2.1, h.2.2.2⟩,
      fun h => ⟨h.distinct, h.printable, h.further, h.getter⟩⟩

/-- A record with presentable attributes is one line exactly if its base text is. -/
theorem isOneLine_iff (regular : Regular clock) (h : Presentable (record.extras.map Prod.fst)) :
    record.IsOneLine clock ↔ OneLine record.base.toList := by
  have hfurther : ∀ extra ∈ record.extras, extra.1 ∉ reserved := fun extra hextra =>
    h.further extra.1 (List.mem_map_of_mem hextra)
  have hprintable : ∀ extra ∈ record.extras, AllPrintable extra.1.toList := fun extra hextra =>
    h.printable extra.1 (List.mem_map_of_mem hextra)
  obtain ⟨front, hfront, honeLine⟩ := regular
  have hbare : record.bare.line clock = .ok (String.ofList front ++ record.base) := by
    rw [bare_line hfurther, hfront]
    rfl
  rw [(shows_shown clock h.distinct hprintable h.getter).oneLine, IsOneLine, hbare]
  simp only [Except.ok.injEq, exists_eq_left', String.toList_append, String.toList_ofList,
    Text.oneLine_append, honeLine, true_and]

end LogRecord

end SearchAnnotation
