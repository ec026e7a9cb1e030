import Mathlib.Data.List.Chain
import Mathlib.Logic.Relation
import SearchAnnotation.Selection

/-!
# Notices of changes

A listener is given every value that a selection is changed to, at a moment when the selection has
that value already and the listener may still choose others or fail. A choice is therefore a
sequence of such notices, however deep it is nested and however it ends, and each of them is of a
value that is offered and differs from the one before. How deep choices may be nested decides
whether they end, but not how. What holds of all notices then holds at all times of a selection
whose value is changed by choices only, whatever becomes of its options.
-/

namespace SearchAnnotation

namespace Selection

variable {start s moment before after : Selection} {v initial : Value}
  {given sooner later : List Value} {listener : Listener} {depth : Nat}
  {outcome : Except Fault Bool}

/-- A selection that was changed to a value, which the listener was given. -/
def notified (s : Selection) (v : Value) : Selection :=
  { s with value := v, fired := s.fired ++ [v] }

/-- What a listener is given between two moments. Each value is offered when it is given, and
differs from the value before. -/
inductive Notices : Selection → List Value → Selection → Prop where
  /-- Nothing is given. -/
  | nil (s : Selection) : Notices s [] s
  /-- A value is given before others. -/
  | cons {s after : Selection} {v : Value} {given : List Value} (offered : s.offers v = true)
      (differs : v.agree s.value = false) (rest : Notices (s.notified v) given after) :
      Notices s (v :: given) after

namespace Notices

theorem append (first : Notices s sooner moment) (rest : Notices moment later after) :
    Notices s (sooner ++ later) after := by
  induction first with
  | nil => exact rest
  | cons offered differs _ ih => exact .cons offered differs (ih rest)

/-- All that is given is recorded. -/
theorem fired_eq (h : Notices s given after) : after.fired = s.fired ++ given := by
  induction h with
  | nil s => rw [List.append_nil]
  | cons _ _ _ ih => rw [ih, notified, List.append_assoc, List.singleton_append]

/-- Each value is given at some moment. -/
theorem moment_of (h : Notices s (sooner ++ v :: later) after) :
    ∃ moment, Notices s sooner moment ∧ moment.offers v = true ∧
      Notices (moment.notified v) later after := by
  induction sooner generalizing s with
  | nil =>
    cases h with
    | cons offered differs rest => exact ⟨s, .nil s, offered, rest⟩
  | cons first sooner ih =>
    cases h with
    | cons offered differs rest =>
      obtain ⟨moment, hsooner, hoffered, hlater⟩ := ih rest
      exact ⟨moment, .cons offered differs hsooner, hoffered, hlater⟩

end Notices

/-- Choosing what is no option fails and changes nothing. -/
theorem choose_of_not_offered (depth : Nat) (missing : s.offers v = false) :
    choose (some listener) (depth + 1) s v = some (.error (.notOption v), s) := by
  rw [choose, missing, Bool.not_false, if_pos rfl]

/-- Choosing the current value changes nothing. -/
theorem choose_of_agree (depth : Nat) (offered : s.offers v = true)
    (same : v.agree s.value = true) :
    choose (some listener) (depth + 1) s v = some (.ok false, s) := by
  rw [choose, offered, Bool.not_true, if_neg Bool.false_ne_true, if_pos same]

/-- Choosing another option gives notice and then leaves it to the listener. -/
theorem choose_of_differs (depth : Nat) (offered : s.offers v = true)
    (differs : v.agree s.value = false) :
    choose (some listener) (depth + 1) s v =
      react (choose (some listener) depth) (listener (s.notified v).fired) (s.notified v) := by
  rw [choose, offered, Bool.not_true, if_neg Bool.false_ne_true, differs,
    if_neg Bool.false_ne_true]
  rfl

/-- A choice that ends changes nothing, at any depth, or gives notice of another option. -/
theorem choose_cases (ends : choose (some listener) (depth + 1) s v = some (outcome, after)) :
    (after = s ∧ ∀ other, choose (some listener) (other + 1) s v = some (outcome, after)) ∨
      s.offers v = true ∧ v.agree s.value = false ∧
        react (choose (some listener) depth) (listener (s.notified v).fired) (s.notified v) =
          some (outcome, after) := by
  cases hoffered : s.offers v with
  | false =>
    cases (choose_of_not_offered depth hoffered).symm.trans ends
    exact .inl ⟨rfl, fun other => choose_of_not_offered other hoffered⟩
  | true =>
    cases hsame : v.agree s.value with
    | true =>
      cases (choose_of_agree depth hoffered hsame).symm.trans ends
      exact .inl ⟨rfl, fun other => choose_of_agree other hoffered hsame⟩
    | false => exact .inr ⟨rfl, rfl, (choose_of_differs depth hoffered hsame).symm.trans ends⟩

/-- A reaction ends in the same way if the choices that are made in it do. -/
theorem react_of_react {choose other : Selection → Value → Outcome} {reaction : Reaction}
    (inner : ∀ {s v outcome after}, choose s v = some (outcome, after) →
      other s v = some (outcome, after))
    (ends : react choose reaction s = some (outcome, after)) :
    react other reaction s = some (outcome, after) := by
  induction reaction generalizing s with
  | done => exact ends
  | fail why => exact ends
  | choose v andThen ih =>
    rw [react] at ends
    split at ends
    · cases ends
    · next first moment hfirst =>
      rw [react, inner hfirst]
      exact ih first ends

/-- A choice that ends does so in the same way if it may be nested deeper. -/
theorem choose_deeper (ends : choose (some listener) depth s v = some (outcome, after)) :
    choose (some listener) (depth + 1) s v = some (outcome, after) := by
  induction depth generalizing s v outcome after with
  | zero => cases ends
  | succ depth ih =>
    rcases choose_cases ends with ⟨-, hsame⟩ | ⟨offered, differs, hreact⟩
    · exact hsame (depth + 1)
    · rw [choose_of_differs (depth + 1) offered differs]
      exact react_of_react ih hreact

theorem choose_of_le {deeper : Nat} (hle : depth ≤ deeper)
    (ends : choose (some listener) depth s v = some (outcome, after)) :
    choose (some listener) deeper s v = some (outcome, after) := by
  induction hle with
  | refl => exact ends
  | step _ ih => exact choose_deeper ih

/-- A choice ends in one way at most. -/
theorem choose_unique {other : Nat} {first second : Except Fault Bool × Selection}
    (ends : choose (some listener) depth s v = some first)
    (ends' : choose (some listener) other s v = some second) : first = second := by
  have h := choose_of_le (Nat.le_max_left depth other) ends
  have h' := choose_of_le (Nat.le_max_right depth other) ends'
  exact Option.some.inj (h.symm.trans h')

/-- A reaction comes to notices if the choices that are made in it do. -/
theorem notices_of_react {choose : Selection → Value → Outcome} {reaction : Reaction}
    (inner : ∀ {s v outcome after}, choose s v = some (outcome, after) →
      ∃ given, Notices s given after)
    (ends : react choose reaction s = some (outcome, after)) :
    ∃ given, Notices s given after := by
  induction reaction generalizing s with
  | done =>
    cases ends
    exact ⟨[], .nil _⟩
  | fail why =>
    cases ends
    exact ⟨[], .nil _⟩
  | choose v andThen ih =>
    rw [react] at ends
    split at ends
    · cases ends
    · next first moment hfirst =>
      obtain ⟨sooner, hsooner⟩ := inner hfirst
      obtain ⟨later, hlater⟩ := ih first ends
      exact ⟨sooner ++ later, hsooner.append hlater⟩

/-- A choice that ends comes to notices. -/
theorem notices_of_choose (ends : choose (some listener) depth s v = some (outcome, after)) :
    ∃ given, Notices s given after := by
  induction depth generalizing s v outcome after with
  | zero => cases ends
  | succ depth ih =>
    rcases choose_cases ends with ⟨rfl, -⟩ | ⟨offered, differs, hreact⟩
    · exact ⟨[], .nil after⟩
    · obtain ⟨given, hgiven⟩ := notices_of_react ih hreact
      exact ⟨v :: given, .cons offered differs hgiven⟩

/-- What the values that were given say of a selection. -/
structure Tracked (initial : Value) (s : Selection) : Prop where
  /-- The value is the last one that was given, or the initial one. -/
  value_eq : s.value = s.fired.getLast?.getD initial
  /-- Each value that was given differs from the one before, and the first from the initial one. -/
  differ : (initial :: s.fired).IsChain fun old new => new.agree old = false

theorem Tracked.notified (h : Tracked initial s) (differs : v.agree s.value = false) :
    Tracked initial (s.notified v) where
  value_eq := by rw [Selection.notified, List.getLast?_concat, Option.getD_some]
  differ := by
    rw [Selection.notified, ← List.cons_append, List.isChain_append]
    refine ⟨h.differ, .singleton v, fun old hold new hnew => ?_⟩
    rw [List.getLast?_cons, ← h.value_eq] at hold
    cases hold
    cases hnew
    exact differs

theorem Notices.tracked (h : Notices s given after) (tracked : Tracked initial s) :
    Tracked initial after := by
  induction h with
  | nil => exact tracked
  | cons _ differs _ ih => exact ih (tracked.notified differs)

/-- What can be done with a selection. -/
inductive Act (listener : Listener) (s : Selection) : Selection → Prop where
  /-- A value is chosen, whatever comes of it. -/
  | chosen {depth : Nat} {v : Value} {outcome : Except Fault Bool} {after : Selection}
      (ends : choose (some listener) depth s v = some (outcome, after)) : Act listener s after
  /-- An option is added at the end. -/
  | appended (option : Choice) : Act listener s (s.append option)
  /-- An option is added before a position. -/
  | inserted (index : Int) (option : Choice) : Act listener s (s.insert index option)
  /-- The option at a position is taken away, if there is one. -/
  | removed (index : Int) : Act listener s ((s.remove index).getD s)
  /-- All options are taken away. -/
  | cleared : Act listener s s.clear

/-- Whether acts lead from one selection to another. -/
abbrev Run (listener : Listener) : Selection → Selection → Prop :=
  Relation.ReflTransGen (Act listener)

/-- An act comes to notices or leaves the value and what was given. -/
theorem Act.notices_or_kept (h : Act listener s after) :
    (∃ depth v outcome given, choose (some listener) depth s v = some (outcome, after) ∧
      Notices s given after) ∨ after.value = s.value ∧ after.fired = s.fired := by
  cases h with
  | chosen ends =>
    obtain ⟨given, hgiven⟩ := notices_of_choose ends
    exact .inl ⟨_, _, _, given, ends, hgiven⟩
  | appended option => exact .inr ⟨rfl, rfl⟩
  | inserted index option => exact .inr ⟨rfl, rfl⟩
  | removed index =>
    refine .inr ?_
    rw [remove]
    split
    · exact ⟨rfl, rfl⟩
    · exact ⟨rfl, rfl⟩
  | cleared => exact .inr ⟨rfl, rfl⟩

/-- How a value was given after others in a run: in the course of a choice, at a moment when it
was offered. -/
inductive Given (listener : Listener) (start s : Selection) (sooner : List Value) (v : Value) :
    Prop where
  /-- The run leads to the choice, the choice to the moment, and all goes on from there. -/
  | amid {before moment after : Selection} {w : Value} {depth : Nat}
      {outcome : Except Fault Bool} {given later : List Value}
      (run : Run listener start before)
      (ends : choose (some listener) depth before w = some (outcome, after))
      (begun : Notices before given moment) (fired_eq : moment.fired = sooner)
      (offered : moment.offers v = true) (rest : Notices (moment.notified v) later after)
      (goesOn : Run listener after s) : Given listener start s sooner v

/-- What is done later does not matter. -/
theorem Given.act (h : Given listener start s sooner v) (act : Act listener s after) :
    Given listener start after sooner v := by
  cases h with
  | amid run ends begun fired_eq offered rest goesOn =>
    exact .amid run ends begun fired_eq offered rest (goesOn.tail act)

/-- What the notices of a run say of the selection that it leads to. -/
structure Informed (listener : Listener) (start : Selection) (initial : Value) (s : Selection) :
    Prop extends Tracked initial s where
  /-- Each value was given at a moment when it was offered. -/
  given : ∀ sooner v later, s.fired = sooner ++ v :: later → Given listener start s sooner v

/-- What was just given was offered, like all that had been given before. -/
theorem Informed.notices {w : Value} (h : Informed listener start initial s)
    (run : Run listener start s)
    (ends : choose (some listener) depth s w = some (outcome, after))
    (notices : Notices s given after) : Informed listener start initial after where
  toTracked := notices.tracked h.toTracked
  given sooner v later hfired := by
    have hsplit := notices.fired_eq.symm.trans hfired
    rcases List.append_eq_append_iff.mp hsplit with ⟨mid, rfl, rfl⟩ | ⟨mid, hold, hnew⟩
    · obtain ⟨moment, hsooner, hoffered, hlater⟩ := notices.moment_of
      exact .amid run ends hsooner hsooner.fired_eq hoffered hlater .refl
    · cases mid with
      | nil =>
        cases hnew
        rw [List.append_nil] at hold
        cases notices with
        | cons hoffered _ hlater => exact .amid run ends (.nil s) hold hoffered hlater .refl
      | cons first mid =>
        cases hnew
        exact (h.given sooner v mid hold).act (.chosen ends)

/-- Each act keeps what is known. -/
theorem Informed.act (h : Informed listener start initial s) (run : Run listener start s)
    (act : Act listener s after) : Informed listener start initial after := by
  rcases act.notices_or_kept with ⟨_, _, _, given, ends, notices⟩ | ⟨hvalue, hfired⟩
  · exact h.notices run ends notices
  · refine ⟨⟨?_, ?_⟩, fun sooner v later hsplit => ?_⟩
    · rw [hvalue, hfired, h.value_eq]
    · rw [hfired]
      exact h.differ
    · exact (h.given sooner v later (hfired ▸ hsplit)).act act

theorem informed_of_make {options : List Choice} {placeholder : String}
    (made : make options initial placeholder = .ok start) :
    Informed listener start initial start := by
  rw [make] at made
  split at made
  · cases made
    exact ⟨⟨rfl, .singleton initial⟩, fun sooner v later h => by simp at h⟩
  · cases made

theorem informed_of_run {options : List Choice} {placeholder : String}
    (made : make options initial placeholder = .ok start) (run : Run listener start s) :
    Informed listener start initial s := by
  induction run with
  | refl => exact informed_of_make made
  | tail run act ih => exact ih.act run act

/-- A listener that goes on from one number to the next. -/
def counting : Listener := .chained [(.int 1, .int 2), (.int 2, .int 3)]

/-- A selection of two numbers, before any is chosen. -/
def uncounted : Selection := ⟨[⟨.int 1, "one"⟩, ⟨.int 2, "two"⟩], .null, "", []⟩

/-- The selection once the first number is chosen. -/
def counted : Selection :=
  { uncounted with value := .int 2, fired := [.int 1, .int 2] }

/-- The selection once the options are replaced and the first number is chosen again. -/
def recounted : Selection := ⟨[⟨.int 1, "one"⟩], .int 1, "", [.int 1, .int 2, .int 1]⟩

end Selection

end SearchAnnotation
