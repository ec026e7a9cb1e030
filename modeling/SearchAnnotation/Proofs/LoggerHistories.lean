import Mathlib.Data.List.Infix
import SearchAnnotation.Log.History

/-!
# What histories make of the package logger

However often the package logger is set up, it has one console handler of its own at most, and it
has one as soon as a set-up that was not refused wanted the console. This takes that the handlers
of others do not carry the mark of that handler. They stay in the order in which they were added,
and the level is the one that was set last. A refused set-up changes nothing, and neither does a
set-up that is repeated.
-/

namespace SearchAnnotation.Log

variable {logger : Logger} {event : Event} {events more : List Event} {level : String}
  {console : Bool} {start n : Nat}

/-- The handler of somebody else that an event adds. -/
def Event.added? : Event → Option Handler
  | .setup _ _ => none
  | .addition handler => some handler

/-- The level that an event sets. -/
def Event.levelSet? : Event → Option Nat
  | .setup level _ => levels.lookup level
  | .addition _ => none

/-- Whether an event is a set-up that is not refused and wants the console. -/
def Event.wantsConsole : Event → Bool
  | .setup level console => console && (levels.lookup level).isSome
  | .addition _ => false

/-- The handlers that an event adds to others. -/
def Event.adds (handlers : List Handler) (event : Event) : List Handler :=
  match event.added? with
  | some handler => [handler]
  | none => if event.wantsConsole && !handlers.any Handler.marked then [.console] else []

namespace Logger

theorem setLevel_of_unknown (unknown : levels.lookup level = none) :
    logger.setLevel level = (some ⟨level⟩, logger) := by
  simp only [setLevel, unknown]

theorem setLevel_of_known (known : levels.lookup level = some n) :
    logger.setLevel level = (none, { logger with level := n }) := by
  simp only [setLevel, known]

theorem setup_of_unknown (unknown : levels.lookup level = none) :
    logger.setup level console = (some ⟨level⟩, logger) := by
  simp only [setup, setLevel_of_unknown unknown]

theorem setup_of_known (known : levels.lookup level = some n) :
    logger.setup level console =
      (none, ⟨n, logger.handlers ++ (Event.setup level console).adds logger.handlers⟩) := by
  cases console with
  | false =>
    simp [setup, setLevel_of_known known, Event.adds, Event.added?, Event.wantsConsole]
  | true =>
    cases hmarked : logger.handlers.any Handler.marked <;>
      simp [setup, setLevel_of_known known, addConsole, addHandler, hmarked, Event.adds,
        Event.added?, Event.wantsConsole, known]

/-- An event sets the level or leaves it, and adds to the handlers behind those that are there. -/
theorem step_eq :
    (logger.step event).2 =
      ⟨event.levelSet?.getD logger.level, logger.handlers ++ event.adds logger.handlers⟩ := by
  cases event with
  | addition handler => rfl
  | setup level console =>
    cases hlevel : levels.lookup level with
    | none =>
      have hadds : (Event.setup level console).adds logger.handlers = [] := by
        simp [Event.adds, Event.added?, Event.wantsConsole, hlevel]
      rw [step, setup_of_unknown hlevel, hadds, List.append_nil, Event.levelSet?, hlevel]
      rfl
    | some n =>
      rw [step, setup_of_known hlevel, Event.levelSet?, hlevel]
      rfl

end Logger

namespace Event

variable {handlers : List Handler}

/-- An event adds a marked handler only where none is, if others do not mark theirs. -/
theorem countP_marked_adds (foreign : ∀ handler, event.added? = some handler →
    handler.marked = false) (handlers : List Handler) :
    handlers.countP Handler.marked + (event.adds handlers).countP Handler.marked ≤
      max 1 (handlers.countP Handler.marked) := by
  unfold adds
  cases hadded : event.added? with
  | some handler =>
    have hnone : [handler].countP Handler.marked = 0 := by
      rw [List.countP_singleton, foreign handler hadded]
      rfl
    dsimp only
    omega
  | none =>
    dsimp only
    split
    · next h =>
      have hnone : handlers.countP Handler.marked = 0 := by
        simpa [List.countP_eq_zero] using (Bool.and_eq_true_iff.mp h).2
      have hone : [Handler.console].countP Handler.marked = 1 := rfl
      omega
    · rw [List.countP_nil]
      omega

/-- A marked handler that an event adds is the package's own. -/
theorem eq_console_of_mem_adds (foreign : ∀ handler, event.added? = some handler →
    handler.marked = false) {handler : Handler} (hadds : handler ∈ event.adds handlers)
    (hmarked : handler.marked = true) : handler = .console := by
  unfold adds at hadds
  cases hadded : event.added? with
  | some other =>
    rw [hadded, List.mem_singleton] at hadds
    have hnot := foreign other hadded
    rw [← hadds, hmarked] at hnot
    cases hnot
  | none =>
    rw [hadded] at hadds
    dsimp only at hadds
    split at hadds
    · exact List.mem_singleton.mp hadds
    · exact absurd hadds List.not_mem_nil

/-- There is a marked handler after an event if there was one before or the console is wanted. -/
theorem any_marked_adds (foreign : ∀ handler, event.added? = some handler →
    handler.marked = false) :
    (handlers ++ event.adds handlers).any Handler.marked =
      (handlers.any Handler.marked || event.wantsConsole) := by
  cases event with
  | addition handler =>
    have hnot : handler.marked = false := foreign handler rfl
    simp [adds, added?, wantsConsole, hnot]
  | setup level console =>
    cases hmarked : handlers.any Handler.marked <;>
      cases hwants : (setup level console).wantsConsole <;>
        simp [adds, added?, hwants, hmarked, Handler.console]

theorem filter_unmarked_adds (foreign : ∀ handler, event.added? = some handler →
    handler.marked = false) :
    ((event.adds handlers).filter fun handler => !handler.marked) = event.added?.toList := by
  unfold adds
  cases hadded : event.added? with
  | some handler => simp [foreign handler hadded]
  | none =>
    dsimp only
    split <;> rfl

end Event

namespace Logger

theorem after_append : logger.after (events ++ more) = (logger.after events).after more :=
  List.foldl_append

theorem after_cons : logger.after (event :: events) = (logger.step event).2.after events := rfl

/-- Handlers are never removed or moved. -/
theorem handlers_kept (logger : Logger) (events : List Event) :
    logger.handlers <+: (logger.after events).handlers := by
  induction events generalizing logger with
  | nil => exact List.prefix_refl _
  | cons event rest ih =>
    have hstep : logger.handlers <+: (logger.step event).2.handlers := by
      rw [step_eq]
      exact List.prefix_append _ _
    rw [after_cons]
    exact hstep.trans (ih _)

/-- Additions leave the level. -/
theorem level_after_additions (logger : Logger) (handlers : List Handler) :
    (logger.after (handlers.map .addition)).level = logger.level := by
  induction handlers generalizing logger with
  | nil => rfl
  | cons handler rest ih =>
    rw [List.map_cons, after_cons, ih, step_eq]
    rfl

/-- What a history has made of a logger that had a level and no handlers. -/
structure Recounts (start : Nat) (events : List Event) (logger : Logger) : Prop where
  /-- There is one marked handler at most. -/
  single : logger.handlers.countP Handler.marked ≤ 1
  /-- It is the console handler of the package. -/
  own : ∀ handler ∈ logger.handlers, handler.marked = true → handler = .console
  /-- There is one exactly if a set-up that was not refused wanted it. -/
  console : .console ∈ logger.handlers ↔ ∃ event ∈ events, event.wantsConsole = true
  /-- The handlers of others are those that were added, in order. -/
  others : (logger.handlers.filter fun handler => !handler.marked) = events.filterMap Event.added?
  /-- The level is the one that was set last. -/
  level : logger.level = ((events.filterMap Event.levelSet?).getLast?).getD start

theorem recounts_nil (start : Nat) : Recounts start [] ⟨start, []⟩ where
  single := by simp
  own := by simp
  console := by simp
  others := rfl
  level := rfl

/-- Where only the package's own handler is marked, it is there just if some handler is marked. -/
theorem console_mem_iff_any_marked (own : ∀ handler ∈ logger.handlers, handler.marked = true →
    handler = .console) :
    .console ∈ logger.handlers ↔ logger.handlers.any Handler.marked = true := by
  rw [List.any_eq_true]
  constructor
  · exact fun hmem => ⟨.console, hmem, rfl⟩
  · rintro ⟨handler, hmem, hmarked⟩
    exact own handler hmem hmarked ▸ hmem

theorem Recounts.step (h : Recounts start events logger) (event : Event)
    (foreign : ∀ handler, event.added? = some handler → handler.marked = false) :
    Recounts start (events ++ [event]) (logger.step event).2 := by
  have hown : ∀ handler ∈ logger.handlers ++ event.adds logger.handlers,
      handler.marked = true → handler = .console := by
    intro handler hmem hmarked
    rcases List.mem_append.mp hmem with hold | hadds
    · exact h.own handler hold hmarked
    · exact event.eq_console_of_mem_adds foreign hadds hmarked
  rw [step_eq]
  constructor
  · have hcount := event.countP_marked_adds foreign logger.handlers
    have hsingle := h.single
    rw [List.countP_append]
    omega
  · exact hown
  · have hbefore := (console_mem_iff_any_marked h.own).symm.trans h.console
    rw [console_mem_iff_any_marked hown, Event.any_marked_adds foreign, Bool.or_eq_true, hbefore]
    simp [or_and_right, exists_or]
  · rw [List.filter_append, List.filterMap_append, h.others, event.filter_unmarked_adds foreign]
    cases hadded : event.added? <;> simp [hadded]
  · cases hlevel : event.levelSet? with
    | none => simp [hlevel, h.level]
    | some n => simp [hlevel]

theorem recounts_after (start : Nat) (events : List Event)
    (foreign : ∀ handler, .addition handler ∈ events → handler.marked = false) :
    Recounts start events (after ⟨start, []⟩ events) := by
  induction events using List.reverseRecOn with
  | nil => exact recounts_nil start
  | append_singleton events event ih =>
    have hbefore : ∀ handler, .addition handler ∈ events → handler.marked = false :=
      fun handler hmem => foreign handler (List.mem_append_left _ hmem)
    have hlast : ∀ handler, event.added? = some handler → handler.marked = false := by
      intro handler hadded
      cases event with
      | setup level console => cases hadded
      | addition other =>
        obtain rfl : other = handler := Option.some.inj hadded
        exact foreign other (List.mem_append_right _ List.mem_cons_self)
    rw [after_append]
    exact (ih hbefore).step event hlast

/-- What a set-up does to a logger, whatever happened to the logger before. -/
structure SetsUp (logger : Logger) (level : String) (console : Bool) : Prop where
  /-- An unknown level is refused, and the logger is left as it was. -/
  refused : levels.lookup level = none → logger.setup level console = (some ⟨level⟩, logger)
  /-- A known level is not refused. -/
  accepted : ∀ n, levels.lookup level = some n → (logger.setup level console).1 = none
  /-- Repeated, also after others added handlers, it ends as before and changes nothing. -/
  repeated : ∀ handlers : List Handler,
    let once := logger.after (.setup level console :: handlers.map .addition)
    once.setup level console = ((logger.setup level console).1, once)

/-- A set-up changes nothing if its level is set and a marked handler is there or not wanted. -/
theorem setup_eq_self (known : levels.lookup level = some logger.level)
    (there : console = true → logger.handlers.any Handler.marked = true) :
    logger.setup level console = (none, logger) := by
  have hadds : (Event.setup level console).adds logger.handlers = [] := by
    cases console with
    | false => simp [Event.adds, Event.added?, Event.wantsConsole]
    | true => simp [Event.adds, Event.added?, there rfl]
  rw [setup_of_known known, hadds, List.append_nil]

theorem sets_up (logger : Logger) (level : String) (console : Bool) :
    SetsUp logger level console where
  refused := setup_of_unknown
  accepted n known := by rw [setup_of_known known]
  repeated handlers := by
    intro once
    cases hlevel : levels.lookup level with
    | none => rw [setup_of_unknown hlevel, setup_of_unknown hlevel]
    | some n =>
      have honce : once = (logger.step (.setup level console)).2.after (handlers.map .addition) :=
        after_cons
      have hset : levels.lookup level = some once.level := by
        rw [honce, level_after_additions, step_eq, Event.levelSet?, hlevel]
        rfl
      have hthere : console = true → once.handlers.any Handler.marked = true := by
        rintro rfl
        have hadded : (logger.step (.setup level true)).2.handlers.any Handler.marked = true := by
          have hnone : ∀ handler, (Event.setup level true).added? = some handler →
              handler.marked = false := fun handler h => nomatch h
          rw [step_eq, Event.any_marked_adds hnone, Event.wantsConsole, hlevel]
          simp
        obtain ⟨handler, hmem, hmarked⟩ := List.any_eq_true.mp hadded
        have hkept := handlers_kept (logger.step (.setup level true)).2 (handlers.map .addition)
        rw [honce]
        exact List.any_eq_true.mpr ⟨handler, hkept.subset hmem, hmarked⟩
      rw [setup_eq_self hset hthere, setup_of_known hlevel]

/-- Whatever happens to a logger without handlers, its history is told by its console handler, the
handlers of others and its level, unless others mark theirs; handlers stay where they are; and a
set-up at any time either is refused and changes nothing or need not be repeated. -/
theorem history_of_setups (start : Nat) (events : List Event)
    (foreign : ∀ handler, .addition handler ∈ events → handler.marked = false) :
    Recounts start events (after ⟨start, []⟩ events) ∧
      (∀ more, (after ⟨start, []⟩ events).handlers <+:
        (after ⟨start, []⟩ (events ++ more)).handlers) ∧
      ∀ level console, SetsUp (after ⟨start, []⟩ events) level console := by
  refine ⟨recounts_after start events foreign, fun more => ?_, fun level console => ?_⟩
  · rw [after_append]
    exact handlers_kept _ more
  · exact sets_up _ level console

/-- A history with two handlers of others and a refused set-up between them. -/
def sixEvents : List Event := [.setup "INFO" false, .addition ⟨"file", false⟩,
  .setup "LOUD" true, .setup "INFO" true, .addition ⟨"mail", false⟩, .setup "DEBUG" true]

theorem history_of_sixEvents :
    (∀ handler, .addition handler ∈ sixEvents → handler.marked = false) ∧
      after ⟨0, []⟩ sixEvents = ⟨10, [⟨"file", false⟩, .console, ⟨"mail", false⟩]⟩ ∧
      Recounts 0 sixEvents (after ⟨0, []⟩ sixEvents) ∧
      (∀ more, (after ⟨0, []⟩ sixEvents).handlers <+:
        (after ⟨0, []⟩ (sixEvents ++ more)).handlers) ∧
      ∀ level console, SetsUp (after ⟨0, []⟩ sixEvents) level console := by
  have hforeign : ∀ handler, .addition handler ∈ sixEvents → handler.marked = false := by
    simp [sixEvents]
  exact ⟨hforeign, by decide, history_of_setups 0 sixEvents hforeign⟩

end Logger

end SearchAnnotation.Log
