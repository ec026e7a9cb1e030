import SearchAnnotation.Log

/-!
# Setting up the log

Setting up takes the level by its name and adds the package's console handler, unless a handler
that is marked as such is already there or the console is not wanted. An unknown level is refused
before anything changes. A set-up writes in two places, first the level and then the handlers.
-/

namespace SearchAnnotation.Log

/-- A handler of the package logger. -/
structure Handler where
  /-- What it is called. -/
  name : String
  /-- Whether it is marked as the console handler of the package. -/
  marked : Bool
deriving DecidableEq, Repr

/-- The console handler of the package. -/
def Handler.console : Handler := ⟨"console", true⟩

/-- The package logger. -/
structure Logger where
  /-- The numeric level. -/
  level : Nat
  /-- The handlers in the order of their addition. -/
  handlers : List Handler
deriving DecidableEq, Repr

/-- A logger before any set-up. -/
def Logger.fresh : Logger := ⟨0, []⟩

/-- The numeric levels by name. -/
def levels : List (String × Nat) := [
  ("CRITICAL", 50), ("FATAL", 50), ("ERROR", 40), ("WARN", 30), ("WARNING", 30), ("INFO", 20),
  ("DEBUG", 10), ("NOTSET", 0)]

/-- A level name that is not known. -/
structure UnknownLevel where
  /-- The name. -/
  name : String
deriving DecidableEq, Repr

/-- The explanation of an unknown level. -/
def UnknownLevel.message (fault : UnknownLevel) : String :=
  "Unknown level: " ++ (Value.text fault.name).literalString

namespace Logger

/-- Takes the level of a name. Answers why not, if the name is unknown, and the logger as it is
left. -/
def setLevel (logger : Logger) (name : String) : Option UnknownLevel × Logger :=
  match levels.lookup name with
  | none => (some ⟨name⟩, logger)
  | some n => (none, { logger with level := n })

/-- Adds a handler. -/
def addHandler (logger : Logger) (handler : Handler) : Logger :=
  { logger with handlers := logger.handlers ++ [handler] }

/-- Adds the console handler, unless some handler is marked. -/
def addConsole (logger : Logger) : Logger :=
  if logger.handlers.any Handler.marked then logger else logger.addHandler .console

/-- Sets the logger up. Answers why it was refused, if it was, and the logger as it is left. -/
def setup (logger : Logger) (level : String) (console : Bool) : Option UnknownLevel × Logger :=
  match logger.setLevel level with
  | (some why, logger) => (some why, logger)
  | (none, logger) => (none, if console then logger.addConsole else logger)

end Logger

end SearchAnnotation.Log
