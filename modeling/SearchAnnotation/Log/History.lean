import SearchAnnotation.Log.Setup

/-!
# Histories of the package logger

The package logger is set up again and again while others add handlers to it. What a set-up wrote
before a fault stays written, and a history goes on after a set-up that is refused.
-/

namespace SearchAnnotation.Log

/-- Something that happens to the package logger. -/
inductive Event where
  /-- It is set up with the name of a level, and the console is wanted or not. -/
  | setup (level : String) (console : Bool)
  /-- Somebody else adds a handler. -/
  | addition (handler : Handler)
deriving DecidableEq, Repr

namespace Logger

/-- What an event makes of a logger, and why it was refused, if it was. -/
def step (logger : Logger) : Event → Option UnknownLevel × Logger
  | .setup level console => logger.setup level console
  | .addition handler => (none, logger.addHandler handler)

/-- A logger after events in order, refused ones included. -/
def after (logger : Logger) (events : List Event) : Logger :=
  events.foldl (fun logger event => (logger.step event).2) logger

end Logger

end SearchAnnotation.Log
