import SearchAnnotation.Value.Text

/-!
# Log lines

A record is shown by its level, logger and message, and after a bar by its extra attributes in the
order of their names, each with its literal value. Attributes that every record has are not shown
there, so what stands after the bar does not depend on the order in which attributes were given.
-/

namespace SearchAnnotation

/-- Attributes of a record by name. -/
abbrev Attributes := List (String × Value)

/-- Something worth logging. -/
structure LogRecord where
  /-- The name of the logger. -/
  logger : String
  /-- The name of the level. -/
  level : String
  /-- The message. -/
  message : Name
  /-- Extra attributes. -/
  extras : Attributes
deriving DecidableEq, Repr

namespace LogRecord

/-- The loggers of the package are named below this one. -/
def rootLogger : String := "rankingtools"

/-- The name of a module's logger: below the root unless it starts with its name. -/
def loggerName (name : String) : String :=
  if rootLogger.toList.isPrefixOf name.toList then name else rootLogger ++ "." ++ name

/-- Attributes that every record has. -/
def reserved : List String := [
  "name", "msg", "args", "levelname", "levelno", "pathname", "filename", "module", "exc_info",
  "exc_text", "stack_info", "lineno", "funcName", "created", "msecs", "relativeCreated", "thread",
  "threadName", "processName", "process", "message", "asctime"]

/-- The extra attributes that are shown, by name. -/
def shown (extras : Attributes) : Attributes :=
  (extras.filter fun extra => !reserved.contains extra.1).mergeSort fun a b => !(b.1 < a.1)

/-- One attribute with its literal value. -/
def item (extra : String × Value) : String := extra.1 ++ "=" ++ extra.2.literalString

/-- The level, the logger and the message. -/
def base (record : LogRecord) : String :=
  record.level ++ " " ++ record.logger ++ ": " ++ (Value.ofName record.message).displayString

/-- What a line shows after the message: nothing if there are no extra attributes. -/
def context (extras : Attributes) : String :=
  match shown extras with
  | [] => ""
  | extras => " | " ++ " ".intercalate (extras.map item)

end LogRecord

end SearchAnnotation
