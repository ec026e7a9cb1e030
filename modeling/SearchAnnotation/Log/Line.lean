import SearchAnnotation.Log
import SearchAnnotation.Log.Template

/-!
# The line of a record

The line of a record is its time, if that is shown, its level, logger and message, and then its
extra attributes. The attributes that every record has can be given like extra ones. Time, level,
logger and message are then replaced, the message is a template for the arguments, and the text of
an error and of a stack follow on lines of their own.
-/

namespace SearchAnnotation.LogRecord

/-- Why a record has no line. -/
inductive Fault where
  /-- The message cannot be filled with the arguments. -/
  | message (why : Template.Fault)
  /-- An attribute is of the wrong kind. -/
  | wrongKind
  /-- The facts about an error are too few. -/
  | tooFew
  /-- The facts about an error are an object. -/
  | unordered
  /-- The facts are about something that is no error. -/
  | notError
deriving DecidableEq, Repr

/-- An attribute of the record's own, if it is given. -/
def own (record : LogRecord) (name : String) (fallback : Value) : Value :=
  (record.extras.lookup name).getD fallback

/-- The message, filled with the arguments if there are any. -/
def filledMessage (record : LogRecord) : Except Fault (List Char) :=
  let message := (record.own "msg" (.ofName record.message)).display
  let arguments := record.own "args" .null
  if (record.extras.lookup "getMessage").isSome then .error .wrongKind
  else if arguments.isTrivial then .ok message
  else (Template.fill message arguments).mapError .message

/-- The text of an error from three facts about it: its kind, itself and where it arose. -/
def errorText : Value → Except Fault Value
  | .list (_ :: .null :: .null :: _) => .ok (.text "NoneType: None")
  | .list (_ :: _ :: _ :: _) => .error .notError
  | .list _ => .error .tooFew
  | .text s => if s.length < 3 then .error .tooFew else .error .notError
  | .unpaired u => if u.codes.length < 3 then .error .tooFew else .error .notError
  | .object _ => .error .unordered
  | _ => .error .wrongKind

/-- A text with another on a line of its own after it, unless that is trivial. -/
def withLine (cs : List Char) (v : Value) : Except Fault (List Char) :=
  if v.isTrivial then .ok cs
  else
    let cs := if cs.getLast? == some '\n' then cs else cs ++ ['\n']
    match v with
    | .text _ | .unpaired _ => .ok (cs ++ v.display)
    | _ => .error .wrongKind

/-- The text of the error that a record is about, as given or from the facts. -/
def errorOf (record : LogRecord) : Except Fault Value :=
  let text := record.own "exc_text" .null
  let facts := record.own "exc_info" .null
  if facts.isTrivial || !text.isTrivial then .ok text else errorText facts

/-- When records are made, and how that is shown. -/
structure Clock where
  /-- The seconds. -/
  created : Value
  /-- The milliseconds after the full second. -/
  msecs : Value
  /-- The local time after so many seconds. -/
  localTime : Value → Except Fault (List Char)

/-- The time of a record that was made after so many seconds and milliseconds. -/
def Clock.text (clock : Clock) (created msecs : Value) : Except Fault (List Char) := do
  let seconds ← clock.localTime created
  let fraction ← (Template.fill ",%03d".toList msecs).mapError .message
  return seconds ++ fraction

/-- What stands before the level: the time of the record, if it is shown. -/
def front (record : LogRecord) : Option Clock → Except Fault (List Char)
  | none => .ok []
  | some clock => do
    let time ← clock.text (record.own "created" clock.created) (record.own "msecs" clock.msecs)
    return time ++ [' ']

/-- The line of a record. -/
def line (clock : Option Clock) (record : LogRecord) : Except Fault String := do
  let message ← record.filledMessage
  let front ← record.front clock
  let level := (record.own "levelname" (.text record.level)).display
  let logger := (record.own "name" (.text record.logger)).display
  let base ← withLine (front ++ level ++ ' ' :: logger ++ ':' :: ' ' :: message) (← record.errorOf)
  let base ← withLine base (record.own "stack_info" .null)
  return String.ofList base ++ context record.extras

end SearchAnnotation.LogRecord
