import SearchAnnotation.Json.Printer
import SearchAnnotation.Reading.Number

/-!
# Reading values as typed ones

Request bodies and settings are values that must be read as texts, numbers, truth values and
lists. Reading is lenient where a text or another kind of number plainly stands for what is
needed. Everything that does not fit is reported, each complaint with the place where it arose,
and two readings side by side report the complaints of both.
-/

namespace SearchAnnotation

namespace Reading

/-- Why a value cannot be read. -/
inductive Problem where
  /-- A field is missing. -/
  | missing
  /-- A text was needed. -/
  | stringType
  /-- A whole number was needed. -/
  | intType
  /-- A text stands for no whole number. -/
  | intParsing
  /-- A whole number is too large to be read. -/
  | intParsingSize
  /-- A number has a fraction. -/
  | intFromFloat
  /-- A number is not finite. -/
  | finiteNumber
  /-- A number was needed. -/
  | floatType
  /-- A text stands for no number. -/
  | floatParsing
  /-- A truth value was needed. -/
  | boolType
  /-- A text or number stands for no truth value. -/
  | boolParsing
  /-- A list was needed. -/
  | listType
  /-- An object was needed whose names are free. -/
  | dictType
  /-- An object with given names was needed. -/
  | modelAttributesType
  /-- A body is no JSON. -/
  | jsonInvalid
deriving DecidableEq, Repr

/-- The word that reports a problem. -/
def Problem.word : Problem → String
  | missing => "missing"
  | stringType => "string_type"
  | intType => "int_type"
  | intParsing => "int_parsing"
  | intParsingSize => "int_parsing_size"
  | intFromFloat => "int_from_float"
  | finiteNumber => "finite_number"
  | floatType => "float_type"
  | floatParsing => "float_parsing"
  | boolType => "bool_type"
  | boolParsing => "bool_parsing"
  | listType => "list_type"
  | dictType => "dict_type"
  | modelAttributesType => "model_attributes_type"
  | jsonInvalid => "json_invalid"

/-- One step on the way to a part of a value. -/
inductive Step where
  /-- Into a field. -/
  | field (name : String)
  /-- Into an item. -/
  | item (index : Nat)
deriving DecidableEq, Repr

/-- A step as a value. -/
def Step.toValue : Step → Value
  | field name => .text name
  | item index => .int index

/-- A problem, where it arose and what was found there. -/
structure Complaint where
  /-- The way to the part that does not fit. -/
  place : List Step
  /-- What is wrong with it. -/
  problem : Problem
  /-- The value that does not fit, or the one around a field that is missing. -/
  found : Value
deriving DecidableEq, Repr

namespace Complaint

/-- The place of a complaint as a value. -/
def placeValue (complaint : Complaint) : Value := .list (complaint.place.map Step.toValue)

/-- The document that shows a complaint. -/
def toDocument (complaint : Complaint) : Value :=
  .object [("loc", complaint.placeValue), ("type", .text complaint.problem.word)]

/-- Complaints are shown by the JSON text of their places, then by their words. -/
def precedes (a b : Complaint) : Bool :=
  let x := String.ofList (Json.render a.placeValue)
  let y := String.ofList (Json.render b.placeValue)
  x < y || x == y && !(b.problem.word < a.problem.word)

/-- The document that shows several complaints. -/
def listDocument (complaints : List Complaint) : Value :=
  .list ((complaints.mergeSort precedes).map toDocument)

end Complaint

end Reading

/-- What reading gives: a typed value, or everything that does not fit. -/
inductive Reading (α : Type) where
  /-- The value fits. -/
  | done (value : α)
  /-- The value does not fit. -/
  | refused (complaints : List Reading.Complaint)
deriving Repr

namespace Reading

/-- A reading with its value changed. -/
def map {α β : Type} (f : α → β) : Reading α → Reading β
  | done value => done (f value)
  | refused complaints => refused complaints

/-- Applies a function that was read to an argument that was read. The complaints of both are
kept. -/
def app {α β : Type} : Reading (α → β) → Reading α → Reading β
  | done f, done value => done (f value)
  | done _, refused complaints => refused complaints
  | refused complaints, done _ => refused complaints
  | refused first, refused second => refused (first ++ second)

instance : Applicative Reading where
  map := map
  pure := done
  seq f x := app f (x ())

/-- A reading that fails with one problem at the value itself. -/
def refuse {α : Type} (problem : Problem) (found : Value) : Reading α :=
  refused [⟨[], problem, found⟩]

/-- A reading of a part, its complaints placed in the whole. -/
def within {α : Type} (step : Step) : Reading α → Reading α
  | done value => done value
  | refused complaints =>
    refused (complaints.map fun complaint => { complaint with place := step :: complaint.place })

/-- Readings one after the other, the complaints of all kept. -/
def sequence {α : Type} : List (Reading α) → Reading (List α)
  | [] => done []
  | x :: rest => List.cons <$> x <*> sequence rest

/-- A text as it is. -/
def text : Value → Reading String
  | .text s => done s
  | .unpaired u => done (Value.unpaired u).displayString
  | v => refuse .stringType v

/-- A text as a name, which may have surrogates standing alone. -/
def name : Value → Reading Name
  | .text s => done s
  | .unpaired u => done (.unpaired u)
  | v => refuse .stringType v

/-- The whole number that a binary64 number equals, if it is safely within sixty-four bits. -/
def intOfFloat (x : Binary64) : Reading Int :=
  if !x.isFinite then refuse .finiteNumber (.float x)
  else
    match x.toInt? with
    | none => refuse .intFromFloat (.float x)
    | some n =>
      if -9223372036854775808 < n && n < 9223372036854775808 then done n
      else refuse .intParsingSize (.float x)

/-- A whole number, also from a truth value, from a number without a fraction or from text. -/
def int : Value → Reading Int
  | .int n => done n
  | .bool b => done (if b then 1 else 0)
  | .float x => intOfFloat x
  | .text s =>
    match whole s.toList with
    | .number n => done n
    | .tooLong => refuse .intParsingSize (.text s)
    | .malformed => refuse .intParsing (.text s)
  | v => refuse .intType v

/-- A binary64 number, also from a whole number, a truth value or text. -/
def float : Value → Reading Binary64
  | .float x => done x
  | .int n =>
    let x := Binary64.ofInt n
    if x.isFinite then done x else refuse .floatType (.int n)
  | .bool b => done (Binary64.ofInt (if b then 1 else 0))
  | .text s =>
    match float? s.toList with
    | some x => done x
    | none => refuse .floatParsing (.text s)
  | v => refuse .floatType v

/-- The words for false, in lower case. -/
def falseWords : List String := ["0", "off", "f", "false", "n", "no"]

/-- The words for true, in lower case. -/
def trueWords : List String := ["1", "on", "t", "true", "y", "yes"]

/-- The truth value that a whole number stands for. Past sixty-four bits a number is no candidate
for one. -/
def boolOfInt (n : Int) : Reading Bool :=
  if n = 0 then done false
  else if n = 1 then done true
  else if -9223372036854775808 ≤ n && n < 9223372036854775808 then refuse .boolParsing (.int n)
  else refuse .boolType (.int n)

/-- A truth value, also from zero and one or from a word. -/
def bool : Value → Reading Bool
  | .bool b => done b
  | .int n => boolOfInt n
  | .float x =>
    match intOfFloat x with
    | done n => boolOfInt n
    | refused _ => refuse .boolType (.float x)
  | .text s =>
    let word := String.ofList (s.toList.map Char.toLower)
    if falseWords.contains word then done false
    else if trueWords.contains word then done true
    else refuse .boolParsing (.text s)
  | v => refuse .boolType v

/-- A list, each of its items read in the same way. -/
def list {α : Type} (item : Value → Reading α) : Value → Reading (List α)
  | .list items => sequence (items.zipIdx.map fun (v, i) => (item v).within (.item i))
  | v => refuse .listType v

/-- A name as a step shows it: each surrogate that stands alone as a mark for each of the octets
that would spell it. -/
def shown : Name → String
  | .text s => s
  | .unpaired u => String.ofList (u.codes.flatMap fun n =>
    match Encoding.charOf? n with
    | some c => [c]
    | none => List.replicate 3 Encoding.replacement)

/-- An object, each of its values read in the same way. -/
def table {α : Type} (item : Value → Reading α) : Value → Reading (List (Name × α))
  | .object fields =>
    sequence (fields.map fun (name, v) => ((name, ·) <$> item v).within (.field (shown name)))
  | v => refuse .dictType v

/-- A value, or nothing for null. -/
def optional {α : Type} (item : Value → Reading α) : Value → Reading (Option α)
  | .null => done none
  | v => some <$> item v

/-- A field that must be there. -/
def field {α : Type} (item : Value → Reading α) (fields : Fields) (name : String) : Reading α :=
  match Fields.get? fields name with
  | some v => (item v).within (.field name)
  | none => (refuse .missing (.object fields)).within (.field name)

end Reading

end SearchAnnotation
