import SearchAnnotation.Connection.Parts
import SearchAnnotation.Reading.Number
import SearchAnnotation.Text.Integer
import SearchAnnotation.Text.LowerCase

/-!
# Options of the engine

Six options of an address set up the engine, and each has a kind of its own. Every other option
belongs to the place of the store, where it only counts if the place is read as an address itself.
-/

namespace SearchAnnotation.Connection

/-- The kinds of the engine's options. -/
inductive OptionKind where
  /-- A word for yes or no. -/
  | flag
  /-- A number. -/
  | number
  /-- A whole number. -/
  | whole
  /-- Any text. -/
  | text
deriving DecidableEq, Repr

/-- What is wrong with an option. -/
inductive OptionFault where
  /-- The value has another kind. -/
  | kind
  /-- There are several values where one is expected. -/
  | repeated
deriving DecidableEq, Repr

/-- The options that set up the engine, in the order in which they are read. -/
def settingKinds : List (String × OptionKind) := [
  ("uri", .flag), ("timeout", .number), ("isolation_level", .text), ("detect_types", .whole),
  ("check_same_thread", .flag), ("cached_statements", .whole)]

/-- The words for yes and for no. -/
def flagWords : List String × List String :=
  (["true", "yes", "on", "y", "t", "1"], ["false", "no", "off", "n", "f", "0"])

/-- What a word says. -/
def flag? (cs : List Char) : Option Bool :=
  let word := String.ofList (Text.lowerCase (Text.trim Text.isBlank cs))
  if flagWords.1.contains word then some true
  else if flagWords.2.contains word then some false
  else none

/-- A text with its digits in seven bits and without the underscores between digits, unless an
underscore stands elsewhere. -/
def plainNumber? : List Char → Option (List Char)
  | [] => some []
  | [c] => if c == '_' then none else some [plain c]
  | a :: '_' :: rest =>
    match rest with
    | b :: _ =>
      if (Text.digit? a).isSome && (Text.digit? b).isSome then
        (plainNumber? rest).map (plain a :: ·)
      else none
    | [] => none
  | a :: rest => if a == '_' then none else (plainNumber? rest).map (plain a :: ·)
where
  /-- A digit of any script in seven bits. -/
  plain (c : Char) : Char :=
    match Text.digit? c with
    | some n => Nat.digitChar n
    | none => c

/-- Whether a text is a number. -/
def isNumber (cs : List Char) : Bool :=
  ((plainNumber? (Text.trim Text.isWhiteSpace cs)).bind Reading.strictFloat?).isSome

/-- Whether a text is of a kind. -/
def OptionKind.admits : OptionKind → List Char → Bool
  | flag, value => (flag? value).isSome
  | number, value => isNumber value
  | whole, value => (Text.integer? value).isSome
  | text, _ => true

/-- What is wrong with the values of an option of a kind. Several values are a yes, and a text
like any other, but no number. -/
def OptionKind.fault? : OptionKind → List (List Char) → Option OptionFault
  | _, [] => none
  | kind, [value] => if kind.admits value then none else some .kind
  | number, _ | whole, _ => some .repeated
  | flag, _ | text, _ => none

/-- What is wrong with the first option that cannot be read. -/
def Parts.settingFault? (parts : Parts) : Option OptionFault :=
  settingKinds.findSome? fun (name, kind) => kind.fault? (parts.values name)

/-- Whether the place of the store is read as an address itself. -/
def Parts.placeIsAddress (parts : Parts) : Bool :=
  match parts.values "uri" with
  | [] => false
  | [value] => flag? value == some true
  | _ => true

/-- Whether there are options that belong to the place of the store. -/
def Parts.hasPlaceOptions (parts : Parts) : Bool :=
  parts.options.any fun option =>
    !((settingKinds.map Prod.fst) ++ ["plugin", "plugins"]).contains (String.ofList option.1)

example : isNumber " 1_0.5e3".toList = true ∧ isNumber "1_.5".toList = false := by decide +kernel

end SearchAnnotation.Connection
