import SearchAnnotation.Text.Percent
import SearchAnnotation.Text.Pieces
import SearchAnnotation.Text.Word

/-!
# Parts of a store's address

After the name of an engine and two slashes there may be a user, a host and a port, the place of
the store after another slash, and options after a question mark. A part that is missing differs
from one that is empty. The options end with the first line.
-/

namespace SearchAnnotation.Connection

/-- An address of a store in parts. -/
structure Parts where
  /-- The engine and the driver. -/
  driver : List Char
  /-- Whether there is a user or a password. -/
  hasUser : Bool
  /-- The host. -/
  host : List Char
  /-- The port as written. -/
  port : Option (List Char)
  /-- The place of the store. -/
  database : Option (List Char)
  /-- The names and values of the options, in order. -/
  options : List (List Char × List Char)

/-- A character of the name of an engine or a driver. -/
def isNameChar (c : Char) : Bool := c == '+' || Text.isWordChar c

/-- Whether there is a user or a password before an at sign, and what follows that. The user part
holds no slash, and a password follows a colon. -/
def splitUser (cs : List Char) : Bool × List Char :=
  let plain := cs.takeWhile fun c => c != ':' && c != '/'
  let afterColon := match cs.drop plain.length with
    | ':' :: rest => if rest.contains '@' then some rest else none
    | _ => none
  match afterColon with
  | some rest =>
    let password := rest.takeWhile (· != '@')
    (!plain.isEmpty || !password.isEmpty, rest.drop (password.length + 1))
  | none =>
    if plain.contains '@' then
      let host := (plain.reverse.takeWhile (· != '@')).reverse
      let user := plain.take (plain.length - host.length - 1)
      (!user.isEmpty, cs.drop (user.length + 1))
    else (false, cs)

/-- A host, in brackets or plain, and what follows it. -/
def splitHost (cs : List Char) : List Char × List Char :=
  let plain := cs.takeWhile fun c => c != '/' && c != ':' && c != '?'
  match cs with
  | '[' :: rest =>
    let inner := rest.takeWhile fun c => c != '/' && c != '?'
    let host := (inner.reverse.dropWhile (· != ']')).reverse
    if 2 ≤ host.length then (host, rest.drop host.length) else (plain, cs.drop plain.length)
  | _ => (plain, cs.drop plain.length)

/-- A part that starts with a character and goes on while a test holds, and what follows. -/
def splitPart (start : Char) (goesOn : Char → Bool) : List Char → Option (List Char) × List Char
  | c :: rest =>
    if c = start then (some (rest.takeWhile goesOn), rest.dropWhile goesOn)
    else (none, c :: rest)
  | [] => (none, [])

/-- A part of an option with blanks and escapes resolved. -/
def optionText (cs : List Char) : List Char :=
  Text.percentDecode (cs.map fun c => if c == '+' then ' ' else c)

/-- The names and values of options. An option without a value does not count. -/
def optionsOf (cs : List Char) : List (List Char × List Char) :=
  (Text.pieces (· == '&') cs).filterMap fun option =>
    let name := option.takeWhile (· != '=')
    match option.drop (name.length + 1) with
    | [] => none
    | value => some (optionText name, optionText value)

/-- The parts of an address, if it has the form of one. -/
def parts? (cs : List Char) : Option Parts :=
  let driver := cs.takeWhile isNameChar
  match driver, cs.drop driver.length with
  | _ :: _, ':' :: '/' :: '/' :: rest =>
    let (hasUser, rest) := splitUser rest
    let (host, rest) := splitHost rest
    let (port, rest) := splitPart ':' (fun c => c != '/' && c != '?') rest
    let (database, rest) := splitPart '/' (· != '?') rest
    let (options, _) := splitPart '?' (· != '\n') rest
    some ⟨driver, hasUser, host, port, database.map Text.percentDecode,
      optionsOf (options.getD [])⟩
  | _, _ => none

/-- The values that the options give for a name. -/
def Parts.values (parts : Parts) (name : String) : List (List Char) :=
  (parts.options.filter fun option => option.1 == name.toList).map Prod.snd

end SearchAnnotation.Connection
