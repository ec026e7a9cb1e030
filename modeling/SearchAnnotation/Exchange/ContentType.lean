import SearchAnnotation.Encoding.Names
import SearchAnnotation.Text.Blank
import SearchAnnotation.Text.Quoted

/-!
# The character set of a content type

A content type is a list of parameters between semicolons, its first part among them. The
character set may be one parameter, or its value may be spread over numbered ones, and those may
give it in percent escapes together with the set that the escapes are to be read by. A parameter
in one piece goes before one in several.
-/

namespace SearchAnnotation.Exchange.ContentType

/-- The parts between semicolons. A semicolon between double quotes does not separate, and a quote
after a backslash does not count. -/
def parts (inQuotes : Bool) (previous : Char) : List Char → List (List Char)
  | [] => [[]]
  | c :: rest =>
    if c == ';' && !inQuotes then [] :: parts false c rest
    else
      match parts (inQuotes != (c == '"' && previous != '\\')) c rest with
      | first :: others => (c :: first) :: others
      | [] => [[c]]

/-- A quoted text with its escapes resolved: two backslashes stand for one, and thereafter a
backslash before a quote for nothing. -/
def unescape (cs : List Char) : List Char := quotes (backslashes cs)
where
  /-- Every two backslashes as one. -/
  backslashes : List Char → List Char
    | '\\' :: '\\' :: rest => '\\' :: backslashes rest
    | c :: rest => c :: backslashes rest
    | [] => []
  /-- Quotes without the backslash before them. -/
  quotes : List Char → List Char
    | '\\' :: '"' :: rest => '"' :: quotes rest
    | c :: rest => c :: quotes rest
    | [] => []

/-- A value without the quotes or angle brackets around it. -/
def unquote (cs : List Char) : List Char :=
  let inner := (cs.drop 1).dropLast
  if cs.length < 2 then cs
  else if cs.head? == some '"' && cs.getLast? == some '"' then unescape inner
  else if cs.head? == some '<' && cs.getLast? == some '>' then inner
  else cs

/-- The name and the value of a parameter, the name in lower case. -/
def parameter (cs : List Char) : List Char × List Char :=
  let name := cs.takeWhile (· != '=')
  ((Text.trim Text.isBlank name).map Char.toLower,
    unquote (Text.trim Text.isBlank (cs.drop (name.length + 1))))

/-- A piece of the value of a parameter. -/
structure Piece where
  /-- Its number, if it has one. -/
  number : Option Nat
  /-- Its text. -/
  text : List Char
  /-- Whether it is in percent escapes. -/
  escaped : Bool
deriving DecidableEq, Repr

/-- The number and the kind of a piece by the part of its name from the star on. -/
def pieceName? : List Char → Option (Option Nat × Bool)
  | ['*'] => some (none, true)
  | '*' :: rest =>
    let digits := rest.takeWhile Json.isDigit
    let ending := rest.drop digits.length
    if digits.isEmpty || !(ending.isEmpty || ending == ['*']) then none
    else some (some (Json.natOf digits), !ending.isEmpty)
  | _ => none

/-- The name and the piece that a parameter is, if it is one. -/
def piece? (p : List Char × List Char) : Option (List Char × Piece) :=
  let name := p.1.takeWhile (· != '*')
  if !name.isEmpty && name.all (fun c => c.isAlphanum || c == '_') then
    (pieceName? (p.1.drop name.length)).map fun q => (name, ⟨q.1, p.2, q.2⟩)
  else none

/-- Whether some parameter has pieces with a number and pieces without one, which have no common
order. -/
def isUnordered (pieces : List (List Char × Piece)) : Bool :=
  pieces.any fun p => pieces.any fun q =>
    p.1 == q.1 && p.2.number.isNone && q.2.number.isSome

/-- Whether a text stands before another in the order of code points, or is the same. -/
def isOrdered : List Char → List Char → Bool
  | [], _ => true
  | _ :: _, [] => false
  | a :: as, b :: bs => a < b || (a == b && isOrdered as bs)

/-- Whether a piece stands before another, or is the same. -/
def Piece.precedes (p q : Piece) : Bool :=
  let number := p.number.getD 0
  let other := q.number.getD 0
  if number != other then number < other
  else if p.text == q.text then !p.escaped || q.escaped
  else isOrdered p.text q.text

/-- The octets of a text, each character beyond eight bits as an escape by number. -/
def octets (cs : List Char) : List UInt8 :=
  cs.flatMap fun c =>
    if c.toNat < 256 then [UInt8.ofNat c.toNat] else Encoding.toUtf8 (Text.codeEscape c.toNat)

/-- A text with each percent escape as the character with that number. -/
def numbered : List Char → List Char
  | '%' :: a :: b :: rest =>
    match Json.hexDigit? a, Json.hexDigit? b with
    | some high, some low => Char.ofNat (high * 16 + low) :: numbered rest
    | _, _ => '%' :: numbered (a :: b :: rest)
  | c :: rest => c :: numbered rest
  | [] => []

/-- The character set of a name, if it is known. -/
def named? (name : List Char) : Except Encoding.Refusal (Option Encoding.Charset) :=
  if name.contains '\x00' then .error .nullInName else .ok (Encoding.Charset.ofName? name)

/-- A text read by the character set that it names before its first apostrophe; a language stands
between that and the second one. Without two apostrophes the text is seven-bit. -/
def selfDescribed (cs : List Char) : Except Encoding.Refusal (List Char) :=
  let set := cs.takeWhile (· != '\'')
  let afterSet := cs.drop (set.length + 1)
  let (set, value) :=
    if afterSet.contains '\'' then (set, (afterSet.dropWhile (· != '\'')).drop 1) else ([], cs)
  let charset := if set.isEmpty then .ok (some .ascii) else named? set
  charset.map fun charset =>
    (charset.bind fun charset => charset.decodeStrictly? (octets value)).getD value

/-- The value of pieces. -/
def joined (pieces : List Piece) : Except Encoding.Refusal (List Char) :=
  let sorted := pieces.mergeSort Piece.precedes
  let text := sorted.flatMap fun p => if p.escaped then numbered p.text else p.text
  if pieces.any Piece.escaped then selfDescribed text else .ok text

/-- The value of a parameter, if the content type has it. The first part of a content type is
never a piece. -/
def value? (contentType name : List Char) : Except Encoding.Refusal (Option (List Char)) :=
  let all := (parts false ';' contentType).map parameter
  let pieces := (all.drop 1).filterMap piece?
  if isUnordered pieces then .error .unordered
  else
    match all.find? (·.1 == name) with
    | some p => .ok (some p.2)
    | none =>
      match pieces.filter (·.1 == name) with
      | [] => .ok none
      | own => (joined (own.map Prod.snd)).map some

/-- The character set that a content type names, if it is known. -/
def charset? (contentType : List Char) : Except Encoding.Refusal (Option Encoding.Charset) := do
  match ← value? contentType "charset".toList with
  | none => return none
  | some name => if name.all (·.toNat < 128) then named? name else return none

end SearchAnnotation.Exchange.ContentType
