import SearchAnnotation.Address
import SearchAnnotation.Address.Label
import SearchAnnotation.Json.Reader

/-!
# Hosts

A host is four decimal numbers, or eight hexadecimal groups in brackets, or a name. A host that
has the look of one of the first two must be one. A name is written in lower case; if it has
characters beyond seven bits, all its labels are checked and written in seven-bit characters.
-/

namespace SearchAnnotation.Host

open Json (isDigit hexDigit?)
open Text (pieces)

/-- Whether a text is four groups of digits between points. -/
def looksDecimal (cs : List Char) : Bool :=
  let groups := pieces (· == '.') cs
  groups.length == 4 && groups.all fun group => !group.isEmpty && group.all isDigit

/-- A decimal number below two hundred and fifty-six without leading zeros. -/
def isDecimalGroup (cs : List Char) : Bool :=
  !cs.isEmpty && cs.all isDigit && cs.length ≤ 3 && (cs.head? != some '0' || cs.length == 1) &&
    Json.natOf cs < 256

/-- Four decimal numbers between points. -/
def isDecimal (cs : List Char) : Bool :=
  let groups := pieces (· == '.') cs
  groups.length == 4 && groups.all isDecimalGroup

/-- One to four hexadecimal digits. -/
def isHexGroup (cs : List Char) : Bool :=
  !cs.isEmpty && cs.length ≤ 4 && cs.all fun c => (hexDigit? c).isSome

/-- The groups of a bracketed host, a decimal ending counted as two groups. -/
def hexGroups (cs : List Char) : Option (List (List Char)) :=
  let groups := pieces (· == ':') cs
  match groups.getLast? with
  | some final =>
    if final.contains '.' then
      if isDecimal final then some (groups.dropLast ++ [['0'], ['0']]) else none
    else some groups
  | none => none

/-- Eight hexadecimal groups, at most one run of zeros left out. -/
def isGroups (groups : List (List Char)) : Bool :=
  let inner := (groups.drop 1).dropLast
  match inner.findIdx? List.isEmpty with
  | none => groups.length == 8 && groups.all isHexGroup
  | some gap =>
    let before := groups.take (gap + 1)
    let after := groups.drop (gap + 2)
    let before := if before == [[]] then [] else before
    let after := if after == [[]] then [] else after
    before.all isHexGroup && after.all isHexGroup && before.length + after.length < 8

/-- The inside of the brackets: eight groups and an optional zone. -/
def isBracketed (cs : List Char) : Bool :=
  let zone := (cs.dropWhile (· != '%')).drop 1
  let address := cs.takeWhile (· != '%')
  !cs.contains '/' && (!cs.contains '%' || !zone.isEmpty && !zone.contains '%') &&
    match hexGroups address with
    | some groups => 3 ≤ groups.length && groups.length ≤ 9 && isGroups groups
    | none => false

/-- Characters kept in a seven-bit name. -/
def isNameSafe (c : Char) : Bool :=
  Text.isUnreserved c || "!$&'()*+,;=\"\x60\x7b\x7d%|\\".toList.contains c

/-- The host of its written form. -/
def read (host : List Char) : Except AddressFault (List Char) :=
  if host.isEmpty then .ok []
  else if looksDecimal host then
    if isDecimal host then .ok host else .error (.decimalHost host)
  else if host.head? == some '[' && host.getLast? == some ']' then
    let inside := (host.drop 1).dropLast
    if isBracketed inside then .ok inside else .error (.bracketedHost host)
  else
    let lower := Text.lowerCase host
    if host.all (·.toNat < 128) then .ok (Text.percentEncode isNameSafe lower)
    else
      match Address.Label.nameToSevenBit lower with
      | .ok written => .ok written
      | .error _ => .error (.hostName host)

/-- The host as it reads, if its first label is behind the marker. -/
def readable (host : List Char) : Except Address.LabelFault (List Char) :=
  if Address.Label.marker.isPrefixOf host then Address.Label.nameToReadable host else .ok host

example : looksDecimal "127.0.0.1".toList = true ∧
    looksDecimal "h.example".toList = false := by decide +kernel

example : isBracketed "::1".toList = true ∧ isBracketed "1:2::3:4:5:6:7:8".toList = false := by
  decide +kernel

end SearchAnnotation.Host
