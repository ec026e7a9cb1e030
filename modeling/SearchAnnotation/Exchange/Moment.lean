import SearchAnnotation.Json.Reader
import SearchAnnotation.Text.Integer

/-!
# Points in time

A point in time is counted in seconds from the start of 1970. A header gives it in a strict form,
or in looser ones: the weekday and the clock may be missing, the month may be a number, and a year
of two digits means the one closest to the present.
-/

namespace SearchAnnotation.Exchange.Moment

open Json (isDigit natOf)

/-- What the text of a point in time turns out to be. -/
inductive Found where
  /-- A point in time. -/
  | seconds (n : Int)
  /-- None that is understood. -/
  | unclear
  /-- The strict form with a month that is none. -/
  | impossible
deriving DecidableEq, Repr

/-- The months. -/
def months : List String :=
  ["jan", "feb", "mar", "apr", "may", "jun", "jul", "aug", "sep", "oct", "nov", "dec"]

/-- The days of the year before each month. -/
def daysBefore : List Nat := [0, 31, 59, 90, 120, 151, 181, 212, 243, 273, 304, 334]

/-- The leap days up to the end of a year. -/
def leapDays (year : Nat) : Nat := year / 4 - year / 100 + year / 400

/-- The days from the start of the count to a day of a month. -/
def days (year month day : Nat) : Nat :=
  let isLeap := leapDays year != leapDays (year - 1)
  (year - 1970) * 365 + (leapDays (year - 1) - leapDays 1969) + daysBefore.getD (month - 1) 0 +
    (if 2 < month && isLeap then 1 else 0) + (day - 1)

/-- A date and a clock. -/
structure Fields where
  /-- The year. -/
  year : Nat
  /-- The month from one. -/
  month : Nat
  /-- The day from one. -/
  day : Nat
  /-- The hour. -/
  hour : Nat
  /-- The minute. -/
  minute : Nat
  /-- The second. -/
  second : Nat

/-- The point in time of a date and a clock, if both are in range. -/
def Fields.seconds? (f : Fields) : Option Int :=
  if 1970 ≤ f.year && 1 ≤ f.month && f.month ≤ 12 && 1 ≤ f.day && f.day ≤ 31 && f.hour ≤ 24 &&
      f.minute ≤ 59 && f.second ≤ 61 then
    some (((days f.year f.month f.day * 24 + f.hour) * 60 + f.minute) * 60 + f.second : Nat)
  else none

/-- The year of a point in time. -/
def yearOf (now : Int) : Nat :=
  let day := (now / 86400).toNat
  let guess := 1970 + day / 365
  ((List.range 30).map (guess - ·)).find? (fun year => days year 1 1 ≤ day) |>.getD guess

/-- The month of a name in any case. -/
def monthNamed? (name : List Char) : Option Nat :=
  (months.findIdx? fun month => month.toList == name.map Char.toLower).map (· + 1)

/-- Whether characters are of the given kinds, one by one: a nought for a digit, a small letter
for itself or any small letter, and everything else for itself. -/
def fits : List Char → List Char → Bool
  | [], [] => true
  | '0' :: pattern, c :: cs => isDigit c && fits pattern cs
  | 'x' :: pattern, c :: cs => ('a' ≤ c && c ≤ 'z') && fits pattern cs
  | 'W' :: pattern, c :: cs => "SMTWF".toList.contains c && fits pattern cs
  | 'N' :: pattern, c :: cs => "JFMASOND".toList.contains c && fits pattern cs
  | p :: pattern, c :: cs => p == c && fits pattern cs
  | _, _ => false

/-- The number at a place in a text. -/
def numberAt (cs : List Char) (start length : Nat) : Nat := natOf ((cs.drop start).take length)

/-- The reading of the strict form, if the text has it. -/
def strict? (cs : List Char) : Option Found :=
  if fits "Wxx, 00 Nxx 0000 00:00:00 ".toList (cs.take 26) && cs.drop 26 == "GMT".toList then
    match monthNamed? ((cs.drop 8).take 3) with
    | none => some .impossible
    | some month =>
      let f : Fields := ⟨numberAt cs 12 4, month, numberAt cs 5 2, numberAt cs 17 2,
        numberAt cs 20 2, numberAt cs 23 2⟩
      some (match f.seconds? with
        | some n => .seconds n
        | none => .unclear)
  else none

/-- Seven-bit white space. -/
def isSpace (c : Char) : Bool := (9 ≤ c.toNat && c.toNat ≤ 13) || c == ' '

/-- A character of a word. -/
def isWord (c : Char) : Bool := c.isAlphanum || c == '_'

/-- The text without a weekday at its start. -/
def afterWeekday (cs : List Char) : List Char :=
  let named := ["sun", "mon", "tue", "wed", "thu", "fri", "sat"].any fun day =>
    day.toList == (cs.take 3).map Char.toLower
  if named then
    let rest := (cs.drop 3).dropWhile Char.isAlpha
    let rest := if rest.head? == some ',' then rest.drop 1 else rest
    rest.dropWhile isSpace
  else cs

/-- What follows the gap between two parts of a date. -/
def afterGap? (cs : List Char) : Option (List Char) :=
  match cs with
  | c :: rest =>
    if isSpace c then some (rest.dropWhile isSpace)
    else if c == '-' || c == '/' then some rest
    else none
  | [] => none

/-- Digits, at least and at most as many as given, and what follows them. -/
def digits? (least most : Nat) (cs : List Char) : Option (List Char × List Char) :=
  let ds := (cs.take most).takeWhile isDigit
  if ds.length < least then none else some (ds, cs.drop ds.length)

/-- A colon and two digits, and what follows them. -/
def pair? (cs : List Char) : Option (Nat × List Char) :=
  match cs with
  | ':' :: rest => (digits? 2 2 rest).map fun (ds, rest) => (natOf ds, rest)
  | _ => none

/-- What follows the gap between a date and a clock. -/
def afterClockGap? (cs : List Char) : Option (List Char) :=
  match cs with
  | c :: rest =>
    if isSpace c then some (rest.dropWhile isSpace) else if c == ':' then some rest else none
  | [] => none

/-- The clock and what follows it, if there is one. -/
def clock? (cs : List Char) : Option ((Nat × Nat × Nat) × List Char) := do
  let (hour, rest) ← digits? 1 2 (← afterClockGap? cs)
  let (minute, rest) ← pair? rest
  match pair? rest with
  | some (second, rest) => return ((natOf hour, minute, second), rest)
  | none => return ((natOf hour, minute, 0), rest)

/-- Whether a text starts with the mark of a half day. -/
def startsHalfDay (cs : List Char) : Bool :=
  match cs with
  | a :: m :: rest =>
    "APap".toList.contains a && "Mm".toList.contains m && !rest.head?.any isWord
  | _ => false

/-- The time zone and what follows it, if there is one. -/
def zone? (cs : List Char) : Option (List Char × List Char) :=
  let sign := cs.take (if cs.head? == some '-' || cs.head? == some '+' then 1 else 0)
  match digits? 2 4 (cs.drop sign.length) with
  | some (ds, rest) => some (sign ++ ds, rest)
  | none =>
    let name := cs.takeWhile Char.isAlpha
    if name.isEmpty || startsHalfDay cs then none else some (name, cs.drop name.length)

/-- The seconds by which a time zone is ahead. -/
def zoneOffset? (zone : List Char) : Option Int :=
  if ["GMT", "UTC", "UT", "Z"].any fun name => name.toList == zone.map Char.toUpper then some 0
  else
    let ds := zone.dropWhile fun c => c == '-' || c == '+'
    let hours := if ds.length = 3 then 1 else 2
    if ds.isEmpty || !ds.all isDigit then none
    else
      let offset : Int := (natOf (ds.take hours) * 3600 + natOf (ds.drop hours) * 60 : Nat)
      some (if zone.head? == some '-' then -offset else offset)

/-- Whether nothing is left but the name of a zone in parentheses. -/
def isDone (cs : List Char) : Bool :=
  match cs with
  | [] => true
  | '(' :: rest =>
    let after := rest.dropWhile isWord
    match after with
    | ')' :: after => after.length < rest.length - 1 && after.all isSpace
    | _ => false
  | _ => false

/-- The year meant by a number: below a thousand, the closest one with the same last digits. -/
def fullYear (now : Int) (year : Nat) : Nat :=
  let current := yearOf now
  let ahead := current % 100
  if 1000 ≤ year then year
  else
    let guess := current - ahead + year
    if ahead + 50 < year then guess - 100 else if year + 50 < ahead then guess + 100 else guess

/-- The reading of the looser forms. -/
def loose? (now : Int) (cs : List Char) : Option Int := do
  let (day, rest) ← digits? 1 2 (afterWeekday (cs.dropWhile Text.isBlank))
  let rest ← afterGap? rest
  let name := rest.takeWhile isWord
  let rest ← afterGap? (rest.drop name.length)
  let year := rest.takeWhile isDigit
  let rest := rest.drop year.length
  let ((hour, minute, second), rest) := (clock? rest).getD ((0, 0, 0), rest)
  let (zone, rest) := match zone? (rest.dropWhile isSpace) with
    | some (zone, rest) => (zone, rest.dropWhile isSpace)
    | none => ("UTC".toList, rest.dropWhile isSpace)
  if name.isEmpty || year.isEmpty || !isDone rest || 9999 < natOf year then none
  else
    let month ← match monthNamed? name with
      | some month => some month
      | none => (Text.integer? name).map Int.toNat
    let f : Fields := ⟨fullYear now (natOf year), month, natOf day, hour, minute, second⟩
    let n ← f.seconds?
    let offset ← zoneOffset? zone
    return n - offset

/-- The reading of a text at the present. -/
def read (now : Int) (cs : List Char) : Found :=
  match strict? cs with
  | some found => found
  | none =>
    match loose? now cs with
    | some n => .seconds n
    | none => .unclear

example : read 0 "Sun, 06 Nov 1994 08:49:37 GMT".toList = .seconds 784111777 := by decide +kernel

end SearchAnnotation.Exchange.Moment
