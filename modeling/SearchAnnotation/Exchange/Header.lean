/-!
# Headers

Headers are a list of names and values in which a name may occur more than once. Names are
compared without regard to case and kept in lower case; the values of one name read as one
value, separated by commas.
-/

namespace SearchAnnotation.Exchange

/-- Names and values in order. -/
abbrev Headers := List (String × String)

namespace Headers

/-- A name in lower case. -/
def lower (name : String) : String := String.ofList (name.toList.map Char.toLower)

/-- Headers with their names in lower case. -/
def normal (headers : Headers) : Headers := headers.map fun h => (lower h.1, h.2)

/-- Sets a name exactly as spelled: an existing one keeps its place. -/
def put : Headers → String → String → Headers
  | [], name, value => [(name, value)]
  | (key, old) :: rest, name, value =>
    if key = name then (key, value) :: rest else (key, old) :: put rest name value

/-- All headers but those of a name. -/
def drop (headers : Headers) (name : String) : Headers := headers.filter fun h => h.1 != name

/-- Headers, replaced by others where those name the same. -/
def merge (headers others : Headers) : Headers :=
  (headers.filter fun h => !others.any fun o => o.1 == h.1) ++ others

/-- The value of a name, its occurrences joined. -/
def get? (headers : Headers) (name : String) : Option String :=
  match (headers.filter fun h => h.1 == name).map Prod.snd with
  | [] => none
  | values => some (", ".intercalate values)

/-- Headers with one more, unless its name is there. -/
def default (headers : Headers) (name value : String) : Headers :=
  if headers.any fun h => h.1 == name then headers else headers ++ [(name, value)]

/-- Whether names and values are all seven-bit characters. -/
def isSevenBit (headers : Headers) : Bool :=
  headers.all fun h => h.1.toList.all (·.toNat < 128) && h.2.toList.all (·.toNat < 128)

end Headers

end SearchAnnotation.Exchange
