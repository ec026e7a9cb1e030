import SearchAnnotation.Connection.Engine
import SearchAnnotation.Connection.Options
import SearchAnnotation.Settings

/-!
# Connections to the store

The address of a store names an engine and a driver, and after two slashes possibly a user, a
host and a port, the place of the store and options. The engine at hand keeps the store in a file
or in memory, so an address with a user, a host or a port is refused. A store in memory lives on
a single connection.
-/

namespace SearchAnnotation

/-- How connections to the store are shared. -/
inductive ConnectionPool where
  /-- All work is done on one connection. -/
  | single
  /-- Connections are made as they are needed. -/
  | many
deriving DecidableEq, Repr

/-- Why no connection can be planned. -/
inductive ConnectionFault where
  /-- The text is no address. -/
  | malformed
  /-- The port is no whole number. -/
  | port
  /-- There is a colon for a port and no port. -/
  | emptyPort
  /-- The name of the engine has too many parts. -/
  | overlongName
  /-- No engine or driver has the name. -/
  | unknownDriver
  /-- The name leads to something that is no driver. -/
  | notDriver
  /-- The driver is not at hand. -/
  | absentDriver
  /-- The options ask for a plug-in, and there are none. -/
  | plugin
  /-- There is a user, a host or a port. -/
  | remote
  /-- An option cannot be read. -/
  | option (why : Connection.OptionFault)
  /-- There are options for a place, and no place. -/
  | noPlace
  /-- The driver cannot work concurrently. -/
  | blockingDriver
deriving DecidableEq, Repr

namespace Connection

/-- The number of the port, zero if there is none. -/
def Parts.portNumber (parts : Parts) : Except ConnectionFault Int :=
  match parts.port with
  | none => .ok 0
  | some [] => .error .emptyPort
  | some cs =>
    match Text.integer? cs with
    | some n => .ok n
    | none => .error .port

/-- Whether an address leads to memory rather than to a file. -/
def Parts.isInMemory (parts : Parts) : Bool :=
  let place := parts.database.getD []
  place.isEmpty || place == ":memory:".toList || parts.values "mode" == ["memory".toList]

/-- The rule on texts: an address of the engine that mentions memory, or that ends after its two
slashes, leads to memory. -/
def mentionsMemory (cs : List Char) : Bool :=
  "sqlite".toList.isPrefixOf cs &&
    (Text.occursIn ":memory:".toList cs || "://".toList.isSuffixOf cs)

/-- Checks that a driver of the engine at hand is named. Answers whether it is for many tasks at
once. -/
def checkDriver (parts : Parts) : Except ConnectionFault Bool :=
  match Driver.ofName parts.driver with
  | .concurrent => .ok true
  | .blocking => .ok false
  | .absent => .error .absentDriver
  | .other => .error .notDriver
  | .unknown => .error .unknownDriver
  | .overlong => .error .overlongName

/-- Checks that an address leads to a place that the engine at hand can reach. -/
def checkPlace (parts : Parts) (port : Int) : Except ConnectionFault Unit :=
  if parts.hasUser || !parts.host.isEmpty || port != 0 then .error .remote
  else
    match parts.settingFault? with
    | some why => .error (.option why)
    | none =>
      if parts.placeIsAddress && parts.database.isNone && parts.hasPlaceOptions then
        .error .noPlace
      else .ok ()

/-- Plans the connections to the store at an address. -/
def plan (url : String) : Except ConnectionFault ConnectionPool :=
  match parts? url.toList with
  | none => .error .malformed
  | some parts => do
    let port ← parts.portNumber
    if !(parts.values "plugin").isEmpty then throw .plugin
    let concurrent ← checkDriver parts
    checkPlace parts port
    if !concurrent then throw .blockingDriver
    return if mentionsMemory url.toList || parts.isInMemory then .single else .many

/-- The address of the store: the one given unless it is empty, else the one of the settings. -/
def address (settings : Settings) (url : Option String) : String :=
  (url.filter fun s => !s.isEmpty).getD settings.databaseUrl

example : (plan "sqlite+aiosqlite:///ranking.db").toOption = some .many := by decide +kernel

end Connection

end SearchAnnotation
