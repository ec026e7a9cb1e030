import SearchAnnotation.Reading
import SearchAnnotation.Settings
import SearchAnnotation.Text.UpperCase

/-!
# Where settings come from

A setting is taken from the values given directly, else from the environment, else it has its
own default. Names are compared without regard to case and the last of several spellings counts.
Every variable of the environment holds text. The list of origins is JSON text there, and a null
in it counts as not given.
-/

namespace SearchAnnotation.Settings

/-- Variables by name, in order. -/
abbrev Environment := List (String × String)

/-- Why settings cannot be taken from their sources. -/
inductive Fault where
  /-- A variable that must hold JSON text does not. -/
  | unreadable (name : String) (why : Json.Fault)
  /-- Values do not fit. -/
  | invalid (complaints : List Reading.Complaint)
deriving DecidableEq, Repr

/-- A name in lower case. The sign for kelvin is a letter too. -/
def canonical (name : String) : String :=
  String.ofList (name.toList.map fun c => if c == '\u212a' then 'k' else c.toLower)

/-- What is given under a name, the last of its spellings. -/
def latest? {α : Type} (entries : List (String × α)) (name : String) : Option α :=
  (entries.reverse.find? fun entry => canonical entry.1 == name).map Prod.snd

/-- The value of a variable that holds JSON text. -/
def structured? (environment : Environment) (name : String) : Except Fault (Option Value) :=
  match latest? environment name with
  | none => .ok none
  | some s =>
    match Json.read Json.usualNesting s.toList with
    | .error why => .error (.unreadable name why)
    | .ok .null => .ok none
    | .ok v => .ok (some v)

/-- The name of a log level, trimmed and in upper case. Whatever is no name at all stands for the
default. -/
def levelName : Value → String
  | .text s =>
    match Text.trim Text.isBlank s.toList with
    | [] => Settings.default.logLevel
    | name => String.ofList (Text.upperCase name)
  | _ => Settings.default.logLevel

/-- Reads a setting if it is given. -/
def setting {α : Type} (read : Value → Reading α) (name : String) (given : Option Value)
    (fallback : α) : Reading α :=
  match given with
  | some v => (read v).within (.field name)
  | none => .done fallback

/-- Reads all settings, the origins from a value of their own and the others by name. -/
def read (given : String → Option Value) (origins : Option Value) : Reading Settings :=
  let own := Settings.default
  let take {α : Type} (read : Value → Reading α) (name : String) (fallback : α) : Reading α :=
    setting read name (given name) fallback
  Settings.mk
    <$> take .text "search_api_url" own.searchApiUrl
    <*> take .int "search_num_results" own.searchNumResults
    <*> take .bool "search_return_ranking_signals" own.searchReturnRankingSignals
    <*> take .float "search_timeout_seconds" own.searchTimeoutSeconds
    <*> take .text "database_url" own.databaseUrl
    <*> take (fun v => .done (levelName v)) "log_level" own.logLevel
    <*> take .bool "enable_console_logging" own.enableConsoleLogging
    <*> take .text "host" own.host
    <*> take .int "port" own.port
    <*> setting (.list .name) "cors_origins" origins own.corsOrigins

/-- The settings from their sources. -/
def ofSources (environment : Environment) (direct : Fields) : Except Fault Settings := do
  let origins ← structured? environment "cors_origins"
  let given := fun name =>
    (latest? direct.texts name).or ((latest? environment name).map Value.text)
  match read given ((latest? direct.texts "cors_origins").or origins) with
  | .done settings => return settings
  | .refused complaints => throw (.invalid complaints)

end SearchAnnotation.Settings
