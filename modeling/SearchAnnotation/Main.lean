import SearchAnnotation.Server
import SearchAnnotation.Settings.Sources

/-!
# The command line

The command takes its settings from the environment and shows how the service starts: where it
listens and which paths it knows.
-/

namespace SearchAnnotation.Main

/-- The names of all settings. -/
def settingNames : List String := [
  "search_api_url", "search_num_results", "search_return_ranking_signals",
  "search_timeout_seconds", "database_url", "log_level", "enable_console_logging", "host", "port",
  "cors_origins"]

/-- The variables of the environment that are settings, in either case. -/
def environment : IO Settings.Environment := do
  let names := settingNames.flatMap fun name => [name, String.ofList (name.toList.map Char.toUpper)]
  names.filterMapM fun name => do
    let value ← IO.getEnv name
    return value.map ((name, ·))

/-- The lines that show a started service. -/
def lines (server : Server) : List String :=
  (server.title ++ " on " ++ server.host ++ ":" ++ toString server.port) ::
    server.routes.map fun route => route.2 ++ " " ++ route.1

/-- The service as the variables configure it, or why it does not start. -/
def started (given : Settings.Environment) : Except String Server :=
  match Settings.ofSources given [] with
  | .error (.unreadable name _) => .error ("The variable " ++ name ++ " holds no JSON")
  | .error (.invalid complaints) =>
    .error (String.ofList (Json.render (Reading.Complaint.listDocument complaints)))
  | .ok settings =>
    match Server.start settings with
    | .error (.log why) => .error why.message
    | .error (.connection _) => .error ("No store at " ++ settings.databaseUrl)
    | .error (.search why) => .error why.message
    | .ok server => .ok server

end SearchAnnotation.Main

/-- Shows how the service starts, or why it does not. -/
def main : IO UInt32 := do
  let given ← SearchAnnotation.Main.environment
  match SearchAnnotation.Main.started given with
  | .ok server =>
    for line in SearchAnnotation.Main.lines server do
      IO.println line
    return 0
  | .error why =>
    IO.eprintln why
    return 1
