import SearchAnnotation.Value

/-!
# Settings

The settings name the search API and how it is asked, where the store is, how much is logged and
where the service listens. Each has a value of its own when nothing else is given.
-/

namespace SearchAnnotation

/-- What can be configured. -/
structure Settings where
  /-- The address of the search API. -/
  searchApiUrl : String
  /-- How many webpages a search asks for. -/
  searchNumResults : Int
  /-- Whether a search asks for ranking signals. -/
  searchReturnRankingSignals : Bool
  /-- How many seconds a search may take. -/
  searchTimeoutSeconds : Binary64
  /-- Where the store is. -/
  databaseUrl : String
  /-- The name of the log level. -/
  logLevel : String
  /-- Whether the log is shown on the console. -/
  enableConsoleLogging : Bool
  /-- The host that the service listens on. -/
  host : String
  /-- The port that the service listens on. -/
  port : Int
  /-- The origins that may use the service from elsewhere. -/
  corsOrigins : List Name
deriving DecidableEq, Repr

/-- The settings when nothing is given. -/
def Settings.default : Settings where
  searchApiUrl := "https://trystract.com/beta/api/search"
  searchNumResults := 100
  searchReturnRankingSignals := true
  searchTimeoutSeconds := Binary64.ofInt 30
  databaseUrl := "sqlite+aiosqlite:///ranking.db"
  logLevel := "INFO"
  enableConsoleLogging := true
  host := "127.0.0.1"
  port := 8000
  corsOrigins := ["*"]

end SearchAnnotation
