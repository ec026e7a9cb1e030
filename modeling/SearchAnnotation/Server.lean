import SearchAnnotation.Connection
import SearchAnnotation.Log.Setup
import SearchAnnotation.Provider.SearchApi
import SearchAnnotation.Service.Route

/-!
# Starting the service

Before the service listens, the log is set up, the connections to the store are planned and the
search API is made ready, in this order. The first of these that fails is why it does not start.
-/

namespace SearchAnnotation

/-- The service as it is about to listen. -/
structure Server where
  /-- The host. -/
  host : String
  /-- The port. -/
  port : Int
  /-- What the service calls itself. -/
  title : String
  /-- The templates of its paths and their methods, sorted. -/
  routes : List (String × String)
  /-- The package logger. -/
  logger : Log.Logger
  /-- How connections to the store are shared. -/
  pool : ConnectionPool
  /-- The search API. -/
  searchApi : SearchApi
  /-- The origins that may use the service. -/
  origins : List Name

/-- Why the service does not start. -/
inductive StartFault where
  /-- The log level is not known. -/
  | log (why : Log.UnknownLevel)
  /-- The store cannot be reached. -/
  | connection (why : ConnectionFault)
  /-- The search API cannot be called. -/
  | search (why : Exchange.CallFault)

namespace Server

/-- Routes are listed by template, then by method. -/
def routePrecedes (a b : String × String) : Bool := a.1 < b.1 || a.1 == b.1 && !(b.2 < a.2)

/-- All routes as they are listed. -/
def routeList : List (String × String) :=
  (Service.routes.map fun route => (route.template, route.method.name)).mergeSort routePrecedes

/-- Starts the service with settings. -/
def start (settings : Settings) : Except StartFault Server := do
  let logger ← match Log.Logger.fresh.setup settings.logLevel settings.enableConsoleLogging with
    | (some why, _) => .error (.log why)
    | (none, logger) => .ok logger
  let pool ← (Connection.plan settings.databaseUrl).mapError .connection
  let searchApi ← (SearchApi.ofSettings settings none none none).mapError .search
  return {
    host := settings.host
    port := settings.port
    title := "Ranking Tools"
    routes := routeList
    logger, pool, searchApi
    origins := settings.corsOrigins }

end Server

end SearchAnnotation
