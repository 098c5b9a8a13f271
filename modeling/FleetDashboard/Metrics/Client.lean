import FleetDashboard.Calendar.Instant
import FleetDashboard.Http.Target
import FleetDashboard.Metrics.Response
import FleetDashboard.Net.BaseUrl

/-!
# Queries to a metrics backend

The address under which a query is asked, and what the answer of a backend
means.  An endpoint's path is a directory: queries are asked below it.
-/

namespace FleetDashboard
namespace Metrics

open Calendar Net Text

/-- A query to a metrics backend. -/
inductive MetricsQuery where
  | instant
      (expression : String)
  | range
      (expression : String)
      (start finish : Instant)
      (step : Int)
  deriving DecidableEq, Repr

namespace MetricsQuery

/-- The path of a query below an endpoint. -/
def path : MetricsQuery → List String
  | instant _ => ["api", "v1", "query"]
  | range _ _ _ _ => ["api", "v1", "query_range"]

/-- The parameters of a query.  Times are whole seconds, rounded down. -/
def parameters : MetricsQuery → List (String × String)
  | instant expression => [("query", expression)]
  | range expression start finish step =>
      [("query", expression), ("start", intText start.seconds),
        ("end", intText finish.seconds), ("step", intText step)]

end MetricsQuery

/-- What comes of a request to a backend. -/
inductive Exchange where
  /-- The backend cannot be reached. -/
  | refused
  /-- The backend does not answer in time. -/
  | silent
  | answered
      (body : String)
  deriving DecidableEq, Repr

/-- A metrics backend, known by the address below which queries are asked. -/
structure MetricsBackend where
  base : BaseUrl
  deriving DecidableEq, Repr

namespace MetricsBackend

/-- The backend at an endpoint. -/
def connect
    (endpoint : String) : Except DashboardError MetricsBackend :=
  let directory := if endpoint.endsWith "/" then endpoint else endpoint ++ "/"
  match BaseUrl.read directory with
  | .ok base => .ok ⟨base⟩
  | .error fault =>
      .error (.resolution
        ("Invalid metrics endpoint '" ++ endpoint ++ "': " ++ fault.message))

/-- The address of a query without its parameters. -/
def queryBase
    (backend : MetricsBackend)
    (query : MetricsQuery) : Except DashboardError BaseUrl :=
  (backend.base.join query.path).mapError fun fault =>
    .resolution ("Invalid metrics endpoint: " ++ fault.message)

/-- The address of a query. -/
def queryAddress
    (url : BaseUrl)
    (query : MetricsQuery) : String :=
  url.write ++ "?" ++ String.ofList (FormData.encode query.parameters)

/-- A query can be asked over the web: the scheme is right and the authority is
one that a request can name. -/
def isAskable
    (url : BaseUrl) : Bool :=
  (url.scheme == "http" || url.scheme == "https") &&
    match Http.Target.splitAuthority url.authority.toList with
    | some (_, rest) => rest.isEmpty
    | none => false

/-- The failure of a query at an address. -/
def failedAt
    (reason address : String) : DashboardError :=
  .transport (reason ++ " for url (" ++ address ++ ")")

/-- The address at which a query is asked. -/
def request
    (backend : MetricsBackend)
    (query : MetricsQuery) : Except DashboardError String := do
  let url ← backend.queryBase query
  if !url.hasHost then .error (failedAt "builder error" url.write)
  else if !isAskable url then .error (failedAt "builder error" (queryAddress url query))
  else pure (queryAddress url query)

/-- The data in the answer to a request. -/
def dataOf
    (address : String) : Exchange → Except DashboardError QueryData
  | .refused => .error (failedAt "error sending request" address)
  | .silent => .error (failedAt "Metrics query timed out: error sending request" address)
  | .answered body =>
      match QueryResponse.read? body with
      | some response => response.payload
      | none => .error (.transport "error decoding response body")

/-- Ask a query; `exchange` tells what comes of a request to an address. -/
def ask
    (backend : MetricsBackend)
    (exchange : String → Exchange)
    (query : MetricsQuery) : Except DashboardError QueryData := do
  let address ← backend.request query
  dataOf address (exchange address)

end MetricsBackend
end Metrics
end FleetDashboard
