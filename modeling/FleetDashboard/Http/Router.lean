import FleetDashboard.Http.Cors
import FleetDashboard.Net.FormData
import FleetDashboard.Service.Dashboard

/-!
# Routes

The paths that the server knows, and what is replied to a request: two fixed
pages and three pages of every organization's dashboard.  The path is judged
before the query, the query before the service is asked.
-/

namespace FleetDashboard
namespace Http

open Calendar Net Text

/-- A page of a dashboard. -/
inductive Page where
  | charts
  | stacks
  | resources
  deriving DecidableEq, Repr

/-- A path that the server knows.  The organization stands as it is written. -/
inductive Route where
  | root
  | health
  | dashboard
      (organization : List Char)
      (page : Page)
  deriving DecidableEq, Repr

namespace Route

/-- The page of a path's last segment. -/
def page? : List Char → Option Page := fun segment =>
  match String.ofList segment with
  | "charts" => some .charts
  | "stacks" => some .stacks
  | "resources" => some .resources
  | _ => none

/-- The segments between slashes agree with the given ones. -/
def areSegments
    (segments : List (List Char))
    (expected : List String) : Bool :=
  segments.map String.ofList == expected

/-- The route of a path. -/
def ofPath?
    (path : String) : Option Route :=
  match FormData.pieces '/' path.toList with
  | [first, second] =>
      if areSegments [first, second] ["", ""] then some root
      else if areSegments [first, second] ["", "health"] then some health
      else none
  | [first, second, third, fourth, organization, sixth, last] =>
      if areSegments [first, second, third, fourth, sixth]
          ["", "api", "v1", "organizations", "dashboard"] then
        (page? last).map (dashboard organization)
      else none
  | _ => none

end Route

namespace Router

/-- The organization that a path segment names, if its escapes are UTF-8. -/
def organization?
    (segment : List Char) : Option String :=
  (Utf8.decode (Percent.decode (Utf8.encode segment))).map String.ofList

/-- The reply to a path whose organization is not UTF-8. -/
def badOrganization : Reply :=
  .ofText 400 "Invalid URL: Invalid UTF-8 in `organization_id`"

/-- The reply to a path that no page has. -/
def notFound : Reply :=
  .ofText 404 "The requested resource was not found"

/-- The methods by which a page is asked for. -/
def allowed : Headers :=
  [("allow", "GET,HEAD")]

/-- Run a request and reply with its result. -/
def serve
    (toJson : α → Json)
    (request : Request α)
    (world : World)
    (session : Session) : Reply × Session :=
  let (result, session) := request.run world session
  (Reply.ofResult toJson result, session)

/-- The list of the shown forms of values. -/
def listJson
    (toJson : α → Json)
    (values : List α) : Json :=
  .array (values.map toJson)

/-- The request for charts that a query makes, or the reply that refuses it. -/
def chartQuery
    (query : String) : Except Reply ChartQuery := do
  let chartQuery ←
    (ChartQuery.ofPairs (FormData.decode query.toList)).mapError fun fault =>
      Reply.ofText 400 fault.message
  chartQuery.validate.mapError Reply.ofFailure
  pure chartQuery

/-- The reply to a request for a page of an organization. -/
def dashboard
    (now : Instant)
    (organization : String)
    (page : Page)
    (query : String)
    (world : World)
    (session : Session) : Reply × Session :=
  match page with
  | .charts =>
      match chartQuery query with
      | .error refusal => (refusal, session)
      | .ok query =>
          serve (listJson Chart.toJson)
            (Dashboard.charts organization query.chartType query.parameters now) world session
  | .stacks =>
      serve (listJson StackSummary.toJson) (Dashboard.summaries organization) world session
  | .resources => serve ResourceTotals.toJson (Dashboard.resources organization) world session

/-- The reply of a route. -/
def page
    (now : Instant)
    (route : Route)
    (query : String)
    (world : World)
    (session : Session) : Reply × Session :=
  match route with
  | .root => (.ofText 200 "Server is running!", session)
  | .health => (.ofText 200 "OK", session)
  | .dashboard segment page =>
      match organization? segment with
      | none => (badOrganization, session)
      | some organization => dashboard now organization page query world session

/-- The reply to a request that is no preflight, before headers are added. -/
def answer
    (now : Instant)
    (request : ClientRequest)
    (world : World)
    (session : Session) : Reply × Session :=
  match Route.ofPath? request.target.path with
  | none => (notFound, session)
  | some route =>
      if request.method = "GET" ∨ request.method = "HEAD" then
        page now route request.target.query world session
      else ((Reply.bare 405).withHeaders allowed, session)

/-- The reply to a request. -/
def handle
    (now : Instant)
    (request : ClientRequest)
    (world : World)
    (session : Session) : Reply × Session :=
  if request.method = "OPTIONS" then
    let reply := (Reply.bare 200).withHeaders (Cors.preflightHeaders request)
    if (Route.ofPath? request.target.path).isSome then (reply.withHeaders allowed, session)
    else (reply, session)
  else
    let (reply, session) := answer now request world session
    let reply := reply.withHeaders (Cors.headers request)
    (if request.method = "HEAD" then reply.withoutBody else reply, session)

end Router
end Http
end FleetDashboard
