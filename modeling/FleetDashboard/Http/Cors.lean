import FleetDashboard.Http.Message

/-!
# Requests from other origins

Every origin may ask with credentials, by any method and with any headers: the
reply repeats what the request announces.
-/

namespace FleetDashboard
namespace Http
namespace Cors

/-- The header of a given name, with the value of a header of the request. -/
def repeated
    (request : ClientRequest)
    (announced name : String) : Headers :=
  match request.headers.value? announced with
  | some value => [(name, value)]
  | none => []

/-- The headers of every reply. -/
def headers
    (request : ClientRequest) : Headers :=
  repeated request "origin" "access-control-allow-origin" ++
    [("access-control-allow-credentials", "true"),
      ("vary",
        "origin, access-control-request-method, access-control-request-headers")]

/-- The headers of a reply that only says what may be asked. -/
def preflightHeaders
    (request : ClientRequest) : Headers :=
  headers request ++
    repeated request "access-control-request-method" "access-control-allow-methods" ++
    repeated request "access-control-request-headers" "access-control-allow-headers"

end Cors
end Http
end FleetDashboard
