import FleetDashboard.Fault
import FleetDashboard.Http.Target
import FleetDashboard.Json.Basic

/-!
# Requests and replies

What a client sends and what it is told.  Names of headers are in lower case.
-/

namespace FleetDashboard
namespace Http

/-- Headers in order. -/
abbrev Headers := List (String × String)

namespace Headers

/-- The value of a header. -/
def value?
    (headers : Headers)
    (name : String) : Option String :=
  (headers.find? fun header => header.1 == name).map Prod.snd

end Headers

/-- A request of a client. -/
structure ClientRequest where
  method : String
  target : Target
  headers : Headers
  deriving DecidableEq, Repr

/-- The body of a reply. -/
inductive Body where
  | empty
  | text
      (content : String)
  | json
      (content : Json)
  deriving Repr

/-- A reply to a client. -/
structure Reply where
  status : Nat
  headers : Headers
  body : Body
  deriving Repr

namespace Reply

/-- A reply without a body. -/
def bare
    (status : Nat) : Reply :=
  ⟨status, [], .empty⟩

/-- A reply in plain words. -/
def ofText
    (status : Nat)
    (content : String) : Reply :=
  ⟨status, [("content-type", "text/plain; charset=utf-8")], .text content⟩

/-- A reply that carries a value. -/
def ofJson
    (status : Nat)
    (content : Json) : Reply :=
  ⟨status, [("content-type", "application/json")], .json content⟩

/-- A reply that reports a failure. -/
def ofFailure
    (failure : DashboardError) : Reply :=
  ofJson failure.status
    (.record [("code", .text failure.code), ("message", .text failure.message)])

/-- A reply that wraps what was asked for. -/
def ofData
    (content : Json) : Reply :=
  ofJson 200
    (.record [("is_successful", .bool true), ("data", content), ("error_msg", .null)])

/-- A reply to a request that has a result. -/
def ofResult
    (toJson : α → Json) : Except DashboardError α → Reply
  | .ok value => ofData (toJson value)
  | .error failure => ofFailure failure

/-- A reply with more headers. -/
def withHeaders
    (reply : Reply)
    (headers : Headers) : Reply :=
  { reply with headers := reply.headers ++ headers }

/-- A reply whose body is not sent. -/
def withoutBody
    (reply : Reply) : Reply :=
  { reply with body := .empty }

end Reply
end Http
end FleetDashboard
