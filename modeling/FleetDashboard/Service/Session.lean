import FleetDashboard.Cache.Basic
import FleetDashboard.Service.World

/-!
# Sessions and requests

A session is what lives on between requests: the cache, the clock and the log of
calls.  A request runs in a world and a session and yields a result and the
session after it.  It has four means: ask a collaborator, recall a cached text,
remember one, and fail.
-/

namespace FleetDashboard

/-- What lives on between requests. -/
structure Session where
  cache : Cache
  /-- Nanoseconds since the session began. -/
  clock : Nat
  /-- The calls to collaborators, the first one first. -/
  calls : List Call

namespace Session

/-- A session that has seen nothing; `lifetime` is that of cached texts. -/
def begin
    (lifetime : Nat) : Session :=
  ⟨Cache.empty lifetime, 0, []⟩

/-- The session with one more call in its log. -/
def log
    (session : Session)
    (call : Call) : Session :=
  { session with calls := session.calls ++ [call] }

/-- Let time pass. -/
def advance
    (session : Session)
    (duration : Nat) : Session :=
  { session with clock := session.clock + duration }

/-- Drop the cached texts that have expired. -/
def purge
    (session : Session) : Session :=
  { session with cache := session.cache.purge session.clock }

/-- The cached text that is visible for a key. -/
def lookup
    (session : Session)
    (key : String) : Option String :=
  session.cache.lookup session.clock key

/-- Cache a text for a key. -/
def write
    (session : Session)
    (key value : String) : Session :=
  { session with cache := session.cache.write session.clock key value }

@[simp] theorem cache_log
    (session : Session)
    (call : Call) :
    (session.log call).cache = session.cache := rfl

@[simp] theorem clock_log
    (session : Session)
    (call : Call) :
    (session.log call).clock = session.clock := rfl

@[simp] theorem calls_log
    (session : Session)
    (call : Call) :
    (session.log call).calls = session.calls ++ [call] := rfl

@[simp] theorem clock_write
    (session : Session)
    (key value : String) :
    (session.write key value).clock = session.clock := rfl

@[simp] theorem calls_write
    (session : Session)
    (key value : String) :
    (session.write key value).calls = session.calls := rfl

end Session

/-- A request: from a world and a session to a result and the session after it. -/
def Request
    (α : Type) : Type :=
  World → Session → Except DashboardError α × Session

namespace Request

/-- Run a request. -/
def run
    (request : Request α)
    (world : World)
    (session : Session) : Except DashboardError α × Session :=
  request world session

/-- Yield a value. -/
protected def pure
    (value : α) : Request α :=
  fun _ session => (.ok value, session)

/-- Run a request, then one that depends on its value.  A failure ends both. -/
protected def bind
    (request : Request α)
    (next : α → Request β) : Request β :=
  fun world session =>
    match request world session with
    | (.ok value, session) => next value world session
    | (.error fault, session) => (.error fault, session)

instance : Monad Request where
  pure := Request.pure
  bind := Request.bind

/-- Yield a value that has been computed, or fail as its computation did. -/
def ofExcept
    (result : Except DashboardError α) : Request α :=
  fun _ session => (result, session)

/-- Ask a collaborator.  The call is logged whatever comes of it. -/
def ask
    (call : Call)
    (answer : World → α) : Request α :=
  fun world session => (.ok (answer world), session.log call)

/-- Recall the cached text of a key. -/
def remembered
    (key : String) : Request (Option String) :=
  fun _ session => (.ok (session.lookup key), session)

/-- Cache a text for a key. -/
def remember
    (key value : String) : Request Unit :=
  fun _ session => (.ok (), session.write key value)

/-- Look at the world without asking anyone. -/
def world : Request World :=
  fun world session => (.ok world, session)

/-- Ask a collaborator that fails with the error that a client sees. -/
def demand
    (call : Call)
    (answer : World → Except DashboardError α) : Request α := do
  let result ← ask call answer
  ofExcept result

/-- Ask a store.  A client sees its failure as an internal one. -/
def demandStored
    (call : Call)
    (answer : World → Except String α) : Request α :=
  demand call fun world => (answer world).mapError .internal

@[simp] theorem run_pure
    (value : α)
    (world : World)
    (session : Session) :
    (pure value : Request α).run world session = (.ok value, session) := rfl

theorem run_bind
    (request : Request α)
    (next : α → Request β)
    (world : World)
    (session : Session) :
    (request >>= next).run world session =
      match request.run world session with
      | (.ok value, session) => (next value).run world session
      | (.error fault, session) => (.error fault, session) := rfl

@[simp] theorem run_ofExcept
    (result : Except DashboardError α)
    (world : World)
    (session : Session) :
    (ofExcept result).run world session = (result, session) := rfl

@[simp] theorem run_ask
    (call : Call)
    (answer : World → α)
    (world : World)
    (session : Session) :
    (ask call answer).run world session = (.ok (answer world), session.log call) := rfl

@[simp] theorem run_remembered
    (key : String)
    (world : World)
    (session : Session) :
    (remembered key).run world session = (.ok (session.lookup key), session) := rfl

@[simp] theorem run_remember
    (key value : String)
    (world : World)
    (session : Session) :
    (remember key value).run world session = (.ok (), session.write key value) := rfl

@[simp] theorem run_demand
    (call : Call)
    (answer : World → Except DashboardError α)
    (world : World)
    (session : Session) :
    (demand call answer).run world session = (answer world, session.log call) := rfl

@[simp] theorem run_demandStored
    (call : Call)
    (answer : World → Except String α)
    (world : World)
    (session : Session) :
    (demandStored call answer).run world session =
      ((answer world).mapError .internal, session.log call) := rfl

theorem run_demandStored_of_ok
    {call : Call}
    {answer : World → Except String α}
    {world : World}
    {value : α}
    (answered : answer world = .ok value)
    (session : Session) :
    (demandStored call answer).run world session = (.ok value, session.log call) := by
  rw [run_demandStored, answered]
  rfl

theorem run_bind_of_ok
    {request : Request α}
    {next : α → Request β}
    {world : World}
    {session after : Session}
    {value : α}
    (succeeds : request.run world session = (.ok value, after)) :
    (request >>= next).run world session = (next value).run world after := by
  rw [run_bind, succeeds]

theorem run_bind_of_error
    {request : Request α}
    {next : α → Request β}
    {world : World}
    {session after : Session}
    {fault : DashboardError}
    (fails : request.run world session = (.error fault, after)) :
    (request >>= next).run world session = (.error fault, after) := by
  rw [run_bind, fails]

end Request
end FleetDashboard
