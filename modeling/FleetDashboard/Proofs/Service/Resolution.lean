import FleetDashboard.Proofs.Service.Composition

/-!
# What a resolution does

An endpoint or a name that is cached is taken as it is.  Otherwise it is looked up, and
cached if it is found.  There is no other way, so whatever a resolution does to a session
is a matter of these few cases.
-/

namespace FleetDashboard

/-! ## Calls that are only logged -/

namespace Call

/-- The call asks for a service. -/
def isService : Call → Bool
  | .service _ _ _ => true
  | _ => false

theorem isSearch_of_isService
    {call : Call}
    (isService : call.isService) :
    call.isSearch := by
  cases call with
  | service _ _ _ => rfl
  | _ => cases isService

end Call

namespace Session

/-- The session with more calls in its log. -/
def logAll
    (session : Session)
    (calls : List Call) : Session :=
  { session with calls := session.calls ++ calls }

@[simp] theorem cache_logAll
    (session : Session)
    (calls : List Call) :
    (session.logAll calls).cache = session.cache := rfl

@[simp] theorem clock_logAll
    (session : Session)
    (calls : List Call) :
    (session.logAll calls).clock = session.clock := rfl

@[simp] theorem calls_logAll
    (session : Session)
    (calls : List Call) :
    (session.logAll calls).calls = session.calls ++ calls := rfl

@[simp] theorem logAll_nil
    (session : Session) :
    session.logAll [] = session := by
  simp [logAll]

theorem logAll_cons
    (session : Session)
    (call : Call)
    (calls : List Call) :
    session.logAll (call :: calls) = (session.log call).logAll calls := by
  simp [logAll, log]

@[simp] theorem logAll_logAll
    (session : Session)
    (calls more : List Call) :
    (session.logAll calls).logAll more = session.logAll (calls ++ more) := by
  simp [logAll]

/-- Some calls have been made, and nothing else has happened. -/
def OnlyAsks
    (kind : Call → Prop)
    (before after : Session) : Prop :=
  ∃ made, after = before.logAll made ∧ ∀ call ∈ made, kind call

namespace OnlyAsks

variable {kind : Call → Prop}

theorem refl
    (session : Session) :
    session.OnlyAsks kind session :=
  ⟨[], (session.logAll_nil).symm, nofun⟩

theorem trans
    {first second third : Session}
    (asks : first.OnlyAsks kind second)
    (asksToo : second.OnlyAsks kind third) :
    first.OnlyAsks kind third := by
  obtain ⟨made, rfl, allowed⟩ := asks
  obtain ⟨more, rfl, moreAllowed⟩ := asksToo
  exact ⟨made ++ more, logAll_logAll _ _ _, List.forall_mem_append.mpr ⟨allowed, moreAllowed⟩⟩

/-- Whatever is made of allowed questions alone asks and does nothing else. -/
theorem composesSearches
    (kind : Call → Prop)
    (backend : String) :
    ComposesSearches backend kind (Request.Leads (OnlyAsks kind)) :=
  Request.composesSearches_leads refl trans backend fun _ call allowed =>
    ⟨[call], rfl, List.forall_mem_singleton.mpr allowed⟩

end OnlyAsks
end Session

/-! ## Endpoints -/

namespace Endpoint

/-- A request that looks for the tenant asks for the organization first. -/
theorem calls_of_tenant
    {organization : String}
    {kind : Call → Prop}
    {next : Organization → Request α}
    (extended : ∀ record, Request.Leads (Session.Extends kind) α (next record))
    (world : World)
    (session : Session) :
    ∃ made, ((tenant organization >>= next).run world session).2.calls =
        session.calls ++ .organization organization :: made ∧
      ∀ call ∈ made, kind call := by
  rw [Request.run_bind, run_tenant]
  rcases world.organization organization with reason | _ | record
  · exact ⟨[], rfl, nofun⟩
  · exact ⟨[], rfl, nofun⟩
  · obtain ⟨made, calls, allowed⟩ :=
      extended record world (session.log (.organization organization))
    refine ⟨made, calls.trans ?_, allowed⟩
    rw [Session.calls_log, List.append_assoc, List.singleton_append]

/-- A search that succeeds asks the directory, then the control plane of one cluster and
then for services; it has found what the world has. -/
theorem onlyAsks_of_find
    {world : World}
    {organization address : String}
    {session after : Session}
    (finds : (find organization).run world session = (.ok address, after)) :
    ∃ cluster services,
      after =
          session.logAll (.organization organization :: .registry cluster :: services) ∧
        (∀ call ∈ services, call.isService) ∧ world.HasEndpoint organization address := by
  have search : Request.Ensures world (fun _ => True) (find organization)
      (world.HasEndpoint organization) :=
    ensures_find (fun _ _ _ _ => trivial) organization
  have has : world.HasEndpoint organization address :=
    (search session trivial).2 address (by rw [finds])
  rw [find, Request.run_bind_eq_ok_iff] at finds
  obtain ⟨record, identified, identifies, finds⟩ := finds
  obtain rfl : session.log (.organization organization) = identified := by
    rw [run_tenant] at identifies
    exact congrArg Prod.snd identifies
  rw [Request.run_bind_eq_ok_iff] at finds
  obtain ⟨cluster, named, names, finds⟩ := finds
  obtain rfl : session.log (.organization organization) = named := congrArg Prod.snd names
  rw [Request.run_bind_eq_ok_iff] at finds
  obtain ⟨_, reached, reaches, finds⟩ := finds
  obtain rfl : _ = reached := congrArg Prod.snd reaches
  rw [Request.run_bind_eq_ok_iff] at finds
  obtain ⟨current, looked, looks, finds⟩ := finds
  obtain rfl : _ = looked := congrArg Prod.snd looks
  rw [Request.run_bind_eq_ok_iff] at finds
  obtain ⟨endpoint, served, serves, finds⟩ := finds
  have asks : Request.Leads (Session.OnlyAsks fun call => call.isService) _
      (anyService cluster current.metricsNamespace) :=
    (Session.OnlyAsks.composesSearches (fun call => call.isService) "").anyService fun _ => rfl
  obtain ⟨services, rfl, areServices⟩ := asks.of_run serves
  obtain rfl : _ = after := congrArg Prod.snd finds
  refine ⟨cluster, services, ?_, areServices, has⟩
  simp [Session.logAll, Session.log]

/-- A search that fails asks the directory first, and the world has no endpoint. -/
theorem onlyAsks_of_find_error
    {world : World}
    {organization : String}
    {session after : Session}
    {fault : DashboardError}
    (fails : (find organization).run world session = (.error fault, after)) :
    ∃ made, after = session.logAll (.organization organization :: made) ∧
      (∀ call ∈ made, call.isSearch) ∧ ∀ address, ¬world.HasEndpoint organization address := by
  have asks := (Session.OnlyAsks.composesSearches (fun call => call.isSearch) "").find
    (fun _ => id) organization
  obtain ⟨all, rfl, _⟩ := asks.of_run fails
  have searches := Session.Extends.composesSearches (fun call => call.isSearch) ""
  have located := searches.locate (fun _ => id) organization
  obtain ⟨made, calls, areSearches⟩ :
      ∃ made, ((find organization).run world session).2.calls =
          session.calls ++ .organization organization :: made ∧ ∀ call ∈ made, call.isSearch :=
    calls_of_tenant located world session
  rw [fails] at calls
  obtain rfl := List.append_cancel_left calls
  refine ⟨made, rfl, areSearches, ?_⟩
  intro address has
  have finds := run_find_of_hasEndpoint has session
  rw [fails] at finds
  cases finds

/-- The ways in which the resolution of an endpoint goes. -/
inductive Resolves
    (world : World)
    (organization : String)
    (session : Session) :
    Except DashboardError String → Session → Prop
  /-- The endpoint is cached, and nobody is asked. -/
  | cached
      {address : String}
      (visible : session.lookup (key organization) = some address) :
      Resolves world organization session (.ok address) session
  /-- It is looked up and cached. -/
  | found
      {address cluster : String}
      {services : List Call}
      (absent : session.lookup (key organization) = none)
      (has : world.HasEndpoint organization address)
      (areServices : ∀ call ∈ services, call.isService) :
      Resolves world organization session (.ok address)
        ((session.logAll
            (.organization organization :: .registry cluster :: services)).write
          (key organization) address)
  /-- It is looked up in vain. -/
  | missed
      {fault : DashboardError}
      {made : List Call}
      (absent : session.lookup (key organization) = none)
      (lacks : ∀ address, ¬world.HasEndpoint organization address)
      (areSearches : ∀ call ∈ made, call.isSearch) :
      Resolves world organization session (.error fault)
        (session.logAll (.organization organization :: made))

theorem resolves
    (world : World)
    (organization : String)
    (session : Session) :
    ∃ result after, (resolve organization).run world session = (result, after) ∧
      Resolves world organization session result after := by
  cases visible : session.lookup (key organization) with
  | some address =>
      rw [run_resolve_of_some visible]
      exact ⟨.ok address, session, rfl, .cached visible⟩
  | none =>
      rw [run_resolve_of_none visible, Request.run_bind]
      rcases finds : (find organization).run world session with ⟨fault | address, after⟩
      · obtain ⟨made, rfl, areSearches, lacks⟩ := onlyAsks_of_find_error finds
        exact ⟨_, _, rfl, .missed visible lacks areSearches⟩
      · obtain ⟨cluster, services, rfl, areServices, has⟩ := onlyAsks_of_find finds
        exact ⟨_, _, rfl, .found visible has areServices⟩

end Endpoint

/-! ## Names -/

namespace ClusterName

/-- The ways in which the resolution of a name goes. -/
inductive Resolves
    (world : World)
    (cluster : String)
    (session : Session) :
    String → Session → Prop
  /-- The name is cached, and nobody is asked. -/
  | cached
      {name : String}
      (visible : session.lookup (key cluster) = some name) :
      Resolves world cluster session name session
  /-- It is looked up and cached. -/
  | found
      {name : String}
      (absent : session.lookup (key cluster) = none)
      (has : world.HasName cluster name) :
      Resolves world cluster session name
        ((session.log (.cluster cluster)).write (key cluster) name)
  /-- It is looked up in vain, and the id stands for it. -/
  | missed
      (absent : session.lookup (key cluster) = none)
      (lacks : ∀ name, ¬world.HasName cluster name) :
      Resolves world cluster session cluster (session.log (.cluster cluster))

/-- A name is always resolved in some way. -/
theorem resolves
    (world : World)
    (cluster : String)
    (session : Session) :
    ∃ name after, (resolve cluster).run world session = (.ok name, after) ∧
      Resolves world cluster session name after := by
  rw [resolve, Request.run_bind, Request.run_remembered]
  cases visible : session.lookup (key cluster) with
  | some name => exact ⟨name, session, rfl, .cached visible⟩
  | none =>
      change ∃ name after, (discover cluster).run world session = (.ok name, after) ∧ _
      rw [discover, Request.run_bind, Request.run_ask]
      match answered : world.cluster cluster with
      | .ok (some record) =>
          exact ⟨record.name, _, rfl, .found visible ⟨record, answered, rfl⟩⟩
      | .ok none =>
          refine ⟨cluster, _, rfl, .missed visible ?_⟩
          rintro name ⟨record, recorded, _⟩
          rw [answered] at recorded
          cases recorded
      | .error reason =>
          refine ⟨cluster, _, rfl, .missed visible ?_⟩
          rintro name ⟨record, recorded, _⟩
          rw [answered] at recorded
          cases recorded

end ClusterName

/-! ## What resolutions leave alone -/

namespace Session

/-- What is held for a key is left alone. -/
structure Leaves
    (key : String)
    (before after : Session) : Prop where
  clock : after.clock = before.clock
  lifetime : after.cache.lifetime = before.cache.lifetime
  held : after.cache.held? key = before.cache.held? key

namespace Leaves

variable {key : String}

theorem refl
    (session : Session) :
    session.Leaves key session :=
  ⟨rfl, rfl, rfl⟩

theorem trans
    {first second third : Session}
    (leaves : first.Leaves key second)
    (leavesToo : second.Leaves key third) :
    first.Leaves key third where
  clock := leavesToo.clock.trans leaves.clock
  lifetime := leavesToo.lifetime.trans leaves.lifetime
  held := leavesToo.held.trans leaves.held

theorem logAll
    (session : Session)
    (calls : List Call) :
    session.Leaves key (session.logAll calls) :=
  ⟨rfl, rfl, rfl⟩

/-- What is written for another key is not seen. -/
theorem write
    (session : Session)
    {other : String}
    (different : key ≠ other)
    (value : String) :
    session.Leaves key (session.write other value) :=
  ⟨rfl, rfl, Cache.held?_writeFor_of_ne _ _ different _ _⟩

/-- A reader sees the same, whenever it comes. -/
theorem lookup
    {before after : Session}
    (leaves : before.Leaves key after)
    (moment : Nat) :
    after.cache.lookup moment key = before.cache.lookup moment key := by
  rw [Cache.lookup, leaves.held, Cache.lookup]

/-- Questions leave all keys alone. -/
theorem composesSearches
    (world : World)
    (key backend : String) :
    ComposesSearches backend (fun _ => True) (Request.LeadsIn world (Leaves key)) :=
  Request.composesSearches_leadsIn world refl trans backend fun _ _ _ => ⟨rfl, rfl, rfl⟩

end Leaves
end Session

/-- The resolution of an endpoint touches no key but that of its organization. -/
theorem Endpoint.leaves_resolve
    {key organization : String}
    (different : key ≠ Endpoint.key organization)
    (world : World) :
    Request.LeadsIn world (Session.Leaves key) String (resolve organization) := by
  intro session
  obtain ⟨result, after, runs, way⟩ := resolves world organization session
  rw [runs]
  cases way with
  | cached _ => exact .refl session
  | found _ _ _ => exact (Session.Leaves.logAll session _).trans (.write _ different _)
  | missed _ _ _ => exact .logAll session _

/-- The resolution of a name touches no key but that of its cluster, and not even that
when the cluster has no name on record. -/
theorem ClusterName.leaves_resolve
    {world : World}
    {key cluster : String}
    (different : ∀ name, world.HasName cluster name → key ≠ ClusterName.key cluster) :
    Request.LeadsIn world (Session.Leaves key) String (resolve cluster) := by
  intro session
  obtain ⟨name, after, runs, way⟩ := resolves world cluster session
  rw [runs]
  cases way with
  | cached _ => exact .refl session
  | found _ has =>
      exact (Session.Leaves.logAll session [.cluster cluster]).trans
        (.write _ (different name has) _)
  | missed _ _ => exact .logAll session [.cluster cluster]

end FleetDashboard
