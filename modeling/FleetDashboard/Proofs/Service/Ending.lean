import FleetDashboard.Proofs.Service.Selection

/-!
# How requests end

A request goes through, or a collaborator fails it, or it is refused by a check that
asks nobody.  Either way the first thing that goes wrong is the last thing that
happens: no call follows.  Only the look-up of a cluster's name may fail on the way.
-/

namespace FleetDashboard

namespace Call

/-- The call looks up the name of a cluster. -/
def isNameLookup : Call → Bool
  | .cluster _ => true
  | _ => false

end Call

/-- The error with which a call ends a request. -/
def World.fatal?
    (world : World)
    (backend : String)
    (call : Call) : Option DashboardError :=
  if call.isNameLookup then none else world.failure? backend call

/-! ## Endings -/

/-- How a request ends that has made these calls. -/
inductive Ends
    (fatal? : Call → Option DashboardError)
    (refuses : List Call → DashboardError → Prop) :
    List Call → Except DashboardError α → Prop
  /-- All went well. -/
  | yields
      {made : List Call}
      {value : α}
      (harmless : ∀ call ∈ made, fatal? call = none) :
      Ends fatal? refuses made (.ok value)
  /-- The last call failed. -/
  | fails
      {front : List Call}
      {call : Call}
      {fault : DashboardError}
      (harmless : ∀ call ∈ front, fatal? call = none)
      (fatal : fatal? call = some fault) :
      Ends fatal? refuses (front ++ [call]) (.error fault)
  /-- After the last call the request was refused. -/
  | refused
      {made : List Call}
      {fault : DashboardError}
      (harmless : ∀ call ∈ made, fatal? call = none)
      (refusal : refuses made fault) :
      Ends fatal? refuses made (.error fault)

namespace Ends

variable
  {fatal? : Call → Option DashboardError}
  {refuses : List Call → DashboardError → Prop}
  {made : List Call}

theorem harmless_of_ok
    {value : α}
    (ends : Ends fatal? refuses made (.ok value)) :
    ∀ call ∈ made, fatal? call = none := by
  cases ends with
  | yields harmless => exact harmless

/-- A request that fails does so whatever it would have yielded. -/
theorem of_error
    {fault : DashboardError}
    (ends : Ends fatal? refuses made (.error fault : Except DashboardError α)) :
    Ends fatal? refuses made (.error fault : Except DashboardError β) := by
  cases ends with
  | fails harmless fatal => exact .fails harmless fatal
  | refused harmless refusal => exact .refused harmless refusal

/-- Harmless calls may go before, if what is refused later on is refused then. -/
theorem prepend
    {refusesAfter : List Call → DashboardError → Prop}
    {front : List Call}
    {result : Except DashboardError α}
    (harmless : ∀ call ∈ front, fatal? call = none)
    (ends : Ends fatal? refusesAfter made result)
    (closed : ∀ made fault, refusesAfter made fault → refuses (front ++ made) fault) :
    Ends fatal? refuses (front ++ made) result := by
  cases ends with
  | yields harmlessToo => exact .yields (List.forall_mem_append.mpr ⟨harmless, harmlessToo⟩)
  | fails harmlessToo fatal =>
      rw [← List.append_assoc]
      exact .fails (List.forall_mem_append.mpr ⟨harmless, harmlessToo⟩) fatal
  | refused harmlessToo refusal =>
      exact .refused (List.forall_mem_append.mpr ⟨harmless, harmlessToo⟩) (closed _ _ refusal)

end Ends

/-- In a world a request ends from every session in one of these ways. -/
def Request.EndsIn
    (world : World)
    (backend : String)
    (refuses : List Call → DashboardError → Prop)
    (α : Type)
    (request : Request α) : Prop :=
  ∀ session, ∃ made, (request.run world session).2.calls = session.calls ++ made ∧
    Ends (world.fatal? backend) refuses made (request.run world session).1

namespace Request.EndsIn

variable
  {world : World}
  {backend : String}
  {refuses : List Call → DashboardError → Prop}

/-- A request that calls nobody and succeeds. -/
theorem of_quiet
    {request : Request α}
    (quiet : ∀ session, (request.run world session).2.calls = session.calls)
    (succeeds : ∀ session, ∃ value, (request.run world session).1 = .ok value) :
    EndsIn world backend refuses α request := by
  intro session
  obtain ⟨value, same⟩ := succeeds session
  refine ⟨[], by rw [quiet, List.append_nil], ?_⟩
  rw [same]
  exact .yields nofun

theorem pure
    (value : α) :
    EndsIn world backend refuses α (pure value) :=
  of_quiet (fun _ => rfl) fun _ => ⟨value, rfl⟩

/-- A check that asks nobody ends a request if it fails.  What comes next may count
on its result. -/
theorem ofExcept_bind
    {result : Except DashboardError α}
    {next : α → Request β}
    (refusal : ∀ fault, result = .error fault → refuses [] fault)
    (nextEnds : ∀ value, result = .ok value → EndsIn world backend refuses β (next value)) :
    EndsIn world backend refuses β (Request.ofExcept result >>= next) := by
  intro session
  rw [run_bind, run_ofExcept]
  cases result with
  | error fault => exact ⟨[], (List.append_nil _).symm, .refused nofun (refusal fault rfl)⟩
  | ok value => exact nextEnds value rfl session

theorem ofExcept
    {result : Except DashboardError α}
    (refusal : ∀ fault, result = .error fault → refuses [] fault) :
    EndsIn world backend refuses α (Request.ofExcept result) := by
  rw [← bind_pure (Request.ofExcept result)]
  apply ofExcept_bind refusal
  intro value _
  exact pure value

theorem weaken
    {weaker : List Call → DashboardError → Prop}
    {request : Request α}
    (ends : EndsIn world backend refuses α request)
    (implies : ∀ made fault, refuses made fault → weaker made fault) :
    EndsIn world backend weaker α request := by
  intro session
  obtain ⟨made, calls, ended⟩ := ends session
  refine ⟨[] ++ made, calls, ?_⟩
  exact ended.prepend nofun implies

theorem bind
    (closed : ∀ front made fault, refuses made fault → refuses (front ++ made) fault)
    {request : Request α}
    {next : α → Request β}
    (ends : EndsIn world backend refuses α request)
    (nextEnds : ∀ value, EndsIn world backend refuses β (next value)) :
    EndsIn world backend refuses β (request >>= next) := by
  intro session
  obtain ⟨made, calls, ended⟩ := ends session
  rw [run_bind]
  rcases outcome : request.run world session with ⟨fault | value, after⟩
  · rw [outcome] at calls ended
    exact ⟨made, calls, ended.of_error⟩
  · rw [outcome] at calls ended
    obtain ⟨more, moreCalls, nextEnded⟩ := nextEnds value after
    refine ⟨made ++ more, ?_, nextEnded.prepend ended.harmless_of_ok (closed made)⟩
    rw [moreCalls, calls, List.append_assoc]

/-- A question ends a request if it fails.  What comes next may count on the answer
and is refused right after the question. -/
theorem question_bind
    {call : Call}
    (isFatal : call.isNameLookup = false)
    {next : call.Answer → Request β}
    (nextEnds : ∀ value, world.answer backend call = .ok value →
      EndsIn world backend (fun made => refuses (call :: made)) β (next value)) :
    EndsIn world backend refuses β (Request.question backend call >>= next) := by
  intro session
  have fatal : world.fatal? backend call = world.failure? backend call := by
    rw [World.fatal?, isFatal, if_neg Bool.false_ne_true]
  rw [run_bind, run_question]
  cases answered : world.answer backend call with
  | error fault =>
      refine ⟨[call], rfl, ?_⟩
      change Ends _ _ ([] ++ [call]) _
      refine .fails nofun ?_
      rw [fatal, World.failure?_eq_some_iff.mpr answered]
  | ok value =>
      obtain ⟨made, calls, ended⟩ := nextEnds value answered (session.log call)
      refine ⟨[call] ++ made, ?_, ended.prepend ?_ fun _ _ refusal => refusal⟩
      · rw [← List.append_assoc]
        exact calls
      · rw [List.forall_mem_singleton, fatal, World.failure?_of_ok answered]

theorem question
    {call : Call}
    (isFatal : call.isNameLookup = false) :
    EndsIn world backend refuses call.Answer (Request.question backend call) := by
  rw [← bind_pure (Request.question backend call)]
  apply question_bind isFatal
  intro value _
  exact pure value

/-- Endings are composed of questions other than the look-ups of names. -/
theorem composes
    (closed : ∀ front made fault, refuses made fault → refuses (front ++ made) fault) :
    Composes backend (fun call => call.isNameLookup = false) (EndsIn world backend refuses) where
  pure := pure
  bind := fun _ _ ends nextEnds => bind closed ends nextEnds
  question := fun _ isFatal => question isFatal

/-- The name of a cluster is always found in some way. -/
theorem clusterName
    (closed : ∀ front made fault, refuses made fault → refuses (front ++ made) fault)
    (cluster : String) :
    EndsIn world backend refuses String (ClusterName.resolve cluster) := by
  refine (composes closed).clusterName ?_ ?_ ?_
  · exact of_quiet (fun _ => rfl) fun session => ⟨session.lookup _, rfl⟩
  · exact fun name => of_quiet (fun _ => rfl) fun _ => ⟨(), rfl⟩
  · intro session
    exact ⟨[.cluster cluster], rfl, .yields (List.forall_mem_singleton.mpr rfl)⟩

end Request.EndsIn

/-! ## Refusals -/

/-- The checks that a request makes of what it is told and of its parameters, each
right after the last call.  `rejects` says which parameters are turned down. -/
inductive World.Refuses
    (world : World)
    (organization : String)
    (rejects : DashboardError → Prop) :
    List Call → DashboardError → Prop
  | tenant
      (front : List Call)
      (absent : world.organization organization = .ok none) :
      Refuses world organization rejects
        (front ++ [.organization organization]) (.tenantNotFound organization)
  | primaryCluster
      (front : List Call)
      {record : Organization}
      {fault : DashboardError}
      (recorded : world.organization organization = .ok (some record))
      (unnamed : Endpoint.primaryCluster record organization = .error fault) :
      Refuses world organization rejects (front ++ [.organization organization]) fault
  | noService
      (front : List Call)
      (cluster : String)
      (preferredAbsent : world.service cluster world.metricsNamespace
        Endpoint.preferredService = .ok none)
      (plainAbsent : world.service cluster world.metricsNamespace
        Endpoint.plainService = .ok none) :
      Refuses world organization rejects
        (front ++ [.service cluster world.metricsNamespace Endpoint.preferredService,
          .service cluster world.metricsNamespace Endpoint.plainService])
        (Endpoint.noService cluster world.metricsNamespace)
  | unusableService
      (front : List Call)
      {cluster name : String}
      {endpoint : Kubernetes.ServiceEndpoint}
      {fault : DashboardError}
      (found : world.service cluster world.metricsNamespace name = .ok (some endpoint))
      (unusable : endpoint.address = .error fault) :
      Refuses world organization rejects
        (front ++ [.service cluster world.metricsNamespace name]) fault
  | parameters
      (made : List Call)
      {fault : DashboardError}
      (rejected : rejects fault) :
      Refuses world organization rejects made fault

namespace World.Refuses

variable
  {world : World}
  {organization : String}
  {rejects : DashboardError → Prop}

/-- A check asks only for the last calls. -/
theorem prepend
    (earlier made : List Call)
    (fault : DashboardError)
    (refuses : world.Refuses organization rejects made fault) :
    world.Refuses organization rejects (earlier ++ made) fault := by
  cases refuses with
  | tenant front absent =>
      rw [← List.append_assoc]
      exact .tenant _ absent
  | primaryCluster front recorded unnamed =>
      rw [← List.append_assoc]
      exact .primaryCluster _ recorded unnamed
  | noService front cluster preferredAbsent plainAbsent =>
      rw [← List.append_assoc]
      exact .noService _ cluster preferredAbsent plainAbsent
  | unusableService front found unusable =>
      rw [← List.append_assoc]
      exact .unusableService _ found unusable
  | parameters _ rejected => exact .parameters _ rejected

/-- Whatever a request asks, it ends in one of these ways, unless it checks something
else. -/
theorem composes
    (world : World)
    (organization : String)
    (rejects : DashboardError → Prop)
    (backend : String) :
    Composes backend (fun call => call.isNameLookup = false)
      (Request.EndsIn world backend (world.Refuses organization rejects)) :=
  Request.EndsIn.composes prepend

end World.Refuses

/-! ## The search for an endpoint -/

namespace Endpoint

variable
  {world : World}
  {organization : String}
  {rejects : DashboardError → Prop}

/-- A request that looks for the tenant ends there if there is none. -/
theorem endsIn_tenant
    {backend : String}
    {next : Organization → Request α}
    (nextEnds : ∀ record, world.organization organization = .ok (some record) →
      Request.EndsIn world backend
        (fun made => world.Refuses organization rejects (.organization organization :: made)) α
        (next record)) :
    Request.EndsIn world backend (world.Refuses organization rejects) α
      (tenant organization >>= next) := by
  change Request.EndsIn world backend _ α
    ((Request.question backend (.organization organization) >>= _) >>= next)
  rw [bind_assoc]
  apply Request.EndsIn.question_bind rfl
  intro found answered
  have recorded := mapError_eq_ok_iff.mp answered
  cases found with
  | none =>
      refine .ofExcept ?_
      rintro _ ⟨⟩
      exact .tenant [] recorded
  | some record => exact nextEnds record recorded

/-- A search for the services of a cluster ends when there is none, or none that has
an address. -/
theorem endsIn_service
    (backend cluster : String) :
    Request.EndsIn world backend (world.Refuses organization rejects) String
      (anyService cluster world.metricsNamespace >>= fun endpoint =>
        Request.ofExcept endpoint.address) := by
  change Request.EndsIn world backend _ _
    ((Request.question backend
      (.service cluster world.metricsNamespace preferredService) >>= _) >>= _)
  rw [bind_assoc]
  apply Request.EndsIn.question_bind rfl
  intro preferred preferredAnswered
  cases preferred with
  | some endpoint =>
      refine .ofExcept ?_
      intro fault unusable
      exact .unusableService [] preferredAnswered unusable
  | none =>
      change Request.EndsIn world backend _ _
        ((Request.question backend
          (.service cluster world.metricsNamespace plainService) >>= _) >>= _)
      rw [bind_assoc]
      apply Request.EndsIn.question_bind rfl
      intro plain plainAnswered
      cases plain with
      | some endpoint =>
          refine .ofExcept ?_
          intro fault unusable
          exact .unusableService [_] plainAnswered unusable
      | none =>
          refine .ofExcept ?_
          rintro _ ⟨⟩
          exact .noService [] cluster preferredAnswered plainAnswered

theorem endsIn_find
    (backend : String) :
    Request.EndsIn world backend (world.Refuses organization rejects) String
      (find organization) := by
  rw [find_eq]
  apply endsIn_tenant
  intro record recorded
  apply Request.EndsIn.ofExcept_bind
  · intro fault unnamed
    exact .primaryCluster [] recorded unnamed
  intro cluster _
  refine Request.EndsIn.weaken ?_ fun made fault => World.Refuses.prepend [_] made fault
  apply (World.Refuses.composes world organization rejects backend).bind _ _ (.question rfl)
  intro _
  exact endsIn_service backend cluster

theorem endsIn_resolve
    (backend : String) :
    Request.EndsIn world backend (world.Refuses organization rejects) String
      (resolve organization) := by
  have composes := World.Refuses.composes world organization rejects backend
  apply composes.bind _ _ (.of_quiet (fun _ => rfl) fun session => ⟨session.lookup _, rfl⟩)
  intro cached
  cases cached with
  | some address => exact .pure address
  | none =>
      change Request.EndsIn _ _ _ _ (discover organization)
      rw [discover_eq]
      apply composes.bind _ _ (endsIn_find backend)
      intro address
      apply composes.bind _ _ (.of_quiet (fun _ => rfl) fun _ => ⟨(), rfl⟩)
      intro _
      exact .pure address

theorem endsIn_backend
    (anyBackend : String) :
    Request.EndsIn world anyBackend (world.Refuses organization rejects) String
      (backend organization) := by
  have composes := World.Refuses.composes world organization rejects anyBackend
  apply composes.bind _ _ (endsIn_resolve anyBackend)
  intro address
  apply composes.bind _ _ (.question rfl)
  intro _
  exact .pure address

end Endpoint
end FleetDashboard
