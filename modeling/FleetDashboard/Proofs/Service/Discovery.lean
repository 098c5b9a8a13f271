import FleetDashboard.Proofs.Service.Resolution

/-!
# How an endpoint is made out

The search for an endpoint that is not cached goes in stages: the directory names the
primary cluster, the control plane reaches it, and one of two services there is the
endpoint.  Every stage can end the search.  `Endpoint.Searches` lists the ends, each
with the questions that have been asked by then, and a resolution that finds nothing
cached comes to the one end that the world admits.  Only a search that succeeds is
written down, under one key.
-/

namespace FleetDashboard

open Kubernetes

namespace World

/-- The organization is on record, and this is the id of its primary cluster without
the blanks around it. -/
def HasPrimary
    (world : World)
    (organization cluster : String) : Prop :=
  ∃ record primary, world.organization organization = .ok (some record) ∧
    record.primaryClusterId = some primary ∧ Text.trim primary = cluster ∧ cluster ≠ ""

/-- The organization is on record, and the id of its primary cluster is absent or
blank. -/
def LacksPrimary
    (world : World)
    (organization : String) : Prop :=
  ∃ record, world.organization organization = .ok (some record) ∧
    ∀ primary, record.primaryClusterId = some primary → Text.trim primary = ""

/-- The control plane reaches the primary cluster of the organization. -/
def Reaches
    (world : World)
    (organization cluster : String) : Prop :=
  world.HasPrimary organization cluster ∧ world.registry cluster = .ok ()

theorem HasPrimary.unique
    {world : World}
    {organization cluster other : String}
    (primary : world.HasPrimary organization cluster)
    (otherPrimary : world.HasPrimary organization other) :
    cluster = other := by
  obtain ⟨record, id, recorded, named, rfl, _⟩ := primary
  obtain ⟨_, _, recordedToo, namedToo, rfl, _⟩ := otherPrimary
  cases recorded.symm.trans recordedToo
  cases named.symm.trans namedToo
  rfl

theorem HasPrimary.not_lacksPrimary
    {world : World}
    {organization cluster : String}
    (primary : world.HasPrimary organization cluster) :
    ¬world.LacksPrimary organization := by
  rintro ⟨_, recordedToo, blank⟩
  obtain ⟨record, id, recorded, named, rfl, filled⟩ := primary
  cases recorded.symm.trans recordedToo
  exact filled (blank id named)

end World

namespace Endpoint

/-! ## The services of a cluster -/

/-- The ways in which the choice among a cluster's services ends, with the questions
asked. -/
inductive Picks
    (world : World)
    (cluster : String) :
    Except DashboardError ServiceEndpoint → List Call → Prop
  /-- The preferred service cannot be looked up, and the plain one is not asked for. -/
  | preferredFails
      {fault : DashboardError}
      (preferred :
        world.service cluster world.metricsNamespace preferredService = .error fault) :
      Picks world cluster (.error fault)
        [.service cluster world.metricsNamespace preferredService]
  /-- The preferred service is there, usable or not, and the plain one is not asked for. -/
  | preferredFound
      {endpoint : ServiceEndpoint}
      (preferred :
        world.service cluster world.metricsNamespace preferredService = .ok (some endpoint)) :
      Picks world cluster (.ok endpoint)
        [.service cluster world.metricsNamespace preferredService]
  /-- The preferred service is absent, and the plain one cannot be looked up. -/
  | plainFails
      {fault : DashboardError}
      (preferred : world.service cluster world.metricsNamespace preferredService = .ok none)
      (plain : world.service cluster world.metricsNamespace plainService = .error fault) :
      Picks world cluster (.error fault)
        [.service cluster world.metricsNamespace preferredService,
          .service cluster world.metricsNamespace plainService]
  /-- The preferred service is absent, and the plain one is there. -/
  | plainFound
      {endpoint : ServiceEndpoint}
      (preferred : world.service cluster world.metricsNamespace preferredService = .ok none)
      (plain :
        world.service cluster world.metricsNamespace plainService = .ok (some endpoint)) :
      Picks world cluster (.ok endpoint)
        [.service cluster world.metricsNamespace preferredService,
          .service cluster world.metricsNamespace plainService]
  /-- Both services are absent. -/
  | neither
      (preferred : world.service cluster world.metricsNamespace preferredService = .ok none)
      (plain : world.service cluster world.metricsNamespace plainService = .ok none) :
      Picks world cluster (.error (noService cluster world.metricsNamespace))
        [.service cluster world.metricsNamespace preferredService,
          .service cluster world.metricsNamespace plainService]

namespace Picks

variable {world : World} {cluster : String}

theorem unique
    {result other : Except DashboardError ServiceEndpoint}
    {made otherMade : List Call}
    (picks : Picks world cluster result made)
    (picksToo : Picks world cluster other otherMade) :
    result = other ∧ made = otherMade := by
  cases picks <;> cases picksToo <;> simp_all

/-- The plain service is asked for exactly when the preferred one is absent. -/
theorem asks_plain_iff
    {result : Except DashboardError ServiceEndpoint}
    {made : List Call}
    (picks : Picks world cluster result made)
    (other : String) :
    .service other world.metricsNamespace plainService ∈ made ↔
      other = cluster ∧
        world.service cluster world.metricsNamespace preferredService = .ok none := by
  have different : plainService ≠ preferredService := by decide
  cases picks with
  | preferredFails preferred => simp [preferred, different]
  | preferredFound preferred => simp [preferred, different]
  | plainFails preferred _ => simp [preferred, different]
  | plainFound preferred _ => simp [preferred, different]
  | neither preferred _ => simp [preferred, different]

end Picks

/-- The choice among a cluster's services ends in one of these ways. -/
theorem picks_anyService
    (world : World)
    (cluster : String)
    (session : Session) :
    ∃ result made,
      (anyService cluster world.metricsNamespace).run world session =
          (result, session.logAll made) ∧
        Picks world cluster result made := by
  rw [anyService, Request.run_bind, lookupService, Request.run_demand]
  rcases preferred : world.service cluster world.metricsNamespace preferredService with
    fault | _ | endpoint
  · exact ⟨_, _, rfl, .preferredFails preferred⟩
  · dsimp only
    rw [Request.run_bind, lookupService, Request.run_demand]
    rcases plain : world.service cluster world.metricsNamespace plainService with
      fault | _ | endpoint
    · refine ⟨_, _, ?_, .plainFails preferred plain⟩
      rw [Session.logAll_cons, Session.logAll_cons, Session.logAll_nil]
    · refine ⟨_, _, ?_, .neither preferred plain⟩
      rw [Session.logAll_cons, Session.logAll_cons, Session.logAll_nil]
      rfl
    · refine ⟨_, _, ?_, .plainFound preferred plain⟩
      rw [Session.logAll_cons, Session.logAll_cons, Session.logAll_nil]
      rfl
  · exact ⟨_, _, rfl, .preferredFound preferred⟩

/-! ## The whole search -/

/-- The ways in which the search for an endpoint ends, with the questions asked. -/
inductive Searches
    (world : World)
    (organization : String) :
    Except DashboardError String → List Call → Prop
  /-- The directory fails. -/
  | directoryFails
      {reason : String}
      (failed : world.organization organization = .error reason) :
      Searches world organization (.error (.internal reason)) [.organization organization]
  /-- There is no such organization. -/
  | unknown
      (absent : world.organization organization = .ok none) :
      Searches world organization (.error (.tenantNotFound organization))
        [.organization organization]
  /-- The organization has no primary cluster. -/
  | noPrimary
      (lacks : world.LacksPrimary organization) :
      Searches world organization
        (.error (.configuration ("Organization " ++ organization ++ " has no primary cluster")))
        [.organization organization]
  /-- The control plane does not reach the primary cluster. -/
  | unreached
      {cluster : String}
      {fault : DashboardError}
      (primary : world.HasPrimary organization cluster)
      (failed : world.registry cluster = .error fault) :
      Searches world organization (.error fault)
        [.organization organization, .registry cluster]
  /-- There is no service to choose. -/
  | unserved
      {cluster : String}
      {fault : DashboardError}
      {made : List Call}
      (reaches : world.Reaches organization cluster)
      (picks : Picks world cluster (.error fault) made) :
      Searches world organization (.error fault)
        (.organization organization :: .registry cluster :: made)
  /-- A service is chosen, and its address decides. -/
  | served
      {cluster : String}
      {endpoint : ServiceEndpoint}
      {made : List Call}
      (reaches : world.Reaches organization cluster)
      (picks : Picks world cluster (.ok endpoint) made) :
      Searches world organization endpoint.address
        (.organization organization :: .registry cluster :: made)

theorem hasPrimary_iff
    {world : World}
    {organization cluster : String}
    {record : Organization}
    (recorded : world.organization organization = .ok (some record)) :
    world.HasPrimary organization cluster ↔
      primaryCluster record organization = .ok cluster := by
  rw [primaryCluster_eq_ok_iff, record.primaryCluster?_eq_some_iff]
  constructor
  · rintro ⟨other, primary, recordedToo, named⟩
    cases recorded.symm.trans recordedToo
    exact ⟨primary, named⟩
  · rintro ⟨primary, named⟩
    exact ⟨record, primary, recorded, named⟩

theorem lacksPrimary_of_error
    {world : World}
    {organization : String}
    {record : Organization}
    {fault : DashboardError}
    (recorded : world.organization organization = .ok (some record))
    (unnamed : primaryCluster record organization = .error fault) :
    world.LacksPrimary organization ∧
      fault = .configuration ("Organization " ++ organization ++ " has no primary cluster") := by
  refine ⟨⟨record, recorded, ?_⟩, ?_⟩
  · intro primary named
    by_contra filled
    have has : world.HasPrimary organization (Text.trim primary) :=
      ⟨record, primary, recorded, named, rfl, filled⟩
    rw [hasPrimary_iff recorded, unnamed] at has
    cases has
  · unfold primaryCluster at unnamed
    split at unnamed
    · cases unnamed
    · exact (Except.error.inj unnamed).symm

/-- A search ends in one of these ways and does nothing but ask. -/
theorem searches_find
    (world : World)
    (organization : String)
    (session : Session) :
    ∃ result made, (find organization).run world session = (result, session.logAll made) ∧
      Searches world organization result made := by
  rw [find, Request.run_bind, run_tenant]
  rcases recorded : world.organization organization with reason | _ | record
  · exact ⟨_, _, rfl, .directoryFails recorded⟩
  · exact ⟨_, _, rfl, .unknown recorded⟩
  dsimp only
  rw [Request.run_bind, Request.run_ofExcept]
  rcases named : primaryCluster record organization with fault | cluster
  · obtain ⟨lacks, rfl⟩ := lacksPrimary_of_error recorded named
    exact ⟨_, _, rfl, .noPrimary lacks⟩
  have primary : world.HasPrimary organization cluster := (hasPrimary_iff recorded).mpr named
  dsimp only
  rw [Request.run_bind, Request.run_demand]
  rcases reached : world.registry cluster with fault | _
  · refine ⟨_, _, ?_, .unreached primary reached⟩
    rw [Session.logAll_cons, Session.logAll_cons, Session.logAll_nil]
  dsimp only
  rw [Request.run_bind, Request.run_world]
  dsimp only
  rw [Request.run_bind]
  obtain ⟨picked, made, runs, picks⟩ := picks_anyService world cluster
    ((session.log (.organization organization)).log (.registry cluster))
  rw [runs]
  rcases picked with fault | endpoint
  · refine ⟨_, _, ?_, .unserved ⟨primary, reached⟩ picks⟩
    rw [Session.logAll_cons, Session.logAll_cons]
  · refine ⟨_, _, ?_, .served ⟨primary, reached⟩ picks⟩
    rw [Session.logAll_cons, Session.logAll_cons]
    rfl

namespace Searches

variable {world : World} {organization : String}

/-- The stage that a search comes to once the organization is on record and has a primary
cluster. -/
theorem of_hasPrimary
    {cluster : String}
    {result : Except DashboardError String}
    {made : List Call}
    (searches : Searches world organization result made)
    (primary : world.HasPrimary organization cluster) :
    (∃ fault, world.registry cluster = .error fault ∧ result = .error fault ∧
        made = [.organization organization, .registry cluster]) ∨
      world.registry cluster = .ok () ∧ ∃ picked calls, Picks world cluster picked calls ∧
        result = picked.bind ServiceEndpoint.address ∧
        made = .organization organization :: .registry cluster :: calls := by
  have ⟨record, _, recorded, _⟩ := primary
  cases searches with
  | directoryFails failed => cases recorded.symm.trans failed
  | unknown absent => cases recorded.symm.trans absent
  | noPrimary lacks => exact absurd lacks primary.not_lacksPrimary
  | unreached primaryToo failed =>
      cases primary.unique primaryToo
      exact .inl ⟨_, failed, rfl, rfl⟩
  | unserved reaches picks =>
      cases primary.unique reaches.1
      exact .inr ⟨reaches.2, _, _, picks, rfl, rfl⟩
  | served reaches picks =>
      cases primary.unique reaches.1
      exact .inr ⟨reaches.2, _, _, picks, rfl, rfl⟩

theorem unique
    {result other : Except DashboardError String}
    {made otherMade : List Call}
    (searches : Searches world organization result made)
    (searchesToo : Searches world organization other otherMade) :
    result = other ∧ made = otherMade := by
  -- the first search fixes the stage of the second, or what the stage finds is at odds
  cases searches with
  | directoryFails failed =>
      cases searchesToo <;> simp_all [World.LacksPrimary, World.HasPrimary, World.Reaches]
  | unknown absent =>
      cases searchesToo <;> simp_all [World.LacksPrimary, World.HasPrimary, World.Reaches]
  | noPrimary lacks =>
      have ⟨record, recorded, _⟩ := lacks
      cases searchesToo with
      | directoryFails failed => cases recorded.symm.trans failed
      | unknown absent => cases recorded.symm.trans absent
      | noPrimary _ => exact ⟨rfl, rfl⟩
      | unreached primary _ => exact absurd lacks primary.not_lacksPrimary
      | unserved reaches _ => exact absurd lacks reaches.1.not_lacksPrimary
      | served reaches _ => exact absurd lacks reaches.1.not_lacksPrimary
  | unreached primary failed =>
      rcases searchesToo.of_hasPrimary primary with ⟨_, failedToo, rfl, rfl⟩ | ⟨reached, _⟩
      · cases failed.symm.trans failedToo
        exact ⟨rfl, rfl⟩
      · cases failed.symm.trans reached
  | unserved reaches picks =>
      rcases searchesToo.of_hasPrimary reaches.1 with
        ⟨_, failed, _⟩ | ⟨_, _, _, picksToo, rfl, rfl⟩
      · cases reaches.2.symm.trans failed
      · obtain ⟨rfl, rfl⟩ := picks.unique picksToo
        exact ⟨rfl, rfl⟩
  | served reaches picks =>
      rcases searchesToo.of_hasPrimary reaches.1 with
        ⟨_, failed, _⟩ | ⟨_, _, _, picksToo, rfl, rfl⟩
      · cases reaches.2.symm.trans failed
      · obtain ⟨rfl, rfl⟩ := picks.unique picksToo
        exact ⟨rfl, rfl⟩

/-- The plain service is asked for exactly when the primary cluster is reached and has no
preferred service. -/
theorem asks_plain_iff
    {result : Except DashboardError String}
    {made : List Call}
    (searches : Searches world organization result made)
    (cluster : String) :
    .service cluster world.metricsNamespace plainService ∈ made ↔
      world.Reaches organization cluster ∧
        world.service cluster world.metricsNamespace preferredService = .ok none := by
  constructor
  · intro asked
    cases searches with
    | directoryFails _ => simp at asked
    | unknown _ => simp at asked
    | noPrimary _ => simp at asked
    | unreached _ _ => simp at asked
    | unserved reaches picks =>
        obtain ⟨rfl, preferred⟩ := (picks.asks_plain_iff cluster).mp (by simpa using asked)
        exact ⟨reaches, preferred⟩
    | served reaches picks =>
        obtain ⟨rfl, preferred⟩ := (picks.asks_plain_iff cluster).mp (by simpa using asked)
        exact ⟨reaches, preferred⟩
  · rintro ⟨⟨primary, reached⟩, preferred⟩
    rcases searches.of_hasPrimary primary with
      ⟨_, failed, _⟩ | ⟨_, _, calls, picks, _, rfl⟩
    · cases reached.symm.trans failed
    · have asked := (picks.asks_plain_iff cluster).mpr ⟨rfl, preferred⟩
      simpa using asked

end Searches

/-! ## What a resolution does that finds nothing cached -/

/-- The session after a search with this result: an address is cached, and nothing else
happens. -/
def settle
    (organization : String)
    (session : Session) : Except DashboardError String → Session
  | .ok address => session.write (key organization) address
  | .error _ => session

theorem run_resolve_of_searches
    {world : World}
    {organization : String}
    {session : Session}
    {result : Except DashboardError String}
    {made : List Call}
    (absent : session.lookup (key organization) = none)
    (finds : (find organization).run world session = (result, session.logAll made)) :
    (resolve organization).run world session =
      (result, settle organization (session.logAll made) result) := by
  rw [run_resolve_of_none absent, Request.run_bind, finds]
  cases result <;> rfl

/-- The resolution of an endpoint that is not cached ends as the search does, in the one
way that the world admits, and asks what is asked on that way.  The plain service is asked
for exactly when the primary cluster is reached and has no preferred service.  A failure
leaves the cache as it is.  An address is held under the key of the organization for the
lifetime of the cache, which is capped as every lifetime is, and what is held under other
keys stays. -/
theorem resolve_ends_as_search
    {organization : String}
    {session : Session}
    (absent : session.lookup (key organization) = none)
    (world : World) :
    let answered := (resolve organization).run world session
    ∃ made, answered.2.calls = session.calls ++ made ∧
      (∀ result calls, Searches world organization result calls ↔
        result = answered.1 ∧ calls = made) ∧
      (∀ cluster, .service cluster world.metricsNamespace plainService ∈ made ↔
        world.Reaches organization cluster ∧
          world.service cluster world.metricsNamespace preferredService = .ok none) ∧
      answered.2.clock = session.clock ∧
      (∀ fault, answered.1 = .error fault → answered.2.cache = session.cache) ∧
      ∀ address, answered.1 = .ok address →
        answered.2.cache.held? (key organization) =
            some ⟨key organization, address,
              session.clock + min session.cache.lifetime Cache.longestLifetime⟩ ∧
          (∀ other, other ≠ key organization →
            answered.2.cache.held? other = session.cache.held? other) ∧
          answered.2.cache.lifetime = session.cache.lifetime := by
  intro answered
  obtain ⟨result, made, finds, searches⟩ := searches_find world organization session
  have runs : answered = (result, settle organization (session.logAll made) result) :=
    run_resolve_of_searches absent finds
  have exact : ∀ other calls, Searches world organization other calls ↔
      other = result ∧ calls = made := by
    intro other calls
    constructor
    · exact fun searchesToo => searchesToo.unique searches
    · rintro ⟨rfl, rfl⟩
      exact searches
  rw [runs]
  refine ⟨made, ?_, exact, searches.asks_plain_iff, ?_, ?_, ?_⟩
  · cases result <;> rfl
  · cases result <;> rfl
  · rintro fault rfl
    rfl
  · rintro address rfl
    refine ⟨Cache.held?_writeFor_self _ _ _ _ _, ?_, rfl⟩
    intro other different
    exact Cache.held?_writeFor_of_ne _ _ different _ _

/-- An address that has expired is searched for once more.  The preferred service is
absent, so the plain one is asked for; the new address takes the place of the expired one,
and the name that is cached stays. -/
theorem sample_resolve_ends_as_search :
    let session := (((Session.begin 10).write (ClusterName.key "c1") "alpha").write
      (key "acme") "http://old:80").advance 10
    let answered := (resolve "acme").run World.sample session
    session.lookup (key "acme") = none ∧ answered.1 = .ok "http://thanos:9090" ∧
      Searches World.sample "acme" answered.1
        [.organization "acme", .registry "c1", .service "c1" "lma" preferredService,
          .service "c1" "lma" plainService] ∧
      answered.2.cache.held? (key "acme") =
        some ⟨key "acme", "http://thanos:9090", 20⟩ ∧
      answered.2.cache.held? (ClusterName.key "c1") =
        some ⟨ClusterName.key "c1", "alpha", 10⟩ := by
  intro session answered
  have absent : session.lookup (key "acme") = none := by decide
  have finds : answered.1 = .ok "http://thanos:9090" := by decide
  obtain ⟨made, calls, exact, _, _, _, cached⟩ := resolve_ends_as_search absent World.sample
  obtain ⟨held, others, _⟩ := cached _ finds
  refine ⟨absent, finds, (exact _ _).mpr ⟨rfl, ?_⟩, held, ?_⟩
  · have logged : answered.2.calls = [.organization "acme", .registry "c1",
        .service "c1" "lma" preferredService, .service "c1" "lma" plainService] := by decide
    exact logged.symm.trans calls
  · exact (others _ (by decide)).trans (by decide)

end Endpoint
end FleetDashboard
