import FleetDashboard.Proofs.Cache.Lookup
import FleetDashboard.Proofs.Service.History
import FleetDashboard.Proofs.Service.Resolution

/-!
# When collaborators are consulted

An endpoint or a name is looked up only while it is not cached, and what has been found
stays cached for its lifetime.  A session remembers all that its past has found; hence
the same thing is never found twice within one lifetime.
-/

namespace FleetDashboard

/-! ## What calls find -/

/-- The cache key of what a call looks for.  The control plane is asked for the endpoint
of the organization that a request is about. -/
def Call.subject?
    (organization? : Option String) : Call → Option String
  | .registry _ | .service _ _ _ => organization?.map Endpoint.key
  | .cluster id => some (ClusterName.key id)
  | _ => none

theorem Call.subject?_of_isDirect
    {call : Call}
    (direct : call.isDirect)
    (organization? : Option String) :
    call.subject? organization? = none := by
  cases call with
  | registry _ => cases direct
  | service _ _ _ => cases direct
  | cluster _ => cases direct
  | _ => rfl

theorem Call.subject?_of_isSearch
    {call : Call}
    (searches : call.isSearch)
    {organization key : String}
    (subject : call.subject? (some organization) = some key) :
    key = Endpoint.key organization := by
  cases call with
  | registry _ => exact (Option.some.inj subject).symm
  | service _ _ _ => exact (Option.some.inj subject).symm
  | organization _ => cases subject
  | _ => cases searches

/-- A call that has been made: when, in what world, and on behalf of which
organization. -/
structure Consultation where
  moment : Nat
  world : World
  organization? : Option String
  call : Call

namespace Consultation

/-- The text under a key has been found.  A search for an endpoint counts as the one call
that it makes to the control plane before it asks for services. -/
def Finds
    (consultation : Consultation)
    (key value : String) : Prop :=
  consultation.call.isService = false ∧
    consultation.call.subject? consultation.organization? = some key ∧
    consultation.world.Vouches key value

/-- Whatever both have found, the later one has found it a lifetime after the earlier
one. -/
def Spaced
    (lifetime : Nat)
    (earlier later : Consultation) : Prop :=
  ∀ key value other, earlier.Finds key value → later.Finds key other →
    earlier.moment + min lifetime Cache.longestLifetime ≤ later.moment

/-- Nothing that is cached has been found. -/
def Idle
    (consultation : Consultation) : Prop :=
  ∀ key value, ¬consultation.Finds key value

theorem idle_of_isDirect
    {consultation : Consultation}
    (direct : consultation.call.isDirect) :
    consultation.Idle := by
  rintro key value ⟨_, subject, _⟩
  rw [Call.subject?_of_isDirect direct] at subject
  cases subject

theorem idle_of_isService
    {consultation : Consultation}
    (isService : consultation.call.isService) :
    consultation.Idle := by
  rintro key value ⟨notService, _, _⟩
  rw [isService] at notService
  cases notService

/-- An endpoint is found by asking the control plane on behalf of its organization. -/
theorem finds_endpoint_iff
    {consultation : Consultation}
    {organization address : String} :
    consultation.Finds (Endpoint.key organization) address ↔
      consultation.organization? = some organization ∧
        (∃ cluster, consultation.call = .registry cluster) ∧
          consultation.world.HasEndpoint organization address := by
  obtain ⟨moment, world, organization?, call⟩ := consultation
  rw [Finds, World.vouches_endpoint_iff]
  constructor
  · rintro ⟨notService, subject, has⟩
    cases call with
    | registry cluster =>
        obtain ⟨owner, rfl, same⟩ := Option.map_eq_some_iff.mp subject
        obtain rfl := Endpoint.key_injective same
        exact ⟨rfl, ⟨cluster, rfl⟩, has⟩
    | service _ _ _ => cases notService
    | cluster id =>
        exact absurd (Option.some.inj subject).symm (Endpoint.key_ne_clusterNameKey _ _)
    | _ => cases subject
  · rintro ⟨rfl, ⟨cluster, rfl⟩, has⟩
    exact ⟨rfl, rfl, has⟩

/-- A name is found by looking up its cluster. -/
theorem finds_clusterName_iff
    {consultation : Consultation}
    {cluster name : String} :
    consultation.Finds (ClusterName.key cluster) name ↔
      consultation.call = .cluster cluster ∧ consultation.world.HasName cluster name := by
  obtain ⟨moment, world, organization?, call⟩ := consultation
  rw [Finds, World.vouches_clusterName_iff]
  constructor
  · rintro ⟨notService, subject, has⟩
    cases call with
    | registry _ =>
        obtain ⟨owner, _, same⟩ := Option.map_eq_some_iff.mp subject
        exact absurd same (Endpoint.key_ne_clusterNameKey _ _)
    | service _ _ _ => cases notService
    | cluster id =>
        obtain rfl := ClusterName.key_injective (Option.some.inj subject)
        exact ⟨rfl, has⟩
    | _ => cases subject
  · rintro ⟨rfl, has⟩
    exact ⟨rfl, rfl, has⟩

theorem Finds.key_eq
    {consultation : Consultation}
    {key other value otherValue : String}
    (finds : consultation.Finds key value)
    (findsToo : consultation.Finds other otherValue) :
    other = key :=
  Option.some.inj (findsToo.2.1.symm.trans finds.2.1)

end Consultation

/-! ## Sessions that remember -/

namespace Session

/-- The session remembers what the consultations of its past have found: each finding
stays visible for a lifetime, nothing else is visible, and so they have been spaced. -/
structure Remembers
    (lifetime : Nat)
    (history : List Consultation)
    (session : Session) : Prop where
  sameLifetime : session.cache.lifetime = lifetime
  past : ∀ consultation ∈ history, consultation.moment ≤ session.clock
  kept : ∀ consultation ∈ history, ∀ key value, consultation.Finds key value →
    ∀ moment, session.clock ≤ moment →
      moment < consultation.moment + min lifetime Cache.longestLifetime →
        session.cache.lookup moment key ≠ none
  found : ∀ key value moment, session.clock ≤ moment →
    session.cache.lookup moment key = some value →
      ∃ consultation ∈ history, consultation.Finds key value ∧
        moment < consultation.moment + min lifetime Cache.longestLifetime
  spaced : history.Pairwise (Consultation.Spaced lifetime)

namespace Remembers

variable
  {lifetime : Nat}
  {history : List Consultation}
  {session : Session}

theorem begin
    (lifetime : Nat) :
    (Session.begin lifetime).Remembers lifetime [] where
  sameLifetime := rfl
  past := nofun
  kept := nofun
  found := by
    intro key value moment _ visible
    cases visible
  spaced := .nil

/-- Whatever leaves the texts as they are leaves the memory as it is. -/
theorem later
    (remembers : session.Remembers lifetime history)
    {next : Session}
    (sameLifetime : next.cache.lifetime = session.cache.lifetime)
    (notBefore : session.clock ≤ next.clock)
    (sameTexts : ∀ moment, next.clock ≤ moment → ∀ key,
      next.cache.lookup moment key = session.cache.lookup moment key) :
    next.Remembers lifetime history where
  sameLifetime := sameLifetime.trans remembers.sameLifetime
  past := fun consultation member =>
    Nat.le_trans (remembers.past consultation member) notBefore
  kept := by
    intro consultation member key value finds moment reached recent
    rw [sameTexts moment reached]
    exact remembers.kept consultation member key value finds moment
      (Nat.le_trans notBefore reached) recent
  found := by
    intro key value moment reached visible
    rw [sameTexts moment reached] at visible
    exact remembers.found key value moment (Nat.le_trans notBefore reached) visible
  spaced := remembers.spaced

theorem logAll
    (remembers : session.Remembers lifetime history)
    (calls : List Call) :
    (session.logAll calls).Remembers lifetime history :=
  remembers.later rfl (Nat.le_refl _) fun _ _ _ => rfl

/-- Consultations that find nothing are remembered as such. -/
theorem idle
    (remembers : session.Remembers lifetime history)
    {more : List Consultation}
    (now : ∀ consultation ∈ more, consultation.moment = session.clock)
    (idle : ∀ consultation ∈ more, consultation.Idle) :
    session.Remembers lifetime (history ++ more) where
  sameLifetime := remembers.sameLifetime
  past := List.forall_mem_append.mpr
    ⟨remembers.past, fun consultation member => Nat.le_of_eq (now consultation member)⟩
  kept := by
    intro consultation member key value finds
    rcases List.mem_append.mp member with old | new
    · exact remembers.kept consultation old key value finds
    · exact absurd finds (idle consultation new key value)
  found := by
    intro key value moment reached visible
    obtain ⟨consultation, member, finds⟩ := remembers.found key value moment reached visible
    exact ⟨consultation, List.mem_append_left more member, finds⟩
  spaced := by
    refine List.pairwise_append.mpr ⟨remembers.spaced, ?_, ?_⟩
    · refine List.pairwise_iff_getElem.mpr ?_
      intro _ _ inRange _ _ key value _ finds _
      exact absurd finds (idle _ (List.getElem_mem inRange) key value)
    · intro _ _ later member key _ value _ finds
      exact absurd finds (idle later member key value)

/-- What is found while it is not visible is cached, and its lifetime begins. -/
theorem write
    (remembers : session.Remembers lifetime history)
    {consultation : Consultation}
    (now : consultation.moment = session.clock)
    {key value : String}
    (finds : consultation.Finds key value)
    (absent : session.lookup key = none) :
    (session.write key value).Remembers lifetime (history ++ [consultation]) := by
  have shows : ∀ moment, (session.write key value).cache.lookup moment key =
      if moment < session.clock + min lifetime Cache.longestLifetime then some value
      else none := by
    intro moment
    rw [← remembers.sameLifetime]
    exact Cache.lookup_writeFor_self _ _ _ _ _ _
  have others : ∀ moment other, other ≠ key →
      (session.write key value).cache.lookup moment other =
        session.cache.lookup moment other :=
    fun _ _ different => Cache.lookup_writeFor_of_ne _ _ _ different _ _
  refine ⟨remembers.sameLifetime, ?_, ?_, ?_, ?_⟩
  · exact List.forall_mem_append.mpr
      ⟨remembers.past, List.forall_mem_singleton.mpr (Nat.le_of_eq now)⟩
  · intro former member other text findsText moment reached recent
    by_cases same : other = key
    · have notAhead : former.moment ≤ session.clock := by
        rcases List.mem_append.mp member with old | new
        · exact remembers.past former old
        · rw [List.mem_singleton.mp new]
          exact Nat.le_of_eq now
      rw [same, shows, if_pos (by omega)]
      simp
    · rw [others moment other same]
      rcases List.mem_append.mp member with old | new
      · exact remembers.kept former old other text findsText moment reached recent
      · obtain rfl := List.mem_singleton.mp new
        exact absurd (finds.key_eq findsText) same
  · intro other text moment reached visible
    by_cases same : other = key
    · subst same
      rw [shows] at visible
      split at visible
      next recent =>
        cases visible
        exact ⟨consultation, by simp, finds, by rwa [now]⟩
      next => cases visible
    · rw [others moment other same] at visible
      obtain ⟨former, member, found⟩ := remembers.found other text moment reached visible
      exact ⟨former, List.mem_append_left _ member, found⟩
  · refine List.pairwise_append.mpr ⟨remembers.spaced, List.pairwise_singleton _ _, ?_⟩
    intro former member later isLast other text another findsText findsAnother
    obtain rfl := List.mem_singleton.mp isLast
    obtain rfl := finds.key_eq findsAnother
    rw [now]
    -- Within a lifetime of the earlier finding its text would still be visible.
    by_contra recent
    exact remembers.kept former member other text findsText session.clock (Nat.le_refl _)
      (by omega) absent

end Remembers

/-! ## Requests -/

/-- In between, these calls have been made.  What they looked for was not visible, what
was visible is so still, and what they found is remembered. -/
structure Consults
    (world : World)
    (organization? : Option String)
    (made : List Call)
    (before after : Session) : Prop where
  clock : after.clock = before.clock
  calls : after.calls = before.calls ++ made
  shown : ∀ key, before.lookup key ≠ none → after.lookup key ≠ none
  needed : ∀ call ∈ made, ∀ key, call.subject? organization? = some key →
    before.lookup key = none
  remembered : ∀ lifetime history, before.Remembers lifetime history →
    after.Remembers lifetime
      (history ++ made.map (Consultation.mk before.clock world organization?))

namespace Consults

variable {world : World} {organization? : Option String}

/-- Calls that find nothing may be made. -/
theorem of_idle
    {session : Session}
    {made : List Call}
    (needed : ∀ call ∈ made, ∀ key, call.subject? organization? = some key →
      session.lookup key = none)
    (idle : ∀ call ∈ made, (Consultation.mk session.clock world organization? call).Idle) :
    Consults world organization? made session (session.logAll made) where
  clock := rfl
  calls := rfl
  shown := fun _ visible => visible
  needed := needed
  remembered := by
    intro lifetime history remembers
    refine (remembers.idle ?_ ?_).logAll made
    · simp
    · simpa using idle

theorem refl
    (session : Session) :
    Consults world organization? [] session session := by
  have stays : Consults world organization? [] session (session.logAll []) :=
    of_idle nofun nofun
  rwa [logAll_nil] at stays

theorem log
    (session : Session)
    {call : Call}
    (direct : call.isDirect) :
    Consults world organization? [call] session (session.log call) := by
  refine of_idle ?_ ?_
  · rintro _ member key subject
    obtain rfl := List.mem_singleton.mp member
    rw [Call.subject?_of_isDirect direct] at subject
    cases subject
  · rintro _ member
    obtain rfl := List.mem_singleton.mp member
    exact Consultation.idle_of_isDirect direct

theorem trans
    {first second third : Session}
    {made more : List Call}
    (consults : Consults world organization? made first second)
    (consultsToo : Consults world organization? more second third) :
    Consults world organization? (made ++ more) first third where
  clock := consultsToo.clock.trans consults.clock
  calls := by rw [consultsToo.calls, consults.calls, List.append_assoc]
  shown := fun key visible => consultsToo.shown key (consults.shown key visible)
  needed := by
    intro call member key subject
    rcases List.mem_append.mp member with early | late
    · exact consults.needed call early key subject
    -- What was visible at first is so in between, and then it is not looked for.
    · by_contra visible
      exact consults.shown key visible (consultsToo.needed call late key subject)
  remembered := by
    intro lifetime history remembers
    have remembered :=
      consultsToo.remembered lifetime _ (consults.remembered lifetime history remembers)
    rwa [consults.clock, List.append_assoc, ← List.map_append] at remembered

/-- What is found while it is not visible is written, maybe after some more calls. -/
theorem found
    {session : Session}
    {key value : String}
    {call : Call}
    {more : List Call}
    (finds : (Consultation.mk session.clock world organization? call).Finds key value)
    (absent : session.lookup key = none)
    (sameSubject : ∀ other ∈ more, ∀ subject, other.subject? organization? = some subject →
      subject = key)
    (idle : ∀ other ∈ more, (Consultation.mk session.clock world organization? other).Idle) :
    Consults world organization? (call :: more) session
      ((session.logAll (call :: more)).write key value) where
  clock := rfl
  calls := rfl
  shown := by
    intro other visible
    have different : other ≠ key := by
      rintro rfl
      exact visible absent
    exact (Cache.lookup_writeFor_of_ne session.cache session.clock session.clock different value
      session.cache.lifetime).trans_ne visible
  needed := by
    intro other member subject isSubject
    rcases List.mem_cons.mp member with rfl | later
    · obtain rfl := Option.some.inj (isSubject.symm.trans finds.2.1)
      exact absent
    · rw [sameSubject other later subject isSubject]
      exact absent
  remembered := by
    intro lifetime history remembers
    have written := (remembers.logAll (call :: more)).write rfl finds absent
    rw [List.map_cons, List.append_cons]
    exact written.idle (by simp) (by simpa using idle)

/-- Direct questions look for nothing that is cached. -/
theorem composesSearches
    (world : World)
    (organization? : Option String)
    (backend : String) :
    ComposesSearches backend (fun call => call.isDirect)
      (Request.LeadsIn world fun before after =>
        ∃ made, Consults world organization? made before after) := by
  refine Request.composesSearches_leadsIn world (fun session => ⟨[], .refl session⟩) ?_ backend
    fun session call direct => ⟨[call], .log session direct⟩
  rintro first second third ⟨made, consults⟩ ⟨more, consultsToo⟩
  exact ⟨made ++ more, consults.trans consultsToo⟩

end Consults
end Session

/-- A search of an endpoint is made when it is not visible. -/
theorem Endpoint.consults_resolve
    (world : World)
    (organization : String) :
    Request.LeadsIn world
      (fun before after => ∃ made, Session.Consults world (some organization) made before after)
      String (resolve organization) := by
  intro session
  obtain ⟨result, after, runs, way⟩ := resolves world organization session
  rw [runs]
  cases way with
  | cached _ => exact ⟨[], .refl session⟩
  | @found address cluster services absent has areServices =>
      have looks : Session.Consults world (some organization) [.organization organization]
          session (session.log (.organization organization)) :=
        .log session rfl
      have finds : (Consultation.mk session.clock world (some organization)
          (.registry cluster)).Finds (key organization) address :=
        ⟨rfl, rfl, .endpoint has⟩
      -- The call to the control plane finds the endpoint; the services only come after it.
      rw [Session.logAll_cons]
      refine ⟨_, looks.trans (.found finds absent ?_ ?_)⟩
      · intro call member subject isSubject
        exact Call.subject?_of_isSearch (Call.isSearch_of_isService (areServices call member))
          isSubject
      · intro call member
        exact Consultation.idle_of_isService (areServices call member)
  | @missed fault made absent lacks areSearches =>
      have searches : ∀ call ∈ Call.organization organization :: made, call.isSearch :=
        List.forall_mem_cons.mpr ⟨rfl, areSearches⟩
      have search : ∀ call ∈ Call.organization organization :: made, ∀ subject,
          call.subject? (some organization) = some subject → subject = key organization :=
        fun call member subject isSubject =>
          Call.subject?_of_isSearch (searches call member) isSubject
      refine ⟨_, .of_idle ?_ ?_⟩
      · intro call member subject isSubject
        rw [search call member subject isSubject]
        exact absent
      · rintro call member subject address ⟨_, isSubject, vouches⟩
        obtain rfl := search call member subject isSubject
        exact lacks address (World.vouches_endpoint_iff.mp vouches)

/-- A name is looked up when it is not visible. -/
theorem ClusterName.consults_resolve
    (world : World)
    (organization? : Option String)
    (cluster : String) :
    Request.LeadsIn world
      (fun before after => ∃ made, Session.Consults world organization? made before after)
      String (resolve cluster) := by
  intro session
  obtain ⟨name, after, runs, way⟩ := resolves world cluster session
  rw [runs]
  cases way with
  | cached _ => exact ⟨[], .refl session⟩
  | found absent has =>
      have finds : (Consultation.mk session.clock world organization? (.cluster cluster)).Finds
          (key cluster) name :=
        ⟨rfl, rfl, .clusterName has⟩
      exact ⟨[.cluster cluster], .found finds absent nofun nofun⟩
  | missed absent lacks =>
      refine ⟨[.cluster cluster], .of_idle ?_ ?_⟩
      · rintro _ member subject isSubject
        obtain rfl := List.mem_singleton.mp member
        obtain rfl := Option.some.inj isSubject
        exact absent
      · rintro _ member subject recorded ⟨_, isSubject, vouches⟩
        obtain rfl := List.mem_singleton.mp member
        obtain rfl := Option.some.inj isSubject
        exact lacks recorded (World.vouches_clusterName_iff.mp vouches)

namespace RunState

/-- The calls that a step makes. -/
def made
    (state : RunState)
    (step : Step) : List Call :=
  (state.step step).2.session.calls.drop state.session.calls.length

/-- The calls that a step makes, with their circumstances. -/
def consulted
    (state : RunState)
    (step : Step) : List Consultation :=
  (state.made step).map
    (Consultation.mk state.session.clock state.world step.organization?)

/-- All calls of a run, the first one first. -/
def consultations : RunState → List Step → List Consultation
  | _, [] => []
  | state, step :: rest => state.consulted step ++ (state.step step).2.consultations rest

/-- A step asks for nothing that is visible, and what it finds is remembered. -/
theorem consults_step
    (state : RunState)
    {step : Step}
    (isRequest : step.isRequest) :
    Session.Consults state.world step.organization? (state.made step) state.session
      (state.step step).2.session := by
  obtain ⟨made, consults⟩ := state.leadsIn_step isRequest (fun _ direct => direct)
    (Session.Consults.composesSearches state.world step.organization?)
    (ClusterName.consults_resolve state.world step.organization?)
    fun organization about => by
      rw [about]
      exact Endpoint.consults_resolve state.world organization
  have same : state.made step = made := by
    rw [RunState.made, consults.calls, List.drop_left]
  rw [same]
  exact consults

/-- Every other step makes no call. -/
theorem made_of_not_isRequest
    (state : RunState)
    {step : Step}
    (notRequest : step.isRequest = false) :
    state.made step = [] := by
  have silent : (state.step step).2.session.calls = state.session.calls := by
    cases step with
    | advance _ => rfl
    | purge => rfl
    | change _ => rfl
    | charts | summaries | resources | endpoint | clusterName => cases notRequest
  rw [made, silent, List.drop_length]

/-- After every step a session remembers what has been found so far. -/
theorem remembers_step
    {lifetime : Nat}
    {history : List Consultation}
    {state : RunState}
    (remembers : state.session.Remembers lifetime history)
    (step : Step) :
    (state.step step).2.session.Remembers lifetime (history ++ state.consulted step) := by
  cases isRequest : step.isRequest with
  | true => exact (state.consults_step isRequest).remembered lifetime history remembers
  | false =>
      rw [consulted, state.made_of_not_isRequest isRequest, List.map_nil, List.append_nil]
      cases step with
      | advance duration =>
          exact remembers.later rfl (Nat.le_add_right _ duration) fun _ _ _ => rfl
      | purge =>
          refine remembers.later rfl (Nat.le_refl _) ?_
          intro moment notBefore key
          exact Cache.lookup_purge_of_le state.session.cache notBefore key
      | change world => exact remembers.later rfl (Nat.le_refl _) fun _ _ _ => rfl
      | charts | summaries | resources | endpoint | clusterName => cases isRequest

theorem remembers_run
    {lifetime : Nat}
    {history : List Consultation}
    {state : RunState}
    (remembers : state.session.Remembers lifetime history)
    (steps : List Step) :
    (state.run steps).2.session.Remembers lifetime (history ++ state.consultations steps) := by
  induction steps generalizing state history with
  | nil =>
      rw [consultations, List.append_nil]
      exact remembers
  | cons step rest inductionHypothesis =>
      rw [run_cons, consultations, ← List.append_assoc]
      exact inductionHypothesis (remembers_step remembers step)

theorem remembers_begin
    (start : World)
    (lifetime : Nat)
    (steps : List Step) :
    ((begin start lifetime).run steps).2.session.Remembers lifetime
      ((begin start lifetime).consultations steps) := by
  rw [← List.nil_append (consultations _ steps)]
  exact remembers_run (.begin lifetime) steps

/-- Whatever a run leaves visible one of its calls has found less than a lifetime ago. -/
theorem exists_finds_of_visible
    (start : World)
    (lifetime : Nat)
    (steps : List Step)
    {key value : String}
    (visible : ((begin start lifetime).run steps).2.session.lookup key = some value) :
    ∃ consultation ∈ (begin start lifetime).consultations steps,
      consultation.Finds key value ∧
        ((begin start lifetime).run steps).2.session.clock <
          consultation.moment + min lifetime Cache.longestLifetime :=
  (remembers_begin start lifetime steps).found key value _ (Nat.le_refl _) visible

end RunState
end FleetDashboard
