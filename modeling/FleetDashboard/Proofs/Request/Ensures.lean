import FleetDashboard.Proofs.Failure
import FleetDashboard.Service.Session
import Mathlib.Data.List.Forall2

/-!
# What requests ensure

Requests obey the laws of a monad.  What a request ensures is stated on sessions
and values: it keeps an invariant of the session whether it succeeds or fails,
and every value that it yields satisfies a postcondition.
-/

namespace FleetDashboard

namespace Request

/-! ## Laws -/

private theorem map_id_eq
    (request : Request α) :
    id <$> request = request := by
  funext world session
  change Request.bind request (fun value => Request.pure value) world session = _
  unfold Request.bind Request.pure
  rcases request world session with ⟨_ | _, _⟩ <;> rfl

private theorem bind_bind_eq
    (request : Request α)
    (next : α → Request β)
    (last : β → Request γ) :
    request >>= next >>= last = request >>= fun value => next value >>= last := by
  funext world session
  change Request.bind (Request.bind request next) last world session =
    Request.bind request (fun value => Request.bind (next value) last) world session
  unfold Request.bind
  rcases request world session with ⟨_ | _, _⟩ <;> rfl

instance : LawfulMonad Request :=
  LawfulMonad.mk' Request map_id_eq (fun _ _ => rfl) bind_bind_eq

@[simp] theorem run_world
    (current : World)
    (session : Session) :
    world.run current session = (.ok current, session) := rfl

/-- What a composed request that succeeds has done. -/
theorem run_bind_eq_ok_iff
    {request : Request α}
    {next : α → Request β}
    {current : World}
    {session after : Session}
    {value : β} :
    (request >>= next).run current session = (.ok value, after) ↔
      ∃ first middle, request.run current session = (.ok first, middle) ∧
        (next first).run current middle = (.ok value, after) := by
  rw [run_bind]
  rcases request.run current session with ⟨fault | first, middle⟩ <;> simp

/-! ## Invariants and postconditions -/

/-- In a world a request keeps an invariant of the session, and every value that
it yields satisfies a postcondition. -/
def Ensures
    (world : World)
    (invariant : Session → Prop)
    (request : Request α)
    (holds : α → Prop) : Prop :=
  ∀ session, invariant session →
    invariant (request.run world session).2 ∧
      ∀ value, (request.run world session).1 = .ok value → holds value

namespace Ensures

variable {current : World} {invariant : Session → Prop}

theorem pure
    {holds : α → Prop}
    {value : α}
    (satisfied : holds value) :
    Ensures current invariant (pure value) holds := by
  intro session kept
  refine ⟨kept, ?_⟩
  intro other same
  rw [run_pure, Except.ok.injEq] at same
  exact same ▸ satisfied

theorem bind
    {request : Request α}
    {next : α → Request β}
    {between : α → Prop}
    {holds : β → Prop}
    (first : Ensures current invariant request between)
    (second : ∀ value, between value → Ensures current invariant (next value) holds) :
    Ensures current invariant (request >>= next) holds := by
  intro session kept
  obtain ⟨keptBetween, yields⟩ := first session kept
  rw [run_bind]
  rcases outcome : request.run current session with ⟨fault | value, middle⟩
  · rw [outcome] at keptBetween
    exact ⟨keptBetween, fun _ same => by cases same⟩
  · rw [outcome] at keptBetween yields
    exact second value (yields value rfl) middle keptBetween

theorem weaken
    {request : Request α}
    {stronger weaker : α → Prop}
    (ensures : Ensures current invariant request stronger)
    (implies : ∀ value, stronger value → weaker value) :
    Ensures current invariant request weaker := by
  intro session kept
  obtain ⟨keptAfter, yields⟩ := ensures session kept
  exact ⟨keptAfter, fun value same => implies value (yields value same)⟩

theorem ofExcept
    {holds : α → Prop}
    {result : Except DashboardError α}
    (yields : ∀ value, result = .ok value → holds value) :
    Ensures current invariant (Request.ofExcept result) holds := by
  intro session kept
  exact ⟨kept, yields⟩

theorem ask
    {call : Call}
    {answer : World → α}
    {holds : α → Prop}
    (logged : ∀ session, invariant session → invariant (session.log call))
    (answered : holds (answer current)) :
    Ensures current invariant (Request.ask call answer) holds := by
  intro session kept
  refine ⟨logged session kept, ?_⟩
  intro value same
  rw [run_ask, Except.ok.injEq] at same
  exact same ▸ answered

theorem demand
    {call : Call}
    {answer : World → Except DashboardError α}
    (logged : ∀ session, invariant session → invariant (session.log call)) :
    Ensures current invariant (Request.demand call answer) fun value =>
      answer current = .ok value := by
  intro session kept
  exact ⟨logged session kept, fun _ same => same⟩

theorem demandStored
    {call : Call}
    {answer : World → Except String α}
    (logged : ∀ session, invariant session → invariant (session.log call)) :
    Ensures current invariant (Request.demandStored call answer) fun value =>
      answer current = .ok value := by
  refine (demand logged).weaken ?_
  intro value same
  exact mapError_eq_ok_iff.mp same

/-- Looking at the world yields the world as it is. -/
theorem world :
    Ensures current invariant Request.world fun found => found = current := by
  intro session kept
  refine ⟨kept, ?_⟩
  intro found same
  rw [run_world, Except.ok.injEq] at same
  exact same.symm

theorem remembered
    {key : String}
    {holds : Option String → Prop}
    (recalled : ∀ session, invariant session → holds (session.lookup key)) :
    Ensures current invariant (Request.remembered key) holds := by
  intro session kept
  refine ⟨kept, ?_⟩
  intro value same
  rw [run_remembered, Except.ok.injEq] at same
  exact same ▸ recalled session kept

theorem remember
    {key value : String}
    (written : ∀ session, invariant session → invariant (session.write key value)) :
    Ensures current invariant (Request.remember key value) fun _ => True := by
  intro session kept
  exact ⟨written session kept, fun _ _ => trivial⟩

/-- Requests made one after the other for the items of a list. -/
theorem mapM
    {make : α → Request β}
    {holds : α → β → Prop}
    (each : ∀ item, Ensures current invariant (make item) (holds item))
    (items : List α) :
    Ensures current invariant (items.mapM make) (List.Forall₂ holds items) := by
  induction items with
  | nil =>
      rw [List.mapM_nil]
      exact pure .nil
  | cons item rest inductionHypothesis =>
      rw [List.mapM_cons]
      refine bind (each item) ?_
      intro value satisfied
      refine bind inductionHypothesis ?_
      intro values restSatisfied
      exact pure (.cons satisfied restSatisfied)

/-- What each item's request ensures of its value holds of all values. -/
theorem mapM_forall
    {make : α → Request β}
    {holds : β → Prop}
    (each : ∀ item, Ensures current invariant (make item) holds)
    (items : List α) :
    Ensures current invariant (items.mapM make) fun values => ∀ value ∈ values, holds value := by
  refine (mapM each items).weaken ?_
  intro values satisfied
  induction satisfied with
  | nil => simp
  | cons first _ inductionHypothesis => exact List.forall_mem_cons.mpr ⟨first, inductionHypothesis⟩

end Ensures
end Request
end FleetDashboard
