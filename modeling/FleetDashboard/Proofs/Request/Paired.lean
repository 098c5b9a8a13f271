import FleetDashboard.Proofs.Request.Ensures

/-!
# Pairs of requests

Two requests are compared by running each in a world and a session of its own.
They are paired when, from related sessions, they fail with the same error or
yield related values, and leave related sessions behind either way.
-/

namespace FleetDashboard

/-- Two results agree: the same failure, or related values. -/
inductive Agree
    (related : α → β → Prop) :
    Except DashboardError α → Except DashboardError β → Prop
  | ok
      {left : α}
      {right : β}
      (values : related left right) :
      Agree related (.ok left) (.ok right)
  | error
      {fault : DashboardError} :
      Agree related (.error fault) (.error fault)

namespace Agree

theorem refl
    (result : Except DashboardError α) :
    Agree Eq result result := by
  cases result with
  | ok value => exact .ok rfl
  | error fault => exact .error

theorem eq
    {left right : Except DashboardError α}
    (agree : Agree Eq left right) :
    left = right := by
  cases agree with
  | ok same => exact congrArg Except.ok same
  | error => rfl

theorem weaken
    {stronger weaker : α → β → Prop}
    {left : Except DashboardError α}
    {right : Except DashboardError β}
    (agree : Agree stronger left right)
    (implies : ∀ leftValue rightValue, stronger leftValue rightValue →
      weaker leftValue rightValue) :
    Agree weaker left right := by
  cases agree with
  | ok values => exact .ok (implies _ _ values)
  | error => exact .error

/-- Results agree up to what a function shows of them. -/
theorem iff_map_eq
    {shown : α → β}
    {left right : Except DashboardError α} :
    Agree (fun first second => shown first = shown second) left right ↔
      left.map shown = right.map shown := by
  constructor
  · intro agree
    cases agree with
    | ok same => exact congrArg Except.ok same
    | error => rfl
  · intro same
    cases left with
    | ok first =>
        cases right with
        | ok second => exact .ok (Except.ok.inj same)
        | error fault => cases same
    | error fault =>
        cases right with
        | ok second => cases same
        | error other =>
            cases same
            exact .error

end Agree

namespace Request

/-- From related sessions two requests give results that agree and leave related
sessions behind. -/
def Paired
    (leftWorld rightWorld : World)
    (sessions : Session → Session → Prop)
    (related : α → β → Prop)
    (left : Request α)
    (right : Request β) : Prop :=
  ∀ leftSession rightSession, sessions leftSession rightSession →
    Agree related (left.run leftWorld leftSession).1 (right.run rightWorld rightSession).1 ∧
      sessions (left.run leftWorld leftSession).2 (right.run rightWorld rightSession).2

namespace Paired

variable {leftWorld rightWorld : World} {sessions : Session → Session → Prop}

theorem pure
    {related : α → β → Prop}
    {left : α}
    {right : β}
    (values : related left right) :
    Paired leftWorld rightWorld sessions related (pure left) (pure right) := by
  intro leftSession rightSession paired
  exact ⟨.ok values, paired⟩

theorem weaken
    {stronger weaker : α → β → Prop}
    {left : Request α}
    {right : Request β}
    (paired : Paired leftWorld rightWorld sessions stronger left right)
    (implies : ∀ leftValue rightValue, stronger leftValue rightValue →
      weaker leftValue rightValue) :
    Paired leftWorld rightWorld sessions weaker left right := by
  intro leftSession rightSession related
  obtain ⟨agree, relatedAfter⟩ := paired leftSession rightSession related
  exact ⟨agree.weaken implies, relatedAfter⟩

theorem bind
    {between : α → β → Prop}
    {related : γ → δ → Prop}
    {left : Request α}
    {right : Request β}
    {leftNext : α → Request γ}
    {rightNext : β → Request δ}
    (first : Paired leftWorld rightWorld sessions between left right)
    (second : ∀ leftValue rightValue, between leftValue rightValue →
      Paired leftWorld rightWorld sessions related
        (leftNext leftValue) (rightNext rightValue)) :
    Paired leftWorld rightWorld sessions related
      (left >>= leftNext) (right >>= rightNext) := by
  intro leftSession rightSession paired
  obtain ⟨agree, pairedBetween⟩ := first leftSession rightSession paired
  rw [run_bind, run_bind]
  rcases leftOutcome : left.run leftWorld leftSession with ⟨leftResult, leftMiddle⟩
  rcases rightOutcome : right.run rightWorld rightSession with ⟨rightResult, rightMiddle⟩
  rw [leftOutcome, rightOutcome] at agree pairedBetween
  cases agree with
  | ok values => exact second _ _ values leftMiddle rightMiddle pairedBetween
  | error => exact ⟨.error, pairedBetween⟩

/-- Requests made one after the other for the items of a list. -/
theorem mapM
    {related : α → β → Prop}
    {left : γ → Request α}
    {right : γ → Request β}
    {items : List γ}
    (each : ∀ item ∈ items, Paired leftWorld rightWorld sessions related (left item) (right item)) :
    Paired leftWorld rightWorld sessions (List.Forall₂ related)
      (items.mapM left) (items.mapM right) := by
  induction items with
  | nil =>
      rw [List.mapM_nil, List.mapM_nil]
      exact pure .nil
  | cons item rest inductionHypothesis =>
      rw [List.mapM_cons, List.mapM_cons]
      refine bind (each item List.mem_cons_self) ?_
      intro leftValue rightValue values
      refine bind (inductionHypothesis ?_) ?_
      · intro other member
        exact each other (List.mem_cons_of_mem item member)
      · intro leftValues rightValues restValues
        exact pure (.cons values restValues)

theorem ofExcept
    {related : α → β → Prop}
    {left : Except DashboardError α}
    {right : Except DashboardError β}
    (agree : Agree related left right) :
    Paired leftWorld rightWorld sessions related
      (Request.ofExcept left) (Request.ofExcept right) := by
  intro leftSession rightSession paired
  exact ⟨agree, paired⟩

theorem ask
    {related : α → β → Prop}
    {leftCall rightCall : Call}
    {leftAnswer : World → α}
    {rightAnswer : World → β}
    (logged : ∀ leftSession rightSession, sessions leftSession rightSession →
      sessions (leftSession.log leftCall) (rightSession.log rightCall))
    (values : related (leftAnswer leftWorld) (rightAnswer rightWorld)) :
    Paired leftWorld rightWorld sessions related
      (Request.ask leftCall leftAnswer) (Request.ask rightCall rightAnswer) := by
  intro leftSession rightSession paired
  exact ⟨.ok values, logged leftSession rightSession paired⟩

theorem remembered
    {key : String}
    (sameText : ∀ leftSession rightSession, sessions leftSession rightSession →
      leftSession.lookup key = rightSession.lookup key) :
    Paired leftWorld rightWorld sessions Eq
      (Request.remembered key) (Request.remembered key) := by
  intro leftSession rightSession paired
  exact ⟨.ok (sameText leftSession rightSession paired), paired⟩

theorem remember
    {key value : String}
    (written : ∀ leftSession rightSession, sessions leftSession rightSession →
      sessions (leftSession.write key value) (rightSession.write key value)) :
    Paired leftWorld rightWorld sessions Eq
      (Request.remember key value) (Request.remember key value) := by
  intro leftSession rightSession paired
  exact ⟨.ok rfl, written leftSession rightSession paired⟩

end Paired
end Request
end FleetDashboard
