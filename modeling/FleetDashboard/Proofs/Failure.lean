/-!
# Computations that can fail

A computation in several steps ends with a result exactly if every step does, and with the
failure of the first step that fails.
-/

namespace FleetDashboard

variable
  {first : Except ε α}
  {next : α → Except ε β}
  {fault : ε}

/-- A failure that is worded anew remains one. -/
theorem mapError_eq_ok_iff
    {reword : ε → δ}
    {value : α} :
    first.mapError reword = .ok value ↔ first = .ok value := by
  cases first with
  | error reason => exact ⟨nofun, nofun⟩
  | ok found =>
      constructor
      · exact fun same => congrArg _ (Except.ok.inj same)
      · exact fun same => congrArg _ (Except.ok.inj same)

theorem mapError_eq_error_iff
    {reword : ε → δ}
    {fault : δ} :
    first.mapError reword = .error fault ↔
      ∃ reason, first = .error reason ∧ fault = reword reason := by
  cases first with
  | error reason =>
      refine ⟨fun same => ⟨reason, rfl, (Except.error.inj same).symm⟩, ?_⟩
      rintro ⟨_, same, rfl⟩
      cases same
      rfl
  | ok found => exact ⟨nofun, nofun⟩

theorem toOption_eq_some_iff
    {value : α} :
    first.toOption = some value ↔ first = .ok value := by
  cases first with
  | error reason => exact ⟨nofun, nofun⟩
  | ok found =>
      constructor
      · exact fun same => congrArg _ (Option.some.inj same)
      · exact fun same => congrArg _ (Except.ok.inj same)

theorem bind_eq_ok_iff
    {result : β} :
    (first >>= next) = .ok result ↔ ∃ value, first = .ok value ∧ next value = .ok result := by
  cases first with
  | error reason => exact ⟨nofun, nofun⟩
  | ok value =>
      refine ⟨fun ends => ⟨value, rfl, ends⟩, ?_⟩
      rintro ⟨_, same, ends⟩
      cases same
      exact ends

theorem bind_eq_error_iff :
    (first >>= next) = .error fault ↔
      first = .error fault ∨ ∃ value, first = .ok value ∧ next value = .error fault := by
  cases first with
  | error reason =>
      refine ⟨fun fails => .inl (congrArg Except.error (Except.error.inj fails)), ?_⟩
      rintro (same | ⟨_, same, _⟩)
      · cases same
        rfl
      · cases same
  | ok value =>
      refine ⟨fun fails => .inr ⟨value, rfl, fails⟩, ?_⟩
      rintro (same | ⟨_, same, fails⟩)
      · cases same
      · cases same
        exact fails

/-- A fold fails exactly if, once the items in front have been taken, a step fails. -/
theorem foldlM_eq_error_iff
    {step : β → α → Except ε β}
    {start : β}
    {items : List α} :
    items.foldlM step start = .error fault ↔
      ∃ before item after state, items = before ++ item :: after ∧
        before.foldlM step start = .ok state ∧ step state item = .error fault := by
  induction items generalizing start with
  | nil =>
      refine ⟨nofun, ?_⟩
      rintro ⟨before, _, _, _, split, _⟩
      cases before <;> cases split
  | cons item rest inductionHypothesis =>
      rw [List.foldlM_cons, bind_eq_error_iff]
      constructor
      · rintro (fails | ⟨next, taken, fails⟩)
        · exact ⟨[], item, rest, start, rfl, rfl, fails⟩
        · obtain ⟨before, other, after, state, rfl, others, fails⟩ := inductionHypothesis.mp fails
          refine ⟨item :: before, other, after, state, rfl, ?_, fails⟩
          rw [List.foldlM_cons, bind_eq_ok_iff]
          exact ⟨next, taken, others⟩
      · rintro ⟨before, other, after, state, split, taken, fails⟩
        cases before with
        | nil =>
            cases split
            cases taken
            exact .inl fails
        | cons head before =>
            cases split
            rw [List.foldlM_cons, bind_eq_ok_iff] at taken
            obtain ⟨next, taken, others⟩ := taken
            exact .inr ⟨next, taken,
              inductionHypothesis.mpr ⟨before, other, after, state, rfl, others, fails⟩⟩

end FleetDashboard
