import FleetDashboard.Proofs.Chart.Month
import FleetDashboard.Proofs.Service.Origin

/-!
# Complaints about metric values

A metric value that is no number empties a cell, and that is all.  No request complains
about it by itself, and none of the parties of the platform does.
-/

namespace FleetDashboard

/-- The result is no complaint about a metric value. -/
def HasNoComplaint
    (result : Except DashboardError α) : Prop :=
  ∀ raw, result ≠ .error (.parse raw)

/-- No party of the platform complains about a metric value. -/
theorem Platform.hasNoComplaint_answer
    (platform : Platform)
    (backend : String)
    (call : Call) :
    HasNoComplaint (platform.world.answer backend call) := by
  intro raw complains
  have reported := platform.failsOnly_answer backend call _ complains
  cases reported

/-- A request complains about a metric value only if a collaborator does. -/
def Request.PassesComplaintsOn
    (request : Request α) : Prop :=
  ∀ world session raw, (request.run world session).1 = .error (.parse raw) →
    ∃ backend call, world.answer backend call = .error (.parse raw)

/-- No check of a request complains about a value, unless the parameters are turned down
that way. -/
theorem Request.passesComplaintsOn_of_stopsInOrder
    {organization : String}
    {rejects : DashboardError → Prop}
    {request : Request α}
    (rejected : ∀ raw, ¬rejects (.parse raw))
    (stops : request.StopsInOrder organization rejects) :
    request.PassesComplaintsOn := by
  intro world session raw complains
  rcases origin_of_stopsInOrder stops complains with passedOn | tenant | rejection
  · exact passedOn
  · cases tenant
  · exact absurd rejection (rejected raw)

namespace Dashboard

theorem passesComplaintsOn_charts
    (organization chartType : String)
    (parameters : ChartParameters)
    (now : Calendar.Instant) :
    (charts organization chartType parameters now).PassesComplaintsOn := by
  refine Request.passesComplaintsOn_of_stopsInOrder ?_
    (stopsInOrder_charts organization chartType parameters now)
  rintro raw (unread | ⟨_, _, _, rejected⟩)
  · obtain ⟨reason, same⟩ := ChartSelection.eq_noData_of_read_error unread
    cases same
  · obtain ⟨reason, same⟩ := MonthWindow.eq_invalidRange_of_request_error rejected
    cases same

theorem passesComplaintsOn_summaries
    (organization : String) :
    (summaries organization).PassesComplaintsOn :=
  Request.passesComplaintsOn_of_stopsInOrder (fun _ => id) (stopsInOrder_summaries organization)

theorem passesComplaintsOn_resources
    (organization : String) :
    (resources organization).PassesComplaintsOn :=
  Request.passesComplaintsOn_of_stopsInOrder (fun _ => id) (stopsInOrder_resources organization)

end Dashboard
end FleetDashboard
