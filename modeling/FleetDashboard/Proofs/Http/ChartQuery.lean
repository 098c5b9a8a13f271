import FleetDashboard.Http.Router
import FleetDashboard.Proofs.Chart.QueryReading
import FleetDashboard.Proofs.Net.FormData

/-!
# Which requests for charts are accepted

The query of a request for charts is read from form data and then held against the bounds
of each parameter.  What is refused in either step gets its own reply.
-/

namespace FleetDashboard

open Net

/-! ## Bounds -/

namespace ChartQuery

/-- Every parameter is within its bounds. -/
structure IsWithinBounds
    (query : ChartQuery) : Prop where
  chartType : query.chartType ≠ ""
  year : ∀ year, query.parameters.year = some year → 1970 ≤ year ∧ year ≤ 9999
  month : ∀ month, query.parameters.month = some month → 1 ≤ month ∧ month ≤ 12

/-- A field is out of bounds, with the check that it does not pass. -/
inductive Oversteps
    (query : ChartQuery) : String → String → Prop
  | chartType
      (empty : query.chartType = "") :
      Oversteps query "chart_type" "length"
  | month
      {month : Nat}
      (named : query.parameters.month = some month)
      (beyond : month < 1 ∨ 12 < month) :
      Oversteps query "month" "range"
  | year
      {year : Int}
      (named : query.parameters.year = some year)
      (beyond : year < 1970 ∨ 9999 < year) :
      Oversteps query "year" "range"

/-- What is complained of: a field and a check. -/
def complaint
    (offence : String × String) : String :=
  offence.1 ++ ": Validation error: " ++ offence.2

/-- The fields that are out of bounds. -/
def offences
    (query : ChartQuery) : List (String × String) :=
  (if query.chartType.isEmpty then [("chart_type", "length")] else []) ++
    (if query.parameters.month.all isMonthAllowed then [] else [("month", "range")]) ++
    (if query.parameters.year.all isYearAllowed then [] else [("year", "range")])

variable
  {query : ChartQuery}

theorem complaints_eq_map :
    query.complaints = query.offences.map complaint := by
  rw [complaints, offences, List.map_append, List.map_append]
  congr 1
  · congr 1
    · split <;> rfl
    · split <;> rfl
  · split <;> rfl

theorem offences_nodup : query.offences.Nodup := by
  have known : query.offences.Sublist
      ([("chart_type", "length")] ++ [("month", "range")] ++ [("year", "range")]) := by
    rw [offences]
    refine (List.Sublist.append ?_ ?_).append ?_
    all_goals split <;> simp
  exact known.nodup (by decide)

theorem month_not_allowed_iff
    {month : Option Nat} :
    ¬month.all isMonthAllowed = true ↔
      ∃ value, month = some value ∧ (value < 1 ∨ 12 < value) := by
  cases month with
  | none => simp
  | some value =>
      simp only [Option.all_some, isMonthAllowed, Bool.and_eq_true, decide_eq_true_eq,
        Option.some.injEq, exists_eq_left']
      omega

theorem year_not_allowed_iff
    {year : Option Int} :
    ¬year.all isYearAllowed = true ↔
      ∃ value, year = some value ∧ (value < 1970 ∨ 9999 < value) := by
  cases year with
  | none => simp
  | some value =>
      simp only [Option.all_some, isYearAllowed, Bool.and_eq_true, decide_eq_true_eq,
        Option.some.injEq, exists_eq_left']
      omega

/-- The offences are exactly the fields out of bounds. -/
theorem mem_offences_iff
    {field check : String} :
    (field, check) ∈ query.offences ↔ query.Oversteps field check := by
  rw [offences, List.mem_append, List.mem_append, List.mem_ite_nil_right, List.mem_ite_nil_left,
    List.mem_ite_nil_left, month_not_allowed_iff, year_not_allowed_iff, String.isEmpty_iff]
  simp only [List.mem_singleton, Prod.mk.injEq]
  constructor
  · rintro ((⟨empty, rfl, rfl⟩ | ⟨⟨month, named, beyond⟩, rfl, rfl⟩) |
      ⟨⟨year, named, beyond⟩, rfl, rfl⟩)
    · exact .chartType empty
    · exact .month named beyond
    · exact .year named beyond
  · rintro (empty | ⟨named, beyond⟩ | ⟨named, beyond⟩)
    · exact .inl (.inl ⟨empty, rfl, rfl⟩)
    · exact .inl (.inr ⟨⟨_, named, beyond⟩, rfl, rfl⟩)
    · exact .inr ⟨⟨_, named, beyond⟩, rfl, rfl⟩

theorem isWithinBounds_iff :
    query.IsWithinBounds ↔ ∀ field check, ¬query.Oversteps field check := by
  constructor
  · rintro ⟨filled, years, months⟩ _ _ (empty | ⟨named, beyond⟩ | ⟨named, beyond⟩)
    · exact filled empty
    · have bounds := months _ named
      omega
    · have bounds := years _ named
      omega
  · intro none
    refine ⟨fun empty => none _ _ (.chartType empty), fun year named => ?_,
      fun month named => ?_⟩
    · have inside := mt (Oversteps.year named) (none _ _)
      omega
    · have inside := mt (Oversteps.month named) (none _ _)
      omega

/-- A query passes exactly if it is within bounds. -/
theorem validate_eq_ok_iff :
    query.validate = .ok () ↔ query.IsWithinBounds := by
  have silent : query.validate = .ok () ↔ query.offences = [] := by
    rw [validate, complaints_eq_map]
    cases query.offences with
    | nil => exact ⟨fun _ => rfl, fun _ => rfl⟩
    | cons => exact ⟨nofun, nofun⟩
  rw [silent, isWithinBounds_iff, List.eq_nil_iff_forall_not_mem, Prod.forall]
  simp only [mem_offences_iff]

theorem validate_eq_error
    {fault : DashboardError}
    (fails : query.validate = .error fault) :
    fault = .validation ("; ".intercalate (query.offences.map complaint)) := by
  rw [validate, complaints_eq_map] at fails
  split at fails
  · cases fails
  · exact (Except.error.inj fails).symm

end ChartQuery

/-! ## Replies -/

namespace Http
namespace Router

open ChartQuery

variable
  {raw : String}

theorem chartQuery_eq_ok_iff
    {query : ChartQuery} :
    chartQuery raw = .ok query ↔
      query.IsReadFrom (FormData.decode raw.toList) ∧ query.IsWithinBounds := by
  simp only [chartQuery, bind_eq_ok_iff, mapError_eq_ok_iff, ofPairs_eq_ok_iff]
  constructor
  · rintro ⟨_, read, _, valid, same⟩
    cases same
    exact ⟨read, validate_eq_ok_iff.mp valid⟩
  · rintro ⟨read, valid⟩
    exact ⟨query, read, (), validate_eq_ok_iff.mpr valid, rfl⟩

/-- A query is refused either by reading or by its bounds, each with a reply of its own. -/
theorem chartQuery_eq_error_iff
    {reply : Reply} :
    chartQuery raw = .error reply ↔
      (∃ fault, Refuses (FormData.decode raw.toList) fault ∧
          reply = .ofText 400 fault.message) ∨
        ∃ (query : ChartQuery) (fault : DashboardError),
          query.IsReadFrom (FormData.decode raw.toList) ∧
            query.validate = .error fault ∧ reply = .ofFailure fault := by
  simp only [chartQuery, bind_eq_error_iff, mapError_eq_error_iff, mapError_eq_ok_iff,
    ofPairs_eq_ok_iff, ofPairs_eq_error_iff]
  refine or_congr_right (exists_congr fun query => ?_)
  constructor
  · rintro ⟨read, ⟨fault, fails, rfl⟩ | ⟨_, _, same⟩⟩
    · exact ⟨fault, read, fails, rfl⟩
    · cases same
  · rintro ⟨fault, read, fails, rfl⟩
    exact ⟨read, .inl ⟨fault, fails, rfl⟩⟩

/-- Whatever the query of a target is: it is read exactly if it gives the chart type once, no
other parameter twice, and numerals to the year and the month, and what has been read is
what it gives; other names and the order of the pairs make no difference.  Otherwise the
first pair that offends decides, and the chart type is missed only if no pair does.  What
has been read passes exactly if it is within bounds; if not, the reply complains of exactly
the fields that are not.  Every list of pairs is asked by some query. -/
theorem chartQuery_accepts_and_refuses
    (target : Target) :
    ((∀ segments raw : String,
        (∀ character ∈ segments.toList, character ≠ '?' ∧ character ≠ '#') →
        Target.read? ("/" ++ segments ++ "?" ++ raw) = some target →
          target.query.toList = raw.toList.takeWhile (· != '#')) ∧
      ∀ asked, FormData.decode (FormData.encode asked) = asked ∧
        ((FormData.encode asked).length + 2 ≤ Target.longest →
          Target.readCharacters ('/' :: '?' :: FormData.encode asked) =
            some ⟨"/", String.ofList (FormData.encode asked)⟩)) ∧
    let pairs := FormData.decode target.query.toList
    (((∃ query, ofPairs pairs = .ok query) ↔
        ((givenValues pairs "chartType").length = 1 ∧
          ∀ parameter ∈ ["duration", "interval", "year", "month"],
            (givenValues pairs parameter).length ≤ 1) ∧
        (∀ written ∈ givenValues pairs "year", ∃ year, IsYear written year) ∧
        ∀ written ∈ givenValues pairs "month", ∃ month, IsMonth written month) ∧
      (∀ query, ofPairs pairs = .ok query ↔ query.IsReadFrom pairs) ∧
      ofPairs (knownPairs pairs) = ofPairs pairs ∧
      ∀ query, ofPairs pairs = .ok query →
        ∀ other, pairs.Perm other → ofPairs other = .ok query) ∧
    ((∀ fault, ofPairs pairs = .error fault ↔ Refuses pairs fault) ∧
      ∀ before parameter written, (∃ fault, Offends before (parameter, written) fault) ↔
        parameter ∈ parameterNames ∧
          (givenValues before parameter ≠ [] ∨
            parameter = "year" ∧ (∀ year, ¬IsYear written year) ∨
            parameter = "month" ∧ ∀ month, ¬IsMonth written month)) ∧
    (∀ query, ofPairs pairs = .ok query →
      (query.validate = .ok () ↔ query.IsWithinBounds) ∧
      ∀ fault, query.validate = .error fault →
        ∃ offences : List (String × String), offences.Nodup ∧
          (∀ field check, (field, check) ∈ offences ↔ query.Oversteps field check) ∧
          fault = .validation ("; ".intercalate (offences.map complaint))) ∧
    (∀ query, chartQuery target.query = .ok query ↔
      query.IsReadFrom pairs ∧ query.IsWithinBounds) ∧
    ∀ reply, chartQuery target.query = .error reply ↔
      (∃ fault, Refuses pairs fault ∧ reply = .ofText 400 fault.message) ∨
        ∃ (query : ChartQuery) (fault : DashboardError), query.IsReadFrom pairs ∧
          query.validate = .error fault ∧ reply = .ofFailure fault := by
  refine ⟨⟨fun _ _ => Target.query_of_read, fun asked => ⟨FormData.decode_encode asked,
    Target.read_encode⟩⟩, ?_⟩
  intro pairs
  refine ⟨⟨?_, fun _ => ofPairs_eq_ok_iff, ofPairs_knownPairs pairs, ?_⟩,
    ⟨fun _ => ofPairs_eq_error_iff, fun _ _ _ => ChartQueryDraft.exists_offends_iff⟩, ?_,
    fun _ => chartQuery_eq_ok_iff, fun _ => chartQuery_eq_error_iff⟩
  · simp only [ofPairs_eq_ok_iff]
    exact exists_isReadFrom_iff
  · intro query read other reordered
    rw [ofPairs_eq_ok_iff] at read ⊢
    exact read.perm reordered
  · intro query _
    refine ⟨validate_eq_ok_iff, fun fault fails => ?_⟩
    exact ⟨query.offences, offences_nodup, fun _ _ => mem_offences_iff, validate_eq_error fails⟩

/-- Escapes, signs, leading zeros and unknown names are accepted in any order.  An empty year
is refused before a chart type that comes twice, and every field out of bounds is named. -/
theorem sample_accepts_and_refuses :
    let charts := "/api/v1/organizations/acme/dashboard/charts"
    let target : Target := ⟨charts, "x=1&month=012&chartType=p%6Fd+c&year=%2B2024&x"⟩
    let query : ChartQuery := ⟨"pod c", ⟨none, none, some 2024, some 12⟩⟩
    let beyond : ChartQuery := ⟨"", ⟨none, none, some 10000, some 0⟩⟩
    (Target.read? (charts ++ "?" ++ target.query ++ "#year=1") = some target ∧
      query.IsReadFrom (FormData.decode target.query.toList) ∧
      chartQuery target.query = .ok query ∧
      ofPairs [("year", "+2024"), ("x", ""), ("chartType", "pod c"), ("x", "1"),
        ("month", "012")] = .ok query) ∧
    Refuses (FormData.decode "duration&year=&chartType=cpu&chartType=cpu".toList)
      (.numeral "year" .empty) ∧
    (beyond.IsReadFrom (FormData.decode "year=10000&month=0&chartType".toList) ∧
      ∃ offences : List (String × String),
        ("chart_type", "length") ∈ offences ∧ ("month", "range") ∈ offences ∧
          ("year", "range") ∈ offences ∧
          beyond.validate = .error (.validation ("; ".intercalate (offences.map complaint)))) := by
  intro charts target query beyond
  have accepted : ofPairs (FormData.decode target.query.toList) = .ok query := by decide +kernel
  have refused : ofPairs (FormData.decode "duration&year=&chartType=cpu&chartType=cpu".toList) =
      .error (.numeral "year" .empty) := by decide +kernel
  have extracted : ofPairs (FormData.decode "year=10000&month=0&chartType".toList) =
      .ok beyond := by decide +kernel
  refine ⟨⟨by decide +kernel, ?_⟩, ?_, ?_⟩
  · obtain ⟨_, ⟨_, read, _, reordered⟩, _, bounds, passes, _⟩ :=
      chartQuery_accepts_and_refuses target
    have given := (read query).mp accepted
    have within := (bounds query accepted).1.mp rfl
    refine ⟨given, (passes query).mpr ⟨given, within⟩, reordered query accepted _ ?_⟩
    decide +kernel
  · obtain ⟨_, _, ⟨refusals, _⟩, _⟩ := chartQuery_accepts_and_refuses
      ⟨charts, "duration&year=&chartType=cpu&chartType=cpu"⟩
    exact (refusals _).mp refused
  · obtain ⟨_, ⟨_, read, _, _⟩, _, bounds, _, _⟩ :=
      chartQuery_accepts_and_refuses ⟨charts, "year=10000&month=0&chartType"⟩
    refine ⟨(read beyond).mp extracted, ?_⟩
    cases fails : beyond.validate with
    | ok => cases fails
    | error fault =>
        obtain ⟨offences, _, exact, same⟩ := (bounds beyond extracted).2 fault fails
        exact ⟨offences, (exact _ _).mpr (.chartType rfl),
          (exact _ _).mpr (.month rfl (by decide)), (exact _ _).mpr (.year rfl (by decide)),
          congrArg Except.error same⟩

end Router
end Http
end FleetDashboard
