import FleetDashboard.Chart.Query
import FleetDashboard.Proofs.Failure
import FleetDashboard.Proofs.Text.Numeral
import Mathlib.Data.List.Induction

/-!
# Which queries are read

Pairs of names and values are a query of a chart request if they give the chart type once
and no parameter twice, and if the year and the month are numerals.  The first pair that
breaks this decides how the query is refused.
-/

namespace FleetDashboard

open Text

/-- The values that pairs give to a parameter, in order. -/
def givenValues
    (pairs : List (String × String))
    (parameter : String) : List String :=
  (pairs.filter fun pair => pair.1 == parameter).map Prod.snd

/-- A parameter is what the only value that it is given denotes, or nothing if it is given
none. -/
inductive Gives
    (pairs : List (String × String))
    (parameter : String)
    (denotes : String → α → Prop) : Option α → Prop
  | never
      (unnamed : givenValues pairs parameter = []) :
      Gives pairs parameter denotes none
  | once
      {written : String}
      {value : α}
      (named : givenValues pairs parameter = [written])
      (denoted : denotes written value) :
      Gives pairs parameter denotes (some value)

namespace ChartQuery

/-- The names of all parameters. -/
def parameterNames : List String :=
  ["chartType", "duration", "interval", "year", "month"]

/-- A numeral of a year: a whole number of thirty-two bits. -/
def IsYear
    (written : String)
    (year : Int) : Prop :=
  IsWhole written.toList year ∧ -2 ^ 31 ≤ year ∧ year < 2 ^ 31

/-- A numeral of a month: a natural number of thirty-two bits. -/
def IsMonth
    (written : String)
    (month : Nat) : Prop :=
  IsNatural written.toList month ∧ month < 2 ^ 32

/-- Why a value is no numeral of a parameter. -/
inductive Misreads : String → String → NumeralFault → Prop
  | year
      {written : String}
      {fault : NumeralFault}
      (refused : readInt ChartQueryDraft.yearBits written.toList = .error fault) :
      Misreads "year" written fault
  | month
      {written : String}
      {fault : NumeralFault}
      (refused : readNat ChartQueryDraft.greatestMonth written.toList = .error fault) :
      Misreads "month" written fault

/-- A pair cannot be accepted behind others: its parameter has been given before, or its
value is no numeral. -/
inductive Offends
    (before : List (String × String)) : String × String → QueryFault → Prop
  | duplicate
      {parameter written : String}
      (known : parameter ∈ parameterNames)
      (given : givenValues before parameter ≠ []) :
      Offends before (parameter, written) (.duplicate parameter)
  | numeral
      {parameter written : String}
      {fault : NumeralFault}
      (vacant : givenValues before parameter = [])
      (misread : Misreads parameter written fault) :
      Offends before (parameter, written) (.numeral parameter fault)

/-- No pair offends. -/
def Faultless
    (pairs : List (String × String)) : Prop :=
  ∀ before pair after fault, pairs = before ++ pair :: after → ¬Offends before pair fault

/-- Pairs are refused: for the first one that offends, or else for the missing chart type. -/
inductive Refuses
    (pairs : List (String × String)) : QueryFault → Prop
  | offence
      {before after : List (String × String)}
      {pair : String × String}
      {fault : QueryFault}
      (split : pairs = before ++ pair :: after)
      (faultless : Faultless before)
      (offends : Offends before pair fault) :
      Refuses pairs fault
  | missing
      (faultless : Faultless pairs)
      (unnamed : givenValues pairs "chartType" = []) :
      Refuses pairs (.missing "chartType")

/-- The parameters that pairs give besides the chart type. -/
structure GivesParameters
    (pairs : List (String × String))
    (parameters : ChartParameters) : Prop where
  duration : Gives pairs "duration" Eq parameters.duration
  interval : Gives pairs "interval" Eq parameters.interval
  year : Gives pairs "year" IsYear parameters.year
  month : Gives pairs "month" IsMonth parameters.month

end ChartQuery

open ChartQuery

/-! ## What pairs give -/

section Gives

variable
  {before pairs : List (String × String)}
  {parameter other written : String}
  {denotes : String → α → Prop}
  {result : Option α}

@[simp] theorem givenValues_append_singleton :
    givenValues (before ++ [(parameter, written)]) parameter =
      givenValues before parameter ++ [written] := by
  simp [givenValues]

theorem givenValues_append_of_ne
    {pair : String × String}
    (different : pair.1 ≠ parameter) :
    givenValues (before ++ [pair]) parameter = givenValues before parameter := by
  simp [givenValues, different]

theorem Gives.length_le
    (gives : Gives pairs parameter denotes result) :
    (givenValues pairs parameter).length ≤ 1 := by
  cases gives with
  | never unnamed => simp [unnamed]
  | once named => simp [named]

theorem gives_none_iff :
    Gives pairs parameter denotes none ↔ givenValues pairs parameter = [] :=
  ⟨fun | .never unnamed => unnamed, .never⟩

/-- A parameter is vacant as long as it is given no value. -/
theorem Gives.eq_none_iff
    (gives : Gives pairs parameter denotes result) :
    result = none ↔ givenValues pairs parameter = [] := by
  cases gives with
  | never unnamed => simp [unnamed]
  | once named => simp [named]

theorem exists_gives_iff :
    (∃ result, Gives pairs parameter denotes result) ↔
      (givenValues pairs parameter).length ≤ 1 ∧
        ∀ written ∈ givenValues pairs parameter, ∃ value, denotes written value := by
  constructor
  · rintro ⟨result, gives⟩
    refine ⟨gives.length_le, ?_⟩
    cases gives with
    | never unnamed => simp [unnamed]
    | once named denoted =>
        rw [named, List.forall_mem_singleton]
        exact ⟨_, denoted⟩
  · rintro ⟨atMostOnce, denotable⟩
    cases given : givenValues pairs parameter with
    | nil => exact ⟨none, .never given⟩
    | cons written rest =>
        rw [given, List.length_cons] at atMostOnce
        obtain rfl := List.eq_nil_of_length_eq_zero
          (Nat.le_zero.mp (Nat.le_of_succ_le_succ atMostOnce))
        obtain ⟨value, denoted⟩ := denotable written (by rw [given]; exact List.mem_cons_self)
        exact ⟨some value, .once given denoted⟩

theorem givenValues_perm
    (reordered : before.Perm pairs) :
    (givenValues before parameter).Perm (givenValues pairs parameter) :=
  (reordered.filter _).map _

/-- The order of pairs does not matter to what they give. -/
theorem Gives.perm
    (gives : Gives before parameter denotes result)
    (reordered : before.Perm pairs) :
    Gives pairs parameter denotes result := by
  have values : (givenValues before parameter).Perm (givenValues pairs parameter) :=
    givenValues_perm reordered
  cases gives with
  | never unnamed =>
      rw [unnamed] at values
      exact .never values.nil_eq.symm
  | once named denoted =>
      rw [named, List.singleton_perm] at values
      exact .once values.symm denoted

theorem gives_congr
    (same : givenValues before parameter = givenValues pairs parameter) :
    Gives before parameter denotes result ↔ Gives pairs parameter denotes result := by
  constructor
  · rintro (unnamed | ⟨named, denoted⟩)
    · exact .never (same ▸ unnamed)
    · exact .once (same ▸ named) denoted
  · rintro (unnamed | ⟨named, denoted⟩)
    · exact .never (same ▸ unnamed)
    · exact .once (same ▸ named) denoted

/-- One more pair is accepted for its own parameter only if that is still vacant, and does
not count for the others. -/
theorem gives_append_iff :
    Gives (before ++ [(parameter, written)]) other denotes result ↔
      if parameter = other then
        givenValues before other = [] ∧ ∃ value, denotes written value ∧ result = some value
      else Gives before other denotes result := by
  split
  · rename_i same
    subst same
    constructor
    · rintro (unnamed | ⟨named, denoted⟩)
      · simp at unnamed
      · rw [givenValues_append_singleton] at named
        obtain ⟨vacant, same⟩ := List.append_inj' (named.trans (List.nil_append _).symm) rfl
        cases same
        exact ⟨vacant, _, denoted, rfl⟩
    · rintro ⟨vacant, value, denoted, rfl⟩
      exact .once (by rw [givenValues_append_singleton, vacant, List.nil_append]) denoted
  · rename_i different
    exact gives_congr (givenValues_append_of_ne different)

end Gives

namespace ChartQueryDraft

/-- A draft is what has been read of pairs. -/
structure IsReadFrom
    (draft : ChartQueryDraft)
    (pairs : List (String × String)) : Prop where
  chartType : Gives pairs "chartType" Eq draft.chartType
  parameters : GivesParameters pairs draft.parameters

theorem isReadFrom_iff
    {draft : ChartQueryDraft}
    {pairs : List (String × String)} :
    draft.IsReadFrom pairs ↔
      Gives pairs "chartType" Eq draft.chartType ∧ GivesParameters pairs draft.parameters :=
  ⟨fun ⟨type, parameters⟩ => ⟨type, parameters⟩, fun ⟨type, parameters⟩ => ⟨type, parameters⟩⟩

theorem givesParameters_iff
    {parameters : ChartParameters}
    {pairs : List (String × String)} :
    GivesParameters pairs parameters ↔
      Gives pairs "duration" Eq parameters.duration ∧
        Gives pairs "interval" Eq parameters.interval ∧
        Gives pairs "year" IsYear parameters.year ∧ Gives pairs "month" IsMonth parameters.month :=
  ⟨fun ⟨duration, interval, year, month⟩ => ⟨duration, interval, year, month⟩,
    fun ⟨duration, interval, year, month⟩ => ⟨duration, interval, year, month⟩⟩

/-! ## Reading one pair -/

theorem map_fill_eq_ok_iff
    {parameter : String}
    {vacant : Option α}
    {value : Except NumeralFault α}
    {write : Option α → β}
    {result : β} :
    (fill parameter vacant value).map write = .ok result ↔
      vacant = none ∧ ∃ read, value = .ok read ∧ write (some read) = result := by
  cases vacant <;> cases value <;> simp [fill, Except.map]

theorem map_fill_eq_error_iff
    {parameter : String}
    {vacant : Option α}
    {value : Except NumeralFault α}
    {write : Option α → β}
    {fault : QueryFault} :
    (fill parameter vacant value).map write = .error fault ↔
      vacant ≠ none ∧ fault = .duplicate parameter ∨
        vacant = none ∧ ∃ reason, value = .error reason ∧ fault = .numeral parameter reason := by
  cases vacant <;> cases value <;> simp [fill, Except.map, eq_comm]

theorem readYear_eq_ok_iff
    {written : String}
    {year : Int} :
    readInt yearBits written.toList = .ok year ↔ IsYear written year :=
  readInt_eq_ok_iff

theorem readMonth_eq_ok_iff
    {written : String}
    {month : Nat} :
    readNat greatestMonth written.toList = .ok month ↔ IsMonth written month := by
  have bound : month ≤ greatestMonth ↔ month < 2 ^ 32 := by
    change month ≤ 2 ^ 32 - 1 ↔ _
    omega
  rw [readNat_eq_ok_iff, bound, IsMonth]

theorem absorb_of_unknown
    {draft : ChartQueryDraft}
    {parameter written : String}
    (unknown : parameter ∉ parameterNames) :
    absorb draft (parameter, written) = .ok draft := by
  simp only [parameterNames, List.mem_cons, List.not_mem_nil, or_false, not_or] at unknown
  unfold absorb
  split <;> simp_all

/-- Pairs with one more are what has been read after one more step. -/
theorem isReadFrom_append_iff
    {next : ChartQueryDraft}
    {before : List (String × String)}
    {pair : String × String} :
    next.IsReadFrom (before ++ [pair]) ↔
      ∃ draft : ChartQueryDraft, draft.IsReadFrom before ∧ absorb draft pair = .ok next := by
  obtain ⟨parameter, written⟩ := pair
  by_cases known : parameter ∈ parameterNames
  · obtain ⟨chartType, duration, interval, year, month⟩ := next
    simp only [parameterNames, List.mem_cons, List.not_mem_nil, or_false] at known
    -- Before the pair its own parameter is vacant, and the others are as after it.
    rcases known with rfl | rfl | rfl | rfl | rfl <;>
      simp only [isReadFrom_iff, givesParameters_iff, gives_append_iff, absorb,
        map_fill_eq_ok_iff, Except.ok.injEq, readYear_eq_ok_iff, readMonth_eq_ok_iff,
        String.reduceEq, if_true, if_false] <;>
      constructor
    · rintro ⟨⟨vacant, value, denoted, rfl⟩, others⟩
      exact ⟨⟨none, _⟩, ⟨.never vacant, others⟩, rfl, value, denoted, rfl⟩
    · rintro ⟨⟨_, _⟩, ⟨gives, others⟩, rfl, value, denoted, same⟩
      cases same
      exact ⟨⟨gives_none_iff.mp gives, value, denoted, rfl⟩, others⟩
    · rintro ⟨ofType, ⟨vacant, value, denoted, rfl⟩, others⟩
      exact ⟨⟨_, ⟨none, _, _, _⟩⟩, ⟨ofType, .never vacant, others⟩, rfl, value, denoted, rfl⟩
    · rintro ⟨⟨_, ⟨_, _, _, _⟩⟩, ⟨ofType, gives, others⟩, rfl, value, denoted, same⟩
      cases same
      exact ⟨ofType, ⟨gives_none_iff.mp gives, value, denoted, rfl⟩, others⟩
    · rintro ⟨ofType, ofDuration, ⟨vacant, value, denoted, rfl⟩, others⟩
      exact ⟨⟨_, ⟨_, none, _, _⟩⟩, ⟨ofType, ofDuration, .never vacant, others⟩, rfl, value,
        denoted, rfl⟩
    · rintro ⟨⟨_, ⟨_, _, _, _⟩⟩, ⟨ofType, ofDuration, gives, others⟩, rfl, value, denoted, same⟩
      cases same
      exact ⟨ofType, ofDuration, ⟨gives_none_iff.mp gives, value, denoted, rfl⟩, others⟩
    · rintro ⟨ofType, ofDuration, ofInterval, ⟨vacant, value, denoted, rfl⟩, ofMonth⟩
      exact ⟨⟨_, ⟨_, _, none, _⟩⟩, ⟨ofType, ofDuration, ofInterval, .never vacant, ofMonth⟩, rfl,
        value, denoted, rfl⟩
    · rintro ⟨⟨_, ⟨_, _, _, _⟩⟩, ⟨ofType, ofDuration, ofInterval, gives, ofMonth⟩, rfl, value,
        denoted, same⟩
      cases same
      exact ⟨ofType, ofDuration, ofInterval, ⟨gives_none_iff.mp gives, value, denoted, rfl⟩,
        ofMonth⟩
    · rintro ⟨ofType, ofDuration, ofInterval, ofYear, vacant, value, denoted, rfl⟩
      exact ⟨⟨_, ⟨_, _, _, none⟩⟩, ⟨ofType, ofDuration, ofInterval, ofYear, .never vacant⟩, rfl,
        value, denoted, rfl⟩
    · rintro ⟨⟨_, ⟨_, _, _, _⟩⟩, ⟨ofType, ofDuration, ofInterval, ofYear, gives⟩, rfl, value,
        denoted, same⟩
      cases same
      exact ⟨ofType, ofDuration, ofInterval, ofYear, gives_none_iff.mp gives, value, denoted, rfl⟩
  · simp only [absorb_of_unknown known, Except.ok.injEq, exists_eq_right]
    simp only [parameterNames, List.mem_cons, List.not_mem_nil, or_false, not_or] at known
    simp only [isReadFrom_iff, givesParameters_iff, gives_append_iff, known, if_false]

theorem misreads_iff
    {parameter written : String}
    {reason : NumeralFault} :
    Misreads parameter written reason ↔
      parameter = "year" ∧ readInt yearBits written.toList = .error reason ∨
        parameter = "month" ∧ readNat greatestMonth written.toList = .error reason := by
  constructor
  · rintro (refused | refused)
    · exact .inl ⟨rfl, refused⟩
    · exact .inr ⟨rfl, refused⟩
  · rintro (⟨rfl, refused⟩ | ⟨rfl, refused⟩)
    · exact .year refused
    · exact .month refused

theorem offends_iff
    {before : List (String × String)}
    {parameter written : String}
    {fault : QueryFault} :
    Offends before (parameter, written) fault ↔
      (parameter ∈ parameterNames ∧ givenValues before parameter ≠ [] ∧
          fault = .duplicate parameter) ∨
        givenValues before parameter = [] ∧ ∃ reason, Misreads parameter written reason ∧
          fault = .numeral parameter reason := by
  constructor
  · rintro (⟨known, given⟩ | ⟨vacant, misread⟩)
    · exact .inl ⟨known, given, rfl⟩
    · exact .inr ⟨vacant, _, misread, rfl⟩
  · rintro (⟨known, given, rfl⟩ | ⟨vacant, _, misread, rfl⟩)
    · exact .duplicate known given
    · exact .numeral vacant misread

theorem exists_error_iff
    {read : Except NumeralFault α}
    {denotes : α → Prop}
    (reads : ∀ value, read = .ok value ↔ denotes value) :
    (∃ reason, read = .error reason) ↔ ∀ value, ¬denotes value := by
  cases read with
  | error reason =>
      refine ⟨fun _ value denoted => ?_, fun _ => ⟨reason, rfl⟩⟩
      cases (reads value).mpr denoted
  | ok value => exact ⟨nofun, fun none => absurd ((reads value).mp rfl) (none value)⟩

/-- A pair that names a parameter offends exactly if the parameter has been given before or
the value is no numeral where one is asked for. -/
theorem exists_offends_iff
    {before : List (String × String)}
    {parameter written : String} :
    (∃ fault, Offends before (parameter, written) fault) ↔
      parameter ∈ parameterNames ∧
        (givenValues before parameter ≠ [] ∨
          parameter = "year" ∧ (∀ year, ¬IsYear written year) ∨
          parameter = "month" ∧ ∀ month, ¬IsMonth written month) := by
  have years : (∃ reason, readInt yearBits written.toList = .error reason) ↔
      ∀ year, ¬IsYear written year := exists_error_iff fun _ => readYear_eq_ok_iff
  have months : (∃ reason, readNat greatestMonth written.toList = .error reason) ↔
      ∀ month, ¬IsMonth written month := exists_error_iff fun _ => readMonth_eq_ok_iff
  constructor
  · rintro ⟨_, ⟨known, given⟩ | ⟨_, misread⟩⟩
    · exact ⟨known, .inl given⟩
    · cases misread with
      | year refused => exact ⟨by decide, .inr (.inl ⟨rfl, years.mp ⟨_, refused⟩⟩)⟩
      | month refused => exact ⟨by decide, .inr (.inr ⟨rfl, months.mp ⟨_, refused⟩⟩)⟩
  · rintro ⟨known, unacceptable⟩
    by_cases given : givenValues before parameter = []
    · rcases unacceptable with again | ⟨rfl, unread⟩ | ⟨rfl, unread⟩
      · exact absurd given again
      · obtain ⟨_, refused⟩ := years.mpr unread
        exact ⟨_, .numeral given (.year refused)⟩
      · obtain ⟨_, refused⟩ := months.mpr unread
        exact ⟨_, .numeral given (.month refused)⟩
    · exact ⟨_, .duplicate known given⟩

/-- The step that reads a pair fails exactly if the pair offends. -/
theorem absorb_eq_error_iff
    {draft : ChartQueryDraft}
    {before : List (String × String)}
    {pair : String × String}
    {fault : QueryFault}
    (read : draft.IsReadFrom before) :
    absorb draft pair = .error fault ↔ Offends before pair fault := by
  obtain ⟨parameter, written⟩ := pair
  rw [offends_iff]
  by_cases known : parameter ∈ parameterNames
  · simp only [known, true_and]
    simp only [parameterNames, List.mem_cons, List.not_mem_nil, or_false] at known
    rcases known with rfl | rfl | rfl | rfl | rfl <;>
      simp [absorb, map_fill_eq_error_iff, misreads_iff, read.chartType.eq_none_iff,
        read.parameters.duration.eq_none_iff, read.parameters.interval.eq_none_iff,
        read.parameters.year.eq_none_iff, read.parameters.month.eq_none_iff]
  · rw [absorb_of_unknown known]
    simp only [known, false_and, false_or, reduceCtorEq, false_iff, misreads_iff]
    rintro ⟨_, _, (⟨rfl, _⟩ | ⟨rfl, _⟩), _⟩
    · exact known (by decide)
    · exact known (by decide)

end ChartQueryDraft

/-! ## Reading all pairs -/

namespace ChartQueryDraft

variable
  {pairs : List (String × String)}
  {fault : QueryFault}

theorem isReadFrom_nil_iff
    {draft : ChartQueryDraft} :
    draft.IsReadFrom [] ↔ draft = blank := by
  constructor
  · rintro ⟨ofType, ofDuration, ofInterval, ofYear, ofMonth⟩
    obtain ⟨chartType, duration, interval, year, month⟩ := draft
    cases ofType.eq_none_iff.mpr rfl
    cases ofDuration.eq_none_iff.mpr rfl
    cases ofInterval.eq_none_iff.mpr rfl
    cases ofYear.eq_none_iff.mpr rfl
    cases ofMonth.eq_none_iff.mpr rfl
    rfl
  · rintro rfl
    exact ⟨.never rfl, ⟨.never rfl, .never rfl, .never rfl, .never rfl⟩⟩

/-- What the whole run has read is what the pairs give. -/
theorem foldlM_absorb_eq_ok_iff
    {draft : ChartQueryDraft} :
    pairs.foldlM absorb blank = .ok draft ↔ draft.IsReadFrom pairs := by
  induction pairs using List.reverseRecOn generalizing draft with
  | nil =>
      rw [isReadFrom_nil_iff, List.foldlM_nil]
      exact ⟨fun read => (Except.ok.inj read).symm, fun same => congrArg Except.ok same.symm⟩
  | append_singleton before pair inductionHypothesis =>
      simp only [isReadFrom_append_iff, List.foldlM_append, List.foldlM_cons, List.foldlM_nil,
        bind_pure, bind_eq_ok_iff, inductionHypothesis]

/-- The run fails for the first pair that offends. -/
theorem foldlM_absorb_eq_error_iff :
    pairs.foldlM absorb blank = .error fault ↔
      ∃ before pair after, pairs = before ++ pair :: after ∧
        (∃ draft : ChartQueryDraft, draft.IsReadFrom before) ∧ Offends before pair fault := by
  rw [foldlM_eq_error_iff]
  constructor
  · rintro ⟨before, pair, after, draft, split, taken, fails⟩
    have read := foldlM_absorb_eq_ok_iff.mp taken
    exact ⟨before, pair, after, split, ⟨draft, read⟩, (absorb_eq_error_iff read).mp fails⟩
  · rintro ⟨before, pair, after, split, ⟨draft, read⟩, offends⟩
    exact ⟨before, pair, after, draft, split, foldlM_absorb_eq_ok_iff.mpr read,
      (absorb_eq_error_iff read).mpr offends⟩

/-- Pairs are read to their end exactly if none of them offends. -/
theorem exists_isReadFrom_iff :
    (∃ draft : ChartQueryDraft, draft.IsReadFrom pairs) ↔ Faultless pairs := by
  constructor
  · rintro ⟨draft, read⟩ before pair after fault rfl offends
    have taken := foldlM_absorb_eq_ok_iff.mpr read
    rw [List.foldlM_append, bind_eq_ok_iff] at taken
    obtain ⟨middle, opening, rest⟩ := taken
    rw [List.foldlM_cons, bind_eq_ok_iff] at rest
    obtain ⟨next, accepted, _⟩ := rest
    rw [(absorb_eq_error_iff (foldlM_absorb_eq_ok_iff.mp opening)).mpr offends] at accepted
    cases accepted
  · intro faultless
    cases taken : pairs.foldlM absorb blank with
    | ok draft => exact ⟨draft, foldlM_absorb_eq_ok_iff.mp taken⟩
    | error fault =>
        obtain ⟨before, pair, after, split, _, offends⟩ := foldlM_absorb_eq_error_iff.mp taken
        exact absurd offends (faultless before pair after fault split)

theorem finish_eq_ok_iff
    {draft : ChartQueryDraft}
    {query : ChartQuery} :
    draft.finish = .ok query ↔ draft = ⟨some query.chartType, query.parameters⟩ := by
  obtain ⟨chartType, parameters⟩ := draft
  obtain ⟨otherType, otherParameters⟩ := query
  cases chartType <;> simp [finish]

theorem finish_eq_error_iff
    {draft : ChartQueryDraft} :
    draft.finish = .error fault ↔ draft.chartType = none ∧ fault = .missing "chartType" := by
  obtain ⟨chartType, parameters⟩ := draft
  cases chartType <;> simp [finish, eq_comm]

end ChartQueryDraft

/-! ## Reading a query -/

namespace ChartQuery

variable
  {pairs other : List (String × String)}
  {query : ChartQuery}
  {fault : QueryFault}

/-- A query is what pairs give. -/
structure IsReadFrom
    (query : ChartQuery)
    (pairs : List (String × String)) : Prop where
  chartType : givenValues pairs "chartType" = [query.chartType]
  parameters : GivesParameters pairs query.parameters

theorem isReadFrom_iff_draft :
    query.IsReadFrom pairs ↔
      ChartQueryDraft.IsReadFrom ⟨some query.chartType, query.parameters⟩ pairs := by
  constructor
  · rintro ⟨named, parameters⟩
    exact ⟨.once named rfl, parameters⟩
  · rintro ⟨ofType, parameters⟩
    cases ofType with
    | once named same => exact ⟨same ▸ named, parameters⟩

theorem ofPairs_eq_ok_iff :
    ofPairs pairs = .ok query ↔ query.IsReadFrom pairs := by
  rw [ofPairs, bind_eq_ok_iff, isReadFrom_iff_draft]
  simp only [ChartQueryDraft.finish_eq_ok_iff, exists_eq_right,
    ChartQueryDraft.foldlM_absorb_eq_ok_iff]

/-- Refusals are decided by the first pair that offends, and by the chart type only if there
is no such pair. -/
theorem ofPairs_eq_error_iff :
    ofPairs pairs = .error fault ↔ Refuses pairs fault := by
  rw [ofPairs, bind_eq_error_iff, ChartQueryDraft.foldlM_absorb_eq_error_iff]
  simp only [ChartQueryDraft.exists_isReadFrom_iff, ChartQueryDraft.finish_eq_error_iff,
    ChartQueryDraft.foldlM_absorb_eq_ok_iff]
  constructor
  · rintro (⟨before, pair, after, split, faultless, offends⟩ | ⟨draft, read, unnamed, rfl⟩)
    · exact .offence split faultless offends
    · exact .missing (ChartQueryDraft.exists_isReadFrom_iff.mp ⟨draft, read⟩)
        (read.chartType.eq_none_iff.mp unnamed)
  · rintro (⟨split, faultless, offends⟩ | ⟨faultless, unnamed⟩)
    · exact .inl ⟨_, _, _, split, faultless, offends⟩
    · obtain ⟨draft, read⟩ := ChartQueryDraft.exists_isReadFrom_iff.mpr faultless
      exact .inr ⟨draft, read, read.chartType.eq_none_iff.mpr unnamed, rfl⟩

/-- Pairs are a query exactly if they give the chart type once, no other parameter twice, and
numerals to the year and the month. -/
theorem exists_isReadFrom_iff :
    (∃ query : ChartQuery, query.IsReadFrom pairs) ↔
      ((givenValues pairs "chartType").length = 1 ∧
        ∀ parameter ∈ ["duration", "interval", "year", "month"],
          (givenValues pairs parameter).length ≤ 1) ∧
      (∀ written ∈ givenValues pairs "year", ∃ year, IsYear written year) ∧
      ∀ written ∈ givenValues pairs "month", ∃ month, IsMonth written month := by
  simp only [List.forall_mem_cons, List.not_mem_nil, false_imp_iff, implies_true, and_true]
  constructor
  · rintro ⟨query, named, ofDuration, ofInterval, ofYear, ofMonth⟩
    obtain ⟨yearOnce, years⟩ := exists_gives_iff.mp ⟨_, ofYear⟩
    obtain ⟨monthOnce, months⟩ := exists_gives_iff.mp ⟨_, ofMonth⟩
    exact ⟨⟨by rw [named]; rfl, ofDuration.length_le, ofInterval.length_le, yearOnce, monthOnce⟩,
      years, months⟩
  · rintro ⟨⟨named, durationOnce, intervalOnce, yearOnce, monthOnce⟩, years, months⟩
    obtain ⟨chartType, named⟩ := List.length_eq_one_iff.mp named
    obtain ⟨duration, ofDuration⟩ :=
      exists_gives_iff.mpr ⟨durationOnce, fun written _ => ⟨written, rfl⟩⟩
    obtain ⟨interval, ofInterval⟩ :=
      exists_gives_iff.mpr ⟨intervalOnce, fun written _ => ⟨written, rfl⟩⟩
    obtain ⟨year, ofYear⟩ := exists_gives_iff.mpr ⟨yearOnce, years⟩
    obtain ⟨month, ofMonth⟩ := exists_gives_iff.mpr ⟨monthOnce, months⟩
    exact ⟨⟨chartType, ⟨duration, interval, year, month⟩⟩, named, ofDuration, ofInterval, ofYear,
      ofMonth⟩

/-! ## Order and unknown names -/

/-- The pairs that name parameters. -/
def knownPairs
    (pairs : List (String × String)) : List (String × String) :=
  pairs.filter fun pair => parameterNames.contains pair.1

theorem IsReadFrom.perm
    (read : query.IsReadFrom pairs)
    (reordered : pairs.Perm other) :
    query.IsReadFrom other := by
  obtain ⟨named, ofDuration, ofInterval, ofYear, ofMonth⟩ := read
  refine ⟨?_, ofDuration.perm reordered, ofInterval.perm reordered, ofYear.perm reordered,
    ofMonth.perm reordered⟩
  have values : (givenValues pairs "chartType").Perm (givenValues other "chartType") :=
    givenValues_perm reordered
  rw [named, List.singleton_perm] at values
  exact values.symm

/-- Pairs that name no parameter make no difference, not even to how a query is refused. -/
theorem ofPairs_knownPairs
    (pairs : List (String × String)) :
    ofPairs (knownPairs pairs) = ofPairs pairs := by
  rw [ofPairs, ofPairs, knownPairs]
  congr 1
  generalize ChartQueryDraft.blank = draft
  induction pairs generalizing draft with
  | nil => rfl
  | cons pair rest inductionHypothesis =>
      by_cases known : pair.1 ∈ parameterNames
      · rw [List.filter_cons_of_pos (by simpa using known), List.foldlM_cons, List.foldlM_cons]
        exact congrArg _ (funext inductionHypothesis)
      · rw [List.filter_cons_of_neg (by simpa using known), List.foldlM_cons,
          ChartQueryDraft.absorb_of_unknown known]
        exact inductionHypothesis draft

end ChartQuery
end FleetDashboard
