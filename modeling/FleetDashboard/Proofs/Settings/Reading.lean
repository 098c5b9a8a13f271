import FleetDashboard.Proofs.Failure
import FleetDashboard.Proofs.Text.Numeral
import FleetDashboard.Proofs.Text.Trim
import FleetDashboard.Settings

/-!
# What is read from an environment

Each setting is chosen from its own variable: the value that the variable names, or the
standard one if it is blank or of no use.  A variable that is of no use leaves one notice,
whether it cannot be read or lies out of bounds.
-/

namespace FleetDashboard

open Net Text

namespace Environment

/-- The variable is set to a text that is not blank. -/
def Fills
    (environment : Environment)
    (variableName raw : String) : Prop :=
  environment variableName = some raw ∧
    ∃ character ∈ raw.toList, isBlank character = false

/-- The variable is filled with something of no use. -/
def Rejects
    (environment : Environment)
    (usable : String → α → Prop)
    (variableName : String) : Prop :=
  ∃ raw, environment.Fills variableName raw ∧ ∀ value, ¬usable raw value

/-- A value is chosen from a variable: the one that it is filled with, if that is of use, and
a standard one otherwise. -/
structure Chooses
    (environment : Environment)
    (usable : String → α → Prop)
    (variableName : String)
    (standard chosen : α) : Prop where
  of_usable : ∀ raw value, environment.Fills variableName raw → usable raw value →
    chosen = value
  of_unusable : (∀ raw value, environment.Fills variableName raw → ¬usable raw value) →
    chosen = standard

end Environment

/-- The variable that a notice is about. -/
def SettingNotice.variableName : SettingNotice → String
  | invalid variableName _ _ => variableName
  | outOfBounds variableName _ _ => variableName

namespace Settings

/-- An address between blanks. -/
def IsAddress
    (raw : String)
    (address : SocketAddress) : Prop :=
  ∃ core, IsBetweenBlanks raw.toList core ∧ SocketAddress.readCharacters core = some address

/-- A natural number of sixty-four bits between blanks. -/
def IsNumber
    (raw : String)
    (value : Nat) : Prop :=
  ∃ core, IsBetweenBlanks raw.toList core ∧ IsNatural core value ∧ value < 2 ^ 64

/-- A time from one second to thirty days, in seconds. -/
def IsTime
    (raw : String)
    (seconds : Nat) : Prop :=
  IsNumber raw seconds ∧ 1 ≤ seconds ∧ seconds ≤ 2592000

/-- A time is turned down: it is no number, or one out of bounds. -/
inductive TurnsDownTime
    (variableName raw : String)
    (standard : Nat) : SettingNotice → Prop
  | invalid
      (unread : ∀ value, ¬IsNumber raw value) :
      TurnsDownTime variableName raw standard (.invalid variableName raw (natText standard))
  | outOfBounds
      {value : Nat}
      (read : IsNumber raw value)
      (beyond : value < 1 ∨ 2592000 < value) :
      TurnsDownTime variableName raw standard (.outOfBounds variableName value standard)

/-- What comes of choosing a value from a variable, with the notices that are left. -/
inductive Outcome
    (environment : Environment)
    (usable : String → α → Prop)
    (turnsDown : String → SettingNotice → Prop)
    (variableName : String)
    (standard : α) : α × List SettingNotice → Prop
  /-- A variable that is blank or not set leaves nothing. -/
  | blank
      (unfilled : ∀ raw, ¬environment.Fills variableName raw) :
      Outcome environment usable turnsDown variableName standard (standard, [])
  /-- A usable value is taken. -/
  | accepted
      {raw : String}
      {value : α}
      (filled : environment.Fills variableName raw)
      (fit : usable raw value) :
      Outcome environment usable turnsDown variableName standard (value, [])
  /-- Anything else leaves one notice. -/
  | rejected
      {raw : String}
      {notice : SettingNotice}
      (filled : environment.Fills variableName raw)
      (unfit : ∀ value, ¬usable raw value)
      (turnedDown : turnsDown raw notice)
      (named : notice.variableName = variableName) :
      Outcome environment usable turnsDown variableName standard (standard, [notice])

/-! ## Choosing one value -/

theorem filled?_eq_some_iff
    {environment : Environment}
    {variableName raw : String} :
    filled? environment variableName = some raw ↔ environment.Fills variableName raw := by
  rw [filled?, Option.filter_eq_some_iff, Environment.Fills, isBlankText, Bool.not_eq_true',
    List.all_eq_false]
  simp only [Bool.not_eq_true]

theorem filled?_eq_none_iff
    {environment : Environment}
    {variableName : String} :
    filled? environment variableName = none ↔
      ∀ raw, ¬environment.Fills variableName raw := by
  simp only [Option.eq_none_iff_forall_ne_some, ne_eq, filled?_eq_some_iff]

theorem readAddress_eq_some_iff
    {raw : String}
    {address : SocketAddress} :
    SocketAddress.read? (trim raw) = some address ↔ IsAddress raw address := by
  simp only [IsAddress, isBetweenBlanks_iff, exists_eq_left', SocketAddress.read?, trim,
    String.toList_ofList]

theorem readSeconds_eq_some_iff
    {raw : String}
    {value : Nat} :
    readSeconds (trim raw) = some value ↔ IsNumber raw value := by
  have bound : value ≤ Nat.pow 2 64 - 1 ↔ value < 2 ^ 64 := by
    change value ≤ 2 ^ 64 - 1 ↔ _
    omega
  simp only [IsNumber, isBetweenBlanks_iff, exists_eq_left', readSeconds, trim,
    String.toList_ofList, toOption_eq_some_iff, readNat_eq_ok_iff, bound]

/-- Choosing a value that is read between blanks has an outcome. -/
theorem outcome_choose
    {environment : Environment}
    {variableName : String}
    {read : String → Option α}
    {standard : α}
    {write : α → String}
    {usable : String → α → Prop}
    (reads : ∀ raw value, read (trim raw) = some value ↔ usable raw value) :
    Outcome environment usable
      (fun raw notice => notice = .invalid variableName raw (write standard)) variableName
      standard (choose environment variableName read standard write) := by
  rw [choose]
  cases found : filled? environment variableName with
  | none => exact .blank (filled?_eq_none_iff.mp found)
  | some raw =>
      have filled := filled?_eq_some_iff.mp found
      dsimp only
      cases value : read (trim raw) with
      | some value => exact .accepted filled ((reads raw _).mp value)
      | none =>
          refine .rejected filled (fun other fit => ?_) rfl rfl
          rw [(reads raw other).mpr fit] at value
          cases value

theorem isNumber_unique
    {raw : String}
    {value other : Nat}
    (first : IsNumber raw value)
    (second : IsNumber raw other) :
    value = other := by
  rw [← readSeconds_eq_some_iff] at first second
  exact Option.some.inj (first.symm.trans second)

/-- Choosing a time has an outcome, too: the bounds are checked after reading, so that a
number out of bounds leaves its own notice, and the standard time, which is within them,
passes the check once more. -/
theorem outcome_chooseSeconds
    (environment : Environment)
    {variableName : String}
    {standard : Nat}
    (standardFits : 1 ≤ standard ∧ standard ≤ longestTime) :
    Outcome environment IsTime (fun raw => TurnsDownTime variableName raw standard)
      variableName standard (chooseSeconds environment variableName standard) := by
  have read : Outcome environment IsNumber
      (fun raw notice => notice = .invalid variableName raw (natText standard)) variableName
      standard (choose environment variableName readSeconds standard natText) :=
    outcome_choose fun _ _ => readSeconds_eq_some_iff
  rw [chooseSeconds]
  generalize choose environment variableName readSeconds standard natText = chosen at read ⊢
  cases read with
  | blank unfilled =>
      dsimp only
      rw [if_pos standardFits]
      exact .blank unfilled
  | rejected filled unread invalid named =>
      dsimp only
      rw [if_pos standardFits]
      refine .rejected filled (fun value time => unread value time.1) ?_ named
      rw [invalid]
      exact .invalid unread
  | accepted filled number =>
      rename_i raw value
      dsimp only
      split
      · rename_i within
        exact .accepted filled ⟨number, within⟩
      · rename_i beyond
        have outside : value < 1 ∨ 2592000 < value := by
          change ¬(1 ≤ value ∧ value ≤ 2592000) at beyond
          omega
        refine .rejected filled ?_ (.outOfBounds number outside) rfl
        rintro other ⟨otherNumber, least, most⟩
        have same := isNumber_unique number otherNumber
        omega

/-! ## What outcomes say -/

namespace Outcome

variable
  {environment : Environment}
  {usable : String → α → Prop}
  {turnsDown : String → SettingNotice → Prop}
  {variableName : String}
  {standard : α}
  {result : α × List SettingNotice}

theorem chooses
    (unique : ∀ raw value other, usable raw value → usable raw other → value = other)
    (outcome : Outcome environment usable turnsDown variableName standard result) :
    environment.Chooses usable variableName standard result.1 := by
  cases outcome with
  | blank unfilled =>
      exact ⟨fun raw value filled => absurd filled (unfilled raw), fun _ => rfl⟩
  | accepted filled fit =>
      refine ⟨?_, fun unusable => absurd fit (unusable _ _ filled)⟩
      intro other value otherFilled otherFit
      cases filled.1.symm.trans otherFilled.1
      exact unique _ _ _ fit otherFit
  | rejected filled unfit =>
      refine ⟨?_, fun _ => rfl⟩
      intro other value otherFilled otherFit
      cases filled.1.symm.trans otherFilled.1
      exact absurd otherFit (unfit value)

theorem names_sublist
    (outcome : Outcome environment usable turnsDown variableName standard result) :
    (result.2.map SettingNotice.variableName).Sublist [variableName] := by
  cases outcome with
  | blank => exact List.nil_sublist _
  | accepted => exact List.nil_sublist _
  | rejected _ _ _ named =>
      rw [List.map_singleton]
      exact List.singleton_sublist.mpr (List.mem_singleton.mpr named)

/-- There is a notice exactly if the variable is rejected. -/
theorem mem_names_iff
    (outcome : Outcome environment usable turnsDown variableName standard result)
    {name : String} :
    name ∈ result.2.map SettingNotice.variableName ↔
      name = variableName ∧ environment.Rejects usable variableName := by
  cases outcome with
  | blank unfilled =>
      refine ⟨nofun, ?_⟩
      rintro ⟨_, raw, filled, _⟩
      exact absurd filled (unfilled raw)
  | accepted filled fit =>
      refine ⟨nofun, ?_⟩
      rintro ⟨_, other, otherFilled, unfit⟩
      cases filled.1.symm.trans otherFilled.1
      exact absurd fit (unfit _)
  | rejected filled unfit _ named =>
      rw [List.map_singleton, List.mem_singleton, named]
      exact ⟨fun same => ⟨same, _, filled, unfit⟩, And.left⟩

theorem turnsDown_of_mem
    (outcome : Outcome environment usable turnsDown variableName standard result)
    {notice : SettingNotice}
    (listed : notice ∈ result.2) :
    ∃ raw, environment.Fills variableName raw ∧ turnsDown raw notice := by
  cases outcome with
  | blank => cases listed
  | accepted => cases listed
  | rejected filled _ turnedDown =>
      cases List.mem_singleton.mp listed
      exact ⟨_, filled, turnedDown⟩

end Outcome

theorem isAddress_unique
    (raw : String)
    (address other : SocketAddress)
    (first : IsAddress raw address)
    (second : IsAddress raw other) :
    address = other := by
  rw [← readAddress_eq_some_iff] at first second
  exact Option.some.inj (first.symm.trans second)

theorem isTime_unique
    (raw : String)
    (seconds other : Nat)
    (first : IsTime raw seconds)
    (second : IsTime raw other) :
    seconds = other :=
  isNumber_unique first.1 second.1

theorem outcome_bindAddress
    (environment : Environment) :
    Outcome environment IsAddress
      (fun raw notice => notice = .invalid "STACKBOARD_BIND_ADDR" raw "0.0.0.0:8080")
      "STACKBOARD_BIND_ADDR" standardAddress
      (choose environment "STACKBOARD_BIND_ADDR" SocketAddress.read? standardAddress
        SocketAddress.write) := by
  have written : "0.0.0.0:8080" = standardAddress.write := by decide +kernel
  rw [written]
  exact outcome_choose fun _ _ => readAddress_eq_some_iff

/-- The chosen time is within the bounds, be it read or standard. -/
theorem chooseSeconds_bounds
    {environment : Environment}
    {variableName : String}
    {standard : Nat}
    (standardFits : 1 ≤ standard ∧ standard ≤ longestTime) :
    1 ≤ (chooseSeconds environment variableName standard).1 ∧
      (chooseSeconds environment variableName standard).1 ≤ longestTime := by
  rw [chooseSeconds]
  dsimp only
  split
  · assumption
  · exact standardFits

theorem filled?_chooses
    (environment : Environment)
    (variableName standard : String) :
    environment.Chooses (fun raw value => value = raw) variableName standard
      ((filled? environment variableName).getD standard) := by
  cases found : filled? environment variableName with
  | none =>
      have unfilled := filled?_eq_none_iff.mp found
      exact ⟨fun raw value filled => absurd filled (unfilled raw), fun _ => rfl⟩
  | some raw =>
      have filled := filled?_eq_some_iff.mp found
      refine ⟨?_, fun unusable => absurd rfl (unusable raw raw filled)⟩
      rintro other _ otherFilled rfl
      exact Option.some.inj (filled.1.symm.trans otherFilled.1)

/-! ## One variable for each setting -/

section OwnVariable

variable
  {environment other : Environment}
  {variableName : String}
  (same : environment variableName = other variableName)

include same

theorem filled?_congr :
    filled? environment variableName = filled? other variableName := by
  rw [filled?, filled?, same]

theorem choose_congr
    (read : String → Option α)
    (standard : α)
    (write : α → String) :
    choose environment variableName read standard write =
      choose other variableName read standard write := by
  rw [choose, choose, filled?_congr same]

theorem chooseSeconds_congr
    (standard : Nat) :
    chooseSeconds environment variableName standard =
      chooseSeconds other variableName standard := by
  rw [chooseSeconds, chooseSeconds, choose_congr same]

end OwnVariable

/-! ## All settings -/

/-- The variables that name times, with the standard times. -/
def timeVariables : List (String × Nat) :=
  [("STACKBOARD_CACHE_TTL_SECS", 300), ("STACKBOARD_CACHE_PURGE_SECS", 600),
    ("STACKBOARD_OUTBOUND_TIMEOUT_SECS", 10)]

theorem standard_fits
    {timed : String × Nat}
    (listed : timed ∈ timeVariables) :
    1 ≤ timed.2 ∧ timed.2 ≤ longestTime := by
  have each : ∀ timed ∈ timeVariables, 1 ≤ timed.2 ∧ timed.2 ≤ longestTime := by decide
  exact each timed listed

theorem notices_eq
    (environment : Environment) :
    (read environment).notices =
      (choose environment "STACKBOARD_BIND_ADDR" SocketAddress.read? standardAddress
        SocketAddress.write).2 ++
      timeVariables.flatMap fun timed => (chooseSeconds environment timed.1 timed.2).2 := by
  simp [read, timeVariables]

theorem times_names_sublist
    (environment : Environment)
    {times : List (String × Nat)}
    (fit : ∀ timed ∈ times, 1 ≤ timed.2 ∧ timed.2 ≤ longestTime) :
    ((times.flatMap fun timed => (chooseSeconds environment timed.1 timed.2).2).map
      SettingNotice.variableName).Sublist (times.map Prod.fst) := by
  induction times with
  | nil => exact List.Sublist.refl _
  | cons timed rest inductionHypothesis =>
      obtain ⟨firstFits, restFit⟩ := List.forall_mem_cons.mp fit
      rw [List.flatMap_cons, List.map_append, List.map_cons]
      exact (outcome_chooseSeconds environment firstFits).names_sublist.append
        (inductionHypothesis restFit)

/-- No variable has two notices, and notices stand in the order of their variables. -/
theorem notices_names_sublist
    (environment : Environment) :
    ((read environment).notices.map SettingNotice.variableName).Sublist
      ("STACKBOARD_BIND_ADDR" :: timeVariables.map Prod.fst) := by
  rw [notices_eq, List.map_append]
  exact (outcome_bindAddress environment).names_sublist.append
    (times_names_sublist environment fun _ => standard_fits)

theorem mem_notices_names_iff
    {environment : Environment}
    {name : String} :
    name ∈ (read environment).notices.map SettingNotice.variableName ↔
      name = "STACKBOARD_BIND_ADDR" ∧ environment.Rejects IsAddress name ∨
        name ∈ timeVariables.map Prod.fst ∧ environment.Rejects IsTime name := by
  rw [notices_eq, List.map_append, List.mem_append, (outcome_bindAddress environment).mem_names_iff,
    List.map_flatMap, List.mem_flatMap]
  refine or_congr (and_congr_right fun same => by rw [same]) ?_
  rw [List.mem_map]
  constructor
  · rintro ⟨timed, listed, noticed⟩
    obtain ⟨rfl, rejects⟩ :=
      (outcome_chooseSeconds environment (standard_fits listed)).mem_names_iff.mp noticed
    exact ⟨⟨timed, listed, rfl⟩, rejects⟩
  · rintro ⟨⟨timed, listed, rfl⟩, rejects⟩
    exact ⟨timed, listed,
      (outcome_chooseSeconds environment (standard_fits listed)).mem_names_iff.mpr ⟨rfl, rejects⟩⟩

/-- A notice says of its variable what has been wrong with it. -/
theorem exists_raw_of_mem_notices
    {environment : Environment}
    {notice : SettingNotice}
    (listed : notice ∈ (read environment).notices) :
    ∃ raw, environment.Fills notice.variableName raw ∧
      (notice = .invalid "STACKBOARD_BIND_ADDR" raw "0.0.0.0:8080" ∨
        ∃ timed ∈ timeVariables, TurnsDownTime timed.1 raw timed.2 notice) := by
  rw [notices_eq, List.mem_append, List.mem_flatMap] at listed
  rcases listed with ofAddress | ⟨timed, known, ofTime⟩
  · obtain ⟨raw, filled, rfl⟩ := (outcome_bindAddress environment).turnsDown_of_mem ofAddress
    exact ⟨raw, filled, .inl rfl⟩
  · obtain ⟨raw, filled, turnedDown⟩ :=
      (outcome_chooseSeconds environment (standard_fits known)).turnsDown_of_mem ofTime
    refine ⟨raw, ?_, .inr ⟨timed, known, turnedDown⟩⟩
    cases turnedDown with
    | invalid => exact filled
    | outOfBounds => exact filled

theorem chooseSeconds_chooses
    (environment : Environment)
    {variableName : String}
    {standard : Nat}
    (standardFits : 1 ≤ standard ∧ standard ≤ longestTime) :
    environment.Chooses IsTime variableName standard
      (chooseSeconds environment variableName standard).1 :=
  (outcome_chooseSeconds environment standardFits).chooses isTime_unique

/-- Whatever the environment is, every setting is what its own variable names, if that is of
use, and the standard value otherwise; directories and the namespace are taken as they are
written, blanks included.  Times lie between one second and thirty days.  The notices are
about exactly the variables that are rejected, one for each, in order, and say why. -/
theorem read_chooses_and_reports
    (environment : Environment) :
    let settings := read environment
    (environment.Chooses IsAddress "STACKBOARD_BIND_ADDR" standardAddress settings.bindAddress ∧
      environment.Chooses IsTime "STACKBOARD_CACHE_TTL_SECS" 300 settings.cacheLifetime ∧
      environment.Chooses IsTime "STACKBOARD_CACHE_PURGE_SECS" 600 settings.purgePeriod ∧
      environment.Chooses IsTime "STACKBOARD_OUTBOUND_TIMEOUT_SECS" 10
        settings.outboundTimeout ∧
      environment.Chooses (fun raw value => value = raw) "STACKBOARD_DATA_DIR" "./data"
        settings.dataDirectory ∧
      environment.Chooses (fun raw value => value = raw) "STACKBOARD_METRICS_NAMESPACE" "lma"
        settings.metricsNamespace ∧
      ∀ raw, settings.logDirectory = some raw ↔
        environment.Fills "STACKBOARD_LOG_DIR" raw) ∧
    (∀ seconds ∈ [settings.cacheLifetime, settings.purgePeriod, settings.outboundTimeout],
      1 ≤ seconds ∧ seconds ≤ 30 * 24 * 60 * 60) ∧
    ((settings.notices.map SettingNotice.variableName).Sublist
        ["STACKBOARD_BIND_ADDR", "STACKBOARD_CACHE_TTL_SECS", "STACKBOARD_CACHE_PURGE_SECS",
          "STACKBOARD_OUTBOUND_TIMEOUT_SECS"] ∧
      (∀ name, name ∈ settings.notices.map SettingNotice.variableName ↔
        name = "STACKBOARD_BIND_ADDR" ∧ environment.Rejects IsAddress name ∨
          name ∈ timeVariables.map Prod.fst ∧ environment.Rejects IsTime name) ∧
      ∀ notice ∈ settings.notices, ∃ raw, environment.Fills notice.variableName raw ∧
        (notice = .invalid "STACKBOARD_BIND_ADDR" raw "0.0.0.0:8080" ∨
          ∃ timed ∈ timeVariables, TurnsDownTime timed.1 raw timed.2 notice)) ∧
    ∀ other : Environment,
      (environment "STACKBOARD_BIND_ADDR" = other "STACKBOARD_BIND_ADDR" →
        settings.bindAddress = (read other).bindAddress) ∧
      (environment "STACKBOARD_CACHE_TTL_SECS" = other "STACKBOARD_CACHE_TTL_SECS" →
        settings.cacheLifetime = (read other).cacheLifetime) ∧
      (environment "STACKBOARD_CACHE_PURGE_SECS" = other "STACKBOARD_CACHE_PURGE_SECS" →
        settings.purgePeriod = (read other).purgePeriod) ∧
      (environment "STACKBOARD_OUTBOUND_TIMEOUT_SECS" =
          other "STACKBOARD_OUTBOUND_TIMEOUT_SECS" →
        settings.outboundTimeout = (read other).outboundTimeout) ∧
      (environment "STACKBOARD_DATA_DIR" = other "STACKBOARD_DATA_DIR" →
        settings.dataDirectory = (read other).dataDirectory) ∧
      (environment "STACKBOARD_METRICS_NAMESPACE" = other "STACKBOARD_METRICS_NAMESPACE" →
        settings.metricsNamespace = (read other).metricsNamespace) ∧
      (environment "STACKBOARD_LOG_DIR" = other "STACKBOARD_LOG_DIR" →
        settings.logDirectory = (read other).logDirectory) := by
  intro settings
  have ofLifetime : settings.cacheLifetime =
      (chooseSeconds environment "STACKBOARD_CACHE_TTL_SECS" 300).1 := rfl
  have ofPeriod : settings.purgePeriod =
      (chooseSeconds environment "STACKBOARD_CACHE_PURGE_SECS" 600).1 := rfl
  have ofTimeout : settings.outboundTimeout =
      (chooseSeconds environment "STACKBOARD_OUTBOUND_TIMEOUT_SECS" 10).1 := rfl
  refine ⟨⟨?_, ?_, ?_, ?_, ?_, ?_, ?_⟩, ?_, ⟨?_, ?_, ?_⟩, fun other => ⟨?_, ?_, ?_, ?_, ?_, ?_, ?_⟩⟩
  · exact (outcome_bindAddress environment).chooses isAddress_unique
  · rw [ofLifetime]
    exact chooseSeconds_chooses environment (by decide)
  · rw [ofPeriod]
    exact chooseSeconds_chooses environment (by decide)
  · rw [ofTimeout]
    exact chooseSeconds_chooses environment (by decide)
  · exact filled?_chooses environment "STACKBOARD_DATA_DIR" "./data"
  · exact filled?_chooses environment "STACKBOARD_METRICS_NAMESPACE" "lma"
  · exact fun _ => filled?_eq_some_iff
  · rw [ofLifetime, ofPeriod, ofTimeout]
    simp only [List.forall_mem_cons]
    exact ⟨chooseSeconds_bounds (by decide), chooseSeconds_bounds (by decide),
      chooseSeconds_bounds (by decide), nofun⟩
  · exact notices_names_sublist environment
  · exact fun _ => mem_notices_names_iff
  · exact fun _ => exists_raw_of_mem_notices
  · exact fun same => congrArg Prod.fst (choose_congr same _ _ _)
  · exact fun same => congrArg Prod.fst (chooseSeconds_congr same 300)
  · exact fun same => congrArg Prod.fst (chooseSeconds_congr same 600)
  · exact fun same => congrArg Prod.fst (chooseSeconds_congr same 10)
  · exact fun same => congrArg (Option.getD · "./data") (filled?_congr same)
  · exact fun same => congrArg (Option.getD · "lma") (filled?_congr same)
  · exact filled?_congr

/-- A time with blanks and a plus sign is taken.  What cannot be read leaves one notice, and
so does a time of no seconds; a directory keeps its blanks. -/
theorem sample_chooses_and_reports :
    let environment : Environment := fun
      | "STACKBOARD_BIND_ADDR" => some " nowhere "
      | "STACKBOARD_CACHE_TTL_SECS" => some " +60\t"
      | "STACKBOARD_CACHE_PURGE_SECS" => some "0"
      | "STACKBOARD_OUTBOUND_TIMEOUT_SECS" => some "18446744073709551616"
      | "STACKBOARD_DATA_DIR" => some " /srv "
      | "STACKBOARD_LOG_DIR" => some " \t"
      | _ => none
    let settings := read environment
    (settings.cacheLifetime = 60 ∧ settings.dataDirectory = " /srv " ∧
        settings.metricsNamespace = "lma" ∧ settings.logDirectory = none) ∧
      settings.notices =
        [.invalid "STACKBOARD_BIND_ADDR" " nowhere " "0.0.0.0:8080",
          .outOfBounds "STACKBOARD_CACHE_PURGE_SECS" 0 600,
          .invalid "STACKBOARD_OUTBOUND_TIMEOUT_SECS" "18446744073709551616" "10"] ∧
      environment.Rejects IsTime "STACKBOARD_CACHE_PURGE_SECS" ∧
      settings.cacheLifetime =
        (read fun name => if name = "STACKBOARD_CACHE_TTL_SECS" then some " +60\t" else none
          ).cacheLifetime := by
  intro environment settings
  obtain ⟨⟨_, lifetime, _, _, directory, metrics, logs⟩, _, ⟨_, reports, _⟩, own⟩ :=
    read_chooses_and_reports environment
  have sixty : IsTime " +60\t" 60 :=
    ⟨readSeconds_eq_some_iff.mp (by decide +kernel), by decide, by decide⟩
  have notices : settings.notices =
      [.invalid "STACKBOARD_BIND_ADDR" " nowhere " "0.0.0.0:8080",
        .outOfBounds "STACKBOARD_CACHE_PURGE_SECS" 0 600,
        .invalid "STACKBOARD_OUTBOUND_TIMEOUT_SECS" "18446744073709551616" "10"] := by
    decide +kernel
  refine ⟨⟨?_, ?_, ?_, ?_⟩, notices, ?_, ?_⟩
  · exact lifetime.of_usable " +60\t" 60 ⟨rfl, '6', by decide, by decide⟩ sixty
  · exact directory.of_usable " /srv " " /srv " ⟨rfl, '/', by decide, by decide⟩ rfl
  · exact metrics.of_unusable fun raw value filled => by cases filled.1
  · refine Option.eq_none_iff_forall_ne_some.mpr fun raw named => ?_
    obtain ⟨set, character, listed, solid⟩ := (logs raw).mp named
    cases set
    have blanks : isBlankText " \t" = true := by decide
    rw [List.all_eq_true.mp blanks character listed] at solid
    cases solid
  · have named : "STACKBOARD_CACHE_PURGE_SECS" ∈
        settings.notices.map SettingNotice.variableName := by
      rw [notices]
      decide
    rcases (reports _).mp named with ⟨other, _⟩ | ⟨_, rejects⟩
    · exact absurd other (by decide)
    · exact rejects
  · exact (own _).2.1 rfl

end Settings
end FleetDashboard
