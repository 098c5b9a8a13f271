import FleetDashboard.Inventory.Snapshot
import FleetDashboard.Proofs.Order.StableSort

/-!
# Spans of recorded alerts

The restarts of a span are cut out of the recorded alerts and brought into the order of
time.  Two spans that meet give the restarts of the whole span, the earlier ones first:
the moment at which they meet belongs to the later one, and restarts of one moment stay in
the order in which they are recorded.
-/

namespace FleetDashboard

open Calendar Json

namespace Calendar.Instant

theorem le_antisymm
    {left right : Instant}
    (below : left ≤ right)
    (above : right ≤ left) :
    left = right := by
  obtain ⟨seconds, nanos⟩ := left
  obtain ⟨otherSeconds, otherNanos⟩ := right
  simp only [le_iff] at below above
  rw [mk.injEq]
  omega

instance : Std.IsLinearOrder Instant where
  le_refl _ := .inr ⟨rfl, Nat.le_refl _⟩
  le_trans _ _ _ := le_trans
  le_antisymm _ _ := le_antisymm
  le_total := le_total

instance : Std.LawfulOrderLT Instant where
  lt_iff left right := by
    simp only [lt_iff, le_iff]
    omega

end Calendar.Instant

/-! ## What a snapshot holds -/

namespace SnapshotFile

/-- The file is text that denotes a list of records. -/
def Holds
    (decode : Decoder α)
    (records : List α) : SnapshotFile → Prop
  | absent => False
  | directory => False
  | bytes content =>
      ∃ characters document, Text.Utf8.decode content = some characters ∧
        Json.readCharacters characters = some document ∧
        decodeList decode document = some records

theorem records_of_holds
    {file : SnapshotFile}
    {decode : Decoder α}
    {list : List α}
    (holds : file.Holds decode list)
    (path : String) :
    file.records path decode = .ok list := by
  cases file with
  | absent => cases holds
  | directory => cases holds
  | bytes content =>
      obtain ⟨characters, document, isText, isDocument, isList⟩ := holds
      rw [records]
      simp only [isText, isDocument, isList, Option.bind_some]

/-- A file that is there and holds no list is a failure that names the file. -/
theorem exists_fault_of_not_holds
    {file : SnapshotFile}
    {decode : Decoder α}
    (present : file ≠ absent)
    (unfit : ∀ list, ¬file.Holds decode list)
    (path : String) :
    ∃ fault, (fault = .unreadable path ∨ fault = .unparsable path) ∧
      file.records path decode = .error fault := by
  cases file with
  | absent => exact absurd rfl present
  | directory => exact ⟨.unreadable path, .inl rfl, rfl⟩
  | bytes content =>
      rw [records]
      cases isText : Text.Utf8.decode content with
      | none => exact ⟨.unreadable path, .inl rfl, rfl⟩
      | some characters =>
          dsimp only
          cases isList : (Json.readCharacters characters).bind (decodeList decode) with
          | none => exact ⟨.unparsable path, .inr rfl, rfl⟩
          | some list =>
              obtain ⟨document, isDocument, decodes⟩ := Option.bind_eq_some_iff.mp isList
              exact absurd ⟨characters, document, isText, isDocument, decodes⟩ (unfit list)

end SnapshotFile

/-! ## Restarts of a span -/

namespace Alert

/-- The alert reports restarts of an organization's pods, and it was raised within a span.
The span begins with `start` and ends before `finish`. -/
def RestartsWithin
    (organization : String)
    (start finish : Instant)
    (alert : Alert) : Prop :=
  alert.organization = organization ∧ alert.name = "pod-restart-frequently" ∧
    start ≤ alert.createdAt ∧ alert.createdAt < finish

instance
    (organization : String)
    (start finish : Instant) :
    DecidablePred (RestartsWithin organization start finish) :=
  fun _ => inferInstanceAs (Decidable (_ ∧ _ ∧ _ ∧ _))

theorem isPodRestart_iff
    {organization : String}
    {start finish : Instant}
    {alert : Alert} :
    alert.isPodRestart organization start finish = true ↔
      alert.RestartsWithin organization start finish := by
  simp only [isPodRestart, podRestart, RestartsWithin, Bool.and_eq_true, beq_iff_eq,
    decide_eq_true_eq, and_assoc]

@[simp] theorem podRestarts_nil
    (organization : String)
    (start finish : Instant) :
    podRestarts [] organization start finish = [] := by
  rw [podRestarts, List.filter_nil, List.mergeSort_nil]

theorem isStablySorted_podRestarts
    (alerts : List Alert)
    (organization : String)
    (start finish : Instant) :
    IsStablySorted createdAt (alerts.filter (RestartsWithin organization start finish))
      (podRestarts alerts organization start finish) := by
  have wanted : isPodRestart organization start finish =
      fun alert => decide (alert.RestartsWithin organization start finish) := by
    funext alert
    rw [Bool.eq_iff_iff, isPodRestart_iff, decide_eq_true_iff]
  rw [podRestarts, wanted]
  exact .mergeSort _

/-- Of one moment a span has the restarts recorded for it, or none if the moment lies
outside. -/
theorem filter_restartsWithin
    (alerts : List Alert)
    (organization : String)
    (start finish moment : Instant) :
    (alerts.filter (RestartsWithin organization start finish)).filter (·.createdAt = moment) =
      if start ≤ moment ∧ moment < finish then
        alerts.filter fun alert => alert.organization = organization ∧
          alert.name = "pod-restart-frequently" ∧ alert.createdAt = moment
      else [] := by
  rw [List.filter_filter]
  split
  · rename_i inside
    refine List.filter_congr fun alert _ => ?_
    rw [Bool.eq_iff_iff]
    simp only [Bool.and_eq_true, decide_eq_true_eq]
    constructor
    · rintro ⟨rfl, within⟩
      exact ⟨within.1, within.2.1, rfl⟩
    · rintro ⟨same, named, rfl⟩
      exact ⟨rfl, same, named, inside⟩
  · rename_i outside
    refine List.filter_eq_nil_iff.mpr ?_
    simp only [Bool.and_eq_true, decide_eq_true_eq]
    rintro alert _ ⟨rfl, within⟩
    exact outside within.2.2

section Adjacent

variable
  {start middle finish : Instant}
  (first : start ≤ middle)
  (second : middle ≤ finish)
  (alerts : List Alert)
  (organization : String)

include first second

/-- Of one moment the restarts of a whole span are those of one of its parts. -/
theorem filter_restartsWithin_adjacent
    (moment : Instant) :
    (alerts.filter (RestartsWithin organization start middle) ++
        alerts.filter (RestartsWithin organization middle finish)).filter
          (·.createdAt = moment) =
      (alerts.filter (RestartsWithin organization start finish)).filter
        (·.createdAt = moment) := by
  simp only [List.filter_append, filter_restartsWithin]
  by_cases early : moment < middle
  · have notLater : ¬middle ≤ moment := Std.not_le.mpr early
    have ends : moment < finish := Std.lt_of_lt_of_le early second
    simp only [early, notLater, ends, and_true, if_false, List.append_nil]
  · have later : middle ≤ moment := Instant.not_lt.mp early
    have begun : start ≤ moment := Instant.le_trans first later
    simp only [early, later, begun, and_false, true_and, if_false, List.nil_append]

/-- The restarts of two spans that meet are those of the whole span. -/
theorem podRestarts_append :
    podRestarts alerts organization start finish =
      podRestarts alerts organization start middle ++
        podRestarts alerts organization middle finish := by
  have apart : ∀ earlier ∈ alerts.filter (RestartsWithin organization start middle),
      ∀ later ∈ alerts.filter (RestartsWithin organization middle finish),
        earlier.createdAt ≤ later.createdAt := by
    simp only [List.mem_filter, decide_eq_true_eq]
    rintro earlier ⟨_, _, _, _, before⟩ later ⟨_, _, _, after, _⟩
    exact Instant.le_trans (Std.le_of_lt before) after
  have parts := (isStablySorted_podRestarts alerts organization start middle).append
    (isStablySorted_podRestarts alerts organization middle finish) apart
  exact (isStablySorted_podRestarts alerts organization start finish).unique
    (parts.of_groups (filter_restartsWithin_adjacent first second alerts organization))

end Adjacent
end Alert

namespace DataDirectory

/-- While the file of alerts holds a list, every span gives the recorded restarts of the
organization in it, each once, in the order of time and those of one moment in the order
of the file; and the restarts of a span are those up to any moment in it, followed by
those from the moment on.  A file that holds no list fails every span, and one that is
missing leaves every span empty. -/
theorem podRestarts_partition
    (directory : DataDirectory) :
    (∀ alerts, directory.alerts.Holds Alert.decode alerts →
      ∀ organization start middle finish, start ≤ middle → middle ≤ finish →
        ∃ whole early late,
          directory.podRestarts organization start finish = .ok whole ∧
          directory.podRestarts organization start middle = .ok early ∧
          directory.podRestarts organization middle finish = .ok late ∧
          whole = early ++ late ∧
          IsStablySorted Alert.createdAt
            (alerts.filter (Alert.RestartsWithin organization start finish)) whole ∧
          whole.Perm (alerts.filter (Alert.RestartsWithin organization start finish))) ∧
    (directory.alerts ≠ .absent → (∀ alerts, ¬directory.alerts.Holds Alert.decode alerts) →
      ∃ fault, ∀ organization start finish,
        directory.podRestarts organization start finish = .error fault) ∧
    (directory.alerts = .absent → ∀ organization start finish,
      directory.podRestarts organization start finish = .ok []) := by
  refine ⟨?_, ?_, ?_⟩
  · intro alerts holds organization start middle finish first second
    have recorded : directory.allAlerts = .ok alerts := SnapshotFile.records_of_holds holds _
    have fetched (from_ upTo : Instant) : directory.podRestarts organization from_ upTo =
        .ok (Alert.podRestarts alerts organization from_ upTo) := by
      rw [podRestarts, recorded]
      rfl
    have sorted := Alert.isStablySorted_podRestarts alerts organization start finish
    exact ⟨_, _, _, fetched start finish, fetched start middle, fetched middle finish,
      Alert.podRestarts_append first second alerts organization, sorted, sorted.perm⟩
  · intro present unfit
    obtain ⟨fault, _, failed⟩ := SnapshotFile.exists_fault_of_not_holds present unfit
      (directory.pathOf "alerts.json")
    refine ⟨fault, fun organization start finish => ?_⟩
    rw [podRestarts, allAlerts, failed]
    rfl
  · intro missing organization start finish
    rw [podRestarts, allAlerts, missing, SnapshotFile.records_absent]
    exact congrArg Except.ok (Alert.podRestarts_nil organization start finish)

/-- Two restarts of one moment stand in the file before an earlier one, and the moment is
where two spans meet: both belong to the later span, in the order of the file. -/
theorem sample_podRestarts_partition :
    let document :=
      "[[\"b\",\"acme\",\"\",\"pod-restart-frequently\",\"1970-01-01T00:01:40Z\"]," ++
        "[\"a\",\"acme\",\"\",\"pod-restart-frequently\",\"1970-01-01T01:01:40+01:00\"]," ++
        "[\"c\",\"acme\",\"\",\"pod-restart-frequently\",\"1970-01-01T00:00:50Z\"]]"
    let written (text : String) : DataDirectory :=
      ⟨"data", .absent, .absent, .bytes text.toUTF8.data.toList⟩
    let alerts : List Alert :=
      [⟨"b", "acme", "", "pod-restart-frequently", ⟨100, 0⟩⟩,
        ⟨"a", "acme", "", "pod-restart-frequently", ⟨100, 0⟩⟩,
        ⟨"c", "acme", "", "pod-restart-frequently", ⟨50, 0⟩⟩]
    ((written document).alerts.Holds Alert.decode alerts ∧
      (⟨50, 0⟩ : Instant) ≤ ⟨100, 0⟩ ∧ (⟨100, 0⟩ : Instant) ≤ ⟨101, 0⟩ ∧
      ∃ early late,
        (written document).podRestarts "acme" ⟨50, 0⟩ ⟨101, 0⟩ = .ok (early ++ late) ∧
        (written document).podRestarts "acme" ⟨50, 0⟩ ⟨100, 0⟩ = .ok early ∧
        (written document).podRestarts "acme" ⟨100, 0⟩ ⟨101, 0⟩ = .ok late ∧
        early.map Alert.id = ["c"] ∧
        ((early ++ late).filter (·.createdAt = ⟨100, 0⟩)).map Alert.id = ["b", "a"]) ∧
    ((∀ others, ¬(written "[").alerts.Holds Alert.decode others) ∧
      ∃ fault, (written "[").podRestarts "acme" ⟨50, 0⟩ ⟨101, 0⟩ = .error fault) ∧
    (DataDirectory.mk "data" .absent .absent .absent).podRestarts "acme" ⟨50, 0⟩ ⟨101, 0⟩ =
      .ok [] := by
  intro document written alerts
  have holds : (written document).alerts.Holds Alert.decode alerts := by
    have text : Text.Utf8.decode document.toUTF8.data.toList = some document.toList := by
      decide +kernel
    have decodes : (Json.readCharacters document.toList).bind (decodeList Alert.decode) =
        some alerts := by
      decide +kernel
    obtain ⟨value, read, decoded⟩ := Option.bind_eq_some_iff.mp decodes
    exact ⟨document.toList, value, text, read, decoded⟩
  have unfit : ∀ others, ¬(written "[").alerts.Holds Alert.decode others := by
    rintro others ⟨characters, value, text, read, _⟩
    have isBracket : Text.Utf8.decode "[".toUTF8.data.toList = some ['['] := by decide +kernel
    cases text.symm.trans isBracket
    cases read
  have first : (⟨50, 0⟩ : Instant) ≤ ⟨100, 0⟩ := by decide
  have second : (⟨100, 0⟩ : Instant) ≤ ⟨101, 0⟩ := by decide
  obtain ⟨whole, early, late, fetched, earlier, later, rfl, sorted, _⟩ :=
    (podRestarts_partition (written document)).1 alerts holds "acme" _ _ _ first second
  obtain ⟨fault, fails⟩ := (podRestarts_partition (written "[")).2.1 nofun unfit
  refine ⟨⟨holds, first, second, early, late, fetched, earlier, later, ?_, ?_⟩,
    ⟨unfit, fault, fails _ _ _⟩, (podRestarts_partition _).2.2 rfl _ _ _⟩
  · have ids : ((written document).podRestarts "acme" ⟨50, 0⟩ ⟨100, 0⟩).toOption.map
        (List.map Alert.id) = some ["c"] := by
      decide +kernel
    rw [earlier] at ids
    exact Option.some.inj ids
  · rw [sorted.groups]
    decide

end DataDirectory
end FleetDashboard
