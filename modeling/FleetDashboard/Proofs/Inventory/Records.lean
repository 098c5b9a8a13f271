import FleetDashboard.Inventory.Alert
import FleetDashboard.Inventory.Cluster
import FleetDashboard.Inventory.Organization
import FleetDashboard.Proofs.Calendar.Timestamp
import FleetDashboard.Proofs.Json.Fields
import FleetDashboard.Proofs.Json.RoundTrip

/-!
# Records that are written and read

Organizations, clusters and alerts that have been decoded from a document are decoded
again from the document that is written for them, one by one and as a list.  Nothing is
lost on the way: a decoder gives defaults and moments in universal time, and what it
gives is what is written.
-/

namespace FleetDashboard

open Calendar

namespace Json

/-! ## Decoded values -/

theorem exists_eq_some_of_mapM
    {make : α → Option β}
    {items : List α}
    {values : List β}
    (made : items.mapM make = some values) :
    ∀ value ∈ values, ∃ item, make item = some value := by
  induction items generalizing values with
  | nil =>
      cases made
      nofun
  | cons item items inductionHypothesis =>
      simp only [List.mapM_cons, Option.bind_eq_bind, Option.bind_eq_some_iff, Option.pure_def,
        Option.some.injEq] at made
      obtain ⟨first, firstMade, others, othersMade, rfl⟩ := made
      intro value listed
      rcases List.mem_cons.mp listed with rfl | later
      · exact ⟨item, firstMade⟩
      · exact inductionHypothesis othersMade value later

theorem exists_of_required
    {decode : Decoder α}
    {field : Option Json}
    {value : α}
    (present : required decode field = some value) :
    ∃ json, decode json = some value := by
  cases field with
  | none => cases present
  | some json => exact ⟨json, present⟩

/-! ## What is legible -/

theorem isLegible_text
    (content : String) :
    (text content).IsLegible := by
  rw [text, IsLegible]
  rfl

theorem isLegible_optionalText
    (content : Option String) :
    (optionalText content).IsLegible := by
  cases content with
  | none => rw [optionalText, IsLegible]; trivial
  | some content => exact isLegible_text content

theorem isLegible_record
    {members : List (String × Json)}
    (legible : ∀ member ∈ members, member.2.IsLegible) :
    (record members).IsLegible := by
  rw [record, IsLegible]
  induction members with
  | nil => rw [List.map_nil, AreMembersLegible]; trivial
  | cons member members inductionHypothesis =>
      rw [List.map_cons, AreMembersLegible]
      exact ⟨rfl, legible member List.mem_cons_self, inductionHypothesis fun other listed =>
        legible other (List.mem_cons_of_mem member listed)⟩

theorem isLegible_array
    {items : List Json}
    (legible : ∀ item ∈ items, item.IsLegible) :
    (array items).IsLegible := by
  rw [IsLegible]
  induction items with
  | nil => rw [AreLegible]; trivial
  | cons item items inductionHypothesis =>
      rw [AreLegible]
      exact ⟨legible item List.mem_cons_self, inductionHypothesis fun other listed =>
        legible other (List.mem_cons_of_mem item listed)⟩

/-! ## Codecs -/

/-- Values of one kind are written legibly, and what has been decoded decodes from its own
record again. -/
structure IsCodec
    (decode : Decoder α)
    (toJson : α → Json) : Prop where
  legible : ∀ value, (toJson value).IsLegible
  decodes : ∀ json value, decode json = some value → decode (toJson value) = some value

namespace IsCodec

variable
  {decode : Decoder α}
  {toJson : α → Json}

theorem list
    (codec : IsCodec decode toJson) :
    IsCodec (decodeList decode) fun values => .array (values.map toJson) where
  legible := by
    intro values
    apply isLegible_array
    simp only [List.mem_map, forall_exists_index, and_imp, forall_apply_eq_imp_iff₂]
    intro value _
    exact codec.legible value
  decodes := by
    intro json values decoded
    cases json with
    | array items =>
        have each : ∀ value ∈ values, (decode ∘ toJson) value = some value := by
          intro value listed
          obtain ⟨item, itemDecoded⟩ := exists_eq_some_of_mapM decoded value listed
          exact codec.decodes item value itemDecoded
        rw [decodeList, List.mapM_map, mapM_eq_some_map each, List.map_id']
    | _ => cases decoded

/-- What has been decoded from a document is decoded from the document that is written for
it. -/
theorem decode_read?_write
    (codec : IsCodec decode toJson)
    {document : String}
    {value : α}
    (decoded : (read? document).bind decode = some value) :
    (read? (write (toJson value))).bind decode = some value := by
  obtain ⟨json, _, decodes⟩ := Option.bind_eq_some_iff.mp decoded
  rw [read?_write (codec.legible value), Option.bind_some]
  exact codec.decodes json value decodes

end IsCodec
end Json

/-! ## Records of the inventory -/

open Json

namespace Organization

theorem decode_toJson
    (organization : Organization) :
    decode organization.toJson = some organization := by
  have distinct : fields.Nodup := by decide
  have values : slots fields organization.toJson = some [some (text organization.id),
      some (text organization.name), some (optionalText organization.primaryClusterId)] :=
    slots_record distinct
  rw [decode, values]
  obtain ⟨id, name, _ | primaryClusterId⟩ := organization
  · rfl
  · rfl

theorem isCodec : IsCodec decode toJson where
  legible := by
    intro organization
    apply isLegible_record
    simp [isLegible_text, isLegible_optionalText]
  decodes := fun _ organization _ => organization.decode_toJson

end Organization

namespace Cluster

theorem decode_toJson
    {cluster : Cluster}
    {stamp : String}
    (stamped : Timestamp.read? stamp = some cluster.createdAt) :
    decode cluster.toJson = some cluster := by
  have distinct : fields.Nodup := by decide
  have values : slots fields cluster.toJson = some [some (text cluster.id),
      some (text cluster.organization), some (text cluster.name),
      some (text cluster.description), some (text cluster.status.name),
      some (text (Timestamp.write cluster.createdAt))] :=
    slots_record distinct
  have status : decodeStatus (text cluster.status.name) = some cluster.status :=
    ClusterStatus.ofName?_name cluster.status
  have createdAt : decodeInstant (text (Timestamp.write cluster.createdAt)) =
      some cluster.createdAt :=
    Timestamp.read?_write stamped
  rw [decode, values]
  simp only [required, withDefault, status, createdAt, Option.bind_eq_bind, Option.bind_some]
  rfl

/-- The moment in a decoded record was read from a time stamp. -/
theorem exists_stamp
    {json : Json}
    {cluster : Cluster}
    (decoded : decode json = some cluster) :
    ∃ stamp, Timestamp.read? stamp = some cluster.createdAt := by
  rw [decode] at decoded
  split at decoded
  · simp only [Option.bind_eq_bind, Option.bind_eq_some_iff, Option.pure_def,
      Option.some.injEq] at decoded
    obtain ⟨_, _, _, _, _, _, _, _, _, _, createdAt, present, rfl⟩ := decoded
    obtain ⟨json, moment⟩ := exists_of_required present
    obtain ⟨stamp, _, read⟩ := Option.bind_eq_some_iff.mp moment
    exact ⟨stamp, read⟩
  · cases decoded

theorem isCodec : IsCodec decode toJson where
  legible := by
    intro cluster
    apply isLegible_record
    simp [isLegible_text]
  decodes := by
    intro json cluster decoded
    obtain ⟨stamp, stamped⟩ := exists_stamp decoded
    exact decode_toJson stamped

end Cluster

namespace Alert

theorem decode_toJson
    {alert : Alert}
    {stamp : String}
    (stamped : Timestamp.read? stamp = some alert.createdAt) :
    decode alert.toJson = some alert := by
  have distinct : fields.Nodup := by decide
  have values : slots fields alert.toJson = some [some (text alert.id),
      some (text alert.organization), some (text alert.cluster), some (text alert.name),
      some (text (Timestamp.write alert.createdAt))] :=
    slots_record distinct
  have createdAt := Timestamp.read?_write stamped
  rw [decode, values]
  simp only [required, withDefault, decodeText, text, createdAt, Option.bind_eq_bind,
    Option.bind_some]
  rfl

/-- The moment in a decoded record was read from a time stamp. -/
theorem exists_stamp
    {json : Json}
    {alert : Alert}
    (decoded : decode json = some alert) :
    ∃ stamp, Timestamp.read? stamp = some alert.createdAt := by
  rw [decode] at decoded
  split at decoded
  · simp only [Option.bind_eq_bind, Option.bind_eq_some_iff, Option.pure_def,
      Option.some.injEq] at decoded
    obtain ⟨_, _, _, _, _, _, _, _, stamp, _, createdAt, read, rfl⟩ := decoded
    exact ⟨stamp, read⟩
  · cases decoded

theorem isCodec : IsCodec decode toJson where
  legible := by
    intro alert
    apply isLegible_record
    simp [isLegible_text]
  decodes := by
    intro json alert decoded
    obtain ⟨stamp, stamped⟩ := exists_stamp decoded
    exact decode_toJson stamped

end Alert

/-! ## Snapshots -/

/-- A record that decodes from a document decodes from the document written for it, and so
does a list of records; the moments in it are written in their canonical form. -/
theorem Json.records_survive_writing :
    (∀ document organization, (read? document).bind Organization.decode = some organization →
      (read? (write organization.toJson)).bind Organization.decode = some organization) ∧
    (∀ document cluster, (read? document).bind Cluster.decode = some cluster →
      (read? (write cluster.toJson)).bind Cluster.decode = some cluster ∧
        Timestamp.IsCanonical cluster.createdAt (Timestamp.write cluster.createdAt).toList) ∧
    (∀ document alert, (read? document).bind Alert.decode = some alert →
      (read? (write alert.toJson)).bind Alert.decode = some alert ∧
        Timestamp.IsCanonical alert.createdAt (Timestamp.write alert.createdAt).toList) ∧
    (∀ document organizations,
      (read? document).bind (decodeList Organization.decode) = some organizations →
      (read? (write (.array (organizations.map Organization.toJson)))).bind
        (decodeList Organization.decode) = some organizations) ∧
    (∀ document clusters, (read? document).bind (decodeList Cluster.decode) = some clusters →
      (read? (write (.array (clusters.map Cluster.toJson)))).bind
        (decodeList Cluster.decode) = some clusters) ∧
    ∀ document alerts, (read? document).bind (decodeList Alert.decode) = some alerts →
      (read? (write (.array (alerts.map Alert.toJson)))).bind
        (decodeList Alert.decode) = some alerts := by
  refine ⟨?_, ?_, ?_, ?_, ?_, ?_⟩
  · exact fun _ _ => Organization.isCodec.decode_read?_write
  · intro document cluster decoded
    obtain ⟨json, _, fromJson⟩ := Option.bind_eq_some_iff.mp decoded
    obtain ⟨stamp, stamped⟩ := Cluster.exists_stamp fromJson
    exact ⟨Cluster.isCodec.decode_read?_write decoded, Timestamp.isCanonical_write stamped⟩
  · intro document alert decoded
    obtain ⟨json, _, fromJson⟩ := Option.bind_eq_some_iff.mp decoded
    obtain ⟨stamp, stamped⟩ := Alert.exists_stamp fromJson
    exact ⟨Alert.isCodec.decode_read?_write decoded, Timestamp.isCanonical_write stamped⟩
  · exact fun _ _ => Organization.isCodec.list.decode_read?_write
  · exact fun _ _ => Cluster.isCodec.list.decode_read?_write
  · exact fun _ _ => Alert.isCodec.list.decode_read?_write

/-- A leap second in the last minute of a year, in an offset of one minute, a default that
is left out and a state that is written as an object; an alert that is written as an array,
in a year of five digits; an organization whose primary cluster is blank. -/
theorem Json.sample_records_survive_writing :
    let ofCluster := "\x7b\"id\":\"\\u0000\\/\", \"organizationId\":\"\\ud83d\\ude00\", " ++
      "\"name\":\"\\u0022\", \"status\":\x7b\"running\":null\x7d, " ++
      "\"createdAt\":\"-0001-12-31t23:59:60.5+00:01\"\x7d"
    let cluster : Cluster :=
      ⟨"\x00/", "😀", "\"", "", .running, ⟨-62167219261, 1500000000⟩⟩
    let ofAlert := "[\"a\", \"\", \"\", \"\\n\", \"+12345-01-01T00:00:00.000001Z\"]"
    let alert : Alert := ⟨"a", "", "", "\n", ⟨327403382400, 1000⟩⟩
    let ofOrganization := "\x7b\"id\":\"o\",\"primaryClusterId\":\" \",\"name\":\"\"\x7d"
    let organization : Organization := ⟨"o", "", some " "⟩
    ((read? ofCluster).bind Cluster.decode = some cluster ∧
      write cluster.toJson = "\x7b\"id\":\"\\u0000/\",\"organizationId\":\"😀\"," ++
        "\"name\":\"\\\"\",\"description\":\"\",\"status\":\"running\"," ++
        "\"createdAt\":\"-0001-12-31T23:58:60.500Z\"\x7d" ∧
      (read? (write cluster.toJson)).bind Cluster.decode = some cluster) ∧
    ((read? ofAlert).bind Alert.decode = some alert ∧
      Timestamp.write alert.createdAt = "+12345-01-01T00:00:00.000001Z" ∧
      (read? (write alert.toJson)).bind Alert.decode = some alert) ∧
    (read? ofOrganization).bind Organization.decode = some organization ∧
      (read? (write organization.toJson)).bind Organization.decode = some organization := by
  intro ofCluster cluster ofAlert alert ofOrganization organization
  have clusterDecoded : (read? ofCluster).bind Cluster.decode = some cluster := by
    decide +kernel
  have alertDecoded : (read? ofAlert).bind Alert.decode = some alert := by
    decide +kernel
  have organizationDecoded : (read? ofOrganization).bind Organization.decode =
      some organization := by
    decide +kernel
  obtain ⟨organizations, clusters, alerts, _⟩ := records_survive_writing
  exact ⟨⟨clusterDecoded, by decide +kernel, (clusters _ _ clusterDecoded).1⟩,
    ⟨alertDecoded, by decide +kernel, (alerts _ _ alertDecoded).1⟩,
    organizationDecoded, organizations _ _ organizationDecoded⟩

end FleetDashboard
