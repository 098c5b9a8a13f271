import FleetDashboard.Metrics.Response
import FleetDashboard.Proofs.Json.Fields
import FleetDashboard.Proofs.Json.RoundTrip
import Mathlib.Data.List.Perm.Basic

/-!
# Responses in any order of members

A response can be written in many ways: the members of each object may stand in any order,
and a record may also be an array of its fields.  All of them decode to the same entries in
the same order, with their labels, times and value texts as they are written.  A result in
front of its type has to be held until the type is known, and whatever is written for a
result can be held.
-/

namespace FleetDashboard
namespace Metrics

open Json

/-! ## Responses and how they are written -/

/-- A point is written as its time, a number in any form, and the text of its value. -/
def Point.IsWrittenAs
    (point : Point)
    (value : Json) : Prop :=
  ∃ literal, literal.binary64? = some point.time ∧
    value = .array [.number literal, text point.value]

/-- Labels with distinct names are written as an object of texts. -/
def Labels.IsWrittenAs
    (labels : Labels)
    (value : Json) : Prop :=
  (labels.map Prod.fst).Nodup ∧
    HasMembers (labels.map fun label => (label.1, text label.2)) value

/-- A field is written for the labels of an entry. -/
inductive Labels.IsMetric : Labels → Option Json → Prop
  /-- An entry without labels needs no field. -/
  | absent :
      IsMetric [] none
  /-- Labels are written as they are. -/
  | present
      {labels : Labels}
      {value : Json}
      (as : labels.IsWrittenAs value) :
      IsMetric labels (some value)

/-- An entry of a vector has labels and a point. -/
def Sample.IsWrittenAs
    (sample : Sample)
    (value : Json) : Prop :=
  ∃ metric point, sample.labels.IsMetric metric ∧ sample.point.IsWrittenAs point ∧
    HasFields [("metric", metric), ("value", some point)] [] value

/-- An entry of a matrix has labels and points. -/
def Series.IsWrittenAs
    (series : Series)
    (value : Json) : Prop :=
  ∃ metric points, series.labels.IsMetric metric ∧
    HasItems Point.IsWrittenAs series.points points ∧
    HasFields [("metric", metric), ("values", some points)] [] value

namespace QueryData

/-- Data is written as a result of a named type. -/
inductive IsResult : QueryData → String → Json → Prop
  | vector
      {samples : List Sample}
      {value : Json}
      (entries : HasItems Sample.IsWrittenAs samples value) :
      IsResult (.vector samples) "vector" value
  | matrix
      {series : List Series}
      {value : Json}
      (entries : HasItems Series.IsWrittenAs series value) :
      IsResult (.matrix series) "matrix" value
  | scalar
      {point : Point}
      {value : Json}
      (as : point.IsWrittenAs value) :
      IsResult (.scalar point) "scalar" value
  | string
      {point : Point}
      {value : Json}
      (as : point.IsWrittenAs value) :
      IsResult (.string point) "string" value

/-- Data is written as a result and its type. -/
def IsWrittenAs
    (data : QueryData)
    (value : Json) : Prop :=
  ∃ resultType result, data.IsResult resultType result ∧
    HasFields [("resultType", some (text resultType)), ("result", some result)] [] value

end QueryData

/-- A response is written as a status with optional data and an optional failure, perhaps
among members that no one asks for. -/
def QueryResponse.IsWrittenAs
    (written : QueryData → Json → Prop)
    (response : QueryResponse)
    (value : Json) : Prop :=
  ∃ data errorType error others, IsOptional written response.data data ∧
    IsOptional (fun content value => value = text content) response.errorType errorType ∧
    IsOptional (fun content value => value = text content) response.error error ∧
    HasFields [("status", some (text response.status)), ("data", data),
      ("errorType", errorType), ("error", error)] others value

/-! ## Agreement up to the order of labels -/

/-- The same labels with the same values, in some order. -/
structure Labels.Same
    (left right : Labels) : Prop where
  /-- The labels are the same. -/
  rearranged : left.Perm right
  /-- Each name has the same value. -/
  value?_eq : ∀ name, left.value? name = right.value? name

/-- The same labels and the same point. -/
def Sample.Alike
    (left right : Sample) : Prop :=
  left.labels.Same right.labels ∧ left.point = right.point

/-- The same labels and the same points. -/
def Series.Alike
    (left right : Series) : Prop :=
  left.labels.Same right.labels ∧ left.points = right.points

/-- Data of one type with the same entries in the same order. -/
inductive QueryData.Alike : QueryData → QueryData → Prop
  | vector
      {left right : List Sample}
      (entries : List.Forall₂ Sample.Alike left right) :
      Alike (.vector left) (.vector right)
  | matrix
      {left right : List Series}
      (entries : List.Forall₂ Series.Alike left right) :
      Alike (.matrix left) (.matrix right)
  | scalar
      (point : Point) :
      Alike (.scalar point) (.scalar point)
  | string
      (point : Point) :
      Alike (.string point) (.string point)

namespace Labels

theorem value?_eq_some_iff
    {labels : Labels}
    (distinct : (labels.map Prod.fst).Nodup)
    {name value : String} :
    labels.value? name = some value ↔ (name, value) ∈ labels := by
  rw [value?, Option.map_eq_some_iff]
  constructor
  · rintro ⟨label, found, rfl⟩
    have named := List.find?_some found
    rw [beq_iff_eq] at named
    exact named ▸ List.mem_of_find?_eq_some found
  · intro listed
    obtain ⟨label, found⟩ : ∃ label, labels.find? (fun label => label.1 == name) = some label := by
      rw [← Option.isSome_iff_exists, List.find?_isSome]
      exact ⟨_, listed, beq_self_eq_true name⟩
    have named := List.find?_some found
    rw [beq_iff_eq] at named
    have only := List.inj_on_of_nodup_map distinct (List.mem_of_find?_eq_some found) listed named
    exact ⟨label, found, congrArg Prod.snd only⟩

/-- Labels with distinct names are the same in every order. -/
theorem Same.of_perm
    {left right : Labels}
    (distinct : (right.map Prod.fst).Nodup)
    (rearranged : left.Perm right) :
    left.Same right where
  rearranged := rearranged
  value?_eq := by
    have distinctLeft : (left.map Prod.fst).Nodup :=
      (rearranged.map Prod.fst).nodup_iff.mpr distinct
    intro name
    apply Option.ext
    intro value
    rw [value?_eq_some_iff distinctLeft, value?_eq_some_iff distinct, rearranged.mem_iff]

/-- Pairs with distinct names are labels as they are. -/
theorem ofPairs_of_nodup
    {pairs : List (String × String)}
    (distinct : (pairs.map Prod.fst).Nodup) :
    ofPairs pairs = pairs := by
  -- The pairs behind those that have been taken have names of their own.
  have onTop : ∀ labels : Labels, ((labels ++ pairs).map Prod.fst).Nodup →
      pairs.foldl (fun labels pair => set labels pair.1 pair.2) labels = labels ++ pairs := by
    clear distinct
    induction pairs with
    | nil => simp
    | cons pair rest inductionHypothesis =>
        intro labels distinct
        have fresh : (labels.any fun label => label.1 == pair.1) = false := by
          rw [List.any_eq_false]
          intro label listed
          rw [List.map_append, List.nodup_append] at distinct
          have differs := distinct.2.2 label.1 (List.mem_map_of_mem listed) pair.1
            List.mem_cons_self
          simpa using differs
        rw [List.foldl_cons, set, if_neg (by rw [fresh]; exact Bool.false_ne_true),
          inductionHypothesis _ (by rwa [List.append_assoc]), List.append_assoc]
        rfl
  exact onTop [] distinct

end Labels

namespace QueryData
namespace Alike

variable {left right : QueryData}

/-- Alike data is read as alike samples. -/
theorem samples
    (alike : left.Alike right) :
    List.Forall₂ Sample.Alike left.samples right.samples := by
  cases alike with
  | vector entries => exact entries
  | matrix entries =>
      refine List.rel_filterMap ?_ entries
      rintro leftSeries rightSeries ⟨labels, points⟩
      simp only [points]
      cases rightSeries.points.getLast? with
      | none => exact .none
      | some point => exact .some ⟨labels, rfl⟩
  | scalar point => exact .cons ⟨.of_perm .nil .nil, rfl⟩ .nil
  | string point => exact .cons ⟨.of_perm .nil .nil, rfl⟩ .nil

/-- Alike data is read as alike series. -/
theorem series
    (alike : left.Alike right) :
    List.Forall₂ Series.Alike left.series right.series := by
  cases alike with
  | vector entries =>
      refine List.rel_map ?_ entries
      rintro leftSample rightSample ⟨labels, point⟩
      exact ⟨labels, congrArg (fun point => [point]) point⟩
  | matrix entries => exact entries
  | scalar point => exact .cons ⟨.of_perm .nil .nil, rfl⟩ .nil
  | string point => exact .cons ⟨.of_perm .nil .nil, rfl⟩ .nil

end Alike
end QueryData

/-! ## What is written can be held -/

theorem Point.IsWrittenAs.holdable
    {depth : Nat}
    {point : Point}
    {value : Json}
    (written : point.IsWrittenAs value) :
    isHoldable (depth + 1) value = true := by
  obtain ⟨literal, time, rfl⟩ := written
  simp [Json.isHoldable, areHoldable, time, text]

theorem Labels.IsMetric.holdable
    {depth : Nat}
    {labels : Labels}
    {metric : Option Json}
    {value : Json}
    (written : labels.IsMetric metric)
    (present : value ∈ metric) :
    isHoldable (depth + 1) value = true := by
  cases written with
  | absent => cases present
  | present as =>
      cases present
      refine isHoldable_of_hasMembers ?_ as.2
      intro member listed
      obtain ⟨label, _, rfl⟩ := List.mem_map.mp listed
      rw [text, Json.isHoldable, Option.isSome_some]

/-- The fields of an entry can be held if its second field can. -/
theorem Labels.IsMetric.holdable_entry
    {depth : Nat}
    {labels : Labels}
    {metric : Option Json}
    {name : String}
    {content value : Json}
    (written : labels.IsMetric metric)
    (fit : isHoldable (depth + 1) content = true)
    (recorded : HasFields [("metric", metric), (name, some content)] [] value) :
    isHoldable (depth + 2) value = true := by
  refine isHoldable_of_hasFields ?_ recorded
  intro field listed value present
  rcases List.mem_pair.mp listed with rfl | rfl
  · exact written.holdable present
  · cases present
    exact fit

theorem Sample.IsWrittenAs.holdable
    {depth : Nat}
    {sample : Sample}
    {value : Json}
    (written : sample.IsWrittenAs value) :
    isHoldable (depth + 2) value = true := by
  obtain ⟨metric, point, labels, asPoint, recorded⟩ := written
  exact labels.holdable_entry asPoint.holdable recorded

theorem Series.IsWrittenAs.holdable
    {depth : Nat}
    {series : Series}
    {value : Json}
    (written : series.IsWrittenAs value) :
    isHoldable (depth + 3) value = true := by
  obtain ⟨metric, points, labels, asPoints, recorded⟩ := written
  have fit : isHoldable (depth + 2) points = true :=
    isHoldable_of_hasItems (fun _ _ => Point.IsWrittenAs.holdable) asPoints
  exact labels.holdable_entry fit recorded

/-- Four levels suffice for the result of any type. -/
theorem QueryData.IsResult.holdable
    {depth : Nat}
    {data : QueryData}
    {resultType : String}
    {result : Json}
    (written : data.IsResult resultType result) :
    isHoldable (depth + 4) result = true := by
  cases written with
  | vector entries => exact isHoldable_of_hasItems (fun _ _ => Sample.IsWrittenAs.holdable) entries
  | matrix entries => exact isHoldable_of_hasItems (fun _ _ => Series.IsWrittenAs.holdable) entries
  | scalar as => exact as.holdable
  | string as => exact as.holdable

/-! ## What is written is decoded -/

namespace QueryResponse

theorem decodePoint_of_isWrittenAs
    {point : Point}
    {value : Json}
    (written : point.IsWrittenAs value) :
    decodePoint value = some point := by
  obtain ⟨literal, time, rfl⟩ := written
  simp [decodePoint, decodePair, decodeBinary64, time, decodeText, text]

theorem decodeLabels_of_isWrittenAs
    {labels : Labels}
    {value : Json}
    (written : labels.IsWrittenAs value) :
    ∃ found, decodeLabels value = some found ∧ Labels.Same found labels := by
  obtain ⟨distinct, ordered, rearranged, rfl⟩ := written
  obtain ⟨found, rfl, foundRearranged⟩ :
      ∃ found : Labels, ordered = found.map (fun label => (label.1, text label.2)) ∧
        found.Perm labels :=
    (congrFun₂ (List.eq_map_comp_perm _) ordered labels).mpr rearranged
  have foundDistinct : (found.map Prod.fst).Nodup :=
    (foundRearranged.map Prod.fst).nodup_iff.mpr distinct
  have each : ∀ label ∈ found, (decodeLabel ∘ (fun member => (some member.1, member.2)) ∘
      fun label => (label.1, text label.2)) label = some (id label) := fun _ _ => rfl
  refine ⟨found, ?_, .of_perm distinct foundRearranged⟩
  rw [record, decodeLabels, List.map_map, List.mapM_map, mapM_eq_some_map each, List.map_id,
    Option.map_some, Labels.ofPairs_of_nodup foundDistinct]

/-- The labels of an entry are found again; without their field there are none. -/
theorem withDefault_of_isMetric
    {labels : Labels}
    {metric : Option Json}
    (written : labels.IsMetric metric) :
    ∃ found, withDefault [] decodeLabels metric = some found ∧ Labels.Same found labels := by
  cases written with
  | absent => exact ⟨[], rfl, .of_perm .nil .nil⟩
  | present as => exact decodeLabels_of_isWrittenAs as

theorem decodeSample_of_isWrittenAs
    (sample : Sample)
    (value : Json)
    (written : sample.IsWrittenAs value) :
    ∃ found, decodeSample value = some found ∧ found.Alike sample := by
  obtain ⟨metric, point, asMetric, asPoint, recorded⟩ := written
  obtain ⟨labels, labelsDecoded, same⟩ := withDefault_of_isMetric asMetric
  have distinct : ["metric", "value"].Nodup := by decide
  have values : slots ["metric", "value"] value = some [metric, some point] :=
    slots_of_hasFields recorded distinct
  refine ⟨⟨labels, sample.point⟩, ?_, same, rfl⟩
  rw [decodeSample, values]
  simp [labelsDecoded, required, decodePoint_of_isWrittenAs asPoint]

theorem decodeSeries_of_isWrittenAs
    (series : Series)
    (value : Json)
    (written : series.IsWrittenAs value) :
    ∃ found, decodeSeries value = some found ∧ found.Alike series := by
  obtain ⟨metric, points, asMetric, asPoints, recorded⟩ := written
  obtain ⟨labels, labelsDecoded, same⟩ := withDefault_of_isMetric asMetric
  have distinct : ["metric", "values"].Nodup := by decide
  have values : slots ["metric", "values"] value = some [metric, some points] :=
    slots_of_hasFields recorded distinct
  obtain ⟨found, pointsDecoded, pointsSame⟩ :
      ∃ found, decodeList decodePoint points = some found ∧
        List.Forall₂ Eq found series.points :=
    decodeList_of_hasItems
      (fun point _ asItem => ⟨point, decodePoint_of_isWrittenAs asItem, rfl⟩) asPoints
  rw [List.forall₂_eq_eq_eq] at pointsSame
  refine ⟨⟨labels, found⟩, ?_, same, pointsSame⟩
  rw [decodeSeries, values]
  simp [labelsDecoded, required, pointsDecoded]

theorem decodeResult_of_isResult
    {data : QueryData}
    {resultType : String}
    {result : Json}
    (written : data.IsResult resultType result) :
    ∃ found, decodeResult resultType result = some found ∧ found.Alike data := by
  cases written with
  | vector entries =>
      obtain ⟨samples, decoded, alike⟩ :=
        decodeList_of_hasItems decodeSample_of_isWrittenAs entries
      exact ⟨.vector samples, by rw [decodeResult, decoded, Option.map_some], .vector alike⟩
  | matrix entries =>
      obtain ⟨series, decoded, alike⟩ :=
        decodeList_of_hasItems decodeSeries_of_isWrittenAs entries
      exact ⟨.matrix series, by rw [decodeResult, decoded, Option.map_some], .matrix alike⟩
  | scalar as =>
      rename_i point
      refine ⟨.scalar point, ?_, .scalar point⟩
      rw [decodeResult, decodePoint_of_isWrittenAs as, Option.map_some]
  | string as =>
      rename_i point
      refine ⟨.string point, ?_, .string point⟩
      rw [decodeResult, decodePoint_of_isWrittenAs as, Option.map_some]

/-- Holding a result until its type is known changes nothing: what is written for a result
can be held, so both orders decode it in the same way. -/
theorem decodeData_of_isWrittenAs
    (data : QueryData)
    (value : Json)
    (written : data.IsWrittenAs value) :
    ∃ found, decodeData value = some found ∧ found.Alike data := by
  obtain ⟨resultType, result, asResult, recorded⟩ := written
  have distinct : ["resultType", "result"].Nodup := by decide
  have values : slots ["resultType", "result"] value =
      some [some (text resultType), some result] :=
    slots_of_hasFields recorded distinct
  have holdable : isHoldable (121 + 4) result = true := asResult.holdable
  change isHoldable heldDepth result = true at holdable
  obtain ⟨found, decoded, alike⟩ := decodeResult_of_isResult asResult
  refine ⟨found, ?_, alike⟩
  unfold decodeData
  rw [values]
  simp only [decodeName, text, holdable, Option.bind_eq_bind, Option.bind_some, Bool.not_true,
    Bool.and_false, Bool.false_eq_true, ↓reduceIte, decoded]

/-- A response is decoded up to the relation of its data. -/
theorem decode_of_isWrittenAs
    {written : QueryData → Json → Prop}
    {same : QueryData → QueryData → Prop}
    (decodes : ∀ data value, written data value → ∃ found, decodeData value = some found ∧
      same found data)
    {response : QueryResponse}
    {value : Json}
    (asValue : response.IsWrittenAs written value) :
    ∃ found, decode value = some { response with data := found } ∧
      Option.Rel same found response.data := by
  obtain ⟨data, errorType, error, others, asData, asErrorType, asError, recorded⟩ := asValue
  have distinct : ["status", "data", "errorType", "error"].Nodup := by decide
  have values : slots ["status", "data", "errorType", "error"] value =
      some [some (text response.status), data, errorType, error] :=
    slots_of_hasFields recorded distinct
  obtain ⟨found, dataDecoded, alike⟩ := withDefault_of_isOptional decodes rfl asData
  refine ⟨found, ?_, alike⟩
  rw [decode, values]
  simp [required, decodeText, text, dataDecoded, withDefault_of_isOptional_text asErrorType,
    withDefault_of_isOptional_text asError]

/-- Whatever the order of the members in a body, a successful response has the entries of
its data, in their order, with their labels, times and value texts; so have its samples and
its series.  A response with another status is the failure that it reports, whether or not
it has data, and a successful one without data is a failure as well. -/
theorem decodes_in_any_order :
    (∀ (body : String) (document : Json) (response : QueryResponse) (data : QueryData),
      Json.read? body = some document →
      response.IsWrittenAs QueryData.IsWrittenAs document → response.status = "success" →
      response.data = some data →
      ∃ decoded found, read? body = some decoded ∧ decoded.payload = .ok found ∧
        found.Alike data ∧
        List.Forall₂ Sample.Alike found.samples data.samples ∧
        List.Forall₂ Series.Alike found.series data.series) ∧
    (∀ (body : String) (document : Json) (response : QueryResponse),
      Json.read? body = some document →
      response.IsWrittenAs (fun data value => decodeData value = some data) document →
      response.status ≠ "success" →
      ∃ decoded, read? body = some decoded ∧
        decoded.payload = .error (.transport ("Query failed (" ++
          response.errorType.getD "unknown" ++ "): " ++ response.error.getD ""))) ∧
    ∀ (body : String) (document : Json) (response : QueryResponse),
      Json.read? body = some document →
      response.IsWrittenAs (fun data value => decodeData value = some data) document →
      response.status = "success" → response.data = none →
      ∃ decoded, read? body = some decoded ∧
        decoded.payload = .error (.transport "Query response has no data") := by
  have decodable : ∀ data value, decodeData value = some data →
      ∃ found, decodeData value = some found ∧ found = data :=
    fun data _ decoded => ⟨data, decoded, rfl⟩
  refine ⟨?_, ?_, ?_⟩
  · intro body document response data isBody written succeeded full
    obtain ⟨found, decoded, same⟩ := decode_of_isWrittenAs decodeData_of_isWrittenAs written
    rw [full] at same
    obtain ⟨alike⟩ := same
    refine ⟨_, _, by rw [read?, isBody, Option.bind_some, decoded], ?_, alike, alike.samples,
      alike.series⟩
    simp [payload, succeeded]
  · intro body document response isBody written failed
    obtain ⟨found, decoded, _⟩ := decode_of_isWrittenAs decodable written
    refine ⟨_, by rw [read?, isBody, Option.bind_some, decoded], ?_⟩
    simp [payload, failed]
  · intro body document response isBody written succeeded empty
    obtain ⟨found, decoded, same⟩ := decode_of_isWrittenAs decodable written
    rw [empty] at same
    cases same
    refine ⟨_, by rw [read?, isBody, Option.bind_some, decoded], ?_⟩
    simp [payload, succeeded]

/-- A vector in front of its type and of the status, whose first entry has a point in front
of its labels and whose second has no labels; a failure with a scalar, without a type of the
error and with a member that no one asks for; a success whose data is null. -/
theorem sample_decodes_in_any_order :
    let half : JsonNumber := ⟨false, ['1'], ['5'], none⟩
    let whole : JsonNumber := ⟨false, ['1', '7'], [], none⟩
    let samples : List Sample :=
      [⟨[("a", "1"), ("b", "2")], ⟨.finite false 6755399441055744 (-52), "+Inf"⟩⟩,
        ⟨[], ⟨.ofNat 17, "3"⟩⟩]
    let full : QueryResponse := ⟨"success", some (.vector samples), none, none⟩
    let failed : QueryResponse :=
      ⟨"error", some (.scalar ⟨.ofNat 17, "3"⟩), none, some "timeout"⟩
    let empty : QueryResponse := ⟨"success", none, none, none⟩
    let fullDocument :=
      record [("data", record [("result", .array
        [record [("value", .array [.number half, text "+Inf"]),
          ("metric", record [("b", text "2"), ("a", text "1")])],
          record [("value", .array [.number whole, text "3"])]]),
        ("resultType", text "vector")]), ("status", text "success")]
    let failedDocument :=
      record [("warnings", .array []), ("error", text "timeout"), ("data",
        record [("result", .array [.number whole, text "3"]), ("resultType", text "scalar")]),
        ("status", text "error")]
    let emptyDocument := record [("data", .null), ("status", text "success")]
    let fullBody := "\x7b\"data\":\x7b\"result\":[\x7b\"value\":[1.5,\"+Inf\"],\"metric\":" ++
      "\x7b\"b\":\"2\",\"a\":\"1\"\x7d\x7d,\x7b\"value\":[17,\"3\"]\x7d]," ++
      "\"resultType\":\"vector\"\x7d,\"status\":\"success\"\x7d"
    let failedBody := "\x7b\"warnings\":[],\"error\":\"timeout\",\"data\":" ++
      "\x7b\"result\":[17,\"3\"],\"resultType\":\"scalar\"\x7d,\"status\":\"error\"\x7d"
    let emptyBody := "\x7b\"data\":null,\"status\":\"success\"\x7d"
    (Json.read? fullBody = some fullDocument ∧
      full.IsWrittenAs QueryData.IsWrittenAs fullDocument ∧
      ∃ decoded found, read? fullBody = some decoded ∧ decoded.payload = .ok found ∧
        found.Alike (.vector samples) ∧
        List.Forall₂ Sample.Alike found.samples samples ∧
        List.Forall₂ Series.Alike found.series (QueryData.vector samples).series) ∧
    (Json.read? failedBody = some failedDocument ∧
      failed.IsWrittenAs (fun data value => decodeData value = some data) failedDocument ∧
      ∃ decoded, read? failedBody = some decoded ∧
        decoded.payload = .error (.transport "Query failed (unknown): timeout")) ∧
    Json.read? emptyBody = some emptyDocument ∧
      empty.IsWrittenAs (fun data value => decodeData value = some data) emptyDocument ∧
      ∃ decoded, read? emptyBody = some decoded ∧
        decoded.payload = .error (.transport "Query response has no data") := by
  intro half whole samples full failed empty fullDocument failedDocument emptyDocument fullBody
    failedBody emptyBody
  have halfLiteral : half.IsLiteral :=
    ⟨List.all_eq_true.mp (by decide), by decide, by decide, List.all_eq_true.mp (by decide)⟩
  have wholeLiteral : whole.IsLiteral :=
    ⟨List.all_eq_true.mp (by decide), by decide, by decide, List.all_eq_true.mp (by decide)⟩
  have reads {document : Json} {body : String} (legible : document.IsLegible)
      (written : write document = body) : Json.read? body = some document := by
    rw [← written, read?_write legible]
  have fullRead : Json.read? fullBody = some fullDocument := by
    refine reads ?_ (by decide +kernel)
    simp [fullDocument, record, text, IsLegible, AreLegible, AreMembersLegible, halfLiteral,
      wholeLiteral]
  have failedRead : Json.read? failedBody = some failedDocument := by
    refine reads ?_ (by decide +kernel)
    simp [failedDocument, record, text, IsLegible, AreLegible, AreMembersLegible, wholeLiteral]
  have emptyRead : Json.read? emptyBody = some emptyDocument := by
    refine reads ?_ (by decide +kernel)
    simp [emptyDocument, record, text, IsLegible, AreMembersLegible]
  have first : samples[0].IsWrittenAs _ :=
    ⟨_, _, .present ⟨by decide, _, List.Perm.swap _ _ _, rfl⟩, ⟨half, by decide +kernel, rfl⟩,
      .of_members ⟨_, List.Perm.swap _ _ _, rfl⟩⟩
  have second : samples[1].IsWrittenAs _ :=
    ⟨_, _, .absent, ⟨whole, by decide +kernel, rfl⟩, .of_members ⟨_, .refl _, rfl⟩⟩
  have data : (QueryData.vector samples).IsWrittenAs _ :=
    ⟨"vector", _, .vector ⟨_, .cons first (.cons second .nil), rfl⟩,
      .of_members ⟨_, List.Perm.swap _ _ _, rfl⟩⟩
  have fullWritten : full.IsWrittenAs QueryData.IsWrittenAs fullDocument :=
    ⟨some _, none, none, [], .present data, .absent, .absent,
      .of_members ⟨_, List.Perm.swap _ _ _, rfl⟩⟩
  have failedWritten :
      failed.IsWrittenAs (fun data value => decodeData value = some data) failedDocument :=
    ⟨some _, none, some _, [("warnings", .array [])], .present (by decide +kernel), .absent,
      .present rfl, .named ⟨_, List.reverse_perm _, rfl⟩ (by simp)⟩
  have emptyWritten :
      empty.IsWrittenAs (fun data value => decodeData value = some data) emptyDocument :=
    ⟨_, none, none, [], .null, .absent, .absent, .of_members ⟨_, List.Perm.swap _ _ _, rfl⟩⟩
  obtain ⟨succeeds, fails, lacks⟩ := decodes_in_any_order
  exact ⟨⟨fullRead, fullWritten, succeeds _ _ _ _ fullRead fullWritten rfl rfl⟩,
    ⟨failedRead, failedWritten, fails _ _ _ failedRead failedWritten (by decide)⟩,
    emptyRead, emptyWritten, lacks _ _ _ emptyRead emptyWritten rfl rfl⟩

end QueryResponse
end Metrics
end FleetDashboard
