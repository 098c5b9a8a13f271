import FleetDashboard.Json.Record
import Mathlib.Data.List.Forall2
import Mathlib.Data.List.Nodup

/-!
# Records in any order

A value is related to the fields, the items or the optional content that it is a record of,
whatever order its members stand in.  Decoding finds the fields again, and a record can be
held and judged later if its parts can.
-/

namespace FleetDashboard
namespace Json

/-! ## Values and what they are written for -/

/-- The value is an object of these members, in some order. -/
def HasMembers
    (members : List (String × Json))
    (value : Json) : Prop :=
  ∃ ordered, ordered.Perm members ∧ value = record ordered

/-- The members for the fields that are present. -/
def presentMembers
    (fields : List (String × Option Json)) : List (String × Json) :=
  fields.filterMap fun field => field.2.map fun value => (field.1, value)

/-- The value is a record of fields, each present or absent, and of other members. -/
inductive HasFields
    (fields : List (String × Option Json)) : List (String × Json) → Json → Prop
  /-- An object has a member for each field that is present, in any order; the other members
  are named otherwise. -/
  | named
      {others : List (String × Json)}
      {value : Json}
      (members : HasMembers (presentMembers fields ++ others) value)
      (unknown : ∀ other ∈ others, other.1 ∉ fields.map Prod.fst) :
      HasFields fields others value
  /-- An array has the fields in their own order; absent ones at the end are left out. -/
  | listed
      {items : List Json}
      (leading : fields.map Prod.snd =
        items.map some ++ List.replicate (fields.length - items.length) none) :
      HasFields fields [] (.array items)

/-- The value is an array with an item for each of the entries. -/
def HasItems
    (written : α → Json → Prop)
    (entries : List α)
    (value : Json) : Prop :=
  ∃ items, List.Forall₂ written entries items ∧ value = .array items

/-- A field is written for optional content. -/
inductive IsOptional
    (written : α → Json → Prop) : Option α → Option Json → Prop
  /-- No content needs no field. -/
  | absent :
      IsOptional written none none
  /-- No content may be written as null. -/
  | null :
      IsOptional written none (some .null)
  /-- Content is written as it is. -/
  | present
      {content : α}
      {value : Json}
      (as : written content value) :
      IsOptional written (some content) (some value)

/-! ## Fields -/

theorem mapM_eq_some_map
    {make : α → Option β}
    {made : α → β}
    {items : List α}
    (each : ∀ item ∈ items, make item = some (made item)) :
    items.mapM make = some (items.map made) := by
  induction items with
  | nil => rfl
  | cons item items inductionHypothesis =>
      have others := inductionHypothesis fun other listed =>
        each other (List.mem_cons_of_mem item listed)
      simp [List.mapM_cons, each item List.mem_cons_self, others]

theorem mem_presentMembers_iff
    {fields : List (String × Option Json)}
    {member : String × Json} :
    member ∈ presentMembers fields ↔ (member.1, some member.2) ∈ fields := by
  rw [presentMembers, List.mem_filterMap]
  constructor
  · rintro ⟨⟨name, _ | value⟩, listed, same⟩
    · cases same
    · cases same
      exact listed
  · exact fun listed => ⟨_, listed, rfl⟩

theorem nodup_presentMembers
    {fields : List (String × Option Json)}
    (distinct : (fields.map Prod.fst).Nodup) :
    ((presentMembers fields).map Prod.fst).Nodup := by
  refine distinct.sublist ?_
  induction fields with
  | nil => exact .slnil
  | cons field rest inductionHypothesis =>
      have others := inductionHypothesis (List.nodup_cons.mp distinct).2
      obtain ⟨name, _ | value⟩ := field
      · exact others.cons name
      · exact others.cons_cons name

theorem valuesOf_eq_nil
    {name : String}
    {members : List (String × Json)}
    (without : ∀ member ∈ members, member.1 ≠ name) :
    valuesOf name (members.map fun member => (some member.1, member.2)) = [] := by
  rw [valuesOf, List.filterMap_map, List.filterMap_eq_nil_iff]
  intro member listed
  simp [without member listed]

theorem valuesOf_record
    {members : List (String × Json)}
    (distinct : (members.map Prod.fst).Nodup)
    {member : String × Json}
    (listed : member ∈ members) :
    valuesOf member.1 (members.map fun member => (some member.1, member.2)) = [member.2] := by
  induction members with
  | nil => cases listed
  | cons first rest inductionHypothesis =>
      obtain ⟨notAgain, distinctRest⟩ := List.nodup_cons.mp distinct
      rcases List.mem_cons.mp listed with rfl | later
      · have others :
            valuesOf member.1 (rest.map fun member => (some member.1, member.2)) = [] := by
          apply valuesOf_eq_nil
          intro other otherListed same
          exact notAgain (same ▸ List.mem_map_of_mem otherListed)
        rw [valuesOf] at others ⊢
        simp [others]
      · have differs : first.1 ≠ member.1 := fun same =>
          notAgain (same ▸ List.mem_map_of_mem later)
        have others := inductionHypothesis distinctRest later
        rw [valuesOf] at others ⊢
        simp [others, differs]

/-- Of the members for fields with distinct names, at most one has the name of a field. -/
theorem valuesOf_presentMembers
    {fields : List (String × Option Json)}
    (distinct : (fields.map Prod.fst).Nodup)
    {name : String}
    {value : Option Json}
    (listed : (name, value) ∈ fields) :
    valuesOf name ((presentMembers fields).map fun member => (some member.1, member.2)) =
      value.toList := by
  cases value with
  | none =>
      apply valuesOf_eq_nil
      rintro member present rfl
      have present := mem_presentMembers_iff.mp present
      cases List.inj_on_of_nodup_map distinct listed present rfl
  | some value =>
      have present : (name, value) ∈ presentMembers fields := mem_presentMembers_iff.mpr listed
      exact valuesOf_record (nodup_presentMembers distinct) present

theorem slot_eq_some
    {members : List (Option String × Json)}
    {name : String}
    {value : Option Json}
    (values : (valuesOf name members).Perm value.toList) :
    slot members name = some value := by
  cases value with
  | none => rw [slot, List.perm_nil.mp values]
  | some value => rw [slot, List.perm_singleton.mp values]

/-- A record may do without other members. -/
theorem HasFields.of_members
    {fields : List (String × Option Json)}
    {value : Json}
    (members : HasMembers (presentMembers fields) value) :
    HasFields fields [] value :=
  .named (by rwa [List.append_nil]) (by simp)

/-- A record gives the value of each field, in the order of the fields. -/
theorem slots_of_hasFields
    {fields : List (String × Option Json)}
    {others : List (String × Json)}
    {value : Json}
    (recorded : HasFields fields others value)
    (distinct : (fields.map Prod.fst).Nodup) :
    slots (fields.map Prod.fst) value = some (fields.map Prod.snd) := by
  cases recorded with
  | listed leading =>
      rename_i items
      have lengths := congrArg List.length leading
      simp only [List.length_map, List.length_append, List.length_replicate] at lengths
      rw [slots, if_pos (by rw [List.length_map]; omega), List.length_map, leading]
  | named members unknown =>
      obtain ⟨ordered, rearranged, rfl⟩ := members
      have each : ∀ field ∈ fields,
          slot (ordered.map fun member => (some member.1, member.2)) field.1 =
            some field.2 := by
        rintro ⟨name, value⟩ listed
        have elsewhere : ∀ other ∈ others, other.1 ≠ name := by
          rintro other present rfl
          exact unknown other present (List.mem_map_of_mem listed)
        have fromFields := valuesOf_presentMembers distinct listed
        have fromOthers := valuesOf_eq_nil elsewhere
        have fromAll : valuesOf name ((presentMembers fields ++ others).map
            fun member => (some member.1, member.2)) = value.toList := by
          rw [valuesOf] at fromFields fromOthers ⊢
          rw [List.map_append, List.filterMap_append, fromFields, fromOthers, List.append_nil]
        apply slot_eq_some
        rw [← fromAll]
        exact (rearranged.map _).filterMap _
      have keys : ((ordered.map fun member => (some member.1, member.2)).all
          fun member => member.1.isSome) = true := by
        simp
      rw [record, slots, if_pos keys, List.mapM_map]
      exact mapM_eq_some_map each

/-- A record whose members have distinct names has one value for each of them. -/
theorem slots_record
    {members : List (String × Json)}
    (distinct : (members.map Prod.fst).Nodup) :
    slots (members.map Prod.fst) (.record members) =
      some (members.map fun member => some member.2) := by
  have present : presentMembers (members.map fun member => (member.1, some member.2)) =
      members := by
    simp [presentMembers, List.filterMap_map]
  have recorded : HasFields (members.map fun member => (member.1, some member.2)) []
      (.record members) :=
    .of_members ⟨members, by rw [present], rfl⟩
  have distinctFields :
      ((members.map fun member => (member.1, some member.2)).map Prod.fst).Nodup := by
    rwa [List.map_map]
  have values := slots_of_hasFields recorded distinctFields
  rwa [List.map_map, List.map_map] at values

/-! ## Items and optional content -/

section Decoding

variable
  {decode : Decoder α}
  {written : α → Json → Prop}
  {same : α → α → Prop}

/-- Entries that are decoded up to a relation one by one are so as a list. -/
theorem decodeList_of_hasItems
    (decodes : ∀ entry item, written entry item → ∃ found, decode item = some found ∧
      same found entry)
    {entries : List α}
    {value : Json}
    (listed : HasItems written entries value) :
    ∃ found, decodeList decode value = some found ∧ List.Forall₂ same found entries := by
  obtain ⟨items, each, rfl⟩ := listed
  rw [decodeList]
  induction each with
  | nil => exact ⟨[], rfl, .nil⟩
  | cons asItem _ inductionHypothesis =>
      obtain ⟨first, firstDecoded, firstSame⟩ := decodes _ _ asItem
      obtain ⟨others, othersDecoded, othersSame⟩ := inductionHypothesis
      refine ⟨first :: others, ?_, .cons firstSame othersSame⟩
      simp [List.mapM_cons, firstDecoded, othersDecoded]

/-- Optional content is decoded up to the relation of its content.  Null stands for no
content only, since it does not decode as any. -/
theorem withDefault_of_isOptional
    (decodes : ∀ content value, written content value → ∃ found, decode value = some found ∧
      same found content)
    (refused : decode .null = none)
    {content : Option α}
    {field : Option Json}
    (optional : IsOptional written content field) :
    ∃ found, withDefault none (decodeNullable decode) field = some found ∧
      Option.Rel same found content := by
  cases optional with
  | absent => exact ⟨none, rfl, .none⟩
  | null => exact ⟨none, rfl, .none⟩
  | present as =>
      rename_i value
      obtain ⟨found, decoded, alike⟩ := decodes _ _ as
      have full : value ≠ .null := by
        rintro rfl
        rw [refused] at decoded
        cases decoded
      refine ⟨some found, ?_, .some alike⟩
      rw [withDefault, decodeNullable, decoded, Option.map_some]
      exact full

/-- An optional text is found again. -/
theorem withDefault_of_isOptional_text
    {content : Option String}
    {field : Option Json}
    (optional : IsOptional (fun content value => value = text content) content field) :
    withDefault none (decodeNullable decodeText) field = some content := by
  cases optional with
  | absent => rfl
  | null => rfl
  | present as =>
      cases as
      rfl

end Decoding

/-! ## Values that can be held -/

theorem areHoldable_iff
    {depth : Nat}
    {items : List Json} :
    areHoldable depth items = true ↔ ∀ item ∈ items, isHoldable depth item = true := by
  induction items with
  | nil => simp [areHoldable]
  | cons item items inductionHypothesis => simp [areHoldable, inductionHypothesis]

theorem isHoldable_record_iff
    {depth : Nat}
    {members : List (String × Json)} :
    isHoldable (depth + 1) (record members) = true ↔
      ∀ member ∈ members, isHoldable depth member.2 = true := by
  rw [record, isHoldable]
  induction members with
  | nil => simp [areMembersHoldable]
  | cons member members inductionHypothesis =>
      rw [List.map_cons, areMembersHoldable, Bool.and_eq_true, inductionHypothesis]
      simp

theorem isHoldable_of_hasMembers
    {depth : Nat}
    {members : List (String × Json)}
    {value : Json}
    (holdable : ∀ member ∈ members, isHoldable depth member.2 = true)
    (recorded : HasMembers members value) :
    isHoldable (depth + 1) value = true := by
  obtain ⟨ordered, rearranged, rfl⟩ := recorded
  exact isHoldable_record_iff.mpr fun member listed =>
    holdable member (rearranged.mem_iff.mp listed)

/-- A record without other members can be held if the value of each field can. -/
theorem isHoldable_of_hasFields
    {depth : Nat}
    {fields : List (String × Option Json)}
    {value : Json}
    (holdable : ∀ field ∈ fields, ∀ value ∈ field.2, isHoldable depth value = true)
    (recorded : HasFields fields [] value) :
    isHoldable (depth + 1) value = true := by
  cases recorded with
  | named members unknown =>
      rw [List.append_nil] at members
      refine isHoldable_of_hasMembers ?_ members
      intro member listed
      exact holdable _ (mem_presentMembers_iff.mp listed) member.2 rfl
  | listed leading =>
      rw [isHoldable, areHoldable_iff]
      intro item listed
      have present : some item ∈ fields.map Prod.snd := by
        rw [leading]
        exact List.mem_append_left _ (List.mem_map_of_mem listed)
      obtain ⟨field, fieldListed, same⟩ := List.mem_map.mp present
      exact holdable field fieldListed item same

theorem isHoldable_of_hasItems
    {depth : Nat}
    {written : α → Json → Prop}
    (holdable : ∀ entry item, written entry item → isHoldable depth item = true)
    {entries : List α}
    {value : Json}
    (listed : HasItems written entries value) :
    isHoldable (depth + 1) value = true := by
  obtain ⟨items, each, rfl⟩ := listed
  rw [isHoldable, areHoldable_iff]
  intro item present
  obtain ⟨index, bound, rfl⟩ := List.getElem_of_mem present
  exact holdable _ _ (each.get (each.length_eq ▸ bound) bound)

end Json
end FleetDashboard
