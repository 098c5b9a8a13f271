import FleetDashboard.Kubernetes.Service
import FleetDashboard.Proofs.Json.Fields
import FleetDashboard.Proofs.Text.Digits

/-!
# Services and their documents

A service as far as a metrics endpoint depends on it, and the documents that are written
for it: a document may have any other members, and of a member that is repeated the last
one counts.  Every document that fits the schema is written for a service, and every
service has a document that fits.
-/

namespace FleetDashboard
namespace Json

/-- The last member of a name holds optional content. -/
def HasMember
    (written : α → Json → Prop)
    (name : String)
    (content : Option α)
    (value : Json) : Prop :=
  ∃ members, value = .object members ∧
    IsOptional written content (valuesOf name members).getLast?

/-- The value is a whole number of thirty-two bits. -/
def IsWord
    (word : Int32)
    (value : Json) : Prop :=
  ∃ literal, literal.integer? = some word.toInt ∧ value = .number literal

/-- The value is a text. -/
def IsText
    (content : String)
    (value : Json) : Prop :=
  value = text content

end Json

namespace Kubernetes

open Json

/-! ## Services -/

/-- Where the traffic of a port goes: to a number or to a name. -/
inductive PortTarget where
  | number
      (word : Int32)
  | named
      (name : String)
  deriving DecidableEq

/-- A port of a service. -/
structure ServicePort where
  number : Int32
  target : Option PortTarget
  deriving DecidableEq

/-- What a service is to be. -/
structure ServiceSpec where
  kind : Option String
  ports : Option (List ServicePort)
  deriving DecidableEq

/-- A way into a load balancer. -/
structure Ingress where
  hostname : Option String
  deriving DecidableEq

/-- A load balancer. -/
structure LoadBalancer where
  ingress : Option (List Ingress)
  deriving DecidableEq

/-- What a service has become. -/
structure ServiceStatus where
  loadBalancer : Option LoadBalancer
  deriving DecidableEq

/-- A service, as far as a metrics endpoint depends on it. -/
structure Service where
  spec : Option ServiceSpec
  status : Option ServiceStatus
  deriving DecidableEq

/-! ## Documents of services -/

/-- A target is written as a number or as a text. -/
inductive PortTarget.IsWrittenAs : PortTarget → Json → Prop
  | number
      {word : Int32}
      {value : Json}
      (as : IsWord word value) :
      IsWrittenAs (.number word) value
  | named
      {name : String}
      {value : Json}
      (as : IsText name value) :
      IsWrittenAs (.named name) value

/-- A port is written with its number, which is zero when it is left out, and its target. -/
def ServicePort.IsWrittenAs
    (port : ServicePort)
    (value : Json) : Prop :=
  (∃ number, HasMember IsWord "port" number value ∧ number.getD 0 = port.number) ∧
    HasMember PortTarget.IsWrittenAs "targetPort" port.target value

/-- A specification is written with a type and ports. -/
def ServiceSpec.IsWrittenAs
    (spec : ServiceSpec)
    (value : Json) : Prop :=
  HasMember IsText "type" spec.kind value ∧
    HasMember (HasItems ServicePort.IsWrittenAs) "ports" spec.ports value

/-- A way into a load balancer is written with its host name. -/
def Ingress.IsWrittenAs
    (ingress : Ingress)
    (value : Json) : Prop :=
  HasMember IsText "hostname" ingress.hostname value

/-- A load balancer is written with the ways into it. -/
def LoadBalancer.IsWrittenAs
    (balancer : LoadBalancer)
    (value : Json) : Prop :=
  HasMember (HasItems Ingress.IsWrittenAs) "ingress" balancer.ingress value

/-- A status is written with a load balancer. -/
def ServiceStatus.IsWrittenAs
    (status : ServiceStatus)
    (value : Json) : Prop :=
  HasMember LoadBalancer.IsWrittenAs "loadBalancer" status.loadBalancer value

/-- A service is written with its specification and its status. -/
def Service.IsWrittenAs
    (service : Service)
    (document : Json) : Prop :=
  HasMember ServiceSpec.IsWrittenAs "spec" service.spec document ∧
    HasMember ServiceStatus.IsWrittenAs "status" service.status document

/-! ## Every document that fits is written for a service -/

namespace Schema

theorem fits_of_memberFits
    {fields : List (String × Schema)}
    {name : String}
    {shape : Schema}
    {value : Json}
    (known : fields.lookup name = some shape)
    (fit : memberFits fields name value = true) :
    value = .null ∨ shape.fits value = true := by
  induction fields with
  | nil => cases known
  | cons field fields inductionHypothesis =>
      obtain ⟨key, first⟩ := field
      unfold memberFits at fit
      split at fit
      · rename_i same
        subst same
        rw [List.lookup_cons_self] at known
        cases known
        split at fit
        · exact .inl rfl
        · exact .inr fit
      · rename_i differs
        have differs : (name == key) = false := by simpa using Ne.symm differs
        rw [List.lookup_cons, differs] at known
        exact inductionHypothesis known fit

/-- A record that fits has optional content for each of its fields. -/
theorem exists_hasMember
    {written : α → Json → Prop}
    {fields : List (String × Schema)}
    {shape : Schema}
    {value : Json}
    (fit : (record fields).fits value = true)
    (name : String)
    (known : fields.lookup name = some shape)
    (content : ∀ value, shape.fits value = true → ∃ content, written content value) :
    ∃ content, HasMember written name content value := by
  unfold fits at fit
  split at fit
  · rename_i members
    cases last : (valuesOf name members).getLast? with
    | none => exact ⟨none, members, rfl, last ▸ .absent⟩
    | some value =>
        obtain ⟨⟨key, _⟩, listed, found⟩ :=
          List.mem_filterMap.mp (List.mem_of_getLast? last)
        split at found
        · rename_i named
          cases named
          cases found
          have memberFit := List.all_eq_true.mp fit _ listed
          rcases fits_of_memberFits known memberFit with rfl | valueFit
          · exact ⟨none, members, rfl, last ▸ .null⟩
          · obtain ⟨entry, as⟩ := content _ valueFit
            exact ⟨some entry, members, rfl, last ▸ .present as⟩
        · cases found
  · cases fit

theorem exists_hasItems
    {written : α → Json → Prop}
    {item : Schema}
    {value : Json}
    (fit : (list item).fits value = true)
    (content : ∀ value, item.fits value = true → ∃ entry, written entry value) :
    ∃ entries, HasItems written entries value := by
  unfold fits at fit
  split at fit
  · rename_i items
    rw [List.all_eq_true] at fit
    suffices found : ∃ entries, List.Forall₂ written entries items by
      obtain ⟨entries, each⟩ := found
      exact ⟨entries, items, each, rfl⟩
    induction items with
    | nil => exact ⟨[], .nil⟩
    | cons first rest inductionHypothesis =>
        obtain ⟨entry, as⟩ := content first (fit first List.mem_cons_self)
        obtain ⟨entries, each⟩ := inductionHypothesis fun other listed =>
          fit other (List.mem_cons_of_mem first listed)
        exact ⟨entry :: entries, .cons as each⟩
  · cases fit

theorem exists_isText
    (value : Json)
    (fit : text.fits value = true) :
    ∃ content, IsText content value := by
  rw [fits, Option.isSome_iff_exists] at fit
  obtain ⟨content, decoded⟩ := fit
  unfold decodeText at decoded
  split at decoded
  · cases decoded
    exact ⟨content, rfl⟩
  · cases decoded

theorem exists_isWord
    (value : Json)
    (fit : (int 32).fits value = true) :
    ∃ word, IsWord word value := by
  rw [fits, Option.isSome_iff_exists] at fit
  obtain ⟨number, decoded⟩ := fit
  unfold decodeInt at decoded
  split at decoded
  · rename_i literal
    obtain ⟨whole, bounds⟩ := Option.filter_eq_some_iff.mp decoded
    simp only [Bool.and_eq_true, decide_eq_true_eq] at bounds
    refine ⟨.ofInt number, literal, ?_, rfl⟩
    rw [whole, Int32.toInt_ofInt_of_le bounds.1 bounds.2]
  · cases decoded

theorem exists_target
    (value : Json)
    (fit : textOrInt.fits value = true) :
    ∃ target : PortTarget, target.IsWrittenAs value := by
  rw [fits, Bool.or_eq_true] at fit
  rcases fit with asText | asWord
  · obtain ⟨name, as⟩ := exists_isText value asText
    exact ⟨_, .named as⟩
  · obtain ⟨word, as⟩ := exists_isWord value asWord
    exact ⟨_, .number as⟩

theorem exists_port
    (value : Json)
    (fit : servicePort.fits value = true) :
    ∃ port : ServicePort, port.IsWrittenAs value := by
  obtain ⟨number, hasNumber⟩ := exists_hasMember fit "port" rfl exists_isWord
  obtain ⟨target, hasTarget⟩ := exists_hasMember fit "targetPort" rfl exists_target
  exact ⟨⟨number.getD 0, target⟩, ⟨number, hasNumber, rfl⟩, hasTarget⟩

theorem exists_spec
    (value : Json)
    (fit : serviceSpec.fits value = true) :
    ∃ spec : ServiceSpec, spec.IsWrittenAs value := by
  obtain ⟨kind, hasKind⟩ := exists_hasMember fit "type" rfl exists_isText
  obtain ⟨ports, hasPorts⟩ := exists_hasMember fit "ports" rfl
    fun _ fit => exists_hasItems fit exists_port
  exact ⟨⟨kind, ports⟩, hasKind, hasPorts⟩

theorem exists_ingress
    (value : Json)
    (fit : ingress.fits value = true) :
    ∃ ingress : Ingress, ingress.IsWrittenAs value := by
  obtain ⟨hostname, has⟩ := exists_hasMember fit "hostname" rfl exists_isText
  exact ⟨⟨hostname⟩, has⟩

theorem exists_loadBalancer
    (value : Json)
    (fit : (record [("ingress", list ingress)]).fits value = true) :
    ∃ balancer : LoadBalancer, balancer.IsWrittenAs value := by
  obtain ⟨ways, has⟩ := exists_hasMember fit "ingress" rfl
    fun _ fit => exists_hasItems fit exists_ingress
  exact ⟨⟨ways⟩, has⟩

theorem exists_status
    (value : Json)
    (fit : serviceStatus.fits value = true) :
    ∃ status : ServiceStatus, status.IsWrittenAs value := by
  obtain ⟨balancer, has⟩ := exists_hasMember fit "loadBalancer" rfl exists_loadBalancer
  exact ⟨⟨balancer⟩, has⟩

end Schema

/-- A document that fits the schema is written for a service. -/
theorem Service.exists_of_fits
    {document : Json}
    (fit : Schema.service.fits document = true) :
    ∃ service : Service, service.IsWrittenAs document := by
  obtain ⟨spec, hasSpec⟩ := Schema.exists_hasMember fit "spec" rfl Schema.exists_spec
  obtain ⟨status, hasStatus⟩ :=
    Schema.exists_hasMember fit "status" rfl Schema.exists_status
  exact ⟨⟨spec, status⟩, hasSpec, hasStatus⟩

end Kubernetes

/-! ## Every service has a document that fits -/

namespace Json

/-- Optional content, or null. -/
def orNull
    (write : α → Json) : Option α → Json
  | some content => write content
  | none => null

theorem integer?_of_word
    (word : Int32) :
    (JsonNumber.mk (word.toInt < 0) (Text.natDigits word.toInt.natAbs) [] none).integer? =
      some word.toInt := by
  have lower := word.le_toInt
  have upper := word.toInt_lt
  rw [JsonNumber.integer?]
  simp only [Text.digitsValue_natDigits, JsonNumber.isIntegral, JsonNumber.greatestNatural]
  by_cases negative : word.toInt < 0
  · have magnitude : 0 < word.toInt.natAbs ∧ word.toInt.natAbs ≤ Nat.pow 2 63 := by
      change _ ∧ _ ≤ 2 ^ 63
      omega
    rw [if_neg (by decide), if_pos (decide_eq_true negative), if_pos magnitude,
      Int.ofNat_natAbs_of_nonpos (Int.le_of_lt negative), Int.neg_neg]
  · have magnitude : word.toInt.natAbs ≤ Nat.pow 2 64 - 1 := by
      change _ ≤ 2 ^ 64 - 1
      omega
    rw [if_neg (by decide), if_neg (by simpa using negative), if_pos magnitude,
      Int.natAbs_of_nonneg (Int.not_lt.mp negative)]

theorem isWord_int
    (word : Int32) :
    IsWord word (int word.toInt) :=
  ⟨_, integer?_of_word word, rfl⟩

theorem decodeInt_of_isWord
    {word : Int32}
    {value : Json}
    (as : IsWord word value) :
    decodeInt 32 value = some word.toInt := by
  obtain ⟨literal, whole, rfl⟩ := as
  rw [decodeInt, whole, Option.filter_some, if_pos]
  simp only [Bool.and_eq_true, decide_eq_true_eq]
  exact ⟨word.le_toInt, word.toInt_lt⟩

/-- A record has the content of each of its members. -/
theorem hasMember_record
    {written : α → Json → Prop}
    {write : α → Json}
    {members : List (String × Json)}
    {name : String}
    {content : Option α}
    (distinct : (members.map Prod.fst).Nodup)
    (listed : (name, orNull write content) ∈ members)
    (writes : ∀ content, written content (write content)) :
    HasMember written name content (record members) := by
  refine ⟨_, rfl, ?_⟩
  rw [valuesOf_record distinct listed]
  cases content with
  | none => exact .null
  | some content => exact .present (writes content)

theorem hasItems_map
    {written : α → Json → Prop}
    {write : α → Json}
    (writes : ∀ entry, written entry (write entry))
    (entries : List α) :
    HasItems written entries (.array (entries.map write)) := by
  refine ⟨_, ?_, rfl⟩
  rw [List.forall₂_map_right_iff]
  exact List.forall₂_same.mpr fun entry _ => writes entry

end Json

namespace Kubernetes

open Json

namespace Schema

theorem memberFits_orNull
    {fields : List (String × Schema)}
    {name : String}
    {shape : Schema}
    {write : α → Json}
    (known : fields.lookup name = some shape)
    (nullable : shape.admitsNull = true)
    (fit : ∀ content, shape.fits (write content) = true)
    (content : Option α) :
    memberFits fields name (orNull write content) = true := by
  induction fields with
  | nil => cases known
  | cons field fields inductionHypothesis =>
      obtain ⟨key, first⟩ := field
      unfold memberFits
      split
      · rename_i same
        subst same
        rw [List.lookup_cons_self] at known
        cases known
        split
        · exact nullable
        · cases content with
          | none => contradiction
          | some content => exact fit content
      · rename_i differs
        have differs : (name == key) = false := by simpa using Ne.symm differs
        rw [List.lookup_cons, differs] at known
        exact inductionHypothesis known

theorem fits_record_nil
    (fields : List (String × Schema)) :
    (record fields).fits (.record []) = true := by
  rw [Json.record, fits, List.map_nil, List.all_nil]

theorem fits_record_cons
    {fields : List (String × Schema)}
    {name : String}
    {value : Json}
    {rest : List (String × Json)}
    (first : memberFits fields name value = true)
    (others : (record fields).fits (.record rest) = true) :
    (record fields).fits (.record ((name, value) :: rest)) = true := by
  rw [Json.record, fits] at others ⊢
  rw [List.map_cons, List.all_cons, others, Bool.and_true]
  exact first

theorem fits_list
    {item : Schema}
    {write : α → Json}
    (fit : ∀ entry, item.fits (write entry) = true)
    (entries : List α) :
    (list item).fits (.array (entries.map write)) = true := by
  rw [fits, List.all_map, List.all_eq_true]
  exact fun entry _ => fit entry

theorem fits_text
    (content : String) :
    text.fits (.text content) = true := by
  rw [fits, Json.text, decodeText, Option.isSome_some]

theorem fits_int
    (word : Int32) :
    (int 32).fits (.int word.toInt) = true := by
  rw [fits, decodeInt_of_isWord (isWord_int word), Option.isSome_some]

end Schema

/-- The value of a target. -/
def PortTarget.toJson : PortTarget → Json
  | number word => .int word.toInt
  | named name => .text name

/-- The value of a port. -/
def ServicePort.toJson
    (port : ServicePort) : Json :=
  .record
    [("port", orNull (fun word => .int word.toInt) (some port.number)),
      ("targetPort", orNull PortTarget.toJson port.target)]

/-- The value of a specification. -/
def ServiceSpec.toJson
    (spec : ServiceSpec) : Json :=
  .record
    [("type", orNull Json.text spec.kind),
      ("ports", orNull (fun ports => .array (ports.map ServicePort.toJson)) spec.ports)]

/-- The value of a way into a load balancer. -/
def Ingress.toJson
    (ingress : Ingress) : Json :=
  .record [("hostname", orNull Json.text ingress.hostname)]

/-- The value of a load balancer. -/
def LoadBalancer.toJson
    (balancer : LoadBalancer) : Json :=
  .record
    [("ingress", orNull (fun ways => .array (ways.map Ingress.toJson)) balancer.ingress)]

/-- The value of a status. -/
def ServiceStatus.toJson
    (status : ServiceStatus) : Json :=
  .record [("loadBalancer", orNull LoadBalancer.toJson status.loadBalancer)]

/-- A document of a service. -/
def Service.toJson
    (service : Service) : Json :=
  .record
    [("apiVersion", .text "v1"), ("kind", .text "Service"),
      ("spec", orNull ServiceSpec.toJson service.spec),
      ("status", orNull ServiceStatus.toJson service.status)]

/-- What is written for a service fits the schema and is read as that service. -/
structure Schema.Writes
    (schema : Schema)
    (written : α → Json → Prop)
    (write : α → Json) : Prop where
  fits : ∀ content, schema.fits (write content) = true
  isWritten : ∀ content, written content (write content)

namespace Schema.Writes

theorem target :
    textOrInt.Writes PortTarget.IsWrittenAs PortTarget.toJson where
  fits content := by
    cases content with
    | number word => rw [PortTarget.toJson, Schema.fits, decodeInt_of_isWord (isWord_int word), Option.isSome_some,
        Bool.or_true]
    | named name => rw [PortTarget.toJson, Schema.fits, Json.text, decodeText, Option.isSome_some,
        Bool.true_or]
  isWritten content := by
    cases content with
    | number word => exact .number (isWord_int word)
    | named name => exact .named rfl

theorem port :
    servicePort.Writes ServicePort.IsWrittenAs ServicePort.toJson where
  fits port := by
    refine fits_record_cons (memberFits_orNull rfl rfl fits_int _) ?_
    exact fits_record_cons (memberFits_orNull rfl rfl target.fits _) (fits_record_nil _)
  isWritten port := by
    refine ⟨⟨some port.number, hasMember_record (by simp) ?_ isWord_int, rfl⟩,
      hasMember_record (by simp) ?_ target.isWritten⟩
    · exact List.mem_cons_self
    · exact List.mem_cons_of_mem _ List.mem_cons_self

theorem spec :
    serviceSpec.Writes ServiceSpec.IsWrittenAs ServiceSpec.toJson where
  fits spec := by
    refine fits_record_cons (memberFits_orNull rfl rfl fits_text _) ?_
    refine fits_record_cons ?_ (fits_record_nil _)
    exact memberFits_orNull rfl rfl (fits_list port.fits) _
  isWritten spec := by
    refine ⟨hasMember_record (by simp) ?_ fun _ => rfl,
      hasMember_record (by simp) ?_ (hasItems_map port.isWritten)⟩
    · exact List.mem_cons_self
    · exact List.mem_cons_of_mem _ List.mem_cons_self

theorem ingress :
    Schema.ingress.Writes Ingress.IsWrittenAs Ingress.toJson where
  fits ingress := fits_record_cons (memberFits_orNull rfl rfl fits_text _) (fits_record_nil _)
  isWritten ingress := hasMember_record (by simp) List.mem_cons_self fun _ => rfl

theorem loadBalancer :
    (record [("ingress", list Schema.ingress)]).Writes LoadBalancer.IsWrittenAs
      LoadBalancer.toJson where
  fits balancer :=
    fits_record_cons (memberFits_orNull rfl rfl (fits_list ingress.fits) _) (fits_record_nil _)
  isWritten balancer :=
    hasMember_record (by simp) List.mem_cons_self (hasItems_map ingress.isWritten)

theorem status :
    serviceStatus.Writes ServiceStatus.IsWrittenAs ServiceStatus.toJson where
  fits status :=
    fits_record_cons (memberFits_orNull rfl rfl loadBalancer.fits _) (fits_record_nil _)
  isWritten status := hasMember_record (by simp) List.mem_cons_self loadBalancer.isWritten

/-- Every service has a document that fits the schema. -/
theorem service :
    Schema.service.Writes Service.IsWrittenAs Service.toJson where
  fits service := by
    refine fits_record_cons rfl (fits_record_cons rfl ?_)
    refine fits_record_cons (memberFits_orNull rfl rfl spec.fits _) ?_
    exact fits_record_cons (memberFits_orNull rfl rfl status.fits _) (fits_record_nil _)
  isWritten service := by
    refine ⟨hasMember_record (by simp) ?_ spec.isWritten,
      hasMember_record (by simp) ?_ status.isWritten⟩ <;>
    simp

end Schema.Writes
end Kubernetes
end FleetDashboard
