import FleetDashboard.Proofs.Kubernetes.ServiceDocument
import FleetDashboard.Proofs.Request.Ensures

/-!
# The address of a service

Which services have an address, and which one: the first port and the first way into the
load balancer decide, even if they are of no use and later ones would be.  A service whose
port is missing is turned down for the name of its target before anyone asks for the port.
-/

namespace FleetDashboard
namespace Kubernetes

open Json

/-- A text that is not empty. -/
def filled?
    (text : String) : Option String :=
  if text.isEmpty then none else some text

/-- The scheme that a target names. -/
def PortTarget.scheme? : PortTarget → Option String
  | number _ => none
  | named name => filled? name

namespace Service

/-- The type of a service, if it names one. -/
def kind?
    (service : Service) : Option String :=
  service.spec.bind ServiceSpec.kind

/-- The first port of a service. -/
def firstPort?
    (service : Service) : Option ServicePort :=
  (service.spec.bind ServiceSpec.ports).bind List.head?

/-- The first way into the load balancer of a service. -/
def firstIngress?
    (service : Service) : Option Ingress :=
  ((service.status.bind ServiceStatus.loadBalancer).bind LoadBalancer.ingress).bind List.head?

/-- The service is a load balancer whose first port names a scheme and whose first way in
has a host name. -/
structure Exposes
    (service : Service)
    (scheme hostname : String)
    (number : Int32) : Prop where
  spec : ∃ others, service.spec =
    some ⟨some "LoadBalancer", some (⟨number, some (.named scheme)⟩ :: others)⟩
  status : ∃ others, service.status = some ⟨some ⟨some (⟨some hostname⟩ :: others)⟩⟩
  schemeFilled : scheme ≠ ""
  hostnameFilled : hostname ≠ ""

/-- Two services agree on their types, their first ports and the first ways into their load
balancers. -/
structure AgreesInFront
    (left right : Service) : Prop where
  kind : left.kind? = right.kind?
  port : left.firstPort? = right.firstPort?
  ingress : left.firstIngress? = right.firstIngress?

/-- What is needed of a service. -/
def endpoint
    (service : Service) : ServiceEndpoint where
  kind := service.kind?.getD ServiceEndpoint.defaultKind
  hostname := (service.firstIngress?.bind Ingress.hostname).bind filled?
  port := service.firstPort?.map fun port => port.number.toInt
  scheme := (service.firstPort?.bind ServicePort.target).bind PortTarget.scheme?

end Service

/-! ## Reading a document of a service -/

namespace ServiceEndpoint

theorem rel_bind
    {same : α → β → Prop}
    {sameNext : γ → δ → Prop}
    {left : Option α}
    {right : Option β}
    {leftNext : α → Option γ}
    {rightNext : β → Option δ}
    (related : Option.Rel same left right)
    (next : ∀ first second, same first second →
      Option.Rel sameNext (leftNext first) (rightNext second)) :
    Option.Rel sameNext (left.bind leftNext) (right.bind rightNext) := by
  cases related with
  | none => exact .none
  | some related => exact next _ _ related

theorem eq_of_rel_eq
    {left right : Option α}
    (related : Option.Rel Eq left right) :
    left = right := by
  cases related with
  | none => rfl
  | some same => rw [same]

theorem rel_eq_refl
    (option : Option α) :
    Option.Rel Eq option option := by
  cases option with
  | none => exact .none
  | some _ => exact .some rfl

/-- A member is found exactly if it has content. -/
theorem rel_member?
    {written : α → Json → Prop}
    {name : String}
    {content : Option α}
    {value : Json}
    (full : ∀ content, ¬written content .null)
    (has : HasMember written name content value) :
    Option.Rel (fun value content => written content value) (member? name value) content := by
  obtain ⟨members, rfl, optional⟩ := has
  rw [member?]
  generalize (valuesOf name members).getLast? = last at optional
  cases optional with
  | absent => exact .none
  | null => exact .none
  | present as =>
      split
      · rename_i found
        cases found
        exact absurd as (full _)
      · exact .some as

theorem not_hasMember_null
    {written : α → Json → Prop}
    {name : String}
    {content : Option α} :
    ¬HasMember written name content .null := by
  rintro ⟨members, same, _⟩
  cases same

theorem not_hasItems_null
    {written : α → Json → Prop}
    (entries : List α) :
    ¬HasItems written entries .null := by
  rintro ⟨items, _, same⟩
  cases same

theorem not_isText_null
    (content : String) :
    ¬IsText content .null := by
  rintro ⟨⟩

theorem not_isWord_null
    (word : Int32) :
    ¬IsWord word .null := by
  rintro ⟨literal, _, same⟩
  cases same

theorem not_target_null
    (target : PortTarget) :
    ¬target.IsWrittenAs .null := by
  intro as
  cases as with
  | number as => exact not_isWord_null _ as
  | named as => exact not_isText_null _ as

theorem rel_first?
    {written : α → Json → Prop}
    {entries : List α}
    {value : Json}
    (has : HasItems written entries value) :
    Option.Rel (fun value entry => written entry value) (first? value) entries.head? := by
  obtain ⟨items, each, rfl⟩ := has
  cases each with
  | nil => exact .none
  | cons as _ => exact .some as

theorem rel_text
    {content : String}
    {value : Json}
    (as : IsText content value) :
    Option.Rel Eq (decodeText value) (some content) := by
  cases as
  exact .some rfl

theorem rel_word
    {word : Int32}
    {value : Json}
    (as : IsWord word value) :
    Option.Rel Eq (decodeInt 32 value) (some word.toInt) := by
  rw [decodeInt_of_isWord as]
  exact .some rfl

theorem filledText?_text
    (content : String) :
    filledText? (.text content) = filled? content := by
  rw [Json.text, filledText?, filled?]
  cases empty : content.isEmpty <;> simp [empty, Option.filter_some]

theorem rel_filledText?
    {content : String}
    {value : Json}
    (as : IsText content value) :
    Option.Rel Eq (filledText? value) (filled? content) := by
  cases as
  rw [filledText?_text]
  exact rel_eq_refl _

theorem rel_scheme?
    {target : PortTarget}
    {value : Json}
    (as : target.IsWrittenAs value) :
    Option.Rel Eq (filledText? value) target.scheme? := by
  cases as with
  | number as =>
      obtain ⟨literal, _, rfl⟩ := as
      exact .none
  | named as => exact rel_filledText? as

/-- A port without a number has the number zero. -/
theorem number_of_isWrittenAs
    {port : ServicePort}
    {value : Json}
    (written : port.IsWrittenAs value) :
    ((member? "port" value).bind (decodeInt 32)).getD 0 = port.number.toInt := by
  obtain ⟨⟨number, has, same⟩, _⟩ := written
  have member := rel_member? not_isWord_null has
  rw [eq_of_rel_eq (rel_bind member fun _ _ => rel_word), ← same]
  cases number with
  | none => rfl
  | some word => rfl

section Reading

variable
  {service : Service}
  {document : Json}
  (written : service.IsWrittenAs document)

include written

theorem rel_spec :
    Option.Rel (fun value spec => ServiceSpec.IsWrittenAs spec value)
      (member? "spec" document) service.spec :=
  rel_member? (fun _ spec => not_hasMember_null spec.1) written.1

theorem rel_port :
    Option.Rel (fun value port => ServicePort.IsWrittenAs port value)
      (((member? "spec" document).bind (member? "ports")).bind first?) service.firstPort? := by
  have ports := rel_bind (rel_spec written) fun _ _ spec =>
    rel_member? not_hasItems_null spec.2
  exact rel_bind ports fun _ _ => rel_first?

theorem rel_ingress :
    Option.Rel (fun value ingress => Ingress.IsWrittenAs ingress value)
      ((((member? "status" document).bind (member? "loadBalancer")).bind
        (member? "ingress")).bind first?) service.firstIngress? := by
  have status := rel_member? (fun _ status => not_hasMember_null status) written.2
  have balancer := rel_bind status fun _ _ status =>
    rel_member? (fun _ balancer => not_hasMember_null balancer) status
  have ways := rel_bind balancer fun _ _ balancer =>
    rel_member? not_hasItems_null balancer
  exact rel_bind ways fun _ _ => rel_first?

/-- The document of a service has the endpoint of that service. -/
theorem ofService_of_isWrittenAs :
    ofService document = service.endpoint := by
  have spec := rel_spec written
  have port := rel_port written
  have ingress := rel_ingress written
  rw [ofService, Service.endpoint, mk.injEq]
  refine ⟨?_, ?_, ?_, ?_⟩
  · have kind := rel_bind spec fun _ _ spec => rel_member? not_isText_null spec.1
    have decoded := eq_of_rel_eq (rel_bind kind fun _ _ => rel_text)
    rw [decoded, Option.bind_fun_some]
    rfl
  · have hostname := rel_bind ingress fun _ _ ingress => rel_member? not_isText_null ingress
    exact eq_of_rel_eq (rel_bind hostname fun _ _ => rel_filledText?)
  · generalize ((member? "spec" document).bind (member? "ports")).bind first? = found at port ⊢
    generalize service.firstPort? = first at port ⊢
    cases port with
    | none => rfl
    | some as => exact congrArg some (number_of_isWrittenAs as)
  · have target := rel_bind port fun _ _ port => rel_member? not_target_null port.2
    exact eq_of_rel_eq (rel_bind target fun _ _ => rel_scheme?)

end Reading

/-! ## Composing an address -/

theorem compose_eq_ok_iff
    {endpoint : ServiceEndpoint}
    {url : String} :
    endpoint.compose = .ok url ↔
      endpoint.kind = loadBalancer ∧ ∃ scheme hostname port,
        endpoint.scheme = some scheme ∧ endpoint.hostname = some hostname ∧
        endpoint.port = some port ∧
        url = scheme ++ "://" ++ hostname ++ ":" ++ Text.intText port := by
  obtain ⟨kind, hostname, port, scheme⟩ := endpoint
  rw [compose]
  by_cases balanced : kind = loadBalancer
  · rw [if_neg (not_not.mpr balanced)]
    cases scheme <;> cases hostname <;> cases port <;> simp [balanced, eq_comm]
  · rw [if_pos balanced]
    simp [balanced]

theorem lacks_port_of_compose
    {endpoint : ServiceEndpoint}
    (fails : endpoint.compose = .error .noPort) :
    endpoint.scheme.isSome = true ∧ endpoint.port = none := by
  obtain ⟨kind, hostname, port, scheme⟩ := endpoint
  rw [compose] at fails
  split at fails
  · cases fails
  · cases scheme <;> cases hostname <;> cases port <;> simp at fails ⊢

end ServiceEndpoint

/-- The wording of a missing port is that of no other fault. -/
theorem EndpointFault.eq_noPort_of_message
    {fault : EndpointFault}
    (same : fault.message = "Service exposes no port") :
    fault = .noPort := by
  unfold message at same
  split at same
  · -- The ninth letters differ, whatever the type is.
    have letters := congrArg String.toList same
    rw [String.toList_append, String.toList_append, List.append_assoc] at letters
    have beginnings := congrArg (List.take 9) letters
    rw [List.take_append_of_le_length (by decide)] at beginnings
    exact absurd beginnings (by decide)
  · exact absurd same (by decide)
  · exact absurd same (by decide)
  · rfl

/-! ## Services with an address -/

theorem filled?_eq_some_iff
    {text content : String} :
    filled? text = some content ↔ text = content ∧ content ≠ "" := by
  rw [filled?]
  split
  · rename_i empty
    rw [String.isEmpty_iff] at empty
    simp only [reduceCtorEq, false_iff, not_and, not_not]
    rintro rfl
    exact empty
  · rename_i full
    rw [String.isEmpty_iff] at full
    rw [Option.some.injEq]
    constructor
    · rintro rfl
      exact ⟨rfl, full⟩
    · exact And.left

namespace Service

variable {service : Service}

theorem endpoint_kind_iff :
    service.endpoint.kind = ServiceEndpoint.loadBalancer ↔
      service.kind? = some "LoadBalancer" := by
  change service.kind?.getD "ClusterIP" = "LoadBalancer" ↔ _
  cases service.kind? with
  | none => decide
  | some kind => rw [Option.getD_some, Option.some.injEq]

theorem endpoint_scheme_iff
    {scheme : String} :
    service.endpoint.scheme = some scheme ↔
      (∃ number, service.firstPort? = some ⟨number, some (.named scheme)⟩) ∧ scheme ≠ "" := by
  rw [endpoint]
  rcases service.firstPort? with _ | ⟨number, _ | word | name⟩
  · simp
  · simp
  · simp [PortTarget.scheme?]
  · simp [PortTarget.scheme?, filled?_eq_some_iff]

theorem endpoint_hostname_iff
    {hostname : String} :
    service.endpoint.hostname = some hostname ↔
      service.firstIngress? = some ⟨some hostname⟩ ∧ hostname ≠ "" := by
  rw [endpoint]
  rcases service.firstIngress? with _ | ⟨_ | name⟩
  · simp
  · simp
  · simp [filled?_eq_some_iff]

theorem exposes_iff
    {scheme hostname : String}
    {number : Int32} :
    service.Exposes scheme hostname number ↔
      service.kind? = some "LoadBalancer" ∧
        service.firstPort? = some ⟨number, some (.named scheme)⟩ ∧
        service.firstIngress? = some ⟨some hostname⟩ ∧ scheme ≠ "" ∧ hostname ≠ "" := by
  constructor
  · rintro ⟨⟨others, spec⟩, ⟨more, status⟩, schemeFilled, hostnameFilled⟩
    simp [kind?, firstPort?, firstIngress?, spec, status, schemeFilled, hostnameFilled]
  · rintro ⟨kind, port, ingress, schemeFilled, hostnameFilled⟩
    obtain ⟨_ | ⟨_, _ | _ | ⟨first, others⟩⟩, _ | ⟨_ | ⟨_ | _ | ⟨way, more⟩⟩⟩⟩ := service <;>
      simp [kind?, firstPort?, firstIngress?] at kind port ingress
    subst kind port ingress
    exact ⟨⟨others, rfl⟩, ⟨more, rfl⟩, schemeFilled, hostnameFilled⟩

/-- Services that agree in front have the same endpoint. -/
theorem AgreesInFront.endpoint_eq
    {other : Service}
    (agrees : other.AgreesInFront service) :
    other.endpoint = service.endpoint := by
  rw [endpoint, endpoint, agrees.kind, agrees.port, agrees.ingress]

theorem address_eq_ok_iff_exposes
    {url : String} :
    service.endpoint.address = .ok url ↔
      ∃ scheme hostname number, service.Exposes scheme hostname number ∧
        url = scheme ++ "://" ++ hostname ++ ":" ++ Text.intText number.toInt := by
  rw [ServiceEndpoint.address, mapError_eq_ok_iff, ServiceEndpoint.compose_eq_ok_iff,
    endpoint_kind_iff]
  constructor
  · rintro ⟨kind, scheme, hostname, port, named, reached, numbered, rfl⟩
    obtain ⟨⟨number, first⟩, schemeFilled⟩ := endpoint_scheme_iff.mp named
    obtain ⟨ingress, hostnameFilled⟩ := endpoint_hostname_iff.mp reached
    rw [endpoint, first, Option.map_some] at numbered
    cases numbered
    exact ⟨scheme, hostname, number,
      exposes_iff.mpr ⟨kind, first, ingress, schemeFilled, hostnameFilled⟩, rfl⟩
  · rintro ⟨scheme, hostname, number, exposes, rfl⟩
    obtain ⟨kind, first, ingress, schemeFilled, hostnameFilled⟩ := exposes_iff.mp exposes
    refine ⟨kind, scheme, hostname, number.toInt, ?_, ?_, ?_, rfl⟩
    · exact endpoint_scheme_iff.mpr ⟨⟨number, first⟩, schemeFilled⟩
    · exact endpoint_hostname_iff.mpr ⟨ingress, hostnameFilled⟩
    · rw [endpoint, first, Option.map_some]

/-- A scheme is the name of a port's target, so that a service with a scheme has a port. -/
theorem compose_ne_noPort :
    service.endpoint.compose ≠ .error .noPort := by
  intro fails
  obtain ⟨named, portless⟩ := ServiceEndpoint.lacks_port_of_compose fails
  obtain ⟨scheme, named⟩ := Option.isSome_iff_exists.mp named
  obtain ⟨⟨number, first⟩, _⟩ := endpoint_scheme_iff.mp named
  rw [endpoint, first] at portless
  cases portless

theorem address_ne_noPort :
    service.endpoint.address ≠ .error (.resolution "Service exposes no port") := by
  intro fails
  rw [ServiceEndpoint.address] at fails
  cases composed : service.endpoint.compose with
  | ok url =>
      rw [composed] at fails
      cases fails
  | error fault =>
      rw [composed] at fails
      have same : fault.message = "Service exposes no port" :=
        DashboardError.resolution.inj (Except.error.inj fails)
      rw [EndpointFault.eq_noPort_of_message same] at composed
      exact compose_ne_noPort composed

theorem exists_reason_of_not_exposes
    (hidden : ∀ scheme hostname number, ¬service.Exposes scheme hostname number) :
    ∃ reason, service.endpoint.address = .error (.resolution reason) := by
  cases composed : service.endpoint.compose with
  | ok url =>
      have answered : service.endpoint.address = .ok url :=
        mapError_eq_ok_iff.mpr composed
      obtain ⟨scheme, hostname, number, exposes, _⟩ := address_eq_ok_iff_exposes.mp answered
      exact absurd exposes (hidden scheme hostname number)
  | error fault =>
      refine ⟨fault.message, ?_⟩
      rw [ServiceEndpoint.address, composed]
      rfl

/-- A service has an address exactly if it is a load balancer whose first port has a target
with a name and whose first way in has a host name; the address joins the three with the
number of that port.  Any other service is turned down, never for the lack of a port.  What
stands behind the first port and the first way in, and whatever else a document says, does
not matter.  This is about all documents that fit the schema, and about all services. -/
theorem address_from_front :
    (∀ (service : Service) (document : Json), service.IsWrittenAs document →
      (∀ url, (ServiceEndpoint.ofService document).address = .ok url ↔
        ∃ scheme hostname number, service.Exposes scheme hostname number ∧
          url = scheme ++ "://" ++ hostname ++ ":" ++ Text.intText number.toInt) ∧
      ((∀ scheme hostname number, ¬service.Exposes scheme hostname number) →
        ∃ reason, (ServiceEndpoint.ofService document).address = .error (.resolution reason)) ∧
      (ServiceEndpoint.ofService document).address ≠
        .error (.resolution "Service exposes no port") ∧
      ∀ (other : Service) (otherDocument : Json), other.IsWrittenAs otherDocument →
        other.AgreesInFront service →
        (ServiceEndpoint.ofService otherDocument).address =
          (ServiceEndpoint.ofService document).address) ∧
    (∀ document, Schema.service.fits document = true →
      ∃ service : Service, service.IsWrittenAs document) ∧
    ∀ service : Service, ∃ document, Schema.service.fits document = true ∧
      service.IsWrittenAs document := by
  refine ⟨?_, fun _ => exists_of_fits, ?_⟩
  · intro service document written
    rw [ServiceEndpoint.ofService_of_isWrittenAs written]
    refine ⟨fun _ => address_eq_ok_iff_exposes, exists_reason_of_not_exposes,
      address_ne_noPort, ?_⟩
    intro other otherDocument otherWritten agrees
    rw [ServiceEndpoint.ofService_of_isWrittenAs otherWritten, agrees.endpoint_eq]
  · intro service
    exact ⟨service.toJson, Schema.Writes.service.fits service,
      Schema.Writes.service.isWritten service⟩

/-- The last of two specifications counts, members that no one asks for do not, and neither
do ports and ways in behind the first ones; a first port without a name is not made up for
by the second. -/
theorem sample_address_from_front :
    let spec : ServiceSpec := ⟨some "LoadBalancer",
      some [⟨9090, some (.named "http")⟩, ⟨1, some (.number 2)⟩]⟩
    let status : ServiceStatus := ⟨some ⟨some [⟨some "a.example"⟩, ⟨none⟩]⟩⟩
    let service : Service := ⟨some spec, some status⟩
    let document := Json.record [("metadata", .record []), ("spec", .null),
      ("status", status.toJson), ("spec", spec.toJson)]
    let shorter : Service := ⟨some ⟨some "LoadBalancer", some [⟨9090, some (.named "http")⟩]⟩,
      some ⟨some ⟨some [⟨some "a.example"⟩]⟩⟩⟩
    let unnamed : Service := ⟨some ⟨some "LoadBalancer",
      some [⟨9090, some (.number 80)⟩, ⟨9090, some (.named "http")⟩]⟩, some status⟩
    (service.IsWrittenAs document ∧ service.Exposes "http" "a.example" 9090 ∧
      (ServiceEndpoint.ofService document).address = .ok "http://a.example:9090") ∧
    (shorter.IsWrittenAs shorter.toJson ∧ shorter.AgreesInFront service ∧
      (ServiceEndpoint.ofService shorter.toJson).address =
        (ServiceEndpoint.ofService document).address) ∧
    (unnamed.IsWrittenAs unnamed.toJson ∧
      (∀ scheme hostname number, ¬unnamed.Exposes scheme hostname number) ∧
      ∃ reason, (ServiceEndpoint.ofService unnamed.toJson).address =
        .error (.resolution reason)) ∧
    Schema.service.fits document = true ∧ ∃ found : Service, found.IsWrittenAs document := by
  intro spec status service document shorter unnamed
  obtain ⟨documents, fitting, _⟩ := address_from_front
  have written : service.IsWrittenAs document :=
    ⟨⟨_, rfl, .present (Schema.Writes.spec.isWritten spec)⟩,
      ⟨_, rfl, .present (Schema.Writes.status.isWritten status)⟩⟩
  have exposes : service.Exposes "http" "a.example" 9090 :=
    ⟨⟨_, rfl⟩, ⟨_, rfl⟩, by decide, by decide⟩
  have shorterWritten := Schema.Writes.service.isWritten shorter
  have agrees : shorter.AgreesInFront service := ⟨rfl, rfl, rfl⟩
  have unnamedWritten := Schema.Writes.service.isWritten unnamed
  have hidden : ∀ scheme hostname number, ¬unnamed.Exposes scheme hostname number := by
    rintro scheme hostname number ⟨⟨others, same⟩, _⟩
    cases same
  have fit : Schema.service.fits document = true := by decide +kernel
  obtain ⟨answers, _, _, frame⟩ := documents service document written
  refine ⟨⟨written, exposes, (answers _).mpr ⟨_, _, _, exposes, by decide +kernel⟩⟩,
    ⟨shorterWritten, agrees, frame shorter _ shorterWritten agrees⟩,
    ⟨unnamedWritten, hidden, (documents unnamed _ unnamedWritten).2.1 hidden⟩,
    fit, fitting document fit⟩

end Service
end Kubernetes
end FleetDashboard
