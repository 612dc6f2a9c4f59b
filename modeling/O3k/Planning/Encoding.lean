import O3k.Json.Canonical
import O3k.Planning.PolicyGraph

/-!
# The bytes that a plan is fingerprinted by

`serde_json` renders a structure as an object with its members in the order of
the declaration, a variant as an object with one member, or as its name when it
carries nothing.  Different values of one type are rendered differently, and a
gateway unit differently from a fabric unit.
-/

namespace O3k
namespace Planning

open Relational Execution Gateways Json Function
open Network hiding PolicyIntent
open Fabric hiding NetworkPlanError

def addressValue (address : Ipv4Addr) : Value := .ofText address.toText

def prefixValue (p : Ipv4Prefix) : Value :=
  .object [
    field "network" (addressValue p.network),
    field "prefix_len" (.number p.prefixLen)]

def directionValue : PolicyDirection → Value
  | .ingress => .ofText "Ingress"
  | .egress => .ofText "Egress"

def protocolValue : NetworkProtocol → Value
  | .any => .ofText "Any"
  | .tcp => .ofText "Tcp"
  | .udp => .ofText "Udp"
  | .icmp => .ofText "Icmp"

def actionValue : PolicyAction → Value
  | .allow => .ofText "Allow"
  | .deny => .ofText "Deny"

def statefulModeValue : PolicyStatefulMode → Value
  | .stateful => .ofText "Stateful"
  | .stateless => .ofText "Stateless"

/-- The variants of the provider kind are renamed to snake case. -/
def providerKindValue : FabricProviderKind → Value
  | .vxlan => .ofText "vxlan"
  | .geneve => .ofText "geneve"

def portRangeValue (ports : PortRange) : Value :=
  .object [
    field "start" (.number ports.start),
    field "end" (.number ports.stop)]

def routeValue (route : RouteIntent) : Value :=
  .object [
    field "destination" (prefixValue route.destination),
    field "next_hop" (.ofOption addressValue route.nextHop)]

def gatewayIntentValue (gateway : GatewayIntent) : Value :=
  .object [
    field "destination" (prefixValue gateway.destination),
    field "gateway" (addressValue gateway.gateway),
    field "external" (.bool gateway.external)]

def egressValue (egress : EgressIntent) : Value :=
  .object [
    field "external_realm_id" (.ofText egress.externalRealmId),
    field "enabled" (.bool egress.enabled),
    field "nat" (.bool egress.nat)]

def publicBindingValue (binding : PublicAddressBindingIntent) : Value :=
  .object [
    field "id" (.ofText binding.id),
    field "project_id" (.ofText binding.projectId),
    field "public_address" (addressValue binding.publicAddress),
    field "endpoint_id" (.ofText binding.endpointId),
    field "generation" (.number binding.generation)]

def policyDefaultValue (default : PolicyDefaultIntent) : Value :=
  .object [
    field "policy_id" (.ofText default.policyId),
    field "endpoint_id" (.ofText default.endpointId),
    field "unmatched_action" (actionValue default.unmatchedAction),
    field "stateful_mode" (statefulModeValue default.statefulMode),
    field "generation" (.number default.generation)]

def policyValue (policy : PolicyIntent) : Value :=
  .object [
    field "id" (.ofText policy.id),
    field "endpoint_id" (.ofText policy.endpointId),
    field "direction" (directionValue policy.direction),
    field "protocol" (protocolValue policy.protocol),
    field "ports" (.ofOption portRangeValue policy.ports),
    field "source" (.ofOption prefixValue policy.source),
    field "destination" (.ofOption prefixValue policy.destination),
    field "action" (actionValue policy.action)]

/-- A variant that carries something. -/
def variant (name : String) (v : Value) : Value := .object [field name v]

def intentValue : NetworkPlanIntent → Value
  | .addressRealm realmId addresses gateway =>
    variant "AddressRealm" (.object [
      field "realm_id" (.ofText realmId),
      field "prefix" (prefixValue addresses),
      field "gateway" (addressValue gateway)])
  | .endpointAttachment endpointId mac fixedIp generation =>
    variant "EndpointAttachment" (.object [
      field "endpoint_id" (.ofText endpointId),
      field "mac" (.ofText mac),
      field "fixed_ip" (addressValue fixedIp),
      field "generation" (.number generation)])
  | .addressAssignment endpointId address generation =>
    variant "AddressAssignment" (.object [
      field "endpoint_id" (.ofText endpointId),
      field "address" (addressValue address),
      field "generation" (.number generation)])
  | .route intent => variant "Route" (routeValue intent)
  | .gateway intent => variant "Gateway" (gatewayIntentValue intent)
  | .egress intent => variant "Egress" (egressValue intent)
  | .publicAddressBinding intent => variant "PublicAddressBinding" (publicBindingValue intent)
  | .policyDefault intent => variant "PolicyDefault" (policyDefaultValue intent)
  | .policy intent => variant "Policy" (policyValue intent)

def executionAttachmentValue (attachment : L3GatewayExecutionAttachment) : Value :=
  .object [
    field "attachment_id" (.ofText attachment.attachmentId),
    field "attachment_generation" (.number attachment.attachmentGeneration),
    field "realm_id" (.ofText attachment.realmId),
    field "realm_generation" (.number attachment.realmGeneration),
    field "realm_prefix" (prefixValue attachment.realmPrefix),
    field "gateway_address" (addressValue attachment.gatewayAddress)]

def gatewayValue (gateway : L3GatewayExecutionPlan) : Value :=
  .object [
    field "gateway_id" (.ofText gateway.gatewayId),
    field "project_id" (.ofText gateway.projectId),
    field "gateway_generation" (.number gateway.gatewayGeneration),
    field "attachments" (.array (gateway.attachments.map executionAttachmentValue)),
    field "external_realm_id" (.ofOption .ofText gateway.externalRealmId),
    field "external_realm_prefix" (.ofOption prefixValue gateway.externalRealmPrefix),
    field "external_realm_generation" (.ofOption .number gateway.externalRealmGeneration),
    field "enable_snat" (.bool gateway.enableSnat)]

def encapsulationValue (binding : RealmEncapsulationBinding) : Value :=
  .object [
    field "fabric_domain_id" (.ofText binding.fabricDomainId),
    field "realm_id" (.ofText binding.realmId),
    field "provider_kind" (providerKindValue binding.providerKind),
    field "provider_segment_id" (.number binding.providerSegmentId),
    field "binding_generation" (.number binding.bindingGeneration)]

def locationValue (location : EndpointLocation) : Value :=
  .object [
    field "endpoint_id" (.ofText location.endpointId),
    field "project_id" (.ofText location.projectId),
    field "realm_id" (.ofText location.realmId),
    field "fixed_ip" (addressValue location.fixedIp),
    field "mac" (.ofText location.mac),
    field "selected_host" (.ofText location.selectedHost),
    field "endpoint_generation" (.number location.endpointGeneration),
    field "placement_generation" (.number location.placementGeneration)]

def directoryValue (directory : RealmEndpointDirectory) : Value :=
  .object [
    field "realm_id" (.ofText directory.realmId),
    field "prefix" (prefixValue directory.addresses),
    field "directory_generation" (.number directory.directoryGeneration),
    field "proxy_mac" (.ofText directory.proxyMac),
    field "entries" (.array (directory.entries.map locationValue))]

def dhcpValue (dhcp : FabricDhcpIntent) : Value :=
  .object [
    field "enabled" (.bool dhcp.enabled),
    field "gateway" (addressValue dhcp.gateway)]

def fabricRouteValue (route : FabricEndpointRoute) : Value :=
  .object [
    field "realm_id" (.ofText route.realmId),
    field "destination" (prefixValue route.destination),
    field "endpoint_id" (.ofText route.endpointId),
    field "target_host" (.ofText route.targetHost),
    field "target_fabric_transport_ip" (addressValue route.targetFabricTransportIp),
    field "endpoint_generation" (.number route.endpointGeneration),
    field "placement_generation" (.number route.placementGeneration),
    field "realm_binding_generation" (.number route.realmBindingGeneration),
    field "fabric_generation" (.number route.fabricGeneration)]

def peerValue (peer : FabricPeer) : Value :=
  .object [
    field "host_id" (.ofText peer.hostId),
    field "public_key" (.ofText peer.publicKey),
    field "underlay_endpoint" (.ofText peer.underlayEndpoint),
    field "fabric_transport_ip" (addressValue peer.fabricTransportIp),
    field "fabric_generation" (.number peer.fabricGeneration)]

def fabricValue (fabric : NamespacedRoutedFabricPlan) : Value :=
  .object [
    field "local_host" (.ofText fabric.localHost),
    field "local_fabric_transport_ip" (addressValue fabric.localFabricTransportIp),
    field "local_fabric_generation" (.number fabric.localFabricGeneration),
    field "local_underlay_mtu" (.number fabric.localUnderlayMtu),
    field "local_fabric_mtu" (.number fabric.localFabricMtu),
    field "realm_id" (.ofText fabric.realmId),
    field "realm_prefix" (prefixValue fabric.realmPrefix),
    field "encapsulation" (encapsulationValue fabric.encapsulation),
    field "directory_generation" (.number fabric.directoryGeneration),
    field "directory" (directoryValue fabric.directory),
    field "proxy_mac" (.ofText fabric.proxyMac),
    field "tenant_mtu" (.number fabric.tenantMtu),
    field "policy_generation" (.number fabric.policyGeneration),
    field "policies" (.array (fabric.policies.map policyValue)),
    field "policy_defaults" (.array (fabric.policyDefaults.map policyDefaultValue)),
    field "public_bindings" (.array (fabric.publicBindings.map publicBindingValue)),
    field "dhcp" (.ofOption dhcpValue fabric.dhcp),
    field "routes" (.array (fabric.routes.map fabricRouteValue)),
    field "peers" (.array (fabric.peers.map peerValue))]

section Injective

theorem addressValue_injective : Injective addressValue :=
  fun _ _ h => toText_injective (ofText_inj.mp h)

@[simp] theorem addressValue_inj {a b : Ipv4Addr} : addressValue a = addressValue b ↔ a = b :=
  addressValue_injective.eq_iff

theorem addressValue_ne_null (a : Ipv4Addr) : addressValue a ≠ .null :=
  fun h => by cases h

@[simp] theorem prefixValue_inj {p q : Ipv4Prefix} : prefixValue p = prefixValue q ↔ p = q := by
  cases p
  cases q
  simp [prefixValue]

@[simp] theorem directionValue_inj {d d' : PolicyDirection} :
    directionValue d = directionValue d' ↔ d = d' := by
  cases d <;> cases d' <;> simp [directionValue]

@[simp] theorem protocolValue_inj {p p' : NetworkProtocol} :
    protocolValue p = protocolValue p' ↔ p = p' := by
  cases p <;> cases p' <;> simp [protocolValue]

@[simp] theorem actionValue_inj {a a' : PolicyAction} :
    actionValue a = actionValue a' ↔ a = a' := by
  cases a <;> cases a' <;> simp [actionValue]

@[simp] theorem statefulModeValue_inj {m m' : PolicyStatefulMode} :
    statefulModeValue m = statefulModeValue m' ↔ m = m' := by
  cases m <;> cases m' <;> simp [statefulModeValue]

@[simp] theorem providerKindValue_inj {k k' : FabricProviderKind} :
    providerKindValue k = providerKindValue k' ↔ k = k' := by
  cases k <;> cases k' <;> simp [providerKindValue]

@[simp] theorem portRangeValue_inj {r r' : PortRange} :
    portRangeValue r = portRangeValue r' ↔ r = r' := by
  cases r
  cases r'
  simp [portRangeValue]

@[simp] theorem publicBindingValue_inj {b b' : PublicAddressBindingIntent} :
    publicBindingValue b = publicBindingValue b' ↔ b = b' := by
  cases b
  cases b'
  simp [publicBindingValue]

@[simp] theorem policyDefaultValue_inj {d d' : PolicyDefaultIntent} :
    policyDefaultValue d = policyDefaultValue d' ↔ d = d' := by
  cases d
  cases d'
  simp [policyDefaultValue]

@[simp] theorem ofOption_addressValue_inj {a b : Option Ipv4Addr} :
    Value.ofOption addressValue a = Value.ofOption addressValue b ↔ a = b :=
  (ofOption_injective addressValue_injective addressValue_ne_null).eq_iff

@[simp] theorem ofOption_prefixValue_inj {p q : Option Ipv4Prefix} :
    Value.ofOption prefixValue p = Value.ofOption prefixValue q ↔ p = q :=
  (ofOption_injective (fun _ _ => prefixValue_inj.mp) (fun _ h => by cases h)).eq_iff

@[simp] theorem ofOption_portRangeValue_inj {r r' : Option PortRange} :
    Value.ofOption portRangeValue r = Value.ofOption portRangeValue r' ↔ r = r' :=
  (ofOption_injective (fun _ _ => portRangeValue_inj.mp) (fun _ h => by cases h)).eq_iff

@[simp] theorem policyValue_inj {p p' : PolicyIntent} :
    policyValue p = policyValue p' ↔ p = p' := by
  cases p
  cases p'
  simp [policyValue]

@[simp] theorem routeValue_inj {r r' : RouteIntent} : routeValue r = routeValue r' ↔ r = r' := by
  cases r
  cases r'
  simp [routeValue]

@[simp] theorem gatewayIntentValue_inj {g g' : GatewayIntent} :
    gatewayIntentValue g = gatewayIntentValue g' ↔ g = g' := by
  cases g
  cases g'
  simp [gatewayIntentValue]

@[simp] theorem egressValue_inj {e e' : EgressIntent} :
    egressValue e = egressValue e' ↔ e = e' := by
  cases e
  cases e'
  simp [egressValue]

@[simp] theorem variant_inj {name name' : String} {v w : Value} :
    variant name v = variant name' w ↔ name = name' ∧ v = w := by
  constructor
  · intro h
    have hname : name = name' := by
      by_contra hne
      exact field_ne hne v w (List.cons.inj (Value.object.inj h)).1
    subst hname
    exact ⟨rfl, by simpa [variant] using h⟩
  · rintro ⟨rfl, rfl⟩
    rfl

theorem intentValue_injective : Injective intentValue := by
  intro i j h
  cases i <;> cases j <;> simp [intentValue] at h ⊢ <;> exact h

@[simp] theorem executionAttachmentValue_inj {a a' : L3GatewayExecutionAttachment} :
    executionAttachmentValue a = executionAttachmentValue a' ↔ a = a' := by
  cases a
  cases a'
  simp [executionAttachmentValue]

@[simp] theorem ofOption_ofText_inj {s s' : Option String} :
    Value.ofOption .ofText s = Value.ofOption .ofText s' ↔ s = s' :=
  (ofOption_injective (fun _ _ => ofText_inj.mp) (fun _ h => by cases h)).eq_iff

@[simp] theorem ofOption_number_inj {n n' : Option Nat} :
    Value.ofOption .number n = Value.ofOption .number n' ↔ n = n' :=
  (ofOption_injective (fun _ _ => Value.number.inj) (fun _ h => by cases h)).eq_iff

theorem map_inj_of_inj {α : Type} {encode : α → Value}
    (h : ∀ {a b}, encode a = encode b ↔ a = b) {xs ys : List α} :
    xs.map encode = ys.map encode ↔ xs = ys :=
  (List.map_injective_iff.mpr (fun _ _ => h.mp)).eq_iff

theorem gatewayValue_injective : Injective gatewayValue := by
  intro g g' h
  cases g
  cases g'
  simpa [gatewayValue, map_inj_of_inj executionAttachmentValue_inj] using h

@[simp] theorem encapsulationValue_inj {b b' : RealmEncapsulationBinding} :
    encapsulationValue b = encapsulationValue b' ↔ b = b' := by
  cases b
  cases b'
  simp [encapsulationValue]

@[simp] theorem locationValue_inj {l l' : EndpointLocation} :
    locationValue l = locationValue l' ↔ l = l' := by
  cases l
  cases l'
  simp [locationValue]

@[simp] theorem directoryValue_inj {d d' : RealmEndpointDirectory} :
    directoryValue d = directoryValue d' ↔ d = d' := by
  cases d
  cases d'
  simp [directoryValue, map_inj_of_inj locationValue_inj]

@[simp] theorem dhcpValue_inj {d d' : FabricDhcpIntent} : dhcpValue d = dhcpValue d' ↔ d = d' := by
  cases d
  cases d'
  simp [dhcpValue]

@[simp] theorem ofOption_dhcpValue_inj {d d' : Option FabricDhcpIntent} :
    Value.ofOption dhcpValue d = Value.ofOption dhcpValue d' ↔ d = d' :=
  (ofOption_injective (fun _ _ => dhcpValue_inj.mp) (fun _ h => by cases h)).eq_iff

@[simp] theorem fabricRouteValue_inj {r r' : FabricEndpointRoute} :
    fabricRouteValue r = fabricRouteValue r' ↔ r = r' := by
  cases r
  cases r'
  simp [fabricRouteValue]

@[simp] theorem peerValue_inj {p p' : FabricPeer} : peerValue p = peerValue p' ↔ p = p' := by
  cases p
  cases p'
  simp [peerValue]

theorem fabricValue_injective : Injective fabricValue := by
  intro f f' h
  cases f
  cases f'
  simpa [fabricValue, map_inj_of_inj policyValue_inj, map_inj_of_inj policyDefaultValue_inj,
    map_inj_of_inj publicBindingValue_inj, map_inj_of_inj fabricRouteValue_inj,
    map_inj_of_inj peerValue_inj] using h

theorem gatewayValue_ne_fabricValue
    (gateway : L3GatewayExecutionPlan) (fabric : NamespacedRoutedFabricPlan) :
    gatewayValue gateway ≠ fabricValue fabric := by
  intro h
  exact field_ne (by decide) _ _ (List.cons.inj (Value.object.inj h)).1

end Injective

section Fingerprint

/-- `serde_json::to_vec` of an intent, each byte as a character: texts compare as
their bytes do. -/
def intentKey (intent : NetworkPlanIntent) : String :=
  String.ofList ((render (intentValue intent)).map (fun b => Char.ofNat b.toNat))

def generationsValue (generations : Table (Prod.fst : Uuid × Nat → Uuid)) : Value :=
  .object (generations.rows.map (fun row => field row.1 (.number row.2)))

/-- The six members that every fingerprint covers. -/
def headValues (planId : Uuid) (nodeId : String) (operationId : Uuid) (schemaVersion : Nat)
    (generations : Table (Prod.fst : Uuid × Nat → Uuid)) (intents : List NetworkPlanIntent) :
    List Value :=
  [.ofText planId, .ofText nodeId, .ofText operationId, .number schemaVersion,
    generationsValue generations, .array (intents.map intentValue)]

/-- The tuple that `canonical_plan_fingerprint` hashes. -/
def fingerprintValue (input : FingerprintInput NetworkPlanIntent L3GatewayExecutionPlan) : Value :=
  let head := headValues input.planId input.nodeId input.operationId input.schemaVersion
    input.resourceGenerations input.intents
  match input.fabric, input.gateway with
  | some fabric, some gateway => .array (head ++ [gatewayValue gateway, fabricValue fabric])
  | some fabric, none => .array (head ++ [fabricValue fabric])
  | none, some gateway => .array (head ++ [gatewayValue gateway])
  | none, none => .array head

/-- The library with the JSON of `serde_json`, and a hash of bytes. -/
def serdeLibrary (lib : PlanLibrary) (digest : Bytes → String) : PlanLibrary :=
  { lib with
    intentJson := intentKey
    sha256 := fun input => digest (render (fingerprintValue input)) }

theorem intentKey_injective : Injective intentKey := by
  intro i j h
  have hbytes : Injective (fun b : UInt8 => Char.ofNat b.toNat) := by
    intro a b hab
    have hchar : ∀ b : UInt8, (Char.ofNat b.toNat).toNat = b.toNat := by
      intro b
      have hvalid : b.toNat.isValidChar := Or.inl (by have := b.toNat_lt; omega)
      rw [Char.ofNat, dif_pos hvalid]
      rfl
    have hnat := congrArg Char.toNat hab
    rw [hchar, hchar] at hnat
    exact UInt8.toNat_inj.mp hnat
  exact intentValue_injective (render_injective
    (List.map_injective_iff.mpr hbytes (String.ofList_injective h)))

theorem generationsValue_injective : Injective generationsValue := by
  intro g g' h
  refine Table.ext (List.map_injective_iff.mpr ?_ (Value.object.inj h))
  rintro ⟨id, generation⟩ ⟨id', generation'⟩ hrow
  obtain ⟨hid, hgeneration⟩ := Prod.mk.inj hrow
  exact Prod.ext (toUTF8_injective hid) (Value.number.inj hgeneration)

theorem units_injective {gateway gateway' : Option L3GatewayExecutionPlan}
    {fabric fabric' : Option NamespacedRoutedFabricPlan}
    (h :
      gateway.toList.map gatewayValue ++ fabric.toList.map fabricValue
        = gateway'.toList.map gatewayValue ++ fabric'.toList.map fabricValue) :
    gateway = gateway' ∧ fabric = fabric' := by
  have hne := gatewayValue_ne_fabricValue
  have hne' := fun f g => (gatewayValue_ne_fabricValue g f).symm
  cases gateway <;> cases gateway' <;> cases fabric <;> cases fabric' <;>
    simp [gatewayValue_injective.eq_iff, fabricValue_injective.eq_iff, hne, hne'] at h ⊢ <;> exact h

theorem fingerprintValue_eq (input : FingerprintInput NetworkPlanIntent L3GatewayExecutionPlan) :
    fingerprintValue input =
      .array (headValues input.planId input.nodeId input.operationId input.schemaVersion
          input.resourceGenerations input.intents ++
        (input.gateway.toList.map gatewayValue ++ input.fabric.toList.map fabricValue)) := by
  cases hfabric : input.fabric <;> cases hgateway : input.gateway <;>
    simp [fingerprintValue, hfabric, hgateway]

/-- Different inputs of the hash are rendered differently. -/
theorem fingerprintValue_injective : Injective fingerprintValue := by
  intro a b h
  rw [fingerprintValue_eq, fingerprintValue_eq] at h
  obtain ⟨hhead, hunits⟩ := List.append_inj (Value.array.inj h) rfl
  obtain ⟨hgateway, hfabric⟩ := units_injective hunits
  simp only [headValues, List.cons.injEq, ofText_inj, Value.number.injEq,
    generationsValue_injective.eq_iff, Value.array.injEq,
    (List.map_injective_iff.mpr intentValue_injective).eq_iff, and_true] at hhead
  obtain ⟨hplan, hnode, hoperation, hschema, hgenerations, hintents⟩ := hhead
  cases a
  cases b
  simp_all

end Fingerprint

end Planning
end O3k
