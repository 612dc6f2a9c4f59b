import O3k.Fabric.Directory

/-!
# Plans for the hosts of a realm

The admission of a node plan, its fingerprint, and
`compile_fabric_realm_plans`.
-/

namespace O3k
namespace Fabric

open Relational Network

variable {Intent Gateway : Type} (lib : FabricLibrary Intent Gateway)

inductive NetworkPlanError
  | invalidFabricPlan
  deriving DecidableEq

/-- The address with all host bits set. -/
def broadcastAddress (addresses : Ipv4Prefix) : Option Ipv4Addr :=
  let value := addresses.network.toNat + 2 ^ (32 - addresses.prefixLen) - 1
  if value < 2 ^ 32 then some (BitVec.ofNat 32 value) else none

section Checks

variable (fabric : NamespacedRoutedFabricPlan)

def headIsValid (nodeId : String) : Prop :=
  fabric.localHost = nodeId ∧ fabric.localHost ≠ "" ∧
    isUnspecified fabric.localFabricTransportIp = false ∧
    isLoopback fabric.localFabricTransportIp = false ∧
    fabric.localFabricGeneration ≠ 0 ∧ fabric.localUnderlayMtu ≠ 0 ∧
    fabric.localFabricMtu ≠ 0 ∧ fabric.localFabricMtu ≤ fabric.localUnderlayMtu ∧
    (fabric.localUnderlayMtu - fabric.localFabricMtu = 60 ∨
      fabric.localUnderlayMtu - fabric.localFabricMtu = 80) ∧
    fabric.tenantMtu ≤ fabric.localFabricMtu - 50 ∧ fabric.directoryGeneration ≠ 0 ∧
    fabric.tenantMtu ≠ 0 ∧ fabric.tenantMtu ≤ fabric.localFabricMtu ∧
    fabric.policyGeneration ≠ 0 ∧ fabric.proxyMac.utf8ByteSize = 17 ∧
    fabric.encapsulation.realmId = fabric.realmId ∧ fabric.encapsulation.validate = .ok () ∧
    fabric.directory.realmId = fabric.realmId ∧
    fabric.directory.addresses = fabric.realmPrefix ∧
    fabric.directory.directoryGeneration = fabric.directoryGeneration ∧
    fabric.directory.proxyMac = fabric.proxyMac ∧
    fabric.encapsulation.providerKind = .vxlan

def dhcpIsValid (dhcp : FabricDhcpIntent) : Prop :=
  fabric.realmPrefix.contains dhcp.gateway = true ∧
    dhcp.gateway ≠ fabric.realmPrefix.network ∧
    dhcp.gateway ≠ BitVec.allOnes 32 ∧
    broadcastAddress fabric.realmPrefix ≠ some dhcp.gateway

/-- Someone has the identity in the directory. -/
def isPlaced (endpointId : Uuid) : Prop :=
  ∃ entry ∈ fabric.directory.entries, entry.endpointId = endpointId

def policiesAreValid : Prop :=
  (∀ policy ∈ fabric.policies,
      policy.id ≠ nilUuid ∧ policy.endpointId ≠ nilUuid ∧ isPlaced fabric policy.endpointId) ∧
    (fabric.policies.map (·.id)).Nodup

def defaultsAreValid : Prop :=
  (∀ default ∈ fabric.policyDefaults,
      default.policyId ≠ nilUuid ∧ default.endpointId ≠ nilUuid ∧ default.generation ≠ 0 ∧
        default.statefulMode = .stateful ∧ isPlaced fabric default.endpointId) ∧
    (fabric.policyDefaults.map (·.endpointId)).Nodup

def publicBindingsAreValid : Prop :=
  (∀ binding ∈ fabric.publicBindings,
      binding.id ≠ nilUuid ∧ binding.projectId ≠ "" ∧ binding.generation ≠ 0 ∧
        isUnspecified binding.publicAddress = false ∧
        ∃ endpoint ∈ fabric.directory.location binding.endpointId,
          endpoint.projectId = binding.projectId) ∧
    (fabric.publicBindings.map (·.id)).Nodup ∧
    (fabric.publicBindings.map (·.publicAddress)).Nodup ∧
    (fabric.publicBindings.map (·.endpointId)).Nodup

def routesAreValid : Prop :=
  (∀ route ∈ fabric.routes,
      route.destination.prefixLen = 32 ∧ route.realmId = fabric.realmId ∧
        route.targetHost ≠ "" ∧ isUnspecified route.targetFabricTransportIp = false ∧
        isLoopback route.targetFabricTransportIp = false ∧ route.endpointGeneration ≠ 0 ∧
        route.placementGeneration ≠ 0 ∧
        route.realmBindingGeneration = fabric.encapsulation.bindingGeneration ∧
        route.fabricGeneration ≠ 0 ∧
        ∃ entry ∈ fabric.directory.location route.endpointId,
          entry.fixedIp = route.destination.network ∧ entry.selectedHost = route.targetHost) ∧
    (fabric.routes.map (·.destination)).Nodup ∧
    (fabric.routes.map (·.endpointId)).Nodup

def peersAreValid : Prop :=
  (∀ peer ∈ fabric.peers,
      peer.hostId ≠ "" ∧ peer.hostId ≠ fabric.localHost ∧ peer.publicKey ≠ "" ∧
        peer.underlayEndpoint ≠ "" ∧ isUnspecified peer.fabricTransportIp = false ∧
        isLoopback peer.fabricTransportIp = false ∧ peer.fabricGeneration ≠ 0 ∧
        ∃ route ∈ fabric.routes,
          route.targetHost = peer.hostId ∧ route.targetFabricTransportIp = peer.fabricTransportIp) ∧
    (fabric.peers.map (·.hostId)).Nodup ∧
    (fabric.peers.map (·.fabricTransportIp)).Nodup

def routesHavePeers : Prop :=
  ∀ route ∈ fabric.routes,
    ∃ peer ∈ fabric.peers,
      peer.hostId = route.targetHost ∧ peer.fabricTransportIp = route.targetFabricTransportIp

/-- The checks of `validate_fabric`, each of which refuses in the same way. -/
def fabricIsValid (nodeId : String) : Prop :=
  headIsValid fabric nodeId ∧
    (∀ entry ∈ fabric.directory.entries, fabric.realmPrefix.contains entry.fixedIp = true) ∧
    (∀ dhcp ∈ fabric.dhcp, dhcpIsValid fabric dhcp) ∧
    policiesAreValid fabric ∧
    defaultsAreValid fabric ∧
    publicBindingsAreValid fabric ∧
    routesAreValid fabric ∧
    peersAreValid fabric ∧
    routesHavePeers fabric

instance (nodeId : String) : Decidable (headIsValid fabric nodeId) :=
  inferInstanceAs (Decidable (_ ∧ _))

instance (dhcp : FabricDhcpIntent) : Decidable (dhcpIsValid fabric dhcp) :=
  inferInstanceAs (Decidable (_ ∧ _))

instance (endpointId : Uuid) : Decidable (isPlaced fabric endpointId) :=
  inferInstanceAs (Decidable (∃ entry ∈ fabric.directory.entries, _))

instance : Decidable (policiesAreValid fabric) :=
  inferInstanceAs (Decidable (_ ∧ _))

instance : Decidable (defaultsAreValid fabric) :=
  inferInstanceAs (Decidable (_ ∧ _))

instance : Decidable (publicBindingsAreValid fabric) :=
  inferInstanceAs (Decidable (_ ∧ _))

instance : Decidable (routesAreValid fabric) :=
  inferInstanceAs (Decidable (_ ∧ _))

instance : Decidable (peersAreValid fabric) :=
  inferInstanceAs (Decidable (_ ∧ _))

instance : Decidable (routesHavePeers fabric) :=
  inferInstanceAs (Decidable (∀ route ∈ fabric.routes, _))

instance (nodeId : String) : Decidable (fabricIsValid fabric nodeId) :=
  inferInstanceAs (Decidable (_ ∧ _))

end Checks

namespace NodeNetworkPlan

def validateFabric (self : NodeNetworkPlan Intent Gateway) : Except NetworkPlanError Unit :=
  match self.fabric with
  | none => .ok ()
  | some fabric => if fabricIsValid fabric self.nodeId then .ok () else .error .invalidFabricPlan

end NodeNetworkPlan

/-- `canonical_plan_fingerprint`; the JSON of a plan can always be written. -/
def canonicalPlanFingerprint (plan : NodeNetworkPlan Intent Gateway) : String :=
  lib.sha256
    { planId := plan.planId
      nodeId := plan.nodeId
      operationId := plan.operationId
      schemaVersion := plan.schemaVersion
      resourceGenerations := plan.resourceGenerations
      intents := sortBy lib.intentJson plan.intents
      gateway := plan.gateway
      fabric := plan.fabric }

def NodeNetworkPlan.withFabric
    (self : NodeNetworkPlan Intent Gateway) (fabric : NamespacedRoutedFabricPlan) :
    Except NetworkPlanError (NodeNetworkPlan Intent Gateway) :=
  let plan := { self with fabric := some fabric }
  match plan.validateFabric with
  | .error e => .error e
  | .ok () => .ok { plan with fingerprintSha256 := canonicalPlanFingerprint lib plan }

inductive FabricRealmPlanError
  | invalidHostIdentity
  | missingHostIdentity
  | noParticipants
  | invalidDirectory
  | invalidBinding
  | incompatibleMtu
  | fingerprint
  deriving DecidableEq

def nodeNetworkPlanSchemaVersion : Nat := 1

abbrev PlansByHost (Intent Gateway : Type) :=
  Table (Prod.fst : String × NodeNetworkPlan Intent Gateway → String)

structure FabricRealmPlanSet (Intent Gateway : Type) where
  directory : RealmEndpointDirectory
  plans : PlansByHost Intent Gateway

/-- The checks on one participant. -/
def identityIsValid (identity : FabricHostIdentity) : Bool :=
  match lib.parseSocketAddr identity.underlayEndpoint with
  | none => false
  | some endpoint =>
    !isBlank identity.hostId && !isBlank identity.publicKey &&
      !isBlank identity.providerVersion && identity.fabricGeneration ≠ 0 &&
      endpoint.port ≠ 0 && !endpoint.isUnspecified &&
      !isUnspecified identity.fabricTransportIp && !isLoopback identity.fabricTransportIp &&
      !isMulticast identity.fabricTransportIp &&
      (if endpoint.isIpv4 then 1110 else 1130) ≤ identity.underlayMtu &&
      identity.fabricMtu = identity.underlayMtu - overhead endpoint

/-- The loop over the participants. -/
def admitParticipants :
    List FabricHostIdentity → List Ipv4Addr → Table FabricHostIdentity.hostId →
      Except FabricRealmPlanError (Table FabricHostIdentity.hostId)
  | [], _, byHost => .ok byHost
  | identity :: rest, byAgentIp, byHost =>
    if identityIsValid lib identity = false ∨ identity.fabricTransportIp ∈ byAgentIp ∨
        (byHost.get? identity.hostId).isSome then
      .error .invalidHostIdentity
    else
      admitParticipants rest (identity.fabricTransportIp :: byAgentIp) (byHost.put identity)

/-- The hosts of the entries, each once, in order. -/
def hostIds (directory : RealmEndpointDirectory) : Table (id : String → String) :=
  Table.ofList (directory.entries.map (·.selectedHost))

def selectIdentities (byHost : Table FabricHostIdentity.hostId) :
    List String → Except FabricRealmPlanError (List FabricHostIdentity)
  | [] => .ok []
  | hostId :: rest =>
    match byHost.get? hostId with
    | none => .error .missingHostIdentity
    | some identity =>
      match selectIdentities byHost rest with
      | .error e => .error e
      | .ok identities => .ok (identity :: identities)

section Compile

variable (realm : AddressRealm) (binding : RealmEncapsulationBinding)
variable (directoryGeneration : Nat) (operationId : Uuid) (deadlineUnixMs : Nat)

def emptyNodePlan (directory : RealmEndpointDirectory) (hostId : String) :
    NodeNetworkPlan Intent Gateway where
  schemaVersion := nodeNetworkPlanSchemaVersion
  planId := lib.newV5 operationId ("fabric-realm:" ++ realm.id ++ ":" ++ hostId)
  nodeId := hostId
  operationId := operationId
  deadlineUnixMs := deadlineUnixMs
  resourceGenerations :=
    directory.entries.foldl (fun t entry => t.put (entry.endpointId, entry.endpointGeneration))
      (Table.ofList [(realm.id, directoryGeneration)])
  intents := []
  fabric := none
  gateway := none
  fingerprintSha256 := ""

/-- The loop over the selected hosts. -/
def compileHosts
    (directory : RealmEndpointDirectory) (selected : List FabricHostIdentity) (tenantMtu : Nat) :
    List FabricHostIdentity → PlansByHost Intent Gateway →
      Except FabricRealmPlanError (PlansByHost Intent Gateway)
  | [], plans => .ok plans
  | localIdentity :: rest, plans =>
    match directory.compileFabricPlan lib localIdentity selected tenantMtu binding with
    | .error _ => .error .invalidHostIdentity
    | .ok fabric =>
      match
          (emptyNodePlan lib realm directoryGeneration operationId deadlineUnixMs directory
            localIdentity.hostId).withFabric lib fabric with
      | .error _ => .error .fingerprint
      | .ok plan =>
        compileHosts directory selected tenantMtu rest (plans.put (localIdentity.hostId, plan))

/-- `compile_fabric_realm_plans`, once the participants are admitted and the
directory is built. -/
def compileDirectory
    (byHost : Table FabricHostIdentity.hostId) (directory : RealmEndpointDirectory) :
    Except FabricRealmPlanError (FabricRealmPlanSet Intent Gateway) :=
  let hosts := (hostIds directory).rows
  if hosts = [] then
    .error .noParticipants
  else if hosts.any (fun hostId => (byHost.get? hostId).isNone) then
    .error .missingHostIdentity
  else
    match selectIdentities byHost hosts with
    | .error e => .error e
    | .ok selected =>
      match (selected.map (·.fabricMtu)).min? with
      | none => .error .noParticipants
      | some expectedMtu =>
        match (checkedSub expectedMtu 50).filter (576 ≤ ·) with
        | none => .error .incompatibleMtu
        | some tenantMtu =>
          match
              compileHosts lib realm binding directoryGeneration operationId deadlineUnixMs
                directory selected tenantMtu selected ∅ with
          | .error e => .error e
          | .ok plans => .ok ⟨directory, plans⟩

def compileFabricRealmPlans
    (locations : List EndpointLocation) (participants : List FabricHostIdentity) :
    Except FabricRealmPlanError (FabricRealmPlanSet Intent Gateway) :=
  if binding.realmId ≠ realm.id ∨ binding.validate ≠ .ok () then
    .error .invalidBinding
  else if participants = [] then
    .error .noParticipants
  else
    match admitParticipants lib participants [] ∅ with
    | .error e => .error e
    | .ok byHost =>
      match RealmEndpointDirectory.build lib realm locations [] directoryGeneration with
      | .error _ => .error .invalidDirectory
      | .ok directory =>
        compileDirectory lib realm binding directoryGeneration operationId deadlineUnixMs byHost
          directory

end Compile

end Fabric
end O3k
