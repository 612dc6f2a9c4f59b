import O3k.Network.Calls
import O3k.Semantics.Program

/-!
# The network service: canonical networks, realms, pools and endpoints

A service call is a program over repository calls that ends with a
`NetworkError` or a value.  The wrappers that authorise a request and publish
an audit event are left out: they make no repository call that writes.  So is
the in-process lock, which another process does not take part in.

What the code draws while it runs is an argument of the program: a fresh
`Uuid`, a reading of the clock, and the answer of the quota authority.
-/

namespace O3k
namespace Network

open Relational Semantics Operations

inductive NetworkError
  | unauthorized
  | notFound
  | conflict
  | invalidRequest
  | quotaExceeded (key : LimitKey) (limit : LimitValue) (used requested : Nat)
  | poolExhausted
  | store (error : StoreError)
  | corruptBindingState
  deriving DecidableEq

def mapStoreError : StoreError → NetworkError
  | .resourceAlreadyExists => .conflict
  | .networkNotFound => .notFound
  | .resourceNotFound => .notFound
  | .networkInUse => .conflict
  | .staleGeneration => .conflict
  | .ownershipConflict => .notFound
  | .quotaExceeded key limit used requested => .quotaExceeded key limit used requested
  | .reservationConflict _ => .conflict
  | other => .store other

/-- What the service takes from its libraries: `deterministic_port_mac`, the
version 5 identifier of a name in the URL name space, the SHA-256 fingerprint of
a text, the first four bytes of an identifier, and the text of a store error. -/
structure NetworkLibrary extends TextLibrary where
  portMac : Uuid → String
  urlId : String → Uuid
  sha256 : String → String
  vniSeed : Uuid → Nat
  displayStore : StoreError → String

abbrev Service (α : Type) := ExceptT NetworkError (Program RepositoryCall RepositoryCall.Reply) α

namespace Service

def call (c : RepositoryCall) : Service c.Reply := ExceptT.lift (Program.perform c)

/-- `.map_err(map_store_error)?`. -/
def mapped {α : Type} (x : Except StoreError α) : Service α :=
  ExceptT.mk (pure (x.mapError mapStoreError))

/-- `.ok_or(error)?`. -/
def okOr {α : Type} (error : NetworkError) (x : Option α) : Service α :=
  ExceptT.mk (pure (match x with | some a => .ok a | none => .error error))

/-- Return with `error` unless the condition holds. -/
def ensure (p : Prop) [Decidable p] (error : NetworkError) : Service Unit :=
  ExceptT.mk (pure (if p then .ok () else .error error))

/-- Run a step for every element of a list, in order. -/
def forEach {α : Type} (f : α → Service Unit) :
    List α → Service Unit
  | [] => pure ()
  | x :: xs => do
    f x
    forEach f xs

end Service

open Service

variable (projectId : String)

def getCanonicalNetworkForProject (id : Uuid) : Service CanonicalNetworkRecord := do
  okOr .notFound (← call (.getCanonicalNetwork projectId id))

def createCanonicalNetworkForProject (projectId name : String) (freshId : Uuid) : Service Unit := do
  ensure (¬ isBlank projectId ∧ ¬ isBlank name) .invalidRequest
  let networks ← call (.listCanonicalNetworks projectId)
  ensure (∀ n ∈ networks, n.name ≠ name) .conflict
  let network : CanonicalNetworkRecord :=
    { id := freshId
      projectId := projectId
      name := name
      adminStateUp := true
      generation := 1
      state := .active }
  mapped (← call (.insertCanonicalNetwork network))

/-- `release` is the answer to the release of the quota reservation. -/
def deleteCanonicalNetworkForProject (id : Uuid) (release : Except StoreError Unit) :
    Service Unit := do
  mapped (← call (.deleteCanonicalNetwork projectId id))
  match ← call (.deleteNetwork projectId id) with
  | .ok () | .error .resourceNotFound | .error .networkNotFound => pure ()
  | .error error => throw (mapStoreError error)
  mapped release

def parseNet (value : String) : Service Ipv4Net := okOr .invalidRequest (Ipv4Net.parse? value)

/-- The row of the generic index that a realm is created with. -/
def CanonicalAddressRealmRecord.resource (realm : CanonicalAddressRealmRecord) :
    ResourceRecord where
  id := realm.id
  kind := "network:address_realm"
  projectId := realm.projectId
  generation := 1
  observedGeneration := 1
  desiredState := realm.state.asStr
  observedState := realm.state.asStr
  providerId := none

def createCanonicalRealmForProject
    (networkId : Uuid) (prefixText : String) (overlappingPrefixes : Bool) (freshId : Uuid) :
    Service Unit := do
  let net ← parseNet prefixText
  let network ← okOr .notFound (← call (.getCanonicalNetwork projectId networkId))
  ensure (network.state = .active) .conflict
  let realm : CanonicalAddressRealmRecord :=
    { id := freshId
      networkId := networkId
      projectId := projectId
      prefixText := net.canonical
      overlappingPrefixes := overlappingPrefixes
      generation := 1
      state := .active }
  mapped (← call (.insertCanonicalRealm realm))
  match ← call (.insertResource realm.resource) with
  | .ok () => pure ()
  | .error error =>
    let _ ← call (.deleteCanonicalRealm projectId realm.id)
    throw (mapStoreError error)

/-- `let [realm] = realms.as_slice() else { return Err(Conflict) }`, of the
active ones. -/
def soleActiveRealm (realms : List CanonicalAddressRealmRecord) :
    Service CanonicalAddressRealmRecord :=
  match realms.filter (fun r => r.state = .active) with
  | [realm] => pure realm
  | _ => throw .conflict

def advanceFabricRealmGeneration (networkId : Uuid) : Service Unit := do
  let realm ← soleActiveRealm (← call (.listCanonicalRealms projectId networkId))
  let _ ← mapped
    (← call (.advanceCanonicalRealmGeneration projectId realm.id realm.generation))

def maxVni : Nat := 0x000fffff

def vxlanBinding (fabricDomainId realmId : Uuid) (segment generation : Nat) :
    RealmEncapsulationBinding where
  fabricDomainId := fabricDomainId
  realmId := realmId
  providerKind := .vxlan
  providerSegmentId := segment
  bindingGeneration := generation

def storedVxlanBinding (fabricDomainId realmId : Uuid) (existing : CanonicalRealmBindingRecord) :
    Service RealmEncapsulationBinding := do
  ensure (existing.providerKind = "vxlan" ∧ existing.state = .active) .conflict
  ensure (existing.providerSegmentId < 2 ^ 32) .invalidRequest
  return vxlanBinding fabricDomainId realmId existing.providerSegmentId existing.bindingGeneration

/-- The row that a probe tries to insert. -/
def vxlanCandidate (domainKey : String) (realmId : Uuid) (segment : Nat) :
    CanonicalRealmBindingRecord where
  fabricDomainId := domainKey
  realmId := realmId
  providerKind := "vxlan"
  providerSegmentId := segment
  bindingGeneration := 1
  state := .active

/-- The probes of `ensure_vxlan_realm_binding`, from an offset on.  A binding
that the realm has been given meanwhile is not validated. -/
def probeVni (fabricDomainId realmId : Uuid) (seed : Nat) :
    (remaining : Nat) → Service RealmEncapsulationBinding
  | 0 => throw .poolExhausted
  | remaining + 1 => do
    let segment := (seed + (maxVni - (remaining + 1))) % maxVni + 1
    let candidate := vxlanCandidate fabricDomainId realmId segment
    match ← call (.insertCanonicalRealmBinding candidate) with
    | .ok () => return vxlanBinding fabricDomainId realmId segment 1
    | .error .resourceAlreadyExists =>
      match ← call (.getCanonicalRealmBinding fabricDomainId realmId) with
      | some existing => storedVxlanBinding fabricDomainId realmId existing
      | none => probeVni fabricDomainId realmId seed remaining
    | .error error => throw (mapStoreError error)

def ensureVxlanRealmBinding
    (lib : NetworkLibrary) (fabricDomainId : Uuid) (realm : CanonicalAddressRealmRecord) :
    Service RealmEncapsulationBinding := do
  ensure (fabricDomainId ≠ nilUuid ∧ realm.state = .active) .invalidRequest
  match ← call (.getCanonicalRealmBinding fabricDomainId realm.id) with
  | some existing =>
    let binding ← storedVxlanBinding fabricDomainId realm.id existing
    ensure (binding.validate = .ok ()) .conflict
    return binding
  | none => probeVni fabricDomainId realm.id (lib.vniSeed realm.id % maxVni) maxVni

def createCanonicalPoolForProject (realmId : Uuid) (prefixText : String) (gateway : Option Ipv4Addr)
    (firstUsable lastUsable : Ipv4Addr) (freshId : Uuid) :
    Service Unit := do
  let poolNet ← parseNet prefixText
  ensure (firstUsable ≤ lastUsable ∧ poolNet.contains firstUsable = true
    ∧ poolNet.contains lastUsable = true) .invalidRequest
  let realm ← okOr .notFound (← call (.getCanonicalRealm projectId realmId))
  ensure (realm.state = .active) .conflict
  let realmNet ← parseNet realm.prefixText
  ensure (realmNet.contains poolNet.network = true ∧ realmNet.length ≤ poolNet.length)
    .invalidRequest
  ensure (∀ value ∈ gateway, poolNet.contains value = true) .invalidRequest
  let pool : CanonicalAddressPoolRecord :=
    { id := freshId
      realmId := realmId
      projectId := projectId
      prefixText := poolNet.canonical
      gateway := gateway
      firstUsable := firstUsable
      lastUsable := lastUsable
      generation := 1
      state := .active }
  mapped (← call (.insertCanonicalPool pool))

def deleteCanonicalPool (poolId : Uuid) : Service Unit := do
  mapped (← call (.deleteCanonicalPool projectId poolId))

def createCanonicalEndpointForProject
    (realmId : Uuid) (fixedIp : Ipv4Addr) (mac : String) (freshId : Uuid) :
    Service Unit := do
  ensure (¬ isBlank mac) .invalidRequest
  let realm ← okOr .notFound (← call (.getCanonicalRealm projectId realmId))
  let net ← parseNet realm.prefixText
  ensure (net.contains fixedIp = true ∧ realm.state = .active) .invalidRequest
  let endpoint : CanonicalEndpointRecord :=
    { id := freshId
      realmId := realmId
      projectId := projectId
      fixedIp := fixedIp
      mac := mac
      generation := 1
      state := .active }
  mapped (← call (.insertCanonicalEndpoint endpoint))

/-- `delete_canonical_endpoint` of the service. -/
def deleteEndpoint (endpointId : Uuid) : Service Unit := do
  mapped (← call (.deleteCanonicalEndpoint projectId endpointId))

def checkExternalRealm : Option Uuid → Service Unit
  | none => pure ()
  | some realmId => do
    let realm ← okOr .notFound (← call (.getCanonicalRealm projectId realmId))
    ensure (realm.state = .active) .conflict

def createL3GatewayForProjectWithId
    (id : Uuid) (projectId name : String) (externalRealmId : Option Uuid) (enableSnat : Bool) :
    Service Unit := do
  ensure (¬ isBlank name) .invalidRequest
  checkExternalRealm projectId externalRealmId
  let gateway : CanonicalL3GatewayRecord :=
    { id := id
      projectId := projectId
      name := name
      externalRealmId := externalRealmId
      enableSnat := enableSnat
      generation := 1
      state := .active }
  mapped (← call (.insertCanonicalL3Gateway gateway))

def attachL3GatewayRealmWithId (id : Uuid) (projectId : String) (gatewayId realmId : Uuid) :
    Service Unit := do
  let gateway ← okOr .notFound (← call (.getCanonicalL3Gateway projectId gatewayId))
  ensure (gateway.state = .active) .conflict
  let realm ← okOr .notFound (← call (.getCanonicalRealm projectId realmId))
  ensure (realm.state = .active) .conflict
  let attachments ← call (.listCanonicalL3GatewayAttachments projectId gatewayId)
  -- the relation is a deletion reservation as well, so it is not replaced
  ensure (∀ a ∈ attachments, a.realmId ≠ realmId) .conflict
  let attachment : CanonicalL3GatewayAttachmentRecord :=
    { id := id
      gatewayId := gatewayId
      realmId := realmId
      projectId := projectId
      generation := 1
      state := .active }
  mapped (← call (.insertCanonicalL3GatewayAttachment attachment))

def updateL3GatewayForProject (gatewayId : Uuid) (expectedGeneration : Nat) (name : String)
    (externalRealmId : Option Uuid) (enableSnat : Bool) :
    Service Unit := do
  ensure (¬ isBlank name) .invalidRequest
  checkExternalRealm projectId externalRealmId
  let _ ← mapped
    (← call (.updateCanonicalL3Gateway projectId gatewayId expectedGeneration name
      externalRealmId enableSnat))

def deleteL3GatewayForProject (gatewayId : Uuid) (expectedGeneration : Nat) : Service Unit := do
  let _ ← mapped
    (← call (.beginCanonicalL3GatewayDeletion projectId gatewayId expectedGeneration))

def finalizeL3GatewayDeletionForProject (gatewayId : Uuid) (expectedGeneration : Nat) :
    Service Unit := do
  mapped (← call (.finalizeCanonicalL3GatewayDeletion projectId gatewayId expectedGeneration))

def detachL3GatewayRealm (attachmentId : Uuid) (expectedGeneration : Nat) : Service Unit := do
  let _ ← mapped
    (← call (.beginCanonicalL3GatewayAttachmentDeletion projectId attachmentId expectedGeneration))

def finalizeL3GatewayRealmDetachmentForProject (attachmentId : Uuid) (expectedGeneration : Nat) :
    Service Unit := do
  mapped
    (← call (.finalizeCanonicalL3GatewayAttachmentDeletion projectId attachmentId
      expectedGeneration))

end Network
end O3k
