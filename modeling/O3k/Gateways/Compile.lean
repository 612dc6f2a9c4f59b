import O3k.Execution.Records

/-!
# The two gateway compilers

A gateway connects the realms that are attached to it.  One compiler derives
the routes that each of them gets, the other the snapshot that a host executes:
the address that answers in each realm, and the external realm.
-/

namespace O3k
namespace Gateways

open Relational Network Fabric Execution

structure GatewayIntent where
  destination : Ipv4Prefix
  gateway : Ipv4Addr
  external : Bool
  deriving DecidableEq

structure EgressIntent where
  externalRealmId : Uuid
  enabled : Bool
  nat : Bool
  deriving DecidableEq

/-- `parse_prefix`; every failure is one error of the caller. -/
def parsePrefix? (value : String) : Option Ipv4Prefix :=
  match splitOnce '/' value with
  | none => none
  | some (network, prefixLen) =>
    match Ipv4Addr.parse network, parseU8 prefixLen with
    | some address, some length => Ipv4Prefix.new address length
    | _, _ => none

/-- `u32::from(network).checked_add(1)`. -/
def firstHost (p : Ipv4Prefix) : Option Ipv4Addr :=
  if p.network = BitVec.allOnes 32 then none else some (p.network + 1)

/-- `realms.iter().map(|realm| (realm.id, realm)).collect()`: the last one of an
identity stays. -/
def realmMap (realms : List CanonicalAddressRealmRecord) (id : Uuid) :
    Option CanonicalAddressRealmRecord :=
  realms.reverse.find? (·.id = id)

theorem realmMap_id {realms : List CanonicalAddressRealmRecord} {id : Uuid}
    {realm : CanonicalAddressRealmRecord} (h : realmMap realms id = some realm) :
    realm.id = id := by
  simpa using List.find?_some h

section Compilers

variable (gateway : CanonicalL3GatewayRecord)
variable (attachments : List CanonicalL3GatewayAttachmentRecord)

/-- The loop over the realms: the prefixes of those that are active in the
project, the last one first. -/
def realmPrefixes :
    List CanonicalAddressRealmRecord →
    List (Uuid × Ipv4Prefix) →
    Except NetworkError (List (Uuid × Ipv4Prefix))
  | [], seen => .ok seen
  | realm :: rest, seen =>
    if realm.projectId ≠ gateway.projectId ∨ realm.state ≠ .active then
      realmPrefixes rest seen
    else
      match parsePrefix? realm.prefixText with
      | none => .error .invalidRequest
      | some p => realmPrefixes rest ((realm.id, p) :: seen)

def attachedRealms : List Uuid :=
  sortBy id
    ((attachments.filter (fun a => a.projectId = gateway.projectId ∧ a.state = .active)).map
      (·.realmId)).dedup

variable (pools : Uuid → Option (List CanonicalAddressPoolRecord))

def configuredGateway (realmId : Uuid) : Option Ipv4Addr :=
  (pools realmId).bind (·.findSome? (·.gateway))

/-- The address that the routes of a realm go to. -/
def localGateway (realmId : Uuid) (p : Ipv4Prefix) : Option Ipv4Addr :=
  (configuredGateway pools realmId).or (firstHost p)

/-- The route to one other realm. -/
def routeTo (prefixes : List (Uuid × Ipv4Prefix)) (address : Ipv4Addr) (remote : Uuid) :
    Except NetworkError GatewayIntent :=
  match prefixes.lookup remote with
  | none => .error .notFound
  | some p => .ok ⟨p, address, false⟩

def egressIntents : List EgressIntent :=
  match gateway.externalRealmId with
  | some external => [⟨external, true, gateway.enableSnat⟩]
  | none => []

/-- The body of the loop over the attached realms. -/
def realmIntents (prefixes : List (Uuid × Ipv4Prefix)) (attached : List Uuid) (realmId : Uuid) :
    Except NetworkError (Uuid × List GatewayIntent × List EgressIntent) :=
  match prefixes.lookup realmId with
  | none => .error .notFound
  | some p =>
    match localGateway pools realmId p with
    | none => .error .invalidRequest
    | some address => do
      let routes ← (attached.filter (· ≠ realmId)).mapM (routeTo prefixes address)
      return (realmId, routes, egressIntents gateway)

/-- `compile_l3_gateway_intents`: the entries of the map, in order. -/
def compileL3GatewayIntents (realms : List CanonicalAddressRealmRecord)
    (pools : Uuid → Option (List CanonicalAddressPoolRecord)) :
    Except NetworkError (List (Uuid × List GatewayIntent × List EgressIntent)) :=
  if gateway.state ≠ .active ∨ gateway.generation = 0 then
    .error .invalidRequest
  else do
    let prefixes ← realmPrefixes gateway realms []
    let attached := attachedRealms gateway attachments
    attached.mapM (realmIntents gateway pools prefixes attached)

inductive L3GatewayError
  | invalidPlan
  deriving DecidableEq

variable (realms : Uuid → Option CanonicalAddressRealmRecord)

/-- The body of the loop over the attachments that are active. -/
def executionAttachment (attachment : CanonicalL3GatewayAttachmentRecord) :
    Except L3GatewayError L3GatewayExecutionAttachment :=
  if attachment.projectId ≠ gateway.projectId ∨ attachment.gatewayId ≠ gateway.id then
    .error .invalidPlan
  else
    match realms attachment.realmId with
    | none => .error .invalidPlan
    | some realm =>
      if realm.projectId ≠ gateway.projectId ∨ realm.state ≠ .active then
        .error .invalidPlan
      else
        match parsePrefix? realm.prefixText with
        | none => .error .invalidPlan
        | some p =>
          match firstHost p with
          | none => .error .invalidPlan
          | some address =>
            .ok
              { attachmentId := attachment.id
                attachmentGeneration := attachment.generation
                realmId := realm.id
                realmGeneration := realm.generation
                realmPrefix := p
                gatewayAddress := address }

def externalRealm : Option CanonicalAddressRealmRecord := gateway.externalRealmId.bind realms

/-- `.map(|realm| parse_prefix(&realm.prefix)).transpose()`. -/
def externalRealmPrefix : Except L3GatewayError (Option Ipv4Prefix) :=
  match externalRealm gateway realms with
  | none => .ok none
  | some realm =>
    match parsePrefix? realm.prefixText with
    | none => .error .invalidPlan
    | some p => .ok (some p)

/-- `compile_l3_gateway_execution_plan`; it has one error. -/
def compileL3GatewayExecutionPlan : Except L3GatewayError L3GatewayExecutionPlan :=
  if gateway.state ≠ .active ∨ gateway.generation = 0 ∨ gateway.projectId = "" then
    .error .invalidPlan
  else do
    let found ← (attachments.filter (·.state = .active)).mapM (executionAttachment gateway realms)
    let externalPrefix ← externalRealmPrefix gateway realms
    return {
      gatewayId := gateway.id
      projectId := gateway.projectId
      gatewayGeneration := gateway.generation
      attachments := sortBy (·.attachmentId) found
      externalRealmId := gateway.externalRealmId
      externalRealmPrefix := externalPrefix
      externalRealmGeneration := (externalRealm gateway realms).map (·.generation)
      enableSnat := gateway.enableSnat }

end Compilers

end Gateways
end O3k
