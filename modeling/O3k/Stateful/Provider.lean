import O3k.Fabric.PolicyRules
import O3k.Planning.PolicyGraph
import O3k.Semantics.Attempts

/-!
# The stateful policy provider

`StatefulPolicyProvider` keeps the policies of all endpoints of a host in one
table of `nft`.  It records what the table is to hold, in its memory and in a
state file, and each call rebuilds the table from the record.
-/

namespace O3k
namespace Stateful

open Relational Semantics
open Network hiding PolicyIntent
open Fabric hiding NetworkPlanError LinuxFabricError
open Planning hiding NetworkPlanError

inductive PolicyNetworkError
  | unknownEndpoint
  | invalidRule
  | corruptState
  | storage
  | commandFailed
  | foreignState
  | ownershipConflict
  | invalidDefault
  | conflictingDefault
  deriving DecidableEq

structure PolicyEndpoint where
  endpointId : Uuid
  address : Ipv4Addr
  deriving DecidableEq

/-- `BTreeMap<Uuid, String>`. -/
abbrev Fingerprints := Table (Prod.fst : Uuid × String → Uuid)

structure Ownership where
  fingerprint : String
  endpointIds : List Uuid
  policies : List PolicyIntent
  defaults : List PolicyDefaultIntent
  endpoints : List PolicyEndpoint
  endpointFingerprints : Fingerprints
  endpointAggregateFingerprints : Fingerprints
  deriving DecidableEq

/-- The digest of the policies and defaults. -/
structure ProviderLibrary where
  fingerprint : List PolicyIntent → List PolicyDefaultIntent → String

def policyMarker : String := "o3k-p9-policy"

/-- The order of the recorded policies: `(endpoint_id, id)`. -/
def recordKey (policy : PolicyIntent) : Uuid ×ₗ Uuid := toLex (policy.endpointId, policy.id)

/-- The address in a map collected from the endpoints; the last one counts. -/
def addressOf (endpoints : List PolicyEndpoint) (id : Uuid) : Option Ipv4Addr :=
  (endpoints.reverse.find? (·.endpointId = id)).map (·.address)

/-- Replace the first endpoint with the identity, or append. -/
def upsertEndpoint (endpoints : List PolicyEndpoint) (endpoint : PolicyEndpoint) :
    List PolicyEndpoint :=
  if endpoints.any (·.endpointId = endpoint.endpointId) then
    modifyFirst (·.endpointId = endpoint.endpointId) (fun _ => endpoint) endpoints
  else
    endpoints ++ [endpoint]

def mergeEndpoints (endpoints known : List PolicyEndpoint) : List PolicyEndpoint :=
  known.foldl upsertEndpoint endpoints

def recordedEndpoints (memory : Option Ownership) : List PolicyEndpoint :=
  (memory.map (·.endpoints)).getD []

def recordedPolicies (memory : Option Ownership) : List PolicyIntent :=
  (memory.map (·.policies)).getD []

def recordedDefaults (memory : Option Ownership) : List PolicyDefaultIntent :=
  (memory.map (·.defaults)).getD []

def policyOf : NetworkPlanIntent → Option PolicyIntent
  | .policy policy => some policy
  | _ => none

def defaultOf : NetworkPlanIntent → Option PolicyDefaultIntent
  | .policyDefault default => some default
  | _ => none

/-- The rule that is added for a policy with its number, and its endpoint; there
is no rule where the endpoint has no address. -/
def policyStep (endpoints : List PolicyEndpoint) (numbered : PolicyIntent × Nat) :
    Uuid × Option NftRule :=
  (numbered.1.endpointId,
    (addressOf endpoints numbered.1.endpointId).map fun address =>
      policyRule policyMarker address numbered.2 numbered.1)

/-- The rules that are added for a default. -/
def defaultSteps (endpoints : List PolicyEndpoint) (default : PolicyDefaultIntent) :
    List (Uuid × Option NftRule) :=
  match addressOf endpoints default.endpointId with
  | none => [(default.endpointId, none)]
  | some address =>
    if default.unmatchedAction = .deny then
      (denyRules policyMarker address).map fun rule => (default.endpointId, some rule)
    else
      []

/-- What is added for the record, after the rule that accepts established
connections. -/
def Ownership.steps (o : Ownership) : List (Uuid × Option NftRule) :=
  (sortBy PolicyIntent.sortKey o.policies).zipIdx.map (policyStep o.endpoints) ++
    o.defaults.flatMap (defaultSteps o.endpoints)

/-- The tests and the verdict of a rule, without its comment. -/
def ruleContent (rule : NftRule) : List NftMatch × NftVerdict := (rule.tests, rule.verdict)

/-- The rules among the steps that are added for an endpoint. -/
def rulesFor (steps : List (Uuid × Option NftRule)) (id : Uuid) :
    List (List NftMatch × NftVerdict) :=
  (steps.filter (·.1 = id)).filterMap fun step => step.2.map ruleContent

/-- What is emitted for an endpoint: the rules of its policies and the drops of
its default. -/
def Ownership.emittedFor (o : Ownership) (id : Uuid) : List (List NftMatch × NftVerdict) :=
  rulesFor o.steps id

/-- A rule of the chain, or a marker that only counts. -/
inductive ChainEntry
  | rule (rule : NftRule)
  | marker (comment : String)
  deriving DecidableEq

def ChainEntry.comment : ChainEntry → String
  | .rule r => r.comment
  | .marker text => text

def ChainEntry.rule? : ChainEntry → Option NftRule
  | .rule r => some r
  | .marker _ => none

/-- The table of `nft`, and its chain once there is one. -/
structure PolicyTable where
  comment : String
  chain : Option (List ChainEntry)
  deriving DecidableEq

/-- The listing of the table contains the text. -/
def PolicyTable.mentions (table : PolicyTable) (text : String) : Bool :=
  containsText text table.comment ||
    (table.chain.getD []).any fun entry => containsText text entry.comment

structure ProviderWorld where
  memory : Option Ownership
  file : Option Ownership
  table : Option PolicyTable

inductive NftCommand
  | deleteTable
  | addTable (comment : String)
  | addChain
  | addEntry (entry : ChainEntry)
  deriving DecidableEq

def NftCommand.apply (table : Option PolicyTable) : NftCommand → Option (Option PolicyTable)
  | .deleteTable => table.map fun _ => none
  | .addTable comment => some (some (table.getD ⟨comment, none⟩))
  | .addChain => table.map fun t => some { t with chain := some (t.chain.getD []) }
  | .addEntry entry => do
    let t ← table
    let chain ← t.chain
    return some { t with chain := some (chain ++ [entry]) }

inductive ProviderCall
  | ownership
  | setOwnership (ownership : Option Ownership)
  | list
  | run (command : NftCommand)
  | storeState (ownership : Ownership)
  | removeFile

@[reducible] def ProviderCall.Reply : ProviderCall → Type
  | .ownership => Option Ownership
  | .setOwnership _ => Unit
  | .list => Except PolicyNetworkError (Option PolicyTable)
  | .run _ => Except PolicyNetworkError Bool
  | .storeState _ => Except PolicyNetworkError Unit
  | .removeFile => Unit

/-- A command is executed, exits without success, or cannot be run; the last two
have no effect. -/
inductive HostAnswer
  | executed
  | unsuccessful
  | failed
  deriving DecidableEq

/-- What a call replies, and the world after it. -/
def exec : (call : ProviderCall) → HostAnswer → ProviderWorld → call.Reply × ProviderWorld
  | .ownership, _, w => (w.memory, w)
  | .setOwnership ownership, _, w => ((), { w with memory := ownership })
  | .list, .executed, w => (.ok w.table, w)
  | .list, .unsuccessful, w => (.ok none, w)
  | .list, .failed, w => (.error .storage, w)
  | .run command, .executed, w =>
    match command.apply w.table with
    | some table => (.ok true, { w with table := table })
    | none => (.ok false, w)
  | .run _, .unsuccessful, w => (.ok false, w)
  | .run _, .failed, w => (.error .storage, w)
  | .storeState ownership, .executed, w => (.ok (), { w with file := some ownership })
  | .storeState _, _, w => (.error .storage, w)
  | .removeFile, .executed, w => ((), { w with file := none })
  | .removeFile, _, w => ((), w)

/-- A call returns an error, or panics. -/
inductive ProviderStop
  | error (error : PolicyNetworkError)
  | panics
  deriving DecidableEq

abbrev Provider := ExceptT ProviderStop (Program ProviderCall ProviderCall.Reply)

def ask (call : ProviderCall) : Provider call.Reply := ExceptT.lift (Program.perform call)

def refuse {α : Type} (error : PolicyNetworkError) : Provider α := throw (.error error)

/-- The value of what is computed locally. -/
def checked {α : Type} (x : Except PolicyNetworkError α) : Provider α :=
  ExceptT.mk (pure (x.mapError .error))

def runCommand (command : NftCommand) : Provider Unit := do
  let answer ← ask (.run command)
  let success ← checked answer
  if success then pure () else refuse .commandFailed

def storeState (ownership : Ownership) : Provider Unit := do
  let answer ← ask (.storeState ownership)
  checked answer

def listTable : Provider (Option PolicyTable) := do
  let answer ← ask .list
  checked answer

/-- `validate_policy`. -/
def policyIsValid (policy : PolicyIntent) : Bool :=
  policy.ports.all (fun ports =>
      ports.start ≤ ports.stop && policy.protocol ≠ .any && policy.protocol ≠ .icmp) &&
    !(policy.direction = .ingress && policy.destination.isSome ||
      policy.direction = .egress && policy.source.isSome)

/-- `validate_default`. -/
def defaultIsValid (default : PolicyDefaultIntent) : Bool :=
  default.statefulMode = .stateful && 0 < default.generation

/-- The checks on the policies of a call. -/
def validatePolicies (endpoints : List PolicyEndpoint) :
    List PolicyIntent → Except PolicyNetworkError Unit
  | [] => .ok ()
  | policy :: rest =>
    if (addressOf endpoints policy.endpointId).isNone then
      .error .unknownEndpoint
    else if !policyIsValid policy then
      .error .invalidRule
    else
      validatePolicies endpoints rest

/-- The checks on the defaults of a call. -/
def validateDefaults (endpoints : List PolicyEndpoint) (defaults : List PolicyDefaultIntent) :
    Except PolicyNetworkError Unit :=
  if ∃ default ∈ defaults,
      default.endpointId = nilUuid ∨ default.policyId = nilUuid ∨
        (addressOf endpoints default.endpointId).isNone ∨ defaultIsValid default = false then
    .error .invalidDefault
  else
    .ok ()

/-- Two neighbours are of one endpoint. -/
def defaultsConflict (defaults : List PolicyDefaultIntent) : Bool :=
  (defaults.zip defaults.tail).any fun (a, b) => a.endpointId = b.endpointId

section Calls

variable (lib : ProviderLibrary)

/-- The record that `apply` derives from the one in the memory. -/
def realization (memory : Option Ownership) (intents : List NetworkPlanIntent)
    (endpoints : List PolicyEndpoint) :
    Except PolicyNetworkError Ownership := do
  let policies := intents.filterMap policyOf
  let defaults := intents.filterMap defaultOf
  validatePolicies endpoints policies
  validateDefaults endpoints defaults
  let isCurrent (id : Uuid) : Bool := endpoints.any (·.endpointId = id)
  let allPolicies :=
    sortBy recordKey
      ((recordedPolicies memory).filter (fun p => !isCurrent p.endpointId) ++ policies)
  let allDefaults :=
    sortBy PolicyDefaultIntent.endpointId
      ((recordedDefaults memory).filter (fun d => !isCurrent d.endpointId) ++ defaults)
  if defaultsConflict allDefaults then
    .error .conflictingDefault
  else
    let allEndpoints := mergeEndpoints (recordedEndpoints memory) endpoints
    if allPolicies.any (fun p => (addressOf allEndpoints p.endpointId).isNone) then
      .error .unknownEndpoint
    else
      .ok
        { fingerprint := lib.fingerprint allPolicies allDefaults
          endpointIds := allEndpoints.map (·.endpointId)
          policies := allPolicies
          defaults := allDefaults
          endpoints := allEndpoints
          endpointFingerprints := (memory.map (·.endpointFingerprints)).getD ∅
          endpointAggregateFingerprints :=
            (memory.map (·.endpointAggregateFingerprints)).getD ∅ }

/-- `ensure_foreign_safe`; it tells whether the table is there. -/
def ensureForeignSafe (memory : Option Ownership) : Provider Bool := do
  let listed ← listTable
  match listed with
  | none => pure false
  | some table =>
    if table.mentions policyMarker = false then
      refuse .foreignState
    else if memory.any (fun o =>
        !table.mentions (policyMarker ++ ":" ++ o.fingerprint)) then
      refuse .ownershipConflict
    else
      pure true

def addRules : List (Uuid × Option NftRule) → Provider Unit
  | [] => pure ()
  | (_, none) :: _ => throw .panics
  | (_, some rule) :: rest => do
    runCommand (.addEntry (.rule rule))
    addRules rest

def deleteExisting (tableExists : Bool) : Provider Unit :=
  if tableExists then runCommand .deleteTable else pure ()

def buildTable (o : Ownership) (tableExists : Bool) : Provider Unit := do
  deleteExisting tableExists
  runCommand (.addTable (policyMarker ++ ":" ++ o.fingerprint))
  runCommand .addChain
  runCommand (.addEntry (.rule (establishedRule policyMarker)))
  addRules o.steps

variable (intents : List NetworkPlanIntent)

def apply (endpoints : List PolicyEndpoint) : Provider Unit := do
  let memory ← ask .ownership
  let next ← checked (realization lib memory intents endpoints)
  let tableExists ← ensureForeignSafe memory
  if memory = some next then
    pure ()
  else if tableExists && memory.isNone then
    refuse .foreignState
  else do
    storeState next
    ask (.setOwnership (some next))
    buildTable next tableExists

/-- The rest of `remove`, once the record is taken out of the memory. -/
def removeOwned (current : Ownership) : Provider Unit := do
  ask (.setOwnership none)
  let listed ← listTable
  match listed with
  | none => ask .removeFile
  | some table =>
    if table.mentions policyMarker = false then do
      ask (.setOwnership (some current))
      refuse .foreignState
    else do
      let answer ← ask (.run .deleteTable)
      let success ← checked answer
      if success then
        ask .removeFile
      else do
        ask (.setOwnership (some current))
        refuse .commandFailed

def remove : Provider Unit := do
  let memory ← ask .ownership
  match memory with
  | none => pure ()
  | some current => removeOwned current

/-- `format!("{ENDPOINT_MARKER}:{}:{endpoint_fingerprint}", endpoint_id.simple())`. -/
def endpointMarker (id : Uuid) (fingerprint : String) : String :=
  "o3k-p9-policy-endpoint:" ++ String.ofList (id.toList.filter (· ≠ '-')) ++ ":" ++ fingerprint

def writeEndpointMarkers : List (Uuid × String) → Provider Unit
  | [] => pure ()
  | (id, fingerprint) :: rest => do
    runCommand (.addEntry (.marker (endpointMarker id fingerprint)))
    writeEndpointMarkers rest

/-- The record with the evidence of the others bound to its fingerprint. -/
def Ownership.rebind (o : Ownership) (endpointId : Uuid) : Ownership :=
  { o with
    endpointFingerprints := o.endpointFingerprints.deleteWhere (·.1 = endpointId)
    endpointAggregateFingerprints :=
      (o.endpointAggregateFingerprints.deleteWhere (·.1 = endpointId)).update
        (fun bound => (bound.1, o.fingerprint)) (fun _ => rfl) }

/-- The intents of all endpoints, with those of one endpoint replaced. -/
def aggregateIntents
    (memory : Option Ownership) (endpointId : Uuid) (intents : List NetworkPlanIntent) :
    List NetworkPlanIntent :=
  ((recordedPolicies memory).filter (·.endpointId ≠ endpointId)).map .policy ++
    ((recordedDefaults memory).filter (·.endpointId ≠ endpointId)).map .policyDefault ++ intents

/-- The end of `apply_endpoint_snapshot`: the evidence is bound anew. -/
def rebindEvidence (endpointId : Uuid) : Provider Unit := do
  let memory ← ask .ownership
  match memory with
  | none => refuse .corruptState
  | some current => do
    let next := current.rebind endpointId
    writeEndpointMarkers next.endpointFingerprints.rows
    storeState next
    ask (.setOwnership (some next))

def applyEndpointSnapshot
    (endpointId : Uuid) (intents : List NetworkPlanIntent) (known : List PolicyEndpoint) :
    Provider Unit := do
  if known.any (·.endpointId = endpointId) = false then
    refuse .unknownEndpoint
  else do
    let memory ← ask .ownership
    let inventory := mergeEndpoints (recordedEndpoints memory) known
    let aggregate := aggregateIntents memory endpointId intents
    if aggregate = [] ∧ memory = none then
      pure ()
    else if aggregate = [] then
      remove
    else do
      apply lib aggregate inventory
      rebindEvidence endpointId

def recordEndpointFingerprint (endpointId : Uuid) (fingerprint : String) : Provider Unit := do
  let memory ← ask .ownership
  match memory with
  | none => refuse .unknownEndpoint
  | some current =>
    if endpointId ∉ current.endpointIds then
      refuse .unknownEndpoint
    else do
      let next :=
        { current with
          endpointFingerprints := current.endpointFingerprints.put (endpointId, fingerprint)
          endpointAggregateFingerprints :=
            current.endpointAggregateFingerprints.put (endpointId, current.fingerprint) }
      runCommand (.addEntry (.marker (endpointMarker endpointId fingerprint)))
      storeState next
      ask (.setOwnership (some next))

/-- The endpoint is named by the intents or by the endpoints. -/
def isTarget (endpoints : List PolicyEndpoint) (id : Uuid) : Bool :=
  (intents.filterMap policyOf).any (·.endpointId = id) ||
    (intents.filterMap defaultOf).any (·.endpointId = id) ||
      endpoints.any (·.endpointId = id)

def namesNothing (endpoints : List PolicyEndpoint) : Bool :=
  (intents.filterMap policyOf).isEmpty && (intents.filterMap defaultOf).isEmpty &&
    endpoints.isEmpty

def removeForPlan (endpoints : List PolicyEndpoint) : Provider Unit := do
  if namesNothing intents endpoints then
    pure ()
  else do
    let memory ← ask .ownership
    match memory with
    | none => pure ()
    | some current =>
      if current.policies.all (fun p => isTarget intents endpoints p.endpointId) then
        remove
      else
        apply lib [] endpoints

end Calls

inductive ProviderMethod
  | apply (intents : List NetworkPlanIntent) (endpoints : List PolicyEndpoint)
  | applyEndpointSnapshot
      (endpointId : Uuid) (intents : List NetworkPlanIntent) (known : List PolicyEndpoint)
  | recordEndpointFingerprint (endpointId : Uuid) (fingerprint : String)
  | remove
  | removeForPlan (intents : List NetworkPlanIntent) (endpoints : List PolicyEndpoint)

/-- A call, with what its commands answer; a call that the process does not
survive, after some steps, and the provider is opened again; or somebody else
changes the table of the host. -/
inductive ProviderEvent
  | call (method : ProviderMethod) (answers : Nat → HostAnswer)
  | crash (method : ProviderMethod) (answers : Nat → HostAnswer) (steps : Nat)
  | host (table : Option PolicyTable)

section Runs

variable (lib : ProviderLibrary)

def ProviderMethod.program : ProviderMethod → Provider Unit
  | .apply intents endpoints => Stateful.apply lib intents endpoints
  | .applyEndpointSnapshot endpointId intents known =>
    Stateful.applyEndpointSnapshot lib endpointId intents known
  | .recordEndpointFingerprint endpointId fingerprint =>
    Stateful.recordEndpointFingerprint endpointId fingerprint
  | .remove => Stateful.remove
  | .removeForPlan intents endpoints => Stateful.removeForPlan lib intents endpoints

namespace ProviderWorld

/-- What a call returns, and the world after it. -/
def perform (w : ProviderWorld) (method : ProviderMethod) (answers : Nat → HostAnswer) :
    Except ProviderStop Unit × ProviderWorld :=
  Program.answered exec answers (method.program lib).run w

def step (w : ProviderWorld) : ProviderEvent → ProviderWorld
  | .call method answers => (w.perform lib method answers).2
  | .crash method answers steps =>
    let reached := Program.interrupted exec answers (method.program lib).run steps w
    { reached with memory := reached.file }
  | .host table => { w with table := table }

/-- A provider opened for the first time, on any host. -/
def opened (table : Option PolicyTable) : ProviderWorld := ⟨none, none, table⟩

end ProviderWorld

end Runs

end Stateful
end O3k
