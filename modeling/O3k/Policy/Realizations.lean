import O3k.Network.Service
import O3k.Planning.PolicyGraph

/-!
# Policy realizations: the store and the provider

The realization record of an endpoint, the statements on it, and the provider
as a register for each endpoint that `apply_policy_snapshot` overwrites with
the fingerprint it is given.

The compiled policy of an endpoint is a function of the canonical graph, which
anybody may change at any time.  What the provider answers beside the content
of its register is left to the environment.
-/

namespace O3k
namespace Policy

open Relational Semantics Network
open Planning (CanonicalPolicyCompileError)

/-- A `Uuid::now_v7()`: the ids drawn are distinct, so they are numbered. -/
abbrev AttemptId := Nat

inductive RealizationState
  | pending
  | applying
  | realized
  | failed
  | unknown
  deriving DecidableEq

structure CanonicalPolicyRealizationRecord where
  endpointId : Uuid
  projectId : String
  attemptId : AttemptId
  desiredFingerprint : String
  desiredGeneration : Nat
  observedFingerprint : Option String
  observedGeneration : Option Nat
  state : RealizationState
  providerResourceId : Option String
  lastOutcome : Option String
  deriving DecidableEq

inductive PolicyApplyOutcome
  | success (providerResourceId : Option String)
  | definiteFailure (reason : String)
  | unknown (reason : String)
  deriving DecidableEq

inductive PolicyObservation
  | observed (fingerprint : String) (generation : Option Nat) (providerResourceId : Option String)
  | absent
  | unknown (reason : String)
  deriving DecidableEq

inductive CanonicalPolicyServiceError
  | notFound
  | staleSnapshot
  | compile (error : CanonicalPolicyCompileError)
  | store (error : StoreError)
  | fingerprint
  deriving DecidableEq

/-- What a compilation gives: the snapshot, its fingerprint and its generation. -/
structure Compiled (Snapshot : Type) where
  snapshot : Snapshot
  fingerprint : String
  generation : Nat

/-- What the realization of policies reads of the canonical graph:
`compile_endpoint_with_metadata`, and the rows that the foreign key refers to. -/
structure GraphReader (Graph Snapshot : Type) where
  compileEndpointWithMetadata :
    Graph → String → Uuid → Except CanonicalPolicyServiceError (Compiled Snapshot)
  hasEndpoint : Graph → String → Uuid → Bool

/-- What the provider says beside the content of its register. -/
structure ProviderAnswer where
  outcome : PolicyApplyOutcome
  reachable : Except String (Option Nat × Option String)

structure World (Graph : Type) where
  graph : Graph
  realizations : Table CanonicalPolicyRealizationRecord.endpointId
  /-- The attempts recorded so far, by the fingerprint each was recorded for;
  the next id is their number. -/
  attempts : List String
  register : Uuid → Option String
  answer : ProviderAnswer

/-- The columns that an outcome sets, and the row that it expects. -/
structure OutcomeUpdate where
  project : String
  endpoint : Uuid
  expected : String
  expectedAttemptId : AttemptId
  state : RealizationState
  observed : Option String
  observedGeneration : Option Nat
  providerResourceId : Option String
  lastOutcome : Option String
  deriving DecidableEq

def OutcomeUpdate.expects (u : OutcomeUpdate) (r : CanonicalPolicyRealizationRecord) : Prop :=
  r.endpointId = u.endpoint ∧
    r.projectId = u.project ∧
    r.desiredFingerprint = u.expected ∧
    r.attemptId = u.expectedAttemptId

instance (u : OutcomeUpdate) (r : CanonicalPolicyRealizationRecord) : Decidable (u.expects r) :=
  inferInstanceAs (Decidable (_ ∧ _))

inductive PolicyCall (Snapshot : Type)
  | compileEndpointWithMetadata (projectId : String) (endpointId : Uuid)
  | getPolicyRealization (project : String) (endpoint : Uuid)
  | listPolicyRealizations (project : String)
  /-- The attempt id is drawn with the statement that records it. -/
  | upsertPolicyRealization (r : CanonicalPolicyRealizationRecord)
  | requeuePolicyRealization (expectedAttemptId : AttemptId) (r : CanonicalPolicyRealizationRecord)
  | setPolicyRealizationOutcome (u : OutcomeUpdate)
  /-- The provider is not told the attempt; it says who calls. -/
  | applyPolicySnapshot (attemptId : AttemptId) (endpointId : Uuid) (snapshot : Snapshot)
      (fingerprint : String)
  | observePolicySnapshot (endpointId : Uuid)

namespace PolicyCall

variable {Graph Snapshot : Type}

abbrev Reply : PolicyCall Snapshot → Type
  | compileEndpointWithMetadata _ _ => Except CanonicalPolicyServiceError (Compiled Snapshot)
  | getPolicyRealization _ _ => Except StoreError (Option CanonicalPolicyRealizationRecord)
  | listPolicyRealizations _ => Except StoreError (List CanonicalPolicyRealizationRecord)
  | upsertPolicyRealization _ => Except StoreError AttemptId
  | requeuePolicyRealization _ _ => Except StoreError Unit
  | setPolicyRealizationOutcome _ => Except StoreError Unit
  | applyPolicySnapshot _ _ _ _ => PolicyApplyOutcome
  | observePolicySnapshot _ => PolicyObservation

end PolicyCall

section Statements

variable {Graph Snapshot : Type} (reader : GraphReader Graph Snapshot) (w : World Graph)

/-- `generation.map(checked_generation).transpose()`. -/
def checkedObservedGeneration : Option Nat → Except StoreError Unit
  | none => .ok ()
  | some generation => checkedGeneration generation

/-- The `CHECK`s of the table. -/
def CanonicalPolicyRealizationRecord.SatisfiesChecks (r : CanonicalPolicyRealizationRecord) :
    Prop :=
  0 < r.desiredGeneration ∧ ∀ generation ∈ r.observedGeneration, 0 < generation

instance (r : CanonicalPolicyRealizationRecord) : Decidable r.SatisfiesChecks :=
  inferInstanceAs (Decidable (_ ∧ _))

/-- What an `UPDATE` of one row writes: `StaleGeneration` if there is none. -/
def updateRow (new : Option CanonicalPolicyRealizationRecord) :
    Except StoreError Unit × World Graph :=
  match new with
  | none => (.error .staleGeneration, w)
  | some new =>
    if new.SatisfiesChecks then
      (.ok (), { w with realizations := w.realizations.put new })
    else
      (.error (.database .checkViolation), w)

/-- `INSERT … ON CONFLICT(endpoint_id) DO UPDATE`. -/
def upsertPolicyRealization (r : CanonicalPolicyRealizationRecord) :
    Except StoreError AttemptId × World Graph :=
  if r.endpointId = nilUuid ∨ isBlank r.projectId ∨ r.desiredFingerprint = "" ∨
      r.desiredGeneration = 0 then
    (.error (.corrupt "invalid policy realization"), w)
  else
    match checkedGeneration r.desiredGeneration, checkedObservedGeneration r.observedGeneration with
    | .error e, _ => (.error e, w)
    | _, .error e => (.error e, w)
    | .ok (), .ok () =>
      if ¬ r.SatisfiesChecks then
        (.error (.database .checkViolation), w)
      else if reader.hasEndpoint w.graph r.projectId r.endpointId then
        (.ok w.attempts.length,
          { w with
            realizations := w.realizations.put { r with attemptId := w.attempts.length }
            attempts := w.attempts ++ [r.desiredFingerprint] })
      else
        (.error (.database .foreignKeyViolation), w)

/-- `UPDATE … WHERE endpoint_id=? AND project_id=? AND attempt_id=?`. -/
def requeuePolicyRealization
    (expectedAttemptId : AttemptId) (r : CanonicalPolicyRealizationRecord) :
    Except StoreError Unit × World Graph :=
  match checkedGeneration r.desiredGeneration, checkedObservedGeneration r.observedGeneration with
  | .error e, _ => (.error e, w)
  | _, .error e => (.error e, w)
  | .ok (), .ok () =>
    updateRow w
      (((w.realizations.get? r.endpointId).filter fun old =>
          old.projectId = r.projectId ∧ old.attemptId = expectedAttemptId).map fun old =>
        { old with
          attemptId := r.attemptId
          desiredFingerprint := r.desiredFingerprint
          desiredGeneration := r.desiredGeneration
          observedFingerprint := r.observedFingerprint
          observedGeneration := r.observedGeneration
          state := r.state
          providerResourceId := r.providerResourceId
          lastOutcome := r.lastOutcome })

/-- `UPDATE … WHERE endpoint_id=? AND project_id=? AND desired_fingerprint=? AND attempt_id=?`. -/
def setPolicyRealizationOutcome (u : OutcomeUpdate) : Except StoreError Unit × World Graph :=
  match checkedObservedGeneration u.observedGeneration with
  | .error e => (.error e, w)
  | .ok () =>
    updateRow w
      (((w.realizations.get? u.endpoint).filter u.expects).map fun old =>
        { old with
          observedFingerprint := u.observed
          observedGeneration := u.observedGeneration
          state := u.state
          providerResourceId := u.providerResourceId
          lastOutcome := u.lastOutcome })

def observePolicySnapshot (endpointId : Uuid) : PolicyObservation :=
  match w.answer.reachable with
  | .error reason => .unknown reason
  | .ok (generation, providerResourceId) =>
    match w.register endpointId with
    | some fingerprint => .observed fingerprint generation providerResourceId
    | none => .absent

def exec : (c : PolicyCall Snapshot) → World Graph → c.Reply × World Graph
  | .compileEndpointWithMetadata projectId endpointId, w =>
    (reader.compileEndpointWithMetadata w.graph projectId endpointId, w)
  | .getPolicyRealization project endpoint, w =>
    (.ok ((w.realizations.get? endpoint).filter (·.projectId = project)), w)
  | .listPolicyRealizations project, w =>
    (.ok (w.realizations.rows.filter (·.projectId = project)), w)
  | .upsertPolicyRealization r, w => upsertPolicyRealization reader w r
  | .requeuePolicyRealization expectedAttemptId r, w =>
    requeuePolicyRealization w expectedAttemptId r
  | .setPolicyRealizationOutcome u, w => setPolicyRealizationOutcome w u
  | .applyPolicySnapshot _ endpointId _ fingerprint, w =>
    (w.answer.outcome,
      { w with register := Function.update w.register endpointId (some fingerprint) })
  | .observePolicySnapshot endpointId, w => (observePolicySnapshot w endpointId, w)

/-- What else happens: the graph changes, with the endpoints go their
realizations, and the provider changes its mind. -/
inductive Environment (Graph : Type)
  | mutate (graph : Graph)
  | provider (answer : ProviderAnswer)

def environment (e : Environment Graph) (w : World Graph) : World Graph :=
  match e with
  | .mutate graph =>
    { w with
      graph := graph
      realizations :=
        w.realizations.deleteWhere fun r => !reader.hasEndpoint graph r.projectId r.endpointId }
  | .provider answer => { w with answer := answer }

end Statements

/-!
# Reconciliation of the policy of an endpoint

`reconcile_endpoint_policy` and `recover_policy_realizations`, as programs.
-/

open Semantics

variable {Snapshot : Type}

abbrev PolicyService (Snapshot α : Type) :=
  ExceptT CanonicalPolicyServiceError (Program (PolicyCall Snapshot) PolicyCall.Reply) α

namespace PolicyService

/-- Return with `error` unless the condition holds. -/
def ensure (p : Prop) [Decidable p] (error : CanonicalPolicyServiceError) :
    PolicyService Snapshot Unit :=
  ExceptT.mk (pure (if p then .ok () else .error error))

def call (c : PolicyCall Snapshot) : PolicyService Snapshot c.Reply :=
  ExceptT.lift (Program.perform c)

/-- `.await?` on the repository. -/
def stored {α : Type} (x : Except StoreError α) : PolicyService Snapshot α :=
  ExceptT.mk (pure (x.mapError .store))

def compiled (projectId : String) (endpointId : Uuid) :
    PolicyService Snapshot (Compiled Snapshot) :=
  ExceptT.mk (Program.perform (PolicyCall.compileEndpointWithMetadata projectId endpointId))

end PolicyService

open PolicyService

/-- The record that an outcome of the provider stands for. -/
def realizationOf
    (projectId : String) (endpointId : Uuid) (attemptId : AttemptId) (fingerprint : String)
    (generation : Nat) :
    PolicyApplyOutcome → CanonicalPolicyRealizationRecord
  | .success providerResourceId =>
    { endpointId := endpointId
      projectId := projectId
      attemptId := attemptId
      desiredFingerprint := fingerprint
      desiredGeneration := generation
      observedFingerprint := some fingerprint
      observedGeneration := some generation
      state := .realized
      providerResourceId := providerResourceId
      lastOutcome := some "success" }
  | .definiteFailure reason =>
    { endpointId := endpointId
      projectId := projectId
      attemptId := attemptId
      desiredFingerprint := fingerprint
      desiredGeneration := generation
      observedFingerprint := none
      observedGeneration := none
      state := .failed
      providerResourceId := none
      lastOutcome := some reason }
  | .unknown reason =>
    { endpointId := endpointId
      projectId := projectId
      attemptId := attemptId
      desiredFingerprint := fingerprint
      desiredGeneration := generation
      observedFingerprint := none
      observedGeneration := none
      state := .unknown
      providerResourceId := none
      lastOutcome := some reason }

variable (r : CanonicalPolicyRealizationRecord)

/-- The outcome of a realization, expected at its own attempt. -/
def CanonicalPolicyRealizationRecord.update : OutcomeUpdate :=
  { project := r.projectId
    endpoint := r.endpointId
    expected := r.desiredFingerprint
    expectedAttemptId := r.attemptId
    state := r.state
    observed := r.observedFingerprint
    observedGeneration := r.observedGeneration
    providerResourceId := r.providerResourceId
    lastOutcome := r.lastOutcome }

/-- A success that came too late to be current. -/
def CanonicalPolicyRealizationRecord.requeued (current : Compiled Snapshot) :
    CanonicalPolicyRealizationRecord :=
  { r with
    desiredFingerprint := current.fingerprint
    desiredGeneration := current.generation
    state := .pending
    lastOutcome := some "stale provider success; requeue" }

variable (realization : CanonicalPolicyRealizationRecord)

/-- `reconcile_endpoint_policy` after an answer that is no success. -/
def setOutcome : PolicyService Snapshot Unit := do
  stored (← call (.setPolicyRealizationOutcome realization.update))

/-- `reconcile_endpoint_policy` after a success: the graph may have changed meanwhile. -/
def recordSuccess : PolicyService Snapshot Unit := do
  let current ← compiled realization.projectId realization.endpointId
  if current.fingerprint ≠ realization.desiredFingerprint then do
    stored (← call (.requeuePolicyRealization realization.attemptId (realization.requeued current)))
  else
    setOutcome realization

def recordOutcome :
    PolicyApplyOutcome → PolicyService Snapshot Unit
  | .success _ => recordSuccess realization
  | .definiteFailure _ => setOutcome realization
  | .unknown _ => setOutcome realization

def reconcileEndpointPolicy
    (projectId : String) (endpointId : Uuid) (expectedFingerprint : Option String) :
    PolicyService Snapshot PolicyApplyOutcome := do
  let ⟨snapshot, fingerprint, generation⟩ ← compiled projectId endpointId
  ensure (∀ expected ∈ expectedFingerprint, expected = fingerprint) .staleSnapshot
  let previous ← stored (← call (.getPolicyRealization projectId endpointId))
  let attemptId ← stored (← call (.upsertPolicyRealization
    { endpointId := endpointId
      projectId := projectId
      attemptId := 0
      desiredFingerprint := fingerprint
      desiredGeneration := generation
      observedFingerprint := previous.bind (·.observedFingerprint)
      observedGeneration := previous.bind (·.observedGeneration)
      state := .applying
      providerResourceId := none
      lastOutcome := none }))
  let outcome ← call (.applyPolicySnapshot attemptId endpointId snapshot fingerprint)
  recordOutcome (realizationOf projectId endpointId attemptId fingerprint generation outcome) outcome
  return outcome

/-- `last_outcome` of a realization that a recovery observed. -/
def observedAfterUnknownOutcome : String := "observed after unknown outcome"

/-- The record that a recovery requeues for the fingerprint that is now current. -/
def CanonicalPolicyRealizationRecord.forCurrent (current : Compiled Snapshot) :
    CanonicalPolicyRealizationRecord :=
  { r with
    desiredFingerprint := current.fingerprint
    desiredGeneration := current.generation
    state := .pending }

/-- The outcome that an observation of the current fingerprint stands for. -/
def CanonicalPolicyRealizationRecord.observedUpdate
    (projectId : String) (current : Compiled Snapshot)
    (generation : Option Nat) (providerResourceId : Option String) :
    OutcomeUpdate :=
  { project := projectId
    endpoint := r.endpointId
    expected := current.fingerprint
    expectedAttemptId := r.attemptId
    state := .realized
    observed := some current.fingerprint
    observedGeneration := generation.or (some current.generation)
    providerResourceId := providerResourceId
    lastOutcome := some observedAfterUnknownOutcome }

/-- Requeue a record whose fingerprint is no longer current. -/
def requeueStale (record : CanonicalPolicyRealizationRecord) (current : Compiled Snapshot) :
    PolicyService Snapshot Unit :=
  if record.desiredFingerprint ≠ current.fingerprint then do
    stored (← call (.requeuePolicyRealization record.attemptId (record.forCurrent current)))
  else
    return ()

def retry
    (projectId : String) (record : CanonicalPolicyRealizationRecord) (current : Compiled Snapshot) :
    PolicyService Snapshot (Option (Uuid × PolicyApplyOutcome)) := do
  let outcome ← reconcileEndpointPolicy projectId record.endpointId (some current.fingerprint)
  return some (record.endpointId, outcome)

/-- What a recovery does with an observation of the provider. -/
def settle
    (projectId : String) (record : CanonicalPolicyRealizationRecord) (current : Compiled Snapshot) :
    PolicyObservation → PolicyService Snapshot (Option (Uuid × PolicyApplyOutcome))
  | .observed fingerprint generation providerResourceId =>
    if fingerprint = current.fingerprint then do
      stored (← call (.setPolicyRealizationOutcome
        (record.observedUpdate projectId current generation providerResourceId)))
      return some (record.endpointId, .success providerResourceId)
    else
      retry projectId record current
  | .absent => retry projectId record current
  | .unknown reason => return some (record.endpointId, .unknown reason)

/-- One record of `recover_policy_realizations`. -/
def recoverRealization (projectId : String) (record : CanonicalPolicyRealizationRecord) :
    PolicyService Snapshot (Option (Uuid × PolicyApplyOutcome)) := do
  let current ← compiled projectId record.endpointId
  if record.state = .realized ∧ record.desiredFingerprint = current.fingerprint ∧
      record.observedFingerprint = some current.fingerprint then
    return none
  else do
    requeueStale record current
    if record.state = .unknown ∨ record.state = .applying then do
      settle projectId record current (← call (.observePolicySnapshot record.endpointId))
    else
      retry projectId record current

/-- The loop of `recover_policy_realizations`. -/
def recoverRealizations (projectId : String) :
    List CanonicalPolicyRealizationRecord →
      PolicyService Snapshot (List (Uuid × PolicyApplyOutcome))
  | [] => return []
  | record :: records => do
    let outcome ← recoverRealization projectId record
    let outcomes ← recoverRealizations projectId records
    return outcome.toList ++ outcomes

def recoverPolicyRealizations (projectId : String) :
    PolicyService Snapshot (List (Uuid × PolicyApplyOutcome)) := do
  let records ← stored (← call (.listPolicyRealizations projectId))
  recoverRealizations projectId records

/-- The two kinds of runs. -/
inductive PolicyRun
  | reconcile (projectId : String) (endpointId : Uuid) (expectedFingerprint : Option String)
  | recover (projectId : String)

def PolicyRun.program (Snapshot : Type) :
    PolicyRun →
      Program (PolicyCall Snapshot) PolicyCall.Reply
        (Except CanonicalPolicyServiceError (List (Uuid × PolicyApplyOutcome)))
  | reconcile projectId endpointId expectedFingerprint =>
    (do
      let outcome ← reconcileEndpointPolicy projectId endpointId expectedFingerprint
      return [(endpointId, outcome)] :
        PolicyService Snapshot (List (Uuid × PolicyApplyOutcome))).run
  | recover projectId => (recoverPolicyRealizations projectId).run

end Policy
end O3k
