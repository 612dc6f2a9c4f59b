import O3k.Planning.PolicyGraph
import O3k.Policy.Realizations
import O3k.Semantics.Lanes

/-!
# Sweeps over the endpoints of a policy

`reconcile_policy_endpoints` goes through the endpoints that a policy is
attached to, and `recover_policy_realizations` through those that have a
record.  Both return at the first error.  The store that a run meets is left
open: what others do between two calls is part of what a call does to it.
-/

namespace O3k
namespace Policy

open Semantics Semantics.Program Network Planning PolicyService

inductive SweepCall (Snapshot : Type)
  | getReusablePolicy (projectId : String) (policyId : Uuid)
  | listPolicyAttachments (projectId : String) (policyId : Uuid)
  | realization (c : PolicyCall Snapshot)

namespace SweepCall

abbrev Reply {Snapshot : Type} : SweepCall Snapshot → Type
  | getReusablePolicy _ _ => Except StoreError (Option CanonicalReusableNetworkPolicyRecord)
  | listPolicyAttachments _ _ => Except StoreError (List CanonicalPolicyAttachmentRecord)
  | realization c => c.Reply

end SweepCall

abbrev SweepService (Snapshot α : Type) :=
  ExceptT CanonicalPolicyServiceError (Program (SweepCall Snapshot) SweepCall.Reply) α

variable {Snapshot : Type}

/-- A method that makes calls of its own. -/
def realizing {α : Type} (p : PolicyService Snapshot α) : SweepService Snapshot α :=
  ExceptT.mk (p.run.via .realization (fun _ r => r))

namespace SweepService

def call (c : SweepCall Snapshot) : SweepService Snapshot c.Reply :=
  ExceptT.lift (Program.perform c)

/-- `.await?` on the repository. -/
def stored {α : Type} (x : Except StoreError α) : SweepService Snapshot α :=
  ExceptT.mk (pure (x.mapError .store))

end SweepService

def affectedEndpointsForPolicy (projectId : String) (policyId : Uuid) :
    SweepService Snapshot (List Uuid) := do
  match ← SweepService.stored (← SweepService.call (.getReusablePolicy projectId policyId)) with
  | none => throw .notFound
  | some policy =>
    if policy.state ≠ "active" then
      return []
    else
      let attachments ←
        SweepService.stored (← SweepService.call (.listPolicyAttachments projectId policyId))
      return (((attachments.filter (fun a => a.state = .active)).map
        (fun a => a.endpointId)).insertionSort (· ≤ ·)).dedup

/-- One endpoint of `reconcile_policy_endpoints`. -/
def reconcileOne (projectId : String) (endpointId : Uuid) :
    SweepService Snapshot PolicyApplyOutcome :=
  realizing (reconcileEndpointPolicy projectId endpointId none)

def reconcilePolicyEndpoints (projectId : String) (policyId : Uuid) :
    SweepService Snapshot (List (Uuid × PolicyApplyOutcome)) := do
  let endpoints ← affectedEndpointsForPolicy projectId policyId
  collect (reconcileOne projectId) (fun endpointId outcome => [(endpointId, outcome)]) endpoints

def recordsOf (projectId : String) :
    PolicyService Snapshot (List CanonicalPolicyRealizationRecord) := do
  stored (← call (.listPolicyRealizations projectId))

section Run

variable {σ : Type} (exec : (c : PolicyCall Snapshot) → σ → c.Reply × σ)

def Compiles (projectId : String) (s : σ) (endpointId : Uuid) : Prop :=
  ∃ current, (exec (.compileEndpointWithMetadata projectId endpointId) s).1 = .ok current

abbrev realizationCalls (exec : (c : SweepCall Snapshot) → σ → c.Reply × σ) :
    (c : PolicyCall Snapshot) → σ → c.Reply × σ :=
  fun c => exec (.realization c)

/-- Every endpoint of the policy whose graph compiles in the end is attempted. -/
def ReconcileAttemptsAll
    (exec : (c : SweepCall Snapshot) → σ → c.Reply × σ) (projectId : String) (policyId : Uuid)
    (s : σ) : Prop :=
  ∀ endpoints,
    (alone exec (affectedEndpointsForPolicy projectId policyId).run s).1 = .ok endpoints →
      ∀ e ∈ endpoints,
        Compiles (realizationCalls exec) projectId
            (alone exec (reconcilePolicyEndpoints projectId policyId).run s).2 e →
          .realization (.compileEndpointWithMetadata projectId e)
            ∈ made exec (reconcilePolicyEndpoints projectId policyId).run s

/-- Every endpoint with a record whose graph compiles in the end is attempted. -/
def RecoveryAttemptsAll (projectId : String) (s : σ) : Prop :=
  ∀ records, (alone exec (recordsOf projectId).run s).1 = .ok records →
    ∀ r ∈ records,
      Compiles exec projectId
          (alone exec (recoverPolicyRealizations projectId).run s).2 r.endpointId →
        .compileEndpointWithMetadata projectId r.endpointId
          ∈ made exec (recoverPolicyRealizations projectId).run s

/-- Behind an endpoint that fails there is none whose graph compiles. -/
def ReconcileStopsLast
    (exec : (c : SweepCall Snapshot) → σ → c.Reply × σ) (projectId : String) (policyId : Uuid)
    (s : σ) : Prop :=
  ∀ before e after,
    (alone exec (affectedEndpointsForPolicy projectId policyId).run s).1
        = .ok (before ++ e :: after) →
      StopsAt exec (reconcileOne projectId)
          (alone exec (affectedEndpointsForPolicy projectId policyId).run s).2 before e →
        ∀ e' ∈ after,
          ¬ Compiles (realizationCalls exec) projectId
            (alone exec (reconcilePolicyEndpoints projectId policyId).run s).2 e'

/-- Behind a record that fails there is none of another endpoint whose graph
compiles. -/
def RecoveryStopsLast (projectId : String) (s : σ) : Prop :=
  ∀ before r after,
    (alone exec (recordsOf projectId).run s).1 = .ok (before ++ r :: after) →
      StopsAt exec (recoverRealization projectId)
          (alone exec (recordsOf projectId).run s).2 before r →
        ∀ r' ∈ after,
          Compiles exec projectId
              (alone exec (recoverPolicyRealizations projectId).run s).2 r'.endpointId →
            ∃ r'' ∈ before ++ [r], r'.endpointId = r''.endpointId

variable (projectId : String)

def CompilesOnly (endpointId : Uuid) : PolicyCall Snapshot → Prop
  | .compileEndpointWithMetadata p e => p = projectId ∧ e = endpointId
  | _ => True

theorem calls_stored {K : PolicyCall Snapshot → Prop} {α : Type} (x : Except StoreError α) :
    (stored x : PolicyService Snapshot α).run.Calls K :=
  trivial

theorem calls_call {K : PolicyCall Snapshot → Prop} {c : PolicyCall Snapshot} (h : K c) :
    (call c : PolicyService Snapshot c.Reply).run.Calls K :=
  ⟨h, fun _ => trivial⟩

theorem calls_reconcileEndpointPolicy (endpointId : Uuid) (expected : Option String) :
    (reconcileEndpointPolicy projectId endpointId expected : PolicyService Snapshot _).run.Calls
      (CompilesOnly projectId endpointId) := by
  have hset : ∀ realization : CanonicalPolicyRealizationRecord,
      (setOutcome realization : PolicyService Snapshot _).run.Calls
        (CompilesOnly projectId endpointId) :=
    fun _ => calls_run_bind (calls_call trivial) (fun _ => calls_stored _)
  refine calls_run_bind ⟨⟨rfl, rfl⟩, fun _ => trivial⟩ (fun current => ?_)
  refine calls_run_bind trivial (fun _ => ?_)
  refine calls_run_bind (calls_call trivial) (fun _ => ?_)
  refine calls_run_bind (calls_stored _) (fun previous => ?_)
  refine calls_run_bind (calls_call trivial) (fun _ => ?_)
  refine calls_run_bind (calls_stored _) (fun attemptId => ?_)
  refine calls_run_bind (calls_call trivial) (fun outcome => ?_)
  refine calls_run_bind ?_ (fun _ => trivial)
  cases outcome with
  | success providerResourceId =>
    refine calls_run_bind ⟨⟨rfl, rfl⟩, fun _ => trivial⟩ (fun later => ?_)
    split_ifs
    · exact calls_run_bind (calls_call trivial) (fun _ => calls_stored _)
    · exact hset _
  | definiteFailure reason => exact hset _
  | unknown reason => exact hset _

theorem calls_recoverRealization (record : CanonicalPolicyRealizationRecord) :
    (recoverRealization projectId record : PolicyService Snapshot _).run.Calls
      (CompilesOnly projectId record.endpointId) := by
  have hretry : ∀ current : Compiled Snapshot,
      (retry projectId record current).run.Calls (CompilesOnly projectId record.endpointId) :=
    fun _ => calls_run_bind (calls_reconcileEndpointPolicy _ _ _) (fun _ => trivial)
  have hrequeue : ∀ current : Compiled Snapshot,
      (requeueStale record current).run.Calls (CompilesOnly projectId record.endpointId) := by
    intro current
    unfold requeueStale
    split_ifs
    · exact calls_run_bind (calls_call trivial) (fun _ => calls_stored _)
    · trivial
  refine calls_run_bind ⟨⟨rfl, rfl⟩, fun _ => trivial⟩ (fun current => ?_)
  split_ifs
  · trivial
  · refine calls_run_bind (hrequeue current) (fun _ => ?_)
    refine calls_run_bind (calls_call trivial) (fun observation => ?_)
    unfold settle
    split
    · split_ifs
      · refine calls_run_bind (calls_call trivial) (fun _ => ?_)
        exact calls_run_bind (calls_stored _) (fun _ => trivial)
      · exact hretry _
    · exact hretry _
    · trivial
  · exact calls_run_bind (hrequeue current) (fun _ => hretry _)

theorem recoverRealizations_eq (records : List CanonicalPolicyRealizationRecord) :
    (recoverRealizations projectId records : PolicyService Snapshot _)
      = collect (recoverRealization projectId) (fun _ outcome => outcome.toList) records := by
  induction records with
  | nil => rfl
  | cons record records ih => rw [recoverRealizations, collect, ih]

/-- **Who a recovery attempts.** -/
theorem recoveryAttemptsAll_iff (projectId : String) (s : σ) :
    RecoveryAttemptsAll exec projectId s ↔ RecoveryStopsLast exec projectId s := by
  have hprogram : (recoverPolicyRealizations projectId : PolicyService Snapshot _)
      = recordsOf projectId >>=
        collect (recoverRealization projectId) (fun _ outcome => outcome.toList) := by
    rw [← funext (@recoverRealizations_eq Snapshot projectId)]
    rfl
  have hsame : ∀ r r' : CanonicalPolicyRealizationRecord,
      (.compileEndpointWithMetadata projectId r.endpointId : PolicyCall Snapshot)
          = .compileEndpointWithMetadata projectId r'.endpointId
        ↔
      r.endpointId = r'.endpointId := by
    simp
  have hloop : ∀ records, (alone exec (recordsOf projectId).run s).1 = .ok records → (_ ↔ _) :=
    fun records hrecords =>
      made_bind_collect_iff exec (recoverRealization projectId)
        (fun _ outcome => outcome.toList)
        (fun r => .compileEndpointWithMetadata projectId r.endpointId) (recordsOf projectId)
        (fun y s hmem => by
          have hcalls : (recordsOf projectId : PolicyService Snapshot _).run.Calls
              (fun c => c = .listPolicyRealizations projectId) :=
            calls_run_bind (calls_call rfl) (fun _ => calls_stored _)
          cases hcalls.of_made hmem)
        (fun _ _ => List.mem_cons_self)
        (fun x s y hmem => (hsame y x).mpr ((calls_recoverRealization projectId x).of_made hmem).2)
        (fun r => Compiles exec projectId
          (alone exec (recoverPolicyRealizations projectId).run s).2 r.endpointId)
        hrecords
  simp only [← hprogram, hsame] at hloop
  constructor
  · intro h before r after hrecords hstops r' hr' hcompiles
    exact (hloop _ hrecords).mp (h _ hrecords) before r after rfl hstops r' hr' hcompiles
  · intro h records hrecords
    refine (hloop _ hrecords).mpr ?_
    rintro before r after rfl
    exact h before r after hrecords

theorem nodup_affectedEndpoints {exec : (c : SweepCall Snapshot) → σ → c.Reply × σ}
    {projectId : String} {policyId : Uuid} {s : σ} {endpoints : List Uuid}
    (h : (alone exec (affectedEndpointsForPolicy projectId policyId).run s).1 = .ok endpoints) :
    endpoints.Nodup := by
  change (alone exec (SweepService.stored (exec (.getReusablePolicy projectId policyId) s).1 >>=
    fun _ => _).run (exec (.getReusablePolicy projectId policyId) s).2).1 = _ at h
  generalize (exec (.getReusablePolicy projectId policyId) s).1 = policy at h
  generalize (exec (.getReusablePolicy projectId policyId) s).2 = s' at h
  rcases policy with e | _ | policy
  · cases h
  · cases h
  · change (alone exec (ite _ _ _ : SweepService Snapshot _).run _).1 = _ at h
    split_ifs at h
    · cases h
      exact List.nodup_nil
    · change (alone exec (SweepService.stored
        (exec (.listPolicyAttachments projectId policyId) s').1 >>= fun _ => _).run _).1 = _ at h
      generalize (exec (.listPolicyAttachments projectId policyId) s').1 = attachments at h
      rcases attachments with e | attachments
      · cases h
      · cases h
        exact List.nodup_dedup _

theorem calls_affectedEndpoints (policyId : Uuid) :
    (affectedEndpointsForPolicy projectId policyId : SweepService Snapshot _).run.Calls
      (fun c => ∀ c', c ≠ .realization c') := by
  refine calls_run_bind ⟨fun _ h => (by cases h), fun _ => trivial⟩ (fun _ => ?_)
  refine calls_run_bind trivial (fun policy => ?_)
  cases policy with
  | none => trivial
  | some policy =>
    simp only
    split_ifs
    · trivial
    · refine calls_run_bind ⟨fun _ h => (by cases h), fun _ => trivial⟩ (fun _ => ?_)
      exact calls_run_bind trivial (fun _ => trivial)

/-- **Who a reconciliation attempts.** -/
theorem reconcileAttemptsAll_iff
    (exec : (c : SweepCall Snapshot) → σ → c.Reply × σ) (projectId : String) (policyId : Uuid)
    (s : σ) :
    ReconcileAttemptsAll exec projectId policyId s ↔
    ReconcileStopsLast exec projectId policyId s := by
  have hsame : ∀ e e' : Uuid,
      (.realization (.compileEndpointWithMetadata projectId e) : SweepCall Snapshot)
          = .realization (.compileEndpointWithMetadata projectId e') ↔ e = e' := by
    simp
  have hown : ∀ e, (reconcileOne projectId e : SweepService Snapshot _).run.Calls
      (fun c => ∀ e', c = .realization (.compileEndpointWithMetadata projectId e') → e' = e) := by
    intro e
    refine Calls.via ((calls_reconcileEndpointPolicy projectId e none).mono ?_)
    rintro _ h e' ⟨⟩
    exact h.2
  have hloop : ∀ endpoints,
      (alone exec (affectedEndpointsForPolicy projectId policyId).run s).1 = .ok endpoints →
        (_ ↔ _) :=
    fun endpoints hendpoints =>
      made_bind_collect_iff exec (reconcileOne projectId)
        (fun endpointId outcome => [(endpointId, outcome)])
        (fun e => .realization (.compileEndpointWithMetadata projectId e))
        (affectedEndpointsForPolicy projectId policyId)
        (fun _ _ hmem => (calls_affectedEndpoints projectId policyId).of_made hmem _ rfl)
        (fun _ _ => List.mem_cons_self)
        (fun x _ y hmem => (hsame y x).mpr ((hown x).of_made hmem y rfl))
        (fun e => Compiles (realizationCalls exec) projectId
          (alone exec (reconcilePolicyEndpoints projectId policyId).run s).2 e)
        hendpoints
  simp only [hsame, exists_eq_right'] at hloop
  constructor
  · intro h before e after hendpoints hstops e' he' hcompiles
    have hmem := (hloop _ hendpoints).mp (h _ hendpoints) before e after rfl hstops e' he' hcompiles
    have hnodup := nodup_affectedEndpoints hendpoints
    rw [← List.singleton_append, ← List.append_assoc] at hnodup
    exact (List.nodup_append.mp hnodup).2.2 e' hmem e' he' rfl
  · intro h endpoints hendpoints
    refine (hloop _ hendpoints).mpr ?_
    rintro before e after rfl hstops e' he' hcompiles
    exact absurd hcompiles (h before e after hendpoints hstops e' he')

/-- **Independence of endpoints**: both sweeps attempt everyone exactly when no
endpoint that fails has one behind it whose graph compiles. -/
theorem policy_sweeps_attempt_all_iff (projectId : String) :
    (∀ (exec : (c : SweepCall Snapshot) → σ → c.Reply × σ) (policyId : Uuid) (s : σ),
        ReconcileAttemptsAll exec projectId policyId s ↔
        ReconcileStopsLast exec projectId policyId s) ∧
      ∀ (exec : (c : PolicyCall Snapshot) → σ → c.Reply × σ) (s : σ),
        RecoveryAttemptsAll exec projectId s ↔ RecoveryStopsLast exec projectId s :=
  ⟨fun exec policyId s => reconcileAttemptsAll_iff exec projectId policyId s,
    fun exec s => recoveryAttemptsAll_iff exec projectId s⟩

end Run

/-- A policy that is attached to two endpoints; the first is deleted after they
are listed. -/
def twoEndpoints : (c : SweepCall Unit) → Unit → c.Reply × Unit
  | .getReusablePolicy projectId policyId, _ =>
    (.ok (some ⟨policyId, projectId, "Stateful", "Deny", 1, "active"⟩), ())
  | .listPolicyAttachments projectId policyId, _ =>
    (.ok [⟨"on-a", policyId, "endpoint-a", projectId, .active, 1⟩,
      ⟨"on-b", policyId, "endpoint-b", projectId, .active, 1⟩], ())
  | .realization (.compileEndpointWithMetadata _ endpointId), _ =>
    (if endpointId = "endpoint-a" then
      .error .notFound
    else
      .ok ⟨(), "v1", 1⟩, ())
  | .realization (.getPolicyRealization _ _), _ => (.ok none, ())
  | .realization (.listPolicyRealizations _), _ => (.ok [], ())
  | .realization (.upsertPolicyRealization _), _ => (.ok 0, ())
  | .realization (.requeuePolicyRealization _ _), _ => (.ok (), ())
  | .realization (.setPolicyRealizationOutcome _), _ => (.ok (), ())
  | .realization (.applyPolicySnapshot _ _ _ _), _ => (.success none, ())
  | .realization (.observePolicySnapshot _), _ => (.absent, ())

/-- The second endpoint is not attempted. -/
theorem reconcile_skips_second_endpoint :
    ¬ ReconcileAttemptsAll twoEndpoints "project" "policy" () := by
  intro h
  have hmem := h ["endpoint-a", "endpoint-b"] rfl "endpoint-b" (by decide) ⟨_, rfl⟩
  have hmade : made twoEndpoints (reconcilePolicyEndpoints "project" "policy").run ()
      = [.getReusablePolicy "project" "policy", .listPolicyAttachments "project" "policy",
        .realization (.compileEndpointWithMetadata "project" "endpoint-a")] := rfl
  rw [hmade] at hmem
  simp at hmem

end Policy
end O3k
