import O3k.Lifecycle.Service
import O3k.Lifecycle.Writes

/-!
# One identity for the redrive of a deletion

A deletion that makes no progress is redriven under one identity that is derived
from its own.  The redrive has a row of its own, which is a lifecycle row like
any other: the sweep lists it, and reconciling it sends the same command under
another key, or derives an identity from the derived one.
-/

namespace O3k
namespace Lifecycle

open Relational Relational.Transaction Operations Semantics LifecycleM

variable (lib : LifecycleLibrary)

/-- The identities that are derived from a request by redriving it, again and
again. -/
inductive Derived (request : Uuid) : Uuid → Prop
  | first : Derived request (deleteRedriveOperationId lib request)
  | next (id : Uuid) (h : Derived request id) : Derived request (deleteRedriveOperationId lib id)

/-- The identity is not one of a redrive. -/
def IsRequest (id : Uuid) : Prop := ∀ id', deleteRedriveOperationId lib id' ≠ id

/-- At most two rows for the request: its own and that of its redrive. -/
def TwoRows (request : Uuid) (w : LifecycleWorld) : Prop :=
  ∀ row ∈ w.tables.operations.rows, row.kind = LifecycleAction.delete.kind →
    row.id = request ∨ Derived lib request row.id →
      row.id = request ∨ row.id = deleteRedriveOperationId lib request

/-- Each of the two is sent to the provider under one key. -/
def OneKey (request : Uuid) (w : LifecycleWorld) : Prop :=
  ∀ d ∈ w.dispatches, ∀ d' ∈ w.dispatches, d.operationId = d'.operationId →
    d.operationId = request ∨ d.operationId = deleteRedriveOperationId lib request →
      d.idempotencyKey = d'.idempotencyKey

/-- Nothing has been derived from the request yet, and it has not been sent. -/
structure Untouched (request : Uuid) (w : LifecycleWorld) : Prop where
  rows : ∀ row ∈ w.tables.operations.rows, ¬ Derived lib request row.id
  dispatches :
    ∀ d ∈ w.dispatches,
      d.operationId ≠ request ∧ d.operationId ≠ deleteRedriveOperationId lib request

/-- A call of `reconcile_lifecycle_once`, or a pass of the sweep. -/
inductive SweepTask
  | reconcile (operationId : Uuid)
  | sweep (coordinated : Bool)

/-- What happens beside the reconciliations: an agent reports an outcome, or
any other writer of operations writes; a request begins an operation; and the
row of a server changes. -/
inductive SweepEvent
  | outcome (write : OperationWrite)
  | request (row : OperationRecord) (hrequest : IsRequest lib row.id)
  | resource (row : ResourceRecord)

variable {lib} in
def SweepEvent.act : SweepEvent lib → LifecycleWorld → LifecycleWorld
  | .outcome write, w => { w with tables := Operations.write lib.text.isRfc3339 w.tables write }
  | .request row _, w =>
    { w with tables := (atomically (insertOperation row .resourceAlreadyExists) w.tables).2 }
  | .resource row, w => { w with tables := w.tables.putResource row }

variable (maxAttempts : Nat)

def sweepProgram : SweepTask → Program LifecycleCall LifecycleReply Unit
  | .reconcile operationId => do
    let _ ← (reconcileLifecycleOnce lib maxAttempts operationId).run
    pure ()
  | .sweep coordinated => do
    let _ ← driveAllLifecycleConvergence lib maxAttempts coordinated
    pure ()

abbrev Sweepers : Type := Crowd LifecycleWorld Nat LifecycleCall LifecycleReply Unit

abbrev SweepersEvent : Type := CrowdEvent Nat SweepTask LifecycleAnswer (SweepEvent lib)

def sweepersStep (w : Sweepers) (e : SweepersEvent lib) : Sweepers :=
  w.step (execLifecycle lib) (fun _ task => sweepProgram lib maxAttempts task) (fun _ s => s)
    SweepEvent.act e

/-- No reconciliation finds the row of the redrive of the request open. -/
def RedriveClosed
    (request : Uuid) (_ : Nat) (c : LifecycleCall) (_ : LifecycleAnswer) (w : LifecycleWorld) :
    Prop :=
  match c with
  | .getOperation id =>
    id = deleteRedriveOperationId lib request →
      ∀ row ∈ w.tables.operations.get? id, row.state.isTerminal = true
  | _ => True

def RedriveNotReconciled (request : Uuid) (w : Sweepers) : SweepersEvent lib → Prop :=
  w.Within (fun _ _ _ => True) (RedriveClosed lib request) (fun _ _ => True)

/-- The key under which the redrive is sent, and that of the request. -/
structure Keyed (request : Uuid) (d : Dispatch) : Prop where
  own : d.operationId = request → d.idempotencyKey = s!"o3k-operation-{request}"
  redrive :
    d.operationId = deleteRedriveOperationId lib request →
      d.idempotencyKey = s!"o3k-operation-{request}-redrive"

structure Sound (request : Uuid) (w : LifecycleWorld) : Prop where
  rows :
    ∀ row ∈ w.tables.operations.rows, Derived lib request row.id →
      row.id = deleteRedriveOperationId lib request
  keys : ∀ d ∈ w.dispatches, Keyed lib request d

/-- What a call must not do. -/
def Keeps (request : Uuid) : LifecycleCall → Prop
  | .insertOperation row =>
    Derived lib request row.id → row.id = deleteRedriveOperationId lib request
  | .createOrReplay _ _ _ _ => False
  | .dispatch d => Keyed lib request d
  | _ => True

variable {lib maxAttempts} {request : Uuid} {w : LifecycleWorld} {x : LifecycleAnswer}

theorem IsRequest.not_derived {id : Uuid} (h : IsRequest lib id) : ¬ Derived lib request id := by
  intro hderived
  cases hderived with
  | first => exact h _ rfl
  | next id' _ => exact h id' rfl

theorem Untouched.sound (h : Untouched lib request w) : Sound lib request w := by
  refine ⟨fun row hrow hderived => absurd hderived (h.rows row hrow), ?_⟩
  intro d hd
  obtain ⟨hrequest, hredrive⟩ := h.dispatches d hd
  exact ⟨fun h => absurd h hrequest, fun h => absurd h hredrive⟩

theorem ids_write (isRfc3339 : String → Bool) (t : OperationTables) (write : OperationWrite) :
    ∀ row' ∈ (Operations.write isRfc3339 t write).operations.rows,
      ∃ row ∈ t.operations.rows, row.id = row'.id := by
  intro row' hrow'
  obtain ⟨row, hrow, hid, _⟩ := (rewritesOne_write isRfc3339 t write).mem hrow'
  exact ⟨row, hrow, hid.symm⟩

theorem Sound.congr {w' : LifecycleWorld} (h : Sound lib request w)
    (hrows : ∀ row' ∈ w'.tables.operations.rows, ∃ row ∈ w.tables.operations.rows, row.id = row'.id)
    (hdispatches : w'.dispatches = w.dispatches) :
    Sound lib request w' := by
  refine ⟨?_, hdispatches ▸ h.keys⟩
  intro row' hrow' hderived
  obtain ⟨row, hrow, hid⟩ := hrows row' hrow'
  rw [← hid] at hderived ⊢
  exact h.rows row hrow hderived

theorem Sound.write (h : Sound lib request w) (write : OperationWrite) :
    Sound lib request (execWrite lib x w write).2 := by
  rcases settle_cases x w (write.exec lib.text.isRfc3339 w.tables) with hw | hw
  · rw [execWrite, hw]
    exact h
  · rw [execWrite, hw]
    exact h.congr (ids_write lib.text.isRfc3339 w.tables write) rfl

theorem Sound.insert (h : Sound lib request w) {row : OperationRecord}
    (hrow : Derived lib request row.id → row.id = deleteRedriveOperationId lib request) :
    Sound lib request
      { w with
        tables := (atomically (insertOperation row .resourceAlreadyExists) w.tables).2 } := by
  refine ⟨?_, h.keys⟩
  intro row' hrow' hderived
  rcases insertOperation_cases row .resourceAlreadyExists w.tables with hsame | ⟨_, hput⟩
  · exact h.rows row' (hsame ▸ hrow') hderived
  · simp only [hput] at hrow'
    rcases (Table.mem_put _).mp hrow' with rfl | ⟨hmem, _⟩
    · exact hrow hderived
    · exact h.rows row' hmem hderived

/-- **One call** that keeps to its identities. -/
theorem Sound.exec (h : Sound lib request w) {c : LifecycleCall} (hc : Keeps lib request c) :
    Sound lib request (execLifecycle lib c x w).2 := by
  cases c with
  | insertOperation row =>
    rcases settle_cases x w
      (atomically (insertOperation row .resourceAlreadyExists) w.tables) with hw | hw
    · simp only [execLifecycle, hw]
      exact h
    · simp only [execLifecycle, hw]
      exact h.insert hc
  | createOrReplay => exact hc.elim
  | updateOperation => exact h.write _
  | updateCanonicalLifecycle => exact h.write _
  | terminalize => exact h.write _
  | incrementRetry id =>
    have hrows : ∀ row' ∈ (incrementRetry id w).2.tables.operations.rows,
        ∃ row ∈ w.tables.operations.rows, row.id = row'.id := by
      intro row' hrow'
      simp only [incrementRetry, OperationTables.operations_modifyMetadata] at hrow'
      exact ⟨row', hrow', rfl⟩
    simp only [execLifecycle]
    split
    · exact h.congr hrows rfl
    · exact h.congr hrows rfl
    · exact h
  | dispatch d =>
    refine ⟨h.rows, ?_⟩
    intro d' hd'
    rcases List.mem_cons.mp hd' with rfl | hd'
    · exact hc
    · exact h.keys d' hd'
  | getOperation | getResource | listNonTerminal | getInstance | probeInstance | observeInstance
  | getProviderOperation | projectMetering | acquireWorkLease | releaseWorkLease | cleanup
  | showServer | recordRequiredAudit => exact h

section Programs

variable (hinjective : Function.Injective lib.newV5) (hrequest : IsRequest lib request)

theorem redrive_injective (hinjective : Function.Injective lib.newV5) {id id' : Uuid}
    (h : deleteRedriveOperationId lib id = deleteRedriveOperationId lib id') :
    id = id' := by
  have hnames := hinjective h
  simpa [toString] using hnames

include hinjective hrequest

/-- What is done on behalf of an operation that has not been derived from the
request. -/
theorem keeps_reconcileCall {operation : OperationRecord} {action : LifecycleAction}
    (hid : ¬ Derived lib request operation.id) {c : LifecycleCall}
    (hc : ReconcileCall lib operation action c) :
    Keeps lib request c := by
  have hredrive : ∀ {id : Uuid}, ¬ Derived lib request id →
      Derived lib request (deleteRedriveOperationId lib id) → id = request := by
    intro id hid hderived
    generalize hgen : deleteRedriveOperationId lib id = id' at hderived
    cases hderived with
    | first => exact redrive_injective hinjective hgen
    | next id'' h =>
      rw [redrive_injective hinjective hgen] at hid
      exact absurd h hid
  cases hc with
  | insertRedrive =>
    intro hderived
    have hsame := hredrive hid hderived
    simp only [lifecycleOperation, hsame]
  | dispatch providerId =>
    refine ⟨?_, ?_⟩
    · intro hsame
      simp only [lifecycleDispatch] at hsame ⊢
      rw [hsame]
    · intro hsame
      refine absurd ?_ hid
      simp only [lifecycleDispatch] at hsame
      rw [hsame]
      exact .first
  | redrive providerId =>
    refine ⟨fun hsame => absurd hsame (hrequest _), ?_⟩
    intro hsame
    simp only [redriveDispatch] at hsame ⊢
    rw [redrive_injective hinjective hsame]
  | getResource | updateOperation | terminalize | incrementRetry | getInstance | probeInstance
  | observeInstance | getProviderOperation | projectMetering => trivial

/-- The attempt keeps to its identities, whatever the others do. -/
abbrev Sweeps (lib : LifecycleLibrary) (request : Uuid) {α : Type}
    (p : Program LifecycleCall LifecycleReply α) (w : LifecycleWorld) :
    Prop :=
  Endures lib (fun _ _ => True) (Sound lib request) (RedriveClosed lib request 0)
    (fun c _ _ => Keeps lib request c) p w

omit hinjective hrequest in
theorem sweeps_of_calls {α : Type} {p : Program LifecycleCall LifecycleReply α}
    (hp : p.Calls (Keeps lib request)) (w : LifecycleWorld) :
    Sweeps lib request p w := by
  refine Program.Survives.of_calls (J := fun _ => True) (fun _ _ _ _ => trivial) ?_ trivial
  exact hp.mono (fun c hc w' x hsound _ _ => ⟨hc, hsound.exec hc, trivial⟩)

theorem sweeps_reconcileOperation {operation : OperationRecord}
    (hclosed : Derived lib request operation.id → operation.state.isTerminal = true)
    (w : LifecycleWorld) :
    Sweeps lib request (reconcileOperation lib maxAttempts operation).run w := by
  by_cases hid : Derived lib request operation.id
  · unfold reconcileOperation
    rw [if_pos (hclosed hid)]
    trivial
  · refine sweeps_of_calls (calls_reconcileOperation.mono ?_) w
    rintro c ⟨_, action, _, hc⟩
    exact keeps_reconcileCall hinjective hrequest hid hc

theorem sweeps_reconcileLifecycleOnce (operationId : Uuid) (w : LifecycleWorld) :
    Sweeps lib request (reconcileLifecycleOnce lib maxAttempts operationId).run w := by
  intro w' x _ hsound hguard
  refine ⟨trivial, hsound, ?_⟩
  show Sweeps lib request
    (orStore (x.read _) >>= fun operation => reconcileOperation lib maxAttempts operation).run w'
  cases hread : x.read ((w'.tables.operations.get? operationId).elim (.error .operationNotFound) .ok)
    with
  | error e => trivial
  | ok operation =>
    refine sweeps_reconcileOperation hinjective hrequest ?_ w'
    have hget : w'.tables.operations.get? operationId = some operation := by
      unfold LifecycleAnswer.read at hread
      split at hread
      · cases hread
      · cases hget : w'.tables.operations.get? operationId with
        | none => rw [hget] at hread; cases hread
        | some row => rw [hget] at hread; cases hread; rfl
    have hid : operation.id = operationId := Table.key_of_get? _ hget
    intro hderived
    -- of the identities that are derived only the first has a row
    have hredrive := hsound.rows operation (Table.mem_of_get? _ hget) hderived
    rw [hid] at hredrive
    subst hredrive
    exact hguard rfl operation hget

theorem sweeps_sweepProgram (task : SweepTask) (w : LifecycleWorld) :
    Sweeps lib request (sweepProgram lib maxAttempts task) w := by
  cases task with
  | reconcile operationId =>
    exact Program.Survives.bind
      (sweeps_reconcileLifecycleOnce hinjective hrequest operationId w) (fun _ _ _ => trivial)
  | sweep coordinated =>
    refine Program.Survives.bind (P := fun _ _ => True) ?_ (fun _ _ _ => trivial)
    refine endures_driveAllLifecycleConvergence ?_
      (sweeps_reconcileLifecycleOnce hinjective hrequest) coordinated w
    intro c hc _ _
    cases c with
    | listNonTerminal | acquireWorkLease | releaseWorkLease => trivial
    | _ => exact hc.elim

end Programs

section Runs

theorem Sound.twoRows (h : Sound lib request w) : TwoRows lib request w := by
  intro row hrow _ hid
  exact hid.imp_right (h.rows row hrow)

theorem Sound.oneKey (h : Sound lib request w) : OneKey lib request w := by
  intro d hd d' hd' hsame hid
  rcases hid with hid | hid
  · rw [(h.keys d hd).own hid, (h.keys d' hd').own (hsame ▸ hid)]
  · rw [(h.keys d hd).redrive hid, (h.keys d' hd').redrive (hsame ▸ hid)]

theorem Sound.act (h : Sound lib request w) (e : SweepEvent lib) : Sound lib request (e.act w) := by
  cases e with
  | outcome write => exact h.congr (ids_write lib.text.isRfc3339 w.tables write) rfl
  | request row hrow => exact h.insert (fun hderived => absurd hderived hrow.not_derived)
  | resource row => exact h.congr (fun row' hrow' => ⟨row', hrow', rfl⟩) rfl

abbrev SweepersOnCourse (lib : LifecycleLibrary) (request : Uuid) (w : Sweepers) : Prop :=
  w.OnCourse (execLifecycle lib) (fun _ _ _ => True) (Sound lib request)
    (RedriveClosed lib request) (fun _ c _ _ => Keeps lib request c) (fun _ _ _ => True)

theorem SweepersOnCourse.step
    (hinjective : Function.Injective lib.newV5) (hrequest : IsRequest lib request)
    {w : Sweepers} {e : SweepersEvent lib} (h : SweepersOnCourse lib request w)
    (hguard : RedriveNotReconciled lib request w e) :
    SweepersOnCourse lib request (sweepersStep lib maxAttempts w e) := by
  refine Crowd.OnCourse.step (S := fun _ _ _ => True) (E := fun _ _ => True)
    (fun _ _ => trivial) (fun _ _ _ _ _ _ => trivial) (fun _ _ _ _ _ _ => trivial)
    ?_ (fun _ _ _ _ _ _ _ _ _ => trivial) ?_ ?_ h hguard
  · exact fun _ task s _ _ => sweeps_sweepProgram hinjective hrequest task s
  · exact fun _ s hsound => ⟨hsound, fun _ _ => trivial⟩
  · exact fun e s hsound _ => ⟨hsound.act e, fun _ => trivial⟩

/-- **A deletion has one redrive**: in every run of any number of
reconciliations and sweeps, with agent outcomes, further requests and crashes,
in which no reconciliation finds the row of the redrive open, the request has at
most its own row and that of its redrive, each sent to the provider under one
key. -/
theorem delete_redriven_under_one_identity
    (lib : LifecycleLibrary) (maxAttempts : Nat) (hinjective : Function.Injective lib.newV5)
    (request : Uuid) (hrequest : IsRequest lib request) (w : LifecycleWorld)
    (huntouched : Untouched lib request w) (events : List (SweepersEvent lib))
    (hguard :
      EachStep (sweepersStep lib maxAttempts) (RedriveNotReconciled lib request)
        (Crowd.idle w) events) :
    Always (sweepersStep lib maxAttempts)
      (fun w => TwoRows lib request w.store ∧ OneKey lib request w.store)
      (Crowd.idle w) events := by
  have hstart : SweepersOnCourse lib request (Crowd.idle w) := Crowd.onCourse_idle huntouched.sound
  exact (always_of_guarded (fun _ _ h hG => h.step hinjective hrequest hG) _ events hstart
    hguard).imp (fun _ h => ⟨h.store.twoRows, h.store.oneKey⟩)

instance (request : Uuid) (w : LifecycleWorld) : Decidable (OneKey lib request w) :=
  inferInstanceAs (Decidable (∀ d ∈ w.dispatches, _))

instance (request : Uuid) (who : Nat) (x : LifecycleAnswer) (w : LifecycleWorld) :
    (c : LifecycleCall) → Decidable (RedriveClosed lib request who c x w)
  | .getOperation _ => inferInstanceAs (Decidable (_ → _))
  | .getResource _ | .listNonTerminal | .insertOperation _ | .createOrReplay .. |
    .updateOperation .. | .updateCanonicalLifecycle .. | .terminalize _ | .incrementRetry _ |
    .dispatch _ | .getInstance _ | .probeInstance _ | .observeInstance .. | .getProviderOperation _ |
    .projectMetering .. | .acquireWorkLease _ | .releaseWorkLease _ | .cleanup _ |
    .showServer _ | .recordRequiredAudit => isTrue trivial

instance (request : Uuid) (w : Sweepers) (e : SweepersEvent lib) :
    Decidable (RedriveNotReconciled lib request w e) :=
  Crowd.decidableWithin _ _ _ w e

/-- Identities are the names they are derived from. -/
def plainLibrary : LifecycleLibrary where
  render _ := ""
  parse _ := none
  newV5 name := name
  displayStore _ := "database error"
  text := ⟨fun _ => true, id, id, fun _ => ""⟩
  parseUuid := some

theorem isRequest_plain : IsRequest plainLibrary "delete-1" := by
  intro id h
  have hlists := congrArg String.toList h
  simp [deleteRedriveOperationId, plainLibrary, toString] at hlists

/-- A server at the provider, and its deletion, whose outcome is unknown. -/
def deletingWorld : LifecycleWorld :=
  { tables :=
      (OperationTables.empty.putResource
        ⟨"server-1", "compute_instance", "project-1", 1, 1, "", "ACTIVE", some "vm-1"⟩).putOperation
        { lifecycleOperation "delete-1" "server-1" .delete with state := .unknownOutcome }
    retries := fun _ => 0
    dispatches := []
    executed := [] }

def redriveAccepted : LifecycleAnswer :=
  { failure := none
    operation := .ok ⟨"p-1", deleteRedriveOperationId plainLibrary "delete-1", .accepted⟩
    observed := .ok .running
    executes := false
    metering := .ok ()
    leased := true
    served := .ok ()
    now := "now" }

theorem untouched_deletingWorld : Untouched plainLibrary "delete-1" deletingWorld := by
  refine ⟨?_, fun d hd => by cases hd⟩
  intro row hrow hderived
  have hids : ∀ row ∈ deletingWorld.tables.operations.rows, row.id = "delete-1" := by
    decide +kernel
  exact isRequest_plain.not_derived (hids row hrow ▸ hderived)

/-- Two passes over the rows: the first redrives the deletion, the second finds
the row of the redrive. -/
def redriveReconciled : List (SweepersEvent plainLibrary) :=
  .start 1 (.reconcile "delete-1") :: List.replicate 6 (.answer 1 redriveAccepted) ++
    .start 1 (.reconcile (deleteRedriveOperationId plainLibrary "delete-1")) ::
      List.replicate 4 (.answer 1 redriveAccepted)

/-- **The redrive is sent under two keys** when its own row is reconciled. -/
theorem redrive_dispatched_under_two_keys :
    Untouched plainLibrary "delete-1" deletingWorld ∧
      ¬ Always (sweepersStep plainLibrary 3)
        (fun w => TwoRows plainLibrary "delete-1" w.store ∧ OneKey plainLibrary "delete-1" w.store)
        (Crowd.idle deletingWorld) redriveReconciled := by
  refine ⟨untouched_deletingWorld, fun h => absurd h.last.2 ?_⟩
  decide +kernel

/-- Two passes over the row of the request. -/
def requestReconciled : List (SweepersEvent plainLibrary) :=
  .start 1 (.reconcile "delete-1") :: List.replicate 6 (.answer 1 redriveAccepted) ++
    .start 1 (.reconcile "delete-1") :: List.replicate 7 (.answer 1 redriveAccepted)

theorem redrive_repeated_under_one_key :
    Always (sweepersStep plainLibrary 3)
      (fun w => TwoRows plainLibrary "delete-1" w.store ∧ OneKey plainLibrary "delete-1" w.store)
      (Crowd.idle deletingWorld) requestReconciled :=
  delete_redriven_under_one_identity plainLibrary 3 (fun _ _ h => h) "delete-1" isRequest_plain
    deletingWorld untouched_deletingWorld requestReconciled (by decide +kernel)

end Runs

end Lifecycle
end O3k
