import O3k.Lifecycle.ActionRuns
import O3k.Lifecycle.Redrive

/-!
# Runs of actions and deletions

Any number of actions, deletions, reconciliations and sweeps at once, with agent
outcomes and crashes.
-/

namespace O3k
namespace Lifecycle

open Relational Relational.Transaction Operations Semantics
open Journal (ServerState InstanceState serverStateToStorage)

variable (lib : LifecycleLibrary)

inductive ServerTask
  | reconcile (operationId : Uuid)
  | sweep (coordinated : Bool)
  | action (projectId : String) (id : Uuid) (action : InstanceAction) (passes : Nat)
  | delete (projectId : String) (id : Uuid) (passes : Nat)

/-- What happens beside the tasks: an agent reports the outcome of an action, or
any other operation is written; a request begins an operation; the row of a
server changes; and the provider executes a command. -/
inductive ServerEvent
  | outcome (write : OperationWrite)
  | otherWrite (write : OperationWrite) (hother : ¬ IsActionId lib write.operationId)
  | request (row : OperationRecord) (hother : ¬ IsActionId lib row.id)
  | resource (row : ResourceRecord)
  | execute (d : Dispatch)

variable {lib} in
def ServerEvent.act : ServerEvent lib → LifecycleWorld → LifecycleWorld
  | .outcome write, w => { w with tables := Operations.write lib.text.isRfc3339 w.tables write }
  | .otherWrite write _, w =>
    { w with tables := Operations.write lib.text.isRfc3339 w.tables write }
  | .request row _, w =>
    { w with tables := (atomically (insertOperation row .resourceAlreadyExists) w.tables).2 }
  | .resource row, w => { w with tables := w.tables.putResource row }
  | .execute d, w => if d ∈ w.dispatches then { w with executed := d :: w.executed } else w

/-- An outcome is one of a command that has been sent, and success one of a
command that has been executed. -/
def ServerEvent.Honest : ServerEvent lib → LifecycleWorld → Prop
  | .outcome write, w => MayBecome write.operationId write.state w
  | _, _ => True

variable (maxAttempts : Nat)

/-- What an action has come to; the other tasks return nothing that is looked
at. -/
def serverProgram : ServerTask → Program LifecycleCall LifecycleReply (Option ActionReceipt)
  | .reconcile operationId => do
    let _ ← (reconcileLifecycleOnce lib maxAttempts operationId).run
    pure none
  | .sweep coordinated => do
    let _ ← driveAllLifecycleConvergence lib maxAttempts coordinated
    pure none
  | .action projectId id instanceAction passes => do
    let result ← (action lib maxAttempts projectId id instanceAction passes).run
    pure result.toOption
  | .delete projectId id passes => do
    let _ ← (deleteServer lib maxAttempts projectId id passes).run
    pure none

abbrev Servers : Type :=
  Crowd LifecycleWorld Nat LifecycleCall LifecycleReply (Option ActionReceipt)

abbrev ServersEvent : Type := CrowdEvent Nat ServerTask LifecycleAnswer (ServerEvent lib)

def serversStep (w : Servers) (e : ServersEvent lib) : Servers :=
  w.step (execLifecycle lib) (fun _ task => serverProgram lib maxAttempts task) (fun _ s => s)
    ServerEvent.act e

/-- The provider and the agents report what has happened. -/
def HonestlyReported (w : Servers) : ServersEvent lib → Prop :=
  w.Within (fun _ _ _ => True) ReportsHonestly (ServerEvent.Honest lib)

def BegunAndConverged (w : Servers) : ServersEvent lib → Prop :=
  w.Within (fun _ _ _ => True) BeginsAndConverges (fun _ _ => True)

/-- The action has sent a command of its kind, and if it returns success the
command has been executed. -/
structure ActionReceipt.AsAsked (receipt : ActionReceipt) (w : LifecycleWorld) : Prop where
  dispatched :
    ∃ d ∈ w.dispatches, d.operationId = receipt.operationId ∧ d.action = receipt.action.lifecycle
  executed :
    receipt.result = .ok () →
      ∃ d ∈ w.executed, d.operationId = receipt.operationId ∧ d.action = receipt.action.lifecycle

/-- What an attempt has returned. -/
def Servers.receipt (w : Servers) (who : Nat) : Option ActionReceipt :=
  match w.attempts who with
  | some (.done returned) => returned
  | _ => none

def AllAsAsked (w : Servers) : Prop :=
  ∀ who, ∀ receipt ∈ Servers.receipt w who, receipt.AsAsked w.store

/-- An operation of an action has no command when it begins. -/
def BeginsAnew (_ : Nat) (c : LifecycleCall) (_ : LifecycleAnswer) (w : LifecycleWorld) : Prop :=
  match c with
  | .insertOperation row => IsActionId lib row.id → ¬ Dispatched row.id w
  | _ => True

def EachBeginsAnew (w : Servers) : ServersEvent lib → Prop :=
  w.Within (fun _ _ _ => True) (BeginsAnew lib) (fun _ _ => True)

variable {lib maxAttempts}

theorem LifecycleAction.kind_injective {a b : LifecycleAction} (h : a.kind = b.kind) : a = b := by
  have hparse := congrArg LifecycleAction.parse h
  simpa using hparse

variable {w : LifecycleWorld}

theorem HasKind.action_eq {d : Dispatch} {action : LifecycleAction}
    (hrow : HasKind d.operationId action.kind w) (hd : HasKind d.operationId d.action.kind w) :
    d.action = action := by
  obtain ⟨row, hget, hkind⟩ := hrow
  obtain ⟨row', hget', hkind'⟩ := hd
  rw [hget] at hget'
  cases hget'
  exact LifecycleAction.kind_injective (hkind'.symm.trans hkind)

theorem ActionReceipt.Served.asAsked {receipt : ActionReceipt}
    (h : receipt.Served lib w) (hsound : ActionsSound lib w) :
    receipt.AsAsked w := by
  have hkind : ∀ d ∈ w.dispatches, d.operationId = receipt.operationId →
      d.action = receipt.action.lifecycle := by
    intro d hd hid
    refine HasKind.action_eq (w := w) ?_ ?_
    · rw [hid]
      exact h.kind
    · exact hsound.dispatches d hd (hid ▸ h.action)
  constructor
  · obtain ⟨d, hd, hid⟩ := h.reached.dispatched
    exact ⟨d, hd, hid, hkind d hd hid⟩
  · intro hresult
    obtain ⟨d, hd, hid⟩ := h.reached.executed (h.result hresult)
    exact ⟨d, hd, hid, hkind d (hsound.executed d hd) hid⟩

def Returns
    (lib : LifecycleLibrary) (_ : Nat) (returned : Option ActionReceipt) (w : LifecycleWorld) :
    Prop :=
  ∀ receipt, returned = some receipt → receipt.Served lib w

abbrev ServersOnCourse (lib : LifecycleLibrary) (w : Servers) : Prop :=
  w.OnCourse (execLifecycle lib) (fun _ => Grows) (ActionsSound lib) Guarded
    (fun _ c _ w => Permitted lib c w) (Returns lib)

/-- The attempt survives, and returns what has been served. -/
abbrev Serves
    (lib : LifecycleLibrary) (p : Program LifecycleCall LifecycleReply (Option ActionReceipt))
    (w : LifecycleWorld) :
    Prop :=
  p.Survives (execLifecycle lib) Grows (ActionsSound lib) (Guarded 0)
    (fun c _ w => Permitted lib c w) (Returns lib 0) w

theorem returns_none (w : LifecycleWorld) : Returns lib 0 none w :=
  fun _ h => by cases h

theorem serves_serverProgram
    (hinjective : Function.Injective lib.newV5) (task : ServerTask) (w : LifecycleWorld) :
    Serves lib (serverProgram lib maxAttempts task) w := by
  have hreconcile : ∀ id w, Endures lib Grows (ActionsSound lib) (Guarded 0)
      (fun c _ w => Permitted lib c w) (reconcileLifecycleOnce lib maxAttempts id).run w :=
    fun id w => Program.Survives.mono (fun _ _ _ => trivial)
      (acts_reconcileLifecycleOnce hinjective id w)
  cases task with
  | reconcile operationId =>
    exact Program.Survives.bind (hreconcile operationId w) (fun _ w' _ => returns_none w')
  | sweep coordinated =>
    refine Program.Survives.bind
      (endures_driveAllLifecycleConvergence ?_ hreconcile coordinated w)
      (fun _ w' _ => returns_none w')
    intro c hc _ _
    cases c with
    | listNonTerminal | acquireWorkLease | releaseWorkLease => trivial
    | _ => exact hc.elim
  | action projectId id instanceAction passes =>
    refine Program.Survives.bind (acts_action hinjective projectId id instanceAction passes w) ?_
    intro result w' hserved receipt hreceipt
    cases result with
    | error e => cases hreceipt
    | ok served =>
      cases hreceipt
      exact hserved _ rfl
  | delete projectId id passes =>
    exact Program.Survives.bind (harmless_deleteServer hinjective projectId id passes w)
      (fun _ w' _ => returns_none w')

theorem ActionsSound.act (h : ActionsSound lib w) {e : ServerEvent lib} (hhonest : e.Honest lib w) :
    ActionsSound lib (e.act w) ∧ Grows w (e.act w) := by
  cases e with
  | outcome write => exact ⟨h.write (fun _ => hhonest), grows_write lib w write⟩
  | otherWrite write hother =>
    exact ⟨h.write (fun haction => absurd haction hother), grows_write lib w write⟩
  | request row hother => exact ⟨h.insert (fun haction => absurd haction hother), grows_insert row⟩
  | resource row => exact ⟨h.congr rfl rfl rfl, grows_of_same rfl rfl rfl⟩
  | execute d =>
    simp only [ServerEvent.act]
    split
    · rename_i hd
      have hgrows : Grows w { w with executed := d :: w.executed } :=
        ⟨fun _ row hget => ⟨row, hget, rfl⟩, fun _ h => h, fun _ h => List.mem_cons_of_mem _ h⟩
      refine ⟨⟨h.kinds, ?_, h.dispatches, ?_⟩, hgrows⟩
      · exact fun row hrow haction => (h.states row hrow haction).grows hgrows
      · intro d' hd'
        rcases List.mem_cons.mp hd' with rfl | hd'
        · exact hd
        · exact h.executed d' hd'
    · exact ⟨h, grows_refl w⟩

theorem ServersOnCourse.step
    (hinjective : Function.Injective lib.newV5) {w : Servers} {e : ServersEvent lib}
    (h : ServersOnCourse lib w) (hguard : HonestlyReported lib w e ∧ BegunAndConverged lib w e) :
    ServersOnCourse lib (serversStep lib maxAttempts w e) := by
  have hwithin : w.Within (fun _ _ _ => True) Guarded (ServerEvent.Honest lib) e := by
    cases e with
    | start => trivial
    | answer who x => exact fun c hc => ⟨hguard.1 c hc, hguard.2 c hc⟩
    | crash => trivial
    | other e => exact hguard.1
  refine Crowd.OnCourse.step (fun _ => grows_refl) (fun _ => grows_trans) ?_ ?_ ?_ ?_ ?_ h hwithin
  · exact fun _ _ w w' hreturns hgrows receipt hreceipt => (hreturns receipt hreceipt).grows hgrows
  · exact fun _ task w _ _ => serves_serverProgram hinjective task w
  · exact fun _ _ c x w _ hsound _ hpermitted => (hsound.exec hpermitted).2
  · exact fun _ w hsound => ⟨hsound, fun _ _ => grows_refl w⟩
  · exact fun e w hsound hhonest =>
      ⟨(hsound.act hhonest).1, fun _ => (hsound.act hhonest).2⟩

theorem ServersOnCourse.allAsAsked {w : Servers} (h : ServersOnCourse lib w) : AllAsAsked w := by
  intro who receipt hreceipt
  unfold Servers.receipt at hreceipt
  split at hreceipt
  · rename_i returned hattempt
    exact (h.attempts who _ hattempt receipt hreceipt).asAsked h.store
  · cases hreceipt

theorem ActionsSound.not_dispatched {id : Uuid}
    (h : ActionsSound lib w) (haction : IsActionId lib id)
    (habsent : w.tables.operations.get? id = none) :
    ¬ Dispatched id w := by
  rintro ⟨d, hd, rfl⟩
  obtain ⟨row, hget, _⟩ := h.dispatches d hd haction
  rw [habsent] at hget
  cases hget

theorem ServersOnCourse.eachBeginsAnew {w : Servers} {e : ServersEvent lib}
    (h : ServersOnCourse lib w) (hguard : HonestlyReported lib w e ∧ BegunAndConverged lib w e) :
    EachBeginsAnew lib w e := by
  cases e with
  | start | crash | other => trivial
  | answer who x =>
    intro c hc
    cases c with
    | insertOperation row =>
      intro haction
      have howes := (h.owes (fun _ => grows_refl) hc ⟨hguard.1 _ hc, hguard.2 _ hc⟩).1
      obtain ⟨_, instanceAction, hkind⟩ := howes haction
      refine h.store.not_dispatched haction (hguard.2 _ hc ?_)
      rw [hkind]
      cases instanceAction <;> decide
    | _ => trivial

/-- Nothing is known of any action. -/
structure WithoutActions (lib : LifecycleLibrary) (w : LifecycleWorld) : Prop where
  rows : ∀ row ∈ w.tables.operations.rows, ¬ IsActionId lib row.id
  dispatches : ∀ d ∈ w.dispatches, ¬ IsActionId lib d.operationId
  executed : ∀ d ∈ w.executed, d ∈ w.dispatches

theorem WithoutActions.actionsSound (h : WithoutActions lib w) : ActionsSound lib w :=
  ⟨fun row hrow haction => absurd haction (h.rows row hrow),
    fun row hrow haction => absurd haction (h.rows row hrow),
    fun d hd haction => absurd haction (h.dispatches d hd), h.executed⟩

/-- **An action is executed as asked**: in every run of any number of actions,
deletions, reconciliations and sweeps, with honest reports and crashes, in which
an action that begins finds no row under the identity of its operation and no
server of unknown outcome is found converged without its command, every action
that returns from its wait has sent a command of its own kind that had not been
sent when it began, and one that returns success has had it executed. -/
theorem actions_executed_as_asked
    (lib : LifecycleLibrary) (maxAttempts : Nat) (hinjective : Function.Injective lib.newV5)
    (w : LifecycleWorld) (hwithout : WithoutActions lib w) (events : List (ServersEvent lib))
    (hhonest : EachStep (serversStep lib maxAttempts) (HonestlyReported lib) (Crowd.idle w) events)
    (hguard :
      EachStep (serversStep lib maxAttempts) (BegunAndConverged lib) (Crowd.idle w) events) :
    Always (serversStep lib maxAttempts) AllAsAsked (Crowd.idle w) events ∧
      EachStep (serversStep lib maxAttempts) (EachBeginsAnew lib) (Crowd.idle w) events := by
  have hstart : ServersOnCourse lib (Crowd.idle w) := Crowd.onCourse_idle hwithout.actionsSound
  have hboth := hhonest.and hguard
  constructor
  · exact (always_of_guarded (fun _ _ h hG => h.step hinjective hG) _ events hstart hboth).imp
      (fun _ h => h.allAsAsked)
  · exact eachStep_of_guarded (fun _ _ h hG => h.step hinjective hG)
      (fun _ _ h hG => h.eachBeginsAnew hG) _ events hstart hboth

section Instances

instance decidableOfOk {ε α : Type} (x : Except ε α) (P : α → Prop) [∀ a, Decidable (P a)] :
    Decidable (∀ a, x = .ok a → P a) :=
  match x with
  | .error _ => isTrue (fun _ h => nomatch h)
  | .ok a => decidable_of_iff (P a) ⟨fun h _ ha => by cases ha; exact h, fun h => h a rfl⟩

instance (id : Uuid) (state : OperationState) (w : LifecycleWorld) :
    Decidable (MayBecome id state w) :=
  decidable_of_iff
    ((state ≠ .pending → state ≠ .running → Dispatched id w) ∧ (state = .succeeded → Executed id w))
    ⟨fun h => ⟨h.1, h.2⟩, fun h => ⟨h.dispatched, h.executed⟩⟩

instance (e : ServerEvent lib) (w : LifecycleWorld) : Decidable (e.Honest lib w) :=
  match e with
  | .outcome write => inferInstanceAs (Decidable (MayBecome write.operationId write.state w))
  | .otherWrite .. | .request .. | .resource _ | .execute _ => isTrue trivial

instance (who : Nat) (x : LifecycleAnswer) (w : LifecycleWorld) :
    (c : LifecycleCall) → Decidable (ReportsHonestly who c x w)
  | .dispatch _ | .getProviderOperation _ =>
    inferInstanceAs (Decidable (∀ answer, x.operation = .ok answer → _))
  | .getOperation _ | .getResource _ | .listNonTerminal | .insertOperation _ | .createOrReplay .. |
    .updateOperation .. | .updateCanonicalLifecycle .. | .terminalize _ | .incrementRetry _ |
    .getInstance _ | .probeInstance _ | .observeInstance .. | .projectMetering .. |
    .acquireWorkLease _ | .releaseWorkLease _ | .cleanup _ | .showServer _ | .recordRequiredAudit => isTrue trivial

instance (who : Nat) (x : LifecycleAnswer) (w : LifecycleWorld) :
    (c : LifecycleCall) → Decidable (BeginsAndConverges who c x w)
  | .insertOperation _ => inferInstanceAs (Decidable (_ → _))
  | .observeInstance id _ =>
    inferInstanceAs (Decidable (∀ row ∈ w.tables.operations.get? id,
      ∀ action ∈ LifecycleAction.parse row.kind, ∀ state, x.observed = .ok state →
        action.convergedAt state = true → Executed id w))
  | .getOperation _ | .getResource _ | .listNonTerminal | .createOrReplay .. |
    .updateOperation .. | .updateCanonicalLifecycle .. | .terminalize _ | .incrementRetry _ |
    .dispatch _ | .getInstance _ | .probeInstance _ | .getProviderOperation _ |
    .projectMetering .. | .acquireWorkLease _ | .releaseWorkLease _ | .cleanup _ | .showServer _ |
    .recordRequiredAudit => isTrue trivial

instance (w : Servers) (e : ServersEvent lib) : Decidable (HonestlyReported lib w e) :=
  Crowd.decidableWithin _ _ _ w e

instance (w : Servers) (e : ServersEvent lib) : Decidable (BegunAndConverged lib w e) :=
  Crowd.decidableWithin _ _ _ w e

instance (receipt : ActionReceipt) (w : LifecycleWorld) : Decidable (receipt.AsAsked w) :=
  decidable_of_iff
    ((∃ d ∈ w.dispatches,
        d.operationId = receipt.operationId ∧ d.action = receipt.action.lifecycle) ∧
      (receipt.result = .ok () →
        ∃ d ∈ w.executed,
          d.operationId = receipt.operationId ∧ d.action = receipt.action.lifecycle))
    ⟨fun h => ⟨h.1, h.2⟩, fun h => ⟨h.dispatched, h.executed⟩⟩

end Instances

/-- A server at the provider, in the state. -/
def serverWorld (state : ServerState) : LifecycleWorld :=
  { tables :=
      OperationTables.empty.putResource
        ⟨"server-1", "compute_instance", "project-1", 1, 1, "", serverStateToStorage state,
          some "vm-1"⟩
    retries := fun _ => 0
    dispatches := []
    executed := [] }

/-- The provider executes the command of the action that leads to the state. -/
def actionExecuted (target : ServerState) (generation : Int) (observed : InstanceState) :
    LifecycleAnswer :=
  { failure := none
    operation := .ok
      ⟨"p-1", actionOperationId plainLibrary "project-1" "server-1" target generation, .succeeded⟩
    observed := .ok observed
    executes := true
    metering := .ok ()
    leased := true
    served := .ok ()
    now := "now" }

def actionRefused : LifecycleAnswer :=
  { actionExecuted .active 1 .stopped with operation := .error .terminal, executes := false }

/-- A start that the provider refuses, and then a reboot: it leads to the same
state. -/
def refusedThenRebooted : List (ServersEvent plainLibrary) :=
  .start 1 (.action "project-1" "server-1" .start 0) :: List.replicate 7 (.answer 1 actionRefused) ++
    .start 2 (.action "project-1" "server-1" .reboot 0) ::
      List.replicate 7 (.answer 2 (actionExecuted .active 1 .running))

def stoppedThenStarted : List (ServersEvent plainLibrary) :=
  .start 1 (.action "project-1" "server-1" .stop 0) ::
      List.replicate 10 (.answer 1 (actionExecuted .stopped 1 .stopped)) ++
    .start 2 (.action "project-1" "server-1" .start 0) ::
      List.replicate 10 (.answer 2 (actionExecuted .active 2 .running))

theorem withoutActions_serverWorld (state : ServerState) :
    WithoutActions plainLibrary (serverWorld state) := by
  constructor
  · intro row hrow
    simp [serverWorld, OperationTables.empty, OperationTables.putResource] at hrow
  · exact fun d hd => by cases hd
  · exact fun d hd => by cases hd

/-- **A reboot is answered with the failure of a start**: the provider is not
asked, though the server can be rebooted. -/
theorem reboot_answered_with_failed_start :
    WithoutActions plainLibrary (serverWorld .stopped) ∧
      EachStep (serversStep plainLibrary 3) (HonestlyReported plainLibrary)
        (Crowd.idle (serverWorld .stopped)) refusedThenRebooted ∧
      ¬ (Always (serversStep plainLibrary 3) AllAsAsked (Crowd.idle (serverWorld .stopped))
          refusedThenRebooted ∧
        EachStep (serversStep plainLibrary 3) (EachBeginsAnew plainLibrary)
          (Crowd.idle (serverWorld .stopped)) refusedThenRebooted) := by
  refine ⟨withoutActions_serverWorld .stopped, by decide +kernel, ?_⟩
  rintro ⟨halways, _⟩
  have hasked := halways.last 2
  revert hasked
  decide +kernel

theorem stop_and_start_executed_as_asked :
    Always (serversStep plainLibrary 3) AllAsAsked (Crowd.idle (serverWorld .active))
        stoppedThenStarted ∧
      EachStep (serversStep plainLibrary 3) (EachBeginsAnew plainLibrary)
        (Crowd.idle (serverWorld .active)) stoppedThenStarted :=
  actions_executed_as_asked plainLibrary 3 (fun _ _ h => h) (serverWorld .active)
    (withoutActions_serverWorld .active) stoppedThenStarted (by decide +kernel) (by decide +kernel)

end Lifecycle
end O3k
