import O3k.Execution.Soundness

/-!
# A command is applied once

Success is final in the runs in which nobody observes a command in place while
it is executed: the status writer does not look at what it overwrites.
-/

namespace O3k
namespace Execution

open Relational Network Fabric Semantics ExecutorM
open Program (Yields yields_pure)

variable {Intent : Type} {lib : FabricLibrary Intent L3GatewayExecutionPlan} {strict : Prop}

section Programs

variable {who : Nat} {α β : Type} {s : ExecutorRoot Intent}

/-- The attempt survives among the others, and a value that it returns
satisfies `P`. -/
abbrev Executes (lib : FabricLibrary Intent L3GatewayExecutionPlan) (strict : Prop) (who : Nat)
    (P : α → ExecutorRoot Intent → Prop) (p : ExecutorM Intent α) (s : ExecutorRoot Intent) :
    Prop :=
  Yields (execExecutor lib) (Leaves who) (Kept strict)
    (fun c x s => strict → UnobservedWhileExecuting who c x s) (Owes who) P p s

theorem executes_call {c : ExecutorCall Intent} {P : ExecutorReply c → ExecutorRoot Intent → Prop}
    (h :
      ∀ s' x, Leaves who s s' → Kept strict s' →
        Owes who c x s' ∧ P (execExecutor lib c x s').1 (execExecutor lib c x s').2) :
    Executes lib strict who P (call c) s := by
  refine Program.yields_lift_perform ?_
  intro s' x hleaves hkept hguard
  obtain ⟨howes, hP⟩ := h s' x hleaves hkept
  exact ⟨howes, hkept.exec howes hguard, hP⟩

variable {P : α → ExecutorRoot Intent → Prop}

theorem executes_given {x : Except NetworkExecutionError α} (h : ∀ a, x = .ok a → P a s) :
    Executes lib strict who P (given x) s :=
  Program.yields_mk_pure h

theorem executes_map {f : α → β} {p : ExecutorM Intent α} (hp : Executes lib strict who P p s) :
    Executes lib strict who (fun _ _ => True) (f <$> p) s := by
  refine Program.Survives.bind hp ?_
  intro r s' _
  cases r with
  | error e => exact fun _ _ => trivial
  | ok a => exact fun _ _ => trivial

/-- The attempt executes the command and has not called the provider. -/
def Admitted (who : Nat) (id : Uuid) (s : ExecutorRoot Intent) : Prop :=
  s.executing id = some who ∧ id ∉ s.mutations

theorem Admitted.stable {id : Uuid} {s' : ExecutorRoot Intent}
    (h : Admitted who id s) (hleaves : Leaves who s s') :
    Admitted who id s' := by
  obtain ⟨howner, hfresh⟩ := hleaves id h.1
  exact ⟨howner, hfresh h.2⟩

theorem executes_admitWithAuthority (executor : Option Nat)
    (hexecutor : ∀ who' ∈ executor, who' = who) (command : NetworkPlanCommand Intent) (now : Nat) (authority : NetworkControllerLease) :
    Executes lib strict who
      (fun admission s =>
        admission = .accepted → executor = some who → Admitted who command.commandId s)
      (admitWithAuthority executor command now authority) s := by
  refine Yields.bind
    (P := fun reply s =>
      reply = .ok .accepted → executor = some who → Admitted who command.commandId s)
    (executes_call ?_) ?_
  · intro s' x _ hkept
    refine ⟨hexecutor, fun haccepted hwho => ?_⟩
    simp only [execExecutor] at haccepted ⊢
    rcases execAdmit_cases lib (x := x) (s := s') executor command now authority with
      ⟨_, hrefused⟩ | ⟨hnew, _, hbegun | hwritten⟩
    · exact absurd haccepted hrefused
    · rw [hbegun]
      exact ⟨(Function.update_self _ _ _).trans hwho,
        fun hcalled => hnew (hkept.1.called _ hcalled)⟩
    · rw [hwritten] at haccepted
      cases haccepted
  · intro reply s' h
    refine executes_given ?_
    rintro admission rfl
    rintro rfl
    exact h rfl

theorem executes_admitPlan (executor : Option Nat)
    (hexecutor : ∀ who' ∈ executor, who' = who) (command : NetworkPlanCommand Intent) (now : Nat) :
    Executes lib strict who
      (fun admission s =>
        admission = .accepted → executor = some who → Admitted who command.commandId s)
      (admitPlan executor command now) s := by
  refine Yields.bind (P := fun _ _ => True) (executes_call (fun _ _ _ _ => ⟨trivial, trivial⟩)) ?_
  exact fun authority _ _ => executes_admitWithAuthority executor hexecutor command now authority

theorem execSetStatus_history
    (id : Uuid) (status : NetworkPlanStatus) (x : ExecutorAnswer) (s : ExecutorRoot Intent) :
    (execSetStatus id status x s).2.executing = s.executing ∧
      (execSetStatus id status x s).2.mutations = s.mutations := by
  rcases execSetStatus_cases (x := x) (s := s) id status with hsame | ⟨_, _, hset⟩
  · rw [hsame]
    exact ⟨rfl, rfl⟩
  · rw [hset]
    exact ⟨rfl, rfl⟩

theorem executes_setApplying {id : Uuid} (h : Admitted who id s) :
    Executes lib strict who (fun reply s => reply = .ok () → Admitted who id s)
      (call (.setStatus who id .applying)) s := by
  refine executes_call ?_
  intro s' x hleaves _
  have hstable := h.stable hleaves
  refine ⟨⟨rfl, hstable.1⟩, ?_⟩
  obtain ⟨hexecuting, hmutations⟩ := execSetStatus_history id .applying x s'
  simp only [execExecutor, ExecutorRoot.afterStatus]
  split
  · rename_i t hresult
    rw [hresult] at hexecuting hmutations
    intro _
    exact ⟨(congrFun hexecuting id).trans hstable.1, fun hcalled => hstable.2 (hmutations ▸ hcalled)⟩
  · exact fun h => by cases h

theorem executes_setStatus {id : Uuid} {status : NetworkPlanStatus}
    (howner : s.executing id = some who) :
    Executes lib strict who (fun _ _ => True)
      (do given (← call (.setStatus who id status))) s := by
  refine Yields.bind (P := fun _ _ => True) (executes_call ?_) ?_
  · exact fun _ _ hleaves _ => ⟨⟨rfl, (hleaves id howner).1⟩, trivial⟩
  · exact fun _ _ _ => executes_given (fun _ _ => trivial)

variable {command : NetworkPlanCommand Intent}

theorem executes_confirmMutation
    (howner : s.executing command.commandId = some who) (mutation : Except String Unit) :
    Executes lib strict who (fun _ s => s.executing command.commandId = some who)
      (confirmMutation command mutation) s := by
  cases mutation with
  | error e => exact yields_pure howner
  | ok u =>
    cases haction : command.action with
    | apply =>
      simp only [confirmMutation, haction]
      exact yields_pure howner
    | remove =>
      simp only [confirmMutation, haction]
      refine Yields.bind
        (P := fun _ s => s.executing command.commandId = some who) (executes_call ?_) ?_
      · exact fun s' x hleaves _ => ⟨trivial, (hleaves _ howner).1⟩
      · intro removed s' howner
        split <;> exact yields_pure howner

/-- **An admitted command** is executed with one call of the provider. -/
theorem executes_executeAdmitted (h : Admitted who command.commandId s) :
    Executes lib strict who (fun _ _ => True) (executeAdmitted who command) s := by
  refine Yields.bind (executes_setApplying h) ?_
  intro reply s₁ hreply
  refine Yields.bind (P := fun _ s => Admitted who command.commandId s) (executes_given ?_) ?_
  · rintro a rfl
    exact hreply rfl
  intro _ s₂ hadmitted
  refine Yields.bind (P := fun _ s => s.executing command.commandId = some who)
    (executes_call ?_) ?_
  · intro s' x hleaves _
    have hstable := hadmitted.stable hleaves
    exact ⟨hstable, hstable.1⟩
  intro mutation s₃ howner
  refine Yields.bind (executes_confirmMutation howner mutation) ?_
  intro result s₄ howner
  cases result with
  | ok u => exact executes_setStatus howner
  | error e =>
    refine Yields.bind (P := fun _ _ => True) (executes_call ?_) ?_
    · exact fun _ _ hleaves _ => ⟨⟨rfl, (hleaves _ howner).1⟩, trivial⟩
    · intro reply s₅ _
      refine Yields.bind (P := fun _ _ => True) (executes_given (fun _ _ => trivial)) ?_
      exact fun _ _ _ => Program.yields_throw _ _

theorem executes_executeIfAccepted {admission : PlanAdmission}
    (h : admission = .accepted → Admitted who command.commandId s) :
    Executes lib strict who (fun _ _ => True) (executeIfAccepted who command admission) s := by
  unfold executeIfAccepted
  split
  · exact yields_pure trivial
  · rename_i haccepted
    refine Yields.bind (executes_executeAdmitted (h (not_not.mp haccepted))) ?_
    exact fun _ _ _ => yields_pure trivial

theorem executes_reconcile (id : Uuid) :
    Executes lib strict who (fun _ _ => True) (reconcile id) s := by
  refine Yields.bind (P := fun _ _ => True) (executes_call ?_) ?_
  · exact fun _ _ _ _ => ⟨trivial, trivial⟩
  · exact fun _ _ _ => executes_given (fun _ _ => trivial)

theorem executes_reconcileEach (ids : List Uuid) :
    Executes lib strict who (fun _ _ => True) (reconcileEach ids) s := by
  induction ids generalizing s with
  | nil => exact yields_pure trivial
  | cons id rest ih =>
    refine Yields.bind (executes_reconcile id) ?_
    intro status s₁ _
    refine Yields.bind ih ?_
    exact fun _ _ _ => yields_pure trivial

theorem executes_reconcilePending :
    Executes lib strict who (fun _ _ => True) reconcilePending s := by
  refine Yields.bind (P := fun _ _ => True) (executes_call ?_) ?_
  · exact fun _ _ _ _ => ⟨trivial, trivial⟩
  · intro reply s₁ _
    refine Yields.bind (P := fun _ _ => True) (executes_given (fun _ _ => trivial)) ?_
    exact fun pending _ _ => executes_reconcileEach pending

theorem executes_executorM (task : ExecutorTask Intent) :
    Executes lib strict who (fun _ _ => True) (executorM who task) s := by
  cases task with
  | admission command now =>
    exact executes_map (executes_admitPlan _ (by simp) command now)
  | admitWithAuthority command now authority =>
    exact executes_map (executes_admitWithAuthority _ (by simp) command now authority)
  | execute command now =>
    refine executes_map (P := fun _ _ => True) ?_
    refine Yields.bind (executes_admitPlan (some who) (by simp) command now) ?_
    exact fun _ _ h => executes_executeIfAccepted (fun haccepted => h haccepted rfl)
  | dispatch command now authority =>
    refine Yields.bind
      (executes_admitWithAuthority (some who) (by simp) command now authority) ?_
    exact fun _ _ h => executes_map (executes_executeIfAccepted (fun haccepted => h haccepted rfl))
  | reconcile id => exact executes_map (executes_reconcile id)
  | reconcilePending => exact executes_map executes_reconcilePending

end Programs

section Runs

/-- A root at which nothing has been admitted. -/
def freshRoot (agent : NetworkAgentIdentity) (lease : NetworkControllerLease) :
    ExecutorRoot Intent :=
  { agent := agent
    lease := lease
    plans := []
    executing := fun _ => none
    mutations := [] }

/-- The provider has been called once for a command, and there is one row for a
command and one for an operation, plan and action. -/
structure AppliedOnce (s : ExecutorRoot Intent) : Prop where
  mutations : s.mutations.Nodup
  commands : (s.plans.map (·.commandId)).Nodup
  purposes : (s.plans.map (·.purpose)).Nodup

/-- The rows stay, with their commands. -/
def KeepsCommands (s s' : ExecutorRoot Intent) : Prop :=
  ∀ p ∈ s.plans, ∃ p' ∈ s'.plans, SameCommand p p'

def KeepsSuccess (s s' : ExecutorRoot Intent) : Prop :=
  ∀ p ∈ s.plans, p.status = .succeeded →
    ∃ p' ∈ s'.plans, p'.commandId = p.commandId ∧ p'.status = .succeeded

instance (s s' : ExecutorRoot Intent) : Decidable (KeepsSuccess s s') :=
  inferInstanceAs (Decidable (∀ p ∈ s.plans, _))

def refusal : (c : ExecutorCall Intent) → ExecutorReply c → Option NetworkExecutionError
  | .admission _ _ _ _, .error e => some e
  | .setStatus _ _ _, .error e => some e
  | .pending, .error e => some e
  | .reconcile _, .error e => some e
  | _, _ => none

/-- A section that is refused leaves the journal as it was. -/
def RefusesQuietly (lib : FabricLibrary Intent L3GatewayExecutionPlan) (w : Executors Intent) :
    ExecutorEvent Intent → Prop :=
  w.Within (fun _ _ _ => True)
    (fun _ c x s => ∀ e, refusal c (execExecutor lib c x s).1 = some e → e.isRejection = true →
      (execExecutor lib c x s).2.plans = s.plans)
    (fun _ _ => True)

/-- No observation finds a command in place that is admitted and whose
execution is not over. -/
def NotObservedWhileExecuting (w : Executors Intent) : ExecutorEvent Intent → Prop :=
  w.Within (fun _ _ _ => True) UnobservedWhileExecuting (fun _ _ => True)

instance (who : Nat) (x : ExecutorAnswer) (s : ExecutorRoot Intent) :
    (c : ExecutorCall Intent) → Decidable (UnobservedWhileExecuting who c x s)
  | .reconcile _ => inferInstanceAs (Decidable (_ → _))
  | .controllerLease | .admission .. | .setStatus .. | .mutate _ | .observeRemoved _ | .pending =>
    isTrue trivial

instance (w : Executors Intent) (e : ExecutorEvent Intent) :
    Decidable (NotObservedWhileExecuting w e) :=
  Crowd.decidableWithin _ _ _ w e

section Steps

variable {s : ExecutorRoot Intent} {x : ExecutorAnswer}

/-- What a call does to the journal. -/
inductive JournalMove (s : ExecutorRoot Intent) : ExecutorCall Intent → ExecutorAnswer →
    List (AcceptedPlan Intent) → Prop
  | same (c : ExecutorCall Intent) (x : ExecutorAnswer) : JournalMove s c x s.plans
  | append (c : ExecutorCall Intent) (x : ExecutorAnswer) (row : AcceptedPlan Intent) :
      JournalMove s c x (s.plans ++ [row])
  | status (who : Nat) (id : Uuid) (status : NetworkPlanStatus) (x : ExecutorAnswer)
      (plans' : List (AcceptedPlan Intent)) (h : setPlanStatus id status s.plans = some plans') :
      JournalMove s (.setStatus who id status) x plans'
  | observation (id : Uuid) (x : ExecutorAnswer) (record : AcceptedPlan Intent)
      (plans' : List (AcceptedPlan Intent)) (hrecord : findPlan id s.plans = some record)
      (hopen : record.status ≠ .succeeded)
      (h : setPlanStatus id (observedStatus x.observation) s.plans = some plans') :
      JournalMove s (.reconcile id) x plans'

theorem finish_plans (who : Nat) (id : Uuid) : (s.finish who id).plans = s.plans := by
  unfold ExecutorRoot.finish
  split <;> rfl

theorem afterStatus_plans (who : Nat) (id : Uuid) (status : NetworkPlanStatus)
    (result : Except NetworkExecutionError Unit × ExecutorRoot Intent) :
    (ExecutorRoot.afterStatus who id status result).2.plans = result.2.plans := by
  unfold ExecutorRoot.afterStatus
  split
  · split
    · rfl
    · exact finish_plans who id
  · exact finish_plans who id

theorem journalMove_exec (c : ExecutorCall Intent) :
    JournalMove s c x (execExecutor lib c x s).2.plans := by
  cases c with
  | admission who command now authority =>
    simp only [execExecutor]
    rcases execAdmit_cases lib (x := x) (s := s) who command now authority with
      ⟨hsame, _⟩ | ⟨_, _, hbegun | hwritten⟩
    · rw [hsame]
      exact .same _ _
    · rw [hbegun]
      exact .append _ _ _
    · rw [hwritten]
      exact .append _ _ _
  | setStatus who id status =>
    simp only [execExecutor]
    rw [afterStatus_plans]
    rcases execSetStatus_cases (x := x) (s := s) id status with hsame | ⟨plans', hplans, hset⟩
    · rw [hsame]
      exact .same _ _
    · rw [hset]
      exact .status _ _ _ _ _ hplans
  | reconcile id =>
    simp only [execExecutor]
    rcases execReconcile_cases (x := x) (s := s) id with
      hsame | ⟨record, plans', hrecord, hopen, hplans, hset⟩
    · rw [hsame]
      exact .same _ _
    · rw [hset]
      exact .observation _ _ _ _ hrecord hopen hplans
  | controllerLease => exact .same _ _
  | mutate => exact .same _ _
  | observeRemoved => exact .same _ _
  | pending => exact .same _ _

theorem JournalMove.keepsCommands {c : ExecutorCall Intent} {plans' : List (AcceptedPlan Intent)}
    (h : JournalMove s c x plans') :
    ∀ p ∈ s.plans, ∃ p' ∈ plans', SameCommand p p' := by
  intro p hp
  cases h with
  | same => exact ⟨p, hp, .refl p⟩
  | append row => exact ⟨p, List.mem_append_left _ hp, .refl p⟩
  | status who id status _ _ hplans => exact (setPlanStatus_mem hplans p hp).2
  | observation id _ record _ _ _ hplans => exact (setPlanStatus_mem hplans p hp).2

/-- A row that has succeeded is not written: its command is not executed, and
its observation is not repeated. -/
theorem JournalMove.keepsSuccess {who : Nat} {c : ExecutorCall Intent}
    {plans' : List (AcceptedPlan Intent)} (h : JournalMove s c x plans') (hkept : Kept True s)
    (howes : Owes who c x s) :
    ∀ p ∈ s.plans, p.status = .succeeded → p ∈ plans' := by
  intro p hp hsucceeded
  cases h with
  | same => exact hp
  | append row => exact List.mem_append_left _ hp
  | status who' id status _ _ hplans =>
    obtain ⟨rfl, howner⟩ := howes
    refine (setPlanStatus_mem hplans p hp).1 ?_
    rintro rfl
    exact hkept.2 trivial p hp _ howner hsucceeded
  | observation id _ record _ hrecord hopen hplans =>
    refine (setPlanStatus_mem hplans p hp).1 ?_
    rintro rfl
    obtain ⟨hmem, hid⟩ := findPlan_eq_some hrecord
    rw [eq_of_commandId hkept.1.ids hmem hp hid] at hopen
    exact hopen hsucceeded

theorem writePlans_plans_of_rejection {α : Type} {plans : List (AcceptedPlan Intent)} {a : α}
    {write : WriteOutcome} {e : NetworkExecutionError}
    (h : (s.writePlans write plans a).1 = .error e) (hrejection : e.isRejection = true) :
    (s.writePlans write plans a).2.plans = s.plans := by
  unfold ExecutorRoot.writePlans at h ⊢
  split at h
  · cases h
  · rfl
  · cases h
    cases hrejection

theorem plans_of_refusal (c : ExecutorCall Intent) {e : NetworkExecutionError}
    (h : refusal c (execExecutor lib c x s).1 = some e) (hrejection : e.isRejection = true) :
    (execExecutor lib c x s).2.plans = s.plans := by
  cases c with
  | admission who command now authority =>
    simp only [execExecutor] at h ⊢
    rcases execAdmit_cases lib (x := x) (s := s) who command now authority with
      ⟨hsame, _⟩ | ⟨_, _, hbegun | hwritten⟩
    · rw [hsame]
    · rw [hbegun] at h
      cases h
    · rw [hwritten] at h
      cases h
      cases hrejection
  | setStatus who id status =>
    simp only [execExecutor] at h ⊢
    rw [afterStatus_plans]
    have herror : (execSetStatus id status x s).1 = .error e := by
      unfold ExecutorRoot.afterStatus at h
      split at h
      · cases h
      · rename_i hresult
        cases h
        rw [hresult]
    unfold execSetStatus at herror ⊢
    split at herror
    · rfl
    · split at herror
      · rfl
      · exact writePlans_plans_of_rejection herror hrejection
  | reconcile id =>
    simp only [execExecutor] at h ⊢
    have herror : (execReconcile id x s).1 = .error e := by
      cases hresult : (execReconcile id x s).1 with
      | error e' =>
        rw [hresult] at h
        cases h
        rfl
      | ok status =>
        rw [hresult] at h
        cases h
    unfold execReconcile at herror ⊢
    split at herror
    · rfl
    · split at herror
      · rfl
      · split at herror
        · cases herror
        · rename_i hopen
          rw [if_neg hopen]
          split at herror
          · rfl
          · exact writePlans_plans_of_rejection herror hrejection
  | controllerLease => rfl
  | mutate => rfl
  | observeRemoved => rfl
  | pending => rfl

end Steps

abbrev ExecutorsOnCourse
    (lib : FabricLibrary Intent L3GatewayExecutionPlan) (strict : Prop) (w : Executors Intent) :
    Prop :=
  w.OnCourse (execExecutor lib) Leaves (Kept strict)
    (fun who c x s => strict → UnobservedWhileExecuting who c x s) Owes
    (fun _ r _ => ∀ a, r = .ok a → True)

theorem kept_freshRoot (agent : NetworkAgentIdentity) (lease : NetworkControllerLease) :
    Kept strict (freshRoot agent lease : ExecutorRoot Intent) := by
  refine ⟨⟨List.nodup_nil, List.nodup_nil, ?_, ?_, List.nodup_nil⟩, ?_⟩
  · exact fun _ _ h => by cases h
  · exact fun _ h => by cases h
  · exact fun _ _ h => by cases h

variable {w : Executors Intent}

theorem ExecutorsOnCourse.step {e : ExecutorEvent Intent}
    (h : ExecutorsOnCourse lib strict w) (hguard : strict → NotObservedWhileExecuting w e) :
    ExecutorsOnCourse lib strict (executorStep lib w e) := by
  refine Crowd.OnCourse.step (S := fun _ _ _ => True) (E := fun _ _ => True)
    leaves_refl leaves_trans (fun _ _ _ _ _ _ _ _ => trivial) ?_ ?_ ?_ ?_ h ?_
  · exact fun who task s _ _ => executes_executorM task
  · exact fun who who' c x s hne hkept _ howes => leaves_exec hkept.1 hne howes
  · intro who s hkept
    have hdropped : ∀ id who', (s.drop who).executing id = some who' →
        s.executing id = some who' := by
      intro id who' h
      simp only [ExecutorRoot.drop] at h
      split at h
      · cases h
      · exact h
    refine ⟨hkept.congr rfl rfl hdropped, ?_⟩
    intro who' hne id hid
    refine ⟨?_, fun h => h⟩
    simp only [ExecutorRoot.drop]
    rw [if_neg, hid]
    rw [hid]
    exact fun h => hne (Option.some.inj h)
  · exact fun e s hkept _ => ⟨hkept.congr rfl rfl (fun _ _ h => h), fun _ _ h => ⟨h, fun h => h⟩⟩
  · cases e with
    | answer id x => exact fun c hcalling hstrict => hguard hstrict c hcalling
    | start | crash | other => trivial

theorem ExecutorsOnCourse.appliedOnce (h : ExecutorsOnCourse lib strict w) : AppliedOnce w.store :=
  ⟨h.store.1.once, h.store.1.ids, h.store.1.purposes⟩

/-- **One event** keeps the commands. -/
theorem keepsCommands_step (w : Executors Intent) (e : ExecutorEvent Intent) :
    KeepsCommands w.store (executorStep lib w e).store := by
  cases e with
  | start id task =>
    simp only [executorStep, Crowd.step]
    split <;> exact fun p hp => ⟨p, hp, .refl p⟩
  | answer id x =>
    simp only [executorStep, Crowd.step]
    split
    · exact (journalMove_exec _).keepsCommands
    · exact fun p hp => ⟨p, hp, .refl p⟩
  | crash id =>
    simp only [executorStep, Crowd.step]
    split <;> exact fun p hp => ⟨p, hp, .refl p⟩
  | other e => exact fun p hp => ⟨p, hp, .refl p⟩

theorem refusesQuietly (w : Executors Intent) (e : ExecutorEvent Intent) :
    RefusesQuietly lib w e := by
  cases e with
  | answer id x => exact fun c _ e h hrejection => plans_of_refusal c h hrejection
  | start | crash | other => trivial

/-- **One event** keeps success, where nobody has observed what is executed. -/
theorem ExecutorsOnCourse.keepsSuccess (h : ExecutorsOnCourse lib True w) {e : ExecutorEvent Intent}
    (hguard : NotObservedWhileExecuting w e) :
    KeepsSuccess w.store (executorStep lib w e).store := by
  have hsame : ∀ p ∈ w.store.plans, p.status = .succeeded →
      ∃ p' ∈ w.store.plans, p'.commandId = p.commandId ∧ p'.status = .succeeded :=
    fun p hp hsucceeded => ⟨p, hp, rfl, hsucceeded⟩
  cases e with
  | start id task =>
    simp only [executorStep, Crowd.step]
    split <;> exact hsame
  | answer id x =>
    simp only [executorStep, Crowd.step]
    split
    · rename_i c next hattempt
      have howes := (h.owes leaves_refl ⟨next, hattempt⟩ (fun _ => hguard c ⟨next, hattempt⟩)).1
      intro p hp hsucceeded
      exact ⟨p, (journalMove_exec c).keepsSuccess h.store howes p hp hsucceeded, rfl, hsucceeded⟩
    · exact hsame
  | crash id =>
    simp only [executorStep, Crowd.step]
    split <;> exact hsame
  | other e => exact hsame

/-- **A command is applied once and its success is final**: in every run of any
number of callers, with crashes and reopened executors, the provider is called
at most once for a command, its one row in the journal keeps it, and a refused
call leaves the journal as it was; and where no observation finds a command in
place while it is executed, a command that has succeeded remains so. -/
theorem network_plan_applied_once
    (lib : FabricLibrary Intent L3GatewayExecutionPlan) (agent : NetworkAgentIdentity)
    (lease : NetworkControllerLease) (events : List (ExecutorEvent Intent)) :
    Always (executorStep lib) (fun w => AppliedOnce w.store)
        (Crowd.idle (freshRoot agent lease)) events ∧
      EachStep (executorStep lib)
        (fun w e => KeepsCommands w.store (executorStep lib w e).store ∧ RefusesQuietly lib w e)
        (Crowd.idle (freshRoot agent lease)) events ∧
      (EachStep (executorStep lib) NotObservedWhileExecuting
          (Crowd.idle (freshRoot agent lease)) events →
        EachStep (executorStep lib) (fun w e => KeepsSuccess w.store (executorStep lib w e).store)
          (Crowd.idle (freshRoot agent lease)) events) := by
  refine ⟨?_, ?_, ?_⟩
  · have hstart : ExecutorsOnCourse lib False (Crowd.idle (freshRoot agent lease)) :=
      Crowd.onCourse_idle (kept_freshRoot agent lease)
    exact (always_of_invariant (fun w e h => h.step False.elim) _ events hstart).imp
      (fun _ h => h.appliedOnce)
  · exact eachStep_of_forall (fun e _ w => ⟨keepsCommands_step w e, refusesQuietly w e⟩) _
  · intro hguard
    have hstart : ExecutorsOnCourse lib True (Crowd.idle (freshRoot agent lease)) :=
      Crowd.onCourse_idle (kept_freshRoot agent lease)
    exact eachStep_of_guarded (fun w e h hguard => h.step (fun _ => hguard))
      (fun w e h hguard => h.keepsSuccess hguard) _ events hstart hguard

/-- The libraries on what the plan `plan-1` asks of them. -/
def planLibrary : FabricLibrary Unit L3GatewayExecutionPlan where
  parseSocketAddr _ := none
  parseSocketAddr_empty := noSocketAddr_empty
  uuidBytes _ := []
  newV5 _ name := name
  intentJson _ := "null"
  sha256 _ := "3133e46f5c9672f5853604872b0e8ebb037f5472accf551b1d1752c7846ce673"

def nodeAgent : NetworkAgentIdentity := ⟨"node-1", "epoch-1"⟩

def nodeLease : NetworkControllerLease := ⟨"controller-1", "epoch-1", 1⟩

/-- The plan of no endpoints for the node. -/
def emptyPlan : NodeNetworkPlan Unit L3GatewayExecutionPlan where
  schemaVersion := 1
  planId := "plan-1"
  nodeId := "node-1"
  operationId := "operation-1"
  deadlineUnixMs := 100
  resourceGenerations := ∅
  intents := []
  fabric := none
  gateway := none
  fingerprintSha256 := "3133e46f5c9672f5853604872b0e8ebb037f5472accf551b1d1752c7846ce673"

def applyEmptyPlan : NetworkPlanCommand Unit where
  commandId := "command-1"
  operationId := "operation-1"
  idempotencyKey := "key-1"
  action := .apply
  target := nodeAgent
  controller := nodeLease
  deadlineUnixMs := 100
  plan := emptyPlan

/-- The command is admitted, and a recovery observes its plan in place before
its execution begins. -/
def observedBeforeExecution : List (ExecutorEvent Unit) :=
  [.start 1 (.execute applyEmptyPlan 0), .answer 1 .plain, .answer 1 .plain,
    .start 2 (.reconcile "command-1"), .answer 2 .plain, .answer 1 .plain]

/-- **Success is taken back** by the execution that is still to come. -/
theorem execution_takes_success_back :
    ¬ EachStep (executorStep planLibrary)
      (fun w e => KeepsSuccess w.store (executorStep planLibrary w e).store)
      (Crowd.idle (freshRoot nodeAgent nodeLease)) observedBeforeExecution := by
  decide +kernel

def observedAfterExecution : List (ExecutorEvent Unit) :=
  .start 1 (.execute applyEmptyPlan 0) :: List.replicate 5 (.answer 1 .plain) ++
    [.start 2 (.reconcile "command-1"), .answer 2 .plain]

theorem success_kept_after_execution :
    EachStep (executorStep planLibrary)
      (fun w e => KeepsSuccess w.store (executorStep planLibrary w e).store)
      (Crowd.idle (freshRoot nodeAgent nodeLease)) observedAfterExecution := by
  refine (network_plan_applied_once planLibrary nodeAgent nodeLease observedAfterExecution).2.2 ?_
  decide +kernel

end Runs

end Execution
end O3k
