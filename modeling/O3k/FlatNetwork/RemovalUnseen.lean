import O3k.FlatNetwork.Node
import O3k.Planning.Encoding

/-!
# A removal is not seen

The observation of a removal negates that of the plan, which finds a plan that
is gone to be an error.  So no removal succeeds, however well the provider has
removed the plan; and the process that it stops serves the other plans.
-/

namespace O3k
namespace FlatNetwork

open Relational Network Fabric Execution Semantics ExecutorM
open Planning (NetworkPlanIntent PlanLibrary)
open Program (Brings Ends Outcome answered answeredWithin_of_forall ends_pure)

variable {planLib : PlanLibrary} {lib : HostLibrary} {config : HostNetworkConfig}
variable {s : FlatNode} {α β : Type}

def NodeWorks (_ : ExecutorCall NetworkPlanIntent) (x : NodeAnswer) (_ : FlatNode) : Prop :=
  ∀ k, (x.host k).works = true

theorem hosting_ends {P : α → FlatHost → Prop} {E : FlatNetworkError → FlatHost → Prop}
    {p : FlatM α} {x : NodeAnswer} {h : FlatHost} (hworks : ∀ k, (x.host k).works = true)
    (hp : Hosted config P E p h) :
    Outcome P E (hosting config p x h).1 (hosting config p x h).2 :=
  Brings.answered hp (answeredWithin_of_forall (fun n _ _ => hworks n) _ _)

theorem hosting_kept {p : FlatM α} {x : NodeAnswer} {h : FlatHost}
    (hworks : ∀ k, (x.host k).works = true) (hkept : ManifestKept lib config h.manifest)
    (hp : Sanctions lib p) :
    ManifestKept lib config (hosting config p x h).2.manifest :=
  Brings.answered (G := Works)
    (Brings.of_calls
      (I := fun h => ManifestKept lib config h.manifest)
      (fun _ _ _ hsanctioned h => h.execHost hsanctioned) hp hkept)
    (answeredWithin_of_forall (fun n _ _ => hworks n) _ _)

theorem sanctions_provide (command : FlatCommand) : Sanctions lib (provide lib config command) := by
  unfold provide
  split
  · exact sanctions_realize _
  · exact sanctions_remove _

theorem hosting_observed {x : NodeAnswer} {h : FlatHost}
    (hworks : ∀ k, (x.host k).works = true) (hkept : ManifestKept lib config h.manifest)
    (action : NetworkPlanAction) (plan : FlatPlan) :
    (hosting config (observed lib config action plan) x h).2 = h ∧
      (action = .remove → (hosting config (observed lib config action plan) x h).1 ≠ .ok true) := by
  cases action with
  | apply =>
    refine ⟨?_, fun h => by cases h⟩
    have hends := hosting_ends hworks (hosted_observeEndpoints hkept plan.planId plan.intents)
    show (hosting config (observe lib config plan) x h).2 = h
    unfold observe
    revert hends
    cases (hosting config (observeEndpoints lib config plan.planId plan.intents) x h).1 with
    | ok a => exact fun hends => hends.1.symm
    | error e => exact fun hends => hends.1.symm
  | remove =>
    have hends := hosting_ends hworks (hosted_observeRemoved hkept plan)
    show (hosting config (observeRemoved lib config plan) x h).2 = h ∧ _
    simp only [observed, forall_const]
    revert hends
    cases (hosting config (observeRemoved lib config plan) x h).1 with
    | ok a =>
      rintro ⟨hsame, rfl⟩
      exact ⟨hsame.symm, fun h => by cases h⟩
    | error e => exact fun hends => ⟨Eq.symm hends, fun h => by cases h⟩

/-- The manifest can be read again, and no removal has succeeded. -/
structure NodeKept (lib : HostLibrary) (config : HostNetworkConfig) (s : FlatNode) :
    Prop where
  manifest : ManifestKept lib config s.host.manifest
  removals : ∀ p ∈ s.root.plans, p.action = .remove → p.status ≠ .succeeded

/-- The row of the command is one of its action. -/
def Known (command : FlatCommand) (s : FlatNode) : Prop :=
  ∃ record, findPlan command.commandId s.root.plans = some record ∧
    record.action = command.action

/-- The provider has not been called in between. -/
def Same (s s' : FlatNode) : Prop :=
  s'.host = s.host ∧ s'.realized = s.realized ∧ s'.removed = s.removed

theorem Same.refl (s : FlatNode) : Same s s := ⟨rfl, rfl, rfl⟩

theorem Same.trans {s₁ s₂ s₃ : FlatNode} (h₁₂ : Same s₁ s₂) (h₂₃ : Same s₂ s₃) : Same s₁ s₃ :=
  ⟨h₂₃.1.trans h₁₂.1, h₂₃.2.1.trans h₁₂.2.1, h₂₃.2.2.trans h₁₂.2.2⟩

/-- What the provider has done for a plan that it has realized. -/
def Realized (lib : HostLibrary) (config : HostNetworkConfig) (plan : FlatPlan) (h h' : FlatHost) :
    Prop :=
  Adding lib config h h' ∧ h'.Serving ∧
    ∀ spec ∈ endpointsOf plan.planId plan.intents, EndpointPresent lib config h' spec

/-- What the provider has done for a plan that it has removed. -/
def Removed (lib : HostLibrary) (config : HostNetworkConfig) (plan : FlatPlan) (h h' : FlatHost) :
    Prop :=
  Removing lib config plan.planId h h' ∧ BindingsKept lib config plan.planId h h' ∧
    (∀ spec ∈ endpointsOf plan.planId plan.intents, EndpointAbsent lib h' spec) ∧
    h'.supervisor = none

/-- What has become of the command. -/
inductive Progress
    (lib : HostLibrary) (config : HostNetworkConfig) (command : FlatCommand) (s s' : FlatNode) :
    Prop
  | none (hrealized : s'.realized = s.realized) (hremoved : s'.removed = s.removed)
  | realized (haction : command.action = .apply)
      (hrealized : s'.realized = command.commandId :: s.realized)
      (hremoved : s'.removed = s.removed) (hdone : Realized lib config command.plan s.host s'.host)
  | removed (haction : command.action = .remove) (hrealized : s'.realized = s.realized)
      (hremoved : s'.removed = command.commandId :: s.removed)
      (hdone : Removed lib config command.plan s.host s'.host)

variable {command : FlatCommand}

theorem Progress.same {s s' s'' : FlatNode}
    (h : Progress lib config command s s') (hsame : Same s' s'') :
    Progress lib config command s s'' := by
  obtain ⟨hhost, hrealized', hremoved'⟩ := hsame
  cases h with
  | none hrealized hremoved => exact .none (hrealized'.trans hrealized) (hremoved'.trans hremoved)
  | realized haction hrealized hremoved hdone =>
    exact .realized haction (hrealized'.trans hrealized) (hremoved'.trans hremoved)
      (hhost ▸ hdone)
  | removed haction hrealized hremoved hdone =>
    exact .removed haction (hrealized'.trans hrealized) (hremoved'.trans hremoved) (hhost ▸ hdone)

theorem Progress.of_same {s s' : FlatNode} (h : Same s s') : Progress lib config command s s' :=
  .none h.2.1 h.2.2

theorem Progress.after {s s' s'' : FlatNode}
    (hsame : Same s s') (h : Progress lib config command s' s'') :
    Progress lib config command s s'' := by
  obtain ⟨hhost, hrealized', hremoved'⟩ := hsame
  cases h with
  | none hrealized hremoved => exact .none (hrealized.trans hrealized') (hremoved.trans hremoved')
  | realized haction hrealized hremoved hdone =>
    exact .realized haction (hrealized' ▸ hrealized) (hremoved.trans hremoved') (hhost ▸ hdone)
  | removed haction hrealized hremoved hdone =>
    exact .removed haction (hrealized.trans hrealized') (hremoved' ▸ hremoved) (hhost ▸ hdone)

section Calls

variable {P : α → FlatNode → Prop} {E : NetworkExecutionError → FlatNode → Prop}

/-- Alone at the node, where every command of the host works. -/
abbrev NodeEnds (planLib : PlanLibrary) (lib : HostLibrary) (config : HostNetworkConfig)
    (P : α → FlatNode → Prop) (E : NetworkExecutionError → FlatNode → Prop)
    (p : ExecutorM NetworkPlanIntent α) (s : FlatNode) :
    Prop :=
  Ends (execNode planLib lib config) NodeWorks P E p s

theorem node_call {c : ExecutorCall NetworkPlanIntent} {P : ExecutorReply c → FlatNode → Prop}
    (h : ∀ x, NodeWorks c x s →
      P (execNode planLib lib config c x s).1 (execNode planLib lib config c x s).2) :
    NodeEnds planLib lib config P E (call c) s :=
  Program.ends_lift_perform h

theorem node_given {x : Except NetworkExecutionError α}
    (hok : ∀ a, x = .ok a → P a s) (herror : ∀ e, x = .error e → E e s) :
    NodeEnds planLib lib config P E (given x) s :=
  Program.ends_mk_pure hok herror

theorem NodeKept.rows (hkept : NodeKept lib config s) {root : ExecutorRoot NetworkPlanIntent}
    (hrows : ∀ p ∈ root.plans, p ∈ s.root.plans ∨ (p.action = .remove → p.status ≠ .succeeded)) :
    NodeKept lib config { s with root := root } :=
  ⟨hkept.manifest, fun p hp haction => (hrows p hp).elim
    (fun hbefore => hkept.removals p hbefore haction) (fun h => h haction)⟩

theorem node_admission (hkept : NodeKept lib config s) (who : Option Nat)
    (command : FlatCommand) (now : Nat) (authority : NetworkControllerLease) :
    NodeEnds planLib lib config
      (fun reply s' => NodeKept lib config s' ∧ Same s s' ∧
        (reply = .ok .accepted → Known command s'))
      E (call (.admission who command now authority)) s := by
  refine node_call fun x _ => ?_
  simp only [execNode, executorSection, execExecutor]
  have happended : ∀ root : ExecutorRoot NetworkPlanIntent,
      root.plans = s.root.plans ++ [command.row] → NodeKept lib config { s with root := root } := by
    intro root hroot
    refine hkept.rows fun p hp => ?_
    rw [hroot] at hp
    rcases List.mem_append.mp hp with hp | hp
    · exact Or.inl hp
    · rw [List.mem_singleton.mp hp]
      exact Or.inr fun _ h => by cases h
  rcases execAdmit_cases planLib (x := x.saying (.ok ()) (.ok false)) (s := s.root) who command now
    authority with ⟨hsame, hrefused⟩ | ⟨hnew, -, hbegun | hwritten⟩
  · rw [hsame]
    exact ⟨hkept, .refl s, fun haccepted => absurd haccepted hrefused⟩
  · rw [hbegun]
    exact ⟨happended _ rfl, ⟨rfl, rfl, rfl⟩,
      fun _ => ⟨command.row, findPlan_append_of_new hnew rfl, rfl⟩⟩
  · rw [hwritten]
    exact ⟨happended _ rfl, ⟨rfl, rfl, rfl⟩, fun h => by cases h⟩

variable {command : FlatCommand}

theorem node_setStatus {status : NetworkPlanStatus}
    (hkept : NodeKept lib config s) (hknown : Known command s)
    (hstatus : status = .succeeded → command.action = .apply) :
    NodeEnds planLib lib config
      (fun _ s' => NodeKept lib config s' ∧ Same s s' ∧ Known command s') E
      (call (.setStatus 0 command.commandId status)) s := by
  refine node_call fun x _ => ?_
  simp only [execNode, executorSection, execExecutor]
  obtain ⟨record, hfind, haction⟩ := hknown
  have hplans := afterStatus_plans 0 command.commandId status
    (execSetStatus command.commandId status (x.saying (.ok ()) (.ok false)) s.root)
  rcases execSetStatus_cases (x := x.saying (.ok ()) (.ok false)) (s := s.root) command.commandId
    status with hsame | ⟨plans', hset, hafter⟩
  · rw [hsame] at hplans
    refine ⟨hkept.rows fun p hp => Or.inl (hplans ▸ hp), ⟨rfl, rfl, rfl⟩, record, ?_, haction⟩
    rw [hplans]
    exact hfind
  · rw [hafter] at hplans
    obtain ⟨record', hfind', hfound, hrows⟩ := setPlanStatus_row hset
    cases Option.some.inj (hfind.symm.trans hfind')
    refine ⟨hkept.rows fun p hp => ?_, ⟨rfl, rfl, rfl⟩, { record with status := status }, ?_,
      haction⟩
    · rw [hplans] at hp
      refine (hrows p hp).imp_right ?_
      rintro rfl hremove hsucceeded
      cases (haction.symm.trans hremove).symm.trans (hstatus hsucceeded)
    · rw [hplans]
      exact hfound

theorem node_mutate (hkept : NodeKept lib config s) (hknown : Known command s) :
    NodeEnds planLib lib config
      (fun _ s' => NodeKept lib config s' ∧ Progress lib config command s s' ∧ Known command s') E
      (call (.mutate command)) s := by
  refine node_call fun x hworks => ?_
  have hmanifest := hosting_kept (p := provide lib config command) hworks hkept.manifest
    (sanctions_provide command)
  simp only [execNode, executorSection, execExecutor]
  unfold FlatNode.provided
  cases haction : command.action with
  | apply =>
    have hends : Outcome (fun _ h' => Realized lib config command.plan s.host h')
        (fun _ _ => True) (hosting config (provide lib config command) x s.host).1
        (hosting config (provide lib config command) x s.host).2 := by
      unfold provide
      rw [haction]
      exact hosting_ends hworks (yields_realize command.plan)
    revert hmanifest hends
    cases (hosting config (provide lib config command) x s.host).1 with
    | ok u =>
      intro hmanifest hends
      exact ⟨⟨hmanifest, hkept.removals⟩, .realized haction rfl rfl hends, hknown⟩
    | error e =>
      intro hmanifest _
      exact ⟨⟨hmanifest, hkept.removals⟩, .none rfl rfl, hknown⟩
  | remove =>
    have hends : Outcome (fun _ h' => Removed lib config command.plan s.host h')
        (fun _ _ => True) (hosting config (provide lib config command) x s.host).1
        (hosting config (provide lib config command) x s.host).2 := by
      unfold provide
      rw [haction]
      exact hosting_ends hworks
        (Ends.mono (hosted_remove command.plan) (fun _ _ h => h) (fun _ _ _ => trivial))
    revert hmanifest hends
    cases (hosting config (provide lib config command) x s.host).1 with
    | ok u =>
      intro hmanifest hends
      exact ⟨⟨hmanifest, hkept.removals⟩, .removed haction rfl rfl hends, hknown⟩
    | error e =>
      intro hmanifest _
      exact ⟨⟨hmanifest, hkept.removals⟩, .none rfl rfl, hknown⟩

theorem node_observeRemoved (hkept : NodeKept lib config s) (hknown : Known command s) :
    NodeEnds planLib lib config
      (fun removed s' => NodeKept lib config s' ∧ Same s s' ∧ Known command s' ∧
        removed ≠ .ok true) E
      (call (.observeRemoved command)) s := by
  refine node_call fun x hworks => ?_
  obtain ⟨hhost, hnever⟩ := hosting_observed hworks hkept.manifest .remove command.plan
  simp only [execNode, executorSection, execExecutor, NodeAnswer.saying]
  simp only [observed] at hhost hnever
  rw [hhost]
  refine ⟨⟨hkept.manifest, hkept.removals⟩, ⟨rfl, rfl, rfl⟩, hknown, ?_⟩
  intro htrue
  refine hnever trivial ?_
  revert htrue
  cases (hosting config (observeRemoved lib config command.plan) x s.host).1 with
  | ok b =>
    rintro ⟨⟩
    rfl
  | error e => exact fun h => by cases h

theorem node_reconcile (hkept : NodeKept lib config s) (id : Uuid) :
    NodeEnds planLib lib config (fun _ s' => NodeKept lib config s' ∧ Same s s') E
      (call (.reconcile id)) s := by
  refine node_call fun x hworks => ?_
  simp only [execNode]
  cases hfind : findPlan id s.root.plans with
  | none =>
    simp only [executorSection, execExecutor]
    rcases execReconcile_cases (x := x.saying (.ok ()) (.ok false)) (s := s.root) id with
      hsame | ⟨record, _, hfound, _⟩
    · rw [hsame]
      exact ⟨hkept, .refl s⟩
    · cases hfind.symm.trans hfound
  | some record =>
    obtain ⟨hhost, hnever⟩ :=
      hosting_observed hworks hkept.manifest record.action record.plan
    simp only [executorSection, execExecutor]
    rw [hhost]
    refine ⟨hkept.rows fun p hp => ?_, ⟨rfl, rfl, rfl⟩⟩
    rcases execReconcile_cases
      (x := x.saying (.ok ()) (hosting config (observed lib config record.action record.plan) x
        s.host).1) (s := s.root) id with hsame | ⟨record', plans', hfound, _, hset, hafter⟩
    · rw [hsame] at hp
      exact Or.inl hp
    · rw [hafter] at hp
      obtain ⟨record'', hfound', _, hrows⟩ := setPlanStatus_row hset
      cases Option.some.inj (hfind.symm.trans hfound')
      refine (hrows p hp).imp_right ?_
      rintro rfl hremove hsucceeded
      refine hnever hremove ?_
      revert hsucceeded
      simp only [NodeAnswer.saying]
      cases (hosting config (observed lib config record.action record.plan) x s.host).1 with
      | ok b =>
        cases b with
        | true => exact fun _ => rfl
        | false => exact fun h => by cases h
      | error e => exact fun h => by cases h

end Calls

theorem node_confirmMutation
    (hkept : NodeKept lib config s) (hknown : Known command s) (mutation : Except String Unit) :
    NodeEnds planLib lib config
      (fun result s' => NodeKept lib config s' ∧ Same s s' ∧ Known command s' ∧
        (result = .ok () → command.action = .apply))
      (fun _ _ => False) (confirmMutation command mutation) s := by
  cases mutation with
  | error e => exact ends_pure ⟨hkept, .refl s, hknown, fun h => by cases h⟩
  | ok u =>
    cases haction : command.action with
    | apply =>
      simp only [confirmMutation, haction]
      exact ends_pure ⟨hkept, .refl s, hknown, fun _ => trivial⟩
    | remove =>
      simp only [confirmMutation, haction]
      refine Ends.bind (node_observeRemoved hkept hknown) ?_
      rintro removed s' ⟨hkept', hsame, hknown', hnever⟩
      split
      · exact absurd rfl hnever
      · exact ends_pure ⟨hkept', hsame, hknown', fun h => by cases h⟩
      · exact ends_pure ⟨hkept', hsame, hknown', fun h => by cases h⟩

/-- What a task leaves that executes the command. -/
def Left
    (lib : HostLibrary) (config : HostNetworkConfig) (command : FlatCommand) (s s' : FlatNode) :
    Prop :=
  NodeKept lib config s' ∧ Progress lib config command s s' ∧
    (Known command s' ∨ Same s s')

/-- **A command that has been admitted** ends with a success only if it is not a
removal. -/
theorem node_executeAdmitted (hkept : NodeKept lib config s) (hknown : Known command s) :
    NodeEnds planLib lib config (fun _ s' => Left lib config command s s')
      (fun _ s' => Left lib config command s s') (executeAdmitted 0 command) s := by
  refine Ends.bind_call (P := fun _ s' =>
    NodeKept lib config s' ∧ Same s s' ∧ Known command s') ?_ ?_
  · refine Ends.bind (node_setStatus hkept hknown (fun h => by cases h)) ?_
    rintro reply s₁ ⟨hkept₁, hsame₁, hknown₁⟩
    exact node_given (fun _ _ => ⟨hkept₁, hsame₁, hknown₁⟩)
      (fun _ _ => ⟨hkept₁, .of_same hsame₁, Or.inl hknown₁⟩)
  rintro _ s₁ ⟨hkept₁, hsame₁, hknown₁⟩
  refine Ends.bind (node_mutate hkept₁ hknown₁) ?_
  rintro mutation s₂ ⟨hkept₂, hprogress₂, hknown₂⟩
  have hprogress := Progress.after hsame₁ hprogress₂
  refine Ends.bind (Ends.mono (node_confirmMutation hkept₂ hknown₂ mutation)
    (fun _ _ h => h) (fun _ _ h => h.elim)) ?_
  rintro result s₃ ⟨hkept₃, hsame₃, hknown₃, happly⟩
  have hprogress₃ := hprogress.same hsame₃
  cases result with
  | ok u =>
    refine Ends.bind (node_setStatus hkept₃ hknown₃ (fun _ => happly rfl)) ?_
    rintro reply s₄ ⟨hkept₄, hsame₄, hknown₄⟩
    exact node_given (fun _ _ => ⟨hkept₄, hprogress₃.same hsame₄, Or.inl hknown₄⟩)
      (fun _ _ => ⟨hkept₄, hprogress₃.same hsame₄, Or.inl hknown₄⟩)
  | error e =>
    refine Ends.bind_call (P := fun _ s' => Left lib config command s s') ?_ ?_
    · refine Ends.bind (node_setStatus hkept₃ hknown₃ (fun h => by cases h)) ?_
      rintro reply s₄ ⟨hkept₄, hsame₄, hknown₄⟩
      exact node_given (fun _ _ => ⟨hkept₄, hprogress₃.same hsame₄, Or.inl hknown₄⟩)
        (fun _ _ => ⟨hkept₄, hprogress₃.same hsame₄, Or.inl hknown₄⟩)
    · exact fun _ _ h => Program.ends_throw h

theorem node_admitWithAuthority (hkept : NodeKept lib config s) (who : Option Nat)
    (command : FlatCommand) (now : Nat) (authority : NetworkControllerLease) :
    NodeEnds planLib lib config
      (fun admission s' => NodeKept lib config s' ∧ Same s s' ∧
        (admission = .accepted → Known command s'))
      (fun _ s' => NodeKept lib config s' ∧ Same s s')
      (admitWithAuthority who command now authority) s := by
  refine Ends.bind (node_admission hkept who command now authority) ?_
  rintro reply s₁ ⟨hkept₁, hsame₁, hknown₁⟩
  refine node_given ?_ (fun _ _ => ⟨hkept₁, hsame₁⟩)
  rintro admission rfl
  exact ⟨hkept₁, hsame₁, fun h => hknown₁ (by rw [h])⟩

theorem node_admitPlan
    (hkept : NodeKept lib config s) (who : Option Nat) (command : FlatCommand) (now : Nat) :
    NodeEnds planLib lib config
      (fun admission s' => NodeKept lib config s' ∧ Same s s' ∧
        (admission = .accepted → Known command s'))
      (fun _ s' => NodeKept lib config s' ∧ Same s s') (admitPlan who command now) s := by
  refine Ends.bind (P := fun _ s' => s = s') (node_call fun _ _ => rfl) ?_
  rintro authority _ rfl
  exact node_admitWithAuthority hkept who command now authority

theorem node_executeIfAccepted {admission : PlanAdmission}
    (hkept : NodeKept lib config s) (hknown : admission = .accepted → Known command s) :
    NodeEnds planLib lib config (fun _ s' => Left lib config command s s')
      (fun _ s' => Left lib config command s s') (executeIfAccepted 0 command admission) s := by
  unfold executeIfAccepted
  split
  · exact ends_pure ⟨hkept, .of_same (.refl s), Or.inr (.refl s)⟩
  · rename_i haccepted
    refine Ends.bind (node_executeAdmitted hkept (hknown (not_not.mp haccepted))) ?_
    exact fun _ _ h => ends_pure h

theorem Left.after {s₁ s₂ s₃ : FlatNode} (hsame : Same s₁ s₂) (h : Left lib config command s₂ s₃) :
    Left lib config command s₁ s₃ :=
  ⟨h.1, h.2.1.after hsame, h.2.2.imp_right hsame.trans⟩

def commandOf : ExecutorTask NetworkPlanIntent → Option FlatCommand
  | .admission command _ => some command
  | .admitWithAuthority command _ _ => some command
  | .execute command _ => some command
  | .dispatch command _ _ => some command
  | .reconcile _ => none
  | .reconcilePending => none

def Leaves (lib : HostLibrary) (config : HostNetworkConfig) (task : ExecutorTask NetworkPlanIntent)
    (s s' : FlatNode) :
    Prop :=
  NodeKept lib config s' ∧
    (Same s s' ∨ ∃ command ∈ commandOf task, Left lib config command s s')

theorem node_map {Q : FlatNode → Prop} {f : α → β} {p : ExecutorM NetworkPlanIntent α}
    (h : NodeEnds planLib lib config (fun _ s' => Q s') (fun _ s' => Q s') p s) :
    NodeEnds planLib lib config (fun _ s' => Q s') (fun _ s' => Q s') (f <$> p) s := by
  refine Brings.bind h ?_
  intro r s' hr
  cases r with
  | error e => exact hr
  | ok a => exact hr

theorem node_reconcileEach (hkept : NodeKept lib config s) (ids : List Uuid) :
    NodeEnds planLib lib config (fun _ s' => NodeKept lib config s' ∧ Same s s')
      (fun _ s' => NodeKept lib config s' ∧ Same s s') (reconcileEach ids) s := by
  induction ids generalizing s with
  | nil => exact ends_pure ⟨hkept, .refl s⟩
  | cons id rest ih =>
    refine Ends.bind (P := fun _ s' => NodeKept lib config s' ∧ Same s s') ?_ ?_
    · refine Ends.bind (node_reconcile hkept id) ?_
      rintro reply s₁ h₁
      exact node_given (fun _ _ => h₁) (fun _ _ => h₁)
    rintro status s₁ ⟨hkept₁, hsame₁⟩
    refine Ends.bind (P := fun _ s' => NodeKept lib config s' ∧ Same s s')
      (Ends.mono (ih hkept₁) ?_ ?_) ?_
    · exact fun _ _ h => ⟨h.1, hsame₁.trans h.2⟩
    · exact fun _ _ h => ⟨h.1, hsame₁.trans h.2⟩
    · exact fun _ _ h => ends_pure h

theorem node_executorM (hkept : NodeKept lib config s) (task : ExecutorTask NetworkPlanIntent) :
    NodeEnds planLib lib config (fun _ s' => Leaves lib config task s s')
      (fun _ s' => Leaves lib config task s s') (executorM 0 task) s := by
  have hexecuted : ∀ {command : FlatCommand}, commandOf task = some command →
      ∀ s₁, Same s s₁ → ∀ s', Left lib config command s₁ s' → Leaves lib config task s s' :=
    fun hcommand _ hsame _ h => ⟨h.1, Or.inr ⟨_, hcommand, h.after hsame⟩⟩
  cases task with
  | admission command now =>
    exact node_map (Ends.mono (node_admitPlan hkept _ command now)
      (fun _ _ h => ⟨h.1, Or.inl h.2.1⟩) (fun _ _ h => ⟨h.1, Or.inl h.2⟩))
  | admitWithAuthority command now authority =>
    exact node_map (Ends.mono (node_admitWithAuthority hkept _ command now authority)
      (fun _ _ h => ⟨h.1, Or.inl h.2.1⟩) (fun _ _ h => ⟨h.1, Or.inl h.2⟩))
  | execute command now =>
    refine node_map (Ends.bind (Ends.mono (node_admitPlan hkept _ command now)
      (fun _ _ h => h) (fun _ _ h => ⟨h.1, Or.inl h.2⟩)) ?_)
    rintro admission s₁ ⟨hkept₁, hsame₁, hknown₁⟩
    exact Ends.mono (node_executeIfAccepted hkept₁ hknown₁)
      (fun _ _ h => hexecuted rfl s₁ hsame₁ _ h) (fun _ _ h => hexecuted rfl s₁ hsame₁ _ h)
  | dispatch command now authority =>
    refine Ends.bind (Ends.mono
      (node_admitWithAuthority hkept _ command now authority)
      (fun _ _ h => h) (fun _ _ h => ⟨h.1, Or.inl h.2⟩)) ?_
    rintro admission s₁ ⟨hkept₁, hsame₁, hknown₁⟩
    exact node_map (Ends.mono (node_executeIfAccepted hkept₁ hknown₁)
      (fun _ _ h => hexecuted rfl s₁ hsame₁ _ h) (fun _ _ h => hexecuted rfl s₁ hsame₁ _ h))
  | reconcile id =>
    refine node_map (Ends.bind (node_reconcile hkept id) ?_)
    rintro reply s₁ ⟨hkept₁, hsame₁⟩
    exact node_given (fun _ _ => ⟨hkept₁, Or.inl hsame₁⟩) (fun _ _ => ⟨hkept₁, Or.inl hsame₁⟩)
  | reconcilePending =>
    refine node_map (Ends.bind_call (P := fun _ s' => s = s')
      (Ends.bind (P := fun _ s' => s = s') (node_call fun _ _ => rfl) ?_) ?_)
    · rintro reply _ rfl
      exact node_given (fun _ _ => rfl) (fun _ _ => ⟨hkept, Or.inl (.refl s)⟩)
    · rintro pending _ rfl
      exact Ends.mono (node_reconcileEach hkept pending)
        (fun _ _ h => ⟨h.1, Or.inl h.2⟩) (fun _ _ h => ⟨h.1, Or.inl h.2⟩)

section Runs

variable (planLib lib config)

/-- What is observed of a plan at a host. -/
def observing (p : FlatM Bool) (x : Nat → HostAnswer) (h : FlatHost) :
    Except FlatNetworkError Bool :=
  (answered (execHost config) x p.run h).1

/-- A plan is observed exactly when its endpoints are present; its removal is
never. -/
def ObservedAsPresent (s : FlatNode) : Prop :=
  ∀ (plan : FlatPlan) (x : Nat → HostAnswer), (∀ k, (x k).works = true) →
    (observing config (observe lib config plan) x s.host = .ok true ↔
      ∀ spec ∈ endpointsOf plan.planId plan.intents, EndpointPresent lib config s.host spec) ∧
    observing config (observeRemoved lib config plan) x s.host ≠ .ok true

/-- The provider realizes the plan of the command. -/
def Realizes (s : FlatNode) (e : NodeEvent) (command : FlatCommand) : Prop :=
  command ∈ commandOf e.task ∧
    (nodeStep planLib lib config s e).realized = command.commandId :: s.realized

/-- The provider removes the plan of the command. -/
def Removes (s : FlatNode) (e : NodeEvent) (command : FlatCommand) : Prop :=
  command ∈ commandOf e.task ∧
    (nodeStep planLib lib config s e).removed = command.commandId :: s.removed

/-- The status that the journal has for the command. -/
def statusOf (command : FlatCommand) (s : FlatNode) : Option NetworkPlanStatus :=
  (findPlan command.commandId s.root.plans).map (·.status)

/-- A removal by the provider is seen: the command has succeeded, and the
endpoints of the other plans are present and served. -/
def RemovalSeen (s : FlatNode) (e : NodeEvent) : Prop :=
  ∀ command, Removes planLib lib config s e command →
    statusOf command (nodeStep planLib lib config s e) = some .succeeded ∧
      ∀ spec : TapSpec, spec.instanceId ≠ command.plan.planId →
        EndpointPresent lib config s.host spec →
          EndpointPresent lib config (nodeStep planLib lib config s e).host spec ∧
            (nodeStep planLib lib config s e).host.Serving

/-- What a removal by the provider is instead: the endpoints are gone, and those
of the other plans are present, but the command has not succeeded, and no DHCP
process is left. -/
def RemovalUnseen (s : FlatNode) (e : NodeEvent) : Prop :=
  ∀ command, Removes planLib lib config s e command →
    statusOf command (nodeStep planLib lib config s e) ≠ some .succeeded ∧
      ¬ (nodeStep planLib lib config s e).host.Serving ∧
      (∀ spec ∈ endpointsOf command.plan.planId command.plan.intents,
        EndpointAbsent lib (nodeStep planLib lib config s e).host spec) ∧
      ∀ spec : TapSpec, spec.instanceId ≠ command.plan.planId →
        EndpointPresent lib config s.host spec →
          EndpointPresent lib config (nodeStep planLib lib config s e).host spec

variable {planLib lib config}

theorem NodeKept.observedAsPresent (hkept : NodeKept lib config s) :
    ObservedAsPresent lib config s := by
  intro plan x hworks
  constructor
  · have hends := Brings.answered
      (hosted_observeEndpoints hkept.manifest plan.planId plan.intents)
      (answeredWithin_of_forall (fun n _ _ => hworks n) _ _)
    unfold observing observe
    revert hends
    cases (answered (execHost config) x
      (observeEndpoints lib config plan.planId plan.intents).run s.host).1 with
    | ok observed =>
      rintro ⟨-, rfl, hpresent⟩
      exact ⟨fun _ => hpresent, fun _ => rfl⟩
    | error e =>
      rintro ⟨-, habsent⟩
      exact ⟨(fun h => by cases h), fun h => absurd h habsent⟩
  · have hends := Brings.answered (hosted_observeRemoved hkept.manifest plan)
      (answeredWithin_of_forall (fun n _ _ => hworks n) _ _)
    unfold observing
    revert hends
    cases (answered (execHost config) x (observeRemoved lib config plan).run s.host).1 with
    | ok removed =>
      rintro ⟨-, rfl⟩
      exact fun h => by cases h
    | error e => exact fun _ h => by cases h

theorem nodeKept_freshNode
    (agent : NetworkAgentIdentity) (lease : NetworkControllerLease) (links : Links)
    (nextIndex : Nat) :
    NodeKept lib config (freshNode agent lease links nextIndex) :=
  ⟨⟨(fun _ h => by cases h), fun _ h => by cases h⟩, fun _ h => by cases h⟩

variable {e : NodeEvent}

variable (planLib) in
theorem leaves_step (hkept : NodeKept lib config s) (hworks : e.Works) :
    Leaves lib config e.task s (nodeStep planLib lib config s e) := by
  have hprogram : NodeEnds planLib lib config (fun _ s' => Leaves lib config e.task s s')
      (fun _ s' => Leaves lib config e.task s s') (executorM 0 e.task) s :=
    node_executorM hkept e.task
  have hends := Brings.answered hprogram (answeredWithin_of_forall (fun n _ _ => hworks n) _ _)
  unfold nodeStep executorProgram
  revert hends
  cases (answered (execNode planLib lib config) e.answers (executorM 0 e.task).run s).1 with
  | ok r => exact fun h => h
  | error e => exact fun h => h

theorem removed_of_removes
    (hkept : NodeKept lib config s) (hworks : e.Works) {command : FlatCommand}
    (h : Removes planLib lib config s e command) :
    command.action = .remove ∧ Known command (nodeStep planLib lib config s e) ∧
      Removed lib config command.plan s.host (nodeStep planLib lib config s e).host := by
  obtain ⟨hcommand, hremoves⟩ := h
  have hcalled : (nodeStep planLib lib config s e).removed ≠ s.removed := by
    rw [hremoves]
    exact List.cons_ne_self _ _
  obtain ⟨-, hsame | ⟨command', hcommand', -, hprogress, hknown⟩⟩ :=
    leaves_step planLib hkept hworks
  · exact absurd hsame.2.2 hcalled
  · cases Option.some.inj (hcommand.symm.trans hcommand')
    rcases hknown with hknown | hsame
    · cases hprogress with
      | none _ hremoved => exact absurd hremoved hcalled
      | realized _ _ hremoved _ => exact absurd hremoved hcalled
      | removed haction _ _ hdone => exact ⟨haction, hknown, hdone⟩
    · exact absurd hsame.2.2 hcalled

theorem realized_of_realizes
    (hkept : NodeKept lib config s) (hworks : e.Works) {command : FlatCommand}
    (h : Realizes planLib lib config s e command) :
    Realized lib config command.plan s.host (nodeStep planLib lib config s e).host := by
  obtain ⟨hcommand, hrealizes⟩ := h
  have hcalled : (nodeStep planLib lib config s e).realized ≠ s.realized := by
    rw [hrealizes]
    exact List.cons_ne_self _ _
  obtain ⟨-, hsame | ⟨command', hcommand', -, hprogress, -⟩⟩ :=
    leaves_step planLib hkept hworks
  · exact absurd hsame.2.1 hcalled
  · cases Option.some.inj (hcommand.symm.trans hcommand')
    cases hprogress with
    | none hrealized _ => exact absurd hrealized hcalled
    | realized _ _ _ hdone => exact hdone
    | removed _ hrealized _ _ => exact absurd hrealized hcalled

theorem NodeKept.removalUnseen (hkept : NodeKept lib config s) (hworks : e.Works) :
    RemovalUnseen planLib lib config s e := by
  intro command hremoves
  obtain ⟨haction, ⟨record, hfind, hrecord⟩, hremoving, hbindings, habsent, hstopped⟩ :=
    removed_of_removes hkept hworks hremoves
  have hkept' := (leaves_step planLib hkept hworks).1
  refine ⟨?_, ?_, habsent, ?_⟩
  · unfold statusOf
    rw [hfind]
    intro hsucceeded
    exact hkept'.removals record (findPlan_eq_some hfind).1 (hrecord.trans haction)
      (Option.some.inj hsucceeded)
  · rintro ⟨supervisor, hsupervisor, -⟩
    cases hstopped.symm.trans hsupervisor
  · rintro spec hne ⟨htap, hbinding⟩
    refine ⟨hremoving.others spec hne htap, ?_⟩
    rw [hbindings spec hne htap]
    exact hbinding

/-- **A removal is not seen**: in every run of commands on a host on which every
command works, a plan that has been realized is present and served, and observed
exactly when it is present; but where the provider removes a plan the command
does not succeed, though nothing is left of it, and the other plans keep their
TAPs and bindings without a DHCP process. -/
theorem flat_removal_unseen (planLib : PlanLibrary) (lib : HostLibrary) (config : HostNetworkConfig)
    (agent : NetworkAgentIdentity) (lease : NetworkControllerLease) (links : Links)
    (nextIndex : Nat) (events : List NodeEvent) (hworks : ∀ e ∈ events, e.Works) :
    Always (nodeStep planLib lib config) (ObservedAsPresent lib config)
        (freshNode agent lease links nextIndex) events ∧
      EachStep (nodeStep planLib lib config)
        (fun s e =>
          (∀ command, Realizes planLib lib config s e command →
            Realized lib config command.plan s.host (nodeStep planLib lib config s e).host) ∧
          RemovalUnseen planLib lib config s e ∧
          (RemovalSeen planLib lib config s e ↔
            ∀ command, ¬ Removes planLib lib config s e command))
        (freshNode agent lease links nextIndex) events := by
  have hguard : EachStep (nodeStep planLib lib config) (fun _ e => e.Works)
      (freshNode agent lease links nextIndex) events :=
    eachStep_of_forall (fun e he _ => hworks e he) _
  have hstep : ∀ (s : FlatNode) (e : NodeEvent), NodeKept lib config s → e.Works →
      NodeKept lib config (nodeStep planLib lib config s e) :=
    fun _ _ hkept hworks => (leaves_step planLib hkept hworks).1
  constructor
  · exact (always_of_guarded hstep _ events (nodeKept_freshNode agent lease links nextIndex)
      hguard).imp (fun _ h => h.observedAsPresent)
  · refine eachStep_of_guarded hstep (fun s e hkept hworks => ?_) _ events
      (nodeKept_freshNode agent lease links nextIndex) hguard
    have hunseen : RemovalUnseen planLib lib config s e := hkept.removalUnseen hworks
    refine ⟨fun _ h => realized_of_realizes hkept hworks h, hunseen, ?_⟩
    constructor
    · exact fun hseen command hremoves => (hunseen command hremoves).1 (hseen command hremoves).1
    · exact fun hnone command hremoves => absurd hremoves (hnone command)

/-- SHA-256 of the two endpoints and of the bridge. -/
def sampleSha256 : String → List UInt8
  | "00000000-0000-4000-8000-0000000000a1" =>
    [139, 240, 186, 91, 223, 121, 172, 62, 116, 74, 130, 196, 123, 34, 85, 78, 137, 200, 226, 186,
      197, 93, 92, 169, 169, 194, 37, 177, 188, 21, 243, 89]
  | "00000000-0000-4000-8000-0000000000b1" =>
    [126, 26, 231, 174, 99, 227, 21, 0, 202, 108, 19, 85, 49, 67, 246, 16, 102, 29, 222, 111, 128,
      93, 77, 123, 241, 42, 102, 27, 232, 53, 144, 79]
  | "o3k-br0" =>
    [134, 30, 49, 66, 244, 15, 189, 252, 107, 208, 74, 98, 229, 42, 79, 188, 149, 46, 44, 207, 15,
      108, 106, 110, 132, 19, 70, 210, 4, 163, 240, 116]
  | _ => List.replicate 32 0

def sampleHostLibrary : HostLibrary where
  sha256 := sampleSha256
  sha256_length s := by
    unfold sampleSha256
    split <;> rfl

/-- SHA-256 of the JSON of the three plans, by the operation that each belongs to. -/
def samplePlanSha256 (operationId : String) : String :=
  if operationId = "operation-1" then
    "a7340d3b604b76dce1b191dbc08cf0e0d6d8137dcb75795ebb78b44ddc3578e6"
  else if operationId = "operation-2" then
    "c8e5b0a806e76c0e6535503c18fcad78d000da971127d38e5014078b9b544f59"
  else
    "4d3765d1bb0bfead9ce151ef7151513b558d241c232113bd01f93a82be1ce660"

def samplePlanLibrary : PlanLibrary where
  parseSocketAddr _ := none
  parseSocketAddr_empty := noSocketAddr_empty
  uuidBytes id := id.toUTF8.toList
  newV5 _ name := name
  intentJson := Planning.intentKey
  sha256 input := samplePlanSha256 input.operationId

def sampleConfig : HostNetworkConfig := ⟨"o3k-br0", none⟩

/-- A plan of one endpoint of the subnet 192.0.2.0/24, with the gateway .1. -/
def samplePlan (planId operationId endpointId mac : String) (address : Ipv4Addr) : FlatPlan where
  schemaVersion := 1
  planId := planId
  nodeId := "node-1"
  operationId := operationId
  deadlineUnixMs := 100
  resourceGenerations := ∅
  intents :=
    [.addressRealm "realm-1" ⟨0xC0000200#32, 24⟩ 0xC0000201#32,
      .endpointAttachment endpointId mac address 1]
  fabric := none
  gateway := none
  fingerprintSha256 := samplePlanSha256 operationId

def planA (operationId : String) : FlatPlan :=
  samplePlan "00000000-0000-4000-8000-0000000000aa" operationId
    "00000000-0000-4000-8000-0000000000a1" "02:00:00:00:00:0a" 0xC000020A#32

def planB (operationId : String) : FlatPlan :=
  samplePlan "00000000-0000-4000-8000-0000000000bb" operationId
    "00000000-0000-4000-8000-0000000000b1" "02:00:00:00:00:0b" 0xC000020B#32

/-- The command with the action for the plan of its operation. -/
def sampleCommand
    (commandId operationId : String) (action : NetworkPlanAction) (plan : String → FlatPlan) :
    FlatCommand where
  commandId := commandId
  operationId := operationId
  idempotencyKey := commandId
  action := action
  target := nodeAgent
  controller := nodeLease
  deadlineUnixMs := 100
  plan := plan operationId

def sampleEvent (command : FlatCommand) : NodeEvent where
  task := .execute command 0
  answers _ := ⟨none, .written, fun _ => ⟨true, true, "aa:00:00:00:00:01", "0a1b2c3d"⟩⟩

def removeA : FlatCommand := sampleCommand "command-3" "operation-3" .remove planA

/-- Two plans are applied, and one of them is removed. -/
def removedBesideAnother : List NodeEvent :=
  [sampleEvent (sampleCommand "command-1" "operation-1" .apply planA),
    sampleEvent (sampleCommand "command-2" "operation-2" .apply planB), sampleEvent removeA]

/-- **The removal is not seen.** -/
theorem removal_beside_another_unseen :
    ¬ EachStep (nodeStep samplePlanLibrary sampleHostLibrary sampleConfig)
      (RemovalSeen samplePlanLibrary sampleHostLibrary sampleConfig)
      (freshNode nodeAgent nodeLease (fun _ => none) 2) removedBesideAnother := by
  rintro ⟨-, -, hseen, -⟩
  have hsucceeded := (hseen removeA ⟨rfl, by decide +kernel⟩).1
  exact absurd hsucceeded (by decide +kernel)

theorem removal_beside_another :
    (∀ e ∈ removedBesideAnother, e.Works) ∧
      EachStep (nodeStep samplePlanLibrary sampleHostLibrary sampleConfig)
        (RemovalUnseen samplePlanLibrary sampleHostLibrary sampleConfig)
        (freshNode nodeAgent nodeLease (fun _ => none) 2) removedBesideAnother := by
  have hworks : ∀ e ∈ removedBesideAnother, e.Works := by
    simp [removedBesideAnother, sampleEvent, NodeEvent.Works]
  exact ⟨hworks, (flat_removal_unseen samplePlanLibrary sampleHostLibrary sampleConfig nodeAgent
    nodeLease (fun _ => none) 2 removedBesideAnother hworks).2.imp (fun _ _ h => h.2.1)⟩

end Runs

end FlatNetwork
end O3k
