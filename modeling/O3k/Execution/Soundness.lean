import O3k.Execution.Executor

/-!
# What the journal of an executor keeps

An attempt executes a command from its admission on, and nobody else does.  The
provider is called by the attempt that executes, once; and the row of a command
that is executed has not succeeded yet, unless somebody else has observed it.
-/

namespace O3k
namespace Execution

open Relational Network Fabric Semantics

variable {Intent : Type}

/-- The row has become the other one, whose command is the same. -/
def SameCommand (p p' : AcceptedPlan Intent) : Prop :=
  { p' with status := p.status } = p

theorem SameCommand.refl (p : AcceptedPlan Intent) : SameCommand p p := rfl

variable {id : Uuid} {status : NetworkPlanStatus}

theorem setPlanStatus_ids {plans plans' : List (AcceptedPlan Intent)}
    (h : setPlanStatus id status plans = some plans') :
    plans'.map (·.commandId) = plans.map (·.commandId) ∧
      plans'.map (·.purpose) = plans.map (·.purpose) := by
  induction plans generalizing plans' with
  | nil => cases h
  | cons p rest ih =>
    simp only [setPlanStatus] at h
    split at h
    · cases h
      exact ⟨rfl, rfl⟩
    · obtain ⟨rest', hrest, rfl⟩ := Option.map_eq_some_iff.mp h
      obtain ⟨hids, hpurposes⟩ := ih hrest
      simp [hids, hpurposes]

theorem setPlanStatus_cases {plans plans' : List (AcceptedPlan Intent)}
    (h : setPlanStatus id status plans = some plans') :
    ∀ p ∈ plans', p ∈ plans ∨ (p.commandId = id ∧ p.status = status) := by
  induction plans generalizing plans' with
  | nil => cases h
  | cons q rest ih =>
    simp only [setPlanStatus] at h
    split at h
    · rename_i hid
      cases h
      intro p hp
      rcases List.mem_cons.mp hp with rfl | hp
      · exact Or.inr ⟨hid, rfl⟩
      · exact Or.inl (List.mem_cons_of_mem _ hp)
    · obtain ⟨rest', hrest, rfl⟩ := Option.map_eq_some_iff.mp h
      intro p hp
      rcases List.mem_cons.mp hp with rfl | hp
      · exact Or.inl List.mem_cons_self
      · exact (ih hrest p hp).imp_left (List.mem_cons_of_mem _)

theorem setPlanStatus_mem {plans plans' : List (AcceptedPlan Intent)}
    (h : setPlanStatus id status plans = some plans') :
    ∀ p ∈ plans, (p.commandId ≠ id → p ∈ plans') ∧ ∃ p' ∈ plans', SameCommand p p' := by
  induction plans generalizing plans' with
  | nil => cases h
  | cons q rest ih =>
    simp only [setPlanStatus] at h
    split at h
    · rename_i hid
      cases h
      intro p hp
      rcases List.mem_cons.mp hp with rfl | hp
      · exact ⟨fun hne => absurd hid hne, _, List.mem_cons_self, rfl⟩
      · exact ⟨fun _ => List.mem_cons_of_mem _ hp, p, List.mem_cons_of_mem _ hp, rfl⟩
    · obtain ⟨rest', hrest, rfl⟩ := Option.map_eq_some_iff.mp h
      intro p hp
      rcases List.mem_cons.mp hp with rfl | hp
      · exact ⟨fun _ => List.mem_cons_self, _, List.mem_cons_self, rfl⟩
      · obtain ⟨hother, p', hp', hsame⟩ := ih hrest p hp
        exact ⟨fun hne => List.mem_cons_of_mem _ (hother hne), p',
          List.mem_cons_of_mem _ hp', hsame⟩

variable {plans : List (AcceptedPlan Intent)}

theorem findPlan_eq_some {p : AcceptedPlan Intent} (h : findPlan id plans = some p) :
    p ∈ plans ∧ p.commandId = id := by
  refine ⟨List.mem_of_find?_eq_some h, ?_⟩
  simpa using List.find?_some h

theorem findPlan_eq_none (h : findPlan id plans = none) : id ∉ plans.map (·.commandId) := by
  intro hmem
  obtain ⟨p, hp, hid⟩ := List.mem_map.mp hmem
  have := List.find?_eq_none.mp h p hp
  simp [hid] at this

theorem eq_of_commandId
    (hnodup : (plans.map (·.commandId)).Nodup) {p q : AcceptedPlan Intent} (hp : p ∈ plans)
    (hq : q ∈ plans) (hid : p.commandId = q.commandId) :
    p = q :=
  List.inj_on_of_nodup_map hnodup hp hq hid

/-- What the admission of a new command needs and gives. -/
theorem admitToJournal_eq_row {command : NetworkPlanCommand Intent} {now : Nat}
    {row : AcceptedPlan Intent} (h : admitToJournal command now plans = .ok (.inr row)) :
    row = command.row ∧ command.commandId ∉ plans.map (·.commandId) ∧
      row.purpose ∉ plans.map (·.purpose) := by
  unfold admitToJournal at h
  split at h
  · rename_i existing _
    cases hreplay : replay command existing with
    | error e => rw [hreplay] at h; cases h
    | ok admission => rw [hreplay] at h; cases h
  · rename_i hnew
    split at h
    · cases h
    · rename_i hpurpose
      split at h
      · cases h
      · split at h
        · cases h
        · cases h
          refine ⟨rfl, findPlan_eq_none hnew, ?_⟩
          intro hmem
          obtain ⟨p, hp, hsame⟩ := List.mem_map.mp hmem
          exact hpurpose (List.any_eq_true.mpr ⟨p, hp, decide_eq_true hsame⟩)

/-- One row for a command and for a purpose; who executes a command and whom
the provider has been called for is in the journal, and called once. -/
structure Sound (s : ExecutorRoot Intent) : Prop where
  ids : (s.plans.map (·.commandId)).Nodup
  purposes : (s.plans.map (·.purpose)).Nodup
  known : ∀ id who, s.executing id = some who → id ∈ s.plans.map (·.commandId)
  called : ∀ id ∈ s.mutations, id ∈ s.plans.map (·.commandId)
  once : s.mutations.Nodup

/-- A command that is executed has not succeeded. -/
def Unsettled (s : ExecutorRoot Intent) : Prop :=
  ∀ p ∈ s.plans, ∀ who, s.executing p.commandId = some who → p.status ≠ .succeeded

/-- What the others leave to an attempt. -/
def Leaves (who : Nat) (s s' : ExecutorRoot Intent) : Prop :=
  ∀ id, s.executing id = some who →
    s'.executing id = some who ∧ (id ∉ s.mutations → id ∉ s'.mutations)

/-- What an attempt owes at a call. -/
def Owes (who : Nat) (c : ExecutorCall Intent) (_ : ExecutorAnswer) (s : ExecutorRoot Intent) :
    Prop :=
  match c with
  | .admission executor _ _ _ => ∀ who' ∈ executor, who' = who
  | .setStatus who' id _ => who' = who ∧ s.executing id = some who
  | .mutate command => s.executing command.commandId = some who ∧ command.commandId ∉ s.mutations
  | _ => True

/-- No observation finds a command in place while it is executed. -/
def UnobservedWhileExecuting
    (_ : Nat) (c : ExecutorCall Intent) (x : ExecutorAnswer) (s : ExecutorRoot Intent) :
    Prop :=
  match c with
  | .reconcile id => x.observation = .ok true → s.executing id = none
  | _ => True

/-- The invariant of a run, and of one within the guard where `strict` holds. -/
def Kept (strict : Prop) (s : ExecutorRoot Intent) : Prop := Sound s ∧ (strict → Unsettled s)

theorem leaves_refl (who : Nat) (s : ExecutorRoot Intent) : Leaves who s s :=
  fun _ h => ⟨h, id⟩

theorem leaves_trans
    (who : Nat) (s₁ s₂ s₃ : ExecutorRoot Intent) (h₁₂ : Leaves who s₁ s₂) (h₂₃ : Leaves who s₂ s₃) :
    Leaves who s₁ s₃ := by
  intro id hid
  obtain ⟨hid₂, hmutations₂⟩ := h₁₂ id hid
  obtain ⟨hid₃, hmutations₃⟩ := h₂₃ id hid₂
  exact ⟨hid₃, fun h => hmutations₃ (hmutations₂ h)⟩

section Calls

variable {lib : FabricLibrary Intent L3GatewayExecutionPlan}
variable {s : ExecutorRoot Intent} {x : ExecutorAnswer}

theorem replay_ne_accepted (command : NetworkPlanCommand Intent) (existing : AcceptedPlan Intent) :
    replay command existing ≠ .ok .accepted := by
  unfold replay
  split
  · split <;> exact fun h => by cases h
  · exact fun h => by cases h

variable (lib) in
theorem execAdmit_cases (who : Option Nat) (command : NetworkPlanCommand Intent) (now : Nat)
    (authority : NetworkControllerLease) :
    ((execAdmit lib who command now authority x s).2 = s ∧
        (execAdmit lib who command now authority x s).1 ≠ .ok .accepted) ∨
      command.commandId ∉ s.plans.map (·.commandId) ∧
        command.row.purpose ∉ s.plans.map (·.purpose) ∧
        (execAdmit lib who command now authority x s
            = (.ok .accepted, ExecutorRoot.begin { s with plans := s.plans ++ [command.row] } who
                command.commandId) ∨
          execAdmit lib who command now authority x s
            = (.error .io, { s with plans := s.plans ++ [command.row] })) := by
  unfold execAdmit
  split
  · exact Or.inl ⟨rfl, fun h => by cases h⟩
  · split
    · exact Or.inl ⟨rfl, fun h => by cases h⟩
    · cases hadmit : admitToJournal command now s.plans with
      | error e => exact Or.inl ⟨rfl, fun h => by cases h⟩
      | ok result =>
        cases result with
        | inl admission =>
          refine Or.inl ⟨rfl, ?_⟩
          intro hsame
          cases hsame
          unfold admitToJournal at hadmit
          split at hadmit
          · rename_i existing _
            cases hreplay : replay command existing with
            | error e => rw [hreplay] at hadmit; cases hadmit
            | ok admission =>
              rw [hreplay] at hadmit
              cases hadmit
              exact replay_ne_accepted _ _ hreplay
          · split at hadmit
            · cases hadmit
            · split at hadmit
              · cases hadmit
              · split at hadmit <;> cases hadmit
        | inr row =>
          obtain ⟨rfl, hid, hpurpose⟩ := admitToJournal_eq_row hadmit
          cases hwrite : x.write with
          | written => exact Or.inr ⟨hid, hpurpose, Or.inl rfl⟩
          | failed => exact Or.inl ⟨rfl, fun h => by cases h⟩
          | failedAfterRename => exact Or.inr ⟨hid, hpurpose, Or.inr rfl⟩

theorem execSetStatus_cases (id : Uuid) (status : NetworkPlanStatus) :
    (execSetStatus id status x s).2 = s ∨
      ∃ plans', setPlanStatus id status s.plans = some plans' ∧
        (execSetStatus id status x s).2 = { s with plans := plans' } := by
  unfold execSetStatus
  split
  · exact Or.inl rfl
  · split
    · exact Or.inl rfl
    · rename_i plans' hplans
      unfold ExecutorRoot.writePlans
      split
      · exact Or.inr ⟨plans', hplans, rfl⟩
      · exact Or.inl rfl
      · exact Or.inr ⟨plans', hplans, rfl⟩

theorem execReconcile_cases (id : Uuid) :
    (execReconcile id x s).2 = s ∨
      ∃ record plans', findPlan id s.plans = some record ∧ record.status ≠ .succeeded ∧
        setPlanStatus id (observedStatus x.observation) s.plans = some plans' ∧
        (execReconcile id x s).2 = { s with plans := plans' } := by
  unfold execReconcile
  split
  · exact Or.inl rfl
  · split
    · exact Or.inl rfl
    · rename_i record hrecord
      split
      · exact Or.inl rfl
      · rename_i hopen
        split
        · exact Or.inl rfl
        · rename_i plans' hplans
          unfold ExecutorRoot.writePlans
          split
          · exact Or.inr ⟨record, plans', hrecord, hopen, hplans, rfl⟩
          · exact Or.inl rfl
          · exact Or.inr ⟨record, plans', hrecord, hopen, hplans, rfl⟩

variable {strict : Prop}

theorem Kept.congr {s' : ExecutorRoot Intent}
    (h : Kept strict s) (hplans : s'.plans = s.plans) (hmutations : s'.mutations = s.mutations)
    (hexecuting : ∀ id who, s'.executing id = some who → s.executing id = some who) :
    Kept strict s' := by
  refine ⟨⟨hplans ▸ h.1.ids, hplans ▸ h.1.purposes, ?_, ?_, hmutations ▸ h.1.once⟩, ?_⟩
  · intro id who hid
    rw [hplans]
    exact h.1.known id who (hexecuting id who hid)
  · rw [hplans, hmutations]
    exact h.1.called
  · intro hstrict p hp who hwho
    rw [hplans] at hp
    exact h.2 hstrict p hp who (hexecuting _ who hwho)

variable {who : Nat}

theorem executing_finish {id id' : Uuid} {who' : Nat}
    (h : (s.finish who id).executing id' = some who') :
    s.executing id' = some who' := by
  unfold ExecutorRoot.finish at h
  split at h
  · by_cases hid : id' = id
    · subst hid
      simp at h
    · simpa [Function.update_of_ne hid] using h
  · exact h

theorem Kept.finish (h : Kept strict s) (who : Nat) (id : Uuid) :
    Kept strict (s.finish who id) := by
  refine h.congr ?_ ?_ (fun _ _ => executing_finish)
  · unfold ExecutorRoot.finish
    split <;> rfl
  · unfold ExecutorRoot.finish
    split <;> rfl

theorem Kept.append (h : Kept strict s) {command : NetworkPlanCommand Intent}
    (hid : command.commandId ∉ s.plans.map (·.commandId))
    (hpurpose : command.row.purpose ∉ s.plans.map (·.purpose)) :
    Kept strict { s with plans := s.plans ++ [command.row] } := by
  refine ⟨⟨?_, ?_, ?_, ?_, h.1.once⟩, ?_⟩
  · have hfresh : command.row.commandId ∉ s.plans.map (·.commandId) := hid
    simpa [List.nodup_append, List.map_append] using ⟨h.1.ids, fun p hp hsame =>
      hfresh (List.mem_map.mpr ⟨p, hp, hsame⟩)⟩
  · simpa [List.nodup_append, List.map_append] using ⟨h.1.purposes, fun p hp hsame =>
      hpurpose (List.mem_map.mpr ⟨p, hp, hsame⟩)⟩
  · intro id who hwho
    rw [List.map_append]
    exact List.mem_append_left _ (h.1.known id who hwho)
  · intro id hcalled
    rw [List.map_append]
    exact List.mem_append_left _ (h.1.called id hcalled)
  · intro hstrict p hp who hwho
    rcases List.mem_append.mp hp with hp | hp
    · exact h.2 hstrict p hp who hwho
    · rw [List.mem_singleton.mp hp] at hwho
      exact absurd (h.1.known _ who hwho) hid

theorem Kept.setStatus (h : Kept strict s)
    {id : Uuid} {status : NetworkPlanStatus} {plans' : List (AcceptedPlan Intent)}
    (hplans : setPlanStatus id status s.plans = some plans')
    (hunsettled : strict → status = .succeeded → ∀ who, s.executing id ≠ some who) :
    Kept strict { s with plans := plans' } := by
  obtain ⟨hids, hpurposes⟩ := setPlanStatus_ids hplans
  refine ⟨⟨?_, ?_, ?_, ?_, h.1.once⟩, ?_⟩
  · show (plans'.map _).Nodup
    rw [hids]
    exact h.1.ids
  · show (plans'.map _).Nodup
    rw [hpurposes]
    exact h.1.purposes
  · intro id who hwho
    show id ∈ plans'.map _
    rw [hids]
    exact h.1.known id who hwho
  · intro id hcalled
    show id ∈ plans'.map _
    rw [hids]
    exact h.1.called id hcalled
  · intro hstrict p hp who hwho
    rcases setPlanStatus_cases hplans p hp with hbefore | ⟨hid, hstatus⟩
    · exact h.2 hstrict p hbefore who hwho
    · intro hsucceeded
      rw [hid] at hwho
      exact hunsettled hstrict (hstatus.symm.trans hsucceeded) who hwho

theorem finish_withPlans (who : Nat) (id : Uuid) (plans : List (AcceptedPlan Intent)) :
    ExecutorRoot.finish { s with plans := plans } who id
      = { s.finish who id with plans := plans } := by
  unfold ExecutorRoot.finish
  split <;> rfl

theorem finish_executing_self {id : Uuid} (h : s.executing id = some who) :
    (s.finish who id).executing id = none := by
  unfold ExecutorRoot.finish
  rw [if_pos h]
  exact Function.update_self _ _ _

theorem Kept.execStatus (h : Kept strict s) {id : Uuid} (howner : s.executing id = some who)
    (status : NetworkPlanStatus) :
    Kept strict (ExecutorRoot.afterStatus who id status (execSetStatus id status x s)).2 := by
  have hfinished : Kept strict ((execSetStatus id status x s).2.finish who id) := by
    rcases execSetStatus_cases (x := x) (s := s) id status with hsame | ⟨plans', hplans, hset⟩
    · rw [hsame]
      exact h.finish who id
    · rw [hset, finish_withPlans]
      have hset' : setPlanStatus id status (s.finish who id).plans = some plans' := by
        unfold ExecutorRoot.finish
        split <;> exact hplans
      refine (h.finish who id).setStatus hset' ?_
      intro _ _ who'
      rw [finish_executing_self howner]
      exact fun h => by cases h
  unfold ExecutorRoot.afterStatus
  split
  · rename_i s' hresult
    split
    · rename_i happlying
      rcases execSetStatus_cases (x := x) (s := s) id status with hsame | ⟨plans', hplans, hset⟩
      · rw [hresult] at hsame
        cases hsame
        exact h
      · rw [hresult] at hset
        cases hset
        refine h.setStatus hplans ?_
        intro _ hsucceeded
        rw [happlying] at hsucceeded
        cases hsucceeded
    · rw [hresult] at hfinished
      exact hfinished
  · rename_i hresult
    rw [hresult] at hfinished
    exact hfinished

/-- **Each call keeps the invariant.** -/
theorem Kept.exec (h : Kept strict s) {c : ExecutorCall Intent} (howes : Owes who c x s)
    (hguard : strict → UnobservedWhileExecuting who c x s) :
    Kept strict (execExecutor lib c x s).2 := by
  cases c with
  | admission who' command now authority =>
    simp only [execExecutor]
    rcases execAdmit_cases lib (x := x) (s := s) who' command now authority with
      ⟨hsame, _⟩ | ⟨hid, hpurpose, hbegun | hwritten⟩
    · rw [hsame]
      exact h
    · rw [hbegun]
      obtain ⟨hsound, hunsettled⟩ := h.append hid hpurpose
      refine ⟨⟨hsound.ids, hsound.purposes, ?_, hsound.called, hsound.once⟩, ?_⟩
      · intro id who hwho
        by_cases hsame : id = command.commandId
        · subst hsame
          simp [ExecutorRoot.begin, NetworkPlanCommand.row]
        · simp only [ExecutorRoot.begin, Function.update_of_ne hsame] at hwho
          exact hsound.known id who hwho
      · intro hstrict p hp who hwho
        by_cases hsame : p.commandId = command.commandId
        · rcases List.mem_append.mp hp with hp | hp
          · exact absurd (List.mem_map.mpr ⟨p, hp, hsame⟩) hid
          · rw [List.mem_singleton.mp hp]
            exact fun h => by cases h
        · simp only [ExecutorRoot.begin, Function.update_of_ne hsame] at hwho
          exact hunsettled hstrict p hp who hwho
    · rw [hwritten]
      exact h.append hid hpurpose
  | setStatus who' id status =>
    obtain ⟨rfl, howner⟩ := howes
    exact h.execStatus howner status
  | mutate command =>
    obtain ⟨howner, hfresh⟩ := howes
    refine ⟨⟨h.1.ids, h.1.purposes, h.1.known, ?_, List.nodup_cons.mpr ⟨hfresh, h.1.once⟩⟩, h.2⟩
    intro id hcalled
    rcases List.mem_cons.mp hcalled with rfl | hcalled
    · exact h.1.known _ _ howner
    · exact h.1.called id hcalled
  | reconcile id =>
    simp only [execExecutor]
    rcases execReconcile_cases (x := x) (s := s) id with
      hsame | ⟨record, plans', _, _, hplans, hset⟩
    · rw [hsame]
      exact h
    · rw [hset]
      refine h.setStatus hplans ?_
      intro hstrict hsucceeded who hwho
      have hobserved : x.observation = .ok true := by
        unfold observedStatus at hsucceeded
        split at hsucceeded
        · assumption
        · cases hsucceeded
      rw [hguard hstrict hobserved] at hwho
      cases hwho
  | controllerLease => exact h
  | observeRemoved => exact h
  | pending => exact h

/-- **Each call leaves the executions of the others alone.** -/
theorem leaves_exec (h : Sound s) {who' : Nat} (hne : who' ≠ who) {c : ExecutorCall Intent}
    (howes : Owes who c x s) :
    Leaves who' s (execExecutor lib c x s).2 := by
  intro id hid
  cases c with
  | admission who'' command now authority =>
    simp only [execExecutor]
    rcases execAdmit_cases lib (x := x) (s := s) who'' command now authority with
      ⟨hsame, _⟩ | ⟨hnew, _, hbegun | hwritten⟩
    · rw [hsame]
      exact ⟨hid, fun h => h⟩
    · rw [hbegun]
      have hother : id ≠ command.commandId := by
        rintro rfl
        exact hnew (h.known _ _ hid)
      exact ⟨(Function.update_of_ne hother _ _).trans hid, fun h => h⟩
    · rw [hwritten]
      exact ⟨hid, fun h => h⟩
  | setStatus who'' id' status =>
    obtain ⟨rfl, howner⟩ := howes
    have hother : id ≠ id' := by
      rintro rfl
      rw [howner] at hid
      exact hne (Option.some.inj hid).symm
    have hset :
        (execSetStatus id' status x s).2.executing id = some who' ∧
          (execSetStatus id' status x s).2.mutations = s.mutations := by
      rcases execSetStatus_cases (x := x) (s := s) id' status with hsame | ⟨_, _, hset⟩
      · rw [hsame]
        exact ⟨hid, rfl⟩
      · rw [hset]
        exact ⟨hid, rfl⟩
    have hfinish :
        ∀ t : ExecutorRoot Intent, t.executing id = some who' → t.mutations = s.mutations →
          (t.finish who'' id').executing id = some who' ∧
            (id ∉ s.mutations → id ∉ (t.finish who'' id').mutations) := by
      intro t ht hmutations
      unfold ExecutorRoot.finish
      split
      · exact ⟨(Function.update_of_ne hother _ _).trans ht, fun h => hmutations ▸ h⟩
      · exact ⟨ht, fun h => hmutations ▸ h⟩
    simp only [execExecutor, ExecutorRoot.afterStatus]
    split
    · rename_i t hresult
      rw [hresult] at hset
      split
      · exact ⟨hset.1, fun h => hset.2 ▸ h⟩
      · exact hfinish t hset.1 hset.2
    · rename_i e t hresult
      rw [hresult] at hset
      exact hfinish t hset.1 hset.2
  | mutate command =>
    refine ⟨hid, fun hfresh hcalled => ?_⟩
    rcases List.mem_cons.mp hcalled with hsame | hcalled
    · rw [hsame, howes.1] at hid
      exact hne (Option.some.inj hid).symm
    · exact hfresh hcalled
  | reconcile id' =>
    simp only [execExecutor]
    rcases execReconcile_cases (x := x) (s := s) id' with hsame | ⟨_, _, _, _, _, hset⟩
    · rw [hsame]
      exact ⟨hid, fun h => h⟩
    · rw [hset]
      exact ⟨hid, fun h => h⟩
  | controllerLease => exact ⟨hid, fun h => h⟩
  | observeRemoved => exact ⟨hid, fun h => h⟩
  | pending => exact ⟨hid, fun h => h⟩

end Calls

end Execution
end O3k
