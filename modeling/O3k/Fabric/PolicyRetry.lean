import O3k.Fabric.PolicyVerdict
import Mathlib.Data.List.TakeWhile

/-!
# Applying a policy again

A run is a sequence of calls for one realm, each of which may be interrupted.
The provider records a policy before it builds the table and clears the record
after it has deleted the table; an interruption in between leaves a record of a
table that is not there.
-/

namespace O3k
namespace Fabric

open Relational Network Semantics

inductive PolicyCall
  | ensure (plan : NamespacedRoutedFabricPlan)
  | remove (plan : NamespacedRoutedFabricPlan)

def PolicyCall.plan : PolicyCall → NamespacedRoutedFabricPlan
  | ensure plan => plan
  | remove plan => plan

/-- A call, how the table is listed during it, and where it is interrupted. -/
structure PolicyEvent where
  call : PolicyCall
  first : ListAnswer
  second : ListAnswer
  interruption : Option Interruption

section Events

variable (lib : PolicyLibrary)

def PolicyEvent.outcome (world : PolicyWorld) (e : PolicyEvent) : Outcome :=
  match e.call with
  | .ensure plan => ensurePolicy lib e.first e.second world plan
  | .remove plan => removePolicy lib e.first e.second world plan

/-- What is performed of a call, and how it ends. -/
def PolicyEvent.performed (world : PolicyWorld) (e : PolicyEvent) : List PolicyOp × Ending :=
  perform PolicyOp.canFail (e.outcome lib world).script e.interruption

/-- The world after a call; a crash opens the provider again from its file. -/
def PolicyEvent.after (world : PolicyWorld) (e : PolicyEvent) : PolicyWorld :=
  let reached := run PolicyOp.apply world (e.performed lib world).1
  match (e.performed lib world).2 with
  | .crashed => { reached with memory := reached.file }
  | _ => reached

/-- The call ends and answers with success. -/
def PolicyEvent.succeeds (world : PolicyWorld) (e : PolicyEvent) : Prop :=
  (e.performed lib world).2 = .completed ∧ (e.outcome lib world).result = .ok ()

def recordedAs (plan : NamespacedRoutedFabricPlan) (ownership : RealmOwnership) : Bool :=
  ownership.policyGeneration = plan.policyGeneration &&
    ownership.policyFingerprint = policyFingerprint lib plan

/-- The table of a plan: the marker, and the complete list of rules. -/
def completeTable (plan : NamespacedRoutedFabricPlan) : NftTable where
  comment := "o3k-p11-policy:" ++ policyFingerprint lib plan
  chain := some (forwardChain plan)

/-- A state of the provider vouches for a plan: if it has recorded it, the
table of the realm is complete. -/
def Vouches (plan : NamespacedRoutedFabricPlan) (state : ProviderState)
    (tables : String × String → Option NftTable) :
    Prop :=
  ∀ ownership,
    state.get? plan.realmId = some ownership → recordedAs lib plan ownership = true →
      tables (ownership.namespaceName, policyTableName lib plan.realmId) =
        some (completeTable lib plan)

/-- **The record is honest**, in the memory and in the file. -/
structure Honest (plan : NamespacedRoutedFabricPlan) (world : PolicyWorld) : Prop where
  memory : Vouches lib plan world.memory world.tables
  file : Vouches lib plan world.file world.tables

/-- The table of the realm is complete. -/
def Complete (plan : NamespacedRoutedFabricPlan) (world : PolicyWorld) : Prop :=
  ∃ ownership, world.memory.get? plan.realmId = some ownership ∧
    world.tables (ownership.namespaceName, policyTableName lib plan.realmId) =
      some (completeTable lib plan)

/-- The operation puts the plan into the memory. -/
def PolicyOp.remembers (plan : NamespacedRoutedFabricPlan) : PolicyOp → Bool
  | remember ownership => recordedAs lib plan ownership
  | _ => false

def PolicyOp.isStore : PolicyOp → Bool
  | store => true
  | _ => false

def PolicyOp.isDelete : PolicyOp → Bool
  | deleteTable _ => true
  | _ => false

def PolicyOp.setsRecord : PolicyOp → Bool
  | remember _ => true
  | commit _ => true
  | _ => false

def hasRecord (plan : NamespacedRoutedFabricPlan) (world : PolicyWorld) : Bool :=
  (world.memory.get? plan.realmId).any (recordedAs lib plan) ||
    (world.file.get? plan.realmId).any (recordedAs lib plan)

/-- **The gap**: the call stops after it has recorded the plan, in what it
leaves behind, and before its last operation; or after it has deleted the table
of a plan that is still recorded. -/
def inGap (plan : NamespacedRoutedFabricPlan) (world : PolicyWorld) (e : PolicyEvent) : Bool :=
  let ops := (e.performed lib world).1
  decide (ops.length < (e.outcome lib world).script.length) &&
    (ops.any (PolicyOp.remembers lib plan) &&
          ((e.performed lib world).2 = .failed || ops.any PolicyOp.isStore) ||
      hasRecord lib plan world && ops.any PolicyOp.isDelete && !ops.any PolicyOp.setsRecord)

/-- Two plans have the same record. -/
def recordsAlike (a b : NamespacedRoutedFabricPlan) : Prop :=
  a.policyGeneration = b.policyGeneration ∧ policyFingerprint lib a = policyFingerprint lib b

/-- **The steps that do no harm to a plan**: calls for its realm that stop
outside the gap; and where one leaves the record of the plan, its rules are
those of the plan and its listing finds the table if there is one. -/
structure Harmless (plan : NamespacedRoutedFabricPlan) (world : PolicyWorld)
    (e : PolicyEvent) : Prop where
  realm : e.call.plan.realmId = plan.realmId
  rules :
    ∀ other, e.call = .ensure other → recordsAlike lib other plan →
      forwardChain other = forwardChain plan
  listed :
    ∀ other, e.call = .ensure other → recordsAlike lib other plan → e.first = .unsuccessful →
      ∀ ownership, world.memory.get? plan.realmId = some ownership →
        world.tables (ownership.namespaceName, policyTableName lib plan.realmId) = none
  outside : inGap lib plan world e = false

end Events

/-- The record of a realm without a policy. -/
def RealmOwnership.clear (ownership : RealmOwnership) : RealmOwnership :=
  { ownership with policyGeneration := 0, policyFingerprint := "" }

/-- The record of a realm with the policy of a plan. -/
def RealmOwnership.adopt
    (lib : PolicyLibrary) (plan : NamespacedRoutedFabricPlan) (ownership : RealmOwnership) :
    RealmOwnership :=
  { ownership with
    policyGeneration := plan.policyGeneration
    policyFingerprint := Fabric.policyFingerprint lib plan }

inductive Decides (lib : PolicyLibrary) (world : PolicyWorld) (first : ListAnswer) :
    PolicyCall → Outcome → Prop
  | refused {call script e} (hscript : ∀ op ∈ script, ∃ table, op = PolicyOp.list table) :
      Decides lib world first call ⟨script, .error e⟩
  | nothing {call}
      (hcall : ∀ plan, call = .ensure plan → plan.policies = [] ∧ plan.policyDefaults = []) :
      Decides lib world first call ⟨[], .ok ()⟩
  | kept {plan current} (hvalid : policyPlanIsValid plan)
      (hcurrent : world.memory.get? plan.realmId = some current)
      (hrecorded : recordedAs lib plan current = true) :
      Decides lib world first (.ensure plan) ⟨[], .ok ()⟩
  | cleared {call current table}
      (hcall : ∀ plan, call = .ensure plan → plan.policies = [] ∧ plan.policyDefaults = [])
      (hcurrent : world.memory.get? call.plan.realmId = some current) :
      Decides lib world first call
        ⟨[.list table, .list table, .commit (world.memory.put current.clear),
          .adopt (world.memory.put current.clear)], .ok ()⟩
  | removed {call current}
      (hcall : ∀ plan, call = .ensure plan → plan.policies = [] ∧ plan.policyDefaults = [])
      (hcurrent : world.memory.get? call.plan.realmId = some current) :
      Decides lib world first call
        ⟨[.list (current.namespaceName, policyTableName lib call.plan.realmId),
          .deleteTable (current.namespaceName, policyTableName lib call.plan.realmId),
          .list (current.namespaceName, policyTableName lib call.plan.realmId),
          .commit (world.memory.put current.clear), .adopt (world.memory.put current.clear)],
          .ok ()⟩
  | rebuilt {plan current table deletion} (hvalid : policyPlanIsValid plan)
      (hcurrent : world.memory.get? plan.realmId = some current)
      (htable : table = (current.namespaceName, policyTableName lib plan.realmId))
      (hdeletion :
        deletion = [.deleteTable table] ∨
          deletion = [] ∧ (first = .honest → world.tables table = none)) :
      Decides lib world first (.ensure plan)
        ⟨.list table :: .remember (current.adopt lib plan) :: .store ::
          (deletion ++ buildTable lib table plan), .ok ()⟩

section Cases

variable {lib : PolicyLibrary} {world : PolicyWorld} {first second : ListAnswer}

theorem removePolicy_decides {plan : NamespacedRoutedFabricPlan} {call : PolicyCall}
    (hplan : call.plan = plan)
    (hcall : ∀ p, call = .ensure p → p.policies = [] ∧ p.policyDefaults = []) :
    Decides lib world first call (removePolicy lib first second world plan) := by
  subst hplan
  unfold removePolicy
  split
  · exact .nothing hcall
  · rename_i current hcurrent
    split_ifs with hempty
    · exact .nothing hcall
    · dsimp only
      split
      · split_ifs with hremains
        · refine .refused fun op hop => ?_
          simp only [List.mem_cons, List.not_mem_nil, or_false, or_self] at hop
          exact ⟨_, hop⟩
        · exact .cleared hcall hcurrent
      · split_ifs with hforeign
        · exact .refused fun op hop => ⟨_, List.mem_singleton.mp hop⟩
        · exact .removed hcall hcurrent

theorem ensurePolicy_decides (plan : NamespacedRoutedFabricPlan) :
    Decides lib world first (.ensure plan) (ensurePolicy lib first second world plan) := by
  unfold ensurePolicy
  split
  · exact .refused fun _ hop => absurd hop List.not_mem_nil
  · rename_i current hcurrent
    by_cases hempty : plan.policies = [] ∧ plan.policyDefaults = []
    · rw [if_pos hempty]
      refine removePolicy_decides rfl fun p hp => ?_
      cases hp
      exact hempty
    rw [if_neg hempty]
    split
    · exact .refused fun _ hop => absurd hop List.not_mem_nil
    · rename_i hok
      have hvalid := validatePolicyPlan_eq_ok.mp hok
      have hall : (policySteps plan).all Option.isSome = true := by
        rw [policySteps_eq_map_some hvalid]
        simp
      simp only [hall, if_true]
      split_ifs with hrecorded
      · refine .kept hvalid hcurrent ?_
        simpa [recordedAs] using hrecorded
      · split
        · rename_i habsent
          have hdeletion :
              ([] : List PolicyOp) =
                  [.deleteTable (current.namespaceName, policyTableName lib plan.realmId)] ∨
                ([] : List PolicyOp) = [] ∧
                  (first = .honest →
                    world.tables (current.namespaceName, policyTableName lib plan.realmId) =
                      none) := by
            refine Or.inr ⟨rfl, ?_⟩
            rintro rfl
            exact habsent
          exact (Decides.rebuilt hvalid hcurrent rfl hdeletion :)
        · split_ifs with hforeign
          · exact .refused fun op hop => ⟨_, List.mem_singleton.mp hop⟩
          · exact (Decides.rebuilt hvalid hcurrent rfl (Or.inl rfl) :)

theorem PolicyEvent.outcome_decides (e : PolicyEvent) :
    Decides lib world e.first e.call (e.outcome lib world) := by
  obtain ⟨call, first, second, interruption⟩ := e
  cases call with
  | ensure plan => exact ensurePolicy_decides plan
  | remove plan => exact removePolicy_decides rfl fun _ h => by cases h

end Cases

section Effects

variable {lib : PolicyLibrary} {world : PolicyWorld} {table : String × String}

theorem run_lists {ops : List PolicyOp} (h : ∀ op ∈ ops, ∃ table, op = PolicyOp.list table) :
    run PolicyOp.apply world ops = world := by
  induction ops with
  | nil => rfl
  | cons op rest ih =>
    obtain ⟨_, rfl⟩ := h op List.mem_cons_self
    exact ih fun other hother => h other (List.mem_cons_of_mem _ hother)

theorem run_addRules {comment : String} {base rules : List NftRule}
    (h : world.tables table = some ⟨comment, some base⟩) :
    run PolicyOp.apply world (rules.map (.addRule table)) =
      { world with
        tables := Function.update world.tables table (some ⟨comment, some (base ++ rules)⟩) } := by
  induction rules generalizing world base with
  | nil =>
    rw [List.append_nil, ← h, Function.update_eq_self]
    rfl
  | cons rule rest ih =>
    rw [List.map_cons, run_cons, @ih _ (base ++ [rule])]
    · simp [PolicyOp.apply, PolicyWorld.onTable]
    · simp [PolicyOp.apply, PolicyWorld.onTable, h]

/-- **The table is built in full** where there was none. -/
theorem run_buildTable {plan : NamespacedRoutedFabricPlan}
    (hvalid : policyPlanIsValid plan) (h : world.tables table = none) :
    run PolicyOp.apply world (buildTable lib table plan) =
      { world with
        tables := Function.update world.tables table (some (completeTable lib plan)) } := by
  have hsteps :
      ((policySteps plan).takeWhile Option.isSome).reduceOption = forwardChain plan := by
    have hsome : (policySteps plan).takeWhile Option.isSome = policySteps plan := by
      rw [List.takeWhile_eq_self_iff, policySteps_eq_map_some hvalid]
      simp
    rw [hsome]
    rfl
  unfold buildTable
  rw [hsteps, run_cons, run_cons,
    @run_addRules _ table ("o3k-p11-policy:" ++ policyFingerprint lib plan) []]
  · simp [PolicyOp.apply, PolicyWorld.onTable, completeTable]
  · simp [PolicyOp.apply, PolicyWorld.onTable, h]

def PolicyOp.onTables : PolicyOp → Bool
  | remember _ => false
  | store => false
  | commit _ => false
  | adopt _ => false
  | _ => true

theorem run_onTables {ops : List PolicyOp} (h : ∀ op ∈ ops, op.onTables = true) :
    (run PolicyOp.apply world ops).memory = world.memory ∧
      (run PolicyOp.apply world ops).file = world.file := by
  induction ops generalizing world with
  | nil => exact ⟨rfl, rfl⟩
  | cons op rest ih =>
    have hop := h op List.mem_cons_self
    obtain ⟨hmemory, hfile⟩ :=
      @ih (op.apply world) fun other hother => h other (List.mem_cons_of_mem _ hother)
    rw [run_cons, hmemory, hfile]
    cases op <;> simp only [PolicyOp.onTables, Bool.false_eq_true] at hop <;> exact ⟨rfl, rfl⟩

theorem onTables_of_mem_buildTable {plan : NamespacedRoutedFabricPlan} {op : PolicyOp}
    (h : op ∈ buildTable lib table plan) :
    op.onTables = true := by
  simp only [buildTable, List.mem_cons, List.mem_map] at h
  rcases h with rfl | rfl | ⟨_, _, rfl⟩ <;> rfl

end Effects

section Step

variable {lib : PolicyLibrary} {plan : NamespacedRoutedFabricPlan} {world : PolicyWorld}

variable {tables : String × String → Option NftTable}

theorem vouches_of_not_recorded {state : ProviderState}
    (h : (state.get? plan.realmId).any (recordedAs lib plan) = false) :
    Vouches lib plan state tables := by
  intro ownership hget hrecorded
  simp [hget, hrecorded] at h

theorem vouches_put {ownership : RealmOwnership} (hrealm : ownership.realmId = plan.realmId)
    (h :
      recordedAs lib plan ownership = true →
        tables (ownership.namespaceName, policyTableName lib plan.realmId) =
          some (completeTable lib plan)) :
    Vouches lib plan (world.memory.put ownership) tables := by
  intro found hget hrecorded
  rw [Table.get?_put, if_pos hrealm] at hget
  obtain rfl := Option.some.inj hget
  exact h hrecorded

theorem recordedAs_clear (hvalid : policyPlanIsValid plan) (ownership : RealmOwnership) :
    recordedAs lib plan ownership.clear = false := by
  simp [recordedAs, RealmOwnership.clear, hvalid.1.symm]

variable {e : PolicyEvent}

theorem honest_after {ops : List PolicyOp} {ending : Ending}
    (hperformed : e.performed lib world = (ops, ending))
    (hmemory :
      ending ≠ .crashed →
        Vouches lib plan (run PolicyOp.apply world ops).memory
          (run PolicyOp.apply world ops).tables)
    (hfile :
      Vouches lib plan (run PolicyOp.apply world ops).file (run PolicyOp.apply world ops).tables) :
    Honest lib plan (e.after lib world) := by
  unfold PolicyEvent.after
  rw [hperformed]
  cases ending with
  | completed => exact ⟨hmemory Ending.noConfusion, hfile⟩
  | failed => exact ⟨hmemory Ending.noConfusion, hfile⟩
  | crashed => exact ⟨hfile, hfile⟩

theorem honest_of_inert (hhonest : Honest lib plan world)
    (hscript : ∀ op ∈ (e.outcome lib world).script, ∃ table, op = PolicyOp.list table) :
    Honest lib plan (e.after lib world) := by
  have hsame : run PolicyOp.apply world (e.performed lib world).1 = world := by
    obtain ⟨n, hn⟩ := @perform_eq_take _ PolicyOp.canFail (e.outcome lib world).script e.interruption
    refine run_lists fun op hop => hscript op ?_
    unfold PolicyEvent.performed at hop
    rw [hn] at hop
    exact List.mem_of_mem_take hop
  have hpair : e.performed lib world = ((e.performed lib world).1, (e.performed lib world).2) := rfl
  refine honest_after hpair (fun _ => ?_) ?_
  · rw [hsame]
    exact hhonest.memory
  · rw [hsame]
    exact hhonest.file

variable {current : RealmOwnership}

theorem vouches_clear (hvalid : policyPlanIsValid plan) (hrealm : current.realmId = plan.realmId)
    (tables : String × String → Option NftTable) :
    Vouches lib plan (world.memory.put current.clear) tables :=
  vouches_put hrealm fun h =>
    absurd h (by rw [recordedAs_clear hvalid]; exact Bool.false_ne_true)

variable {table : String × String}

/-- **Clearing a record** does no harm. -/
theorem honest_of_cleared (hvalid : policyPlanIsValid plan) (hhonest : Honest lib plan world)
    (hrealm : current.realmId = plan.realmId)
    (hscript :
      (e.outcome lib world).script =
        [.list table, .list table, .commit (world.memory.put current.clear),
          .adopt (world.memory.put current.clear)]) :
    Honest lib plan (e.after lib world) := by
  have hcleared :
      ∀ tables, Vouches lib plan (world.memory.put current.clear) tables :=
    vouches_clear hvalid hrealm
  rcases @perform_cases _ PolicyOp.canFail (e.outcome lib world).script e.interruption with
    ⟨ending, _, hperformed⟩ | ⟨n, op, ending, hop, hperformed, _⟩
  · rw [hscript] at hperformed
    refine honest_after (by rw [PolicyEvent.performed, hscript, hperformed]) (fun _ => ?_) ?_
    · exact hcleared _
    · exact hcleared _
  · change e.performed lib world = _ at hperformed
    rw [hscript] at hperformed hop
    rcases n with _ | _ | _ | _ | n
    · exact honest_after hperformed (fun _ => hhonest.memory) hhonest.file
    · exact honest_after hperformed (fun _ => hhonest.memory) hhonest.file
    · exact honest_after hperformed (fun _ => hhonest.memory) hhonest.file
    · exact honest_after hperformed (fun _ => hhonest.memory) (hcleared _)
    · cases hop

/-- **Removing the table of a realm** does no harm outside the gap. -/
theorem honest_of_removed (hvalid : policyPlanIsValid plan) (hhonest : Honest lib plan world)
    (hrealm : current.realmId = plan.realmId) (houtside : inGap lib plan world e = false)
    (hscript :
      (e.outcome lib world).script =
        [.list table, .deleteTable table, .list table, .commit (world.memory.put current.clear),
          .adopt (world.memory.put current.clear)]) :
    Honest lib plan (e.after lib world) := by
  have hcleared :
      ∀ tables, Vouches lib plan (world.memory.put current.clear) tables :=
    vouches_clear hvalid hrealm
  rcases @perform_cases _ PolicyOp.canFail (e.outcome lib world).script e.interruption with
    ⟨ending, _, hperformed⟩ | ⟨n, op, ending, hop, hperformed, hending⟩
  · rw [hscript] at hperformed
    refine honest_after (by rw [PolicyEvent.performed, hscript, hperformed]) (fun _ => ?_) ?_
    · exact hcleared _
    · exact hcleared _
  · change e.performed lib world = _ at hperformed
    rw [hscript] at hperformed hop
    -- between the deletion and the state file the plan must not be recorded
    have hvacuous : n = 2 ∨ n = 3 → ∀ tables,
        Vouches lib plan world.memory tables ∧ Vouches lib plan world.file tables := by
      intro hn tables
      have hnone : hasRecord lib plan world = false := by
        rcases hn with rfl | rfl <;>
          simpa [inGap, hperformed, hscript, PolicyOp.remembers, PolicyOp.isDelete,
            PolicyOp.setsRecord, PolicyOp.isStore] using houtside
      simp only [hasRecord, Bool.or_eq_false_iff] at hnone
      exact ⟨vouches_of_not_recorded hnone.1, vouches_of_not_recorded hnone.2⟩
    rcases n with _ | _ | _ | _ | _ | n
    · exact honest_after hperformed (fun _ => hhonest.memory) hhonest.file
    · exact honest_after hperformed (fun _ => hhonest.memory) hhonest.file
    · exact honest_after hperformed (fun _ => (hvacuous (Or.inl rfl) _).1)
        (hvacuous (Or.inl rfl) _).2
    · exact honest_after hperformed (fun _ => (hvacuous (Or.inr rfl) _).1)
        (hvacuous (Or.inr rfl) _).2
    · obtain rfl : op = .adopt (world.memory.put current.clear) := by simpa using hop.symm
      refine honest_after hperformed (fun hne => ?_) (hcleared _)
      rcases hending with ⟨_, hcan⟩ | rfl
      · cases hcan
      · exact absurd rfl hne
    · cases hop

variable {other : NamespacedRoutedFabricPlan}

theorem recordedAs_adopt_iff {current : RealmOwnership} :
    recordedAs lib plan (current.adopt lib other) = true ↔ recordsAlike lib other plan := by
  unfold recordedAs recordsAlike
  rw [Bool.and_eq_true, decide_eq_true_iff, decide_eq_true_iff]
  rfl

theorem vouches_adopt_of_not_alike
    (hrealm : current.realmId = plan.realmId) (halike : ¬ recordsAlike lib other plan)
    (tables : String × String → Option NftTable) :
    Vouches lib plan (world.memory.put (current.adopt lib other)) tables :=
  vouches_put hrealm fun h => absurd (recordedAs_adopt_iff.mp h) halike

theorem complete_of_rebuilt {deletion : List PolicyOp} (hvalid : policyPlanIsValid other)
    (hgone : deletion = [.deleteTable table] ∨ deletion = [] ∧ world.tables table = none) :
    run PolicyOp.apply world
        (.list table :: .remember (current.adopt lib other) :: .store ::
          (deletion ++ buildTable lib table other)) =
      { memory := world.memory.put (current.adopt lib other)
        file := world.memory.put (current.adopt lib other)
        tables := Function.update world.tables table (some (completeTable lib other)) } := by
  rw [run_cons, run_cons, run_cons, run_append]
  rcases hgone with rfl | ⟨rfl, hnone⟩
  · rw [run_buildTable hvalid]
    · simp [PolicyOp.apply]
    · simp [PolicyOp.apply]
  · rw [run_nil, run_buildTable hvalid]
    · simp [PolicyOp.apply]
    · simpa [PolicyOp.apply] using hnone

/-- **Rebuilding the table of a realm** does no harm outside the gap. -/
theorem honest_of_rebuilt {deletion : List PolicyOp}
    (hvalid : policyPlanIsValid other) (hhonest : Honest lib plan world)
    (hharmless : Harmless lib plan world e) (hcall : e.call = .ensure other)
    (hcurrent : world.memory.get? other.realmId = some current)
    (htable : table = (current.namespaceName, policyTableName lib other.realmId))
    (hdeletion :
      deletion = [.deleteTable table] ∨
        deletion = [] ∧ (e.first = .honest → world.tables table = none))
    (hscript :
      (e.outcome lib world).script =
        .list table :: .remember (current.adopt lib other) :: .store ::
          (deletion ++ buildTable lib table other)) :
    Honest lib plan (e.after lib world) := by
  have hrealm : other.realmId = plan.realmId := by
    have h := hharmless.realm
    rwa [hcall] at h
  have howner : current.realmId = plan.realmId := (world.memory.key_of_get? hcurrent).trans hrealm
  -- what comes after the state file is on tables only
  have hrest : ∀ rest, (∀ op ∈ rest, op ∈ deletion ++ buildTable lib table other) →
      (run PolicyOp.apply world
          (.list table :: .remember (current.adopt lib other) :: .store :: rest)).memory =
            world.memory.put (current.adopt lib other) ∧
        (run PolicyOp.apply world
          (.list table :: .remember (current.adopt lib other) :: .store :: rest)).file =
            world.memory.put (current.adopt lib other) := by
    intro rest hmem
    rw [run_cons, run_cons, run_cons]
    refine run_onTables fun op hop => ?_
    rcases List.mem_append.mp (hmem op hop) with hop | hop
    · rcases hdeletion with rfl | ⟨rfl, _⟩
      · rw [List.mem_singleton.mp hop]
        rfl
      · exact absurd hop List.not_mem_nil
    · exact onTables_of_mem_buildTable hop
  by_cases halike : recordsAlike lib other plan
  · have hgone : deletion = [.deleteTable table] ∨ deletion = [] ∧ world.tables table = none := by
      rcases hdeletion with hdelete | ⟨hnil, habsent⟩
      · exact Or.inl hdelete
      · refine Or.inr ⟨hnil, ?_⟩
        cases hfirst : e.first with
        | honest => exact habsent hfirst
        | unsuccessful =>
          rw [htable, hrealm]
          exact hharmless.listed other hcall halike hfirst current (hrealm ▸ hcurrent)
    have hsame : completeTable lib other = completeTable lib plan := by
      unfold completeTable
      rw [halike.2, hharmless.rules other hcall halike]
    have hcomplete : Vouches lib plan (world.memory.put (current.adopt lib other))
        (Function.update world.tables table (some (completeTable lib other))) := by
      refine vouches_put howner fun _ => ?_
      rw [hsame, htable, hrealm]
      exact Function.update_self _ _ _
    rcases @perform_cases _ PolicyOp.canFail (e.outcome lib world).script e.interruption with
      ⟨ending, _, hperformed⟩ | ⟨n, op, ending, hop, hperformed, hending⟩
    · change e.performed lib world = _ at hperformed
      rw [hscript] at hperformed
      refine honest_after hperformed (fun _ => ?_) ?_
      · rw [complete_of_rebuilt hvalid hgone]
        exact hcomplete
      · rw [complete_of_rebuilt hvalid hgone]
        exact hcomplete
    · change e.performed lib world = _ at hperformed
      have hlength : n < (e.outcome lib world).script.length := (List.getElem?_eq_some_iff.mp hop).1
      have houtside := hharmless.outside
      have hrecorded : recordedAs lib plan (current.adopt lib other) = true :=
        recordedAs_adopt_iff.mpr halike
      rw [hscript] at hperformed hlength
      rcases n with _ | _ | _ | n
      · exact honest_after hperformed (fun _ => hhonest.memory) hhonest.file
      · exact honest_after hperformed (fun _ => hhonest.memory) hhonest.file
      · rcases hending with ⟨rfl, _⟩ | rfl
        · simp [inGap, hperformed, hscript, PolicyOp.remembers, hrecorded] at houtside
        · exact honest_after hperformed (fun hne => absurd rfl hne) hhonest.file
      · exfalso
        simp [inGap, hperformed, hscript, PolicyOp.remembers, PolicyOp.isStore, hrecorded,
          List.take_succ_cons] at houtside hlength
        omega
  · have hother :
        ∀ tables, Vouches lib plan (world.memory.put (current.adopt lib other)) tables :=
      vouches_adopt_of_not_alike howner halike
    rcases @perform_cases _ PolicyOp.canFail (e.outcome lib world).script e.interruption with
      ⟨ending, _, hperformed⟩ | ⟨n, op, ending, hop, hperformed, hending⟩
    · change e.performed lib world = _ at hperformed
      rw [hscript] at hperformed
      obtain ⟨hmemory, hfile⟩ := hrest _ fun _ h => h
      refine honest_after hperformed (fun _ => ?_) ?_
      · rw [hmemory]
        exact hother _
      · rw [hfile]
        exact hother _
    · change e.performed lib world = _ at hperformed
      rw [hscript] at hperformed
      rcases n with _ | _ | _ | n
      · exact honest_after hperformed (fun _ => hhonest.memory) hhonest.file
      · exact honest_after hperformed (fun _ => hhonest.memory) hhonest.file
      · exact honest_after hperformed (fun _ => hother _) hhonest.file
      · obtain ⟨hmemory, hfile⟩ := hrest _ fun _ h => List.mem_of_mem_take (i := n) h
        refine honest_after hperformed (fun _ => ?_) ?_
        · rw [List.take_succ_cons, List.take_succ_cons, List.take_succ_cons, hmemory]
          exact hother _
        · rw [List.take_succ_cons, List.take_succ_cons, List.take_succ_cons, hfile]
          exact hother _

/-- **One harmless step** keeps the record honest. -/
theorem honest_step (hvalid : policyPlanIsValid plan) (hhonest : Honest lib plan world)
    (hharmless : Harmless lib plan world e) :
    Honest lib plan (e.after lib world) := by
  have hdecides : Decides lib world e.first e.call (e.outcome lib world) := e.outcome_decides
  have hrealm := hharmless.realm
  generalize hcall : e.call = call at hdecides hrealm
  generalize houtcome : e.outcome lib world = outcome at hdecides
  have hscript : (e.outcome lib world).script = outcome.script := by
    rw [houtcome]
  cases hdecides with
  | refused hlists => exact honest_of_inert hhonest (hscript ▸ hlists)
  | nothing _ => exact honest_of_inert hhonest (hscript ▸ fun _ h => absurd h List.not_mem_nil)
  | kept _ _ _ => exact honest_of_inert hhonest (hscript ▸ fun _ h => absurd h List.not_mem_nil)
  | cleared _ hcurrent =>
    exact honest_of_cleared hvalid hhonest
      ((world.memory.key_of_get? hcurrent).trans hrealm) hscript
  | removed _ hcurrent =>
    exact honest_of_removed hvalid hhonest
      ((world.memory.key_of_get? hcurrent).trans hrealm) hharmless.outside hscript
  | rebuilt hother hcurrent htable hdeletion =>
    exact honest_of_rebuilt hother hhonest hharmless hcall hcurrent htable hdeletion hscript

/-- **A call that succeeds** leaves the complete table. -/
theorem complete_of_succeeds
    (hpolicies : plan.policies ≠ [] ∨ plan.policyDefaults ≠ []) (hhonest : Honest lib plan world)
    (hharmless : Harmless lib plan world e) (hcall : e.call = .ensure plan)
    (hsucceeds : e.succeeds lib world) :
    Complete lib plan (e.after lib world) := by
  obtain ⟨hending, hresult⟩ := hsucceeds
  have hperformed := perform_of_completed hending
  have hafter :
      e.after lib world = run PolicyOp.apply world (e.outcome lib world).script := by
    unfold PolicyEvent.after PolicyEvent.performed
    rw [hperformed]
  have hbare := not_and_or.mpr hpolicies
  have hdecides : Decides lib world e.first e.call (e.outcome lib world) := e.outcome_decides
  rw [hcall] at hdecides
  rw [hafter]
  generalize e.outcome lib world = outcome at hdecides hresult
  cases hdecides with
  | refused _ => cases hresult
  | nothing hnothing => exact absurd (hnothing plan rfl) hbare
  | cleared hnothing _ => exact absurd (hnothing plan rfl) hbare
  | removed hnothing _ => exact absurd (hnothing plan rfl) hbare
  | kept _ hcurrent hrecorded => exact ⟨_, hcurrent, hhonest.memory _ hcurrent hrecorded⟩
  | @rebuilt _ current table deletion hvalid hcurrent htable hdeletion =>
    have hgone : deletion = [.deleteTable table] ∨ deletion = [] ∧ world.tables table = none := by
      rcases hdeletion with hdelete | ⟨hnil, habsent⟩
      · exact Or.inl hdelete
      · refine Or.inr ⟨hnil, ?_⟩
        cases hfirst : e.first with
        | honest => exact habsent hfirst
        | unsuccessful =>
          rw [htable]
          exact hharmless.listed plan hcall ⟨rfl, rfl⟩ hfirst current hcurrent
    rw [complete_of_rebuilt hvalid hgone]
    refine ⟨current.adopt lib plan, ?_, ?_⟩
    · have howner : current.realmId = plan.realmId := world.memory.key_of_get? hcurrent
      exact (Table.get?_put _ _ _).trans (if_pos howner)
    · subst htable
      exact Function.update_self _ _ _

theorem valid_of_succeeds
    (hpolicies : plan.policies ≠ [] ∨ plan.policyDefaults ≠ []) (hcall : e.call = .ensure plan)
    (hsucceeds : e.succeeds lib world) :
    policyPlanIsValid plan := by
  have hbare := not_and_or.mpr hpolicies
  have hresult := hsucceeds.2
  have hdecides : Decides lib world e.first e.call (e.outcome lib world) := e.outcome_decides
  rw [hcall] at hdecides
  generalize e.outcome lib world = outcome at hdecides hresult
  cases hdecides with
  | refused _ => cases hresult
  | nothing hnothing => exact absurd (hnothing plan rfl) hbare
  | cleared hnothing _ => exact absurd (hnothing plan rfl) hbare
  | removed hnothing _ => exact absurd (hnothing plan rfl) hbare
  | kept hvalid _ _ => exact hvalid
  | rebuilt hvalid _ _ _ => exact hvalid

end Step

/-- **Applying a policy is retry-safe** outside the gap: from an honest record,
through calls for the realm that stop outside it, a call for the plan that
succeeds leaves its complete list of rules. -/
theorem policy_application_is_retry_safe
    (lib : PolicyLibrary) (plan : NamespacedRoutedFabricPlan) (world : PolicyWorld)
    (events : List PolicyEvent) (hpolicies : plan.policies ≠ [] ∨ plan.policyDefaults ≠ [])
    (hhonest : Honest lib plan world)
    (hharmless : EachStep (PolicyEvent.after lib) (Harmless lib plan) world events) :
    EachStep (PolicyEvent.after lib)
      (fun w e => e.call = .ensure plan → e.succeeds lib w → Complete lib plan (e.after lib w))
      world events := by
  by_cases hvalid : policyPlanIsValid plan
  · exact eachStep_of_guarded (fun _ _ => honest_step hvalid)
      (fun _ _ => complete_of_succeeds hpolicies) world events hhonest hharmless
  · refine eachStep_of_invariant (I := fun _ => True) (fun _ _ _ => trivial) ?_ world events trivial
    exact fun _ _ _ hcall hsucceeds => absurd (valid_of_succeeds hpolicies hcall hsucceeds) hvalid

section Cuts

/-- The libraries on what the plan asks of them. -/
def openSenderLibrary : PolicyLibrary where
  uuidBytes _ :=
    [0x11, 0x11, 0x11, 0x11, 0x11, 0x11, 0x41, 0x11, 0x81, 0x11, 0x11, 0x11, 0x11, 0x11, 0x11, 0x11]
  sha256 _ := "9b5a4379caa135036c157125721c64f06b960e792cb086beeb570bb27ce557ee"

def freshRealm : PolicyWorld where
  memory := Table.ofList [⟨openSenderPlan.realmId, "o3k-r-11111111", 0, ""⟩]
  file := Table.ofList [⟨openSenderPlan.realmId, "o3k-r-11111111", 0, ""⟩]
  tables _ := none

/-- A call that crashes before it has written its state file, and its repetition. -/
def crashedBeforeStore : List PolicyEvent :=
  [⟨.ensure openSenderPlan, .honest, .honest, some (.crashes 2)⟩,
    ⟨.ensure openSenderPlan, .honest, .honest, none⟩]

/-- A call whose first rule for a policy fails, and its repetition. -/
def failedRule : List PolicyEvent :=
  [⟨.ensure openSenderPlan, .honest, .honest, some (.fails 6)⟩,
    ⟨.ensure openSenderPlan, .honest, .honest, none⟩]

theorem retry_after_crash_is_safe :
    EachStep (PolicyEvent.after openSenderLibrary)
      (fun w e => e.call = .ensure openSenderPlan → e.succeeds openSenderLibrary w →
        Complete openSenderLibrary openSenderPlan (e.after openSenderLibrary w))
      freshRealm crashedBeforeStore := by
  have hfresh : ∀ tables,
      Vouches openSenderLibrary openSenderPlan freshRealm.memory tables :=
    fun _ => vouches_of_not_recorded (by decide)
  refine policy_application_is_retry_safe openSenderLibrary openSenderPlan freshRealm
    crashedBeforeStore (Or.inl (by decide)) ⟨hfresh _, hfresh _⟩ ⟨?_, ?_, trivial⟩
  · refine ⟨rfl, ?_, fun _ _ _ h => (by cases h), by decide +kernel⟩
    rintro other hother _
    cases hother
    rfl
  · refine ⟨rfl, ?_, fun _ _ _ h => (by cases h), by decide +kernel⟩
    rintro other hother _
    cases hother
    rfl

/-- A rule that fails is never added: the repetition takes the record for the table. -/
theorem failed_rule_is_skipped :
    ¬ ∀ lib plan world events,
      (plan.policies ≠ [] ∨ plan.policyDefaults ≠ []) →
        EachStep (PolicyEvent.after lib)
          (fun w e => e.call = .ensure plan → e.succeeds lib w → Complete lib plan (e.after lib w))
          world events := by
  intro h
  obtain ⟨_, hretry, _⟩ :=
    h openSenderLibrary openSenderPlan freshRealm failedRule (Or.inl (by decide))
  have hsucceeds :
      (⟨.ensure openSenderPlan, .honest, .honest, none⟩ : PolicyEvent).succeeds openSenderLibrary
        (PolicyEvent.after openSenderLibrary freshRealm
          ⟨.ensure openSenderPlan, .honest, .honest, some (.fails 6)⟩) :=
    ⟨rfl, rfl⟩
  obtain ⟨ownership, hget, htable⟩ := hretry rfl hsucceeds
  have howner : ownership.namespaceName = "o3k-r-11111111" := by
    have hnames :
        ((run (PolicyEvent.after openSenderLibrary) freshRealm failedRule).memory.get?
          openSenderPlan.realmId).map (·.namespaceName) = some "o3k-r-11111111" := by
      decide +kernel
    have hsame := congrArg (Option.map RealmOwnership.namespaceName) hget
    exact (Option.some.inj (hnames.symm.trans hsame)).symm
  have hrules :
      ((run (PolicyEvent.after openSenderLibrary) freshRealm failedRule).tables
        ("o3k-r-11111111", policyTableName openSenderLibrary openSenderPlan.realmId)) ≠
          some (completeTable openSenderLibrary openSenderPlan) := by
    decide +kernel
  rw [howner] at htable
  exact hrules htable

end Cuts

end Fabric
end O3k
