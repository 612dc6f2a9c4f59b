import O3k.Execution.Finality
import O3k.FlatNetwork.Realization
import O3k.FlatNetwork.Removal

/-!
# The executor over the flat realizer

The sections of the executor, with the realizer of the node in the place of its
provider.  One command is executed after another.
-/

namespace O3k
namespace FlatNetwork

open Relational Network Fabric Execution Semantics
open Planning (NetworkPlanIntent PlanLibrary)

/-- The root of the executor and the host of the realizer.  The last fields are
history: the commands that the provider has realized and those that it has
removed, with success. -/
structure FlatNode where
  root : ExecutorRoot NetworkPlanIntent
  host : FlatHost
  realized : List Uuid
  removed : List Uuid

abbrev FlatCommand : Type := NetworkPlanCommand NetworkPlanIntent

/-- Whether the journal can be read and written, and how the calls of the
realizer go. -/
structure NodeAnswer where
  unreadable : Option NetworkExecutionError
  write : WriteOutcome
  host : Nat → HostAnswer

def NodeAnswer.saying (x : NodeAnswer) (mutation : Except FlatNetworkError Unit)
    (observation : Except FlatNetworkError Bool) :
    ExecutorAnswer :=
  { unreadable := x.unreadable
    write := x.write
    mutation := mutation.mapError FlatNetworkError.display
    observation := observation.mapError FlatNetworkError.display }

/-- The provider has been called for the command. -/
def FlatNode.provided (s : FlatNode) (command : FlatCommand) (succeeded : Bool) (host : FlatHost) :
    FlatNode :=
  if succeeded then
    match command.action with
    | .apply => { s with host := host, realized := command.commandId :: s.realized }
    | .remove => { s with host := host, removed := command.commandId :: s.removed }
  else
    { s with host := host }

section Node

variable (planLib : PlanLibrary) (lib : HostLibrary) (config : HostNetworkConfig)

def provide (command : FlatCommand) : FlatM Unit :=
  match command.action with
  | .apply => realize lib config command.plan
  | .remove => remove lib config command.plan

def observed (action : NetworkPlanAction) (plan : FlatPlan) : FlatM Bool :=
  match action with
  | .apply => observe lib config plan
  | .remove => observeRemoved lib config plan

def hosting {α : Type} (p : FlatM α) (x : NodeAnswer) (h : FlatHost) :
    Except FlatNetworkError α × FlatHost :=
  Program.answered (execHost config) x.host p.run h

def executorSection (c : ExecutorCall NetworkPlanIntent) (x : ExecutorAnswer) (s : FlatNode) :
    ExecutorReply c × FlatNode :=
  let t := execExecutor planLib c x s.root
  (t.1, { s with root := t.2 })

def execNode : (c : ExecutorCall NetworkPlanIntent) → NodeAnswer → FlatNode →
    ExecutorReply c × FlatNode
  | .mutate command, x, s =>
    let r := hosting config (provide lib config command) x s.host
    executorSection planLib (.mutate command) (x.saying r.1 (.ok false))
      (s.provided command r.1.toOption.isSome r.2)
  | .observeRemoved command, x, s =>
    let r := hosting config (observeRemoved lib config command.plan) x s.host
    executorSection planLib (.observeRemoved command) (x.saying (.ok ()) r.1) { s with host := r.2 }
  | .reconcile id, x, s =>
    match findPlan id s.root.plans with
    | none => executorSection planLib (.reconcile id) (x.saying (.ok ()) (.ok false)) s
    | some record =>
      let r := hosting config (observed lib config record.action record.plan) x s.host
      executorSection planLib (.reconcile id) (x.saying (.ok ()) r.1) { s with host := r.2 }
  | c, x, s => executorSection planLib c (x.saying (.ok ()) (.ok false)) s

/-- What is asked of the executor, and how its calls go. -/
structure NodeEvent where
  task : ExecutorTask NetworkPlanIntent
  answers : Nat → NodeAnswer

def nodeStep (s : FlatNode) (e : NodeEvent) : FlatNode :=
  (Program.answered (execNode planLib lib config) e.answers (executorProgram 0 e.task) s).2

end Node

/-- A node at which nothing has been admitted, with the links that its kernel
has. -/
def freshNode (agent : NetworkAgentIdentity) (lease : NetworkControllerLease) (links : Links)
    (nextIndex : Nat) :
    FlatNode where
  root := freshRoot agent lease
  host :=
    { links := links
      nextIndex := nextIndex
      manifest := ⟨none, Table.empty⟩
      dhcp := ⟨none, Table.empty⟩
      supervisor := none }
  realized := []
  removed := []

def NodeEvent.Works (e : NodeEvent) : Prop := ∀ n k, ((e.answers n).host k).works = true

section Rows

variable {Intent : Type}

theorem setPlanStatus_row {id : Uuid} {status : NetworkPlanStatus}
    {plans plans' : List (AcceptedPlan Intent)} (h : setPlanStatus id status plans = some plans') :
    ∃ record, findPlan id plans = some record ∧
      findPlan id plans' = some { record with status := status } ∧
      ∀ p ∈ plans', p ∈ plans ∨ p = { record with status := status } := by
  induction plans generalizing plans' with
  | nil => cases h
  | cons p rest ih =>
    simp only [setPlanStatus] at h
    split at h
    · rename_i hid
      cases h
      refine ⟨p, by simp [findPlan, hid], by simp [findPlan, hid], ?_⟩
      intro q hq
      rcases List.mem_cons.mp hq with rfl | hq
      · exact Or.inr rfl
      · exact Or.inl (List.mem_cons_of_mem _ hq)
    · rename_i hid
      obtain ⟨rest', hrest, rfl⟩ := Option.map_eq_some_iff.mp h
      obtain ⟨record, hfind, hfind', hrows⟩ := ih hrest
      refine ⟨record, ?_, ?_, ?_⟩
      · simpa [findPlan, hid] using hfind
      · simpa [findPlan, hid] using hfind'
      · intro q hq
        rcases List.mem_cons.mp hq with rfl | hq
        · exact Or.inl List.mem_cons_self
        · exact (hrows q hq).imp_left (List.mem_cons_of_mem _)

theorem findPlan_append_of_new {id : Uuid} {plans : List (AcceptedPlan Intent)}
    {row : AcceptedPlan Intent} (hnew : id ∉ plans.map (·.commandId)) (hrow : row.commandId = id) :
    findPlan id (plans ++ [row]) = some row := by
  have hnone : findPlan id plans = none := by
    refine List.find?_eq_none.mpr fun p hp hid => hnew (List.mem_map.mpr ⟨p, hp, ?_⟩)
    simpa using hid
  unfold findPlan at hnone ⊢
  rw [List.find?_append, hnone]
  simp [hrow]

end Rows

end FlatNetwork
end O3k
