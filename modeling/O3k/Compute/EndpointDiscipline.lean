import O3k.Compute.EndpointCleanup

/-!
# What a cleanup does under its mutex

Every attempt makes the calls that matter while it holds the mutex of its
process, and every unbind and release comes after a list of the servers that
did not refer to the port.
-/

namespace O3k
namespace Compute

open Semantics Operations EndpointM

/-- The call touches the port. -/
def ActsOn : EndpointCall → String → Prop
  | .unbindPort _ portId _, port => portId = port
  | .releaseServerOwnedEndpoint _ portId, port => portId = port
  | _, _ => False

/-- The reply shows the port without a reference. -/
def Shows (codec : IntentCodec) : (c : EndpointCall) → EndpointReply c → String → Prop
  | .listInstances, .ok rows, port => port ∉ referencedPortIds codec rows
  | _, _, _ => False

def Locking : EndpointCall → Prop
  | .lockRepair _ => True
  | .unlockRepair _ => True
  | _ => False

/-- The calls that are also made without the mutex. -/
def Free : EndpointCall → Prop
  | .lockRepair _ => True
  | .unlockRepair _ => True
  | .getOperation _ => True
  | .getResource _ => True
  | .projectCreateOutcome _ _ _ => True
  | .reconcileOnce _ => True
  | .updateResource _ => True
  | _ => False

def CleanupCall : EndpointCall → Prop
  | .acquireLease => True
  | .releaseLease => True
  | .listInstances => True
  | .portBinding _ _ => True
  | .unbindPort _ _ _ => True
  | .releaseServerOwnedEndpoint _ _ => True
  | _ => False

def CreateCall : EndpointCall → Prop
  | .getPort _ => True
  | .persistIntent _ => True
  | .reconcileOnce _ => True
  | .getResource _ => True
  | .updateResource _ => True
  | _ => False

def IsPersist : EndpointCall → Prop
  | .persistIntent _ => True
  | _ => False

/-- The calls before which an attempt is in no window. -/
def Outside (c : EndpointCall) : Prop := Free c ∨ IsPersist c

theorem CleanupCall.not_outside {c : EndpointCall} (h : CleanupCall c) : ¬ Outside c := by
  cases c <;> first | exact not_or.mpr ⟨id, id⟩ | exact absurd h id

theorem CleanupCall.not_locking {c : EndpointCall} (h : CleanupCall c) : ¬ Locking c := by
  cases c <;> first | exact id | exact absurd h id

theorem CreateCall.not_locking {c : EndpointCall} (h : CreateCall c) : ¬ Locking c := by
  cases c <;> first | exact id | exact absurd h id

theorem CreateCall.not_actsOn
    {c : EndpointCall} (h : CreateCall c) (port : String) : ¬ ActsOn c port := by
  cases c <;> first | exact id | exact absurd h id

section Checks

variable {codec : IntentCodec} {port : String} {α β : Type}

/-- The program does not touch the port before a list has shown it without a
reference. -/
def Checks (codec : IntentCodec) (port : String) (p : EndpointM α) : Prop :=
  ¬ Unchecked ActsOn (Shows codec) port p.run

theorem checks_pure (a : α) : Checks codec port (pure a : EndpointM α) := id

theorem checks_throw (e : ComputeError) : Checks codec port (throw e : EndpointM α) := id

theorem checks_bind {p : EndpointM α} {f : α → EndpointM β}
    (hp : Checks codec port p) (hf : ∀ a, Checks codec port (f a)) :
    Checks codec port (p >>= f) := by
  refine not_unchecked_bind hp ?_
  intro r
  cases r with
  | error e => exact id
  | ok a => exact hf a

theorem checks_call {c : EndpointCall} (h : ¬ ActsOn c port) : Checks codec port (call c) := by
  rintro (hact | ⟨_, _, hdone⟩)
  · exact h hact
  · exact hdone

theorem checks_mk_pure (r : Except ComputeError α) : Checks codec port (ExceptT.mk (pure r)) := id

/-- A program that is run for its result, failures included. -/
theorem checks_lift {p : EndpointM α} (hp : Checks codec port p) :
    Checks codec port (ExceptT.lift p.run) :=
  not_unchecked_bind hp (fun _ => id)

theorem checks_orRelease (message : String → String) (r : Except String Unit) :
    Checks codec port (orRelease message r) := by
  cases r with
  | error e => exact checks_throw _
  | ok u => exact checks_pure _

/-- **After the list**: what follows is checked where the port is referred to. -/
theorem checks_listInstances_bind {f : Except StoreError (List ResourceRecord) → EndpointM α}
    (herror : ∀ e, Checks codec port (f (.error e)))
    (hok : ∀ rows, port ∈ referencedPortIds codec rows → Checks codec port (f (.ok rows))) :
    Checks codec port (call .listInstances >>= f) := by
  rintro (hact | ⟨listed, hshown, hrest⟩)
  · exact hact
  · cases listed with
    | error e => exact herror e hrest
    | ok rows => exact hok rows (not_not.mp hshown) hrest

theorem checks_referencedPorts_bind {f : List String → EndpointM α}
    (hf : ∀ attached, port ∈ attached → Checks codec port (f attached)) :
    Checks codec port (referencedPorts codec >>= f) :=
  checks_listInstances_bind (f := fun listed =>
    (match listed with
      | .error e => throw (.store e)
      | .ok rows => pure (referencedPortIds codec rows)) >>= f)
    (fun _ => id) (fun rows hport => hf _ hport)

variable {attached : List String}

theorem checks_unbindPorts
    (hport : port ∈ attached) (projectId : String) (operationId : Uuid) (ports : List String) :
    Checks codec port (unbindPorts attached projectId operationId ports) := by
  induction ports with
  | nil => exact checks_pure _
  | cons portId rest ih =>
    unfold unbindPorts
    split
    · exact ih
    · rename_i hnot
      have hne : portId ≠ port := fun h => hnot (h ▸ hport)
      refine checks_bind (checks_call hne) ?_
      intro unbound
      exact checks_bind (checks_orRelease _ _) (fun _ => ih)

theorem checks_releasePorts (hport : port ∈ attached) (projectId : String) (ports : List String) :
    Checks codec port (releasePorts attached projectId ports) := by
  induction ports with
  | nil => exact checks_pure _
  | cons portId rest ih =>
    unfold releasePorts
    split
    · exact ih
    · rename_i hnot
      have hne : portId ≠ port := fun h => hnot (h ▸ hport)
      refine checks_bind (checks_call hne) ?_
      intro released
      exact checks_bind (checks_orRelease _ _) (fun _ => ih)

theorem checks_projectDelete
    (hport : port ∈ attached) (projectId : String) (operationId : Uuid) (ports : List String) :
    Checks codec port (projectDelete attached projectId operationId ports) := by
  induction ports with
  | nil => exact checks_pure _
  | cons portId rest ih =>
    unfold projectDelete
    split
    · exact ih
    · rename_i hnot
      have hne : portId ≠ port := fun h => hnot (h ▸ hport)
      refine checks_bind (checks_call hne) ?_
      intro unbound
      cases unbound with
      | error e => exact checks_throw _
      | ok u =>
        refine checks_bind (checks_call hne) ?_
        intro released
        exact checks_bind (checks_orRelease _ _) (fun _ => ih)

theorem checks_releaseOrphan {projectId portId : String}
    (hne : portId ≠ port) {goOn : EndpointM Bool} (hgoOn : Checks codec port goOn)
    (unbindsDispatched : Bool) :
    Checks codec port (releaseOrphan projectId portId goOn unbindsDispatched) := by
  refine checks_bind (checks_call hne) ?_
  intro _
  split
  · exact checks_pure _
  · exact hgoOn

theorem checks_repairPorts (resource : ResourceRecord) (stillAttached ports : List String) :
    Checks codec port (repairPorts codec resource stillAttached ports) := by
  induction ports with
  | nil => exact checks_pure _
  | cons portId rest ih =>
    unfold repairPorts
    split
    · exact ih
    · refine checks_referencedPorts_bind ?_
      intro attachedNow hport
      split
      · exact ih
      · rename_i hnot
        have hne : portId ≠ port := fun h => hnot (h ▸ hport)
        refine checks_bind (checks_call id) ?_
        intro binding
        split
        · split
          · split
            · refine checks_bind (checks_call hne) ?_
              intro unbound
              cases unbound with
              | error e => exact checks_pure _
              | ok u => exact checks_releaseOrphan hne ih _
            · exact checks_releaseOrphan hne ih _
          · exact ih
        · exact ih

theorem checks_repairServers (stillAttached : List String) (rows : List ResourceRecord) :
    Checks codec port (repairServers codec stillAttached rows) := by
  induction rows with
  | nil => exact checks_pure _
  | cons resource rest ih =>
    unfold repairServers
    split
    · exact ih
    · split
      · exact ih
      · refine checks_bind (checks_repairPorts _ _ _) ?_
        intro goOn
        split
        · exact ih
        · exact checks_pure _

theorem checks_repairOrphanedServerEndpointsLocked :
    Checks codec port (repairOrphanedServerEndpointsLocked codec) := by
  refine checks_bind (checks_call id) ?_
  intro listed
  cases listed with
  | error e => exact checks_throw _
  | ok rows => exact checks_referencedPorts_bind (fun _ _ => checks_repairServers _ _)

theorem checks_orphanRepairPass (coordinated : Bool) :
    Checks codec port (orphanRepairPass codec coordinated) := by
  cases coordinated with
  | false => exact checks_repairOrphanedServerEndpointsLocked
  | true =>
    refine checks_bind (checks_call id) ?_
    intro lease
    cases lease with
    | acquired =>
      refine checks_bind (checks_lift checks_repairOrphanedServerEndpointsLocked) ?_
      intro result
      refine checks_bind (checks_call id) ?_
      intro _
      exact checks_mk_pure result
    | busy => exact checks_pure _
    | failed => exact checks_pure _

end Checks

end Compute
end O3k
