import O3k.Compute.EndpointDiscipline

/-!
# Windows of a cleanup lie under the mutex

The bodies that run under the mutex of a process make no other calls than the
cleanups' or the creates' own.  So an attempt that is in a window for a port
holds the mutex of its process, and no create of that process makes its intent
durable meanwhile.
-/

namespace O3k
namespace Compute

open Semantics Operations EndpointM
open Program (Calls Survives calls_run_bind)

section Calls

variable {codec : IntentCodec} {K : EndpointCall → Prop} {α β : Type}

theorem calls_call {c : EndpointCall} (h : K c) : (call c).run.Calls K :=
  ⟨h, fun _ => trivial⟩

theorem calls_orRelease (message : String → String) (r : Except String Unit) :
    (orRelease message r).run.Calls K := by
  cases r with
  | error e => trivial
  | ok u => trivial

theorem calls_referencedPorts : (referencedPorts codec).run.Calls CleanupCall := by
  refine calls_run_bind (calls_call trivial) ?_
  intro listed
  cases listed with
  | error e => trivial
  | ok rows => trivial

theorem calls_unbindPorts
    (attached : List String) (projectId : String) (operationId : Uuid) (ports : List String) :
    (unbindPorts attached projectId operationId ports).run.Calls CleanupCall := by
  induction ports with
  | nil => trivial
  | cons portId rest ih =>
    unfold unbindPorts
    split
    · exact ih
    · refine calls_run_bind (calls_call trivial) ?_
      intro unbound
      exact calls_run_bind (calls_orRelease _ _) (fun _ => ih)

theorem calls_releasePorts (attached : List String) (projectId : String) (ports : List String) :
    (releasePorts attached projectId ports).run.Calls CleanupCall := by
  induction ports with
  | nil => trivial
  | cons portId rest ih =>
    unfold releasePorts
    split
    · exact ih
    · refine calls_run_bind (calls_call trivial) ?_
      intro released
      exact calls_run_bind (calls_orRelease _ _) (fun _ => ih)

theorem calls_projectDelete
    (attached : List String) (projectId : String) (operationId : Uuid) (ports : List String) :
    (projectDelete attached projectId operationId ports).run.Calls CleanupCall := by
  induction ports with
  | nil => trivial
  | cons portId rest ih =>
    unfold projectDelete
    split
    · exact ih
    · refine calls_run_bind (calls_call trivial) ?_
      intro unbound
      cases unbound with
      | error e => trivial
      | ok u =>
        refine calls_run_bind (calls_call trivial) ?_
        intro released
        exact calls_run_bind (calls_orRelease _ _) (fun _ => ih)

theorem calls_releaseOrphan {projectId portId : String} {goOn : EndpointM Bool}
    (hgoOn : goOn.run.Calls CleanupCall) (unbindsDispatched : Bool) :
    (releaseOrphan projectId portId goOn unbindsDispatched).run.Calls CleanupCall := by
  refine calls_run_bind (calls_call trivial) ?_
  intro _
  split
  · trivial
  · exact hgoOn

theorem calls_repairPorts (resource : ResourceRecord) (stillAttached ports : List String) :
    (repairPorts codec resource stillAttached ports).run.Calls CleanupCall := by
  induction ports with
  | nil => trivial
  | cons portId rest ih =>
    unfold repairPorts
    split
    · exact ih
    · refine calls_run_bind calls_referencedPorts ?_
      intro attachedNow
      split
      · exact ih
      · refine calls_run_bind (calls_call trivial) ?_
        intro binding
        split
        · split
          · split
            · refine calls_run_bind (calls_call trivial) ?_
              intro unbound
              cases unbound with
              | error e => trivial
              | ok u => exact calls_releaseOrphan ih _
            · exact calls_releaseOrphan ih _
          · exact ih
        · exact ih

theorem calls_repairServers (stillAttached : List String) (rows : List ResourceRecord) :
    (repairServers codec stillAttached rows).run.Calls CleanupCall := by
  induction rows with
  | nil => trivial
  | cons resource rest ih =>
    unfold repairServers
    split
    · exact ih
    · split
      · exact ih
      · refine calls_run_bind (calls_repairPorts _ _ _) ?_
        intro goOn
        split
        · exact ih
        · trivial

theorem calls_repairOrphanedServerEndpointsLocked :
    (repairOrphanedServerEndpointsLocked codec).run.Calls CleanupCall := by
  refine calls_run_bind (calls_call trivial) ?_
  intro listed
  cases listed with
  | error e => trivial
  | ok rows => exact calls_run_bind calls_referencedPorts (fun _ => calls_repairServers _ _)

theorem calls_orphanRepairPass (coordinated : Bool) :
    (orphanRepairPass codec coordinated).run.Calls CleanupCall := by
  cases coordinated with
  | false => exact calls_repairOrphanedServerEndpointsLocked
  | true =>
    refine calls_run_bind (calls_call trivial) ?_
    intro lease
    cases lease with
    | acquired =>
      refine calls_run_bind
        (Calls.bind calls_repairOrphanedServerEndpointsLocked (fun _ => trivial)) ?_
      intro result
      exact calls_run_bind (calls_call trivial) (fun _ => trivial)
    | busy => trivial
    | failed => trivial

theorem calls_validatePorts (ports : List String) : (validatePorts ports).run.Calls CreateCall := by
  induction ports with
  | nil => trivial
  | cons portId rest ih =>
    refine calls_run_bind (calls_call trivial) ?_
    intro found
    cases found with
    | error e => trivial
    | ok u => exact ih

theorem calls_validateAndPersist (ports : List String) (write : IntentWrite) :
    (validateAndPersist ports write).run.Calls CreateCall := by
  refine calls_run_bind (calls_validatePorts ports) ?_
  intro _
  refine calls_run_bind (calls_call trivial) ?_
  intro persisted
  cases persisted with
  | error e => trivial
  | ok u => trivial

theorem calls_projectFailedCreateError
    (hget : ∀ id, K (.getResource id)) (hupdate : ∀ projection, K (.updateResource projection))
    (resourceId : Uuid) :
    (projectFailedCreateError resourceId).run.Calls K := by
  refine calls_run_bind (calls_call (hget resourceId)) ?_
  intro found
  cases found with
  | error e => trivial
  | ok resource =>
    dsimp only
    split
    · trivial
    · refine calls_run_bind (calls_call (hupdate _)) ?_
      intro updated
      cases updated with
      | error e => trivial
      | ok u => trivial

theorem calls_settleCreate (serverId operationId : Uuid) :
    (settleCreate serverId operationId).run.Calls CreateCall := by
  refine calls_run_bind (calls_call trivial) ?_
  intro reconciled
  cases reconciled with
  | error e => trivial
  | ok state =>
    dsimp only
    split
    · exact calls_run_bind
        (calls_projectFailedCreateError (fun _ => trivial) (fun _ => trivial) serverId)
        (fun _ => trivial)
    · trivial

theorem calls_projectCreate (projectId : String) (succeeded : Bool) (ports : List String)
    (hK : ∀ portId, K (.projectCreateOutcome projectId portId succeeded)) :
    (projectCreate projectId succeeded ports).run.Calls K := by
  induction ports with
  | nil => trivial
  | cons portId rest ih => exact calls_run_bind (calls_call (hK portId)) (fun _ => ih)

end Calls

section Mutex

/-- What the others leave to the holder of a mutex. -/
def KeepsHeld (who : Attempt) (s s' : EndpointWorld) : Prop :=
  s.repairLocks who.1 = some who → s'.repairLocks who.1 = some who

/-- An attempt locks and unlocks for itself, and makes the calls that are not
free as the holder of the mutex of its process. -/
def Holds (who : Attempt) (c : EndpointCall) (_ : EndpointAnswer) (s : EndpointWorld) : Prop :=
  match c with
  | .lockRepair who' => who' = who
  | .unlockRepair who' => who' = who
  | c => Free c ∨ s.repairLocks who.1 = some who

variable {who : Attempt} {c : EndpointCall} {x : EndpointAnswer} {s : EndpointWorld}

theorem Holds.of_held (hheld : s.repairLocks who.1 = some who) (hc : ¬ Locking c) :
    Holds who c x s := by
  cases c <;> first | exact Or.inr hheld | exact absurd trivial hc

theorem Holds.held (h : Holds who c x s) (hc : ¬ Free c) : s.repairLocks who.1 = some who := by
  cases c <;> first | exact h.resolve_left id | exact absurd trivial hc

theorem execEndpoint_repairLocks (hc : ¬ Locking c) (x : EndpointAnswer) (s : EndpointWorld) :
    (execEndpoint c x s).2.repairLocks = s.repairLocks := by
  cases c with
  | persistIntent | updateResource =>
    simp only [execEndpoint]
    split <;> rfl
  | lockRepair | unlockRepair => exact absurd trivial hc
  | _ => rfl

theorem keepsHeld_execEndpoint {who' : Attempt} (hne : who' ≠ who) (h : Holds who c x s) :
    KeepsHeld who' s (execEndpoint c x s).2 := by
  intro hheld
  cases c with
  | lockRepair locker =>
    simp only [execEndpoint]
    split
    · rename_i hnone
      have hprocess : who'.1 ≠ locker.1 := by
        intro hsame
        rw [← hsame, hheld] at hnone
        cases hnone
      simpa [Function.update_of_ne hprocess] using hheld
    · exact hheld
  | unlockRepair locker =>
    have hlocker : locker = who := h
    subst hlocker
    simp only [execEndpoint, releaseRepair]
    split
    · rename_i hsome
      have hprocess : who'.1 ≠ locker.1 := by
        intro hsame
        rw [← hsame, hheld] at hsome
        exact hne (Option.some.inj hsome)
      simpa [Function.update_of_ne hprocess] using hheld
    · exact hheld
  | persistIntent | updateResource =>
    simp only [execEndpoint]
    split <;> exact hheld
  | _ => exact hheld

theorem keepsHeld_releaseRepair {who' : Attempt} (hne : who' ≠ who) :
    KeepsHeld who' s (releaseRepair who s) :=
  keepsHeld_execEndpoint (c := .unlockRepair who) (x := .plain) hne rfl

end Mutex

section Disciplined

variable (codec : IntentCodec) (who : Attempt)

/-- An attempt survives among others that leave it the mutex. -/
abbrev Keeping (p : Program EndpointCall EndpointReply (Except ComputeError Unit))
    (s : EndpointWorld) : Prop :=
  p.Survives execEndpoint (KeepsHeld who) (fun _ => True) (fun _ _ _ => True) (Holds who)
    (fun _ _ => True) s

/-- The program checks before it acts, is in no window where it does not need
the mutex or makes an intent durable, and otherwise holds the mutex. -/
structure Disciplined
    (p : Program EndpointCall EndpointReply (Except ComputeError Unit)) : Prop where
  checks : ∀ port, ¬ Unchecked ActsOn (Shows codec) port p
  enclosed : ∀ port, Enclosed ActsOn (Shows codec) Outside port p
  keeping : ∀ s, Keeping who p s

variable {codec who}

theorem disciplined_of_calls {p : Program EndpointCall EndpointReply (Except ComputeError Unit)}
    (hacts : p.Calls (fun c => ∀ port, ¬ ActsOn c port))
    (hholds : p.Calls (fun c => ∀ x s, Holds who c x s)) :
    Disciplined codec who p where
  checks port := not_unchecked_of_calls (hacts.mono (fun _ h => h port))
  enclosed port := Enclosed.of_no_act (hacts.mono (fun _ h => h port))
  keeping s := by
    refine Survives.of_calls (fun _ _ _ _ => trivial) ?_ trivial
    exact hholds.mono (fun _ h s x _ _ _ => ⟨h x s, trivial, trivial⟩)

/-- A free call, and a program that is disciplined whatever it replies. -/
theorem disciplined_call {c : EndpointCall}
    {next : EndpointReply c → Program EndpointCall EndpointReply (Except ComputeError Unit)}
    (hacts : ∀ port, ¬ ActsOn c port) (hholds : ∀ x s, Holds who c x s)
    (hnext : ∀ r, Disciplined codec who (next r)) :
    Disciplined codec who (.call c next) := by
  have hchecks : ∀ port, ¬ Unchecked ActsOn (Shows codec) port (.call c next) := by
    rintro port (hact | ⟨r, _, hr⟩)
    · exact hacts port hact
    · exact (hnext r).checks port hr
  refine ⟨hchecks, ?_, ?_⟩
  · exact fun port => ⟨fun _ => hchecks port, fun r => (hnext r).enclosed port⟩
  · exact fun s s' x _ _ _ => ⟨hholds x s', trivial, (hnext _).keeping _⟩

theorem disciplined_done (a : Except ComputeError Unit) :
    Disciplined codec who (.done a) where
  checks _ := id
  enclosed _ := trivial
  keeping _ := trivial

def underRepairLock (who : Attempt) (body : EndpointM Unit) :
    Program EndpointCall EndpointReply (Except ComputeError Unit) :=
  body.run >>= fun result => .call (.unlockRepair who) (fun _ => .done result)

/-- **The mutex encloses a body**. -/
theorem disciplined_withRepairLock {body : EndpointM Unit}
    (hcalls : body.run.Calls (fun c => ¬ Locking c)) (hchecks : ∀ port, Checks codec port body)
    (henclosed : ∀ port, Enclosed ActsOn (Shows codec) Outside port body.run) :
    Disciplined codec who (withRepairLock who body).run := by
  have hunlock :
      ∀ (result : Except ComputeError Unit),
        Disciplined codec who
          (.call (EndpointCall.unlockRepair who) (fun _ => .done result)) :=
    fun result =>
      disciplined_call (fun _ => id) (fun _ _ => rfl) (fun _ => disciplined_done result)
  have hbody :
      ∀ port, ¬ Unchecked ActsOn (Shows codec) port (withRepairLock who body).run := by
    rintro port (hact | ⟨locked, _, hlocked⟩)
    · exact hact
    · cases locked with
      | false => exact hlocked
      | true => exact not_unchecked_bind (hchecks port) (fun r => (hunlock r).checks port) hlocked
  refine ⟨hbody, ?_, ?_⟩
  · refine fun port => ⟨fun _ => hbody port, ?_⟩
    intro locked
    cases locked with
    | false => trivial
    | true =>
      show Enclosed ActsOn (Shows codec) Outside port (underRepairLock who body)
      exact Enclosed.bind (henclosed port) (fun r => (hunlock r).enclosed port)
        (fun r => (hunlock r).checks port)
  · intro s s' x _ _ _
    refine ⟨rfl, trivial, ?_⟩
    by_cases hfree : s'.repairLocks who.1 = none
    · have hheld :
          (execEndpoint (.lockRepair who) x s').2.repairLocks who.1 = some who := by
        simp [execEndpoint, hfree]
      have hlocked : (execEndpoint (.lockRepair who) x s').1 = true := by
        simp [execEndpoint, hfree]
      rw [hlocked]
      show Keeping who (underRepairLock who body) _
      refine Survives.bind (P := fun _ s => s.repairLocks who.1 = some who) ?_ ?_
      · refine Survives.of_calls (fun _ _ h hR => hR h) ?_ hheld
        refine hcalls.mono ?_
        intro c hc s x _ _ hheld
        refine ⟨Holds.of_held hheld hc, trivial, ?_⟩
        rw [execEndpoint_repairLocks hc]
        exact hheld
      · exact fun r s' _ => (hunlock r).keeping s'
    · have hlocked : (execEndpoint (.lockRepair who) x s').1 = false := by
        simp [execEndpoint, hfree]
      rw [hlocked]
      trivial

theorem disciplined_cleanup {body : EndpointM Unit}
    (hcalls : body.run.Calls CleanupCall) (hchecks : ∀ port, Checks codec port body) :
    Disciplined codec who (withRepairLock who body).run := by
  refine disciplined_withRepairLock (hcalls.mono (fun _ h => h.not_locking)) hchecks ?_
  exact fun port => Enclosed.of_calls (hcalls.mono (fun _ h => h.not_outside))

end Disciplined

end Compute
end O3k
