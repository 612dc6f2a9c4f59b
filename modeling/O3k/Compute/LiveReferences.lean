import O3k.Compute.EndpointHolding

/-!
# The ports of live servers

Across processes nothing excludes a create from the window of a cleanup: the
mutex is the process's own, and the lease is taken by the repair pass only.  Nor
does anything keep a state from being written over a deleted row, as a failed
create does that a delete has overtaken.  A port is spared as long as neither
happens to it within such a window.
-/

namespace O3k
namespace Compute

open Semantics Operations

variable {codec : IntentCodec}

variable (who : Attempt)

theorem calls_attachingCreate_body (ports : List String) (write : IntentWrite) :
    (do
      validateAndPersist ports write
      settleCreate write.serverId write.operationId : EndpointM Unit).run.Calls CreateCall :=
  Program.calls_run_bind (calls_validateAndPersist ports write)
    (fun _ => calls_settleCreate _ _)

theorem disciplined_attachingCreate (ports : List String) (write : IntentWrite) :
    Disciplined codec who (attachingCreate who ports write).run := by
  have hcalls := calls_attachingCreate_body ports write
  have hacts := fun port => hcalls.mono (fun _ h => h.not_actsOn port)
  refine disciplined_withRepairLock ?_ ?_ ?_
  · exact hcalls.mono (fun _ h => h.not_locking)
  · exact fun port => not_unchecked_of_calls (hacts port)
  · exact fun port => Enclosed.of_no_act (hacts port)

theorem disciplined_projectFailedCreateError (resourceId : Uuid) :
    Disciplined codec who (projectFailedCreateError resourceId).run := by
  refine disciplined_of_calls ?_ ?_
  · exact calls_projectFailedCreateError (fun _ _ => id) (fun _ _ => id) resourceId
  · exact calls_projectFailedCreateError (fun _ _ _ => Or.inl trivial)
      (fun _ _ _ => Or.inl trivial) resourceId

variable (request : CreateInstanceRequest)

theorem disciplined_unbindPortsFromIntent (operationId : Uuid) :
    Disciplined codec who (unbindPortsFromIntent codec who request operationId).run := by
  refine disciplined_cleanup ?_ ?_
  · refine Program.calls_run_bind (calls_call trivial) ?_
    intro listed
    cases listed with
    | error e => trivial
    | ok rows => exact calls_unbindPorts _ _ _ _
  · intro port
    exact checks_listInstances_bind (fun e => checks_throw _)
      (fun rows hport => checks_unbindPorts hport _ _ _)

theorem calls_releaseServerEndpoints_body :
    (do
      let attached ← referencedPorts codec
      releasePorts attached request.projectId request.networkIds :
        EndpointM Unit).run.Calls CleanupCall :=
  Program.calls_run_bind calls_referencedPorts (fun _ => calls_releasePorts _ _ _)

theorem calls_projectDelete_body (operationId : Uuid) :
    (do
      let attached ← referencedPorts codec
      projectDelete attached request.projectId operationId request.networkIds :
        EndpointM Unit).run.Calls CleanupCall :=
  Program.calls_run_bind calls_referencedPorts (fun _ => calls_projectDelete _ _ _ _)

theorem disciplined_projectOutcome
    (operation : OperationRecord) (state : OperationState) (request : CreateInstanceRequest) :
    Disciplined codec who (projectOutcome codec who operation state request).run := by
  unfold projectOutcome
  split
  · exact disciplined_cleanup (calls_projectDelete_body request operation.id)
      (fun port => checks_referencedPorts_bind (fun _ h => checks_projectDelete h _ _ _))
  · split
    · refine disciplined_of_calls ?_ ?_
      · exact calls_projectCreate _ _ _ (fun _ _ => id)
      · exact calls_projectCreate _ _ _ (fun _ _ _ => Or.inl trivial)
    · exact disciplined_done _

theorem disciplined_projectTerminalBindingOutcome (operationId : Uuid) (state : OperationState) :
    Disciplined codec who (projectTerminalBindingOutcome codec who operationId state).run := by
  refine disciplined_call (fun _ => id) (fun _ _ => Or.inl trivial) ?_
  intro operation
  cases operation with
  | error e => exact disciplined_done _
  | ok operation =>
    refine disciplined_call (fun _ => id) (fun _ _ => Or.inl trivial) ?_
    intro resource
    cases resource with
    | error e => exact disciplined_done _
    | ok resource =>
      simp only [Program.bind, Function.comp_apply, ExceptT.bindCont]
      cases codec.parse resource.desiredState with
      | none => exact disciplined_done _
      | some request => exact disciplined_projectOutcome _ _ _ _

theorem disciplined_endpointProgram (task : EndpointTask) :
    Disciplined codec who (endpointProgram codec who task) := by
  cases task with
  | repairPass coordinated =>
    exact disciplined_cleanup (calls_orphanRepairPass coordinated)
      (fun port => checks_orphanRepairPass coordinated)
  | unbindReplay request operationId =>
    exact disciplined_unbindPortsFromIntent who request operationId
  | releaseReplay request =>
    exact disciplined_cleanup (calls_releaseServerEndpoints_body request)
      (fun port => checks_referencedPorts_bind (fun _ h => checks_releasePorts h _ _))
  | terminalProjection operationId state =>
    exact disciplined_projectTerminalBindingOutcome who operationId state
  | create ports write => exact disciplined_attachingCreate who ports write
  | failedCreate resourceId => exact disciplined_projectFailedCreateError who resourceId

section Runs

/-- No server that is not deleted refers to the port. -/
def Unreferenced (codec : IntentCodec) (port : String) (s : EndpointWorld) : Prop :=
  ¬ Referenced codec s.tables port

/-- The attempt has been shown the port without a reference and is not done
with it. -/
abbrev InPortWindow (codec : IntentCodec) (w : Endpoints) (id : Attempt) (port : String) : Prop :=
  w.InWindow ActsOn (Shows codec) id port

/-- An intent that is made durable names no port that an attempt of another
process is in its window for, and no row comes to refer to a port that an
attempt is in its window for. -/
def ClearOfWindows (codec : IntentCodec) (w : Endpoints) : EndpointEvent → Prop
  | .answer id _ =>
    (∀ write, w.Calling id (.persistIntent write) → ∀ port ∈ write.ports codec,
      ∀ id', id'.1 ≠ id.1 → ¬ InPortWindow codec w id' port) ∧
    (∀ projection, w.Calling id (.updateResource projection) →
      ∀ row, Projects w.store.tables projection row →
        ∀ port, Revives codec row (row.projected projection) port →
          ∀ id', ¬ InPortWindow codec w id' port)
  | .other e =>
    ∀ row, w.store.tables.resources.get? e.id = some row →
      ∀ port, Revives codec row (ResourceRecord.recorded row e.state) port →
        ∀ id', ¬ InPortWindow codec w id' port
  | _ => True

variable {w : Endpoints}

/-- A port that is unbound or released is not referred to at that moment. -/
def SparesReferenced (codec : IntentCodec) (w : Endpoints) : EndpointEvent → Prop :=
  w.Within (fun _ _ _ => True)
    (fun _ c _ s => ∀ port, ActsOn c port → Unreferenced codec port s)
    (fun _ _ => True)

theorem shows_unreferenced
    (c : EndpointCall) (x : EndpointAnswer) (s : EndpointWorld) (port : String)
    (h : Shows codec c (execEndpoint c x s).1 port) :
    Unreferenced codec port (execEndpoint c x s).2 := by
  cases c with
  | listInstances =>
    simp only [execEndpoint, EndpointAnswer.read] at h
    split at h
    · exact h.elim
    · exact h
  | _ => exact h.elim

theorem unreferenced_execEndpoint {c : EndpointCall} {x : EndpointAnswer} {s : EndpointWorld}
    {port : String} (hbefore : Unreferenced codec port s)
    (hpersist : ∀ write, c = .persistIntent write → port ∉ write.ports codec)
    (hupdate :
      ∀ projection, c = .updateResource projection →
        ∀ row, Projects s.tables projection row →
          ¬ Revives codec row (row.projected projection) port) :
    Unreferenced codec port (execEndpoint c x s).2 := by
  cases c with
  | persistIntent write =>
    simp only [execEndpoint]
    split
    · exact hbefore
    · intro hafter
      rcases referenced_exec hafter with hport | hreferenced
      · exact hpersist write rfl hport
      · exact hbefore hreferenced
  | updateResource projection =>
    simp only [execEndpoint]
    split
    · exact hbefore
    · exact fun hafter =>
        hbefore (referenced_projectResource (hupdate projection rfl) hafter)
  | lockRepair who =>
    simp only [execEndpoint]
    split <;> exact hbefore
  | unlockRepair who =>
    simp only [execEndpoint, releaseRepair]
    split <;> exact hbefore
  | _ => exact hbefore

abbrev EndpointsOnCourse (w : Endpoints) : Prop :=
  w.OnCourse execEndpoint KeepsHeld (fun _ => True) (fun _ _ _ _ => True) Holds
    (fun _ _ _ => True)

structure Orderly (codec : IntentCodec) (w : Endpoints) : Prop where
  course : EndpointsOnCourse w
  enclosed :
    ∀ id p, w.attempts id = some p → ∀ port, Enclosed ActsOn (Shows codec) Outside port p

theorem orderly_idle (s : EndpointWorld) : Orderly codec (Crowd.idle s) :=
  ⟨Crowd.onCourse_idle trivial, (fun _ _ h => by cases h)⟩

theorem Orderly.step (h : Orderly codec w) (e : EndpointEvent) :
    Orderly codec (endpointStep codec w e) where
  course := by
    refine Crowd.OnCourse.step (S := fun _ _ _ => True) (E := fun _ _ => True)
      (fun _ _ h => h) (fun _ _ _ _ h h' hheld => h' (h hheld)) (fun _ _ _ _ _ _ => trivial)
      ?_ ?_ ?_ ?_ h.course ?_
    · exact fun id task s _ _ => (disciplined_endpointProgram id task).keeping s
    · exact fun id id' c x s hne _ _ hA => keepsHeld_execEndpoint hne hA
    · exact fun id s _ => ⟨trivial, fun id' hne => keepsHeld_releaseRepair hne⟩
    · exact fun e s _ _ => ⟨trivial, fun _ hheld => hheld⟩
    · cases e with
      | answer id x => exact fun _ _ => trivial
      | start | crash | other => trivial
  enclosed id p hp port :=
    Crowd.hereditary_step (K := fun _ p => Enclosed ActsOn (Shows codec) Outside port p)
      (fun _ => hereditary_enclosed)
      (fun id task => (disciplined_endpointProgram id task).enclosed port)
      (fun id p hp => h.enclosed id p hp port) e id p hp

/-- **An attempt in a window holds the mutex of its process.** -/
theorem Orderly.held_of_inWindow
    (h : Orderly codec w) {id : Attempt} {port : String} (hwindow : InPortWindow codec w id port) :
    w.store.repairLocks id.1 = some id := by
  obtain ⟨p, hp, hunchecked⟩ := hwindow
  cases p with
  | done a => exact hunchecked.elim
  | call c next =>
    have hfree : ¬ Free c := fun hfree => (h.enclosed id _ hp port).1 (Or.inl hfree) hunchecked
    have howes := (h.course.owes (x := .plain) (fun _ _ h => h) ⟨next, hp⟩ trivial).1
    exact Holds.held howes hfree

/-- A create of the same process makes no intent durable in a window. -/
theorem Orderly.process_ne (h : Orderly codec w) {id id' : Attempt} {write : IntentWrite}
    (hcalling : w.Calling id (.persistIntent write)) {port : String}
    (hwindow : InPortWindow codec w id' port) :
    id'.1 ≠ id.1 := by
  intro hprocess
  have hheld := h.held_of_inWindow hwindow
  have howes := (h.course.owes (x := .plain) (fun _ _ h => h) hcalling trivial).1
  have hheld' : w.store.repairLocks id.1 = some id := Holds.held howes not_false
  rw [hprocess, hheld'] at hheld
  cases Option.some.inj hheld
  obtain ⟨next, hnext⟩ := hcalling
  obtain ⟨p, hp, hunchecked⟩ := hwindow
  rw [hnext] at hp
  cases hp
  exact (h.enclosed id _ hnext port).1 (Or.inr trivial) hunchecked

/-- **One event** that is clear of windows leaves the ports in windows without
a reference. -/
theorem Orderly.windowsOpen_step {e : EndpointEvent}
    (h : Orderly codec w) (hopen : w.WindowsOpen ActsOn (Shows codec) (Unreferenced codec))
    (hclear : ClearOfWindows codec w e) :
    (endpointStep codec w e).WindowsOpen ActsOn (Shows codec) (Unreferenced codec) := by
  refine Crowd.WindowsOpen.step
    (fun id task port => (disciplined_endpointProgram id task).checks port)
    shows_unreferenced hopen ?_
  intro id' port hwindow hunreferenced
  cases e with
  | start id task =>
    simp only [Crowd.step]
    split <;> exact hunreferenced
  | answer id x =>
    simp only [Crowd.step]
    split
    · rename_i c next hattempt
      refine unreferenced_execEndpoint hunreferenced ?_ ?_
      · rintro write rfl hport
        have hcalling : w.Calling id (.persistIntent write) := ⟨next, hattempt⟩
        exact hclear.1 write hcalling port hport id' (h.process_ne hcalling hwindow) hwindow
      · rintro projection rfl row hrow hrevives
        exact hclear.2 projection ⟨next, hattempt⟩ row hrow port hrevives id' hwindow
    · exact hunreferenced
  | crash id =>
    simp only [Crowd.step]
    split
    · simp only [releaseRepair]
      split <;> exact hunreferenced
    · exact hunreferenced
  | other e =>
    refine fun hafter => hunreferenced (referenced_recordState ?_ hafter)
    exact fun row hrow hrevives => hclear row hrow port hrevives id' hwindow

/-- **The ports of live servers are spared** in every run, from any store, in
which, while a cleanup is between its list and its calls for a port, no create
of another process makes an intent durable that names the port and no row comes
to refer to it. -/
theorem live_references_spared
    (codec : IntentCodec) (s : EndpointWorld) (events : List EndpointEvent)
    (hclear : EachStep (endpointStep codec) (ClearOfWindows codec) (Crowd.idle s) events) :
    EachStep (endpointStep codec) (SparesReferenced codec) (Crowd.idle s) events := by
  refine eachStep_of_guarded
    (I := fun w => Orderly codec w ∧ w.WindowsOpen ActsOn (Shows codec) (Unreferenced codec))
    ?_ ?_ _ _ ⟨orderly_idle s, ?_⟩ hclear
  · rintro w e ⟨horderly, hopen⟩ hclear
    exact ⟨horderly.step e, horderly.windowsOpen_step hopen hclear⟩
  · rintro w e ⟨_, hopen⟩ _
    cases e with
    | answer id x => exact fun c hcalling port hact => hopen.open_of_act hcalling hact
    | start | crash | other => trivial
  · rintro id port ⟨p, hp, _⟩
    cases hp

end Runs

/-- The calls that can make a reference. -/
def Refers : EndpointCall → Prop
  | .persistIntent _ => True
  | .updateResource _ => True
  | _ => False

theorem clearOfWindows_of_not_refers {w : Endpoints} {e : EndpointEvent}
    (h : w.Within (fun _ _ _ => True) (fun _ c _ _ => ¬ Refers c) (fun _ _ => False) e) :
    ClearOfWindows codec w e := by
  cases e with
  | answer id x =>
    exact ⟨fun _ hcalling => absurd trivial (h _ hcalling),
      fun _ hcalling => absurd trivial (h _ hcalling)⟩
  | start | crash => trivial
  | other => exact h.elim

instance : DecidablePred Refers := fun c =>
  match c with
  | .persistIntent _ | .updateResource _ => isTrue trivial
  | .lockRepair _ | .unlockRepair _ | .acquireLease | .releaseLease | .listInstances
  | .getOperation _ | .getResource _ | .portBinding _ _ | .projectCreateOutcome _ _ _
  | .getPort _ | .unbindPort _ _ _ | .releaseServerOwnedEndpoint _ _ | .reconcileOnce _ =>
    isFalse id

instance decidableActsOnAll (P : String → Prop) [DecidablePred P] :
    (c : EndpointCall) → Decidable (∀ port, ActsOn c port → P port)
  | .unbindPort _ portId _ => decidable_of_iff (P portId) ⟨fun h _ e => e ▸ h, fun h => h _ rfl⟩
  | .releaseServerOwnedEndpoint _ portId =>
    decidable_of_iff (P portId) ⟨fun h _ e => e ▸ h, fun h => h _ rfl⟩
  | .lockRepair _ | .unlockRepair _ | .acquireLease | .releaseLease | .listInstances
  | .getOperation _ | .getResource _ | .portBinding _ _ | .projectCreateOutcome _ _ _
  | .getPort _ | .persistIntent _ | .reconcileOnce _ | .updateResource _ =>
    isTrue (fun _ h => h.elim)

instance (codec : IntentCodec) (port : String) : DecidablePred (Unreferenced codec port) :=
  fun _ => inferInstanceAs (Decidable (¬ _))

instance (codec : IntentCodec) (w : Endpoints) : DecidablePred (SparesReferenced codec w) :=
  fun _ => inferInstanceAs (Decidable (Crowd.Within _ _ _ _ _))

section Samples

def sampleIntent (serverId portId : String) : CreateInstanceRequest :=
  { operationId := s!"create of {serverId}"
    o3kServerId := serverId
    projectId := "project-1"
    networkIds := [portId]
    placementProviderId := none
    placementAllocationId := none
    keypairId := none
    idempotencyKey := serverId }

def sampleText (request : CreateInstanceRequest) : String :=
  request.o3kServerId ++ " attaches " ++ String.intercalate ", " request.networkIds

/-- The intents that occur, under texts that tell them apart. -/
def sampleCodec : IntentCodec where
  render := sampleText
  parse text :=
    [sampleIntent "old" "port-1", sampleIntent "new" "port-1", sampleIntent "new" "port-2"].find?
      (fun request => text = sampleText request)
  newV5 name := name
  displayStore _ := "database error"

/-- The server `old` is deleted; its intent still names `port-1`. -/
def sampleEndpointWorld : EndpointWorld :=
  { tables := OperationTables.empty.putResource
      { createRow sampleCodec "project-1" (sampleIntent "old" "port-1") with
        observedState := stateDeleted }
    repairLocks := fun _ => none }

def sampleWrite (portId : String) : IntentWrite :=
  .insert (createRow sampleCodec "project-1" (sampleIntent "new" portId))
    (createOperation "create of new" "new") none

/-- A create of the server `new`, which attaches the port. -/
def sampleCreate (portId : String) : EndpointTask := .create [portId] (sampleWrite portId)

/-- The network has the endpoint, which no host uses. -/
def unboundEndpoint : EndpointAnswer :=
  { EndpointAnswer.plain with binding := some ⟨true, none⟩ }

/-- Process 1 repairs and is about to release `port-1`, when process 2 makes
a server durable that attaches it. -/
def createWithinRepair : List EndpointEvent :=
  .start (1, 0) (.repairPass true) ::
    List.replicate 6 (.answer (1, 0) unboundEndpoint) ++
    .start (2, 0) (sampleCreate "port-1") ::
    List.replicate 3 (.answer (2, 0) .plain) ++
    [.answer (1, 0) .plain]

/-- **The repair releases the port of a live server**: the mutex of one process
and the lease of the repair do not hold up a create of another process. -/
theorem repair_releases_live_port :
    ¬ EachStep (endpointStep sampleCodec) (SparesReferenced sampleCodec)
      (Crowd.idle sampleEndpointWorld) createWithinRepair := by
  decide +kernel

def failed : EndpointAnswer :=
  { EndpointAnswer.plain with outcome := .failed }

/-- A create of `new` on `port-1` fails in process 2, a delete ends it, and
process 1 is about to unbind the port, when the create writes its `ERROR`. -/
def errorWithinUnbind : List EndpointEvent :=
  .start (2, 0) (sampleCreate "port-1") ::
    List.replicate 3 (.answer (2, 0) .plain) ++
    [.answer (2, 0) failed,
      .other ⟨"new", stateDeleted⟩,
      .start (1, 0) (.unbindReplay (sampleIntent "new" "port-1") "delete of new"),
      .answer (1, 0) .plain,
      .answer (1, 0) .plain,
      .answer (2, 0) .plain,
      .answer (2, 0) .plain,
      .answer (1, 0) .plain]

example :
    ¬ EachStep (endpointStep sampleCodec) (SparesReferenced sampleCodec)
      (Crowd.idle sampleEndpointWorld) errorWithinUnbind := by
  decide +kernel

/-- The unbind replay of `old` in process 1, and a create in process 2 that
attaches another port and fails, each within the other. -/
def createBesideUnbind : List EndpointEvent :=
  [.start (1, 0) (.unbindReplay (sampleIntent "old" "port-1") "delete of old"),
    .answer (1, 0) .plain,
    .answer (1, 0) .plain,
    .start (2, 0) (sampleCreate "port-2"),
    .answer (2, 0) .plain,
    .answer (2, 0) .plain,
    .answer (2, 0) .plain,
    .answer (2, 0) failed,
    .answer (2, 0) .plain,
    .answer (2, 0) .plain,
    .other ⟨"new", stateDeleted⟩,
    .answer (1, 0) .plain]

theorem attempts_answer_of_ne {w : Endpoints} {id id' : Attempt}
    (hne : id' ≠ id) (x : EndpointAnswer) :
    (endpointStep codec w (.answer id x)).attempts id' = w.attempts id' := by
  simp only [endpointStep, Crowd.step]
  split
  · exact Function.update_of_ne hne _ _
  · rfl

theorem attempts_start_of_ne {w : Endpoints} {id id' : Attempt}
    (hne : id' ≠ id) (task : EndpointTask) :
    (endpointStep codec w (.start id task)).attempts id' = w.attempts id' := by
  simp only [endpointStep, Crowd.step]
  split
  · rfl
  · exact Function.update_of_ne hne _ _

theorem create_beside_unbind_spares :
    EachStep (endpointStep sampleCodec) (SparesReferenced sampleCodec)
      (Crowd.idle sampleEndpointWorld) createBesideUnbind := by
  refine live_references_spared _ _ _ ?_
  refine ⟨trivial, clearOfWindows_of_not_refers (by decide +kernel),
    clearOfWindows_of_not_refers (by decide +kernel), trivial,
    clearOfWindows_of_not_refers (by decide +kernel),
    clearOfWindows_of_not_refers (by decide +kernel), ⟨?_, ?_⟩,
    clearOfWindows_of_not_refers (by decide +kernel),
    clearOfWindows_of_not_refers (by decide +kernel), ⟨?_, ?_⟩, ?_,
    clearOfWindows_of_not_refers (by decide +kernel), trivial⟩
  · rintro write ⟨next, hcalling⟩ port hport id hprocess ⟨p, hp, hunchecked⟩
    have hports : (sampleWrite "port-2").ports sampleCodec = ["port-2"] := by decide +kernel
    have hnamed : port = "port-2" := by
      have hwrite : write = sampleWrite "port-2" := by
        cases hcalling
        rfl
      rw [hwrite, hports] at hport
      exact List.mem_singleton.mp hport
    by_cases hid : id = (1, 0)
    · subst hid
      cases hp
      rcases hunchecked with hact | ⟨r, _, hrest⟩
      · exact absurd (hact.trans hnamed) (by decide)
      · cases r with
        | error e => rcases hrest with h | ⟨_, _, h⟩ <;> exact h
        | ok u => rcases hrest with h | ⟨_, _, h⟩ <;> exact h
    · have hother : id ≠ (2, 0) := fun h => hprocess (congrArg Prod.fst h)
      rw [attempts_answer_of_ne hother, attempts_answer_of_ne hother,
        attempts_start_of_ne hother, attempts_answer_of_ne hid, attempts_answer_of_ne hid,
        attempts_start_of_ne hid] at hp
      cases hp
  · rintro projection ⟨next, hcalling⟩
    cases hcalling
  · rintro write ⟨next, hcalling⟩
    cases hcalling
  · rintro projection ⟨next, hcalling⟩ row hrow port hrevives
    cases hcalling
    have hget := hrow.get
    cases hget
    exact absurd hrevives (not_revives_of_live (by decide +kernel) rfl port)
  · rintro row _ port ⟨_, hport⟩
    exact absurd hport (by simp [rowPorts, ResourceRecord.recorded])

end Samples

end Compute
end O3k
