import O3k.Attachments.Workflow

/-!
# The reconciliation of a record keeps to the record

Every statement made for a record names the record, and so does every row read
for it.  What its reconciliation does therefore depends on its own row, on
whether it is in flight, on the calls made for it and on the resources, which no
reconciliation changes.
-/

namespace O3k
namespace Attachments

open Relational Operations Semantics Program

/-- The call names no record but `id`. -/
def Concerns (id : Uuid) : AttachmentCall → Prop
  | .enterFlight i | .leaveFlight i | .getVolumeAttachmentById i => i = id
  | .updatePhase i _ _ | .updateOutcome i _ _ => i = id
  | _ => True

def FoundById : (c : AttachmentCall) → AttachmentReply c → Prop
  | .getVolumeAttachmentById id, r => ∀ row, r = .ok (some row) → row.id = id
  | _, _ => True

/-- The method names no record but `id`. -/
def KeepsTo {α : Type} (id : Uuid) (p : Orchestrated α) : Prop :=
  p.run.CallsGiven FoundById (Concerns id)

section Rules

variable {id : Uuid} {α β : Type}

theorem keepsTo_require (r : Except ComputeError α) : KeepsTo id (require r) := trivial

theorem keepsTo_ask {c : AttachmentCall} (hc : Concerns id c) : KeepsTo id (ask c) :=
  ⟨hc, fun _ _ => trivial⟩

variable {p : Orchestrated α}

theorem KeepsTo.bind {f : α → Orchestrated β} (hp : KeepsTo id p) (hf : ∀ a, KeepsTo id (f a)) :
    KeepsTo id (p >>= f) :=
  callsGiven_run_bind hp hf

theorem KeepsTo.attempt (hp : KeepsTo id p) : KeepsTo id (attempt p) :=
  CallsGiven.bind hp (fun _ => trivial)

theorem keepsTo_given (r : Except StoreError α) : KeepsTo id (given r) := by
  cases r <;> trivial

variable {f : VolumeAttachmentRecord → Orchestrated β}

theorem keepsTo_orNotFound_bind {row : Option VolumeAttachmentRecord}
    (hf : ∀ r, row = some r → KeepsTo id (f r)) :
    KeepsTo id (orNotFound row >>= f) := by
  cases row with
  | none => trivial
  | some r => exact hf r rfl

theorem keepsTo_getById_bind {f : Option VolumeAttachmentRecord → Orchestrated β}
    (hf : ∀ row, (∀ r, row = some r → r.id = id) → KeepsTo id (f row)) :
    KeepsTo id (getById id >>= f) := by
  refine ⟨rfl, ?_⟩
  intro reply hreply
  cases reply with
  | error e => trivial
  | ok row =>
    refine hf row ?_
    rintro r rfl
    exact hreply r rfl

theorem keepsTo_found_bind (hf : ∀ r, r.id = id → KeepsTo id (f r)) :
    KeepsTo id (getById id >>= fun row => orNotFound row >>= f) :=
  keepsTo_getById_bind fun _ hrow => keepsTo_orNotFound_bind fun r hr => hf r (hrow r hr)

theorem keepsTo_setPhase (status : AttachmentStatus) (error : Option String) :
    KeepsTo id (setPhase id status error) :=
  (keepsTo_ask (by exact rfl)).bind fun r => (keepsTo_given r).bind fun _ => trivial

theorem keepsTo_setOutcome (status : AttachmentStatus) (outcome : AttachmentOutcome) :
    KeepsTo id (setOutcome id status outcome) :=
  (keepsTo_ask (by exact rfl)).bind fun r => (keepsTo_given r).bind fun _ => trivial

theorem keepsTo_projectForServer (serverId : Uuid) : KeepsTo id (projectForServer serverId) :=
  (keepsTo_ask (by trivial)).bind fun r => (keepsTo_given r).bind fun _ => trivial

theorem KeepsTo.withFlight (hp : KeepsTo id p) : KeepsTo id (withFlight id p) :=
  (keepsTo_ask (by exact rfl)).bind fun _ => hp.attempt.bind fun r =>
    (keepsTo_ask (by exact rfl)).bind fun _ => keepsTo_require r

theorem getD_id {row : Option VolumeAttachmentRecord} {record : VolumeAttachmentRecord}
    (hrow : ∀ r, row = some r → r.id = record.id) :
    (row.getD record).id = record.id := by
  cases row with
  | none => rfl
  | some r => exact hrow r rfl

end Rules

section Methods

variable (cinder : Bool) {id : Uuid}

theorem keepsTo_compensateAfterCreate
    (projectId : String) (cinderAttachmentId : Option String) (reason : String) :
    KeepsTo id (compensateAfterCreate cinder projectId id cinderAttachmentId reason) := by
  unfold compensateAfterCreate
  split
  · refine (keepsTo_ask (by trivial)).bind fun r => ?_
    cases r with
    | ok u => exact keepsTo_setPhase _ _
    | error e => exact keepsTo_setPhase _ _
  · exact keepsTo_setPhase _ _

theorem keepsTo_compensateAfterAttach
    (projectId : String) (cinderAttachmentId : Option String) (serverId : Uuid)
    (device : BlockDeviceAttachment) (reason : String) :
    KeepsTo id
      (compensateAfterAttach cinder projectId id cinderAttachmentId serverId device reason) :=
  (keepsTo_ask (by trivial)).bind fun _ => keepsTo_compensateAfterCreate cinder _ _ _

theorem keepsTo_observeBeforeCompensate
    (projectId : String) (volumeId : String) (cinderAttachmentId : Option String)
    (reason : String) :
    KeepsTo id
      (observeBeforeCompensate cinder projectId id volumeId cinderAttachmentId reason) := by
  unfold observeBeforeCompensate
  cases cinderAttachmentId with
  | none =>
    cases cinder with
    | false => trivial
    | true =>
      refine (keepsTo_ask (by trivial)).bind fun r => ?_
      cases r with
      | error e => exact keepsTo_setPhase _ _
      | ok attachments =>
        show KeepsTo id (if _ then _ else _)
        split <;> exact keepsTo_setPhase _ _
  | some cinderAttachmentId =>
    cases cinder with
    | false => trivial
    | true =>
      refine (keepsTo_ask (by trivial)).bind fun r => ?_
      cases r with
      | error e => exact keepsTo_setPhase _ _
      | ok attachment =>
        show KeepsTo id (if _ then _ else _)
        split
        · exact keepsTo_setPhase _ _
        · exact keepsTo_compensateAfterCreate true _ _ _

theorem keepsTo_unknownOr {unknownOutcome : Bool} {reason : String} {compensate : Orchestrated Unit}
    (h : KeepsTo id compensate) :
    KeepsTo id (unknownOr unknownOutcome id reason compensate) := by
  unfold unknownOr
  split
  · exact keepsTo_setPhase _ _
  · exact h

theorem keepsTo_targetOr {info : Option ConnectionInfo} {missing malformed : String}
    {compensate : String → Orchestrated Unit} (h : ∀ reason, KeepsTo id (compensate reason)) :
    KeepsTo id (targetOr info missing malformed compensate) := by
  unfold targetOr
  split
  · exact (h _).bind fun _ => trivial
  · split
    · exact (h _).bind fun _ => trivial
    · exact (keepsTo_require _).bind fun _ => trivial

variable (projectId : String) (record : VolumeAttachmentRecord)

theorem keepsTo_obtainCinderAttachment :
    KeepsTo record.id (obtainCinderAttachment cinder projectId record) := by
  unfold obtainCinderAttachment
  split
  · trivial
  · refine (keepsTo_setPhase _ _).bind fun _ => (keepsTo_ask (by trivial)).bind fun r => ?_
    cases r with
    | ok attachment => exact (keepsTo_setOutcome _ _).bind fun _ => trivial
    | error e =>
      exact (keepsTo_unknownOr (keepsTo_observeBeforeCompensate cinder _ _ _ _)).bind
        fun _ => trivial

theorem keepsTo_obtainConnector (cinderAttachmentId : String) :
    KeepsTo record.id (obtainConnector cinder projectId cinderAttachmentId record) := by
  unfold obtainConnector
  split
  · trivial
  · refine (keepsTo_setPhase _ _).bind fun _ => (keepsTo_ask (by trivial)).bind fun r => ?_
    cases r with
    | ok connector => exact keepsTo_setOutcome _ _
    | error e => exact (keepsTo_compensateAfterCreate cinder _ _ _).bind fun _ => trivial

theorem keepsTo_prepareConnection (volumeId cinderAttachmentId : String) :
    KeepsTo record.id (prepareConnection cinder projectId volumeId cinderAttachmentId record) := by
  unfold prepareConnection
  split
  · refine (keepsTo_require _).bind fun _ => (keepsTo_ask (by trivial)).bind fun r => ?_
    cases r with
    | error e => trivial
    | ok attachment =>
      exact keepsTo_targetOr fun _ => keepsTo_observeBeforeCompensate cinder _ _ _ _
  · refine (keepsTo_setPhase _ _).bind fun _ => (keepsTo_ask (by trivial)).bind fun r => ?_
    cases r with
    | ok updated =>
      exact keepsTo_targetOr fun _ =>
        (keepsTo_projectForServer _).bind fun _ =>
          keepsTo_observeBeforeCompensate cinder _ _ _ _
    | error e =>
      exact (keepsTo_unknownOr (keepsTo_observeBeforeCompensate cinder _ _ _ _)).bind
        fun _ => trivial

theorem keepsTo_ensureDevice
    (serverId : Uuid) (volumeId cinderAttachmentId : String) (target : AttachmentTarget) :
    KeepsTo record.id
      (ensureDevice cinder projectId serverId volumeId cinderAttachmentId target record) := by
  refine (keepsTo_ask (by trivial)).bind fun observed => ?_
  show KeepsTo record.id (if _ then _ else _)
  split
  · exact keepsTo_setPhase _ _
  · refine (keepsTo_setPhase _ _).bind fun _ => (keepsTo_ask (by trivial)).bind fun r => ?_
    cases r with
    | error e =>
      exact (keepsTo_unknownOr (keepsTo_compensateAfterAttach cinder _ _ _ _ _)).bind
        fun _ => trivial
    | ok observation =>
      show KeepsTo record.id (if _ then _ else _)
      split
      · refine (keepsTo_setPhase _ _).bind fun _ => ?_
        cases observation.devicePath with
        | none => trivial
        | some path => exact keepsTo_setOutcome _ _
      · exact (keepsTo_compensateAfterAttach cinder _ _ _ _ _).bind fun _ => trivial

theorem keepsTo_completeAttach (serverId : Uuid) (cinderAttachmentId : String) :
    KeepsTo record.id (completeAttach cinder projectId serverId cinderAttachmentId record) := by
  unfold completeAttach
  split
  · trivial
  · refine (keepsTo_setPhase _ _).bind fun _ => (keepsTo_ask (by trivial)).bind fun r => ?_
    cases r with
    | ok u => exact keepsTo_setPhase _ _
    | error e =>
      exact (keepsTo_unknownOr (keepsTo_compensateAfterAttach cinder _ _ _ _ _)).bind
        fun _ => trivial

theorem keepsTo_continueAttach : KeepsTo record.id (continueAttach cinder projectId record) := by
  refine KeepsTo.withFlight ?_
  refine (keepsTo_require _).bind fun _ =>
    (keepsTo_obtainCinderAttachment cinder _ _).bind fun cinderAttachmentId =>
      (keepsTo_obtainConnector cinder _ _ _).bind fun _ =>
        keepsTo_getById_bind fun row hrow => ?_
  have hprepared : (row.getD record).id = record.id := getD_id hrow
  refine KeepsTo.bind (hprepared ▸ keepsTo_prepareConnection cinder _ _ _ _)
    fun ⟨info, target⟩ => ?_
  rw [← hprepared]
  refine keepsTo_found_bind fun connecting hconnecting => ?_
  rw [← hconnecting]
  refine (keepsTo_setOutcome _ _).bind fun _ => keepsTo_found_bind fun connected hconnected => ?_
  rw [← hconnected]
  refine (keepsTo_ensureDevice cinder _ _ _ _ _ _).bind fun _ =>
    keepsTo_found_bind fun attached hattached => ?_
  rw [← hattached]
  exact (keepsTo_completeAttach cinder _ _ _ _).bind fun _ =>
    keepsTo_getById_bind fun row _ => by cases row <;> trivial

theorem keepsTo_detachDevice : KeepsTo record.id (detachDevice record) := by
  unfold detachDevice
  split
  · refine (keepsTo_setPhase _ _).bind fun _ => (keepsTo_ask (by trivial)).bind fun r => ?_
    cases r with
    | ok u => exact keepsTo_setPhase _ _
    | error e =>
      show KeepsTo record.id (if _ then _ else _)
      split <;> exact (keepsTo_setPhase _ _).bind fun _ => trivial
  · trivial

theorem keepsTo_terminateCinder : KeepsTo record.id (terminateCinder projectId record) := by
  unfold terminateCinder
  split
  · split
    · trivial
    · refine (keepsTo_setPhase _ _).bind fun _ => (keepsTo_ask (by trivial)).bind fun r => ?_
      cases r with
      | ok u => trivial
      | error e =>
        show KeepsTo record.id (if _ then _ else _)
        split
        · exact (keepsTo_setPhase _ _).bind fun _ => trivial
        · trivial
  · trivial

theorem keepsTo_continueDetach : KeepsTo record.id (continueDetach cinder projectId record) := by
  refine KeepsTo.withFlight ?_
  have hentered : KeepsTo record.id (enterDetach record) := by
    unfold enterDetach
    split
    · trivial
    · exact keepsTo_setPhase _ _
  refine (keepsTo_require _).bind fun _ => hentered.bind fun _ =>
    keepsTo_getById_bind fun row hrow => ?_
  rw [← getD_id hrow]
  refine (keepsTo_detachDevice _).bind fun _ => keepsTo_getById_bind fun row' hrow' => ?_
  rw [← getD_id hrow']
  refine (keepsTo_terminateCinder _ _).bind fun b => ?_
  cases b with
  | false => trivial
  | true => exact keepsTo_setPhase _ _

theorem keepsTo_resumeAttach : KeepsTo record.id (resumeAttach cinder projectId record) := by
  refine keepsTo_getById_bind fun row hrow => ?_
  rw [← getD_id hrow]
  exact (keepsTo_continueAttach cinder _ _).bind fun _ => trivial

theorem keepsTo_reconcileUnknown : KeepsTo record.id (reconcileUnknown cinder record) := by
  unfold reconcileUnknown
  split
  · exact (keepsTo_projectForServer _).bind fun _ =>
      (keepsTo_continueDetach cinder _ _).attempt.bind fun _ => trivial
  · cases cinder with
    | false => exact keepsTo_setPhase _ _
    | true =>
      refine (keepsTo_projectForServer _).bind fun projectId => ?_
      cases record.cinderAttachmentId with
      | none =>
        refine (keepsTo_ask (by trivial)).bind fun r => ?_
        cases r with
        | error e => exact keepsTo_setPhase _ _
        | ok attachments =>
          dsimp only
          cases attachments.find? _ with
          | none => exact keepsTo_setPhase _ _
          | some observed =>
            exact (keepsTo_setOutcome _ _).bind fun _ => keepsTo_resumeAttach true _ _
      | some cinderAttachmentId =>
        refine (keepsTo_ask (by trivial)).bind fun r => ?_
        cases r with
        | error e =>
          cases e
          case notFound =>
            exact (keepsTo_ask (by trivial)).bind fun _ => keepsTo_setPhase _ _
          all_goals exact keepsTo_setPhase _ _
        | ok attachment =>
          show KeepsTo record.id (if _ then _ else if _ then _ else _)
          split
          · exact keepsTo_setPhase _ _
          · split
            · exact (keepsTo_setPhase _ _).bind fun _ => keepsTo_resumeAttach true _ _
            · exact keepsTo_setPhase _ _

theorem keepsTo_reconcileInProgress : KeepsTo record.id (reconcileInProgress cinder record) := by
  refine (keepsTo_projectForServer _).bind fun projectId =>
    keepsTo_getById_bind fun row hrow => ?_
  rw [← getD_id hrow]
  show KeepsTo _ (if _ then _ else _)
  split
  · exact (keepsTo_continueDetach cinder _ _).attempt.bind fun _ => trivial
  · refine (keepsTo_ask (by trivial)).bind fun observed => ?_
    show KeepsTo _ (if _ then _ else _)
    split
    · exact (keepsTo_setPhase _ _).bind fun _ => keepsTo_resumeAttach cinder _ _
    · refine keepsTo_getById_bind fun row' hrow' => ?_
      rw [← getD_id hrow']
      exact (keepsTo_continueAttach cinder _ _).attempt.bind fun _ => trivial

/-- **The reconciliation of a record names no other record.** -/
theorem keepsTo_reconcileRecord : KeepsTo record.id (reconcileRecord cinder record) := by
  unfold reconcileRecord
  split
  · exact keepsTo_reconcileUnknown cinder record
  · exact keepsTo_reconcileInProgress cinder record

end Methods

/-- The row of a record, whether it is in flight, the calls that were made for
it, and the resources. -/
structure RecordView where
  row : Option VolumeAttachmentRecord
  inFlight : Bool
  asked : List AttachmentCall
  resources : Table ResourceRecord.id

def view (id : Uuid) (w : PassWorld) : RecordView where
  row := w.store.attachments.get? id
  inFlight := w.store.inFlight id
  asked := w.asked id
  resources := w.store.resources

namespace AttachmentStore

section Advance

variable
  (w : AttachmentStore) (fault : Option Fault) (id : Uuid)
  (f : VolumeAttachmentRecord → VolumeAttachmentRecord) (hid : ∀ r, (f r).id = r.id)

theorem get?_updateById (i : Uuid) :
    (w.updateById id f hid).attachments.get? i =
      if i = id then (w.attachments.get? i).map f else w.attachments.get? i := by
  have hkey : ∀ r : VolumeAttachmentRecord, (if r.id = id then f r else r).id = r.id := by
    intro r
    split
    · exact hid r
    · rfl
  show (w.attachments.update (fun r => if r.id = id then f r else r) hkey).get? i = _
  rw [Table.get?_update]
  cases hget : w.attachments.get? i with
  | none => simp
  | some r =>
    have hr : r.id = i := w.attachments.key_of_get? hget
    subst hr
    by_cases h : r.id = id
    · simp [h]
    · simp [h]

def carriedOut : Option Fault → Bool
  | some (.refused _) => false
  | _ => true

theorem advance_reply :
    (w.advance fault id f hid).1 =
      received fault (((w.attachments.get? id).map f).elim (.error .resourceNotFound) .ok) := by
  rcases fault with _ | ⟨_ | _⟩
  · simp [advance, received, get?_updateById]
  · rfl
  · rfl

theorem advance_row (i : Uuid) :
    (w.advance fault id f hid).2.attachments.get? i =
      if i = id ∧ carriedOut fault then (w.attachments.get? i).map f
      else w.attachments.get? i := by
  rcases fault with _ | ⟨_ | _⟩ <;> simp [advance, carriedOut, get?_updateById]

@[simp] theorem advance_inFlight : (w.advance fault id f hid).2.inFlight = w.inFlight := by
  rcases fault with _ | ⟨_ | _⟩ <;> rfl

@[simp] theorem advance_resources : (w.advance fault id f hid).2.resources = w.resources := by
  rcases fault with _ | ⟨_ | _⟩ <;> rfl

end Advance

end AttachmentStore

section Exec

variable (x : Answer) (w : AttachmentStore) (id : Uuid) (status : AttachmentStatus)

theorem exec_updatePhase_reply (error : Option String) :
    (exec (.updatePhase id status error) x w).1 =
      received x.fault
        (((w.attachments.get? id).map (·.withPhase status error)).elim
          (.error .resourceNotFound) .ok) :=
  w.advance_reply x.fault id (·.withPhase status error) (fun _ => rfl)

theorem exec_updateOutcome_reply (outcome : AttachmentOutcome) :
    (exec (.updateOutcome id status outcome) x w).1 =
      received x.fault
        (((w.attachments.get? id).map (·.withOutcome status outcome)).elim
          (.error .resourceNotFound) .ok) :=
  w.advance_reply x.fault id (·.withOutcome status outcome) (fun _ => rfl)

theorem exec_updatePhase_row (error : Option String) (i : Uuid) :
    (exec (.updatePhase id status error) x w).2.attachments.get? i =
      if i = id ∧ AttachmentStore.carriedOut x.fault then
        (w.attachments.get? i).map (·.withPhase status error)
      else w.attachments.get? i :=
  w.advance_row x.fault id (·.withPhase status error) (fun _ => rfl) i

theorem exec_updateOutcome_row (outcome : AttachmentOutcome) (i : Uuid) :
    (exec (.updateOutcome id status outcome) x w).2.attachments.get? i =
      if i = id ∧ AttachmentStore.carriedOut x.fault then
        (w.attachments.get? i).map (·.withOutcome status outcome)
      else w.attachments.get? i :=
  w.advance_row x.fault id (·.withOutcome status outcome) (fun _ => rfl) i

theorem exec_updatePhase_inFlight (error : Option String) :
    (exec (.updatePhase id status error) x w).2.inFlight = w.inFlight :=
  w.advance_inFlight x.fault id (·.withPhase status error) (fun _ => rfl)

theorem exec_updateOutcome_inFlight (outcome : AttachmentOutcome) :
    (exec (.updateOutcome id status outcome) x w).2.inFlight = w.inFlight :=
  w.advance_inFlight x.fault id (·.withOutcome status outcome) (fun _ => rfl)

theorem exec_resources (c : AttachmentCall) : (exec c x w).2.resources = w.resources := by
  cases c with
  | updatePhase id status error =>
    exact w.advance_resources x.fault id (·.withPhase status error) (fun _ => rfl)
  | updateOutcome id status outcome =>
    exact w.advance_resources x.fault id (·.withOutcome status outcome) (fun _ => rfl)
  | _ => rfl

end Exec

section Lanes

variable (env : PassAnswers)

/-- A call that names no other record keeps to the view of the record. -/
theorem inLane_about {id : Uuid} {c : AttachmentCall} (hc : Concerns id c) :
    InLane (passExec env) view id (.about id c) := by
  have hview :
      ∀ w w' : PassWorld, view id w = view id w' →
        w.store.attachments.get? id = w'.store.attachments.get? id ∧
          w.store.inFlight id = w'.store.inFlight id ∧
          w.asked id = w'.asked id ∧ w.store.resources = w'.store.resources := by
    intro w w' h
    simp only [view, RecordView.mk.injEq] at h
    exact h
  constructor
  · intro w w' h
    obtain ⟨hrow, hflight, hasked, hresources⟩ := hview w w' h
    show (exec c (env.answers id (w.asked id).length) w.store).1 =
      (exec c (env.answers id (w'.asked id).length) w'.store).1
    rw [← hasked]
    generalize env.answers id (w.asked id).length = x
    cases c with
    | getResource => simp [exec, hresources]
    | getVolumeAttachmentById i =>
      obtain rfl : i = id := hc
      simp [exec, hrow]
    | updatePhase i =>
      obtain rfl : i = id := hc
      rw [exec_updatePhase_reply, exec_updatePhase_reply, hrow]
    | updateOutcome i =>
      obtain rfl : i = id := hc
      rw [exec_updateOutcome_reply, exec_updateOutcome_reply, hrow]
    | _ => rfl
  · intro w w' h
    obtain ⟨hrow, hflight, hasked, hresources⟩ := hview w w' h
    simp only [view, passExec, RecordView.mk.injEq, Function.update_self, hasked, exec_resources]
    generalize env.answers id (w'.asked id).length = x
    refine ⟨?_, ?_, trivial, hresources⟩
    · cases c with
      | updatePhase i => rw [exec_updatePhase_row, exec_updatePhase_row, hrow]
      | updateOutcome i => rw [exec_updateOutcome_row, exec_updateOutcome_row, hrow]
      | _ => exact hrow
    · cases c with
      | enterFlight i | leaveFlight i =>
        obtain rfl : i = id := hc
        simp [exec]
      | updatePhase i => rw [exec_updatePhase_inFlight, exec_updatePhase_inFlight, hflight]
      | updateOutcome i => rw [exec_updateOutcome_inFlight, exec_updateOutcome_inFlight, hflight]
      | _ => exact hflight
  · intro w j hj
    simp only [view, passExec, RecordView.mk.injEq, Function.update_of_ne hj, exec_resources]
    generalize env.answers id (w.asked id).length = x
    refine ⟨?_, ?_, trivial, trivial⟩
    · cases c with
      | updatePhase i =>
        obtain rfl : i = id := hc
        rw [exec_updatePhase_row, if_neg (fun h => hj h.1)]
      | updateOutcome i =>
        obtain rfl : i = id := hc
        rw [exec_updateOutcome_row, if_neg (fun h => hj h.1)]
      | _ => rfl
    · cases c with
      | enterFlight i | leaveFlight i =>
        obtain rfl : i = id := hc
        exact Function.update_of_ne hj _ _
      | updatePhase i => rw [exec_updatePhase_inFlight]
      | updateOutcome i => rw [exec_updateOutcome_inFlight]
      | _ => rfl

theorem inLane_isInFlight (id : Uuid) :
    InLane (passExec env) view id (.isInFlight id) where
  reply _ _ h := congrArg RecordView.inFlight h
  own _ _ h := h
  frame _ _ _ := rfl

/-- What the replies of a pass are known to satisfy. -/
def PassFound : (c : PassCall) → PassReply c → Prop
  | .about _ c, r => FoundById c r
  | _, _ => True

theorem passFound_passExec (c : PassCall) (w : PassWorld) : PassFound c (passExec env c w).1 := by
  cases c with
  | listByStatus | isInFlight => trivial
  | about id c =>
    cases c with
    | getVolumeAttachmentById i =>
      intro row hrow
      change received _ (.ok (w.store.attachments.get? i)) = _ at hrow
      unfold received at hrow
      split at hrow
      · cases hrow
      · exact w.store.attachments.key_of_get? (Except.ok.inj hrow)
    | _ => trivial

theorem inLane_reconcileStep (cinder : Bool) (record : VolumeAttachmentRecord) :
    (reconcileStep cinder record).run.CallsGiven PassFound
      (InLane (passExec env) view record.id) := by
  refine ⟨inLane_isInFlight env record.id, ?_⟩
  intro inFlight _
  cases inFlight with
  | true => trivial
  | false =>
    exact CallsGiven.via (fun c hc => inLane_about env hc) (fun _ _ h => h)
      (keepsTo_reconcileRecord cinder record)

end Lanes

end Attachments
end O3k
