import O3k.Operations.Finality

/-!
# Terminalizing an operation with its resource

`terminalize_lifecycle` closes an operation and projects its resource in one
transaction.  A repeated call is answered from the row of the operation, before
the generation of the resource is looked at, and never writes the resource.

The timestamps of the canonical metadata follow the state of the operation as
long as the callers that bring their own do.
-/

namespace O3k
namespace Operations

open Relational Relational.Transaction Semantics

variable {isRfc3339 : String → Bool} {t : OperationTables} {id : Uuid}

/-- The row records what the call reports. -/
structure LifecycleTerminalization.Repeats (x : LifecycleTerminalization) (row : OperationRecord) :
    Prop where
  resourceId : row.resourceId = x.resource.resourceId
  state : row.state = x.terminalState
  provider : row.providerConflicts x.providerOperationId = false

/-- The open operation has become terminal and the resource is projected. -/
structure Terminalized (x : LifecycleTerminalization) (t t' : OperationTables) : Prop where
  opened : ∃ row, t.operations.get? x.operationId = some row ∧ row.state.isTerminal = false
  closed :
    ∃ row, t'.operations.get? x.operationId = some row ∧ row.state = x.terminalState ∧
      row.state.isTerminal = true
  resource :
    ∃ row, Projects t x.resource row ∧ t'.resources = t.resources.put (row.projected x.resource)

/-- A write of an operation, or anything that leaves the operations alone. -/
inductive ResourceStep
  | write (w : OperationWrite)
  | elsewhere (others : OperationTables)

def resourceStep (isRfc3339 : String → Bool) (t : OperationTables) :
    ResourceStep → OperationTables
  | .write w => write isRfc3339 t w
  | .elsewhere others => { others with operations := t.operations }

variable {x : LifecycleTerminalization} {now : String} {row : OperationRecord}

theorem terminalize_of_closed
    (hget : t.operations.get? x.operationId = some row) (hclosed : row.state.isTerminal = true) :
    let outcome := (OperationWrite.terminalizeLifecycle x now).exec isRfc3339 t
    (x.Repeats row → outcome.1 = .ok () ∧ outcome.2.resources = t.resources) ∧
      (¬ x.Repeats row → ∃ e, outcome = (.error e, t)) := by
  intro outcome
  constructor
  · rintro ⟨hresource, hstate, hprovider⟩
    have hvalid : x.validate = .ok () := if_pos (hstate ▸ hclosed)
    obtain ⟨t', hbody, hresources⟩ :
        ∃ t', terminalizeLifecycleBody x now t = .ok ((), t') ∧ t'.resources = t.resources := by
      refine ⟨t.putOperation (row.fillIn x.providerOperationId x.errorCategory x.errorMessage),
        ?_, rfl⟩
      simp only [terminalizeLifecycleBody, get_bind_apply, hget, orFail_some_bind]
      rw [require_bind_of_pos _ _ hresource, if_pos hclosed,
        require_bind_of_pos _ _ (by simp [hprovider]), require_bind_of_pos _ _ hstate, set_apply]
    have hexec : outcome = (.ok (), t') := by
      show OperationWrite.exec isRfc3339 _ t = _
      simp only [OperationWrite.exec, OperationWrite.validate, hvalid]
      exact atomically_of_ok hbody
    rw [hexec]
    exact ⟨rfl, hresources⟩
  · intro hother
    rcases writeExec_cases isRfc3339 t (.terminalizeLifecycle x now) with herror | ⟨t', _, _, hwrote⟩
    · exact herror
    · cases hwrote with
      | replayed hcurrent hresource _ hagrees hstate =>
        cases hget.symm.trans hcurrent
        exact absurd ⟨hresource, hstate, hagrees⟩ hother
      | terminalized hcurrent hopen =>
        cases hget.symm.trans hcurrent
        cases hclosed.symm.trans hopen

theorem terminalize_cases :
    let outcome := (OperationWrite.terminalizeLifecycle x now).exec isRfc3339 t
    (∃ e, outcome = (.error e, t)) ∨
      (outcome.1 = .ok () ∧ Terminalized x t outcome.2) ∨
      (outcome.1 = .ok () ∧ outcome.2.resources = t.resources ∧
        ∃ row, t.operations.get? x.operationId = some row ∧ row.state.isTerminal = true ∧
          x.Repeats row) := by
  intro outcome
  rcases writeExec_cases isRfc3339 t (.terminalizeLifecycle x now) with
    herror | ⟨t', hok, hvalid, hwrote⟩
  · exact Or.inl herror
  · refine Or.inr ?_
    rw [show outcome = (.ok (), t') from hok]
    cases hwrote with
    | replayed hget hresource hclosed hagrees hstate =>
      exact Or.inr ⟨rfl, rfl, _, hget, hclosed, hresource, hstate, hagrees⟩
    | @terminalized _ _ current resource hget hopen hresource =>
      have hterminal : x.terminalState.isTerminal = true := by
        by_contra hne
        cases (if_neg hne).symm.trans hvalid
      have hid : current.id = x.operationId := t.operations.key_of_get? hget
      refine Or.inl ⟨rfl, ⟨current, hget, hopen⟩, ?_, resource, hresource, ?_⟩
      · simp only [OperationTables.putResource_operations,
          OperationTables.operations_modifyMetadata, OperationTables.putOperation_operations]
        rw [← hid]
        exact ⟨_, Table.get?_put_self t.operations _, rfl, hterminal⟩
      · simp only [OperationTables.putResource_resources,
          OperationTables.resources_modifyMetadata, OperationTables.putOperation_resources]

theorem closed_run {state : OperationState} (hterminal : state.isTerminal = true)
    (steps : List ResourceStep) (h : ∃ row, t.operations.get? id = some row ∧ row.state = state) :
    ∃ row, (run (resourceStep isRfc3339) t steps).operations.get? id = some row ∧
      row.state = state := by
  refine (always_of_invariant
    (I := fun t : OperationTables => ∃ row, t.operations.get? id = some row ∧ row.state = state)
    ?_ t steps h).last
  rintro t step ⟨row, hget, hstate⟩
  cases step with
  | elsewhere others => exact ⟨row, hget, hstate⟩
  | write w =>
    obtain ⟨row', hget', hstays⟩ :=
      staysFinal_write w hget (hstate ▸ hterminal)
    exact ⟨row', hget', hstays.state.trans hstate⟩

/-- **Terminalization is atomic and safe to replay**: a call writes the
operation and its resource or neither, and after a success every later call is
decided by the row of the operation and leaves the resource as it is. -/
theorem terminalized_once
    (isRfc3339 : String → Bool) (t : OperationTables) (x : LifecycleTerminalization)
    (now : String) :
    let outcome := (OperationWrite.terminalizeLifecycle x now).exec isRfc3339 t
    ((∃ e, outcome = (.error e, t)) ∨
      (outcome.1 = .ok () ∧ Terminalized x t outcome.2) ∨
      (outcome.1 = .ok () ∧ outcome.2.resources = t.resources ∧
        ∃ row, t.operations.get? x.operationId = some row ∧ row.state.isTerminal = true ∧
          x.Repeats row)) ∧
    (outcome.1 = .ok () →
      ∀ (steps : List ResourceStep) (y : LifecycleTerminalization) (now' : String),
        y.operationId = x.operationId →
          let s := run (resourceStep isRfc3339) outcome.2 steps
          let later := (OperationWrite.terminalizeLifecycle y now').exec isRfc3339 s
          ∃ row, s.operations.get? x.operationId = some row ∧ row.state = x.terminalState ∧
            (y.Repeats row → later.1 = .ok () ∧ later.2.resources = s.resources) ∧
            (¬ y.Repeats row → ∃ e, later = (.error e, s))) := by
  intro outcome
  refine ⟨terminalize_cases, fun hok steps y now' hsame => ?_⟩
  have hfinal :
      x.terminalState.isTerminal = true ∧
        ∃ row, outcome.2.operations.get? x.operationId = some row ∧
          row.state = x.terminalState := by
    rcases terminalize_cases with
      ⟨e, he⟩ | ⟨_, hboth⟩ | ⟨_, _, row, hget, hclosed, hrepeats⟩
    · cases (congrArg Prod.fst he).symm.trans hok
    · obtain ⟨row, hget, hstate, hclosed⟩ := hboth.closed
      exact ⟨hstate ▸ hclosed, row, hget, hstate⟩
    · obtain ⟨row', hget', hstays⟩ := staysFinal_write
        (.terminalizeLifecycle x now) hget hclosed
      exact ⟨hrepeats.state ▸ hclosed, row', hget', hstays.state.trans hrepeats.state⟩
  obtain ⟨row, hget, hstate⟩ := closed_run hfinal.1 steps hfinal.2
  exact ⟨row, hget, hstate, terminalize_of_closed (hsame ▸ hget) (hstate ▸ hfinal.1)⟩

/-- The projection that a write brings along. -/
def OperationWrite.projection? : OperationWrite → Option ResourceProjection
  | updateResourceAndCompleteOperation projection _ _ => some projection
  | terminalizeLifecycle terminalization _ => some terminalization.resource
  | _ => none

theorem resources_write (t : OperationTables) (w : OperationWrite) :
    (write isRfc3339 t w).resources = t.resources ∨
      ∃ projection row, w.projection? = some projection ∧ Projects t projection row ∧
        (write isRfc3339 t w).resources = t.resources.put (row.projected projection) := by
  rcases write_cases isRfc3339 t w with hsame | ⟨_, hwrote⟩
  · exact Or.inl (congrArg OperationTables.resources hsame)
  · generalize write isRfc3339 t w = t' at hwrote
    cases hwrote with
    | dropped | repeated | replayed => exact Or.inl rfl
    | updated | projected => exact Or.inl (OperationTables.resources_modifyMetadata _ _ _)
    | completed hresource =>
      exact Or.inr ⟨_, _, rfl, hresource, OperationTables.resources_modifyMetadata _ _ _⟩
    | terminalized _ _ hresource =>
      refine Or.inr ⟨_, _, rfl, hresource, ?_⟩
      simp only [OperationTables.putResource_resources,
        OperationTables.resources_modifyMetadata, OperationTables.putOperation_resources]

/-- The resource has moved past a generation. -/
def PastGeneration (id : Uuid) (generation : Int) (t : OperationTables) : Prop :=
  ∃ row, t.resources.get? id = some row ∧ generation < row.generation

theorem PastGeneration.write {generation : Int} (h : PastGeneration id generation t)
    (w : OperationWrite) :
    PastGeneration id generation (write isRfc3339 t w) := by
  obtain ⟨row, hget, hlt⟩ := h
  rcases resources_write t w with hsame | ⟨projection, old, _, hold, hput⟩
  · exact ⟨row, by rw [hsame, hget], hlt⟩
  · unfold PastGeneration
    rw [hput, Table.get?_put]
    split_ifs with hid
    · have hkey : old.id = projection.resourceId := t.resources.key_of_get? hold.get
      cases hget.symm.trans ((congrArg t.resources.get? (hid.symm.trans hkey)).trans hold.get)
      exact ⟨_, rfl, hlt.trans (Int.lt_succ _)⟩
    · exact ⟨row, hget, hlt⟩

/-- **No projection overwrites another**: of two that expect one generation of a
resource at most one is ever stored, whatever is written in between. -/
theorem projections_never_overwrite
    (isRfc3339 : String → Bool) (t : OperationTables) (w w' : OperationWrite)
    (writes : List OperationWrite) {p p' : ResourceProjection} (hw : w.projection? = some p)
    (hw' : w'.projection? = some p') (hresource : p'.resourceId = p.resourceId)
    (hexpected : p'.expectedGeneration = p.expectedGeneration)
    (hstored : (write isRfc3339 t w).resources ≠ t.resources) :
    let s := run (write isRfc3339) (write isRfc3339 t w) writes
    (write isRfc3339 s w').resources = s.resources := by
  intro s
  obtain ⟨_, row, hp, hrow, hput⟩ := (resources_write t w).resolve_left hstored
  cases hw.symm.trans hp
  have hpast : PastGeneration p.resourceId p.expectedGeneration (write isRfc3339 t w) := by
    refine ⟨row.projected p, ?_, hrow.generation ▸ Int.lt_succ _⟩
    rw [hput, ← t.resources.key_of_get? hrow.get]
    exact Table.get?_put_self t.resources _
  obtain ⟨later, hlater, hlt⟩ : PastGeneration p.resourceId p.expectedGeneration s :=
    (always_of_invariant (fun _ w h => h.write w) _ writes hpast).last
  refine (resources_write s w').resolve_right ?_
  rintro ⟨_, row', hp', hrow', _⟩
  cases hw'.symm.trans hp'
  cases hlater.symm.trans (hresource ▸ hrow'.get)
  exact absurd (hrow'.generation.trans hexpected) hlt.ne'

/-- A second operation has read the same generation. -/
theorem second_projection_refused :
    let t := OperationTables.empty.putResource ⟨"r", "server", "p", 1, 0, "a", "b", none⟩
    let t := t.putOperation ⟨"first", "r", "create", .running, none, none, none⟩
    let t := t.putOperation ⟨"second", "r", "create", .running, none, none, none⟩
    let fail := fun id => OperationWrite.terminalizeLifecycle
      ⟨id, .failed, none, none, none, ⟨"r", 1, "a", "b", 0, none⟩⟩ ""
    let s := write (fun _ => true) t (fail "first")
    (write (fun _ => true) s (fail "second")).resources = s.resources :=
  projections_never_overwrite _ _ (.terminalizeLifecycle _ _) (.terminalizeLifecycle _ _) [] rfl rfl
    rfl rfl (by decide)

structure CanonicalMetadata.Agrees (row : CanonicalMetadata) (state : OperationState) : Prop where
  finishedAt : row.finishedAt.isSome = true ↔ state.isTerminal = true
  startedAt : state = .running → row.startedAt.isSome = true

def TimestampsAgree (id : Uuid) (t : OperationTables) : Prop :=
  ∀ operation, t.operations.get? id = some operation →
    ∀ row, t.metadata.get? id = some row → row.Agrees operation.state

/-- The lifecycle update that the call brings along. -/
def OperationWrite.lifecycle : OperationWrite → Option LifecycleUpdate
  | updateCanonicalOperationLifecycle _ update => some update
  | updateResourceAndCompleteOperation _ _ lifecycle => some lifecycle
  | _ => none

/-- `finished_at` is brought along with a terminal state only. -/
def OperationWrite.FinishesWhenTerminal (w : OperationWrite) : Prop :=
  ∀ update ∈ w.lifecycle, update.finishedAt.isSome = true → update.state.isTerminal = true

theorem agrees_withLifecycle {update : LifecycleUpdate}
    (hvalid : validateCanonicalLifecycleUpdate isRfc3339 update = .ok ())
    (hfinishes : update.finishedAt.isSome = true → update.state.isTerminal = true)
    (row : CanonicalMetadata) :
    (row.withLifecycle update).Agrees update.state := by
  unfold validateCanonicalLifecycleUpdate at hvalid
  split_ifs at hvalid with _ hrunning hterminal
  refine ⟨⟨hfinishes, fun h => ?_⟩, fun h => ?_⟩
  · exact Option.isSome_iff_ne_none.mpr (fun hnone => hterminal ⟨h, hnone⟩)
  · exact Option.isSome_iff_ne_none.mpr (fun hnone => hrunning ⟨h, hnone⟩)

theorem agrees_project {state : OperationState} {startedAt finishedAt : Option String}
    (hfinished : finishedAt.isSome = true ↔ state.isTerminal = true)
    (hstarted : state = .running → startedAt.isSome = true) (row : CanonicalMetadata)
    (error : Option String) :
    (row.project startedAt finishedAt error).Agrees state :=
  ⟨hfinished, fun h => by simp [CanonicalMetadata.project, hstarted h]⟩

theorem timestampsAgree_put {key : Uuid} {current written : OperationRecord}
    {f : CanonicalMetadata → CanonicalMetadata} (h : TimestampsAgree id t)
    (hget : t.operations.get? key = some current) (hid : written.id = current.id)
    (hkey : ∀ row, (f row).operationId = row.operationId)
    (hwritten : key = id → ∀ row, (f row).Agrees written.state) :
    TimestampsAgree id ((t.putOperation written).modifyMetadata key f) := by
  rw [t.operations.key_of_get? hget] at hid
  intro operation hoperation row hrow
  rw [OperationTables.operations_modifyMetadata, OperationTables.putOperation_operations,
    Table.get?_put, hid] at hoperation
  unfold OperationTables.modifyMetadata at hrow
  cases hmetadata : t.metadata.get? key with
  | none =>
    simp only [OperationTables.putOperation_metadata, hmetadata] at hrow
    split_ifs at hoperation with hsame
    · cases (hsame ▸ hmetadata).symm.trans hrow
    · exact h operation hoperation row hrow
  | some found =>
    have hfound : (f found).operationId = key :=
      (hkey found).trans (t.metadata.key_of_get? hmetadata)
    simp only [OperationTables.putOperation_metadata, hmetadata,
      OperationTables.putMetadata_metadata, Table.get?_put, hfound] at hrow
    split_ifs at hoperation hrow with hsame
    · cases hoperation
      cases hrow
      exact hwritten hsame found
    · exact h operation hoperation row hrow

theorem timestampsAgree_putOperation {current written : OperationRecord} {key : Uuid}
    (h : TimestampsAgree id t) (hget : t.operations.get? key = some current)
    (hid : written.id = current.id) (hstate : written.state = current.state) :
    TimestampsAgree id (t.putOperation written) := by
  intro operation hoperation row hrow
  rw [OperationTables.putOperation_operations, Table.get?_put] at hoperation
  split_ifs at hoperation with hsame
  · cases hoperation
    obtain rfl : key = id := (t.operations.key_of_get? hget).symm.trans (hid.symm.trans hsame)
    rw [hstate]
    exact h current hget row hrow
  · exact h operation hoperation row hrow

theorem timestampsAgree_write {w : OperationWrite} (h : TimestampsAgree id t)
    (hw : w.operationId = id → w.FinishesWhenTerminal) :
    TimestampsAgree id (write isRfc3339 t w) := by
  rcases write_cases isRfc3339 t w with hsame | ⟨hvalid, hwrote⟩
  · rw [hsame]
    exact h
  · generalize write isRfc3339 t w = t' at hwrote
    cases hwrote with
    | dropped => exact h
    | repeated hget | replayed hget => exact timestampsAgree_putOperation h hget rfl rfl
    | updated hget =>
      refine timestampsAgree_put h hget rfl (fun _ => rfl) (fun _ row => agrees_project ?_ ?_ row _)
      · split_ifs with hterminal <;> simp [hterminal]
      · rintro rfl
        rfl
    | projected hget | completed _ hget =>
      exact timestampsAgree_put h hget rfl (fun _ => rfl)
        (fun hid => agrees_withLifecycle hvalid (hw hid _ rfl))
    | @terminalized x now current _ hget =>
      have hterminal : x.terminalState.isTerminal = true := by
        by_contra hne
        cases (if_neg hne).symm.trans hvalid
      exact timestampsAgree_put h hget rfl (fun _ => rfl)
        (fun _ row => agrees_project (iff_of_true rfl hterminal) (fun _ => rfl) row _)

/-- **Timestamps agree with the state** after every write, when the operation is
accepted so and the callers' own updates finish with a terminal state only. -/
theorem timestamps_agree_of_finishesWhenTerminal
    (isRfc3339 : String → Bool) (t : OperationTables) (id : Uuid) (writes : List OperationWrite)
    (haccepted : TimestampsAgree id t)
    (hwrites : ∀ w ∈ writes, w.operationId = id → w.FinishesWhenTerminal) :
    Always (write isRfc3339) (TimestampsAgree id) t writes :=
  always_of_guarded (fun _ _ h hw => timestampsAgree_write h hw) t writes haccepted
    (eachStep_of_forall (fun w hw _ => hwrites w hw) t)

/-- A pending operation, as it is accepted. -/
def acceptedTables : OperationTables :=
  { OperationTables.empty with
    operations := Table.ofList [⟨"op", "server", "create", .pending, none, none, none⟩]
    metadata := Table.ofList [⟨"op", "compute", "compute:create", "user", "project",
      "compute:server", some "server", 0, "2026-01-01T00:00:00Z", none, none, none, none⟩] }

theorem timestampsAgree_accepted : TimestampsAgree "op" acceptedTables := by
  rintro _ ⟨⟩ _ ⟨⟩
  exact ⟨by decide, by decide⟩

/-- A running operation that has finished passes the check. -/
theorem finished_while_running :
    let w : OperationWrite := .updateCanonicalOperationLifecycle "op"
      ⟨.running, 1, some "2026-01-01T00:00:01Z", some "2026-01-01T00:00:02Z", none⟩
    TimestampsAgree "op" acceptedTables ∧ w.validate (fun _ => true) = .ok () ∧
      ¬ TimestampsAgree "op" (write (fun _ => true) acceptedTables w) := by
  refine ⟨timestampsAgree_accepted, rfl, fun h => ?_⟩
  cases (h _ rfl _ rfl).finishedAt.mp rfl

theorem timestamps_agree_of_terminalize :
    Always (write fun _ => true) (TimestampsAgree "op") acceptedTables
      [.updateCanonicalOperationLifecycle "op"
        ⟨.succeeded, 1, some "2026-01-01T00:00:01Z", some "2026-01-01T00:00:02Z", none⟩] := by
  refine timestamps_agree_of_finishesWhenTerminal _ _ _ _ timestampsAgree_accepted ?_
  intro w hw _ update hupdate _
  obtain rfl := List.mem_singleton.mp hw
  cases hupdate
  rfl

end Operations
end O3k
