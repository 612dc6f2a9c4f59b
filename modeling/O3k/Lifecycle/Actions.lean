import O3k.Lifecycle.Service
import O3k.Lifecycle.Writes

/-!
# Actions and what the provider has done for them

An action begins an operation under an identity that names the state it leads
to, and returns when the operation has ended.  The rows of actions keep their
kinds, and a row that has left the states in which nothing has been sent yet
belongs to a command.
-/

namespace O3k
namespace Lifecycle

open Relational Relational.Transaction Operations Semantics
open Journal (ServerState InstanceState)

variable (lib : LifecycleLibrary)

/-- The identity of the operation of an action. -/
def IsActionId (id : Uuid) : Prop :=
  ∃ projectId server target generation, id = actionOperationId lib projectId server target generation

def Dispatched (id : Uuid) (w : LifecycleWorld) : Prop := ∃ d ∈ w.dispatches, d.operationId = id

def Executed (id : Uuid) (w : LifecycleWorld) : Prop := ∃ d ∈ w.executed, d.operationId = id

instance (id : Uuid) (w : LifecycleWorld) : Decidable (Dispatched id w) :=
  inferInstanceAs (Decidable (∃ d ∈ w.dispatches, _))

instance (id : Uuid) (w : LifecycleWorld) : Decidable (Executed id w) :=
  inferInstanceAs (Decidable (∃ d ∈ w.executed, _))

def HasKind (id : Uuid) (kind : String) (w : LifecycleWorld) : Prop :=
  ∃ row, w.tables.operations.get? id = some row ∧ row.kind = kind

/-- A row may be written in the state. -/
structure MayBecome (id : Uuid) (state : OperationState) (w : LifecycleWorld) : Prop where
  dispatched : state ≠ .pending → state ≠ .running → Dispatched id w
  executed : state = .succeeded → Executed id w

structure ActionsSound (w : LifecycleWorld) : Prop where
  kinds :
    ∀ row ∈ w.tables.operations.rows, IsActionId lib row.id →
      ∃ action : InstanceAction, row.kind = action.lifecycle.kind
  states :
    ∀ row ∈ w.tables.operations.rows, IsActionId lib row.id → MayBecome row.id row.state w
  dispatches :
    ∀ d ∈ w.dispatches, IsActionId lib d.operationId → HasKind d.operationId d.action.kind w
  executed : ∀ d ∈ w.executed, d ∈ w.dispatches

/-- Rows stay, with their kinds, and so does history. -/
structure Grows (w w' : LifecycleWorld) : Prop where
  rows :
    ∀ id row, w.tables.operations.get? id = some row →
      ∃ row', w'.tables.operations.get? id = some row' ∧ row'.kind = row.kind
  dispatches : ∀ d ∈ w.dispatches, d ∈ w'.dispatches
  executed : ∀ d ∈ w.executed, d ∈ w'.executed

def Permitted (c : LifecycleCall) (w : LifecycleWorld) : Prop :=
  match c with
  | .insertOperation row =>
    IsActionId lib row.id →
      row.state = .pending ∧ ∃ action : InstanceAction, row.kind = action.lifecycle.kind
  | .createOrReplay _ _ _ _ => False
  | .updateOperation id state _ _ _ => IsActionId lib id → MayBecome id state w
  | .updateCanonicalLifecycle id update => IsActionId lib id → MayBecome id update.state w
  | .terminalize terminalization =>
    IsActionId lib terminalization.operationId →
      MayBecome terminalization.operationId terminalization.terminalState w
  | .dispatch d => IsActionId lib d.operationId → HasKind d.operationId d.action.kind w
  | _ => True

variable {lib} {w w' : LifecycleWorld} {x : LifecycleAnswer} {id : Uuid}

theorem grows_refl (w : LifecycleWorld) : Grows w w :=
  ⟨fun _ row h => ⟨row, h, rfl⟩, fun _ h => h, fun _ h => h⟩

theorem grows_trans (w₁ w₂ w₃ : LifecycleWorld) (h₁₂ : Grows w₁ w₂) (h₂₃ : Grows w₂ w₃) :
    Grows w₁ w₃ := by
  refine ⟨?_, fun d hd => h₂₃.dispatches d (h₁₂.dispatches d hd),
    fun d hd => h₂₃.executed d (h₁₂.executed d hd)⟩
  intro id row hget
  obtain ⟨row₂, hget₂, hkind₂⟩ := h₁₂.rows id row hget
  obtain ⟨row₃, hget₃, hkind₃⟩ := h₂₃.rows id row₂ hget₂
  exact ⟨row₃, hget₃, hkind₃.trans hkind₂⟩

theorem Dispatched.grows (h : Dispatched id w) (hgrows : Grows w w') : Dispatched id w' := by
  obtain ⟨d, hd, hid⟩ := h
  exact ⟨d, hgrows.dispatches d hd, hid⟩

theorem Executed.grows (h : Executed id w) (hgrows : Grows w w') : Executed id w' := by
  obtain ⟨d, hd, hid⟩ := h
  exact ⟨d, hgrows.executed d hd, hid⟩

theorem HasKind.grows {kind : String} (h : HasKind id kind w) (hgrows : Grows w w') :
    HasKind id kind w' := by
  obtain ⟨row, hget, hkind⟩ := h
  obtain ⟨row', hget', hkind'⟩ := hgrows.rows id row hget
  exact ⟨row', hget', hkind'.trans hkind⟩

theorem MayBecome.grows {state : OperationState} (h : MayBecome id state w) (hgrows : Grows w w') :
    MayBecome id state w' :=
  ⟨fun hpending hrunning => (h.dispatched hpending hrunning).grows hgrows,
    fun hsucceeded => (h.executed hsucceeded).grows hgrows⟩

theorem grows_of_tables {t : OperationTables}
    (hrows :
      ∀ id row, w.tables.operations.get? id = some row →
        ∃ row', t.operations.get? id = some row' ∧ row'.kind = row.kind) :
    Grows w { w with tables := t } :=
  ⟨hrows, fun _ h => h, fun _ h => h⟩

theorem grows_of_same (hoperations : w'.tables.operations = w.tables.operations)
    (hdispatches : w'.dispatches = w.dispatches) (hexecuted : w'.executed = w.executed) :
    Grows w w' :=
  ⟨fun id row hget => ⟨row, by rw [hoperations, hget], rfl⟩, fun _ h => hdispatches ▸ h,
    fun _ h => hexecuted ▸ h⟩

theorem ActionsSound.congr
    (h : ActionsSound lib w) (hoperations : w'.tables.operations = w.tables.operations)
    (hdispatches : w'.dispatches = w.dispatches) (hexecuted : w'.executed = w.executed) :
    ActionsSound lib w' := by
  have hgrows := grows_of_same hoperations hdispatches hexecuted
  refine ⟨?_, ?_, ?_, ?_⟩
  · rw [hoperations]
    exact h.kinds
  · rw [hoperations]
    exact fun row hrow haction => (h.states row hrow haction).grows hgrows
  · rw [hdispatches]
    exact fun d hd haction => (h.dispatches d hd haction).grows hgrows
  · rw [hdispatches, hexecuted]
    exact h.executed

theorem grows_write (lib : LifecycleLibrary) (w : LifecycleWorld) (write : OperationWrite) :
    Grows w { w with tables := Operations.write lib.text.isRfc3339 w.tables write } :=
  grows_of_tables (fun _ _ hget => (rewritesOne_write lib.text.isRfc3339 w.tables write).get? hget)

/-- **A write** of a state that the row may have. -/
theorem ActionsSound.write (h : ActionsSound lib w) {write : OperationWrite}
    (hmay : IsActionId lib write.operationId → MayBecome write.operationId write.state w) :
    ActionsSound lib { w with tables := Operations.write lib.text.isRfc3339 w.tables write } := by
  have hone := rewritesOne_write lib.text.isRfc3339 w.tables write
  have hgrows := grows_write lib w write
  refine ⟨?_, ?_, fun d hd haction => (h.dispatches d hd haction).grows hgrows, h.executed⟩
  · intro row' hrow' haction
    obtain ⟨row, hrow, hid, hkind, _⟩ := hone.mem hrow'
    rw [hid] at haction
    rw [hkind]
    exact h.kinds row hrow haction
  · intro row' hrow' haction
    obtain ⟨row, hrow, hid, _, hstate⟩ := hone.mem hrow'
    refine MayBecome.grows ?_ hgrows
    rcases hstate with hstate | ⟨hwritten, hstate⟩
    · rw [hid] at haction ⊢
      rw [hstate]
      exact h.states row hrow haction
    · rw [hwritten] at haction ⊢
      rw [hstate]
      exact hmay haction

theorem grows_insert (row : OperationRecord) :
    Grows w
      { w with
        tables := (atomically (insertOperation row .resourceAlreadyExists) w.tables).2 } := by
  rcases insertOperation_cases row .resourceAlreadyExists w.tables with hsame | ⟨habsent, hput⟩
  · exact grows_of_same hsame rfl rfl
  · refine grows_of_tables (fun id current hget => ⟨current, ?_, rfl⟩)
    rw [hput, Table.get?_put_of_ne, hget]
    rintro rfl
    rw [hget] at habsent
    cases habsent

/-- **An insert** of the row of an action, or of another. -/
theorem ActionsSound.insert (h : ActionsSound lib w) {row : OperationRecord}
    (hrow :
      IsActionId lib row.id →
        row.state = .pending ∧ ∃ action : InstanceAction, row.kind = action.lifecycle.kind) :
    ActionsSound lib
      { w with
        tables := (atomically (insertOperation row .resourceAlreadyExists) w.tables).2 } := by
  have hgrows := grows_insert (w := w) row
  refine ⟨?_, ?_, fun d hd haction => (h.dispatches d hd haction).grows hgrows, h.executed⟩
  · intro row' hrow' haction
    rcases insertOperation_cases row .resourceAlreadyExists w.tables with hsame | ⟨_, hput⟩
    · exact h.kinds row' (hsame ▸ hrow') haction
    · simp only [hput] at hrow'
      rcases (Table.mem_put _).mp hrow' with rfl | ⟨hmem, _⟩
      · exact (hrow haction).2
      · exact h.kinds row' hmem haction
  · intro row' hrow' haction
    refine MayBecome.grows ?_ hgrows
    rcases insertOperation_cases row .resourceAlreadyExists w.tables with hsame | ⟨_, hput⟩
    · exact h.states row' (hsame ▸ hrow') haction
    · simp only [hput] at hrow'
      rcases (Table.mem_put _).mp hrow' with rfl | ⟨hmem, _⟩
      · have hpending := (hrow haction).1
        exact ⟨fun hne => absurd hpending hne, fun hsucceeded => by cases hpending.symm.trans hsucceeded⟩
      · exact h.states row' hmem haction

theorem grows_dispatched (d : Dispatch) (executes : Bool) : Grows w (w.dispatched d executes) := by
  refine ⟨fun _ row h => ⟨row, h, rfl⟩, fun _ h => List.mem_cons_of_mem _ h, ?_⟩
  intro d' hd'
  simp only [LifecycleWorld.dispatched]
  split
  · exact List.mem_cons_of_mem _ hd'
  · exact hd'

theorem ActionsSound.dispatched (h : ActionsSound lib w) {d : Dispatch}
    (hd : IsActionId lib d.operationId → HasKind d.operationId d.action.kind w) (executes : Bool) :
    ActionsSound lib (w.dispatched d executes) := by
  have hgrows := grows_dispatched (w := w) d executes
  refine ⟨h.kinds, fun row hrow haction => (h.states row hrow haction).grows hgrows, ?_, ?_⟩
  · intro d' hd' haction
    rcases List.mem_cons.mp hd' with rfl | hd'
    · exact (hd haction).grows hgrows
    · exact (h.dispatches d' hd' haction).grows hgrows
  · intro d' hd'
    simp only [LifecycleWorld.dispatched] at hd' ⊢
    split at hd'
    · rcases List.mem_cons.mp hd' with rfl | hd'
      · exact List.mem_cons_self
      · exact List.mem_cons_of_mem _ (h.executed d' hd')
    · exact List.mem_cons_of_mem _ (h.executed d' hd')

/-- **One call** that is entitled to what it does. -/
theorem ActionsSound.exec (h : ActionsSound lib w) {c : LifecycleCall} (hc : Permitted lib c w) :
    ActionsSound lib (execLifecycle lib c x w).2 ∧ Grows w (execLifecycle lib c x w).2 := by
  have hsame : ActionsSound lib w ∧ Grows w w := ⟨h, grows_refl w⟩
  have hwrite :
      ∀ write : OperationWrite,
        (IsActionId lib write.operationId → MayBecome write.operationId write.state w) →
          ActionsSound lib (execWrite lib x w write).2 ∧ Grows w (execWrite lib x w write).2 := by
    intro write hmay
    unfold execWrite
    rcases settle_cases x w (write.exec lib.text.isRfc3339 w.tables) with hw | hw
    · rw [hw]
      exact hsame
    · rw [hw]
      exact ⟨h.write hmay, grows_write lib w write⟩
  cases c with
  | insertOperation row =>
    simp only [execLifecycle]
    rcases settle_cases x w
      (atomically (insertOperation row .resourceAlreadyExists) w.tables) with hw | hw
    · rw [hw]
      exact hsame
    · rw [hw]
      exact ⟨h.insert hc, grows_insert row⟩
  | createOrReplay => exact hc.elim
  | updateOperation => exact hwrite _ hc
  | updateCanonicalLifecycle => exact hwrite _ hc
  | terminalize => exact hwrite _ hc
  | incrementRetry id =>
    have hoperations : (incrementRetry id w).2.tables.operations = w.tables.operations := by
      simp [incrementRetry]
    have hretried : ActionsSound lib (incrementRetry id w).2 ∧ Grows w (incrementRetry id w).2 :=
      ⟨h.congr hoperations rfl rfl, grows_of_same hoperations rfl rfl⟩
    simp only [execLifecycle]
    split
    · exact hretried
    · exact hretried
    · exact hsame
  | dispatch d => exact ⟨h.dispatched hc x.executes, grows_dispatched d x.executes⟩
  | getOperation | getResource | listNonTerminal | getInstance | probeInstance | observeInstance
  | getProviderOperation | projectMetering | acquireWorkLease | releaseWorkLease | cleanup
  | showServer | recordRequiredAudit => exact hsame

end Lifecycle
end O3k
