import O3k.Lifecycle.Reconciler

/-!
# What the writers do to a row

Each of the four writers of operations rewrites at most one row, which keeps
its identity, its resource and its kind, and has the state that was asked for
or the one it had.
-/

namespace O3k
namespace Lifecycle

open Relational Relational.Transaction Operations

/-- The row after a write that asks for the state. -/
structure Rewritten (state : OperationState) (row row' : OperationRecord) : Prop where
  id : row'.id = row.id
  resourceId : row'.resourceId = row.resourceId
  kind : row'.kind = row.kind
  state : row'.state = row.state ∨ row'.state = state

/-- Nothing is written, or one row is rewritten. -/
def RewritesOne (id : Uuid) (state : OperationState) (t t' : OperationTables) : Prop :=
  t'.operations = t.operations ∨
    ∃ row row', t.operations.get? id = some row ∧ Rewritten state row row' ∧
      t'.operations = t.operations.put row'

variable {t t' : OperationTables} {id : Uuid} {state : OperationState} {row : OperationRecord}

/-- **One write**. -/
theorem rewritesOne_write (isRfc3339 : String → Bool) (t : OperationTables) (w : OperationWrite) :
    RewritesOne w.operationId w.state t (Operations.write isRfc3339 t w) := by
  rcases write_cases isRfc3339 t w with hsame | ⟨_, hwrote⟩
  · exact Or.inl (congrArg OperationTables.operations hsame)
  · generalize Operations.write isRfc3339 t w = t' at hwrote
    cases hwrote with
    | dropped => exact Or.inl rfl
    | repeated hget | replayed hget =>
      refine Or.inr ⟨_, _, hget, ?_, rfl⟩
      exact ⟨rfl, rfl, rfl, Or.inl rfl⟩
    | updated hget | projected hget | completed _ hget | terminalized hget =>
      refine Or.inr ⟨_, _, hget, ?_, OperationTables.operations_modifyMetadata _ _ _⟩
      exact ⟨rfl, rfl, rfl, Or.inr rfl⟩

theorem RewritesOne.mem
    (h : RewritesOne id state t t') {row' : OperationRecord} (hrow' : row' ∈ t'.operations.rows) :
    ∃ row ∈ t.operations.rows, row'.id = row.id ∧ row'.kind = row.kind ∧
      (row'.state = row.state ∨ (row'.id = id ∧ row'.state = state)) := by
  rcases h with hsame | ⟨row, written, hget, hwritten, hput⟩
  · rw [hsame] at hrow'
    exact ⟨row', hrow', rfl, rfl, Or.inl rfl⟩
  · rw [hput] at hrow'
    rcases (Table.mem_put _).mp hrow' with rfl | ⟨hmem, _⟩
    · have hid : row.id = id := Table.key_of_get? _ hget
      refine ⟨row, Table.mem_of_get? _ hget, hwritten.id, hwritten.kind, ?_⟩
      exact hwritten.state.imp_right (fun h => ⟨hwritten.id.trans hid, h⟩)
    · exact ⟨row', hmem, rfl, rfl, Or.inl rfl⟩

theorem RewritesOne.get?
    (h : RewritesOne id state t t') {id' : Uuid} (hget : t.operations.get? id' = some row) :
    ∃ row', t'.operations.get? id' = some row' ∧ row'.kind = row.kind := by
  rcases h with hsame | ⟨current, written, hcurrent, hwritten, hput⟩
  · exact ⟨row, by rw [hsame, hget], rfl⟩
  · have hid : written.id = id := hwritten.id.trans (Table.key_of_get? _ hcurrent)
    rw [hput]
    by_cases hsame : id' = id
    · subst hsame
      rw [hget] at hcurrent
      cases hcurrent
      exact ⟨written, by rw [← hid, Table.get?_put_self], hwritten.kind⟩
    · exact ⟨row, by rw [Table.get?_put_of_ne _ (by rw [hid]; exact Ne.symm hsame), hget], rfl⟩

theorem insertOperation_cases
    (row : OperationRecord) (onDuplicate : StoreError) (t : OperationTables) :
    (atomically (insertOperation row onDuplicate) t).2.operations = t.operations ∨
      (t.operations.get? row.id = none ∧
        (atomically (insertOperation row onDuplicate) t).2.operations = t.operations.put row) := by
  refine atomically_rel
    (fun t' : OperationTables => t'.operations = t.operations ∨
      (t.operations.get? row.id = none ∧ t'.operations = t.operations.put row))
    (Or.inl rfl) ?_
  intro _ t' h
  simp only [insertOperation, get_bind_apply] at h
  obtain ⟨_, h⟩ := require_bind_eq_ok.mp h
  obtain ⟨operations, hinsert, h⟩ := orFail_bind_eq_ok.mp h
  cases h
  exact Or.inr ((Table.insert?_eq_some_iff _ _).mp hinsert)

theorem insertOperation_of_absent {onDuplicate : StoreError} {t : OperationTables}
    (habsent : t.operations.get? row.id = none) :
    atomically (insertOperation row onDuplicate) t
        = (.ok (), { t with operations := t.operations.put row }) ∨
      ∃ e, atomically (insertOperation row onDuplicate) t = (.error (.database e), t) := by
  by_cases hresource : t.hasResource row.resourceId = true
  · refine Or.inl ?_
    simp [atomically, insertOperation, require, orFail, hresource, Table.insert?_of_absent _ habsent,
      get_bind_apply]
  · refine Or.inr ⟨.raisedAbort "operation resource not found", ?_⟩
    simp [atomically, insertOperation, require, hresource, get_bind_apply]

theorem settle_cases {α : Type} (x : LifecycleAnswer) (w : LifecycleWorld)
    (result : Except StoreError α × OperationTables) :
    (x.settle w result).2 = w ∨ (x.settle w result).2 = { w with tables := result.2 } := by
  unfold LifecycleAnswer.settle
  split
  · exact Or.inr rfl
  · exact Or.inr rfl
  · exact Or.inl rfl

end Lifecycle
end O3k
