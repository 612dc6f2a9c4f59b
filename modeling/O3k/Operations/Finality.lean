import O3k.Operations.Lifecycle
import O3k.Semantics.Run

/-!
# Terminal operations are final

`Written` says once what a write can leave behind: nothing, evidence filled in
under the terminal state that is already there, or a write to an operation that
is still open.
-/

namespace O3k
namespace Operations

open Relational Relational.Transaction Semantics

/-- The outcomes of a write, as far as operations are concerned. -/
inductive Written (t : OperationTables) (w : OperationWrite) : OperationTables → Prop
  | unchanged :
      Written t w t
  | evidence (current row : OperationRecord) (t' : OperationTables)
      (hget : t.operations.get? w.operationId = some current) (hstate : current.state = w.state)
      (hagrees : current.providerConflicts w.providerOperationId = false)
      (hid : row.id = current.id) (hfinal : row.state = current.state)
      (hprovider : row.providerOperationId = w.providerOperationId.or current.providerOperationId)
      (hoperations : t'.operations = t.operations.put row) :
      Written t w t'
  | opened (current row : OperationRecord) (t' : OperationTables)
      (hget : t.operations.get? w.operationId = some current)
      (hopen : current.state.isTerminal = false) (hid : row.id = current.id)
      (hoperations : t'.operations = t.operations.put row) :
      Written t w t'

section Runs

variable (isRfc3339 : String → Bool)

/-- **Inversion**: every write leaves one of the listed outcomes behind. -/
theorem written_write (t : OperationTables) (w : OperationWrite) :
    Written t w (write isRfc3339 t w) := by
  rcases write_cases isRfc3339 t w with hsame | ⟨_, hwrote⟩
  · rw [hsame]
    exact .unchanged
  · generalize write isRfc3339 t w = t' at hwrote
    cases hwrote with
    | dropped => exact .unchanged
    | repeated hget _ hagrees hstate =>
      refine .evidence _ _ _ hget hstate hagrees ?_ ?_ ?_ rfl <;> rfl
    | updated hget hopen =>
      refine .opened _ _ _ hget hopen ?_ (OperationTables.operations_modifyMetadata _ _ _)
      rfl
    | @projected id update current hget hregress =>
      cases hterminal : current.state.isTerminal with
      | true =>
        have hstate := hregress hterminal
        refine .evidence current { current with state := update.state } _ hget hstate ?_ rfl
          hstate.symm rfl (OperationTables.operations_modifyMetadata _ _ _)
        simp [OperationRecord.providerConflicts, OperationWrite.providerOperationId]
      | false =>
        refine .opened current _ _ hget hterminal ?_
          (OperationTables.operations_modifyMetadata _ _ _)
        rfl
    | completed _ hget hopen =>
      refine .opened _ _ _ hget hopen ?_ (OperationTables.operations_modifyMetadata _ _ _)
      rfl
    | replayed hget _ _ hagrees hstate =>
      refine .evidence _ _ _ hget hstate hagrees ?_ ?_ ?_ rfl <;> rfl
    | terminalized hget hopen =>
      refine .opened _ _ _ hget hopen ?_ (OperationTables.operations_modifyMetadata _ _ _)
      rfl

/-- A terminal row afterwards: the same state, and the identity it had. -/
structure StaysFinal (row row' : OperationRecord) : Prop where
  state : row'.state = row.state
  providerOperationId :
    ∀ value, row.providerOperationId = some value → row'.providerOperationId = some value

theorem StaysFinal.trans {row row' row'' : OperationRecord}
    (h : StaysFinal row row') (h' : StaysFinal row' row'') :
    StaysFinal row row'' where
  state := h'.state.trans h.state
  providerOperationId := fun value hvalue =>
    h'.providerOperationId value (h.providerOperationId value hvalue)

theorem provider_kept {current : OperationRecord} {incoming : Option String}
    (hagrees : current.providerConflicts incoming = false) {value : String}
    (hvalue : current.providerOperationId = some value) :
    incoming.or current.providerOperationId = some value := by
  cases incoming with
  | none => exact hvalue
  | some new =>
    have hsame : new = value := by
      simpa [OperationRecord.providerConflicts, hvalue] using hagrees
    rw [hsame]
    rfl

variable {isRfc3339}

theorem staysFinal_write {t : OperationTables} (w : OperationWrite) {id : Uuid}
    {row : OperationRecord} (hget : t.operations.get? id = some row)
    (hterminal : row.state.isTerminal = true) :
    ∃ row', (write isRfc3339 t w).operations.get? id = some row' ∧ StaysFinal row row' := by
  have hsame : StaysFinal row row := ⟨rfl, fun _ h => h⟩
  have hwritten := written_write isRfc3339 t w
  generalize write isRfc3339 t w = t' at hwritten
  cases hwritten with
  | unchanged => exact ⟨row, hget, hsame⟩
  | evidence current written _ hcurrent hstate hagrees hid hfinal hprovider hoperations =>
    have hkey : written.id = w.operationId := hid.trans (t.operations.key_of_get? hcurrent)
    rw [hoperations]
    by_cases hoperation : id = w.operationId
    · subst hoperation
      rw [hget] at hcurrent
      cases hcurrent
      refine ⟨written, by rw [← hkey, Table.get?_put_self], hfinal, ?_⟩
      intro value hvalue
      rw [hprovider]
      exact provider_kept hagrees hvalue
    · refine ⟨row, ?_, hsame⟩
      rw [t.operations.get?_put_of_ne (by rw [hkey]; exact Ne.symm hoperation), hget]
  | opened current written _ hcurrent hopen hid hoperations =>
    have hkey : written.id = w.operationId := hid.trans (t.operations.key_of_get? hcurrent)
    rw [hoperations]
    by_cases hoperation : id = w.operationId
    · subst hoperation
      rw [hget] at hcurrent
      cases hcurrent
      rw [hterminal] at hopen
      cases hopen
    · refine ⟨row, ?_, hsame⟩
      rw [t.operations.get?_put_of_ne (by rw [hkey]; exact Ne.symm hoperation), hget]

/-- The write asks for another state, or carries another identity. -/
def WouldChange (w : OperationWrite) (row : OperationRecord) : Prop :=
  w.state ≠ row.state ∨ row.providerConflicts w.providerOperationId = true

theorem unchanged_of_wouldChange {t : OperationTables} {w : OperationWrite} {row : OperationRecord}
    (hget : t.operations.get? w.operationId = some row) (hterminal : row.state.isTerminal = true)
    (hchange : WouldChange w row) :
    write isRfc3339 t w = t := by
  have hwritten := written_write isRfc3339 t w
  generalize write isRfc3339 t w = t' at hwritten
  cases hwritten with
  | unchanged => rfl
  | evidence current _ _ hcurrent hstate hagrees =>
    rw [hget] at hcurrent
    cases hcurrent
    rcases hchange with hne | hconflicts
    · exact absurd hstate.symm hne
    · rw [hagrees] at hconflicts
      cases hconflicts
  | opened current _ _ hcurrent hopen =>
    rw [hget] at hcurrent
    cases hcurrent
    rw [hterminal] at hopen
    cases hopen

variable (isRfc3339)

/-- **Terminal operations are final** on all four write paths, in every
interleaving: the state and a stored provider identity stay, and a write that
would change either does nothing. -/
theorem terminal_operations_final (t : OperationTables) (writes : List OperationWrite) :
    (∀ id row, t.operations.get? id = some row → row.state.isTerminal = true →
      ∃ row', (run (write isRfc3339) t writes).operations.get? id = some row' ∧
        StaysFinal row row') ∧
      EachStep (write isRfc3339)
        (fun t w =>
          ∀ row, t.operations.get? w.operationId = some row → row.state.isTerminal = true →
            WouldChange w row → write isRfc3339 t w = t)
        t writes := by
  constructor
  · induction writes generalizing t with
    | nil => exact fun _ row hget _ => ⟨row, hget, rfl, fun _ h => h⟩
    | cons w writes ih =>
      intro id row hget hterminal
      obtain ⟨row', hget', hfirst⟩ :
          ∃ row', (write isRfc3339 t w).operations.get? id = some row' ∧ StaysFinal row row' :=
        staysFinal_write w hget hterminal
      obtain ⟨row'', hget'', hrest⟩ :=
        ih (write isRfc3339 t w) id row' hget' (by rw [hfirst.state, hterminal])
      exact ⟨row'', hget'', hfirst.trans hrest⟩
  · exact eachStep_of_invariant (I := fun _ => True) (fun _ _ _ => trivial)
      (fun t w _ _ hget hterminal hchange => unchanged_of_wouldChange hget hterminal hchange)
      t writes trivial

end Runs

end Operations
end O3k
