import O3k.Relational.Table
import O3k.Relational.Transaction

/-!
# Inserts one after the other

A loop of `INSERT`s ends at the first row that cannot be made or whose key is
taken.  What it leaves is said once here; into an empty table, the rows of a
table come back as that table.
-/

namespace O3k
namespace Relational

open Transaction

universe u v w

variable {α : Type u} {ρ : Type u} {κ : Type v} {ε : Type w} [LinearOrder κ] {key : ρ → κ}

/-- Make and insert one row after the other. -/
def insertEach (duplicate : ε) (row : α → Except ε ρ) :
    List α → Table key → Except ε (Table key)
  | [], t => .ok t
  | x :: xs, t =>
    match row x with
    | .error e => .error e
    | .ok r =>
      match t.insert? r with
      | none => .error duplicate
      | some t => insertEach duplicate row xs t

section InsertEach

variable {duplicate : ε} {row : α → Except ε ρ}

theorem insertEach_eq_ok_iff {xs : List α} {t t' : Table key} :
    insertEach duplicate row xs t = .ok t' ↔
    ∃ rows, List.Forall₂ (fun x r => row x = .ok r) xs rows ∧ (rows.map key).Nodup ∧
      (∀ r ∈ rows, t.get? (key r) = none) ∧
      t' = rows.foldl Table.put t := by
  induction xs generalizing t with
  | nil => simp [insertEach, eq_comm]
  | cons x xs ih =>
    cases hrow : row x with
    | error e =>
      simp only [insertEach, hrow, reduceCtorEq, false_iff]
      rintro ⟨rows, hmade, _⟩
      cases hmade with
      | cons hmade _ => cases hrow.symm.trans hmade
    | ok r =>
      cases hget : t.get? (key r) with
      | some stored =>
        simp only [insertEach, hrow, Table.insert?, hget, reduceCtorEq, false_iff]
        rintro ⟨rows, hmade, _, hfresh, _⟩
        cases hmade with
        | cons hmade _ =>
          cases hrow.symm.trans hmade
          cases hget.symm.trans (hfresh r List.mem_cons_self)
      | none =>
        simp only [insertEach, hrow, t.insert?_of_absent hget, ih]
        constructor
        · rintro ⟨rows, hmade, hnodup, hfresh, rfl⟩
          have hne : ∀ x ∈ rows, key x ≠ key r := by
            intro x hx hkey
            have hnone := hfresh x hx
            rw [hkey, Table.get?_put, if_pos rfl] at hnone
            cases hnone
          refine ⟨r :: rows, .cons hrow hmade, ?_, ?_, rfl⟩
          · refine List.nodup_cons.mpr ⟨?_, hnodup⟩
            intro hmem
            obtain ⟨x, hx, hkey⟩ := List.mem_map.mp hmem
            exact hne x hx hkey
          · intro x hx
            rcases List.mem_cons.mp hx with rfl | hx
            · exact hget
            · exact (t.get?_put_of_ne (Ne.symm (hne x hx))).symm.trans (hfresh x hx)
        · rintro ⟨rows, hmade, hnodup, hfresh, rfl⟩
          cases hmade with
          | @cons _ made _ rows hmade hrest =>
            cases hrow.symm.trans hmade
            obtain ⟨hnew, hnodup⟩ := List.nodup_cons.mp hnodup
            refine ⟨rows, hrest, hnodup, ?_, rfl⟩
            intro x hx
            have hne : key r ≠ key x :=
              fun hkey => hnew (hkey ▸ List.mem_map_of_mem hx)
            rw [t.get?_put_of_ne hne]
            exact hfresh x (List.mem_cons_of_mem _ hx)

/-- **A table comes back**: what stands for its rows is inserted when every row
can be made, and gives the table. -/
theorem insertEach_rows_eq_ok_iff
    (u : Table key) (f : ρ → α) (hback : ∀ r r', row (f r) = .ok r' → r' = r) {t' : Table key} :
    insertEach duplicate row (u.rows.map f) ∅ = .ok t' ↔
    (∀ r ∈ u.rows, row (f r) = .ok r) ∧ t' = u := by
  rw [insertEach_eq_ok_iff]
  constructor
  · rintro ⟨rows, hmade, _, _, rfl⟩
    rw [List.forall₂_map_left_iff] at hmade
    have hsame : u.rows = rows := by
      rw [← List.forall₂_eq_eq_eq]
      exact hmade.imp (fun r r' h => (hback r r' h).symm)
    subst hsame
    exact ⟨fun r hr => List.forall₂_same.mp hmade r hr, u.ofList_rows⟩
  · rintro ⟨hmade, rfl⟩
    refine ⟨t'.rows, ?_, t'.keys_nodup, fun _ _ => rfl, t'.ofList_rows.symm⟩
    rw [List.forall₂_map_left_iff]
    exact List.forall₂_same.mpr hmade

end InsertEach

/-- `INSERT … ON CONFLICT DO NOTHING`, row after row. -/
def insertAbsent (t : Table key) (rows : List ρ) : Table key := rows.foldl Table.insertIfAbsent t

theorem get?_insertAbsent (t : Table key) (rows : List ρ) (k : κ) :
    (insertAbsent t rows).get? k = (t.get? k).or (rows.find? (fun r => key r = k)) := by
  induction rows generalizing t with
  | nil => simp [insertAbsent]
  | cons r rest ih =>
    show (insertAbsent (t.insertIfAbsent r) rest).get? k = _
    rw [ih]
    cases hget : t.get? (key r) with
    | some stored =>
      rw [t.insertIfAbsent_of_present hget]
      by_cases hk : key r = k
      · rw [← hk, hget, Option.some_or, Option.some_or]
      · rw [List.find?_cons_of_neg (by simpa using hk)]
    | none =>
      rw [t.insertIfAbsent_of_absent hget]
      by_cases hk : key r = k
      · rw [List.find?_cons_of_pos (by simpa using hk), Table.get?_put, if_pos hk, ← hk, hget]
        rfl
      · rw [List.find?_cons_of_neg (by simpa using hk), t.get?_put_of_ne hk]

theorem insertAbsent_of_present {t : Table key} {rows : List ρ}
    (h : ∀ r ∈ rows, t.get? (key r) ≠ none) :
    insertAbsent t rows = t := by
  induction rows with
  | nil => rfl
  | cons r rest ih =>
    obtain ⟨stored, hget⟩ := Option.ne_none_iff_exists'.mp (h r List.mem_cons_self)
    show insertAbsent (t.insertIfAbsent r) rest = t
    rw [t.insertIfAbsent_of_present hget]
    exact ih (fun x hx => h x (List.mem_cons_of_mem _ hx))

end Relational
end O3k
