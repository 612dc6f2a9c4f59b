import Mathlib.Algebra.Order.BigOperators.Group.List
import Mathlib.Algebra.Order.Group.Nat
import Mathlib.Data.List.Find
import Mathlib.Data.List.Nodup
import Mathlib.Data.List.Pairwise

/-!
# Tables with a primary key

A table is a list of rows in strictly increasing order of a key.  The order
carries two facts about every value of the type at once: no key occurs twice
(the primary-key constraint), and reading the rows in table order is reading
them `ORDER BY` the key.

The statements of a relational store are the operations.  Each has one lookup
lemma and one membership lemma, and a column can be summed over the rows.
-/

namespace O3k
namespace Relational

universe u v w

variable {ρ : Type u} {κ : Type v} [LinearOrder κ]

/-- Put a row in key order, replacing the row with the same key if there is one. -/
def insertRow (key : ρ → κ) (r : ρ) :
    List ρ → List ρ
  | [] => [r]
  | x :: xs =>
    if key r < key x then
      r :: x :: xs
    else if key x < key r then
      x :: insertRow key r xs
    else
      r :: xs

theorem mem_insertRow_of_sorted {key : ρ → κ} {r x : ρ} {rows : List ρ}
    (hsorted : rows.Pairwise (fun a b => key a < key b)) :
    x ∈ insertRow key r rows ↔ x = r ∨ (x ∈ rows ∧ key x ≠ key r) := by
  induction rows with
  | nil => simp [insertRow]
  | cons y ys ih =>
    obtain ⟨hhead, htail⟩ := List.pairwise_cons.mp hsorted
    simp only [insertRow]
    split_ifs with hlt hgt
    · -- `r` goes in front: every old row has a larger key
      have hold : ∀ z ∈ y :: ys, key z ≠ key r := by
        intro z hz
        rcases List.mem_cons.mp hz with rfl | hz
        · exact hlt.ne'
        · exact (hlt.trans (hhead z hz)).ne'
      simp only [List.mem_cons]
      constructor
      · rintro (rfl | hx)
        · exact Or.inl rfl
        · exact Or.inr ⟨hx, hold x (List.mem_cons.mpr hx)⟩
      · rintro (rfl | ⟨hx, _⟩)
        · exact Or.inl rfl
        · exact Or.inr hx
    · simp only [List.mem_cons, ih htail]
      constructor
      · rintro (rfl | rfl | ⟨hx, hne⟩)
        · exact Or.inr ⟨Or.inl rfl, hgt.ne⟩
        · exact Or.inl rfl
        · exact Or.inr ⟨Or.inr hx, hne⟩
      · rintro (rfl | ⟨rfl | hx, hne⟩)
        · exact Or.inr (Or.inl rfl)
        · exact Or.inl rfl
        · exact Or.inr (Or.inr ⟨hx, hne⟩)
    · -- the head row has the key of `r` and is replaced
      have hkey : key y = key r := le_antisymm (not_lt.mp hlt) (not_lt.mp hgt)
      simp only [List.mem_cons]
      constructor
      · rintro (rfl | hx)
        · exact Or.inl rfl
        · exact Or.inr ⟨Or.inr hx, (hkey ▸ hhead x hx).ne'⟩
      · rintro (rfl | ⟨rfl | hx, hne⟩)
        · exact Or.inl rfl
        · exact absurd hkey hne
        · exact Or.inr hx

theorem insertRow_sorted {key : ρ → κ} {rows : List ρ} (r : ρ)
    (hsorted : rows.Pairwise (fun a b => key a < key b)) :
    (insertRow key r rows).Pairwise (fun a b => key a < key b) := by
  induction rows with
  | nil => simp [insertRow]
  | cons y ys ih =>
    obtain ⟨hhead, htail⟩ := List.pairwise_cons.mp hsorted
    simp only [insertRow]
    split_ifs with hlt hgt
    · refine List.pairwise_cons.mpr ⟨?_, hsorted⟩
      intro z hz
      rcases List.mem_cons.mp hz with rfl | hz
      · exact hlt
      · exact hlt.trans (hhead z hz)
    · refine List.pairwise_cons.mpr ⟨?_, ih htail⟩
      intro z hz
      rcases (mem_insertRow_of_sorted htail).mp hz with rfl | ⟨hz, _⟩
      · exact hgt
      · exact hhead z hz
    · have hkey : key y = key r :=
        le_antisymm (not_lt.mp hlt) (not_lt.mp hgt)
      exact List.pairwise_cons.mpr ⟨fun z hz => hkey ▸ hhead z hz, htail⟩

/-- Rows in strictly increasing key order. -/
structure Table (key : ρ → κ) where
  rows : List ρ
  sorted : rows.Pairwise (fun a b => key a < key b)

namespace Table

variable {key : ρ → κ}

@[ext] theorem ext {t t' : Table key} (h : t.rows = t'.rows) : t = t' := by
  cases t
  cases t'
  cases h
  rfl

instance [DecidableEq ρ] : DecidableEq (Table key) :=
  fun t t' =>
    decidable_of_iff (t.rows = t'.rows)
      ⟨Table.ext, fun h => h ▸ rfl⟩

def empty : Table key := ⟨[], List.Pairwise.nil⟩

instance : EmptyCollection (Table key) :=
  ⟨empty⟩

instance : Inhabited (Table key) :=
  ⟨empty⟩

variable (t : Table key)

/-- `SELECT … WHERE key = k`. -/
def get? (k : κ) : Option ρ :=
  t.rows.find? (fun r => decide (key r = k))

def put (r : ρ) : Table key := ⟨insertRow key r t.rows, insertRow_sorted r t.sorted⟩

/-- `INSERT`: refused when the key is present. -/
def insert? (r : ρ) : Option (Table key) :=
  match t.get? (key r) with
  | none => some (t.put r)
  | some _ => none

/-- `INSERT … ON CONFLICT(key) DO NOTHING`. -/
def insertIfAbsent (r : ρ) : Table key := (t.insert? r).getD t

/-- `UPDATE` of every row by a function that leaves the key alone. -/
def update (f : ρ → ρ) (hkey : ∀ r, key (f r) = key r) : Table key :=
  ⟨t.rows.map f,
    List.pairwise_map.mpr
      (t.sorted.imp (fun {a b} h => by simpa only [hkey] using h))⟩

/-- What a view shows of each row, under the same key. -/
def view {ρ' : Type*} {key' : ρ' → κ} (f : ρ → ρ') (hkey : ∀ r, key' (f r) = key r) : Table key' :=
  ⟨t.rows.map f,
    List.pairwise_map.mpr
      (t.sorted.imp (fun {a b} h => by simpa only [hkey] using h))⟩

/-- `DELETE … WHERE p`. -/
def deleteWhere (p : ρ → Bool) : Table key :=
  ⟨t.rows.filter (fun r => !p r), t.sorted.filter _⟩

/-- The table with the given rows; of rows with one key the last counts. -/
def ofList (rows : List ρ) : Table key := rows.foldl put ∅

/-- `SUM` of a column over the rows. -/
def sumBy {M : Type w} [AddCommMonoid M] (f : ρ → M) : M := (t.rows.map f).sum

@[simp] theorem get?_empty (k : κ) : (∅ : Table key).get? k = none := by
  rfl

@[simp] theorem rows_empty : (∅ : Table key).rows = [] := by
  rfl

theorem keys_nodup : (t.rows.map key).Nodup :=
  List.pairwise_map.mpr (t.sorted.imp (fun h => h.ne))

theorem eq_of_mem_of_key_eq {a b : ρ} (ha : a ∈ t.rows) (hb : b ∈ t.rows) (hkey : key a = key b) :
    a = b :=
  List.inj_on_of_nodup_map t.keys_nodup ha hb hkey

variable {k : κ}

theorem get?_eq_some_iff {r : ρ} : t.get? k = some r ↔ r ∈ t.rows ∧ key r = k := by
  constructor
  · intro h
    have hkey : decide (key r = k) = true := by
      simpa using List.find?_some h
    exact ⟨List.mem_of_find?_eq_some h, of_decide_eq_true hkey⟩
  · rintro ⟨hmem, rfl⟩
    cases hfind : t.get? (key r) with
    | none =>
      have habsent := List.find?_eq_none.mp hfind r hmem
      simp at habsent
    | some r' =>
      have hmem' := List.mem_of_find?_eq_some hfind
      have hkey' : decide (key r' = key r) = true := by
        simpa using List.find?_some hfind
      rw [t.eq_of_mem_of_key_eq hmem' hmem (of_decide_eq_true hkey')]

theorem get?_eq_none_iff {k : κ} : t.get? k = none ↔ ∀ r ∈ t.rows, key r ≠ k := by
  simp [get?, List.find?_eq_none]

variable {r : ρ}

theorem get?_key_of_mem (h : r ∈ t.rows) : t.get? (key r) = some r :=
  t.get?_eq_some_iff.mpr ⟨h, rfl⟩

variable {p : ρ → Bool}

theorem find?_eq_get? (h : ∀ r ∈ t.rows, p r = decide (key r = k)) : t.rows.find? p = t.get? k :=
  List.find?_congr h

theorem mem_of_get? (h : t.get? k = some r) : r ∈ t.rows := (t.get?_eq_some_iff.mp h).1

theorem key_of_get? (h : t.get? k = some r) : key r = k := (t.get?_eq_some_iff.mp h).2

theorem mem_put {r x : ρ} : x ∈ (t.put r).rows ↔ x = r ∨ (x ∈ t.rows ∧ key x ≠ key r) :=
  mem_insertRow_of_sorted t.sorted

theorem get?_put (r : ρ) (k : κ) : (t.put r).get? k = if key r = k then some r else t.get? k := by
  split_ifs with hk
  · exact (get?_eq_some_iff _).mpr ⟨t.mem_put.mpr (Or.inl rfl), hk⟩
  · cases hget : t.get? k with
    | none =>
      refine (get?_eq_none_iff _).mpr ?_
      intro x hx
      rcases t.mem_put.mp hx with rfl | ⟨hx, _⟩
      · exact hk
      · exact t.get?_eq_none_iff.mp hget x hx
    | some x =>
      obtain ⟨hmem, hkey⟩ := t.get?_eq_some_iff.mp hget
      refine (get?_eq_some_iff _).mpr ⟨t.mem_put.mpr (Or.inr ⟨hmem, ?_⟩), hkey⟩
      rw [hkey]
      exact fun h => hk h.symm

@[simp] theorem get?_put_self (r : ρ) : (t.put r).get? (key r) = some r := by
  simp [get?_put]

theorem get?_put_of_ne (h : key r ≠ k) : (t.put r).get? k = t.get? k := by
  simp [get?_put, h]

theorem insert?_eq_some_iff (t t' : Table key) {r : ρ} :
    t.insert? r = some t' ↔ t.get? (key r) = none ∧ t' = t.put r := by
  unfold insert?
  cases t.get? (key r) with
  | none => simp [eq_comm]
  | some _ => simp

theorem insert?_of_absent (h : t.get? (key r) = none) : t.insert? r = some (t.put r) := by
  simp [insert?, h]

theorem insertIfAbsent_of_present {x : ρ} (h : t.get? (key r) = some x) :
    t.insertIfAbsent r = t := by
  simp [insertIfAbsent, insert?, h]

theorem insertIfAbsent_of_absent (h : t.get? (key r) = none) : t.insertIfAbsent r = t.put r := by
  simp [insertIfAbsent, insert?, h]

theorem mem_update {f : ρ → ρ} {hkey : ∀ r, key (f r) = key r} {x : ρ} :
    x ∈ (t.update f hkey).rows ↔ ∃ r ∈ t.rows, f r = x :=
  List.mem_map

theorem get?_update (f : ρ → ρ) (hkey : ∀ r, key (f r) = key r) (k : κ) :
    (t.update f hkey).get? k = (t.get? k).map f := by
  cases hget : t.get? k with
  | none =>
    refine (get?_eq_none_iff _).mpr ?_
    intro x hx
    obtain ⟨r, hr, rfl⟩ := t.mem_update.mp hx
    rw [hkey]
    exact t.get?_eq_none_iff.mp hget r hr
  | some r =>
    obtain ⟨hmem, hk⟩ := t.get?_eq_some_iff.mp hget
    refine (get?_eq_some_iff _).mpr ⟨t.mem_update.mpr ⟨r, hmem, rfl⟩, ?_⟩
    rw [hkey, hk]

theorem get?_view {ρ' : Type*} {g : ρ' → κ} (f : ρ → ρ') (hkey : ∀ r, g (f r) = key r) (k : κ) :
    (t.view f hkey).get? k = (t.get? k).map f := by
  show (t.rows.map f).find? _ = (t.rows.find? _).map f
  rw [List.find?_map]
  congr 1
  exact List.find?_congr (fun r _ => by simp [hkey])

theorem mem_deleteWhere {x : ρ} : x ∈ (t.deleteWhere p).rows ↔ x ∈ t.rows ∧ p x = false := by
  simp [deleteWhere]

theorem get?_deleteWhere (p : ρ → Bool) (k : κ) :
    (t.deleteWhere p).get? k = (t.get? k).filter (fun r => !p r) := by
  cases hget : t.get? k with
  | none =>
    refine (get?_eq_none_iff _).mpr ?_
    intro x hx
    exact t.get?_eq_none_iff.mp hget x (t.mem_deleteWhere.mp hx).1
  | some r =>
    obtain ⟨hmem, hk⟩ := t.get?_eq_some_iff.mp hget
    cases hp : p r with
    | true =>
      simp only [Option.filter, hp, Bool.not_true, Bool.false_eq_true, if_false]
      refine (get?_eq_none_iff _).mpr ?_
      intro x hx hxk
      obtain ⟨hx, hpx⟩ := t.mem_deleteWhere.mp hx
      rw [t.eq_of_mem_of_key_eq hx hmem (hxk.trans hk.symm), hp] at hpx
      exact Bool.noConfusion hpx
    | false =>
      simp only [Option.filter, hp, Bool.not_false, if_true]
      exact (get?_eq_some_iff _).mpr ⟨t.mem_deleteWhere.mpr ⟨hmem, hp⟩, hk⟩

theorem ext_mem {t t' : Table key} (h : ∀ r, r ∈ t.rows ↔ r ∈ t'.rows) : t = t' := by
  have hnodup : ∀ u : Table key, u.rows.Nodup :=
    fun u => List.Nodup.of_map key u.keys_nodup
  have hperm : t.rows.Perm t'.rows := (List.perm_ext_iff_of_nodup (hnodup t) (hnodup t')).mpr h
  refine Table.ext (hperm.eq_of_pairwise ?_ t.sorted t'.sorted)
  intro a b _ _ hab hba
  exact absurd hba (lt_asymm hab)

theorem ext_get? {t t' : Table key} (h : ∀ k, t.get? k = t'.get? k) : t = t' := by
  refine ext_mem ?_
  intro r
  constructor
  · intro hr
    exact t'.mem_of_get? (h (key r) ▸ t.get?_key_of_mem hr)
  · intro hr
    exact t.mem_of_get? ((h (key r)).symm ▸ t'.get?_key_of_mem hr)

theorem put_put {r' : ρ} (hkey : key r = key r') : (t.put r).put r' = t.put r' := by
  refine ext_get? ?_
  intro k
  simp only [get?_put, hkey]
  split_ifs with hk
  · rfl
  · rfl

theorem put_self (h : r ∈ t.rows) : t.put r = t := by
  refine ext_get? ?_
  intro k
  rw [get?_put]
  split_ifs with hk
  · rw [← hk, t.get?_key_of_mem h]
  · rfl

theorem mem_ofList {rows : List ρ} (hnodup : (rows.map key).Nodup) {x : ρ} :
    x ∈ (ofList rows : Table key).rows ↔ x ∈ rows := by
  suffices hgeneral :
      ∀ (rows : List ρ) (u : Table key),
        (rows.map key).Nodup →
        (∀ x ∈ u.rows, key x ∉ rows.map key) →
        ∀ x, x ∈ (rows.foldl put u).rows ↔ x ∈ u.rows ∨ x ∈ rows by
    simpa [ofList] using hgeneral rows ∅ hnodup (by simp) x
  intro rows
  induction rows with
  | nil => simp
  | cons r rest ih =>
    intro u hnodup hfresh x
    obtain ⟨hr, hrest⟩ : key r ∉ rest.map key ∧ (rest.map key).Nodup :=
      List.nodup_cons.mp hnodup
    have hkept : ∀ y ∈ u.rows, key y ≠ key r :=
      fun y hy hkey => hfresh y hy (by simp [hkey])
    rw [List.foldl_cons, ih _ hrest]
    · simp only [mem_put, List.mem_cons]
      constructor
      · rintro ((rfl | ⟨hx, _⟩) | hx)
        · exact Or.inr (Or.inl rfl)
        · exact Or.inl hx
        · exact Or.inr (Or.inr hx)
      · rintro (hx | rfl | hx)
        · exact Or.inl (Or.inr ⟨hx, hkept x hx⟩)
        · exact Or.inl (Or.inl rfl)
        · exact Or.inr hx
    · intro y hy hmem
      rcases u.mem_put.mp hy with rfl | ⟨hy, _⟩
      · exact hr hmem
      · exact hfresh y hy (List.mem_cons_of_mem _ hmem)

theorem ofList_rows : ofList t.rows = t :=
  ext_mem (fun _ => mem_ofList t.keys_nodup)

/-- Of the rows with one key, the last is stored. -/
theorem get?_foldl_put (rows : List ρ) (t : Table key) (k : κ) :
    (rows.foldl put t).get? k = ((rows.filter (fun r => key r = k)).getLast?).or (t.get? k) := by
  induction rows generalizing t with
  | nil => rfl
  | cons r rest ih =>
    rw [List.foldl_cons, ih, get?_put]
    by_cases hk : key r = k
    · simp [hk, List.getLast?_cons]
    · simp [hk]

theorem get?_foldl_put_rows (s t : Table key) (k : κ) :
    (s.rows.foldl put t).get? k = (s.get? k).or (t.get? k) := by
  have hs : (s.rows.filter (fun r => key r = k)).getLast? = s.get? k := by
    have h := get?_foldl_put s.rows (∅ : Table key) k
    rw [get?_empty, Option.or_none] at h
    exact h.symm.trans (congrArg (fun t : Table key => t.get? k) (ofList_rows s))
  rw [get?_foldl_put, hs]

theorem put_comm {a b : ρ} (h : key a ≠ key b) : (t.put a).put b = (t.put b).put a := by
  refine ext_get? (fun k => ?_)
  simp only [get?_put]
  split_ifs with hb ha
  · exact absurd (ha.trans hb.symm) h
  · rfl
  · rfl
  · rfl

/-- Rows with different keys may be stored in any order. -/
theorem foldl_put_perm {xs ys : List ρ} (hperm : xs.Perm ys) (hnodup : (xs.map key).Nodup) :
    xs.foldl put t = ys.foldl put t := by
  refine hperm.foldl_eq' ?_ t
  intro a ha b hb t
  by_cases hab : key a = key b
  · rw [List.inj_on_of_nodup_map hnodup ha hb hab]
  · exact put_comm t hab

theorem filter_key_eq_toList {rows : List ρ} (hnodup : (rows.map key).Nodup)
    (hrows : ∀ r, r ∈ rows ↔ r ∈ t.rows) (k : κ) :
    rows.filter (fun r => key r = k) = (t.get? k).toList := by
  have hperm :
      (rows.filter (fun r => key r = k)).Perm (t.get? k).toList := by
    refine (List.perm_ext_iff_of_nodup ((hnodup.of_map key).filter _) ?_).mpr ?_
    · cases t.get? k <;> simp
    · intro r
      simp [hrows, t.get?_eq_some_iff]
  cases hget : t.get? k with
  | none =>
    rw [hget] at hperm
    exact List.perm_nil.mp hperm
  | some r =>
    rw [hget] at hperm
    exact List.perm_singleton.mp hperm

theorem deleteWhere_congr {q : ρ → Bool} (h : ∀ r ∈ t.rows, p r = q r) :
    t.deleteWhere p = t.deleteWhere q := by
  refine Table.ext (List.filter_congr ?_)
  intro r hr
  rw [h r hr]

theorem deleteWhere_deleteWhere (p q : ρ → Bool) :
    (t.deleteWhere p).deleteWhere q = t.deleteWhere (fun r => p r || q r) := by
  refine Table.ext ?_
  simp [deleteWhere, List.filter_filter, Bool.and_comm]

theorem deleteWhere_of_false (h : ∀ r ∈ t.rows, p r = false) : t.deleteWhere p = t := by
  refine Table.ext (List.filter_eq_self.mpr ?_)
  intro r hr
  rw [h r hr]
  rfl

theorem foldl_delete {ι : Type*} (f : ι → κ) (xs : List ι) (t : Table key) :
    xs.foldl (fun u x => u.deleteWhere (fun r => decide (key r = f x))) t =
    t.deleteWhere (fun r => decide (key r ∈ xs.map f)) := by
  induction xs generalizing t with
  | nil => exact (t.deleteWhere_of_false (by simp)).symm
  | cons x xs ih =>
    rw [List.foldl_cons, ih, deleteWhere_deleteWhere]
    refine t.deleteWhere_congr ?_
    intro r _
    simp

theorem deleteWhere_mem_keys (p : ρ → Bool) :
    t.deleteWhere (fun r => decide (key r ∈ (t.rows.filter p).map key)) = t.deleteWhere p := by
  refine t.deleteWhere_congr ?_
  intro r hr
  cases hp : p r with
  | true => exact decide_eq_true (List.mem_map_of_mem (List.mem_filter.mpr ⟨hr, hp⟩))
  | false =>
    refine decide_eq_false ?_
    intro hmem
    obtain ⟨r', hr', hkey⟩ := List.mem_map.mp hmem
    obtain ⟨hr', hp'⟩ := List.mem_filter.mp hr'
    rw [t.eq_of_mem_of_key_eq hr' hr hkey, hp] at hp'
    exact Bool.noConfusion hp'

section Sums

variable {M : Type w} [AddCommMonoid M]

theorem sum_map_filter {α : Type*} (rows : List α) (p : α → Bool) (f : α → M) :
    ((rows.filter p).map f).sum = (rows.map fun r => if p r then f r else 0).sum := by
  induction rows with
  | nil => rfl
  | cons r rows ih => cases hp : p r <;> simp [hp, ih]

theorem sum_insertRow_of_absent
    (f : ρ → M) (r : ρ) (rows : List ρ) (habsent : ∀ x ∈ rows, key x ≠ key r) :
    ((insertRow key r rows).map f).sum = f r + (rows.map f).sum := by
  induction rows with
  | nil => simp [insertRow]
  | cons y ys ih =>
    have hys : ∀ x ∈ ys, key x ≠ key r :=
      fun x hx => habsent x (List.mem_cons_of_mem _ hx)
    simp only [insertRow]
    split_ifs with hlt hgt
    · simp
    · simp only [List.map_cons, List.sum_cons, ih hys]
      exact add_left_comm _ _ _
    · exact absurd (le_antisymm (not_lt.mp hlt) (not_lt.mp hgt)) (habsent y List.mem_cons_self)

variable (t : Table key)

theorem sumBy_put_of_absent (f : ρ → M) {r : ρ} (h : t.get? (key r) = none) :
    (t.put r).sumBy f = f r + t.sumBy f :=
  sum_insertRow_of_absent f r t.rows (t.get?_eq_none_iff.mp h)

theorem sumBy_deleteWhere_add (f : ρ → M) (p : ρ → Bool) :
    (t.deleteWhere p).sumBy f + ((t.rows.filter p).map f).sum = t.sumBy f := by
  show ((t.rows.filter (fun r => !p r)).map f).sum + _ = (t.rows.map f).sum
  induction t.rows with
  | nil => simp
  | cons x xs ih =>
    cases hp : p x with
    | true =>
      simp only [List.filter_cons, hp, Bool.not_true, Bool.false_eq_true, if_false,
        if_true, List.map_cons, List.sum_cons]
      rw [← ih]
      exact add_left_comm _ _ _
    | false =>
      simp only [List.filter_cons, hp, Bool.not_false, Bool.false_eq_true, if_false,
        if_true, List.map_cons, List.sum_cons]
      rw [← ih]
      exact add_assoc _ _ _

theorem sum_filter_key_add
    (f : ρ → M) (r : ρ) (rows : List ρ) (hnodup : (rows.map key).Nodup) (hmem : r ∈ rows) :
    ((rows.filter (fun x => !decide (key x = key r))).map f).sum + f r = (rows.map f).sum := by
  induction rows with
  | nil => exact absurd hmem List.not_mem_nil
  | cons y ys ih =>
    obtain ⟨hy, hys⟩ : key y ∉ ys.map key ∧ (ys.map key).Nodup :=
      List.nodup_cons.mp hnodup
    rcases List.mem_cons.mp hmem with rfl | hmem
    · have hkeep : ys.filter (fun x => !decide (key x = key r)) = ys := by
        refine List.filter_eq_self.mpr ?_
        intro x hx
        have hne : key x ≠ key r := fun hk =>
          hy (hk ▸ List.mem_map_of_mem hx)
        simpa using hne
      simp [hkeep, add_comm]
    · have hne : key y ≠ key r := fun hk =>
        hy (hk ▸ List.mem_map_of_mem hmem)
      simp only [List.filter_cons, hne, decide_false, Bool.not_false, if_true,
        List.map_cons, List.sum_cons]
      rw [add_assoc, ih hys hmem]

theorem sumBy_delete_key_add (f : ρ → M) {r : ρ} (h : r ∈ t.rows) :
    (t.deleteWhere (fun x => decide (key x = key r))).sumBy f + f r = t.sumBy f :=
  sum_filter_key_add f r t.rows t.keys_nodup h

/-- Writing a row exchanges the column value of the row it replaces for its own. -/
theorem sumBy_put_add (f : ρ → M) (r : ρ) :
    (t.put r).sumBy f + (t.get? (key r)).elim 0 f = t.sumBy f + f r := by
  cases hget : t.get? (key r) with
  | none => rw [t.sumBy_put_of_absent f hget, Option.elim_none, add_zero, add_comm]
  | some old =>
    have hold := t.mem_of_get? hget
    have hkey := t.key_of_get? hget
    have hdelete := t.sumBy_delete_key_add f hold
    have habsent :
        (t.deleteWhere (fun x => decide (key x = key old))).get? (key r) = none := by
      rw [get?_eq_none_iff]
      intro x hx hxr
      obtain ⟨_, hne⟩ := (mem_deleteWhere ..).mp hx
      simp [hxr, hkey] at hne
    have hput :
        (t.deleteWhere (fun x => decide (key x = key old))).put r = t.put r := by
      refine ext_mem fun x => ?_
      simp only [mem_put, mem_deleteWhere, hkey]
      simp
    rw [← hput, sumBy_put_of_absent _ f habsent, Option.elim_some, ← hdelete, add_comm (f r),
      add_right_comm]

theorem sumBy_eq_single {f : ρ → M} {r : ρ} (hr : r ∈ t.rows)
    (hothers : ∀ x ∈ t.rows, x ≠ r → f x = 0) :
    t.sumBy f = f r := by
  have hzero : (t.deleteWhere (fun x => decide (key x = key r))).sumBy f = 0 := by
    refine List.sum_eq_zero ?_
    intro m hm
    obtain ⟨x, hx, rfl⟩ := List.mem_map.mp hm
    obtain ⟨hmem, hkey⟩ := (mem_deleteWhere _).mp hx
    exact hothers x hmem fun heq => of_decide_eq_false hkey (heq ▸ rfl)
  rw [← t.sumBy_delete_key_add f hr, hzero, zero_add]

/-- Two columns that differ in one row only have sums that differ by that row. -/
theorem sumBy_add_of_agree {f g : ρ → M} {r : ρ} (hr : r ∈ t.rows)
    (hagree : ∀ x ∈ t.rows, key x ≠ key r → f x = g x) :
    t.sumBy f + g r = t.sumBy g + f r := by
  have hrest :
      (t.deleteWhere (fun x => decide (key x = key r))).sumBy f
        =
      (t.deleteWhere (fun x => decide (key x = key r))).sumBy g := by
    refine congrArg List.sum (List.map_congr_left ?_)
    intro x hx
    obtain ⟨hmem, hkey⟩ := (mem_deleteWhere _).mp hx
    exact hagree x hmem (of_decide_eq_false hkey)
  rw [← t.sumBy_delete_key_add f hr, ← t.sumBy_delete_key_add g hr, hrest, add_right_comm]

theorem sumBy_deleteWhere_of_zero {f : ρ → M} {p : ρ → Bool}
    (h : ∀ r ∈ t.rows, p r = true → f r = 0) :
    (t.deleteWhere p).sumBy f = t.sumBy f := by
  have hzero : ((t.rows.filter p).map f).sum = 0 := by
    refine List.sum_eq_zero ?_
    intro m hm
    obtain ⟨r, hr, rfl⟩ := List.mem_map.mp hm
    obtain ⟨hmem, hp⟩ := List.mem_filter.mp hr
    exact h r hmem hp
  have hsum := t.sumBy_deleteWhere_add f p
  rwa [hzero, add_zero] at hsum

theorem sumBy_le_sumBy {f g : ρ → Nat} (h : ∀ r ∈ t.rows, f r ≤ g r) : t.sumBy f ≤ t.sumBy g :=
  List.sum_le_sum h

end Sums

end Table

end Relational
end O3k
