import Mathlib.Data.List.Sort

/-!
# Lists kept sorted by a key

`sortBy key` is a stable sort.  A list in strictly increasing key order has no
key twice and is left alone by the sort; the sort of a list without repeated
keys is strictly increasing, and does not depend on the order of the list.
-/

namespace O3k
namespace Relational

universe u v

variable {ρ : Type u} {κ : Type v} [LinearOrder κ] (key : ρ → κ)

/-- `sort_by(|a, b| key(a).cmp(key(b)))`. -/
def sortBy (xs : List ρ) : List ρ :=
  xs.insertionSort (fun a b => key a ≤ key b)

/-- Strictly increasing keys. -/
def StrictlySorted (xs : List ρ) : Prop :=
  xs.Pairwise (fun a b => key a < key b)

instance (xs : List ρ) : Decidable (StrictlySorted key xs) :=
  inferInstanceAs (Decidable (xs.Pairwise _))

instance leKeyTotal : Std.Total (fun a b : ρ => key a ≤ key b) :=
  ⟨fun a b => le_total (key a) (key b)⟩

instance leKeyTrans : IsTrans ρ (fun a b : ρ => key a ≤ key b) :=
  ⟨fun _ _ _ hab hbc => hab.trans hbc⟩

variable {key}

theorem sortBy_perm (xs : List ρ) : (sortBy key xs).Perm xs := List.perm_insertionSort _ xs

@[simp] theorem mem_sortBy {x : ρ} {xs : List ρ} : x ∈ sortBy key xs ↔ x ∈ xs :=
  List.mem_insertionSort _

theorem sortBy_sorted (xs : List ρ) : (sortBy key xs).Pairwise (fun a b => key a ≤ key b) :=
  List.pairwise_insertionSort _ xs

theorem StrictlySorted.keys_nodup {xs : List ρ} (h : StrictlySorted key xs) : (xs.map key).Nodup :=
  List.pairwise_map.mpr (h.imp (fun hlt => hlt.ne))

theorem StrictlySorted.sortBy_eq {xs : List ρ} (h : StrictlySorted key xs) : sortBy key xs = xs :=
  List.Pairwise.insertionSort_eq (h.imp (fun hlt => hlt.le))

theorem StrictlySorted.filter {xs : List ρ} (h : StrictlySorted key xs) (p : ρ → Bool) :
    StrictlySorted key (xs.filter p) :=
  List.Pairwise.filter p h

theorem strictlySorted_sortBy {xs : List ρ} (h : (xs.map key).Nodup) :
    StrictlySorted key (sortBy key xs) := by
  have hnodup : ((sortBy key xs).map key).Nodup := ((sortBy_perm xs).map key).nodup_iff.mpr h
  have hne : (sortBy key xs).Pairwise (fun a b => key a ≠ key b) := List.pairwise_map.mp hnodup
  exact ((sortBy_sorted xs).and hne).imp (fun h => lt_of_le_of_ne h.1 h.2)

variable {xs : List ρ}

theorem StrictlySorted.sortBy_push {x : ρ}
    (h : StrictlySorted key xs) (hnew : ∀ y ∈ xs, key y ≠ key x) :
    StrictlySorted key (sortBy key (xs ++ [x])) := by
  refine strictlySorted_sortBy ?_
  rw [List.map_append, List.nodup_append]
  refine ⟨h.keys_nodup, List.nodup_singleton _, ?_⟩
  intro k hk k' hk'
  obtain ⟨y, hy, rfl⟩ := List.mem_map.mp hk
  rw [List.mem_singleton.mp hk']
  exact hnew y hy

/-- Without repeated keys, the result of the sort depends on the elements only. -/
theorem sortBy_eq_of_perm {xs ys : List ρ} (hperm : xs.Perm ys) (h : (xs.map key).Nodup) :
    sortBy key xs = sortBy key ys := by
  have hys : (ys.map key).Nodup := (hperm.map key).nodup_iff.mp h
  refine List.Perm.eq_of_pairwise ?_ (strictlySorted_sortBy h) (strictlySorted_sortBy hys)
    (((sortBy_perm xs).trans hperm).trans (sortBy_perm ys).symm)
  intro a b _ _ hab hba
  exact absurd hba (lt_asymm hab)

/-- When the key tells the elements apart, it does not matter how often they
are there. -/
theorem sortBy_eq_of_perm_of_injective
    (hkey : Function.Injective key) {xs ys : List ρ} (hperm : xs.Perm ys) :
    sortBy key xs = sortBy key ys := by
  refine List.Perm.eq_of_pairwise ?_ (sortBy_sorted xs) (sortBy_sorted ys)
    (((sortBy_perm xs).trans hperm).trans (sortBy_perm ys).symm)
  intro a b _ _ hab hba
  exact hkey (le_antisymm hab hba)

theorem StrictlySorted.eq_of_mem_iff {xs ys : List ρ}
    (hxs : StrictlySorted key xs) (hys : StrictlySorted key ys) (h : ∀ a, a ∈ xs ↔ a ∈ ys) :
    xs = ys := by
  haveI : Std.Irrefl (fun a b : ρ => key a < key b) := ⟨fun a => lt_irrefl (key a)⟩
  haveI : Std.Antisymm (fun a b : ρ => key a < key b) :=
    ⟨fun _ _ hab hba => absurd hba (lt_asymm hab)⟩
  exact List.Pairwise.eq_of_mem_iff hxs hys h

theorem take_filter_of_forall (p : ρ → Bool) {n : Nat} (h : ∀ x ∈ xs.take n, p x = true) :
    (xs.filter p).take n = xs.take n := by
  induction xs generalizing n with
  | nil => rfl
  | cons x xs ih =>
    cases n with
    | zero => rfl
    | succ n =>
      rw [List.take_succ_cons] at h ⊢
      rw [List.filter_cons_of_pos (h x List.mem_cons_self), List.take_succ_cons,
        ih (fun y hy => h y (List.mem_cons_of_mem x hy))]

/-- Put an element in front of those that have not a smaller key. -/
def insertBy (key : ρ → κ) (a : ρ) (xs : List ρ) : List ρ :=
  xs.orderedInsert (fun a b => key a ≤ key b) a

theorem insertBy_cons_of_le {a x : ρ} (h : key a ≤ key x) :
    insertBy key a (x :: xs) = a :: x :: xs :=
  List.orderedInsert_cons_of_le _ xs h

theorem insertBy_cons_of_lt {a x : ρ} (h : key x < key a) :
    insertBy key a (x :: xs) = x :: insertBy key a xs :=
  List.orderedInsert_of_not_le _ xs (not_le.mpr h)

theorem insertBy_of_forall_le {a : ρ} (h : ∀ x ∈ xs, key a ≤ key x) :
    insertBy key a xs = a :: xs := by
  cases xs with
  | nil => rfl
  | cons x xs => exact insertBy_cons_of_le (h x List.mem_cons_self)

theorem sortBy_cons (x : ρ) (xs : List ρ) :
    sortBy key (x :: xs) = insertBy key x (sortBy key xs) := by
  rfl

theorem insertBy_comm_of_lt {a b : ρ} (h : key a < key b) (xs : List ρ) :
    insertBy key a (insertBy key b xs) = insertBy key b (insertBy key a xs) := by
  induction xs with
  | nil =>
    have hfront : insertBy key a [b] = [a, b] := insertBy_cons_of_le h.le
    have hback : insertBy key b [a] = [a, b] := insertBy_cons_of_lt h
    exact hfront.trans hback.symm
  | cons x xs ih =>
    rcases le_or_gt (key b) (key x) with hb | hb
    · rw [insertBy_cons_of_le hb, insertBy_cons_of_le h.le, insertBy_cons_of_le (h.le.trans hb),
        insertBy_cons_of_lt h, insertBy_cons_of_le hb]
    · rw [insertBy_cons_of_lt hb]
      rcases le_or_gt (key a) (key x) with ha | ha
      · rw [insertBy_cons_of_le ha, insertBy_cons_of_le ha, insertBy_cons_of_lt h,
          insertBy_cons_of_lt hb]
      · rw [insertBy_cons_of_lt ha, insertBy_cons_of_lt ha, insertBy_cons_of_lt hb, ih]

/-- The elements of a list put in one by one, from the last. -/
def insertAll (key : ρ → κ) (xs acc : List ρ) : List ρ := xs.foldr (insertBy key) acc

theorem sortBy_append (xs ys : List ρ) :
    sortBy key (xs ++ ys) = insertAll key xs (sortBy key ys) := by
  induction xs with
  | nil => rfl
  | cons x xs ih =>
    rw [List.cons_append, sortBy_cons, ih]
    rfl

theorem insertAll_insertBy (a : ρ) (xs acc : List ρ) :
    insertAll key (insertBy key a xs) acc = insertBy key a (insertAll key xs acc) := by
  induction xs with
  | nil => rfl
  | cons x xs ih =>
    rcases le_or_gt (key a) (key x) with ha | ha
    · rw [insertBy_cons_of_le ha]
      rfl
    · rw [insertBy_cons_of_lt ha]
      show insertBy key x (insertAll key _ acc) = insertBy key a (insertBy key x _)
      rw [ih, ← insertBy_comm_of_lt ha]
      rfl

/-- **Sorting a part first changes nothing.** -/
theorem sortBy_sortBy_append (xs ys : List ρ) :
    sortBy key (sortBy key xs ++ ys) = sortBy key (xs ++ ys) := by
  rw [sortBy_append, sortBy_append]
  induction xs with
  | nil => rfl
  | cons x xs ih =>
    rw [sortBy_cons, insertAll_insertBy, ih]
    rfl

variable {p : ρ → Bool}

theorem filter_insertBy {a : ρ} (h : xs.Pairwise (fun a b => key a ≤ key b)) :
    (insertBy key a xs).filter p = if p a then insertBy key a (xs.filter p) else xs.filter p := by
  induction xs with
  | nil =>
    cases hp : p a with
    | false => simp [insertBy, hp]
    | true => simp [insertBy, hp]
  | cons x xs ih =>
    obtain ⟨hhead, htail⟩ := List.pairwise_cons.mp h
    rcases le_or_gt (key a) (key x) with ha | ha
    · rw [insertBy_cons_of_le ha, List.filter_cons]
      split_ifs with hp
      · refine (insertBy_of_forall_le ?_).symm
        intro y hy
        rcases List.mem_cons.mp (List.mem_filter.mp hy).1 with rfl | hy
        · exact ha
        · exact ha.trans (hhead y hy)
      · rfl
    · rw [insertBy_cons_of_lt ha, List.filter_cons, ih htail, List.filter_cons]
      split_ifs with hx hp
      · exact (insertBy_cons_of_lt ha).symm
      · rfl
      · rfl
      · rfl

/-- **Filtering commutes with the sort.** -/
theorem filter_sortBy (p : ρ → Bool) (xs : List ρ) :
    (sortBy key xs).filter p = sortBy key (xs.filter p) := by
  induction xs with
  | nil => rfl
  | cons x xs ih =>
    rw [sortBy_cons, filter_insertBy (sortBy_sorted xs), ih, List.filter_cons]
    split_ifs with hp
    · rfl
    · rfl

/-- `iter_mut().find(..)`: change the first element that satisfies `p`. -/
def modifyFirst (p : ρ → Bool) (f : ρ → ρ) : List ρ → List ρ
  | [] => []
  | x :: xs => if p x then f x :: xs else x :: modifyFirst p f xs

theorem mem_modifyFirst {f : ρ → ρ} {x : ρ} (h : x ∈ modifyFirst p f xs) :
    x ∈ xs ∨ ∃ y ∈ xs, f y = x := by
  induction xs with
  | nil => exact absurd h List.not_mem_nil
  | cons y ys ih =>
    rw [modifyFirst] at h
    split_ifs at h
    · rcases List.mem_cons.mp h with rfl | h
      · exact Or.inr ⟨y, List.mem_cons_self, rfl⟩
      · exact Or.inl (List.mem_cons_of_mem _ h)
    · rcases List.mem_cons.mp h with rfl | h
      · exact Or.inl List.mem_cons_self
      · rcases ih h with hold | ⟨z, hz, hfz⟩
        · exact Or.inl (List.mem_cons_of_mem _ hold)
        · exact Or.inr ⟨z, List.mem_cons_of_mem _ hz, hfz⟩

theorem map_key_modifyFirst {f : ρ → ρ} (hkey : ∀ x, key (f x) = key x) (xs : List ρ) :
    (modifyFirst p f xs).map key = xs.map key := by
  induction xs with
  | nil => rfl
  | cons x xs ih =>
    rw [modifyFirst]
    split_ifs
    · simp [hkey]
    · simp [ih]

theorem modifyFirst_key_eq_map (hnodup : (xs.map key).Nodup) (k : κ) (f : ρ → ρ) :
    modifyFirst (fun x => key x = k) f xs = xs.map (fun x => if key x = k then f x else x) := by
  induction xs with
  | nil => rfl
  | cons x xs ih =>
    obtain ⟨hx, hxs⟩ := List.nodup_cons.mp hnodup
    rw [modifyFirst, List.map_cons]
    by_cases hk : key x = k
    · have hrest : xs.map (fun y => if key y = k then f y else y) = xs := by
        refine (List.map_congr_left ?_).trans (List.map_id xs)
        intro y hy
        rw [if_neg]
        · rfl
        · exact fun hyk => hx (List.mem_map.mpr ⟨y, hy, hyk.trans hk.symm⟩)
      simp [hk, hrest]
    · simp [hk, ih hxs]

theorem StrictlySorted.of_map_key_eq {xs ys : List ρ}
    (h : StrictlySorted key xs) (heq : ys.map key = xs.map key) :
    StrictlySorted key ys := by
  have hkeys : (ys.map key).Pairwise (· < ·) := heq ▸ List.pairwise_map.mpr h
  exact List.pairwise_map.mp hkeys

theorem StrictlySorted.eq_of_key_eq {a b : ρ}
    (h : StrictlySorted key xs) (ha : a ∈ xs) (hb : b ∈ xs) (hkey : key a = key b) :
    a = b :=
  List.inj_on_of_nodup_map h.keys_nodup ha hb hkey

end Relational
end O3k
