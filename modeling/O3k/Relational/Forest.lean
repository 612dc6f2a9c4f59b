import Mathlib.Logic.Relation
import Mathlib.Logic.Function.Basic

/-!
# Parent relations without cycles

A partial function gives every element at most one parent.  The relation is a
forest when no element is a proper ancestor of itself; giving an element a new
parent keeps it one when the element is not met on the way up from that parent.
-/

namespace O3k
namespace Relational

universe u

variable {α : Type u}

/-- One step up. -/
def Climbs (parentOf : α → Option α) (child parent : α) : Prop := parentOf child = some parent

/-- No element is its own proper ancestor. -/
def Acyclic (parentOf : α → Option α) : Prop := ∀ a, ¬ Relation.TransGen (Climbs parentOf) a a

/-- No way up from `start` meets `a`. -/
def AvoidedFrom (parentOf : α → Option α) (a : α) (start : Option α) : Prop :=
  ∀ s, start = some s → ∀ b, Relation.ReflTransGen (Climbs parentOf) s b → b ≠ a

variable {parentOf : α → Option α}

theorem acyclic_of_roots (hroots : ∀ a, parentOf a = none) : Acyclic parentOf := by
  intro a hcycle
  obtain ⟨b, hstep, _⟩ := Relation.TransGen.head'_iff.mp hcycle
  rw [Climbs, hroots] at hstep
  cases hstep

theorem avoidedFrom_none (parentOf : α → Option α) (a : α) : AvoidedFrom parentOf a none :=
  fun _ h => by cases h

variable {a : α}

theorem avoidedFrom_some {start : α}
    (hstart : start ≠ a) (hnext : AvoidedFrom parentOf a (parentOf start)) :
    AvoidedFrom parentOf a (some start) := by
  rintro s hs b hclimb
  cases hs
  rcases Relation.ReflTransGen.cases_head hclimb with rfl | ⟨next, hstep, hrest⟩
  · exact hstart
  · exact hnext next hstep b hrest

/-- The number of elements from `a` up to its root, both counted. -/
inductive HasDepth (parentOf : α → Option α) : α → Nat → Prop
  | root {a : α} : parentOf a = none → HasDepth parentOf a 1
  | nested {a p : α} {n : Nat} :
      parentOf a = some p → HasDepth parentOf p n → HasDepth parentOf a (n + 1)

variable {n : Nat}

theorem HasDepth.unique {m : Nat} (hm : HasDepth parentOf a m) (hn : HasDepth parentOf a n) :
    m = n := by
  induction hm generalizing n with
  | root hroot =>
    cases hn with
    | root => rfl
    | nested hparent _ => cases hroot.symm.trans hparent
  | nested hparent _ ih =>
    cases hn with
    | root hroot => cases hroot.symm.trans hparent
    | nested hparent' hn =>
      cases hparent.symm.trans hparent'
      rw [ih hn]

theorem HasDepth.pos (h : HasDepth parentOf a n) : 0 < n := by
  cases h <;> omega

theorem HasDepth.climbs {b : α}
    (h : HasDepth parentOf a n) (hclimb : Relation.TransGen (Climbs parentOf) a b) :
    ∃ m < n, HasDepth parentOf b m := by
  have hstep :
      ∀ x y k, HasDepth parentOf x k → Climbs parentOf x y → ∃ m < k, HasDepth parentOf y m := by
    intro x y k hx hxy
    cases hx with
    | root hroot => cases hroot.symm.trans hxy
    | nested hparent hp =>
      cases hparent.symm.trans hxy
      exact ⟨_, Nat.lt_succ_self _, hp⟩
  induction hclimb with
  | single hab => exact hstep _ _ _ h hab
  | tail _ hbc ih =>
    obtain ⟨m, hm, hb⟩ := ih
    obtain ⟨k, hk, hc⟩ := hstep _ _ _ hb hbc
    exact ⟨k, Nat.lt_trans hk hm, hc⟩

theorem HasDepth.not_on_cycle (h : HasDepth parentOf a n) :
    ¬ Relation.TransGen (Climbs parentOf) a a := by
  intro hcycle
  obtain ⟨m, hm, hdepth⟩ := h.climbs hcycle
  exact Nat.ne_of_lt hm (hdepth.unique h)

theorem HasDepth.congr {parentOf parentOf' : α → Option α} (S : α → Prop)
    (hclosed : ∀ a p, S a → parentOf a = some p → S p)
    (hagree : ∀ a, S a → parentOf' a = parentOf a) (ha : S a) (h : HasDepth parentOf a n) :
    HasDepth parentOf' a n := by
  induction h with
  | root hroot => exact .root ((hagree _ ha).trans hroot)
  | nested hparent _ ih => exact .nested ((hagree _ ha).trans hparent) (ih (hclosed _ _ ha hparent))

/-- `n` steps up lead from `a` to `b`. -/
inductive ClimbsIn (parentOf : α → Option α) : Nat → α → α → Prop
  | refl (a : α) : ClimbsIn parentOf 0 a a
  | step {a p b : α} {n : Nat} :
      parentOf a = some p → ClimbsIn parentOf n p b → ClimbsIn parentOf (n + 1) a b

section Reparent

variable [DecidableEq α]

variable {parentOf : α → Option α}

theorem HasDepth.update_of_avoided {child start : α} {n : Nat}
    (havoided : AvoidedFrom parentOf child (some start)) (h : HasDepth parentOf start n)
    (parent : Option α) :
    HasDepth (Function.update parentOf child parent) start n := by
  refine h.congr (fun a => Relation.ReflTransGen (Climbs parentOf) start a) ?_ ?_ .refl
  · exact fun _ _ hreached hstep => hreached.tail hstep
  · intro a hreached
    exact Function.update_of_ne (havoided start rfl a hreached) _ _

/-- **Depth after reparenting**: below the child it is counted from the new
parent, elsewhere it stays. -/
theorem HasDepth.update {child parent : α} {n : Nat}
    (havoided : AvoidedFrom parentOf child (some parent)) (hparent : HasDepth parentOf parent n)
    {a : α} {m : Nat} (h : HasDepth parentOf a m) :
    HasDepth (Function.update parentOf child (some parent)) a m ∨
      ∃ k, ClimbsIn parentOf k a child ∧
        HasDepth (Function.update parentOf child (some parent)) a (k + (n + 1)) := by
  have hchild : HasDepth (Function.update parentOf child (some parent)) child (n + 1) :=
    .nested (Function.update_self _ _ _) (hparent.update_of_avoided havoided _)
  induction h with
  | @root a hroot =>
    by_cases ha : a = child
    · subst ha
      exact Or.inr ⟨0, .refl a, by rwa [Nat.zero_add]⟩
    · exact Or.inl (.root ((Function.update_of_ne ha _ _).trans hroot))
  | @nested a p m hp hdepth ih =>
    by_cases ha : a = child
    · subst ha
      exact Or.inr ⟨0, .refl a, by rwa [Nat.zero_add]⟩
    · have hstep := (Function.update_of_ne ha (some parent) parentOf).trans hp
      rcases ih with hold | ⟨k, hclimb, hnew⟩
      · exact Or.inl (.nested hstep hold)
      · refine Or.inr ⟨k + 1, .step hp hclimb, ?_⟩
        rw [Nat.add_right_comm]
        exact .nested hstep hnew

theorem HasDepth.update_none (child : α) {a : α} {m : Nat} (h : HasDepth parentOf a m) :
    ∃ m' ≤ m, HasDepth (Function.update parentOf child none) a m' := by
  have hchild : HasDepth (Function.update parentOf child none) child 1 :=
    .root (Function.update_self _ _ _)
  induction h with
  | @root a hroot =>
    by_cases ha : a = child
    · exact ⟨1, Nat.le_refl 1, ha ▸ hchild⟩
    · exact ⟨1, Nat.le_refl 1, .root ((Function.update_of_ne ha _ _).trans hroot)⟩
  | @nested a p m hp hdepth ih =>
    by_cases ha : a = child
    · exact ⟨1, Nat.succ_le_succ (Nat.zero_le m), ha ▸ hchild⟩
    · obtain ⟨m', hle, hnew⟩ := ih
      exact ⟨m' + 1, Nat.succ_le_succ hle, .nested ((Function.update_of_ne ha _ _).trans hp) hnew⟩

/-- A way up after the new parent either was one before or passes the child
and goes on from the new parent. -/
theorem climbs_update {child : α} {parent : Option α}
    (havoided : AvoidedFrom parentOf child parent) {a b : α}
    (h : Relation.TransGen (Climbs (Function.update parentOf child parent)) a b) :
    Relation.TransGen (Climbs parentOf) a b ∨
      ∃ p, parent = some p ∧ Relation.ReflTransGen (Climbs parentOf) a child ∧
        Relation.ReflTransGen (Climbs parentOf) p b := by
  have hstep :
      ∀ x y, Climbs (Function.update parentOf child parent) x y →
        (x = child ∧ parent = some y) ∨ Climbs parentOf x y := by
    intro x y hxy
    by_cases hx : x = child
    · subst hx
      exact Or.inl ⟨rfl, by simpa [Climbs] using hxy⟩
    · exact Or.inr (by simpa [Climbs, hx] using hxy)
  induction h with
  | @single b hab =>
    rcases hstep _ _ hab with ⟨rfl, hparent⟩ | hab
    · exact Or.inr ⟨b, hparent, .refl, .refl⟩
    · exact Or.inl (.single hab)
  | @tail b c _ hbc ih =>
    rcases ih with hold | ⟨p, hparent, hchild, hp⟩
    · rcases hstep _ _ hbc with ⟨rfl, hparent⟩ | hbc
      · exact Or.inr ⟨c, hparent, hold.to_reflTransGen, .refl⟩
      · exact Or.inl (hold.tail hbc)
    · rcases hstep _ _ hbc with ⟨rfl, _⟩ | hbc
      · exact absurd rfl (havoided p hparent _ hp)
      · exact Or.inr ⟨p, hparent, hchild, hp.tail hbc⟩

/-- **Reparenting**: a parent from which the child is not reached may be given
to it. -/
theorem Acyclic.update (h : Acyclic parentOf) {child : α} {parent : Option α}
    (havoided : AvoidedFrom parentOf child parent) :
    Acyclic (Function.update parentOf child parent) := by
  intro a hcycle
  rcases climbs_update havoided hcycle with hold | ⟨p, hparent, hchild, hp⟩
  · exact h a hold
  · exact havoided p hparent child (hp.trans hchild) rfl

end Reparent

end Relational
end O3k
