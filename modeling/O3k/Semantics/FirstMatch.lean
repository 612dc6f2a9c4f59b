import Mathlib.Data.List.Basic

/-!
# First-match chains

A chain is a list of rules, each with a test and a verdict.  The first rule
that matches decides; what no rule matches is left to the policy of the chain.
The rules of one verdict may be gathered in front: they then decide whatever
they match, and the other rules the rest.
-/

namespace O3k
namespace Semantics

universe u v w

variable {ρ : Type u} {σ : Type v} {ν : Type w}

def chainVerdict (hits : ρ → Bool) (verdict : ρ → ν) (policy : ν) : List ρ → ν
  | [] => policy
  | rule :: rest => if hits rule then verdict rule else chainVerdict hits verdict policy rest

section Chain

variable {hits : ρ → Bool} {verdict : ρ → ν} {policy : ν}

@[simp] theorem chainVerdict_nil : chainVerdict hits verdict policy [] = policy := by
  rfl

theorem chainVerdict_cons_of_not_hits {rule : ρ} {rest : List ρ} (h : hits rule = false) :
    chainVerdict hits verdict policy (rule :: rest) = chainVerdict hits verdict policy rest := by
  simp [chainVerdict, h]

/-- What follows is the policy of what comes before. -/
theorem chainVerdict_append (xs ys : List ρ) :
    chainVerdict hits verdict policy (xs ++ ys) =
      chainVerdict hits verdict (chainVerdict hits verdict policy ys) xs := by
  induction xs with
  | nil => rfl
  | cons rule rest ih => rw [List.cons_append, chainVerdict, chainVerdict, ih]

theorem chainVerdict_filterMap {f : σ → Option ρ} {hits' : σ → Bool} {verdict' : σ → ν}
    {xs : List σ} (hhits : ∀ x ∈ xs, hits' x = (f x).any hits)
    (hverdict : ∀ x ∈ xs, ∀ rule ∈ f x, verdict' x = verdict rule) :
    chainVerdict hits verdict policy (xs.filterMap f) = chainVerdict hits' verdict' policy xs := by
  induction xs with
  | nil => rfl
  | cons x rest ih =>
    obtain ⟨hx, hrest⟩ := List.forall_mem_cons.mp hhits
    obtain ⟨hxVerdict, hrestVerdict⟩ := List.forall_mem_cons.mp hverdict
    rw [chainVerdict, hx]
    cases hf : f x with
    | none =>
      rw [List.filterMap_cons_none hf, ih hrest hrestVerdict]
      rfl
    | some rule =>
      rw [List.filterMap_cons_some hf, chainVerdict, ih hrest hrestVerdict, hxVerdict rule hf]
      rfl

theorem chainVerdict_map {f : σ → ρ} (xs : List σ) :
    chainVerdict hits verdict policy (xs.map f) =
      chainVerdict (fun x => hits (f x)) (fun x => verdict (f x)) policy xs := by
  induction xs with
  | nil => rfl
  | cons x rest ih => rw [List.map_cons, chainVerdict, chainVerdict, ih]

/-- Rules that agree are one rule. -/
theorem chainVerdict_of_forall {v : ν} {xs : List ρ} (h : ∀ rule ∈ xs, verdict rule = v) :
    chainVerdict hits verdict policy xs = if ∃ rule ∈ xs, hits rule = true then v else policy := by
  induction xs with
  | nil => simp
  | cons rule rest ih =>
    rw [chainVerdict, ih fun other hother => h other (List.mem_cons_of_mem _ hother),
      h rule List.mem_cons_self]
    by_cases hrule : hits rule = true
    · simp [hrule]
    · simp [hrule]

/-- **Verdicts in order**: when the rules of one verdict come first, that is the
verdict wherever one of them matches; the other rules decide elsewhere. -/
theorem chainVerdict_of_ordered {v : ν} {xs : List ρ}
    (h : xs.Pairwise fun a b => verdict b = v → verdict a = v) :
    chainVerdict hits verdict policy xs = v ↔
      (∃ rule ∈ xs, verdict rule = v ∧ hits rule = true) ∨
        (policy = v ∧ ∀ rule ∈ xs, hits rule = false) := by
  induction xs with
  | nil => simp
  | cons rule rest ih =>
    obtain ⟨hrule, hrest⟩ := List.pairwise_cons.mp h
    rw [chainVerdict]
    cases hhits : hits rule with
    | false => simp [hhits, ih hrest]
    | true =>
      simp only [if_true, List.mem_cons, exists_eq_or_imp, forall_eq_or_imp, hhits,
        Bool.true_eq_false, false_and, and_false, or_false, and_true]
      constructor
      · exact Or.inl
      · rintro (hv | ⟨other, hother, hv, _⟩)
        · exact hv
        · exact hrule other hother hv

end Chain

end Semantics
end O3k
