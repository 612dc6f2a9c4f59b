/-!
# Loops that may not end

A loop is a step function that either goes on from a new state or leaves with a
result.  It ends when some number of steps is enough to leave; a loop that goes
on along an endless path does not.
-/

namespace O3k
namespace Semantics

universe u v

variable {σ : Type u} {β : Type v} {step : σ → σ ⊕ β}

/-- What the loop leaves with, if `fuel` steps are enough. -/
def loop (step : σ → σ ⊕ β) : (fuel : Nat) → σ → Option β
  | 0, _ => none
  | fuel + 1, s =>
    match step s with
    | .inl next => loop step fuel next
    | .inr b => some b

/-- The loop ends, with the result. -/
def Ends (step : σ → σ ⊕ β) (s : σ) (b : β) : Prop := ∃ fuel, loop step fuel s = some b

variable {b : β}

theorem ends_of_leaves {s : σ} (h : step s = .inr b) : Ends step s b :=
  ⟨1, by simp [loop, h]⟩

theorem ends_step_iff {s next : σ} (h : step s = .inl next) : Ends step s b ↔ Ends step next b := by
  constructor
  · rintro ⟨fuel, hfuel⟩
    cases fuel with
    | zero => cases hfuel
    | succ fuel => exact ⟨fuel, by simpa [loop, h] using hfuel⟩
  · rintro ⟨fuel, hfuel⟩
    exact ⟨fuel + 1, by simpa [loop, h] using hfuel⟩

theorem ends_path_iff {path : Nat → σ} {n : Nat}
    (h : ∀ k < n, step (path k) = .inl (path (k + 1))) :
    Ends step (path 0) b ↔ Ends step (path n) b := by
  induction n with
  | zero => exact Iff.rfl
  | succ n ih => rw [ih (fun k hk => h k (by omega)), ends_step_iff (h n (by omega))]

/-- A loop that stays within states that it does not leave with `b` from does
not end with `b`. -/
theorem not_ends_of_invariant {I : σ → Prop}
    (hleave : ∀ s, I s → step s ≠ .inr b) (hstep : ∀ s next, I s → step s = .inl next → I next)
    {s : σ} (hs : I s) :
    ¬ Ends step s b := by
  rintro ⟨fuel, hfuel⟩
  induction fuel generalizing s with
  | zero => cases hfuel
  | succ fuel ih =>
    rw [loop] at hfuel
    cases hnext : step s with
    | inl next =>
      rw [hnext] at hfuel
      exact ih (hstep s next hs hnext) hfuel
    | inr left =>
      rw [hnext] at hfuel
      exact hleave s hs (hnext.trans (congrArg Sum.inr (Option.some.inj hfuel)))

end Semantics
end O3k
