import Mathlib.Order.Basic

/-!
# Versioned cells

A store whose cells carry a version is *fenced* along a step when every cell
either keeps its contents or gets a strictly larger version (cells may appear,
and none disappears).  Then a version is as good as the contents: whoever read
a cell earlier and finds its version again has the current contents in hand.
-/

namespace O3k
namespace Semantics

universe u v w x

variable {σ : Type u} {κ : Type v} {ρ : Type w} {V : Type x} [Preorder V]
variable (cell : σ → κ → Option ρ) (version : ρ → V)

/-- Every cell keeps its contents or moves to a larger version. -/
def Fenced (s s' : σ) : Prop :=
  ∀ k r, cell s k = some r →
    ∃ r', cell s' k = some r' ∧ (r' = r ∨ version r < version r')

namespace Fenced

variable {cell version}

theorem refl (s : σ) : Fenced cell version s s :=
  fun _ r hr => ⟨r, hr, Or.inl rfl⟩

theorem trans {s₁ s₂ s₃ : σ} (h : Fenced cell version s₁ s₂) (h' : Fenced cell version s₂ s₃) :
    Fenced cell version s₁ s₃ := by
  intro k r hr
  obtain ⟨r₂, hr₂, hstep⟩ := h k r hr
  obtain ⟨r₃, hr₃, hstep'⟩ := h' k r₂ hr₂
  refine ⟨r₃, hr₃, ?_⟩
  rcases hstep with rfl | hlt
  · exact hstep'
  · rcases hstep' with rfl | hlt'
    · exact Or.inr hlt
    · exact Or.inr (hlt.trans hlt')

/-- **Snapshot rule**: a cell that shows the version read earlier has not
changed since. -/
theorem eq_of_version_eq {s s' : σ}
    (h : Fenced cell version s s') {k : κ} {r r' : ρ} (hr : cell s k = some r)
    (hr' : cell s' k = some r') (hversion : version r' = version r) :
    r' = r := by
  obtain ⟨r'', hr'', hstep⟩ := h k r hr
  rw [hr'] at hr''
  cases hr''
  rcases hstep with heq | hlt
  · exact heq
  · rw [hversion] at hlt
    exact absurd hlt (lt_irrefl _)

end Fenced

end Semantics
end O3k
