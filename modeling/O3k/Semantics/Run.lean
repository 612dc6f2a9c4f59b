
/-!
# Runs of a labelled machine

A machine is a step function on states and labels; a label carries everything
the environment chooses (who acts, with which arguments, how much time passes),
so a run is a list of labels and "every interleaving" is "every list".

`Always` speaks about the states of a run and `EachStep` about its steps, each
with the state it starts from.  The rules derive the one from what every step
keeps, under a guard on the steps.
-/

namespace O3k
namespace Semantics

universe u v w

variable {σ : Type u} {ι : Type v} {β : Type w}

/-- The state a run ends in. -/
def run (step : σ → ι → σ) (s : σ) (steps : List ι) : σ := steps.foldl step s

/-- `P` holds in every state of the run, the first and the last included. -/
def Always (step : σ → ι → σ) (P : σ → Prop) : σ → List ι → Prop
  | s, [] => P s
  | s, i :: is => P s ∧ Always step P (step s i) is

/-- `C` holds at every step of the run, of the state before it and its label. -/
def EachStep (step : σ → ι → σ) (C : σ → ι → Prop) : σ → List ι → Prop
  | _, [] => True
  | s, i :: is => C s i ∧ EachStep step C (step s i) is

/-- What the steps of the run report, in order. -/
def outputs (step : σ → ι → σ) (out : σ → ι → Option β) :
    σ → List ι → List β
  | _, [] => []
  | s, i :: is => (out s i).toList ++ outputs step out (step s i) is

instance decidableAlways (step : σ → ι → σ) (P : σ → Prop) [DecidablePred P] :
    (s : σ) → (is : List ι) → Decidable (Always step P s is)
  | s, [] => inferInstanceAs (Decidable (P s))
  | s, i :: is =>
    haveI := decidableAlways step P (step s i) is
    inferInstanceAs (Decidable (P s ∧ Always step P (step s i) is))

instance decidableEachStep (step : σ → ι → σ) (C : σ → ι → Prop) [∀ s i, Decidable (C s i)] :
    (s : σ) → (is : List ι) → Decidable (EachStep step C s is)
  | _, [] => isTrue trivial
  | s, i :: is =>
    haveI := decidableEachStep step C (step s i) is
    inferInstanceAs (Decidable (C s i ∧ EachStep step C (step s i) is))

section Rules

variable {step : σ → ι → σ} {P I : σ → Prop} {C : σ → ι → Prop}

@[simp] theorem run_nil (s : σ) : run step s [] = s := by
  rfl

@[simp] theorem run_cons (s : σ) (i : ι) (is : List ι) :
    run step s (i :: is) = run step (step s i) is := by
  rfl

theorem run_append (s : σ) (is js : List ι) : run step s (is ++ js) = run step (run step s is) js :=
  List.foldl_append

theorem run_snoc (s : σ) (is : List ι) (i : ι) :
    run step s (is ++ [i]) = step (run step s is) i := by
  rw [run_append]
  rfl

theorem always_iff_split (s : σ) (is : List ι) :
    Always step P s is ↔ ∀ before after, is = before ++ after → P (run step s before) := by
  induction is generalizing s with
  | nil =>
    constructor
    · intro h before after heq
      obtain ⟨rfl, rfl⟩ := List.append_eq_nil_iff.mp heq.symm
      exact h
    · intro h
      exact h [] [] rfl
  | cons i is ih =>
    constructor
    · rintro ⟨hs, htail⟩ before after heq
      cases before with
      | nil => exact hs
      | cons j before =>
        obtain ⟨rfl, htl⟩ := List.cons.inj heq
        exact (ih _).mp htail before after htl
    · intro h
      refine ⟨h [] (i :: is) rfl, (ih _).mpr ?_⟩
      intro before after heq
      exact h (i :: before) after (by rw [heq]; rfl)

theorem eachStep_iff_split (s : σ) (is : List ι) :
    EachStep step C s is ↔
    ∀ before i after, is = before ++ i :: after → C (run step s before) i := by
  induction is generalizing s with
  | nil =>
    constructor
    · intro _ before i after heq
      exact absurd heq.symm (by simp)
    · intro _
      trivial
  | cons j js ih =>
    constructor
    · rintro ⟨hs, htail⟩ before i after heq
      cases before with
      | nil =>
        obtain ⟨rfl, _⟩ := List.cons.inj heq
        exact hs
      | cons k before =>
        obtain ⟨rfl, htl⟩ := List.cons.inj heq
        exact (ih _).mp htail before i after htl
    · intro h
      refine ⟨h [] j js rfl, (ih _).mpr ?_⟩
      intro before i after heq
      exact h (j :: before) i after (by rw [heq]; rfl)

variable {is : List ι} {s : σ}

theorem Always.last (h : Always step P s is) : P (run step s is) :=
  (always_iff_split s is).mp h is [] (List.append_nil is).symm

theorem Always.imp {Q : σ → Prop} (himp : ∀ s, P s → Q s) (h : Always step P s is) :
    Always step Q s is := by
  rw [always_iff_split] at h ⊢
  exact fun before after heq => himp _ (h before after heq)

variable {D : σ → ι → Prop}

theorem EachStep.imp (himp : ∀ s i, C s i → D s i) (h : EachStep step C s is) :
    EachStep step D s is := by
  rw [eachStep_iff_split] at h ⊢
  exact fun before i after heq => himp _ _ (h before i after heq)

theorem EachStep.and (hC : EachStep step C s is) (hD : EachStep step D s is) :
    EachStep step (fun s i => C s i ∧ D s i) s is := by
  rw [eachStep_iff_split] at hC hD ⊢
  exact fun before i after heq => ⟨hC before i after heq, hD before i after heq⟩

theorem eachStep_imp {p : Prop} {is : List ι} :
    EachStep step (fun s i => p → C s i) s is ↔ (p → EachStep step C s is) := by
  simp only [eachStep_iff_split]
  exact ⟨fun h hp before i after heq => h before i after heq hp,
    fun h before i after heq hp => h hp before i after heq⟩

theorem eachStep_of_forall (h : ∀ i ∈ is, ∀ s, C s i) (s : σ) : EachStep step C s is := by
  rw [eachStep_iff_split]
  rintro before i after rfl
  exact h i (by simp) _

theorem EachStep.of_append_left {is js : List ι} (h : EachStep step C s (is ++ js)) :
    EachStep step C s is := by
  rw [eachStep_iff_split] at h ⊢
  intro before i after heq
  exact h before i (after ++ js) (by rw [heq]; simp)

/-- **Invariant rule**: what holds first and is kept by every step holds always. -/
theorem always_of_invariant (hstep : ∀ s i, I s → I (step s i)) (s : σ) (is : List ι) (hs : I s) :
    Always step I s is := by
  induction is generalizing s with
  | nil => exact hs
  | cons i is ih => exact ⟨hs, ih _ (hstep s i hs)⟩

/-- **Guarded invariant rule**: the guard may be used at every step. -/
theorem always_of_guarded
    (hstep : ∀ s i, I s → C s i → I (step s i)) (s : σ) (is : List ι) (hs : I s)
    (hguard : EachStep step C s is) :
    Always step I s is := by
  induction is generalizing s with
  | nil => exact hs
  | cons i is ih => exact ⟨hs, ih _ (hstep s i hs hguard.1) hguard.2⟩

/-- **Guarded step rule**: what the invariant and the guard give of a step holds
at each step. -/
theorem eachStep_of_guarded
    (hstep : ∀ s i, I s → C s i → I (step s i)) (hD : ∀ s i, I s → C s i → D s i)
    (s : σ) (is : List ι) (hs : I s) (hguard : EachStep step C s is) :
    EachStep step D s is := by
  induction is generalizing s with
  | nil => trivial
  | cons i is ih => exact ⟨hD s i hs hguard.1, ih _ (hstep s i hs hguard.1) hguard.2⟩

/-- **Step rule**: what an inductive invariant gives of a step holds at each step. -/
theorem eachStep_of_invariant
    (hstep : ∀ s i, I s → I (step s i)) (hC : ∀ s i, I s → C s i) (s : σ) (is : List ι) (hs : I s) :
    EachStep step C s is := by
  induction is generalizing s with
  | nil => trivial
  | cons i is ih => exact ⟨hC s i hs, ih _ (hstep s i hs)⟩

/-- **History rule**: a relation between the state and everything reported so
far, kept by every guarded step, holds at the end of the run. -/
theorem outputs_of_guarded {out : σ → ι → Option β} {H : σ → List β → Prop}
    (hstep : ∀ s reported i, H s reported → C s i → H (step s i) (reported ++ (out s i).toList))
    (s : σ) (is : List ι) (hs : H s []) (hguard : EachStep step C s is) :
    H (run step s is) (outputs step out s is) := by
  suffices hgeneral :
      ∀ (is : List ι) (s : σ) (reported : List β),
        H s reported →
        EachStep step C s is →
        H (run step s is) (reported ++ outputs step out s is) by
    simpa using hgeneral is s [] hs hguard
  intro is
  induction is with
  | nil =>
    intro s reported hs _
    simpa [outputs] using hs
  | cons i is ih =>
    rintro s reported hs ⟨hC, htail⟩
    have hnext := ih _ _ (hstep s reported i hs hC) htail
    simpa [outputs, List.append_assoc] using hnext

end Rules

end Semantics
end O3k

/-!
# Interrupted scripts

A call may be interrupted before any operation of its script: one that can fail
ends the call without an effect of its own, and a crash ends it anywhere.
-/

namespace O3k
namespace Semantics

universe u

variable {ω : Type u}

/-- The operation before which a call is interrupted, and how. -/
inductive Interruption
  | fails (before : Nat)
  | crashes (before : Nat)
  deriving DecidableEq

/-- How a call ends. -/
inductive Ending
  | completed
  | failed
  | crashed
  deriving DecidableEq

/-- What a call performs of its script, and how it ends. -/
def perform (canFail : ω → Bool) (script : List ω) : Option Interruption → List ω × Ending
  | none => (script, .completed)
  | some (.fails n) =>
    if (script[n]?).any canFail then (script.take n, .failed) else (script, .completed)
  | some (.crashes n) => (script.take n, .crashed)

section Perform

variable {canFail : ω → Bool} {script : List ω}

/-- **What is performed**: the whole script, or what comes before an operation
of it; and an operation that fails is one that can. -/
theorem perform_cases (interruption : Option Interruption) :
    (∃ ending, ending ≠ .failed ∧ perform canFail script interruption = (script, ending)) ∨
      ∃ n op ending, script[n]? = some op ∧
        perform canFail script interruption = (script.take n, ending) ∧
          (ending = .failed ∧ canFail op = true ∨ ending = .crashed) := by
  rcases interruption with _ | ⟨n⟩ | ⟨n⟩
  · exact Or.inl ⟨.completed, Ending.noConfusion, rfl⟩
  · cases hop : script[n]? with
    | none => exact Or.inl ⟨.completed, Ending.noConfusion, by simp [perform, hop]⟩
    | some op =>
      by_cases hcan : canFail op = true
      · exact Or.inr ⟨n, op, .failed, hop, by simp [perform, hop, hcan], Or.inl ⟨rfl, hcan⟩⟩
      · exact Or.inl ⟨.completed, Ending.noConfusion, by simp [perform, hop, hcan]⟩
  · cases hop : script[n]? with
    | none =>
      refine Or.inl ⟨.crashed, Ending.noConfusion, ?_⟩
      rw [perform, List.take_of_length_le (List.getElem?_eq_none_iff.mp hop)]
    | some op => exact Or.inr ⟨n, op, .crashed, hop, rfl, Or.inr rfl⟩

theorem perform_eq_take (interruption : Option Interruption) :
    ∃ n, (perform canFail script interruption).1 = script.take n := by
  rcases @perform_cases _ canFail script interruption with
    ⟨_, _, heq⟩ | ⟨n, _, _, _, heq, _⟩
  · exact ⟨script.length, by rw [heq, List.take_length]⟩
  · exact ⟨n, by rw [heq]⟩

theorem perform_of_completed {interruption : Option Interruption}
    (h : (perform canFail script interruption).2 = .completed) :
    perform canFail script interruption = (script, .completed) := by
  rcases @perform_cases _ canFail script interruption with
    ⟨ending, _, heq⟩ | ⟨n, op, ending, _, heq, ⟨rfl, _⟩ | rfl⟩
  · rw [heq] at h ⊢
    exact congrArg (Prod.mk script) h
  · rw [heq] at h
    cases h
  · rw [heq] at h
    cases h

end Perform

end Semantics
end O3k
