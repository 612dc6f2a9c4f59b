import O3k.Semantics.Program

/-!
# One attempt at a time

A lock admits one attempt at a time to a shared store.  The attempt runs a
program; what a call of it replies and leaves behind depends on an answer of the
environment, which may also change the store between two calls.  A crash ends
the attempt between any two of its calls and leaves the store as it is, and then
the next attempt may start.

`Survives` is the rule for one attempt: under a guard on the answers, every call
meets its obligation and leaves the invariant behind, so that the attempt may be
cut after each of them.
-/

namespace O3k
namespace Semantics

namespace Program

variable {Call : Type} {Reply : Call → Type} {σ Answer α β : Type}

section Survives

variable (exec : (c : Call) → Answer → σ → Reply c × σ)
variable (R : σ → σ → Prop) (I : σ → Prop) (G A : Call → Answer → σ → Prop)

/-- From the store `s` on, whatever the rely allows in between and whatever is
answered within the guard, every call meets its obligation and keeps the
invariant, and the result satisfies `Q`. -/
def Survives (Q : α → σ → Prop) : Program Call Reply α → σ → Prop
  | .done a, s => Q a s
  | .call c next, s =>
    ∀ s' x, R s s' → I s' → G c x s' →
      A c x s' ∧ I (exec c x s').2 ∧
        Survives Q (next (exec c x s').1) (exec c x s').2

variable {exec R I G A} {p : Program Call Reply α} {s : σ}

theorem Survives.mono {Q Q' : α → σ → Prop}
    (hQ : ∀ a s, Q a s → Q' a s) (h : Survives exec R I G A Q p s) :
    Survives exec R I G A Q' p s := by
  induction p generalizing s with
  | done a => exact hQ a s h
  | call c next ih =>
    intro s' x hR hI hG
    obtain ⟨hA, hkeep, hnext⟩ := h s' x hR hI hG
    exact ⟨hA, hkeep, ih _ hnext⟩

variable {Q : α → σ → Prop}

theorem Survives.bind {P : α → σ → Prop} {Q : β → σ → Prop} {f : α → Program Call Reply β}
    (hp : Survives exec R I G A P p s) (hf : ∀ a s', P a s' → Survives exec R I G A Q (f a) s') :
    Survives exec R I G A Q (p >>= f) s := by
  induction p generalizing s with
  | done a => exact hf a s hp
  | call c next ih =>
    intro s' x hR hI hG
    obtain ⟨hA, hkeep, hnext⟩ := hp s' x hR hI hG
    exact ⟨hA, hkeep, ih _ hnext⟩

/-- **Stability**: what the rely allows does not harm an attempt that has not
made its next call yet. -/
theorem Survives.stable
    (htrans : ∀ s₁ s₂ s₃, R s₁ s₂ → R s₂ s₃ → R s₁ s₃) (hQ : ∀ a s s', Q a s → R s s' → Q a s')
    {s s' : σ} (h : Survives exec R I G A Q p s) (hR : R s s') :
    Survives exec R I G A Q p s' := by
  cases p with
  | done a => exact hQ a s s' h hR
  | call c next => exact fun s'' x hR' hI hG => h s'' x (htrans s s' s'' hR hR') hI hG

/-- **Frame**: calls that keep `J` keep it over the whole program. -/
theorem Survives.of_calls {J : σ → Prop} (hstable : ∀ s s', J s → R s s' → J s')
    (hp :
      p.Calls (fun c =>
        ∀ s x, I s → G c x s → J s → A c x s ∧ I (exec c x s).2 ∧ J (exec c x s).2))
    (hJ : J s) :
    Survives exec R I G A (fun _ s' => J s') p s := by
  induction p generalizing s with
  | done a => exact hJ
  | call c next ih =>
    intro s' x hR hI hG
    obtain ⟨hA, hkeep, hJ'⟩ := hp.1 s' x hI hG (hstable s s' hJ hR)
    exact ⟨hA, hkeep, ih _ (hp.2 _) hJ'⟩

theorem Survives.frame {J : σ → Prop} (hstable : ∀ s s', J s → R s s' → J s')
    (hcall : ∀ c x s, I s → G c x s → A c x s → J s → J (exec c x s).2)
    (h : Survives exec R I G A Q p s) (hJ : J s) :
    Survives exec R I G A (fun a s' => Q a s' ∧ J s') p s := by
  induction p generalizing s with
  | done a => exact ⟨h, hJ⟩
  | call c next ih =>
    intro s' x hR hI hG
    obtain ⟨hA, hkeep, hnext⟩ := h s' x hR hI hG
    exact ⟨hA, hkeep, ih _ hnext (hcall c x s' hI hG hA (hstable s s' hJ hR))⟩

theorem Survives.alone (hrefl : ∀ s, R s s) {x : Answer} (hG : ∀ c s, G c x s) (hI : I s)
    (h : Survives exec R I G A Q p s) :
    Q (Program.alone (fun c s => exec c x s) p s).1
      (Program.alone (fun c s => exec c x s) p s).2 := by
  induction p generalizing s with
  | done a => exact h
  | call c next ih =>
    obtain ⟨_, hkeep, hnext⟩ := h s x (hrefl s) hI (hG c s)
    exact ih _ hkeep hnext

/-- A program run alone, each of its calls with the next of the answers. -/
def answered (exec : (c : Call) → Answer → σ → Reply c × σ) :
    (Nat → Answer) → Program Call Reply α → σ → α × σ
  | _, .done a, s => (a, s)
  | xs, .call c next, s =>
    answered exec (fun n => xs (n + 1)) (next (exec c (xs 0) s).1) (exec c (xs 0) s).2

theorem Survives.answered
    (hrefl : ∀ s, R s s) (xs : Nat → Answer) (hG : ∀ n c s, G c (xs n) s) (hI : I s)
    (h : Survives exec R I G A Q p s) :
    Q (Program.answered exec xs p s).1 (Program.answered exec xs p s).2 := by
  induction p generalizing s xs with
  | done a => exact h
  | call c next ih =>
    obtain ⟨_, hkeep, hnext⟩ := h s (xs 0) (hrefl s) hI (hG 0 c s)
    exact ih _ _ (fun n => hG (n + 1)) hkeep hnext

theorem Survives.leaves
    (hrefl : ∀ s, R s s) (xs : Nat → Answer) (hG : ∀ n c s, G c (xs n) s) (hI : I s)
    (h : Survives exec R I G A Q p s) :
    I (Program.answered exec xs p s).2 := by
  induction p generalizing s xs with
  | done a => exact hI
  | call c next ih =>
    obtain ⟨_, hkeep, hnext⟩ := h s (xs 0) (hrefl s) hI (hG 0 c s)
    exact ih _ _ (fun n => hG (n + 1)) hkeep hnext

/-- The store after some calls of a program, each with the next of the answers. -/
def interrupted (exec : (c : Call) → Answer → σ → Reply c × σ) :
    (Nat → Answer) → Program Call Reply α → Nat → σ → σ
  | _, .done _, _, s => s
  | _, .call _ _, 0, s => s
  | xs, .call c next, n + 1, s =>
    interrupted exec (fun n => xs (n + 1)) (next (exec c (xs 0) s).1) n (exec c (xs 0) s).2

theorem Survives.interrupted
    (hrefl : ∀ s, R s s) (xs : Nat → Answer) (hG : ∀ n c s, G c (xs n) s) (n : Nat) (hI : I s)
    (h : Survives exec R I G A Q p s) :
    I (Program.interrupted exec xs p n s) := by
  induction p generalizing s xs n with
  | done a => exact hI
  | call c next ih =>
    cases n with
    | zero => exact hI
    | succ n =>
      obtain ⟨_, hkeep, hnext⟩ := h s (xs 0) (hrefl s) hI (hG 0 c s)
      exact ih _ _ (fun n => hG (n + 1)) n hkeep hnext

section Yields

variable {ε : Type}

variable (exec R I G A) in
/-- The program survives, and a value that it returns satisfies `P`. -/
def Yields (P : α → σ → Prop) (p : ExceptT ε (Program Call Reply) α) (s : σ) : Prop :=
  Survives exec R I G A (fun r s' => ∀ a, r = .ok a → P a s') p.run s

variable {P : α → σ → Prop} {s : σ}

theorem yields_pure {a : α} (h : P a s) :
    Yields exec R I G A P (pure a : ExceptT ε (Program Call Reply) α) s := by
  intro a' ha'
  cases ha'
  exact h

theorem yields_throw (e : ε) (s : σ) :
    Yields exec R I G A P (throw e : ExceptT ε (Program Call Reply) α) s :=
  fun _ ha => by cases ha

variable {p : ExceptT ε (Program Call Reply) α}

/-- A program of calls that keep `J`, whatever it returns. -/
theorem yields_of_calls {J : σ → Prop} (hstable : ∀ s s', J s → R s s' → J s')
    (hp :
      p.run.Calls (fun c =>
        ∀ s x, I s → G c x s → J s → A c x s ∧ I (exec c x s).2 ∧ J (exec c x s).2))
    (hJ : J s) :
    Yields exec R I G A (fun _ s' => J s') p s :=
  Survives.mono (fun _ _ h _ _ => h) (Survives.of_calls hstable hp hJ)

theorem yields_mk_pure {x : Except ε α} (h : ∀ a, x = .ok a → P a s) :
    Yields exec R I G A P (ExceptT.mk (pure x) : ExceptT ε (Program Call Reply) α) s :=
  h

theorem Yields.bind {Q : β → σ → Prop} {f : α → ExceptT ε (Program Call Reply) β}
    (hp : Yields exec R I G A P p s) (hf : ∀ a s', P a s' → Yields exec R I G A Q (f a) s') :
    Yields exec R I G A Q (p >>= f) s := by
  refine Survives.bind hp ?_
  intro r s' hr
  cases r with
  | error e => exact fun _ ha => by cases ha
  | ok a => exact hf a s' (hr a rfl)

theorem Yields.mono {P Q : α → σ → Prop}
    (hp : Yields exec R I G A P p s) (hPQ : ∀ a s', P a s' → Q a s') :
    Yields exec R I G A Q p s :=
  Survives.mono (fun _ _ h a ha => hPQ a _ (h a ha)) hp

theorem Yields.frame {J : σ → Prop} (hstable : ∀ s s', J s → R s s' → J s')
    (hcall : ∀ c x s, I s → G c x s → A c x s → J s → J (exec c x s).2)
    (hp : Yields exec R I G A P p s) (hJ : J s) :
    Yields exec R I G A (fun a s' => P a s' ∧ J s') p s :=
  Survives.mono (fun _ _ h a ha => ⟨h.1 a ha, h.2⟩) (Survives.frame hstable hcall hp hJ)

theorem yields_lift_perform {c : Call} {P : Reply c → σ → Prop}
    (h :
      ∀ s' x, R s s' → I s' → G c x s' →
        A c x s' ∧ I (exec c x s').2 ∧ P (exec c x s').1 (exec c x s').2) :
    Yields exec R I G A P (ExceptT.lift (perform c) : ExceptT ε (Program Call Reply) _) s := by
  intro s' x hR hI hG
  obtain ⟨hA, hkeep, hP⟩ := h s' x hR hI hG
  refine ⟨hA, hkeep, ?_⟩
  intro a ha
  cases ha
  exact hP

end Yields

end Survives

end Program

section Machine

variable {Call : Type} {Reply : Call → Type}
variable {σ α Arg Answer Env : Type}

/-- A store and the attempt that holds the lock.  An attempt that is `done`
has given it back. -/
structure Attempted (σ Call : Type) (Reply : Call → Type) (α : Type) where
  store : σ
  attempt : Option (Program Call Reply α)

/-- What happens next: an attempt starts, the attempt in progress makes its
next call and is answered, it is cut, or the environment acts. -/
inductive AttemptEvent (Arg Answer Env : Type)
  | start (arg : Arg)
  | answer (x : Answer)
  | crash
  | other (e : Env)

namespace Attempted

variable (exec : (c : Call) → Answer → σ → Reply c × σ)
variable (program : Arg → Program Call Reply α)
variable (env : Env → σ → σ)

/-- Nothing is in progress. -/
def idle (s : σ) : Attempted σ Call Reply α := ⟨s, none⟩

def step (w : Attempted σ Call Reply α) :
    AttemptEvent Arg Answer Env → Attempted σ Call Reply α
  | .start arg =>
    match w.attempt with
    | some (.call _ _) => w
    | _ => ⟨w.store, some (program arg)⟩
  | .answer x =>
    match w.attempt with
    | some (.call c next) => ⟨(exec c x w.store).2, some (next (exec c x w.store).1)⟩
    | _ => w
  | .crash => ⟨w.store, none⟩
  | .other e => ⟨env e w.store, w.attempt⟩

/-- The attempt is about to make the call `c`. -/
def Calling (w : Attempted σ Call Reply α) (c : Call) : Prop :=
  ∃ next, w.attempt = some (.call c next)

/-- The event is within the guards: on what is started, on what is answered
and on what the environment does. -/
def Within (S : Arg → σ → Prop) (G : Call → Answer → σ → Prop) (E : Env → σ → Prop)
    (w : Attempted σ Call Reply α) :
    AttemptEvent Arg Answer Env → Prop
  | .start arg => S arg w.store
  | .answer x => ∀ c, w.Calling c → G c x w.store
  | .crash => True
  | .other e => E e w.store

instance decidableWithin (S : Arg → σ → Prop) [∀ arg s, Decidable (S arg s)]
    (G : Call → Answer → σ → Prop) [∀ c x s, Decidable (G c x s)]
    (E : Env → σ → Prop) [∀ e s, Decidable (E e s)] (w : Attempted σ Call Reply α) :
    (e : AttemptEvent Arg Answer Env) → Decidable (w.Within S G E e)
  | .start arg => inferInstanceAs (Decidable (S arg w.store))
  | .crash => isTrue trivial
  | .other e => inferInstanceAs (Decidable (E e w.store))
  | .answer x =>
    match h : w.attempt with
    | none => isTrue (fun _ ⟨_, hc⟩ => nomatch h.symm.trans hc)
    | some (.done _) => isTrue (fun _ ⟨_, hc⟩ => nomatch h.symm.trans hc)
    | some (.call c next) =>
      decidable_of_iff (G c x w.store)
        ⟨fun hG _ ⟨_, hc⟩ => by cases h.symm.trans hc; exact hG, fun hG => hG c ⟨next, h⟩⟩

/-- The invariant holds of the store, and the attempt in progress survives or
has returned what satisfies `Q`. -/
structure OnCourse
    (R : σ → σ → Prop) (I : σ → Prop) (G A : Call → Answer → σ → Prop) (Q : α → σ → Prop)
    (w : Attempted σ Call Reply α) : Prop where
  store : I w.store
  attempt : ∀ p, w.attempt = some p → p.Survives exec R I G A Q w.store

section Rule

variable {exec program env}
variable {R : σ → σ → Prop} {I : σ → Prop} {G A : Call → Answer → σ → Prop}
variable {S : Arg → σ → Prop} {E : Env → σ → Prop} {Q : α → σ → Prop}

theorem onCourse_idle {s : σ} (hI : I s) :
    OnCourse exec R I G A Q (idle s : Attempted σ Call Reply α) :=
  ⟨hI, fun _ hp => by cases hp⟩

variable {w : Attempted σ Call Reply α}

/-- **One event** within the guards. -/
theorem OnCourse.step (hrefl : ∀ s, R s s) (htrans : ∀ s₁ s₂ s₃, R s₁ s₂ → R s₂ s₃ → R s₁ s₃)
    (hQ : ∀ a s s', Q a s → R s s' → Q a s')
    (hstart : ∀ arg s, I s → S arg s → (program arg).Survives exec R I G A Q s)
    (henv : ∀ e s, I s → E e s → R s (env e s) ∧ I (env e s)) {e : AttemptEvent Arg Answer Env}
    (h : w.OnCourse exec R I G A Q) (hwithin : w.Within S G E e) :
    (w.step exec program env e).OnCourse exec R I G A Q := by
  cases e with
  | start arg =>
    simp only [Attempted.step]
    split
    · exact h
    · refine ⟨h.store, ?_⟩
      intro p hp
      cases hp
      exact hstart arg _ h.store hwithin
  | answer x =>
    simp only [Attempted.step]
    split
    · rename_i c next hattempt
      obtain ⟨_, hkeep, hnext⟩ :=
        h.attempt _ hattempt w.store x (hrefl _) h.store (hwithin c ⟨next, hattempt⟩)
      refine ⟨hkeep, ?_⟩
      intro p hp
      cases hp
      exact hnext
    · exact h
  | crash => exact onCourse_idle h.store
  | other e =>
    obtain ⟨hR, hI⟩ := henv e w.store h.store hwithin
    exact ⟨hI, fun p hp => (h.attempt p hp).stable htrans hQ hR⟩

theorem OnCourse.returned {a : α}
    (h : w.OnCourse exec R I G A Q) (hdone : w.attempt = some (.done a)) :
    Q a w.store :=
  h.attempt _ hdone

theorem OnCourse.owes
    (hrefl : ∀ s, R s s) {e : AttemptEvent Arg Answer Env} (h : w.OnCourse exec R I G A Q)
    (hwithin : w.Within S G E e) :
    ∀ x, e = .answer x → ∀ c, w.Calling c → A c x w.store := by
  rintro x rfl c ⟨next, hattempt⟩
  exact (h.attempt _ hattempt w.store x (hrefl _) h.store (hwithin c ⟨next, hattempt⟩)).1

end Rule

end Attempted

end Machine

end Semantics
end O3k
