import O3k.Semantics.Attempts

/-!
# Many attempts at once

Any number of attempts are in flight, each in its own place of its own program.
What a call replies and leaves behind depends on an answer of the environment,
which may also change the store between two calls.  A crash ends an attempt
between any two of its calls, and the store drops what only the attempt held.

Each attempt has a rely of its own, so that a lock can be reasoned about: what
the holder may rely on is what the others guarantee because they do not hold
it.
-/

namespace O3k
namespace Semantics

variable {Call : Type} {Reply : Call → Type}
variable {σ ι α Arg Answer Env : Type}

/-- A store and the attempts in flight.  An attempt that is `done` has
returned. -/
structure Crowd (σ ι Call : Type) (Reply : Call → Type) (α : Type) where
  store : σ
  attempts : ι → Option (Program Call Reply α)

/-- What happens next: an attempt starts, makes its next call and is answered,
or is cut, or the environment acts. -/
inductive CrowdEvent (ι Arg Answer Env : Type)
  | start (id : ι) (arg : Arg)
  | answer (id : ι) (x : Answer)
  | crash (id : ι)
  | other (e : Env)

namespace Crowd

variable (exec : (c : Call) → Answer → σ → Reply c × σ)
variable (program : ι → Arg → Program Call Reply α)
variable (drop : ι → σ → σ)
variable (env : Env → σ → σ)

/-- Nothing is in flight. -/
def idle (s : σ) : Crowd σ ι Call Reply α :=
  ⟨s, fun _ => none⟩

def step [DecidableEq ι] (w : Crowd σ ι Call Reply α) :
    CrowdEvent ι Arg Answer Env → Crowd σ ι Call Reply α
  | .start id arg =>
    match w.attempts id with
    | some (.call _ _) => w
    | _ => ⟨w.store, Function.update w.attempts id (some (program id arg))⟩
  | .answer id x =>
    match w.attempts id with
    | some (.call c next) =>
      ⟨(exec c x w.store).2, Function.update w.attempts id (some (next (exec c x w.store).1))⟩
    | _ => w
  | .crash id =>
    match w.attempts id with
    | some (.call _ _) => ⟨drop id w.store, Function.update w.attempts id none⟩
    | _ => w
  | .other e => ⟨env e w.store, w.attempts⟩

/-- The attempt `id` is about to make the call `c`. -/
def Calling (w : Crowd σ ι Call Reply α) (id : ι) (c : Call) : Prop :=
  ∃ next, w.attempts id = some (.call c next)

/-- The event is within the guards: on what is started, on what is answered
and on what the environment does. -/
def Within (S : ι → Arg → σ → Prop) (G : ι → Call → Answer → σ → Prop) (E : Env → σ → Prop)
    (w : Crowd σ ι Call Reply α) :
    CrowdEvent ι Arg Answer Env → Prop
  | .start id arg => S id arg w.store
  | .answer id x => ∀ c, w.Calling id c → G id c x w.store
  | .crash _ => True
  | .other e => E e w.store

instance decidableWithin (S : ι → Arg → σ → Prop) [∀ id arg s, Decidable (S id arg s)]
    (G : ι → Call → Answer → σ → Prop) [∀ id c x s, Decidable (G id c x s)]
    (E : Env → σ → Prop) [∀ e s, Decidable (E e s)] (w : Crowd σ ι Call Reply α) :
    (e : CrowdEvent ι Arg Answer Env) → Decidable (w.Within S G E e)
  | .start id arg => inferInstanceAs (Decidable (S id arg w.store))
  | .crash _ => isTrue trivial
  | .other e => inferInstanceAs (Decidable (E e w.store))
  | .answer id x =>
    match h : w.attempts id with
    | none => isTrue (fun _ ⟨_, hc⟩ => nomatch h.symm.trans hc)
    | some (.done _) => isTrue (fun _ ⟨_, hc⟩ => nomatch h.symm.trans hc)
    | some (.call c next) =>
      decidable_of_iff (G id c x w.store)
        ⟨fun hG _ ⟨_, hc⟩ => by cases h.symm.trans hc; exact hG, fun hG => hG c ⟨next, h⟩⟩

/-- The invariant holds of the store, and each attempt in flight survives or
has returned what satisfies its `Q`. -/
structure OnCourse (R : ι → σ → σ → Prop) (I : σ → Prop) (G A : ι → Call → Answer → σ → Prop)
    (Q : ι → α → σ → Prop) (w : Crowd σ ι Call Reply α) : Prop where
  store : I w.store
  attempts :
    ∀ id p, w.attempts id = some p → p.Survives exec (R id) I (G id) (A id) (Q id) w.store

section Rule

variable {exec program drop env}
variable {R : ι → σ → σ → Prop} {I : σ → Prop} {G A : ι → Call → Answer → σ → Prop}
variable {S : ι → Arg → σ → Prop} {E : Env → σ → Prop} {Q : ι → α → σ → Prop}

theorem onCourse_idle {s : σ} (hI : I s) :
    OnCourse exec R I G A Q (idle s : Crowd σ ι Call Reply α) :=
  ⟨hI, fun _ _ hp => by cases hp⟩

variable {w : Crowd σ ι Call Reply α}

theorem OnCourse.owes
    (hrefl : ∀ id s, R id s s) (h : w.OnCourse exec R I G A Q) {id : ι} {c : Call} {x : Answer}
    (hcalling : w.Calling id c) (hG : G id c x w.store) :
    A id c x w.store ∧ I (exec c x w.store).2 := by
  obtain ⟨next, hnext⟩ := hcalling
  obtain ⟨hA, hI, _⟩ := h.attempts id _ hnext w.store x (hrefl id _) h.store hG
  exact ⟨hA, hI⟩

variable [DecidableEq ι]

theorem OnCourse.moved (htrans : ∀ id s₁ s₂ s₃, R id s₁ s₂ → R id s₂ s₃ → R id s₁ s₃)
    (hQ : ∀ id a s s', Q id a s → R id s s' → Q id a s') (h : w.OnCourse exec R I G A Q)
    {id : ι} {s : σ} (hI : I s) (hothers : ∀ id', id' ≠ id → R id' w.store s)
    {q : Option (Program Call Reply α)}
    (hq : ∀ p, q = some p → p.Survives exec (R id) I (G id) (A id) (Q id) s) :
    OnCourse exec R I G A Q ⟨s, Function.update w.attempts id q⟩ := by
  refine ⟨hI, ?_⟩
  intro id' p (hp : Function.update w.attempts id q id' = some p)
  by_cases hid : id' = id
  · subst hid
    rw [Function.update_self] at hp
    exact hq p hp
  · rw [Function.update_of_ne hid] at hp
    exact (h.attempts id' p hp).stable (htrans id') (hQ id') (hothers id' hid)

/-- **One event** within the guards. -/
theorem OnCourse.step
    (hrefl : ∀ id s, R id s s) (htrans : ∀ id s₁ s₂ s₃, R id s₁ s₂ → R id s₂ s₃ → R id s₁ s₃)
    (hQ : ∀ id a s s', Q id a s → R id s s' → Q id a s')
    (hstart :
      ∀ id arg s, I s → S id arg s → (program id arg).Survives exec (R id) I (G id) (A id) (Q id) s)
    (hothers : ∀ id id' c x s, id' ≠ id → I s → G id c x s → A id c x s → R id' s (exec c x s).2)
    (hcrash : ∀ id s, I s → I (drop id s) ∧ ∀ id', id' ≠ id → R id' s (drop id s))
    (henv : ∀ e s, I s → E e s → I (env e s) ∧ ∀ id, R id s (env e s))
    {e : CrowdEvent ι Arg Answer Env} (h : w.OnCourse exec R I G A Q) (hwithin : w.Within S G E e) :
    (w.step exec program drop env e).OnCourse exec R I G A Q := by
  cases e with
  | start id arg =>
    simp only [Crowd.step]
    split
    · exact h
    · refine h.moved htrans hQ h.store (fun id' _ => hrefl id' _) ?_
      intro p hp
      cases hp
      exact hstart id arg _ h.store hwithin
  | answer id x =>
    simp only [Crowd.step]
    split
    · rename_i c next hattempt
      have hG := hwithin c ⟨next, hattempt⟩
      obtain ⟨hA, hkeep, hnext⟩ :=
        h.attempts id _ hattempt w.store x (hrefl id _) h.store hG
      refine h.moved htrans hQ hkeep ?_ ?_
      · exact fun id' hid => hothers id id' c x _ hid h.store hG hA
      · intro p hp
        cases hp
        exact hnext
    · exact h
  | crash id =>
    simp only [Crowd.step]
    split
    · obtain ⟨hI, hR⟩ := hcrash id _ h.store
      exact h.moved htrans hQ hI hR (fun p hp => by cases hp)
    · exact h
  | other e =>
    obtain ⟨hI, hR⟩ := henv e w.store h.store hwithin
    exact ⟨hI, fun id p hp => (h.attempts id p hp).stable (htrans id) (hQ id) (hR id)⟩

/-- **Guarantee**: a relation that the obligations, the crashes and the
environment grant holds between the stores before and after every event. -/
theorem OnCourse.guarantee {N : σ → σ → Prop} (hrefl : ∀ id s, R id s s) (hsame : ∀ s, N s s)
    (hcall : ∀ id c x s, I s → G id c x s → A id c x s → N s (exec c x s).2)
    (hcrash : ∀ id s, I s → N s (drop id s)) (henv : ∀ e s, I s → E e s → N s (env e s))
    {e : CrowdEvent ι Arg Answer Env} (h : w.OnCourse exec R I G A Q) (hwithin : w.Within S G E e) :
    N w.store (w.step exec program drop env e).store := by
  cases e with
  | start id arg =>
    simp only [Crowd.step]
    split <;> exact hsame _
  | answer id x =>
    simp only [Crowd.step]
    split
    · rename_i c next hattempt
      have hG := hwithin c ⟨next, hattempt⟩
      exact hcall id c x _ h.store hG (h.owes hrefl ⟨next, hattempt⟩ hG).1
    · exact hsame _
  | crash id =>
    simp only [Crowd.step]
    split
    · exact hcrash id _ h.store
    · exact hsame _
  | other e => exact henv e _ h.store hwithin

end Rule

end Crowd

end Semantics
end O3k
