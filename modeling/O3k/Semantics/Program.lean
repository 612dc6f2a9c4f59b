import O3k.Semantics.Run
import Mathlib.Logic.Function.Basic

/-!
# Programs over a shared store, run concurrently

A program is a tree: it is done, or it makes one call to a store and goes on
from the reply.  A call is atomic; everything between two calls is local.

Run alone, a program maps a store to a result and a store.  Run concurrently,
any number of calls of a program are in flight, each in its own place of its own
tree, and between two of its calls the others and the environment may change the
store.

`Ensures` is the rule for one program among others: a *rely* `R` bounds what may
happen between two of its calls, an invariant `I` may be assumed of the store,
and an *obligation* `A` has to be met by each call it makes.  The concurrency
rule composes it: in every interleaving every call meets its obligation.
-/

namespace O3k
namespace Semantics

/-- A program that calls a store and ends with an `α`. -/
inductive Program (Call : Type) (Reply : Call → Type) (α : Type)
  | done (a : α)
  | call (c : Call) (next : Reply c → Program Call Reply α)

namespace Program

variable {Call : Type} {Reply : Call → Type} {σ α β : Type}

def bind (p : Program Call Reply α) (f : α → Program Call Reply β) : Program Call Reply β :=
  match p with
  | .done a => f a
  | .call c next => .call c (fun r => (next r).bind f)

instance : Monad (Program Call Reply) where
  pure := .done
  bind := bind

/-- One call. -/
def perform (c : Call) : Program Call Reply (Reply c) := .call c .done

@[simp] theorem pure_eq (a : α) : (pure a : Program Call Reply α) = .done a := by
  rfl

@[simp] theorem done_bind (a : α) (f : α → Program Call Reply β) :
    (Program.done a >>= f) = f a := by
  rfl

@[simp] theorem call_bind
    (c : Call) (next : Reply c → Program Call Reply α) (f : α → Program Call Reply β) :
    (Program.call c next >>= f) = .call c (fun r => next r >>= f) := by
  rfl

@[simp] theorem perform_bind (c : Call) (f : Reply c → Program Call Reply β) :
    (perform c >>= f) = .call c f := by
  rfl

variable (exec : (c : Call) → σ → Reply c × σ)

/-- Run a program with nobody else at the store. -/
def alone : Program Call Reply α → σ → α × σ
  | .done a, s => (a, s)
  | .call c next, s => alone (next (exec c s).1) (exec c s).2

@[simp] theorem alone_done (a : α) (s : σ) :
    alone exec (.done a : Program Call Reply α) s = (a, s) := by
  rfl

@[simp] theorem alone_call (c : Call) (next : Reply c → Program Call Reply α) (s : σ) :
    alone exec (.call c next) s = alone exec (next (exec c s).1) (exec c s).2 := by
  rfl

theorem alone_perform_bind (c : Call) (f : Reply c → Program Call Reply α) (s : σ) :
    alone exec (perform c >>= f) s = alone exec (f (exec c s).1) (exec c s).2 := by
  rfl

theorem alone_bind (p : Program Call Reply α) (f : α → Program Call Reply β) (s : σ) :
    alone exec (p >>= f) s = alone exec (f (alone exec p s).1) (alone exec p s).2 := by
  induction p generalizing s with
  | done a => rfl
  | call c next ih => exact ih _ _

section Expand

variable {Call' : Type} {Reply' : Call' → Type}
variable (impl : (c : Call) → Program Call' Reply' (Reply c))

/-- The program with every call replaced by a program of finer calls, between
which others may act. -/
def expand : Program Call Reply α → Program Call' Reply' α
  | .done a => .done a
  | .call c next => impl c >>= fun r => (next r).expand

theorem expand_perform_bind (c : Call) (f : Reply c → Program Call Reply α) :
    (perform c >>= f).expand impl = impl c >>= fun r => (f r).expand impl :=
  rfl

theorem bind_assoc' {γ : Type} (p : Program Call Reply α) (f : α → Program Call Reply β)
    (g : β → Program Call Reply γ) :
    p >>= f >>= g = p >>= fun a => f a >>= g := by
  induction p with
  | done a => rfl
  | call c next ih => exact congrArg (Program.call c) (funext ih)

theorem expand_bind (p : Program Call Reply α) (f : α → Program Call Reply β) :
    (p >>= f).expand impl = p.expand impl >>= fun a => (f a).expand impl := by
  induction p with
  | done a => rfl
  | call c next ih =>
    show (impl c >>= fun r => (next r >>= f).expand impl) = _
    rw [funext ih]
    exact (bind_assoc' _ _ _).symm

variable {impl exec}

/-- Alone, the finer calls do what the call does. -/
theorem alone_expand {exec' : (c : Call') → σ → Reply' c × σ}
    (himpl : ∀ c s, alone exec' (impl c) s = exec c s) (p : Program Call Reply α) (s : σ) :
    alone exec' (p.expand impl) s = alone exec p s := by
  induction p generalizing s with
  | done a => rfl
  | call c next ih =>
    show alone exec' (impl c >>= fun r => (next r).expand impl) s = _
    rw [alone_bind, himpl, ih]
    rfl

end Expand

/-- Whatever the replies are, the program makes calls in `K` only. -/
def Calls (K : Call → Prop) : Program Call Reply α → Prop
  | .done _ => True
  | .call c next => K c ∧ ∀ r, Calls K (next r)

theorem Calls.mono {K K' : Call → Prop}
    (hK : ∀ c, K c → K' c) {p : Program Call Reply α} (h : p.Calls K) :
    p.Calls K' := by
  induction p with
  | done a => trivial
  | call c next ih => exact ⟨hK c h.1, fun r => ih r (h.2 r)⟩

theorem Calls.bind {K : Call → Prop} {p : Program Call Reply α} {f : α → Program Call Reply β}
    (hp : p.Calls K) (hf : ∀ a, (f a).Calls K) :
    (p >>= f).Calls K := by
  induction p with
  | done a => exact hf a
  | call c next ih => exact ⟨hp.1, fun r => ih r (hp.2 r)⟩

theorem Calls.expand {Call' : Type} {Reply' : Call' → Type}
    {impl : (c : Call) → Program Call' Reply' (Reply c)} {K : Call → Prop} {K' : Call' → Prop}
    (himpl : ∀ c, K c → (impl c).Calls K') {p : Program Call Reply α} (h : p.Calls K) :
    (p.expand impl).Calls K' := by
  induction p with
  | done a => trivial
  | call c next ih => exact (himpl c h.1).bind (fun r => ih r (h.2 r))

theorem calls_perform_bind {K : Call → Prop} {c : Call} {f : Reply c → Program Call Reply α}
    (hc : K c) (hf : ∀ r, (f r).Calls K) :
    (perform c >>= f).Calls K :=
  ⟨hc, hf⟩

section Throwing

variable {ε : Type}

variable {p : ExceptT ε (Program Call Reply) α} {f : α → ExceptT ε (Program Call Reply) β}

theorem calls_run_bind {K : Call → Prop} (hp : p.run.Calls K) (hf : ∀ a, (f a).run.Calls K) :
    (p >>= f).run.Calls K := by
  refine Calls.bind hp ?_
  intro r
  cases r with
  | error e => trivial
  | ok a => exact hf a

theorem alone_run_bind_of_ok {s s' : σ} {a : α} (h : alone exec p.run s = (.ok a, s')) :
    alone exec (p >>= f).run s = alone exec (f a).run s' := by
  show alone exec (p.run >>= fun r => _) s = _
  rw [alone_bind, h]
  rfl

end Throwing

section Ensures

variable (R : σ → σ → Prop) (I : σ → Prop) (A : Call → σ → Prop)

/-- From the store `s` on, whatever the rely allows in between, every call of
the program meets its obligation and the result satisfies `Q`. -/
def Ensures (Q : α → σ → Prop) : Program Call Reply α → σ → Prop
  | .done a, s => Q a s
  | .call c next, s =>
    ∀ s', R s s' → I s' →
      A c s' ∧ Ensures Q (next (exec c s').1) (exec c s').2

variable {exec R I A} {p : Program Call Reply α}

variable {Q : α → σ → Prop}

/-- **One call**, and what follows it. -/
theorem ensures_perform_bind {c : Call} {f : Reply c → Program Call Reply α} {s : σ} :
    Ensures exec R I A Q (perform c >>= f) s ↔ ∀ s', R s s' → I s' →
      A c s' ∧ Ensures exec R I A Q (f (exec c s').1) (exec c s').2 :=
  Iff.rfl

/-- A program all of whose calls meet their obligation anywhere. -/
theorem Ensures.of_calls {K : Call → Prop} (hK : ∀ c s, K c → A c s) (h : p.Calls K) (s : σ) :
    Ensures exec R I A (fun _ _ => True) p s := by
  induction p generalizing s with
  | done a => trivial
  | call c next ih => exact fun s' _ _ => ⟨hK c s' h.1, ih _ (h.2 _) _⟩

/-- **Sequencing**. -/
theorem Ensures.bind {P : α → σ → Prop} {Q : β → σ → Prop} {f : α → Program Call Reply β} {s : σ}
    (hp : Ensures exec R I A P p s) (hf : ∀ a s', P a s' → Ensures exec R I A Q (f a) s') :
    Ensures exec R I A Q (p >>= f) s := by
  induction p generalizing s with
  | done a => exact hf a s hp
  | call c next ih =>
    intro s' hR hI
    obtain ⟨hA, hnext⟩ := hp s' hR hI
    exact ⟨hA, ih _ hnext⟩

/-- **Stability**: what the rely allows does not harm a program that has not
made its next call yet. -/
theorem Ensures.stable
    (htrans : ∀ s₁ s₂ s₃, R s₁ s₂ → R s₂ s₃ → R s₁ s₃) (hQ : ∀ a s s', Q a s → R s s' → Q a s')
    {s s' : σ} (h : Ensures exec R I A Q p s) (hR : R s s') :
    Ensures exec R I A Q p s' := by
  cases p with
  | done a => exact hQ a s s' h hR
  | call c next => exact fun s'' hR' hI => h s'' (htrans s s' s'' hR hR') hI

end Ensures

end Program

section Concurrency

variable {Call : Type} {Reply : Call → Type}
variable {σ α ι Arg Env : Type}

/-- A store and the calls in flight.  A call that is `done` has returned. -/
structure Concurrent (σ ι Call : Type) (Reply : Call → Type) (α : Type) where
  store : σ
  calls : ι → Option (Program Call Reply α)

/-- What happens next: a new call starts, a call makes its next step, or the
environment acts. -/
inductive Event (ι Arg Env : Type)
  | start (id : ι) (arg : Arg)
  | advance (id : ι)
  | other (e : Env)

namespace Concurrent

variable (exec : (c : Call) → σ → Reply c × σ)
variable (program : Arg → Program Call Reply α)
variable (env : Env → σ → σ)

/-- Nothing is in flight. -/
def initial (s : σ) : Concurrent σ ι Call Reply α :=
  ⟨s, fun _ => none⟩

def step [DecidableEq ι] (w : Concurrent σ ι Call Reply α) :
    Event ι Arg Env → Concurrent σ ι Call Reply α
  | .start id arg =>
    match w.calls id with
    | none => { w with calls := Function.update w.calls id (some (program arg)) }
    | some _ => w
  | .advance id =>
    match w.calls id with
    | some (.call c next) =>
      ⟨(exec c w.store).2, Function.update w.calls id (some (next (exec c w.store).1))⟩
    | _ => w
  | .other e => { w with store := env e w.store }

/-- The call `id` is about to make the store call `c`. -/
def Calling (w : Concurrent σ ι Call Reply α) (id : ι) (c : Call) : Prop :=
  ∃ next, w.calls id = some (.call c next)

/-- The call `id` has returned `a`. -/
def Returned (w : Concurrent σ ι Call Reply α) (id : ι) (a : α) : Prop :=
  w.calls id = some (.done a)

instance decidableReturned [DecidableEq α] (w : Concurrent σ ι Call Reply α) (id : ι) (a : α) :
    Decidable (w.Returned id a) :=
  match h : w.calls id with
  | none => isFalse (fun hc => nomatch h.symm.trans hc)
  | some (.call _ _) => isFalse (fun hc => nomatch h.symm.trans hc)
  | some (.done b) =>
    decidable_of_iff (b = a)
      ⟨fun heq => heq ▸ h, fun hc => by cases h.symm.trans hc; rfl⟩

/-- The call `id` has started and not returned. -/
def InProgress (w : Concurrent σ ι Call Reply α) (id : ι) : Prop := ∃ c, w.Calling id c

/-- The store call that an event makes, if it makes one, satisfies `A`. -/
def Meets (A : Call → σ → Prop) (w : Concurrent σ ι Call Reply α) :
    Event ι Arg Env → Prop
  | .advance id => ∀ c, w.Calling id c → A c w.store
  | _ => True

instance decidableMeets
    (A : Call → σ → Prop) [∀ c s, Decidable (A c s)] (w : Concurrent σ ι Call Reply α) :
    (e : Event ι Arg Env) → Decidable (w.Meets A e)
  | .start _ _ => isTrue trivial
  | .other _ => isTrue trivial
  | .advance id =>
    match h : w.calls id with
    | none => isTrue (fun _ ⟨_, hc⟩ => nomatch h.symm.trans hc)
    | some (.done _) => isTrue (fun _ ⟨_, hc⟩ => nomatch h.symm.trans hc)
    | some (.call c next) =>
      decidable_of_iff (A c w.store)
        ⟨fun hA _ ⟨_, hc⟩ => by cases h.symm.trans hc; exact hA, fun hA => hA c ⟨next, h⟩⟩

/-- The invariant holds of the store and every call in flight is on its way. -/
structure OnTrack (R : σ → σ → Prop) (I : σ → Prop) (A : Call → σ → Prop) (Q : α → σ → Prop)
    (w : Concurrent σ ι Call Reply α) : Prop where
  store : I w.store
  calls :
    ∀ id p, w.calls id = some p → Program.Ensures exec R I A Q p w.store

section Rule

variable {exec program env}
variable {R : σ → σ → Prop} {I : σ → Prop} {A : Call → σ → Prop} {Q : α → σ → Prop}

variable {w : Concurrent σ ι Call Reply α}

theorem OnTrack.moved
    (htrans : ∀ s₁ s₂ s₃, R s₁ s₂ → R s₂ s₃ → R s₁ s₃) (hQ : ∀ a s s', Q a s → R s s' → Q a s')
    (h : w.OnTrack exec R I A Q) {s : σ} (hR : R w.store s) (hI : I s) :
    OnTrack exec R I A Q ⟨s, w.calls⟩ :=
  ⟨hI, fun id p hp => (h.calls id p hp).stable htrans hQ hR⟩

variable [DecidableEq ι]

theorem OnTrack.update (h : w.OnTrack exec R I A Q) {id : ι} {p : Program Call Reply α}
    (hp : Program.Ensures exec R I A Q p w.store) :
    OnTrack exec R I A Q ⟨w.store, Function.update w.calls id (some p)⟩ := by
  refine ⟨h.store, ?_⟩
  intro id' p' (hp' : Function.update w.calls id (some p) id' = some p')
  by_cases hid : id' = id
  · subst hid
    rw [Function.update_self] at hp'
    cases hp'
    exact hp
  · rw [Function.update_of_ne hid] at hp'
    exact h.calls id' p' hp'

/-- **Guarantee**: a relation that the obligations and the environment grant
holds between the stores before and after every event. -/
theorem OnTrack.guarantee {N : σ → σ → Prop}
    (hrefl : ∀ s, R s s) (hsame : ∀ s, N s s) (hcall : ∀ c s, I s → A c s → N s (exec c s).2)
    (h : w.OnTrack exec R I A Q) (henv : ∀ e, N w.store (env e w.store)) (e : Event ι Arg Env) :
    N w.store (w.step exec program env e).store := by
  cases e with
  | start id arg =>
    simp only [Concurrent.step]
    split <;> exact hsame _
  | advance id =>
    simp only [Concurrent.step]
    split
    · rename_i c next hcalls
      exact hcall c _ h.store (h.calls id _ hcalls w.store (hrefl _) h.store).1
    · exact hsame _
  | other e => exact henv e

theorem meets_true (e : Event ι Arg Env) : w.Meets (fun _ _ => True) e := by
  cases e <;> simp [Concurrent.Meets]

variable {G : Concurrent σ ι Call Reply α → Event ι Arg Env → Prop}

variable (hrefl : ∀ s, R s s) (htrans : ∀ s₁ s₂ s₃, R s₁ s₂ → R s₂ s₃ → R s₁ s₃)
  (hQ : ∀ a s s', Q a s → R s s' → Q a s')
  (hstart :
    ∀ (w : Concurrent σ ι Call Reply α) id arg,
      I w.store → G w (.start id arg) → Program.Ensures exec R I A Q (program arg) w.store)
  (henv :
    ∀ (w : Concurrent σ ι Call Reply α) e,
      I w.store → G w (.other e) → R w.store (env e w.store) ∧ I (env e w.store))

include hrefl htrans hQ hstart henv

/-- **One event**, when the store call that it makes also satisfies `B`. -/
theorem OnTrack.step_meets {B : Call → σ → Prop}
    (hcall : ∀ c s, I s → A c s → B c s → R s (exec c s).2 ∧ I (exec c s).2)
    {e : Event ι Arg Env} (h : w.OnTrack exec R I A Q) (hguard : G w e) (hmeets : w.Meets B e) :
    (w.step exec program env e).OnTrack exec R I A Q := by
  cases e with
  | start id arg =>
    simp only [Concurrent.step]
    split
    · exact h.update (hstart w id arg h.store hguard)
    · exact h
  | advance id =>
    simp only [Concurrent.step]
    split
    · rename_i c next hcalls
      obtain ⟨hA, hnext⟩ := h.calls id _ hcalls w.store (hrefl _) h.store
      obtain ⟨hR, hI⟩ := hcall c w.store h.store hA (hmeets c ⟨next, hcalls⟩)
      exact (h.moved htrans hQ hR hI).update hnext
    · exact h
  | other e =>
    obtain ⟨hR, hI⟩ := henv w e h.store hguard
    exact h.moved htrans hQ hR hI

/-- **Concurrency rule with guarded calls**: in every interleaving whose store
calls satisfy `B`, the invariant holds and every call in flight is on its way. -/
theorem onTrack_run_meets {B : Call → σ → Prop}
    (hcall : ∀ c s, I s → A c s → B c s → R s (exec c s).2 ∧ I (exec c s).2)
    {s : σ} (hs : I s) (events : List (Event ι Arg Env))
    (hguard :
      EachStep (Concurrent.step exec program env) (fun w e => G w e ∧ w.Meets B e)
        (initial s) events) :
    Always (Concurrent.step exec program env) (OnTrack exec R I A Q) (initial s) events :=
  always_of_guarded
    (fun _ _ h hG => h.step_meets hrefl htrans hQ hstart henv hcall hG.1 hG.2)
    (initial s) events
    ⟨hs, fun _ _ hp => by cases hp⟩
    hguard

/-- **Concurrency rule**: in every interleaving the invariant holds, every call
in flight is on its way, and every store call meets its obligation. -/
theorem onTrack_run (hcall : ∀ c s, I s → A c s → R s (exec c s).2 ∧ I (exec c s).2)
    {s : σ} (hs : I s) (events : List (Event ι Arg Env))
    (hguard : EachStep (Concurrent.step exec program env) G (initial s) events) :
    Always (Concurrent.step exec program env) (OnTrack exec R I A Q) (initial s) events :=
  onTrack_run_meets (B := fun _ _ => True) hrefl htrans hQ hstart henv
    (fun c s hI hA _ => hcall c s hI hA) hs events
    (EachStep.imp (fun _ e hG => ⟨hG, meets_true e⟩) hguard)

end Rule

end Concurrent

end Concurrency

end Semantics
end O3k
