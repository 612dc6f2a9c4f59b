import O3k.Semantics.Crowd

/-!
# Check, then act

A program that *acts* on an item only after a reply has *shown* the item open
can still act on a closed one: between the reply and the act another attempt may
close it.  That stretch of the program is its window.

When no program starts inside a window and what a reply shows is true of the
store, closing an item is harmless exactly while nobody is in a window for it.
The window rule says so for every interleaving, per attempt, so that a lock can
keep some attempts out of the way.

`Enclosed` connects windows with a lock: an attempt whose next call is one that
is made without the lock is in no window.
-/

namespace O3k
namespace Semantics

variable {Call : Type} {Reply : Call → Type}
variable {σ ι α β Arg Answer Env X : Type}

section Programs

variable (acts : Call → X → Prop) (shows : (c : Call) → Reply c → X → Prop)

/-- The program may act on `x` before a reply has shown it open. -/
def Unchecked (x : X) : Program Call Reply α → Prop
  | .done _ => False
  | .call c next => acts c x ∨ ∃ r, ¬ shows c r x ∧ Unchecked x (next r)

variable {acts shows}

theorem not_unchecked_of_calls {x : X} {p : Program Call Reply α}
    (h : p.Calls (fun c => ¬ acts c x)) :
    ¬ Unchecked acts shows x p := by
  induction p with
  | done a => exact id
  | call c next ih =>
    rintro (hact | ⟨r, _, hnext⟩)
    · exact h.1 hact
    · exact ih r (h.2 r) hnext

end Programs

section Hereditary

/-- The property goes from a program to what is left of it after a reply. -/
def Hereditary (K : Program Call Reply α → Prop) : Prop :=
  ∀ c next, K (.call c next) → ∀ r, K (next r)

variable [DecidableEq ι]
variable {exec : (c : Call) → Answer → σ → Reply c × σ}
variable {program : ι → Arg → Program Call Reply α}
variable {drop : ι → σ → σ}
variable {env : Env → σ → σ}

/-- **One event** keeps a hereditary property of the attempts in flight. -/
theorem Crowd.hereditary_step {K : ι → Program Call Reply α → Prop}
    (hK : ∀ id, Hereditary (K id)) (hstart : ∀ id arg, K id (program id arg))
    {w : Crowd σ ι Call Reply α} (h : ∀ id p, w.attempts id = some p → K id p)
    (e : CrowdEvent ι Arg Answer Env) :
    ∀ id p, (w.step exec program drop env e).attempts id = some p → K id p := by
  have hupdate :
      ∀ (s : σ) id q, (∀ p, q = some p → K id p) →
        ∀ id' p, (⟨s, Function.update w.attempts id q⟩ : Crowd σ ι Call Reply α).attempts id' =
          some p → K id' p := by
    intro s id q hq id' p (hp : Function.update w.attempts id q id' = some p)
    by_cases hid : id' = id
    · subst hid
      rw [Function.update_self] at hp
      exact hq p hp
    · rw [Function.update_of_ne hid] at hp
      exact h id' p hp
  cases e with
  | start id arg =>
    simp only [Crowd.step]
    split
    · exact h
    · exact hupdate _ _ _ (by rintro p ⟨⟩; exact hstart id arg)
  | answer id x =>
    simp only [Crowd.step]
    split
    · rename_i c next hattempt
      refine hupdate _ _ _ ?_
      rintro p ⟨⟩
      exact hK id c next (h id _ hattempt) _
    · exact h
  | crash id =>
    simp only [Crowd.step]
    split
    · exact hupdate _ _ _ (fun p hp => by cases hp)
    · exact h
  | other e => exact h

end Hereditary

section Windows

variable (acts : Call → X → Prop) (shows : (c : Call) → Reply c → X → Prop)
variable (isOpen : X → σ → Prop)

/-- The attempt `id` is in its window for `x`. -/
def Crowd.InWindow (w : Crowd σ ι Call Reply α) (id : ι) (x : X) : Prop :=
  ∃ p, w.attempts id = some p ∧ Unchecked acts shows x p

/-- Whoever is in a window for an item finds it open. -/
def Crowd.WindowsOpen (w : Crowd σ ι Call Reply α) : Prop :=
  ∀ id x, w.InWindow acts shows id x → isOpen x w.store

variable {acts shows isOpen}
variable {exec : (c : Call) → Answer → σ → Reply c × σ}
variable {program : ι → Arg → Program Call Reply α}
variable {drop : ι → σ → σ}
variable {env : Env → σ → σ} {w : Crowd σ ι Call Reply α}

theorem Crowd.WindowsOpen.open_of_act
    (h : w.WindowsOpen acts shows isOpen) {id : ι} {c : Call} (hcalling : w.Calling id c) {x : X}
    (hact : acts c x) :
    isOpen x w.store := by
  obtain ⟨next, hnext⟩ := hcalling
  exact h id x ⟨_, hnext, Or.inl hact⟩

variable [DecidableEq ι]

/-- A window after an event was one before it, or the event has just shown its
item open. -/
theorem Crowd.inWindow_step (hchecked : ∀ id arg x, ¬ Unchecked acts shows x (program id arg))
    (hshows : ∀ c a s x, shows c (exec c a s).1 x → isOpen x (exec c a s).2)
    {e : CrowdEvent ι Arg Answer Env} {id' : ι} {x : X}
    (h : (w.step exec program drop env e).InWindow acts shows id' x) :
    w.InWindow acts shows id' x ∨ isOpen x (w.step exec program drop env e).store := by
  obtain ⟨p, hp, hunchecked⟩ := h
  cases e with
  | other e => exact Or.inl ⟨p, hp, hunchecked⟩
  | start id arg =>
    simp only [Crowd.step] at hp
    split at hp
    · exact Or.inl ⟨p, hp, hunchecked⟩
    · by_cases hsame : id' = id
      · subst hsame
        simp only [Function.update_self, Option.some.injEq] at hp
        subst hp
        exact absurd hunchecked (hchecked _ arg x)
      · simp only [Function.update_of_ne hsame] at hp
        exact Or.inl ⟨p, hp, hunchecked⟩
  | crash id =>
    simp only [Crowd.step] at hp
    split at hp
    · by_cases hsame : id' = id
      · subst hsame
        simp only [Function.update_self] at hp
        cases hp
      · simp only [Function.update_of_ne hsame] at hp
        exact Or.inl ⟨p, hp, hunchecked⟩
    · exact Or.inl ⟨p, hp, hunchecked⟩
  | answer id a =>
    cases hid : w.attempts id with
    | none =>
      simp only [Crowd.step, hid] at hp
      exact Or.inl ⟨p, hp, hunchecked⟩
    | some q =>
      cases q with
      | done b =>
        simp only [Crowd.step, hid] at hp
        exact Or.inl ⟨p, hp, hunchecked⟩
      | call c next =>
        simp only [Crowd.step, hid] at hp ⊢
        by_cases hsame : id' = id
        · subst hsame
          simp only [Function.update_self, Option.some.injEq] at hp
          subst hp
          by_cases hshown : shows c (exec c a w.store).1 x
          · exact Or.inr (hshows c a w.store x hshown)
          · exact Or.inl ⟨_, hid, Or.inr ⟨_, hshown, hunchecked⟩⟩
        · simp only [Function.update_of_ne hsame] at hp
          exact Or.inl ⟨p, hp, hunchecked⟩

/-- **One event** that closes no item that an attempt is in a window for. -/
theorem Crowd.WindowsOpen.step (hchecked : ∀ id arg x, ¬ Unchecked acts shows x (program id arg))
    (hshows : ∀ c a s x, shows c (exec c a s).1 x → isOpen x (exec c a s).2)
    {e : CrowdEvent ι Arg Answer Env} (h : w.WindowsOpen acts shows isOpen)
    (hguard :
      ∀ id x, w.InWindow acts shows id x → isOpen x w.store →
        isOpen x (w.step exec program drop env e).store) :
    (w.step exec program drop env e).WindowsOpen acts shows isOpen := by
  intro id x hx
  rcases Crowd.inWindow_step hchecked hshows hx with hbefore | hopen
  · exact hguard id x hbefore (h id x hbefore)
  · exact hopen

end Windows

section Enclosed

variable {acts : Call → X → Prop} {shows : (c : Call) → Reply c → X → Prop}

variable {p : Program Call Reply α} {f : α → Program Call Reply β}

theorem unchecked_bind {x : X} (h : Unchecked acts shows x (p >>= f)) :
    Unchecked acts shows x p ∨ ∃ a, Unchecked acts shows x (f a) := by
  induction p with
  | done a => exact Or.inr ⟨a, h⟩
  | call c next ih =>
    rcases h with hact | ⟨r, hshown, hnext⟩
    · exact Or.inl (Or.inl hact)
    · rcases ih r hnext with hp | hf
      · exact Or.inl (Or.inr ⟨r, hshown, hp⟩)
      · exact Or.inr hf

theorem not_unchecked_bind {x : X}
    (hp : ¬ Unchecked acts shows x p) (hf : ∀ a, ¬ Unchecked acts shows x (f a)) :
    ¬ Unchecked acts shows x (p >>= f) := by
  intro h
  rcases unchecked_bind h with h | ⟨a, h⟩
  · exact hp h
  · exact hf a h

variable (acts shows) in
/-- Where the next call is a free one, the program is in no window for `x`. -/
def Enclosed (free : Call → Prop) (x : X) : Program Call Reply α → Prop
  | .done _ => True
  | .call c next =>
    (free c → ¬ Unchecked acts shows x (.call c next)) ∧ ∀ r, Enclosed free x (next r)

variable {free : Call → Prop} {x : X}

theorem hereditary_enclosed :
    Hereditary (fun p : Program Call Reply α => Enclosed acts shows free x p) :=
  fun _ _ h r => h.2 r

theorem Enclosed.of_calls (h : p.Calls (fun c => ¬ free c)) : Enclosed acts shows free x p := by
  induction p with
  | done a => trivial
  | call c next ih => exact ⟨fun hfree => absurd hfree h.1, fun r => ih r (h.2 r)⟩

theorem Enclosed.of_no_act (h : p.Calls (fun c => ¬ acts c x)) : Enclosed acts shows free x p := by
  induction p with
  | done a => trivial
  | call c next ih => exact ⟨fun _ => not_unchecked_of_calls h, fun r => ih r (h.2 r)⟩

theorem Enclosed.bind
    (hp : Enclosed acts shows free x p) (hf : ∀ a, Enclosed acts shows free x (f a))
    (hchecked : ∀ a, ¬ Unchecked acts shows x (f a)) :
    Enclosed acts shows free x (p >>= f) := by
  induction p with
  | done a => exact hf a
  | call c next ih =>
    refine ⟨?_, fun r => ih r (hp.2 r)⟩
    intro hfree h
    rcases unchecked_bind (p := .call c next) h with h | ⟨a, h⟩
    · exact hp.1 hfree h
    · exact hchecked a h

end Enclosed

end Semantics
end O3k
