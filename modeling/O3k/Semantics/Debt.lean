import O3k.Semantics.Program

/-!
# Debts

A program that puts something into the store and has to take it out again before
it ends is in debt while it is there.  `debt` reads the debt off the store,
`Owes d p` says that `p` does not end as long as `d` is outstanding, and `Pays
p` that `p` owes whatever debt it makes.

The rule for concurrent programs follows: where every program pays and the
environment makes no debt, an outstanding debt is always owed by a call in
progress, so nothing is outstanding when no call is.
-/

namespace O3k
namespace Semantics

namespace Program

variable {Call : Type} {Reply : Call → Type} {σ δ α β : Type}
variable (exec : (c : Call) → σ → Reply c × σ)
variable (I : σ → Prop) (A : Call → Prop) (G : Call → σ → Prop) (debt : σ → Option δ)

/-- As long as the debt is outstanding, the program ends only with a result
in `Q`. -/
def Owes (Q : α → Prop) (d : δ) : Program Call Reply α → Prop
  | .done a => Q a
  | .call c next =>
    ∀ s, I s → G c s → debt s = some d → debt (exec c s).2 = some d →
      Owes Q d (next (exec c s).1)

/-- The program makes calls in `A` only, and whatever debt one of them makes, it
owes from there on; a debt in `Q` may be left to who goes on from the result. -/
def Pays (Q : δ → α → Prop) : Program Call Reply α → Prop
  | .done _ => True
  | .call c next =>
    A c ∧ ∀ s, I s → G c s →
      (∀ d, debt (exec c s).2 = some d → debt s ≠ some d →
        Owes exec I G debt (Q d) d (next (exec c s).1)) ∧
      Pays Q (next (exec c s).1)

variable {exec I A G debt} {p : Program Call Reply α}

variable {f : α → Program Call Reply β}

theorem Owes.bind {P : α → Prop} {Q : β → Prop} {d : δ}
    (hp : Owes exec I G debt P d p) (hf : ∀ a, P a → Owes exec I G debt Q d (f a)) :
    Owes exec I G debt Q d (p >>= f) := by
  induction p with
  | done a => exact hf a hp
  | call c next ih => exact fun s hI hG hbefore hafter => ih _ (hp s hI hG hbefore hafter)

theorem owes_perform_bind {Q : α → Prop} {d : δ} {c : Call} {f : Reply c → Program Call Reply α} :
    Owes exec I G debt Q d (perform c >>= f) ↔
    ∀ s, I s → G c s → debt s = some d → debt (exec c s).2 = some d →
      Owes exec I G debt Q d (f (exec c s).1) :=
  Iff.rfl

/-- **Sequencing**: the second program may be left a debt of the first. -/
theorem Pays.bind {P : δ → α → Prop} {Q : δ → β → Prop}
    (hp : Pays exec I A G debt P p) (hf : ∀ a, Pays exec I A G debt Q (f a))
    (howes : ∀ d a, P d a → Owes exec I G debt (Q d) d (f a)) :
    Pays exec I A G debt Q (p >>= f) := by
  induction p with
  | done a => exact hf a
  | call c next ih =>
    refine ⟨hp.1, fun s hI hG => ?_⟩
    obtain ⟨hmade, hrest⟩ := hp.2 s hI hG
    exact ⟨fun d hd hnew => (hmade d hd hnew).bind (howes d), ih _ hrest⟩

section Expand

variable {Call' : Type} {Reply' : Call' → Type}
variable {impl : (c : Call') → Program Call Reply (Reply' c)}
variable {q : Program Call' Reply' α} {g : α → Program Call' Reply' β}

theorem Owes.expand_bind {P : α → Prop} {Q : β → Prop} {d : δ}
    (hq : Owes exec I G debt P d (q.expand impl))
    (hg : ∀ a, P a → Owes exec I G debt Q d ((g a).expand impl)) :
    Owes exec I G debt Q d ((q >>= g).expand impl) := by
  rw [Program.expand_bind]
  exact hq.bind hg

theorem Owes.expand_perform_bind {c : Call'} {h : Reply' c → Program Call' Reply' β}
    {P : Reply' c → Prop} {Q : β → Prop} {d : δ} (hc : Owes exec I G debt P d (impl c))
    (hh : ∀ r, P r → Owes exec I G debt Q d ((h r).expand impl)) :
    Owes exec I G debt Q d ((perform c >>= h).expand impl) :=
  hc.bind hh

theorem Pays.expand_bind {P : δ → α → Prop} {Q : δ → β → Prop}
    (hq : Pays exec I A G debt P (q.expand impl))
    (hg : ∀ a, Pays exec I A G debt Q ((g a).expand impl))
    (howes : ∀ d a, P d a → Owes exec I G debt (Q d) d ((g a).expand impl)) :
    Pays exec I A G debt Q ((q >>= g).expand impl) := by
  rw [Program.expand_bind]
  exact hq.bind hg howes

theorem Pays.expand_bind_of_clear {Q : δ → β → Prop}
    (hq : Pays exec I A G debt (fun _ _ => False) (q.expand impl))
    (hg : ∀ a, Pays exec I A G debt Q ((g a).expand impl)) :
    Pays exec I A G debt Q ((q >>= g).expand impl) :=
  hq.expand_bind hg (fun _ _ h => h.elim)

end Expand

/-- A program none of whose calls makes a debt. -/
theorem Pays.of_calls {Q : δ → α → Prop} {K : Call → Prop}
    (hA : ∀ c, K c → A c) (hclear : ∀ c, K c → ∀ s d, debt (exec c s).2 = some d → debt s = some d)
    (h : p.Calls K) :
    Pays exec I A G debt Q p := by
  induction p with
  | done a => trivial
  | call c next ih =>
    refine ⟨hA c h.1, fun s _ _ => ⟨fun d hd hnew => ?_, ih _ (h.2 _)⟩⟩
    exact absurd (hclear c h.1 s d hd) hnew

end Program

namespace Concurrent

variable {Call : Type} {Reply : Call → Type}
variable {σ δ α ι Arg Env : Type}
variable (exec : (c : Call) → σ → Reply c × σ)
variable (I : σ → Prop) (A : Call → Prop) (G : Call → σ → Prop) (debt : σ → Option δ)

/-- The invariant holds, every call in flight pays, and an outstanding debt is
owed by one of them. -/
structure Accounted (w : Concurrent σ ι Call Reply α) : Prop where
  store : I w.store
  pays :
    ∀ id p, w.calls id = some p → Program.Pays exec I A G debt (fun _ _ => False) p
  owed :
    ∀ d, debt w.store = some d →
      ∃ id p, w.calls id = some p ∧ Program.Owes exec I G debt (fun _ => False) d p

variable {exec I A G debt}

/-- When no call is in progress, nothing is outstanding. -/
theorem Accounted.debt_eq_none {w : Concurrent σ ι Call Reply α}
    (h : w.Accounted exec I A G debt) (hidle : ∀ id, ¬ w.InProgress id) :
    debt w.store = none := by
  cases hdebt : debt w.store with
  | none => rfl
  | some d =>
    obtain ⟨id, p, hp, howes⟩ := h.owed d hdebt
    cases p with
    | done a => exact howes.elim
    | call c next => exact absurd ⟨c, next, hp⟩ (hidle id)

variable {program : Arg → Program Call Reply α} {env : Env → σ → σ}
variable [DecidableEq ι]

/-- **One event** of a run whose calls meet the guard. -/
theorem Accounted.step {E : Concurrent σ ι Call Reply α → Env → Prop}
    (hstart : ∀ arg, Program.Pays exec I A G debt (fun _ _ => False) (program arg))
    (hcall : ∀ c s, I s → A c → I (exec c s).2)
    (henv :
      ∀ (w : Concurrent σ ι Call Reply α) e,
        I w.store → E w e →
          I (env e w.store) ∧ ∀ d, debt (env e w.store) = some d → debt w.store = some d)
    {w : Concurrent σ ι Call Reply α} {e : Event ι Arg Env} (h : w.Accounted exec I A G debt)
    (hmeets : w.Meets G e) (hother : ∀ a, e = .other a → E w a) :
    (w.step exec program env e).Accounted exec I A G debt := by
  cases e with
  | start id arg =>
    simp only [Concurrent.step]
    split
    · rename_i hidle
      refine ⟨h.store, ?_, ?_⟩
      · intro id' p (hp : Function.update w.calls id (some (program arg)) id' = some p)
        by_cases hid : id' = id
        · subst hid
          rw [Function.update_self] at hp
          cases hp
          exact hstart arg
        · rw [Function.update_of_ne hid] at hp
          exact h.pays id' p hp
      · intro d hd
        obtain ⟨id', p, hp, howes⟩ := h.owed d hd
        have hid : id' ≠ id := by
          rintro rfl
          cases hidle.symm.trans hp
        exact ⟨id', p, (Function.update_of_ne hid _ _).trans hp, howes⟩
    · exact h
  | advance id =>
    simp only [Concurrent.step]
    split
    · rename_i c next hcalls
      have hG := hmeets c ⟨next, hcalls⟩
      obtain ⟨hA, hpays⟩ := h.pays id _ hcalls
      obtain ⟨hmade, hrest⟩ := hpays w.store h.store hG
      refine ⟨hcall c w.store h.store hA, ?_, ?_⟩
      · intro id' p (hp : Function.update w.calls id (some (next _)) id' = some p)
        by_cases hid : id' = id
        · subst hid
          rw [Function.update_self] at hp
          cases hp
          exact hrest
        · rw [Function.update_of_ne hid] at hp
          exact h.pays id' p hp
      · intro d hd
        have hown := Function.update_self id (some (next (exec c w.store).1)) w.calls
        by_cases hbefore : debt w.store = some d
        · obtain ⟨id', p, hp, howes⟩ := h.owed d hbefore
          by_cases hid : id' = id
          · subst hid
            rw [hcalls] at hp
            cases hp
            exact ⟨id', _, hown, howes w.store h.store hG hbefore hd⟩
          · exact ⟨id', p, (Function.update_of_ne hid _ _).trans hp, howes⟩
        · exact ⟨id, _, hown, hmade d hd hbefore⟩
    · exact h
  | other a =>
    obtain ⟨hI, hclear⟩ := henv w a h.store (hother a rfl)
    exact ⟨hI, h.pays, fun d hd => h.owed d (hclear d hd)⟩

end Concurrent

end Semantics
end O3k
