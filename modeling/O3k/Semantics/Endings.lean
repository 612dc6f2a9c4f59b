import O3k.Semantics.Attempts

/-!
# How a program ends that is run alone

A program that may throw ends with a value or with an error.  `Ends` has a
postcondition for each: run alone, whatever is answered within a guard, a value
satisfies the one and an error the other.  An error ends the whole sequence, so
that the rule for sequences keeps the second.
-/

namespace O3k
namespace Semantics

namespace Program

variable {Call : Type} {Reply : Call → Type} {σ Answer α β ε : Type}

section Ends

variable (exec : (c : Call) → Answer → σ → Reply c × σ) (G : Call → Answer → σ → Prop)

/-- Alone from the store `s` on, whatever is answered within the guard, the
program ends in `Q`. -/
def Brings (Q : α → σ → Prop) : Program Call Reply α → σ → Prop
  | .done a, s => Q a s
  | .call c next, s => ∀ x, G c x s → Brings Q (next (exec c x s).1) (exec c x s).2

def AnsweredWithin : (Nat → Answer) → Program Call Reply α → σ → Prop
  | _, .done _, _ => True
  | xs, .call c next, s =>
    G c (xs 0) s ∧
      AnsweredWithin (fun n => xs (n + 1)) (next (exec c (xs 0) s).1) (exec c (xs 0) s).2

/-- A value satisfies `P`, an error satisfies `E`. -/
def Outcome (P : α → σ → Prop) (E : ε → σ → Prop) : Except ε α → σ → Prop
  | .ok a, s => P a s
  | .error e, s => E e s

theorem Outcome.mono {P P' : α → σ → Prop} {E E' : ε → σ → Prop} {r : Except ε α} {s : σ}
    (hP : ∀ a s, P a s → P' a s) (hE : ∀ e s, E e s → E' e s) (h : Outcome P E r s) :
    Outcome P' E' r s := by
  cases r with
  | ok a => exact hP a s h
  | error e => exact hE e s h

def Ends (P : α → σ → Prop) (E : ε → σ → Prop) (p : ExceptT ε (Program Call Reply) α) (s : σ) :
    Prop :=
  Brings exec G (Outcome P E) p.run s

variable {exec G} {p : Program Call Reply α}

variable {xs : Nat → Answer} {s : σ}

theorem Brings.answered {Q : α → σ → Prop}
    (h : Brings exec G Q p s) (hwithin : AnsweredWithin exec G xs p s) :
    Q (Program.answered exec xs p s).1 (Program.answered exec xs p s).2 := by
  induction p generalizing s xs with
  | done a => exact h
  | call c next ih => exact ih _ (h (xs 0) hwithin.1) hwithin.2

theorem answeredWithin_of_forall (h : ∀ n c s, G c (xs n) s) (p : Program Call Reply α) (s : σ) :
    AnsweredWithin exec G xs p s := by
  induction p generalizing s xs with
  | done a => trivial
  | call c next ih => exact ⟨h 0 c s, ih _ (fun n c s => h (n + 1) c s) _⟩

theorem AnsweredWithin.and {G' : Call → Answer → σ → Prop}
    (h : AnsweredWithin exec G xs p s) (h' : AnsweredWithin exec G' xs p s) :
    AnsweredWithin exec (fun c x s => G c x s ∧ G' c x s) xs p s := by
  induction p generalizing s xs with
  | done a => trivial
  | call c next ih => exact ⟨⟨h.1, h'.1⟩, ih _ h.2 h'.2⟩

theorem Brings.mono {Q Q' : α → σ → Prop} (hQ : ∀ a s, Q a s → Q' a s) (h : Brings exec G Q p s) :
    Brings exec G Q' p s := by
  induction p generalizing s with
  | done a => exact hQ a s h
  | call c next ih => exact fun x hG => ih _ (h x hG)

theorem Brings.of_calls {K : Call → Prop} {I : σ → Prop}
    (hkeeps : ∀ c x s, K c → I s → I (exec c x s).2) (hcalls : p.Calls K) (h : I s) :
    Brings exec G (fun _ s => I s) p s := by
  induction p generalizing s with
  | done a => exact h
  | call c next ih => exact fun x _ => ih _ (hcalls.2 _) (hkeeps c x s hcalls.1 h)

variable {Q : β → σ → Prop}

theorem Brings.bind {P : α → σ → Prop} {f : α → Program Call Reply β}
    (hp : Brings exec G P p s) (hf : ∀ a s', P a s' → Brings exec G Q (f a) s') :
    Brings exec G Q (p >>= f) s := by
  induction p generalizing s with
  | done a => exact hf a s hp
  | call c next ih => exact fun x hG => ih _ (hp x hG)

variable {P : α → σ → Prop} {E : ε → σ → Prop} {s : σ}

theorem ends_pure {a : α} (h : P a s) :
    Ends exec G P E (pure a : ExceptT ε (Program Call Reply) α) s :=
  h

theorem ends_throw {e : ε} (h : E e s) :
    Ends exec G P E (throw e : ExceptT ε (Program Call Reply) α) s :=
  h

theorem ends_mk_pure {x : Except ε α}
    (hok : ∀ a, x = .ok a → P a s) (herror : ∀ e, x = .error e → E e s) :
    Ends exec G P E (ExceptT.mk (pure x) : ExceptT ε (Program Call Reply) α) s := by
  cases x with
  | ok a => exact hok a rfl
  | error e => exact herror e rfl

variable {p : ExceptT ε (Program Call Reply) α}

theorem Ends.bind {f : α → ExceptT ε (Program Call Reply) β}
    (hp : Ends exec G P E p s) (hf : ∀ a s', P a s' → Ends exec G Q E (f a) s') :
    Ends exec G Q E (p >>= f) s := by
  refine Brings.bind hp ?_
  intro r s' hr
  cases r with
  | error e => exact hr
  | ok a => exact hf a s' hr

theorem Ends.mono {P' : α → σ → Prop} {E' : ε → σ → Prop}
    (hp : Ends exec G P E p s) (hP : ∀ a s', P a s' → P' a s') (hE : ∀ e s', E e s' → E' e s') :
    Ends exec G P' E' p s :=
  Brings.mono (fun _ _ hr => hr.mono hP hE) hp

theorem ends_lift_perform {c : Call} {P : Reply c → σ → Prop}
    (h : ∀ x, G c x s → P (exec c x s).1 (exec c x s).2) :
    Ends exec G P E (ExceptT.lift (perform c) : ExceptT ε (Program Call Reply) _) s :=
  fun x hG => h x hG

theorem Ends.bind_call {c : Call} {f : Reply c → ExceptT ε (Program Call Reply) α}
    {g : α → ExceptT ε (Program Call Reply) β}
    (hp : Ends exec G P E (ExceptT.lift (perform c) >>= f) s)
    (hg : ∀ a s', P a s' → Ends exec G Q E (g a) s') :
    Ends exec G Q E (ExceptT.lift (perform c) >>= fun r => f r >>= g) s :=
  fun x hG => Ends.bind (hp x hG) hg

/-- An attempt whose error is looked at. -/
theorem ends_lift_run {ε' : Type} {E' : ε' → σ → Prop} (h : Ends exec G P E p s) :
    Ends exec G (Outcome P E) E'
      (ExceptT.lift p.run : ExceptT ε' (Program Call Reply) (Except ε α)) s :=
  Brings.bind h (fun _ _ hr => hr)

end Ends

end Program

end Semantics
end O3k
