import O3k.Semantics.Endings

/-!
# What a run says about its answers

Run alone, whatever is answered within some bounds, a program *reaches* `Q` if
it makes a call at a store in `S` or ends in `Q`.  It *separates* `Q` from `Q'`
by a guard on the answers if it ends in `Q` where each of its calls has been
answered within the guard, and in `Q'` where one of them has not, unless it
makes a call at a store in `S`.
-/

namespace O3k
namespace Semantics

namespace Program

variable {Call : Type} {Reply : Call → Type} {σ Answer α β ε : Type}

section Answers

variable (exec : (c : Call) → Answer → σ → Reply c × σ) (T G : Call → Answer → σ → Prop)
variable (S : σ → Prop)

/-- Some call is made at a store in `S`. -/
def CallsAt : (Nat → Answer) → Program Call Reply α → σ → Prop
  | _, .done _, _ => False
  | xs, .call c next, s =>
    S s ∨ CallsAt (fun n => xs (n + 1)) (next (exec c (xs 0) s).1) (exec c (xs 0) s).2

instance decidableCallsAt [DecidablePred S] :
    (xs : Nat → Answer) → (p : Program Call Reply α) → (s : σ) → Decidable (CallsAt exec S xs p s)
  | _, .done _, _ => isFalse id
  | xs, .call c next, s =>
    @instDecidableOr _ _ inferInstance
      (decidableCallsAt (fun n => xs (n + 1)) (next (exec c (xs 0) s).1) (exec c (xs 0) s).2)

def Reaches (Q : α → σ → Prop) : Program Call Reply α → σ → Prop
  | .done a, s => Q a s
  | .call c next, s => S s ∨ ∀ x, T c x s → Reaches Q (next (exec c x s).1) (exec c x s).2

def Separates (Q Q' : α → σ → Prop) : Program Call Reply α → σ → Prop
  | .done a, s => Q a s
  | .call c next, s =>
    S s ∨ ∀ x, T c x s →
      (G c x s → Separates Q Q' (next (exec c x s).1) (exec c x s).2) ∧
        (¬ G c x s → Reaches exec T S Q' (next (exec c x s).1) (exec c x s).2)

variable {exec T G S} {xs : Nat → Answer} {p : Program Call Reply α} {s : σ}
variable {Q Q' : α → σ → Prop}

theorem CallsAt.at_end (hkept : ∀ c x s, S s → S (exec c x s).2) (h : CallsAt exec S xs p s) :
    S (answered exec xs p s).2 := by
  have hstays : ∀ (p : Program Call Reply α) (xs : Nat → Answer) (s : σ), S s →
      S (answered exec xs p s).2 := by
    intro p
    induction p with
    | done a => exact fun _ _ hs => hs
    | call c next ih => exact fun xs s hs => ih _ _ _ (hkept c (xs 0) s hs)
  induction p generalizing s xs with
  | done a => exact h.elim
  | call c next ih =>
    rcases h with hs | h
    · exact hstays _ _ _ hs
    · exact ih _ h

theorem Reaches.answered (hT : ∀ n c s, T c (xs n) s) (h : Reaches exec T S Q p s) :
    CallsAt exec S xs p s ∨ Q (answered exec xs p s).1 (answered exec xs p s).2 := by
  induction p generalizing s xs with
  | done a => exact Or.inr h
  | call c next ih =>
    rcases h with hs | h
    · exact Or.inl (Or.inl hs)
    · exact (ih _ (fun n => hT (n + 1)) (h (xs 0) (hT 0 c s))).imp_left Or.inr

/-- **The verdict** on a run. -/
theorem Separates.answered (hT : ∀ n c s, T c (xs n) s) (h : Separates exec T G S Q Q' p s) :
    CallsAt exec S xs p s ∨
      (AnsweredWithin exec G xs p s ∧ Q (answered exec xs p s).1 (answered exec xs p s).2) ∨
      (¬ AnsweredWithin exec G xs p s ∧ Q' (answered exec xs p s).1 (answered exec xs p s).2) := by
  induction p generalizing s xs with
  | done a => exact Or.inr (Or.inl ⟨trivial, h⟩)
  | call c next ih =>
    rcases h with hs | h
    · exact Or.inl (Or.inl hs)
    obtain ⟨hwithin, hbeyond⟩ := h (xs 0) (hT 0 c s)
    by_cases hG : G c (xs 0) s
    · rcases ih _ (fun n => hT (n + 1)) (hwithin hG) with hcalls | ⟨hrest, hQ⟩ | ⟨hrest, hQ⟩
      · exact Or.inl (Or.inr hcalls)
      · exact Or.inr (Or.inl ⟨⟨hG, hrest⟩, hQ⟩)
      · exact Or.inr (Or.inr ⟨fun h => hrest h.2, hQ⟩)
    · exact ((hbeyond hG).answered (fun n => hT (n + 1))).imp Or.inr
        (fun hQ => Or.inr ⟨fun h => hG h.1, hQ⟩)

theorem Reaches.mono {R : α → σ → Prop} (hQ : ∀ a s, Q a s → R a s) (h : Reaches exec T S Q p s) :
    Reaches exec T S R p s := by
  induction p generalizing s with
  | done a => exact hQ a s h
  | call c next ih => exact h.imp_right (fun h x hT => ih _ (h x hT))

theorem Separates.mono {R R' : α → σ → Prop} (hQ : ∀ a s, Q a s → R a s)
    (hQ' : ∀ a s, Q' a s → R' a s) (h : Separates exec T G S Q Q' p s) :
    Separates exec T G S R R' p s := by
  induction p generalizing s with
  | done a => exact hQ a s h
  | call c next ih =>
    refine h.imp_right (fun h x hT => ?_)
    exact (h x hT).imp (fun h hG => ih _ (h hG)) (fun h hG => (h hG).mono hQ')

theorem Separates.reaches (h : Separates exec T G S Q Q' p s) :
    Reaches exec T S (fun a s => Q a s ∨ Q' a s) p s := by
  induction p generalizing s with
  | done a => exact Or.inl h
  | call c next ih =>
    refine h.imp_right (fun h x hT => ?_)
    by_cases hG : G c x s
    · exact ih _ ((h x hT).1 hG)
    · exact ((h x hT).2 hG).mono (fun _ _ => Or.inr)

section Sequences

variable {f : α → Program Call Reply β} {R R' : β → σ → Prop}

theorem Reaches.bind
    (hp : Reaches exec T S Q p s) (hf : ∀ a s', Q a s' → Reaches exec T S R (f a) s') :
    Reaches exec T S R (p >>= f) s := by
  induction p generalizing s with
  | done a => exact hf a s hp
  | call c next ih => exact hp.imp_right (fun h x hT => ih _ (h x hT))

theorem Separates.bind
    (hp : Separates exec T G S Q Q' p s) (hf : ∀ a s', Q a s' → Separates exec T G S R R' (f a) s')
    (hf' : ∀ a s', Q' a s' → Reaches exec T S R' (f a) s') :
    Separates exec T G S R R' (p >>= f) s := by
  induction p generalizing s with
  | done a => exact hf a s hp
  | call c next ih =>
    refine hp.imp_right (fun h x hT => ?_)
    exact (h x hT).imp (fun h hG => ih _ (h hG)) (fun h hG => (h hG).bind hf')

end Sequences

end Answers

section Throwing

variable (exec : (c : Call) → Answer → σ → Reply c × σ) (T G : Call → Answer → σ → Prop)
variable (S : σ → Prop)

/-- Within the guard a value satisfies `P` and an error `E`; beyond it the
program throws an error that satisfies `B`. -/
def Throws (P : α → σ → Prop) (E B : ε → σ → Prop) (p : ExceptT ε (Program Call Reply) α) (s : σ) :
    Prop :=
  Separates exec T G S (Outcome P E) (Outcome (fun _ _ => False) B) p.run s

variable {exec T G S} {P : α → σ → Prop} {E B : ε → σ → Prop} {s : σ}

theorem throws_of_done {p : ExceptT ε (Program Call Reply) α} {r : Except ε α}
    (hp : p.run = .done r) (hr : Outcome P E r s) :
    Throws exec T G S P E B p s := by
  unfold Throws
  rw [hp]
  exact hr

theorem reaches_of_thrown {p : ExceptT ε (Program Call Reply) α} {e : ε}
    {Q : Except ε α → σ → Prop} (hp : p.run = .done (.error e)) (he : Q (.error e) s) :
    Reaches exec T S Q p.run s := by
  rw [hp]
  exact he

variable {p : ExceptT ε (Program Call Reply) α}

theorem Throws.mono {P' : α → σ → Prop} {E' B' : ε → σ → Prop}
    (h : Throws exec T G S P E B p s) (hP : ∀ a s, P a s → P' a s) (hE : ∀ e s, E e s → E' e s)
    (hB : ∀ e s, B e s → B' e s) :
    Throws exec T G S P' E' B' p s :=
  Separates.mono (fun _ _ hr => hr.mono hP hE) (fun _ _ hr => hr.mono (fun _ _ h => h) hB) h

variable {Q : β → σ → Prop} {f : α → ExceptT ε (Program Call Reply) β}

theorem Throws.bind
    (hp : Throws exec T G S P E B p s) (hf : ∀ a s', P a s' → Throws exec T G S Q E B (f a) s') :
    Throws exec T G S Q E B (p >>= f) s := by
  refine Separates.bind hp ?_ ?_
  · rintro (e | a) s' hr
    · exact hr
    · exact hf a s' hr
  · rintro (e | a) s' hr
    · exact hr
    · exact hr.elim

theorem throws_call_bind {c : Call} {f : Reply c → ExceptT ε (Program Call Reply) α}
    (h : S s ∨ ∀ x, T c x s →
      (G c x s → Throws exec T G S P E B (f (exec c x s).1) (exec c x s).2) ∧
        (¬ G c x s → ∃ e, (f (exec c x s).1).run = .done (.error e) ∧ B e (exec c x s).2)) :
    Throws exec T G S P E B (ExceptT.lift (perform c) >>= f) s := by
  refine h.imp_right (fun h x hT => (h x hT).imp_right (fun hbeyond hG => ?_))
  obtain ⟨e, hthrown, he⟩ := hbeyond hG
  exact reaches_of_thrown hthrown he

theorem Reaches.lift_bind {ε' : Type} {q : Program Call Reply (Except ε α)}
    {R : Except ε α → σ → Prop} {Q : Except ε' β → σ → Prop}
    {g : Except ε α → ExceptT ε' (Program Call Reply) β}
    (hq : Reaches exec T S R q s) (hg : ∀ r s', R r s' → Reaches exec T S Q (g r).run s') :
    Reaches exec T S Q (ExceptT.lift q >>= g).run s :=
  Reaches.bind (Reaches.bind (R := fun r s => ∃ r', r = .ok r' ∧ R r' s) hq
      (fun r _ hr => ⟨r, rfl, hr⟩))
    (by rintro _ s' ⟨r, rfl, hr⟩; exact hg r s' hr)

theorem Separates.lift_bind {ε' : Type} {q : Program Call Reply (Except ε α)}
    {R R' : Except ε α → σ → Prop} {Q Q' : Except ε' β → σ → Prop}
    {g : Except ε α → ExceptT ε' (Program Call Reply) β} (hq : Separates exec T G S R R' q s)
    (hg : ∀ r s', R r s' → Separates exec T G S Q Q' (g r).run s')
    (hg' : ∀ r s', R' r s' → Reaches exec T S Q' (g r).run s') :
    Separates exec T G S Q Q' (ExceptT.lift q >>= g).run s := by
  have hlift :
      Separates exec T G S (fun r s => ∃ r', r = .ok r' ∧ R r' s)
        (fun r s => ∃ r', r = .ok r' ∧ R' r' s)
        (ExceptT.lift q : ExceptT ε' (Program Call Reply) (Except ε α)).run s := by
    refine Separates.bind hq ?_ ?_
    · exact fun r _ hr => ⟨r, rfl, hr⟩
    · exact fun r _ hr => ⟨r, rfl, hr⟩
  refine Separates.bind hlift ?_ ?_
  · rintro _ s' ⟨r, rfl, hr⟩
    exact hg r s' hr
  · rintro _ s' ⟨r, rfl, hr⟩
    exact hg' r s' hr

end Throwing

end Program

end Semantics
end O3k
