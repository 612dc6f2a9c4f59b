import Mathlib.Data.List.Forall2

/-!
# Transactions

The body of a transaction reads and writes a working copy of the store and may
fail.  Running it atomically commits the working copy when the body succeeds and
gives back the untouched store when the body fails.

The rules take a successful body apart into its statements, and derive a
relation between the stores from what a successful body establishes.
-/

namespace O3k
namespace Relational

variable {σ ε α β : Type}

/-- A transaction body over the store `σ` that may fail with `ε`. -/
abbrev Transaction (σ ε : Type) : Type → Type := StateT σ (Except ε)

namespace Transaction

/-- Run a body: commit on success, roll back on failure. -/
def atomically (body : Transaction σ ε α) (s : σ) : Except ε α × σ :=
  match body s with
  | .ok (a, s') => (.ok a, s')
  | .error e => (.error e, s)

/-- Fail with `e` unless the condition holds. -/
def require (p : Prop) [Decidable p] (e : ε) : Transaction σ ε Unit :=
  if p then pure () else throw e

/-- The value of an option, or failure with `e`. -/
def orFail (o : Option α) (e : ε) : Transaction σ ε α :=
  match o with
  | some a => pure a
  | none => throw e

/-- The value of a fallible computation that does not touch the store. -/
def fromExcept (x : Except ε α) : Transaction σ ε α :=
  match x with
  | .ok a => pure a
  | .error e => throw e

def forEach (f : α → Transaction σ ε Unit) :
    List α → Transaction σ ε Unit
  | [] => pure ()
  | x :: xs => do
    f x
    forEach f xs

variable {f : α → Transaction σ ε β} {s : σ} {x : Transaction σ ε α}

theorem bind_eq_ok {r : β × σ} :
    (x >>= f) s = .ok r ↔ ∃ a s', x s = .ok (a, s') ∧ f a s' = .ok r := by
  show (Except.bind (x s) fun p => f p.1 p.2) = .ok r ↔ _
  cases hx : x s with
  | error e => simp [Except.bind]
  | ok p =>
    obtain ⟨a, s'⟩ := p
    constructor
    · intro h
      exact ⟨a, s', rfl, h⟩
    · rintro ⟨a', s'', heq, h⟩
      cases heq
      exact h

theorem bind_of_ok {s s' : σ} {a : α} (h : x s = .ok (a, s')) : (x >>= f) s = f a s' := by
  show (Except.bind (x s) fun p => f p.1 p.2) = _
  rw [h]
  rfl

variable {e : ε}

theorem bind_of_error (h : x s = .error e) : (x >>= f) s = .error e := by
  show (Except.bind (x s) fun p => f p.1 p.2) = _
  rw [h]
  rfl

@[simp] theorem pure_apply (a : α) (s : σ) : (pure a : Transaction σ ε α) s = .ok (a, s) := by
  rfl

@[simp] theorem throw_apply (e : ε) (s : σ) : (throw e : Transaction σ ε α) s = .error e := by
  rfl

@[simp] theorem set_apply (s s' : σ) : (set s' : Transaction σ ε PUnit) s = .ok (⟨⟩, s') := by
  rfl

@[simp] theorem modify_apply (f : σ → σ) (s : σ) :
    (modify f : Transaction σ ε PUnit) s = .ok (⟨⟩, f s) := by
  rfl

theorem require_eq_ok {p : Prop} [Decidable p] {r : Unit × σ} :
    (require p e : Transaction σ ε Unit) s = .ok r ↔ p ∧ r = ((), s) := by
  by_cases hp : p
  · simp [require, hp, eq_comm]
  · simp [require, hp]

theorem require_of_pos {p : Prop} [Decidable p] (e : ε) (s : σ) (hp : p) :
    (require p e : Transaction σ ε Unit) s = .ok ((), s) :=
  require_eq_ok.mpr ⟨hp, rfl⟩

theorem orFail_eq_ok {o : Option α} {r : α × σ} :
    (orFail o e : Transaction σ ε α) s = .ok r ↔ ∃ a, o = some a ∧ r = (a, s) := by
  cases o with
  | none => simp [orFail]
  | some a => simp [orFail, eq_comm]

@[simp] theorem orFail_some (a : α) (e : ε) (s : σ) :
    (orFail (some a) e : Transaction σ ε α) s = .ok (a, s) := by
  rfl

theorem fromExcept_eq_ok {x : Except ε α} {r : α × σ} :
    (fromExcept x : Transaction σ ε α) s = .ok r ↔ ∃ a, x = .ok a ∧ r = (a, s) := by
  cases x with
  | error e => simp [fromExcept]
  | ok a => simp [fromExcept, eq_comm]

/-! A check or a fallible value, followed by the rest of the body. -/

theorem require_bind_eq_ok {p : Prop} [Decidable p] {f : Unit → Transaction σ ε β} {r : β × σ} :
    ((require p e : Transaction σ ε Unit) >>= f) s = .ok r ↔ p ∧ f () s = .ok r := by
  rw [bind_eq_ok]
  constructor
  · rintro ⟨_, _, hrequire, hrest⟩
    obtain ⟨hp, hsame⟩ := require_eq_ok.mp hrequire
    cases hsame
    exact ⟨hp, hrest⟩
  · rintro ⟨hp, hrest⟩
    exact ⟨(), s, require_of_pos e s hp, hrest⟩

theorem orFail_bind_eq_ok {o : Option α} {r : β × σ} :
    ((orFail o e : Transaction σ ε α) >>= f) s = .ok r ↔ ∃ a, o = some a ∧ f a s = .ok r := by
  rw [bind_eq_ok]
  constructor
  · rintro ⟨_, _, hvalue, hrest⟩
    obtain ⟨a, ho, hsame⟩ := orFail_eq_ok.mp hvalue
    cases hsame
    exact ⟨_, ho, hrest⟩
  · rintro ⟨_, rfl, hrest⟩
    exact ⟨_, s, rfl, hrest⟩

theorem fromExcept_bind_eq_ok {x : Except ε α} {r : β × σ} :
    ((fromExcept x : Transaction σ ε α) >>= f) s = .ok r ↔ ∃ a, x = .ok a ∧ f a s = .ok r := by
  rw [bind_eq_ok]
  constructor
  · rintro ⟨_, _, hvalue, hrest⟩
    obtain ⟨a, hx, hsame⟩ := fromExcept_eq_ok.mp hvalue
    cases hsame
    exact ⟨_, hx, hrest⟩
  · rintro ⟨_, rfl, hrest⟩
    exact ⟨_, s, rfl, hrest⟩

theorem map_eq_ok {g : α → β} {r : β × σ} :
    (g <$> x) s = .ok r ↔ ∃ a s', x s = .ok (a, s') ∧ r = (g a, s') := by
  show (x >>= fun a => pure (g a)) s = .ok r ↔ _
  rw [bind_eq_ok]
  simp [eq_comm]

theorem except_bind_eq_ok {x : Except ε α} {f : α → Except ε β} {b : β} :
    (x >>= f) = .ok b ↔ ∃ a, x = .ok a ∧ f a = .ok b := by
  cases x with
  | error e => simp [bind, Except.bind]
  | ok a => simp [bind, Except.bind]

theorem except_check_bind_eq_ok {x : Except ε Unit} {f : Unit → Except ε β} {b : β} :
    (x >>= f) = .ok b ↔ x = .ok () ∧ f () = .ok b := by
  rw [except_bind_eq_ok]
  exact ⟨fun ⟨_, hx, hf⟩ => ⟨hx, hf⟩, fun ⟨hx, hf⟩ => ⟨(), hx, hf⟩⟩

variable {xs : List α}

theorem mem_of_except_mapM {f : α → Except ε β} {ys : List β} (h : xs.mapM f = .ok ys) {y : β} :
    y ∈ ys ↔ ∃ x ∈ xs, f x = .ok y := by
  induction xs generalizing ys with
  | nil =>
    cases h
    simp
  | cons x xs ih =>
    rw [List.mapM_cons] at h
    obtain ⟨y₀, hy₀, h₁⟩ := except_bind_eq_ok.mp h
    obtain ⟨ys', hys', hpure⟩ := except_bind_eq_ok.mp h₁
    cases hpure
    simp [ih hys', hy₀, eq_comm]

theorem except_mapM_error {f : α → Except ε β} {e : ε} (h : xs.mapM f = .error e) :
    ∃ x ∈ xs, f x = .error e := by
  induction xs with
  | nil => cases h
  | cons x xs ih =>
    rw [List.mapM_cons] at h
    cases hx : f x with
    | error e' =>
      rw [hx] at h
      cases h
      exact ⟨x, List.mem_cons_self, hx⟩
    | ok y =>
      cases hxs : xs.mapM f with
      | error e' =>
        rw [hx, hxs] at h
        cases h
        obtain ⟨x', hx', hfx'⟩ := ih hxs
        exact ⟨x', List.mem_cons_of_mem x hx', hfx'⟩
      | ok ys =>
        rw [hx, hxs] at h
        cases h

theorem except_mapM_ok_of_mem {f : α → Except ε β} {ys : List β}
    (h : xs.mapM f = .ok ys) {x : α} (hx : x ∈ xs) :
    ∃ y ∈ ys, f x = .ok y := by
  induction xs generalizing ys with
  | nil => exact absurd hx List.not_mem_nil
  | cons x₀ xs ih =>
    rw [List.mapM_cons] at h
    obtain ⟨y₀, hy₀, h₁⟩ := except_bind_eq_ok.mp h
    obtain ⟨ys', hys', hpure⟩ := except_bind_eq_ok.mp h₁
    cases hpure
    rcases List.mem_cons.mp hx with rfl | hx
    · exact ⟨y₀, List.mem_cons_self, hy₀⟩
    · obtain ⟨y, hy, hfy⟩ := ih hys' hx
      exact ⟨y, List.mem_cons_of_mem _ hy, hfy⟩

theorem except_mapM_of_forall {f : α → Except ε β} (h : ∀ x ∈ xs, ∃ y, f x = .ok y) :
    ∃ ys, xs.mapM f = .ok ys := by
  induction xs with
  | nil => exact ⟨[], rfl⟩
  | cons x xs ih =>
    obtain ⟨y, hy⟩ := h x List.mem_cons_self
    obtain ⟨ys, hys⟩ := ih (fun x hx => h x (List.mem_cons_of_mem _ hx))
    refine ⟨y :: ys, ?_⟩
    rw [List.mapM_cons]
    exact except_bind_eq_ok.mpr ⟨y, hy, except_bind_eq_ok.mpr ⟨ys, hys, rfl⟩⟩

theorem except_mapM_forall₂ {f : α → Except ε β} {R : α → β → Prop} {ys : List β}
    (hR : ∀ x ∈ xs, ∀ y, f x = .ok y → R x y) (h : xs.mapM f = .ok ys) :
    List.Forall₂ R xs ys := by
  induction xs generalizing ys with
  | nil =>
    cases h
    exact .nil
  | cons x xs ih =>
    rw [List.mapM_cons] at h
    obtain ⟨y, hy, h₁⟩ := except_bind_eq_ok.mp h
    obtain ⟨ys', hys', hpure⟩ := except_bind_eq_ok.mp h₁
    cases hpure
    exact .cons (hR x List.mem_cons_self y hy)
      (ih (fun x hx => hR x (List.mem_cons_of_mem _ hx)) hys')

section Evaluation

variable (f : α → Transaction σ ε β) (s : σ)

@[simp] theorem get_bind_apply (f : σ → Transaction σ ε β) :
    (get >>= f : Transaction σ ε β) s = f s s := by
  rfl

@[simp] theorem set_bind_apply (f : PUnit → Transaction σ ε β) (s' : σ) :
    (set s' >>= f : Transaction σ ε β) s = f ⟨⟩ s' := by
  rfl

@[simp] theorem modify_bind_apply (f : PUnit → Transaction σ ε β) (g : σ → σ) :
    (modify g >>= f : Transaction σ ε β) s = f ⟨⟩ (g s) := by
  rfl

@[simp] theorem map_apply (g : α → β) (x : Transaction σ ε α) :
    (g <$> x) s = Except.map (fun p => (g p.1, p.2)) (x s) := by
  show Except.bind (x s) _ = _
  cases x s with
  | error e => rfl
  | ok p => rfl

@[simp] theorem except_map_ok (g : α → β) (a : α) :
    Except.map g (.ok a : Except ε α) = .ok (g a) := by
  rfl

@[simp] theorem throw_bind_apply (e : ε) : ((throw e : Transaction σ ε α) >>= f) s = .error e := by
  rfl

@[simp] theorem fromExcept_ok_bind (a : α) :
    ((fromExcept (.ok a) : Transaction σ ε α) >>= f) s = f a s := by
  rfl

@[simp] theorem fromExcept_error_bind (e : ε) :
    ((fromExcept (.error e) : Transaction σ ε α) >>= f) s = .error e := by
  rfl

@[simp] theorem orFail_some_bind (a : α) (e : ε) :
    ((orFail (some a) e : Transaction σ ε α) >>= f) s = f a s := by
  rfl

@[simp] theorem orFail_none_bind (e : ε) :
    ((orFail none e : Transaction σ ε α) >>= f) s = .error e := by
  rfl

theorem require_bind_of_pos
    (f : Unit → Transaction σ ε β) {p : Prop} [Decidable p] {e : ε} (hp : p) :
    ((require p e : Transaction σ ε Unit) >>= f) s = f () s :=
  bind_of_ok (require_of_pos e s hp)

theorem require_bind_of_neg
    (f : Unit → Transaction σ ε β) {p : Prop} [Decidable p] {e : ε} (hp : ¬ p) :
    ((require p e : Transaction σ ε Unit) >>= f) s = .error e := by
  refine bind_of_error ?_
  simp [require, hp]

end Evaluation

theorem orFail_bind_eq_error {o : Option α} {e e' : ε} {s : σ} :
    (orFail o e >>= f) s = .error e' ↔
    (o = none ∧ e' = e) ∨ ∃ a, o = some a ∧ f a s = .error e' := by
  cases o with
  | none => simp [eq_comm]
  | some a => simp [orFail]

theorem fromExcept_bind_eq_error {x : Except ε α} {s : σ} :
    (fromExcept x >>= f) s = .error e ↔ x = .error e ∨ ∃ a, x = .ok a ∧ f a s = .error e := by
  cases x with
  | error e' => simp
  | ok a => simp

theorem require_bind_eq_error {p : Prop} [Decidable p] {e e' : ε} {f : Unit → Transaction σ ε β}
    {s : σ} :
    (require p e >>= f) s = .error e' ↔ (¬ p ∧ e' = e) ∨ (p ∧ f () s = .error e') := by
  by_cases hp : p
  · simp [require, hp]
  · simp [require, hp, eq_comm]

variable {body : Transaction σ ε α}

theorem atomically_of_ok {s s' : σ} {a : α} (h : body s = .ok (a, s')) :
    atomically body s = (.ok a, s') := by
  simp [atomically, h]

theorem atomically_of_error (h : body s = .error e) : atomically body s = (.error e, s) := by
  simp [atomically, h]

theorem atomically_ok_iff {s s' : σ} {a : α} :
    atomically body s = (.ok a, s') ↔ body s = .ok (a, s') := by
  unfold atomically
  cases body s with
  | error e => simp
  | ok p =>
    obtain ⟨b, s₁⟩ := p
    simp

theorem atomically_fst (body : Transaction σ ε α) (s : σ) :
    (atomically body s).1 = (body s).map Prod.fst := by
  unfold atomically
  cases body s <;> rfl

theorem atomically_error_snd (h : (atomically body s).1 = .error e) :
    (atomically body s).2 = s := by
  unfold atomically at h ⊢
  cases hb : body s with
  | error e' => rfl
  | ok p =>
    rw [hb] at h
    cases h

/-- Rule for atomic runs: a relation that every store bears to itself and that
a successful body establishes holds between the stores before and after. -/
theorem atomically_rel (R : σ → Prop) (hsame : R s) (hbody : ∀ a s', body s = .ok (a, s') → R s') :
    R (atomically body s).2 := by
  unfold atomically
  cases hb : body s with
  | error e => exact hsame
  | ok p => exact hbody p.1 p.2 hb

theorem forEach_modify (g : α → σ → σ) (xs : List α) (s : σ) :
    forEach (fun x => (modify (g x) : Transaction σ ε Unit)) xs s =
    .ok ((), xs.foldl (fun s x => g x s) s) := by
  induction xs generalizing s with
  | nil => rfl
  | cons x xs ih => exact ih (g x s)

/-- A loop of statements that are functions of the store when they succeed. -/
theorem forEach_ok {f : α → Transaction σ ε Unit} (g : α → σ → σ)
    (hstep : ∀ x s s', f x s = .ok ((), s') → s' = g x s) {s s' : σ}
    (h : forEach f xs s = .ok ((), s')) :
    s' = xs.foldl (fun s x => g x s) s := by
  induction xs generalizing s with
  | nil =>
    cases h
    rfl
  | cons x xs ih =>
    obtain ⟨_, s₁, hx, hxs⟩ := bind_eq_ok.mp h
    rw [ih hxs, hstep x s s₁ hx]
    rfl

theorem forEach_fromExcept {f : α → Except ε Unit} {r : Unit × σ}
    (h : forEach (fun x => fromExcept (f x)) xs s = .ok r) :
    r = ((), s) ∧ ∀ x ∈ xs, f x = .ok () := by
  induction xs with
  | nil =>
    cases h
    exact ⟨rfl, fun x hx => absurd hx List.not_mem_nil⟩
  | cons x xs ih =>
    obtain ⟨_, s₁, hx, hxs⟩ := bind_eq_ok.mp h
    obtain ⟨_, hok, hsame⟩ := fromExcept_eq_ok.mp hx
    cases hsame
    obtain ⟨hr, hrest⟩ := ih hxs
    exact ⟨hr, List.forall_mem_cons.mpr ⟨hok, hrest⟩⟩

/-- What a loop of checks answers does not depend on the store. -/
theorem forEach_fromExcept_eq (f : α → Except ε Unit) (xs : List α) (s : σ) :
    forEach (fun x => fromExcept (f x)) xs s = (xs.forM f).map fun _ => ((), s) := by
  induction xs with
  | nil => rfl
  | cons x xs ih =>
    show (fromExcept (f x) >>= fun _ => forEach _ xs) s = (f x >>= fun _ => xs.forM f).map _
    cases hx : f x with
    | error e => rfl
    | ok _ => exact ih

theorem forEach_of_forall {f : α → Transaction σ ε Unit}
    (h : ∀ x ∈ xs, ∀ s, ∃ s', f x s = .ok ((), s')) (s : σ) :
    ∃ s', forEach f xs s = .ok ((), s') := by
  induction xs generalizing s with
  | nil => exact ⟨s, rfl⟩
  | cons x xs ih =>
    obtain ⟨s₁, hx⟩ := h x List.mem_cons_self s
    obtain ⟨s', hxs⟩ := ih (fun x hx => h x (List.mem_cons_of_mem _ hx)) s₁
    exact ⟨s', bind_eq_ok.mpr ⟨_, _, hx, hxs⟩⟩

end Transaction

end Relational
end O3k
