import O3k.Semantics.Program

/-!
# Programs that keep to a lane

A store is seen through lanes, one for each key.  A call keeps to the lane of a
key when its reply and what it makes of the lane depend on the lane alone and
the lanes of the other keys are left as they are.  A program of such calls does
in any store what it does in another store with the same lane.

A sweep takes one step after another, each in a lane of its own, and ends at
the first step that fails.  Every step does in the sweep what it does alone
exactly when all of them but the last succeed.
-/

namespace O3k
namespace Semantics
namespace Program

variable {Call : Type} {Reply : Call → Type} {σ ι Λ α β ε : Type}

/-- As long as the replies are in `V`, the program makes calls in `K` only. -/
def CallsGiven (V : (c : Call) → Reply c → Prop) (K : Call → Prop) :
    Program Call Reply α → Prop
  | .done _ => True
  | .call c next => K c ∧ ∀ r, V c r → CallsGiven V K (next r)

section CallsGiven

variable {V : (c : Call) → Reply c → Prop} {K : Call → Prop}

theorem CallsGiven.bind {p : Program Call Reply α} {f : α → Program Call Reply β}
    (hp : p.CallsGiven V K) (hf : ∀ a, (f a).CallsGiven V K) :
    (p >>= f).CallsGiven V K := by
  induction p with
  | done a => exact hf a
  | call c next ih => exact ⟨hp.1, fun r hr => ih r (hp.2 r hr)⟩

theorem callsGiven_run_bind {p : ExceptT ε (Program Call Reply) α}
    {f : α → ExceptT ε (Program Call Reply) β} (hp : p.run.CallsGiven V K)
    (hf : ∀ a, (f a).run.CallsGiven V K) :
    (p >>= f).run.CallsGiven V K := by
  refine CallsGiven.bind hp ?_
  intro r
  cases r with
  | error e => trivial
  | ok a => exact hf a

end CallsGiven

/-- The program with each of its calls made as a call of another store. -/
def via {Call' : Type} {Reply' : Call' → Type} (tag : Call → Call')
    (read : (c : Call) → Reply' (tag c) → Reply c) :
    Program Call Reply α → Program Call' Reply' α
  | .done a => .done a
  | .call c next => .call (tag c) (fun r => via tag read (next (read c r)))

theorem CallsGiven.via {Call' : Type} {Reply' : Call' → Type} {tag : Call → Call'}
    {read : (c : Call) → Reply' (tag c) → Reply c} {V : (c : Call) → Reply c → Prop}
    {K : Call → Prop} {V' : (c : Call') → Reply' c → Prop} {K' : Call' → Prop}
    (hK : ∀ c, K c → K' (tag c)) (hV : ∀ c r, V' (tag c) r → V c (read c r))
    {p : Program Call Reply α} (h : p.CallsGiven V K) :
    (p.via tag read).CallsGiven V' K' := by
  induction p with
  | done a => trivial
  | call c next ih => exact ⟨hK c h.1, fun r hr => ih _ (h.2 _ (hV c r hr))⟩

section Lanes

variable (exec : (c : Call) → σ → Reply c × σ) (lane : ι → σ → Λ)

/-- The call keeps to the lane of `i`. -/
structure InLane (i : ι) (c : Call) : Prop where
  reply : ∀ s s', lane i s = lane i s' → (exec c s).1 = (exec c s').1
  own : ∀ s s', lane i s = lane i s' → lane i (exec c s).2 = lane i (exec c s').2
  frame : ∀ s j, j ≠ i → lane j (exec c s).2 = lane j s

variable {exec lane}
variable {V : (c : Call) → Reply c → Prop} {i : ι} {p : Program Call Reply α}

/-- **Locality**: stores with the same lane lead to the same result and the
same lane. -/
theorem alone_congr
    (hV : ∀ c s, V c (exec c s).1) (hp : p.CallsGiven V (InLane exec lane i)) {s s' : σ}
    (h : lane i s = lane i s') :
    (alone exec p s).1 = (alone exec p s').1 ∧
      lane i (alone exec p s).2 = lane i (alone exec p s').2 := by
  induction p generalizing s s' with
  | done a => exact ⟨rfl, h⟩
  | call c next ih =>
    have hreply : (exec c s).1 = (exec c s').1 := hp.1.reply s s' h
    have hnext : lane i (exec c s).2 = lane i (exec c s').2 := hp.1.own s s' h
    have := ih (exec c s).1 (hp.2 _ (hV c s)) hnext
    simpa only [alone_call, hreply] using this

/-- **Frame**: the other lanes stay as they are. -/
theorem alone_frame
    (hV : ∀ c s, V c (exec c s).1) (hp : p.CallsGiven V (InLane exec lane i)) {s : σ} {j : ι}
    (hj : j ≠ i) :
    lane j (alone exec p s).2 = lane j s := by
  induction p generalizing s with
  | done a => rfl
  | call c next ih =>
    calc
      lane j (alone exec (.call c next) s).2
          = lane j (exec c s).2 := ih _ (hp.2 _ (hV c s))
      _ = lane j s := hp.1.frame s j hj

theorem le_alone {m : σ → Nat}
    (hm : ∀ c s, m s ≤ m (exec c s).2) (p : Program Call Reply α) (s : σ) :
    m s ≤ m (alone exec p s).2 := by
  induction p generalizing s with
  | done a => exact Nat.le_refl _
  | call c next ih => exact Nat.le_trans (hm c s) (ih _ _)

end Lanes

section Sweep

variable {ρ : Type}

/-- `for x in xs { step(x)?; }` -/
def sweep (step : ρ → ExceptT ε (Program Call Reply) Unit) :
    List ρ → ExceptT ε (Program Call Reply) Unit
  | [] => pure ()
  | x :: xs => do
    step x
    sweep step xs

variable {exec : (c : Call) → σ → Reply c × σ} {lane : ι → σ → Λ}
variable {V : (c : Call) → Reply c → Prop}
variable {step : ρ → ExceptT ε (Program Call Reply) Unit} {key : ρ → ι}

variable (exec step) in
/-- The step succeeds in the store `s`. -/
def Succeeds (s : σ) (x : ρ) : Prop := (alone exec (step x).run s).1 = .ok ()

variable (exec lane step key) in
/-- In the store `s'` the lane of the step is as the step alone leaves it. -/
def Reached (s s' : σ) (x : ρ) : Prop :=
  lane (key x) s' = lane (key x) (alone exec (step x).run s).2

theorem alone_sweep_cons_of_succeeds {s : σ} {x : ρ} (h : Succeeds exec step s x) (xs : List ρ) :
    alone exec (sweep step (x :: xs)).run s =
      alone exec (sweep step xs).run (alone exec (step x).run s).2 :=
  alone_run_bind_of_ok exec (Prod.ext h rfl)

theorem alone_sweep_cons_of_fails {s : σ} {x : ρ} (h : ¬ Succeeds exec step s x) (xs : List ρ) :
    (alone exec (sweep step (x :: xs)).run s).2 = (alone exec (step x).run s).2 := by
  show (alone exec ((step x).run >>= fun r => _) s).2 = _
  rw [alone_bind]
  cases hr : (alone exec (step x).run s).1 with
  | ok u => exact absurd hr h
  | error e => rfl

section Lanes

variable (hV : ∀ c s, V c (exec c s).1)
variable (hstep : ∀ x, (step x).run.CallsGiven V (InLane exec lane (key x)))

include hV hstep

theorem alone_sweep_frame (xs : List ρ) {s : σ} {i : ι} (hi : i ∉ xs.map key) :
    lane i (alone exec (sweep step xs).run s).2 = lane i s := by
  induction xs generalizing s with
  | nil => rfl
  | cons x xs ih =>
    rw [List.map_cons, List.mem_cons, not_or] at hi
    have hx : lane i (alone exec (step x).run s).2 = lane i s := alone_frame hV (hstep x) hi.1
    by_cases hok : Succeeds exec step s x
    · rw [alone_sweep_cons_of_succeeds hok]
      exact (ih hi.2).trans hx
    · rw [alone_sweep_cons_of_fails hok]
      exact hx

theorem succeeds_congr {s s' : σ} {x : ρ} (h : lane (key x) s' = lane (key x) s) :
    Succeeds exec step s' x ↔ Succeeds exec step s x := by
  unfold Succeeds
  rw [(alone_congr hV (hstep x) h).1]

/-- **A sweep in lanes**: every due step is reached as it would be alone,
exactly when all the due steps but the last succeed.  `s` is where the sweep as
a whole begins, and `s'` where what is left of it does. -/
theorem sweep_reaches_iff {due : ρ → Bool} {s : σ} (xs : List ρ)
    (hkeys : (xs.map key).Nodup) (hidle : ∀ x ∈ xs, due x = false → Succeeds exec step s x)
    (hmoves : ∀ x ∈ xs, due x = true → lane (key x) (alone exec (step x).run s).2 ≠ lane (key x) s)
    {s' : σ} (hsame : ∀ x ∈ xs, lane (key x) s' = lane (key x) s) :
    (∀ x ∈ xs, due x = true →
        Reached exec lane step key s (alone exec (sweep step xs).run s').2 x) ↔
      ∀ x ∈ (xs.filter due).dropLast, Succeeds exec step s x := by
  induction xs generalizing s' with
  | nil => simp
  | cons x xs ih =>
    obtain ⟨hx, hxs⟩ := List.nodup_cons.mp hkeys
    have hheadSame : lane (key x) s' = lane (key x) s := hsame x List.mem_cons_self
    have hhead :
        lane (key x) (alone exec (step x).run s').2 =
          lane (key x) (alone exec (step x).run s).2 :=
      (alone_congr hV (hstep x) hheadSame).2
    have hrest :
        ∀ y ∈ xs, lane (key y) (alone exec (step x).run s').2 = lane (key y) s := by
      intro y hy
      have hne : key y ≠ key x := fun h => hx (List.mem_map.mpr ⟨y, hy, h⟩)
      exact (alone_frame hV (hstep x) hne).trans (hsame y (List.mem_cons_of_mem x hy))
    have htail :=
      ih hxs (fun y hy => hidle y (List.mem_cons_of_mem x hy))
        (fun y hy => hmoves y (List.mem_cons_of_mem x hy)) hrest
    by_cases hok : Succeeds exec step s x
    · -- The head succeeds: what is left of the sweep decides.
      rw [alone_sweep_cons_of_succeeds ((succeeds_congr hV hstep hheadSame).mpr hok)]
      have hreached :
          Reached exec lane step key s
            (alone exec (sweep step xs).run (alone exec (step x).run s').2).2 x :=
        (alone_sweep_frame hV hstep xs hx).trans hhead
      have hleft :
          (∀ y ∈ x :: xs, due y = true →
              Reached exec lane step key s
                (alone exec (sweep step xs).run (alone exec (step x).run s').2).2 y) ↔
            ∀ y ∈ xs, due y = true →
              Reached exec lane step key s
                (alone exec (sweep step xs).run (alone exec (step x).run s').2).2 y := by
        simp [hreached]
      rw [hleft, htail]
      cases hdue : due x with
      | false => rw [List.filter_cons_of_neg (by simp [hdue])]
      | true =>
        rw [List.filter_cons_of_pos hdue]
        cases hfilter : xs.filter due with
        | nil => simp
        | cons y ys => simp [hok]
    · -- The head fails: no due step may follow it.
      rw [alone_sweep_cons_of_fails (fun h => hok ((succeeds_congr hV hstep hheadSame).mp h))]
      have hdue : due x = true := by
        cases hdue : due x with
        | true => rfl
        | false => exact absurd (hidle x List.mem_cons_self hdue) hok
      rw [List.filter_cons_of_pos hdue]
      have hnone :
          (∀ y ∈ x :: xs, due y = true →
              Reached exec lane step key s (alone exec (step x).run s').2 y) ↔
            xs.filter due = [] := by
        rw [List.filter_eq_nil_iff]
        constructor
        · intro h y hy hyd
          have hreached := h y (List.mem_cons_of_mem x hy) hyd
          exact hmoves y (List.mem_cons_of_mem x hy) hyd (hreached.symm.trans (hrest y hy))
        · intro h y hy hyd
          rcases List.mem_cons.mp hy with rfl | hy
          · exact hhead
          · exact absurd hyd (h y hy)
      rw [hnone]
      cases hfilter : xs.filter due with
      | nil => simp
      | cons y ys => simp [hok]

end Lanes

end Sweep

section Made

variable (exec : (c : Call) → σ → Reply c × σ)

/-- The calls that a program makes when it runs alone. -/
def made : Program Call Reply α → σ → List Call
  | .done _, _ => []
  | .call c next, s => c :: made (next (exec c s).1) (exec c s).2

variable {exec}

theorem made_bind (p : Program Call Reply α) (f : α → Program Call Reply β) (s : σ) :
    made exec (p >>= f) s
      = made exec p s ++ made exec (f (alone exec p s).1) (alone exec p s).2 := by
  induction p generalizing s with
  | done a => rfl
  | call c next ih => exact congrArg (c :: ·) (ih _ _)

theorem Calls.of_made {K : Call → Prop} {p : Program Call Reply α}
    (h : p.Calls K) {s : σ} {c : Call} (hc : c ∈ made exec p s) :
    K c := by
  induction p generalizing s with
  | done a => cases hc
  | call c' next ih =>
    rcases List.mem_cons.mp hc with rfl | hc
    · exact h.1
    · exact ih _ (h.2 _) hc

theorem Calls.via {Call' : Type} {Reply' : Call' → Type} {tag : Call → Call'}
    {read : (c : Call) → Reply' (tag c) → Reply c} {K : Call' → Prop} {p : Program Call Reply α}
    (h : p.Calls (fun c => K (tag c))) :
    (p.via tag read).Calls K := by
  induction p with
  | done a => trivial
  | call c next ih => exact ⟨h.1, fun r => ih _ (h.2 _)⟩

end Made

section Collect

variable {ρ γ : Type}

/-- `for x in xs { out.extend(join(x, step(x)?)); }` -/
def collect (step : ρ → ExceptT ε (Program Call Reply) β) (join : ρ → β → List γ) :
    List ρ → ExceptT ε (Program Call Reply) (List γ)
  | [] => return []
  | x :: xs => do
    let b ← step x
    let out ← collect step join xs
    return join x b ++ out

variable (exec : (c : Call) → σ → Reply c × σ)
variable (step : ρ → ExceptT ε (Program Call Reply) β)

/-- From the store `s` on, the steps of `before` succeed in turn, and the step of
`x` fails. -/
def StopsAt (s : σ) : List ρ → ρ → Prop
  | [], x => ∀ b, (alone exec (step x).run s).1 ≠ .ok b
  | y :: before, x =>
    (∃ b, (alone exec (step y).run s).1 = .ok b) ∧
      StopsAt (alone exec (step y).run s).2 before x

variable {exec step} {join : ρ → β → List γ} {first : ρ → Call}

variable (join) in
/-- **Who is attempted**: the loop makes the first call of every step in `P`
exactly when no step that fails has one behind it that was not there before. -/
theorem made_collect_iff (hfirst : ∀ x s, first x ∈ made exec (step x).run s)
    (hown : ∀ x s y, first y ∈ made exec (step x).run s → first y = first x)
    (P : ρ → Prop) (xs : List ρ) (s : σ) :
    (∀ y ∈ xs, P y → first y ∈ made exec (collect step join xs).run s) ↔
    ∀ before x after, xs = before ++ x :: after → StopsAt exec step s before x →
      ∀ y ∈ after, P y → ∃ z ∈ before ++ [x], first y = first z := by
  induction xs generalizing s P with
  | nil => simp
  | cons x xs ih =>
    have hrun : made exec (collect step join (x :: xs)).run s
        = made exec (step x).run s ++
          match (alone exec (step x).run s).1 with
          | .ok _ => made exec (collect step join xs).run (alone exec (step x).run s).2
          | .error _ => [] := by
      show made exec ((step x).run >>= fun r => _) s = _
      rw [made_bind]
      congr 1
      cases (alone exec (step x).run s).1 with
      | error e => rfl
      | ok b =>
        show made exec ((collect step join xs).run >>= fun r => _) _ = _
        rw [made_bind]
        cases (alone exec (collect step join xs).run (alone exec (step x).run s).2).1 <;>
          exact List.append_nil _
    rw [hrun]
    cases hstep : (alone exec (step x).run s).1 with
    | error e =>
      -- nothing is attempted after `x`
      simp only [List.append_nil]
      constructor
      · intro h before z after hsplit hstops y hy hPy
        cases before with
        | nil =>
          obtain ⟨rfl, rfl⟩ := List.cons_eq_cons.mp hsplit
          exact ⟨x, List.mem_singleton_self x, hown x s y (h y (List.mem_cons_of_mem _ hy) hPy)⟩
        | cons w before =>
          obtain ⟨rfl, _⟩ := List.cons_eq_cons.mp hsplit
          obtain ⟨⟨b, hb⟩, _⟩ := hstops
          cases hstep.symm.trans hb
      · intro h y hy hPy
        rcases List.mem_cons.mp hy with rfl | hy
        · exact hfirst y s
        · obtain ⟨z, hz, hsame⟩ := h [] x xs rfl
            (fun b hb => by cases hstep.symm.trans hb) y hy hPy
          rw [hsame, List.mem_singleton.mp hz]
          exact hfirst x s
    | ok b =>
      -- those behind `x` that it does not stand for are left to the rest of the loop
      have hrest := ih (fun y => P y ∧ first y ≠ first x) (alone exec (step x).run s).2
      constructor
      · intro h before z after hsplit hstops y hy hPy
        cases before with
        | nil =>
          obtain ⟨rfl, _⟩ := List.cons_eq_cons.mp hsplit
          exact absurd hstep (hstops b)
        | cons w before =>
          obtain ⟨rfl, rfl⟩ := List.cons_eq_cons.mp hsplit
          by_cases hsame : first y = first x
          · exact ⟨x, List.mem_cons_self, hsame⟩
          · obtain ⟨z', hz', heq⟩ := hrest.mp
              (fun y hy hPy =>
                (List.mem_append.mp (h y (List.mem_cons_of_mem _ hy) hPy.1)).resolve_left
                  (fun hmem => hPy.2 (hown x s y hmem)))
              before z after rfl hstops.2 y hy ⟨hPy, hsame⟩
            exact ⟨z', List.mem_cons_of_mem _ hz', heq⟩
      · intro h y hy hPy
        by_cases hsame : first y = first x
        · rw [hsame]
          exact List.mem_append_left _ (hfirst x s)
        · have hin : y ∈ xs := (List.mem_cons.mp hy).resolve_left (fun h => hsame (h ▸ rfl))
          refine List.mem_append_right _ (hrest.mpr ?_ y hin ⟨hPy, hsame⟩)
          intro before z after hsplit hstops y hy hPy
          obtain ⟨w, hw, heq⟩ := h (x :: before) z after (congrArg (x :: ·) hsplit)
            ⟨⟨b, hstep⟩, hstops⟩ y hy hPy.1
          rcases List.mem_cons.mp hw with rfl | hw
          · exact absurd heq hPy.2
          · exact ⟨w, hw, heq⟩

variable (exec step join first) in
theorem made_bind_collect_iff (targets : ExceptT ε (Program Call Reply) (List ρ))
    (htargets : ∀ y s, first y ∉ made exec targets.run s)
    (hfirst : ∀ x s, first x ∈ made exec (step x).run s)
    (hown : ∀ x s y, first y ∈ made exec (step x).run s → first y = first x)
    (P : ρ → Prop) {s : σ} {xs : List ρ} (hxs : (alone exec targets.run s).1 = .ok xs) :
    (∀ y ∈ xs, P y → first y ∈ made exec (targets >>= collect step join).run s) ↔
    ∀ before x after, xs = before ++ x :: after →
      StopsAt exec step (alone exec targets.run s).2 before x →
        ∀ y ∈ after, P y → ∃ z ∈ before ++ [x], first y = first z := by
  rw [← made_collect_iff join hfirst hown P]
  refine forall₂_congr (fun y _ => imp_congr_right (fun _ => ?_))
  show first y ∈ made exec (targets.run >>= fun r => _) s ↔ _
  rw [made_bind, hxs, List.mem_append, or_iff_right (htargets y s)]
  rfl

end Collect

end Program
end Semantics
end O3k
