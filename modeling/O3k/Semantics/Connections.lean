import O3k.Semantics.Run
import Mathlib.Logic.Function.Basic

/-!
# Connections of a pool, and transactions opened by hand

Calls take a connection from a pool, answer, and give it back.  A call that
opens a transaction by hand holds the only write lock of the database from there
on; it commits, it rolls back, or it leaves the transaction open on its
connection.  A connection that has been given back is idle again after the
release hook of the pool has run on it; the hook rolls back what is still open.

What carries the results: an idle connection has no open transaction, and a
transaction under way sees the committed database.  From there every answer is
that of the call run alone on the committed database.
-/

namespace O3k
namespace Semantics

/-- How a call leaves the transaction that it has opened. -/
inductive Exit
  | commit
  | rollback
  | abandon
  deriving DecidableEq

/-- What a call does: it answers without a connection, or it opens a
transaction by hand, or it executes one statement. -/
inductive Job (σ α : Type)
  | refused (answer : α)
  | transaction (body : σ → Exit × α × σ)
  | statement (f : σ → α × σ)

namespace Job

variable {σ α : Type}

/-- The call run alone on a committed database. -/
def effect : Job σ α → σ → α × σ
  | refused answer, s => (answer, s)
  | statement f, s => f s
  | transaction body, s =>
    match body s with
    | (.commit, answer, s') => (answer, s')
    | (_, answer, _) => (answer, s)

end Job

/-- What a connection is doing. -/
inductive Doing (Request : Type)
  | idle
  | running (request : Request)
  | returning
  deriving DecidableEq

/-- The committed database, the connection that has a transaction open with
its working copy, and what each connection is doing. -/
structure Connections (κ σ Request : Type) where
  committed : σ
  writer : Option (κ × σ)
  doing : κ → Doing Request

/-- A call starts on a connection, the call on it ends, or the release hook
runs on it. -/
inductive ConnectionEvent (κ Request : Type)
  | start (k : κ) (request : Request)
  | finish (k : κ)
  | hook (k : κ)

/-- An answer of the call, or the error of a lock that is held elsewhere. -/
inductive Outcome (α : Type)
  | answered (a : α)
  | busy
  deriving DecidableEq

namespace Connections

variable {κ σ Request α : Type}

/-- Every connection is idle. -/
def fresh (s : σ) : Connections κ σ Request :=
  ⟨s, none, fun _ => .idle⟩

variable [DecidableEq κ] (job : Request → Job σ α)

def set (w : Connections κ σ Request) (k : κ) (d : Doing Request) : Connections κ σ Request :=
  { w with doing := Function.update w.doing k d }

@[simp, grind =] theorem set_doing (w : Connections κ σ Request) (k k' : κ) (d : Doing Request) :
    (w.set k d).doing k' = if k' = k then d else w.doing k' := by
  simp [set, Function.update_apply]

@[simp, grind =] theorem set_committed (w : Connections κ σ Request) (k : κ) (d : Doing Request) :
    (w.set k d).committed = w.committed := by
  rfl

@[simp, grind =] theorem set_writer (w : Connections κ σ Request) (k : κ) (d : Doing Request) :
    (w.set k d).writer = w.writer := by
  rfl

/-- The transaction of the connection, if it has one open. -/
def openOn (w : Connections κ σ Request) (k : κ) : Option σ :=
  match w.writer with
  | some (k', s) => if k' = k then some s else none
  | none => none

/-- One event, with what it answers. -/
def advance (w : Connections κ σ Request) :
    ConnectionEvent κ Request → Option (Outcome α) × Connections κ σ Request
  | .start k request =>
    match w.doing k, job request with
    | .idle, .refused answer => (some (.answered answer), w)
    | .idle, .transaction _ =>
      match w.writer with
      | none => (none, { w.set k (.running request) with writer := some (k, w.committed) })
      | some _ => (some .busy, w.set k .returning)
    | .idle, .statement f =>
      match w.writer, w.openOn k with
      | none, _ =>
        (some (.answered (f w.committed).1),
          { w.set k .returning with committed := (f w.committed).2 })
      -- a statement on a connection with a transaction open becomes part of it
      | some _, some s =>
        (some (.answered (f s).1), { w.set k .returning with writer := some (k, (f s).2) })
      | some _, none => (some .busy, w.set k .returning)
    | _, _ => (none, w)
  | .finish k =>
    match w.doing k, w.openOn k with
    | .running request, some s =>
      match job request with
      | .transaction body =>
        match body s with
        | (.commit, answer, s') =>
          (some (.answered answer), { w.set k .returning with committed := s', writer := none })
        | (.rollback, answer, _) =>
          (some (.answered answer), { w.set k .returning with writer := none })
        | (.abandon, answer, s') =>
          (some (.answered answer), { w.set k .returning with writer := some (k, s') })
      | _ => (none, w)
    | _, _ => (none, w)
  | .hook k =>
    match w.doing k, w.openOn k with
    | .returning, some _ => (none, { w.set k .idle with writer := none })
    | .returning, none => (none, w.set k .idle)
    | _, _ => (none, w)

def step (w : Connections κ σ Request) (e : ConnectionEvent κ Request) : Connections κ σ Request :=
  (advance job w e).2

def reply (w : Connections κ σ Request) (e : ConnectionEvent κ Request) : Option (Outcome α) :=
  (advance job w e).1

/-- The call that an event is about. -/
def request (w : Connections κ σ Request) : ConnectionEvent κ Request → Option Request
  | .start _ request => some request
  | .finish k =>
    match w.doing k with
    | .running request => some request
    | _ => none
  | .hook _ => none

/-- An idle connection has no open transaction, and a call under way has one
that sees the committed database. -/
structure Tidy (w : Connections κ σ Request) : Prop where
  idle : ∀ k s, w.writer = some (k, s) → w.doing k ≠ .idle
  running :
    ∀ k request, w.doing k = .running request →
      (∃ body, job request = .transaction body) ∧ w.writer = some (k, w.committed)

omit [DecidableEq κ] in
theorem tidy_fresh (s : σ) :
    Tidy job (fresh s : Connections κ σ Request) where
  idle _ _ h := by cases h
  running _ _ h := by cases h

variable {job} {w : Connections κ σ Request}

theorem openOn_eq_some_iff {k : κ} {s : σ} : w.openOn k = some s ↔ w.writer = some (k, s) := by
  unfold openOn
  cases w.writer with
  | none => simp
  | some p => by_cases h : p.1 = k <;> grind

/-- **One event** keeps the connections tidy. -/
theorem tidy_step (h : Tidy job w) (e : ConnectionEvent κ Request) : Tidy job (step job w e) := by
  obtain ⟨hidle, hrunning⟩ := h
  cases e with
  | start k request =>
    simp only [step, advance]
    split
    · exact ⟨hidle, hrunning⟩
    · split <;> constructor <;> grind
    · split <;> constructor <;> grind [openOn_eq_some_iff]
    · exact ⟨hidle, hrunning⟩
  | finish k =>
    simp only [step, advance]
    split
    · rename_i request s hdoing hopen
      have hwriter := openOn_eq_some_iff.mp hopen
      split
      · split <;> constructor <;> grind
      · exact ⟨hidle, hrunning⟩
    · exact ⟨hidle, hrunning⟩
  | hook k =>
    simp only [step, advance]
    split
    · rename_i s hdoing hopen
      have hwriter := openOn_eq_some_iff.mp hopen
      constructor <;> grind
    · rename_i hdoing hopen
      have hwriter : ∀ s, w.writer ≠ some (k, s) := fun s hs =>
        by cases hopen.symm.trans (openOn_eq_some_iff.mpr hs)
      constructor <;> grind
    · exact ⟨hidle, hrunning⟩

variable {k : κ} {request : Request}

/-- **A transaction that ends** was run on the committed database. -/
theorem finish_of_running (h : Tidy job w) (hdoing : w.doing k = .running request) :
    reply job w (.finish k) = some (.answered ((job request).effect w.committed).1) ∧
      (step job w (.finish k)).committed = ((job request).effect w.committed).2 ∧
      (step job w (.finish k)).doing k = .returning ∧
      ∀ p, (step job w (.finish k)).writer = some p → p.1 = k := by
  obtain ⟨⟨body, hjob⟩, hwriter⟩ := h.running k request hdoing
  have hopen : w.openOn k = some w.committed := openOn_eq_some_iff.mpr hwriter
  simp only [reply, step, advance, hdoing, hopen, hjob, Job.effect]
  split <;> simp_all

theorem hook_of_returning
    (hdoing : w.doing k = .returning) (hwriter : ∀ p, w.writer = some p → p.1 = k) :
    step job w (.hook k) = { w.set k .idle with writer := none } := by
  simp only [step, advance, hdoing]
  cases hw : w.writer with
  | none => simp [openOn, hw, set]
  | some p => simp [openOn, hw, hwriter p hw]

theorem start_statement {f : σ → α × σ}
    (hidle : w.doing k = .idle) (hwriter : w.writer = none) (hjob : job request = .statement f) :
    advance job w (.start k request) =
      (some (.answered (f w.committed).1),
        { w.set k .returning with committed := (f w.committed).2 }) := by
  simp [advance, hidle, hwriter, hjob]

theorem start_transaction {body : σ → Exit × α × σ}
    (hidle : w.doing k = .idle) (hwriter : w.writer = none)
    (hjob : job request = .transaction body) :
    step job w (.start k request) =
      { w.set k (.running request) with writer := some (k, w.committed) } := by
  simp [step, advance, hidle, hwriter, hjob]

/-- **Every answer** is that of the call run alone on the committed database,
which nothing else changes. -/
theorem advance_cases (h : Tidy job w) (e : ConnectionEvent κ Request) :
    (∃ request, w.request e = some request ∧
        reply job w e = some (.answered ((job request).effect w.committed).1) ∧
        (step job w e).committed = ((job request).effect w.committed).2)
      ∨
    ((∀ a, reply job w e ≠ some (.answered a)) ∧ (step job w e).committed = w.committed) := by
  cases e with
  | start k request =>
    simp only [step, reply, advance]
    split
    · rename_i answer _ hjob
      exact .inl ⟨request, rfl, by simp [hjob, Job.effect]⟩
    · split <;> exact .inr ⟨by simp, rfl⟩
    · rename_i f hdoing hjob
      split
      · exact .inl ⟨request, rfl, by simp [hjob, Job.effect]⟩
      · rename_i s _ hopen
        exact absurd hdoing (h.idle k s (openOn_eq_some_iff.mp hopen))
      · exact .inr ⟨by simp, rfl⟩
    · exact .inr ⟨by simp, rfl⟩
  | finish k =>
    cases hdoing : w.doing k with
    | running request =>
      obtain ⟨hreply, hcommitted, _⟩ := finish_of_running h hdoing
      exact .inl ⟨request, by simp [Connections.request, hdoing], hreply, hcommitted⟩
    | _ => exact .inr ⟨by simp [reply, advance, hdoing], by simp [step, advance, hdoing]⟩
  | hook k =>
    simp only [step, reply, advance]
    split <;> exact .inr ⟨by simp, rfl⟩

/-- **One event** keeps what every call, run alone, keeps of the committed
database. -/
theorem invariant_step {P : σ → Prop}
    (heffect : ∀ request s, P s → P ((job request).effect s).2) (h : Tidy job w ∧ P w.committed)
    (e : ConnectionEvent κ Request) :
    Tidy job (step job w e) ∧ P (step job w e).committed := by
  refine ⟨tidy_step h.1 e, ?_⟩
  rcases advance_cases h.1 e with ⟨request, _, _, hcommitted⟩ | ⟨_, hcommitted⟩
  · rw [hcommitted]
    exact heffect request w.committed h.2
  · rw [hcommitted]
    exact h.2

end Connections

end Semantics
end O3k
