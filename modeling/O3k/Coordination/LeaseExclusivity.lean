import O3k.Coordination.WorkLease

/-!
# Lease exclusivity

A session believes that it holds a work key from a successful acquisition or
renewal until the `lease_until` stored then, unless it gives the lease up
before.

The invariant is that every belief that has not run out is backed by the stored
row: same owner, same `lease_until`.  Renewal and take-over read the same
instant with complementary tests, so a row is never taken over while a belief in
it is live.
-/

namespace O3k
namespace Coordination

open Relational Relational.Transaction Semantics

section LeaseExclusivity

/-- For each session, the `lease_until` that its last acquisition or renewal of
the key stored, if that call succeeded and the session has not given the lease
up since. -/
abbrev Beliefs := ControllerIdentity → Option Time

def LeaseReply.succeeded : LeaseReply → Bool
  | .acquired (.ok (.acquired _)) => true
  | .fenced (.ok granted) => granted
  | _ => false

/-- What the sessions believe after a step, where `k` is the stored state of
the key after it. -/
def beliefsAfter
    (key : String) (s : LeaseStep) (reply : LeaseReply) (k : KeyState) (held : Beliefs) :
    Beliefs :=
  if s.workKey? = some key then
    match s with
    | .advance _ => held
    | .acquire _ _ session _
    | .renew _ session _ _ =>
      Function.update held session
        (if reply.succeeded then k.row.map WorkLease.leaseUntil else none)
    | .release _ session _
    | .relinquish _ session _ =>
      if reply.succeeded then
        Function.update held session none
      else
        held
  else
    held

/-- The store together with what every session believes about one key. -/
structure ObservedWorld where
  world : LeaseWorld
  held : Beliefs

namespace ObservedWorld

def initial (now : Time) : ObservedWorld :=
  ⟨LeaseWorld.initial now, fun _ => none⟩

def step (clock : LeaseClock) (key : String) (o : ObservedWorld) (s : LeaseStep) :
    ObservedWorld where
  world := o.world.step clock s
  held :=
    beliefsAfter key s (o.world.reply clock s)
      ((o.world.step clock s).tables.keyState key) o.held

/-- The session's lease has not run out. -/
def Holds (o : ObservedWorld) (session : ControllerIdentity) : Prop :=
  ∃ leaseUntil, o.held session = some leaseUntil ∧ o.world.now ≤ leaseUntil

def AtMostOneHolder (o : ObservedWorld) : Prop :=
  ∀ session other, o.Holds session → o.Holds other → session = other

end ObservedWorld

/-- The triple a fenced call presents, with its key. -/
def LeaseStep.triple? : LeaseStep → Option (String × ControllerIdentity × Nat)
  | .advance _ => none
  | .acquire _ _ _ _ => none
  | .renew workKey session fencingToken _ => some (workKey, session, fencingToken)
  | .release workKey session fencingToken => some (workKey, session, fencingToken)
  | .relinquish workKey session fencingToken => some (workKey, session, fencingToken)

/-- A renew, release or relinquish whose triple is not the stored one fails and
changes nothing. -/
def StaleTripleRefused (clock : LeaseClock) (w : LeaseWorld) (s : LeaseStep) : Prop :=
  ∀ key session fencingToken,
    s.triple? = some (key, session, fencingToken) →
    (∀ lease,
      w.tables.workLeases.get? key = some lease →
      ¬ (lease.owner = session ∧ lease.fencingToken = fencingToken)) →
    w.reply clock s = .fenced (.ok false) ∧
      (w.step clock s).tables = w.tables

/-- Every belief that is live at `now` is the stored row. -/
def Backed (now : Time) (row : Option WorkLease) (held : Beliefs) : Prop :=
  ∀ session leaseUntil,
    held session = some leaseUntil →
    now ≤ leaseUntil →
    ∃ lease,
      row = some lease ∧ lease.owner = session ∧ lease.leaseUntil = leaseUntil

namespace Backed

variable {now : Time} {row : Option WorkLease} {held : Beliefs}

theorem later {later : Time} (h : Backed now row held) (hle : now ≤ later) :
    Backed later row held :=
  fun session leaseUntil hheld hlive =>
    h session leaseUntil hheld (hle.trans hlive)

theorem forget (h : Backed now row held) (session : ControllerIdentity) :
    Backed now row (Function.update held session none) := by
  intro other leaseUntil hheld hlive
  by_cases hsame : other = session
  · subst hsame
    simp at hheld
  · rw [Function.update_of_ne hsame] at hheld
    exact h other leaseUntil hheld hlive

/-- Whoever is written into the row is believed to hold what is written, as
long as nobody else had a live belief. -/
theorem grant {lease : WorkLease} (h : Backed now row held)
    (hfree :
      ∀ existing, row = some existing → now ≤ existing.leaseUntil → existing.owner = lease.owner) :
    Backed now (some lease) (Function.update held lease.owner (some lease.leaseUntil)) := by
  intro other leaseUntil hheld hlive
  by_cases hsame : other = lease.owner
  · subst hsame
    rw [Function.update_self] at hheld
    exact ⟨lease, rfl, rfl, Option.some.inj hheld⟩
  · rw [Function.update_of_ne hsame] at hheld
    obtain ⟨existing, hrow, howner, huntil⟩ := h other leaseUntil hheld hlive
    have hlease := hfree existing hrow (huntil ▸ hlive)
    exact absurd (howner.symm.trans hlease) hsame

theorem giveUp {existing : WorkLease} (row : Option WorkLease)
    (h : Backed now (some existing) held) :
    Backed now row (Function.update held existing.owner none) := by
  intro other leaseUntil hheld hlive
  by_cases hsame : other = existing.owner
  · subst hsame
    simp at hheld
  · rw [Function.update_of_ne hsame] at hheld
    obtain ⟨lease, hrow, howner, _⟩ := h other leaseUntil hheld hlive
    cases hrow
    exact absurd howner.symm hsame

end Backed

theorem backed_of_failed {now : Time} {key : String} {s : LeaseStep} {reply : LeaseReply}
    {k : KeyState} {held : Beliefs} (h : Backed now k.row held)
    (hfailed : reply.succeeded = false) :
    Backed now k.row (beliefsAfter key s reply k held) := by
  unfold beliefsAfter
  split
  · cases s with
    | advance elapsed => exact h
    | acquire workKey workKind session ttl => simpa [hfailed] using h.forget session
    | renew workKey session fencingToken ttl => simpa [hfailed] using h.forget session
    | release workKey session fencingToken => simpa [hfailed] using h
    | relinquish workKey session fencingToken => simpa [hfailed] using h
  · exact h

theorem backed_change {now : Time} {key : String} {s : LeaseStep} {reply : LeaseReply}
    {k k' : KeyState} {held : Beliefs} (hchange : KeyChange now key s reply k k')
    (h : Backed now k.row held) :
    Backed now k'.row (beliefsAfter key s reply k' held) := by
  cases hchange with
  | elsewhere _ _ hother => simpa [beliefsAfter, hother] using h
  | rejected e _ hreply =>
    refine backed_of_failed h ?_
    rcases hreply with rfl | rfl
    · rfl
    · rfl
  | inserted lease fence howner _ =>
    subst howner
    have hfree :
        ∀ row, (none : Option WorkLease) = some row → now ≤ row.leaseUntil →
          row.owner = lease.owner := by
      intro row hrow _
      cases hrow
    simpa [beliefsAfter, LeaseStep.workKey?, LeaseReply.succeeded] using h.grant hfree
  | reacquired existing lease fence _ hexisting howner _ =>
    subst howner
    have hfree :
        ∀ row, some existing = some row → now ≤ row.leaseUntil →
          row.owner = lease.owner := by
      rintro row hrow _
      cases hrow
      exact hexisting
    simpa [beliefsAfter, LeaseStep.workKey?, LeaseReply.succeeded] using h.grant hfree
  | takenOver existing lease fence hexpired howner _ =>
    -- the row has run out, so no belief in it is live
    subst howner
    have hfree :
        ∀ row, some existing = some row → now ≤ row.leaseUntil →
          row.owner = lease.owner := by
      rintro row hrow hlive
      cases hrow
      exact absurd hexpired (Int.not_lt.mpr hlive)
    simpa [beliefsAfter, LeaseStep.workKey?, LeaseReply.succeeded] using h.grant hfree
  | busy existing fence _ _ => exact backed_of_failed h rfl
  | renewed existing lease fence _ howner _ =>
    have hfree :
        ∀ row, some existing = some row → now ≤ row.leaseUntil →
          row.owner = lease.owner := by
      rintro row hrow _
      cases hrow
      exact howner.symm
    simpa [beliefsAfter, LeaseStep.workKey?, LeaseReply.succeeded, howner] using h.grant hfree
  | released existing fence =>
    simpa [beliefsAfter, LeaseStep.workKey?, LeaseReply.succeeded] using h.giveUp none
  | relinquished existing lease fence _ _ =>
    simpa [beliefsAfter, LeaseStep.workKey?, LeaseReply.succeeded] using h.giveUp (some lease)
  | refused _ => exact backed_of_failed h rfl

theorem now_le_step (clock : LeaseClock) (w : LeaseWorld) (s : LeaseStep) :
    w.now ≤ (w.step clock s).now := by
  cases s with
  | advance elapsed => exact Int.le_add_of_nonneg_right (Int.natCast_nonneg elapsed)
  | acquire | renew | release | relinquish => exact Int.le_refl _

namespace ObservedWorld

/-- Every live belief about the key is the stored row. -/
def BeliefsBacked (key : String) (o : ObservedWorld) : Prop :=
  Backed o.world.now (o.world.tables.keyState key).row o.held

theorem beliefsBacked_step {clock : LeaseClock} {key : String} {o : ObservedWorld} {s : LeaseStep}
    (h : o.BeliefsBacked key) :
    (o.step clock key s).BeliefsBacked key :=
  (backed_change (keyChange_step clock o.world s key) h).later
    (now_le_step clock o.world s)

theorem atMostOneHolder_of_backed {key : String} {o : ObservedWorld} (h : o.BeliefsBacked key) :
    o.AtMostOneHolder := by
  rintro session other ⟨leaseUntil, hheld, hlive⟩ ⟨leaseUntil', hheld', hlive'⟩
  obtain ⟨lease, hrow, howner, _⟩ := h session leaseUntil hheld hlive
  obtain ⟨lease', hrow', howner', _⟩ := h other leaseUntil' hheld' hlive'
  rw [hrow] at hrow'
  cases hrow'
  exact howner.symm.trans howner'

end ObservedWorld

theorem staleTripleRefused (clock : LeaseClock) (w : LeaseWorld) (s : LeaseStep) :
    StaleTripleRefused clock w s := by
  intro key session fencingToken htriple hstale
  have hnone : fencedLease w.tables key session fencingToken = none := by
    refine Option.eq_none_iff_forall_ne_some.mpr ?_
    intro lease hlease
    obtain ⟨hrow, hcarries⟩ := fencedLease_eq_some_iff.mp hlease
    exact hstale lease hrow hcarries
  cases s with
  | advance | acquire => cases htriple
  | renew workKey caller token ttl =>
    cases htriple
    simp [LeaseWorld.reply, LeaseWorld.step, LeaseWorld.exec, atomically, renewWorkLease, hnone]
  | release workKey caller token =>
    cases htriple
    simp [LeaseWorld.reply, LeaseWorld.step, LeaseWorld.exec, atomically, releaseWorkLease, hnone]
  | relinquish workKey caller token =>
    cases htriple
    simp [LeaseWorld.reply, LeaseWorld.step, LeaseWorld.exec, atomically,
      relinquishWorkLeasePreservingFence, hnone]

/-- **Lease exclusivity**: in every interleaving, at no instant do two sessions
hold the key, and no call with a superseded triple has an effect. -/
theorem lease_exclusivity
    (clock : LeaseClock) (key : String) (now : Time) (steps : List LeaseStep) :
    Always (ObservedWorld.step clock key) ObservedWorld.AtMostOneHolder
        (ObservedWorld.initial now) steps ∧
      EachStep (LeaseWorld.step clock) (StaleTripleRefused clock)
        (LeaseWorld.initial now) steps := by
  have hbacked :
      Always (ObservedWorld.step clock key) (ObservedWorld.BeliefsBacked key)
        (ObservedWorld.initial now) steps :=
    always_of_invariant
      (fun _ _ h => ObservedWorld.beliefsBacked_step h) _ steps
      (fun _ _ hheld => by cases hheld)
  refine ⟨hbacked.imp (fun _ => ObservedWorld.atMostOneHolder_of_backed), ?_⟩
  rw [eachStep_iff_split]
  intro before s after _
  exact staleTripleRefused clock _ s

/-- The session that makes the call. -/
def LeaseStep.session? : LeaseStep → Option ControllerIdentity
  | .advance _ => none
  | .acquire _ _ session _ => some session
  | .renew _ session _ _ => some session
  | .release _ session _ => some session
  | .relinquish _ session _ => some session

/-- Another session leaves a row that has not run out as it is. -/
theorem KeyChange.row_kept {now : Time} {key : String} {s : LeaseStep} {reply : LeaseReply}
    {k k' : KeyState} {lease : WorkLease} (h : KeyChange now key s reply k k')
    (hrow : k.row = some lease) (hlive : now ≤ lease.leaseUntil)
    (hother : s.session? ≠ some lease.owner) :
    k'.row = some lease := by
  cases h with
  | elsewhere | rejected | busy | refused => exact hrow
  | inserted => cases hrow
  | reacquired existing _ _ _ hexisting =>
    cases hrow
    exact absurd (congrArg some hexisting.symm) hother
  | takenOver existing _ _ hexpired =>
    cases hrow
    exact absurd hexpired (Int.not_lt.mpr hlive)
  | renewed | released | relinquished =>
    cases hrow
    exact absurd rfl hother

/-- The lease is stored as long as it has not run out. -/
def LeaseWorld.Keeps (key : String) (lease : WorkLease) (w : LeaseWorld) : Prop :=
  w.now ≤ lease.leaseUntil → w.tables.workLeases.get? key = some lease

/-- **A lease is lost by its owner only**: in every run in which the owner makes
no call, its row stays as it is until it runs out. -/
theorem live_lease_kept
    (clock : LeaseClock) (key : String) (w : LeaseWorld) (steps : List LeaseStep)
    (lease : WorkLease) (hrow : w.tables.workLeases.get? key = some lease)
    (hothers : ∀ s ∈ steps, s.session? ≠ some lease.owner) :
    Always (LeaseWorld.step clock) (LeaseWorld.Keeps key lease) w steps := by
  refine always_of_guarded (C := fun _ s => s.session? ≠ some lease.owner) ?_ w steps
    (fun _ => hrow) (eachStep_of_forall (fun s hs _ => hothers s hs) w)
  intro w s h hother hlive
  have hnow := (now_le_step clock w s).trans hlive
  exact (keyChange_step clock w s key).row_kept (h hnow) hnow hother

/-- Another session tries, and tries to give up what it does not hold. -/
theorem live_lease_kept_from_other :
    let lease : WorkLease := ⟨"key", "kind", ⟨"a", "1"⟩, 1, 10, 0, 0⟩
    Always (LeaseWorld.step sqliteLeaseClock) (LeaseWorld.Keeps "key" lease)
      ⟨⟨Table.ofList [lease], ∅⟩, 0⟩
      [.acquire "key" "kind" ⟨"b", "1"⟩ 5, .advance 3, .release "key" ⟨"b", "1"⟩ 1] :=
  live_lease_kept _ _ _ _ _ rfl (by decide)

end LeaseExclusivity

end Coordination
end O3k
