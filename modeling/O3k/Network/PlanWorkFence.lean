import O3k.Network.PlanWork

/-!
# Network plan work is fenced

Every row only ever advances: its revision by one, its state along an allowed
transition.  A revision that a client has read is therefore a lower bound of
the stored one, and an `UPDATE` that finds exactly that revision finds the row
on which its transition was checked.
-/

namespace O3k
namespace Network

open Relational Relational.Transaction Coordination Semantics

/-- A row after a step: as it was, or advanced along an allowed transition. -/
def RowStep (row row' : NetworkPlanWorkRecord) : Prop :=
  row' = row ∨
    ∃ state outcome, row.state.canTransitionTo state = true ∧ row' = row.advance state outcome

/-- Every row is still there and has made at most one step. -/
def Advances (t t' : PlanWork) : Prop :=
  ∀ commandId row, t.get? commandId = some row →
    ∃ row', t'.get? commandId = some row' ∧ RowStep row row'

theorem Advances.refl (t : PlanWork) : Advances t t :=
  fun _ row hget => ⟨row, hget, Or.inl rfl⟩

theorem RowStep.revision_le {row row' : NetworkPlanWorkRecord} (h : RowStep row row') :
    row' = row ∨ row'.revision = row.revision + 1 := by
  rcases h with rfl | ⟨_, _, _, rfl⟩
  · exact Or.inl rfl
  · exact Or.inr rfl

theorem RowStep.state_of_terminal {row row' : NetworkPlanWorkRecord}
    (h : RowStep row row') (hterminal : row.state.terminal = true) :
    row'.state = row.state := by
  rcases h with rfl | ⟨state, _, htransition, rfl⟩
  · rfl
  · exact NetworkPlanWorkState.eq_of_canTransitionTo_of_terminal hterminal htransition

variable {t : PlanWork}

theorem advances_put_of_absent {work : NetworkPlanWorkRecord}
    (habsent : t.get? work.commandId = none) :
    Advances t (t.put work) := by
  intro commandId row hget
  refine ⟨row, ?_, Or.inl rfl⟩
  rw [t.get?_put_of_ne, hget]
  rintro rfl
  rw [habsent] at hget
  cases hget

theorem advances_put_advance {commandId : String} {row : NetworkPlanWorkRecord}
    (hget : t.get? commandId = some row) {state : NetworkPlanWorkState}
    (htransition : row.state.canTransitionTo state = true) (outcome : Option (List UInt8)) :
    Advances t (t.put (row.advance state outcome)) := by
  have hid : row.commandId = commandId := t.key_of_get? hget
  intro id old hold
  by_cases hsame : id = commandId
  · subst hsame
    rw [hget] at hold
    cases hold
    refine ⟨row.advance state outcome, ?_, Or.inr ⟨state, outcome, htransition, rfl⟩⟩
    rw [← hid]
    exact t.get?_put_self _
  · refine ⟨old, ?_, Or.inl rfl⟩
    rw [t.get?_put_of_ne, hold]
    show row.commandId ≠ id
    rw [hid]
    exact Ne.symm hsame

theorem insertWork_ok {work : NetworkPlanWorkRecord} {conflict : String} {t' : PlanWork}
    (h : insertWork work conflict t = .ok ((), t')) :
    t.get? work.commandId = none ∧ t' = t.put work := by
  obtain ⟨_, _, h⟩ := fromExcept_bind_eq_ok.mp h
  obtain ⟨_, _, h⟩ := fromExcept_bind_eq_ok.mp h
  obtain ⟨_, _, h⟩ := fromExcept_bind_eq_ok.mp h
  rw [get_bind_apply] at h
  obtain ⟨_, h⟩ := require_bind_eq_ok.mp h
  obtain ⟨inserted, hinserted, h⟩ := orFail_bind_eq_ok.mp h
  obtain ⟨habsent, rfl⟩ := (t.insert?_eq_some_iff inserted).mp hinserted
  cases h
  exact ⟨habsent, rfl⟩

theorem advanceWork_ok {commandId : String} {expectedRevision : Nat} {state : NetworkPlanWorkState}
    {outcome : Option (List UInt8)} {unaffected : StoreError} {t' : PlanWork}
    (h : advanceWork commandId expectedRevision state outcome unaffected t = .ok ((), t')) :
    ∃ row,
      t.get? commandId = some row ∧ row.revision = expectedRevision ∧
        t' = t.put (row.advance state outcome) := by
  obtain ⟨_, _, h⟩ := fromExcept_bind_eq_ok.mp h
  rw [get_bind_apply] at h
  cases hfilter : (t.get? commandId).filter (fun row => row.revision = expectedRevision) with
  | none =>
    rw [hfilter] at h
    cases h
  | some row =>
    rw [hfilter] at h
    cases h
    obtain ⟨hget, hrevision⟩ := Option.filter_eq_some_iff.mp hfilter
    exact ⟨row, hget, of_decide_eq_true hrevision, rfl⟩

/-- The successor is stored and the old row has failed, at once. -/
def Superseded (t : PlanWork) (oldCommandId : String) (successor : NetworkPlanWorkRecord)
    (t' : PlanWork) : Prop :=
  ∃ old outcome,
    t.get? successor.commandId = none ∧
      t.get? oldCommandId = some old ∧
      old.state.terminal = false ∧
      t' = (t.put successor).put (old.advance .failed (some outcome))

theorem Superseded.advances {t' : PlanWork} {oldCommandId : String}
    {successor : NetworkPlanWorkRecord} (h : Superseded t oldCommandId successor t') :
    Advances t t' := by
  obtain ⟨old, outcome, habsent, hold, hopen, rfl⟩ := h
  have hid : old.commandId = oldCommandId := t.key_of_get? hold
  have hdistinct : successor.commandId ≠ oldCommandId := by
    intro hsame
    rw [hsame, hold] at habsent
    cases habsent
  have hstored : (t.put successor).get? oldCommandId = some old := by
    rw [t.get?_put_of_ne hdistinct, hold]
  intro commandId row hget
  by_cases hsame : commandId = oldCommandId
  · subst hsame
    exact advances_put_advance hstored
      (NetworkPlanWorkState.canTransitionTo_failed hopen) (some outcome) commandId row
      (by rw [hstored, ← hget, hold])
  · obtain ⟨row', hget', hrow⟩ := advances_put_of_absent habsent commandId row hget
    refine ⟨row', ?_, hrow⟩
    rw [Table.get?_put_of_ne, hget']
    show old.commandId ≠ commandId
    rw [hid]
    exact Ne.symm hsame

section UnderLease

variable {leases : LeaseTables} {now : Time} {presented : PresentedLease} {t t' : PlanWork}

theorem insertUnderLeaseBody_ok {work : NetworkPlanWorkRecord}
    (h : insertUnderLeaseBody leases now presented work t = .ok ((), t')) :
    HoldsLease leases now presented ∧ Advances t t' := by
  obtain ⟨_, hheld, h⟩ := fromExcept_bind_eq_ok.mp h
  refine ⟨holdsLease_of_checkLease hheld, ?_⟩
  rw [get_bind_apply] at h
  cases hget : t.get? work.commandId with
  | some existing =>
    rw [hget] at h
    cases (require_eq_ok.mp h).2
    exact Advances.refl t
  | none =>
    rw [hget] at h
    obtain ⟨_, h⟩ := require_bind_eq_ok.mp h
    obtain ⟨habsent, rfl⟩ := insertWork_ok h
    exact advances_put_of_absent habsent

theorem updateUnderLeaseBody_ok {commandId : String} {expectedRevision : Nat}
    {state : NetworkPlanWorkState} {outcome : Option (List UInt8)}
    (h : updateUnderLeaseBody leases now presented commandId expectedRevision state outcome t
      = .ok ((), t')) :
    HoldsLease leases now presented ∧ Advances t t' := by
  obtain ⟨_, hheld, h⟩ := fromExcept_bind_eq_ok.mp h
  refine ⟨holdsLease_of_checkLease hheld, ?_⟩
  rw [get_bind_apply] at h
  obtain ⟨current, hget, h⟩ := orFail_bind_eq_ok.mp h
  obtain ⟨_, _, hrequire, h⟩ := bind_eq_ok.mp h
  obtain ⟨⟨_, htransition⟩, hsame⟩ := require_eq_ok.mp hrequire
  cases hsame
  obtain ⟨row, hrow, _, rfl⟩ := advanceWork_ok h
  rw [hget] at hrow
  cases hrow
  exact advances_put_advance hget htransition outcome

theorem supersedeUnderLeaseBody_ok {supersessionOutcome : String → Option (List UInt8)}
    {oldCommandId : String} {expectedOldRevision : Nat} {successor : NetworkPlanWorkRecord}
    (h : supersedeUnderLeaseBody leases now supersessionOutcome presented oldCommandId
      expectedOldRevision successor t = .ok ((), t')) :
    HoldsLease leases now presented ∧ Superseded t oldCommandId successor t' := by
  obtain ⟨_, hheld, h⟩ := fromExcept_bind_eq_ok.mp h
  refine ⟨holdsLease_of_checkLease hheld, ?_⟩
  obtain ⟨_, h⟩ := require_bind_eq_ok.mp h
  rw [get_bind_apply] at h
  obtain ⟨old, hget, h⟩ := orFail_bind_eq_ok.mp h
  obtain ⟨_, _, hrequire, h⟩ := bind_eq_ok.mp h
  obtain ⟨⟨_, hopen, _⟩, hsame⟩ := require_eq_ok.mp hrequire
  cases hsame
  obtain ⟨outcome, _, h⟩ := orFail_bind_eq_ok.mp h
  obtain ⟨_, _, hinsert, h⟩ := bind_eq_ok.mp h
  obtain ⟨habsent, rfl⟩ := insertWork_ok hinsert
  obtain ⟨row, hrow, _, rfl⟩ := advanceWork_ok h
  -- the successor has another id, so the old row is still the one that was read
  have hdistinct : successor.commandId ≠ oldCommandId := by
    intro hsame
    rw [hsame, hget] at habsent
    cases habsent
  rw [t.get?_put_of_ne hdistinct, hget] at hrow
  cases hrow
  exact ⟨_, outcome, habsent, hget, by simpa using hopen, rfl⟩

end UnderLease

structure StepFenced (w : PlanWorld) (s : PlanStep) (w' : PlanWorld) : Prop where
  rows : Advances w.work w'.work
  /-- A change under a lease is made by its holder. -/
  lease :
    ∀ presented, s.presented? = some presented → w'.work ≠ w.work →
      HoldsLease w.leases.tables w.leases.now presented
  /-- A terminal row stays in its state. -/
  terminal :
    ∀ commandId row, w.work.get? commandId = some row → row.state.terminal = true →
      ∃ row', w'.work.get? commandId = some row' ∧ row'.state = row.state
  /-- Both writes of a supersession happen, or none does. -/
  supersession :
    ∀ presented oldCommandId expectedOldRevision successor,
      s = .supersedeUnderLease presented oldCommandId expectedOldRevision successor →
        w'.work = w.work ∨ Superseded w.work oldCommandId successor w'.work

theorem StepFenced.of_advances {w w' : PlanWorld} {s : PlanStep} (hrows : Advances w.work w'.work)
    (hlease :
      ∀ presented, s.presented? = some presented → w'.work ≠ w.work →
        HoldsLease w.leases.tables w.leases.now presented)
    (hsupersession :
      ∀ presented oldCommandId expectedOldRevision successor,
        s = .supersedeUnderLease presented oldCommandId expectedOldRevision successor →
          w'.work = w.work ∨ Superseded w.work oldCommandId successor w'.work) :
    StepFenced w s w' where
  rows := hrows
  lease := hlease
  terminal := by
    intro commandId row hget hterminal
    obtain ⟨row', hget', hrow⟩ := hrows commandId row hget
    exact ⟨row', hget', hrow.state_of_terminal hterminal⟩
  supersession := hsupersession

theorem StepFenced.of_work_eq {w w' : PlanWorld} {s : PlanStep} (h : w'.work = w.work) :
    StepFenced w s w' := by
  refine StepFenced.of_advances ?_ (fun _ _ hne => absurd h hne) (fun _ _ _ _ _ => Or.inl h)
  rw [h]
  exact Advances.refl _

/-- A client's reading and a running update speak of rows that are there, and
the update's transition is allowed as long as its revision is current. -/
structure Settled (w : PlanWorld) : Prop where
  revisionsRead :
    ∀ client commandId revision, (client, commandId, revision) ∈ w.revisionsRead →
      ∃ row, w.work.get? commandId = some row ∧ revision ≤ row.revision
  inFlight :
    ∀ u ∈ w.inFlight,
      ∃ row, w.work.get? u.commandId = some row ∧
        u.expectedRevision ≤ row.revision ∧
        (u.expectedRevision = row.revision → row.state.canTransitionTo u.state = true)

theorem settled_fresh (leases : LeaseWorld) (work : PlanWork) :
    Settled (PlanWorld.fresh leases work) :=
  ⟨fun _ _ _ h => (by cases h), fun _ h => (by cases h)⟩

theorem Settled.of_advances {w w' : PlanWorld}
    (h : Settled w) (hrows : Advances w.work w'.work) (hread : w'.revisionsRead = w.revisionsRead)
    (hflight : ∀ u ∈ w'.inFlight, u ∈ w.inFlight) :
    Settled w' where
  revisionsRead := by
    intro client commandId revision hmem
    rw [hread] at hmem
    obtain ⟨row, hget, hle⟩ := h.revisionsRead client commandId revision hmem
    obtain ⟨row', hget', hrow⟩ := hrows commandId row hget
    refine ⟨row', hget', ?_⟩
    rcases hrow.revision_le with rfl | hnext
    · exact hle
    · omega
  inFlight := by
    intro u hu
    obtain ⟨row, hget, hle, htransition⟩ := h.inFlight u (hflight u hu)
    obtain ⟨row', hget', hrow⟩ := hrows u.commandId row hget
    rcases hrow.revision_le with rfl | hnext
    · exact ⟨row', hget', hle, htransition⟩
    · exact ⟨row', hget', by omega, fun hcurrent => by omega⟩

section Runs

variable (clock : LeaseClock) (supersessionOutcome : String → Option (List UInt8))

/-- A caller of `update_network_plan_work` names a revision that it has read. -/
def KnowsRevision (w : PlanWorld) : PlanStep → Prop
  | .beginUpdate client u => (client, u.commandId, u.expectedRevision) ∈ w.revisionsRead
  | _ => True

instance decidableKnowsRevision (w : PlanWorld) :
    (s : PlanStep) → Decidable (KnowsRevision w s)
  | .beginUpdate client u =>
    inferInstanceAs
      (Decidable ((client, u.commandId, u.expectedRevision) ∈ w.revisionsRead))
  | .lease _ => isTrue trivial
  | .insertUnderLease _ _ => isTrue trivial
  | .updateUnderLease _ _ => isTrue trivial
  | .supersedeUnderLease _ _ _ _ => isTrue trivial
  | .read _ _ => isTrue trivial
  | .finishUpdate _ => isTrue trivial

theorem runBody_cases (w : PlanWorld) (validated : Except StoreError Unit) (body : PlanBody Unit) :
    (w.runBody validated body).2 = w ∨
      ∃ t', body w.work = .ok ((), t') ∧ (w.runBody validated body).2 = { w with work := t' } := by
  unfold PlanWorld.runBody
  cases validated with
  | error e => exact Or.inl rfl
  | ok _ =>
    cases hbody : body w.work with
    | error e =>
      left
      simp [atomically_of_error hbody]
    | ok outcome =>
      obtain ⟨_, t'⟩ := outcome
      right
      exact ⟨t', rfl, by simp [atomically_of_ok hbody]⟩

theorem checkUpdate_ok {u : PlanUpdate} {t : PlanWork} (h : checkUpdate u t = .ok ()) :
    ∃ row, t.get? u.commandId = some row ∧ row.state.canTransitionTo u.state = true := by
  obtain ⟨_, _, h⟩ := except_bind_eq_ok.mp h
  split at h
  · cases h
  · rename_i row hget
    split at h
    · rename_i htransition
      exact ⟨row, hget, htransition⟩
    · cases h

theorem advances_finishUpdate {w : PlanWorld}
    (h : Settled w) {u : PlanUpdate} (hu : u ∈ w.inFlight) {t' : PlanWork}
    (hbody : updateBody u w.work = .ok ((), t')) :
    Advances w.work t' := by
  obtain ⟨row, hget, hrevision, rfl⟩ := advanceWork_ok hbody
  obtain ⟨row', hget', _, htransition⟩ := h.inFlight u hu
  rw [hget] at hget'
  cases hget'
  exact advances_put_advance hget (htransition hrevision.symm) u.outcome

/-- **Step lemma**: a step keeps the invariant and is fenced. -/
theorem settled_step {w : PlanWorld} {s : PlanStep} (h : Settled w) (hknows : KnowsRevision w s) :
    Settled (w.step clock supersessionOutcome s) ∧
      StepFenced w s (w.step clock supersessionOutcome s) := by
  cases s with
  | lease s => exact ⟨⟨h.revisionsRead, h.inFlight⟩, StepFenced.of_work_eq rfl⟩
  | insertUnderLease presented work =>
    simp only [PlanWorld.step, PlanWorld.exec]
    rcases runBody_cases w work.validate
        (insertUnderLeaseBody w.leases.tables w.leases.now presented work) with
      hsame | ⟨t', hbody, hstep⟩
    · rw [hsame]
      exact ⟨h, StepFenced.of_work_eq rfl⟩
    · obtain ⟨hheld, hrows⟩ := insertUnderLeaseBody_ok hbody
      rw [hstep]
      refine ⟨h.of_advances hrows rfl (fun _ hu => hu), StepFenced.of_advances hrows ?_ ?_⟩
      · rintro _ hpresented _
        cases hpresented
        exact hheld
      · exact fun _ _ _ _ heq => by cases heq
  | updateUnderLease presented u =>
    simp only [PlanWorld.step, PlanWorld.exec]
    rcases runBody_cases w (.ok ())
        (updateUnderLeaseBody w.leases.tables w.leases.now presented u.commandId
          u.expectedRevision u.state u.outcome) with
      hsame | ⟨t', hbody, hstep⟩
    · rw [hsame]
      exact ⟨h, StepFenced.of_work_eq rfl⟩
    · obtain ⟨hheld, hrows⟩ := updateUnderLeaseBody_ok hbody
      rw [hstep]
      refine ⟨h.of_advances hrows rfl (fun _ hu => hu), StepFenced.of_advances hrows ?_ ?_⟩
      · rintro _ hpresented _
        cases hpresented
        exact hheld
      · exact fun _ _ _ _ heq => by cases heq
  | supersedeUnderLease presented oldCommandId expectedOldRevision successor =>
    simp only [PlanWorld.step, PlanWorld.exec]
    rcases runBody_cases w successor.validate
        (supersedeUnderLeaseBody w.leases.tables w.leases.now supersessionOutcome presented
          oldCommandId expectedOldRevision successor) with
      hsame | ⟨t', hbody, hstep⟩
    · rw [hsame]
      exact ⟨h, StepFenced.of_work_eq rfl⟩
    · obtain ⟨hheld, hsuperseded⟩ := supersedeUnderLeaseBody_ok hbody
      have hrows := hsuperseded.advances
      rw [hstep]
      refine ⟨h.of_advances hrows rfl (fun _ hu => hu), StepFenced.of_advances hrows ?_ ?_⟩
      · rintro _ hpresented _
        cases hpresented
        exact hheld
      · rintro _ _ _ _ heq
        cases heq
        exact Or.inr hsuperseded
  | read client commandId =>
    simp only [PlanWorld.step, PlanWorld.exec]
    split
    · exact ⟨h, StepFenced.of_work_eq rfl⟩
    · rename_i row hget
      refine ⟨⟨?_, h.inFlight⟩, StepFenced.of_work_eq rfl⟩
      intro reader id revision hmem
      rcases List.mem_cons.mp hmem with heq | hmem
      · cases heq
        exact ⟨row, hget, le_rfl⟩
      · exact h.revisionsRead reader id revision hmem
  | beginUpdate client u =>
    simp only [PlanWorld.step, PlanWorld.exec]
    split
    · exact ⟨h, StepFenced.of_work_eq rfl⟩
    · rename_i hcheck
      refine ⟨⟨h.revisionsRead, ?_⟩, StepFenced.of_work_eq rfl⟩
      intro u' hmem
      rcases List.mem_cons.mp hmem with rfl | hmem
      · obtain ⟨row, hget, htransition⟩ := checkUpdate_ok hcheck
        obtain ⟨row', hget', hle⟩ := h.revisionsRead client u'.commandId _ hknows
        rw [hget] at hget'
        cases hget'
        exact ⟨row, hget, hle, fun _ => htransition⟩
      · exact h.inFlight u' hmem
  | finishUpdate u =>
    simp only [PlanWorld.step, PlanWorld.exec]
    split
    · rename_i hu
      rcases runBody_cases { w with inFlight := w.inFlight.erase u } (.ok ())
          (updateBody u) with hsame | ⟨t', hbody, hstep⟩
      · rw [hsame]
        exact ⟨⟨h.revisionsRead, fun u' hu' => h.inFlight u' (List.mem_of_mem_erase hu')⟩,
          StepFenced.of_work_eq rfl⟩
      · have hrows := advances_finishUpdate h hu hbody
        rw [hstep]
        refine ⟨h.of_advances hrows rfl (fun _ hu' => List.mem_of_mem_erase hu'), ?_⟩
        refine StepFenced.of_advances hrows ?_ ?_
        · exact fun _ hpresented => by cases hpresented
        · exact fun _ _ _ _ heq => by cases heq
    · exact ⟨h, StepFenced.of_work_eq rfl⟩

/-- **Network plan work is fenced**, in every interleaving of the four writers
with reads and with whatever happens to the leases. -/
theorem network_plan_work_fenced (leases : LeaseWorld) (work : PlanWork) (steps : List PlanStep)
    (hknows :
      EachStep (PlanWorld.step clock supersessionOutcome) KnowsRevision
        (PlanWorld.fresh leases work) steps) :
    EachStep (PlanWorld.step clock supersessionOutcome)
      (fun w s => StepFenced w s (w.step clock supersessionOutcome s))
      (PlanWorld.fresh leases work) steps :=
  eachStep_of_guarded (I := Settled)
    (fun _ _ h hknows => (settled_step clock supersessionOutcome h hknows).1)
    (fun _ _ h hknows => (settled_step clock supersessionOutcome h hknows).2)
    _ steps (settled_fresh leases work) hknows

/-- A controller takes a lease, stores a command, reads it and moves it on. -/
theorem network_plan_work_fenced_of_holder :
    let session : ControllerIdentity := ⟨"controller", "epoch"⟩
    let u : PlanUpdate := ⟨"command", 0, .running, none⟩
    let steps : List PlanStep :=
      [.lease (.acquire "realm" "network" session 1000000000),
        .insertUnderLease ⟨"realm", session, 1⟩
          ⟨"command", "operation", "key", "host", "agent", "agent-epoch", session, 1, 1, "sha",
            [0], .pending, 0, none⟩,
        .read "controller" "command",
        .beginUpdate "controller" u,
        .finishUpdate u]
    let start := PlanWorld.fresh (LeaseWorld.initial 0) ∅
    EachStep (PlanWorld.step sqliteLeaseClock (fun _ => some []))
      (fun w s => StepFenced w s (w.step sqliteLeaseClock (fun _ => some []) s)) start steps :=
  network_plan_work_fenced sqliteLeaseClock (fun _ => some []) _ _ _ (by decide)

end Runs

end Network
end O3k
