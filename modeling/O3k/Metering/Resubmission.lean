import O3k.Metering.Ledger

/-!
# Runs of the metering repository

A run is a list of calls; its state is the store and the list of the
observations accepted so far.  A refused call changes nothing, and neither does
an accepted observation submitted again, unless it is taken for a new
transition.
-/

namespace O3k
namespace Metering

open Relational Semantics

inductive MeteringCall
  | recordObservation (observation : MeterObservation)
  | ensureAuthority (nowMs : Int)
  deriving DecidableEq

structure MeteringRun where
  tables : MeteringTables
  accepted : List MeterObservation
  deriving DecidableEq

/-- No interval of the observation's series starts or ends after it. -/
def MeteringTables.NoneAfter (t : MeteringTables) (o : MeterObservation) : Prop :=
  ∀ row ∈ t.intervals.rows, row.series = o.series →
    row.startedAtMs ≤ o.observedAtMs ∧ ∀ ended ∈ row.endedAtMs, ended ≤ o.observedAtMs

section Machine

variable (newV5 : String → Uuid)

def Accepts (t : MeteringTables) (o : MeterObservation) : Prop :=
  (recordObservation newV5 o t).1 = .ok ()

instance (t : MeteringTables) (o : MeterObservation) : Decidable (Accepts newV5 t o) :=
  match h : (recordObservation newV5 o t).1 with
  | .ok () => isTrue h
  | .error _ => isFalse fun h' => nomatch h.symm.trans h'

def meteringStep (s : MeteringRun) : MeteringCall → MeteringRun
  | .recordObservation o =>
    { tables := (recordObservation newV5 o s.tables).2
      accepted := if Accepts newV5 s.tables o then s.accepted ++ [o] else s.accepted }
  | .ensureAuthority nowMs => { s with tables := ensureAuthority nowMs s.tables }

def RefusalUnchanged (s : MeteringRun) : MeteringCall → Prop
  | .recordObservation o =>
    ¬ Accepts newV5 s.tables o →
      (meteringStep newV5 s (.recordObservation o)).tables = s.tables
  | .ensureAuthority _ => True

def ResubmissionUnchanged (s : MeteringRun) : MeteringCall → Prop
  | .recordObservation o =>
    o ∈ s.accepted → (meteringStep newV5 s (.recordObservation o)).tables = s.tables
  | .ensureAuthority _ => True

/-- An observation submitted again does not meet the store in a state in which
it reads as a new transition. -/
def NotANewTransition (s : MeteringRun) : MeteringCall → Prop
  | .recordObservation o =>
    o ∈ s.accepted →
      (o.consuming = false →
        ∀ row ∈ s.tables.loadOpenInterval o.series, o.observedAtMs < row.startedAtMs) ∧
      (o.consuming = true →
        s.tables.loadOpenInterval o.series = none →
          s.tables.intervals.get? (intervalId newV5 o) ≠ none ∨
            ∃ ended ∈ s.tables.maxEndedAt o.series, o.observedAtMs < ended)
  | .ensureAuthority _ => True

instance decidableResubmissionUnchanged :
    (s : MeteringRun) →
    (call : MeteringCall) → Decidable (ResubmissionUnchanged newV5 s call)
  | s, .recordObservation o =>
    inferInstanceAs
      (Decidable
        (o ∈ s.accepted → (meteringStep newV5 s (.recordObservation o)).tables = s.tables))
  | _, .ensureAuthority _ => isTrue trivial

instance decidableNotANewTransition :
    (s : MeteringRun) →
    (call : MeteringCall) → Decidable (NotANewTransition newV5 s call)
  | s, .recordObservation o =>
    inferInstanceAs
      (Decidable
        (o ∈ s.accepted →
          (o.consuming = false →
            ∀ row ∈ s.tables.loadOpenInterval o.series, o.observedAtMs < row.startedAtMs) ∧
          (o.consuming = true →
            s.tables.loadOpenInterval o.series = none →
              s.tables.intervals.get? (intervalId newV5 o) ≠ none ∨
                ∃ ended ∈ s.tables.maxEndedAt o.series, o.observedAtMs < ended)))
  | _, .ensureAuthority _ => isTrue trivial

/-- An accepted consuming observation that nothing recorded of its series is later
than leaves an open interval of its quantity. -/
def KeepsRunning (s : MeteringRun) : MeteringCall → Prop
  | .recordObservation o =>
    Accepts newV5 s.tables o → o.consuming = true → s.tables.NoneAfter o →
      ∃ row ∈ (meteringStep newV5 s (.recordObservation o)).tables.intervals.rows,
        row.series = o.series ∧ row.endedAtMs = none ∧ row.quantity = o.quantity ∧
          row.startedAtMs ≤ o.observedAtMs
  | .ensureAuthority _ => True

/-- Such an observation of a series that has stopped asks for an interval with an
id of its own. -/
def OpensAnew (s : MeteringRun) : MeteringCall → Prop
  | .recordObservation o =>
    o.consuming = true → s.tables.NoneAfter o →
      s.tables.loadOpenInterval o.series = none →
        s.tables.intervals.get? (intervalId newV5 o) = none
  | .ensureAuthority _ => True

instance decidableKeepsRunning :
    (s : MeteringRun) → (call : MeteringCall) → Decidable (KeepsRunning newV5 s call)
  | s, .recordObservation o => by
    unfold KeepsRunning MeteringTables.NoneAfter
    infer_instance
  | _, .ensureAuthority _ => isTrue trivial

instance decidableOpensAnew :
    (s : MeteringRun) → (call : MeteringCall) → Decidable (OpensAnew newV5 s call)
  | s, .recordObservation o => by
    unfold OpensAnew MeteringTables.NoneAfter
    infer_instance
  | _, .ensureAuthority _ => isTrue trivial

end Machine

variable {newV5 : String → Uuid}

/-- What was accepted is valid and lies within the observed coverage. -/
structure Covered (s : MeteringRun) : Prop where
  valid : ∀ o ∈ s.accepted, o.validate = .ok ()
  between : ∀ o ∈ s.accepted, ∃ authority, s.tables.authority = some authority ∧
    authority.authorityStartedAtMs ≤ o.observedAtMs ∧
      o.observedAtMs ≤ authority.lastObservedAtMs

structure RunInvariant (s : MeteringRun) : Prop where
  ledger : Ledger s.tables
  covered : Covered s

variable {s : MeteringRun}

theorem Covered.recorded {o : MeterObservation} {t' : MeteringTables}
    (h : Covered s) (hrecorded : Recorded newV5 o s.tables t') :
    Covered ⟨t', s.accepted ++ [o]⟩ where
  valid := by
    intro x hx
    rcases List.mem_append.mp hx with hx | hx
    · exact h.valid x hx
    · rw [List.mem_singleton.mp hx]
      exact hrecorded.valid
  between := by
    intro x hx
    refine ⟨_, hrecorded.authority, ?_⟩
    rcases List.mem_append.mp hx with hx | hx
    · obtain ⟨authority, hauthority, hfrom, huntil⟩ := h.between x hx
      rw [hauthority]
      exact ⟨hfrom, le_max_of_le_left huntil⟩
    · rw [List.mem_singleton.mp hx]
      exact ⟨hrecorded.anchored, le_max_right _ _⟩

theorem Covered.ensureAuthority (h : Covered s) (nowMs : Int) :
    Covered ⟨Metering.ensureAuthority nowMs s.tables, s.accepted⟩ where
  valid := h.valid
  between := by
    intro o ho
    obtain ⟨authority, hauthority, hbounds⟩ := h.between o ho
    refine ⟨authority, ?_, hbounds⟩
    simp [Metering.ensureAuthority, MeteringTables.anchorAuthority, hauthority]

/-- **Step**: every call keeps the invariant. -/
theorem RunInvariant.step (h : RunInvariant s) (call : MeteringCall) :
    RunInvariant (meteringStep newV5 s call) := by
  cases call with
  | ensureAuthority nowMs =>
    exact ⟨Ledger.of_same (t := s.tables) rfl rfl h.ledger, h.covered.ensureAuthority nowMs⟩
  | recordObservation o =>
    by_cases haccepts : Accepts newV5 s.tables o
    · have hrecorded := recordObservation_ok haccepts
      simp only [meteringStep, if_pos haccepts]
      exact ⟨h.ledger.of_recorded hrecorded, h.covered.recorded hrecorded⟩
    · obtain ⟨e, he⟩ : ∃ e, (recordObservation newV5 o s.tables).1 = .error e := by
        cases hresult : (recordObservation newV5 o s.tables).1 with
        | ok _ => exact absurd hresult haccepts
        | error e => exact ⟨e, rfl⟩
      simp only [meteringStep, if_neg haccepts, recordObservation_error he]
      exact h

theorem refusalUnchanged (s : MeteringRun) (call : MeteringCall) :
    RefusalUnchanged newV5 s call := by
  cases call with
  | ensureAuthority nowMs => trivial
  | recordObservation o =>
    intro hrefused
    cases hresult : (recordObservation newV5 o s.tables).1 with
    | ok _ => exact absurd hresult hrefused
    | error e => exact recordObservation_error hresult

theorem authorityAfter_of_between {authority : MeteringAuthority} {observedAtMs : Int}
    (h : observedAtMs ≤ authority.lastObservedAtMs) :
    authorityAfter (some authority) observedAtMs = authority := by
  simp [authorityAfter, max_eq_left h]

theorem resubmissionUnchanged_of_notANewTransition {call : MeteringCall}
    (h : RunInvariant s) (hguard : NotANewTransition newV5 s call) :
    ResubmissionUnchanged newV5 s call := by
  cases call with
  | ensureAuthority nowMs => trivial
  | recordObservation o =>
    intro hmem
    by_cases haccepts : Accepts newV5 s.tables o
    · obtain ⟨hstop, hstart⟩ := hguard hmem
      have hrecorded := recordObservation_ok haccepts
      obtain ⟨authority, hauthority, _, huntil⟩ := h.covered.between o hmem
      have hauthority' :
          (recordObservation newV5 o s.tables).2.authority = s.tables.authority := by
        rw [hrecorded.authority, hauthority, authorityAfter_of_between huntil]
      have hsame :
          (recordObservation newV5 o s.tables).2.intervals = s.tables.intervals ∧
            (recordObservation newV5 o s.tables).2.aggregates = s.tables.aggregates := by
        cases hrecorded.change with
        | idle _ _ hintervals haggregates => exact ⟨hintervals, haggregates⟩
        | repeated _ _ _ _ _ hintervals haggregates => exact ⟨hintervals, haggregates⟩
        | refreshed _ _ _ _ _ hintervals haggregates => exact ⟨hintervals, haggregates⟩
        | opened hopen hconsuming habsent hafter _ _ =>
          rcases hstart hconsuming hopen with hpresent | ⟨ended, hended, hlt⟩
          · exact absurd habsent hpresent
          · have hle := MeteringTables.maxEndedAt_le_iff.mpr hafter ended hended
            omega
        | closed row _ hopen hle hconsuming _ _ _ =>
          have hlt := hstop hconsuming row hopen
          omega
      exact MeteringTables.ext hauthority' hsame.1 hsame.2
    · exact refusalUnchanged s (.recordObservation o) haccepts

def Fresh (s : MeteringRun) : Prop :=
  s.tables.intervals = ∅ ∧ s.tables.aggregates = ∅ ∧ s.accepted = []

theorem RunInvariant.of_fresh (h : Fresh s) :
    RunInvariant s where
  ledger := Ledger.of_fresh h.1 h.2.1
  covered := by
    constructor
    · simp [h.2.2]
    · simp [h.2.2]

/-- Every state of every run is sound, and no refusal changes anything. -/
theorem always_ledgerSound (s : MeteringRun) (calls : List MeteringCall) (hfresh : Fresh s) :
    Always (meteringStep newV5) (fun s => LedgerSound s.tables) s calls :=
  Always.imp (P := RunInvariant) (fun _ h => h.ledger.sound)
    (always_of_invariant (fun _ call h => h.step call) s calls (RunInvariant.of_fresh hfresh))

/-- **The metering ledger**: when no observation submitted again reads as a new
transition, the ledger is sound in every state, and neither a refusal nor a
resubmission changes the store. -/
theorem metering_ledger_idempotent
    (newV5 : String → Uuid) (s : MeteringRun) (calls : List MeteringCall) (hfresh : Fresh s)
    (hguard : EachStep (meteringStep newV5) (NotANewTransition newV5) s calls) :
    Always (meteringStep newV5) (fun s => LedgerSound s.tables) s calls ∧
      EachStep (meteringStep newV5) (RefusalUnchanged newV5) s calls ∧
      EachStep (meteringStep newV5) (ResubmissionUnchanged newV5) s calls := by
  refine ⟨always_ledgerSound s calls hfresh, ?_, ?_⟩
  · exact eachStep_of_invariant (I := fun _ => True) (fun _ _ _ => trivial)
      (fun s call _ => refusalUnchanged s call) s calls trivial
  · exact eachStep_of_guarded (I := RunInvariant) (fun _ call h _ => h.step call)
      (fun _ _ h hC => resubmissionUnchanged_of_notANewTransition h hC) s calls
      (RunInvariant.of_fresh hfresh) hguard

/-- An instance observed to run, or not to run any more. -/
def instanceObservation (consuming : Bool) (observedAtMs : Int) : MeteringCall :=
  .recordObservation
    { series := ⟨"compute:instance_seconds", "project-a", "server-1"⟩
      quantity := if consuming then 1 else 0
      consuming := consuming
      observedAtMs := observedAtMs
      authority := "o3k-lifecycle" }

theorem metering_ledger_idempotent_of_repeated_stop :
    let calls :=
      [instanceObservation true 10, instanceObservation false 20, instanceObservation false 20]
    let s : MeteringRun := ⟨⟨none, ∅, ∅⟩, []⟩
    Always (meteringStep id) (fun s => LedgerSound s.tables) s calls ∧
      EachStep (meteringStep id) (RefusalUnchanged id) s calls ∧
      EachStep (meteringStep id) (ResubmissionUnchanged id) s calls :=
  metering_ledger_idempotent id ⟨⟨none, ∅, ∅⟩, []⟩
    [instanceObservation true 10, instanceObservation false 20, instanceObservation false 20]
    ⟨rfl, rfl, rfl⟩ (by decide)

/-- Stop, start again at the same instant, and submit the stop once more: the new
interval is closed. -/
theorem repeated_stop_closes_next_interval :
    ¬ ∀ (newV5 : String → Uuid) (s : MeteringRun) (calls : List MeteringCall),
      Fresh s →
        Always (meteringStep newV5) (fun s => LedgerSound s.tables) s calls ∧
          EachStep (meteringStep newV5) (RefusalUnchanged newV5) s calls ∧
          EachStep (meteringStep newV5) (ResubmissionUnchanged newV5) s calls := by
  intro hclaim
  have hrun :=
    (hclaim id ⟨⟨none, ∅, ∅⟩, []⟩
      [instanceObservation true 10, instanceObservation false 20,
        instanceObservation true 20, instanceObservation false 20]
      ⟨rfl, rfl, rfl⟩).2.2
  revert hrun
  decide

/-- An accepted observation keeps the meter running, unless the interval it asks
for has been opened and closed already. -/
theorem keepsRunning_iff {s : MeteringRun} {o : MeterObservation}
    (haccepts : Accepts newV5 s.tables o) :
    KeepsRunning newV5 s (.recordObservation o) ↔ OpensAnew newV5 s (.recordObservation o) := by
  refine (imp_iff_right haccepts).trans (imp_congr_right fun hstart => imp_congr_right fun _ => ?_)
  simp only [meteringStep]
  cases (recordObservation_ok haccepts).change with
  | idle _ hstop _ _ => cases hstop.symm.trans hstart
  | closed _ _ _ _ hstop _ _ _ => cases hstop.symm.trans hstart
  | repeated row hopen _ hget _ hintervals _ =>
    refine iff_of_false ?_ (fun h => by cases (h hopen).symm.trans hget)
    rintro ⟨row, hrow, hseries, hnone, _⟩
    rw [hintervals] at hrow
    exact MeteringTables.loadOpenInterval_eq_none_iff.mp hopen row hrow hseries hnone
  | opened hopen _ habsent _ hintervals _ =>
    refine iff_of_true ⟨openedBy newV5 o o.quantity, ?_, rfl, rfl, rfl, le_rfl⟩ (fun _ => habsent)
    rw [hintervals]
    exact (Table.mem_put _).mpr (Or.inl rfl)
  | refreshed row hopen hle _ hquantity hintervals _ =>
    obtain ⟨hrow, hseries, hnone⟩ := MeteringTables.of_loadOpenInterval hopen
    refine iff_of_true ⟨row, ?_, hseries, hnone, hquantity, hle⟩
      (fun h => by cases h.symm.trans hopen)
    rw [hintervals]
    exact hrow

/-- **The meter runs on** after every accepted consuming observation, when no
series that has stopped starts again under the id of a stored interval. -/
theorem consuming_keeps_meter_running
    (newV5 : String → Uuid) (s : MeteringRun) (calls : List MeteringCall)
    (hanew : EachStep (meteringStep newV5) (OpensAnew newV5) s calls) :
    EachStep (meteringStep newV5) (KeepsRunning newV5) s calls :=
  EachStep.imp
    (fun _ call h =>
      match call with
      | .recordObservation _ => fun haccepts => (keepsRunning_iff haccepts).mpr h haccepts
      | .ensureAuthority _ => trivial)
    hanew

theorem consuming_keeps_meter_running_of_later_start :
    EachStep (meteringStep id) (KeepsRunning id) ⟨⟨none, ∅, ∅⟩, []⟩
      [instanceObservation true 10, instanceObservation false 20, instanceObservation true 20] :=
  consuming_keeps_meter_running id ⟨⟨none, ∅, ∅⟩, []⟩ _ (by decide)

/-- A start, a stop and a start again, all at one instant: the last is taken for
the first, and nothing runs. -/
theorem restart_at_one_instant_stops_meter :
    ¬ EachStep (meteringStep id) (KeepsRunning id) ⟨⟨none, ∅, ∅⟩, []⟩
      [instanceObservation true 10, instanceObservation false 10, instanceObservation true 10] := by
  decide

end Metering
end O3k
