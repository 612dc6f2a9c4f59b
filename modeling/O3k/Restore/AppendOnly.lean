import O3k.Restore.Acceptance

/-!
# Publication only appends

Everything that an attempt does to the directory it does under the lock, so the
holder may rely on the journal and on the temporary files to stay as they are.
What it read under the lock is still stored when it renames, and the candidate
is that journal with one record more.
-/

namespace O3k
namespace Restore

open Semantics
open Program (Yields yields_mk_pure yields_pure yields_throw)

variable {Key Signature : Type} {P : Platform Key Signature}

section Appending

def Directory.stored (d : Directory) : Option Bytes := d.journal.map StoredFile.content

variable (P) in
def storedRecords : Option Bytes → Option (List SignedRecord)
  | none => some []
  | some bytes => (P.decodeJournal bytes).map Journal.records

variable (P) in
/-- `new` is `old` with one record more at its end. -/
def AppendsOne (old : Option Bytes) (new : Bytes) : Prop :=
  ∃ records record,
    storedRecords P old = some records ∧ storedRecords P (some new) = some (records ++ [record])

variable (P) in
/-- The stored journal is the same or has one record more. -/
def Appended (d d' : Directory) : Prop :=
  d'.stored = d.stored ∨ ∃ new, d'.stored = some new ∧ AppendsOne P d.stored new

theorem authenticateChain_sequence {bytes : Bytes} {authority : JournalAuthority Key} {now : Int}
    {out : AuthenticatedJournal} (h : authenticateChain P bytes authority now = .ok out) :
    ∃ journal, P.decodeJournal bytes = some journal ∧ out.sequence = journal.records.length := by
  unfold authenticateChain at h
  split at h
  · cases h
  · split at h
    · cases h
    · split at h
      · cases h
      · rename_i journal hdecode
        split at h
        · cases h
        · rename_i hshape
          split at h
          · cases h
          · simp only [Bool.or_eq_true, decide_eq_true_eq, not_or] at hshape
            split at h
            · cases h
            · cases h
            · rename_i last hash hloop
              obtain ⟨last', hlast, hsequence⟩ := authenticateRecords_last hloop hshape.1.2
              cases hlast
              cases h
              exact ⟨journal, hdecode, by simpa [authenticatedJournal] using hsequence⟩

theorem decodeCanonical_eq_ok {bytes : Bytes} {journal : Journal}
    (h : decodeCanonical P bytes = .ok journal) :
    P.decodeJournal bytes = some journal := by
  unfold decodeCanonical at h
  split at h
  · cases h
  · rename_i decoded hdecode
    split at h
    · cases h
    · cases h
      exact hdecode

theorem validateExactExtension_appendsOne {priorBytes candidateBytes : Bytes}
    {prior candidate : AuthenticatedJournal}
    (h : validateExactExtension P priorBytes candidateBytes prior candidate = .ok ()) :
    AppendsOne P (some priorBytes) candidateBytes := by
  unfold validateExactExtension at h
  cases hprior : decodeCanonical P priorBytes with
  | error e => simp [hprior, bind, Except.bind] at h
  | ok priorJournal =>
    cases hcandidate : decodeCanonical P candidateBytes with
    | error e => simp [hprior, hcandidate, bind, Except.bind] at h
    | ok candidateJournal =>
      simp only [hprior, hcandidate, bind, Except.bind] at h
      split at h
      · cases h
      · rename_i hextends
        simp only [Bool.or_eq_true, decide_eq_true_eq, not_or, not_not] at hextends
        obtain ⟨⟨_, hlength⟩, htake⟩ := hextends
        have hdrop :
            (candidateJournal.records.drop priorJournal.records.length).length = 1 := by
          rw [List.length_drop, hlength]
          omega
        obtain ⟨record, hrecord⟩ := List.length_eq_one_iff.mp hdrop
        refine ⟨priorJournal.records, record, ?_, ?_⟩
        · simp [storedRecords, decodeCanonical_eq_ok hprior]
        · have hsplit :=
            List.take_append_drop priorJournal.records.length candidateJournal.records
          rw [htake, hrecord] at hsplit
          simp [storedRecords, decodeCanonical_eq_ok hcandidate, hsplit]

theorem admitPublication_appendsOne {r : PublishRequest Key} {current : Option Bytes}
    (h : admitPublication P r = .ok current) :
    current = some r.candidate ∨ AppendsOne P current r.candidate := by
  unfold admitPublication at h
  cases hnext : authenticateChain P r.candidate r.authority r.now with
  | error e => simp [hnext, bind, Except.bind] at h
  | ok next =>
    simp only [hnext, bind, Except.bind] at h
    cases hprior : r.prior with
    | none =>
      simp only [hprior] at h
      split at h
      · rename_i hone
        cases h
        obtain ⟨journal, hdecode, hsequence⟩ := authenticateChain_sequence hnext
        obtain ⟨record, hrecord⟩ := List.length_eq_one_iff.mp (hsequence.symm.trans hone)
        exact Or.inr ⟨[], record, rfl, by simp [storedRecords, hdecode, hrecord]⟩
      · cases h
    | some bytes =>
      simp only [hprior] at h
      cases hcurrent : authenticateChain P bytes r.authority r.now with
      | error e => simp [hcurrent] at h
      | ok prior =>
        simp only [hcurrent] at h
        split at h
        · cases hextension : validateExactExtension P bytes r.candidate prior next with
          | error e => simp [hextension] at h
          | ok u =>
            simp only [hextension] at h
            cases h
            exact Or.inr (validateExactExtension_appendsOne hextension)
        · rename_i hsame
          cases h
          exact Or.inl (congrArg some (not_not.mp hsame).symm)

end Appending

section Locked

/-- While the lock is held the journal and the temporary files stay. -/
def LockRely (who : Nat) (d d' : Directory) : Prop :=
  d.lockHolder = some who → d'.lockHolder = some who ∧ d'.journal = d.journal ∧ d'.temps = d.temps

variable (P) in
/-- What an attempt owes at each of its calls: it changes files under the lock
only, and what it renames appends. -/
def PublishOwes (who : Nat) : PublishCall → Bool → Directory → Prop
  | .lockRequests caller, _, _ => caller = who
  | .unlockRequests caller, _, _ => caller = who
  | .createTemp _, _, d => d.lockHolder = some who
  | .fillTemp _ _, _, d => d.lockHolder = some who
  | .renameTemp pid, _, d =>
    d.lockHolder = some who ∧
      ∀ file, d.temps pid = some file →
        d.stored = some file.content ∨ AppendsOne P d.stored file.content
  | _, _, _ => True

theorem LockRely.refl (who : Nat) (d : Directory) : LockRely who d d :=
  fun h => ⟨h, rfl, rfl⟩

theorem LockRely.trans
    (who : Nat) (d₁ d₂ d₃ : Directory) (h : LockRely who d₁ d₂) (h' : LockRely who d₂ d₃) :
    LockRely who d₁ d₃ := by
  intro hheld
  obtain ⟨hheld, hjournal, htemps⟩ := h hheld
  obtain ⟨hheld, hjournal', htemps'⟩ := h' hheld
  exact ⟨hheld, hjournal'.trans hjournal, htemps'.trans htemps⟩

variable {d : Directory} {c : PublishCall} {goes : Bool}

theorem lockRely_execPublish {who other : Nat}
    (hne : other ≠ who) (howes : PublishOwes P who c goes d) :
    LockRely other d (execPublish c goes d).2 := by
  intro hheld
  have hnot : d.lockHolder ≠ some who := by
    rw [hheld]
    exact fun h => hne (Option.some.inj h)
  cases c with
  | lockRequests caller => simp [execPublish, hheld]
  | unlockRequests caller =>
    cases howes
    simp [execPublish, releaseLock, hheld, hne]
  | createTemp | fillTemp => exact absurd howes hnot
  | renameTemp => exact absurd howes.1 hnot
  | readJournal | lockDirectory | openAbsent | syncDirectory => exact ⟨hheld, rfl, rfl⟩

theorem lockRely_releaseLock {who other : Nat} (hne : other ≠ who) :
    LockRely other d (releaseLock who d) := by
  intro hheld
  simp [releaseLock, hheld, hne]

variable {who : Nat}

theorem appended_execPublish (howes : PublishOwes P who c goes d) :
    Appended P d (execPublish c goes d).2 := by
  cases c with
  | renameTemp pid =>
    simp only [execPublish]
    split
    · rename_i file hfile
      rcases howes.2 file hfile with hsame | hone
      · exact Or.inl hsame.symm
      · exact Or.inr ⟨file.content, rfl, hone⟩
    · exact Or.inl rfl
  | lockRequests | createTemp | fillTemp =>
    simp only [execPublish]
    split <;> exact Or.inl rfl
  | readJournal | lockDirectory | openAbsent | syncDirectory | unlockRequests => exact Or.inl rfl

/-- The lock is held, and the journal and the temporary files are so. -/
def Held (who : Nat) (φ : Option StoredFile → (Nat → Option StoredFile) → Prop)
    (d : Directory) : Prop :=
  d.lockHolder = some who ∧ φ d.journal d.temps

variable {φ : Option StoredFile → (Nat → Option StoredFile) → Prop}

theorem Held.stable {d d' : Directory} (h : Held who φ d) (hR : LockRely who d d') :
    Held who φ d' := by
  obtain ⟨hheld, hjournal, htemps⟩ := hR h.1
  refine ⟨hheld, ?_⟩
  rw [hjournal, htemps]
  exact h.2

variable (P) in
/-- An attempt among the others, as a program that may throw. -/
abbrev PublishYields (who : Nat) {α : Type} (Q : α → Directory → Prop) (p : PublishM α)
    (d : Directory) : Prop :=
  Yields execPublish (LockRely who) (fun _ => True) (fun _ _ _ => True)
    (PublishOwes P who) Q p d

/-- **One call under the lock**. -/
theorem yields_call {Q : PublishReply c → Directory → Prop} (hd : Held who φ d)
    (h :
      ∀ goes d', Held who φ d' →
        PublishOwes P who c goes d' ∧ Q (execPublish c goes d').1 (execPublish c goes d').2) :
    PublishYields P who Q (call c) d := by
  refine Program.yields_lift_perform ?_
  intro d' goes hR _ _
  obtain ⟨howes, hQ⟩ := h goes d' (hd.stable hR)
  exact ⟨howes, trivial, hQ⟩

theorem yields_look (hd : Held who φ d) (howes : ∀ goes d', PublishOwes P who c goes d')
    (hsame : ∀ goes d', (execPublish c goes d').2 = d') :
    PublishYields P who (fun _ => Held who φ) (call c) d := by
  refine yields_call hd ?_
  intro goes d' hd'
  refine ⟨howes goes d', ?_⟩
  rw [hsame goes d']
  exact hd'

theorem yields_safely {Q : Unit → Directory → Prop} (h : goes = true → Q () d) :
    PublishYields P who Q (safely goes) d := by
  unfold safely
  split
  · rename_i hgoes
    exact yields_pure (h hgoes)
  · exact yields_throw _ _

theorem yields_safely_held (hd : Held who φ d) :
    PublishYields P who (fun _ => Held who φ) (safely goes) d :=
  yields_safely (fun _ => hd)

theorem readBounded_eq_some {uid gid mode max : Nat} {file : Option StoredFile} {bytes : Bytes}
    (h : readBounded uid gid mode max file = some bytes) :
    file.map StoredFile.content = some bytes := by
  unfold readBounded at h
  split at h
  · cases h
  · split at h
    · exact h
    · cases h

/-- **The comparison** finds what was expected. -/
theorem yields_compareExpected {who gid : Nat} {expected : Option Bytes}
    (hd : Held who (fun _ _ => True) d) :
    PublishYields P who
      (fun _ => Held who (fun journal _ => journal.map StoredFile.content = expected))
      (compareExpected expected gid) d := by
  unfold compareExpected
  cases expected with
  | none =>
    refine Yields.bind (P := fun absent =>
      Held who (fun journal _ => absent = true → journal = none)) ?_ ?_
    · refine yields_call hd ?_
      intro goes d' hd'
      refine ⟨trivial, hd'.1, ?_⟩
      simp [execPublish]
    · intro absent d' hd'
      refine yields_safely ?_
      intro hgoes
      exact ⟨hd'.1, by rw [hd'.2 hgoes]; rfl⟩
  | some bytes =>
    refine Yields.bind (P := fun current =>
      Held who (fun journal _ =>
        current = some bytes → journal.map StoredFile.content = some bytes)) ?_ ?_
    · refine yields_call hd ?_
      intro goes d' hd'
      refine ⟨trivial, hd'.1, ?_⟩
      intro hcurrent
      cases goes with
      | false => cases hcurrent
      | true => exact readBounded_eq_some hcurrent
    · intro current d' hd'
      refine yields_safely ?_
      intro hgoes
      exact ⟨hd'.1, hd'.2 (of_decide_eq_true hgoes)⟩

/-- **The replacement** of what was expected. -/
theorem yields_atomicWriteInstaller {who pid : Nat} {expected : Option Bytes} {file : StoredFile}
    (happend : expected = some file.content ∨ AppendsOne P expected file.content)
    (hd : Held who (fun _ _ => True) d) :
    PublishYields P who (fun _ => Held who (fun _ _ => True))
      (atomicWriteInstaller pid expected file) d := by
  unfold atomicWriteInstaller
  refine Yields.bind (yields_look hd (fun _ _ => trivial) (fun _ _ => rfl)) ?_
  intro locked d hd
  refine Yields.bind (yields_safely_held hd) ?_
  intro _ d hd
  refine Yields.bind (yields_compareExpected hd) ?_
  intro _ d hd
  refine Yields.bind (P := fun _ =>
    Held who (fun journal _ => journal.map StoredFile.content = expected)) ?_ ?_
  · refine yields_call hd ?_
    intro goes d' hd'
    refine ⟨hd'.1, ?_⟩
    simp only [execPublish]
    split <;> exact hd'
  intro created d hd
  refine Yields.bind (yields_safely_held hd) ?_
  intro _ d hd
  refine Yields.bind (P := fun filled =>
    Held who (fun journal temps => journal.map StoredFile.content = expected ∧
      (filled = true → temps pid = some file))) ?_ ?_
  · refine yields_call hd ?_
    intro goes d' hd'
    refine ⟨hd'.1, ?_⟩
    cases goes with
    | false => exact ⟨hd'.1, hd'.2, fun h => by cases h⟩
    | true => exact ⟨hd'.1, hd'.2, fun _ => Function.update_self ..⟩
  intro filled d hd
  refine Yields.bind
    (yields_safely (Q := fun _ => Held who (fun journal temps =>
      journal.map StoredFile.content = expected ∧ temps pid = some file))
      (fun hfilled => ⟨hd.1, hd.2.1, hd.2.2 hfilled⟩)) ?_
  intro _ d hd
  refine Yields.bind (P := fun _ => Held who (fun _ _ => True)) ?_ ?_
  · refine yields_call hd ?_
    intro goes d' hd'
    obtain ⟨hheld, hstored, htemp⟩ := hd'
    refine ⟨⟨hheld, ?_⟩, ?_⟩
    · intro file' hfile'
      cases htemp.symm.trans hfile'
      rw [Directory.stored, hstored]
      exact happend
    · simp only [execPublish]
      split <;> exact ⟨hheld, trivial⟩
  intro renamed d hd
  refine Yields.bind (yields_safely_held hd) ?_
  intro _ d hd
  refine Yields.bind (yields_look hd (fun _ _ => trivial) (fun _ _ => rfl)) ?_
  intro synced d hd
  refine Yields.bind (yields_safely_held hd) ?_
  intro _ d hd
  refine Yields.bind (yields_look hd (fun _ _ => trivial) (fun _ _ => rfl)) ?_
  intro readback d hd
  exact yields_safely_held hd

theorem yields_publishLocked {r : PublishRequest Key} (hd : Held who (fun _ _ => True) d) :
    PublishYields P who (fun _ _ => True) (publishLocked P r) d := by
  unfold publishLocked
  refine Yields.bind
    (yields_mk_pure
      (P := fun current d => Held who (fun _ _ => True) d ∧
        (current = some r.candidate ∨ AppendsOne P current r.candidate))
      (fun _ h => ⟨hd, admitPublication_appendsOne h⟩)) ?_
  rintro current d ⟨hd, happend⟩
  refine Yields.bind (yields_look hd (fun _ _ => trivial) (fun _ _ => rfl)) ?_
  intro stored d hd
  split
  · exact yields_throw _ _
  · refine Yields.bind (yields_atomicWriteInstaller happend hd) ?_
    intro _ d hd
    refine Yields.bind (yields_look hd (fun _ _ => trivial) (fun _ _ => rfl)) ?_
    intro readback d _
    split
    · exact yields_throw _ _
    · refine Yields.bind (yields_mk_pure (P := fun _ _ => True) (fun _ _ => trivial)) ?_
      intro _ d _
      split
      · exact yields_throw _ _
      · exact yields_pure trivial

/-- **An attempt** among the others keeps to what it owes. -/
theorem survives_publishChain (who : Nat) (r : PublishRequest Key) (d : Directory) :
    (publishChain P who r).Survives execPublish (LockRely who) (fun _ => True)
      (fun _ _ _ => True) (PublishOwes P who) (fun _ _ => True) d := by
  unfold publishChain
  split
  · trivial
  · intro d' goes _ _ _
    refine ⟨rfl, trivial, ?_⟩
    by_cases hfree : goes ∧ d'.lockHolder = none
    · simp only [execPublish, if_pos hfree]
      have hheld : Held who (fun _ _ => True) { d' with lockHolder := some who } := ⟨rfl, trivial⟩
      have hrun := Program.Survives.bind (yields_publishLocked (P := P) (r := r) hheld)
        (f := fun result => do
          let _ ← Program.perform (PublishCall.unlockRequests who)
          pure result)
        (Q := fun _ _ => True)
        (fun _ _ _ _ _ _ _ _ => ⟨rfl, trivial, trivial⟩)
      exact hrun
    · simp only [execPublish, if_neg hfree]
      trivial

end Locked

/-- In every run of publications the stored journal only ever changes by one
record that is appended. -/
theorem publication_appends (d : Directory) (events : List (PublishEvent Key)) :
    EachStep (publishStep P) (fun w e => Appended P w.store (publishStep P w e).store)
      (Crowd.idle d) events := by
  have hsame : ∀ d : Directory, Appended P d d := fun _ => Or.inl rfl
  refine eachStep_of_guarded (C := fun _ _ => True)
    (I := Crowd.OnCourse execPublish LockRely (fun _ => True) (fun _ _ _ _ => True)
      (PublishOwes P) (fun _ _ _ => True)) ?_ ?_ _ _ (Crowd.onCourse_idle trivial) ?_
  · intro w e h _
    refine h.step (S := fun _ _ _ => True) (E := fun _ _ => True) LockRely.refl LockRely.trans
      (fun _ _ _ _ _ _ => trivial) ?_ ?_ ?_ ?_ ?_
    · exact fun who r d _ _ => survives_publishChain who r d
    · exact fun _ _ _ _ _ hne _ _ howes => lockRely_execPublish hne howes
    · exact fun _ _ _ => ⟨trivial, fun _ hne => lockRely_releaseLock hne⟩
    · exact fun e => by cases e
    · cases e <;> simp [Crowd.Within]
  · intro w e h _
    refine h.guarantee (S := fun _ _ _ => True) (E := fun _ _ => True) (N := Appended P)
      LockRely.refl hsame ?_ ?_ ?_ ?_
    · exact fun _ _ _ _ _ _ howes => appended_execPublish howes
    · exact fun _ _ _ => Or.inl rfl
    · exact fun e => by cases e
    · cases e <;> simp [Crowd.Within]
  · exact eachStep_of_forall (C := fun _ _ => True) (fun _ _ _ => trivial) _

end Restore
end O3k
