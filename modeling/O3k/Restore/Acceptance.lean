import O3k.Restore.Recognition
import O3k.Semantics.Crowd

/-!
# Acceptance

What the code relies on in the libraries: a canonical encoding is read back as
the journal it encodes, and it lists the encodings of the records in order,
between what comes before them and two closing brackets.
-/

namespace O3k
namespace Restore

variable {Key Signature : Type} {P : Platform Key Signature}
variable {authority : JournalAuthority Key} {now : Int}

/-- The bytes of a canonical array and object end. -/
def closing : Bytes := utf8 "]\x7d"

def comma : Bytes := utf8 ","

/-- JSON and canonical JSON behave as documented.  The members of an object
are sorted by name, so the records of a journal come last. -/
structure Platform.Lawful (P : Platform Key Signature) : Prop where
  decode_encode :
    ∀ journal bytes, P.encodeJournal journal = some bytes → P.decodeJournal bytes = some journal
  layout :
    ∀ format branch, ∃ opening : Bytes, ∀ records bytes,
      P.encodeJournal ⟨format, branch, records⟩ = some bytes
        ↔
      ∃ items : List Bytes, List.Forall₂ (fun r b => P.encodeRecord r = some b) records items ∧
        bytes = opening ++ comma.intercalate items ++ closing

section Accepting

theorem Platform.Lawful.encodeRecord
    (hP : P.Lawful) {journal : Journal} {bytes : Bytes} (h : P.encodeJournal journal = some bytes) :
    ∀ record ∈ journal.records, ∃ item, P.encodeRecord record = some item := by
  obtain ⟨opening, hlayout⟩ := hP.layout journal.format journal.branch
  obtain ⟨items, hitems, hbytes⟩ := (hlayout journal.records bytes).mp h
  generalize journal.records = records at hitems
  clear hlayout h hbytes
  induction hitems with
  | nil => simp
  | cons hitem _ ih => exact List.forall_mem_cons.mpr ⟨⟨_, hitem⟩, ih⟩

/-- **Acceptance**: the code accepts what does not contain the format of the
first version and encodes a chain whose nonces differ as texts. -/
theorem authenticateChain_isOk_iff (hP : P.Lawful) {bytes : Bytes} :
    (∃ out, authenticateChain P bytes authority now = .ok out) ↔
    ¬ v1Format <:+: bytes ∧ ∃ journal, EncodesChain P id authority now bytes journal := by
  constructor
  · rintro ⟨out, h⟩
    unfold authenticateChain at h
    split at h
    · cases h
    · rename_i hsize
      split at h
      · cases h
      · rename_i hlegacy
        split at h
        · cases h
        · rename_i journal hdecode
          split at h
          · cases h
          · rename_i hshape
            split at h
            · cases h
            · rename_i hencode
              simp only [Bool.or_eq_true, decide_eq_true_eq, not_or, not_not,
                Nat.not_lt] at hshape hencode hsize
              refine ⟨hlegacy, journal, hencode, hsize, hshape.1.1.1, hshape.1.1.2,
                List.length_pos_iff.mpr hshape.1.2, hshape.2, ?_⟩
              cases hloop :
                  authenticateRecords P authority now 0 none "" [] [] journal.records with
              | error e =>
                rw [hloop] at h
                cases h
              | ok last =>
                obtain ⟨hjoined, hids, _, hnonces, _⟩ :=
                  authenticateRecords_isOk_iff.mp ⟨last, hloop⟩
                exact ⟨(joined_iff_chained (hP.encodeRecord hencode)).mp ⟨hjoined, hids⟩, hnonces⟩
  · rintro ⟨hlegacy, journal, hencode, hsize, hformat, hbranch, hpos, hcount, hchained, hnonces⟩
    have hne : journal.records ≠ [] := List.length_pos_iff.mp hpos
    obtain ⟨hjoined, hids⟩ := (joined_iff_chained (hP.encodeRecord hencode)).mpr hchained
    have hloop :
        ∃ out, authenticateRecords P authority now 0 none "" [] [] journal.records = .ok out :=
      authenticateRecords_isOk_iff.mpr ⟨hjoined, hids, by simp, hnonces, by simp⟩
    obtain ⟨out, hloop⟩ := hloop
    obtain ⟨last, hlast, _⟩ := authenticateRecords_last hloop hne
    obtain ⟨first, hash⟩ := out
    cases hlast
    refine ⟨authenticatedJournal last hash (P.digest bytes), ?_⟩
    simp [authenticateChain, Nat.not_lt.mpr hsize, hlegacy, hP.decode_encode _ _ hencode, hformat,
      hbranch, hne, Nat.not_lt.mpr hcount, hencode, hloop]

end Accepting

section Nonces

/-- Nonces that differ as values differ as texts and are spelled alike where
they are equal, and the other way round. -/
theorem encodesChain_nonceValue_iff {bytes : Bytes} {journal : Journal} :
    EncodesChain P nonceValue authority now bytes journal ↔
    EncodesChain P id authority now bytes journal ∧ SpelledAlike journal := by
  have hmap :
      journal.records.map (fun record => nonceValue record.request.requestNonce) =
        (journal.records.map (fun record => record.request.requestNonce)).map nonceValue := by
    simp
  have hnonces :
      (journal.records.map (fun record => nonceValue record.request.requestNonce)).Nodup
        ↔
      (journal.records.map (fun record => record.request.requestNonce)).Nodup ∧
        SpelledAlike journal := by
    rw [hmap]
    constructor
    · intro h
      refine ⟨h.of_map _, ?_⟩
      intro a ha b hb hvalue
      exact List.inj_on_of_nodup_map h (List.mem_map_of_mem ha) (List.mem_map_of_mem hb) hvalue
    · rintro ⟨htexts, halike⟩
      refine List.Nodup.map_on ?_ htexts
      intro x hx y hy hvalue
      obtain ⟨a, ha, rfl⟩ := List.mem_map.mp hx
      obtain ⟨b, hb, rfl⟩ := List.mem_map.mp hy
      exact halike a ha b hb hvalue
  simp only [EncodesChain, hnonces, id]
  constructor
  · rintro ⟨h1, h2, h3, h4, h5, h6, h7, h8, h9⟩
    exact ⟨⟨h1, h2, h3, h4, h5, h6, h7, h8⟩, h9⟩
  · rintro ⟨⟨h1, h2, h3, h4, h5, h6, h7, h8⟩, h9⟩
    exact ⟨h1, h2, h3, h4, h5, h6, h7, h8, h9⟩

theorem EncodesChain.unique (hP : P.Lawful)
    {Nonce Nonce' : Type} {read : String → Nonce} {read' : String → Nonce'} {bytes : Bytes}
    {journal journal' : Journal} (h : EncodesChain P read authority now bytes journal)
    (h' : EncodesChain P read' authority now bytes journal') :
    journal = journal' := by
  have hdecode := hP.decode_encode _ _ h.1
  rw [hP.decode_encode _ _ h'.1] at hdecode
  exact (Option.some.inj hdecode).symm

variable (P authority now) in
/-- Where text is all that tells two journals apart: of what encodes a chain
whose nonces differ as texts, the bytes contain the format of the first version
exactly when a nonce is spelled in two ways. -/
def TextDecides (bytes : Bytes) : Prop :=
  ∀ journal, EncodesChain P id authority now bytes journal →
    (¬ v1Format <:+: bytes ↔ SpelledAlike journal)

/-- **Exactness**: the code accepts exactly the authentic journals where text
decides, and only there. -/
theorem exact_iff_textDecides (hP : P.Lawful) (bytes : Bytes) :
    ((∃ out, authenticateChain P bytes authority now = .ok out) ↔
        Authentic P authority now bytes) ↔ TextDecides P authority now bytes := by
  have hauthentic :
      Authentic P authority now bytes
        ↔
      ∃ journal, EncodesChain P id authority now bytes journal ∧ SpelledAlike journal :=
    exists_congr fun _ => encodesChain_nonceValue_iff
  rw [authenticateChain_isOk_iff hP, hauthentic]
  constructor
  · intro hexact journal hjournal
    constructor
    · intro hlegacy
      obtain ⟨journal', hjournal', halike⟩ := hexact.mp ⟨hlegacy, journal, hjournal⟩
      rwa [hjournal.unique hP hjournal']
    · intro halike
      exact (hexact.mpr ⟨journal, hjournal, halike⟩).1
  · intro hdecides
    constructor
    · rintro ⟨hlegacy, journal, hjournal⟩
      exact ⟨journal, hjournal, (hdecides journal hjournal).mp hlegacy⟩
    · rintro ⟨journal, hjournal, halike⟩
      exact ⟨(hdecides journal hjournal).mpr halike, journal, hjournal⟩

end Nonces

section Prefixes

theorem infix_of_infix_append {needle a b : Bytes}
    (hne : needle ≠ []) (hfree : ∀ x ∈ b, x ∉ needle) (h : needle <:+: a ++ b) :
    needle <:+: a := by
  induction b using List.reverseRecOn with
  | nil => simpa using h
  | append_singleton b x ih =>
    refine ih (fun y hy => hfree y (by simp [hy])) ?_
    rw [← List.append_assoc, List.infix_concat_iff] at h
    rcases h with hsuffix | hinfix
    · obtain ⟨front, heq⟩ := hsuffix
      have hlast : needle.getLast hne = x := by
        have h := congrArg List.getLast? heq
        rw [List.getLast?_append_of_ne_nil _ hne, List.getLast?_concat,
          List.getLast?_eq_some_getLast hne] at h
        exact Option.some.inj h
      exact absurd (hlast ▸ List.getLast_mem hne) (hfree x (by simp))
    · exact hinfix

theorem intercalate_take_isPrefix (separator : Bytes) (items : List Bytes) (k : Nat) :
    separator.intercalate (items.take k) <+: separator.intercalate items := by
  induction items generalizing k with
  | nil => simp
  | cons item rest ih =>
    cases k with
    | zero => simp
    | succ k =>
      cases rest with
      | nil => simp
      | cons next rest =>
        cases k with
        | zero => simp [List.intercalate_cons_cons]
        | succ k =>
          obtain ⟨tail, htail⟩ := ih (k + 1)
          refine ⟨tail, ?_⟩
          rw [List.intercalate_cons_cons, ← htail]
          simp [List.intercalate_cons_cons, List.append_assoc]

/-- A nonempty beginning of an accepted journal, encoded again, is accepted. -/
theorem authenticateChain_take (hP : P.Lawful) {bytes : Bytes} {out : AuthenticatedJournal}
    (h : authenticateChain P bytes authority now = .ok out) {journal : Journal}
    (hjournal : P.decodeJournal bytes = some journal) {k : Nat} (hk : 1 ≤ k)
    (hle : k ≤ journal.records.length) :
    ∃ bytes' out',
      P.encodeJournal { journal with records := journal.records.take k } = some bytes' ∧
        authenticateChain P bytes' authority now = .ok out' := by
  obtain ⟨hlegacy, journal', hencode, hsize, hformat, hbranch, hpos, hcount, hchained, hnonces⟩ :=
    (authenticateChain_isOk_iff hP).mp ⟨out, h⟩
  cases (hP.decode_encode _ _ hencode).symm.trans hjournal
  obtain ⟨opening, hlayout⟩ := hP.layout journal.format journal.branch
  obtain ⟨items, hitems, hbytes⟩ := (hlayout journal.records bytes).mp hencode
  have hbegin := intercalate_take_isPrefix comma items k
  have hencode' :
      P.encodeJournal { journal with records := journal.records.take k } =
        some (opening ++ comma.intercalate (items.take k) ++ closing) :=
    (hlayout _ _).mpr ⟨items.take k, List.forall₂_take k hitems, rfl⟩
  obtain ⟨tail, htail⟩ := hbegin
  have hlength :
      (opening ++ comma.intercalate (items.take k) ++ closing).length ≤ maxJournalBytes := by
    refine le_trans ?_ hsize
    rw [hbytes, ← htail]
    simp only [List.length_append]
    omega
  have hlegacy' : ¬ v1Format <:+: opening ++ comma.intercalate (items.take k) ++ closing := by
    intro hinfix
    refine hlegacy ?_
    have hinner := infix_of_infix_append (by decide) (by decide +kernel) hinfix
    rw [hbytes, ← htail]
    refine hinner.trans ⟨[], tail ++ closing, ?_⟩
    simp [List.append_assoc]
  obtain ⟨hjoined, hids⟩ := (joined_iff_chained (hP.encodeRecord hencode)).mpr hchained
  have htake : journal.records.take k <+: journal.records := List.take_prefix k _
  obtain ⟨rest, hrest⟩ := htake
  have hchained' : Chained P authority now (journal.records.take k) := by
    refine (joined_iff_chained (hP.encodeRecord hencode')).mp ⟨?_, ?_⟩
    · rw [← hrest] at hjoined
      exact hjoined.of_append
    · exact hids.sublist ((List.take_sublist k _).map _)
  obtain ⟨out', hout'⟩ := (authenticateChain_isOk_iff hP).mpr
    ⟨hlegacy', { journal with records := journal.records.take k }, hencode', hlength, hformat,
      hbranch, by simp; omega, by simp; omega, hchained',
      hnonces.sublist ((List.take_sublist k _).map _)⟩
  exact ⟨_, out', hencode', hout'⟩

end Prefixes

end Restore
end O3k

/-!
# Publication of a journal

`publish_chain` reads what is stored and replaces it by a renamed temporary
file, under an exclusive lock that the kernel gives back when the process ends.
-/

namespace O3k
namespace Restore

open Semantics

/-- A regular file with one name. -/
structure StoredFile where
  content : Bytes
  uid : Nat
  gid : Nat
  mode : Nat
  deriving DecidableEq

structure Directory where
  /-- `restore-journal-v2.json`. -/
  journal : Option StoredFile
  /-- `.restore-journal-v2.json.tmp-<pid>`. -/
  temps : Nat → Option StoredFile
  /-- The attempt that holds the lock of `restore-signing-request.lock`. -/
  lockHolder : Option Nat

/-- The system calls of an attempt, grouped where nobody else can tell: the
checks of a descriptor with the read of it, the owner and the mode of a new file
with its content. -/
inductive PublishCall
  | lockRequests (who : Nat)
  | readJournal (uid gid mode max : Nat)
  | lockDirectory
  | openAbsent
  | createTemp (pid : Nat)
  | fillTemp (pid : Nat) (file : StoredFile)
  | renameTemp (pid : Nat)
  | syncDirectory
  | unlockRequests (who : Nat)

abbrev PublishReply : PublishCall → Type
  | .readJournal _ _ _ _ => Option Bytes
  | .unlockRequests _ => Unit
  | _ => Bool

def readBounded (uid gid mode max : Nat) :
    Option StoredFile → Option Bytes
  | none => none
  | some file =>
    if file.uid = uid ∧ file.gid = gid ∧ file.mode = mode ∧ file.content.length ≤ max then
      some file.content
    else
      none

def releaseLock (who : Nat) (d : Directory) : Directory :=
  { d with lockHolder := if d.lockHolder = some who then none else d.lockHolder }

/-- What a call does when the system lets it through (`goes`) or not. -/
def execPublish : (c : PublishCall) → Bool → Directory → PublishReply c × Directory
  | .lockRequests who, goes, d =>
    if goes ∧ d.lockHolder = none then (true, { d with lockHolder := some who }) else (false, d)
  | .readJournal uid gid mode max, goes, d =>
    (if goes then readBounded uid gid mode max d.journal else none, d)
  | .lockDirectory, goes, d => (goes, d)
  | .openAbsent, goes, d => (goes && d.journal.isNone, d)
  | .createTemp pid, goes, d =>
    if goes ∧ d.temps pid = none then
      (true, { d with temps := Function.update d.temps pid (some ⟨[], 0, 0, 0o640⟩) })
    else
      (false, d)
  | .fillTemp pid file, goes, d =>
    if goes then
      (true, { d with temps := Function.update d.temps pid (some file) })
    else
      (false, d)
  | .renameTemp pid, goes, d =>
    match goes, d.temps pid with
    | true, some file =>
      (true, { d with journal := some file, temps := Function.update d.temps pid none })
    | _, _ => (false, d)
  | .syncDirectory, goes, d => (goes, d)
  | .unlockRequests who, _, d => ((), releaseLock who d)

section Code

variable {Key Signature : Type} (P : Platform Key Signature)

/-- The arguments of `publish_chain` and the process that calls it. -/
structure PublishRequest (Key : Type) where
  pid : Nat
  name : String
  prior : Option Bytes
  candidate : Bytes
  authority : JournalAuthority Key
  now : Int
  uid : Nat
  gid : Nat

def decodeCanonical (bytes : Bytes) : Except JournalError Journal :=
  match P.decodeJournal bytes with
  | none => .error .invalidFormat
  | some journal =>
    if P.encodeJournal journal ≠ some bytes then .error .invalidFormat else .ok journal

def validateExactExtension
    (priorBytes candidateBytes : Bytes) (prior candidate : AuthenticatedJournal) :
    Except JournalError Unit := do
  let priorJournal ← decodeCanonical P priorBytes
  let candidateJournal ← decodeCanonical P candidateBytes
  if candidate.sequence ≠ saturatingSucc prior.sequence ||
      candidate.operationId ≠ prior.operationId ||
      candidateJournal.records.length ≠ priorJournal.records.length + 1 ||
      candidateJournal.records.take priorJournal.records.length ≠ priorJournal.records then
    throw .replayOrFork

/-- What has to be stored for the candidate to be published. -/
def admitPublication (r : PublishRequest Key) : Except JournalError (Option Bytes) := do
  let next ← authenticateChain P r.candidate r.authority r.now
  match r.prior with
  | some bytes =>
    let current ← authenticateChain P bytes r.authority r.now
    if r.candidate ≠ bytes then
      validateExactExtension P bytes r.candidate current next
    pure (some bytes)
  | none => if next.sequence = 1 then pure none else throw .invalidSequence

abbrev PublishM (α : Type) : Type := ExceptT JournalError (Program PublishCall PublishReply) α

def call (c : PublishCall) : PublishM (PublishReply c) := ExceptT.lift (Program.perform c)

/-- `map_err(|_| JournalError::UnsafeStorage)?`. -/
def safely (goes : Bool) : PublishM Unit := if goes then pure () else throw .unsafeStorage

/-- The comparison of `atomic_write_checked`, which looks for a file of root
that its group may read. -/
def compareExpected (expected : Option Bytes) (gid : Nat) : PublishM Unit := do
  match expected with
  | some bytes =>
    let current ← call (.readJournal 0 gid 0o640 bytes.length)
    safely (current = some bytes)
  | none =>
    let absent ← call .openAbsent
    safely absent

def atomicWriteInstaller (pid : Nat) (expected : Option Bytes) (file : StoredFile) :
    PublishM Unit := do
  let locked ← call .lockDirectory
  safely locked
  compareExpected expected file.gid
  let created ← call (.createTemp pid)
  safely created
  let filled ← call (.fillTemp pid file)
  safely filled
  let renamed ← call (.renameTemp pid)
  safely renamed
  let synced ← call .syncDirectory
  safely synced
  let readback ← call (.readJournal file.uid file.gid file.mode file.content.length)
  safely (readback = some file.content)

def publishLocked (r : PublishRequest Key) : PublishM Bytes := do
  let current ← ExceptT.mk (pure (admitPublication P r))
  let stored ← call (.readJournal r.uid r.gid 0o600 maxJournalBytes)
  if stored ≠ current then
    throw .replayOrFork
  atomicWriteInstaller r.pid current ⟨r.candidate, r.uid, r.gid, 0o600⟩
  let readback ← call (.readJournal r.uid r.gid 0o600 maxJournalBytes)
  match readback with
  | none => throw .unsafeStorage
  | some bytes =>
    let _ ← ExceptT.mk (pure (authenticateChain P bytes r.authority r.now))
    if bytes ≠ r.candidate then
      throw .unsafeStorage
    pure bytes

/-- `publish_chain` as the attempt `who`.  The lock goes when the attempt ends. -/
def publishChain (who : Nat) (r : PublishRequest Key) :
    Program PublishCall PublishReply (Except JournalError Bytes) := do
  if r.name ≠ "restore-journal-v2.json" then
    pure (.error .unsafeStorage)
  else
    let locked : Bool ← Program.perform (PublishCall.lockRequests who)
    if locked then
      let result ← (publishLocked P r).run
      let _ ← Program.perform (PublishCall.unlockRequests who)
      pure result
    else
      pure (.error .unsafeStorage)

abbrev Publishers : Type := Crowd Directory Nat PublishCall PublishReply (Except JournalError Bytes)

abbrev PublishEvent (Key : Type) : Type := CrowdEvent Nat (PublishRequest Key) Bool Empty

/-- Any number of processes publish, each as an attempt of its own. -/
def publishStep (w : Publishers) (e : PublishEvent Key) : Publishers :=
  w.step execPublish (publishChain P) releaseLock (fun e _ => nomatch e) e

end Code

end Restore
end O3k
