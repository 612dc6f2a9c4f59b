import O3k.ConfigDrive.Materialized

/-!
# Crashes between two file operations

A crash leaves the root as the operations before it made it; opening the store
again removes the temporaries whose names it recognises.  The safe points of a
script are those where this leads back to a root from which the interrupted
call succeeds.
-/

namespace O3k
namespace ConfigDrive

open Semantics
open Function (update update_of_ne update_self)

/-- The names whose entries an operation may change. -/
def FileOp.touched : FileOp → List String
  | .createDir name => [name]
  | .createSubdir name _ => [name]
  | .write name _ _ => [name]
  | .writeManifest name _ => [name]
  | .buildIso _ output => [output]
  | .writeFile name _ => [name]
  | .rename source target => [source, target]
  | .removeFile name => [name]
  | .removeEntry name _ => [name]
  | .removeDir name => [name]

variable {root : Root} {name : String}

theorem onDirectory_of_ne {other : String} (h : other ≠ name) (f : Directory → Directory) :
    root.onDirectory name f other = root other := by
  cases hname : root name with
  | none => simp [Root.onDirectory, hname]
  | some node => cases node <;> simp [Root.onDirectory, hname, h]

theorem apply_of_not_touched {op : FileOp} (h : name ∉ op.touched) :
    op.apply root name = root name := by
  cases op <;> simp only [FileOp.touched, List.mem_cons, List.not_mem_nil, or_false, not_or] at h
  case rename source target =>
    cases hsource : root source with
    | none => simp [FileOp.apply, hsource]
    | some node => rw [rename_of_some hsource, update_of_ne h.2, update_of_ne h.1]
  case buildIso source output =>
    cases hsource : root source with
    | none => simp [FileOp.apply, hsource]
    | some node => cases node <;> simp [FileOp.apply, hsource, h]
  case removeDir =>
    simp only [FileOp.apply]
    split_ifs
    · exact update_of_ne h _ _
    · rfl
  case createDir => exact update_of_ne h _ _
  case writeFile => exact update_of_ne h _ _
  case removeFile => exact update_of_ne h _ _
  all_goals exact onDirectory_of_ne h _

/-- A script leaves alone what none of its operations touches. -/
theorem play_of_not_touched {script : List FileOp} (h : ∀ op ∈ script, name ∉ op.touched) :
    play root script name = root name := by
  induction script generalizing root with
  | nil => rfl
  | cons op rest ih =>
    rw [play_cons, ih (fun op hop => h op (List.mem_cons_of_mem _ hop))]
    exact apply_of_not_touched (h op List.mem_cons_self)

theorem touched_preparation {temporary instanceId : String} {c : Contents} {op : FileOp}
    (h : op ∈ preparation temporary instanceId c) :
    op.touched = [temporary] := by
  simp only [preparation, List.mem_append, List.mem_cons, List.not_mem_nil, or_false,
    List.mem_map] at h
  rcases h with ((rfl | rfl | rfl | rfl | rfl | rfl) | ⟨_, _, rfl⟩) | rfl <;> rfl

theorem touched_removal {host : Host} {op : FileOp} (h : op ∈ removal host root name) :
    op.touched = [name] := by
  unfold removal at h
  split at h
  · simp only [List.mem_append, List.mem_map, List.mem_singleton] at h
    rcases h with ⟨_, _, rfl⟩ | rfl <;> rfl
  · rw [List.mem_singleton.mp h]
    rfl
  · exact absurd h List.not_mem_nil

section Reap

variable {host : Host} {root : Root} {name : String}

theorem reap_of_not_hidden (h : isHidden name = false) : reap host root name = root name := by
  unfold reap
  rw [if_neg]
  intro htemporary
  cases h.symm.trans (isHidden_of_isPublicationTemporaryName htemporary)

theorem reap_eq_some {node : Node} (h : reap host root name = some node) :
    isPublicationTemporaryName host.isUuid name = false ∧ root name = some node := by
  unfold reap at h
  split_ifs at h with htemporary
  exact ⟨by simpa using htemporary, h⟩

end Reap

def Call.instanceId : Call → String
  | .generate input => input.instanceId
  | .materializeIso source _ => source
  | .cleanup instanceId => instanceId

theorem isPublicationTemporaryName_of_mem {host : Host} {token : String}
    (htoken : host.isUuid token = true) {call : Call} (hid : host.isUuid call.instanceId = true)
    (hname : name ∈ call.temporaries token) :
    isPublicationTemporaryName host.isUuid name = true := by
  have hknown := isPublicationTemporaryName_hidden token host.isUuid_chars hid htoken
  cases call <;>
    simp only [Call.temporaries, List.mem_cons, List.not_mem_nil, or_false, Call.instanceId]
      at hname hknown
  · rcases hname with rfl | rfl
    · simpa [temporaryName] using hknown "" "-tmp-" (by simp) (by simp)
    · simpa [backupName] using hknown "" "-old-" (by simp) (by simp)
  · rcases hname with rfl | rfl | rfl | rfl
    · exact hknown ".iso" "-tmp-" (by simp) (by simp)
    · exact hknown ".iso-manifest" "-tmp-" (by simp) (by simp)
    · exact hknown ".iso" "-old-" (by simp) (by simp)
    · exact hknown ".iso-manifest" "-old-" (by simp) (by simp)

def Call.changes : Call → List String
  | .generate input => [input.instanceId]
  | .materializeIso _ output => [output, isoManifestName output]
  | .cleanup instanceId => [instanceId, isoName instanceId, isoManifestName (isoName instanceId)]

section Touched

variable {host : Host} {token : String} {root : Root}

theorem touched_building {source output : String} {print : Sha256 Bytes} {d : Directory}
    {op : FileOp} (h : op ∈ building token source output print d) :
    ∀ name ∈ op.touched, name ∈ (Call.materializeIso source output).temporaries token := by
  simp only [building, List.mem_cons, List.not_mem_nil, or_false] at h
  rcases h with rfl | rfl <;> simp [FileOp.touched, Call.temporaries]

theorem touched_publication {source output : String} {hadPrevious : Bool} {op : FileOp}
    (h : op ∈ publication token source output hadPrevious) :
    ∀ name ∈ op.touched,
      name ∈ (Call.materializeIso source output).temporaries token ∨
        name ∈ (Call.materializeIso source output).changes := by
  cases hadPrevious <;>
    simp only [publication, if_true, Bool.false_eq_true, if_false, List.mem_append, List.mem_cons,
      List.not_mem_nil, or_false, List.nil_append, List.append_nil] at h
  · rcases h with rfl | rfl <;> simp [FileOp.touched, Call.temporaries, Call.changes]
  · rcases h with ((rfl | rfl) | rfl | rfl) | rfl | rfl <;>
      simp [FileOp.touched, Call.temporaries, Call.changes]

theorem touched_script {call : Call} (hfresh : Fresh token root call) {op : FileOp}
    (hop : op ∈ (call.outcome host token root).script) :
    ∀ name ∈ op.touched, name ∈ call.temporaries token ∨ name ∈ call.changes := by
  cases call with
  | generate input =>
    have hspec : Generates host token root input (generate host token root input) :=
      generate_spec hfresh
    have hop : op ∈ (generate host token root input).script := hop
    generalize generate host token root input = o at hspec hop
    intro name hname
    have htemporary : op.touched = [temporaryName input.instanceId token] →
        name ∈ (Call.generate input).temporaries token := by
      intro htouched
      rw [htouched, List.mem_singleton] at hname
      simp [Call.temporaries, hname]
    have hbackup : op.touched = [backupName input.instanceId token] →
        name ∈ (Call.generate input).temporaries token := by
      intro htouched
      rw [htouched, List.mem_singleton] at hname
      simp [Call.temporaries, hname]
    cases hspec with
    | refused => exact absurd hop List.not_mem_nil
    | created hvalid habsent =>
      rcases List.mem_append.mp hop with hop | hop
      · exact Or.inl (htemporary (touched_preparation hop))
      · rw [List.mem_singleton.mp hop] at hname
        rcases List.mem_pair.mp hname with rfl | rfl <;> simp [Call.temporaries, Call.changes]
    | replaced hvalid old hold =>
      rcases List.mem_append.mp hop with hop | hop
      · rcases List.mem_append.mp hop with hop | hop
        · exact Or.inl (htemporary (touched_preparation hop))
        · rcases List.mem_pair.mp hop with rfl | rfl <;>
            rcases List.mem_pair.mp hname with rfl | rfl <;>
            simp [Call.temporaries, Call.changes]
      · exact Or.inl (hbackup (touched_removal hop))
    | unowned hvalid hpresent e hunowned =>
      rcases List.mem_append.mp hop with hop | hop
      · exact Or.inl (htemporary (touched_preparation hop))
      · exact Or.inl (htemporary (touched_removal hop))
  | materializeIso source output =>
    have hspec := materializeIso_spec hfresh.apart
    have hop : op ∈ (materializeIso token root source output).script := hop
    generalize materializeIso token root source output = o at hspec hop
    intro name hname
    cases hspec with
    | refused => exact absurd hop List.not_mem_nil
    | cached => exact absurd hop List.not_mem_nil
    | published =>
      rcases List.mem_append.mp hop with hop | hop
      · exact Or.inl (touched_building hop name hname)
      · exact touched_publication hop name hname
  | cleanup instanceId =>
    have hop : op ∈ (cleanup host root instanceId).script := hop
    intro name hname
    right
    unfold cleanup at hop
    split_ifs at hop
    · exact absurd hop List.not_mem_nil
    · cases hchecks : cleanupChecks host root instanceId with
      | error e =>
        rw [hchecks] at hop
        exact absurd hop List.not_mem_nil
      | ok =>
        rw [hchecks] at hop
        rcases List.mem_append.mp hop with hop | hop
        · rw [touched_removal hop, List.mem_singleton] at hname
          simp [Call.changes, hname]
        · split_ifs at hop
          · rcases List.mem_pair.mp hop with rfl | rfl <;>
              simp_all [FileOp.touched, Call.changes]
          · rw [List.mem_singleton.mp hop] at hname
            simp_all [FileOp.touched, Call.changes]
          · exact absurd hop List.not_mem_nil

theorem play_take_of_hidden {call : Call}
    (hfresh : Fresh token root call) (hchanges : ∀ name ∈ call.changes, isHidden name = false)
    {name : String} (hhidden : isHidden name = true) (hname : name ∉ call.temporaries token)
    (n : Nat) :
    play root ((call.outcome host token root).script.take n) name = root name := by
  refine play_of_not_touched fun op hop hmem => ?_
  rcases touched_script hfresh (List.mem_of_mem_take hop) name hmem with htemporary | hchange
  · exact hname htemporary
  · cases hhidden.symm.trans (hchanges name hchange)

end Touched

/-- The crash falls between the two renames of a directory, between those of an
image and its manifest, or inside the removal of a directory. A directory
without its empty vendor data still is what its manifest says. -/
def InGap (token : String) (root : Root) (call : Call) (script : List FileOp) (n : Nat)
    (pending : FileOp) :
    Prop :=
  match call with
  | .generate input =>
    pending = .rename (temporaryName input.instanceId token) input.instanceId ∧
      root input.instanceId ≠ none
  | .materializeIso source output =>
    pending = .rename (isoManifestName output) (manifestBackupName source token) ∨
      pending = .rename (manifestTemporaryName source token) (isoManifestName output)
  | .cleanup instanceId =>
    ((∃ entry, pending = .removeEntry instanceId entry) ∨ pending = .removeDir instanceId) ∧
      n ≠ 0 ∧
      ¬ (n = 1 ∧ script.head? = some (.removeEntry instanceId .vendorData) ∧
        ∃ c, root instanceId = some (.directory (layout instanceId c)) ∧
          c.vendorData = some [])

/-- An operation that puts no content anywhere. -/
def FileOp.bare : FileOp → Bool
  | .createDir _ => true
  | .createSubdir _ _ => true
  | _ => false

/-- An operation that takes no content away; the manifest of an image is none. -/
def FileOp.sparing (manifestBackup : String) : FileOp → Bool
  | .removeDir _ => true
  | .removeEntry _ entry => entry ∈ [.manifest, .openstack, .latest]
  | .removeFile name => name = manifestBackup
  | _ => false

/-- A point of a script from which the interrupted call recovers: not in a gap,
and with nothing secret under a name that the restart does not recognise. -/
structure SafePoint (host : Host) (token : String) (root : Root) (call : Call) (n : Nat) :
    Prop where
  gap :
    ∀ pending, (call.outcome host token root).script[n]? = some pending →
      ¬ InGap token root call (call.outcome host token root).script n pending
  traces :
    host.isUuid call.instanceId = true ∨
      call = .cleanup call.instanceId ∨
      (∀ op ∈ (call.outcome host token root).script.take n, op.bare = true) ∨
      ∀ op ∈ (call.outcome host token root).script.drop n,
        op.sparing (manifestBackupName call.instanceId token) = true

section Cuts

variable {host : Host} {token : String} {root : Root}

theorem play_take_append (script script' : List FileOp) (n : Nat) :
    play root ((script ++ script').take n) =
    play (play root (script.take n)) (script'.take (n - script.length)) := by
  rw [List.take_append, play_append]

theorem generate_cut {input : ConfigDriveInput}
    (hfresh : Fresh token root (.generate input)) {n : Nat}
    (hgap :
      ∀ pending, (generate host token root input).script[n]? = some pending →
        ¬ InGap token root (.generate input) (generate host token root input).script n pending) :
    play root ((generate host token root input).script.take n) input.instanceId =
      root input.instanceId ∨
    play root ((generate host token root input).script.take n) input.instanceId =
      some (.directory (layout input.instanceId (input.contents host))) := by
  have hspec : Generates host token root input (generate host token root input) :=
    generate_spec hfresh
  have heffect := hspec.effect hfresh
  generalize generate host token root input = o at hspec hgap heffect
  have hprepare : ∀ m,
      validInstanceId input.instanceId = true →
      play root
          ((preparation (temporaryName input.instanceId token) input.instanceId
            (input.contents host)).take m)
          input.instanceId = root input.instanceId := by
    intro m hvalid
    refine play_of_not_touched fun op hop hmem => ?_
    rw [touched_preparation (List.mem_of_mem_take hop), List.mem_singleton] at hmem
    exact hidden_ne_of_valid hvalid hmem
  cases hspec with
  | refused e hinvalid =>
    left
    rw [show List.take n (refused e).script = [] from List.take_nil]
    rfl
  | created hvalid habsent =>
    dsimp only at hgap ⊢
    by_cases hn :
        n ≤ (preparation (temporaryName input.instanceId token) input.instanceId
          (input.contents host)).length
    · left
      rw [play_take_append, Nat.sub_eq_zero_of_le hn, List.take_zero, play_nil, hprepare n hvalid]
    · right
      rcases heffect with ⟨_, e, herror⟩ | ⟨hnew, _⟩
      · cases herror
      · rw [List.take_of_length_le (by simp; omega), hnew, update_self]
  | replaced hvalid old hold =>
    dsimp only at hgap ⊢
    rw [List.append_assoc] at hgap ⊢
    generalize hremoval : removal host _ (backupName input.instanceId token) = tail at hgap ⊢
    have htail : ∀ op ∈ tail, op.touched = [backupName input.instanceId token] :=
      fun op hop => touched_removal (hremoval ▸ hop)
    have hne : input.instanceId ≠ temporaryName input.instanceId token := hidden_ne_of_valid hvalid
    have hne' : input.instanceId ≠ backupName input.instanceId token := hidden_ne_of_valid hvalid
    have hmarks :
        temporaryName input.instanceId token ≠ backupName input.instanceId token := by
      simp [temporaryName, backupName, hidden]
    generalize hprep : preparation (temporaryName input.instanceId token) input.instanceId
      (input.contents host) = prepare at hgap hprepare ⊢
    have hprepared := play_preparation root (temporaryName input.instanceId token)
      input.instanceId (input.contents host)
    rw [hprep] at hprepared
    rcases Nat.lt_trichotomy n (prepare.length + 1) with hn | rfl | hn
    · left
      rw [play_take_append, Nat.sub_eq_zero_of_le (by omega), List.take_zero, play_nil,
        hprepare n hvalid]
    · -- the old directory is away and the new one not yet in place
      refine absurd ?_ (hgap (.rename (temporaryName input.instanceId token) input.instanceId)
        (by simp))
      exact ⟨rfl, by simp [hold]⟩
    · right
      obtain ⟨m, rfl⟩ : ∃ m, n = prepare.length + (m + 2) := ⟨n - prepare.length - 2, by omega⟩
      rw [play_take_append, List.take_of_length_le (by omega), Nat.add_sub_cancel_left, hprepared]
      show play _ ([FileOp.rename _ _, .rename _ _] ++ tail.take m) _ = _
      rw [play_append,
        play_published (.directory (layout input.instanceId (input.contents host)))
          hne (hfresh _ (List.mem_cons_self ..)).1 hmarks hne' hold,
        play_of_not_touched, update_self]
      intro op hop hmem
      rw [htail op (List.mem_of_mem_take hop), List.mem_singleton] at hmem
      exact hne' hmem
  | unowned hvalid hpresent e hunowned =>
    left
    refine play_of_not_touched fun op hop hmem => ?_
    rcases List.mem_append.mp (List.mem_of_mem_take hop) with hop | hop
    · rw [touched_preparation hop, List.mem_singleton] at hmem
      exact hidden_ne_of_valid hvalid hmem
    · rw [touched_removal hop, List.mem_singleton] at hmem
      exact hidden_ne_of_valid hvalid hmem

variable {output : String}

theorem Ready.source_ne {source : String} (h : Ready root source output) :
    source ≠ output ∧ source ≠ isoManifestName output := by
  obtain ⟨c, hsource⟩ := h.owned
  constructor <;> rintro rfl
  · rcases h.free with ⟨hnone, _⟩ | ⟨_, _, hpair⟩
    · cases hnone.symm.trans hsource
    · cases hpair.1.symm.trans hsource
  · rcases h.free with ⟨_, hnone⟩ | ⟨_, _, hpair⟩
    · cases hnone.symm.trans hsource
    · cases hpair.2.symm.trans hsource

variable {root' : Root}

/-- The source stays ready when the pair at the output stays, goes, or is new. -/
theorem Ready.congr {source : String}
    (h : Ready root source output) (hsource : root' source = root source)
    (hpair :
      (root' output = root output ∧ root' (isoManifestName output) = root (isoManifestName output)) ∨
        (root' output = none ∧ root' (isoManifestName output) = none) ∨
        ∃ print d, HasPair root' source output print d) :
    Ready root' source output := by
  refine ⟨h.valid, h.outputName, h.owned.imp fun c hc => hsource.trans hc, ?_⟩
  rcases hpair with ⟨hout, hman⟩ | hnone | hpair
  · refine h.free.imp (fun hfree => ⟨hout.trans hfree.1, hman.trans hfree.2⟩) ?_
    rintro ⟨print, d, himage, hmanifest⟩
    exact ⟨print, d, hout.trans himage, hman.trans hmanifest⟩
  · exact Or.inl hnone
  · exact Or.inr hpair

theorem rename_source {source target : String} (h : source ≠ target) :
    (FileOp.rename source target).apply root source = none := by
  cases hsource : root source with
  | none => simp [FileOp.apply, hsource]
  | some node => rw [rename_of_some hsource, update_of_ne h, update_self]

/-- Where a materialization stops outside its gaps, the pair at the output is
the old one, none, or the new one. -/
theorem publication_cut {source : String} {c : Contents} {hadPrevious : Bool}
    (h : Apart token root source output)
    (hfinal :
      play root (materialization token source output (fingerprint c) (layout source c) hadPrevious)
        =
      withImage root source output (fingerprint c) (layout source c))
    {n : Nat}
    (hgap :
      ∀ pending,
        (materialization token source output (fingerprint c) (layout source c) hadPrevious)[n]? = some pending →
        pending ≠ .rename (isoManifestName output) (manifestBackupName source token) ∧
          pending ≠ .rename (manifestTemporaryName source token) (isoManifestName output))
    (hroot' :
      root' = play root
        ((materialization token source output (fingerprint c) (layout source c) hadPrevious).take n)) :
    (root' output = root output ∧ root' (isoManifestName output) = root (isoManifestName output)) ∨
      (root' output = none ∧ root' (isoManifestName output) = none) ∨
      HasPair root' source output (fingerprint c) (layout source c) := by
  have hpair := isoManifestName_ne output
  have houtput : ∀ op : FileOp,
      (∀ name ∈ op.touched, name ∈ (Call.materializeIso source output).temporaries token) →
      output ∉ op.touched ∧ isoManifestName output ∉ op.touched := fun op hop =>
    ⟨fun hmem => h.fromOutput _ (hop _ hmem) rfl, fun hmem => h.fromManifest _ (hop _ hmem) rfl⟩
  -- what is left to do after the pair is in place touches the backups only
  have hdone : ∀ rest : List FileOp,
      (∀ op ∈ rest, ∀ name ∈ op.touched,
        name ∈ (Call.materializeIso source output).temporaries token) →
      play root' rest
          =
        play root
          (materialization token source output (fingerprint c) (layout source c) hadPrevious) →
      HasPair root' source output (fingerprint c) (layout source c) := by
    intro rest hrest hplay
    have hkept : ∀ name, name = output ∨ name = isoManifestName output →
        root' name = play root' rest name := by
      intro name hname
      refine (play_of_not_touched fun op hop => ?_).symm
      rcases hname with rfl | rfl
      · exact (houtput op (hrest op hop)).1
      · exact (houtput op (hrest op hop)).2
    constructor
    · rw [hkept _ (Or.inl rfl), hplay, hfinal]
      exact hasPair_withImage.1
    · rw [hkept _ (Or.inr rfl), hplay, hfinal]
      exact hasPair_withImage.2
  have hearly : n ≤ 2 →
      root' output = root output ∧ root' (isoManifestName output) = root (isoManifestName output) := by
    intro hn
    have hbuilding :
        root' = play root
          ((building token source output (fingerprint c) (layout source c)).take n) := by
      have hlength : (building token source output (fingerprint c) (layout source c)).length = 2 :=
        rfl
      rw [hroot', play_take_append, hlength, Nat.sub_eq_zero_of_le hn, List.take_zero, play_nil]
    rw [hbuilding]
    constructor <;> refine play_of_not_touched fun op hop => ?_
    · exact (houtput op (touched_building (List.mem_of_mem_take hop))).1
    · exact (houtput op (touched_building (List.mem_of_mem_take hop))).2
  have hlate :
      (materialization token source output (fingerprint c) (layout source c) hadPrevious).length ≤ n →
      HasPair root' source output (fingerprint c) (layout source c) := by
    intro hn
    refine hdone [] (fun op hop => absurd hop List.not_mem_nil) ?_
    rw [play_nil, hroot', List.take_of_length_le hn]
  cases hadPrevious with
  | false =>
    rcases n with _ | _ | _ | _ | n
    · exact Or.inl (hearly (by omega))
    · exact Or.inl (hearly (by omega))
    · exact Or.inl (hearly (by omega))
    · exact absurd rfl (hgap _ rfl).2
    · exact Or.inr (Or.inr (hlate (by simp [building, publication])))
  | true =>
    rcases n with _ | _ | _ | _ | _ | _ | _ | _ | n
    · exact Or.inl (hearly (by omega))
    · exact Or.inl (hearly (by omega))
    · exact Or.inl (hearly (by omega))
    · exact absurd rfl (hgap _ rfl).1
    · -- both of the previous pair are away
      refine Or.inr (Or.inl ?_)
      have haside :
          root' = (FileOp.rename (isoManifestName output) (manifestBackupName source token)).apply
            ((FileOp.rename output (isoBackupName source token)).apply
              (play root (building token source output (fingerprint c) (layout source c)))) :=
        hroot'
      have hbackup : output ≠ isoBackupName source token :=
        (h.fromOutput _ (by simp [Call.temporaries])).symm
      have hbackupManifest : output ≠ manifestBackupName source token :=
        (h.fromOutput _ (by simp [Call.temporaries])).symm
      have hbackupManifest' : isoManifestName output ≠ manifestBackupName source token :=
        (h.fromManifest _ (by simp [Call.temporaries])).symm
      rw [haside]
      constructor
      · rw [apply_of_not_touched, rename_source hbackup]
        simpa [FileOp.touched] using ⟨hpair.symm, hbackupManifest⟩
      · exact rename_source hbackupManifest'
    · exact absurd rfl (hgap _ rfl).2
    · -- only the two backups are left to be removed
      refine Or.inr (Or.inr (hdone
        [.removeFile (isoBackupName source token), .removeFile (manifestBackupName source token)]
        ?_ ?_))
      · intro op hop
        rcases List.mem_pair.mp hop with rfl | rfl <;> simp [FileOp.touched, Call.temporaries]
      · rw [hroot', ← play_append]
        rfl
    · refine Or.inr (Or.inr (hdone [.removeFile (manifestBackupName source token)] ?_ ?_))
      · intro op hop
        rw [List.mem_singleton.mp hop]
        simp [FileOp.touched, Call.temporaries]
      · rw [hroot', ← play_append]
        rfl
    · exact Or.inr (Or.inr (hlate (by simp [building, publication])))

/-- What a clean-up accepts: nothing or an owned directory, and nothing, a lone
manifest, or an image with its manifest. -/
theorem cleanupChecks_eq_ok {instanceId : String} :
    cleanupChecks host root instanceId = .ok () ↔
      (root instanceId = none ∨ ∃ c, root instanceId = some (.directory (layout instanceId c))) ∧
        ((root (isoName instanceId) = none ∧ root (isoManifestName (isoName instanceId)) = none) ∨
          (root (isoName instanceId) = none ∧
            validateOwnedIsoManifest root (isoName instanceId) instanceId = .ok ()) ∨
          (root (isoName instanceId) ≠ none ∧
            validateOwnedIsoPair host root (isoName instanceId) instanceId = .ok ())) := by
  constructor
  · intro h
    refine ⟨directory_of_cleanupChecks h, ?_⟩
    unfold cleanupChecks at h
    dsimp only at h
    split at h
    · cases h
    · split_ifs at h with hiso hmanifest
      · exact Or.inr (Or.inr ⟨Option.isSome_iff_ne_none.mp hiso, h⟩)
      · exact Or.inr (Or.inl ⟨Option.not_isSome_iff_eq_none.mp hiso, h⟩)
      · exact Or.inl ⟨Option.not_isSome_iff_eq_none.mp hiso,
          Option.not_isSome_iff_eq_none.mp hmanifest⟩
  · rintro ⟨hdirectory, hpair⟩
    have howned :
        (if (root instanceId).isSome then validateOwnedAt root instanceId else .ok () :
          Except ConfigDriveError Unit) = .ok () := by
      rcases hdirectory with hnone | howned
      · simp [hnone]
      · rw [validateOwnedAt_eq_ok.mpr howned, ite_self]
    unfold cleanupChecks
    dsimp only
    rw [howned]
    rcases hpair with ⟨hiso, hmanifest⟩ | ⟨hiso, hmanifest⟩ | ⟨hiso, hpair⟩
    · simp [hiso, hmanifest]
    · simp only [hiso, Option.isSome_none, Bool.false_eq_true, if_false, hmanifest, ite_self]
    · rw [if_pos (Option.isSome_iff_ne_none.mpr hiso), hpair]

variable {instanceId : String}

theorem validateOwnedIsoManifest_congr
    (h : root' (isoManifestName output) = root (isoManifestName output)) :
    validateOwnedIsoManifest root' output instanceId =
    validateOwnedIsoManifest root output instanceId := by
  unfold validateOwnedIsoManifest
  rw [h]

theorem validateOwnedIsoPair_congr
    (h : root' (isoManifestName output) = root (isoManifestName output))
    (h' : root' output = root output) :
    validateOwnedIsoPair host root' output instanceId =
    validateOwnedIsoPair host root output instanceId := by
  unfold validateOwnedIsoPair
  rw [validateOwnedIsoManifest_congr h, h']

theorem manifest_of_pair (h : validateOwnedIsoPair host root output instanceId = .ok ()) :
    validateOwnedIsoManifest root output instanceId = .ok () := by
  unfold validateOwnedIsoPair at h
  split at h
  · cases h
  · assumption

theorem cleanupChecks_congr (h : cleanupChecks host root instanceId = .ok ())
    (hdirectory :
      root' instanceId = root instanceId ∨ root' instanceId = none ∨
        ∃ c, root' instanceId = some (.directory (layout instanceId c)))
    (hmanifest :
      root' (isoManifestName (isoName instanceId)) = root (isoManifestName (isoName instanceId)) ∨
        (root' (isoName instanceId) = none ∧ root' (isoManifestName (isoName instanceId)) = none))
    (hiso :
      root' (isoName instanceId) = root (isoName instanceId) ∨ root' (isoName instanceId) = none) :
    cleanupChecks host root' instanceId = .ok () := by
  obtain ⟨hold, hpair⟩ := cleanupChecks_eq_ok.mp h
  refine cleanupChecks_eq_ok.mpr ⟨?_, ?_⟩
  · rcases hdirectory with hsame | hnone | howned
    · exact hold.imp hsame.trans fun ⟨c, hc⟩ => ⟨c, hsame.trans hc⟩
    · exact Or.inl hnone
    · exact Or.inr howned
  · rcases hmanifest with hman | hnone
    · rcases hiso with hiso | hiso
      · rw [hiso, hman, validateOwnedIsoManifest_congr hman, validateOwnedIsoPair_congr hman hiso]
        exact hpair
      · rw [hiso, hman, validateOwnedIsoManifest_congr hman]
        rcases hpair with ⟨_, hnone⟩ | ⟨_, hmanifest⟩ | ⟨_, hpair⟩
        · exact Or.inl ⟨rfl, hnone⟩
        · exact Or.inr (Or.inl ⟨rfl, hmanifest⟩)
        · exact Or.inr (Or.inl ⟨rfl, manifest_of_pair hpair⟩)
    · exact Or.inl hnone

theorem isoName_ne (instanceId : String) :
    isoName instanceId ≠ instanceId ∧ isoManifestName (isoName instanceId) ≠ instanceId := by
  constructor <;> intro h <;> have hlength := congrArg (fun s => s.toList.length) h <;>
    simp [isoName, isoManifestName] at hlength

/-- The files that a clean-up removes after the directory. -/
def isoRemoval (root : Root) (instanceId : String) : List FileOp :=
  if (root (isoName instanceId)).isSome then
    [.removeFile (isoName instanceId), .removeFile (isoManifestName (isoName instanceId))]
  else if (root (isoManifestName (isoName instanceId))).isSome then
    [.removeFile (isoManifestName (isoName instanceId))]
  else
    []

theorem cleanup_script (hvalid : validInstanceId instanceId = true)
    (hchecks : cleanupChecks host root instanceId = .ok ()) :
    cleanup host root instanceId =
    ⟨removal host root instanceId ++ isoRemoval root instanceId, .ok .removed⟩ := by
  unfold cleanup isoRemoval
  rw [if_neg (by simp [hvalid]), hchecks]

/-- Inside the removal of the directory a safe point leaves it validating. -/
theorem removal_cut {c : Contents}
    (hroot : root instanceId = some (.directory (layout instanceId c))) {n : Nat}
    (hn : n < (removal host root instanceId).length) (tail : List FileOp)
    (hgap :
      ∀ pending, (removal host root instanceId ++ tail)[n]? = some pending →
        ¬ InGap token root (.cleanup instanceId) (removal host root instanceId ++ tail) n pending) :
    ∃ c', play root ((removal host root instanceId).take n) instanceId =
    some (.directory (layout instanceId c')) := by
  by_cases hzero : n = 0
  · exact ⟨c, by rw [hzero, List.take_zero, play_nil, hroot]⟩
  · have hpending :
        (removal host root instanceId ++ tail)[n]? = some (removal host root instanceId)[n] := by
      rw [List.getElem?_append_left hn, List.getElem?_eq_getElem hn]
    have hform :
        (∃ entry, (removal host root instanceId)[n] = .removeEntry instanceId entry) ∨
          (removal host root instanceId)[n] = .removeDir instanceId := by
      have hmem := List.getElem_mem hn
      generalize (removal host root instanceId)[n] = op at hmem
      simp only [removal, hroot, List.mem_append, List.mem_map, List.mem_singleton] at hmem
      rcases hmem with ⟨entry, _, rfl⟩ | rfl
      · exact Or.inl ⟨entry, rfl⟩
      · exact Or.inr rfl
    obtain ⟨rfl, hhead, c', hroot', hvendor⟩ :=
      by_contra fun hno => hgap _ hpending ⟨hform, hzero, hno⟩
    -- only the empty vendor data is gone
    refine ⟨{ c' with vendorData := none }, ?_⟩
    obtain ⟨rest, hrest⟩ :
        ∃ rest, removal host root instanceId = .removeEntry instanceId .vendorData :: rest := by
      cases hremoval : removal host root instanceId with
      | nil =>
        rw [hremoval] at hn
        exact absurd hn (by simp)
      | cons op rest =>
        rw [hremoval, List.cons_append, List.head?_cons, Option.some.injEq] at hhead
        exact ⟨rest, by rw [hhead]⟩
    rw [hrest]
    have hprint : fingerprint { c' with vendorData := none } = fingerprint c' := by
      simp [fingerprint, Contents.concatenation, hvendor]
    simp [FileOp.apply, Root.onDirectory, hroot', Directory.erase, layout, ownershipManifest,
      hprint]

/-- Where a clean-up stops outside its gap, it can be repeated. -/
theorem cleanup_cut (hvalid : validInstanceId instanceId = true)
    (hchecks : cleanupChecks host root instanceId = .ok ()) {n : Nat}
    (hgap :
      ∀ pending, (cleanup host root instanceId).script[n]? = some pending →
        ¬ InGap token root (.cleanup instanceId) (cleanup host root instanceId).script n pending) :
    cleanupChecks host (play root ((cleanup host root instanceId).script.take n)) instanceId =
    .ok () := by
  rw [cleanup_script hvalid hchecks] at hgap ⊢
  dsimp only at hgap ⊢
  obtain ⟨hid, hid'⟩ := isoName_ne instanceId
  have hpair := isoManifestName_ne (isoName instanceId)
  rcases Nat.lt_or_ge n (removal host root instanceId).length with hn | hn
  · -- the image and its manifest are still there
    have hcut :
        play root ((removal host root instanceId ++ isoRemoval root instanceId).take n)
          =
        play root ((removal host root instanceId).take n) := by
      rw [play_take_append, Nat.sub_eq_zero_of_le (Nat.le_of_lt hn), List.take_zero, play_nil]
    have hkept : ∀ name, name ≠ instanceId →
        play root ((removal host root instanceId).take n) name = root name := by
      intro name hname
      refine play_of_not_touched fun op hop hmem => ?_
      rw [touched_removal (List.mem_of_mem_take hop), List.mem_singleton] at hmem
      exact hname hmem
    rw [hcut]
    refine cleanupChecks_congr hchecks ?_ (Or.inl (hkept _ hid')) (Or.inl (hkept _ hid))
    rcases directory_of_cleanupChecks hchecks with hnone | ⟨c, hroot⟩
    · rw [removal, hnone] at hn
      exact absurd hn (by simp)
    · exact Or.inr (Or.inr (removal_cut hroot hn _ hgap))
  · obtain ⟨m, rfl⟩ : ∃ m, n = (removal host root instanceId).length + m :=
      ⟨n - (removal host root instanceId).length, by omega⟩
    rw [play_take_append, List.take_of_length_le (by omega), Nat.add_sub_cancel_left, play_removal]
    have hgone :
        play (update root instanceId none) ((isoRemoval root instanceId).take m) instanceId
          =
        none := by
      rw [play_of_not_touched, update_self]
      intro op hop hmem
      have hop := List.mem_of_mem_take hop
      unfold isoRemoval at hop
      split_ifs at hop
      · rcases List.mem_pair.mp hop with rfl | rfl
        · exact hid (List.mem_singleton.mp hmem).symm
        · exact hid' (List.mem_singleton.mp hmem).symm
      · rw [List.mem_singleton.mp hop] at hmem
        exact hid' (List.mem_singleton.mp hmem).symm
      · exact absurd hop List.not_mem_nil
    have hiso : update root instanceId none (isoName instanceId)
        = root (isoName instanceId) := update_of_ne hid _ _
    have hmanifest : update root instanceId none (isoManifestName (isoName instanceId))
        = root (isoManifestName (isoName instanceId)) := update_of_ne hid' _ _
    generalize update root instanceId none = root₁ at hgone hiso hmanifest ⊢
    have hfiles :
        (play root₁ ((isoRemoval root instanceId).take m) (isoManifestName (isoName instanceId))
            = root (isoManifestName (isoName instanceId)) ∨
          (play root₁ ((isoRemoval root instanceId).take m) (isoName instanceId) = none ∧
            play root₁ ((isoRemoval root instanceId).take m)
              (isoManifestName (isoName instanceId)) = none)) ∧
        (play root₁ ((isoRemoval root instanceId).take m) (isoName instanceId)
            = root (isoName instanceId) ∨
          play root₁ ((isoRemoval root instanceId).take m) (isoName instanceId) = none) := by
      unfold isoRemoval
      split_ifs with hpresent hlone
      · rcases m with _ | _ | m
        · exact ⟨Or.inl hmanifest, Or.inl hiso⟩
        · simp [FileOp.apply, hpair, hmanifest]
        · simp [FileOp.apply, hpair.symm]
      · rw [Option.not_isSome_iff_eq_none] at hpresent
        rcases m with _ | m
        · exact ⟨Or.inl hmanifest, Or.inl hiso⟩
        · simp [FileOp.apply, hpair.symm, hiso, hpresent]
      · rw [List.take_nil, play_nil]
        exact ⟨Or.inl hmanifest, Or.inl hiso⟩
    exact cleanupChecks_congr hchecks (Or.inr (Or.inl hgone)) hfiles.1 hfiles.2

end Cuts

end ConfigDrive
end O3k
