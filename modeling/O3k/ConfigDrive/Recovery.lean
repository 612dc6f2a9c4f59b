import O3k.ConfigDrive.Cuts

/-!
# Recovery of an interrupted call

A run is a list of calls, each of which ends or is cut by a crash that opens
the store again.  At the safe points no directory is lost, the interrupted call
can be repeated, and nothing secret stays under a hidden name.
-/

namespace O3k
namespace ConfigDrive

open Semantics

/-- A call and, if it is interrupted, the operation before which it is. -/
structure Event where
  token : String
  call : Call
  crash : Option Nat
  deriving DecidableEq

def after (host : Host) (root : Root) (e : Event) : Root :=
  let script := (e.call.outcome host e.token root).script
  match e.crash with
  | none => play root script
  | some n => reap host (play root (script.take n))

/-- A node that has some content of an instance. -/
def Node.secret : Node → Bool
  | .file (.iso _) => true
  | .file (.isoManifest _) => false
  | .directory d =>
    d.metaData.isSome || d.networkData.isSome || d.userData.isSome || d.vendorData.isSome

/-- No hidden name has a secret. -/
def Quiet (root : Root) : Prop :=
  ∀ name node, isHidden name = true → root name = some node → node.secret = false

theorem quiet_empty : Quiet Root.empty :=
  fun _ _ _ h => by cases h

section Quiet

variable {host : Host} {root : Root}

theorem Quiet.update (h : Quiet root) {name : String} {node : Option Node}
    (hname : isHidden name = false ∨ ∀ n, node = some n → n.secret = false) :
    Quiet (Function.update root name node) := by
  intro other n hother hn
  by_cases heq : other = name
  · subst heq
    rw [Function.update_self] at hn
    rcases hname with hvisible | hnode
    · cases hvisible.symm.trans hother
    · exact hnode n hn
  · rw [Function.update_of_ne heq] at hn
    exact h other n hother hn

theorem Quiet.bare (h : Quiet root) {op : FileOp} (hop : op.bare = true) :
    Quiet (op.apply root) := by
  cases op <;> simp only [FileOp.bare, Bool.false_eq_true] at hop
  case createDir name =>
    refine h.update (Or.inr fun n hn => ?_)
    cases hn
    rfl
  case createSubdir name entry =>
    simp only [FileOp.apply, Root.onDirectory]
    split
    · rename_i d hd
      by_cases hname : isHidden name = true
      · refine h.update (Or.inr fun n hn => ?_)
        cases hn
        have hsecret := h name _ hname hd
        cases entry <;> exact hsecret
      · exact h.update (Or.inl (by simpa using hname))
    · exact h

variable {script : List FileOp}

theorem play_preserves {P : Root → Prop}
    (hscript : ∀ op ∈ script, ∀ r, P r → P (op.apply r)) (h : P root) :
    P (play root script) := by
  induction script generalizing root with
  | nil => exact h
  | cons op rest ih =>
    exact ih (fun op hop => hscript op (List.mem_cons_of_mem _ hop))
      (hscript op List.mem_cons_self root h)

theorem Quiet.play_bare (h : Quiet root) (hscript : ∀ op ∈ script, op.bare = true) :
    Quiet (play root script) :=
  play_preserves (fun op hop _ hr => hr.bare (hscript op hop)) h

theorem Quiet.reap (h : Quiet root) : Quiet (reap host root) :=
  fun name node hname hnode => h name node hname (reap_eq_some hnode).2

theorem secret_of_sparing {op : FileOp} {manifestBackup name : String}
    (hop : op.sparing manifestBackup = true) (hname : name ≠ manifestBackup)
    (h : ∃ node, root name = some node ∧ node.secret = true) :
    ∃ node, op.apply root name = some node ∧ node.secret = true := by
  obtain ⟨node, hnode, hsecret⟩ := h
  cases op <;> simp only [FileOp.sparing, Bool.false_eq_true, decide_eq_true_eq] at hop
  case removeFile target =>
    subst hop
    exact ⟨node, by simpa [FileOp.apply, hname] using hnode, hsecret⟩
  case removeEntry target entry =>
    by_cases heq : name = target
    · subst heq
      cases node with
      | file content => exact ⟨_, by simp [FileOp.apply, Root.onDirectory, hnode], hsecret⟩
      | directory d =>
        refine ⟨.directory (d.erase entry), by simp [FileOp.apply, Root.onDirectory, hnode], ?_⟩
        simp only [List.mem_cons, List.not_mem_nil, or_false] at hop
        rcases hop with rfl | rfl | rfl <;> exact hsecret
    · exact ⟨node, (onDirectory_of_ne heq _).trans hnode, hsecret⟩
  case removeDir target =>
    refine ⟨node, ?_, hsecret⟩
    simp only [FileOp.apply]
    split_ifs with hempty
    · refine (Function.update_of_ne ?_ _ _).trans hnode
      rintro rfl
      cases hempty.symm.trans hnode
      cases hsecret
    · exact hnode

theorem secret_of_play_sparing {manifestBackup name : String}
    (hscript : ∀ op ∈ script, op.sparing manifestBackup = true) (hname : name ≠ manifestBackup)
    (h : ∃ node, root name = some node ∧ node.secret = true) :
    ∃ node, play root script name = some node ∧ node.secret = true :=
  play_preserves
    (P := fun r => ∃ node, r name = some node ∧ node.secret = true)
    (fun op hop _ hr => secret_of_sparing (hscript op hop) hname hr) h

end Quiet

/-- The call draws a fresh UUID, and an image is asked for at `<id>.iso`. -/
structure Legal (host : Host) (root : Root) (e : Event) : Prop where
  token : host.isUuid e.token = true
  fresh : Fresh e.token root e.call
  output : ∀ source output, e.call = .materializeIso source output → output = isoName source

section Legal

variable {host : Host} {root : Root} {e : Event}

theorem Legal.visible (h : Legal host root e) :
    (e.call.outcome host e.token root).script = [] ∨
      ∀ name ∈ e.call.changes, isHidden name = false := by
  obtain ⟨token, call, crash⟩ := e
  have hfresh := h.fresh
  cases call with
  | generate input =>
    have hspec : Generates host token root input (generate host token root input) :=
      generate_spec hfresh
    show (generate host token root input).script = [] ∨ _
    simp only [Call.changes, List.mem_singleton, forall_eq]
    generalize generate host token root input = o at hspec
    cases hspec with
    | refused => exact Or.inl rfl
    | created hvalid => exact Or.inr (not_isHidden_of_validInstanceId hvalid)
    | replaced hvalid => exact Or.inr (not_isHidden_of_validInstanceId hvalid)
    | unowned hvalid => exact Or.inr (not_isHidden_of_validInstanceId hvalid)
  | materializeIso source output =>
    obtain rfl := h.output source output rfl
    have hspec := materializeIso_spec hfresh.apart
    show (materializeIso token root source (isoName source)).script = [] ∨ _
    simp only [Call.changes, List.mem_pair, forall_eq_or_imp, forall_eq]
    generalize materializeIso token root source (isoName source) = o at hspec
    cases hspec with
    | refused => exact Or.inl rfl
    | cached => exact Or.inl rfl
    | published c hadPrevious hready => exact Or.inr (not_isHidden_isoName hready.valid)
  | cleanup instanceId =>
    cases hvalid : validInstanceId instanceId with
    | false =>
      left
      show (cleanup host root instanceId).script = []
      rw [cleanup, if_pos hvalid]
      rfl
    | true =>
      right
      simp only [Call.changes, List.mem_cons, List.not_mem_nil, or_false, forall_eq_or_imp,
        forall_eq]
      exact ⟨not_isHidden_of_validInstanceId hvalid, not_isHidden_isoName hvalid⟩

theorem Legal.hidden_kept (h : Legal host root e) {name : String} (hhidden : isHidden name = true)
    (hname : name ∉ e.call.temporaries e.token) (n : Nat) :
    play root ((e.call.outcome host e.token root).script.take n) name = root name := by
  rcases h.visible with hnil | hvisible
  · rw [hnil, List.take_nil, play_nil]
  · exact play_take_of_hidden h.fresh hvisible hhidden hname n

/-- A call that ends leaves no secret. -/
theorem Legal.quiet_play (h : Legal host root e) (hquiet : Quiet root) :
    Quiet (play root (e.call.outcome host e.token root).script) := by
  rcases h.visible with hnil | hvisible
  · rw [hnil, play_nil]
    exact hquiet
  · obtain ⟨token, call, crash⟩ := e
    have hfresh := h.fresh
    cases call with
    | generate input =>
      have hspec : Generates host token root input (generate host token root input) :=
        generate_spec hfresh
      show Quiet (play root (generate host token root input).script)
      rcases hspec.effect hfresh with ⟨hsame, _⟩ | ⟨hnew, hvalid, _⟩
      · rw [hsame]
        exact hquiet
      · rw [hnew]
        exact hquiet.update (Or.inl (not_isHidden_of_validInstanceId hvalid))
    | materializeIso source output =>
      have hspec := materializeIso_spec hfresh.apart
      show Quiet (play root (materializeIso token root source output).script)
      generalize materializeIso token root source output = o at hspec
      cases hspec with
      | refused => exact hquiet
      | cached => exact hquiet
      | published c hadPrevious hready hsource hprevious =>
        rw [play_published_iso hfresh.apart hsource hprevious]
        exact (hquiet.update (Or.inl (hvisible _ (by simp [Call.changes])))).update
          (Or.inl (hvisible _ (by simp [Call.changes])))
    | cleanup instanceId =>
      show Quiet (play root (cleanup host root instanceId).script)
      rcases cleanup_effect with ⟨hnil, _⟩ | ⟨_, _, hgone⟩
      · rw [hnil, play_nil]
        exact hquiet
      · rw [hgone]
        exact ((hquiet.update (Or.inl (hvisible _ (by simp [Call.changes])))).update
          (Or.inl (hvisible _ (by simp [Call.changes])))).update
          (Or.inl (hvisible _ (by simp [Call.changes])))

def manifestNames (token source output : String) : List String :=
  [isoManifestName output, manifestTemporaryName source token, manifestBackupName source token]

theorem manifestNames_kept {token source output : String}
    (h : Apart token root source output) {c : Contents} {hadPrevious : Bool} {op : FileOp}
    (hop : op ∈ materialization token source output (fingerprint c) (layout source c) hadPrevious)
    {r : Root}
    (hr : ∀ name ∈ manifestNames token source output, ∀ node, r name = some node →
      node.secret = false) :
    ∀ name ∈ manifestNames token source output, ∀ node, op.apply r name = some node →
      node.secret = false := by
  obtain ⟨hne₁, hne₂, hne₃, hne₄, hne₅, hne₆⟩ := publication_names_ne source token
  have hmanifest := h.fromManifest
  have houtput := h.fromOutput
  have hpair := isoManifestName_ne output
  simp only [Call.temporaries, List.mem_cons, List.not_mem_nil, or_false, forall_eq_or_imp,
    forall_eq] at hmanifest houtput
  -- an operation that touches none of the names, and a move between two of them
  have huntouched :
      (∀ name ∈ manifestNames token source output, name ∉ op.touched) →
      ∀ name ∈ manifestNames token source output, ∀ node, op.apply r name = some node →
        node.secret = false := by
    intro huntouched name hname node hnode
    rw [apply_of_not_touched (huntouched name hname)] at hnode
    exact hr name hname node hnode
  have hmove : ∀ a ∈ manifestNames token source output, ∀ b,
      ∀ name ∈ manifestNames token source output, ∀ node,
        (FileOp.rename a b).apply r name = some node → node.secret = false := by
    intro a ha b name hname node hnode
    cases hsource : r a with
    | none =>
      simp only [FileOp.apply, hsource] at hnode
      exact hr name hname node hnode
    | some moved =>
      rw [rename_of_some hsource] at hnode
      rw [Function.update_apply] at hnode
      split_ifs at hnode
      · cases hnode
        exact hr a ha _ hsource
      · rw [Function.update_apply] at hnode
        split_ifs at hnode
        exact hr name hname node hnode
  rcases List.mem_append.mp hop with hop | hop
  · rcases List.mem_pair.mp hop with rfl | rfl
    · refine huntouched ?_
      simp only [manifestNames, FileOp.touched, List.mem_cons, List.not_mem_nil, or_false,
        forall_eq_or_imp, forall_eq]
      exact ⟨fun heq => hmanifest.1 heq.symm, hne₁.symm, hne₄.symm⟩
    · intro name hname node hnode
      simp only [FileOp.apply, Function.update_apply] at hnode
      split_ifs at hnode
      · cases hnode
        rfl
      · exact hr name hname node hnode
  · have hforms :
        op = .rename output (isoBackupName source token) ∨
        op = .rename (isoManifestName output) (manifestBackupName source token) ∨
        op = .rename (isoTemporaryName source token) output ∨
        op = .rename (manifestTemporaryName source token) (isoManifestName output) ∨
        op = .removeFile (isoBackupName source token) ∨
        op = .removeFile (manifestBackupName source token) := by
      cases hadPrevious <;> simp [publication] at hop <;> tauto
    rcases hforms with rfl | rfl | rfl | rfl | rfl | rfl
    · refine huntouched ?_
      simp only [manifestNames, FileOp.touched, List.mem_cons, List.not_mem_nil, or_false,
        forall_eq_or_imp, forall_eq, not_or]
      exact ⟨⟨hpair, fun heq => hmanifest.2.2.1 heq.symm⟩, ⟨houtput.2.1, hne₅⟩, houtput.2.2.2,
        hne₂.symm⟩
    · exact hmove _ (by simp [manifestNames]) _
    · refine huntouched ?_
      simp only [manifestNames, FileOp.touched, List.mem_cons, List.not_mem_nil, or_false,
        forall_eq_or_imp, forall_eq, not_or]
      exact ⟨⟨fun heq => hmanifest.1 heq.symm, hpair⟩, ⟨hne₁.symm, houtput.2.1⟩, hne₄.symm,
        houtput.2.2.2⟩
    · exact hmove _ (by simp [manifestNames]) _
    all_goals
      intro name hname node hnode
      simp only [FileOp.apply, Function.update_apply] at hnode
      split_ifs at hnode
      exact hr name hname node hnode

theorem Legal.manifestBackup_not_secret
    (h : Legal host root e) (hquiet : Quiet root) (n : Nat) {node : Node}
    (hnode :
      play root ((e.call.outcome host e.token root).script.take n)
          (manifestBackupName e.call.instanceId e.token) = some node) :
    node.secret = false := by
  have hhidden : isHidden (manifestBackupName e.call.instanceId e.token) = true :=
    isHidden_hidden _ _ _
  by_cases hname : manifestBackupName e.call.instanceId e.token ∈ e.call.temporaries e.token
  · obtain ⟨token, call, crash⟩ := e
    have hfresh := h.fresh
    cases call with
    | generate input =>
      exfalso
      simp [Call.temporaries, Call.instanceId, manifestBackupName, temporaryName, backupName,
        hidden, String.ext_iff] at hname
    | cleanup instanceId => exact absurd hname List.not_mem_nil
    | materializeIso source output =>
      have hspec := materializeIso_spec hfresh.apart
      replace hnode :
          play root ((materializeIso token root source output).script.take n)
              (manifestBackupName source token) = some node := hnode
      generalize materializeIso token root source output = o at hspec hnode
      have hroot := hquiet (manifestBackupName source token) node hhidden
      cases hspec with
      | refused hnot err =>
        rw [show List.take n (refused err).script = [] from List.take_nil] at hnode
        exact hroot hnode
      | cached c d =>
        rw [List.take_nil] at hnode
        exact hroot hnode
      | published c hadPrevious hready =>
        refine play_preserves
          (P := fun r => ∀ name ∈ manifestNames token source output, ∀ node,
            r name = some node → node.secret = false)
          (fun op hop r hr => manifestNames_kept hfresh.apart (List.mem_of_mem_take hop) hr)
          ?_ _ (by simp [manifestNames]) node hnode
        simp only [manifestNames, List.mem_cons, List.not_mem_nil, or_false,
          forall_eq_or_imp, forall_eq]
        refine ⟨?_, ?_, ?_⟩
        · intro other hother
          rcases hready.free with ⟨_, hnone⟩ | ⟨_, _, hpair⟩
          · cases hnone.symm.trans hother
          · cases hpair.2.symm.trans hother
            rfl
        · exact fun other hother => hquiet _ other (isHidden_hidden _ _ _) hother
        · exact fun other hother => hquiet _ other (isHidden_hidden _ _ _) hother
  · rw [h.hidden_kept hhidden hname] at hnode
    exact hquiet _ node hhidden hnode

/-- A safe point leaves no secret behind. -/
theorem Legal.quiet_cut (h : Legal host root e) (hquiet : Quiet root) {n : Nat}
    (hsafe : SafePoint host e.token root e.call n) :
    Quiet (reap host (play root ((e.call.outcome host e.token root).script.take n))) := by
  rcases hsafe.traces with hid | hcleanup | hbare | hsparing
  · intro name node hname hnode
    obtain ⟨hunknown, hplay⟩ := reap_eq_some hnode
    have htemporary : name ∉ e.call.temporaries e.token := by
      intro hmem
      cases hunknown.symm.trans (isPublicationTemporaryName_of_mem h.token hid hmem)
    rw [h.hidden_kept hname htemporary] at hplay
    exact hquiet name node hname hplay
  · refine Quiet.reap fun name node hname hplay => ?_
    rw [h.hidden_kept hname (by rw [hcleanup]; exact List.not_mem_nil)] at hplay
    exact hquiet name node hname hplay
  · exact (hquiet.play_bare hbare).reap
  · refine Quiet.reap fun name node hname hplay => ?_
    by_cases hbackup : name = manifestBackupName e.call.instanceId e.token
    · subst hbackup
      exact h.manifestBackup_not_secret hquiet n hplay
    · -- what is still secret stays so until the call ends
      by_contra hsecret
      obtain ⟨node', hnode', hsecret'⟩ :=
        secret_of_play_sparing hsparing hbackup ⟨node, hplay, by simpa using hsecret⟩
      rw [← play_append, List.take_append_drop] at hnode'
      cases hsecret'.symm.trans (h.quiet_play hquiet name node' hname hnode')

end Legal

/-- What the store promises of an interrupted call. -/
structure Recovers (host : Host) (root : Root) (e : Event) : Prop where
  directories :
    ∀ input, e.call = .generate input → e.crash ≠ none →
      ∀ instanceId c, validInstanceId instanceId = true →
        root instanceId = some (.directory (layout instanceId c)) →
        ∃ c', after host root e instanceId = some (.directory (layout instanceId c'))
  repeated :
    e.crash ≠ none →
    (∃ reply, (e.call.outcome host e.token root).result = .ok reply) →
      ∀ token, Legal host (after host root e) ⟨token, e.call, none⟩ →
        (∃ reply, (e.call.outcome host token (after host root e)).result = .ok reply) ∧
          Quiet (play (after host root e) (e.call.outcome host token (after host root e)).script)

/-- An interrupted call is interrupted at a safe point. -/
def Safe (host : Host) (root : Root) (e : Event) : Prop :=
  ∀ n, e.crash = some n → SafePoint host e.token root e.call n

section Recovery

variable {host : Host} {token : String} {root : Root} {input : ConfigDriveInput}

theorem directories_kept (hfresh : Fresh token root (.generate input)) {n : Nat}
    (hsafe : SafePoint host token root (.generate input) n) {instanceId : String} {c : Contents}
    (hvalid : validInstanceId instanceId = true)
    (hroot : root instanceId = some (.directory (layout instanceId c))) :
    ∃ c', reap host (play root ((generate host token root input).script.take n)) instanceId =
    some (.directory (layout instanceId c')) := by
  rw [reap_of_not_hidden (not_isHidden_of_validInstanceId hvalid)]
  by_cases heq : instanceId = input.instanceId
  · subst heq
    rcases generate_cut hfresh hsafe.gap with hold | hnew
    · exact ⟨c, hold.trans hroot⟩
    · exact ⟨_, hnew⟩
  · refine ⟨c, (play_of_not_touched fun op hop hmem => ?_).trans hroot⟩
    rcases touched_script hfresh (List.mem_of_mem_take hop) _ hmem with
      htemporary | hchange
    · cases (isHidden_of_temporaries htemporary).symm.trans (not_isHidden_of_validInstanceId hvalid)
    · exact heq (List.mem_singleton.mp hchange)

variable {reply : Reply}

theorem admitted_of_generate (hfresh : Fresh token root (.generate input))
    (h : (generate host token root input).result = .ok reply) :
    validate host input = .ok () ∧
      (root input.instanceId = none ∨
        ∃ c, root input.instanceId = some (.directory (layout input.instanceId c))) := by
  have hvalidate : validate host input = .ok () := by
    cases hvalidate : validate host input with
    | error err =>
      rw [generate, hvalidate] at h
      cases h
    | ok => rfl
  refine ⟨hvalidate, ?_⟩
  have hspec : Generates host token root input (generate host token root input) :=
    generate_spec hfresh
  generalize generate host token root input = o at hspec h
  cases hspec with
  | refused err => cases h
  | created hvalid habsent => exact Or.inl habsent
  | replaced hvalid old hold => exact Or.inr ⟨old, hold⟩
  | unowned => cases h

theorem generate_repeats (hfresh : Fresh token root (.generate input)) {n : Nat}
    (hsafe : SafePoint host token root (.generate input) n)
    (h : (generate host token root input).result = .ok reply) {root' : Root}
    (hroot' : root' = reap host (play root ((generate host token root input).script.take n)))
    {token' : String} (hfresh' : Fresh token' root' (.generate input)) :
    (generate host token' root' input).result =
      .ok (.generated ⟨input.instanceId, fingerprint (input.contents host)⟩) ∧
    play root' (generate host token' root' input).script =
      Function.update root' input.instanceId
        (some (.directory (layout input.instanceId (input.contents host)))) := by
  obtain ⟨hvalidate, hfree⟩ := admitted_of_generate hfresh h
  refine generate_of_valid hfresh' hvalidate ?_
  rw [hroot', reap_of_not_hidden
    (not_isHidden_of_validInstanceId (validInstanceId_of_validate hvalidate))]
  rcases generate_cut hfresh hsafe.gap with hold | hnew
  · rw [hold]
    exact hfree
  · exact Or.inr ⟨_, hnew⟩

theorem materializeIso_ready {source : String}
    (hfresh : Fresh token root (.materializeIso source (isoName source))) {n : Nat}
    (hsafe : SafePoint host token root (.materializeIso source (isoName source)) n)
    (h : (materializeIso token root source (isoName source)).result = .ok reply) {root' : Root}
    (hroot' :
      root' =
      reap host (play root ((materializeIso token root source (isoName source)).script.take n))) :
    Ready root' source (isoName source) := by
  have hgap : ∀ pending,
      (materializeIso token root source (isoName source)).script[n]? = some pending →
        pending ≠ .rename (isoManifestName (isoName source)) (manifestBackupName source token) ∧
          pending ≠ .rename (manifestTemporaryName source token)
            (isoManifestName (isoName source)) :=
    fun pending hpending => not_or.mp (hsafe.gap pending hpending)
  have hspec := materializeIso_spec hfresh.apart
  have htouched : ∀ op ∈ (materializeIso token root source (isoName source)).script,
      ∀ name ∈ op.touched, _ ∨ _ :=
    fun op hop => @touched_script host _ _ _ hfresh _ hop
  generalize materializeIso token root source (isoName source) = o at hspec h hroot' hgap htouched
  have hready : Ready root source (isoName source) := by
    cases hspec with
    | refused hnot err => cases h
    | cached c d hready => exact hready
    | published c hadPrevious hready => exact hready
  obtain ⟨hiso, hmanifest⟩ := not_isHidden_isoName hready.valid
  have hvisible := not_isHidden_of_validInstanceId hready.valid
  -- the restart changes nothing in plain sight
  have hplain : ∀ name, isHidden name = false → root' name = play root (o.script.take n) name := by
    intro name hname
    rw [hroot', reap_of_not_hidden hname]
  have hsource : root' source = root source := by
    rw [hplain source hvisible]
    refine play_of_not_touched fun op hop hmem => ?_
    rcases htouched op (List.mem_of_mem_take hop) source hmem with htemporary | hchange
    · cases (isHidden_of_temporaries htemporary).symm.trans hvisible
    · rcases List.mem_pair.mp hchange with heq | heq
      · exact hready.source_ne.1 heq
      · exact hready.source_ne.2 heq
  refine hready.congr hsource ?_
  cases hspec with
  | refused hnot err => cases h
  | cached c d hready =>
    rw [hplain _ hiso, hplain _ hmanifest, List.take_nil, play_nil]
    exact Or.inl ⟨rfl, rfl⟩
  | published c hadPrevious hready hdirectory hprevious =>
    rw [hplain _ hiso, hplain _ hmanifest]
    rcases publication_cut hfresh.apart
        (play_published_iso hfresh.apart hdirectory hprevious) hgap rfl with
      hsame | hnone | hpair
    · exact Or.inl hsame
    · exact Or.inr (Or.inl hnone)
    · refine Or.inr (Or.inr ⟨_, _, (hplain _ hiso).trans hpair.1,
        (hplain _ hmanifest).trans hpair.2⟩)

theorem cleanup_repeats {instanceId : String} {n : Nat}
    (hsafe : SafePoint host token root (.cleanup instanceId) n)
    (h : (cleanup host root instanceId).result = .ok reply) {root' : Root}
    (hroot' : root' = reap host (play root ((cleanup host root instanceId).script.take n))) :
    validInstanceId instanceId = true ∧ cleanupChecks host root' instanceId = .ok () := by
  have hvalid : validInstanceId instanceId = true := by
    by_contra hinvalid
    rw [cleanup, if_pos (by simpa using hinvalid)] at h
    cases h
  have hchecks : cleanupChecks host root instanceId = .ok () := by
    rcases cleanup_effect with ⟨_, err, herror⟩ | ⟨hchecks, _⟩
    · cases herror.symm.trans h
    · exact hchecks
  have hcut := cleanup_cut hvalid hchecks hsafe.gap
  obtain ⟨hiso, hmanifest⟩ := not_isHidden_isoName hvalid
  refine ⟨hvalid, cleanupChecks_congr hcut (Or.inl ?_) (Or.inl ?_) (Or.inl ?_)⟩ <;> rw [hroot']
  · exact reap_of_not_hidden (not_isHidden_of_validInstanceId hvalid)
  · exact reap_of_not_hidden hmanifest
  · exact reap_of_not_hidden hiso

theorem recovers_of_safe {e : Event}
    (hquiet : Quiet root) (hlegal : Legal host root e) (hsafe : Safe host root e) :
    Quiet (after host root e) ∧ Recovers host root e := by
  cases hcrash : e.crash with
  | none =>
    refine ⟨?_, fun _ _ hno => absurd hcrash hno, fun hno => absurd hcrash hno⟩
    simp only [after, hcrash]
    exact hlegal.quiet_play hquiet
  | some n =>
    have hpoint := hsafe n hcrash
    have hafter :
        after host root e
          =
        reap host (play root ((e.call.outcome host e.token root).script.take n)) := by
      simp only [after, hcrash]
    have hquiet' : Quiet (after host root e) := by
      rw [hafter]
      exact hlegal.quiet_cut hquiet hpoint
    refine ⟨hquiet', ?_, ?_⟩
    · rintro input hcall - instanceId c hvalid hroot
      have hfresh := hlegal.fresh
      rw [hcall] at hfresh hpoint hafter
      rw [hafter]
      exact directories_kept hfresh hpoint hvalid hroot
    · rintro - ⟨reply, hreply⟩ token' hlegal'
      refine ⟨?_, hlegal'.quiet_play hquiet'⟩
      obtain ⟨token, call, crash⟩ := e
      have hfresh := hlegal.fresh
      have hfresh' := hlegal'.fresh
      cases call with
      | generate input => exact ⟨_, (generate_repeats hfresh hpoint hreply hafter hfresh').1⟩
      | materializeIso source output =>
        obtain rfl := hlegal.output source output rfl
        have hready := materializeIso_ready hfresh hpoint hreply hafter
        have hspec := materializeIso_spec hfresh'.apart
        show ∃ reply, (materializeIso token' _ source (isoName source)).result = .ok reply
        generalize materializeIso token' _ source (isoName source) = o at hspec
        cases hspec with
        | refused hnot err => exact absurd hready hnot
        | cached c d => exact ⟨_, rfl⟩
        | published c hadPrevious => exact ⟨_, rfl⟩
      | cleanup instanceId =>
        obtain ⟨hvalid, hchecks⟩ := cleanup_repeats hpoint hreply hafter
        refine ⟨.removed, ?_⟩
        show (cleanup host _ instanceId).result = _
        rw [cleanup_script hvalid hchecks]

end Recovery

/-- **In a run whose interruptions are at safe points** no directory is lost,
every interrupted call can be repeated, and no secret stays behind. -/
theorem interrupted_calls_recover (host : Host) (events : List Event)
    (hlegal : EachStep (after host) (Legal host) Root.empty events)
    (hsafe : EachStep (after host) (Safe host) Root.empty events) :
    EachStep (after host) (Recovers host) Root.empty events :=
  eachStep_of_guarded
    (fun _ _ hquiet hguard => (recovers_of_safe hquiet hguard.1 hguard.2).1)
    (fun _ _ hquiet hguard => (recovers_of_safe hquiet hguard.1 hguard.2).2)
    Root.empty
    events
    quiet_empty
    (hlegal.and hsafe)

section Interrupted

variable {host : Host} {token : String} {root : Root} {input : ConfigDriveInput}

theorem safePoint_of_preparation
    (hfresh : Fresh token root (.generate input)) (hid : host.isUuid input.instanceId = true)
    {n : Nat}
    (hn :
      n < (preparation (temporaryName input.instanceId token) input.instanceId
        (input.contents host)).length) :
    SafePoint host token root (.generate input) n := by
  refine ⟨?_, Or.inl hid⟩
  have hspec : Generates host token root input (generate host token root input) :=
    generate_spec hfresh
  show ∀ pending, (generate host token root input).script[n]? = some pending →
    ¬ InGap token root (.generate input) (generate host token root input).script n pending
  generalize generate host token root input = o at hspec
  rintro pending hpending ⟨rfl, -⟩
  have hprepared :
      ∀ tail, o.script = preparation (temporaryName input.instanceId token) input.instanceId
          (input.contents host) ++ tail →
        False := by
    intro tail hscript
    rw [hscript, List.getElem?_append_left hn] at hpending
    cases touched_preparation (List.mem_of_getElem? hpending)
  cases hspec with
  | refused e hinvalid => cases hpending
  | created => exact hprepared _ rfl
  | replaced => exact hprepared _ (List.append_assoc _ _ _)
  | unowned => exact hprepared _ rfl

/-- **What goes wrong**: between the two renames there is no directory, and the
restart removes both the old and the new one. -/
theorem lost_between_renames
    (hfresh : Fresh token root (.generate input)) (hvalidate : validate host input = .ok ())
    {old : Contents}
    (hroot : root input.instanceId = some (.directory (layout input.instanceId old))) :
    after host root
        ⟨token, .generate input,
          some ((preparation (temporaryName input.instanceId token) input.instanceId
            (input.contents host)).length + 1)⟩
        input.instanceId = none := by
  have hvalid := validInstanceId_of_validate hvalidate
  have hsucceeds := (generate_of_valid hfresh hvalidate (Or.inr ⟨old, hroot⟩)).1
  have hspec : Generates host token root input (generate host token root input) :=
    generate_spec hfresh
  show reap host (play root ((generate host token root input).script.take _)) input.instanceId = _
  rw [reap_of_not_hidden (not_isHidden_of_validInstanceId hvalid)]
  generalize generate host token root input = o at hspec hsucceeds
  cases hspec with
  | refused e hinvalid => cases hsucceeds
  | created _ habsent => cases habsent.symm.trans hroot
  | unowned => cases hsucceeds
  | replaced _ old' _ =>
    have hbackup : input.instanceId ≠ backupName input.instanceId token := hidden_ne_of_valid hvalid
    dsimp only
    rw [List.append_assoc, play_take_append, Nat.add_sub_cancel_left]
    exact rename_source hbackup

end Interrupted

theorem legal_generate {host : Host} {root : Root} {token : String} {input : ConfigDriveInput}
    {crash : Option Nat} (hroot : ∀ name, isHidden name = true → root name = none)
    (htoken : host.isUuid token = true) (hvalid : validInstanceId input.instanceId = true) :
    Legal host root ⟨token, .generate input, crash⟩ := by
  refine ⟨htoken, fresh_of_no_hidden hroot ?_, fun _ _ h => by cases h⟩
  simpa [Call.names] using not_isHidden_of_validInstanceId hvalid

/-- A drive is generated, and generated again up to a crash before operation `n`. -/
def regeneration (n : Nat) : List Event :=
  [⟨"0190c6a0-0000-7000-8000-00000000000a", .generate (sampleInput none), none⟩,
    ⟨"0190c6a0-0000-7000-8000-00000000000b", .generate (sampleInput none), some n⟩]

def generatedRoot : Root :=
  Function.update Root.empty sampleInstance
    (some (.directory (layout sampleInstance ((sampleInput none).contents sampleHost))))

theorem validate_sampleInput : validate sampleHost (sampleInput none) = .ok () := by
  decide +kernel

theorem validInstanceId_sampleInstance : validInstanceId sampleInstance = true := by
  decide

theorem generatedRoot_hidden : ∀ name, isHidden name = true → generatedRoot name = none :=
  no_hidden_update (fun _ _ => rfl) (not_isHidden_of_validInstanceId validInstanceId_sampleInstance)

theorem after_generate_sample (token : String) :
    after sampleHost Root.empty ⟨token, .generate (sampleInput none), none⟩ = generatedRoot :=
  step_generate (fun _ _ => rfl) validate_sampleInput (Or.inl rfl)

theorem legal_regeneration (n : Nat) :
    EachStep (after sampleHost) (Legal sampleHost) Root.empty (regeneration n) := by
  refine ⟨legal_generate (fun _ _ => rfl) (by decide) validInstanceId_sampleInstance, ?_, trivial⟩
  rw [after_generate_sample]
  exact legal_generate generatedRoot_hidden (by decide) validInstanceId_sampleInstance

/-- A crash between the renames loses the directory of the instance. -/
theorem interrupted_generation_loses_directory :
    EachStep (after sampleHost) (Legal sampleHost) Root.empty (regeneration 8) ∧
      ¬ EachStep (after sampleHost) (Recovers sampleHost) Root.empty (regeneration 8) := by
  refine ⟨legal_regeneration 8, fun h => ?_⟩
  have hrecovers := h.2.1
  have hlegal := (legal_regeneration 8).2.1
  rw [after_generate_sample] at hrecovers hlegal
  have hroot : generatedRoot sampleInstance = some (.directory (layout sampleInstance _)) :=
    Function.update_self _ _ _
  obtain ⟨c', hc'⟩ :=
    hrecovers.directories _ rfl (by simp) _ _ validInstanceId_sampleInstance hroot
  cases (lost_between_renames hlegal.fresh validate_sampleInput hroot).symm.trans hc'

/-- A crash while the new directory is prepared loses nothing. -/
theorem interrupted_preparation_recovers :
    EachStep (after sampleHost) (Recovers sampleHost) Root.empty (regeneration 3) := by
  refine interrupted_calls_recover sampleHost (regeneration 3) (legal_regeneration 3)
    ⟨fun _ h => (by cases h), ?_, trivial⟩
  have hlegal := (legal_regeneration 3).2.1
  rw [after_generate_sample] at hlegal ⊢
  rintro n ⟨rfl⟩
  exact safePoint_of_preparation hlegal.fresh (by decide) (by simp [preparation])

/-- **Calls keep to their own names**: in every run, with crashes anywhere and
whatever the root holds, a visible name that is none of those a call publishes
or removes keeps its node. -/
theorem other_names_kept (host : Host) (root : Root) (events : List Event)
    (hfresh : EachStep (after host) (fun root e => Fresh e.token root e.call) root events)
    {name : String} (hvisible : isHidden name = false)
    (hothers : ∀ e ∈ events, name ∉ e.call.changes) :
    Always (after host) (fun r => r name = root name) root events := by
  refine always_of_guarded (I := fun r => r name = root name) ?_ root events rfl
    (hfresh.and (eachStep_of_forall (fun e he _ => hothers e he) root))
  rintro r ⟨token, call, crash⟩ hr ⟨hcall, hother⟩
  have hkept : ∀ op ∈ (call.outcome host token r).script, name ∉ op.touched := by
    intro op hop hmem
    rcases touched_script hcall hop name hmem with htemporary | hchange
    · cases (isHidden_of_temporaries htemporary).symm.trans hvisible
    · exact hother hchange
  rw [← hr]
  cases crash with
  | none => exact play_of_not_touched hkept
  | some n =>
    refine (reap_of_not_hidden hvisible).trans (play_of_not_touched ?_)
    exact fun op hop => hkept op (List.mem_of_mem_take hop)

def otherInstance : String := "0190c6a0-0000-7000-8000-000000000002"

/-- The drive of another instance, as it was generated. -/
def otherDrive : Node :=
  .directory
    (layout otherInstance
      ({ sampleInput (some []) with instanceId := otherInstance }.contents sampleHost))

/-- The drive of another instance, while one is generated, and generated again
up to a crash between the renames. -/
theorem other_drive_kept :
    Always (after sampleHost) (fun r => r otherInstance = some otherDrive)
      (Function.update Root.empty otherInstance (some otherDrive)) (regeneration 8) := by
  have hvisible : isHidden otherInstance = false := by decide
  exact other_names_kept sampleHost (Function.update Root.empty otherInstance (some otherDrive))
    (regeneration 8) (by decide +kernel) hvisible (by decide)

end ConfigDrive
end O3k
