import O3k.ConfigDrive.Store

/-!
# What the scripts do to the root

Preparation builds the complete directory of an instance under a temporary
name, removal takes a whole entry away, and the calls put these together.
-/

namespace O3k
namespace ConfigDrive

open Semantics
open Function (update update_comm update_eq_self update_idem update_of_ne update_self)

namespace Directory

theorem has_erase_self (d : Directory) (e : Entry) : (d.erase e).has e = false := by
  cases e <;> simp [erase, has]

theorem has_erase_of_ne (d : Directory) {e e' : Entry} (h : e ≠ e') :
    (d.erase e).has e' = d.has e' := by
  cases e <;> cases e' <;> first | rfl | exact absurd rfl h | skip
  rename_i path path'
  have hne : path' ≠ path := fun heq => h (by rw [heq])
  simp [erase, has, hne]

theorem has_foldl_erase (entries : List Entry) (d : Directory) (e : Entry) :
    (entries.foldl erase d).has e = (d.has e && e ∉ entries) := by
  induction entries generalizing d with
  | nil => simp
  | cons f rest ih =>
    rw [List.foldl_cons, ih]
    by_cases hef : f = e
    · rw [hef, has_erase_self]
      simp
    · rw [has_erase_of_ne d hef]
      simp [Ne.symm hef]

theorem eq_empty_of_has {d : Directory} (h : ∀ e, d.has e = false) : d = empty := by
  obtain ⟨manifest, openstack, latest, metaData, networkData, userData, vendorData, others⟩ := d
  have hothers : others = [] := by
    refine List.eq_nil_iff_forall_not_mem.mpr fun path hpath => ?_
    have := h (.other path)
    simp [has, hpath] at this
  have hmanifest := h .manifest
  have hopenstack := h .openstack
  have hlatest := h .latest
  have hmeta := h .metaData
  have hnetwork := h .networkData
  have huser := h .userData
  have hvendor := h .vendorData
  simp only [has, Option.isSome_eq_false_iff, Option.isNone_iff_eq_none] at *
  simp [empty, *]

theorem foldl_erase_entries (host : Host) (d : Directory) :
    (host.entries d).foldl erase d = empty := by
  refine eq_empty_of_has fun e => ?_
  rw [has_foldl_erase]
  cases he : d.has e with
  | false => rfl
  | true => simp [(host.mem_entries d e).mpr he]

end Directory

section Play

variable (root : Root)

@[simp] theorem play_nil : play root [] = root := by
  rfl

@[simp] theorem play_cons (op : FileOp) (script : List FileOp) :
    play root (op :: script) = play (op.apply root) script := by
  rfl

theorem play_append (script script' : List FileOp) :
    play root (script ++ script') = play (play root script) script' :=
  run_append root script script'

theorem onDirectory_update (name : String) (d : Directory) (f : Directory → Directory) :
    Root.onDirectory (update root name (some (.directory d))) name f =
    update root name (some (.directory (f d))) := by
  unfold Root.onDirectory
  simp

theorem play_removeEntries (name : String) (entries : List Entry) (d : Directory) :
    play (update root name (some (.directory d))) (entries.map (.removeEntry name)) =
    update root name (some (.directory (entries.foldl Directory.erase d))) := by
  induction entries generalizing d with
  | nil => rfl
  | cons e rest ih =>
    rw [List.map_cons, play_cons, List.foldl_cons, FileOp.apply, onDirectory_update, ih]

theorem play_removal (host : Host) (name : String) :
    play root (removal host root name) = update root name none := by
  unfold removal
  split
  · rename_i d hd
    have hroot : root = update root name (some (.directory d)) := by
      rw [← hd, update_eq_self]
    rw [play_append]
    conv_lhs => rw [hroot, play_removeEntries, Directory.foldl_erase_entries]
    simp [FileOp.apply]
  · simp [FileOp.apply]
  · rename_i hnone
    rw [play_nil, ← hnone, update_eq_self]

theorem play_preparation (temporary instanceId : String) (c : Contents) :
    play root (preparation temporary instanceId c) =
    update root temporary (some (.directory (layout instanceId c))) := by
  obtain ⟨metaData, userData, networkData, vendorData⟩ := c
  unfold preparation
  cases vendorData <;>
    simp [FileOp.apply, onDirectory_update, Directory.mkdir, Directory.write, Directory.empty,
      layout]

end Play

section Rename

variable {root : Root} {source target : String}

theorem update_none (h : root source = none) : update root source none = root := by
  rw [← h, update_eq_self]

theorem rename_of_some {node : Node} (h : root source = some node) :
    (FileOp.rename source target).apply root =
    update (update root source none) target (some node) := by
  simp only [FileOp.apply, h]

theorem rename_update (h : root source = none) (node : Node) :
    (FileOp.rename source target).apply (update root source (some node)) =
    update root target (some node) := by
  rw [rename_of_some (update_self _ _ _), update_idem, update_none h]

end Rename

section Generate

variable {host : Host} {token : String} {root : Root} {input : ConfigDriveInput}

theorem validInstanceId_of_validate (h : validate host input = .ok ()) :
    validInstanceId input.instanceId = true := by
  have hwell : wellFormed input = true := by
    by_contra hnot
    rw [validate, if_pos (Bool.eq_false_iff.mpr hnot)] at h
    cases h
  simp only [wellFormed, Bool.and_eq_true] at hwell
  exact hwell.1.1.1.1.1

inductive Generates (host : Host) (token : String) (root : Root) (input : ConfigDriveInput) :
    Outcome → Prop
  | refused (e : ConfigDriveError) (hinvalid : validate host input = .error e) :
      Generates host token root input (refused e)
  | created (hvalid : validInstanceId input.instanceId = true)
      (habsent : root input.instanceId = none) :
      Generates host token root input
        ⟨preparation (temporaryName input.instanceId token) input.instanceId
            (input.contents host) ++
            [.rename (temporaryName input.instanceId token) input.instanceId],
          .ok (.generated ⟨input.instanceId, fingerprint (input.contents host)⟩)⟩
  | replaced (hvalid : validInstanceId input.instanceId = true) (old : Contents)
      (hold : root input.instanceId = some (.directory (layout input.instanceId old))) :
      Generates host token root input
        ⟨preparation (temporaryName input.instanceId token) input.instanceId
            (input.contents host) ++
            [.rename input.instanceId (backupName input.instanceId token),
              .rename (temporaryName input.instanceId token) input.instanceId] ++
            removal host
              (update
                (update root (backupName input.instanceId token)
                  (some (.directory (layout input.instanceId old))))
                input.instanceId
                (some (.directory (layout input.instanceId (input.contents host)))))
              (backupName input.instanceId token),
          .ok (.generated ⟨input.instanceId, fingerprint (input.contents host)⟩)⟩
  | unowned (hvalid : validInstanceId input.instanceId = true)
      (hpresent : root input.instanceId ≠ none) (e : ConfigDriveError)
      (hunowned : validateOwnedAt root input.instanceId = .error e) :
      Generates host token root input
        ⟨preparation (temporaryName input.instanceId token) input.instanceId
            (input.contents host) ++
            removal host
              (update root (temporaryName input.instanceId token)
                (some (.directory (layout input.instanceId (input.contents host)))))
              (temporaryName input.instanceId token),
          .error e⟩

theorem validateOwnedAt_update_of_ne {name other : String} (h : name ≠ other) (node : Option Node) :
    validateOwnedAt (update root other node) name = validateOwnedAt root name := by
  unfold validateOwnedAt
  rw [update_of_ne h]

theorem hidden_ne_of_valid {instanceId stem mark : String} (h : validInstanceId instanceId = true) :
    instanceId ≠ hidden stem mark token := by
  rintro rfl
  cases (not_isHidden_of_validInstanceId h).symm.trans (isHidden_hidden _ _ _)

theorem play_published {instanceId temporary backup : String} {old : Node} (new : Node)
    (hid : instanceId ≠ temporary) (htemporary : root temporary = none) (hne : temporary ≠ backup)
    (hbackup : instanceId ≠ backup) (hold : root instanceId = some old) :
    play (update root temporary (some new))
        [.rename instanceId backup, .rename temporary instanceId]
      =
    update (update root backup (some old)) instanceId (some new) := by
  have hfirst : update root temporary (some new) instanceId = some old := by
    rw [update_of_ne hid, hold]
  have hsecond :
      update
          (update (update root temporary (some new)) instanceId none)
          backup (some old) temporary = some new := by
    rw [update_of_ne hne, update_of_ne hid.symm, update_self]
  rw [play_cons, rename_of_some hfirst, play_cons, rename_of_some hsecond, play_nil]
  funext name
  by_cases h₁ : name = instanceId
  · simp [h₁]
  · by_cases h₂ : name = temporary
    · subst h₂
      simp [h₁, hne, htemporary]
    · by_cases h₃ : name = backup
      · subst h₃
        simp [h₁, h₂]
      · simp [h₁, h₂, h₃]

theorem generate_spec (hfresh : Fresh token root (.generate input)) :
    Generates host token root input (generate host token root input) := by
  unfold generate
  cases hvalidate : validate host input with
  | error e => exact .refused e hvalidate
  | ok =>
    have hvalid := validInstanceId_of_validate hvalidate
    have hne : input.instanceId ≠ temporaryName input.instanceId token := hidden_ne_of_valid hvalid
    have htemporary := (hfresh _ (List.mem_cons_self ..)).1
    have hid :
        update root (temporaryName input.instanceId token)
            (some (.directory (layout input.instanceId (input.contents host))))
            input.instanceId = root input.instanceId :=
      update_of_ne hne _ _
    simp only [play_append, play_preparation, hid, validateOwnedAt_update_of_ne hne]
    cases hroot : root input.instanceId with
    | none => exact .created hvalid hroot
    | some node =>
      dsimp only
      cases howned : validateOwnedAt root input.instanceId with
      | error e => exact .unowned hvalid (by simp [hroot]) e howned
      | ok =>
        obtain ⟨old, hold⟩ := validateOwnedAt_eq_ok.mp howned
        have hmarks :
            temporaryName input.instanceId token ≠ backupName input.instanceId token := by
          simp [temporaryName, backupName, hidden]
        dsimp only
        rw [play_published (.directory (layout input.instanceId (input.contents host)))
          hne htemporary hmarks (hidden_ne_of_valid hvalid) hold]
        exact .replaced hvalid old hold

/-- A generation puts the complete directory in place, or changes nothing. -/
theorem Generates.effect {o : Outcome}
    (h : Generates host token root input o) (hfresh : Fresh token root (.generate input)) :
    (play root o.script = root ∧ ∃ e, o.result = .error e) ∨
      (play root o.script =
        update root input.instanceId
          (some (.directory (layout input.instanceId (input.contents host)))) ∧
        validInstanceId input.instanceId = true ∧
        (root input.instanceId = none ∨
          ∃ old, root input.instanceId = some (.directory (layout input.instanceId old)))) := by
  have htemporary := (hfresh _ (List.mem_cons_self ..)).1
  have hbackup := (hfresh _ (List.mem_cons_of_mem _ (List.mem_cons_self ..))).1
  cases h with
  | refused e _ => exact Or.inl ⟨rfl, e, rfl⟩
  | created hvalid habsent =>
    refine Or.inr ⟨?_, hvalid, Or.inl habsent⟩
    rw [play_append, play_preparation, play_cons, rename_update htemporary, play_nil]
  | replaced hvalid old hold =>
    refine Or.inr ⟨?_, hvalid, Or.inr ⟨old, hold⟩⟩
    have hmarks :
        temporaryName input.instanceId token ≠ backupName input.instanceId token := by
      simp [temporaryName, backupName, hidden]
    have hne : input.instanceId ≠ temporaryName input.instanceId token := hidden_ne_of_valid hvalid
    have hne' : input.instanceId ≠ backupName input.instanceId token := hidden_ne_of_valid hvalid
    rw [play_append, play_append, play_preparation,
      play_published (.directory (layout input.instanceId (input.contents host)))
        hne htemporary hmarks hne' hold,
      play_removal, update_comm hne', update_idem, update_none hbackup]
  | unowned hvalid hpresent e hunowned =>
    refine Or.inl ⟨?_, e, rfl⟩
    rw [play_append, play_preparation, play_removal, update_idem, update_none htemporary]

theorem generate_of_valid
    (hfresh : Fresh token root (.generate input)) (hvalidate : validate host input = .ok ())
    (hfree :
      root input.instanceId = none ∨
        ∃ c, root input.instanceId = some (.directory (layout input.instanceId c))) :
    (generate host token root input).result =
      .ok (.generated ⟨input.instanceId, fingerprint (input.contents host)⟩) ∧
    play root (generate host token root input).script =
      update root input.instanceId
        (some (.directory (layout input.instanceId (input.contents host)))) := by
  have hspec : Generates host token root input (generate host token root input) :=
    generate_spec hfresh
  have heffect := hspec.effect hfresh
  generalize generate host token root input = o at hspec heffect
  have hsucceeds : o.result = .ok
      (.generated ⟨input.instanceId, fingerprint (input.contents host)⟩) := by
    cases hspec with
    | refused e hinvalid => cases hvalidate.symm.trans hinvalid
    | created => rfl
    | replaced => rfl
    | unowned hvalid hpresent e hunowned =>
      rcases hfree with hnone | howned
      · exact absurd hnone hpresent
      · cases (validateOwnedAt_eq_ok.mpr howned).symm.trans hunowned
  refine ⟨hsucceeds, ?_⟩
  rcases heffect with ⟨_, e, herror⟩ | ⟨hnew, _, _⟩
  · cases hsucceeds.symm.trans herror
  · exact hnew

end Generate

section Cleanup

variable {host : Host} {root : Root} {instanceId : String}

theorem cleanup_effect :
    (cleanup host root instanceId).script = [] ∧
        (∃ e, (cleanup host root instanceId).result = .error e) ∨
      (cleanupChecks host root instanceId = .ok () ∧
        (cleanup host root instanceId).result = .ok .removed ∧
        play root (cleanup host root instanceId).script = update
          (update (update root instanceId none) (isoName instanceId) none)
          (isoManifestName (isoName instanceId)) none) := by
  unfold cleanup
  split_ifs with hvalid
  · exact Or.inl ⟨rfl, _, rfl⟩
  · cases hchecks : cleanupChecks host root instanceId with
    | error e => exact Or.inl ⟨rfl, e, rfl⟩
    | ok =>
      refine Or.inr ⟨rfl, rfl, ?_⟩
      dsimp only
      rw [play_append, play_removal]
      split_ifs with hiso hmanifest
      · rfl
      · rw [Option.not_isSome_iff_eq_none] at hiso
        have hnone : update root instanceId none (isoName instanceId) = none := by
          rw [Function.update_apply]
          split_ifs
          · rfl
          · exact hiso
        rw [update_none hnone]
        rfl
      · rw [Option.not_isSome_iff_eq_none] at hiso hmanifest
        have hnone : ∀ name, root name = none → update root instanceId none name = none := by
          intro name hname
          rw [Function.update_apply]
          split_ifs
          · rfl
          · exact hname
        rw [update_none (hnone _ hiso), update_none (hnone _ hmanifest)]
        rfl

end Cleanup

section Materialize

variable {token : String} {root : Root} {source output : String}

theorem isoManifestName_injective : Function.Injective isoManifestName := by
  intro output output' h
  have hlist := congrArg String.toList h
  simp only [isoManifestName, String.toList_append] at hlist
  exact String.toList_inj.mp (List.append_cancel_right hlist)

theorem isoManifestName_ne (output : String) : isoManifestName output ≠ output := by
  intro h
  have hlength := congrArg (fun s => s.toList.length) h
  simp [isoManifestName, isoManifestSuffix] at hlength

variable {m : IsoOwnershipManifest}

theorem isoManifestNames_iff {instanceId outputName : String} :
    isoManifestNames m instanceId outputName = true ↔
      m = ⟨1, isoManagedBy, instanceId, m.sourceFingerprintSha256,
        m.artifactFingerprintSha256, outputName⟩ := by
  obtain ⟨version, managed, id, print, artifact, name⟩ := m
  simp [isoManifestNames, and_assoc]

theorem inspectOwnedIso_eq_ok {output manifestPath instanceId expected : String}
    {digest : Sha256 Directory} :
    inspectOwnedIso root output manifestPath instanceId expected = .ok (m, digest) ↔
      m = ⟨1, isoManagedBy, instanceId, m.sourceFingerprintSha256, digest, expected⟩ ∧
        root manifestPath = some (.file (.isoManifest m)) ∧
        root output = some (.file (.iso digest.preimage)) := by
  unfold inspectOwnedIso verifyRegularFileDigest
  constructor
  · intro h
    split at h
    · rename_i manifest hmanifest
      split_ifs at h with hnames
      split at h
      · cases h
      · rename_i digest' hdigest
        split at hdigest
        · rename_i d hd
          cases hdigest
          split_ifs at h with hartifact
          cases h
          simp only [ne_eq, Decidable.not_not] at hartifact
          refine ⟨?_, hmanifest, hd⟩
          rw [hartifact]
          exact isoManifestNames_iff.mp hnames
        · cases hdigest
    · cases h
  · rintro ⟨hm, hmanifest, hiso⟩
    have hartifact : m.artifactFingerprintSha256 = digest := by rw [hm]
    have hnames : isoManifestNames m instanceId expected = true := by
      rw [isoManifestNames_iff, hartifact]
      exact hm
    simp [hmanifest, hiso, hnames, hartifact]

theorem play_moves {temporary temporaryManifest output manifestPath : String}
    {image manifest : Node} (htemporary : root temporary = none)
    (hmanifest : root temporaryManifest = none) (hnames : temporary ≠ temporaryManifest)
    (houtput : temporaryManifest ≠ output) :
    play (update (update root temporary (some image)) temporaryManifest (some manifest))
        [.rename temporary output, .rename temporaryManifest manifestPath]
      =
    update (update root output (some image)) manifestPath (some manifest) := by
  have hfirst : update root temporaryManifest (some manifest) temporary = none := by
    rw [update_of_ne hnames, htemporary]
  have hsecond : update root output (some image) temporaryManifest = none := by
    rw [update_of_ne houtput, hmanifest]
  rw [play_cons, update_comm hnames, rename_update hfirst,
    update_comm houtput, play_cons, rename_update hsecond, play_nil]

/-- The names that a publication makes and moves to. -/
structure Apart (token : String) (root : Root) (source output : String) : Prop where
  temporary : root (isoTemporaryName source token) = none
  temporaryManifest : root (manifestTemporaryName source token) = none
  backup : root (isoBackupName source token) = none
  backupManifest : root (manifestBackupName source token) = none
  fromOutput :
    ∀ name ∈ (Call.materializeIso source output).temporaries token, name ≠ output
  fromManifest :
    ∀ name ∈ (Call.materializeIso source output).temporaries token, name ≠ isoManifestName output

theorem Fresh.apart (h : Fresh token root (.materializeIso source output)) :
    Apart token root source output := by
  have hnone := fun name hname => (h name hname).1
  simp only [Call.temporaries, List.mem_cons, List.not_mem_nil, or_false, forall_eq_or_imp,
    forall_eq] at hnone
  obtain ⟨h₁, h₂, h₃, h₄⟩ := hnone
  refine ⟨h₁, h₂, h₃, h₄, ?_, ?_⟩
  · rintro name hname rfl
    exact (h _ hname).2 (by simp [Call.names])
  · rintro name hname rfl
    exact (h _ hname).2 (by simp [Call.names])

theorem publication_names_ne (source token : String) :
    isoTemporaryName source token ≠ manifestTemporaryName source token ∧
      isoBackupName source token ≠ manifestBackupName source token ∧
      isoTemporaryName source token ≠ isoBackupName source token ∧
      isoTemporaryName source token ≠ manifestBackupName source token ∧
      manifestTemporaryName source token ≠ isoBackupName source token ∧
      manifestTemporaryName source token ≠ manifestBackupName source token := by
  refine ⟨?_, ?_, ?_, ?_, ?_, ?_⟩ <;> intro h <;>
    simp [isoTemporaryName, manifestTemporaryName, isoBackupName, manifestBackupName, hidden,
      String.ext_iff] at h

variable {hadPrevious : Bool}

theorem Apart.play_publication (h : Apart token root source output) (image manifest : Node)
    (hprevious :
      hadPrevious = true →
        (root output).isSome = true ∧ (root (isoManifestName output)).isSome = true) :
    play
        (update (update root (isoTemporaryName source token) (some image))
          (manifestTemporaryName source token) (some manifest))
        (publication token source output hadPrevious)
      =
    update (update root output (some image)) (isoManifestName output) (some manifest) := by
  obtain ⟨hnames, hbackups, h₁, h₂, h₃, h₄⟩ := publication_names_ne source token
  have hout := h.fromOutput
  have hman := h.fromManifest
  simp only [Call.temporaries, List.mem_cons, List.not_mem_nil, or_false, forall_eq_or_imp,
    forall_eq] at hout hman
  obtain ⟨ho₁, ho₂, ho₃, ho₄⟩ := hout
  obtain ⟨hm₁, hm₂, hm₃, hm₄⟩ := hman
  have hpair := isoManifestName_ne output
  cases hadPrevious with
  | false => exact play_moves h.temporary h.temporaryManifest hnames ho₂
  | true =>
    obtain ⟨hoSome, hmSome⟩ := hprevious rfl
    obtain ⟨old, hold⟩ := Option.isSome_iff_exists.mp hoSome
    obtain ⟨oldManifest, holdManifest⟩ := Option.isSome_iff_exists.mp hmSome
    have htemporary := h.temporary
    have htemporaryManifest := h.temporaryManifest
    have hbackup := h.backup
    have hbackupManifest := h.backupManifest
    clear h
    simp only [publication, if_true]
    generalize htm : manifestTemporaryName source token = temporaryManifest at *
    generalize ht : isoTemporaryName source token = temporary at *
    generalize hb : isoBackupName source token = backup at *
    generalize hbm : manifestBackupName source token = backupManifest at *
    generalize hmn : isoManifestName output = manifestPath at *
    -- the root without the temporaries, the previous pair moved away
    let aside : Root :=
      update
        (update (update (update root output none) backup (some old)) manifestPath none)
        backupManifest (some oldManifest)
    have haside :
        play
            (update (update root temporary (some image)) temporaryManifest (some manifest))
            [.rename output backup, .rename manifestPath backupManifest]
          =
        update (update aside temporary (some image)) temporaryManifest
          (some manifest) := by
      have hfirst :
          update (update root temporary (some image)) temporaryManifest
              (some manifest) output = some old := by
        rw [update_of_ne ho₂.symm, update_of_ne ho₁.symm, hold]
      rw [play_cons, rename_of_some hfirst]
      have hsecond :
          update
              (update
                (update (update root temporary (some image)) temporaryManifest (some manifest))
                output none)
              backup (some old) manifestPath = some oldManifest := by
        rw [update_of_ne hm₃.symm, update_of_ne hpair,
          update_of_ne hm₂.symm, update_of_ne hm₁.symm, holdManifest]
      rw [play_cons, rename_of_some hsecond, play_nil]
      funext name
      simp only [aside, Function.update_apply]
      split_ifs <;> simp_all
    rw [play_append, play_append, haside, play_moves _ _ hnames ho₂]
    · funext name
      simp only [aside, play_cons, play_nil, FileOp.apply, Function.update_apply]
      split_ifs <;> simp_all
    · simp only [aside, Function.update_apply]
      split_ifs <;> simp_all
    · simp only [aside, Function.update_apply]
      split_ifs <;> simp_all

/-- The pair that a publication leaves. -/
def isoManifestOf (source output : String) (fingerprint : Sha256 Bytes) (d : Directory) :
    IsoOwnershipManifest :=
  ⟨1, isoManagedBy, source, fingerprint, ⟨d⟩, output⟩

variable {d : Directory}

theorem validateOwnedIso_pair {image manifestPath : String} {fingerprint : Sha256 Bytes}
    (himage : root image = some (.file (.iso d)))
    (hmanifest :
      root manifestPath = some (.file (.isoManifest (isoManifestOf source output fingerprint d)))) :
    validateOwnedIso root image manifestPath source fingerprint output =
    .ok ⟨image, ⟨d⟩, fingerprint⟩ := by
  have hinspect :
      inspectOwnedIso root image manifestPath source output
        =
      .ok (isoManifestOf source output fingerprint d, ⟨d⟩) :=
    inspectOwnedIso_eq_ok.mpr ⟨rfl, hmanifest, himage⟩
  unfold validateOwnedIso
  rw [hinspect]
  exact if_neg (fun h => h rfl)

/-- Building under the temporary names. -/
def building (token source output : String) (fingerprint : Sha256 Bytes) (d : Directory) :
    List FileOp :=
  [.buildIso source (isoTemporaryName source token),
    .writeFile (manifestTemporaryName source token)
      (.isoManifest (isoManifestOf source output fingerprint d))]

theorem play_building (hsource : root source = some (.directory d)) (fingerprint : Sha256 Bytes) :
    play root (building token source output fingerprint d) = update
      (update root (isoTemporaryName source token) (some (.file (.iso d))))
      (manifestTemporaryName source token)
      (some (.file (.isoManifest (isoManifestOf source output fingerprint d)))) := by
  simp only [building, play_cons, play_nil, FileOp.apply, hsource]

/-- The operations of a materialization that runs to its end. -/
abbrev materialization (token source output : String) (fingerprint : Sha256 Bytes)
    (d : Directory) (hadPrevious : Bool) : List FileOp :=
  building token source output fingerprint d ++ publication token source output hadPrevious

/-- The root with an image and its manifest put at the output. -/
abbrev withImage (root : Root) (source output : String) (fingerprint : Sha256 Bytes)
    (d : Directory) : Root :=
  update (update root output (some (.file (.iso d)))) (isoManifestName output)
    (some (.file (.isoManifest (isoManifestOf source output fingerprint d))))

/-- **A publication never fails**, and leaves the image of the directory with
its manifest. -/
theorem Apart.publishIso
    (h : Apart token root source output) (hsource : root source = some (.directory d))
    (fingerprint : Sha256 Bytes)
    (hprevious :
      hadPrevious = true →
        (root output).isSome = true ∧ (root (isoManifestName output)).isSome = true) :
    publishIso token root source output fingerprint hadPrevious =
    ⟨materialization token source output fingerprint d hadPrevious,
      .ok (.materialized ⟨output, ⟨d⟩, fingerprint⟩)⟩ ∧
    play root (materialization token source output fingerprint d hadPrevious) =
    withImage root source output fingerprint d := by
  have hplay :
      play root
          (materialization token source output fingerprint d hadPrevious)
        =
      withImage root source output fingerprint d := by
    rw [play_append, play_building hsource]
    exact h.play_publication _ _ hprevious
  refine ⟨?_, hplay⟩
  have hnames := (publication_names_ne source token).1
  have hdigest :
      verifyRegularFileDigest
          (play root [.buildIso source (isoTemporaryName source token)])
          (isoTemporaryName source token) = .ok ⟨d⟩ := by
    simp [verifyRegularFileDigest, FileOp.apply, hsource]
  have hprepared :
      validateOwnedIso (play root (building token source output fingerprint d))
          (isoTemporaryName source token) (manifestTemporaryName source token) source fingerprint
          output = .ok ⟨isoTemporaryName source token, ⟨d⟩, fingerprint⟩ := by
    rw [play_building hsource]
    refine validateOwnedIso_pair ?_ (update_self _ _ _)
    rw [update_of_ne hnames, update_self]
  have hfinal :
      validateOwnedIso
          (play root (materialization token source output fingerprint d hadPrevious))
          output (isoManifestName output) source fingerprint output
        =
      .ok ⟨output, ⟨d⟩, fingerprint⟩ := by
    rw [hplay]
    refine validateOwnedIso_pair ?_ (update_self _ _ _)
    rw [withImage, update_of_ne (isoManifestName_ne output).symm, update_self]
  unfold ConfigDrive.publishIso
  simp only [building, isoManifestOf] at hprepared
  simp only [hdigest, List.singleton_append, hprepared]
  show Outcome.mk _ (Except.map _ (validateOwnedIso (play root (building _ _ _ _ _ ++ _)) _ _ _ _ _))
    = _
  rw [hfinal]
  rfl

/-- There is an image of the instance with its manifest at the output. -/
def HasPair (root : Root) (source output : String) (print : Sha256 Bytes) (d : Directory) : Prop :=
  root output = some (.file (.iso d)) ∧
    root (isoManifestName output)
      =
    some (.file (.isoManifest (isoManifestOf source output print d)))

theorem hasPair_withImage {print : Sha256 Bytes} :
    HasPair (withImage root source output print d) source output print d := by
  refine ⟨?_, update_self _ _ _⟩
  rw [withImage, update_of_ne (isoManifestName_ne output).symm, update_self]

structure Ready (root : Root) (source output : String) : Prop where
  valid : validInstanceId source = true
  outputName : isFileName output = true
  owned : ∃ c, root source = some (.directory (layout source c))
  free :
    (root output = none ∧ root (isoManifestName output) = none) ∨
      ∃ print d, HasPair root source output print d

inductive Materializes (token : String) (root : Root) (source output : String) : Outcome → Prop
  | refused (hnot : ¬ Ready root source output) (e : ConfigDriveError) :
      Materializes token root source output (refused e)
  | cached (c : Contents) (d : Directory) (hready : Ready root source output)
      (hsource : root source = some (.directory (layout source c)))
      (hpair : HasPair root source output (fingerprint c) d) :
      Materializes token root source output
        ⟨[], .ok (.materialized ⟨output, ⟨d⟩, fingerprint c⟩)⟩
  | published (c : Contents) (hadPrevious : Bool) (hready : Ready root source output)
      (hsource : root source = some (.directory (layout source c)))
      (hprevious :
        if hadPrevious then
          ∃ print d, HasPair root source output print d ∧ print ≠ fingerprint c
        else
          root output = none ∧ root (isoManifestName output) = none) :
      Materializes token root source output
        ⟨building token source output (fingerprint c) (layout source c) ++
            publication token source output hadPrevious,
          .ok (.materialized ⟨output, ⟨layout source c⟩, fingerprint c⟩)⟩

theorem inspectOwnedIso_hasPair {digest : Sha256 Directory}
    (h : inspectOwnedIso root output (isoManifestName output) source output = .ok (m, digest)) :
    HasPair root source output m.sourceFingerprintSha256 digest.preimage := by
  obtain ⟨hm, hmanifest, himage⟩ := inspectOwnedIso_eq_ok.mp h
  refine ⟨himage, ?_⟩
  rw [hmanifest, isoManifestOf]
  exact congrArg (fun m => some (Node.file (.isoManifest m))) hm

theorem HasPair.inspect {print : Sha256 Bytes} (h : HasPair root source output print d) :
    inspectOwnedIso root output (isoManifestName output) source output =
    .ok (isoManifestOf source output print d, ⟨d⟩) :=
  inspectOwnedIso_eq_ok.mpr ⟨rfl, h.2, h.1⟩

theorem materializeIso_spec (h : Apart token root source output) :
    Materializes token root source output (materializeIso token root source output) := by
  unfold materializeIso
  by_cases hnames : validInstanceId source = false ∨ isFileName output = false
  · rw [if_pos hnames]
    exact .refused (fun hready => by simp [hready.valid, hready.outputName] at hnames) _
  · rw [if_neg hnames]
    simp only [not_or, Bool.not_eq_false] at hnames
    cases howned : validateOwnedAt root source with
    | error e =>
      refine .refused (fun hready => ?_) e
      rw [validateOwnedAt_eq_ok.mpr hready.owned] at howned
      cases howned
    | ok =>
      obtain ⟨c, hsource⟩ := validateOwnedAt_eq_ok.mp howned
      have hprint : readDirectoryFingerprint root source = .ok (fingerprint c) := by
        simp [readDirectoryFingerprint, hsource, layout, ownershipManifest]
      simp only [hprint]
      split_ifs with hpresent habsent
      · refine .refused (fun hready => ?_) _
        rcases hready.free with ⟨hnone, hnone'⟩ | ⟨_, _, hpair⟩
        · simp [hnone, hnone'] at hpresent
        · simp [hpair.1] at habsent
      · cases hinspect :
            inspectOwnedIso root output (isoManifestName output) source output with
        | error e =>
          refine .refused (fun hready => ?_) e
          rcases hready.free with ⟨hnone, hnone'⟩ | ⟨_, _, hpair⟩
          · simp [hnone, hnone'] at hpresent
          · rw [hpair.inspect] at hinspect
            cases hinspect
        | ok p =>
          obtain ⟨m, digest⟩ := p
          have hpair := inspectOwnedIso_hasPair hinspect
          have hready : Ready root source output :=
            ⟨hnames.1, hnames.2, ⟨c, hsource⟩, Or.inr ⟨_, _, hpair⟩⟩
          dsimp only
          split_ifs with hsame
          · exact .cached c digest.preimage hready hsource (hsame ▸ hpair)
          · have hprevious : true = true →
                (root output).isSome = true ∧
                  (root (isoManifestName output)).isSome = true := by
              intro _
              rw [hpair.1, hpair.2]
              exact ⟨rfl, rfl⟩
            rw [(h.publishIso hsource (fingerprint c) hprevious).1]
            exact .published c true hready hsource ⟨_, _, hpair, hsame⟩
      · simp only [not_or, Option.not_isSome_iff_eq_none] at hpresent
        have hready : Ready root source output :=
          ⟨hnames.1, hnames.2, ⟨c, hsource⟩, Or.inl hpresent⟩
        have hprevious : false = true →
            (root output).isSome = true ∧ (root (isoManifestName output)).isSome = true :=
          fun hfalse => by cases hfalse
        rw [(h.publishIso hsource (fingerprint c) hprevious).1]
        exact .published c false hready hsource hpresent

theorem HasPair.unique {print print' : Sha256 Bytes} {d d' : Directory}
    (h : HasPair root source output print d) (h' : HasPair root source output print' d') :
    print = print' ∧ d = d' := by
  have himage := h.1.symm.trans h'.1
  have hmanifest := h.2.symm.trans h'.2
  simp only [Option.some.injEq, Node.file.injEq, FileContent.iso.injEq,
    FileContent.isoManifest.injEq, isoManifestOf, IsoOwnershipManifest.mk.injEq] at himage hmanifest
  exact ⟨hmanifest.2.2.2.1, himage⟩

theorem Apart.materializeIso_cached
    (h : Apart token root source output) {c : Contents} (hready : Ready root source output)
    (hsource : root source = some (.directory (layout source c)))
    (hpair : HasPair root source output (fingerprint c) d) :
    materializeIso token root source output =
    ⟨[], .ok (.materialized ⟨output, ⟨d⟩, fingerprint c⟩)⟩ := by
  have hspec := materializeIso_spec h
  generalize materializeIso token root source output = o at hspec
  cases hspec with
  | refused hnot e => exact absurd hready hnot
  | cached c' d' _ hsource' hpair' =>
    obtain ⟨hprint, rfl⟩ := hpair.unique hpair'
    rw [hprint]
  | published c' hadPrevious _ hsource' hprevious =>
    cases hadPrevious with
    | false => cases hprevious.1.symm.trans hpair.1
    | true =>
      obtain ⟨print, d', hpair', hstale⟩ := hprevious
      have hlayout := hsource.symm.trans hsource'
      simp only [Option.some.injEq, Node.directory.injEq] at hlayout
      obtain rfl := layout_injective hlayout
      exact absurd (hpair.unique hpair').1.symm hstale

theorem play_published_iso (h : Apart token root source output) {c : Contents}
    (hsource : root source = some (.directory (layout source c)))
    (hprevious :
      if hadPrevious then
        ∃ print d, HasPair root source output print d ∧ print ≠ fingerprint c
      else
        root output = none ∧ root (isoManifestName output) = none) :
    play root (materialization token source output (fingerprint c) (layout source c) hadPrevious) =
    withImage root source output (fingerprint c) (layout source c) := by
  refine (h.publishIso hsource (fingerprint c) ?_).2
  rintro rfl
  obtain ⟨print, d, hpair, _⟩ := hprevious
  rw [hpair.1, hpair.2]
  exact ⟨rfl, rfl⟩

theorem Apart.materializeIso_published
    (h : Apart token root source output) {c : Contents} (hready : Ready root source output)
    (hsource : root source = some (.directory (layout source c)))
    (hstale : ∀ d, ¬ HasPair root source output (fingerprint c) d) :
    (materializeIso token root source output).result =
      .ok (.materialized ⟨output, ⟨layout source c⟩, fingerprint c⟩) ∧
    play root (materializeIso token root source output).script =
      withImage root source output (fingerprint c) (layout source c) := by
  have hspec := materializeIso_spec h
  generalize materializeIso token root source output = o at hspec
  cases hspec with
  | refused hnot e => exact absurd hready hnot
  | cached c' d _ hsource' hpair =>
    have hlayout := hsource.symm.trans hsource'
    simp only [Option.some.injEq, Node.directory.injEq] at hlayout
    obtain rfl := layout_injective hlayout
    exact absurd hpair (hstale d)
  | published c' hadPrevious _ hsource' hprevious =>
    have hlayout := hsource.symm.trans hsource'
    simp only [Option.some.injEq, Node.directory.injEq] at hlayout
    obtain rfl := layout_injective hlayout
    exact ⟨rfl, play_published_iso h hsource hprevious⟩

end Materialize

theorem isHidden_of_temporaries {token : String} {call : Call} {name : String}
    (h : name ∈ call.temporaries token) :
    isHidden name = true := by
  cases call <;> simp only [Call.temporaries, List.mem_cons, List.not_mem_nil, or_false] at h
  · rcases h with rfl | rfl <;> exact isHidden_hidden _ _ _
  · rcases h with rfl | rfl | rfl | rfl <;> exact isHidden_hidden _ _ _

theorem fresh_of_no_hidden {root : Root} {token : String} {call : Call}
    (hroot : ∀ name, isHidden name = true → root name = none)
    (hcall : ∀ name ∈ call.names, isHidden name = false) :
    Fresh token root call := by
  intro name hname
  have hhidden := isHidden_of_temporaries hname
  refine ⟨hroot name hhidden, fun hmem => ?_⟩
  cases hhidden.symm.trans (hcall name hmem)

theorem no_hidden_update {root : Root} {name : String} {node : Option Node}
    (hroot : ∀ name, isHidden name = true → root name = none) (hname : isHidden name = false) :
    ∀ other, isHidden other = true → update root name node other = none := by
  intro other hother
  have hne : other ≠ name := by
    rintro rfl
    cases hother.symm.trans hname
  rw [update_of_ne hne]
  exact hroot other hother

end ConfigDrive
end O3k
