import O3k.ConfigDrive.Effects

/-!
# Is a materialized image current?

A cached image is returned when the fingerprint in its manifest is that of the
directory.  The fingerprint is the digest of the files one after the other, so
it does not tell apart contents with the same concatenation; nothing else ever
goes wrong.
-/

namespace O3k
namespace ConfigDrive

open Semantics
open Function (update update_of_ne update_self)

variable (host : Host)

/-- A call with the UUIDs it draws. -/
structure Step where
  token : String
  call : Call
  deriving DecidableEq

def step (root : Root) (s : Step) : Root := play root (s.call.outcome host s.token root).script

/-- Between two calls the root holds complete directories, and images that
agree with their manifests. -/
structure Coherent (root : Root) : Prop where
  directories :
    ∀ name d, root name = some (.directory d) →
      validInstanceId name = true ∧ ∃ c, d = layout name c
  images :
    ∀ name d, root name = some (.file (.iso d)) →
      isFileName name = true ∧
        ∃ instanceId c, d = layout instanceId c ∧
          HasPair root instanceId name (fingerprint c) d

theorem coherent_empty : Coherent Root.empty :=
  ⟨fun _ _ h => (by cases h), fun _ _ h => (by cases h)⟩

section Preservation

variable {host : Host} {root : Root} {token : String}

theorem isoManifestName_ne_isoName (output instanceId : String) :
    isoManifestName output ≠ isoName instanceId := by
  intro h
  have hlast := congrArg (fun s => s.toList.getLast?) h
  simp [isoManifestName, isoManifestSuffix, isoName] at hlast

theorem update_eq_some {name other : String} {node node' : Node} :
    update root name (some node) other = some node' ↔
      (other = name ∧ node = node') ∨ (other ≠ name ∧ root other = some node') := by
  rw [Function.update_apply]
  split_ifs with h <;> simp [h]

theorem update_none_eq_some {name other : String} {node : Node} :
    update root name none other = some node ↔ other ≠ name ∧ root other = some node := by
  rw [Function.update_apply]
  split_ifs with h <;> simp [h]

theorem Coherent.update_directory
    (h : Coherent root) {name : String} (hname : validInstanceId name = true)
    (hfree : root name = none ∨ ∃ d, root name = some (.directory d)) (c : Contents) :
    Coherent (update root name (some (.directory (layout name c)))) := by
  constructor
  · intro other d hother
    rcases update_eq_some.mp hother with ⟨rfl, hd⟩ | ⟨_, hold⟩
    · cases hd
      exact ⟨hname, c, rfl⟩
    · exact h.directories other d hold
  · intro other d hother
    rcases update_eq_some.mp hother with ⟨_, hd⟩ | ⟨hne, hold⟩
    · cases hd
    · obtain ⟨hfile, instanceId, c', hd, himage, hmanifest⟩ := h.images other d hold
      have hne' : isoManifestName other ≠ name := by
        rintro rfl
        rcases hfree with hnone | ⟨_, hdirectory⟩
        · cases hnone.symm.trans hmanifest
        · cases hdirectory.symm.trans hmanifest
      refine ⟨hfile, instanceId, c', hd, hother, ?_⟩
      rwa [update_of_ne hne']

theorem Coherent.update_pair
    (h : Coherent root) {source output : String} (hready : Ready root source output)
    (c : Contents) :
    Coherent (withImage root source output (fingerprint c) (layout source c)) := by
  constructor
  · intro other d hother
    rcases update_eq_some.mp hother with ⟨_, hd⟩ | ⟨_, hold⟩
    · cases hd
    · rcases update_eq_some.mp hold with ⟨_, hd⟩ | ⟨_, hold⟩
      · cases hd
      · exact h.directories other d hold
  · intro other d hother
    rcases update_eq_some.mp hother with ⟨_, hd⟩ | ⟨hman, hnext⟩
    · cases hd
    · rcases update_eq_some.mp hnext with ⟨rfl, hd⟩ | ⟨hout, hold⟩
      · cases hd
        exact ⟨hready.outputName, source, c, rfl, hother, update_self _ _ _⟩
      · obtain ⟨hfile, instanceId, c', hd, himage, hmanifest⟩ := h.images other d hold
        have hne : isoManifestName other ≠ isoManifestName output := fun heq =>
          hout (isoManifestName_injective heq)
        have hne' : isoManifestName other ≠ output := by
          rintro rfl
          rcases hready.free with ⟨hnone, _⟩ | ⟨_, _, hprevious, _⟩
          · cases hnone.symm.trans hmanifest
          · cases hprevious.symm.trans hmanifest
        refine ⟨hfile, instanceId, c', hd, hother, ?_⟩
        rwa [withImage, update_of_ne hne, update_of_ne hne']

theorem directory_of_cleanupChecks {instanceId : String}
    (h : cleanupChecks host root instanceId = .ok ()) :
    root instanceId = none ∨ ∃ c, root instanceId = some (.directory (layout instanceId c)) := by
  cases hroot : root instanceId with
  | none => exact Or.inl rfl
  | some node =>
    right
    cases howned : validateOwnedAt root instanceId with
    | error e => simp [cleanupChecks, hroot, howned] at h
    | ok =>
      obtain ⟨c, hc⟩ := validateOwnedAt_eq_ok.mp howned
      exact ⟨c, hroot ▸ hc⟩

theorem Coherent.remove_unit (h : Coherent root) {instanceId : String}
    (hchecks : cleanupChecks host root instanceId = .ok ()) :
    Coherent
      (update (update (update root instanceId none) (isoName instanceId) none)
        (isoManifestName (isoName instanceId)) none) := by
  have hkept : ∀ {other node},
      update
          (update (update root instanceId none) (isoName instanceId) none)
          (isoManifestName (isoName instanceId)) none other
        =
      some node →
        (other ≠ isoManifestName (isoName instanceId) ∧ other ≠ isoName instanceId ∧
          other ≠ instanceId) ∧ root other = some node := by
    intro other node hother
    obtain ⟨h₁, hother⟩ := update_none_eq_some.mp hother
    obtain ⟨h₂, hother⟩ := update_none_eq_some.mp hother
    obtain ⟨h₃, hother⟩ := update_none_eq_some.mp hother
    exact ⟨⟨h₁, h₂, h₃⟩, hother⟩
  constructor
  · intro other d hother
    exact h.directories other d (hkept hother).2
  · intro other d hother
    obtain ⟨⟨_, hiso, _⟩, hold⟩ := hkept hother
    obtain ⟨hfile, owner, c, hd, himage, hmanifest⟩ := h.images other d hold
    have hne₁ : isoManifestName other ≠ instanceId := by
      rintro rfl
      rcases directory_of_cleanupChecks hchecks with hnone | ⟨_, hdirectory⟩
      · cases hnone.symm.trans hmanifest
      · cases hdirectory.symm.trans hmanifest
    have hne₂ := isoManifestName_ne_isoName other instanceId
    have hne₃ : isoManifestName other ≠ isoManifestName (isoName instanceId) := fun heq =>
      hiso (isoManifestName_injective heq)
    refine ⟨hfile, owner, c, hd, hother, ?_⟩
    rwa [update_of_ne hne₃, update_of_ne hne₂, update_of_ne hne₁]

theorem Coherent.step (h : Coherent root) (s : Step) (hfresh : Fresh s.token root s.call) :
    Coherent (step host root s) := by
  obtain ⟨token, call⟩ := s
  cases call with
  | generate input =>
    show Coherent (play root (generate host token root input).script)
    rcases (generate_spec hfresh).effect hfresh with ⟨hsame, _⟩ | ⟨hnew, hvalid, hfree⟩
    · rwa [hsame]
    · rw [hnew]
      refine h.update_directory hvalid ?_ (input.contents host)
      exact hfree.imp id fun ⟨old, hold⟩ => ⟨_, hold⟩
  | materializeIso source output =>
    show Coherent (play root (materializeIso token root source output).script)
    have hspec := materializeIso_spec hfresh.apart
    generalize materializeIso token root source output = o at hspec
    cases hspec with
    | refused hnot e => exact h
    | cached c d hready hsource hpair => exact h
    | published c hadPrevious hready hsource hprevious =>
      rw [play_published_iso hfresh.apart hsource hprevious]
      exact h.update_pair hready c
  | cleanup instanceId =>
    show Coherent (play root (cleanup host root instanceId).script)
    rcases @cleanup_effect host root instanceId with
      ⟨hnone, _⟩ | ⟨hchecks, _, hplay⟩
    · rwa [hnone]
    · rw [hplay]
      exact h.remove_unit hchecks

end Preservation

/-- The image at the returned path was built from the directory as it is now:
every file of it, present or absent. -/
def Faithful (root : Root) (s : Step) : Prop :=
  ∀ source output r, s.call = .materializeIso source output →
    (s.call.outcome host s.token root).result = .ok (.materialized r) →
      ∃ d, step host root s source = some (.directory d) ∧
        step host root s r.path = some (.file (.iso d))

/-- The image in place was not built from other contents with the same
concatenation. -/
def Unambiguous (root : Root) (s : Step) : Prop :=
  ∀ source output, s.call = .materializeIso source output →
    ∀ c c₀, root source = some (.directory (layout source c)) →
      root output = some (.file (.iso (layout source c₀))) →
        c.concatenation = c₀.concatenation → c = c₀

section Faithfulness

variable {host : Host} {root : Root} {token source output : String}

/-- Materializing once, in a coherent root. -/
theorem faithful_iff_unambiguous
    (h : Coherent root) (s : Step) (hfresh : Fresh s.token root s.call) :
    Faithful host root s ↔ Unambiguous root s := by
  obtain ⟨token, call⟩ := s
  constructor
  · rintro hfaithful source output rfl c c₀ hsource hout heq
    obtain ⟨hfile, owner, c', hd, hpair⟩ := h.images output _ hout
    have howner : source = owner := by
      have hid := congrArg (fun d => d.manifest.map OwnershipManifest.instanceId) hd
      simpa [layout, ownershipManifest] using hid
    subst howner
    obtain rfl := layout_injective hd
    have hready : Ready root source output :=
      ⟨(h.directories source _ hsource).1, hfile, ⟨c, hsource⟩, Or.inr ⟨_, _, hpair⟩⟩
    have hprint : fingerprint c = fingerprint c₀ := congrArg Sha256.mk heq
    have hcached := hfresh.apart.materializeIso_cached hready hsource (hprint ▸ hpair)
    obtain ⟨d, hnow, himage⟩ :=
      hfaithful source output _ rfl (congrArg Outcome.result hcached)
    have hsame : step host root ⟨token, .materializeIso source output⟩ = root := by
      show play root (materializeIso token root source output).script = root
      rw [hcached]
      rfl
    rw [hsame] at hnow himage
    have hd : layout source c = d := by simpa using hsource.symm.trans hnow
    have hd' : layout source c₀ = d := by simpa using hout.symm.trans himage
    exact layout_injective (hd.trans hd'.symm)
  · rintro hunambiguous source output r rfl hresult
    have hspec := materializeIso_spec hfresh.apart
    have hstep :
        step host root ⟨token, .materializeIso source output⟩
          =
        play root (materializeIso token root source output).script := rfl
    have hresult : (materializeIso token root source output).result = .ok (.materialized r) :=
      hresult
    rw [hstep]
    generalize materializeIso token root source output = o at hspec hresult
    cases hspec with
    | refused hnot e => cases hresult
    | cached c d hready hsource hpair =>
      cases hresult
      obtain ⟨_, owner, c', rfl, hpair'⟩ := h.images output d hpair.1
      have hmanifest := hpair.2.symm.trans hpair'.2
      simp only [Option.some.injEq, Node.file.injEq, FileContent.isoManifest.injEq,
        isoManifestOf, IsoOwnershipManifest.mk.injEq] at hmanifest
      obtain ⟨_, _, rfl, hprint, _⟩ := hmanifest
      have hsame : c = c' :=
        hunambiguous source output rfl c c' hsource hpair.1 (congrArg Sha256.preimage hprint)
      subst hsame
      exact ⟨_, hsource, hpair.1⟩
    | published c hadPrevious hready hsource hprevious =>
      cases hresult
      rw [play_published_iso hfresh.apart hsource hprevious]
      have hne : source ≠ isoManifestName output ∧ source ≠ output := by
        constructor <;> rintro rfl
        · rcases hready.free with ⟨_, hnone⟩ | ⟨_, _, hpair⟩
          · cases hnone.symm.trans hsource
          · cases hpair.2.symm.trans hsource
        · rcases hready.free with ⟨hnone, _⟩ | ⟨_, _, hpair⟩
          · cases hnone.symm.trans hsource
          · cases hpair.1.symm.trans hsource
      refine ⟨layout source c, ?_, ?_⟩
      · rw [withImage, update_of_ne hne.1, update_of_ne hne.2, hsource]
      · exact hasPair_withImage.1

end Faithfulness

/-- **When materialized images are current.**  In every run of calls, the image
that a materialization returns is always built from the directory as it is
then, exactly if no materialization finds in place an image of other contents
with the same concatenation. -/
theorem materialized_images_current_iff (host : Host) (steps : List Step)
    (hfresh : EachStep (step host) (fun root s => Fresh s.token root s.call) Root.empty steps) :
    EachStep (step host) (Faithful host) Root.empty steps ↔
    EachStep (step host) Unambiguous Root.empty steps := by
  have hiff :
      EachStep (step host) (fun root s => Faithful host root s ↔ Unambiguous root s)
        Root.empty steps :=
    eachStep_of_guarded (I := Coherent) (fun _ s h hs => h.step s hs)
      (fun _ s h hs => faithful_iff_unambiguous h s hs) Root.empty steps coherent_empty hfresh
  constructor
  · exact fun h => (h.and hiff).imp fun _ _ h => h.2.mp h.1
  · exact fun h => (h.and hiff).imp fun _ _ h => h.2.mpr h.1

section Collision

variable {host : Host}

theorem step_generate {root : Root} {token : String} {input : ConfigDriveInput}
    (hroot : ∀ name, isHidden name = true → root name = none)
    (hvalidate : validate host input = .ok ())
    (hfree :
      root input.instanceId = none ∨
        ∃ c, root input.instanceId = some (.directory (layout input.instanceId c))) :
    step host root ⟨token, .generate input⟩ = update root input.instanceId
      (some (.directory (layout input.instanceId (input.contents host)))) := by
  have hvalid := validInstanceId_of_validate hvalidate
  refine (generate_of_valid (fresh_of_no_hidden hroot ?_) hvalidate hfree).2
  simpa [Call.names] using not_isHidden_of_validInstanceId hvalid

theorem fresh_materialize {root : Root} {instanceId : String} (token : String)
    (hroot : ∀ name, isHidden name = true → root name = none)
    (hvalid : validInstanceId instanceId = true) :
    Fresh token root (.materializeIso instanceId (isoName instanceId)) := by
  obtain ⟨hiso, hmanifest⟩ := not_isHidden_isoName hvalid
  refine fresh_of_no_hidden hroot ?_
  simpa [Call.names] using ⟨not_isHidden_of_validInstanceId hvalid, hiso, hmanifest⟩

/-- **What goes wrong**: generated again with other contents of the same
concatenation, the instance keeps its first image. -/
theorem stale_after_regeneration
    (input input' : ConfigDriveInput) {instanceId : String} (hid : input.instanceId = instanceId)
    (hid' : input'.instanceId = instanceId) (hvalidate : validate host input = .ok ())
    (hvalidate' : validate host input' = .ok ())
    (hsame : (input'.contents host).concatenation = (input.contents host).concatenation)
    (hne : input.contents host ≠ input'.contents host) (t₁ t₂ t₃ t₄ : String) :
    ¬ EachStep (step host) (Faithful host) Root.empty
      [⟨t₁, .generate input⟩, ⟨t₂, .materializeIso instanceId (isoName instanceId)⟩,
        ⟨t₃, .generate input'⟩,
        ⟨t₄, .materializeIso instanceId (isoName instanceId)⟩] := by
  have hvalid : validInstanceId instanceId = true := hid ▸ validInstanceId_of_validate hvalidate
  have hfile := isFileName_isoName hvalid
  have hhidden := not_isHidden_of_validInstanceId hvalid
  obtain ⟨hiso, hmanifest⟩ := not_isHidden_isoName hvalid
  have hprint : fingerprint (input'.contents host) = fingerprint (input.contents host) :=
    congrArg Sha256.mk hsame
  have hidIso : isoName instanceId ≠ instanceId := by
    intro heq
    have hlength := congrArg (fun s => s.toList.length) heq
    simp [isoName] at hlength
  have hidManifest : isoManifestName (isoName instanceId) ≠ instanceId := by
    intro heq
    have hlength := congrArg (fun s => s.toList.length) heq
    simp [isoName, isoManifestName] at hlength
  have hempty : ∀ name, isHidden name = true → Root.empty name = none := fun _ _ => rfl
  -- the first directory and its image
  have h₁ :
      step host Root.empty ⟨t₁, .generate input⟩ = update Root.empty instanceId
        (some (.directory (layout instanceId (input.contents host)))) := by
    rw [step_generate hempty hvalidate (Or.inl rfl), hid]
  generalize hr₁ :
    update Root.empty instanceId
      (some (.directory (layout instanceId (input.contents host)))) = r₁ at h₁
  have hnone₁ : ∀ name, isHidden name = true → r₁ name = none :=
    hr₁ ▸ no_hidden_update hempty hhidden
  have hsource₁ : r₁ instanceId = some (.directory (layout instanceId (input.contents host))) := by
    rw [← hr₁, update_self]
  have hiso₁ : r₁ (isoName instanceId) = none := by
    rw [← hr₁, update_of_ne hidIso]
    rfl
  have hmanifest₁ : r₁ (isoManifestName (isoName instanceId)) = none := by
    rw [← hr₁, update_of_ne hidManifest]
    rfl
  have hready₁ : Ready r₁ instanceId (isoName instanceId) :=
    ⟨hvalid, hfile, ⟨_, hsource₁⟩, Or.inl ⟨hiso₁, hmanifest₁⟩⟩
  have h₂ :
      step host r₁ ⟨t₂, .materializeIso instanceId (isoName instanceId)⟩ = _ :=
    ((fresh_materialize t₂ hnone₁ hvalid).apart.materializeIso_published hready₁ hsource₁
      (fun d hpair => by cases hiso₁.symm.trans hpair.1)).2
  rw [withImage] at h₂
  generalize hr₂ : update (update r₁ (isoName instanceId) _)
    (isoManifestName (isoName instanceId)) _ = r₂ at h₂
  have hnone₂ : ∀ name, isHidden name = true → r₂ name = none :=
    hr₂ ▸ no_hidden_update (no_hidden_update hnone₁ hiso) hmanifest
  have hsource₂ : r₂ instanceId = some (.directory (layout instanceId (input.contents host))) := by
    rw [← hr₂, update_of_ne hidManifest.symm, update_of_ne hidIso.symm, hsource₁]
  have hpair₂ :
      HasPair r₂ instanceId (isoName instanceId) (fingerprint (input.contents host))
        (layout instanceId (input.contents host)) := by
    constructor
    · rw [← hr₂, update_of_ne (isoManifestName_ne _).symm, update_self]
    · rw [← hr₂, update_self]
  -- the second directory, under the first image
  have h₃ :
      step host r₂ ⟨t₃, .generate input'⟩ = update r₂ instanceId
        (some (.directory (layout instanceId (input'.contents host)))) := by
    rw [step_generate hnone₂ hvalidate' (Or.inr ⟨_, hid'.symm ▸ hsource₂⟩), hid']
  generalize hr₃ :
    update r₂ instanceId
      (some (.directory (layout instanceId (input'.contents host)))) = r₃ at h₃
  have hnone₃ : ∀ name, isHidden name = true → r₃ name = none :=
    hr₃ ▸ no_hidden_update hnone₂ hhidden
  have hsource₃ :
      r₃ instanceId = some (.directory (layout instanceId (input'.contents host))) := by
    rw [← hr₃, update_self]
  have hpair₃ :
      HasPair r₃ instanceId (isoName instanceId) (fingerprint (input'.contents host))
        (layout instanceId (input.contents host)) := by
    rw [hprint, ← hr₃]
    constructor
    · rw [update_of_ne hidIso]
      exact hpair₂.1
    · rw [update_of_ne hidManifest]
      exact hpair₂.2
  have hcached :=
    (fresh_materialize t₄ hnone₃ hvalid).apart.materializeIso_cached
      ⟨hvalid, hfile, ⟨_, hsource₃⟩, Or.inr ⟨_, _, hpair₃⟩⟩ hsource₃ hpair₃
  intro hfaithful
  have hlast := hfaithful.2.2.2.1
  rw [h₁, h₂, h₃] at hlast
  obtain ⟨d, hnow, himage⟩ := hlast _ _ _ rfl (congrArg Outcome.result hcached)
  have hsame₄ : step host r₃ ⟨t₄, .materializeIso instanceId (isoName instanceId)⟩ = r₃ := by
    show play r₃ (materializeIso t₄ r₃ instanceId (isoName instanceId)).script = r₃
    rw [hcached]
    rfl
  rw [hsame₄] at hnow himage
  have hd : layout instanceId (input'.contents host) = d := by
    simpa using hsource₃.symm.trans hnow
  have hd' : layout instanceId (input.contents host) = d := by
    simpa using hpair₃.1.symm.trans himage
  exact hne (layout_injective (hd'.trans hd.symm))

end Collision

def asciiBytes (s : String) : Bytes :=
  s.toList.map fun c => c.toNat.toUInt8

def isHyphenatedUuid (s : String) : Bool :=
  s.toList.length = 36 && s.toList.all fun c => c.isDigit || ('a' ≤ c && c ≤ 'f') || c = '-'

theorem isHyphenatedUuid_chars (s : String) (h : isHyphenatedUuid s = true) :
    't' ∉ s.toList ∧ 'o' ∉ s.toList := by
  simp only [isHyphenatedUuid, Bool.and_eq_true, List.all_eq_true] at h
  constructor <;> intro hmem <;> exact absurd (h.2 _ hmem) (by decide)

/-- Files first, then what contains them. -/
def listedEntries (d : Directory) : List Entry :=
  [Entry.metaData, .networkData, .userData, .vendorData, .latest, .openstack, .manifest].filter
      d.has ++
    d.others.map .other

theorem mem_listedEntries (d : Directory) (e : Entry) : e ∈ listedEntries d ↔ d.has e = true := by
  cases e <;> simp [listedEntries, Directory.has]

/-- A host that writes the JSON of empty maps, and of the metadata over them. -/
def sampleHost : Host where
  toVec _ := asciiBytes "{}"
  toVecPretty _ := asciiBytes "{}"
  metaDataPretty m :=
    asciiBytes
      ("\x7b\n  \"uuid\": \"" ++ m.uuid ++ "\",\n  \"name\": \"" ++ m.name ++
        "\",\n  \"hostname\": \"" ++ m.hostname ++
        "\",\n  \"public_keys\": \x7b\n    \"default\": \"" ++
        (m.publicKeys.lookup "default").getD "" ++ "\"\n  \x7d,\n  \"meta\": \x7b\x7d\n\x7d")
  isUuid := isHyphenatedUuid
  isUuid_chars := isHyphenatedUuid_chars
  isoBytes _ := 376832
  entries := listedEntries
  mem_entries := mem_listedEntries

def sampleInstance : String := "0190c6a0-0000-7000-8000-000000000001"

def sampleInput (vendorData : Option Bytes) : ConfigDriveInput :=
  { instanceId := sampleInstance
    hostname := "vm"
    sshPublicKey := "ssh-ed25519 AAAA"
    userData := asciiBytes "#cloud-config"
    metadata := []
    networkData := []
    vendorData := vendorData }

/-- The second materialization returns the first image, which has no vendor data. -/
theorem materialized_images_stale :
    ¬ EachStep (step sampleHost) (Faithful sampleHost) Root.empty
      [⟨"0190c6a0-0000-7000-8000-00000000000a", .generate (sampleInput none)⟩,
        ⟨"0190c6a0-0000-7000-8000-00000000000b",
          .materializeIso sampleInstance (isoName sampleInstance)⟩,
        ⟨"0190c6a0-0000-7000-8000-00000000000c", .generate (sampleInput (some []))⟩,
        ⟨"0190c6a0-0000-7000-8000-00000000000d",
          .materializeIso sampleInstance (isoName sampleInstance)⟩] := by
  have hvalid : validate sampleHost (sampleInput none) = .ok () := by decide +kernel
  have hvalid' : validate sampleHost (sampleInput (some [])) = .ok () := by decide +kernel
  have hsame :
      ((sampleInput (some [])).contents sampleHost).concatenation
        =
      ((sampleInput none).contents sampleHost).concatenation := rfl
  have hne :
      (sampleInput none).contents sampleHost ≠ (sampleInput (some [])).contents sampleHost := by
    intro h
    cases congrArg Contents.vendorData h
  exact stale_after_regeneration (sampleInput none) (sampleInput (some [])) rfl rfl hvalid hvalid' hsame hne _ _ _ _

theorem materialized_images_current_sample :
    EachStep (step sampleHost) (Faithful sampleHost) Root.empty
        [⟨"0190c6a0-0000-7000-8000-00000000000a", .generate (sampleInput none)⟩,
          ⟨"0190c6a0-0000-7000-8000-00000000000b",
            .materializeIso sampleInstance (isoName sampleInstance)⟩]
      ↔
    EachStep (step sampleHost) Unambiguous Root.empty
        [⟨"0190c6a0-0000-7000-8000-00000000000a", .generate (sampleInput none)⟩,
          ⟨"0190c6a0-0000-7000-8000-00000000000b",
            .materializeIso sampleInstance (isoName sampleInstance)⟩] :=
  materialized_images_current_iff sampleHost _ (by decide +kernel)

/-- **The root is coherent** between any two calls: every directory is one that
was published whole, and every image has the manifest of its contents. -/
theorem root_stays_coherent (host : Host) (steps : List Step)
    (hfresh : EachStep (step host) (fun root s => Fresh s.token root s.call) Root.empty steps) :
    Always (step host) Coherent Root.empty steps :=
  always_of_guarded (fun _ s h hs => h.step s hs) _ steps coherent_empty hfresh

/-- A drive and its image, the drive generated again with other user data, the
image after it, and the cleanup of both. -/
def sampleLife : List Step :=
  [⟨"0190c6a0-0000-7000-8000-00000000000a", .generate (sampleInput none)⟩,
    ⟨"0190c6a0-0000-7000-8000-00000000000b",
      .materializeIso sampleInstance (isoName sampleInstance)⟩,
    ⟨"0190c6a0-0000-7000-8000-00000000000c",
      .generate { sampleInput none with userData := asciiBytes "#!/bin/sh" }⟩,
    ⟨"0190c6a0-0000-7000-8000-00000000000d",
      .materializeIso sampleInstance (isoName sampleInstance)⟩,
    ⟨"0190c6a0-0000-7000-8000-00000000000e", .cleanup sampleInstance⟩]

theorem root_coherent_sample : Always (step sampleHost) Coherent Root.empty sampleLife :=
  root_stays_coherent sampleHost sampleLife (by decide +kernel)

end ConfigDrive
end O3k
