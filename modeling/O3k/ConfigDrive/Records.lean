import O3k.ConfigDrive.Names

/-!
# The config-drive store: what is on disk

The root holds the directories of the instances, their ISO images and the
manifests of these.  An image is represented by the directory it was built
from, a digest by what was digested, and the JSON of a manifest by the
manifest, so the builder and SHA-256 are injective.  No call makes a symbolic
link, and no file operation fails.
-/

namespace O3k
namespace ConfigDrive

abbrev Bytes := List UInt8

/-- A SHA-256 digest, by its preimage. -/
structure Sha256 (α : Type) where
  preimage : α
  deriving DecidableEq

inductive ConfigDriveError
  | invalidInput
  | userDataTooLarge
  | metadataTooLarge
  | networkDataTooLarge
  | vendorDataTooLarge
  | unownedPath
  | invalidIsoOutput
  deriving DecidableEq

/-- A `BTreeMap<String, String>`, in the order of its keys. -/
abbrev StringMap := List (String × String)

structure ConfigDriveInput where
  instanceId : String
  hostname : String
  sshPublicKey : String
  userData : Bytes
  metadata : StringMap
  networkData : StringMap
  vendorData : Option Bytes
  deriving DecidableEq

structure MetaData where
  uuid : String
  name : String
  hostname : String
  publicKeys : StringMap
  metadata : StringMap
  deriving DecidableEq

structure OwnershipManifest where
  schemaVersion : Nat
  managedBy : String
  instanceId : String
  fingerprintSha256 : Sha256 Bytes
  deriving DecidableEq

/-- What is in the directory of an instance, path by path; `other` stands for
any entry that the code does not write. -/
inductive Entry
  | manifest
  | openstack
  | latest
  | metaData
  | networkData
  | userData
  | vendorData
  | other (path : String)
  deriving DecidableEq

/-- The directory of an instance: `o3k-ownership.json`, and the files under
`openstack/latest`. -/
structure Directory where
  manifest : Option OwnershipManifest
  openstack : Bool
  latest : Bool
  metaData : Option Bytes
  networkData : Option Bytes
  userData : Option Bytes
  vendorData : Option Bytes
  others : List String
  deriving DecidableEq

namespace Directory

def empty : Directory := ⟨none, false, false, none, none, none, none, []⟩

def has (d : Directory) : Entry → Bool
  | .manifest => d.manifest.isSome
  | .openstack => d.openstack
  | .latest => d.latest
  | .metaData => d.metaData.isSome
  | .networkData => d.networkData.isSome
  | .userData => d.userData.isSome
  | .vendorData => d.vendorData.isSome
  | .other path => d.others.contains path

def erase (d : Directory) : Entry → Directory
  | .manifest => { d with manifest := none }
  | .openstack => { d with openstack := false }
  | .latest => { d with latest := false }
  | .metaData => { d with metaData := none }
  | .networkData => { d with networkData := none }
  | .userData => { d with userData := none }
  | .vendorData => { d with vendorData := none }
  | .other path => { d with others := d.others.filter (· ≠ path) }

end Directory

structure IsoOwnershipManifest where
  schemaVersion : Nat
  managedBy : String
  instanceId : String
  sourceFingerprintSha256 : Sha256 Bytes
  artifactFingerprintSha256 : Sha256 Directory
  outputName : String
  deriving DecidableEq

inductive FileContent
  | iso (source : Directory)
  | isoManifest (manifest : IsoOwnershipManifest)
  deriving DecidableEq

inductive Node
  | file (content : FileContent)
  | directory (d : Directory)
  deriving DecidableEq

/-- The root of the store, name by name. -/
abbrev Root := String → Option Node

/-- What the store takes from its host: the JSON writer, the UUID parser, the
size of an image and the order in which a directory is listed. -/
structure Host where
  toVec : StringMap → Bytes
  toVecPretty : StringMap → Bytes
  metaDataPretty : MetaData → Bytes
  isUuid : String → Bool
  isUuid_chars : ∀ s, isUuid s = true → 't' ∉ s.toList ∧ 'o' ∉ s.toList
  isoBytes : Directory → Nat
  entries : Directory → List Entry
  mem_entries : ∀ d e, e ∈ entries d ↔ d.has e = true

/-- `str::split_whitespace().count()`. -/
def wordCount : List Char → Nat
  | [] => 0
  | [c] => if isWhitespace c then 0 else 1
  | c :: d :: rest => (if !isWhitespace c && isWhitespace d then 1 else 0) + wordCount (d :: rest)

def maxUserDataBytes : Nat := 64 * 1024

def maxMetadataBytes : Nat := 64 * 1024

def maxNetworkDataBytes : Nat := 64 * 1024

def maxVendorDataBytes : Nat := 64 * 1024

def maxSshPublicKeyBytes : Nat := 16 * 1024

def maxInputBytes : Nat := 128 * 1024

def maxIsoBytes : Nat := 64 * 1024 * 1024

def validateInputBounds (sshPublicKey : String) (userData : Bytes) (vendorData : Option Bytes) :
    Except ConfigDriveError Unit :=
  if maxUserDataBytes < userData.length then
    .error .userDataTooLarge
  else if maxSshPublicKeyBytes < sshPublicKey.utf8ByteSize then
    .error .invalidInput
  else if vendorData.any (fun data => maxVendorDataBytes < data.length) then
    .error .vendorDataTooLarge
  else if maxInputBytes <
      userData.length + (vendorData.getD []).length + sshPublicKey.utf8ByteSize then
    .error .invalidInput
  else
    .ok ()

/-- The checks of `validate` that precede the bounds. -/
def wellFormed (input : ConfigDriveInput) : Bool :=
  validInstanceId input.instanceId &&
    input.hostname ≠ "" &&
    input.hostname.utf8ByteSize ≤ 255 &&
    !input.hostname.toList.any (fun c => isWhitespace c || c = '/' || c = '\\') &&
    2 ≤ wordCount input.sshPublicKey.toList &&
    ("ssh-".toList.isPrefixOf input.sshPublicKey.toList ||
      "ecdsa-".toList.isPrefixOf input.sshPublicKey.toList)

def validate (host : Host) (input : ConfigDriveInput) : Except ConfigDriveError Unit :=
  if wellFormed input = false then
    .error .invalidInput
  else
    match validateInputBounds input.sshPublicKey input.userData input.vendorData with
    | .error e => .error e
    | .ok () =>
      if maxMetadataBytes < (host.toVec input.metadata).length then
        .error .metadataTooLarge
      else if maxNetworkDataBytes < (host.toVec input.networkData).length then
        .error .networkDataTooLarge
      else if input.vendorData.any (fun data => maxVendorDataBytes < data.length) then
        .error .vendorDataTooLarge
      else
        .ok ()

/-- What a config drive is about: the bytes of its four files. -/
structure Contents where
  metaData : Bytes
  userData : Bytes
  networkData : Bytes
  vendorData : Option Bytes
  deriving DecidableEq

/-- What is digested: the files one after the other. -/
def Contents.concatenation (c : Contents) : Bytes :=
  c.metaData ++ c.userData ++ c.networkData ++ c.vendorData.getD []

def fingerprint (c : Contents) : Sha256 Bytes := ⟨c.concatenation⟩

/-- The files that an input stands for. -/
def ConfigDriveInput.contents (host : Host) (input : ConfigDriveInput) : Contents :=
  { metaData :=
      host.metaDataPretty
        { uuid := input.instanceId
          name := input.instanceId
          hostname := input.hostname
          publicKeys := [("default", input.sshPublicKey)]
          metadata := input.metadata }
    userData := input.userData
    networkData := host.toVecPretty input.networkData
    vendorData := input.vendorData }

def ownershipManifest (instanceId : String) (c : Contents) : OwnershipManifest :=
  ⟨1, managedBy, instanceId, fingerprint c⟩

def layout (instanceId : String) (c : Contents) : Directory :=
  { manifest := some (ownershipManifest instanceId c)
    openstack := true
    latest := true
    metaData := some c.metaData
    networkData := some c.networkData
    userData := some c.userData
    vendorData := c.vendorData
    others := [] }

theorem layout_injective {instanceId : String} {c c' : Contents}
    (h : layout instanceId c = layout instanceId c') :
    c = c' := by
  simp only [layout, Directory.mk.injEq, Option.some.injEq] at h
  obtain ⟨_, _, _, hmeta, hnetwork, huser, hvendor, _⟩ := h
  cases c
  cases c'
  simp_all

def Directory.contents (d : Directory) : Option Contents :=
  match d.metaData, d.networkData, d.userData with
  | some metaData, some networkData, some userData =>
    some ⟨metaData, userData, networkData, d.vendorData⟩
  | _, _, _ => none

/-- `validate_owned_directory`, for a directory. -/
def validateOwnedDirectory (d : Directory) (instanceId : String) : Except ConfigDriveError Unit :=
  match d.manifest with
  | none => .error .unownedPath
  | some manifest =>
    if manifest.schemaVersion ≠ 1 ∨
        manifest.managedBy ≠ managedBy ∨
        manifest.instanceId ≠ instanceId then
      .error .unownedPath
    else if d.openstack = false ∨ d.latest = false then
      .error .unownedPath
    else
      match d.contents with
      | none => .error .unownedPath
      | some c =>
        -- the fingerprint, then `reject_unexpected_entries`
        if manifest.fingerprintSha256 ≠ fingerprint c ∨ d.others ≠ [] then
          .error .unownedPath
        else
          .ok ()

/-- `validate_owned_directory`, at a name of the root. -/
def validateOwnedAt (root : Root) (name : String) : Except ConfigDriveError Unit :=
  match root name with
  | some (.directory d) => validateOwnedDirectory d name
  | _ => .error .unownedPath

theorem Directory.contents_eq_some {d : Directory} {c : Contents} :
    d.contents = some c ↔
      d.metaData = some c.metaData ∧ d.networkData = some c.networkData ∧
        d.userData = some c.userData ∧
        d.vendorData = c.vendorData := by
  obtain ⟨metaData, userData, networkData, vendorData⟩ := c
  unfold Directory.contents
  split
  · rename_i hmeta hnetwork huser
    simp only [hmeta, hnetwork, huser, Option.some.injEq, Contents.mk.injEq]
    tauto
  · rename_i hmissing
    simp only [reduceCtorEq, false_iff]
    rintro ⟨hmeta, hnetwork, huser, _⟩
    exact hmissing _ _ _ hmeta hnetwork huser

/-- **What validates as owned is a complete directory**, made from some contents. -/
theorem validateOwnedDirectory_eq_ok {d : Directory} {instanceId : String} :
    validateOwnedDirectory d instanceId = .ok () ↔ ∃ c, d = layout instanceId c := by
  constructor
  · intro h
    unfold validateOwnedDirectory at h
    cases hmanifest : d.manifest with
    | none =>
      rw [hmanifest] at h
      cases h
    | some manifest =>
      rw [hmanifest] at h
      dsimp only at h
      split_ifs at h with howner hdirs
      cases hcontents : d.contents with
      | none =>
        rw [hcontents] at h
        cases h
      | some c =>
        rw [hcontents] at h
        dsimp only at h
        split_ifs at h with hprint
        simp only [ne_eq, not_or, Decidable.not_not, Bool.not_eq_false] at howner hdirs hprint
        obtain ⟨hmeta, hnetwork, huser, hvendor⟩ := Directory.contents_eq_some.mp hcontents
        refine ⟨c, ?_⟩
        obtain ⟨schemaVersion, managed, id, print⟩ := manifest
        obtain ⟨hversion, hmanaged, hid⟩ := howner
        obtain ⟨hprint, hothers⟩ := hprint
        simp only at hversion hmanaged hid hprint
        subst hversion hmanaged hid hprint
        cases d
        simp_all [layout, ownershipManifest]
  · rintro ⟨c, rfl⟩
    have hcontents : (layout instanceId c).contents = some c :=
      Directory.contents_eq_some.mpr ⟨rfl, rfl, rfl, rfl⟩
    unfold validateOwnedDirectory
    rw [hcontents]
    simp [layout, ownershipManifest]

theorem validateOwnedAt_eq_ok {root : Root} {name : String} :
    validateOwnedAt root name = .ok () ↔ ∃ c, root name = some (.directory (layout name c)) := by
  unfold validateOwnedAt
  split
  · rename_i d hd
    rw [validateOwnedDirectory_eq_ok, hd]
    simp
  · rename_i hnone
    simp only [reduceCtorEq, false_iff]
    rintro ⟨c, hc⟩
    exact hnone _ hc

end ConfigDrive
end O3k
