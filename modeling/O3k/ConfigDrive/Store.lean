import O3k.ConfigDrive.Records
import O3k.Semantics.Run

/-!
# The calls of the config-drive store

A call reads the root and performs a script of file operations.  `token` is
the text of the fresh UUIDs that the call draws; every read between two
operations sees the root as the operations before it left it.
-/

namespace O3k
namespace ConfigDrive

open Semantics

inductive FileOp
  | createDir (name : String)
  | createSubdir (name : String) (entry : Entry)
  | write (name : String) (entry : Entry) (content : Bytes)
  | writeManifest (name : String) (manifest : OwnershipManifest)
  | buildIso (source output : String)
  | writeFile (name : String) (content : FileContent)
  | rename (source target : String)
  | removeFile (name : String)
  | removeEntry (name : String) (entry : Entry)
  | removeDir (name : String)
  deriving DecidableEq

namespace Directory

def mkdir (d : Directory) : Entry → Directory
  | .openstack => { d with openstack := true }
  | .latest => { d with latest := true }
  | _ => d

def write (d : Directory) (content : Bytes) : Entry → Directory
  | .metaData => { d with metaData := some content }
  | .networkData => { d with networkData := some content }
  | .userData => { d with userData := some content }
  | .vendorData => { d with vendorData := some content }
  | _ => d

end Directory

namespace Root

def empty : Root :=
  fun _ => none

/-- Change the directory at a name, if there is one. -/
def onDirectory (root : Root) (name : String) (f : Directory → Directory) : Root :=
  match root name with
  | some (.directory d) => Function.update root name (some (.directory (f d)))
  | _ => root

end Root

namespace FileOp

def apply (root : Root) : FileOp → Root
  | createDir name => Function.update root name (some (.directory .empty))
  | createSubdir name entry => root.onDirectory name fun d => d.mkdir entry
  | write name entry content => root.onDirectory name fun d => d.write content entry
  | writeManifest name manifest =>
    root.onDirectory name fun d => { d with manifest := some manifest }
  | buildIso source output =>
    match root source with
    | some (.directory d) => Function.update root output (some (.file (.iso d)))
    | _ => root
  | writeFile name content => Function.update root name (some (.file content))
  | rename source target =>
    match root source with
    | none => root
    | some node => Function.update (Function.update root source none) target (some node)
  | removeFile name => Function.update root name none
  | removeEntry name entry => root.onDirectory name fun d => d.erase entry
  | removeDir name =>
    -- `rmdir` removes an empty directory only
    if root name = some (.directory .empty) then
      Function.update root name none
    else
      root

end FileOp

/-- The root after a script. -/
def play (root : Root) (script : List FileOp) : Root := run FileOp.apply root script

/-- `remove_dir_all` or `remove_file`: entry by entry, as the host lists them. -/
def removal (host : Host) (root : Root) (name : String) : List FileOp :=
  match root name with
  | some (.directory d) => (host.entries d).map (.removeEntry name) ++ [.removeDir name]
  | some (.file _) => [.removeFile name]
  | none => []

structure ConfigDriveResult where
  directory : String
  fingerprintSha256 : Sha256 Bytes
  deriving DecidableEq

structure ConfigDriveIsoResult where
  path : String
  fingerprintSha256 : Sha256 Directory
  sourceFingerprintSha256 : Sha256 Bytes
  deriving DecidableEq

inductive Reply
  | generated (result : ConfigDriveResult)
  | materialized (result : ConfigDriveIsoResult)
  | removed
  deriving DecidableEq

structure Outcome where
  script : List FileOp
  result : Except ConfigDriveError Reply

def refused (e : ConfigDriveError) : Outcome := ⟨[], .error e⟩

variable (host : Host)

def preparation (temporary instanceId : String) (c : Contents) : List FileOp :=
  [.createDir temporary,
    .createSubdir temporary .openstack,
    .createSubdir temporary .latest,
    .write temporary .metaData c.metaData,
    .write temporary .networkData c.networkData,
    .write temporary .userData c.userData] ++
    (c.vendorData.toList.map (.write temporary .vendorData)) ++
    [.writeManifest temporary (ownershipManifest instanceId c)]

variable (token : String)

/-- `generate_at`. -/
def generate (root : Root) (input : ConfigDriveInput) : Outcome :=
  match validate host input with
  | .error e => refused e
  | .ok () =>
    let directory := input.instanceId
    let temporary := temporaryName input.instanceId token
    let backup := backupName input.instanceId token
    let c := input.contents host
    let prepare := preparation temporary input.instanceId c
    let prepared := play root prepare
    let result := .generated ⟨directory, fingerprint c⟩
    match prepared directory with
    | none => ⟨prepare ++ [.rename temporary directory], .ok result⟩
    | some _ =>
      match validateOwnedAt prepared directory with
      | .error e => ⟨prepare ++ removal host prepared temporary, .error e⟩
      | .ok () =>
        let published := prepare ++ [.rename directory backup, .rename temporary directory]
        ⟨published ++ removal host (play root published) backup, .ok result⟩

def isoManifestNames (manifest : IsoOwnershipManifest) (instanceId outputName : String) : Bool :=
  manifest.schemaVersion = 1 &&
    manifest.managedBy = isoManagedBy &&
    manifest.instanceId = instanceId &&
    manifest.outputName = outputName

/-- `validate_owned_iso_manifest`; `output` is the name that the manifest stands for. -/
def validateOwnedIsoManifest (root : Root) (output instanceId : String) :
    Except ConfigDriveError Unit :=
  match root (isoManifestName output) with
  | some (.file (.isoManifest manifest)) =>
    if isoManifestNames manifest instanceId output then .ok () else .error .unownedPath
  | _ => .error .unownedPath

def validateOwnedIsoPair (root : Root) (output instanceId : String) :
    Except ConfigDriveError Unit :=
  match validateOwnedIsoManifest root output instanceId with
  | .error e => .error e
  | .ok () =>
    match root output with
    | some (.file (.iso d)) =>
      if maxIsoBytes < host.isoBytes d then .error .invalidIsoOutput else .ok ()
    | some (.file (.isoManifest _)) => .ok ()
    | _ => .error .invalidIsoOutput

/-- The checks of `cleanup`. -/
def cleanupChecks (root : Root) (instanceId : String) : Except ConfigDriveError Unit :=
  let iso := isoName instanceId
  match
      (if (root instanceId).isSome then validateOwnedAt root instanceId else .ok () :
        Except ConfigDriveError Unit) with
  | .error e => .error e
  | .ok () =>
    if (root iso).isSome then
      validateOwnedIsoPair host root iso instanceId
    else if (root (isoManifestName iso)).isSome then
      validateOwnedIsoManifest root iso instanceId
    else
      .ok ()

def cleanup (root : Root) (instanceId : String) : Outcome :=
  if validInstanceId instanceId = false then
    refused .invalidInput
  else
    match cleanupChecks host root instanceId with
    | .error e => refused e
    | .ok () =>
      let iso := isoName instanceId
      ⟨removal host root instanceId ++
          (if (root iso).isSome then
            [.removeFile iso, .removeFile (isoManifestName iso)]
          else if (root (isoManifestName iso)).isSome then
            [.removeFile (isoManifestName iso)]
          else
            []),
        .ok .removed⟩

/-- `verify_regular_file_digest`; the JSON of a manifest never has the digest of an image. -/
def verifyRegularFileDigest (root : Root) (name : String) :
    Except ConfigDriveError (Sha256 Directory) :=
  match root name with
  | some (.file (.iso d)) => .ok ⟨d⟩
  | _ => .error .invalidIsoOutput

def inspectOwnedIso (root : Root) (output manifestPath instanceId expectedOutputName : String) :
    Except ConfigDriveError (IsoOwnershipManifest × Sha256 Directory) :=
  match root manifestPath with
  | some (.file (.isoManifest manifest)) =>
    if isoManifestNames manifest instanceId expectedOutputName then
      match verifyRegularFileDigest root output with
      | .error e => .error e
      | .ok digest =>
        if digest ≠ manifest.artifactFingerprintSha256 then
          .error .invalidIsoOutput
        else
          .ok (manifest, digest)
    else
      .error .unownedPath
  | _ => .error .unownedPath

def validateOwnedIso
    (root : Root) (output manifestPath instanceId : String) (sourceFingerprint : Sha256 Bytes)
    (expectedOutputName : String) :
    Except ConfigDriveError ConfigDriveIsoResult :=
  match inspectOwnedIso root output manifestPath instanceId expectedOutputName with
  | .error e => .error e
  | .ok (manifest, digest) =>
    if manifest.sourceFingerprintSha256 ≠ sourceFingerprint then
      .error .unownedPath
    else
      .ok ⟨output, digest, sourceFingerprint⟩

def readDirectoryFingerprint (root : Root) (name : String) :
    Except ConfigDriveError (Sha256 Bytes) :=
  match root name with
  | some (.directory d) =>
    match d.manifest with
    | some manifest => .ok manifest.fingerprintSha256
    | none => .error .unownedPath
  | _ => .error .unownedPath

/-- Move the image and its manifest into place, the previous pair out of the way. -/
def publication (token source output : String) (hadPrevious : Bool) : List FileOp :=
  (if hadPrevious then
    [.rename output (isoBackupName source token),
      .rename (isoManifestName output) (manifestBackupName source token)]
  else
    []) ++
    [.rename (isoTemporaryName source token) output,
      .rename (manifestTemporaryName source token) (isoManifestName output)] ++
    (if hadPrevious then
      [.removeFile (isoBackupName source token), .removeFile (manifestBackupName source token)]
    else
      [])

/-- Build the image and its manifest under temporary names and publish them. -/
def publishIso
    (root : Root) (source output : String) (sourceFingerprint : Sha256 Bytes) (hadPrevious : Bool) :
    Outcome :=
  let temporary := isoTemporaryName source token
  let temporaryManifest := manifestTemporaryName source token
  let build : List FileOp := [.buildIso source temporary]
  let discard : List FileOp := [.removeFile temporary, .removeFile temporaryManifest]
  match verifyRegularFileDigest (play root build) temporary with
  | .error e => ⟨build ++ discard, .error e⟩
  | .ok artifact =>
    let manifest : IsoOwnershipManifest :=
      ⟨1, isoManagedBy, source, sourceFingerprint, artifact, output⟩
    let prepare := build ++ [.writeFile temporaryManifest (.isoManifest manifest)]
    match
        validateOwnedIso (play root prepare) temporary temporaryManifest source
          sourceFingerprint output with
    | .error e => ⟨prepare ++ discard, .error e⟩
    | .ok _ =>
      let script := prepare ++ publication token source output hadPrevious
      ⟨script,
        (validateOwnedIso (play root script) output (isoManifestName output) source
          sourceFingerprint output).map .materialized⟩

/-- `materialize_iso_with_runner`, for a directory and an output in the root. -/
def materializeIso (root : Root) (source output : String) : Outcome :=
  if validInstanceId source = false ∨ isFileName output = false then
    refused .invalidInput
  else
    match validateOwnedAt root source with
    | .error e => refused e
    | .ok () =>
      match readDirectoryFingerprint root source with
      | .error e => refused e
      | .ok sourceFingerprint =>
        if (root output).isSome ∨ (root (isoManifestName output)).isSome then
          if (root output).isNone then
            refused .unownedPath
          else
            match inspectOwnedIso root output (isoManifestName output) source output with
            | .error e => refused e
            | .ok (manifest, digest) =>
              if manifest.sourceFingerprintSha256 = sourceFingerprint then
                ⟨[], .ok (.materialized ⟨output, digest, sourceFingerprint⟩)⟩
              else
                publishIso token root source output sourceFingerprint true
        else
          publishIso token root source output sourceFingerprint false

/-- `reap_abandoned_publication_artifacts`, run to its end. -/
def reap (root : Root) : Root :=
  fun name => if isPublicationTemporaryName host.isUuid name then none else root name

inductive Call
  | generate (input : ConfigDriveInput)
  | materializeIso (source output : String)
  | cleanup (instanceId : String)
  deriving DecidableEq

def Call.outcome (root : Root) : Call → Outcome
  | .generate input => ConfigDrive.generate host token root input
  | .materializeIso source output => ConfigDrive.materializeIso token root source output
  | .cleanup instanceId => ConfigDrive.cleanup host root instanceId

def Call.temporaries : Call → List String
  | .generate input => [temporaryName input.instanceId token, backupName input.instanceId token]
  | .materializeIso source _ =>
    [isoTemporaryName source token, manifestTemporaryName source token,
      isoBackupName source token, manifestBackupName source token]
  | .cleanup _ => []

def Call.names : Call → List String
  | .generate input => [input.instanceId]
  | .materializeIso source output => [source, output, isoManifestName output]
  | .cleanup instanceId => [instanceId]

/-- The UUIDs drawn are new: nothing has a name made with them. -/
def Fresh (root : Root) (call : Call) : Prop :=
  ∀ name ∈ call.temporaries token, root name = none ∧ name ∉ call.names

instance (token : String) (root : Root) (call : Call) : Decidable (Fresh token root call) :=
  inferInstanceAs (Decidable (∀ name ∈ call.temporaries token, _))

end ConfigDrive
end O3k
