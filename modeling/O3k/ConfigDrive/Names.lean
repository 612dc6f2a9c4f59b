import O3k.Store.Values
import Mathlib.Data.List.Basic

/-!
# Names in the root of the config-drive store

The names of instances, of the temporaries a publication makes, and the
pattern by which the restart recognises abandoned temporaries.
-/

namespace O3k
namespace ConfigDrive

/-- `str::split_once` for a separator of several characters. -/
def splitOnceAt (separator : List Char) : List Char → Option (List Char × List Char)
  | [] => none
  | c :: rest =>
    if separator.isPrefixOf (c :: rest) then
      some ([], (c :: rest).drop separator.length)
    else
      (splitOnceAt separator rest).map (Prod.map (List.cons c) id)

/-- `str::strip_suffix`. -/
def stripSuffix (suffix text : List Char) : Option (List Char) :=
  if suffix.isSuffixOf text then
    some (text.take (text.length - suffix.length))
  else
    none

/-- A name that is its own `Path::file_name`. -/
def isFileName (value : String) : Bool :=
  value ≠ "" && value ≠ "." && value ≠ ".." && !value.toList.contains '/'

def validInstanceId (value : String) : Bool :=
  isFileName value && value.utf8ByteSize ≤ 128 && value.toList.head? ≠ some '.'

/-- `MANIFEST_NAME`, `MANAGED_BY`, `ISO_MANIFEST_SUFFIX`, `ISO_MANAGED_BY`. -/
def managedBy : String := "o3k-config-drive"

def isoManifestSuffix : String := ".o3k-iso-ownership.json"

def isoManagedBy : String := "o3k-config-drive-iso"

/-- `iso_manifest_path`. -/
def isoManifestName (output : String) : String := output ++ isoManifestSuffix

/-- The ISO of an instance that `cleanup` knows of. -/
def isoName (instanceId : String) : String := instanceId ++ ".iso"

/-- A hidden name: `.{stem}{mark}{token}`. -/
def hidden (stem mark token : String) : String := "." ++ stem ++ mark ++ token

def temporaryName (instanceId token : String) : String := hidden instanceId "-tmp-" token

def backupName (instanceId token : String) : String := hidden instanceId "-old-" token

def isoTemporaryName (instanceId token : String) : String :=
  hidden (instanceId ++ ".iso") "-tmp-" token

def isoBackupName (instanceId token : String) : String :=
  hidden (instanceId ++ ".iso") "-old-" token

def manifestTemporaryName (instanceId token : String) : String :=
  hidden (instanceId ++ ".iso-manifest") "-tmp-" token

def manifestBackupName (instanceId token : String) : String :=
  hidden (instanceId ++ ".iso-manifest") "-old-" token

/-- `is_publication_temporary_name`, given what `Uuid::parse_str` accepts. -/
def isPublicationTemporaryName (isUuid : String → Bool) (name : String) : Bool :=
  match name.toList with
  | '.' :: value =>
    match (splitOnceAt "-tmp-".toList value).or (splitOnceAt "-old-".toList value) with
    | none => false
    | some (stem, suffix) =>
      let instanceId :=
        ((stripSuffix ".iso-manifest".toList stem).or (stripSuffix ".iso".toList stem)).getD
          stem
      isUuid (String.ofList instanceId) && isUuid (String.ofList suffix)
  | _ => false

/-- A name starts with a dot. -/
def isHidden (name : String) : Bool := name.toList.head? = some '.'

@[simp] theorem isHidden_hidden (stem mark token : String) :
    isHidden (hidden stem mark token) = true := by
  simp [isHidden, hidden]

theorem isHidden_of_isPublicationTemporaryName {isUuid : String → Bool} {name : String}
    (h : isPublicationTemporaryName isUuid name = true) :
    isHidden name = true := by
  unfold isPublicationTemporaryName at h
  unfold isHidden
  split at h
  · rename_i heq
    rw [heq]
    rfl
  · cases h

theorem not_isHidden_of_validInstanceId {value : String} (h : validInstanceId value = true) :
    isHidden value = false := by
  simp only [validInstanceId, Bool.and_eq_true, decide_eq_true_eq] at h
  simpa [isHidden] using h.2

theorem not_isHidden_append {stem suffix : String} (hstem : validInstanceId stem = true) :
    isHidden (stem ++ suffix) = false := by
  have hhidden := not_isHidden_of_validInstanceId hstem
  have hne : stem.toList ≠ [] := by
    intro hnil
    simp only [validInstanceId, isFileName, Bool.and_eq_true, decide_eq_true_eq] at hstem
    exact hstem.1.1.1.1.1 (String.toList_eq_nil_iff.mp hnil)
  unfold isHidden at hhidden ⊢
  rw [String.toList_append, List.head?_append_of_ne_nil _ hne]
  exact hhidden

theorem not_isHidden_isoName {instanceId : String} (h : validInstanceId instanceId = true) :
    isHidden (isoName instanceId) = false ∧
      isHidden (isoManifestName (isoName instanceId)) = false := by
  constructor
  · exact not_isHidden_append h
  · rw [isoManifestName, isoName, String.append_assoc]
    exact not_isHidden_append h

theorem isFileName_isoName {instanceId : String} (h : validInstanceId instanceId = true) :
    isFileName (isoName instanceId) = true := by
  simp only [validInstanceId, isFileName, Bool.and_eq_true, decide_eq_true_eq] at h
  have hslash : '/' ∉ instanceId.toList := by simpa using h.1.1.2
  have hlength : 4 ≤ (isoName instanceId).toList.length := by simp [isoName]
  have hne : ∀ s : String, s.toList.length < 4 → isoName instanceId ≠ s := by
    rintro s hs rfl
    omega
  simp only [isFileName, Bool.and_eq_true, decide_eq_true_eq]
  refine ⟨⟨⟨hne _ (by decide), hne _ (by decide)⟩, hne _ (by decide)⟩, ?_⟩
  simpa [isoName] using hslash

theorem isPrefixOf_of_head?_ne {a b c : Char} {separator text : List Char}
    (hb : text.head? ≠ some b) :
    (a :: b :: separator).isPrefixOf (c :: text) = false := by
  cases text with
  | nil => simp [List.isPrefixOf]
  | cons d text =>
    have hd : b ≠ d := fun h => hb (by rw [h]; rfl)
    simp [List.isPrefixOf, hd]

/-- Nothing is found in a part without the second character of the separator. -/
theorem splitOnceAt_append {a b : Char} {separator before rest : List Char}
    (hbefore : b ∉ before) (hrest : rest.head? ≠ some b) :
    splitOnceAt (a :: b :: separator) (before ++ rest) =
    (splitOnceAt (a :: b :: separator) rest).map (Prod.map (before ++ ·) id) := by
  induction before with
  | nil =>
    rw [List.nil_append]
    cases splitOnceAt (a :: b :: separator) rest <;> rfl
  | cons c before ih =>
    have hb : b ∉ before := fun h => hbefore (List.mem_cons_of_mem _ h)
    have hhead : (before ++ rest).head? ≠ some b := by
      cases before with
      | nil => exact hrest
      | cons d before => simpa using fun h : d = b => hb (h ▸ List.mem_cons_self)
    rw [List.cons_append, splitOnceAt, isPrefixOf_of_head?_ne hhead, if_neg (by decide), ih hb]
    cases splitOnceAt (a :: b :: separator) rest <;> rfl

theorem splitOnceAt_of_notMem {a b : Char} {separator text : List Char} (hb : b ∉ text) :
    splitOnceAt (a :: b :: separator) text = none := by
  rw [← List.append_nil text, splitOnceAt_append hb (by simp)]
  rfl

theorem stripSuffix_append (text suffix : List Char) :
    stripSuffix suffix (text ++ suffix) = some text := by
  simp [stripSuffix]

theorem stripSuffix_of_notMem {suffix text : List Char} {c : Char}
    (hsuffix : c ∈ suffix) (htext : c ∉ text) :
    stripSuffix suffix text = none := by
  unfold stripSuffix
  rw [if_neg]
  intro h
  exact htext ((List.isSuffixOf_iff_suffix.mp h).subset hsuffix)

section Temporaries

variable {isUuid : String → Bool} {instanceId : String} (token : String) {stem : List Char}

theorem splitOnceAt_temporary
    (hstem : stem = [] ∨ stem = ".iso".toList ∨ stem = ".iso-manifest".toList)
    (hid : 't' ∉ instanceId.toList) :
    splitOnceAt "-tmp-".toList (instanceId.toList ++ (stem ++ ("-tmp-".toList ++ token.toList))) =
    some (instanceId.toList ++ stem, token.toList) := by
  have hrest :
      (stem ++ ("-tmp-".toList ++ token.toList)).head? ≠ some 't' := by
    rcases hstem with rfl | rfl | rfl <;> simp
  have hsplit :
      splitOnceAt "-tmp-".toList (stem ++ ("-tmp-".toList ++ token.toList))
        =
      some (stem, token.toList) := by
    rcases hstem with rfl | rfl | rfl <;> simp [splitOnceAt, List.isPrefixOf]
  show splitOnceAt ('-' :: 't' :: "mp-".toList) _ = _
  rw [splitOnceAt_append hid hrest]
  show (splitOnceAt "-tmp-".toList _).map _ = _
  rw [hsplit]
  rfl

theorem splitOnceAt_backup
    (hstem : stem = [] ∨ stem = ".iso".toList ∨ stem = ".iso-manifest".toList)
    (hid : 't' ∉ instanceId.toList) (hid' : 'o' ∉ instanceId.toList) (htoken : 't' ∉ token.toList) :
    splitOnceAt "-tmp-".toList (instanceId.toList ++ (stem ++ ("-old-".toList ++ token.toList))) =
      none ∧
    splitOnceAt "-old-".toList (instanceId.toList ++ (stem ++ ("-old-".toList ++ token.toList))) =
      some (instanceId.toList ++ stem, token.toList) := by
  have hrest : ∀ c, c = 't' ∨ c = 'o' →
      (stem ++ ("-old-".toList ++ token.toList)).head? ≠ some c := by
    rintro c (rfl | rfl) <;> rcases hstem with rfl | rfl | rfl <;> simp
  have hnone : splitOnceAt "-tmp-".toList ("-old-".toList ++ token.toList) = none := by
    show splitOnceAt ('-' :: 't' :: "mp-".toList) _ = none
    exact splitOnceAt_of_notMem (by simpa using htoken)
  have hsplit :
      splitOnceAt "-tmp-".toList (stem ++ ("-old-".toList ++ token.toList)) = none ∧
        splitOnceAt "-old-".toList (stem ++ ("-old-".toList ++ token.toList))
          =
        some (stem, token.toList) := by
    constructor
    · generalize "-old-".toList ++ token.toList = tail at hnone
      rcases hstem with rfl | rfl | rfl <;> simpa [splitOnceAt, List.isPrefixOf] using hnone
    · rcases hstem with rfl | rfl | rfl <;> simp [splitOnceAt, List.isPrefixOf]
  constructor
  · show splitOnceAt ('-' :: 't' :: "mp-".toList) _ = _
    rw [splitOnceAt_append hid (hrest _ (Or.inl rfl))]
    show (splitOnceAt "-tmp-".toList _).map _ = _
    rw [hsplit.1]
    rfl
  · show splitOnceAt ('-' :: 'o' :: "ld-".toList) _ = _
    rw [splitOnceAt_append hid' (hrest _ (Or.inr rfl))]
    show (splitOnceAt "-old-".toList _).map _ = _
    rw [hsplit.2]
    rfl

theorem instanceId_of_stem
    (hstem : stem = [] ∨ stem = ".iso".toList ∨ stem = ".iso-manifest".toList)
    (hid : 't' ∉ instanceId.toList) (hid' : 'o' ∉ instanceId.toList) :
    ((stripSuffix ".iso-manifest".toList (instanceId.toList ++ stem)).or
        (stripSuffix ".iso".toList (instanceId.toList ++ stem))).getD (instanceId.toList ++ stem)
      =
    instanceId.toList := by
  rcases hstem with rfl | rfl | rfl
  · rw [List.append_nil, stripSuffix_of_notMem (c := 't') (by simp) hid,
      stripSuffix_of_notMem (c := 'o') (by simp) hid']
    rfl
  · rw [stripSuffix_of_notMem (c := 't') (by simp) (by simpa using hid), stripSuffix_append]
    rfl
  · rw [stripSuffix_append]
    rfl

/-- **The restart recognises the temporaries** of instances whose identifier is
the text of a UUID. -/
theorem isPublicationTemporaryName_hidden
    (hchars : ∀ s, isUuid s = true → 't' ∉ s.toList ∧ 'o' ∉ s.toList)
    (hid : isUuid instanceId = true) (htoken : isUuid token = true) (stem mark : String)
    (hstem : stem = "" ∨ stem = ".iso" ∨ stem = ".iso-manifest")
    (hmark : mark = "-tmp-" ∨ mark = "-old-") :
    isPublicationTemporaryName isUuid (hidden (instanceId ++ stem) mark token) = true := by
  have hlist : stem.toList = [] ∨ stem.toList = ".iso".toList ∨
      stem.toList = ".iso-manifest".toList := by
    rcases hstem with rfl | rfl | rfl <;> simp
  obtain ⟨ht, ho⟩ := hchars instanceId hid
  have hname :
      (hidden (instanceId ++ stem) mark token).toList
        =
      '.' :: (instanceId.toList ++ (stem.toList ++ (mark.toList ++ token.toList))) := by
    simp [hidden]
  have hstrip := instanceId_of_stem hlist ht ho
  unfold isPublicationTemporaryName
  rw [hname]
  rcases hmark with rfl | rfl
  · have hsplit := splitOnceAt_temporary token hlist ht
    simp only [hsplit, Option.some_or, hstrip, String.ofList_toList, hid, htoken, Bool.and_self]
  · obtain ⟨hnone, hsplit⟩ := splitOnceAt_backup token hlist ht ho (hchars token htoken).1
    simp only [hnone, hsplit, Option.none_or, hstrip, String.ofList_toList, hid, htoken,
      Bool.and_self]

end Temporaries

end ConfigDrive
end O3k
