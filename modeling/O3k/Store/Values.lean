import O3k.Kernel.Quota

/-!
# Values and errors of the durable store

`StoreError` has one constructor for every variant of the source's error type
that a modelled function returns.  `SqlError` is what a modelled function can
tell apart in a `sqlx::Error`.
-/

namespace O3k

/-- Why the database refused a statement. -/
inductive SqlError
  | uniqueViolation
  | foreignKeyViolation
  | checkViolation
  | notNullViolation
  | valueOutOfRange
  | raisedAbort (message : String)
  | rowNotFound
  deriving DecidableEq

inductive StoreError
  | database (error : SqlError)
  | resourceNotFound
  | resourceAlreadyExists
  | operationNotFound
  | networkNotFound
  | networkInUse
  | networkAddressConflict
  | networkAddressExhausted
  | ownershipConflict
  | staleGeneration
  | fenced
  | corrupt (detail : String)
  | placementProviderNotFound
  | placementStaleGeneration
  | placementAllocationConflict
  | placementIntentConflict
  | placementAllocationNotFound
  | providerReferenceNotFound
  | providerReferenceAlreadyExists
  | quotaExceeded (key : LimitKey) (limit : LimitValue) (used requested : Nat)
  | quotaGenerationConflict
  | auditEventConflict
  | idempotencyConflict
  | reservationConflict (detail : String)
  | reservationNotFound
  | invalidArtifactTransfer (detail : String)
  | artifactTransferConflict (detail : String)
  | artifactTransferEpochConflict
  | artifactTransferNotFound
  deriving DecidableEq

/-!
# Text as the store sees it

`str::trim` removes the characters with the Unicode property `White_Space`.
-/

/-- `char::is_whitespace`. -/
def isWhitespace (c : Char) : Bool :=
  (9 ≤ c.toNat && c.toNat ≤ 13) ||
    c.toNat = 0x20 ||
    c.toNat = 0x85 ||
    c.toNat = 0xA0 ||
    c.toNat = 0x1680 ||
    (0x2000 ≤ c.toNat && c.toNat ≤ 0x200A) ||
    c.toNat = 0x2028 ||
    c.toNat = 0x2029 ||
    c.toNat = 0x202F ||
    c.toNat = 0x205F ||
    c.toNat = 0x3000

/-- `str::trim`. -/
def trim (s : String) : String :=
  String.ofList ((s.toList.dropWhile isWhitespace).reverse.dropWhile isWhitespace).reverse

/-- `str::split_once`. -/
def splitOnce (c : Char) (s : String) : Option (String × String) :=
  match s.toList.span (fun x => x ≠ c) with
  | (_, []) => none
  | (before, _ :: after) => some (String.ofList before, String.ofList after)

/-- `value.trim().is_empty()`. -/
def isBlank (s : String) : Bool := s.toList.all isWhitespace

/-- `str::contains`, on characters. -/
def containsChars (needle : List Char) : List Char → Bool
  | [] => needle.isEmpty
  | c :: cs => needle.isPrefixOf (c :: cs) || containsChars needle cs

/-- `str::contains`. -/
def containsText (needle s : String) : Bool := containsChars needle.toList s.toList

/-!
# Columns

A `Uuid` is stored as its text, which determines it.  An `INTEGER` column
holds a signed 64-bit number.
-/

abbrev Uuid := String

/-- `i64::MAX`. -/
def integerMax : Nat := 9223372036854775807

end O3k
