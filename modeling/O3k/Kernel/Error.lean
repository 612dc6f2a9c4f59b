import Mathlib.Algebra.Order.Ring.Int
import O3k.Store.Values

/-!
# Errors and checked arithmetic of the kernel

`KernelError` has one constructor for every variant of the source's error type
that a modelled function returns.  The fixed-width integers of the source are
`Int`, with a check where the source makes one.
-/

namespace O3k

inductive KernelError
  | invalidScopeId (value : String)
  | invalidResourceId (value : String)
  | invalidResourceType (detail : String)
  | invalidActionId (detail : String)
  | invalidIdentifier (detail : String)
  | meteringUnavailable (error : SqlError)
  | meteringCorrupt (detail : String)
  | topologyUnavailable (reason : String)
  deriving DecidableEq

/-- `i64::MAX`. -/
def i64Max : Int := 9223372036854775807

/-- `i128::MAX`. -/
def i128Max : Int := 170141183460469231731687303715884105727

/-- `i64::try_from`, or an operation of `i64` that checks its result. -/
def checkedI64 (x : Int) (e : KernelError) : Except KernelError Int :=
  if -i64Max - 1 ≤ x ∧ x ≤ i64Max then .ok x else .error e

/-- An operation of `i128` that checks its result. -/
def checkedI128 (x : Int) (e : KernelError) : Except KernelError Int :=
  if -i128Max - 1 ≤ x ∧ x ≤ i128Max then .ok x else .error e

theorem checkedI64_eq_ok {x y : Int} {e : KernelError} (h : checkedI64 x e = .ok y) :
    y = x ∧ x ≤ i64Max := by
  unfold checkedI64 at h
  split at h
  · rename_i hrange
    cases h
    exact ⟨rfl, hrange.2⟩
  · cases h

theorem checkedI64_of_le {x : Int} (hnonneg : 0 ≤ x) (hle : x ≤ i64Max) (e : KernelError) :
    checkedI64 x e = .ok x := by
  refine if_pos ⟨?_, hle⟩
  unfold i64Max
  omega

theorem checkedI128_eq_ok {x y : Int} {e : KernelError} (h : checkedI128 x e = .ok y) : y = x := by
  unfold checkedI128 at h
  split at h
  · cases h
    rfl
  · cases h

theorem checkedI128_of_le {x : Int} (hnonneg : 0 ≤ x) (hle : x ≤ i128Max) (e : KernelError) :
    checkedI128 x e = .ok x := by
  refine if_pos ⟨?_, hle⟩
  unfold i128Max
  omega

/-!
# Identifiers of the kernel

The typed identifiers normalise their text on the way in: an action and a
resource type have a namespace in lower case, and none of the parts is blank.
-/

/-- What the kernel takes from its libraries: the timestamp parser,
`str::to_lowercase`, `format!("{s:?}")` and the text of a database error. -/
structure TextLibrary where
  isRfc3339 : String → Bool
  toLowercase : String → String
  debug : String → String
  displaySql : SqlError → String

/-- `Display for KernelError`. -/
def KernelError.display (lib : TextLibrary) :
    KernelError → String
  | .invalidScopeId detail => "invalid scope identifier: " ++ detail
  | .invalidResourceId detail => "invalid resource identifier: " ++ detail
  | .invalidResourceType detail => "invalid resource type: " ++ detail
  | .invalidActionId detail => "invalid action identifier: " ++ detail
  | .invalidIdentifier detail => "invalid identifier: " ++ detail
  | .meteringUnavailable error => "metering authority unavailable: " ++ lib.displaySql error
  | .meteringCorrupt detail => "metering state is corrupt or inconsistent: " ++ detail
  | .topologyUnavailable reason => "topology store unavailable: " ++ reason

variable (lib : TextLibrary)

structure ActionId where
  nameSpace : String
  action : String
  deriving DecidableEq

namespace ActionId

def new (nameSpace action : String) : Except KernelError ActionId :=
  if isBlank nameSpace ∨ isBlank action then
    .error (.invalidActionId "action namespace and action name must not be empty")
  else
    .ok ⟨lib.toLowercase (trim nameSpace), trim action⟩

def parse (s : String) : Except KernelError ActionId :=
  match splitOnce ':' s with
  | none =>
    .error (.invalidActionId
      ("action id must be of the form 'namespace:Action', got " ++ lib.debug s))
  | some (nameSpace, action) => new lib nameSpace action

def asStr (a : ActionId) : String := a.nameSpace ++ ":" ++ a.action

end ActionId

structure ResourceType where
  nameSpace : String
  name : String
  deriving DecidableEq

namespace ResourceType

def new (nameSpace name : String) : Except KernelError ResourceType :=
  if isBlank nameSpace ∨ isBlank name then
    .error (.invalidResourceType "resource namespace and name must not be empty")
  else
    .ok ⟨lib.toLowercase (trim nameSpace), lib.toLowercase (trim name)⟩

def toText (t : ResourceType) : String := t.nameSpace ++ ":" ++ t.name

end ResourceType

/-- `ScopeId::new`; the scope is kept as its text. -/
def newScopeId (id : String) : Except KernelError String :=
  if isBlank id then .error (.invalidScopeId "scope id must not be empty") else .ok (trim id)

/-- `ResourceId::new`. -/
def newResourceId (id : String) : Except KernelError String :=
  if isBlank id then .error (.invalidResourceId "resource id must not be empty") else .ok (trim id)

end O3k
