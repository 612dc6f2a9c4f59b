import O3k.Kernel.Error
import O3k.Relational.Table
import Mathlib.Data.Prod.Lex
import Mathlib.Data.String.Basic
import O3k.Relational.Sorting

/-!
# Canonical location topology

Regions contain availability domains, availability domains contain a hierarchy
of failure domains, and failure domains are bound to targets.  Identifiers
come from one small alphabet; lengths are in bytes, as `str::len`.
-/

namespace O3k
namespace Location

open Relational

def maxFailureDomainNameLen : Nat := 256

def maxMetadataEntries : Nat := 32

def maxMetadataKeyLen : Nat := 64

def maxMetadataValueLen : Nat := 256

def maxFailureDomainDepth : Nat := 64

def isLocationIdChar (c : Char) : Bool := c.isLower || c.isDigit || c == '_' || c == '-'

def validLocationId (id : String) : Bool :=
  match id.toList with
  | [] => false
  | first :: rest =>
    (first.isLower || first.isDigit) && id.utf8ByteSize ≤ 128 && rest.all isLocationIdChar

def isMetadataKeyChar (c : Char) : Bool :=
  c.isLower || c.isDigit || c == '_' || c == '.' || c == '-'

def validMetadataKey (key : String) : Bool :=
  match key.toList with
  | [] => false
  | first :: rest =>
    (first.isLower || first.isDigit) && key.utf8ByteSize ≤ maxMetadataKeyLen &&
      rest.all isMetadataKeyChar

structure AvailabilityDomain where
  id : String
  deriving DecidableEq

structure RegionDeclaration where
  id : String
  availabilityDomains : List AvailabilityDomain
  deriving DecidableEq

inductive FailureDomainClass
  | site
  | building
  | room
  | row
  | rack
  | chassis
  | powerDomain
  | networkDomain
  | storageDomain
  deriving DecidableEq

def FailureDomainClass.rank : FailureDomainClass → Nat
  | site => 10
  | building => 20
  | room => 30
  | row => 40
  | rack => 50
  | chassis => 60
  | powerDomain | networkDomain | storageDomain => 70

/-- `BTreeMap<String, String>`. -/
abbrev Metadata := Table (Prod.fst : String × String → String)

structure FailureDomain where
  id : String
  className : FailureDomainClass
  name : String
  availabilityDomain : String
  parent : Option String
  generation : UInt64
  metadata : Metadata
  deriving DecidableEq

inductive BindingTargetKind
  | resourceProvider
  | host
  | fabricDomain
  | storageDomain
  deriving DecidableEq

def BindingTargetKind.asStr : BindingTargetKind → String
  | resourceProvider => "resource-provider"
  | host => "host"
  | fabricDomain => "fabric-domain"
  | storageDomain => "storage-domain"

structure BindingTarget where
  kind : BindingTargetKind
  id : String
  deriving DecidableEq

structure TopologyBinding where
  failureDomain : String
  target : BindingTarget
  deriving DecidableEq

structure TopologySnapshot where
  regions : List RegionDeclaration
  failureDomains : List FailureDomain
  bindings : List TopologyBinding
  deriving DecidableEq

/-- The `LocationError` variants of validation and mutation. -/
inductive LocationError
  | emptyRegionId
  | emptyAvailabilityDomainId
  | malformedRegionId (id : String)
  | malformedAvailabilityDomainId (id : String)
  | duplicateRegion (id : String)
  | duplicateAvailabilityDomainInRegion (az region : String)
  | ambiguousAvailabilityDomain (az : String)
  | unknownTopologyRegion (id : String)
  | malformedFailureDomainId (id : String)
  | duplicateFailureDomain (id : String)
  | unknownFailureDomain (id : String)
  | emptyFailureDomainName
  | failureDomainNameTooLong (name : String)
  | unknownFailureDomainAvailabilityDomain (domain az : String)
  | failureDomainParentMissing (domain parent : String)
  | failureDomainSelfParent (domain : String)
  | failureDomainCycle (domain : String)
  | failureDomainHierarchyTooDeep (domain : String)
  | invalidFailureDomainNesting (domain : String) (className : FailureDomainClass) (parent : String)
      (parentClass : FailureDomainClass)
  | failureDomainOutsideAvailabilityDomain (domain parent az parentAz : String)
  | failureDomainHasChildren (domain : String)
  | failureDomainHasBindings (domain : String)
  | availabilityDomainHasFailureDomains (az : String)
  | regionHasAvailabilityDomains (region : String)
  | duplicateBinding (domain : String) (kind : BindingTargetKind) (target : String)
  | tooManyMetadataEntries (count : Nat)
  | invalidMetadataKey (key : String)
  | metadataValueTooLong (key : String)
  | invalidBindingTargetId (id : String)
  | staleFailureDomainGeneration (domain : String) (expected actual : UInt64)
  deriving DecidableEq

inductive TopologyError
  | location (error : LocationError)
  | store (error : KernelError)
  deriving DecidableEq

theorem BindingTargetKind.asStr_injective : Function.Injective BindingTargetKind.asStr := by
  intro kind kind' h
  cases kind <;> cases kind' <;> first | rfl | exact absurd h (by decide)

/-- The order of bindings: domain, kind by its name, target. -/
def bindingKey (b : TopologyBinding) : String ×ₗ String ×ₗ String :=
  toLex (b.failureDomain, toLex (b.target.kind.asStr, b.target.id))

theorem bindingKey_injective : Function.Injective bindingKey := by
  rintro ⟨domain, kind, target⟩ ⟨domain', kind', target'⟩ h
  obtain ⟨hdomain, hrest⟩ := Prod.mk.inj (toLex.injective h)
  obtain ⟨hkind, htarget⟩ := Prod.mk.inj (toLex.injective hrest)
  cases hdomain
  cases BindingTargetKind.asStr_injective hkind
  cases htarget
  rfl

/-!
# Validation of a topology

`fromSnapshot` checks everything a snapshot says and sorts it.  The maps of the
source are built from lists; of several entries with one key the last stays.
-/

def validateRegionIdStr (id : String) : Except LocationError Unit :=
  if id.isEmpty then
    .error .emptyRegionId
  else if validLocationId id then
    .ok ()
  else
    .error (.malformedRegionId id)

def validateAzIdStr (id : String) : Except LocationError Unit :=
  if id.isEmpty then
    .error .emptyAvailabilityDomainId
  else if validLocationId id then
    .ok ()
  else
    .error (.malformedAvailabilityDomainId id)

def validateFailureDomainId (id : String) : Except LocationError Unit :=
  if validLocationId id then .ok () else .error (.malformedFailureDomainId id)

def validateFailureDomainName (name : String) : Except LocationError Unit :=
  if name.isEmpty then
    .error .emptyFailureDomainName
  else if maxFailureDomainNameLen < name.utf8ByteSize then
    .error (.failureDomainNameTooLong name)
  else
    .ok ()

def validateMetadataEntries : List (String × String) → Except LocationError Unit
  | [] => .ok ()
  | (key, value) :: rest =>
    if !validMetadataKey key then
      .error (.invalidMetadataKey key)
    else if maxMetadataValueLen < value.utf8ByteSize then
      .error (.metadataValueTooLong key)
    else
      validateMetadataEntries rest

def validateMetadata (metadata : Metadata) : Except LocationError Unit :=
  if maxMetadataEntries < metadata.rows.length then
    .error (.tooManyMetadataEntries metadata.rows.length)
  else
    validateMetadataEntries metadata.rows

/-- The availability domains of one region: what was seen in the region, what
was seen in any region, and the latter at the end. -/
def validateAvailabilityDomains (region : String) :
    List AvailabilityDomain → List String → List String → Except LocationError (List String)
  | [], _, azToRegion => .ok azToRegion
  | az :: rest, seenAzInRegion, azToRegion => do
    validateAzIdStr az.id
    if az.id ∈ seenAzInRegion then
      .error (.duplicateAvailabilityDomainInRegion az.id region)
    else if az.id ∈ azToRegion then
      .error (.ambiguousAvailabilityDomain az.id)
    else
      validateAvailabilityDomains region rest (az.id :: seenAzInRegion) (az.id :: azToRegion)

def validateRegionsFrom :
    List RegionDeclaration → List String → List String → Except LocationError Unit
  | [], _, _ => .ok ()
  | region :: rest, seenRegions, azToRegion => do
    validateRegionIdStr region.id
    if region.id ∈ seenRegions then
      .error (.duplicateRegion region.id)
    else
      let azToRegion ←
        validateAvailabilityDomains region.id region.availabilityDomains [] azToRegion
      validateRegionsFrom rest (region.id :: seenRegions) azToRegion

variable (regions : List RegionDeclaration)

def validateRegionDeclarations : Except LocationError Unit := validateRegionsFrom regions [] []

def allAvailabilityDomains : List AvailabilityDomain := regions.flatMap (·.availabilityDomains)

/-- `availability_domain_index(..).contains_key(..)`. -/
def knowsAvailabilityDomain (az : String) : Bool :=
  (allAvailabilityDomains regions).any (fun known => known.id = az)

/-- `failure_domain_map(..).get(..)`. -/
def lookupDomain (domains : List FailureDomain) (id : String) : Option FailureDomain :=
  domains.reverse.find? (fun domain => domain.id = id)

/-- The walk along the parents: the domain is at depth
`maxFailureDomainDepth + 1 - remaining`. -/
def walkParents (domain : FailureDomain) (context : String → Option FailureDomain) :
    Nat → List String → FailureDomain → Except LocationError Unit
  | remaining, visited, current =>
    if current.id ∈ visited then
      .error (.failureDomainCycle domain.id)
    else
      match remaining with
      | 0 => .error (.failureDomainHierarchyTooDeep domain.id)
      | remaining + 1 =>
        match current.parent.bind context with
        | none => .ok ()
        | some next => walkParents domain context remaining (current.id :: visited) next

/-- What is checked of a domain with a parent. -/
def validateParent
    (domain : FailureDomain) (context : String → Option FailureDomain) (parentId : String) :
    Except LocationError Unit :=
  if parentId = domain.id then
    .error (.failureDomainSelfParent domain.id)
  else
    match context parentId with
    | none => .error (.failureDomainParentMissing domain.id parentId)
    | some parent =>
      if parent.availabilityDomain ≠ domain.availabilityDomain then
        .error (.failureDomainOutsideAvailabilityDomain domain.id parentId
          domain.availabilityDomain parent.availabilityDomain)
      else if domain.className.rank < parent.className.rank then
        .error (.invalidFailureDomainNesting domain.id domain.className parentId parent.className)
      else
        -- the parent is at depth 2
        walkParents domain context (maxFailureDomainDepth - 1) [domain.id] parent

def validateFailureDomainStructure
    (domain : FailureDomain) (context : String → Option FailureDomain) (knowsAz : String → Bool) :
    Except LocationError Unit := do
  validateFailureDomainId domain.id
  validateFailureDomainName domain.name
  validateMetadata domain.metadata
  if !knowsAz domain.availabilityDomain then
    .error (.unknownFailureDomainAvailabilityDomain domain.id domain.availabilityDomain)
  else
    match domain.parent with
    | none => .ok ()
    | some parentId => validateParent domain context parentId

def validateUniqueDomains :
    List FailureDomain → List String → Except LocationError Unit
  | [], _ => .ok ()
  | domain :: rest, seenDomains =>
    if domain.id ∈ seenDomains then
      .error (.duplicateFailureDomain domain.id)
    else
      validateUniqueDomains rest (domain.id :: seenDomains)

def validateEachDomain (context : String → Option FailureDomain) (knowsAz : String → Bool) :
    List FailureDomain → Except LocationError Unit
  | [] => .ok ()
  | domain :: rest => do
    validateFailureDomainStructure domain context knowsAz
    validateEachDomain context knowsAz rest

def validateBindings (context : String → Option FailureDomain) :
    List TopologyBinding → List TopologyBinding → Except LocationError Unit
  | [], _ => .ok ()
  | binding :: rest, seenBindings =>
    if (context binding.failureDomain).isNone then
      .error (.unknownFailureDomain binding.failureDomain)
    else if !validLocationId binding.target.id then
      .error (.invalidBindingTargetId binding.target.id)
    else if bindingKey binding ∈ seenBindings.map bindingKey then
      .error (.duplicateBinding binding.failureDomain binding.target.kind binding.target.id)
    else
      validateBindings context rest (binding :: seenBindings)

structure TopologyState where
  failureDomains : List FailureDomain
  bindings : List TopologyBinding
  deriving DecidableEq

structure LocationRegistry where
  regions : List RegionDeclaration
  topology : TopologyState
  deriving DecidableEq

def sortedRegions : List RegionDeclaration :=
  sortBy RegionDeclaration.id
    (regions.map fun region =>
      { region with
        availabilityDomains := sortBy AvailabilityDomain.id region.availabilityDomains })

namespace LocationRegistry

/-- `LocationRegistry::default`. -/
def empty : LocationRegistry := ⟨[], ⟨[], []⟩⟩

def fromSnapshot (snapshot : TopologySnapshot) : Except LocationError LocationRegistry := do
  validateRegionDeclarations snapshot.regions
  validateUniqueDomains snapshot.failureDomains []
  let context := lookupDomain snapshot.failureDomains
  validateEachDomain context (knowsAvailabilityDomain snapshot.regions) snapshot.failureDomains
  validateBindings context snapshot.bindings []
  pure
    { regions := sortedRegions snapshot.regions
      topology :=
        { failureDomains := sortBy FailureDomain.id snapshot.failureDomains
          bindings := sortBy bindingKey snapshot.bindings } }

def snapshot (self : LocationRegistry) : TopologySnapshot :=
  { regions := self.regions
    failureDomains := self.topology.failureDomains
    bindings := self.topology.bindings }

end LocationRegistry

end Location
end O3k
