import O3k.Store.Values

/-!
# Placement records and repository calls

The values that cross the `PlacementRepository` trait, and the trait itself: a
call is a method with its arguments, `Reply` is what the method returns.  The
allocation ratio is a floating-point number in the source; its type `R` stays
abstract here and only the capacity function of the ledger looks at it.
-/

namespace O3k
namespace Placement

structure PlacementInventoryRecord (R : Type) where
  resourceClass : String
  total : Nat
  reserved : Nat
  allocationRatio : R
  used : Nat
  deriving DecidableEq

structure PlacementResourceRecord where
  resourceClass : String
  amount : Nat
  deriving DecidableEq

structure PlacementAllocationRecord where
  id : String
  providerId : String
  consumerId : String
  resources : List PlacementResourceRecord
  deriving DecidableEq

abbrev PlacementIntentRecord := PlacementAllocationRecord

structure PlacementProviderRecord (R : Type) where
  id : String
  nodeId : String
  state : String
  generation : Nat
  inventories : List (PlacementInventoryRecord R)
  allocations : List PlacementAllocationRecord
  parentProviderId : Option String
  traits : List String
  failureDomains : List String
  location : Option String
  deriving DecidableEq

structure PlacementReconcileRecord where
  orphanedAllocations : List PlacementAllocationRecord
  abandonedIntents : List PlacementIntentRecord
  deriving DecidableEq

/-- The metadata that registration and hierarchy updates write. -/
structure ProviderMetadata where
  parentProviderId : Option String
  traits : List String
  failureDomains : List String
  location : Option String
  deriving DecidableEq

/-- The methods of `PlacementRepository`, without the lists of intents, the lists
with a bound and the import of a legacy provider. -/
inductive RepositoryCall (R : Type)
  | getProvider (providerId : String)
  | listProviders
  | registerProvider (nodeId : String) (inventories : List (PlacementInventoryRecord R))
  | registerProviderMetadata (nodeId : String) (inventories : List (PlacementInventoryRecord R))
      (metadata : ProviderMetadata)
  | updateProviderMetadata (providerId : String) (expectedGeneration : Nat)
      (metadata : ProviderMetadata)
  | syncProvider (nodeId state : String) (inventories : List (PlacementInventoryRecord R))
  | refreshInventories (providerId : String) (expectedGeneration : Nat)
      (inventories : List (PlacementInventoryRecord R))
  | setProviderState (providerId state : String)
  | commitAllocation (providerId : String) (expectedGeneration : Nat)
      (allocation : PlacementAllocationRecord)
  | releaseAllocation (providerId allocationId : String)
  | upsertIntent (intent : PlacementIntentRecord)
  | getIntent (allocationId : String)
  | deleteIntent (allocationId : String)
  | reconcileConsumers (durableConsumerIds : List String)
  deriving DecidableEq

abbrev RepositoryCall.Reply {R : Type} : RepositoryCall R → Type
  | .getProvider _ => Except StoreError (Option (PlacementProviderRecord R))
  | .listProviders => Except StoreError (List (PlacementProviderRecord R))
  | .registerProvider _ _ => Except StoreError (PlacementProviderRecord R)
  | .registerProviderMetadata _ _ _ => Except StoreError (PlacementProviderRecord R)
  | .updateProviderMetadata _ _ _ => Except StoreError (PlacementProviderRecord R)
  | .syncProvider _ _ _ => Except StoreError (PlacementProviderRecord R)
  | .refreshInventories _ _ _ => Except StoreError (PlacementProviderRecord R)
  | .setProviderState _ _ => Except StoreError Unit
  | .commitAllocation _ _ _ => Except StoreError PlacementAllocationRecord
  | .releaseAllocation _ _ => Except StoreError Unit
  | .upsertIntent _ => Except StoreError PlacementIntentRecord
  | .getIntent _ => Except StoreError (Option PlacementIntentRecord)
  | .deleteIntent _ => Except StoreError Unit
  | .reconcileConsumers _ => Except StoreError PlacementReconcileRecord

def RepositoryCall.provider? {R : Type} : RepositoryCall R → Option String
  | .getProvider providerId => some providerId
  | .registerProvider nodeId _ => some nodeId
  | .registerProviderMetadata nodeId _ _ => some nodeId
  | .updateProviderMetadata providerId _ _ => some providerId
  | .syncProvider nodeId _ _ => some nodeId
  | .refreshInventories providerId _ _ => some providerId
  | .setProviderState providerId _ => some providerId
  | .commitAllocation providerId _ _ => some providerId
  | .releaseAllocation providerId _ => some providerId
  | _ => none

def RepositoryCall.registered? {R : Type} : RepositoryCall R → Option String
  | .registerProvider nodeId _ => some nodeId
  | .registerProviderMetadata nodeId _ _ => some nodeId
  | .syncProvider nodeId _ _ => some nodeId
  | _ => none

def RepositoryCall.reported {R : Type} : RepositoryCall R → List (PlacementInventoryRecord R)
  | .registerProvider _ inventories => inventories
  | .registerProviderMetadata _ inventories _ => inventories
  | .syncProvider _ _ inventories => inventories
  | .refreshInventories _ _ inventories => inventories
  | _ => []

end Placement
end O3k
