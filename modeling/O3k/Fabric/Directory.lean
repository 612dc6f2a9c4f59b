import O3k.Fabric.Records

/-!
# The endpoint directory of a realm

`RealmEndpointDirectory::build`, and what a directory derives for one host:
the routes to the endpoints of the other hosts, and the fabric plan.
-/

namespace O3k
namespace Fabric

open Relational Network

inductive EndpointDirectoryError
  | invalidDirectoryGeneration
  | invalidIdentity
  | invalidGeneration
  | outsideRealm
  | scopeMismatch
  | duplicateEndpoint
  | invalidMac
  | proxyMacCollision
  | missingFabricIdentity
  | invalidFabricIdentity
  | invalidFabricTransportAddress
  | invalidRealmBinding
  | missingLocalFabricIdentity
  | invalidMtu
  deriving DecidableEq

/-- `{:02x}`. -/
def hexByte (b : Nat) : List Char := [Nat.digitChar (b / 16 % 16), Nat.digitChar (b % 16)]

/-- `:` between the bytes. -/
def macText (bytes : List Nat) : String := String.ofList ([':'].intercalate (bytes.map hexByte))

section ProxyMac

variable {Intent Gateway : Type} (lib : FabricLibrary Intent Gateway)

/-- The hash of `realm_proxy_mac`. -/
def realmHash (realmId : Uuid) : UInt64 :=
  (lib.uuidBytes realmId).foldl (fun hash byte => (hash ^^^ byte.toUInt64) * 0x100000001b3)
    (0xcbf29ce484222325 ^^^ 1)

def realmProxyMac (realmId : Uuid) : String :=
  let hash := (realmHash lib realmId).toNat
  macText
    [0x02, hash / 2 ^ 32 % 256, hash / 2 ^ 24 % 256, hash / 2 ^ 16 % 256, hash / 2 ^ 8 % 256,
      hash % 256]

end ProxyMac

def hexValue (c : Char) : Option Nat :=
  if '0' ≤ c ∧ c ≤ '9' then
    some (c.toNat - '0'.toNat)
  else if 'a' ≤ c ∧ c ≤ 'f' then
    some (c.toNat - 'a'.toNat + 10)
  else if 'A' ≤ c ∧ c ≤ 'F' then
    some (c.toNat - 'A'.toNat + 10)
  else
    none

/-- `u8::from_str_radix(part, 16)`: an optional plus sign and hexadecimal digits. -/
def hexU8 (part : List Char) : Option Nat :=
  let digits :=
    match part with
    | '+' :: cs => cs
    | cs => cs
  if digits = [] then
    none
  else
    (digits.mapM hexValue).bind fun values =>
      (some (values.foldl (fun n v => 16 * n + v) 0)).filter (· ≤ 255)

def canonicalMac (value : String) : Option String :=
  let parts := (splitChars ':' value.toList).map fun part =>
    if (String.ofList part).utf8ByteSize = 2 then hexU8 part else none
  match parts.mapM id with
  | none => none
  | some bytes => if bytes.length ≠ 6 ∨ bytes.headD 0 % 2 ≠ 0 then none else some (macText bytes)

/-- The order of the entries: `(fixed_ip, endpoint_id)`. -/
def EndpointLocation.sortKey (entry : EndpointLocation) : ℕ ×ₗ Uuid :=
  toLex (entry.fixedIp.toNat, entry.endpointId)

/-- The loop over the entries; what came before is in the three lists. -/
def admitEntries (realm : AddressRealm) :
    List EndpointLocation → List Uuid → List Ipv4Addr → List String →
      Except EndpointDirectoryError (List EndpointLocation)
  | [], _, _, _ => .ok []
  | entry :: rest, endpointIds, addresses, macs =>
    if entry.projectId = "" ∨ entry.selectedHost = "" ∨ entry.endpointId = nilUuid then
      .error .invalidIdentity
    else if entry.endpointGeneration = 0 ∨ entry.placementGeneration = 0 then
      .error .invalidGeneration
    else if entry.projectId ≠ realm.projectId ∨ entry.realmId ≠ realm.id then
      .error .scopeMismatch
    else if realm.addresses.contains entry.fixedIp = false then
      .error .outsideRealm
    else
      match canonicalMac entry.mac with
      | none => .error .invalidMac
      | some mac =>
        if entry.endpointId ∈ endpointIds ∨ entry.fixedIp ∈ addresses ∨ mac ∈ macs then
          .error .duplicateEndpoint
        else
          match
              admitEntries realm rest (entry.endpointId :: endpointIds)
                (entry.fixedIp :: addresses) (mac :: macs) with
          | .error e => .error e
          | .ok admitted => .ok ({ entry with mac := mac } :: admitted)

/-- The loop over the MAC addresses that the provider occupies. -/
def checkOccupied (proxyMac : String) : List String → Except EndpointDirectoryError Unit
  | [] => .ok ()
  | occupied :: rest =>
    match canonicalMac occupied with
    | none => .error .invalidMac
    | some mac => if mac = proxyMac then .error .proxyMacCollision else checkOccupied proxyMac rest

section Build

variable {Intent Gateway : Type} (lib : FabricLibrary Intent Gateway)

def RealmEndpointDirectory.build
    (realm : AddressRealm) (entries : List EndpointLocation) (occupiedMacs : List String)
    (directoryGeneration : Nat) :
    Except EndpointDirectoryError RealmEndpointDirectory :=
  if directoryGeneration = 0 then
    .error .invalidDirectoryGeneration
  else
    let proxyMac := realmProxyMac lib realm.id
    match admitEntries realm entries [] [] [] with
    | .error e => .error e
    | .ok admitted =>
      if proxyMac ∈ admitted.map (·.mac) then
        .error .proxyMacCollision
      else
        match checkOccupied proxyMac occupiedMacs with
        | .error e => .error e
        | .ok () =>
          .ok
            { realmId := realm.id
              addresses := realm.addresses
              directoryGeneration := directoryGeneration
              proxyMac := proxyMac
              entries := sortBy EndpointLocation.sortKey admitted }

end Build

/-- The loop over the host identities of `remote_routes`. -/
def checkHosts :
    List FabricHostIdentity → List String → List Ipv4Addr → Except EndpointDirectoryError Unit
  | [], _, _ => .ok ()
  | host :: rest, hosts, transportIps =>
    if host.hostId = "" ∨ host.publicKey = "" ∨ host.underlayEndpoint = "" ∨
        host.providerVersion = "" ∨ isUnspecified host.fabricTransportIp = true ∨
        isLoopback host.fabricTransportIp = true ∨ host.fabricGeneration = 0 ∨
        host.underlayMtu = 0 ∨ host.fabricMtu = 0 ∨ host.underlayMtu < host.fabricMtu ∨
        host.hostId ∈ hosts then
      .error .invalidFabricIdentity
    else if host.fabricTransportIp ∈ transportIps then
      .error .invalidFabricTransportAddress
    else
      checkHosts rest (host.hostId :: hosts) (host.fabricTransportIp :: transportIps)

/-- The order of the routes: `(destination, endpoint_id)`. -/
def FabricEndpointRoute.sortKey (route : FabricEndpointRoute) : ℕ ×ₗ ℕ ×ₗ Uuid :=
  toLex (route.destination.network.toNat, toLex (route.destination.prefixLen, route.endpointId))

namespace RealmEndpointDirectory

/-- The loop over the entries of `remote_routes`. -/
def routesTo
    (self : RealmEndpointDirectory) (localHost : String) (hostIdentities : List FabricHostIdentity)
    (binding : RealmEncapsulationBinding) :
    List EndpointLocation → Except EndpointDirectoryError (List FabricEndpointRoute)
  | [] => .ok []
  | entry :: rest =>
    if entry.selectedHost = localHost then
      routesTo self localHost hostIdentities binding rest
    else
      match hostIdentities.find? (·.hostId = entry.selectedHost) with
      | none => .error .missingFabricIdentity
      | some host =>
        match Ipv4Prefix.new entry.fixedIp 32 with
        | none => .error .outsideRealm
        | some destination =>
          match routesTo self localHost hostIdentities binding rest with
          | .error e => .error e
          | .ok routes =>
            .ok
              ({ realmId := self.realmId
                 destination := destination
                 endpointId := entry.endpointId
                 targetHost := entry.selectedHost
                 targetFabricTransportIp := host.fabricTransportIp
                 endpointGeneration := entry.endpointGeneration
                 placementGeneration := entry.placementGeneration
                 realmBindingGeneration := binding.bindingGeneration
                 fabricGeneration := host.fabricGeneration } :: routes)

def remoteRoutes
    (self : RealmEndpointDirectory) (localHost : String) (hostIdentities : List FabricHostIdentity)
    (binding : RealmEncapsulationBinding) :
    Except EndpointDirectoryError (List FabricEndpointRoute) :=
  if localHost = "" then
    .error .invalidIdentity
  else if binding.realmId ≠ self.realmId ∨ binding.validate ≠ .ok () then
    .error .invalidRealmBinding
  else
    match checkHosts hostIdentities [] [] with
    | .error e => .error e
    | .ok () =>
      match self.routesTo localHost hostIdentities binding self.entries with
      | .error e => .error e
      | .ok routes => .ok (sortBy FabricEndpointRoute.sortKey routes)

end RealmEndpointDirectory

def checkedSub (a b : Nat) : Option Nat := if b ≤ a then some (a - b) else none

/-- What the underlay adds to a packet, by the family of its endpoint. -/
def overhead (endpoint : SocketAddr) : Nat := if endpoint.isIpv4 then 60 else 80

section Plan

variable {Intent Gateway : Type} (lib : FabricLibrary Intent Gateway)

/-- The MTU checks on one participant. -/
def mtuAdmits (tenantMtu : Nat) (identity : FabricHostIdentity) : Bool :=
  match lib.parseSocketAddr identity.underlayEndpoint with
  | none => false
  | some endpoint =>
    checkedSub identity.underlayMtu (overhead endpoint) = some identity.fabricMtu &&
      (checkedSub identity.fabricMtu 50).any (tenantMtu ≤ ·)

def FabricHostIdentity.peer (identity : FabricHostIdentity) : FabricPeer where
  hostId := identity.hostId
  publicKey := identity.publicKey
  underlayEndpoint := identity.underlayEndpoint
  fabricTransportIp := identity.fabricTransportIp
  fabricGeneration := identity.fabricGeneration

def RealmEndpointDirectory.compileFabricPlan
    (self : RealmEndpointDirectory) (localIdentity : FabricHostIdentity)
    (hostIdentities : List FabricHostIdentity)
    (tenantMtu : Nat) (binding : RealmEncapsulationBinding) :
    Except EndpointDirectoryError NamespacedRoutedFabricPlan :=
  if localIdentity.hostId = "" then
    .error .missingLocalFabricIdentity
  else if mtuAdmits lib tenantMtu localIdentity = false ∨ tenantMtu < 576 then
    .error .invalidMtu
  else if hostIdentities.any (fun identity => !mtuAdmits lib tenantMtu identity) then
    .error .invalidMtu
  else if localIdentity ∉ hostIdentities then
    .error .missingLocalFabricIdentity
  else
    match self.remoteRoutes localIdentity.hostId hostIdentities binding with
    | .error e => .error e
    | .ok routes =>
      let peers :=
        (hostIdentities.filter fun identity =>
          identity.hostId ≠ localIdentity.hostId &&
            routes.any (·.targetHost = identity.hostId)).map FabricHostIdentity.peer
      .ok
        { localHost := localIdentity.hostId
          localFabricTransportIp := localIdentity.fabricTransportIp
          localFabricGeneration := localIdentity.fabricGeneration
          localUnderlayMtu := localIdentity.underlayMtu
          localFabricMtu := localIdentity.fabricMtu
          realmId := self.realmId
          realmPrefix := self.addresses
          encapsulation := binding
          directoryGeneration := self.directoryGeneration
          directory := self
          proxyMac := self.proxyMac
          tenantMtu := tenantMtu
          policyGeneration := 1
          policies := []
          policyDefaults := []
          publicBindings := []
          dhcp := none
          routes := routes
          peers := sortBy FabricPeer.hostId peers }

end Plan

end Fabric
end O3k
