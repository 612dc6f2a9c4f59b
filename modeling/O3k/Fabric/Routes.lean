import O3k.Fabric.Admission

/-!
# The fabric plan of one host

For the identities of the hosts that have an endpoint, the plan of each of them
compiles.  Its routes lead to the endpoints of the others, and the admission
accepts it.
-/

namespace O3k
namespace Fabric

open Relational Network

/-- What is left of a directory that was built for a realm. -/
structure BuiltFor
    {Intent Gateway : Type} (lib : FabricLibrary Intent Gateway) (realm : AddressRealm)
    (directory : RealmEndpointDirectory) : Prop where
  realmId : directory.realmId = realm.id
  proxyMac : directory.proxyMac = realmProxyMac lib realm.id
  generation : directory.directoryGeneration ≠ 0
  endpointIds : (directory.entries.map (·.endpointId)).Nodup
  fixedIps : (directory.entries.map (·.fixedIp)).Nodup
  hosts : ∀ entry ∈ directory.entries, entry.selectedHost ≠ ""
  generations :
    ∀ entry ∈ directory.entries, entry.endpointGeneration ≠ 0 ∧ entry.placementGeneration ≠ 0
  inside : ∀ entry ∈ directory.entries, directory.addresses.contains entry.fixedIp = true

/-- The identities of exactly the hosts of the entries, each admitted. -/
structure Participating {Intent Gateway : Type} (lib : FabricLibrary Intent Gateway)
    (directory : RealmEndpointDirectory) (selected : List FabricHostIdentity) : Prop where
  valid : ∀ identity ∈ selected, identityIsValid lib identity = true
  hostIds : (selected.map (·.hostId)).Nodup
  transportIps : (selected.map (·.fabricTransportIp)).Nodup
  hosts :
    ∀ hostId, (∃ identity ∈ selected, identity.hostId = hostId) ↔
      ∃ entry ∈ directory.entries, entry.selectedHost = hostId

section Facts

variable {Intent Gateway : Type} {lib : FabricLibrary Intent Gateway}
variable {realm : AddressRealm} {directory : RealmEndpointDirectory}

theorem builtFor_of_build {entries : List EndpointLocation} {directoryGeneration : Nat}
    (h : RealmEndpointDirectory.build lib realm entries [] directoryGeneration = .ok directory) :
    BuiltFor lib realm directory := by
  obtain ⟨hgen, hvalid, hids, haddresses, _, _, rfl⟩ := build_eq_ok.mp h
  have hperm :
      (sortBy EndpointLocation.sortKey (entries.map EndpointLocation.canonical)).Perm
        (entries.map EndpointLocation.canonical) :=
    sortBy_perm _
  have hmem : ∀ entry ∈ sortBy EndpointLocation.sortKey (entries.map EndpointLocation.canonical),
      ∃ given ∈ entries, given.canonical = entry := by
    intro entry hentry
    exact List.mem_map.mp (mem_sortBy.mp hentry)
  refine ⟨rfl, rfl, hgen, ?_, ?_, ?_, ?_, ?_⟩
  · refine (hperm.map _).nodup_iff.mpr ?_
    rw [List.map_map]
    exact hids
  · refine (hperm.map _).nodup_iff.mpr ?_
    rw [List.map_map]
    exact haddresses
  · intro entry hentry
    obtain ⟨given, hgiven, rfl⟩ := hmem entry hentry
    exact (hvalid given hgiven).selectedHost
  · intro entry hentry
    obtain ⟨given, hgiven, rfl⟩ := hmem entry hentry
    exact ⟨(hvalid given hgiven).endpointGeneration, (hvalid given hgiven).placementGeneration⟩
  · intro entry hentry
    obtain ⟨given, hgiven, rfl⟩ := hmem entry hentry
    exact (hvalid given hgiven).address

/-- What the checks on an identity establish. -/
structure Identified (lib : FabricLibrary Intent Gateway) (identity : FabricHostIdentity) :
    Prop where
  hostId : identity.hostId ≠ ""
  publicKey : identity.publicKey ≠ ""
  providerVersion : identity.providerVersion ≠ ""
  underlayEndpoint : identity.underlayEndpoint ≠ ""
  generation : identity.fabricGeneration ≠ 0
  specified : isUnspecified identity.fabricTransportIp = false
  external : isLoopback identity.fabricTransportIp = false
  mtu :
    ∃ endpoint, lib.parseSocketAddr identity.underlayEndpoint = some endpoint ∧
      identity.fabricMtu + overhead endpoint = identity.underlayMtu ∧
      1050 ≤ identity.fabricMtu

theorem ne_empty_of_not_isBlank {s : String} (h : isBlank s = false) : s ≠ "" := by
  rintro rfl
  cases h

theorem identified_of_valid {identity : FabricHostIdentity}
    (h : identityIsValid lib identity = true) :
    Identified lib identity := by
  unfold identityIsValid at h
  split at h
  · cases h
  · rename_i endpoint hparse
    simp only [Bool.and_eq_true, Bool.not_eq_true', decide_eq_true_eq, ne_eq] at h
    obtain ⟨⟨⟨⟨⟨⟨⟨⟨⟨⟨hhost, hkey⟩, hversion⟩, hgen⟩, _⟩, _⟩, hspecified⟩, hexternal⟩, _⟩, hmtu⟩,
      hfabric⟩ := h
    refine ⟨ne_empty_of_not_isBlank hhost, ne_empty_of_not_isBlank hkey,
      ne_empty_of_not_isBlank hversion, ?_, hgen, hspecified, hexternal, endpoint, hparse, ?_⟩
    · intro hempty
      rw [hempty, lib.parseSocketAddr_empty] at hparse
      cases hparse
    · rw [hfabric]
      unfold overhead
      split_ifs at hmtu ⊢ <;> omega

theorem checkHosts_eq_ok {identities : List FabricHostIdentity} {hosts : List String}
    {transportIps : List Ipv4Addr} (hvalid : ∀ identity ∈ identities, Identified lib identity)
    (hhosts : FreshKeys (·.hostId) hosts identities)
    (hips : FreshKeys (·.fabricTransportIp) transportIps identities) :
    checkHosts identities hosts transportIps = .ok () := by
  induction identities generalizing hosts transportIps with
  | nil => rfl
  | cons identity rest ih =>
    obtain ⟨hhost, hhosts⟩ := freshKeys_cons.mp hhosts
    obtain ⟨hip, hips⟩ := freshKeys_cons.mp hips
    have hidentity := hvalid identity List.mem_cons_self
    obtain ⟨endpoint, _, hsum, hmtu⟩ := hidentity.mtu
    rw [checkHosts, if_neg, if_neg hip]
    · exact ih (fun other hother => hvalid other (List.mem_cons_of_mem _ hother)) hhosts hips
    · simp only [hidentity.hostId, hidentity.publicKey, hidentity.providerVersion,
        hidentity.underlayEndpoint, hidentity.generation, hidentity.specified,
        hidentity.external, hhost, Bool.false_eq_true, or_false, false_or, not_or]
      omega

theorem mtuAdmits_of_identified {identity : FabricHostIdentity} {tenantMtu : Nat}
    (h : Identified lib identity) (hmtu : tenantMtu + 50 ≤ identity.fabricMtu) :
    mtuAdmits lib tenantMtu identity = true := by
  obtain ⟨endpoint, hparse, hsum, _⟩ := h.mtu
  have hunder : checkedSub identity.underlayMtu (overhead endpoint) = some identity.fabricMtu := by
    unfold checkedSub
    rw [if_pos (by omega), ← hsum, Nat.add_sub_cancel]
  have hfabric : checkedSub identity.fabricMtu 50 = some (identity.fabricMtu - 50) :=
    if_pos (by omega)
  unfold mtuAdmits
  rw [hparse]
  simp only [hunder, hfabric, decide_true, Bool.true_and, Option.any_some, decide_eq_true_eq]
  omega

def routeTo (realmId : Uuid) (binding : RealmEncapsulationBinding) (entry : EndpointLocation)
    (host : FabricHostIdentity) :
    FabricEndpointRoute where
  realmId := realmId
  destination := ⟨entry.fixedIp, 32⟩
  endpointId := entry.endpointId
  targetHost := entry.selectedHost
  targetFabricTransportIp := host.fabricTransportIp
  endpointGeneration := entry.endpointGeneration
  placementGeneration := entry.placementGeneration
  realmBindingGeneration := binding.bindingGeneration
  fabricGeneration := host.fabricGeneration

theorem new_32 (address : Ipv4Addr) : Ipv4Prefix.new address 32 = some ⟨address, 32⟩ := by
  have hmask : Ipv4Prefix.mask 32 = BitVec.allOnes 32 := by decide
  unfold Ipv4Prefix.new
  rw [if_neg (by decide), hmask, BitVec.and_allOnes, if_pos rfl]

theorem routesTo_eq_ok
    (directory : RealmEndpointDirectory) (localHost : String) {selected : List FabricHostIdentity}
    (binding : RealmEncapsulationBinding) {entries : List EndpointLocation}
    (hhosts : ∀ entry ∈ entries, ∃ host ∈ selected, host.hostId = entry.selectedHost) :
    ∃ routes,
      directory.routesTo localHost selected binding entries = .ok routes ∧
        List.Forall₂
          (fun entry route =>
            ∃ host ∈ selected, host.hostId = entry.selectedHost ∧
              route = routeTo directory.realmId binding entry host)
          (entries.filter (·.selectedHost ≠ localHost)) routes := by
  induction entries with
  | nil => exact ⟨[], rfl, List.Forall₂.nil⟩
  | cons entry rest ih =>
    obtain ⟨routes, hroutes, hall⟩ :=
      ih fun other hother => hhosts other (List.mem_cons_of_mem _ hother)
    by_cases hlocal : entry.selectedHost = localHost
    · refine ⟨routes, ?_, ?_⟩
      · rw [RealmEndpointDirectory.routesTo, if_pos hlocal, hroutes]
      · rw [List.filter_cons_of_neg (by simp [hlocal])]
        exact hall
    · obtain ⟨host, hfind⟩ :
          ∃ host, selected.find? (·.hostId = entry.selectedHost) = some host := by
        obtain ⟨host, hhost, heq⟩ := hhosts entry List.mem_cons_self
        exact Option.isSome_iff_exists.mp
          (List.find?_isSome.mpr ⟨host, hhost, decide_eq_true heq⟩)
      refine ⟨routeTo directory.realmId binding entry host :: routes, ?_, ?_⟩
      · rw [RealmEndpointDirectory.routesTo, if_neg hlocal, hfind]
        simp only [new_32, hroutes, routeTo]
      · rw [List.filter_cons_of_pos (by simp [hlocal])]
        exact List.Forall₂.cons
          ⟨host, List.mem_of_find?_eq_some hfind, by simpa using List.find?_some hfind, rfl⟩ hall

theorem map_eq_map_of_forall₂ {α β κ : Type} {R : α → β → Prop} {f : α → κ} {g : β → κ}
    {xs : List α} {ys : List β} (hall : List.Forall₂ R xs ys) (hkey : ∀ x y, R x y → f x = g y) :
    xs.map f = ys.map g := by
  induction hall with
  | nil => rfl
  | cons hxy _ ih => rw [List.map_cons, List.map_cons, hkey _ _ hxy, ih]

theorem exists_left_of_forall₂ {α β : Type} {R : α → β → Prop} {xs : List α} {ys : List β}
    (hall : List.Forall₂ R xs ys) {y : β} (hy : y ∈ ys) :
    ∃ x ∈ xs, R x y := by
  induction hall with
  | nil => exact absurd hy List.not_mem_nil
  | cons hxy _ ih =>
    rcases List.mem_cons.mp hy with rfl | hy
    · exact ⟨_, List.mem_cons_self, hxy⟩
    · obtain ⟨x, hx, hR⟩ := ih hy
      exact ⟨x, List.mem_cons_of_mem _ hx, hR⟩

theorem exists_right_of_forall₂ {α β : Type} {R : α → β → Prop} {xs : List α} {ys : List β}
    (hall : List.Forall₂ R xs ys) {x : α} (hx : x ∈ xs) :
    ∃ y ∈ ys, R x y :=
  exists_left_of_forall₂ hall.flip hx

/-- The plan of a host, up to its routes and peers. -/
def fabricPlanOf
    (directory : RealmEndpointDirectory) (binding : RealmEncapsulationBinding) (tenantMtu : Nat)
    (localIdentity : FabricHostIdentity) (routes : List FabricEndpointRoute)
    (peers : List FabricPeer) :
    NamespacedRoutedFabricPlan where
  localHost := localIdentity.hostId
  localFabricTransportIp := localIdentity.fabricTransportIp
  localFabricGeneration := localIdentity.fabricGeneration
  localUnderlayMtu := localIdentity.underlayMtu
  localFabricMtu := localIdentity.fabricMtu
  realmId := directory.realmId
  realmPrefix := directory.addresses
  encapsulation := binding
  directoryGeneration := directory.directoryGeneration
  directory := directory
  proxyMac := directory.proxyMac
  tenantMtu := tenantMtu
  policyGeneration := 1
  policies := []
  policyDefaults := []
  publicBindings := []
  dhcp := none
  routes := routes
  peers := peers

/-- **The plan of a host**: routes to exactly the endpoints on the other hosts,
and exactly the other hosts as peers. -/
structure Planned (directory : RealmEndpointDirectory) (selected : List FabricHostIdentity)
    (binding : RealmEncapsulationBinding) (tenantMtu : Nat) (localIdentity : FabricHostIdentity)
    (plan : NamespacedRoutedFabricPlan) : Prop where
  head : plan = fabricPlanOf directory binding tenantMtu localIdentity plan.routes plan.peers
  mem_routes :
    ∀ route, route ∈ plan.routes ↔
      ∃ entry ∈ directory.entries, ∃ host ∈ selected,
        host.hostId = entry.selectedHost ∧ entry.selectedHost ≠ localIdentity.hostId ∧
          route = routeTo directory.realmId binding entry host
  destinations : (plan.routes.map (·.destination)).Nodup
  endpointIds : (plan.routes.map (·.endpointId)).Nodup
  mem_peers :
    ∀ peer, peer ∈ plan.peers ↔
      ∃ host ∈ selected, host.hostId ≠ localIdentity.hostId ∧ peer = host.peer
  peerHosts : (plan.peers.map (·.hostId)).Nodup
  peerIps : (plan.peers.map (·.fabricTransportIp)).Nodup

section OneHost

variable {selected : List FabricHostIdentity} {binding : RealmEncapsulationBinding}

theorem Participating.eq_of_hostId
    (h : Participating lib directory selected) {a b : FabricHostIdentity} (ha : a ∈ selected)
    (hb : b ∈ selected) (heq : a.hostId = b.hostId) :
    a = b :=
  List.inj_on_of_nodup_map h.hostIds ha hb heq

theorem Participating.identified
    (h : Participating lib directory selected) {identity : FabricHostIdentity}
    (hidentity : identity ∈ selected) :
    Identified lib identity :=
  identified_of_valid (h.valid identity hidentity)

theorem remoteRoutes_eq_ok
    (hbuilt : BuiltFor lib realm directory) (hpart : Participating lib directory selected)
    (hrealm : binding.realmId = directory.realmId) (hbinding : binding.validate = .ok ())
    {localIdentity : FabricHostIdentity} (hself : localIdentity ∈ selected) :
    ∃ routes,
      directory.remoteRoutes localIdentity.hostId selected binding = .ok routes ∧
        (∀ route, route ∈ routes ↔
          ∃ entry ∈ directory.entries, ∃ host ∈ selected,
            host.hostId = entry.selectedHost ∧ entry.selectedHost ≠ localIdentity.hostId ∧
              route = routeTo directory.realmId binding entry host) ∧
        (routes.map (·.destination)).Nodup ∧
        (routes.map (·.endpointId)).Nodup := by
  obtain ⟨routes, hroutes, hall⟩ :=
    routesTo_eq_ok directory localIdentity.hostId binding
      fun entry hentry => (hpart.hosts entry.selectedHost).mpr ⟨entry, hentry, rfl⟩
  have hperm : (sortBy FabricEndpointRoute.sortKey routes).Perm routes := sortBy_perm routes
  have hdestinations :
      (directory.entries.filter (·.selectedHost ≠ localIdentity.hostId)).map
          (fun entry => (⟨entry.fixedIp, 32⟩ : Ipv4Prefix)) =
        routes.map (·.destination) := by
    refine map_eq_map_of_forall₂ hall ?_
    rintro entry route ⟨host, _, _, rfl⟩
    rfl
  have hids :
      (directory.entries.filter (·.selectedHost ≠ localIdentity.hostId)).map (·.endpointId) =
        routes.map (·.endpointId) := by
    refine map_eq_map_of_forall₂ hall ?_
    rintro entry route ⟨host, _, _, rfl⟩
    rfl
  refine ⟨sortBy FabricEndpointRoute.sortKey routes, ?_, ?_, ?_, ?_⟩
  · unfold RealmEndpointDirectory.remoteRoutes
    rw [if_neg (hpart.identified hself).hostId, if_neg (by simp [hrealm, hbinding]),
      checkHosts_eq_ok (fun identity hidentity => hpart.identified hidentity)
        (freshKeys_of_nodup hpart.hostIds) (freshKeys_of_nodup hpart.transportIps)]
    simp only [hroutes]
  · intro route
    rw [mem_sortBy]
    constructor
    · intro hroute
      obtain ⟨entry, hentry, host, hhost, heq, rfl⟩ := exists_left_of_forall₂ hall hroute
      obtain ⟨hentry, hremote⟩ := List.mem_filter.mp hentry
      exact ⟨entry, hentry, host, hhost, heq, by simpa using hremote, rfl⟩
    · rintro ⟨entry, hentry, host, hhost, heq, hremote, rfl⟩
      obtain ⟨route, hroute, other, hother, hotherEq, rfl⟩ :=
        exists_right_of_forall₂ hall (List.mem_filter.mpr ⟨hentry, by simpa using hremote⟩)
      rwa [hpart.eq_of_hostId hhost hother (heq.trans hotherEq.symm)]
  · refine (hperm.map _).nodup_iff.mpr (hdestinations ▸ ?_)
    refine List.Nodup.of_map Ipv4Prefix.network ?_
    rw [List.map_map]
    exact hbuilt.fixedIps.sublist (List.filter_sublist.map _)
  · refine (hperm.map _).nodup_iff.mpr (hids ▸ ?_)
    exact hbuilt.endpointIds.sublist (List.filter_sublist.map _)

/-- **The plan of a host compiles.** -/
theorem compileFabricPlan_eq_ok
    (hbuilt : BuiltFor lib realm directory) (hpart : Participating lib directory selected)
    (hrealm : binding.realmId = directory.realmId) (hbinding : binding.validate = .ok ())
    {tenantMtu : Nat} (htenant : 576 ≤ tenantMtu)
    (hmtu : ∀ identity ∈ selected, tenantMtu + 50 ≤ identity.fabricMtu)
    {localIdentity : FabricHostIdentity} (hself : localIdentity ∈ selected) :
    ∃ plan,
      directory.compileFabricPlan lib localIdentity selected tenantMtu binding = .ok plan ∧
        Planned directory selected binding tenantMtu localIdentity plan := by
  obtain ⟨routes, hroutes, hmem, hdestinations, hids⟩ :=
    remoteRoutes_eq_ok hbuilt hpart hrealm hbinding hself
  have hadmits : ∀ identity ∈ selected, mtuAdmits lib tenantMtu identity = true :=
    fun identity hidentity =>
      mtuAdmits_of_identified (hpart.identified hidentity) (hmtu identity hidentity)
  have hothers :
      (selected.filter fun identity =>
          identity.hostId ≠ localIdentity.hostId && routes.any (·.targetHost = identity.hostId)).map
            FabricHostIdentity.peer =
        (selected.filter (·.hostId ≠ localIdentity.hostId)).map FabricHostIdentity.peer := by
    congr 1
    refine List.filter_congr fun identity hidentity => ?_
    obtain ⟨entry, hentry, heq⟩ :=
      (hpart.hosts identity.hostId).mp ⟨identity, hidentity, rfl⟩
    by_cases hlocal : identity.hostId = localIdentity.hostId
    · simp [hlocal]
    · have hroute : routeTo directory.realmId binding entry identity ∈ routes :=
        (hmem _).mpr ⟨entry, hentry, identity, hidentity, heq.symm, heq ▸ hlocal, rfl⟩
      have hany : routes.any (·.targetHost = identity.hostId) = true :=
        List.any_eq_true.mpr ⟨_, hroute, decide_eq_true heq⟩
      rw [hany, Bool.and_true]
  have hperm :
      (sortBy FabricPeer.hostId
          ((selected.filter (·.hostId ≠ localIdentity.hostId)).map FabricHostIdentity.peer)).Perm
        ((selected.filter (·.hostId ≠ localIdentity.hostId)).map FabricHostIdentity.peer) :=
    sortBy_perm _
  refine ⟨fabricPlanOf directory binding tenantMtu localIdentity routes
    (sortBy FabricPeer.hostId
      ((selected.filter (·.hostId ≠ localIdentity.hostId)).map FabricHostIdentity.peer)), ?_,
    rfl, hmem, hdestinations, hids, ?_, ?_, ?_⟩
  · unfold RealmEndpointDirectory.compileFabricPlan
    rw [if_neg (hpart.identified hself).hostId, if_neg, if_neg, if_neg (by simpa using hself)]
    · simp only [hroutes, hothers, fabricPlanOf]
    · simpa using hadmits
    · simpa [hadmits localIdentity hself] using htenant
  · intro peer
    simp only [fabricPlanOf, mem_sortBy, List.mem_map, List.mem_filter, decide_eq_true_eq]
    constructor
    · rintro ⟨host, ⟨hhost, hne⟩, rfl⟩
      exact ⟨host, hhost, hne, rfl⟩
    · rintro ⟨host, hhost, hne, rfl⟩
      exact ⟨host, ⟨hhost, hne⟩, rfl⟩
  · refine (hperm.map _).nodup_iff.mpr ?_
    rw [List.map_map]
    exact hpart.hostIds.sublist (List.filter_sublist.map _)
  · refine (hperm.map _).nodup_iff.mpr ?_
    rw [List.map_map]
    exact hpart.transportIps.sublist (List.filter_sublist.map _)

end OneHost

end Facts

end Fabric
end O3k
