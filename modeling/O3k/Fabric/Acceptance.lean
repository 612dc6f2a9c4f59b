import O3k.Fabric.Routes

/-!
# The admission accepts what the planner compiles

The plan of a host passes every check of `validate_fabric` when the binding is
a VXLAN binding, so that the loop over the hosts of a realm ends with one node
plan for each of them.
-/

namespace O3k
namespace Fabric

open Relational Network

variable {Intent Gateway : Type} {lib : FabricLibrary Intent Gateway}
variable {realm : AddressRealm} {directory : RealmEndpointDirectory}
variable {selected : List FabricHostIdentity} {binding : RealmEncapsulationBinding}
variable {tenantMtu : Nat} {localIdentity : FabricHostIdentity} {plan : NamespacedRoutedFabricPlan}

theorem BuiltFor.location_eq_some (h : BuiltFor lib realm directory) {entry : EndpointLocation}
    (hentry : entry ∈ directory.entries) :
    directory.location entry.endpointId = some entry := by
  obtain ⟨found, hfound⟩ :
      ∃ found, directory.entries.find? (·.endpointId = entry.endpointId) = some found :=
    Option.isSome_iff_exists.mp (List.find?_isSome.mpr ⟨entry, hentry, decide_eq_true rfl⟩)
  have hkey : found.endpointId = entry.endpointId := by
    simpa using List.find?_some hfound
  unfold RealmEndpointDirectory.location
  rw [hfound, List.inj_on_of_nodup_map h.endpointIds (List.mem_of_find?_eq_some hfound) hentry hkey]

theorem headIsValid_of_planned
    (hbuilt : BuiltFor lib realm directory) (hself : Identified lib localIdentity)
    (hrealm : binding.realmId = directory.realmId) (hbinding : binding.validate = .ok ())
    (hkind : binding.providerKind = .vxlan) (htenant : 576 ≤ tenantMtu)
    (hmtu : tenantMtu + 50 ≤ localIdentity.fabricMtu)
    (hplan : Planned directory selected binding tenantMtu localIdentity plan) :
    headIsValid plan localIdentity.hostId := by
  obtain ⟨endpoint, _, hsum, _⟩ := hself.mtu
  have hoverhead : overhead endpoint = 60 ∨ overhead endpoint = 80 := by
    unfold overhead
    split_ifs
    · exact Or.inl rfl
    · exact Or.inr rfl
  have hproxy : directory.proxyMac.utf8ByteSize = 17 :=
    hbuilt.proxyMac ▸ utf8ByteSize_realmProxyMac lib realm.id
  rw [hplan.head]
  refine ⟨rfl, hself.hostId, hself.specified, hself.external, hself.generation, ?_, ?_, ?_, ?_, ?_,
    hbuilt.generation, ?_, ?_, ?_, hproxy, hrealm, hbinding, rfl, rfl, rfl, rfl, hkind⟩ <;>
    simp only [fabricPlanOf] <;> omega

theorem routesAreValid_of_planned
    (hbuilt : BuiltFor lib realm directory) (hpart : Participating lib directory selected)
    (hplan : Planned directory selected binding tenantMtu localIdentity plan) :
    routesAreValid plan := by
  have hhead := hplan.head
  refine ⟨fun route hroute => ?_, hplan.destinations, hplan.endpointIds⟩
  obtain ⟨entry, hentry, host, hhost, heq, _, rfl⟩ := (hplan.mem_routes route).mp hroute
  have hidentified := hpart.identified hhost
  obtain ⟨hgen, hplacement⟩ := hbuilt.generations entry hentry
  have hlocation : plan.directory.location entry.endpointId = some entry := by
    rw [hhead]
    exact hbuilt.location_eq_some hentry
  refine ⟨rfl, ?_, hbuilt.hosts entry hentry, hidentified.specified, hidentified.external, hgen,
    hplacement, ?_, hidentified.generation, entry, hlocation, rfl, rfl⟩
  · rw [hhead]
    rfl
  · rw [hhead]
    rfl

theorem peersAreValid_of_planned (hpart : Participating lib directory selected)
    (hplan : Planned directory selected binding tenantMtu localIdentity plan) :
    peersAreValid plan := by
  refine ⟨fun peer hpeer => ?_, hplan.peerHosts, hplan.peerIps⟩
  obtain ⟨host, hhost, hne, rfl⟩ := (hplan.mem_peers peer).mp hpeer
  have hidentified := hpart.identified hhost
  have hlocal : host.hostId ≠ plan.localHost := by
    rw [hplan.head]
    exact hne
  obtain ⟨entry, hentry, heq⟩ := (hpart.hosts host.hostId).mp ⟨host, hhost, rfl⟩
  refine ⟨hidentified.hostId, hlocal, hidentified.publicKey, hidentified.underlayEndpoint,
    hidentified.specified, hidentified.external, hidentified.generation,
    routeTo directory.realmId binding entry host, ?_, heq, rfl⟩
  exact (hplan.mem_routes _).mpr ⟨entry, hentry, host, hhost, heq.symm, heq ▸ hne, rfl⟩

theorem routesHavePeers_of_planned
    (hplan : Planned directory selected binding tenantMtu localIdentity plan) :
    routesHavePeers plan := by
  intro route hroute
  obtain ⟨entry, _, host, hhost, heq, hne, rfl⟩ := (hplan.mem_routes route).mp hroute
  exact ⟨host.peer, (hplan.mem_peers _).mpr ⟨host, hhost, heq ▸ hne, rfl⟩, heq, rfl⟩

/-- **The admission accepts the plan of a host.** -/
theorem fabricIsValid_of_planned
    (hbuilt : BuiltFor lib realm directory) (hpart : Participating lib directory selected)
    (hrealm : binding.realmId = directory.realmId) (hbinding : binding.validate = .ok ())
    (hkind : binding.providerKind = .vxlan) (htenant : 576 ≤ tenantMtu)
    (hself : localIdentity ∈ selected) (hmtu : tenantMtu + 50 ≤ localIdentity.fabricMtu)
    (hplan : Planned directory selected binding tenantMtu localIdentity plan) :
    fabricIsValid plan localIdentity.hostId := by
  have hhead := hplan.head
  refine ⟨headIsValid_of_planned hbuilt (hpart.identified hself) hrealm hbinding hkind htenant hmtu
      hplan, ?_, ?_, ?_, ?_, ?_, routesAreValid_of_planned hbuilt hpart hplan,
    peersAreValid_of_planned hpart hplan, routesHavePeers_of_planned hplan⟩
  · rw [hhead]
    exact hbuilt.inside
  · rw [hhead]
    exact fun _ h => by cases h
  · rw [hhead]
    exact ⟨fun _ h => absurd h List.not_mem_nil, List.nodup_nil⟩
  · rw [hhead]
    exact ⟨fun _ h => absurd h List.not_mem_nil, List.nodup_nil⟩
  · rw [hhead]
    exact ⟨fun _ h => absurd h List.not_mem_nil, List.nodup_nil, List.nodup_nil, List.nodup_nil⟩

section Hosts

variable (directoryGeneration : Nat) (operationId : Uuid) (deadlineUnixMs : Nat)

def sealPlan (lib : FabricLibrary Intent Gateway) (plan : NodeNetworkPlan Intent Gateway) :
    NodeNetworkPlan Intent Gateway :=
  { plan with fingerprintSha256 := canonicalPlanFingerprint lib plan }

theorem fingerprint_sealPlan (plan : NodeNetworkPlan Intent Gateway) :
    (sealPlan lib plan).fingerprintSha256 = canonicalPlanFingerprint lib (sealPlan lib plan) := by
  rfl

/-- **The node plan of a host**, stored under the host. -/
structure NodePlanned (lib : FabricLibrary Intent Gateway) (directory : RealmEndpointDirectory)
    (selected : List FabricHostIdentity) (binding : RealmEncapsulationBinding) (tenantMtu : Nat)
    (localIdentity : FabricHostIdentity)
    (row : String × NodeNetworkPlan Intent Gateway) : Prop where
  host : row.1 = localIdentity.hostId
  nodeId : row.2.nodeId = localIdentity.hostId
  fabric : ∃ fabric ∈ row.2.fabric, Planned directory selected binding tenantMtu localIdentity fabric
  accepted : row.2.validateFabric = .ok ()
  fingerprint : row.2.fingerprintSha256 = canonicalPlanFingerprint lib row.2

theorem withFabric_eq_ok {node : NodeNetworkPlan Intent Gateway}
    (h : fabricIsValid plan node.nodeId) :
    node.withFabric lib plan = .ok (sealPlan lib { node with fabric := some plan }) := by
  have haccepted :
      ({ node with fabric := some plan } : NodeNetworkPlan Intent Gateway).validateFabric =
        .ok () :=
    if_pos h
  unfold NodeNetworkPlan.withFabric
  dsimp only
  rw [haccepted]
  rfl

/-- **Every host gets its plan.** -/
theorem compileHosts_eq_ok
    (hbuilt : BuiltFor lib realm directory) (hpart : Participating lib directory selected)
    (hrealm : binding.realmId = directory.realmId) (hbinding : binding.validate = .ok ())
    (hkind : binding.providerKind = .vxlan) (htenant : 576 ≤ tenantMtu)
    (hmtu : ∀ identity ∈ selected, tenantMtu + 50 ≤ identity.fabricMtu)
    {rest : List FabricHostIdentity} (hrest : ∀ identity ∈ rest, identity ∈ selected)
    (plans : PlansByHost Intent Gateway) :
    ∃ rows,
      compileHosts lib realm binding directoryGeneration operationId deadlineUnixMs directory
          selected tenantMtu rest plans = .ok (rows.foldl Table.put plans) ∧
        List.Forall₂ (NodePlanned lib directory selected binding tenantMtu) rest rows := by
  induction rest generalizing plans with
  | nil => exact ⟨[], rfl, List.Forall₂.nil⟩
  | cons localIdentity rest ih =>
    have hself : localIdentity ∈ selected := hrest localIdentity List.mem_cons_self
    obtain ⟨fabric, hcompiled, hplanned⟩ :=
      compileFabricPlan_eq_ok hbuilt hpart hrealm hbinding htenant hmtu hself
    have hvalid : fabricIsValid fabric localIdentity.hostId :=
      fabricIsValid_of_planned hbuilt hpart hrealm hbinding hkind htenant hself
        (hmtu localIdentity hself) hplanned
    let node : NodeNetworkPlan Intent Gateway :=
      emptyNodePlan lib realm directoryGeneration operationId deadlineUnixMs directory
        localIdentity.hostId
    let row := (localIdentity.hostId, sealPlan lib { node with fabric := some fabric })
    obtain ⟨rows, hrows, hall⟩ :=
      ih (fun identity hidentity => hrest identity (List.mem_cons_of_mem _ hidentity))
        (plans.put row)
    refine ⟨row :: rows, ?_, List.Forall₂.cons ?_ hall⟩
    · rw [compileHosts, hcompiled]
      dsimp only
      rw [withFabric_eq_ok hvalid]
      exact hrows
    · exact ⟨rfl, rfl, ⟨fabric, rfl, hplanned⟩, if_pos hvalid, fingerprint_sealPlan _⟩

end Hosts

end Fabric
end O3k
