import O3k.Fabric.Acceptance

/-!
# The hosts of a realm agree

`compile_fabric_realm_plans` as a whole: when it succeeds, the plans of the
hosts of one realm fit together; and it fails only for want of participants.
-/

namespace O3k
namespace Fabric

open Relational Network

variable {Intent Gateway : Type} {lib : FabricLibrary Intent Gateway}

theorem mem_hostIds {directory : RealmEndpointDirectory} {hostId : String} :
    hostId ∈ (hostIds directory).rows ↔
      ∃ entry ∈ directory.entries, entry.selectedHost = hostId := by
  suffices hgeneral :
      ∀ (hosts : List String) (t : Table (id : String → String)),
        hostId ∈ (hosts.foldl Table.put t).rows ↔ hostId ∈ t.rows ∨ hostId ∈ hosts by
    unfold hostIds Table.ofList
    rw [hgeneral]
    simp
  intro hosts
  induction hosts with
  | nil => simp
  | cons host rest ih =>
    intro t
    rw [List.foldl_cons, ih, Table.mem_put, List.mem_cons]
    by_cases heq : hostId = host <;> simp [heq]

variable {byHost : Table FabricHostIdentity.hostId}

theorem selectIdentities_eq_ok {hosts : List String}
    (h : ∀ hostId ∈ hosts, (byHost.get? hostId).isSome) :
    ∃ selected,
      selectIdentities byHost hosts = .ok selected ∧ selected.map (·.hostId) = hosts ∧
        ∀ identity ∈ selected, identity ∈ byHost.rows := by
  induction hosts with
  | nil => exact ⟨[], rfl, rfl, fun _ h => absurd h List.not_mem_nil⟩
  | cons hostId rest ih =>
    obtain ⟨identity, hget⟩ := Option.isSome_iff_exists.mp (h hostId List.mem_cons_self)
    obtain ⟨selected, hselected, hids, hmem⟩ :=
      ih fun other hother => h other (List.mem_cons_of_mem _ hother)
    refine ⟨identity :: selected, ?_, ?_, ?_⟩
    · rw [selectIdentities, hget]
      simp only [hselected]
    · rw [List.map_cons, hids, byHost.key_of_get? hget]
    · intro other hother
      rcases List.mem_cons.mp hother with rfl | hother
      · exact byHost.mem_of_get? hget
      · exact hmem other hother

theorem participating_of_select {participants selected : List FabricHostIdentity}
    {directory : RealmEndpointDirectory}
    (hadmitted : admitParticipants lib participants [] ∅ = .ok byHost)
    (hids : selected.map (·.hostId) = (hostIds directory).rows)
    (hmem : ∀ identity ∈ selected, identity ∈ byHost.rows) :
    Participating lib directory selected := by
  obtain ⟨hvalid, hips, _, _⟩ := admitParticipants_eq_ok.mp hadmitted
  have hgiven : ∀ identity ∈ selected, identity ∈ participants :=
    fun identity hidentity => (mem_admitted hadmitted identity).mp (hmem identity hidentity)
  have hnodup : (selected.map (·.hostId)).Nodup := by
    rw [hids, ← List.map_id (hostIds directory).rows]
    exact (hostIds directory).keys_nodup
  refine ⟨fun identity hidentity => hvalid identity (hgiven identity hidentity), hnodup, ?_, ?_⟩
  · refine (List.nodup_map_iff_inj_on hnodup.of_map).mpr fun a ha b hb heq => ?_
    exact List.inj_on_of_nodup_map hips.1 (hgiven a ha) (hgiven b hb) heq
  · intro hostId
    rw [← mem_hostIds, ← hids, List.mem_map]

section Compile

variable {realm : AddressRealm} {binding : RealmEncapsulationBinding}
variable {directoryGeneration : Nat} {operationId : Uuid} {deadlineUnixMs : Nat}

variable {participants : List FabricHostIdentity} {byHost : Table FabricHostIdentity.hostId}

/-- **What the planner answers** once the participants are admitted and the
directory is built. -/
theorem compileDirectory_cases {directory : RealmEndpointDirectory}
    (hadmitted : admitParticipants lib participants [] ∅ = .ok byHost)
    (hbuilt : BuiltFor lib realm directory) (hrealm : binding.realmId = directory.realmId)
    (hbinding : binding.validate = .ok ()) (hkind : binding.providerKind = .vxlan) :
    compileDirectory lib realm binding directoryGeneration operationId deadlineUnixMs byHost
        directory = .error .noParticipants ∨
      compileDirectory lib realm binding directoryGeneration operationId deadlineUnixMs byHost
        directory = .error .missingHostIdentity ∨
      ∃ selected tenantMtu rows,
        compileDirectory lib realm binding directoryGeneration operationId deadlineUnixMs byHost
            directory = .ok ⟨directory, Table.ofList rows⟩ ∧
          (∀ identity ∈ selected, identity ∈ participants) ∧
          Participating lib directory selected ∧
          List.Forall₂ (NodePlanned lib directory selected binding tenantMtu) selected rows := by
  unfold compileDirectory
  dsimp only
  by_cases hempty : (hostIds directory).rows = []
  · exact Or.inl (if_pos hempty)
  rw [if_neg hempty]
  by_cases hmissing :
      (hostIds directory).rows.any (fun hostId => (byHost.get? hostId).isNone) = true
  · exact Or.inr (Or.inl (if_pos hmissing))
  rw [if_neg hmissing]
  refine Or.inr (Or.inr ?_)
  obtain ⟨selected, hselected, hids, hmem⟩ :
      ∃ selected,
        selectIdentities byHost (hostIds directory).rows = .ok selected ∧
          selected.map (·.hostId) = (hostIds directory).rows ∧
          ∀ identity ∈ selected, identity ∈ byHost.rows :=
    selectIdentities_eq_ok (by simpa [Option.isSome_iff_ne_none] using hmissing)
  have hpart : Participating lib directory selected := participating_of_select hadmitted hids hmem
  have hne : selected.map (·.fabricMtu) ≠ [] := by
    intro h
    rw [List.map_eq_nil_iff.mp h] at hids
    exact hempty hids.symm
  obtain ⟨least, hleast⟩ : ∃ least, (selected.map (·.fabricMtu)).min? = some least :=
    Option.isSome_iff_exists.mp (List.isSome_min?_of_ne_nil hne)
  obtain ⟨hleastMem, hleastLe⟩ := List.min?_eq_some_iff.mp hleast
  obtain ⟨smallest, hsmallest, rfl⟩ := List.mem_map.mp hleastMem
  obtain ⟨endpoint, _, _, hmtu⟩ := (hpart.identified hsmallest).mtu
  have hroom : 576 ≤ smallest.fabricMtu - 50 := by
    omega
  have htenant :
      (checkedSub smallest.fabricMtu 50).filter (576 ≤ ·) = some (smallest.fabricMtu - 50) := by
    unfold checkedSub
    rw [if_pos (by omega), Option.filter_some, if_pos (decide_eq_true (by omega))]
  obtain ⟨rows, hrows, hall⟩ :=
    compileHosts_eq_ok directoryGeneration operationId deadlineUnixMs hbuilt hpart hrealm hbinding
      hkind hroom
      (fun identity hidentity => by
        have hle := hleastLe identity.fabricMtu (List.mem_map_of_mem hidentity)
        omega)
      (fun _ h => h) ∅
  refine ⟨selected, smallest.fabricMtu - 50, rows, ?_,
    fun identity hidentity => (mem_admitted hadmitted identity).mp (hmem identity hidentity),
    hpart, hall⟩
  simp only [hselected, hleast, htenant, hrows]
  rfl

variable {locations : List EndpointLocation}

theorem compileFabricRealmPlans_of_checked {directory : RealmEndpointDirectory}
    (hrealm : binding.realmId = realm.id) (hbinding : binding.validate = .ok ())
    (hsome : participants ≠ []) (hadmitted : admitParticipants lib participants [] ∅ = .ok byHost)
    (hbuild :
      RealmEndpointDirectory.build lib realm locations [] directoryGeneration = .ok directory) :
    compileFabricRealmPlans lib realm binding directoryGeneration operationId deadlineUnixMs
        locations participants =
      compileDirectory lib realm binding directoryGeneration operationId deadlineUnixMs byHost
        directory := by
  unfold compileFabricRealmPlans
  rw [if_neg (by simp [hrealm, hbinding]), if_neg hsome, hadmitted]
  dsimp only
  rw [hbuild]

theorem checked_of_compileFabricRealmPlans {set : FabricRealmPlanSet Intent Gateway}
    (h :
      compileFabricRealmPlans lib realm binding directoryGeneration operationId deadlineUnixMs
        locations participants = .ok set) :
    binding.realmId = realm.id ∧ binding.validate = .ok () ∧
      ∃ byHost directory,
        admitParticipants lib participants [] ∅ = .ok byHost ∧
          RealmEndpointDirectory.build lib realm locations [] directoryGeneration = .ok directory ∧
          compileDirectory lib realm binding directoryGeneration operationId deadlineUnixMs byHost
            directory = .ok set := by
  unfold compileFabricRealmPlans at h
  split_ifs at h with hrefused hnone
  obtain ⟨hrealm, hbinding⟩ := not_or.mp hrefused
  split at h
  · cases h
  · rename_i byHost hadmitted
    split at h
    · cases h
    · rename_i directory hbuild
      exact ⟨not_not.mp hrealm, not_not.mp hbinding, byHost, directory, hadmitted, hbuild, h⟩

/-- **The order of the locations and of the participants does not matter.** -/
theorem compileFabricRealmPlans_perm {locations' : List EndpointLocation}
    {participants participants' : List FabricHostIdentity} (hlocations : locations'.Perm locations)
    (hparticipants : participants'.Perm participants) :
    compileFabricRealmPlans lib realm binding directoryGeneration operationId deadlineUnixMs
        locations' participants' =
      compileFabricRealmPlans lib realm binding directoryGeneration operationId deadlineUnixMs
        locations participants := by
  have hnone : participants' = [] ↔ participants = [] := by
    rw [← List.length_eq_zero_iff, ← List.length_eq_zero_iff, hparticipants.length_eq]
  have hentered :
      admitParticipants lib participants' [] ∅ = admitParticipants lib participants [] ∅ := by
    cases h : admitParticipants lib participants [] ∅ with
    | ok byHost => exact admitParticipants_of_perm hparticipants.symm h
    | error e =>
      cases h' : admitParticipants lib participants' [] ∅ with
      | ok byHost => cases h.symm.trans (admitParticipants_of_perm hparticipants h')
      | error e' => rw [admitParticipants_eq_error h, admitParticipants_eq_error h']
  unfold compileFabricRealmPlans
  rw [hentered]
  simp only [hnone]
  cases h : RealmEndpointDirectory.build lib realm locations [] directoryGeneration with
  | ok directory => rw [build_of_perm hlocations.symm h]
  | error e =>
    cases h' : RealmEndpointDirectory.build lib realm locations' [] directoryGeneration with
    | ok directory => cases h.symm.trans (build_of_perm hlocations h')
    | error e' => rfl

end Compile

/-- A plan has exactly one host route to each endpoint on the host of another
plan, aimed at that host, and has that host as a peer. -/
structure Reaches (locations : List EndpointLocation)
    (fabric other : NamespacedRoutedFabricPlan) : Prop where
  route :
    ∀ location ∈ locations, location.selectedHost = other.localHost →
      ∃ route,
        fabric.routes.filter (·.endpointId = location.endpointId) = [route] ∧
          fabric.routes.filter (·.destination = ⟨location.fixedIp, 32⟩) = [route] ∧
          route.targetHost = other.localHost ∧
          route.targetFabricTransportIp = other.localFabricTransportIp
  only :
    ∀ route ∈ fabric.routes, route.targetHost = other.localHost →
      ∃ location ∈ locations,
        location.selectedHost = other.localHost ∧ location.endpointId = route.endpointId
  peer :
    ∃ peer ∈ fabric.peers,
      peer.hostId = other.localHost ∧ peer.fabricTransportIp = other.localFabricTransportIp

/-- **Agreement** of the plans of a realm. -/
structure HostPlansAgree (lib : FabricLibrary Intent Gateway) (binding : RealmEncapsulationBinding)
    (locations : List EndpointLocation) (participants : List FabricHostIdentity)
    (set : FabricRealmPlanSet Intent Gateway) : Prop where
  entries : set.directory.entries.Perm (locations.map EndpointLocation.canonical)
  planned :
    ∀ location ∈ locations, ∃! plan, (location.selectedHost, plan) ∈ set.plans.rows
  placed :
    ∀ row ∈ set.plans.rows, ∃ location ∈ locations, location.selectedHost = row.1
  common :
    ∃ tenantMtu, ∀ row ∈ set.plans.rows,
      row.2.nodeId = row.1 ∧
        ∃ fabric ∈ row.2.fabric, ∃ participant ∈ participants,
          fabric.localHost = row.1 ∧ participant.hostId = row.1 ∧
            fabric.localFabricTransportIp = participant.fabricTransportIp ∧
            fabric.directory = set.directory ∧ fabric.encapsulation = binding ∧
            fabric.tenantMtu = tenantMtu
  pairs :
    ∀ a ∈ set.plans.rows, ∀ b ∈ set.plans.rows, a.1 ≠ b.1 →
      ∀ fabric ∈ a.2.fabric, ∀ other ∈ b.2.fabric, Reaches locations fabric other
  accepted :
    ∀ row ∈ set.plans.rows,
      row.2.validateFabric = .ok () ∧
        row.2.fingerprintSha256 = canonicalPlanFingerprint lib row.2

theorem filter_eq_singleton {α κ : Type} [DecidableEq κ] {key : α → κ} {xs : List α}
    (hnodup : (xs.map key).Nodup) {x : α} (hx : x ∈ xs) :
    xs.filter (fun y => key y = key x) = [x] := by
  induction xs with
  | nil => exact absurd hx List.not_mem_nil
  | cons y rest ih =>
    obtain ⟨hy, hrest⟩ := List.nodup_cons.mp hnodup
    rcases List.mem_cons.mp hx with rfl | hx
    · have hnone : rest.filter (fun y => key y = key x) = [] :=
        List.filter_eq_nil_iff.mpr fun z hz heq =>
          hy (of_decide_eq_true heq ▸ List.mem_map_of_mem hz)
      rw [List.filter_cons_of_pos (by simp), hnone]
    · have hne : key y ≠ key x := fun heq => hy (heq ▸ List.mem_map_of_mem hx)
      rw [List.filter_cons_of_neg (by simpa using hne), ih hrest hx]

section Pairs

variable {realm : AddressRealm} {binding : RealmEncapsulationBinding} {tenantMtu : Nat}
variable {locations : List EndpointLocation} {directory : RealmEndpointDirectory}
variable {selected : List FabricHostIdentity}

theorem mem_entries_of_perm
    (hentries : directory.entries.Perm (locations.map EndpointLocation.canonical))
    {entry : EndpointLocation} :
    entry ∈ directory.entries ↔ ∃ location ∈ locations, location.canonical = entry := by
  rw [hentries.mem_iff, List.mem_map]

theorem reaches_of_planned
    (hentries : directory.entries.Perm (locations.map EndpointLocation.canonical))
    {a b : FabricHostIdentity} {fabric other : NamespacedRoutedFabricPlan} (hb : b ∈ selected)
    (hne : a.hostId ≠ b.hostId) (hfabric : Planned directory selected binding tenantMtu a fabric)
    (hother : Planned directory selected binding tenantMtu b other) :
    Reaches locations fabric other := by
  have hlocal : other.localHost = b.hostId := by
    rw [hother.head]
    rfl
  have hip : other.localFabricTransportIp = b.fabricTransportIp := by
    rw [hother.head]
    rfl
  refine ⟨?_, ?_, ?_⟩
  · intro location hlocation hhost
    rw [hlocal] at hhost
    have hentry : location.canonical ∈ directory.entries :=
      (mem_entries_of_perm hentries).mpr ⟨location, hlocation, rfl⟩
    have hroute :
        routeTo directory.realmId binding location.canonical b ∈ fabric.routes :=
      (hfabric.mem_routes _).mpr
        ⟨location.canonical, hentry, b, hb, hhost.symm, fun h => hne (h.symm.trans hhost), rfl⟩
    refine ⟨_, filter_eq_singleton hfabric.endpointIds hroute,
      filter_eq_singleton hfabric.destinations hroute, ?_, hip.symm⟩
    rw [hlocal]
    exact hhost
  · intro route hroute htarget
    obtain ⟨entry, hentry, host, _, _, _, rfl⟩ := (hfabric.mem_routes route).mp hroute
    obtain ⟨location, hlocation, rfl⟩ := (mem_entries_of_perm hentries).mp hentry
    exact ⟨location, hlocation, htarget, rfl⟩
  · rw [hlocal, hip]
    exact ⟨b.peer, (hfabric.mem_peers _).mpr ⟨b, hb, hne.symm, rfl⟩, rfl, rfl⟩

theorem agree_of_planned {participants : List FabricHostIdentity}
    {rows : List (String × NodeNetworkPlan Intent Gateway)}
    (hpart : Participating lib directory selected)
    (hgiven : ∀ identity ∈ selected, identity ∈ participants)
    (hentries : directory.entries.Perm (locations.map EndpointLocation.canonical))
    (hall : List.Forall₂ (NodePlanned lib directory selected binding tenantMtu) selected rows) :
    HostPlansAgree lib binding locations participants ⟨directory, Table.ofList rows⟩ := by
  have hkeys : selected.map (·.hostId) = rows.map Prod.fst :=
    map_eq_map_of_forall₂ hall fun _ _ h => h.host.symm
  have hmem : ∀ row, row ∈ (Table.ofList rows : PlansByHost Intent Gateway).rows ↔ row ∈ rows :=
    fun _ => Table.mem_ofList (hkeys ▸ hpart.hostIds)
  have hrow : ∀ row ∈ (Table.ofList rows : PlansByHost Intent Gateway).rows,
      ∃ identity ∈ selected, NodePlanned lib directory selected binding tenantMtu identity row :=
    fun row h => exists_left_of_forall₂ hall ((hmem row).mp h)
  refine ⟨hentries, ?_, ?_, ⟨tenantMtu, ?_⟩, ?_, ?_⟩
  · intro location hlocation
    have hentry : location.canonical ∈ directory.entries :=
      (mem_entries_of_perm hentries).mpr ⟨location, hlocation, rfl⟩
    obtain ⟨identity, hidentity, hhost⟩ :=
      (hpart.hosts location.selectedHost).mpr ⟨_, hentry, rfl⟩
    obtain ⟨⟨hostId, plan⟩, hplan, hplanned⟩ := exists_right_of_forall₂ hall hidentity
    obtain rfl : hostId = location.selectedHost := hplanned.host.trans hhost
    refine ⟨plan, (hmem _).mpr hplan, fun plan' hplan' => ?_⟩
    exact congrArg Prod.snd (Table.eq_of_mem_of_key_eq _ hplan' ((hmem _).mpr hplan) rfl)
  · intro row h
    obtain ⟨identity, hidentity, hplanned⟩ := hrow row h
    obtain ⟨entry, hentry, hhost⟩ := (hpart.hosts row.1).mp ⟨identity, hidentity, hplanned.host.symm⟩
    obtain ⟨location, hlocation, rfl⟩ := (mem_entries_of_perm hentries).mp hentry
    exact ⟨location, hlocation, hhost⟩
  · intro row h
    obtain ⟨identity, hidentity, hplanned⟩ := hrow row h
    obtain ⟨fabric, hfabric, hhead⟩ := hplanned.fabric
    refine ⟨hplanned.nodeId.trans hplanned.host.symm, fabric, hfabric, identity,
      hgiven identity hidentity, ?_⟩
    rw [hhead.head, hplanned.host]
    exact ⟨rfl, rfl, rfl, rfl, rfl, rfl⟩
  · intro a ha b hb hne fabric hfabric other hother
    obtain ⟨first, _, hfirst⟩ := hrow a ha
    obtain ⟨second, hsecond, hsecondPlanned⟩ := hrow b hb
    obtain ⟨_, hfabric', hfabricPlanned⟩ := hfirst.fabric
    obtain ⟨_, hother', hotherPlanned⟩ := hsecondPlanned.fabric
    obtain rfl := Option.mem_unique hfabric hfabric'
    obtain rfl := Option.mem_unique hother hother'
    refine reaches_of_planned hentries hsecond ?_ hfabricPlanned hotherPlanned
    rw [← hfirst.host, ← hsecondPlanned.host]
    exact hne
  · intro row h
    obtain ⟨_, _, hplanned⟩ := hrow row h
    exact ⟨hplanned.accepted, hplanned.fingerprint⟩

end Pairs

/-- **The hosts of a realm agree**: whenever the planner succeeds, the plans fit
together; its answer does not depend on the order of what it is given; and past
its checks it fails only for want of participants or of room. -/
theorem host_plans_agree (lib : FabricLibrary Intent Gateway) (realm : AddressRealm)
    (binding : RealmEncapsulationBinding) (directoryGeneration : Nat) (operationId : Uuid)
    (deadlineUnixMs : Nat) (locations : List EndpointLocation)
    (participants : List FabricHostIdentity) (hkind : binding.providerKind = .vxlan) :
    (∀ set,
      compileFabricRealmPlans lib realm binding directoryGeneration operationId deadlineUnixMs
          locations participants = .ok set →
        HostPlansAgree lib binding locations participants set) ∧
      (∀ locations' participants',
        locations'.Perm locations → participants'.Perm participants →
          compileFabricRealmPlans lib realm binding directoryGeneration operationId deadlineUnixMs
              locations' participants' =
            compileFabricRealmPlans lib realm binding directoryGeneration operationId
              deadlineUnixMs locations participants) ∧
      ∀ byHost directory e, binding.realmId = realm.id → binding.validate = .ok () →
        admitParticipants lib participants [] ∅ = .ok byHost →
        RealmEndpointDirectory.build lib realm locations [] directoryGeneration = .ok directory →
        compileFabricRealmPlans lib realm binding directoryGeneration operationId deadlineUnixMs
            locations participants = .error e →
          e = .noParticipants ∨ e = .missingHostIdentity ∨ e = .incompatibleMtu := by
  refine ⟨?_, fun _ _ => compileFabricRealmPlans_perm, ?_⟩
  · intro set h
    obtain ⟨hrealm, hbinding, byHost, directory, hadmitted, hbuild, hset⟩ :=
      checked_of_compileFabricRealmPlans h
    have hbuilt := builtFor_of_build hbuild
    rcases compileDirectory_cases hadmitted hbuilt (hrealm.trans hbuilt.realmId.symm) hbinding
        hkind with hnone | hmissing | ⟨selected, tenantMtu, rows, hok, hgiven, hpart, hall⟩
    · cases hset.symm.trans hnone
    · cases hset.symm.trans hmissing
    · obtain rfl : set = ⟨directory, Table.ofList rows⟩ := Except.ok.inj (hset.symm.trans hok)
      refine agree_of_planned hpart hgiven ?_ hall
      obtain ⟨_, _, _, _, _, _, rfl⟩ := build_eq_ok.mp hbuild
      exact sortBy_perm _
  · intro byHost directory e hrealm hbinding hadmitted hbuild h
    by_cases hsome : participants = []
    · unfold compileFabricRealmPlans at h
      rw [if_neg (by simp [hrealm, hbinding]), if_pos hsome] at h
      exact Or.inl (Except.error.inj h).symm
    rw [compileFabricRealmPlans_of_checked hrealm hbinding hsome hadmitted hbuild] at h
    have hbuilt := builtFor_of_build hbuild
    rcases compileDirectory_cases hadmitted hbuilt (hrealm.trans hbuilt.realmId.symm) hbinding
        hkind with hnone | hmissing | ⟨selected, tenantMtu, rows, hok, _, _, _⟩
    · exact Or.inl (Except.error.inj (h.symm.trans hnone))
    · exact Or.inr (Or.inl (Except.error.inj (h.symm.trans hmissing)))
    · cases h.symm.trans hok

section TwoHosts

def twoHostLibrary : FabricLibrary Unit Unit where
  parseSocketAddr s :=
    if s = "192.0.2.1:4789" then some (.v4 0xc0000201 4789)
    else if s = "192.0.2.2:4789" then some (.v4 0xc0000202 4789)
    else none
  parseSocketAddr_empty := by decide
  uuidBytes _ :=
    [0x11, 0x11, 0x11, 0x11, 0x11, 0x11, 0x41, 0x11, 0x81, 0x11, 0x11, 0x11, 0x11, 0x11, 0x11, 0x11]
  newV5 _ name :=
    if name = "fabric-realm:11111111-1111-4111-8111-111111111111:alpha" then
      "2b351023-da6c-5c69-ab17-684c055ad941"
    else
      "d194f50a-d602-54a9-846d-01d4991157c5"
  intentJson _ := "null"
  sha256 input :=
    if input.nodeId = "alpha" then
      "1ec3faf64452dd299cdb88053acb822ef8aa7067b44dd287597df373545a079e"
    else
      "c79357f94302132d0d71d4df0e9d63661f64cdbf64e522f06a615dae32a8aba1"

def twoHostRealm : AddressRealm where
  id := "11111111-1111-4111-8111-111111111111"
  projectId := "p"
  addresses := ⟨0x0a000000, 24⟩

def twoHostBinding : RealmEncapsulationBinding where
  fabricDomainId := "33333333-3333-4333-8333-333333333333"
  realmId := "11111111-1111-4111-8111-111111111111"
  providerKind := .vxlan
  providerSegmentId := 7
  bindingGeneration := 1

def twoHostLocations : List EndpointLocation :=
  [⟨"55555555-5555-4555-8555-555555555555", "p", "11111111-1111-4111-8111-111111111111",
      0x0a000006, "02:00:00:00:00:06", "beta", 1, 1⟩,
    ⟨"44444444-4444-4444-8444-444444444444", "p", "11111111-1111-4111-8111-111111111111",
      0x0a000005, "02:00:00:00:00:05", "alpha", 1, 1⟩]

def twoHostParticipants : List FabricHostIdentity :=
  [⟨"beta", "kb", "192.0.2.2:4789", 0x0a090002, "1", 1, 1500, 1440⟩,
    ⟨"alpha", "ka", "192.0.2.1:4789", 0x0a090001, "1", 1, 1500, 1440⟩]

/-- A realm of two hosts is planned, and its plans agree. -/
theorem two_host_plans_agree :
    ∃ set,
      compileFabricRealmPlans twoHostLibrary twoHostRealm twoHostBinding 1
          "22222222-2222-4222-8222-222222222222" 0 twoHostLocations twoHostParticipants = .ok set ∧
        HostPlansAgree twoHostLibrary twoHostBinding twoHostLocations twoHostParticipants set := by
  have hok :
      (compileFabricRealmPlans twoHostLibrary twoHostRealm twoHostBinding 1
        "22222222-2222-4222-8222-222222222222" 0 twoHostLocations twoHostParticipants).isOk =
          true := by
    decide +kernel
  cases hset :
      compileFabricRealmPlans twoHostLibrary twoHostRealm twoHostBinding 1
        "22222222-2222-4222-8222-222222222222" 0 twoHostLocations twoHostParticipants with
  | error e =>
    rw [hset] at hok
    cases hok
  | ok set =>
    exact ⟨set, rfl,
      (host_plans_agree twoHostLibrary twoHostRealm twoHostBinding 1
        "22222222-2222-4222-8222-222222222222" 0 twoHostLocations twoHostParticipants rfl).1
        set hset⟩

end TwoHosts

end Fabric
end O3k
