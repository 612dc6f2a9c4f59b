import O3k.Fabric.Planner

/-!
# What the planner admits

The loops of the planner insert into sets as they go.  Each accepts a list
exactly when every element passes its own checks and no key occurs twice, so
that what it accepts does not depend on the order of the list.
-/

namespace O3k
namespace Fabric

open Relational Network

theorem utf8Size_digitChar {n : Nat} (h : n < 16) : (Nat.digitChar n).utf8Size = 1 := by
  have hdigits : ∀ n : Fin 16, (Nat.digitChar n).utf8Size = 1 := by decide
  exact hdigits ⟨n, h⟩

theorem utf8Len_hexByte (b : Nat) : String.utf8Len (hexByte b) = 2 := by
  have hhigh : b / 16 % 16 < 16 := Nat.mod_lt _ (by decide)
  have hlow : b % 16 < 16 := Nat.mod_lt _ (by decide)
  simp [hexByte, utf8Size_digitChar hhigh, utf8Size_digitChar hlow]

theorem utf8ByteSize_realmProxyMac {Intent Gateway : Type} (lib : FabricLibrary Intent Gateway)
    (realmId : Uuid) :
    (realmProxyMac lib realmId).utf8ByteSize = 17 := by
  unfold realmProxyMac macText
  generalize (realmHash lib realmId).toNat = hash
  simp only [String.utf8ByteSize_ofList, List.map_cons, List.map_nil, List.intercalate,
    List.intersperse, List.flatten_cons, List.flatten_nil, String.utf8Len_append,
    String.utf8Len_cons, utf8Len_hexByte]
  rfl

/-- The checks on one entry of a realm. -/
structure Admissible (realm : AddressRealm) (entry : EndpointLocation) : Prop where
  projectId : entry.projectId ≠ ""
  selectedHost : entry.selectedHost ≠ ""
  endpointId : entry.endpointId ≠ nilUuid
  endpointGeneration : entry.endpointGeneration ≠ 0
  placementGeneration : entry.placementGeneration ≠ 0
  scope : entry.projectId = realm.projectId ∧ entry.realmId = realm.id
  address : realm.addresses.contains entry.fixedIp = true
  mac : (canonicalMac entry.mac).isSome = true

variable (entry : EndpointLocation)

/-- The entry with its MAC address in canonical form. -/
def EndpointLocation.canonical : EndpointLocation :=
  { entry with mac := (canonicalMac entry.mac).getD "" }

/-- No two elements have a key in common, and none has one of the keys before. -/
def FreshKeys {α κ : Type} (key : α → κ) (before : List κ) (xs : List α) : Prop :=
  (xs.map key).Nodup ∧ ∀ x ∈ xs, key x ∉ before

section FreshKeys

variable {α κ : Type} {key : α → κ} {before : List κ}

theorem freshKeys_nil : FreshKeys key before [] :=
  ⟨List.nodup_nil, fun _ h => absurd h List.not_mem_nil⟩

theorem freshKeys_cons {x : α} {xs : List α} :
    FreshKeys key before (x :: xs) ↔ key x ∉ before ∧ FreshKeys key (key x :: before) xs := by
  simp only [FreshKeys, List.map_cons, List.nodup_cons, List.mem_cons, List.mem_map, not_or,
    forall_eq_or_imp, not_exists, not_and]
  constructor
  · rintro ⟨⟨hx, hnodup⟩, hbefore, hrest⟩
    exact ⟨hbefore, hnodup, fun y hy => ⟨hx y hy, hrest y hy⟩⟩
  · rintro ⟨hbefore, hnodup, hrest⟩
    exact ⟨⟨fun y hy => (hrest y hy).1, hnodup⟩, hbefore, fun y hy => (hrest y hy).2⟩

theorem freshKeys_of_nodup {xs : List α} (h : (xs.map key).Nodup) : FreshKeys key [] xs :=
  ⟨h, fun _ _ => List.not_mem_nil⟩

end FreshKeys

/-- **The entries admitted**: every entry passes its checks, and no endpoint, no
address and no MAC address occurs twice. -/
theorem admitEntries_eq_ok {realm : AddressRealm} {entries admitted : List EndpointLocation}
    {endpointIds : List Uuid} {addresses : List Ipv4Addr} {macs : List String} :
    admitEntries realm entries endpointIds addresses macs = .ok admitted ↔
      (∀ entry ∈ entries, Admissible realm entry) ∧ FreshKeys (·.endpointId) endpointIds entries ∧
        FreshKeys (·.fixedIp) addresses entries ∧
        FreshKeys (·.canonical.mac) macs entries ∧
        admitted = entries.map EndpointLocation.canonical := by
  induction entries generalizing endpointIds addresses macs admitted with
  | nil =>
    simp only [admitEntries, Except.ok.injEq, List.map_nil, freshKeys_nil, true_and,
      List.not_mem_nil, false_imp_iff, implies_true]
    exact eq_comm
  | cons entry rest ih =>
    rw [admitEntries]
    simp only [List.mem_cons, forall_eq_or_imp, freshKeys_cons, List.map_cons]
    constructor
    · intro h
      split_ifs at h with hid hgen hscope hrealm
      simp only [not_or, Decidable.not_not, Bool.not_eq_false] at hid hgen hscope hrealm
      split at h
      · cases h
      · rename_i mac hmac
        have hcanonical : entry.canonical = { entry with mac := mac } := by
          simp [EndpointLocation.canonical, hmac]
        split_ifs at h with hdup
        simp only [not_or] at hdup
        split at h
        · cases h
        · rename_i admitted' hrest
          obtain ⟨hvalid, hids, haddresses, hmacs, rfl⟩ := ih.mp hrest
          cases h
          refine ⟨⟨⟨hid.1, hid.2.1, hid.2.2, hgen.1, hgen.2, hscope, hrealm, ?_⟩,
            hvalid⟩, ⟨hdup.1, hids⟩, ⟨hdup.2.1, haddresses⟩, ?_, ?_⟩
          · simp [hmac]
          · rw [hcanonical]
            exact ⟨hdup.2.2, hmacs⟩
          · rw [hcanonical]
    · rintro ⟨⟨hentry, hvalid⟩, ⟨hid, hids⟩, ⟨haddress, haddresses⟩, ⟨hmac, hmacs⟩, rfl⟩
      obtain ⟨mac, hsome⟩ := Option.isSome_iff_exists.mp hentry.mac
      have hcanonical : entry.canonical = { entry with mac := mac } := by
        simp [EndpointLocation.canonical, hsome]
      rw [hcanonical] at hmac hmacs ⊢
      rw [if_neg (by simp [hentry.projectId, hentry.selectedHost, hentry.endpointId]),
        if_neg (by simp [hentry.endpointGeneration, hentry.placementGeneration]),
        if_neg (by simp [hentry.scope]), if_neg (by simp [hentry.address])]
      simp only [hsome]
      rw [if_neg (by simp [hid, haddress, hmac]), ih.mpr ⟨hvalid, hids, haddresses, hmacs, rfl⟩]

section Build

variable {Intent Gateway : Type} {lib : FabricLibrary Intent Gateway} {realm : AddressRealm}

/-- **The directories built**: the entries in order, under their canonical MAC addresses. -/
theorem build_eq_ok {entries : List EndpointLocation} {directoryGeneration : Nat}
    {directory : RealmEndpointDirectory} :
    RealmEndpointDirectory.build lib realm entries [] directoryGeneration = .ok directory ↔
      directoryGeneration ≠ 0 ∧ (∀ entry ∈ entries, Admissible realm entry) ∧
        (entries.map (·.endpointId)).Nodup ∧
        (entries.map (·.fixedIp)).Nodup ∧
        (entries.map (·.canonical.mac)).Nodup ∧
        (∀ entry ∈ entries, entry.canonical.mac ≠ realmProxyMac lib realm.id) ∧
        directory =
          ⟨realm.id, realm.addresses, directoryGeneration, realmProxyMac lib realm.id,
            sortBy EndpointLocation.sortKey (entries.map EndpointLocation.canonical)⟩ := by
  unfold RealmEndpointDirectory.build
  constructor
  · intro h
    split_ifs at h with hgen
    dsimp only at h
    split at h
    · cases h
    · rename_i admitted hadmitted
      obtain ⟨hvalid, hids, haddresses, hmacs, rfl⟩ := admitEntries_eq_ok.mp hadmitted
      split_ifs at h with hproxy
      simp only [checkOccupied, Except.ok.injEq] at h
      refine ⟨hgen, hvalid, hids.1, haddresses.1, hmacs.1, ?_, h.symm⟩
      rintro entry hentry heq
      exact hproxy (by simpa using ⟨entry, hentry, heq⟩)
  · rintro ⟨hgen, hvalid, hids, haddresses, hmacs, hproxy, rfl⟩
    rw [if_neg hgen, admitEntries_eq_ok.mpr ⟨hvalid, freshKeys_of_nodup hids,
      freshKeys_of_nodup haddresses, freshKeys_of_nodup hmacs, rfl⟩]
    dsimp only
    rw [if_neg]
    · simp only [checkOccupied]
    · simpa using hproxy

theorem build_of_perm {entries entries' : List EndpointLocation} {directoryGeneration : Nat}
    {directory : RealmEndpointDirectory} (hperm : entries.Perm entries')
    (h : RealmEndpointDirectory.build lib realm entries [] directoryGeneration = .ok directory) :
    RealmEndpointDirectory.build lib realm entries' [] directoryGeneration = .ok directory := by
  obtain ⟨hgen, hvalid, hids, haddresses, hmacs, hproxy, rfl⟩ := build_eq_ok.mp h
  refine build_eq_ok.mpr ⟨hgen, fun entry hentry => hvalid entry (hperm.mem_iff.mpr hentry),
    (hperm.map _).nodup_iff.mp hids, (hperm.map _).nodup_iff.mp haddresses,
    (hperm.map _).nodup_iff.mp hmacs,
    fun entry hentry => hproxy entry (hperm.mem_iff.mpr hentry), ?_⟩
  rw [sortBy_eq_of_perm (hperm.map EndpointLocation.canonical)]
  rw [List.map_map]
  refine List.Nodup.of_map (fun k => (ofLex k).2) ?_
  rw [List.map_map]
  exact hids

end Build

section Participants

variable {Intent Gateway : Type} {lib : FabricLibrary Intent Gateway}

variable {participants : List FabricHostIdentity}

/-- **The participants admitted**: every identity passes its checks, and no
transport address and no host occurs twice. -/
theorem admitParticipants_eq_ok {byAgentIp : List Ipv4Addr}
    {before byHost : Table FabricHostIdentity.hostId} :
    admitParticipants lib participants byAgentIp before = .ok byHost ↔
      (∀ identity ∈ participants, identityIsValid lib identity = true) ∧
        FreshKeys (·.fabricTransportIp) byAgentIp participants ∧
        FreshKeys (·.hostId) (before.rows.map (·.hostId)) participants ∧
        byHost = participants.foldl Table.put before := by
  induction participants generalizing byAgentIp before byHost with
  | nil =>
    simp only [admitParticipants, Except.ok.injEq, freshKeys_nil, true_and, List.foldl_nil,
      List.not_mem_nil, false_imp_iff, implies_true]
    exact eq_comm
  | cons identity rest ih =>
    have hpresent :
        (before.get? identity.hostId).isSome = true ↔
          identity.hostId ∈ before.rows.map (·.hostId) := by
      rw [Option.isSome_iff_ne_none, ne_eq, Table.get?_eq_none_iff]
      simp
    have hput : ∀ hostId,
        hostId ∈ (before.put identity).rows.map (·.hostId) ↔
          hostId ∈ identity.hostId :: before.rows.map (·.hostId) := by
      intro hostId
      simp only [List.mem_map, Table.mem_put, List.mem_cons]
      constructor
      · rintro ⟨row, rfl | ⟨hrow, _⟩, rfl⟩
        · exact Or.inl rfl
        · exact Or.inr ⟨row, hrow, rfl⟩
      · rintro (rfl | ⟨row, hrow, rfl⟩)
        · exact ⟨identity, Or.inl rfl, rfl⟩
        · by_cases heq : row.hostId = identity.hostId
          · exact ⟨identity, Or.inl rfl, heq.symm⟩
          · exact ⟨row, Or.inr ⟨hrow, heq⟩, rfl⟩
    rw [admitParticipants]
    simp only [List.mem_cons, forall_eq_or_imp, freshKeys_cons, List.foldl_cons]
    have hrest :
        FreshKeys (·.hostId) ((before.put identity).rows.map (·.hostId)) rest ↔
          FreshKeys (·.hostId) (identity.hostId :: before.rows.map (·.hostId)) rest := by
      simp only [FreshKeys, hput]
    constructor
    · intro h
      split_ifs at h with hrefused
      simp only [not_or, Bool.not_eq_false, hpresent] at hrefused
      obtain ⟨hvalid, hips, hhosts, hfold⟩ := ih.mp h
      exact ⟨⟨hrefused.1, hvalid⟩, ⟨hrefused.2.1, hips⟩, ⟨hrefused.2.2, hrest.mp hhosts⟩, hfold⟩
    · rintro ⟨⟨hidentity, hvalid⟩, ⟨hip, hips⟩, ⟨hhost, hhosts⟩, hfold⟩
      rw [if_neg (by simp [hidentity, hip, hpresent, hhost])]
      exact ih.mpr ⟨hvalid, hips, hrest.mpr hhosts, hfold⟩

variable {byHost : Table FabricHostIdentity.hostId}

theorem mem_admitted
    (h : admitParticipants lib participants [] ∅ = .ok byHost) (identity : FabricHostIdentity) :
    identity ∈ byHost.rows ↔ identity ∈ participants := by
  obtain ⟨_, _, hhosts, rfl⟩ := admitParticipants_eq_ok.mp h
  exact Table.mem_ofList hhosts.1

theorem admitParticipants_of_perm {participants participants' : List FabricHostIdentity}
    (hperm : participants.Perm participants')
    (h : admitParticipants lib participants [] ∅ = .ok byHost) :
    admitParticipants lib participants' [] ∅ = .ok byHost := by
  have hmem := mem_admitted h
  obtain ⟨hvalid, hips, hhosts, _⟩ := admitParticipants_eq_ok.mp h
  have hhosts' : (participants'.map (·.hostId)).Nodup := (hperm.map _).nodup_iff.mp hhosts.1
  refine admitParticipants_eq_ok.mpr
    ⟨fun identity hidentity => hvalid identity (hperm.mem_iff.mpr hidentity),
      freshKeys_of_nodup ((hperm.map _).nodup_iff.mp hips.1), freshKeys_of_nodup hhosts',
      Table.ext_mem fun identity => ?_⟩
  rw [hmem, hperm.mem_iff]
  exact (Table.mem_ofList hhosts').symm

theorem admitParticipants_eq_error {byAgentIp : List Ipv4Addr}
    {before : Table FabricHostIdentity.hostId} {e : FabricRealmPlanError}
    (h : admitParticipants lib participants byAgentIp before = .error e) :
    e = .invalidHostIdentity := by
  induction participants generalizing byAgentIp before with
  | nil => cases h
  | cons identity rest ih =>
    rw [admitParticipants] at h
    split_ifs at h with hrefused
    · cases h
      rfl
    · exact ih h

end Participants

end Fabric
end O3k
