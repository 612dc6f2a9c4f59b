import O3k.Gateways.Snapshot

/-!
# What a host accepts of a gateway

The first host lies in every prefix that is not a single address; and the loop
of `gateway::validate_plan` accepts what is right by itself and disjoint in
pairs.
-/

namespace O3k
namespace Gateways

open Relational Relational.Transaction Semantics Network NetworkTables Service Fabric Execution

variable {p : Ipv4Prefix}

theorem Ipv4Prefix.contains_network {address : Ipv4Addr} {length : Nat}
    (h : Ipv4Prefix.new address length = some p) :
    p.contains p.network = true ∧ p.prefixLen = length ∧ length ≤ 32 := by
  simp only [Ipv4Prefix.new] at h
  split_ifs at h with hlong hmask
  cases h
  exact ⟨by simp [Ipv4Prefix.contains, hmask], rfl, by omega⟩

theorem parsePrefix?_canonical {text : String} (h : parsePrefix? text = some p) :
    p.contains p.network = true ∧ p.prefixLen ≤ 32 := by
  simp only [parsePrefix?] at h
  split at h
  · cases h
  · split at h
    · obtain ⟨hcontains, rfl, hle⟩ := Ipv4Prefix.contains_network h
      exact ⟨hcontains, hle⟩
    · cases h

/-- The lowest bit is not fixed, except by a single address. -/
theorem one_and_mask {length : Nat} (h : length < 32) : 1 &&& Ipv4Prefix.mask length = 0 := by
  have hall : ∀ length : Fin 32, 1 &&& Ipv4Prefix.mask length = 0 := by
    decide
  exact hall ⟨length, h⟩

theorem firstHost_of_lt (hcanonical : p.contains p.network = true) (hlength : p.prefixLen < 32) :
    ∃ address, firstHost p = some address ∧ p.contains address = true ∧ address ≠ p.network := by
  have hmask := one_and_mask hlength
  have hnetwork : p.network &&& Ipv4Prefix.mask p.prefixLen = p.network := by
    simpa [Ipv4Prefix.contains] using hcanonical
  have hdisjoint : p.network &&& 1 = 0 := by
    rw [← hnetwork, BitVec.and_assoc, BitVec.and_comm _ 1, hmask]
    simp
  have hnext : p.network + 1 = p.network ||| 1 := BitVec.add_eq_or_of_and_eq_zero _ _ hdisjoint
  refine ⟨p.network + 1, ?_, ?_, ?_⟩
  · rw [firstHost, if_neg]
    intro hall
    rw [hall] at hdisjoint
    exact absurd hdisjoint (by decide)
  · rw [Ipv4Prefix.contains, decide_eq_true_iff, hnext, BitVec.and_or_distrib_right, hmask,
      hnetwork]
    simp
  · intro heq
    exact absurd (BitVec.add_right_eq_self.mp heq) (by decide)

theorem overlaps_comm (a b : Ipv4Prefix) : overlaps a b = overlaps b a := Bool.or_comm _ _

theorem overlaps_self (h : p.contains p.network = true) : overlaps p p = true := by
  simp [overlaps, h]

def attachmentIsSound (a : L3GatewayExecutionAttachment) : Bool :=
  a.attachmentId ≠ nilUuid && a.realmId ≠ nilUuid && a.attachmentGeneration ≠ 0 &&
    a.realmGeneration ≠ 0 && a.realmPrefix.contains a.gatewayAddress &&
    a.gatewayAddress ≠ a.realmPrefix.network

/-- What is asked of two attachments. -/
structure Apart (a b : L3GatewayExecutionAttachment) : Prop where
  ids : a.attachmentId ≠ b.attachmentId
  realms : a.realmId ≠ b.realmId
  prefixes : overlaps a.realmPrefix b.realmPrefix = false

theorem attachmentsAreValid_of_apart {attachments seen : List L3GatewayExecutionAttachment}
    (hsound : ∀ a ∈ attachments, attachmentIsSound a = true)
    (hseen : ∀ b ∈ seen, ∀ a ∈ attachments, Apart b a) (hapart : attachments.Pairwise Apart) :
    attachmentsAreValid attachments (seen.map (·.attachmentId)) (seen.map (·.realmId))
      (seen.map (·.realmPrefix)) = true := by
  induction attachments generalizing seen with
  | nil => rfl
  | cons a rest ih =>
    obtain ⟨hhead, htail⟩ := List.pairwise_cons.mp hapart
    have ha := hsound a List.mem_cons_self
    have hseen' : ∀ b ∈ a :: seen, ∀ c ∈ rest, Apart b c := by
      intro b hb c hc
      rcases List.mem_cons.mp hb with rfl | hb
      · exact hhead c hc
      · exact hseen b hb c (List.mem_cons_of_mem _ hc)
    have hrest := ih (fun b hb => hsound b (List.mem_cons_of_mem _ hb)) hseen' htail
    have hids : a.attachmentId ∉ seen.map (·.attachmentId) := by
      intro hmem
      obtain ⟨b, hb, heq⟩ := List.mem_map.mp hmem
      exact (hseen b hb a List.mem_cons_self).ids heq
    have hrealms : a.realmId ∉ seen.map (·.realmId) := by
      intro hmem
      obtain ⟨b, hb, heq⟩ := List.mem_map.mp hmem
      exact (hseen b hb a List.mem_cons_self).realms heq
    have hprefixes :
        (seen.map (·.realmPrefix)).any (fun p => overlaps p a.realmPrefix) = false := by
      rw [List.any_map, List.any_eq_false]
      intro b hb
      simp [(hseen b hb a List.mem_cons_self).prefixes]
    simp only [attachmentIsSound, Bool.and_eq_true, decide_eq_true_eq] at ha
    simp only [List.map_cons] at hrest
    simp [attachmentsAreValid, ha, hids, hrealms, hprefixes, hrest]

theorem gatewayIsValid_of_sorted {plan : L3GatewayExecutionPlan}
    (hid : plan.gatewayId ≠ nilUuid) (hgeneration : plan.gatewayGeneration ≠ 0)
    (hsorted : StrictlySorted (·.attachmentId) plan.attachments)
    (hsound : ∀ a ∈ plan.attachments, attachmentIsSound a = true)
    (hapart : plan.attachments.Pairwise Apart)
    (hsome : plan.externalRealmId.isSome = plan.externalRealmPrefix.isSome)
    (hexternal : ∀ id ∈ plan.externalRealmId,
      id ≠ nilUuid ∧ id ∉ plan.attachments.map (·.realmId) ∧
        plan.externalRealmGeneration.getD 0 ≠ 0) :
    gatewayIsValid plan = true := by
  have hchain : decide ((plan.attachments.map (·.attachmentId)).IsChain (· < ·)) = true :=
    decide_eq_true (List.isChain_iff_pairwise.mpr (List.pairwise_map.mpr hsorted))
  have hloop : attachmentsAreValid plan.attachments [] [] [] = true := by
    have hunseen : ∀ b ∈ ([] : List L3GatewayExecutionAttachment), ∀ a ∈ plan.attachments,
        Apart b a :=
      fun _ hb => by cases hb
    exact attachmentsAreValid_of_apart hsound hunseen hapart
  rw [gatewayIsValid, hchain, hloop, hsome]
  cases hid' : plan.externalRealmId with
  | none => simp [hid, hgeneration]
  | some id =>
    obtain ⟨hnil, hmem, hpositive⟩ := hexternal id hid'
    simp only [List.mem_map, not_exists, not_and] at hmem
    simp [hid, hgeneration, hnil, hpositive]
    exact hmem

/-!
# Gateway graphs that can be executed

What the rows of gateways and attachments have to satisfy together, and that
the snapshot of every gateway of such a graph is compiled and accepted by the
host.
-/

/-- Every realm is active and has a prefix of 0 to 32 bits. -/
structure RealmOk (realm : CanonicalAddressRealmRecord) : Prop where
  identified : realm.id ≠ nilUuid
  generation : realm.generation ≠ 0
  active : realm.state = .active
  parsed : ∃ p, parsePrefix? realm.prefixText = some p

structure GatewayOk (s : NetworkTables) (gateway : CanonicalL3GatewayRecord) : Prop where
  identified : gateway.id ≠ nilUuid
  owned : gateway.projectId ≠ ""
  generation : gateway.generation ≠ 0
  active : gateway.state = .active
  external : s.externalRealmExists gateway.projectId gateway.externalRealmId = true

def attachmentPrefix (s : NetworkTables) (a : CanonicalL3GatewayAttachmentRecord) :
    Option Ipv4Prefix :=
  (s.getCanonicalRealm a.projectId a.realmId).bind (fun realm => parsePrefix? realm.prefixText)

structure AttachmentOk (s : NetworkTables) (a : CanonicalL3GatewayAttachmentRecord) : Prop where
  identified : a.id ≠ nilUuid
  generation : a.generation ≠ 0
  owned : (s.getCanonicalL3Gateway a.projectId a.gatewayId).isSome
  hosted : ∃ p, attachmentPrefix s a = some p ∧ p.prefixLen < 32

/-- Rows that make every gateway executable. -/
structure Sound (s : NetworkTables) : Prop where
  realms : ∀ realm ∈ s.realms.rows, RealmOk realm
  gateways : ∀ gateway ∈ s.gateways.rows, GatewayOk s gateway
  attachments : ∀ a ∈ s.attachments.rows, AttachmentOk s a
  apart :
    ∀ a ∈ s.attachments.rows, ∀ b ∈ s.attachments.rows,
      a.state = .active → b.state = .active → a.gatewayId = b.gatewayId → a.id ≠ b.id →
        ∀ p ∈ attachmentPrefix s a, ∀ q ∈ attachmentPrefix s b, overlaps p q = false
  external :
    ∀ gateway ∈ s.gateways.rows, ∀ a ∈ s.attachments.rows,
      a.state = .active → a.gatewayId = gateway.id → gateway.externalRealmId ≠ some a.realmId

/-- The snapshot of the gateway is compiled and the host accepts it. -/
def Executable (lib : TextLibrary) (s : NetworkTables)
    (gateway : CanonicalL3GatewayRecord) : Prop :=
  ∃ plan,
    (returned lib s
      (compileL3GatewayExecutionPlanForProject gateway.projectId gateway.id)).1 = .ok plan ∧
    gatewayIsValid plan = true

theorem realmMap_eq_of_mem {realms : List CanonicalAddressRealmRecord}
    (hunique : ∀ a ∈ realms, ∀ b ∈ realms, a.id = b.id → a = b)
    {realm : CanonicalAddressRealmRecord} (hmem : realm ∈ realms) :
    realmMap realms realm.id = some realm := by
  cases hfound : realmMap realms realm.id with
  | none =>
    have hnone := List.find?_eq_none.mp hfound realm (List.mem_reverse.mpr hmem)
    simp at hnone
  | some found =>
    have hfoundMem := List.mem_reverse.mp (List.mem_of_find?_eq_some hfound)
    rw [hunique found hfoundMem realm hmem (realmMap_id hfound)]

section Snapshot

variable {s : NetworkTables} {gateway : CanonicalL3GatewayRecord}

variable {realm : CanonicalAddressRealmRecord}

theorem getCanonicalRealm_id {projectId : String} {id : Uuid}
    (h : s.getCanonicalRealm projectId id = some realm) :
    realm ∈ s.realms.rows ∧ realm.id = id ∧ realm.projectId = projectId := by
  obtain ⟨hget, hproject⟩ := Option.filter_eq_some_iff.mp h
  obtain ⟨hmem, hid⟩ := (Table.get?_eq_some_iff _).mp hget
  exact ⟨hmem, hid, by simpa using hproject⟩

theorem mem_snapshotRealms (h : realm ∈ snapshotRealms s gateway) :
    s.getCanonicalRealm gateway.projectId realm.id = some realm := by
  rw [snapshotRealms, List.mem_append, List.mem_filterMap] at h
  rcases h with ⟨a, _, ha⟩ | h
  · rw [(getCanonicalRealm_id ha).2.1]
    exact ha
  · obtain ⟨id, _, hid⟩ := Option.bind_eq_some_iff.mp (Option.mem_toList.mp h)
    rw [(getCanonicalRealm_id hid).2.1]
    exact hid

theorem realmMap_snapshot {id : Uuid} (hget : s.getCanonicalRealm gateway.projectId id = some realm)
    (hread :
      (∃ a ∈ s.listCanonicalL3GatewayAttachments gateway.projectId gateway.id, a.realmId = id) ∨
        gateway.externalRealmId = some id) :
    realmMap (snapshotRealms s gateway) id = some realm := by
  obtain ⟨_, rfl, _⟩ := getCanonicalRealm_id hget
  refine realmMap_eq_of_mem ?_ ?_
  · intro a ha b hb hid
    have hsame := mem_snapshotRealms ha
    rw [hid, mem_snapshotRealms hb] at hsame
    exact (Option.some.inj hsame).symm
  · rw [snapshotRealms, List.mem_append]
    rcases hread with ⟨a, ha, hrealm⟩ | hexternal
    · exact Or.inl (List.mem_filterMap.mpr ⟨a, ha, hrealm ▸ hget⟩)
    · exact Or.inr (Option.mem_toList.mpr (by rw [hexternal]; exact hget))

variable (h : Sound s) (hgateway : gateway ∈ s.gateways.rows)

include h hgateway in
theorem externalRealm_of_sound {id : Uuid} (hexternal : gateway.externalRealmId = some id) :
    ∃ realm, s.getCanonicalRealm gateway.projectId id = some realm ∧
      realmMap (snapshotRealms s gateway) id = some realm ∧ RealmOk realm := by
  have hexists := (h.gateways gateway hgateway).external
  rw [externalRealmExists, hexternal, Option.all_some] at hexists
  obtain ⟨realm, hrealm⟩ := Option.isSome_iff_exists.mp hexists
  exact ⟨realm, hrealm, realmMap_snapshot hrealm (Or.inr hexternal),
    h.realms realm (getCanonicalRealm_id hrealm).1⟩

/-- What the execution of an attachment says of its row. -/
structure Executes (s : NetworkTables) (a : CanonicalL3GatewayAttachmentRecord)
    (e : L3GatewayExecutionAttachment) : Prop where
  ident : e.attachmentId = a.id
  realm : e.realmId = a.realmId
  hosted : attachmentPrefix s a = some e.realmPrefix
  sound : attachmentIsSound e = true

include h in
theorem executes_of_sound {a : CanonicalL3GatewayAttachmentRecord}
    (ha : a ∈ s.listCanonicalL3GatewayAttachments gateway.projectId gateway.id) :
    ∃ e, executionAttachment gateway (realmMap (snapshotRealms s gateway)) a = .ok e ∧
      Executes s a e := by
  obtain ⟨hmem, howner⟩ := List.mem_filter.mp ha
  obtain ⟨hproject, hid⟩ : a.projectId = gateway.projectId ∧ a.gatewayId = gateway.id := by
    simpa using howner
  have hok := h.attachments a hmem
  obtain ⟨p, hprefix, hlength⟩ := hok.hosted
  obtain ⟨realm, hrealm, hparse⟩ := Option.bind_eq_some_iff.mp hprefix
  obtain ⟨hrealmMem, hrealmId, hrealmProject⟩ := getCanonicalRealm_id hrealm
  have hrealmOk := h.realms realm hrealmMem
  rw [hproject] at hrealm hrealmProject
  have hmap : realmMap (snapshotRealms s gateway) a.realmId = some realm :=
    realmMap_snapshot hrealm (Or.inl ⟨a, ha, rfl⟩)
  obtain ⟨address, hfirst, hcontains, hne⟩ :=
    firstHost_of_lt (parsePrefix?_canonical hparse).1 hlength
  refine ⟨⟨a.id, a.generation, realm.id, realm.generation, p, address⟩, ?_,
    ⟨rfl, hrealmId, hprefix, ?_⟩⟩
  · simp [executionAttachment, hproject, hid, hmap, hrealmProject, hrealmOk.active, hparse, hfirst]
  · simp [attachmentIsSound, hok.identified, hok.generation, hrealmOk.identified,
      hrealmOk.generation, hcontains, hne]

include h in
theorem of_executed {found : List L3GatewayExecutionAttachment}
    (hfound :
      ((s.listCanonicalL3GatewayAttachments gateway.projectId gateway.id).filter
        (·.state = .active)).mapM
          (executionAttachment gateway (realmMap (snapshotRealms s gateway))) = .ok found)
    {e : L3GatewayExecutionAttachment} (he : e ∈ found) :
    ∃ a ∈ s.attachments.rows, a.state = .active ∧ a.gatewayId = gateway.id ∧ Executes s a e := by
  obtain ⟨a, ha, hok⟩ := (mem_of_except_mapM hfound).mp he
  obtain ⟨hlisted, hactive⟩ := List.mem_filter.mp ha
  obtain ⟨e', hok', hexecutes⟩ := executes_of_sound h hlisted
  obtain rfl : e = e' := Except.ok.inj (hok.symm.trans hok')
  obtain ⟨hmem, howner⟩ := List.mem_filter.mp hlisted
  have howner : a.projectId = gateway.projectId ∧ a.gatewayId = gateway.id := by
    simpa using howner
  exact ⟨a, hmem, by simpa using hactive, howner.2, hexecutes⟩

include h in
theorem executed_sorted {found : List L3GatewayExecutionAttachment}
    (hfound :
      ((s.listCanonicalL3GatewayAttachments gateway.projectId gateway.id).filter
        (·.state = .active)).mapM
          (executionAttachment gateway (realmMap (snapshotRealms s gateway))) = .ok found) :
    StrictlySorted (·.attachmentId) found := by
  have hrows :
      ((s.listCanonicalL3GatewayAttachments gateway.projectId gateway.id).filter
        (·.state = .active)).Pairwise (fun a b => a.id < b.id) :=
    (s.attachments.sorted.filter _).filter _
  have hids := except_mapM_forall₂ (R := fun a e => a.id = e.attachmentId)
    (fun a ha e hok => by
      obtain ⟨e', hok', hexecutes⟩ := executes_of_sound h (List.mem_filter.mp ha).1
      obtain rfl : e = e' := Except.ok.inj (hok.symm.trans hok')
      exact hexecutes.ident.symm)
    hfound
  have hkeys := List.forall₂_eq_eq_eq ▸ List.forall₂_map_left_iff.mpr
    (List.forall₂_map_right_iff.mpr hids)
  exact List.pairwise_map.mp (hkeys ▸ List.pairwise_map.mpr hrows)

include h in
theorem apart_of_executes {a b : CanonicalL3GatewayAttachmentRecord}
    {e e' : L3GatewayExecutionAttachment} (ha : a ∈ s.attachments.rows)
    (hb : b ∈ s.attachments.rows) (haActive : a.state = .active) (hbActive : b.state = .active)
    (hsame : a.gatewayId = b.gatewayId) (he : Executes s a e) (he' : Executes s b e')
    (hne : e.attachmentId ≠ e'.attachmentId) :
    Apart e e' := by
  have hid : a.id ≠ b.id := by
    rwa [← he.ident, ← he'.ident]
  have hprefixes : overlaps e.realmPrefix e'.realmPrefix = false :=
    h.apart a ha b hb haActive hbActive hsame hid _ he.hosted _ he'.hosted
  refine ⟨hne, ?_, hprefixes⟩
  -- one realm has one prefix, which overlaps itself
  intro hrealm
  obtain ⟨realm, hget, hparse⟩ := Option.bind_eq_some_iff.mp he.hosted
  obtain ⟨realm', hget', hparse'⟩ := Option.bind_eq_some_iff.mp he'.hosted
  obtain ⟨hmem, hrealmId, _⟩ := getCanonicalRealm_id hget
  obtain ⟨hmem', hrealmId', _⟩ := getCanonicalRealm_id hget'
  have hids : realm.id = realm'.id := by
    rw [hrealmId, hrealmId', ← he.realm, ← he'.realm, hrealm]
  obtain rfl : realm = realm' := Table.eq_of_mem_of_key_eq _ hmem hmem' hids
  rw [Option.some.inj (hparse.symm.trans hparse'),
    overlaps_self (parsePrefix?_canonical hparse').1] at hprefixes
  exact Bool.noConfusion hprefixes

include h hgateway in
theorem external_of_sound :
    ∃ externalPrefix,
      externalRealmPrefix gateway (realmMap (snapshotRealms s gateway)) = .ok externalPrefix ∧
        gateway.externalRealmId.isSome = externalPrefix.isSome ∧
        ∀ id ∈ gateway.externalRealmId, id ≠ nilUuid ∧
          ((externalRealm gateway (realmMap (snapshotRealms s gateway))).map
            (·.generation)).getD 0 ≠ 0 := by
  cases hexternal : gateway.externalRealmId with
  | none =>
    refine ⟨none, ?_, rfl, fun id hid => by cases hid⟩
    simp [externalRealmPrefix, externalRealm, hexternal]
  | some id =>
    obtain ⟨realm, hget, hmap, hok⟩ := externalRealm_of_sound h hgateway hexternal
    obtain ⟨p, hparse⟩ := hok.parsed
    have hfound : externalRealm gateway (realmMap (snapshotRealms s gateway)) = some realm := by
      rw [externalRealm, hexternal]
      exact hmap
    refine ⟨some p, ?_, rfl, ?_⟩
    · simp [externalRealmPrefix, hfound, hparse]
    · intro id' hid'
      cases hid'
      rw [hfound]
      exact ⟨(getCanonicalRealm_id hget).2.1 ▸ hok.identified, hok.generation⟩

include h hgateway in
/-- **A sound graph is executable**: the snapshot of each gateway is compiled,
and `gateway::validate_plan` accepts it. -/
theorem executable_of_sound (lib : TextLibrary) : Executable lib s gateway := by
  have hok := h.gateways gateway hgateway
  obtain ⟨found, hfound⟩ := except_mapM_of_forall
    (fun a (ha : a ∈ (s.listCanonicalL3GatewayAttachments gateway.projectId gateway.id).filter
        (·.state = .active)) => by
      obtain ⟨e, he, _⟩ := executes_of_sound h (List.mem_filter.mp ha).1
      exact ⟨e, he⟩)
  obtain ⟨externalPrefix, hprefix, hsome, hexternal⟩ := external_of_sound h hgateway
  have hsorted := executed_sorted h hfound
  have hcompiled :
      compileL3GatewayExecutionPlan gateway
          (s.listCanonicalL3GatewayAttachments gateway.projectId gateway.id)
          (realmMap (snapshotRealms s gateway))
        = .ok
          { gatewayId := gateway.id
            projectId := gateway.projectId
            gatewayGeneration := gateway.generation
            attachments := found
            externalRealmId := gateway.externalRealmId
            externalRealmPrefix := externalPrefix
            externalRealmGeneration :=
              (externalRealm gateway (realmMap (snapshotRealms s gateway))).map (·.generation)
            enableSnat := gateway.enableSnat } := by
    rw [compileL3GatewayExecutionPlan, if_neg (by simp [hok.active, hok.generation, hok.owned])]
    refine except_bind_eq_ok.mpr ⟨found, hfound, except_bind_eq_ok.mpr ⟨_, hprefix, ?_⟩⟩
    rw [hsorted.sortBy_eq]
    rfl
  have hget : s.getCanonicalL3Gateway gateway.projectId gateway.id = some gateway :=
    Option.filter_eq_some_iff.mpr ⟨s.gateways.get?_key_of_mem hgateway, decide_eq_true rfl⟩
  have hreturned : returned lib s _ = _ :=
    returned_compile hget hok.active
      (fun id hid => by
        obtain ⟨realm, hrealm, _, hrealmOk⟩ := externalRealm_of_sound h hgateway hid
        exact ⟨realm, hrealm, hrealmOk.active⟩)
      hcompiled
  refine ⟨_, congrArg Prod.fst hreturned, ?_⟩
  refine gatewayIsValid_of_sorted hok.identified hok.generation hsorted ?_ ?_ hsome ?_
  · intro e he
    obtain ⟨a, _, _, _, hexecutes⟩ := of_executed h hfound he
    exact hexecutes.sound
  · refine hsorted.imp_of_mem ?_
    intro e e' he he' hlt
    obtain ⟨a, ha, haActive, hid, hexecutes⟩ := of_executed h hfound he
    obtain ⟨b, hb, hbActive, hid', hexecutes'⟩ := of_executed h hfound he'
    exact apart_of_executes h ha hb haActive hbActive (hid.trans hid'.symm) hexecutes
      hexecutes' hlt.ne
  · intro id hid
    refine ⟨(hexternal id hid).1, ?_, (hexternal id hid).2⟩
    intro hmem
    obtain ⟨e, he, rfl⟩ := List.mem_map.mp hmem
    obtain ⟨a, ha, hactive, hsame, hexecutes⟩ := of_executed h hfound he
    exact h.external gateway hgateway a ha hactive hsame (hexecutes.realm ▸ hid)

end Snapshot

end Gateways
end O3k
