import O3k.Gateways.Compile

/-!
# The next hops of the attached realms

The routes of a realm go to the gateway that its pools configure, and to the
first host only where they configure none; the host answers at the first host.
-/

namespace O3k
namespace Gateways

open Relational Relational.Transaction Network Fabric Execution

variable {gateway : CanonicalL3GatewayRecord}
variable {attachments : List CanonicalL3GatewayAttachmentRecord}
variable {realms : List CanonicalAddressRealmRecord}
variable {pools : Uuid → Option (List CanonicalAddressPoolRecord)}

theorem mem_attachedRealms {id : Uuid} :
    id ∈ attachedRealms gateway attachments ↔
    ∃ a ∈ attachments, a.projectId = gateway.projectId ∧ a.state = .active ∧ a.realmId = id := by
  simp [attachedRealms, and_assoc]

theorem attachedRealms_nodup : (attachedRealms gateway attachments).Nodup :=
  (sortBy_perm _).nodup_iff.mpr (List.nodup_dedup _)

theorem attachedRealms_other (h : 1 < (attachedRealms gateway attachments).length) (id : Uuid) :
    ∃ other ∈ attachedRealms gateway attachments, other ≠ id := by
  by_contra hnone
  push Not at hnone
  have hnodup : (attachedRealms gateway attachments).Nodup := attachedRealms_nodup
  rw [List.eq_replicate_of_mem hnone] at hnodup
  exact absurd (List.nodup_replicate.mp hnodup) (by omega)

variable {id : Uuid}

theorem attachedRealms_sole (h : (attachedRealms gateway attachments).length ≤ 1)
    (hid : id ∈ attachedRealms gateway attachments) :
    (attachedRealms gateway attachments).filter (· ≠ id) = [] := by
  obtain ⟨other, hother⟩ := List.length_eq_one_iff.mp (le_antisymm h (List.length_pos_of_mem hid))
  rw [hother] at hid ⊢
  simp [List.mem_singleton.mp hid]

/-- The realm is an active realm of the project. -/
def Usable (gateway : CanonicalL3GatewayRecord) (realm : CanonicalAddressRealmRecord) : Bool :=
  realm.projectId = gateway.projectId && realm.state = .active

variable {prefixes : List (Uuid × Ipv4Prefix)}

theorem lookup_realmPrefixes {seen : List (Uuid × Ipv4Prefix)}
    (h : realmPrefixes gateway realms seen = .ok prefixes) (id : Uuid) :
    prefixes.lookup id = match realms.reverse.find? (fun r => r.id = id && Usable gateway r) with
    | some realm => parsePrefix? realm.prefixText
    | none => seen.lookup id := by
  induction realms generalizing seen with
  | nil =>
    cases h
    rfl
  | cons realm rest ih =>
    rw [List.reverse_cons, List.find?_append]
    rw [realmPrefixes] at h
    split_ifs at h with hskip
    · -- a realm that is passed over
      have hunusable : Usable gateway realm = false := by
        rcases hskip with hproject | hstate
        · simp [Usable, hproject]
        · simp [Usable, hstate]
      simpa [hunusable] using ih h
    · have husable : Usable gateway realm = true := by
        simpa [Usable, not_or] using hskip
      cases hparse : parsePrefix? realm.prefixText with
      | none => simp [hparse] at h
      | some p =>
        simp only [hparse] at h
        rw [ih h]
        cases hfound : rest.reverse.find? (fun r => r.id = id && Usable gateway r) with
        | some later => rfl
        | none =>
          by_cases hid : realm.id = id
          · simp [hid, husable, hparse]
          · simp [hid, List.lookup_cons, beq_eq_false_iff_ne.mpr (Ne.symm hid)]

/-- What both compilers read of an attached realm, and the address that
answers in it. -/
structure Answers
    (gateway : CanonicalL3GatewayRecord) (realms : List CanonicalAddressRealmRecord) (id : Uuid)
    (p : Ipv4Prefix) (address : Ipv4Addr) : Prop where
  known :
    ∃ realm, realmMap realms id = some realm ∧ Usable gateway realm = true ∧
      parsePrefix? realm.prefixText = some p
  first : firstHost p = some address

theorem Answers.lookup {p : Ipv4Prefix} {address : Ipv4Addr}
    (h : Answers gateway realms id p address)
    (hprefixes : realmPrefixes gateway realms [] = .ok prefixes) :
    prefixes.lookup id = some p := by
  obtain ⟨realm, hmap, husable, hparse⟩ := h.known
  have hfound :
      realms.reverse.find? (fun r => r.id = id && Usable gateway r) = some realm := by
    rw [List.find?_eq_some_iff_append]
    obtain ⟨hid, before, after, hsplit, hbefore⟩ := List.find?_eq_some_iff_append.mp hmap
    exact ⟨by simp [husable, of_decide_eq_true hid], before, after, hsplit,
      fun r hr => by simp [of_decide_eq_false (Bool.not_eq_true' _ ▸ hbefore r hr)]⟩
  rw [lookup_realmPrefixes hprefixes, hfound]
  exact hparse

theorem executionAttachment_ok {attachment : CanonicalL3GatewayAttachmentRecord}
    {a : L3GatewayExecutionAttachment}
    (h : executionAttachment gateway (realmMap realms) attachment = .ok a) :
    attachment.projectId = gateway.projectId ∧ a.realmId = attachment.realmId ∧
      Answers gateway realms a.realmId a.realmPrefix a.gatewayAddress := by
  simp only [executionAttachment] at h
  split_ifs at h with howner
  split at h
  · cases h
  · rename_i realm hrealm
    split_ifs at h with husable
    split at h
    · cases h
    · rename_i p hparse
      split at h
      · cases h
      · rename_i address hfirst
        cases h
        have hid : realm.id = attachment.realmId := realmMap_id hrealm
        push Not at howner husable
        exact ⟨howner.1, hid,
          ⟨realm, hid ▸ hrealm, by simp [Usable, husable.1, husable.2], hparse⟩, hfirst⟩

theorem mem_attachments_of_plan {plan : L3GatewayExecutionPlan}
    (h : compileL3GatewayExecutionPlan gateway attachments (realmMap realms) = .ok plan)
    {a : L3GatewayExecutionAttachment} :
    a ∈ plan.attachments ↔ ∃ attachment ∈ attachments, attachment.state = .active ∧
      executionAttachment gateway (realmMap realms) attachment = .ok a := by
  simp only [compileL3GatewayExecutionPlan] at h
  split_ifs at h
  obtain ⟨found, hfound, h⟩ := except_bind_eq_ok.mp h
  obtain ⟨_, _, h⟩ := except_bind_eq_ok.mp h
  cases h
  rw [mem_sortBy, mem_of_except_mapM hfound]
  simp [and_assoc]

theorem answers_of_attached {plan : L3GatewayExecutionPlan}
    (h : compileL3GatewayExecutionPlan gateway attachments (realmMap realms) = .ok plan)
    (hid : id ∈ attachedRealms gateway attachments) :
    ∃ a ∈ plan.attachments, a.realmId = id := by
  obtain ⟨attachment, hmem, _, hactive, hrealm⟩ := mem_attachedRealms.mp hid
  have hplan := h
  simp only [compileL3GatewayExecutionPlan] at h
  split_ifs at h
  obtain ⟨found, hfound, _⟩ := except_bind_eq_ok.mp h
  obtain ⟨a, _, ha⟩ := except_mapM_ok_of_mem hfound (List.mem_filter.mpr ⟨hmem, by simp [hactive]⟩)
  exact ⟨a, (mem_attachments_of_plan hplan).mpr ⟨attachment, hmem, hactive, ha⟩,
    (executionAttachment_ok ha).2.1.trans hrealm⟩

/-- The entry of an attached realm: routes to the others, all to one address. -/
theorem realmIntents_ok {attached : List Uuid}
    {entry : Uuid × List GatewayIntent × List EgressIntent}
    (h : realmIntents gateway pools prefixes attached id = .ok entry) :
    entry.1 = id ∧
      ∃ p address, prefixes.lookup id = some p ∧ localGateway pools id p = some address ∧
        (∀ route ∈ entry.2.1, route.gateway = address) ∧
        (entry.2.1 = [] ↔ attached.filter (· ≠ id) = []) := by
  simp only [realmIntents] at h
  split at h
  · cases h
  · rename_i p hp
    split at h
    · cases h
    · rename_i address haddress
      obtain ⟨routes, hroutes, h⟩ := except_bind_eq_ok.mp h
      cases h
      refine ⟨rfl, p, address, hp, haddress, ?_, ?_⟩
      · intro route hroute
        obtain ⟨remote, _, hremote⟩ := (mem_of_except_mapM hroutes).mp hroute
        simp only [routeTo] at hremote
        split at hremote
        · cases hremote
        · cases hremote
          rfl
      · have hlength := (except_mapM_forall₂ (R := fun _ _ => True) (fun _ _ _ _ => trivial)
          hroutes).length_eq
        rw [← List.length_eq_zero_iff, ← hlength, List.length_eq_zero_iff]

/-- The two results are about the same realms, and the routes of a realm go
where the host answers in it. -/
def NextHopsAgree (intents : List (Uuid × List GatewayIntent × List EgressIntent))
    (plan : L3GatewayExecutionPlan) : Prop :=
  (∀ id, (∃ entry ∈ intents, entry.1 = id) ↔ ∃ a ∈ plan.attachments, a.realmId = id) ∧
    ∀ entry ∈ intents, ∀ a ∈ plan.attachments, a.realmId = entry.1 →
      ∀ route ∈ entry.2.1, route.gateway = a.gatewayAddress

def ConfiguresFirstHosts
    (gateway : CanonicalL3GatewayRecord) (attachments : List CanonicalL3GatewayAttachmentRecord)
    (realms : List CanonicalAddressRealmRecord)
    (pools : Uuid → Option (List CanonicalAddressPoolRecord)) : Prop :=
  ∀ id ∈ attachedRealms gateway attachments, ∀ address ∈ configuredGateway pools id,
    ∀ realm ∈ realmMap realms id,
      (parsePrefix? realm.prefixText).bind firstHost = some address

/-- The routes of a realm go to the first host exactly when its pools do not
configure another address. -/
theorem localGateway_eq_first_iff {p : Ipv4Prefix} {first : Ipv4Addr}
    (hfirst : firstHost p = some first) :
    localGateway pools id p = some first ↔
    ∀ address ∈ configuredGateway pools id, address = first := by
  rw [localGateway]
  cases configuredGateway pools id with
  | none => simp [hfirst]
  | some configured => simp

section Agreement

variable {intents : List (Uuid × List GatewayIntent × List EgressIntent)}
variable {plan : L3GatewayExecutionPlan}
variable (hintents : compileL3GatewayIntents gateway attachments realms pools = .ok intents)
variable (hplan : compileL3GatewayExecutionPlan gateway attachments (realmMap realms) = .ok plan)

include hintents in
theorem mem_intents :
    ∃ prefixes, realmPrefixes gateway realms [] = .ok prefixes ∧
      ∀ entry, entry ∈ intents ↔
        ∃ id ∈ attachedRealms gateway attachments,
          realmIntents gateway pools prefixes (attachedRealms gateway attachments) id
            = .ok entry := by
  simp only [compileL3GatewayIntents] at hintents
  split_ifs at hintents
  obtain ⟨prefixes, hprefixes, h⟩ := except_bind_eq_ok.mp hintents
  exact ⟨prefixes, hprefixes, fun entry => mem_of_except_mapM h⟩

include hintents in
theorem entry_of_attached {id : Uuid} (hid : id ∈ attachedRealms gateway attachments) :
    ∃ entry ∈ intents, entry.1 = id := by
  simp only [compileL3GatewayIntents] at hintents
  split_ifs at hintents
  obtain ⟨prefixes, _, h⟩ := except_bind_eq_ok.mp hintents
  obtain ⟨entry, hentry, hok⟩ := except_mapM_ok_of_mem h hid
  exact ⟨entry, hentry, (realmIntents_ok hok).1⟩

include hintents hplan in
theorem realms_agree (id : Uuid) :
    (∃ entry ∈ intents, entry.1 = id) ↔ ∃ a ∈ plan.attachments, a.realmId = id := by
  constructor
  · rintro ⟨entry, hentry, rfl⟩
    obtain ⟨prefixes, _, hmem⟩ := mem_intents hintents
    obtain ⟨id, hid, hok⟩ := (hmem entry).mp hentry
    rw [(realmIntents_ok hok).1]
    exact answers_of_attached hplan hid
  · rintro ⟨a, ha, rfl⟩
    obtain ⟨attachment, hmem, hactive, hok⟩ := (mem_attachments_of_plan hplan).mp ha
    obtain ⟨hproject, hrealm, _⟩ := executionAttachment_ok hok
    exact entry_of_attached hintents
      (mem_attachedRealms.mpr ⟨attachment, hmem, hproject, hactive, hrealm.symm⟩)

include hplan in
theorem answers_of_mem {a : L3GatewayExecutionAttachment} (ha : a ∈ plan.attachments) :
    Answers gateway realms a.realmId a.realmPrefix a.gatewayAddress := by
  obtain ⟨attachment, _, _, hok⟩ := (mem_attachments_of_plan hplan).mp ha
  exact (executionAttachment_ok hok).2.2

include hintents hplan in
/-- **The two compilers agree on next hops** exactly when no realm has a route,
or the pools configure first hosts only. -/
theorem next_hops_agree_iff :
    NextHopsAgree intents plan ↔ (attachedRealms gateway attachments).length ≤ 1 ∨
      ConfiguresFirstHosts gateway attachments realms pools := by
  obtain ⟨prefixes, hprefixes, hmem⟩ := mem_intents hintents
  constructor
  · rintro ⟨_, hhops⟩
    refine (Nat.lt_or_ge 1 (attachedRealms gateway attachments).length).elim
      (fun hmany => Or.inr ?_) Or.inl
    intro id hid address haddress realm hrealm
    obtain ⟨a, ha, rfl⟩ := answers_of_attached hplan hid
    have hanswers := answers_of_mem hplan ha
    obtain ⟨entry, hentry, hid'⟩ := entry_of_attached hintents hid
    obtain ⟨id', _, hok⟩ := (hmem entry).mp hentry
    obtain ⟨hself, p, local', hp, hlocal, hroutes, hnone⟩ := realmIntents_ok hok
    obtain rfl : id' = a.realmId := hself.symm.trans hid'
    -- there is another realm, so this one has a route
    obtain ⟨other, hother, hne⟩ := attachedRealms_other hmany a.realmId
    have hroute : entry.2.1 ≠ [] := by
      rw [Ne, hnone]
      exact List.ne_nil_of_mem (List.mem_filter.mpr ⟨hother, by simp [hne]⟩)
    obtain ⟨route, hrouteMem⟩ := List.exists_mem_of_ne_nil _ hroute
    have hagree : local' = a.gatewayAddress :=
      (hroutes route hrouteMem).symm.trans (hhops entry hentry a ha hid'.symm route hrouteMem)
    obtain rfl : p = a.realmPrefix :=
      Option.some.inj (hp.symm.trans (hanswers.lookup hprefixes))
    obtain ⟨realm', hmap, _, hparse⟩ := hanswers.known
    obtain rfl : realm' = realm := Option.some.inj (hmap.symm.trans hrealm)
    rw [hparse, Option.bind_some, hanswers.first,
      (localGateway_eq_first_iff hanswers.first).mp (hagree ▸ hlocal) address haddress]
  · intro hcondition
    refine ⟨realms_agree hintents hplan, ?_⟩
    intro entry hentry a ha hid route hroute
    obtain ⟨id, hattached, hok⟩ := (hmem entry).mp hentry
    obtain ⟨hself, p, local', hp, hlocal, hroutes, hnone⟩ := realmIntents_ok hok
    obtain rfl : a.realmId = id := hid.trans hself
    have hanswers := answers_of_mem hplan ha
    rcases hcondition with hsole | hfirst
    · rw [hnone.mpr (attachedRealms_sole hsole hattached)] at hroute
      exact absurd hroute List.not_mem_nil
    · obtain rfl : p = a.realmPrefix :=
        Option.some.inj (hp.symm.trans (hanswers.lookup hprefixes))
      obtain ⟨realm, hmap, _, hparse⟩ := hanswers.known
      have hconfigured :
          ∀ address ∈ configuredGateway pools a.realmId, address = a.gatewayAddress := by
        intro address haddress
        have h := hfirst a.realmId hattached address haddress realm hmap
        rw [hparse, Option.bind_some, hanswers.first] at h
        exact (Option.some.inj h).symm
      have hagree := (localGateway_eq_first_iff hanswers.first).mpr hconfigured
      rw [hroutes route hroute]
      exact Option.some.inj (hlocal.symm.trans hagree)

end Agreement

def sampleGateway : CanonicalL3GatewayRecord :=
  { id := "gateway"
    projectId := "project"
    name := "edge"
    externalRealmId := none
    enableSnat := false
    generation := 1
    state := .active }

def sampleAttachment (id realmId : Uuid) : CanonicalL3GatewayAttachmentRecord :=
  { id := id
    gatewayId := "gateway"
    realmId := realmId
    projectId := "project"
    generation := 1
    state := .active }

def sampleRealm (id : Uuid) (prefixText : String) : CanonicalAddressRealmRecord :=
  { id := id
    networkId := "network"
    projectId := "project"
    prefixText := prefixText
    overlappingPrefixes := false
    generation := 1
    state := .active }

def samplePool (gateway : Ipv4Addr) : CanonicalAddressPoolRecord :=
  { id := "pool"
    realmId := "front"
    projectId := "project"
    prefixText := "10.0.0.0/24"
    gateway := some gateway
    firstUsable := 0x0a000002
    lastUsable := 0x0a0000fa
    generation := 1
    state := .active }

def sampleAttachments : List CanonicalL3GatewayAttachmentRecord :=
  [sampleAttachment "a" "front", sampleAttachment "b" "back"]

def sampleRealms : List CanonicalAddressRealmRecord :=
  [sampleRealm "front" "10.0.0.0/24", sampleRealm "back" "10.1.0.0/24"]

def samplePlan : L3GatewayExecutionPlan :=
  { gatewayId := "gateway"
    projectId := "project"
    gatewayGeneration := 1
    attachments :=
      [⟨"a", 1, "front", 1, ⟨0x0a000000, 24⟩, 0x0a000001⟩,
        ⟨"b", 1, "back", 1, ⟨0x0a010000, 24⟩, 0x0a010001⟩]
    externalRealmId := none
    externalRealmPrefix := none
    externalRealmGeneration := none
    enableSnat := false }

theorem samplePlan_compiled :
    compileL3GatewayExecutionPlan sampleGateway sampleAttachments (realmMap sampleRealms)
      = .ok samplePlan := by
  decide +kernel

/-- Without configured gateways the two results agree. -/
theorem next_hops_agree_without_pools :
    NextHopsAgree
      [("back", [⟨⟨0x0a000000, 24⟩, 0x0a010001, false⟩], []),
        ("front", [⟨⟨0x0a010000, 24⟩, 0x0a000001, false⟩], [])]
      samplePlan := by
  have hintents :
      compileL3GatewayIntents sampleGateway sampleAttachments sampleRealms (fun _ => none)
        = .ok
          [("back", [⟨⟨0x0a000000, 24⟩, 0x0a010001, false⟩], []),
            ("front", [⟨⟨0x0a010000, 24⟩, 0x0a000001, false⟩], [])] := by
    decide +kernel
  refine (next_hops_agree_iff hintents samplePlan_compiled).mpr (Or.inr ?_)
  intro id _ address haddress
  simp [configuredGateway] at haddress

/-- A realm whose pool configures its last address routes to an address that
nobody answers at. -/
theorem configured_gateway_unanswered :
    ∃ pools intents,
      compileL3GatewayIntents sampleGateway sampleAttachments sampleRealms pools = .ok intents ∧
        compileL3GatewayExecutionPlan sampleGateway sampleAttachments (realmMap sampleRealms)
          = .ok samplePlan ∧
        ¬ NextHopsAgree intents samplePlan := by
  refine ⟨fun id => if id = "front" then some [samplePool 0x0a0000fe] else none,
    [("back", [⟨⟨0x0a000000, 24⟩, 0x0a010001, false⟩], []),
      ("front", [⟨⟨0x0a010000, 24⟩, 0x0a0000fe, false⟩], [])],
    by decide +kernel, samplePlan_compiled, ?_⟩
  rintro ⟨_, hhops⟩
  have h := hhops ("front", [⟨⟨0x0a010000, 24⟩, 0x0a0000fe, false⟩], []) (by decide +kernel)
    ⟨"a", 1, "front", 1, ⟨0x0a000000, 24⟩, 0x0a000001⟩ (by decide +kernel) rfl
    ⟨⟨0x0a010000, 24⟩, 0x0a0000fe, false⟩ (by decide +kernel)
  exact absurd h (by decide)

end Gateways
end O3k
