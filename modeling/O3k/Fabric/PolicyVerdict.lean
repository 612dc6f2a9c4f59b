import O3k.Fabric.PolicyRules

/-!
# What the chain of a realm decides

The policy of a realm is a conjunction: the egress policy of the source and the
ingress policy of the destination must both allow a packet.  The chain decides
by its first match, over the rules of all endpoints.
-/

namespace O3k
namespace Fabric

open Relational Network Semantics

/-- `protocol_matches`, on the number that an IP header carries. -/
def protocolMatches (policy : PolicyIntent) (protocol : Nat) : Bool :=
  match policy.protocol with
  | .any => true
  | .icmp => protocol = 1
  | .tcp => protocol = 6
  | .udp => protocol = 17

def portsMatch (policy : PolicyIntent) (destinationPort : Nat) : Bool :=
  match policy.ports with
  | none => true
  | some ports => ports.start ≤ destinationPort && destinationPort ≤ ports.stop

def prefixMatches (policy : PolicyIntent) (address : Ipv4Addr) : Bool :=
  (policy.source.or policy.destination).all fun block => inBlock block address

/-- The side of a packet that a direction is about, and the other. -/
def sideOf (direction : PolicyDirection) (packet : Packet) : Ipv4Addr :=
  match direction with
  | .ingress => packet.destination
  | .egress => packet.source

def peerOf (direction : PolicyDirection) (packet : Packet) : Ipv4Addr :=
  match direction with
  | .ingress => packet.source
  | .egress => packet.destination

/-- The policy is one of the endpoint in the direction, and matches the packet. -/
def appliesTo
    (endpointId : Uuid) (direction : PolicyDirection) (packet : Packet) (policy : PolicyIntent) :
    Bool :=
  policy.endpointId = endpointId && policy.direction = direction &&
    protocolMatches policy packet.protocol && portsMatch policy packet.destinationPort &&
      prefixMatches policy (peerOf direction packet)

section Plan

variable (plan : NamespacedRoutedFabricPlan)

/-- What an endpoint does with a packet that none of its policies matches. -/
def defaultAllows (endpointId : Uuid) : Bool :=
  (plan.policyDefaults.find? (·.endpointId = endpointId)).all (·.unmatchedAction = .allow)

/-- **The policy of an endpoint**: a matching denial denies, else a matching
allowance allows, else the default of the endpoint decides. -/
def endpointAllows (endpointId : Uuid) (direction : PolicyDirection) (packet : Packet) : Bool :=
  let matching := plan.policies.filter (appliesTo endpointId direction packet)
  if matching.any (·.action = .deny) then false
  else if matching.any (·.action = .allow) then true
  else defaultAllows plan endpointId

/-- **Both sides allow the packet**: each endpoint at its source and each at
its destination. -/
def bothSidesAllow (packet : Packet) : Prop :=
  ∀ direction endpointId,
    endpointAddress plan endpointId = some (sideOf direction packet) →
      endpointAllows plan endpointId direction packet = true

/-- The policy matches the packet where its endpoint is. -/
def fires (packet : Packet) (policy : PolicyIntent) : Bool :=
  endpointAddress plan policy.endpointId = some (sideOf policy.direction packet) &&
    appliesTo policy.endpointId policy.direction packet policy

/-- The endpoint is at the packet's side of the direction, denies by default,
and has no allowance of its own for the packet. -/
def needsAllowance (packet : Packet) (direction : PolicyDirection) (endpointId : Uuid) : Prop :=
  endpointAddress plan endpointId = some (sideOf direction packet) ∧
    defaultAllows plan endpointId = false ∧
    ∀ policy ∈ plan.policies, appliesTo endpointId direction packet policy = false

/-- **One side stands in for the other**: no denial matches, an allowance does,
and an endpoint that denies by default has none for its own side. -/
def standsIn (packet : Packet) : Prop :=
  (∀ policy ∈ plan.policies, fires plan packet policy = true → policy.action = .allow) ∧
    (∃ policy ∈ plan.policies, fires plan packet policy = true) ∧
    ∃ direction endpointId, needsAllowance plan packet direction endpointId

end Plan

section Rules

variable {plan : NamespacedRoutedFabricPlan} {packet : Packet} {policy : PolicyIntent}

theorem protocolTests_hold (hports :
      ∀ ports ∈ policy.ports,
        ports.start ≤ ports.stop ∧ policy.protocol ≠ .any ∧ policy.protocol ≠ .icmp) :
    (protocolTests policy).all (NftMatch.holds "new" packet) =
      (protocolMatches policy packet.protocol && portsMatch policy packet.destinationPort) := by
  have hnone : policy.protocol = .any → policy.ports = none := by
    intro hany
    refine Option.eq_none_iff_forall_not_mem.mpr fun ports hmem => ?_
    exact (hports ports hmem).2.1 hany
  unfold protocolTests protocolMatches portsMatch policyProtocol
  cases hprotocol : policy.protocol with
  | any => simp [hnone hprotocol]
  | tcp => cases policy.ports <;> simp [NftMatch.holds, protocolNumber, @eq_comm _ 6]
  | udp => cases policy.ports <;> simp [NftMatch.holds, protocolNumber, @eq_comm _ 17]
  | icmp => cases policy.ports <;> simp [NftMatch.holds, protocolNumber, @eq_comm _ 1]

theorem peerTests_hold :
    (peerTests policy).all (NftMatch.holds "new" packet) =
      prefixMatches policy (peerOf policy.direction packet) := by
  unfold peerTests prefixMatches
  cases policy.source.or policy.destination with
  | none => rfl
  | some block => cases policy.direction <;> simp [NftMatch.holds, peerOf]

theorem endpointTest_holds (address : Ipv4Addr) :
    (endpointTest address policy).holds "new" packet =
      decide (address = sideOf policy.direction packet) := by
  unfold endpointTest
  cases policy.direction <;> simp [NftMatch.holds, sideOf, @eq_comm _ address]

theorem policyRule_hits (hports :
      ∀ ports ∈ policy.ports,
        ports.start ≤ ports.stop ∧ policy.protocol ≠ .any ∧ policy.protocol ≠ .icmp)
    (marker : String) (index : Nat) :
    ((endpointAddress plan policy.endpointId).map fun address =>
        policyRule marker address index policy).any (NftRule.hits "new" packet) =
      fires plan packet policy := by
  cases haddress : endpointAddress plan policy.endpointId with
  | none => simp [fires, haddress]
  | some address =>
    simp only [fires, appliesTo, haddress, Option.map_some, Option.any_some, NftRule.hits,
      policyRule, List.all_cons, List.all_append, endpointTest_holds, peerTests_hold,
      protocolTests_hold hports, Option.some.injEq, decide_true, Bool.true_and]
    rw [Bool.and_comm (prefixMatches _ _)]

end Rules

section Chain

variable {plan : NamespacedRoutedFabricPlan} {packet : Packet}

theorem verdictOf_eq_drop_iff {action : PolicyAction} :
    verdictOf action = .drop ↔ action = .deny := by
  cases action <;> simp [verdictOf]

theorem policyRules_verdict (hvalid : policyPlanIsValid plan) (otherwise : NftVerdict) :
    chainVerdict (NftRule.hits "new" packet) NftRule.verdict otherwise
        (((sortBy PolicyIntent.sortKey plan.policies).zipIdx.map fun (policy, index) =>
          (endpointAddress plan policy.endpointId).map fun address =>
            policyRule "o3k-p11-policy" address index policy).reduceOption) =
      chainVerdict (fires plan packet) (fun policy => verdictOf policy.action) otherwise
        (sortBy PolicyIntent.sortKey plan.policies) := by
  obtain ⟨_, _, _, hpolicies⟩ := hvalid
  have hfst :
      (sortBy PolicyIntent.sortKey plan.policies).zipIdx.map Prod.fst =
        sortBy PolicyIntent.sortKey plan.policies :=
    List.zipIdx_map_fst 0 _
  have hhits : ∀ x ∈ (sortBy PolicyIntent.sortKey plan.policies).zipIdx,
      fires plan packet x.1 =
        ((endpointAddress plan x.1.endpointId).map fun address =>
          policyRule "o3k-p11-policy" address x.2 x.1).any (NftRule.hits "new" packet) := by
    intro x hmem
    obtain ⟨_, _, _, hports, _⟩ :=
      hpolicies x.1 (mem_sortBy.mp (List.fst_mem_of_mem_zipIdx hmem))
    exact (policyRule_hits hports _ x.2).symm
  have hverdict : ∀ x ∈ (sortBy PolicyIntent.sortKey plan.policies).zipIdx,
      ∀ rule ∈ (endpointAddress plan x.1.endpointId).map fun address =>
          policyRule "o3k-p11-policy" address x.2 x.1,
        verdictOf x.1.action = rule.verdict := by
    intro x _ rule hrule
    obtain ⟨address, _, rfl⟩ := Option.map_eq_some_iff.mp hrule
    rfl
  conv_rhs => rw [← hfst, chainVerdict_map]
  rw [← chainVerdict_filterMap hhits hverdict]
  unfold List.reduceOption
  rw [List.filterMap_map]
  rfl

theorem denials_first (policies : List PolicyIntent) :
    (sortBy PolicyIntent.sortKey policies).Pairwise fun a b =>
      verdictOf b.action = .drop → verdictOf a.action = .drop := by
  refine (sortBy_sorted policies).imp fun {a b} hle hb => ?_
  rw [verdictOf_eq_drop_iff] at hb ⊢
  rcases Prod.Lex.le_iff.mp hle with hlt | ⟨heq, _⟩
  · simp [PolicyIntent.sortKey, hb, Bool.lt_iff] at hlt
  · simpa [PolicyIntent.sortKey, hb] using heq

theorem defaultAllows_eq_false_iff (hvalid : policyPlanIsValid plan) {endpointId : Uuid} :
    defaultAllows plan endpointId = false ↔
      ∃ default ∈ plan.policyDefaults,
        default.endpointId = endpointId ∧ default.unmatchedAction = .deny := by
  obtain ⟨_, _, hnodup, _⟩ := hvalid
  unfold defaultAllows
  constructor
  · intro h
    cases hfind : plan.policyDefaults.find? (·.endpointId = endpointId) with
    | none => simp [hfind] at h
    | some default =>
      refine ⟨default, List.mem_of_find?_eq_some hfind, by simpa using List.find?_some hfind, ?_⟩
      cases haction : default.unmatchedAction with
      | allow => simp [hfind, haction] at h
      | deny => rfl
  · rintro ⟨default, hmem, rfl, hdeny⟩
    obtain ⟨found, hfind⟩ :
        ∃ found, plan.policyDefaults.find? (·.endpointId = default.endpointId) = some found :=
      Option.isSome_iff_exists.mp (List.find?_isSome.mpr ⟨default, hmem, decide_eq_true rfl⟩)
    have hkey : found.endpointId = default.endpointId := by
      simpa using List.find?_some hfind
    rw [hfind, List.inj_on_of_nodup_map hnodup (List.mem_of_find?_eq_some hfind) hmem hkey]
    simp [hdeny]

def defaultRules (plan : NamespacedRoutedFabricPlan) : List NftRule :=
  (plan.policyDefaults.flatMap fun default =>
    match endpointAddress plan default.endpointId with
    | none => [none]
    | some address =>
      if default.unmatchedAction = .deny then
        (denyRules "o3k-p11-policy-default" address).map some
      else []).reduceOption

theorem mem_defaultRules {rule : NftRule} :
    rule ∈ defaultRules plan ↔
      ∃ default ∈ plan.policyDefaults, default.unmatchedAction = .deny ∧
        ∃ address, endpointAddress plan default.endpointId = some address ∧
          rule ∈ denyRules "o3k-p11-policy-default" address := by
  unfold defaultRules
  rw [List.reduceOption_mem_iff, List.mem_flatMap]
  refine exists_congr fun default => and_congr_right fun _ => ?_
  cases endpointAddress plan default.endpointId with
  | none => simp
  | some address =>
    by_cases hdeny : default.unmatchedAction = .deny
    · simp [hdeny]
    · simp [hdeny]

theorem defaultRules_hit (hvalid : policyPlanIsValid plan) :
    (∃ rule ∈ defaultRules plan, rule.hits "new" packet = true) ↔
      ∃ direction endpointId,
        endpointAddress plan endpointId = some (sideOf direction packet) ∧
          defaultAllows plan endpointId = false := by
  constructor
  · rintro ⟨rule, hrule, hhits⟩
    obtain ⟨default, hmem, hdeny, address, haddress, hrule⟩ := mem_defaultRules.mp hrule
    have hdefault : defaultAllows plan default.endpointId = false :=
      (defaultAllows_eq_false_iff hvalid).mpr ⟨default, hmem, rfl, hdeny⟩
    simp only [denyRules, List.mem_cons, List.not_mem_nil, or_false] at hrule
    rcases hrule with rfl | rfl
    · refine ⟨.ingress, default.endpointId, ?_, hdefault⟩
      simpa [NftRule.hits, NftMatch.holds, sideOf, haddress, eq_comm] using hhits
    · refine ⟨.egress, default.endpointId, ?_, hdefault⟩
      simpa [NftRule.hits, NftMatch.holds, sideOf, haddress, eq_comm] using hhits
  · rintro ⟨direction, endpointId, haddress, hdefault⟩
    obtain ⟨default, hmem, rfl, hdeny⟩ := (defaultAllows_eq_false_iff hvalid).mp hdefault
    cases direction with
    | ingress =>
      refine ⟨⟨[.daddr packet.destination], .drop, "o3k-p11-policy-default"⟩,
        mem_defaultRules.mpr ⟨default, hmem, hdeny, _, haddress, ?_⟩, ?_⟩
      · exact List.mem_cons_self
      · simp [NftRule.hits, NftMatch.holds]
    | egress =>
      refine ⟨⟨[.saddr packet.source], .drop, "o3k-p11-policy-default"⟩,
        mem_defaultRules.mpr ⟨default, hmem, hdeny, _, haddress, ?_⟩, ?_⟩
      · exact List.mem_cons_of_mem _ List.mem_cons_self
      · simp [NftRule.hits, NftMatch.holds]

theorem verdict_of_mem_defaultRules {rule : NftRule} (h : rule ∈ defaultRules plan) :
    rule.verdict = .drop := by
  obtain ⟨_, _, _, address, _, hrule⟩ := mem_defaultRules.mp h
  simp only [denyRules, List.mem_cons, List.not_mem_nil, or_false] at hrule
  rcases hrule with rfl | rfl
  · rfl
  · rfl

/-- **What the chain drops**: what a denial matches, and what no policy matches
when an endpoint at either side denies by default. -/
theorem forwardChain_drops (hvalid : policyPlanIsValid plan) :
    evaluate "new" packet (forwardChain plan) = .drop ↔
      (∃ policy ∈ plan.policies, policy.action = .deny ∧ fires plan packet policy = true) ∨
        ((∃ direction endpointId,
            endpointAddress plan endpointId = some (sideOf direction packet) ∧
              defaultAllows plan endpointId = false) ∧
          ∀ policy ∈ plan.policies, fires plan packet policy = false) := by
  have hestablished : (establishedRule "o3k-p11-policy").hits "new" packet = false := by
    simp [NftRule.hits, establishedRule, NftMatch.holds]
  have hdefaults :
      chainVerdict (NftRule.hits "new" packet) NftRule.verdict .accept (defaultRules plan) =
          .drop ↔
        ∃ direction endpointId,
          endpointAddress plan endpointId = some (sideOf direction packet) ∧
            defaultAllows plan endpointId = false := by
    rw [chainVerdict_of_forall fun _ => verdict_of_mem_defaultRules, ← defaultRules_hit hvalid]
    split_ifs with h <;> simp [h]
  unfold evaluate forwardChain policySteps forwardSteps
  rw [List.reduceOption_cons_of_some, chainVerdict_cons_of_not_hits hestablished,
    List.reduceOption_append, chainVerdict_append, policyRules_verdict hvalid,
    chainVerdict_of_ordered (denials_first plan.policies)]
  simp only [mem_sortBy, verdictOf_eq_drop_iff]
  exact or_congr_right (and_congr_left' hdefaults)

end Chain

section Policy

variable {plan : NamespacedRoutedFabricPlan} {packet : Packet}

/-- **What an endpoint refuses**: what its denials match, and, where it denies by
default, what none of its policies matches. -/
theorem endpointAllows_eq_false_iff {endpointId : Uuid} {direction : PolicyDirection} :
    endpointAllows plan endpointId direction packet = false ↔
      (∃ policy ∈ plan.policies,
          policy.action = .deny ∧ appliesTo endpointId direction packet policy = true) ∨
        (defaultAllows plan endpointId = false ∧
          ∀ policy ∈ plan.policies, appliesTo endpointId direction packet policy = false) := by
  unfold endpointAllows
  dsimp only
  simp only [List.any_filter, List.any_eq_true, Bool.and_eq_true, decide_eq_true_eq]
  split_ifs with hdeny hallow
  · obtain ⟨policy, hmem, happlies, haction⟩ := hdeny
    exact iff_of_true rfl (Or.inl ⟨policy, hmem, haction, happlies⟩)
  · obtain ⟨policy, hmem, happlies, _⟩ := hallow
    refine iff_of_false (by simp) ?_
    rintro (⟨denial, hdenial, haction, hmatches⟩ | ⟨_, hnone⟩)
    · exact hdeny ⟨denial, hdenial, hmatches, haction⟩
    · exact Bool.false_ne_true ((hnone policy hmem).symm.trans happlies)
  · have hnone : ∀ policy ∈ plan.policies,
        appliesTo endpointId direction packet policy = false := by
      intro policy hmem
      by_contra happlies
      rw [Bool.not_eq_false] at happlies
      cases haction : policy.action with
      | allow => exact hallow ⟨policy, hmem, happlies, haction⟩
      | deny => exact hdeny ⟨policy, hmem, happlies, haction⟩
    constructor
    · exact fun hdefault => Or.inr ⟨hdefault, hnone⟩
    · rintro (⟨denial, hdenial, haction, hmatches⟩ | ⟨hdefault, _⟩)
      · exact absurd ⟨denial, hdenial, hmatches, haction⟩ hdeny
      · exact hdefault

theorem fires_of_appliesTo {policy : PolicyIntent} {endpointId : Uuid} {direction : PolicyDirection}
    (haddress : endpointAddress plan endpointId = some (sideOf direction packet))
    (happlies : appliesTo endpointId direction packet policy = true) :
    fires plan packet policy = true := by
  have hown : policy.endpointId = endpointId ∧ policy.direction = direction := by
    simp only [appliesTo, Bool.and_eq_true, decide_eq_true_eq] at happlies
    exact happlies.1.1.1
  obtain ⟨rfl, rfl⟩ := hown
  simp [fires, haddress, happlies]

/-- **What the two sides refuse.** -/
theorem not_bothSidesAllow_iff :
    ¬ bothSidesAllow plan packet ↔
      (∃ policy ∈ plan.policies, policy.action = .deny ∧ fires plan packet policy = true) ∨
        ∃ direction endpointId, needsAllowance plan packet direction endpointId := by
  simp only [bothSidesAllow, not_forall, Bool.not_eq_true, endpointAllows_eq_false_iff,
    needsAllowance]
  constructor
  · rintro ⟨direction, endpointId, haddress, ⟨policy, hmem, haction, happlies⟩ | hdefault⟩
    · exact Or.inl ⟨policy, hmem, haction, fires_of_appliesTo haddress happlies⟩
    · exact Or.inr ⟨direction, endpointId, haddress, hdefault⟩
  · rintro (⟨policy, hmem, haction, hfires⟩ | ⟨direction, endpointId, haddress, hdefault⟩)
    · simp only [fires, Bool.and_eq_true, decide_eq_true_eq] at hfires
      exact ⟨policy.direction, policy.endpointId, hfires.1,
        Or.inl ⟨policy, hmem, haction, hfires.2⟩⟩
    · exact ⟨direction, endpointId, haddress, Or.inr hdefault⟩

end Policy

theorem accept_iff_ne_drop {verdict : NftVerdict} : verdict = .accept ↔ verdict ≠ .drop := by
  cases verdict <;> simp

/-- **The chain implements the policy**, except where one side stands in for the
other: then, and only then, an allowance lets a packet past a default that
denies it. -/
theorem chain_implements_policy
    (plan : NamespacedRoutedFabricPlan) (packet : Packet) (h : validatePolicyPlan plan = .ok ()) :
    (evaluate "new" packet (forwardChain plan) = .accept ↔ bothSidesAllow plan packet) ↔
      ¬ standsIn plan packet := by
  have hvalid := validatePolicyPlan_eq_ok.mp h
  rw [accept_iff_ne_drop, ne_eq, forwardChain_drops hvalid, not_iff_comm, not_bothSidesAllow_iff]
  constructor
  · rintro hagree ⟨hallowed, ⟨policy, hmem, hfires⟩, direction, endpointId, hneeds⟩
    rcases hagree.mp (Or.inr ⟨direction, endpointId, hneeds⟩) with
      ⟨denial, hdenial, haction, hdenies⟩ | ⟨_, hnone⟩
    · cases haction.symm.trans (hallowed denial hdenial hdenies)
    · exact Bool.false_ne_true ((hnone policy hmem).symm.trans hfires)
  · intro hstands
    constructor
    · rintro (hdenied | ⟨direction, endpointId, hneeds⟩)
      · exact Or.inl hdenied
      by_cases hdenied :
          ∃ policy ∈ plan.policies, policy.action = .deny ∧ fires plan packet policy = true
      · exact Or.inl hdenied
      refine Or.inr ⟨⟨direction, endpointId, hneeds.1, hneeds.2.1⟩, fun policy hmem => ?_⟩
      by_contra hfires
      rw [Bool.not_eq_false] at hfires
      refine hstands ⟨fun other hother hotherFires => ?_, ⟨policy, hmem, hfires⟩, direction,
        endpointId, hneeds⟩
      cases haction : other.action with
      | allow => rfl
      | deny => exact absurd ⟨other, hother, haction, hotherFires⟩ hdenied
    · rintro (hdenied | ⟨⟨direction, endpointId, haddress, hdefault⟩, hnone⟩)
      · exact Or.inl hdenied
      refine Or.inr ⟨direction, endpointId, haddress, hdefault, fun policy hmem => ?_⟩
      by_contra happlies
      rw [Bool.not_eq_false] at happlies
      exact Bool.false_ne_true
        ((hnone policy hmem).symm.trans (fires_of_appliesTo haddress happlies))

section Standing

def openSender : EndpointLocation :=
  ⟨"44444444-4444-4444-8444-444444444444", "p", "11111111-1111-4111-8111-111111111111",
    0x0a000005, "02:00:00:00:00:05", "alpha", 1, 1⟩

def closedReceiver : EndpointLocation :=
  ⟨"55555555-5555-4555-8555-555555555555", "p", "11111111-1111-4111-8111-111111111111",
    0x0a000006, "02:00:00:00:00:06", "alpha", 1, 1⟩

/-- The first endpoint may send anything; the second denies by default. -/
def openSenderPlan : NamespacedRoutedFabricPlan where
  localHost := "alpha"
  localFabricTransportIp := 0x0a090001
  localFabricGeneration := 1
  localUnderlayMtu := 1500
  localFabricMtu := 1440
  realmId := "11111111-1111-4111-8111-111111111111"
  realmPrefix := ⟨0x0a000000, 24⟩
  encapsulation :=
    ⟨"33333333-3333-4333-8333-333333333333", "11111111-1111-4111-8111-111111111111", .vxlan, 7, 1⟩
  directoryGeneration := 1
  directory :=
    ⟨"11111111-1111-4111-8111-111111111111", ⟨0x0a000000, 24⟩, 1, "02:c3:6f:9e:b6:d4",
      [openSender, closedReceiver]⟩
  proxyMac := "02:c3:6f:9e:b6:d4"
  tenantMtu := 1390
  policyGeneration := 2
  policies :=
    [⟨"66666666-6666-4666-8666-666666666666", openSender.endpointId, .egress, .any, none, none,
      none, .allow⟩]
  policyDefaults :=
    [⟨"77777777-7777-4777-8777-777777777777", closedReceiver.endpointId, .deny, .stateful, 1⟩]
  publicBindings := []
  dhcp := none
  routes := []
  peers := []

/-- A packet from the first endpoint to the second. -/
def probe : Packet where
  source := 0x0a000005
  destination := 0x0a000006
  protocol := 6
  destinationPort := 22

/-- The plan is accepted, so that the theorem is about it. -/
theorem chain_implements_policy_of_open_sender :
    validatePolicyPlan openSenderPlan = .ok () ∧
      ((evaluate "new" probe (forwardChain openSenderPlan) = .accept ↔
          bothSidesAllow openSenderPlan probe) ↔
        ¬ standsIn openSenderPlan probe) :=
  ⟨by decide, chain_implements_policy openSenderPlan probe (by decide)⟩

/-- The allowance of the sender lets the packet past the default of the receiver. -/
theorem allowance_overrides_default :
    ¬ ∀ plan packet,
      validatePolicyPlan plan = .ok () →
        (evaluate "new" packet (forwardChain plan) = .accept ↔ bothSidesAllow plan packet) := by
  intro h
  have haccept : evaluate "new" probe (forwardChain openSenderPlan) = .accept := by
    decide
  have hallows := (h openSenderPlan probe (by decide)).mp haccept
  have hrefuses :
      endpointAllows openSenderPlan closedReceiver.endpointId .ingress probe = false := by
    decide
  have haddress :
      endpointAddress openSenderPlan closedReceiver.endpointId =
        some (sideOf .ingress probe) := by
    decide
  exact Bool.false_ne_true
    (hrefuses.symm.trans (hallows .ingress closedReceiver.endpointId haddress))

end Standing

end Fabric
end O3k
