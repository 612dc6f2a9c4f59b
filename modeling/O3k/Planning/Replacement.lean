import O3k.Planning.Attachment
import O3k.Planning.Encoding

/-!
# Attaching a policy twice

The intents and the rules of the fabric are replaced, so an earlier graph
leaves nothing there.  The generations are only added to, and the policy
generation of the fabric only grows; there an earlier graph stays visible.
-/

namespace O3k
namespace Planning

open Relational Relational.Transaction Execution Gateways
open Network hiding PolicyIntent
open Fabric hiding NetworkPlanError

/-- The generation that a graph gives an identity: that of its last row. -/
def PolicyGraph.recorded (graph : PolicyGraph) (id : Uuid) : Option (Uuid × Nat) :=
  (graph.generations.filter (·.1 = id)).getLast?

variable (generations : Table (Prod.fst : Uuid × Nat → Uuid))

theorem get?_recordGenerations (graph : PolicyGraph) (id : Uuid) :
    (recordGenerations generations graph).get? id = (graph.recorded id).or (generations.get? id) :=
  Table.get?_foldl_put graph.generations generations id

/-- What only the earlier graph names has its generation in the plan already. -/
def GenerationsKnown (earlier later : PolicyGraph) : Prop :=
  ∀ id, later.recorded id = none →
    ∀ entry ∈ earlier.recorded id, generations.get? id = some entry

theorem recordGenerations_twice_iff (earlier later : PolicyGraph) :
    recordGenerations (recordGenerations generations earlier) later
        = recordGenerations generations later ↔ GenerationsKnown generations earlier later := by
  constructor
  · intro h id hlater entry hentry
    have hget := congrArg (fun t => t.get? id) h
    simpa [get?_recordGenerations, hlater, Option.mem_def.mp hentry, eq_comm] using hget
  · intro h
    refine Table.ext_get? (fun id => ?_)
    rw [get?_recordGenerations, get?_recordGenerations, get?_recordGenerations]
    cases hlater : later.recorded id with
    | some entry => rfl
    | none =>
      cases hearlier : earlier.recorded id with
      | none => rfl
      | some entry =>
        rw [h id hlater entry hearlier]
        rfl

theorem replacePolicy_twice {lib : PlanLibrary} {endpointId : Uuid}
    {earlier : List NetworkPlanIntent}
    (hearlier : ∀ intent ∈ earlier, intent.isPolicyOf endpointId = true)
    (later intents : List NetworkPlanIntent) :
    replacePolicy lib endpointId later (replacePolicy lib endpointId earlier intents) =
    replacePolicy lib endpointId later intents := by
  have hnone : earlier.filter (!·.isPolicyOf endpointId) = [] := by
    refine List.filter_eq_nil_iff.mpr ?_
    intro intent hintent
    simp [hearlier intent hintent]
  rw [replacePolicy, replacePolicy, replacePolicy, filter_sortBy, List.filter_append, hnone,
    List.filter_filter, List.append_nil, sortBy_sortBy_append]
  simp

theorem Compiled.isPolicyOf {endpoint : CanonicalEndpointRecord} {graph : PolicyGraph}
    {default : Option PolicyDefaultIntent} {rules : List PolicyIntent}
    (h : Compiled endpoint graph default rules) :
    ∀ intent ∈ (default.toList.map .policyDefault ++ rules.map .policy : List NetworkPlanIntent),
      intent.isPolicyOf endpoint.id = true := by
  intro intent hintent
  rcases List.mem_append.mp hintent with hmem | hmem
  · obtain ⟨d, hd, rfl⟩ := List.mem_map.mp hmem
    simpa [NetworkPlanIntent.isPolicyOf] using (h.defaultIsGood d (Option.mem_toList.mp hd)).1
  · obtain ⟨r, hr, rfl⟩ := List.mem_map.mp hmem
    simpa [NetworkPlanIntent.isPolicyOf] using (h.rulesAreGood r hr).1

section Fabric

variable {endpointId : Uuid}

theorem compiledGeneration_eq (graph : PolicyGraph) :
    (∀ current, graph.compiledGeneration current = current) ∨
      ∃ latest, ∀ current, graph.compiledGeneration current = latest := by
  cases h : (graph.generations.map (·.2)).max? with
  | none => exact Or.inl (fun _ => by simp [PolicyGraph.compiledGeneration, h])
  | some latest => exact Or.inr ⟨latest, fun _ => by simp [PolicyGraph.compiledGeneration, h]⟩

/-- The policy generation of the earlier graph is not above that of the later
one. -/
def GenerationCovered (fabric : NamespacedRoutedFabricPlan) (earlier later : PolicyGraph) : Prop :=
  earlier.compiledGeneration fabric.policyGeneration
    ≤ max fabric.policyGeneration (later.compiledGeneration fabric.policyGeneration)

theorem compiledGeneration_twice_iff
    (fabric : NamespacedRoutedFabricPlan) (earlier later : PolicyGraph) :
    max (attachedGeneration fabric earlier)
        (later.compiledGeneration (attachedGeneration fabric earlier))
        = attachedGeneration fabric later ↔ GenerationCovered fabric earlier later := by
  rw [GenerationCovered, attachedGeneration, attachedGeneration]
  rcases compiledGeneration_eq later with hcurrent | ⟨latest, hlatest⟩
  · rw [hcurrent, hcurrent]
    omega
  · rw [hlatest, hlatest]
    omega

theorem filter_ne_append_of_forall {α : Type} {owner : α → Uuid} (xs : List α) {ys : List α}
    (h : ∀ y ∈ ys, owner y = endpointId) :
    (xs.filter (fun x => owner x ≠ endpointId) ++ ys).filter (fun x => owner x ≠ endpointId) =
    xs.filter (fun x => owner x ≠ endpointId) := by
  have hnone : ys.filter (fun x => owner x ≠ endpointId) = [] :=
    List.filter_eq_nil_iff.mpr (fun y hy => by simp [h y hy])
  rw [List.filter_append, hnone, List.append_nil, List.filter_filter]
  simp

section Twice

variable {fabric : NamespacedRoutedFabricPlan} {earlier later : PolicyGraph}
variable {default default' : Option PolicyDefaultIntent} {rules rules' : List PolicyIntent}
variable (hdefault : ∀ d ∈ default, d.endpointId = endpointId)
variable (hrules : ∀ r ∈ rules, r.endpointId = endpointId)

include hrules in
theorem replacedRules_attached :
    replacedRules (attachedFabric fabric endpointId earlier default rules) endpointId rules' =
    replacedRules fabric endpointId rules' :=
  congrArg (· ++ rules') (filter_ne_append_of_forall fabric.policies hrules)

include hdefault in
theorem replacedDefaults_attached :
    replacedDefaults (attachedFabric fabric endpointId earlier default rules) endpointId default' =
    replacedDefaults fabric endpointId default' :=
  congrArg (· ++ default'.toList)
    (filter_ne_append_of_forall fabric.policyDefaults
      (fun d hd => hdefault d (Option.mem_toList.mp hd)))

include hdefault hrules in
theorem accepts_attached_iff :
    Accepts (attachedFabric fabric endpointId earlier default rules) endpointId default' rules' ↔
    Accepts fabric endpointId default' rules' := by
  rw [Accepts, replacedRules_attached hrules, replacedDefaults_attached hdefault]
  exact Iff.rfl

include hdefault hrules in
theorem attachedFabric_twice_iff :
    attachedFabric fabric endpointId later default' rules'
        = attachedFabric (attachedFabric fabric endpointId earlier default rules) endpointId later
          default' rules' ↔ GenerationCovered fabric earlier later := by
  rw [← compiledGeneration_twice_iff, attachedFabric, attachedFabric,
    replacedRules_attached hrules, replacedDefaults_attached hdefault]
  constructor
  · intro h
    exact (congrArg NamespacedRoutedFabricPlan.policyGeneration h).symm
  · intro h
    rw [← h]
    rfl

include hdefault hrules in
/-- A fabric that accepts the later policy takes it after the earlier one: it
has a generation then. -/
theorem attachToFabric_again (later : PolicyGraph) {attached : NamespacedRoutedFabricPlan}
    (hattached : attachToFabric fabric endpointId earlier default rules = some attached)
    (haccepted : Accepts fabric endpointId default' rules') :
    attachToFabric attached endpointId later default' rules' =
    some (attachedFabric attached endpointId later default' rules') := by
  obtain ⟨hpositive, _, rfl⟩ := attachToFabric_eq_some_iff.mp hattached
  have hle : attachedGeneration fabric earlier ≤
      attachedGeneration (attachedFabric fabric endpointId earlier default rules) later :=
    le_max_left _ _
  exact attachToFabric_eq_some_iff.mpr
    ⟨by omega, (accepts_attached_iff hdefault hrules).mpr haccepted, rfl⟩

include hdefault hrules in
/-- **The fabric, twice**: when it accepts the later policy, the second time
gives what the later graph alone gives exactly when its generation covers the
earlier one. -/
theorem attachToFabric_twice_iff (later : PolicyGraph) {attached : NamespacedRoutedFabricPlan}
    (hattached : attachToFabric fabric endpointId earlier default rules = some attached)
    (haccepted : Accepts fabric endpointId default' rules') :
    attachToFabric fabric endpointId later default' rules'
        = some (attachedFabric attached endpointId later default' rules')
      ↔
    GenerationCovered fabric earlier later := by
  obtain ⟨hpositive, _, rfl⟩ := attachToFabric_eq_some_iff.mp hattached
  rw [attachToFabric_eq_some_iff, attachedFabric_twice_iff hdefault hrules]
  simp only [haccepted, true_and]
  refine and_iff_right_of_imp (fun hcovered => ?_)
  rw [← compiledGeneration_twice_iff] at hcovered
  omega

include hdefault hrules in
theorem attachToFabric_refused_again (later : PolicyGraph) {attached : NamespacedRoutedFabricPlan}
    (hattached : attachToFabric fabric endpointId earlier default rules = some attached)
    (hrefused : ¬ Accepts fabric endpointId default' rules') :
    attachToFabric attached endpointId later default' rules' = none := by
  obtain ⟨_, _, rfl⟩ := attachToFabric_eq_some_iff.mp hattached
  exact attachToFabric_of_not_accepts
    ((accepts_attached_iff hdefault hrules).not.mpr hrefused) later

end Twice

end Fabric

section Plan

variable {lib : PlanLibrary} {plan attached : Plan}
variable {endpoint : CanonicalEndpointRecord} {realm : CanonicalAddressRealmRecord}
variable {earlier later : PolicyGraph}

theorem withPolicy_twice_iff {default default' : Option PolicyDefaultIntent}
    {rules rules' : List PolicyIntent} (hcompiled : Compiled endpoint earlier default rules)
    (fabric fabric' fabric'' : Option NamespacedRoutedFabricPlan) :
    withPolicy lib (withPolicy lib plan endpoint.id earlier default rules fabric) endpoint.id later
        default' rules' fabric'
        = withPolicy lib plan endpoint.id later default' rules' fabric''
      ↔
    GenerationsKnown plan.resourceGenerations earlier later ∧ fabric' = fabric'' := by
  rw [← recordGenerations_twice_iff]
  have hintents :
      replacePolicy lib endpoint.id (default'.toList.map .policyDefault ++ rules'.map .policy)
          (withPolicy lib plan endpoint.id earlier default rules fabric).intents
        = replacePolicy lib endpoint.id
            (default'.toList.map .policyDefault ++ rules'.map .policy) plan.intents :=
    replacePolicy_twice hcompiled.isPolicyOf _ _
  constructor
  · intro h
    exact ⟨congrArg NodeNetworkPlan.resourceGenerations h, congrArg NodeNetworkPlan.fabric h⟩
  · rintro ⟨hgenerations, rfl⟩
    have hgenerations :
        recordGenerations
            (withPolicy lib plan endpoint.id earlier default rules fabric).resourceGenerations later
          = recordGenerations plan.resourceGenerations later :=
      hgenerations
    rw [withPolicy, hintents, hgenerations]
    rfl

def FabricRefuses
    (plan : Plan) (endpoint : CanonicalEndpointRecord) (realm : CanonicalAddressRealmRecord)
    (graph : PolicyGraph) : Prop :=
  ∃ fabric ∈ plan.fabric, ∃ default rules,
    compileEndpointParts endpoint graph realm = .ok (default, rules) ∧
      ¬ Accepts fabric endpoint.id default rules

/-- **Attaching replaces** what an earlier graph left, exactly when the fabric
refuses the later policy, or what only the earlier graph names has its
generation in the plan already and the policy generation of the fabric covers
it. -/
theorem attachment_replaces_iff
    (hattached : attachEndpointPolicyToPlan lib plan endpoint realm earlier = .ok attached)
    (hcompiles : ∃ parts, compileEndpointParts endpoint later realm = .ok parts) :
    attachEndpointPolicyToPlan lib attached endpoint realm later
        = attachEndpointPolicyToPlan lib plan endpoint realm later
      ↔
    FabricRefuses plan endpoint realm later ∨
      GenerationsKnown plan.resourceGenerations earlier later ∧
        ∀ fabric ∈ plan.fabric, GenerationCovered fabric earlier later := by
  obtain ⟨default, rules, fabric₁, hparts, hfabric, rfl⟩ :=
    attachEndpointPolicyToPlan_ok hattached
  obtain ⟨⟨default', rules'⟩, hparts'⟩ := hcompiles
  have hcompiled := compileEndpointParts_ok hparts
  rw [attachEndpointPolicyToPlan_eq hparts', attachEndpointPolicyToPlan_eq hparts']
  have hsame :
      (withPolicy lib plan endpoint.id earlier default rules fabric₁).fabric = fabric₁ := rfl
  rw [hsame]
  cases hplan : plan.fabric with
  | none =>
    rw [hplan] at hfabric
    cases hfabric
    simp [attachToFabric?, Except.map, withPolicy_twice_iff hcompiled, FabricRefuses, hplan]
  | some fabric =>
    rw [hplan] at hfabric
    simp only [attachToFabric?] at hfabric
    split at hfabric
    · cases hfabric
    · rename_i fabric' hfabric'
      cases hfabric
      have hdefault := fun d hd => (hcompiled.defaultIsGood d hd).1
      have hrules := fun r hr => (hcompiled.rulesAreGood r hr).1
      have hrefuses :
          FabricRefuses plan endpoint realm later
            ↔ ¬ Accepts fabric endpoint.id default' rules' := by
        simp [FabricRefuses, hplan, hparts']
      rw [hrefuses]
      by_cases haccepted : Accepts fabric endpoint.id default' rules'
      · have hagain := attachToFabric_again hdefault hrules later hfabric' haccepted
        have htwice := attachToFabric_twice_iff hdefault hrules later hfabric' haccepted
        cases hlater : attachToFabric fabric endpoint.id later default' rules' with
        | none =>
          rw [hlater] at htwice
          simp [attachToFabric?, hagain, hlater, Except.map, haccepted, ← htwice]
        | some direct =>
          rw [hlater] at htwice
          simp only [attachToFabric?, hagain, hlater, Except.map, haccepted, Except.ok.injEq,
            withPolicy_twice_iff hcompiled, not_true_eq_false, false_or, Option.mem_def,
            Option.some.injEq, forall_eq', ← htwice]
          exact and_congr_right (fun _ => eq_comm)
      · have hrefused := attachToFabric_refused_again hdefault hrules later hfabric'
          haccepted
        simp [attachToFabric?, hrefused, attachToFabric_of_not_accepts haccepted, haccepted,
          Except.map]

end Plan

/-- SHA-256 of the plans below, whose JSON texts have different lengths. -/
def bareDigest : Nat → String
  | 35 => "a7700166afc9a5cce836fac379c4243157f02150a8e361de23a8c1460edc32cc"
  | 76 => "8405ce3220594ea02fe57080c5f8ee721f02f16bdd8bdc4e8b21f65b3270879b"
  | 368 => "ea8810492f20e692cb2f2c30e4b09e51a391dff622a71cd1184cb028a1d22e81"
  | 1089 => "91b715ed7486ce2e33cfd4d008214bc610637a7fb0d97c53db04548d0dd28b4b"
  | 1097 => "b21ffaffd303ca0cae0ce8db75131f39e3e35e39870059dcd7dcfc055736effe"
  | 1697 => "8644acfb91244f4e0dfac4474608abbdd2915f4354583337e1c2816704ba9ade"
  | 1706 => "1a7ae803094ad304455b9d5ee93436bd17c0241a3149f9facb606201696e4be5"
  | 1978 => "7286a032635f047b6c2e6589b407c82798e62bdf7edd652bc01f739ef90827b9"
  | 2263 => "37b1cc5368409f08245c5c5c2c1828745658f5397e5d7cb1074535acbe254269"
  | _ => ""

def bareLibrary : PlanLibrary :=
  serdeLibrary
    { parseSocketAddr := fun _ => none
      parseSocketAddr_empty := noSocketAddr_empty
      uuidBytes := fun id => id.toUTF8.toList
      newV5 := fun id name => id ++ name
      intentJson := intentKey
      sha256 := fun _ => "" }
    fun json => bareDigest json.length

def barePlan : Plan where
  schemaVersion := nodeNetworkPlanSchemaVersion
  planId := "plan"
  nodeId := "node"
  operationId := "operation"
  deadlineUnixMs := 0
  resourceGenerations := ∅
  intents := []
  fabric := none
  gateway := none
  fingerprintSha256 := bareDigest 35

def sampleEndpoint (id : Uuid) (fixedIp : Ipv4Addr) (mac : String) : CanonicalEndpointRecord where
  id := id
  realmId := "front"
  projectId := "project"
  fixedIp := fixedIp
  mac := mac
  generation := 1
  state := .active

def frontRealm : CanonicalAddressRealmRecord where
  id := "front"
  networkId := "network"
  projectId := "project"
  prefixText := "10.0.0.0/24"
  overlappingPrefixes := false
  generation := 1
  state := .active

def webEndpoint : CanonicalEndpointRecord := sampleEndpoint "web" 0x0a000002 "02:00:00:00:00:02"

/-- One policy with one rule, attached to the endpoints. -/
def webGraph (endpointIds : List Uuid) : PolicyGraph where
  policies :=
    [⟨"policy", "project", "Stateful", "Deny", 1, "active"⟩]
  rules :=
    [⟨"rule", "policy", "project", "Ingress", "Ipv4", "Tcp", some 80, some 80, none, "Allow",
      "active", 1⟩]
  attachments :=
    endpointIds.map (fun id => ⟨"attachment of " ++ id, "policy", id, "project", .active, 1⟩)

def emptyGraph : PolicyGraph := ⟨[], [], []⟩

def webDefault (endpointId : Uuid) : PolicyDefaultIntent :=
  ⟨"policy", endpointId, .deny, .stateful, 1⟩

def webRule (endpointId : Uuid) : PolicyIntent :=
  ⟨"rule", endpointId, .ingress, .tcp, some ⟨80, 80⟩, none, none, .allow⟩

theorem webGraph_compiled :
    compileEndpointParts webEndpoint (webGraph ["web"]) frontRealm
      = .ok (some (webDefault "web"), [webRule "web"]) := by
  decide +kernel

def webPlan : Plan :=
  withPolicy bareLibrary barePlan "web" (webGraph ["web"]) (some (webDefault "web"))
    [webRule "web"] none

theorem webPlan_attached :
    attachEndpointPolicyToPlan bareLibrary barePlan webEndpoint frontRealm (webGraph ["web"])
      = .ok webPlan :=
  attachEndpointPolicyToPlan_eq webGraph_compiled barePlan

def frontPrefix : Ipv4Prefix := ⟨0x0a000000, 24⟩

def placedOn (hostId : String) (endpoint : CanonicalEndpointRecord) : EndpointLocation where
  endpointId := endpoint.id
  projectId := endpoint.projectId
  realmId := endpoint.realmId
  fixedIp := endpoint.fixedIp
  mac := endpoint.mac
  selectedHost := hostId
  endpointGeneration := endpoint.generation
  placementGeneration := 1

def appEndpoint : CanonicalEndpointRecord := sampleEndpoint "app" 0x0a000003 "02:00:00:00:00:03"

/-- A realm with two endpoints on one host, and no policies. -/
def frontFabric : NamespacedRoutedFabricPlan where
  localHost := "node"
  localFabricTransportIp := 0x0a090001
  localFabricGeneration := 1
  localUnderlayMtu := 1500
  localFabricMtu := 1440
  realmId := "front"
  realmPrefix := frontPrefix
  encapsulation := ⟨"domain", "front", .vxlan, 7, 1⟩
  directoryGeneration := 1
  directory :=
    ⟨"front", frontPrefix, 1, "02:00:00:00:00:ff", [webEndpoint, appEndpoint].map (placedOn "node")⟩
  proxyMac := "02:00:00:00:00:ff"
  tenantMtu := 1390
  policyGeneration := 1
  policies := []
  policyDefaults := []
  publicBindings := []
  dhcp := none
  routes := []
  peers := []

def frontPlan : Plan :=
  { barePlan with
    fabric := some frontFabric
    fingerprintSha256 := bareDigest 1089 }

def openGraph : PolicyGraph :=
  { webGraph ["web"] with
    rules :=
      (webGraph ["web"]).rules ++
        [⟨"ping", "policy", "project", "Ingress", "Ipv4", "Icmp", none, none, none, "Allow",
          "active", 1⟩] }

def narrowGraph : PolicyGraph :=
  { webGraph ["web"] with
    policies := [⟨"policy", "project", "Stateful", "Deny", 2, "active"⟩]
    rules :=
      [⟨"rule", "policy", "project", "Ingress", "Ipv4", "Tcp", some 443, some 443, none, "Allow",
        "active", 2⟩] }

/-- The plan has the generation of the rule for echo requests from before. -/
def pingedPlan : Plan :=
  { frontPlan with
    resourceGenerations := Table.ofList [("ping", 1)]
    fingerprintSha256 := bareDigest 1097 }

theorem openGraph_attached :
    (attachEndpointPolicyToPlan bareLibrary pingedPlan webEndpoint frontRealm openGraph).isOk
      = true := by
  decide +kernel

/-- The narrower graph replaces the open one in the fabric. -/
theorem attachment_replaces_narrowed :
    ∃ attached,
      attachEndpointPolicyToPlan bareLibrary pingedPlan webEndpoint frontRealm openGraph
          = .ok attached ∧
        attachEndpointPolicyToPlan bareLibrary attached webEndpoint frontRealm narrowGraph
          = attachEndpointPolicyToPlan bareLibrary pingedPlan webEndpoint frontRealm narrowGraph := by
  have hok := openGraph_attached
  have hcompiled :
      compileEndpointParts webEndpoint narrowGraph frontRealm
        = .ok (some ⟨"policy", "web", .deny, .stateful, 2⟩,
            [⟨"rule", "web", .ingress, .tcp, some ⟨443, 443⟩, none, none, .allow⟩]) := by
    decide +kernel
  cases hattached :
      attachEndpointPolicyToPlan bareLibrary pingedPlan webEndpoint frontRealm openGraph with
  | error e =>
    rw [hattached] at hok
    cases hok
  | ok attached =>
    refine ⟨attached, rfl, (attachment_replaces_iff hattached ⟨_, hcompiled⟩).mpr (Or.inr ⟨?_, ?_⟩)⟩
    · intro id hnone entry hentry
      have hknown :
          ∀ entry ∈ openGraph.generations, narrowGraph.recorded entry.1 = none →
            pingedPlan.resourceGenerations.get? entry.1 = some entry := by
        decide +kernel
      obtain ⟨hmem, hid⟩ := List.mem_filter.mp (List.mem_of_getLast? hentry)
      obtain rfl : entry.1 = id := of_decide_eq_true hid
      exact hknown entry hmem hnone
    · intro fabric hfabric
      cases hfabric
      unfold GenerationCovered
      decide +kernel

/-- The generations of a policy that is taken away stay in the plan. -/
theorem detached_policy_stays_recorded :
    attachEndpointPolicyToPlan bareLibrary barePlan webEndpoint frontRealm (webGraph ["web"])
        = .ok webPlan ∧
      (∃ parts, compileEndpointParts webEndpoint emptyGraph frontRealm = .ok parts) ∧
      attachEndpointPolicyToPlan bareLibrary webPlan webEndpoint frontRealm emptyGraph
        ≠ attachEndpointPolicyToPlan bareLibrary barePlan webEndpoint frontRealm emptyGraph := by
  have hempty : compileEndpointParts webEndpoint emptyGraph frontRealm = .ok (none, []) := by
    decide +kernel
  refine ⟨webPlan_attached, ⟨_, hempty⟩, ?_⟩
  rw [attachEndpointPolicyToPlan_eq hempty, attachEndpointPolicyToPlan_eq hempty]
  intro h
  have hplans :
      (.ok (withPolicy bareLibrary webPlan "web" emptyGraph none [] none) :
        Except NetworkPlanError Plan)
        = .ok (withPolicy bareLibrary barePlan "web" emptyGraph none [] none) :=
    h
  have hgenerations := congrArg (fun p => p.resourceGenerations.rows.length) (Except.ok.inj hplans)
  exact absurd hgenerations (by decide +kernel)

end Planning
end O3k
