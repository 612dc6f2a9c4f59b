import O3k.Planning.PolicyGraph

/-!
# The policy of an endpoint in a plan

`attach_endpoint_policy_to_plan` takes the policy intents of the endpoint out
of the plan and puts the compiled ones in, in the intents and in the copy that
the fabric carries; it records the generations of the graph, and computes the
fingerprint again.
-/

namespace O3k
namespace Planning

open Relational Relational.Transaction Execution Gateways
open Network hiding PolicyIntent
open Fabric hiding NetworkPlanError

variable (fabric : NamespacedRoutedFabricPlan)

/-- What `with_policy_snapshot` asks of the rules. -/
def rulesAreAccepted (rules : List PolicyIntent) : Prop :=
  ∀ rule ∈ rules, rule.id ≠ nilUuid ∧ rule.endpointId ≠ nilUuid ∧ isPlaced fabric rule.endpointId

/-- What `with_canonical_policy_snapshot` asks of the defaults. -/
def defaultsAreAccepted (defaults : List PolicyDefaultIntent) : Prop :=
  (∀ default ∈ defaults,
      default.policyId ≠ nilUuid ∧ default.endpointId ≠ nilUuid ∧ default.generation ≠ 0 ∧
        default.statefulMode = .stateful ∧ isPlaced fabric default.endpointId) ∧
    (defaults.map (·.endpointId)).Nodup

instance (fabric : NamespacedRoutedFabricPlan) (rules : List PolicyIntent) :
    Decidable (rulesAreAccepted fabric rules) :=
  inferInstanceAs (Decidable (∀ rule ∈ rules, _))

instance (fabric : NamespacedRoutedFabricPlan) (defaults : List PolicyDefaultIntent) :
    Decidable (defaultsAreAccepted fabric defaults) :=
  inferInstanceAs (Decidable (_ ∧ _))

/-- The fabric with another policy snapshot. -/
def snapshotOf
    (policyGeneration : Nat) (defaults : List PolicyDefaultIntent) (policies : List PolicyIntent) :
    NamespacedRoutedFabricPlan :=
  { fabric with
    policyGeneration := policyGeneration
    policies := policies
    policyDefaults := defaults }

/-- `with_canonical_policy_snapshot`; its one error is
`EndpointDirectoryError::InvalidPolicy`. -/
def withCanonicalPolicySnapshot
    (policyGeneration : Nat) (defaults : List PolicyDefaultIntent) (policies : List PolicyIntent) :
    Option NamespacedRoutedFabricPlan :=
  if policyGeneration = 0 ∨ ¬ rulesAreAccepted fabric policies then
    none
  else if ¬ defaultsAreAccepted fabric defaults then
    none
  else
    some (snapshotOf fabric policyGeneration defaults policies)

def NetworkPlanIntent.isPolicyOf (endpointId : Uuid) : NetworkPlanIntent → Bool
  | .policy rule => rule.endpointId = endpointId
  | .policyDefault default => default.endpointId = endpointId
  | _ => false

/-- The latest generation of the graph, and `current` where it has no row. -/
def PolicyGraph.compiledGeneration (graph : PolicyGraph) (current : Nat) : Nat :=
  (graph.generations.map (·.2)).max?.getD current

/-- The generations of a plan with those of the graph. -/
def recordGenerations (generations : Table (Prod.fst : Uuid × Nat → Uuid)) (graph : PolicyGraph) :
    Table (Prod.fst : Uuid × Nat → Uuid) :=
  graph.generations.foldl Table.put generations

def replacedRules (endpointId : Uuid) (rules : List PolicyIntent) : List PolicyIntent :=
  fabric.policies.filter (·.endpointId ≠ endpointId) ++ rules

def replacedDefaults (endpointId : Uuid) (default : Option PolicyDefaultIntent) :
    List PolicyDefaultIntent :=
  fabric.policyDefaults.filter (·.endpointId ≠ endpointId) ++ default.toList

/-- The policy generation of the fabric, once the graph is compiled into it. -/
def attachedGeneration (graph : PolicyGraph) : Nat :=
  max fabric.policyGeneration (graph.compiledGeneration fabric.policyGeneration)

/-- The fabric with the compiled policy of the endpoint. -/
def attachToFabric (endpointId : Uuid) (graph : PolicyGraph)
    (default : Option PolicyDefaultIntent) (rules : List PolicyIntent) :
    Option NamespacedRoutedFabricPlan :=
  withCanonicalPolicySnapshot fabric (attachedGeneration fabric graph)
    (replacedDefaults fabric endpointId default) (replacedRules fabric endpointId rules)

/-- The fabric takes the compiled policy, whatever its generation. -/
def Accepts (endpointId : Uuid) (default : Option PolicyDefaultIntent)
    (rules : List PolicyIntent) : Prop :=
  rulesAreAccepted fabric (replacedRules fabric endpointId rules) ∧
    defaultsAreAccepted fabric (replacedDefaults fabric endpointId default)

def attachedFabric (endpointId : Uuid) (graph : PolicyGraph)
    (default : Option PolicyDefaultIntent) (rules : List PolicyIntent) :
    NamespacedRoutedFabricPlan :=
  snapshotOf fabric (attachedGeneration fabric graph) (replacedDefaults fabric endpointId default)
    (replacedRules fabric endpointId rules)

variable {default : Option PolicyDefaultIntent} {graph : PolicyGraph}

theorem attachToFabric_eq_some_iff {fabric attached : NamespacedRoutedFabricPlan}
    {endpointId : Uuid} {rules : List PolicyIntent} :
    attachToFabric fabric endpointId graph default rules = some attached ↔
    attachedGeneration fabric graph ≠ 0 ∧ Accepts fabric endpointId default rules ∧
      attachedFabric fabric endpointId graph default rules = attached := by
  rw [attachToFabric, withCanonicalPolicySnapshot]
  by_cases hgeneration : attachedGeneration fabric graph = 0
  · simp [hgeneration]
  · by_cases hrules : rulesAreAccepted fabric (replacedRules fabric endpointId rules)
    · by_cases hdefaults :
          defaultsAreAccepted fabric (replacedDefaults fabric endpointId default)
      · simp [hgeneration, hrules, hdefaults, Accepts, attachedFabric]
      · simp [hgeneration, hrules, hdefaults, Accepts]
    · simp [hrules, Accepts]

theorem attachToFabric_of_not_accepts {fabric : NamespacedRoutedFabricPlan} {endpointId : Uuid}
    {rules : List PolicyIntent} (h : ¬ Accepts fabric endpointId default rules)
    (graph : PolicyGraph) :
    attachToFabric fabric endpointId graph default rules = none :=
  Option.eq_none_iff_forall_ne_some.mpr
    (fun _ hsome => h (attachToFabric_eq_some_iff.mp hsome).2.1)

def attachToFabric?
    (fabric : Option NamespacedRoutedFabricPlan) (endpointId : Uuid) (graph : PolicyGraph)
    (default : Option PolicyDefaultIntent) (rules : List PolicyIntent) :
    Except NetworkPlanError (Option NamespacedRoutedFabricPlan) :=
  match fabric with
  | none => .ok none
  | some fabric =>
    match attachToFabric fabric endpointId graph default rules with
    | none => .error .invalidFabricPlan
    | some attached => .ok (some attached)

/-- The intents with the compiled ones in place of those of the endpoint. -/
def replacePolicy
    (lib : PlanLibrary) (endpointId : Uuid) (compiled intents : List NetworkPlanIntent) :
    List NetworkPlanIntent :=
  sortBy lib.intentJson (intents.filter (!·.isPolicyOf endpointId) ++ compiled)

/-- The plan with the fingerprint that it should have. -/
def rebind (lib : PlanLibrary) (plan : Plan) : Plan :=
  { plan with fingerprintSha256 := canonicalPlanFingerprint lib plan }

/-- The plan with the compiled policy of the endpoint and the fabric. -/
def withPolicy (lib : PlanLibrary) (plan : Plan) (endpointId : Uuid) (graph : PolicyGraph)
    (default : Option PolicyDefaultIntent) (rules : List PolicyIntent)
    (fabric : Option NamespacedRoutedFabricPlan) :
    Plan :=
  rebind lib
    { plan with
      intents :=
        replacePolicy lib endpointId (default.toList.map .policyDefault ++ rules.map .policy)
          plan.intents
      resourceGenerations := recordGenerations plan.resourceGenerations graph
      fabric := fabric }

def attachEndpointPolicyToPlan
    (lib : PlanLibrary) (plan : Plan) (endpoint : CanonicalEndpointRecord)
    (realm : CanonicalAddressRealmRecord) (graph : PolicyGraph) :
    Except NetworkPlanError Plan := do
  let (default, rules) ←
    (compileEndpointParts endpoint graph realm).mapError (fun _ => .invalidPolicy)
  let fabric ← attachToFabric? plan.fabric endpoint.id graph default rules
  return withPolicy lib plan endpoint.id graph default rules fabric

theorem attachEndpointPolicyToPlan_eq {lib : PlanLibrary} {endpoint : CanonicalEndpointRecord}
    {realm : CanonicalAddressRealmRecord} {rules : List PolicyIntent}
    (hparts : compileEndpointParts endpoint graph realm = .ok (default, rules)) (plan : Plan) :
    attachEndpointPolicyToPlan lib plan endpoint realm graph =
    (attachToFabric? plan.fabric endpoint.id graph default rules).map
      (withPolicy lib plan endpoint.id graph default rules) := by
  rw [attachEndpointPolicyToPlan, hparts]
  show (attachToFabric? plan.fabric endpoint.id graph default rules >>= _) = _
  cases attachToFabric? plan.fabric endpoint.id graph default rules with
  | error e => rfl
  | ok fabric => rfl

theorem attachEndpointPolicyToPlan_ok {lib : PlanLibrary} {plan attached : Plan}
    {endpoint : CanonicalEndpointRecord} {realm : CanonicalAddressRealmRecord}
    (h : attachEndpointPolicyToPlan lib plan endpoint realm graph = .ok attached) :
    ∃ default rules fabric,
      compileEndpointParts endpoint graph realm = .ok (default, rules) ∧
        attachToFabric? plan.fabric endpoint.id graph default rules = .ok fabric ∧
        attached = withPolicy lib plan endpoint.id graph default rules fabric := by
  cases hparts : compileEndpointParts endpoint graph realm with
  | error e =>
    rw [attachEndpointPolicyToPlan, hparts] at h
    cases h
  | ok parts =>
    obtain ⟨default, rules⟩ := parts
    rw [attachEndpointPolicyToPlan_eq hparts] at h
    cases hfabric : attachToFabric? plan.fabric endpoint.id graph default rules with
    | error e =>
      rw [hfabric] at h
      cases h
    | ok fabric =>
      rw [hfabric] at h
      cases h
      exact ⟨default, rules, fabric, rfl, hfabric, rfl⟩

end Planning
end O3k
