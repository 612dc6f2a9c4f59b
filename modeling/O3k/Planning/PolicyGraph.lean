import O3k.Gateways.Compile

/-!
# Plans of a node: the records

The intents that a plan carries, the canonical intent of a network that they
are compiled from, and the graph of reusable policies of an endpoint.
-/

namespace O3k
namespace Planning

open Relational Relational.Transaction Execution Gateways
open Network hiding PolicyIntent
open Fabric hiding NetworkPlanError

structure RouteIntent where
  destination : Ipv4Prefix
  nextHop : Option Ipv4Addr
  deriving DecidableEq

/-- Provider-independent intent carried by a node plan. -/
inductive NetworkPlanIntent
  | addressRealm (realmId : Uuid) (addresses : Ipv4Prefix) (gateway : Ipv4Addr)
  | endpointAttachment (endpointId : Uuid) (mac : String) (fixedIp : Ipv4Addr) (generation : Nat)
  | addressAssignment (endpointId : Uuid) (address : Ipv4Addr) (generation : Nat)
  | route (intent : RouteIntent)
  | gateway (intent : GatewayIntent)
  | egress (intent : EgressIntent)
  | publicAddressBinding (intent : PublicAddressBindingIntent)
  | policyDefault (intent : PolicyDefaultIntent)
  | policy (intent : PolicyIntent)
  deriving DecidableEq

abbrev Plan := NodeNetworkPlan NetworkPlanIntent L3GatewayExecutionPlan

abbrev PlanLibrary := FabricLibrary NetworkPlanIntent L3GatewayExecutionPlan

inductive NetworkCapability
  | endpointAttachment
  | ipv4
  | ipv6
  | l2AdjacencyScope
  | routing
  | statefulPolicy
  | nat
  | publicAddressRealization
  | overlappingAddressRealms
  | encapsulationModes
  | qosFeatures
  | routeAdvertisementModes
  deriving DecidableEq

inductive NetworkPlanError
  | overlappingRealm
  | addressOutsideRealm
  | unsupportedCapability (capability : NetworkCapability)
  | conflictingEndpoint
  | serialization
  | conflictingPlan
  | ownershipViolation
  | invalidAddressPool
  | invalidPolicy
  | invalidPrefix
  | invalidFabricPlan
  | invalidGatewayPlan
  deriving DecidableEq

structure CanonicalReusableNetworkPolicyRecord where
  id : Uuid
  projectId : String
  statefulMode : String
  unmatchedAction : String
  generation : Nat
  state : String
  deriving DecidableEq

structure CanonicalNetworkPolicyRuleRecord where
  id : Uuid
  policyId : Uuid
  projectId : String
  direction : String
  addressFamily : String
  protocol : String
  portMin : Option Nat
  portMax : Option Nat
  remoteSelector : Option String
  action : String
  state : String
  generation : Nat
  deriving DecidableEq

/-- The rows that the policy of an endpoint is compiled from. -/
structure PolicyGraph where
  policies : List CanonicalReusableNetworkPolicyRecord
  rules : List CanonicalNetworkPolicyRuleRecord
  attachments : List CanonicalPolicyAttachmentRecord

inductive CanonicalPolicyCompileError
  | ownership
  | invalidState
  | conflictingDefaults
  | unsupportedStatefulMode
  | invalidRule
  | realmMismatch
  deriving DecidableEq

def PolicyGraph.generations (graph : PolicyGraph) : List (Uuid × Nat) :=
  graph.policies.map (fun p => (p.id, p.generation)) ++
    graph.rules.map (fun r => (r.id, r.generation)) ++
    graph.attachments.map (fun a => (a.id, a.generation))

/-!
# The policy of one endpoint

`compile_endpoint_policy`: the active attachments of the endpoint select
policies, which agree on what happens to unmatched traffic; their active rules
become intents under the identities of the rules.
-/

def parseAction (value : String) : Except CanonicalPolicyCompileError PolicyAction :=
  if value = "Allow" ∨ value = "allow" then .ok .allow
  else if value = "Deny" ∨ value = "deny" then .ok .deny
  else .error .invalidState

def parseDirection (value : String) : Except CanonicalPolicyCompileError PolicyDirection :=
  if value = "Ingress" ∨ value = "ingress" then .ok .ingress
  else if value = "Egress" ∨ value = "egress" then .ok .egress
  else .error .invalidRule

def parseProtocol (value : String) : Except CanonicalPolicyCompileError NetworkProtocol :=
  if value = "Any" ∨ value = "any" then .ok .any
  else if value = "Tcp" ∨ value = "tcp" then .ok .tcp
  else if value = "Udp" ∨ value = "udp" then .ok .udp
  else if value = "Icmp" ∨ value = "icmp" then .ok .icmp
  else .error .invalidRule

/-- `parse_prefix` of the policy compiler. -/
def parseSelector (value : Option String) :
    Except CanonicalPolicyCompileError (Option Ipv4Prefix) :=
  match value with
  | none => .ok none
  | some text =>
    match parsePrefix? text with
    | none => .error .invalidRule
    | some p => .ok (some p)

/-- Refuse with `error` unless the condition holds. -/
def demand (p : Prop) [Decidable p] (error : CanonicalPolicyCompileError) :
    Except CanonicalPolicyCompileError Unit :=
  if p then .ok () else .error error

section Compile

variable (endpoint : CanonicalEndpointRecord) (graph : PolicyGraph)

def activeAttachments : List CanonicalPolicyAttachmentRecord :=
  sortBy (·.id)
    (graph.attachments.filter (fun a => a.endpointId = endpoint.id ∧ a.state = .active))

/-- The loop over the active attachments.  `first` is the action of the first
policy that is selected. -/
def selectPolicies :
    List CanonicalPolicyAttachmentRecord → (first : Option PolicyAction) →
      Except CanonicalPolicyCompileError
        (List (CanonicalReusableNetworkPolicyRecord × PolicyAction))
  | [], _ => .ok []
  | attachment :: rest, first =>
    if attachment.projectId ≠ endpoint.projectId ∨ attachment.policyId = nilUuid then
      .error .ownership
    else
      match graph.policies.find? (·.id = attachment.policyId) with
      | none => .error .ownership
      | some policy =>
        if policy.projectId ≠ endpoint.projectId ∨ policy.state ≠ "active" ∨
            policy.generation = 0 ∨ attachment.generation = 0 then
          .error .invalidState
        else if policy.statefulMode ≠ "Stateful" then
          .error .unsupportedStatefulMode
        else do
          let action ← parseAction policy.unmatchedAction
          demand (∀ existing ∈ first, existing = action) .conflictingDefaults
          let selected ← selectPolicies rest (first.or (some action))
          return (policy, action) :: selected

/-- The body of the loop over the rules. -/
def compileRule (rule : CanonicalNetworkPolicyRuleRecord) :
    Except CanonicalPolicyCompileError PolicyIntent := do
  demand
    (rule.generation ≠ 0 ∧ rule.id ≠ nilUuid ∧ rule.policyId ≠ nilUuid ∧
      rule.addressFamily = "Ipv4" ∧ rule.portMin.isSome = rule.portMax.isSome) .invalidState
  let direction ← parseDirection rule.direction
  let protocol ← parseProtocol rule.protocol
  let source ← parseSelector (if direction = .ingress then rule.remoteSelector else none)
  let destination ← parseSelector (if direction = .egress then rule.remoteSelector else none)
  let action ← parseAction rule.action
  return {
    id := rule.id
    endpointId := endpoint.id
    direction := direction
    protocol := protocol
    ports :=
      match rule.portMin, rule.portMax with
      | some low, some high => some ⟨low, high⟩
      | _, _ => none
    source := source
    destination := destination
    action := action }

/-- The checks before anything is selected. -/
def checkEndpoint (realm : CanonicalAddressRealmRecord) :
    Except CanonicalPolicyCompileError Unit := do
  demand
    (endpoint.id ≠ nilUuid ∧ endpoint.projectId ≠ "" ∧ realm.id = endpoint.realmId ∧
      realm.projectId = endpoint.projectId) .realmMismatch
  demand (realm.state = .active) .invalidState
  let addresses ← parseSelector (some realm.prefixText)
  demand (∀ p ∈ addresses, p.contains endpoint.fixedIp = true) .realmMismatch

def selectedRules (policyIds : List Uuid) : List CanonicalNetworkPolicyRuleRecord :=
  sortBy (·.id) (graph.rules.filter (fun r => r.state = "active" ∧ r.policyId ∈ policyIds))

/-- What the selected policies are compiled to: the default of the first one,
under the latest generation, and the rules of all. -/
def compileSelected (first : CanonicalReusableNetworkPolicyRecord × PolicyAction)
    (rest : List (CanonicalReusableNetworkPolicyRecord × PolicyAction)) :
    Except CanonicalPolicyCompileError (PolicyDefaultIntent × List PolicyIntent) := do
  let policyIds := (first :: rest).map (·.1.id)
  demand (∀ r ∈ graph.rules, r.policyId ∈ policyIds → r.projectId = endpoint.projectId) .ownership
  let rules ← (selectedRules graph policyIds).mapM (compileRule endpoint)
  return (
    { policyId := first.1.id
      endpointId := endpoint.id
      unmatchedAction := first.2
      statefulMode := .stateful
      generation := rest.foldl (fun g selected => max g selected.1.generation) first.1.generation },
    rules)

/-- `compile_endpoint_policy`, with the default and the rules told apart. -/
def compileEndpointParts (realm : CanonicalAddressRealmRecord) :
    Except CanonicalPolicyCompileError (Option PolicyDefaultIntent × List PolicyIntent) := do
  checkEndpoint endpoint realm
  match ← selectPolicies endpoint graph (activeAttachments endpoint graph) none with
  | [] => .ok (none, [])
  | first :: rest => do
    let (default, rules) ← compileSelected endpoint graph first rest
    return (some default, rules)

def compileEndpointPolicy (realm : CanonicalAddressRealmRecord) :
    Except CanonicalPolicyCompileError (List NetworkPlanIntent) := do
  let (default, rules) ← compileEndpointParts endpoint graph realm
  return default.toList.map .policyDefault ++ rules.map .policy

end Compile

section Compiled

variable {endpoint : CanonicalEndpointRecord} {graph : PolicyGraph}
variable {realm : CanonicalAddressRealmRecord}

theorem demand_ok {p : Prop} [Decidable p] {error : CanonicalPolicyCompileError} {u : Unit}
    (h : demand p error = .ok u) :
    p := by
  by_contra hp
  rw [demand, if_neg hp] at h
  cases h

theorem selectPolicies_ok {attachments : List CanonicalPolicyAttachmentRecord}
    {first : Option PolicyAction}
    {selected : List (CanonicalReusableNetworkPolicyRecord × PolicyAction)}
    (h : selectPolicies endpoint graph attachments first = .ok selected) :
    selected.map (·.1.id) = attachments.map (·.policyId) ∧
      ∀ x ∈ selected, x.1.id ≠ nilUuid ∧ x.1.generation ≠ 0 := by
  induction attachments generalizing first selected with
  | nil =>
    cases h
    simp
  | cons attachment rest ih =>
    rw [selectPolicies] at h
    split_ifs at h with howner
    split at h
    · cases h
    · rename_i policy hfind
      split_ifs at h with hstate hmode
      obtain ⟨action, _, h⟩ := except_bind_eq_ok.mp h
      obtain ⟨_, _, h⟩ := except_bind_eq_ok.mp h
      obtain ⟨others, hothers, h⟩ := except_bind_eq_ok.mp h
      cases h
      obtain ⟨hids, hgood⟩ := ih hothers
      have hid : policy.id = attachment.policyId := by
        simpa using List.find?_some hfind
      push Not at howner hstate
      refine ⟨by simp [hids, hid], ?_⟩
      intro x hx
      rcases List.mem_cons.mp hx with rfl | hx
      · exact ⟨hid ▸ howner.2, hstate.2.2.1⟩
      · exact hgood x hx

theorem compileRule_ok {rule : CanonicalNetworkPolicyRuleRecord} {intent : PolicyIntent}
    (h : compileRule endpoint rule = .ok intent) :
    intent.id = rule.id ∧ intent.endpointId = endpoint.id ∧ intent.id ≠ nilUuid := by
  obtain ⟨_, hrule, h⟩ := except_bind_eq_ok.mp h
  obtain ⟨_, _, h⟩ := except_bind_eq_ok.mp h
  obtain ⟨_, _, h⟩ := except_bind_eq_ok.mp h
  obtain ⟨_, _, h⟩ := except_bind_eq_ok.mp h
  obtain ⟨_, _, h⟩ := except_bind_eq_ok.mp h
  obtain ⟨_, _, h⟩ := except_bind_eq_ok.mp h
  cases h
  exact ⟨rfl, rfl, (demand_ok hrule).2.1⟩

/-- The identities of the rules that are active in the policies attached to the
endpoint. -/
def ruleIds (endpoint : CanonicalEndpointRecord) (graph : PolicyGraph) : List Uuid :=
  (graph.rules.filter (fun r => r.state = "active" ∧
    r.policyId ∈ (activeAttachments endpoint graph).map (·.policyId))).map (·.id)

structure Compiled (endpoint : CanonicalEndpointRecord) (graph : PolicyGraph)
    (default : Option PolicyDefaultIntent) (rules : List PolicyIntent) : Prop where
  identified : endpoint.id ≠ nilUuid
  defaultIsGood :
    ∀ d ∈ default, d.endpointId = endpoint.id ∧ d.policyId ≠ nilUuid ∧ d.generation ≠ 0 ∧
      d.statefulMode = .stateful
  rulesAreGood : ∀ r ∈ rules, r.endpointId = endpoint.id ∧ r.id ≠ nilUuid
  ids : (rules.map (·.id)).Perm (ruleIds endpoint graph)

theorem le_foldl_max
    (selected : List (CanonicalReusableNetworkPolicyRecord × PolicyAction)) (generation : Nat) :
    generation ≤ selected.foldl (fun g x => max g x.1.generation) generation := by
  induction selected generalizing generation with
  | nil => exact le_rfl
  | cons x rest ih => exact (le_max_left _ _).trans (ih _)

variable {parts : Option PolicyDefaultIntent × List PolicyIntent}

/-- **Spec of the compiler.** -/
theorem compileEndpointParts_ok (h : compileEndpointParts endpoint graph realm = .ok parts) :
    Compiled endpoint graph parts.1 parts.2 := by
  obtain ⟨_, hcheck, h⟩ := except_bind_eq_ok.mp h
  obtain ⟨_, hendpoint, _⟩ := except_bind_eq_ok.mp hcheck
  have hid := (demand_ok hendpoint).1
  obtain ⟨selected, hselected, h⟩ := except_bind_eq_ok.mp h
  obtain ⟨hids, hgood⟩ := selectPolicies_ok hselected
  cases selected with
  | nil =>
    cases h
    refine ⟨hid, by simp, by simp, ?_⟩
    simp [ruleIds, ← hids]
  | cons first rest =>
    obtain ⟨⟨default, rules⟩, hcompiled, h⟩ := except_bind_eq_ok.mp h
    cases h
    obtain ⟨_, _, h⟩ := except_bind_eq_ok.mp hcompiled
    obtain ⟨rules', hrules, h⟩ := except_bind_eq_ok.mp h
    cases h
    obtain ⟨hnil, hgeneration⟩ := hgood first List.mem_cons_self
    refine ⟨hid, ?_, ?_, ?_⟩
    · intro d hd
      cases hd
      have hle := le_foldl_max rest first.1.generation
      exact ⟨rfl, hnil, by dsimp only; omega, rfl⟩
    · intro r hr
      obtain ⟨rule, _, hrule⟩ := (mem_of_except_mapM hrules).mp hr
      exact ⟨(compileRule_ok hrule).2.1, (compileRule_ok hrule).2.2⟩
    · have hsame := except_mapM_forall₂ (R := fun rule intent => rule.id = intent.id)
        (fun rule _ intent hrule => (compileRule_ok hrule).1.symm) hrules
      have hmap := List.forall₂_eq_eq_eq ▸ List.forall₂_map_left_iff.mpr
        (List.forall₂_map_right_iff.mpr hsame)
      rw [← hmap, ruleIds, ← hids]
      exact (sortBy_perm _).map _

theorem compileEndpointParts_attached (h : compileEndpointParts endpoint graph realm = .ok parts) :
    (activeAttachments endpoint graph = [] ∧ parts = (none, [])) ∨
      (activeAttachments endpoint graph ≠ [] ∧ ∃ d, parts.1 = some d) := by
  obtain ⟨_, _, h⟩ := except_bind_eq_ok.mp h
  obtain ⟨selected, hselected, h⟩ := except_bind_eq_ok.mp h
  have hlength : selected.length = (activeAttachments endpoint graph).length := by
    simpa using congrArg List.length (selectPolicies_ok hselected).1
  cases selected with
  | nil =>
    cases h
    exact Or.inl ⟨List.length_eq_zero_iff.mp hlength.symm, rfl⟩
  | cons first rest =>
    obtain ⟨⟨default, rules⟩, _, h⟩ := except_bind_eq_ok.mp h
    cases h
    refine Or.inr ⟨?_, default, rfl⟩
    intro hnone
    simp [hnone] at hlength

end Compiled

end Planning
end O3k
