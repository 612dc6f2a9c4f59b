import O3k.Planning.Replacement

/-!
# Policies of several endpoints in one fabric

A sequence of attachments for endpoints of a realm.  The intents have the
identities of the rules, though, and a plan is admitted with distinct identities
only: the sequence stays admissible exactly as long as no rule is in force for
two endpoints.
-/

namespace O3k
namespace Planning

open Relational Relational.Transaction Semantics Execution Gateways
open Network hiding PolicyIntent
open Fabric hiding NetworkPlanError

structure PolicyCall where
  endpoint : CanonicalEndpointRecord
  realm : CanonicalAddressRealmRecord
  graph : PolicyGraph

namespace PolicyCall

/-- What the graph of the call is compiled to. -/
def parts (c : PolicyCall) : Option PolicyDefaultIntent × List PolicyIntent :=
  match compileEndpointParts c.endpoint c.graph c.realm with
  | .ok parts => parts
  | .error _ => (none, [])

def intents (c : PolicyCall) : List NetworkPlanIntent :=
  c.parts.1.toList.map .policyDefault ++ c.parts.2.map .policy

def attach (lib : PlanLibrary) (plan : Plan) (c : PolicyCall) : Except NetworkPlanError Plan :=
  attachEndpointPolicyToPlan lib plan c.endpoint c.realm c.graph

end PolicyCall

/-- A plan and the calls that it has taken, the latest first. -/
structure PolicyRun where
  plan : Plan
  calls : List PolicyCall

/-- A call that fails leaves the caller with the plan that it had. -/
def PolicyRun.step (lib : PlanLibrary) (w : PolicyRun) (c : PolicyCall) : PolicyRun :=
  match c.attach lib w.plan with
  | .ok plan => ⟨plan, c :: w.calls⟩
  | .error _ => w

/-- What the latest call for the endpoint gives, or else what there was. -/
def latest {α : Type} (calls : List PolicyCall) (endpointId : Uuid) (initial : α)
    (given : PolicyCall → α) :
    α :=
  match calls.find? (·.endpoint.id = endpointId) with
  | some c => given c
  | none => initial

/-- Each endpoint has exactly the rules and the default of its latest graph, in
the fabric and in the intents of the plan. -/
structure HoldsLatest
    (start : Plan) (startFabric : NamespacedRoutedFabricPlan) (calls : List PolicyCall)
    (plan : Plan) (fabric : NamespacedRoutedFabricPlan) : Prop where
  rules :
    ∀ id, fabric.policies.filter (·.endpointId = id)
      = latest calls id (startFabric.policies.filter (·.endpointId = id)) (·.parts.2)
  defaults :
    ∀ id, fabric.policyDefaults.filter (·.endpointId = id)
      = latest calls id (startFabric.policyDefaults.filter (·.endpointId = id))
        (·.parts.1.toList)
  intents :
    ∀ id, (plan.intents.filter (·.isPolicyOf id)).Perm
      (latest calls id (start.intents.filter (·.isPolicyOf id)) (·.intents))

/-- The call returns a plan that is admitted and holds the latest graphs. -/
def Good
    (lib : PlanLibrary) (start : Plan) (startFabric : NamespacedRoutedFabricPlan) (w : PolicyRun)
    (c : PolicyCall) : Prop :=
  ∃ plan fabric,
    c.attach lib w.plan = .ok plan ∧ plan.validateFabric = .ok () ∧ plan.fabric = some fabric ∧
      HoldsLatest start startFabric (c :: w.calls) plan fabric

/-- No rule of the call is there twice, or in force for another endpoint. -/
def BringsNewRules (fabric : NamespacedRoutedFabricPlan) (c : PolicyCall) : Prop :=
  (ruleIds c.endpoint c.graph).Nodup ∧
    ∀ policy ∈ fabric.policies,
      policy.endpointId ≠ c.endpoint.id → policy.id ∉ ruleIds c.endpoint c.graph

instance (fabric : NamespacedRoutedFabricPlan) (c : PolicyCall) :
    Decidable (BringsNewRules fabric c) :=
  inferInstanceAs (Decidable (_ ∧ _))

/-- The endpoint is in the directory of the fabric, if a policy is attached to
it. -/
def IsHere (fabric : NamespacedRoutedFabricPlan) (c : PolicyCall) : Prop :=
  activeAttachments c.endpoint c.graph = [] ∨ isPlaced fabric c.endpoint.id

instance (fabric : NamespacedRoutedFabricPlan) (c : PolicyCall) : Decidable (IsHere fabric c) :=
  inferInstanceAs (Decidable (_ ∨ _))

def FitsFabric (w : PolicyRun) (c : PolicyCall) : Prop :=
  ∀ fabric ∈ w.plan.fabric, IsHere fabric c ∧ BringsNewRules fabric c

instance (w : PolicyRun) (c : PolicyCall) : Decidable (FitsFabric w c) :=
  inferInstanceAs (Decidable (∀ fabric ∈ w.plan.fabric, _))

theorem filter_replaced {α : Type} (owned : Uuid → α → Bool)
    (hunique : ∀ x a b, owned a x = true → owned b x = true → a = b)
    {id : Uuid} (xs : List α) {ys : List α} (hys : ∀ y ∈ ys, owned id y = true) (id' : Uuid) :
    (xs.filter (!owned id ·) ++ ys).filter (owned id') =
    if id = id' then ys else xs.filter (owned id') := by
  rw [List.filter_append, List.filter_filter]
  split_ifs with hid
  · subst hid
    have hleft : xs.filter (fun x => owned id x && !owned id x) = [] := by
      simp
    rw [hleft, List.nil_append, List.filter_eq_self]
    exact hys
  · have hleft : xs.filter (fun x => owned id' x && !owned id x) = xs.filter (owned id') := by
      refine List.filter_congr (fun x _ => ?_)
      cases hx : owned id' x with
      | false => rfl
      | true =>
        have hnot : owned id x = false := by
          by_contra h
          exact hid (hunique x id id' (by simpa using h) hx)
        simp [hnot]
    have hright : ys.filter (owned id') = [] := by
      refine List.filter_eq_nil_iff.mpr (fun y hy hown => ?_)
      exact hid (hunique y id id' (hys y hy) hown)
    rw [hleft, hright, List.append_nil]

theorem isPolicyOf_unique
    (intent : NetworkPlanIntent) (a b : Uuid) (ha : intent.isPolicyOf a = true)
    (hb : intent.isPolicyOf b = true) :
    a = b := by
  cases intent with
  | policy rule =>
    have ha : rule.endpointId = a := by simpa [NetworkPlanIntent.isPolicyOf] using ha
    have hb : rule.endpointId = b := by simpa [NetworkPlanIntent.isPolicyOf] using hb
    exact ha.symm.trans hb
  | policyDefault default =>
    have ha : default.endpointId = a := by simpa [NetworkPlanIntent.isPolicyOf] using ha
    have hb : default.endpointId = b := by simpa [NetworkPlanIntent.isPolicyOf] using hb
    exact ha.symm.trans hb
  | _ => exact absurd ha (by simp [NetworkPlanIntent.isPolicyOf])

theorem latest_cons {α : Type} (c : PolicyCall) (calls : List PolicyCall) (id : Uuid) (initial : α)
    (given : PolicyCall → α) :
    latest (c :: calls) id initial given =
    if c.endpoint.id = id then given c else latest calls id initial given := by
  by_cases hid : c.endpoint.id = id
  · simp [latest, hid]
  · simp [latest, hid]

section Fabric

variable {fabric : NamespacedRoutedFabricPlan} {nodeId : String}

theorem fabricIsValid_snapshotOf (hvalid : fabricIsValid fabric nodeId)
    (generation : Nat) (defaults : List PolicyDefaultIntent) (policies : List PolicyIntent) :
    fabricIsValid (snapshotOf fabric generation defaults policies) nodeId ↔
    generation ≠ 0 ∧ rulesAreAccepted fabric policies ∧ (policies.map (·.id)).Nodup ∧
      defaultsAreAccepted fabric defaults := by
  obtain ⟨hhead, hentries, hdhcp, _, _, hpublic, hroutes, hpeers, hroutePeers⟩ := hvalid
  constructor
  · rintro ⟨hhead', _, _, hpolicies, hdefaults, _⟩
    exact ⟨hhead'.2.2.2.2.2.2.2.2.2.2.2.2.2.1, hpolicies.1, hpolicies.2, hdefaults⟩
  · rintro ⟨hgeneration, hrules, hnodup, hdefaults⟩
    obtain ⟨h1, h2, h3, h4, h5, h6, h7, h8, h9, h10, h11, h12, h13, _, hrest⟩ := hhead
    exact ⟨⟨h1, h2, h3, h4, h5, h6, h7, h8, h9, h10, h11, h12, h13, hgeneration, hrest⟩,
      hentries, hdhcp, ⟨hrules, hnodup⟩, hdefaults, hpublic, hroutes, hpeers, hroutePeers⟩

variable {c : PolicyCall} {default : Option PolicyDefaultIntent} {rules : List PolicyIntent}
variable (hvalid : fabricIsValid fabric nodeId)
variable (hparts : compileEndpointParts c.endpoint c.graph c.realm = .ok (default, rules))

include hvalid hparts in
theorem accepts_iff : Accepts fabric c.endpoint.id default rules ↔ IsHere fabric c := by
  have hcompiled := compileEndpointParts_ok hparts
  obtain ⟨_, _, _, hpolicies, hdefaults, _⟩ := hvalid
  constructor
  · rintro ⟨_, haccepted, _⟩
    rcases compileEndpointParts_attached hparts with ⟨hnone, _⟩ | ⟨_, d, hd⟩
    · exact Or.inl hnone
    · have hd : default = some d := hd
      subst hd
      have hplaced := (haccepted d (by simp [replacedDefaults])).2.2.2.2
      rw [(hcompiled.defaultIsGood d rfl).1] at hplaced
      exact Or.inr hplaced
  · intro hhere
    have hplaced : (default, rules) ≠ (none, []) → isPlaced fabric c.endpoint.id := by
      intro hsome
      rcases compileEndpointParts_attached hparts with ⟨_, hnone⟩ | ⟨hattached, _⟩
      · exact absurd hnone hsome
      · exact hhere.resolve_left hattached
    refine ⟨?_, ?_, ?_⟩
    · intro r hr
      rcases List.mem_append.mp hr with hkept | hnew
      · exact hpolicies.1 r (List.mem_filter.mp hkept).1
      · obtain ⟨hendpoint, hid⟩ := hcompiled.rulesAreGood r hnew
        rw [hendpoint]
        exact ⟨hid, hcompiled.identified, hplaced (by rintro ⟨⟩; cases hnew)⟩
    · intro d hd
      rcases List.mem_append.mp hd with hkept | hnew
      · exact hdefaults.1 d (List.mem_filter.mp hkept).1
      · have hnew := Option.mem_toList.mp hnew
        obtain ⟨hendpoint, hpolicy, hgeneration, hmode⟩ := hcompiled.defaultIsGood d hnew
        rw [hendpoint]
        exact ⟨hpolicy, hcompiled.identified, hgeneration, hmode,
          hplaced (by rintro ⟨⟩; cases hnew)⟩
    · rw [replacedDefaults, List.map_append, List.nodup_append]
      refine ⟨hdefaults.2.sublist (List.filter_sublist.map _), ?_, ?_⟩
      · cases default with
        | none => simp
        | some d => simp
      · rintro id hid _ hd rfl
        obtain ⟨kept, hkept, rfl⟩ := List.mem_map.mp hid
        obtain ⟨d, hd, heq⟩ := List.mem_map.mp hd
        have hne : kept.endpointId ≠ c.endpoint.id := by simpa using (List.mem_filter.mp hkept).2
        exact hne (heq ▸ (hcompiled.defaultIsGood d (Option.mem_toList.mp hd)).1)

include hvalid hparts in
theorem nodup_replacedRules_iff :
    ((replacedRules fabric c.endpoint.id rules).map (·.id)).Nodup ↔ BringsNewRules fabric c := by
  have hids := (compileEndpointParts_ok hparts).ids
  obtain ⟨_, _, _, hpolicies, _⟩ := hvalid
  have hkept : ((fabric.policies.filter (·.endpointId ≠ c.endpoint.id)).map (·.id)).Nodup :=
    hpolicies.2.sublist (List.filter_sublist.map _)
  rw [replacedRules, List.map_append, List.nodup_append, hids.nodup_iff, BringsNewRules]
  constructor
  · rintro ⟨_, hnodup, hdisjoint⟩
    refine ⟨hnodup, fun policy hpolicy hother hmem => ?_⟩
    have hleft : policy ∈ fabric.policies.filter (·.endpointId ≠ c.endpoint.id) :=
      List.mem_filter.mpr ⟨hpolicy, by simpa using hother⟩
    exact hdisjoint policy.id (List.mem_map_of_mem hleft) policy.id (hids.mem_iff.mpr hmem) rfl
  · rintro ⟨hnodup, hnew⟩
    refine ⟨hkept, hnodup, ?_⟩
    rintro id hid _ hmem rfl
    obtain ⟨policy, hpolicy, rfl⟩ := List.mem_map.mp hid
    obtain ⟨hpolicy, hother⟩ := List.mem_filter.mp hpolicy
    exact hnew policy hpolicy (by simpa using hother) (hids.mem_iff.mp hmem)

include hvalid hparts in
/-- **One call**: it returns a valid fabric exactly when it fits. -/
theorem attached_iff :
    (∃ attached, attachToFabric fabric c.endpoint.id c.graph default rules = some attached ∧
        fabricIsValid attached nodeId) ↔ IsHere fabric c ∧ BringsNewRules fabric c := by
  have hgeneration : fabric.policyGeneration ≠ 0 := hvalid.1.2.2.2.2.2.2.2.2.2.2.2.2.2.1
  have hle : fabric.policyGeneration ≤ attachedGeneration fabric c.graph := le_max_left _ _
  have hsnapshot := fabricIsValid_snapshotOf hvalid (attachedGeneration fabric c.graph)
    (replacedDefaults fabric c.endpoint.id default) (replacedRules fabric c.endpoint.id rules)
  rw [← accepts_iff hvalid hparts, ← nodup_replacedRules_iff hvalid hparts]
  constructor
  · rintro ⟨_, hattached, hvalid'⟩
    obtain ⟨_, haccepts, rfl⟩ := attachToFabric_eq_some_iff.mp hattached
    exact ⟨haccepts, (hsnapshot.mp hvalid').2.2.1⟩
  · rintro ⟨haccepts, hnodup⟩
    refine ⟨_, attachToFabric_eq_some_iff.mpr ⟨by omega, haccepts, rfl⟩, ?_⟩
    exact hsnapshot.mpr ⟨by omega, haccepts.1, hnodup, haccepts.2⟩

end Fabric

section Runs

variable {lib : PlanLibrary} {start : Plan} {startFabric : NamespacedRoutedFabricPlan}

/-- The plan has a valid fabric, and holds the latest graphs. -/
def IsAdmissible (start : Plan) (startFabric : NamespacedRoutedFabricPlan) (w : PolicyRun) : Prop :=
  ∃ fabric, w.plan.fabric = some fabric ∧ fabricIsValid fabric w.plan.nodeId ∧
    HoldsLatest start startFabric w.calls w.plan fabric

theorem HoldsLatest.attached {w : PolicyRun} {c : PolicyCall} {fabric : NamespacedRoutedFabricPlan}
    {default : Option PolicyDefaultIntent} {rules : List PolicyIntent}
    (hparts : compileEndpointParts c.endpoint c.graph c.realm = .ok (default, rules))
    (h : HoldsLatest start startFabric w.calls w.plan fabric) :
    HoldsLatest start startFabric (c :: w.calls)
      (withPolicy lib w.plan c.endpoint.id c.graph default rules
        (some (attachedFabric fabric c.endpoint.id c.graph default rules)))
      (attachedFabric fabric c.endpoint.id c.graph default rules) := by
  have hcompiled := compileEndpointParts_ok hparts
  have hcall : c.parts = (default, rules) := by
    rw [PolicyCall.parts, hparts]
  have hintents : c.intents = default.toList.map .policyDefault ++ rules.map .policy := by
    rw [PolicyCall.intents, hcall]
  refine ⟨fun id => ?_, fun id => ?_, fun id => ?_⟩
  · rw [latest_cons, hcall, ← h.rules id]
    have hreplaced := filter_replaced
      (fun id (r : PolicyIntent) => decide (r.endpointId = id))
      (fun r a b ha hb => by simp_all) fabric.policies
      (fun r hr => by simpa using (hcompiled.rulesAreGood r hr).1) id
    simpa [attachedFabric, snapshotOf, replacedRules] using hreplaced
  · rw [latest_cons, hcall, ← h.defaults id]
    have hreplaced := filter_replaced
      (fun id (d : PolicyDefaultIntent) => decide (d.endpointId = id))
      (fun r a b ha hb => by simp_all) fabric.policyDefaults
      (fun d hd => by simpa using (hcompiled.defaultIsGood d (Option.mem_toList.mp hd)).1) id
    simpa [attachedFabric, snapshotOf, replacedDefaults] using hreplaced
  · have hreplaced := filter_replaced
      (fun id (intent : NetworkPlanIntent) => intent.isPolicyOf id)
      isPolicyOf_unique w.plan.intents hcompiled.isPolicyOf id
    rw [latest_cons, hintents]
    refine (((sortBy_perm _).filter _).trans (.of_eq hreplaced)).trans ?_
    split_ifs with hid
    · exact List.Perm.refl _
    · exact h.intents id

variable {w : PolicyRun} {c : PolicyCall}

theorem PolicyRun.step_of_good (h : Good lib start startFabric w c) :
    IsAdmissible start startFabric (w.step lib c) := by
  obtain ⟨plan, fabric, hattach, hvalid, hfabric, hlatest⟩ := h
  have hstep : w.step lib c = ⟨plan, c :: w.calls⟩ := by
    rw [PolicyRun.step, hattach]
  rw [hstep]
  refine ⟨fabric, hfabric, ?_, hlatest⟩
  by_contra hnot
  simp [NodeNetworkPlan.validateFabric, hfabric, hnot] at hvalid

/-- **One step**: the call is good exactly when it fits the fabric. -/
theorem good_iff_fits (h : IsAdmissible start startFabric w)
    (hcompiles : ∃ parts, compileEndpointParts c.endpoint c.graph c.realm = .ok parts) :
    Good lib start startFabric w c ↔ FitsFabric w c := by
  obtain ⟨fabric, hfabric, hvalid, hlatest⟩ := h
  obtain ⟨⟨default, rules⟩, hparts⟩ := hcompiles
  have hfits : FitsFabric w c ↔ IsHere fabric c ∧ BringsNewRules fabric c := by
    simp [FitsFabric, hfabric]
  have hattach : c.attach lib w.plan =
      (attachToFabric? (some fabric) c.endpoint.id c.graph default rules).map
        (withPolicy lib w.plan c.endpoint.id c.graph default rules) := by
    rw [PolicyCall.attach, attachEndpointPolicyToPlan_eq hparts, hfabric]
  rw [hfits, ← attached_iff hvalid hparts]
  constructor
  · rintro ⟨plan, fabric', hok, hvalid', hfabric', _⟩
    rw [hattach] at hok
    cases hattached : attachToFabric fabric c.endpoint.id c.graph default rules with
    | none => simp [attachToFabric?, hattached, Except.map] at hok
    | some attached =>
      simp only [attachToFabric?, hattached, Except.map, Except.ok.injEq] at hok
      subst hok
      refine ⟨attached, rfl, ?_⟩
      by_contra hnot
      simp [NodeNetworkPlan.validateFabric, withPolicy, rebind, hnot] at hvalid'
  · rintro ⟨attached, hattached, hvalid'⟩
    obtain ⟨_, _, rfl⟩ := attachToFabric_eq_some_iff.mp hattached
    refine ⟨_, _, by rw [hattach, attachToFabric?, hattached]; rfl, ?_, rfl,
      hlatest.attached hparts⟩
    simp [NodeNetworkPlan.validateFabric, withPolicy, rebind, hvalid']

/-- **Policies keep a fabric plan admissible** exactly as long as every call
fits: its endpoint is in the directory, if a policy is attached to it, and none
of its rules is there twice or in force for another endpoint. -/
theorem policies_keep_admissible_iff
    (hfabric : start.fabric = some startFabric) (hvalid : start.validateFabric = .ok ())
    (calls : List PolicyCall)
    (hcompiles :
      ∀ c ∈ calls, ∃ parts, compileEndpointParts c.endpoint c.graph c.realm = .ok parts) :
    EachStep (PolicyRun.step lib) (Good lib start startFabric) ⟨start, []⟩ calls ↔
    EachStep (PolicyRun.step lib) FitsFabric ⟨start, []⟩ calls := by
  have hstart : IsAdmissible start startFabric ⟨start, []⟩ := by
    refine ⟨startFabric, hfabric, ?_, fun _ => rfl, fun _ => rfl, fun _ => List.Perm.refl _⟩
    by_contra hnot
    simp [NodeNetworkPlan.validateFabric, hfabric, hnot] at hvalid
  generalize (⟨start, []⟩ : PolicyRun) = w at hstart
  induction calls generalizing w with
  | nil => exact Iff.rfl
  | cons c calls ih =>
    obtain ⟨hc, hrest⟩ := List.forall_mem_cons.mp hcompiles
    have hgood : Good lib start startFabric w c ↔ FitsFabric w c := good_iff_fits hstart hc
    constructor
    · rintro ⟨hhead, htail⟩
      exact ⟨hgood.mp hhead, (ih hrest _ (PolicyRun.step_of_good hhead)).mp htail⟩
    · rintro ⟨hhead, htail⟩
      have hhead := hgood.mpr hhead
      exact ⟨hhead, (ih hrest _ (PolicyRun.step_of_good hhead)).mpr htail⟩

end Runs

/-- The policy is attached to both endpoints. -/
def sharedCall (endpoint : CanonicalEndpointRecord) : PolicyCall :=
  ⟨endpoint, frontRealm, webGraph ["web", "app"]⟩

theorem sharedCall_compiles :
    ∀ c ∈ [sharedCall webEndpoint, sharedCall appEndpoint],
      ∃ parts, compileEndpointParts c.endpoint c.graph c.realm = .ok parts := by
  have hcompiles :
      ∀ c ∈ [sharedCall webEndpoint, sharedCall appEndpoint],
        (compileEndpointParts c.endpoint c.graph c.realm).isOk = true := by
    decide +kernel
  intro c hc
  have hok := hcompiles c hc
  cases hparts : compileEndpointParts c.endpoint c.graph c.realm with
  | ok parts => exact ⟨parts, rfl⟩
  | error e =>
    rw [hparts] at hok
    cases hok

theorem frontPlan_valid : frontPlan.validateFabric = .ok () := by
  decide +kernel

/-- One endpoint has the policy, and has it again. -/
theorem policies_keep_admissible_one :
    EachStep (PolicyRun.step bareLibrary) (Good bareLibrary frontPlan frontFabric)
      ⟨frontPlan, []⟩ [sharedCall webEndpoint, sharedCall webEndpoint] := by
  refine (policies_keep_admissible_iff rfl frontPlan_valid _ ?_).mpr ?_
  · intro c hc
    have hweb : c = sharedCall webEndpoint := by simpa using hc
    exact hweb ▸ sharedCall_compiles _ List.mem_cons_self
  · exact ⟨by decide +kernel, by decide +kernel, trivial⟩

/-- The second endpoint with the same policy makes the plan inadmissible. -/
theorem shared_policy_refused :
    frontPlan.validateFabric = .ok () ∧
      (∀ c ∈ [sharedCall webEndpoint, sharedCall appEndpoint],
        ∃ parts, compileEndpointParts c.endpoint c.graph c.realm = .ok parts) ∧
      (∀ c ∈ [sharedCall webEndpoint, sharedCall appEndpoint], isPlaced frontFabric c.endpoint.id) ∧
      (∃ plan,
        (sharedCall appEndpoint).attach bareLibrary
            (PolicyRun.step bareLibrary ⟨frontPlan, []⟩ (sharedCall webEndpoint)).plan = .ok plan ∧
          plan.validateFabric = .error .invalidFabricPlan) ∧
      ¬ EachStep (PolicyRun.step bareLibrary) (Good bareLibrary frontPlan frontFabric)
        ⟨frontPlan, []⟩ [sharedCall webEndpoint, sharedCall appEndpoint] := by
  have hrefused :
      ((sharedCall appEndpoint).attach bareLibrary
          (PolicyRun.step bareLibrary ⟨frontPlan, []⟩ (sharedCall webEndpoint)).plan).toOption.map
        (fun plan => plan.validateFabric)
        = some (.error .invalidFabricPlan) := by
    decide +kernel
  cases hattach :
      (sharedCall appEndpoint).attach bareLibrary
        (PolicyRun.step bareLibrary ⟨frontPlan, []⟩ (sharedCall webEndpoint)).plan with
  | error e =>
    rw [hattach] at hrefused
    cases hrefused
  | ok plan =>
    rw [hattach] at hrefused
    have hrefused : plan.validateFabric = .error .invalidFabricPlan := Option.some.inj hrefused
    refine ⟨frontPlan_valid, sharedCall_compiles, by decide +kernel, ⟨plan, rfl, hrefused⟩, ?_⟩
    rintro ⟨_, ⟨plan', _, hattach', hvalid, _⟩, _⟩
    rw [hattach] at hattach'
    rw [← Except.ok.inj hattach', hrefused] at hvalid
    cases hvalid

end Planning
end O3k
