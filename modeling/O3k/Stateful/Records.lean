import O3k.Stateful.Provider

/-!
# What the stateful provider records

The record of the provider is well formed: every policy and every default has
an address.  What is emitted for an endpoint depends on its own policies, on
its own defaults and on its address.
-/

namespace O3k
namespace Stateful

open Relational Semantics
open Network hiding PolicyIntent
open Fabric hiding NetworkPlanError LinuxFabricError
open Planning hiding NetworkPlanError

section Addresses

variable {endpoints known : List PolicyEndpoint} {id : Uuid}

@[simp] theorem addressOf_nil : addressOf [] id = none := by
  rfl

theorem addressOf_cons (endpoint : PolicyEndpoint) :
    addressOf (endpoint :: endpoints) id =
    (addressOf endpoints id).or (if endpoint.endpointId = id then some endpoint.address else none)
    := by
  rw [addressOf, addressOf, List.reverse_cons, List.find?_append]
  cases endpoints.reverse.find? (·.endpointId = id) with
  | some found => simp
  | none =>
    by_cases h : endpoint.endpointId = id
    · simp [h]
    · simp [h]

theorem addressOf_eq_none_iff :
    addressOf endpoints id = none ↔ ∀ e ∈ endpoints, e.endpointId ≠ id := by
  simp [addressOf]

theorem addressOf_upsertEndpoint
    (hnodup : (endpoints.map (·.endpointId)).Nodup) (endpoint : PolicyEndpoint) :
    addressOf (upsertEndpoint endpoints endpoint) id =
    if endpoint.endpointId = id then some endpoint.address else addressOf endpoints id := by
  induction endpoints with
  | nil => simp [upsertEndpoint, addressOf_cons]
  | cons head rest ih =>
    obtain ⟨hhead, hrest⟩ := List.nodup_cons.mp hnodup
    by_cases hsame : head.endpointId = endpoint.endpointId
    · have habsent : ¬ ∃ e ∈ rest, e.endpointId = endpoint.endpointId := by
        rintro ⟨e, he, heq⟩
        exact hhead (List.mem_map.mpr ⟨e, he, heq.trans hsame.symm⟩)
      have hreplaced : upsertEndpoint (head :: rest) endpoint = endpoint :: rest := by
        simp [upsertEndpoint, modifyFirst, hsame]
      rw [hreplaced, addressOf_cons, addressOf_cons, hsame]
      by_cases hid : endpoint.endpointId = id
      · have hnone : addressOf rest id = none :=
          addressOf_eq_none_iff.mpr (fun e he heq => habsent ⟨e, he, heq.trans hid.symm⟩)
        simp [hid, hnone]
      · simp [hid]
    · have hkept : upsertEndpoint (head :: rest) endpoint =
          head :: upsertEndpoint rest endpoint := by
        simp only [upsertEndpoint, List.any_cons, hsame, decide_false, Bool.false_or, modifyFirst,
          Bool.false_eq_true, if_false]
        split_ifs
        · rfl
        · rfl
      rw [hkept, addressOf_cons, addressOf_cons, ih hrest]
      by_cases hid : endpoint.endpointId = id
      · simp [hid]
      · simp [hid]

theorem nodup_upsertEndpoint
    (hnodup : (endpoints.map (·.endpointId)).Nodup) (endpoint : PolicyEndpoint) :
    ((upsertEndpoint endpoints endpoint).map (·.endpointId)).Nodup := by
  rw [upsertEndpoint]
  split_ifs with hany
  · rw [modifyFirst_key_eq_map hnodup, List.map_map]
    refine (List.map_congr_left (fun e _ => ?_)) ▸ hnodup
    rw [Function.comp_apply]
    split_ifs with h
    · exact h
    · rfl
  · rw [List.map_append, List.nodup_append]
    refine ⟨hnodup, by simp, ?_⟩
    intro a ha b hb
    obtain ⟨e, he, rfl⟩ := List.mem_map.mp ha
    rw [List.mem_singleton.mp hb]
    exact fun heq => hany (List.any_eq_true.mpr ⟨e, he, by simpa using heq⟩)

theorem addressOf_mergeEndpoints (hnodup : (endpoints.map (·.endpointId)).Nodup) :
    addressOf (mergeEndpoints endpoints known) id =
    (addressOf known id).or (addressOf endpoints id) := by
  induction known generalizing endpoints with
  | nil => rfl
  | cons endpoint known ih =>
    have hnext : mergeEndpoints endpoints (endpoint :: known)
        = mergeEndpoints (upsertEndpoint endpoints endpoint) known := by
      rfl
    rw [hnext, ih (nodup_upsertEndpoint hnodup endpoint), addressOf_upsertEndpoint hnodup,
      addressOf_cons, Option.or_assoc]
    split_ifs
    · rfl
    · rfl

theorem nodup_mergeEndpoints (hnodup : (endpoints.map (·.endpointId)).Nodup) :
    ((mergeEndpoints endpoints known).map (·.endpointId)).Nodup := by
  induction known generalizing endpoints with
  | nil => exact hnodup
  | cons endpoint known ih => exact ih (nodup_upsertEndpoint hnodup endpoint)

end Addresses

/-- **The record is well formed.** -/
structure Ownership.WellFormed (o : Ownership) : Prop where
  endpoints : (o.endpoints.map (·.endpointId)).Nodup
  policies : ∀ p ∈ o.policies, (addressOf o.endpoints p.endpointId).isSome = true
  defaults : ∀ d ∈ o.defaults, (addressOf o.endpoints d.endpointId).isSome = true
  sorted : o.policies.Pairwise (fun p q => recordKey p ≤ recordKey q)

def policiesFor (policies : List PolicyIntent) (id : Uuid) : List PolicyIntent :=
  policies.filter (·.endpointId = id)

/-- How many defaults deny what the policies of the endpoint leave open. -/
def denials (defaults : List PolicyDefaultIntent) (id : Uuid) : Nat :=
  defaults.countP fun d => d.endpointId = id && d.unmatchedAction = .deny

theorem denials_eq_zero_iff {defaults : List PolicyDefaultIntent} {id : Uuid} :
    denials defaults id = 0 ↔ ∀ d ∈ defaults, d.endpointId = id → d.unmatchedAction ≠ .deny := by
  simp [denials]

/-- The rules of policies and denials at an address. -/
def emission (address : Ipv4Addr) (policies : List PolicyIntent) (denials : Nat) :
    List (List NftMatch × NftVerdict) :=
  (sortBy PolicyIntent.sortKey policies).map
      (fun p => ruleContent (policyRule policyMarker address 0 p)) ++
    (List.replicate denials ((denyRules policyMarker address).map ruleContent)).flatten

theorem length_emission {address : Ipv4Addr} {policies : List PolicyIntent} {n : Nat} :
    (emission address policies n).length = policies.length + 2 * n := by
  have hdrops :
      ((denyRules policyMarker address).map ruleContent).length = 2 := by
    rfl
  simp [emission, (sortBy_perm policies).length_eq, hdrops, Nat.mul_comm]

theorem address_eq_of_emission_eq {a b : Ipv4Addr} {policies : List PolicyIntent} {n : Nat}
    (h : emission a policies n = emission b policies n) (hne : emission a policies n ≠ []) :
    a = b := by
  rw [emission, emission] at h
  rw [emission] at hne
  cases hsorted : sortBy PolicyIntent.sortKey policies with
  | cons p rest =>
    rw [hsorted] at h
    have hhead := (List.cons.inj h).1
    have htest : endpointTest a p = endpointTest b p := (List.cons.inj (congrArg Prod.fst hhead)).1
    rw [endpointTest, endpointTest] at htest
    cases hdirection : p.direction with
    | ingress =>
      rw [hdirection] at htest
      exact NftMatch.daddr.inj htest
    | egress =>
      rw [hdirection] at htest
      exact NftMatch.saddr.inj htest
  | nil =>
    rw [hsorted] at h hne
    cases n with
    | zero => exact absurd rfl hne
    | succ n =>
      have hhead := (List.cons.inj h).1
      have htest : [NftMatch.daddr a] = [NftMatch.daddr b] := congrArg Prod.fst hhead
      exact NftMatch.daddr.inj (List.cons.inj htest).1

theorem ruleContent_policyRule (address : Ipv4Addr) (index : Nat) (p : PolicyIntent) :
    ruleContent (policyRule policyMarker address index p)
      = ruleContent (policyRule policyMarker address 0 p) := by
  rfl

theorem policiesFor_cons (p : PolicyIntent) (rest : List PolicyIntent) (id : Uuid) :
    policiesFor (p :: rest) id
      = if p.endpointId = id then p :: policiesFor rest id else policiesFor rest id := by
  rw [policiesFor, List.filter_cons]
  by_cases hid : p.endpointId = id
  · simp [hid, policiesFor]
  · simp [hid, policiesFor]

theorem denials_cons (d : PolicyDefaultIntent) (rest : List PolicyDefaultIntent) (id : Uuid) :
    denials (d :: rest) id =
    denials rest id + if d.endpointId = id ∧ d.unmatchedAction = .deny then 1 else 0 := by
  rw [denials, List.countP_cons]
  simp [denials]

section Emitted

variable {o : Ownership} {id : Uuid}

theorem rulesFor_append (steps others : List (Uuid × Option NftRule)) :
    rulesFor (steps ++ others) id = rulesFor steps id ++ rulesFor others id := by
  rw [rulesFor, List.filter_append, List.filterMap_append]
  rfl

variable {steps : List (Uuid × Option NftRule)}

theorem rulesFor_of_ne (h : ∀ step ∈ steps, step.1 ≠ id) : rulesFor steps id = [] := by
  rw [rulesFor, List.filter_eq_nil_iff.mpr]
  · rfl
  · intro step hstep hid
    exact h step hstep (of_decide_eq_true hid)

theorem rulesFor_of_eq (h : ∀ step ∈ steps, step.1 = id) :
    rulesFor steps id = steps.filterMap fun step => step.2.map ruleContent := by
  rw [rulesFor, List.filter_eq_self.mpr]
  intro step hstep
  exact decide_eq_true (h step hstep)

theorem rulesFor_policySteps
    (endpoints : List PolicyEndpoint) (policies : List PolicyIntent) (start : Nat) :
    rulesFor ((policies.zipIdx start).map (policyStep endpoints)) id =
    (addressOf endpoints id).elim [] fun address =>
      (policiesFor policies id).map fun p => ruleContent (policyRule policyMarker address 0 p) := by
  induction policies generalizing start with
  | nil =>
    cases addressOf endpoints id with
    | none => rfl
    | some address => rfl
  | cons p rest ih =>
    rw [List.zipIdx_cons, List.map_cons, ← List.singleton_append, rulesFor_append, ih,
      policiesFor_cons]
    by_cases hid : p.endpointId = id
    · rw [rulesFor_of_eq (by simpa [policyStep] using hid), if_pos hid]
      subst hid
      cases haddress : addressOf endpoints p.endpointId with
      | none => simp [policyStep, haddress]
      | some address => simp [policyStep, haddress, ruleContent_policyRule address start]
    · rw [rulesFor_of_ne (by simpa [policyStep] using hid), if_neg hid]
      rfl

theorem endpoint_of_mem_defaultSteps {endpoints : List PolicyEndpoint} {d : PolicyDefaultIntent} :
    ∀ step ∈ defaultSteps endpoints d, step.1 = d.endpointId := by
  intro step hstep
  rw [defaultSteps] at hstep
  split at hstep
  · rw [List.mem_singleton.mp hstep]
  · split_ifs at hstep
    · obtain ⟨rule, _, rfl⟩ := List.mem_map.mp hstep
      rfl
    · exact absurd hstep List.not_mem_nil

theorem rulesFor_defaultSteps
    (endpoints : List PolicyEndpoint) (defaults : List PolicyDefaultIntent) :
    rulesFor (defaults.flatMap (defaultSteps endpoints)) id =
    (addressOf endpoints id).elim [] fun address =>
      (List.replicate (denials defaults id)
        ((denyRules policyMarker address).map ruleContent)).flatten := by
  induction defaults with
  | nil =>
    cases addressOf endpoints id with
    | none => rfl
    | some address => rfl
  | cons d rest ih =>
    rw [List.flatMap_cons, rulesFor_append, ih, denials_cons]
    by_cases hid : d.endpointId = id
    · subst hid
      rw [rulesFor_of_eq endpoint_of_mem_defaultSteps]
      cases haddress : addressOf endpoints d.endpointId with
      | none => simp [defaultSteps, haddress]
      | some address =>
        by_cases hdeny : d.unmatchedAction = .deny
        · simp [defaultSteps, haddress, hdeny, denyRules, List.replicate_succ]
        · simp [defaultSteps, haddress, hdeny]
    · rw [rulesFor_of_ne (fun step hstep h => hid ((endpoint_of_mem_defaultSteps step hstep).symm.trans h))]
      simp [hid]

/-- **What is emitted for an endpoint** depends on its own policies, on its own
defaults and on its address. -/
theorem emittedFor_eq :
    o.emittedFor id = (addressOf o.endpoints id).elim [] fun address =>
      emission address (policiesFor o.policies id) (denials o.defaults id) := by
  rw [Ownership.emittedFor, Ownership.steps, rulesFor_append, rulesFor_policySteps,
    rulesFor_defaultSteps]
  cases addressOf o.endpoints id with
  | none => rfl
  | some address => simp [emission, policiesFor, filter_sortBy]

theorem length_emittedFor (h : o.WellFormed) :
    (o.emittedFor id).length = (policiesFor o.policies id).length + 2 * denials o.defaults id := by
  rw [emittedFor_eq]
  cases haddress : addressOf o.endpoints id with
  | some address => exact length_emission
  | none =>
    have hpolicies : policiesFor o.policies id = [] := by
      refine List.filter_eq_nil_iff.mpr (fun p hp hid => ?_)
      have hsome := h.policies p hp
      rw [of_decide_eq_true hid, haddress] at hsome
      cases hsome
    have hdefaults : denials o.defaults id = 0 := by
      refine denials_eq_zero_iff.mpr (fun d hd hid => ?_)
      have hsome := h.defaults d hd
      rw [hid, haddress] at hsome
      cases hsome
    rw [hpolicies, hdefaults]
    rfl

end Emitted

end Stateful
end O3k
