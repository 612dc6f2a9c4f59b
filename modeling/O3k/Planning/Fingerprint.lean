import O3k.Planning.Compile

/-!
# The fingerprint of a plan

Every function that returns a plan hashes what it returns.  The intents are
sorted first, so that it does not matter in which order they, or the lists of
the source, come; and the bytes determine everything that is hashed, the
intents up to their order.
-/

namespace O3k
namespace Planning

open Relational Relational.Transaction Execution Gateways Json Function
open Network hiding PolicyIntent
open Fabric hiding NetworkPlanError AddressRealm

/-- The bytes that `canonical_plan_fingerprint` hashes. -/
def hashedBytes (plan : Plan) : Bytes :=
  render (fingerprintValue
    { planId := plan.planId
      nodeId := plan.nodeId
      operationId := plan.operationId
      schemaVersion := plan.schemaVersion
      resourceGenerations := plan.resourceGenerations
      intents := sortBy intentKey plan.intents
      gateway := plan.gateway
      fabric := plan.fabric })

section Library

variable (lib : PlanLibrary) (digest : Bytes → String)

/-- The plans that the functions of the module return, in any composition. -/
inductive Produced : Plan → Prop
  | compiled {intent : NetworkIntent} {nodeId : String} {operationId : Uuid} {deadlineUnixMs : Nat}
      {capabilities : List NetworkCapability} {realms : List AddressRealm} {plan : Plan}
      (h :
        compileNodeNetworkPlan digest intent nodeId operationId deadlineUnixMs capabilities realms
          = .ok plan) :
      Produced plan
  | attachment {input : AttachmentPlanInput} {policyDefaults : List PolicyDefaultIntent}
      {plan : Plan}
      (h :
        compileAttachmentPlanWithDefaults (serdeLibrary lib digest) digest input policyDefaults
          = .ok plan) :
      Produced plan
  | gatewayOnly {gateway : L3GatewayExecutionPlan} {nodeId : String} {operationId : Uuid}
      {deadlineUnixMs : Nat} {plan : Plan}
      (h :
        compileL3GatewayNetworkPlan (serdeLibrary lib digest) gateway nodeId operationId
          deadlineUnixMs = .ok plan) :
      Produced plan
  | routed {plan : Plan} (h : Produced plan) (routes : List GatewayIntent)
      (egress : List EgressIntent) :
      Produced (addL3GatewayRouting (serdeLibrary lib digest) plan routes egress)
  | fabric {plan next : Plan} {fabric : NamespacedRoutedFabricPlan} (h : Produced plan)
      (hnext : plan.withFabric (serdeLibrary lib digest) fabric = .ok next) :
      Produced next
  | gateway {plan next : Plan} {gateway : L3GatewayExecutionPlan} (h : Produced plan)
      (hnext : withGateway (serdeLibrary lib digest) plan gateway = .ok next) :
      Produced next
  | policy {plan next : Plan} {endpoint : CanonicalEndpointRecord}
      {realm : CanonicalAddressRealmRecord} {graph : PolicyGraph} (h : Produced plan)
      (hnext :
        attachEndpointPolicyToPlan (serdeLibrary lib digest) plan endpoint realm graph
          = .ok next) :
      Produced next

variable {lib digest}

theorem ensure_bind_eq_ok {p : Prop} [Decidable p] {error : NetworkPlanError} {α : Type}
    {f : Unit → Except NetworkPlanError α} {a : α} :
    (ensure p error >>= f) = .ok a ↔ p ∧ f () = .ok a := by
  by_cases hp : p
  · simp [ensure, hp, bind, Except.bind]
  · simp [ensure, hp, bind, Except.bind]

theorem elim_bind_eq_ok {α β : Type} {x : Option α} {error : NetworkPlanError}
    {f : α → Except NetworkPlanError β} {b : β} :
    ((x.elim (.error error) .ok : Except NetworkPlanError α) >>= f) = .ok b ↔
    ∃ a, x = some a ∧ f a = .ok b := by
  cases x with
  | none => simp [bind, Except.bind]
  | some a => simp [bind, Except.bind]

/-- A plan carries the hash of itself. -/
def IsBound (lib : PlanLibrary) (plan : Plan) : Prop :=
  plan.fingerprintSha256 = canonicalPlanFingerprint lib plan

theorem canonicalPlanFingerprint_serde (plan : Plan) :
    canonicalPlanFingerprint (serdeLibrary lib digest) plan = digest (hashedBytes plan) :=
  rfl

theorem rebind_bound (lib : PlanLibrary) (plan : Plan) : IsBound lib (rebind lib plan) := rfl

theorem sortBy_sortBy (intents : List NetworkPlanIntent) :
    sortBy intentKey (sortBy intentKey intents) = sortBy intentKey intents :=
  sortBy_eq_of_perm_of_injective intentKey_injective (sortBy_perm intents)

theorem unsignedPlan_bound
    (planId : Uuid) (nodeId : String) (operationId : Uuid) (deadlineUnixMs : Nat)
    (generations : Table (Prod.fst : Uuid × Nat → Uuid)) (intents : List NetworkPlanIntent) :
    IsBound (serdeLibrary lib digest)
      (unsignedPlan digest planId nodeId operationId deadlineUnixMs generations
        (sortBy intentKey intents)) := by
  rw [IsBound, canonicalPlanFingerprint_serde]
  show _ = digest (render (fingerprintValue
    ⟨planId, nodeId, operationId, nodeNetworkPlanSchemaVersion, generations,
      sortBy intentKey (sortBy intentKey intents), none, none⟩))
  rw [sortBy_sortBy]
  rfl

section Compiler

variable {intent : NetworkIntent} {gateway : Ipv4Addr}

/-- The endpoints that the loop accepts after the ones that it has seen. -/
def EndpointsFit (intent : NetworkIntent) (gateway : Ipv4Addr)
    (generations : Table (Prod.fst : Uuid × Nat → Uuid)) (addresses : List Ipv4Addr)
    (macs : List String) (endpoints : List EndpointIntent) : Prop :=
  (∀ e ∈ endpoints,
      isInRealm intent e ∧ validMac e.mac.toLower = true ∧ e.fixedIp ≠ gateway ∧
        generations.get? e.id = none ∧ e.fixedIp ∉ addresses ∧ e.mac.toLower ∉ macs) ∧
    (endpoints.map (·.id)).Nodup ∧ (endpoints.map (·.fixedIp)).Nodup ∧
    (endpoints.map (·.mac.toLower)).Nodup

theorem endpointsFit_cons {generations : Table (Prod.fst : Uuid × Nat → Uuid)}
    {addresses : List Ipv4Addr} {macs : List String} {e : EndpointIntent}
    {rest : List EndpointIntent} :
    EndpointsFit intent gateway generations addresses macs (e :: rest) ↔
    isInRealm intent e ∧ validMac e.mac.toLower = true ∧
      (generations.get? e.id = none ∧ e.fixedIp ∉ addresses ∧ e.mac.toLower ∉ macs ∧
        e.fixedIp ≠ gateway) ∧
      EndpointsFit intent gateway (generations.put (e.id, e.generation)) (e.fixedIp :: addresses)
        (e.mac.toLower :: macs) rest := by
  rw [EndpointsFit, EndpointsFit, List.forall_mem_cons]
  simp only [List.map_cons, List.nodup_cons, List.mem_map, Table.get?_put, List.mem_cons, not_or]
  constructor
  · rintro ⟨⟨⟨hrealm, hmac, hgateway, hid, haddress, hmacs⟩, hrest⟩, ⟨hids, hnodup⟩,
      ⟨haddresses, hnodup'⟩, ⟨hmacs', hnodup''⟩⟩
    refine ⟨hrealm, hmac, ⟨hid, haddress, hmacs, hgateway⟩, ?_, hnodup, hnodup', hnodup''⟩
    intro f hf
    obtain ⟨h1, h2, h3, h4, h5, h6⟩ := hrest f hf
    refine ⟨h1, h2, h3, ?_, ⟨fun h => haddresses ⟨f, hf, h⟩, h5⟩, fun h => hmacs' ⟨f, hf, h⟩, h6⟩
    rw [if_neg (fun h => hids ⟨f, hf, h.symm⟩)]
    exact h4
  · rintro ⟨hrealm, hmac, ⟨hid, haddress, hmacs, hgateway⟩, hrest, hnodup, hnodup', hnodup''⟩
    refine ⟨⟨⟨hrealm, hmac, hgateway, hid, haddress, hmacs⟩, ?_⟩, ⟨?_, hnodup⟩, ⟨?_, hnodup'⟩,
      ⟨?_, hnodup''⟩⟩
    · intro f hf
      obtain ⟨h1, h2, h3, h4, ⟨_, h5⟩, _, h6⟩ := hrest f hf
      refine ⟨h1, h2, h3, ?_, h5, h6⟩
      by_contra hsome
      split_ifs at h4
      exact hsome h4
    · rintro ⟨f, hf, heq⟩
      have hnone := (hrest f hf).2.2.2.1
      rw [if_pos heq.symm] at hnone
      cases hnone
    · rintro ⟨f, hf, heq⟩
      exact (hrest f hf).2.2.2.2.1.1 heq
    · rintro ⟨f, hf, heq⟩
      exact (hrest f hf).2.2.2.2.2.1 heq

/-- **Spec of the loop over the endpoints.** -/
theorem compileEndpoints_eq_ok {endpoints : List EndpointIntent}
    {generations recorded : Table (Prod.fst : Uuid × Nat → Uuid)} {addresses : List Ipv4Addr}
    {macs : List String} {intents : List NetworkPlanIntent} :
    compileEndpoints intent gateway endpoints generations addresses macs = .ok (recorded, intents) ↔
    EndpointsFit intent gateway generations addresses macs endpoints ∧
      recorded = (endpoints.map (fun e => (e.id, e.generation))).foldl Table.put generations ∧
      intents = endpoints.flatMap endpointIntents := by
  induction endpoints generalizing generations addresses macs recorded intents with
  | nil =>
    rw [compileEndpoints]
    constructor
    · intro h
      cases h
      exact ⟨by simp [EndpointsFit], rfl, rfl⟩
    · rintro ⟨_, rfl, rfl⟩
      rfl
  | cons e rest ih =>
    rw [compileEndpoints, ensure_bind_eq_ok, ensure_bind_eq_ok, ensure_bind_eq_ok,
      except_bind_eq_ok, endpointsFit_cons]
    constructor
    · rintro ⟨hrealm, hmac, hnew, ⟨recorded', intents'⟩, hrest, hreturn⟩
      obtain ⟨hfit, rfl, rfl⟩ := ih.mp hrest
      cases hreturn
      exact ⟨⟨hrealm, hmac, hnew, hfit⟩, rfl, rfl⟩
    · rintro ⟨⟨hrealm, hmac, hnew, hfit⟩, rfl, rfl⟩
      exact ⟨hrealm, hmac, hnew, (_, _), ih.mpr ⟨hfit, rfl, rfl⟩, rfl⟩

/-- The generations that are recorded for the endpoints of the source. -/
def NetworkIntent.recorded (intent : NetworkIntent) : Table (Prod.fst : Uuid × Nat → Uuid) :=
  (intent.endpoints.map (fun e => (e.id, e.generation))).foldl Table.put ∅

/-- What the compiler asks of the source. -/
structure Compilable
    (intent : NetworkIntent) (nodeId : String) (capabilities : List NetworkCapability)
    (realms : List AddressRealm) (gateway : Ipv4Addr) : Prop where
  owned : nodeId ≠ "" ∧ intent.realm.projectId = intent.projectId
  overlap : overlapIsAllowed intent capabilities realms
  ipv4 : NetworkCapability.ipv4 ∈ capabilities
  attachment : NetworkCapability.endpointAttachment ∈ capabilities
  routes : intent.routes ≠ [] → NetworkCapability.routing ∈ capabilities
  gateways : intent.gateways ≠ [] → NetworkCapability.routing ∈ capabilities
  egress :
    (∃ egress ∈ intent.egress, egress.enabled = true) → NetworkCapability.routing ∈ capabilities
  nat :
    ((∃ egress ∈ intent.egress, egress.enabled = true) ∧
      ∃ egress ∈ intent.egress, egress.nat = true) → NetworkCapability.nat ∈ capabilities
  publicAddresses :
    intent.publicAddresses ≠ [] → NetworkCapability.publicAddressRealization ∈ capabilities
  policies : intent.policies ≠ [] → NetworkCapability.statefulPolicy ∈ capabilities
  address : gatewayAddress intent = some gateway
  pools : ∀ pool ∈ intent.addressPools, poolIsValid intent gateway pool
  endpoints : EndpointsFit intent gateway ∅ [] [] intent.endpoints
  bindings : bindingsAreOwned intent intent.recorded
  shapes : policiesAreShaped intent intent.recorded
  addresses : gatewaysAreInRealm intent

def compiledPlan
    (digest : Bytes → String) (intent : NetworkIntent) (nodeId : String) (operationId : Uuid)
    (deadlineUnixMs : Nat) (gateway : Ipv4Addr) :
    Plan :=
  unsignedPlan digest intent.id nodeId operationId deadlineUnixMs intent.recorded
    (sortBy intentKey (collectIntents intent gateway (intent.endpoints.flatMap endpointIntents)))

variable {capabilities : List NetworkCapability} {nodeId : String} {realms : List AddressRealm}

/-- **Spec of the compiler.** -/
theorem compileNodeNetworkPlan_eq_ok {operationId : Uuid} {deadlineUnixMs : Nat} {plan : Plan} :
    compileNodeNetworkPlan digest intent nodeId operationId deadlineUnixMs capabilities realms
        = .ok plan
      ↔
    ∃ gateway,
      Compilable intent nodeId capabilities realms gateway ∧
        compiledPlan digest intent nodeId operationId deadlineUnixMs gateway = plan := by
  simp only [compileNodeNetworkPlan, requireCapability, requireIf, ensure_bind_eq_ok,
    elim_bind_eq_ok, except_bind_eq_ok (x := compileEndpoints _ _ _ _ _ _)]
  constructor
  · rintro ⟨h1, h2, h3, h4, h5, h6, h7, h8, h9, h10, gateway, h11, h12, ⟨generations, attachments⟩,
      hendpoints, h13, h14, h15, hreturn⟩
    obtain ⟨hfit, rfl, rfl⟩ := compileEndpoints_eq_ok.mp hendpoints
    exact ⟨gateway, ⟨h1, h2, h3, h4, h5, h6, h7, h8, h9, h10, h11, h12, hfit, h13, h14, h15⟩,
      Except.ok.inj hreturn⟩
  · rintro ⟨gateway, ⟨h1, h2, h3, h4, h5, h6, h7, h8, h9, h10, h11, h12, hfit, h13, h14, h15⟩, rfl⟩
    exact ⟨h1, h2, h3, h4, h5, h6, h7, h8, h9, h10, gateway, h11, h12, (_, _),
      compileEndpoints_eq_ok.mpr ⟨hfit, rfl, rfl⟩, h13, h14, h15, rfl⟩

/-- The same source, with its lists in another order. -/
structure Reordered (a b : NetworkIntent) : Prop where
  rest :
    a.id = b.id ∧ a.projectId = b.projectId ∧ a.realm = b.realm ∧
      a.addressPools = b.addressPools ∧ a.generation = b.generation ∧ a.state = b.state
  endpoints : a.endpoints.Perm b.endpoints
  routes : a.routes.Perm b.routes
  gateways : a.gateways.Perm b.gateways
  egress : a.egress.Perm b.egress
  publicAddresses : a.publicAddresses.Perm b.publicAddresses
  policies : a.policies.Perm b.policies

theorem Reordered.symm {a b : NetworkIntent} (h : Reordered a b) : Reordered b a := by
  obtain ⟨⟨hid, hproject, hrealm, hpools, hgeneration, hstate⟩, h1, h2, h3, h4, h5, h6⟩ := h
  exact ⟨⟨hid.symm, hproject.symm, hrealm.symm, hpools.symm, hgeneration.symm, hstate.symm⟩,
    h1.symm, h2.symm, h3.symm, h4.symm, h5.symm, h6.symm⟩

theorem perm_ne_nil {α : Type} {xs ys : List α} (h : xs.Perm ys) (hys : ys ≠ []) : xs ≠ [] := by
  rintro rfl
  exact hys h.nil_eq.symm

theorem EndpointsFit.perm {a b : List EndpointIntent}
    (hperm : a.Perm b) (h : EndpointsFit intent gateway ∅ [] [] a) :
    EndpointsFit intent gateway ∅ [] [] b :=
  ⟨fun e he => h.1 e (hperm.mem_iff.mpr he), ((hperm.map _).nodup_iff).mp h.2.1,
    ((hperm.map _).nodup_iff).mp h.2.2.1, ((hperm.map _).nodup_iff).mp h.2.2.2⟩

variable {a b : NetworkIntent}

theorem Reordered.recorded (h : Reordered a b) (hnodup : (a.endpoints.map (·.id)).Nodup) :
    a.recorded = b.recorded :=
  Table.foldl_put_perm ∅ (h.endpoints.map _) (by simpa [List.map_map, comp_def] using hnodup)

theorem Reordered.collectIntents (h : Reordered a b) (gateway : Ipv4Addr) :
    (Planning.collectIntents a gateway (a.endpoints.flatMap endpointIntents)).Perm
      (Planning.collectIntents b gateway (b.endpoints.flatMap endpointIntents)) := by
  obtain ⟨⟨_, _, hrealm, _⟩, hendpoints, hroutes, hgateways, hegress, hpublic, hpolicies⟩ := h
  rw [Planning.collectIntents, Planning.collectIntents, hrealm]
  refine ((((List.Perm.append ?_ (hroutes.map _)).append (hgateways.map _)).append
    (hegress.map _)).append (hpublic.map _)).append (hpolicies.map _)
  exact (hendpoints.flatMap_right endpointIntents).cons _

theorem Reordered.compilable
    (h : Reordered a b) (hcompilable : Compilable a nodeId capabilities realms gateway) :
    Compilable b nodeId capabilities realms gateway := by
  have hrecorded := h.recorded hcompilable.endpoints.2.1
  obtain ⟨⟨hid, hproject, hrealm, hpools, hgeneration, hstate⟩, hendpoints, hroutes, hgateways,
    hegress, hpublic, hpolicies⟩ := h
  cases a
  cases b
  dsimp only at *
  subst hid hproject hrealm hpools hgeneration hstate
  exact
    { owned := hcompilable.owned
      overlap := hcompilable.overlap
      ipv4 := hcompilable.ipv4
      attachment := hcompilable.attachment
      routes := fun hne => hcompilable.routes (perm_ne_nil hroutes hne)
      gateways := fun hne => hcompilable.gateways (perm_ne_nil hgateways hne)
      egress := fun ⟨e, he, henabled⟩ => hcompilable.egress ⟨e, hegress.mem_iff.mpr he, henabled⟩
      nat := fun ⟨⟨e, he, henabled⟩, f, hf, hnat⟩ =>
        hcompilable.nat
          ⟨⟨e, hegress.mem_iff.mpr he, henabled⟩, f, hegress.mem_iff.mpr hf, hnat⟩
      publicAddresses := fun hne => hcompilable.publicAddresses (perm_ne_nil hpublic hne)
      policies := fun hne => hcompilable.policies (perm_ne_nil hpolicies hne)
      address := hcompilable.address
      pools := hcompilable.pools
      endpoints := hcompilable.endpoints.perm hendpoints
      bindings :=
        hrecorded ▸
          ⟨fun binding hbinding => hcompilable.bindings.1 binding (hpublic.mem_iff.mpr hbinding),
            ((hpublic.map _).nodup_iff).mp hcompilable.bindings.2⟩
      shapes := hrecorded ▸ fun policy hpolicy =>
        hcompilable.shapes policy (hpolicies.mem_iff.mpr hpolicy)
      addresses := fun gateway hgateway =>
        hcompilable.addresses gateway (hgateways.mem_iff.mpr hgateway) }

theorem compile_reordered {operationId : Uuid} {deadlineUnixMs : Nat} {plan : Plan}
    (h : Reordered a b)
    (hplan :
      compileNodeNetworkPlan digest a nodeId operationId deadlineUnixMs capabilities realms
        = .ok plan) :
    compileNodeNetworkPlan digest b nodeId operationId deadlineUnixMs capabilities realms
      = .ok plan := by
  obtain ⟨gateway, hcompilable, rfl⟩ := compileNodeNetworkPlan_eq_ok.mp hplan
  refine compileNodeNetworkPlan_eq_ok.mpr ⟨gateway, h.compilable hcompilable, ?_⟩
  have hintents := sortBy_eq_of_perm_of_injective intentKey_injective (h.collectIntents gateway)
  rw [compiledPlan, compiledPlan, hintents, h.rest.1, h.recorded hcompilable.endpoints.2.1]

end Compiler

variable {plan : Plan}

theorem withFabric_bound {next : Plan} {fabric : NamespacedRoutedFabricPlan}
    (h : plan.withFabric lib fabric = .ok next) :
    IsBound lib next := by
  rw [NodeNetworkPlan.withFabric] at h
  split at h
  · cases h
  · cases h
    rfl

theorem withGateway_bound {next : Plan} {gateway : L3GatewayExecutionPlan}
    (h : withGateway lib plan gateway = .ok next) :
    IsBound lib next := by
  obtain ⟨_, h⟩ := ensure_bind_eq_ok.mp h
  cases h
  exact rebind_bound lib _

theorem compileL3GatewayNetworkPlan_bound {gateway : L3GatewayExecutionPlan} {nodeId : String}
    {operationId : Uuid} {deadlineUnixMs : Nat}
    (h : compileL3GatewayNetworkPlan lib gateway nodeId operationId deadlineUnixMs = .ok plan) :
    IsBound lib plan := by
  obtain ⟨_, h⟩ := ensure_bind_eq_ok.mp h
  cases h
  exact rebind_bound lib _

theorem compileAttachmentPlanWithDefaults_bound {input : AttachmentPlanInput}
    {policyDefaults : List PolicyDefaultIntent}
    (h : compileAttachmentPlanWithDefaults lib digest input policyDefaults = .ok plan) :
    IsBound lib plan := by
  obtain ⟨_, _, h⟩ := elim_bind_eq_ok.mp h
  obtain ⟨_, _, h⟩ := except_bind_eq_ok.mp h
  obtain ⟨_, h⟩ := ensure_bind_eq_ok.mp h
  cases h
  exact rebind_bound lib _

/-- **Every plan that is produced carries its own hash.** -/
theorem Produced.bound (h : Produced lib digest plan) : IsBound (serdeLibrary lib digest) plan := by
  induction h with
  | compiled h =>
    obtain ⟨gateway, _, rfl⟩ := compileNodeNetworkPlan_eq_ok.mp h
    exact unsignedPlan_bound _ _ _ _ _ _
  | attachment h => exact compileAttachmentPlanWithDefaults_bound h
  | gatewayOnly h => exact compileL3GatewayNetworkPlan_bound h
  | routed _ routes egress ih =>
    rw [addL3GatewayRouting]
    split_ifs
    · exact ih
    · exact rebind_bound _ _
  | fabric _ hnext _ => exact withFabric_bound hnext
  | gateway _ hnext _ => exact withGateway_bound hnext
  | policy _ hnext _ =>
    obtain ⟨_, _, _, _, _, rfl⟩ := attachEndpointPolicyToPlan_ok hnext
    exact rebind_bound _ _

theorem hashedBytes_perm
    (plan : Plan) {intents : List NetworkPlanIntent} (h : plan.intents.Perm intents) :
    hashedBytes { plan with intents := intents } = hashedBytes plan := by
  have hsorted := sortBy_eq_of_perm_of_injective intentKey_injective h
  simp only [hashedBytes, hsorted]

/-- The plans agree in everything that is hashed. -/
def Agree (p q : Plan) : Prop :=
  p.planId = q.planId ∧ p.nodeId = q.nodeId ∧ p.operationId = q.operationId ∧
    p.schemaVersion = q.schemaVersion ∧ p.resourceGenerations = q.resourceGenerations ∧
    p.gateway = q.gateway ∧ p.fabric = q.fabric ∧ p.intents.Perm q.intents

theorem hashedBytes_injective {p q : Plan} (h : hashedBytes p = hashedBytes q) : Agree p q := by
  have hinput := fingerprintValue_injective (render_injective h)
  simp only [FingerprintInput.mk.injEq] at hinput
  obtain ⟨hplan, hnode, hoperation, hschema, hgenerations, hintents, hgateway, hfabric⟩ := hinput
  refine ⟨hplan, hnode, hoperation, hschema, hgenerations, hgateway, hfabric, ?_⟩
  exact ((sortBy_perm p.intents).symm.trans (.of_eq hintents)).trans (sortBy_perm q.intents)

/-- **The fingerprint is consistent and binding**: a plan that is produced
carries the hash of its bytes; neither the order of its intents nor that of the
source shows in them; and equal bytes are those of plans that agree. -/
theorem fingerprint_consistent_and_binding (lib : PlanLibrary) (digest : Bytes → String) :
    (∀ plan, Produced lib digest plan →
        plan.fingerprintSha256 = canonicalPlanFingerprint (serdeLibrary lib digest) plan) ∧
      (∀ plan, canonicalPlanFingerprint (serdeLibrary lib digest) plan
        = digest (hashedBytes plan)) ∧
      (∀ (plan : Plan) (intents : List NetworkPlanIntent), plan.intents.Perm intents →
        hashedBytes { plan with intents := intents } = hashedBytes plan) ∧
      (∀ a b, Reordered a b →
        ∀ nodeId operationId deadlineUnixMs capabilities realms plan,
          compileNodeNetworkPlan digest a nodeId operationId deadlineUnixMs capabilities realms
              = .ok plan
            ↔
          compileNodeNetworkPlan digest b nodeId operationId deadlineUnixMs capabilities realms
              = .ok plan) ∧
      ∀ p q, hashedBytes p = hashedBytes q → Agree p q :=
  ⟨fun _ => Produced.bound,
    fun _ => rfl,
    fun plan _ => hashedBytes_perm plan,
    fun _ _ h _ _ _ _ _ _ => ⟨compile_reordered h, compile_reordered h.symm⟩,
    fun _ _ => hashedBytes_injective⟩

end Library

end Planning
end O3k
