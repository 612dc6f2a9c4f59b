import O3k.FlatNetwork.Manifest

/-!
# The realizer keeps the manifest

Whatever the host answers, the updates that the programs make of the manifest
are sanctioned.
-/

namespace O3k
namespace FlatNetwork

open Relational Network Fabric Execution Semantics
open Planning (NetworkPlanIntent)

section Programs

variable {lib : HostLibrary} {config : HostNetworkConfig} {α β ε : Type}

/-- The program makes calls in `K` only. -/
abbrev Makes (K : HostCall → Prop) (p : ExceptT ε (Program HostCall HostReply) α) : Prop :=
  Program.Calls K p.run

/-- All the updates of the program are sanctioned. -/
abbrev Sanctions (lib : HostLibrary) (p : ExceptT ε (Program HostCall HostReply) α) : Prop :=
  Makes (Sanctioned lib) p

variable {K : HostCall → Prop}

theorem makes_ask {c : HostCall} (h : K c) : Makes K (HostM.ask c) :=
  ⟨h, fun _ => trivial⟩

theorem makes_askFlat {c : HostCall} (h : K c) : Makes K (FlatM.ask c) :=
  ⟨h, fun _ => trivial⟩

theorem Makes.bind {p : ExceptT ε (Program HostCall HostReply) α}
    {f : α → ExceptT ε (Program HostCall HostReply) β} (hp : Makes K p) (hf : ∀ a, Makes K (f a)) :
    Makes K (p >>= f) :=
  Program.calls_run_bind hp hf

theorem makes_given (x : Except HostNetworkError α) : Makes K (HostM.given x) := trivial

theorem makes_dhcply (x : Except DhcpError α) : Makes K (FlatM.dhcply x) := trivial

theorem makes_require_bind {condition : Bool} {e : HostNetworkError} {f : Unit → HostM α}
    (h : condition = true → Makes K (f ())) :
    Makes K (HostM.require condition e >>= f) := by
  cases condition with
  | false => trivial
  | true => exact h rfl

theorem makes_require (condition : Bool) (e : HostNetworkError) :
    Makes K (HostM.require condition e) := by
  cases condition <;> trivial

theorem makes_hostly {p : HostM α} (hp : Makes K p) : Makes K (FlatM.hostly p) :=
  Program.Calls.bind hp (fun _ => trivial)

theorem makes_runIp {command : IpCommand} (h : K (.ip command)) : Makes K (HostM.runIp command) :=
  Makes.bind (makes_ask h) makes_given

theorem makes_update {u : OwnershipUpdate} (h : K (.updateOwnership u)) :
    Makes K (HostM.update u) :=
  Makes.bind (makes_ask h) makes_given

theorem makes_orRollback {p : HostM α} {undo : HostNetworkError → HostM HostNetworkError}
    (hp : Makes K p) (hundo : ∀ e, Makes K (undo e)) :
    Makes K (HostM.orRollback p undo) := by
  refine Makes.bind (p := ExceptT.lift p.run) (Program.Calls.bind hp (fun _ => trivial)) ?_
  intro r
  cases r with
  | ok a => trivial
  | error e => exact Makes.bind (hundo e) (fun _ => trivial)

def Cleans : HostCall → Prop
  | .ip (.delete _) => True
  | .ip (.deleteAddress _ _) => True
  | .updateOwnership .clearGateway => True
  | .updateOwnership .clearBridge => True
  | .linkExists _ => True
  | .showLink _ => True
  | .ownership => True
  | _ => False

theorem Cleans.sanctioned (c : HostCall) (h : Cleans c) : Sanctioned lib c := by
  cases c with
  | updateOwnership u => cases u <;> trivial
  | ip | linkExists | showLink | ownership => trivial
  | _ => exact h.elim

theorem cleans_bridgeIsOwnedLive : Makes Cleans (bridgeIsOwnedLive config) := by
  refine Makes.bind (makes_ask (by trivial)) fun _ => ?_
  refine Makes.bind (makes_given _) fun _ => ?_
  exact Makes.bind (makes_ask (by trivial)) fun _ => trivial

theorem cleans_removeGateway (gateway : GatewaySpec) :
    Makes Cleans (removeGateway config gateway) := by
  refine Makes.bind (makes_require _ _) fun _ => ?_
  refine Makes.bind (makes_ask (by trivial)) fun m => ?_
  split
  · trivial
  · refine Makes.bind (makes_require _ _) fun _ => ?_
    refine Makes.bind cleans_bridgeIsOwnedLive fun _ => ?_
    refine Makes.bind (makes_require _ _) fun _ => ?_
    exact Makes.bind (makes_runIp (by trivial)) fun _ => makes_update (by trivial)

theorem cleans_deleteBridge : Makes Cleans (deleteBridge config) := by
  refine Makes.bind (makes_ask (by trivial)) fun m => ?_
  split
  · trivial
  · refine Makes.bind (makes_require _ _) fun _ => ?_
    refine Makes.bind ?_ fun _ => makes_update (by trivial)
    refine Makes.bind (makes_ask (by trivial)) fun found => ?_
    split
    · refine Makes.bind (makes_ask (by trivial)) fun _ => ?_
      refine Makes.bind (makes_given _) fun shown => ?_
      refine Makes.bind (makes_ask (by trivial)) fun m => ?_
      exact Makes.bind (makes_require _ _) fun _ => makes_runIp (by trivial)
    · trivial

theorem cleans_cleanupIfUnused : Makes Cleans (cleanupIfUnused config) := by
  refine Makes.bind (makes_ask (by trivial)) fun m => ?_
  split
  · trivial
  · refine Makes.bind ?_ fun _ => ?_
    · unfold removeRecordedGateway
      split
      · trivial
      · exact cleans_removeGateway _
    · refine Makes.bind (makes_ask (by trivial)) fun m => ?_
      split
      · exact cleans_deleteBridge
      · trivial

theorem sanctions_rollbackBridge (e : HostNetworkError) :
    Sanctions lib (rollbackBridge config e) := by
  refine Makes.bind (makes_ask (by trivial)) fun recorded => ?_
  split
  · trivial
  · refine Makes.bind (makes_ask (by trivial)) fun shown => ?_
    refine Makes.bind (makes_ask (by trivial)) fun m => ?_
    split
    · refine Makes.bind (makes_ask (by trivial)) fun deleted => ?_
      cases deleted with
      | error e => trivial
      | ok u => exact Makes.bind (makes_ask (by trivial)) fun _ => trivial
    · trivial

theorem sanctions_rollbackProvisionalBridge (temp : String) (e : HostNetworkError) :
    Sanctions lib (rollbackProvisionalBridge lib config temp e) := by
  refine Makes.bind (makes_ask (by trivial)) fun shown => ?_
  split
  · exact Makes.bind (makes_ask (by trivial)) fun _ => trivial
  · trivial

theorem sanctions_checkUplink : Sanctions lib (checkUplink config) := by
  unfold checkUplink
  split
  · trivial
  · refine Makes.bind (makes_ask (by trivial)) fun _ => ?_
    refine Makes.bind (makes_given _) fun shown => ?_
    cases shown with
    | none => trivial
    | some link => exact makes_require _ _

theorem sanctions_reuseBridge : Sanctions lib (reuseBridge config) := by
  refine Makes.bind (makes_ask (by trivial)) fun _ => ?_
  refine Makes.bind (makes_given _) fun shown => ?_
  cases shown with
  | none => trivial
  | some link =>
    refine Makes.bind (makes_ask (by trivial)) fun m => ?_
    refine Makes.bind (makes_require _ _) fun _ => ?_
    refine Makes.bind (makes_require _ _) fun _ => ?_
    refine Makes.bind (makes_runIp (by trivial)) fun _ => ?_
    exact Makes.bind sanctions_checkUplink fun _ => trivial

theorem sanctions_provisionalIdentity (temp : String) :
    Sanctions lib (provisionalIdentity temp) := by
  refine Makes.bind (makes_ask (by trivial)) fun shown => ?_
  split
  · trivial
  · exact Makes.bind (makes_require _ _) fun _ => trivial

theorem sanctions_attachUplink : Sanctions lib (attachUplink config) := by
  unfold attachUplink
  split
  · trivial
  · exact makes_runIp (by trivial)

theorem sanctions_createBridge : Sanctions lib (createBridge lib config) := by
  refine Makes.bind (makes_ask (by trivial)) fun suffix => ?_
  have hundo : ∀ e, Sanctions lib
      (rollbackProvisionalBridge lib config (partialBridgeName suffix) e) :=
    sanctions_rollbackProvisionalBridge _
  refine Makes.bind (makes_runIp (by trivial)) fun _ => ?_
  refine Makes.bind (makes_orRollback
    (Makes.bind (makes_runIp (by trivial)) fun _ => makes_runIp (by trivial)) hundo) fun _ => ?_
  refine Makes.bind (makes_orRollback (sanctions_provisionalIdentity _) hundo) fun identity => ?_
  refine Makes.bind (makes_orRollback (makes_update (by trivial)) hundo) fun _ => ?_
  refine Makes.bind (makes_orRollback
    (Makes.bind (makes_runIp (by trivial)) fun _ => makes_runIp (by trivial)) hundo) fun _ => ?_
  refine Makes.bind (makes_orRollback
    (Makes.bind (makes_runIp (by trivial)) fun _ => sanctions_attachUplink)
    sanctions_rollbackBridge) fun _ => ?_
  trivial

theorem sanctions_ensureBridgeWithOwnership :
    Sanctions lib (ensureBridgeWithOwnership lib config) := by
  refine Makes.bind (makes_ask (by trivial)) fun found => ?_
  split
  · exact sanctions_reuseBridge
  · exact sanctions_createBridge

theorem sanctions_rollbackCreatedBridge (created : Bool) (e : HostNetworkError) :
    Sanctions lib (rollbackCreatedBridge config created e) := by
  unfold rollbackCreatedBridge
  split
  · exact sanctions_rollbackBridge e
  · trivial

theorem sanctions_rollbackGateway (gateway : GatewaySpec) (created : Bool) (e : HostNetworkError) :
    Sanctions lib (rollbackGateway config gateway created e) := by
  refine Makes.bind (makes_ask (by trivial)) fun deleted => ?_
  cases deleted with
  | error e => trivial
  | ok u => exact sanctions_rollbackCreatedBridge _ _

theorem sanctions_checkOwnedUnlessCreated (created : Bool) :
    Sanctions lib (checkOwnedUnlessCreated config created) := by
  unfold checkOwnedUnlessCreated
  split
  · trivial
  · exact Makes.bind (Program.Calls.mono Cleans.sanctioned cleans_bridgeIsOwnedLive) fun _ => makes_require _ _

theorem sanctions_ensureGateway (gateway : GatewaySpec) :
    Sanctions lib (ensureGateway lib config gateway) := by
  refine makes_require_bind fun hlen => ?_
  refine Makes.bind (makes_ask (by trivial)) fun m => ?_
  refine Makes.bind (makes_require _ _) fun _ => ?_
  refine Makes.bind sanctions_ensureBridgeWithOwnership fun created => ?_
  refine Makes.bind (sanctions_checkOwnedUnlessCreated _) fun _ => ?_
  refine Makes.bind
    (makes_orRollback (makes_runIp (by trivial)) (sanctions_rollbackCreatedBridge _)) fun _ => ?_
  exact makes_orRollback (makes_update (of_decide_eq_true (p := gateway.prefixLen ≤ 30) hlen))
    (sanctions_rollbackGateway _ _)

theorem sanctions_validateRecordedTap (interface : String) (spec : TapSpec) :
    Sanctions lib (validateRecordedTap config interface spec) :=
  Makes.bind (makes_ask (by trivial)) fun _ => makes_require _ _

theorem sanctions_validateSpec_bind {spec : TapSpec} {f : Unit → HostM α}
    (h : spec.Valid → Sanctions lib (f ())) :
    Sanctions lib (validateSpec spec >>= f) := by
  rcases validateSpec_cases spec with ⟨hvalid, heq⟩ | ⟨-, e, heq⟩
  · rw [heq]
    exact h hvalid
  · rw [heq]
    trivial

theorem sanctions_nameOfTap_bind {portId : String} {f : String → HostM α}
    (h : Sanctions lib (f (tapName lib portId))) :
    Sanctions lib (nameOfTap lib portId >>= f) := by
  unfold nameOfTap
  cases isBlank portId with
  | false => exact h
  | true => trivial

theorem sanctions_interfaceIsOwned (name mac : String) :
    Sanctions lib (interfaceIsOwned config name mac) := by
  refine Makes.bind (makes_ask (by trivial)) fun _ => ?_
  refine Makes.bind (makes_given _) fun shown => ?_
  cases shown <;> trivial

theorem sanctions_stabilizeTapAddress (name mac : String) (polls : Nat) :
    Sanctions lib (stabilizeTapAddress name mac polls) := by
  induction polls with
  | zero => trivial
  | succ polls ih =>
    refine Makes.bind (makes_ask (by trivial)) fun _ => ?_
    refine Makes.bind (makes_given _) fun shown => ?_
    cases shown with
    | none => trivial
    | some link =>
      dsimp only
      split
      · refine Makes.bind (makes_ask (by trivial)) fun settled => ?_
        split
        · trivial
        · exact ih
      · exact Makes.bind (makes_runIp (by trivial)) fun _ => ih

theorem sanctions_rollbackTapAndBridge (name mac : String) (created : Bool) (e : HostNetworkError) :
    Sanctions lib (rollbackTapAndBridge config name mac created e) := by
  refine Makes.bind (makes_ask (by trivial)) fun shown => ?_
  split
  · refine Makes.bind (makes_ask (by trivial)) fun deleted => ?_
    cases deleted with
    | error e => trivial
    | ok u => exact sanctions_rollbackCreatedBridge _ _
  · trivial

theorem sanctions_rollbackRecordedTap
    (linkName interface : String) (spec : TapSpec) (created : Bool) (e : HostNetworkError) :
    Sanctions lib (rollbackRecordedTap config linkName interface spec created e) := by
  refine Makes.bind (sanctions_rollbackTapAndBridge _ _ _ _) fun _ => ?_
  exact Makes.bind (makes_ask (by trivial)) fun _ => trivial

theorem sanctions_createTap {spec : TapSpec} (hvalid : spec.Valid) (created : Bool) :
    Sanctions lib (createTap config (tapName lib spec.portId) spec created) := by
  refine Makes.bind (makes_ask (by trivial)) fun suffix => ?_
  have hundo : ∀ e, Sanctions lib
      (rollbackTapAndBridge config (partialTapName suffix) spec.mac created e) :=
    sanctions_rollbackTapAndBridge _ _ _
  refine Makes.bind
    (makes_orRollback (makes_runIp (by trivial)) (sanctions_rollbackCreatedBridge _)) fun _ => ?_
  refine Makes.bind (makes_orRollback
    (Makes.bind (makes_runIp (by trivial)) fun _ => makes_runIp (by trivial)) hundo) fun _ => ?_
  refine Makes.bind (makes_orRollback (sanctions_stabilizeTapAddress _ _ _) hundo) fun _ => ?_
  refine Makes.bind (makes_orRollback (makes_update ⟨rfl, hvalid⟩) hundo) fun _ => ?_
  refine Makes.bind (makes_orRollback (makes_runIp (by trivial))
    (sanctions_rollbackRecordedTap _ _ _ _)) fun _ => ?_
  exact Makes.bind (makes_orRollback (makes_runIp (by trivial))
    (sanctions_rollbackRecordedTap _ _ _ _)) fun _ => trivial

theorem sanctions_ensureTap (spec : TapSpec) : Sanctions lib (ensureTap lib config spec) := by
  refine sanctions_validateSpec_bind fun hvalid => ?_
  refine Makes.bind sanctions_ensureBridgeWithOwnership fun created => ?_
  refine sanctions_nameOfTap_bind ?_
  refine Makes.bind (makes_ask (by trivial)) fun found => ?_
  split
  · refine Makes.bind (sanctions_interfaceIsOwned _ _) fun owned => ?_
    split
    · exact Makes.bind (sanctions_rollbackCreatedBridge _ _) fun _ => trivial
    · exact Makes.bind (sanctions_validateRecordedTap _ _) fun _ => trivial
  · exact sanctions_createTap hvalid created

theorem sanctions_deleteTap (spec : TapSpec) : Sanctions lib (deleteTap lib config spec) := by
  refine sanctions_validateSpec_bind fun _ => ?_
  refine sanctions_nameOfTap_bind ?_
  refine Makes.bind ?_ fun _ => makes_update (by trivial)
  refine Makes.bind (makes_ask (by trivial)) fun found => ?_
  split
  · refine Makes.bind (sanctions_interfaceIsOwned _ _) fun owned => ?_
    refine Makes.bind (makes_require _ _) fun _ => ?_
    exact Makes.bind (sanctions_validateRecordedTap _ _) fun _ => makes_runIp (by trivial)
  · trivial

theorem sanctions_realizeEndpoints (planId : Uuid) (intents : List NetworkPlanIntent) :
    Sanctions lib (realizeEndpoints lib config planId intents) := by
  induction intents with
  | nil => trivial
  | cons intent rest ih =>
    cases intent with
    | endpointAttachment endpointId mac fixedIp generation =>
      refine Makes.bind (makes_hostly (sanctions_ensureTap _)) fun _ => ?_
      refine Makes.bind (makes_askFlat (by trivial)) fun _ => ?_
      exact Makes.bind (makes_dhcply _) fun _ => ih
    | addressRealm | addressAssignment | route | gateway | egress | publicAddressBinding
    | policyDefault | policy => exact ih

theorem sanctions_serveDhcp : Sanctions lib serveDhcp := by
  refine Makes.bind (makes_askFlat (by trivial)) fun supervised => ?_
  split
  · refine Makes.bind (makes_askFlat (by trivial)) fun _ => ?_
    refine Makes.bind (makes_dhcply _) fun _ => ?_
    refine Makes.bind (makes_askFlat (by trivial)) fun _ => ?_
    refine Makes.bind (makes_dhcply _) fun _ => ?_
    exact Makes.bind (makes_askFlat (by trivial)) fun _ => makes_dhcply _
  · refine Makes.bind (makes_askFlat (by trivial)) fun _ => ?_
    refine Makes.bind (makes_dhcply _) fun _ => ?_
    exact Makes.bind (makes_askFlat (by trivial)) fun _ => makes_dhcply _

theorem sanctions_realize (plan : FlatPlan) : Sanctions lib (realize lib config plan) := by
  unfold realize
  split
  · trivial
  · split
    · trivial
    · refine Makes.bind (makes_hostly (Makes.bind
        sanctions_ensureBridgeWithOwnership fun _ => trivial)) fun _ => ?_
      refine Makes.bind (makes_hostly (sanctions_ensureGateway _)) fun _ => ?_
      refine Makes.bind (makes_askFlat (by trivial)) fun _ => ?_
      refine Makes.bind (makes_dhcply _) fun _ => ?_
      exact Makes.bind (sanctions_realizeEndpoints _ _) fun _ => sanctions_serveDhcp

theorem sanctions_removeEndpoints (planId : Uuid) (intents : List NetworkPlanIntent) :
    Sanctions lib (removeEndpoints lib config planId intents) := by
  induction intents with
  | nil => trivial
  | cons intent rest ih =>
    cases intent with
    | endpointAttachment endpointId mac fixedIp generation =>
      refine Makes.bind (makes_askFlat (by trivial)) fun _ => ?_
      refine Makes.bind (makes_dhcply _) fun _ => ?_
      exact Makes.bind (makes_hostly (sanctions_deleteTap _)) fun _ => ih
    | addressRealm | addressAssignment | route | gateway | egress | publicAddressBinding
    | policyDefault | policy => exact ih

theorem sanctions_remove (plan : FlatPlan) : Sanctions lib (remove lib config plan) := by
  refine Makes.bind (sanctions_removeEndpoints _ _) fun _ => ?_
  refine Makes.bind ?_ fun _ => 
    makes_hostly (Program.Calls.mono Cleans.sanctioned cleans_cleanupIfUnused)
  refine Makes.bind (makes_askFlat (by trivial)) fun supervised => ?_
  split
  · refine Makes.bind (makes_askFlat (by trivial)) fun _ => ?_
    exact Makes.bind (makes_dhcply _) fun _ => makes_askFlat (by trivial)
  · trivial

end Programs

section Runs

variable (lib : HostLibrary) (config : HostNetworkConfig)

/-- A plan is realized or removed until the process ends, at the latest when it
has made `calls` calls; the rest of the host is anything afterwards. -/
structure RealizerEvent where
  action : NetworkPlanAction
  plan : FlatPlan
  answers : Nat → HostAnswer
  calls : Nat
  rest : FlatHost

def RealizerEvent.program (e : RealizerEvent) : FlatM Unit :=
  match e.action with
  | .apply => realize lib config e.plan
  | .remove => remove lib config e.plan

def realizerStep (h : FlatHost) (e : RealizerEvent) : FlatHost :=
  { e.rest with
    manifest :=
      (Program.interrupted (execHost config) e.answers (e.program lib config).run e.calls
        h).manifest }

theorem manifestKept_realizerStep {h : FlatHost} (hkept : ManifestKept lib config h.manifest)
    (e : RealizerEvent) :
    ManifestKept lib config (realizerStep lib config h e).manifest := by
  have hsanctions : Sanctions lib (e.program lib config) := by
    unfold RealizerEvent.program
    split
    · exact sanctions_realize _
    · exact sanctions_remove _
  have hsurvives :
      Program.Survives (execHost config) Eq (fun h => ManifestKept lib config h.manifest)
        (fun _ _ _ => True) (fun _ _ _ => True) (fun _ _ => True) (e.program lib config).run h :=
    Program.Survives.of_calls (fun _ _ _ _ => trivial)
      (hsanctions.mono fun _ hs _ _ h _ _ => ⟨trivial, h.execHost hs, trivial⟩) trivial
  exact Program.Survives.interrupted (I := fun h : FlatHost => ManifestKept lib config h.manifest)
    (fun _ => rfl) e.answers (fun _ _ _ => trivial) e.calls hkept hsurvives

/-- **The stored manifest is always accepted** when it is read again, whatever
the host answers, wherever a process ends, and whatever else changes. -/
theorem stored_manifest_valid (h : FlatHost) (events : List RealizerEvent) :
    Always (realizerStep lib config) (fun h => validateManifest config h.manifest = .ok ())
      { h with manifest := ⟨none, Table.empty⟩ } events :=
  (always_of_invariant (I := fun h => ManifestKept lib config h.manifest)
    (fun _ e hkept => manifestKept_realizerStep lib config hkept e) _ events
    ⟨fun _ hb => (by cases hb), fun _ hrow => absurd hrow List.not_mem_nil⟩).imp
    (fun _ hkept => hkept.valid)

end Runs

end FlatNetwork
end O3k
