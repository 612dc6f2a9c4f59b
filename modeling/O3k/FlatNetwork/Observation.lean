import O3k.FlatNetwork.Sanctions

/-!
# Observation

On a host on which every command works, a plan is observed exactly when the
TAPs and the bindings of all its endpoints are there.  A removal is never
observed.
-/

namespace O3k
namespace FlatNetwork

open Relational Network Fabric Execution Semantics
open Planning (NetworkPlanIntent)
open Program (Brings Ends ends_pure ends_throw)

/-- The command, the write or the process works. -/
def Works (_ : HostCall) (x : HostAnswer) (_ : FlatHost) : Prop := x.works = true

section Presence

variable (lib : HostLibrary) (config : HostNetworkConfig)

/-- The TAP is a link of the bridge, and the manifest has it for the plan and
the endpoint. -/
def TapPresent (h : FlatHost) (spec : TapSpec) : Prop :=
  (∃ link ∈ h.links (tapName lib spec.portId), link.isOwned spec.mac config.bridgeName = true) ∧
    recordIsOf config h.manifest (tapName lib spec.portId) spec = true

/-- The endpoint has its TAP and a DHCP binding. -/
def EndpointPresent (h : FlatHost) (spec : TapSpec) : Prop :=
  TapPresent lib config h spec ∧ (h.dhcp.bindings.get? spec.portId).isSome = true

/-- Nothing is left of the endpoint. -/
structure EndpointAbsent (h : FlatHost) (spec : TapSpec) : Prop where
  link : h.links (tapName lib spec.portId) = none
  record : h.manifest.tap? (tapName lib spec.portId) = none
  binding : h.dhcp.bindings.get? spec.portId = none

end Presence

def endpointsOf (planId : Uuid) : List NetworkPlanIntent → List TapSpec
  | [] => []
  | .endpointAttachment endpointId mac _ _ :: rest =>
    tapSpec planId endpointId mac :: endpointsOf planId rest
  | _ :: rest => endpointsOf planId rest

variable {lib : HostLibrary} {config : HostNetworkConfig} {α β ε : Type} {s : FlatHost}

/-- Where every command works, a value satisfies `P` and an error `E`. -/
abbrev Hosted (config : HostNetworkConfig) (P : α → FlatHost → Prop) (E : ε → FlatHost → Prop)
    (p : ExceptT ε (Program HostCall HostReply) α) (s : FlatHost) :
    Prop :=
  Ends (execHost config) Works P E p s

variable {E : HostNetworkError → FlatHost → Prop}

theorem hosted_ask {c : HostCall} {P : HostReply c → FlatHost → Prop}
    (h : ∀ x, x.works = true → P (execHost config c x s).1 (execHost config c x s).2) :
    Hosted config P E (HostM.ask c) s :=
  Program.ends_lift_perform h

theorem hosted_askFlat {c : HostCall} {P : HostReply c → FlatHost → Prop}
    {E : FlatNetworkError → FlatHost → Prop}
    (h : ∀ x, x.works = true → P (execHost config c x s).1 (execHost config c x s).2) :
    Hosted config P E (FlatM.ask c) s :=
  Program.ends_lift_perform h

theorem hosted_hostly {P : α → FlatHost → Prop} {E : FlatNetworkError → FlatHost → Prop}
    {p : HostM α} (h : Hosted config P (fun e => E (.host e)) p s) :
    Hosted config P E (FlatM.hostly p) s := by
  refine Brings.bind h ?_
  intro r s' hr
  cases r with
  | error e => exact hr
  | ok a => exact hr

theorem hosted_require {P : Unit → FlatHost → Prop} {condition : Bool} {e : HostNetworkError}
    (htrue : condition = true → P () s) (hfalse : condition = false → E e s) :
    Hosted config P E (HostM.require condition e) s := by
  cases condition with
  | false => exact hfalse rfl
  | true => exact htrue rfl

theorem hosted_linkExists (name : String) :
    Hosted config (fun found s' => s = s' ∧ (s.links name).isSome = found) E
      (HostM.ask (.linkExists name)) s :=
  hosted_ask fun x hx => ⟨rfl, by simp [execHost, hx]⟩

theorem hosted_showLink (name : String) :
    Hosted config (fun shown s' => s = s' ∧ s.links name = shown) E
      (HostM.ask (.showLink name) >>= fun r => HostM.given r) s := by
  refine Ends.bind
    (P := fun (r : Except HostNetworkError (Option Link)) s' => s = s' ∧ r = .ok (s.links name))
    (hosted_ask fun x hx => ⟨rfl, by simp [execHost, hx]⟩) ?_
  rintro _ _ ⟨rfl, rfl⟩
  exact ends_pure ⟨rfl, rfl⟩

theorem hosted_ownership {E : HostNetworkError → FlatHost → Prop} :
    Hosted config (fun m s' => s = s' ∧ s.manifest = m) E (HostM.ask .ownership) s :=
  hosted_ask fun _ _ => ⟨rfl, rfl⟩

theorem hosted_interfaceIsOwned (name mac : String) :
    Hosted config
      (fun owned s' =>
        s = s' ∧ ∃ link ∈ s.links name, link.isOwned mac config.bridgeName = owned)
      (fun _ s' => s = s' ∧ s.links name = none) (interfaceIsOwned config name mac) s := by
  refine Ends.bind_call (hosted_showLink name) ?_
  rintro shown _ ⟨rfl, hshown⟩
  cases shown with
  | none => exact ends_throw ⟨rfl, hshown⟩
  | some link => exact ends_pure ⟨rfl, link, hshown, rfl⟩

theorem hosted_validateRecordedTap (interface : String) (spec : TapSpec) :
    Hosted config (fun _ s' => s = s' ∧ recordIsOf config s.manifest interface spec = true)
      (fun _ s' => s = s' ∧ recordIsOf config s.manifest interface spec = false)
      (validateRecordedTap config interface spec) s := by
  refine Ends.bind hosted_ownership ?_
  rintro _ _ ⟨rfl, rfl⟩
  exact hosted_require (fun h => ⟨rfl, h⟩) (fun h => ⟨rfl, h⟩)

variable {m : NetworkOwnershipManifest} {interface : String}

theorem recordIsOf_eq_true {spec : TapSpec} (h : recordIsOf config m interface spec = true) :
    ∃ record, m.tap? interface = some record ∧ record.instanceId = spec.instanceId ∧
      record.portId = spec.portId ∧ eqIgnoreAsciiCase record.mac spec.mac = true := by
  obtain ⟨record, hrecord, hof⟩ := Option.any_eq_true _ _ |>.mp h
  simp only [TapOwnership.isOf, Bool.and_eq_true, decide_eq_true_eq] at hof
  exact ⟨record, hrecord, hof.1.1.1.1, hof.1.1.1.2, hof.1.1.2⟩

theorem tap?_mem {record : TapOwnership} (h : m.tap? interface = some record) :
    (interface, record) ∈ m.taps.rows := by
  obtain ⟨⟨name, _⟩, hget, rfl⟩ := Option.map_eq_some_iff.mp h
  obtain ⟨hmem, rfl⟩ := m.taps.get?_eq_some_iff.mp hget
  exact hmem

theorem ManifestKept.spec_valid {spec : TapSpec}
    (hkept : ManifestKept lib config m) (h : recordIsOf config m interface spec = true) :
    spec.Valid := by
  obtain ⟨record, hrecord, hinstance, hport, hmac⟩ := recordIsOf_eq_true h
  obtain ⟨hi, hp, hm⟩ := (hkept.taps _ (tap?_mem hrecord)).spec
  exact ⟨hinstance ▸ hi, hport ▸ hp, (isMac_congr hmac).symm.trans hm⟩

theorem hosted_nameOfTap_bind {P : α → FlatHost → Prop} {spec : TapSpec} {f : String → HostM α}
    (hvalid : spec.Valid) (h : Hosted config P E (f (tapName lib spec.portId)) s) :
    Hosted config P E (nameOfTap lib spec.portId >>= f) s := by
  unfold nameOfTap
  rw [isBlank_of_isReference hvalid.2.1]
  exact h

theorem hosted_resolveOwnedTap (hkept : ManifestKept lib config s.manifest) (spec : TapSpec) :
    Hosted config (fun _ s' => s = s' ∧ TapPresent lib config s spec)
      (fun _ s' => s = s' ∧ ¬ TapPresent lib config s spec)
      (resolveOwnedTap lib config spec) s := by
  refine Ends.bind_call (P := fun _ s' => s = s') ?_ ?_
  · refine Ends.bind
      (P := fun (r : Except HostNetworkError Unit) s' => s = s' ∧ r = .ok ())
      (hosted_ask fun x hx => ⟨rfl, by simp [execHost, hx, hkept.valid]⟩) ?_
    rintro _ _ ⟨rfl, rfl⟩
    exact ends_pure rfl
  rintro _ _ rfl
  rcases validateSpec_cases spec with ⟨hvalid, heq⟩ | ⟨hinvalid, e, heq⟩
  · rw [heq]
    refine hosted_nameOfTap_bind hvalid ?_
    refine Ends.bind (hosted_linkExists _) ?_
    rintro found _ ⟨rfl, hfound⟩
    refine Ends.bind (P := fun _ s' => s = s')
      (hosted_require (fun _ => rfl) (fun hfalse => ⟨rfl, ?_⟩)) ?_
    · rintro ⟨⟨link, hlink, -⟩, -⟩
      rw [hfalse] at hfound
      rw [Option.mem_def.mp hlink] at hfound
      cases hfound
    rintro _ _ rfl
    refine Ends.bind (Ends.mono (hosted_interfaceIsOwned _ _) (fun _ _ h => h) ?_) ?_
    · rintro _ _ ⟨rfl, hnone⟩
      refine ⟨rfl, ?_⟩
      rintro ⟨⟨link, hlink, -⟩, -⟩
      cases hnone.symm.trans hlink
    rintro owned _ ⟨rfl, link, hlink, howned⟩
    refine Ends.bind (P := fun _ s' => s = s' ∧ owned = true)
      (hosted_require (fun h => ⟨rfl, h⟩) (fun hfalse => ⟨rfl, ?_⟩)) ?_
    · rintro ⟨⟨link', hlink', howned'⟩, -⟩
      cases Option.some.inj (hlink.symm.trans hlink')
      rw [hfalse, howned'] at howned
      cases howned
    rintro _ _ ⟨rfl, rfl⟩
    refine Ends.bind (Ends.mono (hosted_validateRecordedTap _ _) (fun _ _ h => h) ?_) ?_
    · rintro _ _ ⟨rfl, hfalse⟩
      refine ⟨rfl, ?_⟩
      rintro ⟨-, htrue⟩
      rw [hfalse] at htrue
      cases htrue
    rintro _ _ ⟨rfl, hrecord⟩
    exact ends_pure ⟨rfl, ⟨link, hlink, howned⟩, hrecord⟩
  · rw [heq]
    exact ends_throw ⟨rfl, fun hpresent => hinvalid (hkept.spec_valid hpresent.2)⟩

/-- **A plan is observed exactly when all its endpoints are there.** -/
theorem hosted_observeEndpoints (hkept : ManifestKept lib config s.manifest)
    (planId : Uuid) (intents : List NetworkPlanIntent) :
    Hosted config
      (fun observed s' =>
        s = s' ∧ observed = true ∧
          ∀ spec ∈ endpointsOf planId intents, EndpointPresent lib config s spec)
      (fun _ s' =>
        s = s' ∧ ¬ ∀ spec ∈ endpointsOf planId intents, EndpointPresent lib config s spec)
      (observeEndpoints lib config planId intents) s := by
  induction intents with
  | nil => exact ends_pure ⟨rfl, rfl, fun _ h => by cases h⟩
  | cons intent rest ih =>
    cases intent with
    | endpointAttachment endpointId mac fixedIp generation =>
      simp only [endpointsOf, List.forall_mem_cons]
      refine Ends.bind
        (hosted_hostly (Ends.mono (hosted_resolveOwnedTap hkept _) (fun _ _ h => h) ?_)) ?_
      · rintro _ _ ⟨rfl, habsent⟩
        exact ⟨rfl, fun h => habsent h.1.1⟩
      rintro _ _ ⟨rfl, hpresent⟩
      refine Ends.bind
        (P := fun binding s' => s = s' ∧ s.dhcp.bindings.get? endpointId = binding)
        (hosted_askFlat fun _ _ => ⟨rfl, rfl⟩) ?_
      rintro binding _ ⟨rfl, hbinding⟩
      cases binding with
      | none =>
        refine ends_throw ⟨rfl, fun h => ?_⟩
        have hsome := h.1.2
        simp only [tapSpec] at hsome
        rw [hbinding] at hsome
        cases hsome
      | some binding =>
        refine Ends.mono ih ?_ ?_
        · rintro _ _ ⟨rfl, rfl, hrest⟩
          refine ⟨rfl, rfl, ⟨hpresent, ?_⟩, hrest⟩
          simp only [tapSpec]
          rw [hbinding]
          rfl
        · rintro _ _ ⟨rfl, hrest⟩
          exact ⟨rfl, fun h => hrest h.2⟩
    | addressRealm | addressAssignment | route | gateway | egress | publicAddressBinding
    | policyDefault | policy => exact ih

theorem hosted_observeRemoved (hkept : ManifestKept lib config s.manifest) (plan : FlatPlan) :
    Hosted config (fun removed s' => s = s' ∧ removed = false) (fun _ s' => s = s')
      (observeRemoved lib config plan) s := by
  refine Brings.bind (hosted_observeEndpoints hkept plan.planId plan.intents) ?_
  intro r s' hr
  cases r with
  | error e => exact hr.1
  | ok observed => exact ⟨hr.1, by rw [hr.2.1]; rfl⟩

end FlatNetwork
end O3k
