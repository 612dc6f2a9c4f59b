import O3k.FlatNetwork.Observation

/-!
# Removal

A removal that succeeds has taken away all the endpoints of its plan, and
nothing that another plan has but the DHCP process.
-/

namespace O3k
namespace FlatNetwork

open Relational Network Fabric Execution Semantics
open Planning (NetworkPlanIntent)
open Program (Brings Ends ends_pure ends_throw)

variable {lib : HostLibrary} {config : HostNetworkConfig} {s : FlatHost}

/-- Nothing comes into being, and the TAPs of the other plans stay. -/
structure Removing
    (lib : HostLibrary) (config : HostNetworkConfig) (planId : Uuid) (h h' : FlatHost) :
    Prop where
  links : ∀ name, h.links name = none → h'.links name = none
  taps : ∀ name, h.manifest.tap? name = none → h'.manifest.tap? name = none
  bindings : ∀ portId, h.dhcp.bindings.get? portId = none → h'.dhcp.bindings.get? portId = none
  others : ∀ spec : TapSpec, spec.instanceId ≠ planId →
    TapPresent lib config h spec → TapPresent lib config h' spec

theorem Removing.refl (planId : Uuid) (h : FlatHost) : Removing lib config planId h h :=
  ⟨fun _ h => h, fun _ h => h, fun _ h => h, fun _ _ h => h⟩

theorem Removing.trans {planId : Uuid} {h₁ h₂ h₃ : FlatHost}
    (h₁₂ : Removing lib config planId h₁ h₂) (h₂₃ : Removing lib config planId h₂ h₃) :
    Removing lib config planId h₁ h₃ where
  links name h := h₂₃.links name (h₁₂.links name h)
  taps name h := h₂₃.taps name (h₁₂.taps name h)
  bindings portId h := h₂₃.bindings portId (h₁₂.bindings portId h)
  others spec hne h := h₂₃.others spec hne (h₁₂.others spec hne h)

variable {spec : TapSpec}

theorem EndpointAbsent.removing {planId : Uuid} {h h' : FlatHost}
    (habsent : EndpointAbsent lib h spec) (hremoving : Removing lib config planId h h') :
    EndpointAbsent lib h' spec :=
  ⟨hremoving.links _ habsent.link, hremoving.taps _ habsent.record,
    hremoving.bindings _ habsent.binding⟩

theorem removing_deleteLink
    (hrecord : recordIsOf config s.manifest (tapName lib spec.portId) spec = true) (index : Nat) :
    Removing lib config spec.instanceId s
      { s with
        links := Function.update s.links (tapName lib spec.portId) none
        nextIndex := index } where
  links name h := by
    by_cases hname : name = tapName lib spec.portId
    · rw [hname]
      exact Function.update_self _ _ _
    · exact (Function.update_of_ne hname _ _).trans h
  taps _ h := h
  bindings _ h := h
  others := by
    rintro other hne ⟨⟨link, hlink, howned⟩, hother⟩
    have hname : tapName lib other.portId ≠ tapName lib spec.portId := by
      intro hsame
      rw [hsame] at hother
      obtain ⟨record, hget, hinstance, -⟩ := recordIsOf_eq_true hrecord
      obtain ⟨record', hget', hinstance', -⟩ := recordIsOf_eq_true hother
      cases Option.some.inj (hget.symm.trans hget')
      exact hne (hinstance'.symm.trans hinstance)
    exact ⟨⟨link, (Function.update_of_ne hname _ _).trans hlink, howned⟩, hother⟩

theorem tap?_deleteWhere (m : NetworkOwnershipManifest) (interface name : String) :
    NetworkOwnershipManifest.tap?
        { m with taps := m.taps.deleteWhere (fun row => row.1 = interface) } name
      = if name = interface then none else m.tap? name := by
  simp only [NetworkOwnershipManifest.tap?, m.taps.get?_deleteWhere]
  cases hget : m.taps.get? name with
  | none => simp
  | some row =>
    obtain ⟨other, tap⟩ := row
    obtain ⟨-, rfl⟩ := m.taps.get?_eq_some_iff.mp hget
    by_cases hname : other = interface <;> simp [hname]

theorem removing_clearTap {m : NetworkOwnershipManifest}
    (happly :
      (OwnershipUpdate.clearTap (tapName lib spec.portId) spec).apply config s.manifest = .ok m) :
    Removing lib config spec.instanceId s { s with manifest := m } ∧
      m.tap? (tapName lib spec.portId) = none := by
  simp only [OwnershipUpdate.apply] at happly
  split at happly
  · rename_i hnone
    cases happly
    exact ⟨.refl _ _, hnone⟩
  · rename_i record hrecord
    split at happly
    · rename_i hof
      cases happly
      simp only [TapOwnership.isOf, Bool.and_eq_true, decide_eq_true_eq] at hof
      refine ⟨⟨fun _ h => h, ?_, fun _ h => h, ?_⟩, ?_⟩
      · intro name h
        rw [tap?_deleteWhere]
        split
        · rfl
        · exact h
      · rintro other hne ⟨hlink, hother⟩
        refine ⟨hlink, ?_⟩
        have hname : tapName lib other.portId ≠ tapName lib spec.portId := by
          intro hsame
          rw [hsame] at hother
          obtain ⟨record', hget', hinstance', -⟩ := recordIsOf_eq_true hother
          cases Option.some.inj (hrecord.symm.trans hget')
          exact hne (hinstance'.symm.trans hof.1.1)
        unfold recordIsOf
        rw [tap?_deleteWhere, if_neg hname]
        exact hother
      · rw [tap?_deleteWhere, if_pos rfl]
    · cases happly

theorem hosted_deleteTapLink (spec : TapSpec) :
    Hosted config
      (fun _ s' =>
        Removing lib config spec.instanceId s s' ∧ s'.links (tapName lib spec.portId) = none ∧
          s'.dhcp = s.dhcp ∧ s'.supervisor = s.supervisor)
      (fun _ s' => s = s') (deleteTapLink config (tapName lib spec.portId) spec) s := by
  refine Ends.bind (hosted_linkExists _) ?_
  rintro found _ ⟨rfl, hfound⟩
  cases found with
  | false => exact ends_pure ⟨.refl _ _, by simpa using hfound, rfl, rfl⟩
  | true =>
    refine Ends.bind
      (Ends.mono (hosted_interfaceIsOwned _ _) (fun _ _ h => h) (fun _ _ h => h.1)) ?_
    rintro owned _ ⟨rfl, link, hlink, howned⟩
    refine Ends.bind (P := fun _ s' => s = s' ∧ owned = true)
      (hosted_require (fun h => ⟨rfl, h⟩) (fun _ => rfl)) ?_
    rintro _ _ ⟨rfl, rfl⟩
    refine Ends.bind
      (Ends.mono (hosted_validateRecordedTap _ _) (fun _ _ h => h) (fun _ _ h => h.1)) ?_
    rintro _ _ ⟨rfl, hrecord⟩
    have hkind : link.kind = .tap := by
      simp only [Link.isOwned, Bool.and_eq_true, decide_eq_true_eq] at howned
      exact howned.1.1
    refine Ends.bind
      (P := fun (r : Except HostNetworkError Unit) s' => r = .ok () ∧
        Removing lib config spec.instanceId s s' ∧ s'.links (tapName lib spec.portId) = none ∧
          s'.dhcp = s.dhcp ∧ s'.supervisor = s.supervisor)
      (hosted_ask fun x hx => ?_) ?_
    · have hexec :
          execHost config (.ip (.delete (tapName lib spec.portId))) x s
            = (.ok (), { s with
                links := Function.update s.links (tapName lib spec.portId) none
                nextIndex := s.nextIndex + 1 }) := by
        simp [execHost, execIp, hx, IpCommand.apply, Links.delete, Option.mem_def.mp hlink, hkind]
      rw [hexec]
      exact ⟨rfl, removing_deleteLink hrecord _, Function.update_self _ _ _, rfl, rfl⟩
    · rintro _ s' ⟨rfl, h⟩
      exact ends_pure h

/-- **A TAP that is deleted is gone**, with its record. -/
theorem hosted_deleteTap (spec : TapSpec) :
    Hosted config
      (fun _ s' =>
        Removing lib config spec.instanceId s s' ∧ s'.links (tapName lib spec.portId) = none ∧
          s'.manifest.tap? (tapName lib spec.portId) = none ∧ s'.dhcp = s.dhcp)
      (fun _ s' => Removing lib config spec.instanceId s s') (deleteTap lib config spec) s := by
  rcases validateSpec_cases spec with ⟨hvalid, heq⟩ | ⟨-, e, heq⟩
  · unfold deleteTap
    rw [heq]
    refine hosted_nameOfTap_bind hvalid ?_
    refine Ends.bind (Ends.mono (hosted_deleteTapLink spec) (fun _ _ h => h) ?_) ?_
    · rintro _ _ rfl
      exact .refl _ _
    rintro _ s₁ ⟨hremoving, hlink, hdhcp, -⟩
    refine Ends.bind
      (P := fun (r : Except HostNetworkError Unit) s' =>
        Removing lib config spec.instanceId s s' ∧
          (r = .ok () → s'.links (tapName lib spec.portId) = none ∧
            s'.manifest.tap? (tapName lib spec.portId) = none ∧ s'.dhcp = s.dhcp))
      (hosted_ask fun x hx => ?_) ?_
    · simp only [execHost, execUpdate]
      cases happly :
          (OwnershipUpdate.clearTap (tapName lib spec.portId) spec).apply config s₁.manifest with
      | error e => exact ⟨hremoving, fun h => by cases h⟩
      | ok m =>
        obtain ⟨hcleared, hnone⟩ := removing_clearTap happly
        simp only [hx, if_true]
        exact ⟨hremoving.trans hcleared, fun _ => ⟨hlink, hnone, hdhcp⟩⟩
    · rintro r s₂ ⟨h, hok⟩
      cases r with
      | error e => exact ends_throw h
      | ok u => exact ends_pure ⟨h, hok rfl⟩
  · unfold deleteTap
    rw [heq]
    exact ends_throw (.refl _ _)

theorem get?_removeBinding (d : DhcpState) (portId other : String) :
    (d.removeBinding portId).bindings.get? other
      = if other = portId then none else d.bindings.get? other := by
  simp only [DhcpState.removeBinding, d.bindings.get?_deleteWhere]
  cases hget : d.bindings.get? other with
  | none => simp
  | some binding =>
    obtain ⟨-, rfl⟩ := d.bindings.get?_eq_some_iff.mp hget
    by_cases hport : binding.portId = portId <;> simp [hport]

theorem removing_removeBinding (planId : Uuid) (portId : String) :
    Removing lib config planId s { s with dhcp := s.dhcp.removeBinding portId } where
  links _ h := h
  taps _ h := h
  bindings other h := by
    show (s.dhcp.removeBinding portId).bindings.get? other = none
    rw [get?_removeBinding]
    split
    · rfl
    · exact h
  others _ _ h := h

/-- The bindings of the endpoints that other plans have are still there. -/
def BindingsKept
    (lib : HostLibrary) (config : HostNetworkConfig) (planId : Uuid) (h h' : FlatHost) :
    Prop :=
  ∀ spec : TapSpec, spec.instanceId ≠ planId → TapPresent lib config h spec →
    h'.dhcp.bindings.get? spec.portId = h.dhcp.bindings.get? spec.portId

/-- **The endpoints of a plan are removed** one by one.  An endpoint that another
plan has too stops the removal, so that where it succeeds the others keep their
bindings. -/
theorem hosted_removeEndpoints (planId : Uuid) (intents : List NetworkPlanIntent) :
    Hosted config
      (fun _ s' =>
        Removing lib config planId s s' ∧ BindingsKept lib config planId s s' ∧
          ∀ spec ∈ endpointsOf planId intents, EndpointAbsent lib s' spec)
      (fun _ s' => Removing lib config planId s s')
      (removeEndpoints lib config planId intents) s := by
  induction intents generalizing s with
  | nil => exact ends_pure ⟨.refl _ _, fun _ _ _ => rfl, fun _ h => by cases h⟩
  | cons intent rest ih =>
    cases intent with
    | endpointAttachment endpointId mac fixedIp generation =>
      simp only [endpointsOf, List.forall_mem_cons]
      refine Ends.bind
        (P := fun (r : Except DhcpError Unit) s' => r = .ok () ∧
          s' = { s with dhcp := s.dhcp.removeBinding endpointId })
        (hosted_askFlat fun x hx => by simp [execHost, persistDhcp, hx]) ?_
      rintro _ _ ⟨rfl, rfl⟩
      refine Ends.bind
        (P := fun _ s' => s' = { s with dhcp := s.dhcp.removeBinding endpointId })
        (ends_pure rfl) ?_
      rintro _ _ rfl
      have hunbound : Removing lib config planId s
          { s with dhcp := s.dhcp.removeBinding endpointId } :=
        removing_removeBinding planId endpointId
      refine Ends.bind (hosted_hostly (Ends.mono
        (hosted_deleteTap (tapSpec planId endpointId mac)) (fun _ _ h => h) ?_)) ?_
      · exact fun _ _ h => hunbound.trans h
      rintro _ s₁ ⟨hdeleted, hlink, hrecord, hdhcp⟩
      have hremoving : Removing lib config planId s s₁ := hunbound.trans hdeleted
      have habsent : EndpointAbsent lib s₁ (tapSpec planId endpointId mac) := by
        refine ⟨hlink, hrecord, ?_⟩
        rw [hdhcp]
        exact (get?_removeBinding _ _ _).trans (if_pos rfl)
      refine Ends.mono ih ?_ ?_
      · rintro _ s₂ ⟨hrest, hkept, hall⟩
        refine ⟨hremoving.trans hrest, ?_, habsent.removing hrest, hall⟩
        intro spec hne hpresent
        have hpresent₁ := hremoving.others spec hne hpresent
        have hport : spec.portId ≠ endpointId := by
          rintro rfl
          obtain ⟨⟨link, hget, -⟩, -⟩ := hpresent₁
          cases hlink.symm.trans hget
        rw [hkept spec hne hpresent₁, hdhcp]
        exact (get?_removeBinding _ _ _).trans (if_neg hport)
      · exact fun _ _ h => hremoving.trans h
    | addressRealm | addressAssignment | route | gateway | egress | publicAddressBinding
    | policyDefault | policy => exact ih

/-- The taps and the DHCP service are as they were, and no link is new. -/
structure Cleaning (h h' : FlatHost) : Prop where
  links : ∀ name, h.links name = none → h'.links name = none
  taps : h'.manifest.taps = h.manifest.taps
  dhcp : h'.dhcp = h.dhcp
  supervisor : h'.supervisor = h.supervisor

theorem Cleaning.refl (h : FlatHost) : Cleaning h h :=
  ⟨fun _ h => h, rfl, rfl, rfl⟩

theorem Cleaning.trans {h₁ h₂ h₃ : FlatHost} (h₁₂ : Cleaning h₁ h₂) (h₂₃ : Cleaning h₂ h₃) :
    Cleaning h₁ h₃ :=
  ⟨fun name h => h₂₃.links name (h₁₂.links name h), h₂₃.taps.trans h₁₂.taps,
    h₂₃.dhcp.trans h₁₂.dhcp, h₂₃.supervisor.trans h₁₂.supervisor⟩

theorem Cleaning.removing {h h' : FlatHost}
    (hcleaning : Cleaning h h') (hempty : h.manifest.taps.rows.isEmpty = true) (planId : Uuid) :
    Removing lib config planId h h' where
  links := hcleaning.links
  taps name hnone := by
    unfold NetworkOwnershipManifest.tap?
    rw [hcleaning.taps]
    exact hnone
  bindings portId hnone := by
    rw [hcleaning.dhcp]
    exact hnone
  others := by
    rintro spec - ⟨-, hrecord⟩
    obtain ⟨record, hget, -⟩ := recordIsOf_eq_true hrecord
    have hmem := tap?_mem hget
    rw [List.isEmpty_iff.mp hempty] at hmem
    cases hmem

theorem links_delete {links links' : Links} {name other : String}
    (h : links.delete name = some links') (hnone : links other = none) :
    links' other = none := by
  obtain ⟨link, -, rfl⟩ := Option.map_eq_some_iff.mp h
  by_cases hname : other = name
  · rw [hname]
    exact Function.update_self _ _ _
  · rw [Function.update_of_ne hname]
    split
    · simp [Links.withMaster, hnone]
    · exact hnone

theorem links_modify {links links' : Links} {name other : String} {f : Link → Link}
    (h : links.modify name f = some links') (hnone : links other = none) :
    links' other = none := by
  obtain ⟨link, hlink, rfl⟩ := Option.map_eq_some_iff.mp h
  have hname : other ≠ name := by
    rintro rfl
    cases hlink.symm.trans hnone
  rw [Function.update_of_ne hname]
  exact hnone

theorem cleaning_exec (c : HostCall) (x : HostAnswer) (h : FlatHost) (hcleans : Cleans c) :
    Cleaning h (execHost config c x h).2 := by
  cases c with
  | ip command =>
    simp only [execHost, execIp]
    split
    · exact .refl h
    · rename_i links hlinks
      refine ⟨fun name hnone => ?_, rfl, rfl, rfl⟩
      split at hlinks
      · cases command with
        | delete other => exact links_delete hlinks hnone
        | deleteAddress address other =>
          simp only [IpCommand.apply] at hlinks
          split at hlinks
          · cases hlinks
          · split at hlinks
            · exact links_modify hlinks hnone
            · cases hlinks
        | addBridge | addTap | setAddress | setMaster | rename | setUp | setDown
        | replaceAddress => exact hcleans.elim
      · cases hlinks
  | updateOwnership u =>
    simp only [execHost, execUpdate]
    cases happly : u.apply config h.manifest with
    | error e => exact .refl h
    | ok m =>
      have htaps : m.taps = h.manifest.taps := by
        cases u with
        | clearGateway =>
          simp only [OwnershipUpdate.apply] at happly
          cases happly
          rfl
        | clearBridge =>
          simp only [OwnershipUpdate.apply] at happly
          split at happly
          · cases happly
            rfl
          · cases happly
        | recordBridge | setGateway | recordTap | clearTap => exact hcleans.elim
      simp only
      split
      · exact ⟨fun _ h => h, htaps, rfl, rfl⟩
      · exact .refl h
  | linkExists | showLink | ownership => exact .refl h
  | partialSuffix | settled | refreshOwnership | configure | upsertBinding | removeBinding
  | binding | supervised | writeConfig | launchProcess | stopProcess | dropSupervisor =>
    exact hcleans.elim

variable (lib) in
theorem hosted_cleanupIfUnused (planId : Uuid) :
    Hosted config
      (fun _ s' => Removing lib config planId s s' ∧ s'.dhcp = s.dhcp ∧ s'.supervisor = s.supervisor)
      (fun (_ : HostNetworkError) s' => Removing lib config planId s s')
      (cleanupIfUnused config) s := by
  cases hempty : s.manifest.taps.rows.isEmpty with
  | true =>
    have hcleaning : Brings (execHost config) Works (fun _ s' => Cleaning s s')
        (cleanupIfUnused config).run s :=
      Brings.of_calls (fun c x h hcleans hbefore => hbefore.trans (cleaning_exec c x h hcleans))
        cleans_cleanupIfUnused (.refl s)
    refine Brings.mono ?_ hcleaning
    intro r s' h
    cases r with
    | error e => exact h.removing hempty planId
    | ok u => exact ⟨h.removing hempty planId, h.dhcp, h.supervisor⟩
  | false =>
    refine Ends.bind hosted_ownership ?_
    rintro _ _ ⟨rfl, rfl⟩
    rw [if_pos (by simp [hempty])]
    exact ends_pure ⟨.refl _ _, rfl, rfl⟩

theorem hosted_stopServing :
    Hosted config
      (fun _ s' => s'.supervisor = none ∧ s'.links = s.links ∧ s'.manifest = s.manifest ∧
        s'.dhcp = s.dhcp)
      (fun (_ : FlatNetworkError) _ => False)
      stopServing s := by
  refine Ends.bind (P := fun supervised s' => s = s' ∧ s.supervisor.isSome = supervised)
    (hosted_askFlat fun _ _ => ⟨rfl, rfl⟩) ?_
  rintro supervised _ ⟨rfl, hsupervised⟩
  cases supervised with
  | false => exact ends_pure ⟨by simpa using hsupervised, rfl, rfl, rfl⟩
  | true =>
    refine Ends.bind
      (P := fun (r : Except DhcpError Unit) s' => r = .ok () ∧
        s'.links = s.links ∧ s'.manifest = s.manifest ∧ s'.dhcp = s.dhcp)
      (hosted_askFlat fun x hx => by simp [execHost, stopDhcp, hx]) ?_
    rintro _ s₁ ⟨rfl, h⟩
    refine Ends.bind (P := fun _ s' => s₁ = s') (ends_pure rfl) ?_
    rintro _ _ rfl
    exact hosted_askFlat fun x _ => ⟨rfl, h⟩

theorem TapPresent.congr {h h' : FlatHost}
    (hpresent : TapPresent lib config h spec) (hlinks : h'.links = h.links)
    (hmanifest : h'.manifest = h.manifest) :
    TapPresent lib config h' spec := by
  unfold TapPresent
  rw [hlinks, hmanifest]
  exact hpresent

/-- **A removal that succeeds** has taken away the endpoints of the plan and
stopped the DHCP process; the other plans keep their TAPs, and their bindings
where it succeeds. -/
theorem hosted_remove (plan : FlatPlan) :
    Hosted config
      (fun _ s' =>
        Removing lib config plan.planId s s' ∧ BindingsKept lib config plan.planId s s' ∧
          (∀ spec ∈ endpointsOf plan.planId plan.intents, EndpointAbsent lib s' spec) ∧
          s'.supervisor = none)
      (fun _ s' => Removing lib config plan.planId s s') (remove lib config plan) s := by
  refine Ends.bind (hosted_removeEndpoints plan.planId plan.intents) ?_
  rintro _ s₁ ⟨hremoving, hkept, habsent⟩
  refine Ends.bind (Ends.mono hosted_stopServing (fun _ _ h => h) (fun _ _ h => h.elim)) ?_
  rintro _ s₂ ⟨hstopped, hlinks, hmanifest, hdhcp⟩
  have hstop : Removing lib config plan.planId s₁ s₂ := by
    refine ⟨?_, ?_, ?_, fun spec _ h => h.congr hlinks hmanifest⟩
    · exact fun name h => (congrFun hlinks name).trans h
    · intro name h
      rw [hmanifest]
      exact h
    · intro portId h
      rw [hdhcp]
      exact h
  refine hosted_hostly (Ends.mono (hosted_cleanupIfUnused lib plan.planId) ?_ ?_)
  · rintro _ s₃ ⟨hclean, hdhcp₃, hsupervisor₃⟩
    refine ⟨(hremoving.trans hstop).trans hclean, ?_, ?_, hsupervisor₃.trans hstopped⟩
    · intro spec hne hpresent
      rw [hdhcp₃, hdhcp]
      exact hkept spec hne hpresent
    · exact fun spec hspec => (habsent spec hspec).removing (hstop.trans hclean)
  · exact fun _ _ h => (hremoving.trans hstop).trans h

end FlatNetwork
end O3k
