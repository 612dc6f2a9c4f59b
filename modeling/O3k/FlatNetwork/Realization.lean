import O3k.FlatNetwork.Observation

/-!
# Realization

On a host on which every command works, a plan that has been realized has all
its endpoints and a DHCP process, and what other plans have is still there.
-/

namespace O3k
namespace FlatNetwork

open Relational Network Fabric Execution Semantics
open Planning (NetworkPlanIntent)
open Program (Brings Ends ends_pure ends_throw)
open Function (update update_of_ne update_self)

variable {lib : HostLibrary} {config : HostNetworkConfig} {α β ε : Type} {s : FlatHost}

/-- Where every command works, a value satisfies `P`. -/
abbrev Yields (config : HostNetworkConfig) (P : α → FlatHost → Prop)
    (p : ExceptT ε (Program HostCall HostReply) α) (s : FlatHost) :
    Prop :=
  Hosted config P (fun _ _ => True) p s

theorem yields_of_true (p : ExceptT ε (Program HostCall HostReply) α) (s : FlatHost) :
    Yields config (fun _ _ => True) p s := by
  have hall : ∀ q : Program HostCall HostReply (Except ε α), q.Calls (fun _ => True) := by
    intro q
    induction q with
    | done a => trivial
    | call c next ih => exact ⟨trivial, ih⟩
  refine Brings.mono ?_
    (Brings.of_calls (fun _ _ _ _ h => h) (hall p.run) (s := s) (I := fun _ => True) trivial)
  intro r s' _
  cases r <;> trivial

theorem yields_orRollback {P : α → FlatHost → Prop} {p : HostM α}
    {undo : HostNetworkError → HostM HostNetworkError} (hp : Yields config P p s) :
    Yields config P (HostM.orRollback p undo) s := by
  refine Ends.bind (Program.ends_lift_run hp) ?_
  intro r s' hr
  cases r with
  | ok a => exact ends_pure hr
  | error e => exact Ends.bind (yields_of_true _ _) (fun _ _ _ => ends_throw trivial)

theorem yields_require {condition : Bool} {e : HostNetworkError} :
    Yields config (fun _ s' => s = s' ∧ condition = true) (HostM.require condition e) s :=
  hosted_require (fun h => ⟨rfl, h⟩) (fun _ => trivial)

theorem yields_runIp (command : IpCommand) :
    Yields config
      (fun _ s' => ∃ mac links, command.apply s.links s.nextIndex mac = some links ∧
        s' = { s with links := links, nextIndex := s.nextIndex + 1 })
      (HostM.runIp command) s := by
  refine Ends.bind
    (P := fun (r : Except HostNetworkError Unit) s' => r = .ok () →
      ∃ mac links, command.apply s.links s.nextIndex mac = some links ∧
        s' = { s with links := links, nextIndex := s.nextIndex + 1 })
    (hosted_ask fun x hx => ?_) ?_
  · simp only [execHost, execIp, hx, if_true]
    cases happly : command.apply s.links s.nextIndex x.mac with
    | none => exact fun h => by cases h
    | some links => exact fun _ => ⟨x.mac, links, happly, rfl⟩
  · intro r s' h
    cases r with
    | error e => exact ends_throw trivial
    | ok u => exact ends_pure (h rfl)

theorem yields_update (u : OwnershipUpdate) :
    Yields config
      (fun _ s' => ∃ m, u.apply config s.manifest = .ok m ∧ s' = { s with manifest := m })
      (HostM.update u) s := by
  refine Ends.bind
    (P := fun (r : Except HostNetworkError Unit) s' => r = .ok () →
      ∃ m, u.apply config s.manifest = .ok m ∧ s' = { s with manifest := m })
    (hosted_ask fun x hx => ?_) ?_
  · simp only [execHost, execUpdate]
    cases happly : u.apply config s.manifest with
    | error e => exact fun h => by cases h
    | ok m =>
      simp only [hx, if_true]
      exact fun _ => ⟨m, rfl, rfl⟩
  · intro r s' h
    cases r with
    | error e => exact ends_throw trivial
    | ok u => exact ends_pure (h rfl)

/-- What is an owned TAP still is. -/
def LinksKeep (config : HostNetworkConfig) (links links' : Links) : Prop :=
  ∀ name mac, (∃ link ∈ links name, link.isOwned mac config.bridgeName = true) →
    ∃ link ∈ links' name, link.isOwned mac config.bridgeName = true

/-- The TAPs and the DHCP service are as they were. -/
structure Bridging (config : HostNetworkConfig) (h h' : FlatHost) : Prop where
  links : LinksKeep config h.links h'.links
  taps : h'.manifest.taps = h.manifest.taps
  dhcp : h'.dhcp = h.dhcp
  supervisor : h'.supervisor = h.supervisor

theorem Bridging.refl (h : FlatHost) : Bridging config h h :=
  ⟨fun _ _ h => h, rfl, rfl, rfl⟩

theorem Bridging.trans {h₁ h₂ h₃ : FlatHost}
    (h₁₂ : Bridging config h₁ h₂) (h₂₃ : Bridging config h₂ h₃) :
    Bridging config h₁ h₃ :=
  ⟨fun name mac h => h₂₃.links name mac (h₁₂.links name mac h), h₂₃.taps.trans h₁₂.taps,
    h₂₃.dhcp.trans h₁₂.dhcp, h₂₃.supervisor.trans h₁₂.supervisor⟩

variable {name : String} {f : Link → Link}

theorem linksKeep_modify {links links' : Links} (h : links.modify name f = some links')
    (hf : ∀ link mac, link.isOwned mac config.bridgeName = true →
      (f link).isOwned mac config.bridgeName = true) :
    LinksKeep config links links' := by
  obtain ⟨link, hlink, rfl⟩ := Option.map_eq_some_iff.mp h
  rintro other mac ⟨owned, howned, hmac⟩
  by_cases hname : other = name
  · subst hname
    cases Option.some.inj (hlink.symm.trans howned)
    exact ⟨_, update_self _ _ _, hf _ _ hmac⟩
  · exact ⟨owned, (update_of_ne hname _ _).trans howned, hmac⟩

theorem eqIgnoreAsciiCase_self (s : String) : eqIgnoreAsciiCase s s = true := decide_eq_true rfl

theorem yields_modifying {command : IpCommand}
    (hkeep : ∀ links links' index mac, command.apply links index mac = some links' →
      LinksKeep config links links') :
    Yields config (fun _ s' => Bridging config s s') (HostM.runIp command) s := by
  refine Ends.mono (yields_runIp command) ?_ (fun _ _ h => h)
  rintro _ _ ⟨mac, links, happly, rfl⟩
  exact ⟨hkeep _ _ _ _ happly, rfl, rfl, rfl⟩

theorem yields_setUp (name : String) :
    Yields config (fun _ s' => Bridging config s s') (HostM.runIp (.setUp name)) s :=
  yields_modifying fun _ _ _ _ h => linksKeep_modify h (fun _ _ h => h)

theorem yields_replaceAddress (gateway : GatewaySpec) (name : String) :
    Yields config (fun _ s' => Bridging config s s')
      (HostM.runIp (.replaceAddress gateway name)) s :=
  yields_modifying fun _ _ _ _ h => linksKeep_modify h (fun _ _ h => h)

theorem yields_setMaster (name : String) :
    Yields config (fun _ s' => Bridging config s s')
      (HostM.runIp (.setMaster name config.bridgeName)) s := by
  refine yields_modifying fun links links' index mac h => ?_
  simp only [IpCommand.apply] at h
  split at h
  · refine linksKeep_modify h (fun link mac howned => ?_)
    simp only [Link.isOwned, Bool.and_eq_true, decide_eq_true_eq] at howned ⊢
    exact ⟨howned.1, eqIgnoreAsciiCase_self _⟩
  · cases h

theorem yields_attachUplink :
    Yields config (fun _ s' => Bridging config s s') (attachUplink config) s := by
  unfold attachUplink
  split
  · exact ends_pure (.refl s)
  · exact yields_setMaster _

theorem yields_checkUplink : Yields config (fun _ s' => s = s') (checkUplink config) s := by
  unfold checkUplink
  split
  · exact ends_pure rfl
  · refine Ends.bind_call (hosted_showLink _) ?_
    rintro shown _ ⟨rfl, -⟩
    cases shown with
    | none => exact ends_throw trivial
    | some link => exact Ends.mono yields_require (fun _ _ h => h.1) (fun _ _ h => h)

theorem yields_reuseBridge :
    Yields config (fun _ s' => Bridging config s s') (reuseBridge config) s := by
  refine Ends.bind_call (hosted_showLink _) ?_
  rintro shown _ ⟨rfl, -⟩
  cases shown with
  | none => exact ends_throw trivial
  | some link =>
    refine Ends.bind hosted_ownership ?_
    rintro m _ ⟨rfl, rfl⟩
    refine Ends.bind yields_require ?_
    rintro _ _ ⟨rfl, -⟩
    refine Ends.bind yields_require ?_
    rintro _ _ ⟨rfl, -⟩
    refine Ends.bind (yields_setUp _) ?_
    intro _ s₁ h₁
    refine Ends.bind yields_checkUplink ?_
    rintro _ _ rfl
    exact ends_pure h₁

/-- While the bridge has its provisional name, the other links are as they
were. -/
def Provisional (temp : String) (h h' : FlatHost) : Prop :=
  (∀ name, name ≠ temp → h'.links name = h.links name) ∧
    h'.manifest.taps = h.manifest.taps ∧ h'.dhcp = h.dhcp ∧ h'.supervisor = h.supervisor

variable {h h' : FlatHost} {temp : String}

theorem Provisional.links (hbefore : Provisional temp h h') {links : Links}
    (hlinks : ∀ name, name ≠ temp → links name = h'.links name) (index : Nat) :
    Provisional temp h { h' with links := links, nextIndex := index } :=
  ⟨fun name hname => (hlinks name hname).trans (hbefore.1 name hname), hbefore.2⟩

theorem modify_of_ne {links links' : Links} {name other : String}
    (h : links.modify name f = some links') (hother : other ≠ name) :
    links' other = links other := by
  obtain ⟨link, -, rfl⟩ := Option.map_eq_some_iff.mp h
  exact update_of_ne hother _ _

variable {link : Link}

theorem add_of_ne {links links' : Links} {name other : String}
    (h : links.add name link = some links') (hother : other ≠ name) :
    links name = none ∧ links' other = links other := by
  unfold Links.add at h
  split at h
  · cases h
  · rename_i hfree
    cases h
    exact ⟨by simpa using hfree, update_of_ne hother _ _⟩

variable {h : FlatHost}

theorem yields_provisional {command : IpCommand} (hbefore : Provisional temp h s)
    (honly : ∀ links links' index mac, command.apply links index mac = some links' →
      ∀ name, name ≠ temp → links' name = links name) :
    Yields config (fun _ s' => Provisional temp h s') (HostM.runIp command) s := by
  refine Ends.mono (yields_runIp command) ?_ (fun _ _ h => h)
  rintro _ _ ⟨mac, links, happly, rfl⟩
  exact hbefore.links (honly _ _ _ _ happly) _

theorem yields_provisionalIdentity (temp : String) :
    Yields config (fun _ s' => s = s') (provisionalIdentity temp) s := by
  refine Ends.bind (P := fun _ s' => s = s') (hosted_ask fun _ _ => rfl) ?_
  rintro shown _ rfl
  split
  · exact ends_throw trivial
  · refine Ends.bind yields_require ?_
    rintro _ _ ⟨rfl, -⟩
    exact ends_pure rfl

theorem yields_recordBridge (hbefore : Provisional temp h s) (identity : LinkIdentity) :
    Yields config (fun _ s' => Provisional temp h s') (HostM.update (.recordBridge identity)) s := by
  refine Ends.mono (yields_update _) ?_ (fun _ _ h => h)
  rintro _ _ ⟨m, happly, rfl⟩
  simp only [OwnershipUpdate.apply] at happly
  split at happly
  · cases happly
  · cases happly
    exact hbefore

theorem yields_renameBridge (hbefore : Provisional temp h s) (htemp : h.links temp = none)
    (hbridge : h.links config.bridgeName = none) :
    Yields config (fun _ s' => Bridging config h s')
      (HostM.runIp (.rename temp config.bridgeName)) s := by
  refine Ends.mono (yields_runIp _) ?_ (fun _ _ h => h)
  rintro _ _ ⟨mac, links, happly, rfl⟩
  refine ⟨?_, hbefore.2.1, hbefore.2.2.1, hbefore.2.2.2⟩
  simp only [IpCommand.apply, Links.rename] at happly
  split at happly
  · cases happly
  rename_i link _
  split at happly
  · cases happly
  cases happly
  rintro name owner ⟨owned, howned, hmac⟩
  have hne : name ≠ temp := by
    rintro rfl
    cases htemp.symm.trans howned
  have hne' : name ≠ config.bridgeName := by
    rintro rfl
    cases hbridge.symm.trans howned
  have hsame : update (update s.links temp none) config.bridgeName (some link) name
      = some owned := by
    rw [update_of_ne hne', update_of_ne hne, hbefore.1 name hne]
    exact howned
  split
  · refine ⟨if owned.master = some temp then { owned with master := some config.bridgeName }
      else owned, ?_, ?_⟩
    · simp only [Links.withMaster, Option.mem_def]
      rw [hsame]
      rfl
    · split
      · simp only [Link.isOwned, Bool.and_eq_true, decide_eq_true_eq] at hmac ⊢
        exact ⟨hmac.1, eqIgnoreAsciiCase_self _⟩
      · exact hmac
  · exact ⟨owned, hsame, hmac⟩

theorem yields_createBridge (hbridge : s.links config.bridgeName = none) :
    Yields config (fun _ s' => Bridging config s s') (createBridge lib config) s := by
  refine Ends.bind (P := fun _ s' => s = s') (hosted_ask fun _ _ => rfl) ?_
  rintro suffix _ rfl
  refine Ends.bind
    (P := fun _ s' => Provisional (partialBridgeName suffix) s s' ∧
      s.links (partialBridgeName suffix) = none)
    (Ends.mono (yields_runIp _) ?_ (fun _ _ h => h)) ?_
  · rintro _ _ ⟨mac, links, happly, rfl⟩
    have hfree : s.links (partialBridgeName suffix) = none := by
      simp only [IpCommand.apply, Links.add] at happly
      split at happly
      · cases happly
      · rename_i hfree
        simpa using hfree
    exact ⟨⟨fun name hname => (add_of_ne happly hname).2, rfl, rfl, rfl⟩, hfree⟩
  rintro _ s₁ ⟨h₁, htemp⟩
  refine Ends.bind (yields_orRollback (Ends.bind
    (yields_provisional h₁ (fun _ _ _ _ h _ hname => modify_of_ne h hname))
    (fun _ _ h => yields_provisional h (fun _ _ _ _ h _ hname => modify_of_ne h hname)))) ?_
  intro _ s₂ h₂
  refine Ends.bind (yields_orRollback (yields_provisionalIdentity _)) ?_
  rintro identity _ rfl
  refine Ends.bind (yields_orRollback (yields_recordBridge h₂ identity)) ?_
  intro _ s₃ h₃
  refine Ends.bind (yields_orRollback (Ends.bind
    (yields_provisional h₃ (fun _ _ _ _ h _ hname => modify_of_ne h hname))
    (fun _ _ h => yields_renameBridge h htemp hbridge))) ?_
  intro _ s₄ h₄
  refine Ends.bind (P := fun _ s' => Bridging config s s')
    (yields_orRollback (Ends.bind (yields_setUp _) ?_)) ?_
  · intro _ s₅ h₅
    refine Ends.mono yields_attachUplink ?_ (fun _ _ h => h)
    exact fun _ _ h => (h₄.trans h₅).trans h
  · exact fun _ s₅ h₅ => ends_pure h₅

theorem yields_ensureBridgeWithOwnership :
    Yields config (fun _ s' => Bridging config s s') (ensureBridgeWithOwnership lib config) s := by
  refine Ends.bind (hosted_linkExists _) ?_
  rintro found _ ⟨rfl, hfound⟩
  cases found with
  | true => exact yields_reuseBridge
  | false => exact yields_createBridge (by simpa using hfound)

theorem yields_setGateway (gateway : GatewaySpec) :
    Yields config (fun _ s' => Bridging config s s') (HostM.update (.setGateway gateway)) s := by
  refine Ends.mono (yields_update _) ?_ (fun _ _ h => h)
  rintro _ _ ⟨m, happly, rfl⟩
  simp only [OwnershipUpdate.apply] at happly
  split at happly
  · cases happly
  · split at happly
    · cases happly
    · cases happly
      exact ⟨fun _ _ h => h, rfl, rfl, rfl⟩

theorem yields_checkOwnedUnlessCreated (created : Bool) :
    Yields config (fun _ s' => s = s') (checkOwnedUnlessCreated config created) s := by
  cases created with
  | true => exact ends_pure rfl
  | false =>
    refine Ends.bind (P := fun _ s' => s = s') ?_ ?_
    · refine Ends.bind_call (hosted_showLink _) ?_
      rintro _ _ ⟨rfl, -⟩
      refine Ends.bind hosted_ownership ?_
      rintro _ _ ⟨rfl, -⟩
      exact ends_pure rfl
    · rintro _ _ rfl
      exact Ends.mono yields_require (fun _ _ h => h.1) (fun _ _ h => h)

theorem yields_ensureGateway (gateway : GatewaySpec) :
    Yields config (fun _ s' => Bridging config s s') (ensureGateway lib config gateway) s := by
  refine Ends.bind yields_require ?_
  rintro _ _ ⟨rfl, -⟩
  refine Ends.bind hosted_ownership ?_
  rintro m _ ⟨rfl, -⟩
  refine Ends.bind yields_require ?_
  rintro _ _ ⟨rfl, -⟩
  refine Ends.bind yields_ensureBridgeWithOwnership ?_
  intro created s₁ h₁
  refine Ends.bind (yields_checkOwnedUnlessCreated created) ?_
  rintro _ _ rfl
  refine Ends.bind (yields_orRollback (yields_replaceAddress _ _)) ?_
  intro _ s₂ h₂
  refine yields_orRollback (Ends.mono (yields_setGateway gateway) ?_ (fun _ _ h => h))
  exact fun _ _ h => (h₁.trans h₂).trans h

/-- The TAPs of the plans stay, and so do the bindings. -/
structure Adding (lib : HostLibrary) (config : HostNetworkConfig) (h h' : FlatHost) :
    Prop where
  taps : ∀ spec, TapPresent lib config h spec → TapPresent lib config h' spec
  bindings : ∀ portId, (h.dhcp.bindings.get? portId).isSome = true →
    (h'.dhcp.bindings.get? portId).isSome = true

theorem Adding.refl (h : FlatHost) : Adding lib config h h :=
  ⟨fun _ h => h, fun _ h => h⟩

theorem Adding.trans {h₁ h₂ h₃ : FlatHost}
    (h₁₂ : Adding lib config h₁ h₂) (h₂₃ : Adding lib config h₂ h₃) :
    Adding lib config h₁ h₃ :=
  ⟨fun spec h => h₂₃.taps spec (h₁₂.taps spec h),
    fun portId h => h₂₃.bindings portId (h₁₂.bindings portId h)⟩

variable {spec : TapSpec}

theorem EndpointPresent.adding
    (hpresent : EndpointPresent lib config h spec) (hadding : Adding lib config h h') :
    EndpointPresent lib config h' spec :=
  ⟨hadding.taps spec hpresent.1, hadding.bindings _ hpresent.2⟩

theorem Bridging.adding (hbridging : Bridging config h h') :
    Adding lib config h h' where
  taps := by
    rintro spec ⟨hlink, hrecord⟩
    refine ⟨hbridging.links _ _ hlink, ?_⟩
    unfold recordIsOf NetworkOwnershipManifest.tap? at hrecord ⊢
    rw [hbridging.taps]
    exact hrecord
  bindings portId h := by
    rw [hbridging.dhcp]
    exact h

/-- While a TAP has its provisional name: it has the address, and the master
once it is set; the rest is as it was. -/
structure Making (temp : String) (h h' : FlatHost) : Prop where
  links : ∀ name, name ≠ temp → h'.links name = h.links name
  free : h.links temp = none
  taps : h'.manifest.taps = h.manifest.taps
  dhcp : h'.dhcp = h.dhcp

theorem yields_stabilizeTapAddress {temp mac : String}
    (hlink : s.links temp = some link) (hmac : eqIgnoreAsciiCase link.mac mac = true)
    (polls : Nat) :
    Yields config (fun _ s' => s = s') (stabilizeTapAddress temp mac polls) s := by
  induction polls with
  | zero => exact ends_throw trivial
  | succ polls ih =>
    refine Ends.bind_call (hosted_showLink _) ?_
    rintro shown _ ⟨rfl, hshown⟩
    rw [hlink] at hshown
    cases hshown
    dsimp only
    rw [if_pos hmac]
    refine Ends.bind (P := fun _ s' => s = s') (hosted_ask fun _ _ => rfl) ?_
    rintro settled _ rfl
    split
    · exact ends_pure rfl
    · exact ih

structure Made (config : HostNetworkConfig) (name : String) (spec : TapSpec) (h h' : FlatHost) :
    Prop where
  link : ∃ link ∈ h'.links name, link.isOwned spec.mac config.bridgeName = true
  record : h'.manifest.tap? name = some (spec.record config name)
  links : ∀ other, other ≠ name → h'.links other = h.links other
  records : ∀ other, other ≠ name → h'.manifest.tap? other = h.manifest.tap? other
  dhcp : h'.dhcp = h.dhcp

theorem yields_recordTap (name : String) (spec : TapSpec) :
    Yields config
      (fun _ s' => s'.links = s.links ∧ s'.dhcp = s.dhcp ∧
        s'.manifest.tap? name = some (spec.record config name) ∧
        ∀ other, other ≠ name → s'.manifest.tap? other = s.manifest.tap? other)
      (HostM.update (.recordTap name spec)) s := by
  refine Ends.mono (yields_update _) ?_ (fun _ _ h => h)
  rintro _ _ ⟨m, happly, rfl⟩
  simp only [OwnershipUpdate.apply] at happly
  split at happly
  · cases happly
  · cases happly
    refine ⟨rfl, rfl, ?_, fun other hother => ?_⟩
    · simp [NetworkOwnershipManifest.tap?, s.manifest.taps.get?_put]
    · simp [NetworkOwnershipManifest.tap?, s.manifest.taps.get?_put, Ne.symm hother]

theorem yields_addTap (temp : String) :
    Yields config (fun _ s' => Making temp s s' ∧ ∃ link ∈ s'.links temp, link.kind = .tap)
      (HostM.runIp (.addTap temp)) s := by
  refine Ends.mono (yields_runIp _) ?_ (fun _ _ h => h)
  rintro _ _ ⟨mac, links, happly, rfl⟩
  have hfree : s.links temp = none := by
    simp only [IpCommand.apply, Links.add] at happly
    split at happly
    · cases happly
    · rename_i hfree
      simpa using hfree
  simp only [IpCommand.apply, Links.add, hfree, Option.isSome_none, Bool.false_eq_true,
    if_false] at happly
  cases happly
  exact ⟨⟨fun name hname => update_of_ne hname _ _, hfree, rfl, rfl⟩, _, update_self _ _ _, rfl⟩

theorem Making.modify {links : Links}
    (hmaking : Making temp h h') (hmodify : Links.modify h'.links temp f = some links)
    (index : Nat) :
    Making temp h { h' with links := links, nextIndex := index } :=
  ⟨fun name hname => (modify_of_ne hmodify hname).trans (hmaking.links name hname), hmaking.free,
    hmaking.taps, hmaking.dhcp⟩

theorem modify_self {links links' : Links}
    (h : links.modify name f = some links') (hlink : links name = some link) :
    links' name = some (f link) := by
  unfold Links.modify at h
  rw [hlink] at h
  cases h
  exact update_self _ _ _

theorem yields_enslaveTap
    (hmaking : Making temp h s) (hlink : s.links temp = some link) (hkind : link.kind = .tap)
    (mac : String) :
    Yields config
      (fun _ s' => Making temp h s' ∧ ∃ link ∈ s'.links temp,
        link.kind = .tap ∧ link.isOwned mac config.bridgeName = true ∧
          eqIgnoreAsciiCase link.mac mac = true)
      (do
        HostM.runIp (.setAddress temp mac)
        HostM.runIp (.setMaster temp config.bridgeName)) s := by
  refine Ends.bind (yields_runIp _) ?_
  rintro _ _ ⟨_, links, happly, rfl⟩
  have hlink₁ : links temp = some { link with mac := mac } := modify_self happly hlink
  have hmaking₁ := hmaking.modify happly (s.nextIndex + 1)
  refine Ends.mono (yields_runIp _) ?_ (fun _ _ h => h)
  rintro _ _ ⟨_, links', happly', rfl⟩
  simp only [IpCommand.apply] at happly'
  split at happly'
  · refine ⟨hmaking₁.modify happly' _, _, modify_self happly' hlink₁, hkind, ?_,
      eqIgnoreAsciiCase_self _⟩
    simp [Link.isOwned, hkind, eqIgnoreAsciiCase_self]
  · cases happly'

theorem yields_renameTap {temp name : String}
    (hlink : s.links temp = some link) (hkind : link.kind = .tap) :
    Yields config
      (fun _ s' => s'.links name = some link ∧ s.links name = none ∧
        (s'.links temp = none ∧ ∀ other, other ≠ temp → other ≠ name →
          s'.links other = s.links other) ∧
        s'.manifest = s.manifest ∧ s'.dhcp = s.dhcp)
      (HostM.runIp (.rename temp name)) s := by
  refine Ends.mono (yields_runIp _) ?_ (fun _ _ h => h)
  rintro _ _ ⟨_, links, happly, rfl⟩
  simp only [IpCommand.apply, Links.rename, hlink, hkind] at happly
  split at happly
  · cases happly
  rename_i hfree
  have hnone : s.links name = none := by simpa using hfree
  have hne : temp ≠ name := by
    rintro rfl
    cases hlink.symm.trans hnone
  rw [if_neg (by decide)] at happly
  cases happly
  refine ⟨update_self _ _ _, hnone, ⟨?_, fun other htemp hname => ?_⟩, rfl, rfl⟩
  · exact (update_of_ne hne _ _).trans (update_self _ _ _)
  · exact (update_of_ne hname _ _).trans (update_of_ne htemp _ _)

/-- **A TAP is made** where its name is free. -/
theorem yields_createTap (spec : TapSpec) (created : Bool) :
    Yields config (fun _ s' => Made config name spec s s' ∧ s.links name = none)
      (createTap config name spec created) s := by
  refine Ends.bind (P := fun _ s' => s = s') (hosted_ask fun _ _ => rfl) ?_
  rintro suffix _ rfl
  refine Ends.bind (yields_orRollback (yields_addTap _)) ?_
  rintro _ s₁ ⟨h₁, link₁, hlink₁, hkind₁⟩
  refine Ends.bind (yields_orRollback (yields_enslaveTap h₁ hlink₁ hkind₁ spec.mac)) ?_
  rintro _ s₂ ⟨h₂, link, hlink, hkind, howned, hmac⟩
  refine Ends.bind (yields_orRollback (yields_stabilizeTapAddress hlink hmac _)) ?_
  rintro _ _ rfl
  refine Ends.bind (yields_orRollback (yields_recordTap name spec)) ?_
  rintro _ s₃ ⟨hlinks, hdhcp, hrecord, hrecords⟩
  refine Ends.bind (yields_orRollback (yields_renameTap ((congrFun hlinks _).trans hlink) hkind)) ?_
  rintro _ s₄ ⟨hnamed, hfree, ⟨htemp, hothers⟩, hmanifest₄, hdhcp₄⟩
  have hne : name ≠ partialTapName suffix := by
    rintro rfl
    cases hnamed.symm.trans htemp
  have hmade : Made config name spec s s₄ := by
    refine ⟨⟨link, hnamed, howned⟩, hmanifest₄ ▸ hrecord, ?_, ?_, ?_⟩
    · intro other hother
      by_cases hsame : other = partialTapName suffix
      · rw [hsame, htemp, h₂.free]
      · rw [hothers other hsame hother, hlinks, h₂.links other hsame]
    · intro other hother
      rw [hmanifest₄, hrecords other hother]
      unfold NetworkOwnershipManifest.tap?
      rw [h₂.taps]
    · rw [hdhcp₄, hdhcp, h₂.dhcp]
  have hnone : s.links name = none := by
    rw [← h₂.links name hne, ← hlinks]
    exact hfree
  refine Ends.bind (P := fun _ s' => Made config name spec s s')
    (yields_orRollback (Ends.mono (yields_runIp _) ?_ (fun _ _ h => h))) ?_
  · rintro _ _ ⟨_, links, happly, rfl⟩
    refine ⟨⟨_, modify_self happly hnamed, howned⟩, hmade.record, ?_, hmade.records, hmade.dhcp⟩
    exact fun other hother => (modify_of_ne happly hother).trans (hmade.links other hother)
  · exact fun _ _ h => ends_pure ⟨h, hnone⟩

theorem recordIsOf_record {m : NetworkOwnershipManifest}
    (h : m.tap? name = some (spec.record config name)) :
    recordIsOf config m name spec = true := by
  unfold recordIsOf
  rw [h]
  simp [TapOwnership.isOf, TapSpec.record, eqIgnoreAsciiCase_toAsciiLowercase]

theorem Made.present (hmade : Made config (tapName lib spec.portId) spec h h') :
    TapPresent lib config h' spec :=
  ⟨hmade.link, recordIsOf_record hmade.record⟩

theorem Made.adding (hmade : Made config name spec h h') (hfree : h.links name = none) :
    Adding lib config h h' where
  taps := by
    rintro other ⟨⟨link, hlink, howned⟩, hrecord⟩
    have hne : tapName lib other.portId ≠ name := by
      rintro rfl
      cases hfree.symm.trans hlink
    refine ⟨⟨link, (hmade.links _ hne).trans hlink, howned⟩, ?_⟩
    unfold recordIsOf at hrecord ⊢
    rw [hmade.records _ hne]
    exact hrecord
  bindings portId h := by
    rw [hmade.dhcp]
    exact h

/-- **An endpoint gets its TAP**, and the others keep theirs. -/
theorem yields_ensureTap (spec : TapSpec) :
    Yields config (fun _ s' => TapPresent lib config s' spec ∧ Adding lib config s s')
      (ensureTap lib config spec) s := by
  rcases validateSpec_cases spec with ⟨hvalid, heq⟩ | ⟨-, e, heq⟩
  · unfold ensureTap
    rw [heq]
    refine Ends.bind (P := fun _ s' => s = s') (ends_pure rfl) ?_
    rintro _ _ rfl
    refine Ends.bind yields_ensureBridgeWithOwnership ?_
    intro created s₁ h₁
    refine hosted_nameOfTap_bind hvalid ?_
    refine Ends.bind (hosted_linkExists _) ?_
    rintro found _ ⟨rfl, -⟩
    cases found with
    | true =>
      refine Ends.bind
        (Ends.mono (hosted_interfaceIsOwned _ _) (fun _ _ h => h) (fun _ _ _ => trivial)) ?_
      rintro owned _ ⟨rfl, link, hlink, howned⟩
      cases owned with
      | false =>
        exact Ends.bind (yields_of_true _ _) (fun _ _ _ => ends_throw trivial)
      | true =>
        refine Ends.bind
          (Ends.mono (hosted_validateRecordedTap _ _) (fun _ _ h => h) (fun _ _ _ => trivial)) ?_
        rintro _ _ ⟨rfl, hrecord⟩
        exact ends_pure ⟨⟨⟨link, hlink, howned⟩, hrecord⟩, h₁.adding⟩
    | false =>
      refine Ends.mono (yields_createTap spec created) ?_ (fun _ _ h => h)
      rintro _ _ ⟨hmade, hfree⟩
      exact ⟨hmade.present, h₁.adding.trans (hmade.adding hfree)⟩
  · unfold ensureTap
    rw [heq]
    exact ends_throw trivial

theorem adding_dhcp {d : DhcpState}
    (h : ∀ portId, (s.dhcp.bindings.get? portId).isSome = true →
      (d.bindings.get? portId).isSome = true) :
    Adding lib config s { s with dhcp := d } :=
  ⟨fun _ h => h, h⟩

theorem yields_dhcply {r : Except DhcpError α} :
    Yields config (fun a s' => s = s' ∧ r = .ok a) (FlatM.dhcply r) s := by
  cases r with
  | error e => exact ends_throw trivial
  | ok a => exact ends_pure ⟨rfl, rfl⟩

variable (lib) in
theorem yields_configure (c : DhcpConfig) :
    Yields config (fun _ s' => Adding lib config s s')
      (FlatM.ask (.configure c) >>= fun r => FlatM.dhcply r) s := by
  refine Ends.bind
    (P := fun (r : Except DhcpError Unit) s' => r = .ok () → Adding lib config s s')
    (hosted_askFlat fun x hx => ?_) ?_
  · simp only [execHost, persistDhcp, DhcpState.configure]
    split
    · exact fun h => by cases h
    · rename_i d hd
      intro _
      split at hd
      · cases hd
        exact adding_dhcp (fun _ h => h)
      · cases hd
  · intro r s' h
    refine Ends.mono yields_dhcply ?_ (fun _ _ h => h)
    rintro _ _ ⟨rfl, rfl⟩
    exact h rfl

variable (lib) in
theorem yields_upsertBinding (binding : Binding) :
    Yields config
      (fun _ s' => Adding lib config s s' ∧ (s'.dhcp.bindings.get? binding.portId).isSome = true)
      (FlatM.ask (.upsertBinding binding) >>= fun r => FlatM.dhcply r) s := by
  refine Ends.bind
    (P := fun (r : Except DhcpError Unit) s' => r = .ok () →
      Adding lib config s s' ∧ (s'.dhcp.bindings.get? binding.portId).isSome = true)
    (hosted_askFlat fun x hx => ?_) ?_
  · simp only [execHost, persistDhcp]
    cases hd : s.dhcp.upsertBinding binding with
    | error e => exact fun h => by cases h
    | ok d =>
      intro _
      unfold DhcpState.upsertBinding at hd
      split at hd
      · cases hd
      · split at hd
        · cases hd
        · split at hd
          · cases hd
          · cases hd
            refine ⟨adding_dhcp fun portId h => ?_, ?_⟩
            · simp only [s.dhcp.bindings.get?_put]
              split
              · rfl
              · exact h
            · simp [s.dhcp.bindings.get?_put]
  · intro r s' h
    refine Ends.mono yields_dhcply ?_ (fun _ _ h => h)
    rintro _ _ ⟨rfl, rfl⟩
    exact h rfl

theorem yields_realizeEndpoints (planId : Uuid) (intents : List NetworkPlanIntent) :
    Yields config
      (fun _ s' => Adding lib config s s' ∧
        ∀ spec ∈ endpointsOf planId intents, EndpointPresent lib config s' spec)
      (realizeEndpoints lib config planId intents) s := by
  induction intents generalizing s with
  | nil => exact ends_pure ⟨.refl s, fun _ h => by cases h⟩
  | cons intent rest ih =>
    cases intent with
    | endpointAttachment endpointId mac fixedIp generation =>
      simp only [endpointsOf, List.forall_mem_cons]
      refine Ends.bind (hosted_hostly (yields_ensureTap _)) ?_
      rintro _ s₁ ⟨hpresent, h₁⟩
      refine Ends.bind_call (yields_upsertBinding lib ⟨endpointId, mac, fixedIp⟩) ?_
      rintro _ s₂ ⟨h₂, hbinding⟩
      refine Ends.mono ih ?_ (fun _ _ h => h)
      rintro _ s₃ ⟨h₃, hrest⟩
      refine ⟨(h₁.trans h₂).trans h₃, ?_, hrest⟩
      exact EndpointPresent.adding ⟨h₂.taps _ hpresent, hbinding⟩ h₃
    | addressRealm | addressAssignment | route | gateway | egress | publicAddressBinding
    | policyDefault | policy => exact ih

theorem yields_writeConfig :
    Yields config (fun _ s' => s = s') (FlatM.ask .writeConfig >>= fun r => FlatM.dhcply r) s := by
  refine Ends.bind (P := fun _ s' => s = s') (hosted_askFlat fun _ _ => rfl) ?_
  rintro r _ rfl
  exact Ends.mono yields_dhcply (fun _ _ h => h.1) (fun _ _ h => h)

theorem adding_supervisor (supervisor : Option DnsmasqSupervisor) :
    Adding lib config s { s with supervisor := supervisor } :=
  ⟨fun _ h => h, fun _ h => h⟩

variable (lib) in
theorem yields_launchProcess :
    Yields config (fun _ s' => Adding lib config s s' ∧ s'.Serving)
      (FlatM.ask .launchProcess >>= fun r => FlatM.dhcply r) s := by
  refine Ends.bind
    (P := fun (_ : Except DhcpError Unit) s' => Adding lib config s s' ∧ s'.Serving)
    (hosted_askFlat fun x hx => ?_) ?_
  · simp only [execHost, launchDhcp, hx, if_true]
    exact ⟨adding_supervisor _, _, rfl, rfl⟩
  · intro r s' h
    refine Ends.mono yields_dhcply ?_ (fun _ _ h => h)
    rintro _ _ ⟨rfl, -⟩
    exact h

variable (lib) in
theorem yields_stopProcess :
    Yields config (fun _ s' => Adding lib config s s')
      (FlatM.ask .stopProcess >>= fun r => FlatM.dhcply r) s := by
  refine Ends.bind (P := fun (_ : Except DhcpError Unit) s' => Adding lib config s s')
    (hosted_askFlat fun x hx => ?_) ?_
  · simp only [execHost, stopDhcp, hx, if_true]
    exact adding_supervisor _
  · intro r s' h
    refine Ends.mono yields_dhcply ?_ (fun _ _ h => h)
    rintro _ _ ⟨rfl, -⟩
    exact h

variable (lib) in
theorem yields_serveDhcp :
    Yields config (fun _ s' => Adding lib config s s' ∧ s'.Serving) serveDhcp s := by
  refine Ends.bind (P := fun _ s' => s = s') (hosted_askFlat fun _ _ => rfl) ?_
  rintro supervised _ rfl
  cases supervised with
  | false =>
    refine Ends.bind_call yields_writeConfig ?_
    rintro _ _ rfl
    exact yields_launchProcess lib
  | true =>
    refine Ends.bind_call yields_writeConfig ?_
    rintro _ _ rfl
    refine Ends.bind_call (yields_stopProcess lib) ?_
    intro _ s₁ h₁
    refine Ends.mono (yields_launchProcess lib) ?_ (fun _ _ h => h)
    exact fun _ _ h => ⟨h₁.trans h.1, h.2⟩

/-- **A plan that has been realized** has all its endpoints and a DHCP process;
what other plans have is still there. -/
theorem yields_realize (plan : FlatPlan) :
    Yields config
      (fun _ s' => Adding lib config s s' ∧ s'.Serving ∧
        ∀ spec ∈ endpointsOf plan.planId plan.intents, EndpointPresent lib config s' spec)
      (realize lib config plan) s := by
  unfold realize
  split
  · exact ends_throw trivial
  · split
    · exact ends_throw trivial
    · refine Ends.bind (P := fun _ s' => Bridging config s s') ?_ ?_
      · refine hosted_hostly (Ends.bind yields_ensureBridgeWithOwnership ?_)
        exact fun _ _ h => ends_pure h
      intro _ s₁ h₁
      refine Ends.bind (hosted_hostly (yields_ensureGateway _)) ?_
      intro _ s₂ h₂
      refine Ends.bind_call (yields_configure lib _) ?_
      intro _ s₃ h₃
      refine Ends.bind (yields_realizeEndpoints plan.planId plan.intents) ?_
      rintro _ s₄ ⟨h₄, hpresent⟩
      refine Ends.mono (yields_serveDhcp lib) ?_ (fun _ _ h => h)
      rintro _ s₅ ⟨h₅, hserving⟩
      have hbridged : Adding lib config s s₂ := (h₁.trans h₂).adding
      exact ⟨((hbridged.trans h₃).trans h₄).trans h₅, hserving,
        fun spec hspec => (hpresent spec hspec).adding h₅⟩

end FlatNetwork
end O3k
