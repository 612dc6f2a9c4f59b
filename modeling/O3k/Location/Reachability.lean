import O3k.Location.Mutations
import O3k.Location.Validity
import O3k.Semantics.Run
import Mathlib.Data.List.Flatten

/-!
# Mutations stay inside the valid set

Each mutation re-checks only what it thinks it affects.  Here every change is
shown to keep the whole of `LocationRegistry.WellFormed`, so that validating the
snapshot of a registry gives it back.
-/

namespace O3k
namespace Location

open Relational

variable {AuditEvent : Type}

theorem ValidRegions.perm {regions regions' : List RegionDeclaration}
    (hperm : regions.Perm regions') (h : ValidRegions regions) :
    ValidRegions regions' := by
  have hazs : (allAvailabilityDomains regions).Perm (allAvailabilityDomains regions') :=
    hperm.flatMap_right _
  exact ⟨fun r hr => h.regionIds r (hperm.mem_iff.mpr hr),
    (hperm.map _).nodup_iff.mp h.regionsUnique,
    fun az haz => h.azIds az (hazs.mem_iff.mpr haz),
    (hazs.map _).nodup_iff.mp h.azUnique⟩

theorem allAvailabilityDomains_append (regions regions' : List RegionDeclaration) :
    allAvailabilityDomains (regions ++ regions') =
    allAvailabilityDomains regions ++ allAvailabilityDomains regions' :=
  List.flatMap_append

variable {regions : List RegionDeclaration}

theorem ValidRegions.push_region (h : ValidRegions regions) {id : String} (hid : validLocationId id)
    (hnew : ∀ region ∈ regions, region.id ≠ id) :
    ValidRegions (regions ++ [⟨id, []⟩]) := by
  have hazs : allAvailabilityDomains (regions ++ [⟨id, []⟩]) = allAvailabilityDomains regions := by
    rw [allAvailabilityDomains_append]
    simp [allAvailabilityDomains]
  refine ⟨?_, ?_, hazs ▸ h.azIds, hazs ▸ h.azUnique⟩
  · intro region hmem
    rcases List.mem_append.mp hmem with hmem | hmem
    · exact h.regionIds region hmem
    · rw [List.mem_singleton.mp hmem]
      exact hid
  · rw [List.map_append, List.nodup_append]
    refine ⟨h.regionsUnique, List.nodup_singleton _, ?_⟩
    intro x hx y hy
    obtain ⟨region, hmem, rfl⟩ := List.mem_map.mp hx
    rw [List.mem_singleton.mp hy]
    exact hnew region hmem

theorem ValidRegions.filter (h : ValidRegions regions) (p : RegionDeclaration → Bool) :
    ValidRegions (regions.filter p) := by
  have hazs :
      (allAvailabilityDomains (regions.filter p)).Sublist (allAvailabilityDomains regions) :=
    List.filter_sublist.flatMap _
  exact ⟨fun r hr => h.regionIds r (List.mem_of_mem_filter hr),
    h.regionsUnique.sublist (List.filter_sublist.map _),
    fun az haz => h.azIds az (hazs.subset haz),
    h.azUnique.sublist (hazs.map _)⟩

theorem allAvailabilityDomains_push {regionId az : String}
    (hmem : ∃ region ∈ regions, region.id = regionId) :
    (allAvailabilityDomains
        (modifyFirst (fun region => region.id = regionId) (RegionDeclaration.push az) regions)).Perm
      (⟨az⟩ :: allAvailabilityDomains regions) := by
  induction regions with
  | nil =>
    obtain ⟨_, hnil, _⟩ := hmem
    exact absurd hnil List.not_mem_nil
  | cons region rest ih =>
    rw [modifyFirst]
    split_ifs with hid
    · have hpush :
          (sortBy AvailabilityDomain.id (region.availabilityDomains ++ [⟨az⟩])).Perm
            (⟨az⟩ :: region.availabilityDomains) :=
        (sortBy_perm _).trans (List.perm_append_singleton _ _)
      exact hpush.append_right (allAvailabilityDomains rest)
    · obtain ⟨other, hother, hid'⟩ := hmem
      rcases List.mem_cons.mp hother with rfl | hother
      · exact absurd (decide_eq_true hid') hid
      · have hrest := (ih ⟨other, hother, hid'⟩).append_left region.availabilityDomains
        exact hrest.trans List.perm_middle

theorem RegionDeclaration.push_id (az : String) (region : RegionDeclaration) :
    (region.push az).id = region.id := by
  rfl

theorem ValidRegions.push_az (h : ValidRegions regions) {regionId az : String}
    (hmem : ∃ region ∈ regions, region.id = regionId) (haz : validLocationId az)
    (hnew : ∀ known ∈ allAvailabilityDomains regions, known.id ≠ az) :
    ValidRegions
      (modifyFirst (fun region => region.id = regionId) (RegionDeclaration.push az) regions) := by
  have hazs := @allAvailabilityDomains_push _ _ az hmem
  have hids :=
    @map_key_modifyFirst _ _ _ RegionDeclaration.id (fun region => region.id = regionId) _
      (RegionDeclaration.push_id az) regions
  refine ⟨?_, hids ▸ h.regionsUnique, ?_, ?_⟩
  · intro region hregion
    rcases mem_modifyFirst hregion with hold | ⟨old, hold, rfl⟩
    · exact h.regionIds region hold
    · exact h.regionIds old hold
  · intro known hknown
    rcases List.mem_cons.mp (hazs.mem_iff.mp hknown) with rfl | hknown
    · exact haz
    · exact h.azIds known hknown
  · refine (hazs.map _).nodup_iff.mpr (List.nodup_cons.mpr ⟨?_, h.azUnique⟩)
    intro hin
    obtain ⟨known, hknown, heq⟩ := List.mem_map.mp hin
    exact hnew known hknown heq

theorem allAvailabilityDomains_retain (regions : List RegionDeclaration) (az : String) :
    allAvailabilityDomains (regions.map (RegionDeclaration.retain az)) =
    (allAvailabilityDomains regions).filter (fun known => known.id ≠ az) := by
  simp only [allAvailabilityDomains, List.flatMap_map, List.filter_flatMap]
  rfl

theorem ValidRegions.retain (h : ValidRegions regions) (az : String) :
    ValidRegions (regions.map (RegionDeclaration.retain az)) := by
  have hazs := allAvailabilityDomains_retain regions az
  refine ⟨?_, ?_, ?_, ?_⟩
  · intro region hregion
    obtain ⟨old, hold, rfl⟩ := List.mem_map.mp hregion
    exact h.regionIds old hold
  · rw [List.map_map]
    exact h.regionsUnique
  · rw [hazs]
    exact fun known hknown => h.azIds known (List.mem_of_mem_filter hknown)
  · rw [hazs]
    exact h.azUnique.sublist (List.filter_sublist.map _)

variable {domains : List FailureDomain} {knowsAz : String → Bool}

theorem ValidDomains.of_knows {knowsAz' : String → Bool} (h : ValidDomains knowsAz domains)
    (hknows : ∀ domain ∈ domains, knowsAz' domain.availabilityDomain) :
    ValidDomains knowsAz' domains :=
  { h with az := hknows }

theorem hasDepth_of_agree {domains domains' : List FailureDomain}
    (hunique : (domains.map (·.id)).Nodup) (S : FailureDomain → Prop)
    (hclosed :
      ∀ d ∈ domains, S d → ∀ p, d.parent = some p → ∃ parent ∈ domains, S parent ∧ parent.id = p)
    (hagree : ∀ d ∈ domains, S d → parentOf domains' d.id = parentOf domains d.id)
    {domain : FailureDomain} (hmem : domain ∈ domains) (hS : S domain) {n : Nat}
    (h : HasDepth (parentOf domains) domain.id n) :
    HasDepth (parentOf domains') domain.id n := by
  refine h.congr (fun id => ∃ d ∈ domains, S d ∧ d.id = id) ?_ ?_ ⟨domain, hmem, hS, rfl⟩
  · rintro _ p ⟨d, hd, hSd, rfl⟩ hp
    rw [parentOf_of_mem hunique hd] at hp
    exact hclosed d hd hSd p hp
  · rintro _ ⟨d, hd, hSd, rfl⟩
    exact hagree d hd hSd

theorem ValidDomains.push (h : ValidDomains knowsAz domains) {domain : FailureDomain}
    (hnew : ∀ d ∈ domains, d.id ≠ domain.id)
    (hstructure : validateFailureDomainStructure domain (lookupDomain domains) knowsAz = .ok ())
    (generation : UInt64) :
    ValidDomains knowsAz (domains ++ [{ domain with generation := generation }]) := by
  obtain ⟨hshape, haz, hparent⟩ := validateFailureDomainStructure_eq_ok.mp hstructure
  set fresh : FailureDomain := { domain with generation := generation }
  have hunique : ((domains ++ [fresh]).map (·.id)).Nodup := by
    rw [List.map_append, List.nodup_append]
    refine ⟨h.unique, List.nodup_singleton _, ?_⟩
    intro x hx y hy
    obtain ⟨d, hd, rfl⟩ := List.mem_map.mp hx
    rw [List.mem_singleton.mp hy]
    exact hnew d hd
  have hold : ∀ d ∈ domains, d ∈ domains ++ [fresh] := fun d hd => List.mem_append_left _ hd
  have hkept :
      ∀ d ∈ domains, ∀ n,
        HasDepth (parentOf domains) d.id n → HasDepth (parentOf (domains ++ [fresh])) d.id n := by
    intro d hd n hdepth
    refine hasDepth_of_agree h.unique (fun _ => True) ?_ ?_ hd trivial hdepth
    · intro d hd _ p hp
      obtain ⟨parent, hparent, hid, _⟩ := h.parents d hd p hp
      exact ⟨parent, hparent, trivial, hid⟩
    · intro d hd _
      rw [parentOf_of_mem hunique (hold d hd), parentOf_of_mem h.unique hd]
  have hcases : ∀ d ∈ domains ++ [fresh], d ∈ domains ∨ d = fresh :=
    fun d hd => (List.mem_append.mp hd).imp id List.mem_singleton.mp
  refine ⟨hunique, ?_, ?_, ?_, ?_⟩
  · intro d hd
    rcases hcases d hd with hd | rfl
    · exact h.shape d hd
    · exact ⟨hshape.id, hshape.name, hshape.nameLength, hshape.metadataLength,
        hshape.metadataKeys, hshape.metadataValues⟩
  · intro d hd
    rcases hcases d hd with hd | rfl
    · exact h.az d hd
    · exact haz
  · intro d hd p hp
    rcases hcases d hd with hd | rfl
    · obtain ⟨parent, hparent, hrest⟩ := h.parents d hd p hp
      exact ⟨parent, hold parent hparent, hrest⟩
    · obtain ⟨_, parent, hfound, hnests, _⟩ := validateParent_eq_ok.mp (hparent p hp)
      obtain ⟨hmem, hid⟩ := lookupDomain_mem hfound
      exact ⟨parent, hold parent hmem, hid, hnests.sameAz, hnests.rank⟩
  · intro d hd
    rcases hcases d hd with hd | rfl
    · obtain ⟨n, hn, hdepth⟩ := h.depth d hd
      exact ⟨n, hn, hkept d hd n hdepth⟩
    · have hself : parentOf (domains ++ [fresh]) fresh.id = domain.parent :=
        parentOf_of_mem hunique (List.mem_append_right _ (List.mem_singleton_self _))
      cases hp : domain.parent with
      | none => exact ⟨1, by decide, .root (hself.trans hp)⟩
      | some p =>
        obtain ⟨_, parent, hfound, _, hwalk⟩ := validateParent_eq_ok.mp (hparent p hp)
        obtain ⟨hmem, rfl⟩ := lookupDomain_mem hfound
        have hresolved :
            ∀ d ∈ domains, ∀ p, d.parent = some p → ∃ parent ∈ domains, parent.id = p := by
          intro d hd p hp
          obtain ⟨parent, hparent, hid, _⟩ := h.parents d hd p hp
          exact ⟨parent, hparent, hid⟩
        obtain ⟨n, hn, hdepth⟩ := hasDepth_of_walkParents h.unique hresolved hmem hwalk
        refine ⟨n + 1, ?_, .nested (hself.trans hp) (hkept parent hmem n hdepth)⟩
        unfold maxFailureDomainDepth at hn ⊢
        omega

/-- New display data for the domains with one identifier. -/
def FailureDomain.revise
    (id name : String) (metadata : Metadata) (generation : UInt64) (domain : FailureDomain) :
    FailureDomain :=
  if domain.id = id then
    { domain with
      name := name
      metadata := metadata
      generation := generation }
  else
    domain

section Revise

variable {id name : String} {metadata : Metadata} {generation : UInt64}

@[simp] theorem FailureDomain.revise_id (d : FailureDomain) :
    (d.revise id name metadata generation).id = d.id := by
  unfold revise
  split_ifs <;> rfl

@[simp] theorem FailureDomain.revise_parent (d : FailureDomain) :
    (d.revise id name metadata generation).parent = d.parent := by
  unfold revise
  split_ifs <;> rfl

@[simp] theorem FailureDomain.revise_className (d : FailureDomain) :
    (d.revise id name metadata generation).className = d.className := by
  unfold revise
  split_ifs <;> rfl

@[simp] theorem FailureDomain.revise_availabilityDomain (d : FailureDomain) :
    (d.revise id name metadata generation).availabilityDomain = d.availabilityDomain := by
  unfold revise
  split_ifs <;> rfl

theorem parentOf_revise (domains : List FailureDomain) :
    parentOf (domains.map (FailureDomain.revise id name metadata generation)) =
    parentOf domains := by
  funext wanted
  have hfind :
      lookupDomain (domains.map (FailureDomain.revise id name metadata generation)) wanted
        =
      (lookupDomain domains wanted).map (FailureDomain.revise id name metadata generation) := by
    rw [lookupDomain, lookupDomain, ← List.map_reverse, List.find?_map]
    congr 1
    refine List.find?_congr ?_
    intro d _
    simp
  rw [parentOf, parentOf, hfind]
  cases lookupDomain domains wanted <;> simp

theorem ValidDomains.revise {knowsAz : String → Bool} {domains : List FailureDomain}
    (h : ValidDomains knowsAz domains) (hname : validateFailureDomainName name = .ok ())
    (hmetadata : validateMetadata metadata = .ok ()) :
    ValidDomains knowsAz (domains.map (FailureDomain.revise id name metadata generation)) := by
  obtain ⟨hempty, hlength⟩ := validateFailureDomainName_eq_ok.mp hname
  obtain ⟨hcount, hkeys, hvalues⟩ := validateMetadata_eq_ok.mp hmetadata
  refine ⟨?_, ?_, ?_, ?_, ?_⟩
  · rw [List.map_map]
    exact (List.map_congr_left (fun d _ => FailureDomain.revise_id d)) ▸ h.unique
  · intro d hd
    obtain ⟨old, hold, rfl⟩ := List.mem_map.mp hd
    have hshape := h.shape old hold
    unfold FailureDomain.revise
    split_ifs
    · exact ⟨hshape.id, hempty, hlength, hcount, hkeys, hvalues⟩
    · exact hshape
  · intro d hd
    obtain ⟨old, hold, rfl⟩ := List.mem_map.mp hd
    simpa using h.az old hold
  · intro d hd p hp
    obtain ⟨old, hold, rfl⟩ := List.mem_map.mp hd
    rw [FailureDomain.revise_parent] at hp
    obtain ⟨parent, hparent, hid, hnests⟩ := h.parents old hold p hp
    exact ⟨_, List.mem_map_of_mem hparent, by simpa using hid, by simpa using hnests.sameAz,
      by simpa using hnests.rank⟩
  · intro d hd
    obtain ⟨old, hold, rfl⟩ := List.mem_map.mp hd
    rw [parentOf_revise, FailureDomain.revise_id]
    exact h.depth old hold

end Revise

theorem ValidDomains.remove (h : ValidDomains knowsAz domains) {id : String}
    (hchildless : ∀ d ∈ domains, d.parent ≠ some id) :
    ValidDomains knowsAz (domains.filter (fun domain => domain.id ≠ id)) := by
  have hunique : ((domains.filter (fun domain => domain.id ≠ id)).map (·.id)).Nodup :=
    h.unique.sublist (List.filter_sublist.map _)
  have hmem :
      ∀ d, d ∈ domains.filter (fun domain => domain.id ≠ id) ↔ d ∈ domains ∧ d.id ≠ id := by
    intro d
    simp
  have hresolved :
      ∀ d ∈ domains, ∀ p, d.parent = some p →
        ∃ parent ∈ domains, parent.id ≠ id ∧ parent.id = p ∧ Nests parent d := by
    intro d hd p hp
    obtain ⟨parent, hparent, rfl, hnests⟩ := h.parents d hd p hp
    exact ⟨parent, hparent, fun heq => hchildless d hd (heq ▸ hp), rfl, hnests⟩
  refine ⟨hunique, fun d hd => h.shape d ((hmem d).mp hd).1,
    fun d hd => h.az d ((hmem d).mp hd).1, ?_, ?_⟩
  · intro d hd p hp
    obtain ⟨parent, hparent, hne, hid, hnests⟩ := hresolved d ((hmem d).mp hd).1 p hp
    exact ⟨parent, (hmem parent).mpr ⟨hparent, hne⟩, hid, hnests⟩
  · intro d hd
    obtain ⟨hold, hne⟩ := (hmem d).mp hd
    obtain ⟨n, hn, hdepth⟩ := h.depth d hold
    refine ⟨n, hn, hasDepth_of_agree h.unique (fun d => d.id ≠ id) ?_ ?_ hold hne hdepth⟩
    · intro d hd _ p hp
      obtain ⟨parent, hparent, hne, hid, _⟩ := hresolved d hd p hp
      exact ⟨parent, hparent, hne, hid⟩
    · intro d hd hne
      rw [parentOf_of_mem hunique ((hmem d).mpr ⟨hd, hne⟩), parentOf_of_mem h.unique hd]

variable {bindings : List TopologyBinding}

theorem ValidBindings.of_domains {domains domains' : List FailureDomain}
    (h : ValidBindings domains bindings)
    (hkept :
      ∀ binding ∈ bindings, ∀ d ∈ domains, d.id = binding.failureDomain →
        ∃ d' ∈ domains', d'.id = d.id) :
    ValidBindings domains' bindings := by
  refine { h with domain := ?_ }
  intro binding hmem
  obtain ⟨d, hd, hid⟩ := h.domain binding hmem
  obtain ⟨d', hd', hid'⟩ := hkept binding hmem d hd hid
  exact ⟨d', hd', hid'.trans hid⟩

theorem ValidBindings.push (h : ValidBindings domains bindings) {binding : TopologyBinding}
    (hdomain : ∃ d ∈ domains, d.id = binding.failureDomain)
    (htarget : validLocationId binding.target.id) (hnew : binding ∉ bindings) :
    ValidBindings domains (bindings ++ [binding]) := by
  refine ⟨?_, ?_, ?_⟩
  · rw [List.map_append, List.nodup_append]
    refine ⟨h.unique, List.nodup_singleton _, ?_⟩
    rintro _ hx y hy rfl
    obtain ⟨known, hknown, heq⟩ := List.mem_map.mp hx
    rw [List.mem_singleton.mp hy] at heq
    exact hnew (bindingKey_injective heq ▸ hknown)
  · intro b hb
    rcases List.mem_append.mp hb with hb | hb
    · exact h.domain b hb
    · rw [List.mem_singleton.mp hb]
      exact hdomain
  · intro b hb
    rcases List.mem_append.mp hb with hb | hb
    · exact h.target b hb
    · rw [List.mem_singleton.mp hb]
      exact htarget

theorem ValidBindings.filter (h : ValidBindings domains bindings) (p : TopologyBinding → Bool) :
    ValidBindings domains (bindings.filter p) :=
  ⟨h.unique.sublist (List.filter_sublist.map _),
    fun b hb => h.domain b (List.mem_of_mem_filter hb),
    fun b hb => h.target b (List.mem_of_mem_filter hb)⟩

namespace LocationRegistry

@[simp] theorem replay_snd
    (self : LocationRegistry) (store : TopologyStore AuditEvent) (audit : Option AuditEvent) :
    (self.replay store audit).2 = self := by
  unfold replay
  cases audit with
  | none => rfl
  | some audit => cases h : store (.recordAudit audit) <;> simp [h]

variable {self : LocationRegistry}

theorem persist_snd {P : LocationRegistry → Prop} {answer : Except KernelError Unit}
    {apply : Outcome} (hself : P self) (happly : P apply.2) :
    P (self.persist answer apply).2 := by
  cases answer with
  | error e => exact hself
  | ok => exact happly

/-- The outcome of a mutation without an effect, or one that succeeded. -/
def ErrorUnchanged (self : LocationRegistry) (outcome : Outcome) : Prop :=
  ∀ e, outcome.1 = .error e → outcome.2 = self

theorem errorUnchanged_of_snd {outcome : Outcome} (h : outcome.2 = self) :
    self.ErrorUnchanged outcome :=
  fun _ _ => h

theorem errorUnchanged_ok (self changed : LocationRegistry) :
    self.ErrorUnchanged (.ok (), changed) :=
  fun _ h => by cases h

theorem errorUnchanged_persist {answer : Except KernelError Unit} {apply : Outcome}
    (happly : self.ErrorUnchanged apply) :
    self.ErrorUnchanged (self.persist answer apply) := by
  cases answer with
  | error e => exact fun _ _ => rfl
  | ok => exact happly

end LocationRegistry

/-- The mutations of a registry. -/
inductive Mutation
  | declareRegion (id : String)
  | removeRegion (id : String)
  | declareAvailabilityDomain (region az : String)
  | removeAvailabilityDomain (az : String)
  | createFailureDomain (domain : FailureDomain)
  | updateFailureDomain (id name : String) (metadata : Metadata) (expectedGeneration : UInt64)
  | deleteFailureDomain (id : String) (expectedGeneration : UInt64)
  | bind (binding : TopologyBinding)
  | unbind (binding : TopologyBinding)

namespace LocationRegistry

def perform
    (self : LocationRegistry) (store : TopologyStore AuditEvent) (audit : Option AuditEvent) :
    Mutation → Outcome
  | .declareRegion id => self.declareRegion store id audit
  | .removeRegion id => self.removeRegion store id audit
  | .declareAvailabilityDomain region az => self.declareAvailabilityDomain store region az audit
  | .removeAvailabilityDomain az => self.removeAvailabilityDomain store az audit
  | .createFailureDomain domain => self.createFailureDomain store domain audit
  | .updateFailureDomain id name metadata expected =>
    self.updateFailureDomain store id name metadata expected audit
  | .deleteFailureDomain id expected => self.deleteFailureDomain store id expected audit
  | .bind binding => self.bind store binding audit
  | .unbind binding => self.unbind store binding audit

/-- **An error leaves the registry unchanged**, whatever the registry is. -/
theorem perform_errorUnchanged
    (self : LocationRegistry) (store : TopologyStore AuditEvent) (audit : Option AuditEvent)
    (m : Mutation) :
    self.ErrorUnchanged (self.perform store audit m) := by
  cases m with
  | declareRegion id =>
    simp only [perform, declareRegion]
    cases validateRegionIdStr id with
    | error e => exact errorUnchanged_of_snd rfl
    | ok =>
      dsimp only
      split_ifs
      · exact errorUnchanged_of_snd (replay_snd ..)
      · exact errorUnchanged_persist (errorUnchanged_ok _ _)
  | removeRegion id =>
    simp only [perform, removeRegion]
    cases validateRegionIdStr id with
    | error e => exact errorUnchanged_of_snd rfl
    | ok =>
      dsimp only
      split_ifs
      · exact errorUnchanged_of_snd (replay_snd ..)
      · exact errorUnchanged_of_snd rfl
      · exact errorUnchanged_persist (errorUnchanged_ok _ _)
  | declareAvailabilityDomain region az =>
    simp only [perform, declareAvailabilityDomain]
    cases validateRegionIdStr region with
    | error e => exact errorUnchanged_of_snd rfl
    | ok =>
      cases validateAzIdStr az with
      | error e => exact errorUnchanged_of_snd rfl
      | ok =>
        dsimp only
        split_ifs
        · exact errorUnchanged_of_snd rfl
        · split
          · split_ifs
            · exact errorUnchanged_of_snd (replay_snd ..)
            · exact errorUnchanged_of_snd rfl
          · exact errorUnchanged_persist (errorUnchanged_ok _ _)
  | removeAvailabilityDomain az =>
    simp only [perform, removeAvailabilityDomain]
    cases validateAzIdStr az with
    | error e => exact errorUnchanged_of_snd rfl
    | ok =>
      dsimp only
      split_ifs
      · exact errorUnchanged_of_snd (replay_snd ..)
      · exact errorUnchanged_of_snd rfl
      · exact errorUnchanged_persist (errorUnchanged_ok _ _)
  | createFailureDomain domain =>
    simp only [perform, createFailureDomain]
    cases self.admitFailureDomain domain with
    | error e => exact errorUnchanged_of_snd rfl
    | ok => exact errorUnchanged_persist (errorUnchanged_ok _ _)
  | updateFailureDomain id name metadata expected =>
    simp only [perform, updateFailureDomain]
    cases self.admitUpdate id name metadata expected with
    | error e => exact errorUnchanged_of_snd rfl
    | ok updated =>
      refine errorUnchanged_persist ?_
      cases self.failureDomain id with
      | none => exact errorUnchanged_of_snd rfl
      | some slot =>
        dsimp only
        split_ifs
        · exact errorUnchanged_ok _ _
        · exact errorUnchanged_of_snd rfl
  | deleteFailureDomain id expected =>
    simp only [perform, deleteFailureDomain]
    cases self.admitDeletion id expected with
    | error e => exact errorUnchanged_of_snd rfl
    | ok =>
      refine errorUnchanged_persist ?_
      cases self.failureDomain id with
      | none => exact errorUnchanged_of_snd rfl
      | some current =>
        dsimp only
        split_ifs
        · exact errorUnchanged_ok _ _
        · exact errorUnchanged_of_snd rfl
  | bind binding =>
    simp only [perform, bind]
    split_ifs
    · exact errorUnchanged_of_snd rfl
    · exact errorUnchanged_of_snd rfl
    · exact errorUnchanged_of_snd (replay_snd ..)
    · exact errorUnchanged_persist (errorUnchanged_ok _ _)
  | unbind binding =>
    simp only [perform, unbind]
    split_ifs
    · exact errorUnchanged_persist (errorUnchanged_ok _ _)
    · exact errorUnchanged_of_snd (replay_snd ..)

theorem containsRegion_iff {self : LocationRegistry} {id : String} :
    self.containsRegion id ↔ ∃ region ∈ self.regions, region.id = id := by
  simp [containsRegion]

theorem containsFailureDomain_iff {self : LocationRegistry} {id : String} :
    self.containsFailureDomain id ↔ ∃ d ∈ self.topology.failureDomains, d.id = id := by
  simp [containsFailureDomain]

variable {r : LocationRegistry}

/-- New regions under which the availability domains in use stay known. -/
theorem WellFormed.withRegions
    (h : r.WellFormed) {regions : List RegionDeclaration} (hvalid : ValidRegions regions)
    (hsorted : StrictlySorted RegionDeclaration.id regions)
    (hazs : ∀ region ∈ regions, StrictlySorted AvailabilityDomain.id region.availabilityDomains)
    (hused :
      ∀ d ∈ r.topology.failureDomains, ∀ az ∈ allAvailabilityDomains r.regions,
        az.id = d.availabilityDomain → az ∈ allAvailabilityDomains regions) :
    WellFormed { r with regions := regions } := by
  refine ⟨⟨hvalid, h.valid.domains.of_knows ?_, h.valid.bindings⟩, hsorted, hazs,
    h.domainsSorted, h.bindingsSorted⟩
  intro d hd
  obtain ⟨az, haz, hid⟩ := knowsAvailabilityDomain_iff.mp (h.valid.domains.az d hd)
  exact knowsAvailabilityDomain_iff.mpr ⟨az, hused d hd az haz hid, hid⟩

theorem WellFormed.declareRegion (h : r.WellFormed)
    (store : TopologyStore AuditEvent) (id : String) (audit : Option AuditEvent) :
    (r.declareRegion store id audit).2.WellFormed := by
  unfold LocationRegistry.declareRegion
  cases hid : validateRegionIdStr id with
  | error e => exact h
  | ok =>
    dsimp only
    split_ifs with hknown
    · rwa [replay_snd]
    · refine persist_snd h ?_
      have hnew : ∀ region ∈ r.regions, region.id ≠ id := fun region hmem heq =>
        hknown (containsRegion_iff.mpr ⟨region, hmem, heq⟩)
      have hvalid := h.valid.regions.push_region (validateRegionIdStr_eq_ok.mp hid) hnew
      have hperm := (@sortBy_perm _ _ _ RegionDeclaration.id (r.regions ++ [⟨id, []⟩])).symm
      refine h.withRegions (hvalid.perm hperm) (h.regionsSorted.sortBy_push hnew) ?_ ?_
      · intro region hmem
        rcases List.mem_append.mp (mem_sortBy.mp hmem) with hmem | hmem
        · exact h.azsSorted region hmem
        · rw [List.mem_singleton.mp hmem]
          exact List.Pairwise.nil
      · intro d _ az haz _
        refine (hperm.flatMap_right _).mem_iff.mp ?_
        rw [List.flatMap_append]
        exact List.mem_append_left _ haz

theorem empty_of_region_any (h : r.WellFormed) {id : String}
    (hany : ¬ (r.region id).any (fun region => !region.availabilityDomains.isEmpty) = true)
    {region : RegionDeclaration} (hmem : region ∈ r.regions) (hid : region.id = id) :
    region.availabilityDomains = [] := by
  cases hfound : r.region id with
  | none =>
    have hnone := List.find?_eq_none.mp hfound region hmem
    exact absurd (decide_eq_true hid) hnone
  | some found =>
    have hfoundMem : found ∈ r.regions := List.mem_of_find?_eq_some hfound
    have hfoundId : found.id = id := by simpa using List.find?_some hfound
    have hsame : region = found :=
      h.regionsSorted.eq_of_key_eq hmem hfoundMem (hid.trans hfoundId.symm)
    rw [hfound] at hany
    subst hsame
    simpa using hany

theorem WellFormed.removeRegion (h : r.WellFormed)
    (store : TopologyStore AuditEvent) (id : String) (audit : Option AuditEvent) :
    (r.removeRegion store id audit).2.WellFormed := by
  unfold LocationRegistry.removeRegion
  cases validateRegionIdStr id with
  | error e => exact h
  | ok =>
    dsimp only
    split_ifs with hknown hany
    · rwa [replay_snd]
    · exact h
    · refine persist_snd h ?_
      refine h.withRegions (h.valid.regions.filter _) (h.regionsSorted.filter _)
        (fun region hmem => h.azsSorted region (List.mem_of_mem_filter hmem)) ?_
      intro d _ az haz _
      obtain ⟨region, hmem, hin⟩ := List.mem_flatMap.mp haz
      refine List.mem_flatMap.mpr ⟨region, List.mem_filter.mpr ⟨hmem, ?_⟩, hin⟩
      refine decide_eq_true fun hid => ?_
      rw [empty_of_region_any h hany hmem hid] at hin
      exact absurd hin List.not_mem_nil

theorem WellFormed.declareAvailabilityDomain (h : r.WellFormed)
    (store : TopologyStore AuditEvent) (regionId azId : String) (audit : Option AuditEvent) :
    (r.declareAvailabilityDomain store regionId azId audit).2.WellFormed := by
  unfold LocationRegistry.declareAvailabilityDomain
  cases validateRegionIdStr regionId with
  | error e => exact h
  | ok =>
    cases haz : validateAzIdStr azId with
    | error e => exact h
    | ok =>
      dsimp only
      split_ifs with hregion
      · exact h
      · split
        · split_ifs
          · rwa [replay_snd]
          · exact h
        · rename_i hnone
          refine persist_snd h ?_
          have hmem : ∃ region ∈ r.regions, region.id = regionId :=
            containsRegion_iff.mp (by simpa using hregion)
          have hnew : ∀ known ∈ allAvailabilityDomains r.regions, known.id ≠ azId := by
            intro known hknown heq
            obtain ⟨region, hin, hknown⟩ := List.mem_flatMap.mp hknown
            refine List.find?_eq_none.mp hnone region hin ?_
            exact List.any_eq_true.mpr ⟨known, hknown, decide_eq_true heq⟩
          refine h.withRegions
            (h.valid.regions.push_az hmem (validateAzIdStr_eq_ok.mp haz) hnew)
            (h.regionsSorted.of_map_key_eq
              (map_key_modifyFirst (RegionDeclaration.push_id azId) _)) ?_ ?_
          · intro region hin
            rcases mem_modifyFirst hin with hold | ⟨old, hold, rfl⟩
            · exact h.azsSorted region hold
            · refine (h.azsSorted old hold).sortBy_push ?_
              exact fun known hknown => hnew known (List.mem_flatMap.mpr ⟨old, hold, hknown⟩)
          · intro d _ az haz _
            exact (allAvailabilityDomains_push hmem).mem_iff.mpr (List.mem_cons_of_mem _ haz)

theorem WellFormed.removeAvailabilityDomain (h : r.WellFormed)
    (store : TopologyStore AuditEvent) (azId : String) (audit : Option AuditEvent) :
    (r.removeAvailabilityDomain store azId audit).2.WellFormed := by
  unfold LocationRegistry.removeAvailabilityDomain
  cases validateAzIdStr azId with
  | error e => exact h
  | ok =>
    dsimp only
    split_ifs with hknown hused
    · rwa [replay_snd]
    · exact h
    · refine persist_snd h ?_
      refine h.withRegions (h.valid.regions.retain azId) (h.regionsSorted.of_map_key_eq ?_) ?_ ?_
      · rw [List.map_map]
        rfl
      · intro region hmem
        obtain ⟨old, hold, rfl⟩ := List.mem_map.mp hmem
        exact (h.azsSorted old hold).filter _
      · intro d hd az haz hid
        rw [allAvailabilityDomains_retain, List.mem_filter]
        refine ⟨haz, decide_eq_true fun heq => hused ?_⟩
        exact List.any_eq_true.mpr ⟨d, hd, decide_eq_true (hid.symm.trans heq)⟩

/-- New domains, valid and sorted, among which the bound ones still are. -/
theorem WellFormed.withDomains (h : r.WellFormed) {domains : List FailureDomain}
    (hvalid : ValidDomains (knowsAvailabilityDomain r.regions) domains)
    (hsorted : StrictlySorted FailureDomain.id domains)
    (hkept :
      ∀ binding ∈ r.topology.bindings, ∀ d ∈ r.topology.failureDomains,
        d.id = binding.failureDomain → ∃ d' ∈ domains, d'.id = d.id) :
    WellFormed { r with topology := { r.topology with failureDomains := domains } } :=
  ⟨⟨h.valid.regions, hvalid, h.valid.bindings.of_domains hkept⟩, h.regionsSorted, h.azsSorted,
    hsorted, h.bindingsSorted⟩

theorem WellFormed.createFailureDomain (h : r.WellFormed)
    (store : TopologyStore AuditEvent) (domain : FailureDomain) (audit : Option AuditEvent) :
    (r.createFailureDomain store domain audit).2.WellFormed := by
  unfold LocationRegistry.createFailureDomain
  cases hadmit : r.admitFailureDomain domain with
  | error e => exact h
  | ok =>
    refine persist_snd h ?_
    split_ifs with hknown
    · exact h
    · obtain ⟨_, hstructure⟩ := Transaction.except_check_bind_eq_ok.mp hadmit
      split_ifs at hstructure
      have hnew : ∀ d ∈ r.topology.failureDomains, d.id ≠ domain.id := fun d hd heq =>
        hknown (containsFailureDomain_iff.mpr ⟨d, hd, heq⟩)
      refine h.withDomains
        ((h.valid.domains.push hnew hstructure 1).perm (sortBy_perm _).symm)
        (h.domainsSorted.sortBy_push hnew) ?_
      exact fun _ _ d hd _ => ⟨d, mem_sortBy.mpr (List.mem_append_left _ hd), rfl⟩

theorem failureDomain_mem {id : String} {current : FailureDomain}
    (h : r.failureDomain id = some current) :
    current ∈ r.topology.failureDomains ∧ current.id = id :=
  ⟨List.mem_of_find?_eq_some h, by simpa using List.find?_some h⟩

theorem WellFormed.updateFailureDomain
    (h : r.WellFormed) (store : TopologyStore AuditEvent) (id name : String) (metadata : Metadata)
    (expectedGeneration : UInt64) (audit : Option AuditEvent) :
    (r.updateFailureDomain store id name metadata expectedGeneration audit).2.WellFormed := by
  unfold LocationRegistry.updateFailureDomain
  cases hadmit : r.admitUpdate id name metadata expectedGeneration with
  | error e => exact h
  | ok updated =>
    refine persist_snd h ?_
    cases hfound : r.failureDomain id with
    | none => exact h
    | some slot =>
      dsimp only
      split_ifs
      · obtain ⟨hmem, hid⟩ := failureDomain_mem hfound
        simp only [admitUpdate, hfound] at hadmit
        split_ifs at hadmit
        obtain ⟨hname, hadmit⟩ := Transaction.except_check_bind_eq_ok.mp hadmit
        obtain ⟨hmetadata, hupdated⟩ := Transaction.except_check_bind_eq_ok.mp hadmit
        cases hupdated
        have hrevised :
            modifyFirst (fun domain => domain.id = id)
                (fun _ =>
                  { id := slot.id
                    className := slot.className
                    name := name
                    availabilityDomain := slot.availabilityDomain
                    parent := slot.parent
                    generation := expectedGeneration + 1
                    metadata := metadata })
                r.topology.failureDomains
              =
            r.topology.failureDomains.map
              (FailureDomain.revise id name metadata (expectedGeneration + 1)) := by
          rw [modifyFirst_key_eq_map h.domainsSorted.keys_nodup]
          refine List.map_congr_left fun d hd => ?_
          unfold FailureDomain.revise
          split_ifs with hdid
          · have hsame : d = slot :=
              h.domainsSorted.eq_of_key_eq hd hmem (hdid.trans hid.symm)
            rw [hsame]
          · rfl
        rw [hrevised]
        refine h.withDomains (h.valid.domains.revise hname hmetadata)
          (h.domainsSorted.of_map_key_eq ?_) ?_
        · rw [List.map_map]
          exact List.map_congr_left (fun d _ => FailureDomain.revise_id d)
        · exact fun _ _ d hd _ =>
            ⟨_, List.mem_map_of_mem hd, FailureDomain.revise_id d⟩
      · exact h

theorem WellFormed.deleteFailureDomain (h : r.WellFormed)
    (store : TopologyStore AuditEvent) (id : String) (expectedGeneration : UInt64)
    (audit : Option AuditEvent) :
    (r.deleteFailureDomain store id expectedGeneration audit).2.WellFormed := by
  unfold LocationRegistry.deleteFailureDomain
  cases hadmit : r.admitDeletion id expectedGeneration with
  | error e => exact h
  | ok =>
    refine persist_snd h ?_
    cases hfound : r.failureDomain id with
    | none => exact h
    | some current =>
      dsimp only
      split_ifs
      · simp only [admitDeletion, hfound] at hadmit
        split_ifs at hadmit with _ hchildren hbindings
        have hchildless : ∀ d ∈ r.topology.failureDomains, d.parent ≠ some id :=
          fun d hd hp => hchildren (List.any_eq_true.mpr ⟨d, hd, decide_eq_true hp⟩)
        refine h.withDomains (h.valid.domains.remove hchildless) (h.domainsSorted.filter _) ?_
        intro binding hb d hd hid
        refine ⟨d, List.mem_filter.mpr ⟨hd, decide_eq_true fun heq => hbindings ?_⟩, rfl⟩
        exact List.any_eq_true.mpr ⟨binding, hb, decide_eq_true (hid.symm.trans heq)⟩
      · exact h

theorem WellFormed.withBindings (h : r.WellFormed) {bindings : List TopologyBinding}
    (hvalid : ValidBindings r.topology.failureDomains bindings)
    (hsorted : StrictlySorted bindingKey bindings) :
    WellFormed { r with topology := { r.topology with bindings := bindings } } :=
  ⟨⟨h.valid.regions, h.valid.domains, hvalid⟩, h.regionsSorted, h.azsSorted, h.domainsSorted,
    hsorted⟩

theorem WellFormed.bind (h : r.WellFormed)
    (store : TopologyStore AuditEvent) (binding : TopologyBinding) (audit : Option AuditEvent) :
    (r.bind store binding audit).2.WellFormed := by
  unfold LocationRegistry.bind
  split_ifs with hdomain htarget hbound
  · exact h
  · exact h
  · rwa [replay_snd]
  · refine persist_snd h ?_
    have hfound := containsFailureDomain_iff.mp (by simpa using hdomain)
    have hnew : ∀ known ∈ r.topology.bindings, bindingKey known ≠ bindingKey binding :=
      fun known hknown heq => hbound (bindingKey_injective heq ▸ hknown)
    exact h.withBindings
      ((h.valid.bindings.push hfound (by simpa using htarget) hbound).perm (.refl _)
        (sortBy_perm _).symm)
      (h.bindingsSorted.sortBy_push hnew)

theorem WellFormed.unbind (h : r.WellFormed)
    (store : TopologyStore AuditEvent) (binding : TopologyBinding) (audit : Option AuditEvent) :
    (r.unbind store binding audit).2.WellFormed := by
  unfold LocationRegistry.unbind
  split_ifs
  · refine persist_snd h ?_
    exact h.withBindings (h.valid.bindings.filter _) (h.bindingsSorted.filter _)
  · rwa [replay_snd]

theorem WellFormed.perform (h : r.WellFormed)
    (store : TopologyStore AuditEvent) (audit : Option AuditEvent) (m : Mutation) :
    (r.perform store audit m).2.WellFormed := by
  cases m with
  | declareRegion id => exact h.declareRegion store id audit
  | removeRegion id => exact h.removeRegion store id audit
  | declareAvailabilityDomain region az => exact h.declareAvailabilityDomain store region az audit
  | removeAvailabilityDomain az => exact h.removeAvailabilityDomain store az audit
  | createFailureDomain domain => exact h.createFailureDomain store domain audit
  | updateFailureDomain id name metadata expected =>
    exact h.updateFailureDomain store id name metadata expected audit
  | deleteFailureDomain id expected => exact h.deleteFailureDomain store id expected audit
  | bind binding => exact h.bind store binding audit
  | unbind binding => exact h.unbind store binding audit

theorem WellFormed.acyclic (h : r.WellFormed) : Acyclic (parentOf r.topology.failureDomains) := by
  intro id hcycle
  obtain ⟨p, hstep, _⟩ := Relation.TransGen.head'_iff.mp hcycle
  obtain ⟨domain, hfound, _⟩ := Option.bind_eq_some_iff.mp hstep
  obtain ⟨hmem, rfl⟩ := lookupDomain_mem hfound
  obtain ⟨n, _, hdepth⟩ := h.valid.domains.depth domain hmem
  exact hdepth.not_on_cycle hcycle

theorem empty_wellFormed : empty.WellFormed := wellFormed_of_fromSnapshot (s := ⟨[], [], []⟩) rfl

/-- A call of a mutation, with the answer the store gives it. -/
structure Request (AuditEvent : Type) where
  mutation : Mutation
  audit : Option AuditEvent
  store : TopologyStore AuditEvent

def Request.outcome (self : LocationRegistry) (request : Request AuditEvent) : Outcome :=
  self.perform request.store request.audit request.mutation

def step (self : LocationRegistry) (request : Request AuditEvent) : LocationRegistry :=
  (request.outcome self).2

/-- **Mutations stay inside the valid set.** From the empty registry or a
validated snapshot on, whatever the store answers, the registry is well formed,
its failure domains have no cycle, and validating its snapshot gives it back;
and a call that returns an error changes nothing. -/
theorem mutations_stay_valid (start : LocationRegistry)
    (hstart : start = empty ∨ ∃ snapshot, fromSnapshot snapshot = .ok start)
    (requests : List (Request AuditEvent)) :
    Semantics.Always step
        (fun r =>
          fromSnapshot r.snapshot = .ok r ∧ r.WellFormed ∧
            Acyclic (parentOf r.topology.failureDomains))
        start requests ∧
      Semantics.EachStep step
        (fun r request => ∀ e, (request.outcome r).1 = .error e → step r request = r)
        start requests := by
  have hwell : start.WellFormed := by
    rcases hstart with rfl | ⟨snapshot, hsnapshot⟩
    · exact empty_wellFormed
    · exact wellFormed_of_fromSnapshot hsnapshot
  constructor
  · refine (Semantics.always_of_invariant ?_ start requests hwell).imp ?_
    · exact fun r request h => h.perform request.store request.audit request.mutation
    · exact fun r h => ⟨h.fromSnapshot_snapshot, h, h.acyclic⟩
  · refine Semantics.eachStep_of_invariant (I := fun _ => True) (fun _ _ _ => trivial) ?_
      start requests trivial
    exact fun r request _ => perform_errorUnchanged r request.store request.audit request.mutation

/-- A rack moves from one room to the other; it cannot be deleted while a host
is bound to it, and a rename against an old generation and one that the store
refuses change nothing. -/
def rackMoves : List (Request Unit) :=
  let domain (id : String) (className : FailureDomainClass) (parent : Option String) :
      FailureDomain :=
    ⟨id, className, id, "az-1", parent, 1, ∅⟩
  let stored (mutation : Mutation) : Request Unit := ⟨mutation, some (), fun _ => .ok ()⟩
  [stored (.declareRegion "region-1"),
    stored (.declareAvailabilityDomain "region-1" "az-1"),
    stored (.createFailureDomain (domain "room-1" .room none)),
    stored (.createFailureDomain (domain "room-2" .room none)),
    stored (.createFailureDomain (domain "rack" .rack (some "room-1"))),
    stored (.bind ⟨"rack", .host, "host-1"⟩),
    stored (.deleteFailureDomain "rack" 1),
    stored (.unbind ⟨"rack", .host, "host-1"⟩),
    stored (.deleteFailureDomain "rack" 1),
    stored (.createFailureDomain (domain "rack" .rack (some "room-2"))),
    stored (.bind ⟨"rack", .host, "host-1"⟩),
    stored (.updateFailureDomain "room-2" "hall" ∅ 1),
    stored (.updateFailureDomain "room-2" "attic" ∅ 1),
    ⟨.updateFailureDomain "room-2" "attic" ∅ 2, none, fun _ => .error (.topologyUnavailable "database is locked")⟩,
    stored (.removeRegion "region-1")]

theorem mutations_stay_valid_rackMoves :
    (Semantics.Always step
        (fun r =>
          fromSnapshot r.snapshot = .ok r ∧ r.WellFormed ∧
            Acyclic (parentOf r.topology.failureDomains))
        empty rackMoves ∧
      Semantics.EachStep step
        (fun r request => ∀ e, (request.outcome r).1 = .error e → step r request = r)
        empty rackMoves) ∧
      (Semantics.run step empty rackMoves).snapshot.failureDomains.map
          (fun domain => (domain.id, domain.name, domain.parent))
        =
      [("rack", "rack", some "room-2"), ("room-1", "room-1", none), ("room-2", "hall", none)] :=
  ⟨mutations_stay_valid empty (Or.inl rfl) rackMoves, by decide +kernel⟩

end LocationRegistry

end Location
end O3k
