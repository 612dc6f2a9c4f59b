import O3k.Location.Records
import O3k.Relational.Forest
import O3k.Relational.Transaction

/-!
# What a valid topology is

`TopologySnapshot.Valid` says it without any order of checks: identifiers are
well formed and unique, every reference resolves, and every failure domain has
a depth within the bound, so that no domain is its own ancestor.
`fromSnapshot` accepts exactly the valid snapshots.
-/

namespace O3k
namespace Location

open Relational

/-- The scalar fields of a domain. -/
structure FailureDomain.WellShaped (domain : FailureDomain) : Prop where
  id : validLocationId domain.id
  name : domain.name.isEmpty = false
  nameLength : domain.name.utf8ByteSize ≤ maxFailureDomainNameLen
  metadataLength : domain.metadata.rows.length ≤ maxMetadataEntries
  metadataKeys : ∀ entry ∈ domain.metadata.rows, validMetadataKey entry.1
  metadataValues :
    ∀ entry ∈ domain.metadata.rows, entry.2.utf8ByteSize ≤ maxMetadataValueLen

/-- The parent of a domain, by identifier. -/
def parentOf (domains : List FailureDomain) (id : String) : Option String :=
  (lookupDomain domains id).bind (·.parent)

/-- `parent` may be the parent of `child`. -/
structure Nests (parent child : FailureDomain) : Prop where
  sameAz : parent.availabilityDomain = child.availabilityDomain
  rank : parent.className.rank ≤ child.className.rank

structure ValidRegions (regions : List RegionDeclaration) : Prop where
  regionIds : ∀ region ∈ regions, validLocationId region.id
  regionsUnique : (regions.map (·.id)).Nodup
  azIds : ∀ az ∈ allAvailabilityDomains regions, validLocationId az.id
  azUnique : ((allAvailabilityDomains regions).map (·.id)).Nodup

structure ValidDomains (knowsAz : String → Bool) (domains : List FailureDomain) : Prop where
  unique : (domains.map (·.id)).Nodup
  shape : ∀ domain ∈ domains, domain.WellShaped
  az : ∀ domain ∈ domains, knowsAz domain.availabilityDomain
  parents :
    ∀ domain ∈ domains, ∀ p, domain.parent = some p →
      ∃ parent ∈ domains, parent.id = p ∧ Nests parent domain
  depth :
    ∀ domain ∈ domains, ∃ n ≤ maxFailureDomainDepth, HasDepth (parentOf domains) domain.id n

structure ValidBindings (domains : List FailureDomain)
    (bindings : List TopologyBinding) : Prop where
  unique : (bindings.map bindingKey).Nodup
  domain : ∀ binding ∈ bindings, ∃ d ∈ domains, d.id = binding.failureDomain
  target : ∀ binding ∈ bindings, validLocationId binding.target.id

structure TopologySnapshot.Valid (s : TopologySnapshot) : Prop where
  regions : ValidRegions s.regions
  domains : ValidDomains (knowsAvailabilityDomain s.regions) s.failureDomains
  bindings : ValidBindings s.failureDomains s.bindings

theorem knowsAvailabilityDomain_iff {regions : List RegionDeclaration} {az : String} :
    knowsAvailabilityDomain regions az ↔ ∃ known ∈ allAvailabilityDomains regions, known.id = az := by
  simp [knowsAvailabilityDomain]

variable {domains : List FailureDomain} {domain : FailureDomain}

theorem lookupDomain_mem {id : String} (h : lookupDomain domains id = some domain) :
    domain ∈ domains ∧ domain.id = id := by
  have hmem := List.mem_of_find?_eq_some h
  have hid := List.find?_some h
  exact ⟨List.mem_reverse.mp hmem, of_decide_eq_true hid⟩

theorem lookupDomain_isSome (h : domain ∈ domains) :
    ∃ found, lookupDomain domains domain.id = some found := by
  rw [← Option.isSome_iff_exists, lookupDomain, List.find?_isSome]
  exact ⟨domain, List.mem_reverse.mpr h, decide_eq_true rfl⟩

theorem lookupDomain_eq_none {id : String} :
    lookupDomain domains id = none ↔ ∀ domain ∈ domains, domain.id ≠ id := by
  simp [lookupDomain]

theorem lookupDomain_of_mem (hunique : (domains.map (·.id)).Nodup) (h : domain ∈ domains) :
    lookupDomain domains domain.id = some domain := by
  obtain ⟨found, hfound⟩ := lookupDomain_isSome h
  obtain ⟨hmem, hid⟩ := lookupDomain_mem hfound
  rw [hfound, List.inj_on_of_nodup_map hunique hmem h hid]

theorem lookupDomain_congr {domains domains' : List FailureDomain}
    (hunique' : (domains'.map (·.id)).Nodup) {id : String}
    (h : ∀ domain, domain.id = id → (domain ∈ domains ↔ domain ∈ domains')) :
    lookupDomain domains id = lookupDomain domains' id := by
  cases hfound : lookupDomain domains id with
  | none =>
    symm
    rw [lookupDomain_eq_none] at hfound ⊢
    exact fun domain hmem hid => hfound domain ((h domain hid).mpr hmem) hid
  | some domain =>
    obtain ⟨hmem, rfl⟩ := lookupDomain_mem hfound
    exact (lookupDomain_of_mem hunique' ((h domain rfl).mp hmem)).symm

theorem parentOf_of_mem (hunique : (domains.map (·.id)).Nodup) (h : domain ∈ domains) :
    parentOf domains domain.id = domain.parent := by
  rw [parentOf, lookupDomain_of_mem hunique h]
  rfl

theorem validateRegionIdStr_eq_ok {id : String} :
    validateRegionIdStr id = .ok () ↔ validLocationId id := by
  unfold validateRegionIdStr
  split_ifs with hempty hvalid
  · have hid : id = "" := by simpa using hempty
    subst hid
    simp [validLocationId]
  · simp [hvalid]
  · simp [hvalid]

theorem validateAzIdStr_eq_ok {id : String} : validateAzIdStr id = .ok () ↔ validLocationId id := by
  unfold validateAzIdStr
  split_ifs with hempty hvalid
  · have hid : id = "" := by simpa using hempty
    subst hid
    simp [validLocationId]
  · simp [hvalid]
  · simp [hvalid]

theorem validateFailureDomainId_eq_ok {id : String} :
    validateFailureDomainId id = .ok () ↔ validLocationId id := by
  unfold validateFailureDomainId
  split_ifs with hvalid <;> simp [hvalid]

theorem validateFailureDomainName_eq_ok {name : String} :
    validateFailureDomainName name = .ok () ↔
    name.isEmpty = false ∧ name.utf8ByteSize ≤ maxFailureDomainNameLen := by
  unfold validateFailureDomainName
  split_ifs with hempty hlong
  · simp [hempty]
  · simp only [false_iff]
    omega
  · simp only [Bool.not_eq_true] at hempty
    simp only [hempty, true_and, true_iff]
    omega

theorem validateMetadataEntries_eq_ok {entries : List (String × String)} :
    validateMetadataEntries entries = .ok () ↔ (∀ entry ∈ entries, validMetadataKey entry.1) ∧
      ∀ entry ∈ entries, entry.2.utf8ByteSize ≤ maxMetadataValueLen := by
  induction entries with
  | nil => simp [validateMetadataEntries]
  | cons entry rest ih =>
    obtain ⟨key, value⟩ := entry
    simp only [validateMetadataEntries, List.forall_mem_cons]
    split_ifs with hkey hvalue
    · simp only [Bool.not_eq_true'] at hkey
      simp [hkey]
    · simp only [false_iff]
      omega
    · simp only [Bool.not_eq_true', Bool.not_eq_false] at hkey
      have hle : value.utf8ByteSize ≤ maxMetadataValueLen := by omega
      simp [ih, hkey, hle]

theorem validateMetadata_eq_ok {metadata : Metadata} :
    validateMetadata metadata = .ok () ↔ metadata.rows.length ≤ maxMetadataEntries ∧
      (∀ entry ∈ metadata.rows, validMetadataKey entry.1) ∧
      ∀ entry ∈ metadata.rows, entry.2.utf8ByteSize ≤ maxMetadataValueLen := by
  unfold validateMetadata
  split_ifs with hlong
  · simp only [false_iff]
    omega
  · rw [validateMetadataEntries_eq_ok]
    have hle : metadata.rows.length ≤ maxMetadataEntries := by omega
    simp [hle]

theorem validateAvailabilityDomains_eq_ok {region : String} {azs : List AvailabilityDomain}
    {seen all all' : List String} :
    validateAvailabilityDomains region azs seen all = .ok all' ↔
    (∀ az ∈ azs, validLocationId az.id) ∧ (azs.map (·.id)).Nodup ∧
      (∀ az ∈ azs, az.id ∉ seen ∧ az.id ∉ all) ∧
      (azs.map (·.id)).reverse ++ all = all' := by
  induction azs generalizing seen all with
  | nil => simp [validateAvailabilityDomains]
  | cons az rest ih =>
    simp only [validateAvailabilityDomains]
    rw [Transaction.except_check_bind_eq_ok]
    simp only [validateAzIdStr_eq_ok, List.forall_mem_cons, List.map_cons,
      List.nodup_cons, List.reverse_cons, List.append_assoc, List.singleton_append]
    split_ifs with hseen hall
    · simp [hseen]
    · simp [hall]
    · rw [ih]
      simp only [List.mem_cons, not_or, List.mem_map, not_exists, not_and]
      constructor
      · rintro ⟨haz, hrest, hnodup, hfresh, hall'⟩
        exact ⟨⟨haz, hrest⟩, ⟨fun x hx => (hfresh x hx).1.1, hnodup⟩,
          ⟨⟨hseen, hall⟩, fun x hx => ⟨(hfresh x hx).1.2, (hfresh x hx).2.2⟩⟩, hall'⟩
      · rintro ⟨⟨haz, hrest⟩, ⟨hne, hnodup⟩, ⟨_, hfresh⟩, hall'⟩
        exact ⟨haz, hrest, hnodup,
          fun x hx => ⟨⟨hne x hx, (hfresh x hx).1⟩, hne x hx, (hfresh x hx).2⟩, hall'⟩

theorem allAvailabilityDomains_cons (region : RegionDeclaration) (rest : List RegionDeclaration) :
    allAvailabilityDomains (region :: rest) =
    region.availabilityDomains ++ allAvailabilityDomains rest := by
  rfl

variable {regions : List RegionDeclaration}

theorem validateRegionsFrom_eq_ok {seen all : List String} :
    validateRegionsFrom regions seen all = .ok () ↔ ValidRegions regions ∧
      (∀ region ∈ regions, region.id ∉ seen) ∧
      ∀ az ∈ allAvailabilityDomains regions, az.id ∉ all := by
  induction regions generalizing seen all with
  | nil =>
    simp only [validateRegionsFrom, allAvailabilityDomains, List.flatMap_nil, List.not_mem_nil,
      false_implies, implies_true, and_true, true_iff]
    exact ⟨by simp, by simp, by simp [allAvailabilityDomains], by simp [allAvailabilityDomains]⟩
  | cons region rest ih =>
    simp only [validateRegionsFrom]
    rw [Transaction.except_check_bind_eq_ok]
    simp only [validateRegionIdStr_eq_ok]
    split_ifs with hseen
    · simp [hseen]
    · rw [Transaction.except_bind_eq_ok]
      simp only [validateAvailabilityDomains_eq_ok, ih]
      constructor
      · rintro ⟨hid, all', ⟨hazs, hnodup, hfresh, rfl⟩, hrest, hregions, hothers⟩
        simp only [List.mem_append, List.mem_reverse, not_or] at hothers
        refine ⟨⟨?_, ?_, ?_, ?_⟩, ?_, ?_⟩
        · exact List.forall_mem_cons.mpr ⟨hid, hrest.regionIds⟩
        · refine List.nodup_cons.mpr ⟨?_, hrest.regionsUnique⟩
          intro hmem
          obtain ⟨other, hother, heq⟩ := List.mem_map.mp hmem
          exact hregions other hother (heq ▸ List.mem_cons_self)
        · rw [allAvailabilityDomains_cons]
          intro az haz
          rcases List.mem_append.mp haz with haz | haz
          · exact hazs az haz
          · exact hrest.azIds az haz
        · rw [allAvailabilityDomains_cons, List.map_append, List.nodup_append]
          refine ⟨hnodup, hrest.azUnique, ?_⟩
          rintro id hid' _ hid'' rfl
          obtain ⟨az, haz, rfl⟩ := List.mem_map.mp hid''
          exact (hothers az haz).1 hid'
        · refine List.forall_mem_cons.mpr ⟨hseen, fun other hother => ?_⟩
          exact fun hmem => hregions other hother (List.mem_cons_of_mem _ hmem)
        · rw [allAvailabilityDomains_cons]
          intro az haz
          rcases List.mem_append.mp haz with haz | haz
          · exact (hfresh az haz).2
          · exact (hothers az haz).2
      · rintro ⟨hvalid, hregions, hothers⟩
        have hids := List.nodup_cons.mp hvalid.regionsUnique
        have hazs := hvalid.azIds
        have hazsUnique := hvalid.azUnique
        rw [allAvailabilityDomains_cons] at hazs hazsUnique hothers
        rw [List.map_append, List.nodup_append] at hazsUnique
        have hregionIds := List.forall_mem_cons.mp hvalid.regionIds
        refine ⟨hregionIds.1, _, ⟨fun az haz => hazs az (List.mem_append_left _ haz),
          hazsUnique.1, fun az haz => ⟨List.not_mem_nil, ?_⟩, rfl⟩,
          ⟨hregionIds.2, hids.2, fun az haz => hazs az (List.mem_append_right _ haz),
            hazsUnique.2.1⟩, ?_, ?_⟩
        · exact hothers az (List.mem_append_left _ haz)
        · intro other hother hmem
          rcases List.mem_cons.mp hmem with heq | hmem
          · exact hids.1 (List.mem_map.mpr ⟨other, hother, heq⟩)
          · exact hregions other (List.mem_cons_of_mem _ hother) hmem
        · intro az haz
          rw [List.mem_append, List.mem_reverse, not_or]
          exact ⟨fun hmem => hazsUnique.2.2 _ hmem _ (List.mem_map_of_mem haz) rfl,
            hothers az (List.mem_append_right _ haz)⟩

theorem validateRegionDeclarations_eq_ok {regions : List RegionDeclaration} :
    validateRegionDeclarations regions = .ok () ↔ ValidRegions regions := by
  rw [validateRegionDeclarations, validateRegionsFrom_eq_ok]
  simp

section Walk

variable {domain : FailureDomain} {domains : List FailureDomain}

theorem hasDepth_of_walkParents (hunique : (domains.map (·.id)).Nodup)
    (hresolved : ∀ d ∈ domains, ∀ p, d.parent = some p → ∃ parent ∈ domains, parent.id = p)
    {remaining : Nat} {visited : List String} {current : FailureDomain}
    (hcurrent : current ∈ domains)
    (h : walkParents domain (lookupDomain domains) remaining visited current = .ok ()) :
    ∃ n ≤ remaining, HasDepth (parentOf domains) current.id n := by
  induction remaining generalizing visited current with
  | zero =>
    rw [walkParents] at h
    split_ifs at h
  | succ remaining ih =>
    rw [walkParents] at h
    split_ifs at h
    cases hparent : current.parent with
    | none => exact ⟨1, by omega, .root ((parentOf_of_mem hunique hcurrent).trans hparent)⟩
    | some p =>
      obtain ⟨parent, hmem, rfl⟩ := hresolved current hcurrent p hparent
      simp only [hparent, Option.bind_some, lookupDomain_of_mem hunique hmem] at h
      obtain ⟨n, hn, hdepth⟩ := ih hmem h
      exact ⟨n + 1, by omega, .nested ((parentOf_of_mem hunique hcurrent).trans hparent) hdepth⟩

theorem walkParents_of_hasDepth (hunique : (domains.map (·.id)).Nodup)
    {remaining : Nat} {visited : List String} {current : FailureDomain}
    (hcurrent : current ∈ domains) {n : Nat} (hn : n ≤ remaining)
    (hdepth : HasDepth (parentOf domains) current.id n)
    (hvisited : ∀ d ∈ domains, ∀ m ≤ n, HasDepth (parentOf domains) d.id m → d.id ∉ visited) :
    walkParents domain (lookupDomain domains) remaining visited current = .ok () := by
  induction remaining generalizing visited current n with
  | zero =>
    have hpos := hdepth.pos
    omega
  | succ remaining ih =>
    rw [walkParents, if_neg (hvisited current hcurrent n le_rfl hdepth)]
    cases hnext : current.parent.bind (lookupDomain domains) with
    | none => rfl
    | some next =>
      obtain ⟨p, hparent, hfound⟩ := Option.bind_eq_some_iff.mp hnext
      obtain ⟨hmem, rfl⟩ := lookupDomain_mem hfound
      cases hdepth with
      | root hroot =>
        rw [parentOf_of_mem hunique hcurrent, hparent] at hroot
        cases hroot
      | @nested _ p' n hp hdepth =>
        rw [parentOf_of_mem hunique hcurrent, hparent] at hp
        cases hp
        refine ih hmem (by omega) hdepth ?_
        intro d hd m hm hdm hin
        rcases List.mem_cons.mp hin with heq | hin
        · -- the node just left is one deeper than all that is above it
          have hm' : m = n + 1 :=
            (heq ▸ hdm).unique
              (.nested ((parentOf_of_mem hunique hcurrent).trans hparent) hdepth)
          omega
        · exact hvisited d hd m (by omega) hdm hin

end Walk

variable {context : String → Option FailureDomain}

theorem validateFailureDomainStructure_eq_ok {knowsAz : String → Bool} :
    validateFailureDomainStructure domain context knowsAz = .ok () ↔ domain.WellShaped ∧
      knowsAz domain.availabilityDomain ∧
      ∀ p, domain.parent = some p → validateParent domain context p = .ok () := by
  unfold validateFailureDomainStructure
  simp only [Transaction.except_check_bind_eq_ok, validateFailureDomainId_eq_ok,
    validateFailureDomainName_eq_ok, validateMetadata_eq_ok]
  constructor
  · rintro ⟨hid, ⟨hname, hlength⟩, ⟨hcount, hkeys, hvalues⟩, hrest⟩
    split_ifs at hrest with haz
    refine ⟨⟨hid, hname, hlength, hcount, hkeys, hvalues⟩, by simpa using haz, ?_⟩
    intro p hp
    rwa [hp] at hrest
  · rintro ⟨⟨hid, hname, hlength, hcount, hkeys, hvalues⟩, haz, hparent⟩
    refine ⟨hid, ⟨hname, hlength⟩, ⟨hcount, hkeys, hvalues⟩, ?_⟩
    rw [haz]
    cases hp : domain.parent with
    | none => rfl
    | some p => exact hparent p hp

theorem validateParent_eq_ok {p : String} :
    validateParent domain context p = .ok () ↔ p ≠ domain.id ∧
      ∃ parent, context p = some parent ∧ Nests parent domain ∧
        walkParents domain context (maxFailureDomainDepth - 1) [domain.id] parent = .ok () := by
  unfold validateParent
  split_ifs with hself
  · simp [hself]
  · cases hfound : context p with
    | none => simp
    | some parent =>
      simp only [ne_eq, hself, not_false_eq_true, true_and, Option.some.injEq, exists_eq_left']
      split_ifs with haz hrank
      · simp only [false_iff, not_and]
        exact fun hnests => absurd hnests.rank (by omega)
      · exact ⟨fun h => ⟨⟨haz, by omega⟩, h⟩, fun h => h.2⟩
      · simp only [false_iff, not_and]
        exact fun hnests => absurd hnests.sameAz haz

theorem validateUniqueDomains_eq_ok {seen : List String} :
    validateUniqueDomains domains seen = .ok () ↔
    (domains.map (·.id)).Nodup ∧ ∀ domain ∈ domains, domain.id ∉ seen := by
  induction domains generalizing seen with
  | nil => simp [validateUniqueDomains]
  | cons domain rest ih =>
    simp only [validateUniqueDomains]
    split_ifs with hseen
    · simp [hseen]
    · rw [ih]
      simp only [List.mem_cons, not_or, List.map_cons, List.nodup_cons, List.mem_map,
        not_exists, not_and]
      constructor
      · rintro ⟨hnodup, hfresh⟩
        refine ⟨⟨fun d hd => (hfresh d hd).1, hnodup⟩, ?_⟩
        rintro d (rfl | hd)
        · exact hseen
        · exact (hfresh d hd).2
      · rintro ⟨⟨hne, hnodup⟩, hfresh⟩
        exact ⟨hnodup, fun d hd => ⟨hne d hd, hfresh d (Or.inr hd)⟩⟩

variable {knowsAz : String → Bool}

theorem validateEachDomain_eq_ok {domains : List FailureDomain} :
    validateEachDomain context knowsAz domains = .ok () ↔
    ∀ domain ∈ domains, validateFailureDomainStructure domain context knowsAz = .ok () := by
  induction domains with
  | nil => simp [validateEachDomain]
  | cons domain rest ih =>
    rw [validateEachDomain, Transaction.except_check_bind_eq_ok, ih, List.forall_mem_cons]

theorem validDomains_iff {domains : List FailureDomain} :
    ValidDomains knowsAz domains ↔ (domains.map (·.id)).Nodup ∧
      ∀ domain ∈ domains,
        validateFailureDomainStructure domain (lookupDomain domains) knowsAz = .ok () := by
  constructor
  · intro h
    refine ⟨h.unique, fun domain hmem => ?_⟩
    refine validateFailureDomainStructure_eq_ok.mpr ⟨h.shape domain hmem, h.az domain hmem, ?_⟩
    intro p hp
    obtain ⟨parent, hparent, rfl, hnests⟩ := h.parents domain hmem p hp
    obtain ⟨n, hn, hdepth⟩ := h.depth domain hmem
    cases hdepth with
    | root hroot =>
      rw [parentOf_of_mem h.unique hmem, hp] at hroot
      cases hroot
    | @nested _ q n hq hdepth =>
      have hself := hdepth
      rw [parentOf_of_mem h.unique hmem, hp] at hq
      cases hq
      have habove :
          ∀ d ∈ domains, ∀ m ≤ n, HasDepth (parentOf domains) d.id m → d.id ≠ domain.id := by
        intro d _ m hm hd heq
        rw [heq] at hd
        have hm' := hd.unique (.nested ((parentOf_of_mem h.unique hmem).trans hp) hdepth)
        omega
      refine validateParent_eq_ok.mpr ⟨habove parent hparent n le_rfl hdepth, parent,
        lookupDomain_of_mem h.unique hparent, hnests,
        walkParents_of_hasDepth h.unique hparent (by omega) hdepth ?_⟩
      intro d hd m hm hdm
      simpa using habove d hd m hm hdm
  · rintro ⟨hunique, hstructure⟩
    have hchecked := fun domain hmem =>
      validateFailureDomainStructure_eq_ok.mp (hstructure domain hmem)
    have hparents :
        ∀ domain ∈ domains, ∀ p, domain.parent = some p →
          ∃ parent ∈ domains, parent.id = p ∧ Nests parent domain ∧
            walkParents domain (lookupDomain domains) (maxFailureDomainDepth - 1)
              [domain.id] parent = .ok () := by
      intro domain hmem p hp
      obtain ⟨_, parent, hfound, hnests, hwalk⟩ :=
        validateParent_eq_ok.mp ((hchecked domain hmem).2.2 p hp)
      obtain ⟨hparent, hid⟩ := lookupDomain_mem hfound
      exact ⟨parent, hparent, hid, hnests, hwalk⟩
    refine ⟨hunique, fun d hd => (hchecked d hd).1, fun d hd => (hchecked d hd).2.1, ?_, ?_⟩
    · intro domain hmem p hp
      obtain ⟨parent, hparent, hid, hnests, _⟩ := hparents domain hmem p hp
      exact ⟨parent, hparent, hid, hnests⟩
    · intro domain hmem
      cases hp : domain.parent with
      | none => exact ⟨1, by decide, .root ((parentOf_of_mem hunique hmem).trans hp)⟩
      | some p =>
        obtain ⟨parent, hparent, rfl, _, hwalk⟩ := hparents domain hmem p hp
        have hresolved :
            ∀ d ∈ domains, ∀ p, d.parent = some p → ∃ parent ∈ domains, parent.id = p := by
          intro d hd p hp
          obtain ⟨parent, hparent, hid, _⟩ := hparents d hd p hp
          exact ⟨parent, hparent, hid⟩
        obtain ⟨n, hn, hdepth⟩ := hasDepth_of_walkParents hunique hresolved hparent hwalk
        refine ⟨n + 1, ?_, .nested ((parentOf_of_mem hunique hmem).trans hp) hdepth⟩
        unfold maxFailureDomainDepth at hn ⊢
        omega

theorem validateBindings_eq_ok {bindings seen : List TopologyBinding} :
    validateBindings (lookupDomain domains) bindings seen = .ok () ↔
    ValidBindings domains bindings ∧
      ∀ binding ∈ bindings, bindingKey binding ∉ seen.map bindingKey := by
  induction bindings generalizing seen with
  | nil =>
    simp only [validateBindings, List.not_mem_nil, false_implies, implies_true, and_true, true_iff]
    exact ⟨by simp, by simp, by simp⟩
  | cons binding rest ih =>
    simp only [validateBindings]
    split_ifs with hdomain htarget hseen
    · simp only [Option.isNone_iff_eq_none, lookupDomain_eq_none] at hdomain
      simp only [false_iff, not_and]
      intro hvalid
      obtain ⟨d, hd, hid⟩ := hvalid.domain binding List.mem_cons_self
      exact absurd hid (hdomain d hd)
    · simp only [false_iff, not_and]
      intro hvalid
      rw [hvalid.target binding List.mem_cons_self] at htarget
      exact absurd htarget (by decide)
    · simp only [false_iff, not_and]
      exact fun _ hfresh => hfresh binding List.mem_cons_self hseen
    · rw [ih]
      have hfound : ∃ d ∈ domains, d.id = binding.failureDomain := by
        simpa [lookupDomain_eq_none] using hdomain
      simp only [Bool.not_eq_true', Bool.not_eq_false] at htarget
      simp only [List.map_cons, List.mem_cons, not_or]
      constructor
      · rintro ⟨hvalid, hfresh⟩
        refine ⟨⟨?_, ?_, ?_⟩, ?_⟩
        · refine List.nodup_cons.mpr ⟨?_, hvalid.unique⟩
          intro hmem
          obtain ⟨other, hother, heq⟩ := List.mem_map.mp hmem
          exact (hfresh other hother).1 heq
        · exact List.forall_mem_cons.mpr ⟨hfound, hvalid.domain⟩
        · exact List.forall_mem_cons.mpr ⟨htarget, hvalid.target⟩
        · rintro other (rfl | hother)
          · exact hseen
          · exact (hfresh other hother).2
      · rintro ⟨hvalid, hfresh⟩
        have hunique := List.nodup_cons.mp hvalid.unique
        refine ⟨⟨hunique.2, fun b hb => hvalid.domain b (List.mem_cons_of_mem _ hb),
          fun b hb => hvalid.target b (List.mem_cons_of_mem _ hb)⟩, fun b hb => ⟨?_, ?_⟩⟩
        · exact fun heq => hunique.1 (List.mem_map.mpr ⟨b, hb, heq⟩)
        · exact hfresh b (Or.inr hb)

namespace LocationRegistry

/-- The registry that a valid snapshot becomes. -/
def ofSnapshot (s : TopologySnapshot) : LocationRegistry :=
  { regions := sortedRegions s.regions
    topology :=
      { failureDomains := sortBy FailureDomain.id s.failureDomains
        bindings := sortBy bindingKey s.bindings } }

/-- **`fromSnapshot` accepts exactly the valid snapshots**, and sorts them. -/
theorem fromSnapshot_eq_ok {s : TopologySnapshot} {r : LocationRegistry} :
    fromSnapshot s = .ok r ↔ s.Valid ∧ ofSnapshot s = r := by
  unfold fromSnapshot
  simp only [Transaction.except_check_bind_eq_ok, validateRegionDeclarations_eq_ok,
    validateUniqueDomains_eq_ok, validateEachDomain_eq_ok, validateBindings_eq_ok, pure,
    Except.pure, Except.ok.injEq]
  constructor
  · rintro ⟨hregions, ⟨hunique, _⟩, hdomains, ⟨hbindings, _⟩, hr⟩
    exact ⟨⟨hregions, validDomains_iff.mpr ⟨hunique, hdomains⟩, hbindings⟩, hr⟩
  · rintro ⟨hvalid, hr⟩
    obtain ⟨hunique, hdomains⟩ := validDomains_iff.mp hvalid.domains
    exact ⟨hvalid.regions, ⟨hunique, by simp⟩, hdomains, ⟨hvalid.bindings, by simp⟩, hr⟩

/-- A registry whose content is valid and whose lists are sorted without
duplicates. -/
structure WellFormed (r : LocationRegistry) : Prop where
  valid : r.snapshot.Valid
  regionsSorted : StrictlySorted RegionDeclaration.id r.regions
  azsSorted :
    ∀ region ∈ r.regions, StrictlySorted AvailabilityDomain.id region.availabilityDomains
  domainsSorted : StrictlySorted FailureDomain.id r.topology.failureDomains
  bindingsSorted : StrictlySorted bindingKey r.topology.bindings

end LocationRegistry

theorem mem_sortedRegions {regions : List RegionDeclaration} {region : RegionDeclaration} :
    region ∈ sortedRegions regions ↔ ∃ old ∈ regions,
      { old with
        availabilityDomains := sortBy AvailabilityDomain.id old.availabilityDomains } = region := by
  rw [sortedRegions, mem_sortBy, List.mem_map]

theorem allAvailabilityDomains_sortedRegions (regions : List RegionDeclaration) :
    (allAvailabilityDomains (sortedRegions regions)).Perm (allAvailabilityDomains regions) := by
  refine ((sortBy_perm _).flatMap_right _).trans ?_
  rw [List.flatMap_map]
  exact List.Perm.flatMap_left _ (fun region _ => sortBy_perm _)

theorem ValidRegions.sorted (h : ValidRegions regions) : ValidRegions (sortedRegions regions) := by
  have hazs := allAvailabilityDomains_sortedRegions regions
  have hids : ((sortedRegions regions).map (·.id)).Perm (regions.map (·.id)) := by
    have hperm := (@sortBy_perm _ _ _ RegionDeclaration.id (regions.map fun region =>
      { region with
        availabilityDomains := sortBy AvailabilityDomain.id region.availabilityDomains })).map
          RegionDeclaration.id
    rwa [List.map_map] at hperm
  refine ⟨?_, hids.nodup_iff.mpr h.regionsUnique, fun az haz => h.azIds az (hazs.mem_iff.mp haz),
    (hazs.map _).nodup_iff.mpr h.azUnique⟩
  intro region hmem
  obtain ⟨old, hold, rfl⟩ := mem_sortedRegions.mp hmem
  exact h.regionIds old hold

theorem knowsAvailabilityDomain_sortedRegions (regions : List RegionDeclaration) :
    knowsAvailabilityDomain (sortedRegions regions) = knowsAvailabilityDomain regions := by
  funext az
  rw [Bool.eq_iff_iff, knowsAvailabilityDomain_iff, knowsAvailabilityDomain_iff]
  simp only [(allAvailabilityDomains_sortedRegions regions).mem_iff]

theorem ValidDomains.perm {domains domains' : List FailureDomain}
    (hperm : domains.Perm domains') (h : ValidDomains knowsAz domains) :
    ValidDomains knowsAz domains' := by
  have hunique := (hperm.map (·.id)).nodup_iff.mp h.unique
  have hparent : parentOf domains = parentOf domains' := by
    funext id
    rw [parentOf, parentOf, lookupDomain_congr hunique (fun _ _ => hperm.mem_iff)]
  refine ⟨hunique, fun d hd => h.shape d (hperm.mem_iff.mpr hd),
    fun d hd => h.az d (hperm.mem_iff.mpr hd), ?_, ?_⟩
  · intro d hd p hp
    obtain ⟨parent, hmem, hrest⟩ := h.parents d (hperm.mem_iff.mpr hd) p hp
    exact ⟨parent, hperm.mem_iff.mp hmem, hrest⟩
  · exact fun d hd => hparent ▸ h.depth d (hperm.mem_iff.mpr hd)

theorem ValidBindings.perm {domains domains' : List FailureDomain}
    {bindings bindings' : List TopologyBinding} (hdomains : domains.Perm domains')
    (hperm : bindings.Perm bindings') (h : ValidBindings domains bindings) :
    ValidBindings domains' bindings' := by
  refine ⟨(hperm.map _).nodup_iff.mp h.unique, fun b hb => ?_,
    fun b hb => h.target b (hperm.mem_iff.mpr hb)⟩
  obtain ⟨d, hd, hid⟩ := h.domain b (hperm.mem_iff.mpr hb)
  exact ⟨d, hdomains.mem_iff.mp hd, hid⟩

theorem ValidRegions.azs_nodup
    (h : ValidRegions regions) {region : RegionDeclaration} (hmem : region ∈ regions) :
    (region.availabilityDomains.map (·.id)).Nodup := by
  have hsub : region.availabilityDomains.Sublist (allAvailabilityDomains regions) :=
    List.sublist_flatten_of_mem (List.mem_map_of_mem hmem)
  exact h.azUnique.sublist (hsub.map _)

namespace LocationRegistry

theorem wellFormed_of_fromSnapshot {s : TopologySnapshot} {r : LocationRegistry}
    (h : fromSnapshot s = .ok r) :
    r.WellFormed := by
  obtain ⟨hvalid, rfl⟩ := fromSnapshot_eq_ok.mp h
  have hdomains := (@sortBy_perm _ _ _ FailureDomain.id s.failureDomains).symm
  have hbindings := (@sortBy_perm _ _ _ bindingKey s.bindings).symm
  refine ⟨⟨hvalid.regions.sorted, ?_, hvalid.bindings.perm hdomains hbindings⟩, ?_, ?_,
    strictlySorted_sortBy hvalid.domains.unique, strictlySorted_sortBy hvalid.bindings.unique⟩
  · show ValidDomains (knowsAvailabilityDomain (sortedRegions s.regions)) _
    rw [knowsAvailabilityDomain_sortedRegions]
    exact hvalid.domains.perm hdomains
  · refine strictlySorted_sortBy ?_
    rw [List.map_map]
    exact hvalid.regions.regionsUnique
  · intro region hmem
    obtain ⟨old, hold, rfl⟩ := mem_sortedRegions.mp hmem
    exact strictlySorted_sortBy (hvalid.regions.azs_nodup hold)

theorem sortedRegions_eq_self {regions : List RegionDeclaration}
    (hsorted : StrictlySorted RegionDeclaration.id regions)
    (hazs : ∀ region ∈ regions, StrictlySorted AvailabilityDomain.id region.availabilityDomains) :
    sortedRegions regions = regions := by
  have hsame :
      (regions.map fun region =>
        { region with
          availabilityDomains := sortBy AvailabilityDomain.id region.availabilityDomains })
        = regions := by
    refine (List.map_congr_left ?_).trans (List.map_id regions)
    intro region hmem
    rw [(hazs region hmem).sortBy_eq]
    rfl
  rw [sortedRegions, hsame, hsorted.sortBy_eq]

/-- **A well-formed registry survives its own snapshot.** -/
theorem WellFormed.fromSnapshot_snapshot {r : LocationRegistry} (h : r.WellFormed) :
    fromSnapshot r.snapshot = .ok r := by
  refine fromSnapshot_eq_ok.mpr ⟨h.valid, ?_⟩
  have hregions : sortedRegions r.regions = r.regions :=
    sortedRegions_eq_self h.regionsSorted h.azsSorted
  show LocationRegistry.mk (sortedRegions r.regions)
    ⟨sortBy FailureDomain.id r.topology.failureDomains, sortBy bindingKey r.topology.bindings⟩ = r
  rw [hregions, h.domainsSorted.sortBy_eq, h.bindingsSorted.sortBy_eq]

end LocationRegistry

end Location
end O3k
