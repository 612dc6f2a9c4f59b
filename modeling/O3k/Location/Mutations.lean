import O3k.Location.Records

/-!
# Mutations of the location registry

Every mutation validates against memory, persists through the store and then
applies to memory.  The store is a parameter: it answers the one call a
mutation makes, and an error of it leaves memory untouched.  A replay that has
nothing to change is only audited.
-/

namespace O3k
namespace Location

open Relational

variable {AuditEvent : Type}

/-- The calls of `TopologyStore` that mutations make. -/
inductive TopologyCall (AuditEvent : Type)
  | recordAudit (audit : AuditEvent)
  | insertRegion (id : String) (audit : Option AuditEvent)
  | deleteRegion (id : String) (audit : Option AuditEvent)
  | insertAvailabilityDomain (region az : String) (audit : Option AuditEvent)
  | deleteAvailabilityDomain (az : String) (audit : Option AuditEvent)
  | insertFailureDomain (domain : FailureDomain) (audit : Option AuditEvent)
  | updateFailureDomain (domain : FailureDomain) (expectedGeneration : UInt64)
      (audit : Option AuditEvent)
  | deleteFailureDomain (id : String) (expectedGeneration : UInt64) (audit : Option AuditEvent)
  | insertBinding (binding : TopologyBinding) (audit : Option AuditEvent)
  | deleteBinding (binding : TopologyBinding) (audit : Option AuditEvent)

/-- How the store answers. -/
abbrev TopologyStore (AuditEvent : Type) := TopologyCall AuditEvent → Except KernelError Unit

abbrev Outcome := Except TopologyError Unit × LocationRegistry

def RegionDeclaration.push (az : String) (region : RegionDeclaration) : RegionDeclaration :=
  { region with
    availabilityDomains :=
      sortBy AvailabilityDomain.id (region.availabilityDomains ++ [⟨az⟩]) }

def RegionDeclaration.retain (az : String) (region : RegionDeclaration) : RegionDeclaration :=
  { region with
    availabilityDomains := region.availabilityDomains.filter (fun known => known.id ≠ az) }

namespace LocationRegistry

variable (self : LocationRegistry)

def containsRegion (id : String) : Bool :=
  self.regions.any (fun region => region.id = id)

def region (id : String) : Option RegionDeclaration :=
  self.regions.find? (fun region => region.id = id)

def containsFailureDomain (id : String) : Bool :=
  self.topology.failureDomains.any (fun domain => domain.id = id)

def failureDomain (id : String) : Option FailureDomain :=
  self.topology.failureDomains.find? (fun domain => domain.id = id)

def refuse (e : LocationError) : Outcome := (.error (.location e), self)

def replay (store : TopologyStore AuditEvent) (audit : Option AuditEvent) : Outcome :=
  match audit with
  | none => (.ok (), self)
  | some audit =>
    match store (.recordAudit audit) with
    | .error e => (.error (.store e), self)
    | .ok () => (.ok (), self)

def persist (answer : Except KernelError Unit) (apply : Outcome) : Outcome :=
  match answer with
  | .error e => (.error (.store e), self)
  | .ok () => apply

def declareRegion (store : TopologyStore AuditEvent) (id : String) (audit : Option AuditEvent) :
    Outcome :=
  match validateRegionIdStr id with
  | .error e => self.refuse e
  | .ok () =>
    if self.containsRegion id then
      self.replay store audit
    else
      self.persist (store (.insertRegion id audit))
        (.ok (), { self with regions := sortBy RegionDeclaration.id (self.regions ++ [⟨id, []⟩]) })

def removeRegion (store : TopologyStore AuditEvent) (id : String) (audit : Option AuditEvent) :
    Outcome :=
  match validateRegionIdStr id with
  | .error e => self.refuse e
  | .ok () =>
    if !self.containsRegion id then
      self.replay store audit
    else if (self.region id).any (fun region => !region.availabilityDomains.isEmpty) then
      self.refuse (.regionHasAvailabilityDomains id)
    else
      self.persist (store (.deleteRegion id audit))
        (.ok (), { self with regions := self.regions.filter (fun region => region.id ≠ id) })

def declareAvailabilityDomain
    (store : TopologyStore AuditEvent) (regionId azId : String) (audit : Option AuditEvent) :
    Outcome :=
  match validateRegionIdStr regionId with
  | .error e => self.refuse e
  | .ok () =>
    match validateAzIdStr azId with
    | .error e => self.refuse e
    | .ok () =>
      if !self.containsRegion regionId then
        self.refuse (.unknownTopologyRegion regionId)
      else
        match
          self.regions.find? (fun region =>
            region.availabilityDomains.any (fun az => az.id = azId)) with
        | some region =>
          if region.id = regionId then
            self.replay store audit
          else
            self.refuse (.ambiguousAvailabilityDomain azId)
        | none =>
          self.persist (store (.insertAvailabilityDomain regionId azId audit))
            (.ok (),
              { self with
                regions :=
                  modifyFirst (fun region => region.id = regionId)
                    (RegionDeclaration.push azId) self.regions })

def removeAvailabilityDomain
    (store : TopologyStore AuditEvent) (azId : String) (audit : Option AuditEvent) :
    Outcome :=
  match validateAzIdStr azId with
  | .error e => self.refuse e
  | .ok () =>
    if !knowsAvailabilityDomain self.regions azId then
      self.replay store audit
    else if self.topology.failureDomains.any (fun domain => domain.availabilityDomain = azId) then
      self.refuse (.availabilityDomainHasFailureDomains azId)
    else
      self.persist (store (.deleteAvailabilityDomain azId audit))
        (.ok (), { self with regions := self.regions.map (RegionDeclaration.retain azId) })

/-- The read-locked part of `create_failure_domain`. -/
def admitFailureDomain (domain : FailureDomain) : Except LocationError Unit := do
  validateFailureDomainId domain.id
  if self.containsFailureDomain domain.id then
    .error (.duplicateFailureDomain domain.id)
  else
    validateFailureDomainStructure domain (lookupDomain self.topology.failureDomains)
      (knowsAvailabilityDomain self.regions)

def createFailureDomain
    (store : TopologyStore AuditEvent) (domain : FailureDomain) (audit : Option AuditEvent) :
    Outcome :=
  match self.admitFailureDomain domain with
  | .error e => self.refuse e
  | .ok () =>
    -- the registry owns generation identity
    let domain := { domain with generation := 1 }
    self.persist (store (.insertFailureDomain domain audit))
      (.ok (),
        if self.containsFailureDomain domain.id then
          self
        else
          { self with
            topology :=
              { self.topology with
                failureDomains :=
                  sortBy FailureDomain.id (self.topology.failureDomains ++ [domain]) } })

/-- The read-locked part of `update_failure_domain`. -/
def admitUpdate (id name : String) (metadata : Metadata) (expectedGeneration : UInt64) :
    Except LocationError FailureDomain :=
  match self.failureDomain id with
  | none => .error (.unknownFailureDomain id)
  | some current =>
    if current.generation ≠ expectedGeneration then
      .error (.staleFailureDomainGeneration id expectedGeneration current.generation)
    else do
      validateFailureDomainName name
      validateMetadata metadata
      pure
        { id := current.id
          className := current.className
          name := name
          availabilityDomain := current.availabilityDomain
          parent := current.parent
          generation := expectedGeneration + 1
          metadata := metadata }

def updateFailureDomain (store : TopologyStore AuditEvent) (id name : String)
    (metadata : Metadata) (expectedGeneration : UInt64) (audit : Option AuditEvent) :
    Outcome :=
  match self.admitUpdate id name metadata expectedGeneration with
  | .error e => self.refuse e
  | .ok updated =>
    self.persist (store (.updateFailureDomain updated expectedGeneration audit))
      (match self.failureDomain id with
      | none => self.refuse (.unknownFailureDomain id)
      | some slot =>
        if slot.generation = expectedGeneration then
          (.ok (),
            { self with
              topology :=
                { self.topology with
                  failureDomains :=
                    modifyFirst (fun domain => domain.id = id) (fun _ => updated)
                      self.topology.failureDomains } })
        else
          self.refuse (.staleFailureDomainGeneration id expectedGeneration slot.generation))

/-- The read-locked part of `delete_failure_domain`. -/
def admitDeletion (id : String) (expectedGeneration : UInt64) : Except LocationError Unit :=
  match self.failureDomain id with
  | none => .error (.unknownFailureDomain id)
  | some current =>
    if current.generation ≠ expectedGeneration then
      .error (.staleFailureDomainGeneration id expectedGeneration current.generation)
    else if self.topology.failureDomains.any (fun domain => domain.parent = some id) then
      .error (.failureDomainHasChildren id)
    else if self.topology.bindings.any (fun binding => binding.failureDomain = id) then
      .error (.failureDomainHasBindings id)
    else
      .ok ()

def deleteFailureDomain (store : TopologyStore AuditEvent) (id : String)
    (expectedGeneration : UInt64) (audit : Option AuditEvent) :
    Outcome :=
  match self.admitDeletion id expectedGeneration with
  | .error e => self.refuse e
  | .ok () =>
    self.persist (store (.deleteFailureDomain id expectedGeneration audit))
      (match self.failureDomain id with
      | none => self.refuse (.unknownFailureDomain id)
      | some current =>
        if current.generation = expectedGeneration then
          (.ok (),
            { self with
              topology :=
                { self.topology with
                  failureDomains :=
                    self.topology.failureDomains.filter (fun domain => domain.id ≠ id) } })
        else
          self.refuse (.staleFailureDomainGeneration id expectedGeneration current.generation))

def bind
    (store : TopologyStore AuditEvent) (binding : TopologyBinding) (audit : Option AuditEvent) :
    Outcome :=
  if !self.containsFailureDomain binding.failureDomain then
    self.refuse (.unknownFailureDomain binding.failureDomain)
  else if !validLocationId binding.target.id then
    self.refuse (.invalidBindingTargetId binding.target.id)
  else if binding ∈ self.topology.bindings then
    self.replay store audit
  else
    self.persist (store (.insertBinding binding audit))
      (.ok (),
        if binding ∈ self.topology.bindings then
          self
        else
          { self with
            topology :=
              { self.topology with
                bindings := sortBy bindingKey (self.topology.bindings ++ [binding]) } })

def unbind
    (store : TopologyStore AuditEvent) (binding : TopologyBinding) (audit : Option AuditEvent) :
    Outcome :=
  if binding ∉ self.topology.bindings then
    self.replay store audit
  else
    self.persist (store (.deleteBinding binding audit))
      (.ok (),
        { self with
          topology :=
            { self.topology with
              bindings := self.topology.bindings.filter (fun known => known ≠ binding) } })

end LocationRegistry

end Location
end O3k
