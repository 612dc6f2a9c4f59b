import O3k.FlatNetwork.Host

/-!
# The manager of the host network

The methods of `HostNetworkManager` that the flat realizer uses, as programs
over the calls of the node.  The manager has an ownership root.
-/

namespace O3k
namespace FlatNetwork

open Relational Network Fabric Semantics
open Planning (NetworkPlanIntent)

abbrev HostM (α : Type) : Type := ExceptT HostNetworkError (Program HostCall HostReply) α

namespace HostM

def ask (c : HostCall) : HostM (HostReply c) := ExceptT.lift (Program.perform c)

/-- `?`. -/
def given {α : Type} (x : Except HostNetworkError α) : HostM α := ExceptT.mk (pure x)

/-- The step, and what its error becomes when it has been undone. -/
def orRollback {α : Type} (p : HostM α) (undo : HostNetworkError → HostM HostNetworkError) :
    HostM α := do
  match ← (ExceptT.lift p.run : HostM (Except HostNetworkError α)) with
  | .ok a => pure a
  | .error e => do
    let e ← undo e
    throw e

def runIp (command : IpCommand) : HostM Unit := do
  given (← ask (.ip command))

def update (u : OwnershipUpdate) : HostM Unit := do
  given (← ask (.updateOwnership u))

/-- `?` of a condition. -/
def require (condition : Bool) (e : HostNetworkError) : HostM Unit :=
  if condition then pure () else throw e

end HostM

open HostM

section Manager

variable (lib : HostLibrary) (config : HostNetworkConfig)

variable (m : NetworkOwnershipManifest)

/-- `bridge_is_owned_output`. -/
def bridgeIsOwned (link : Link) : Bool :=
  m.bridge.any (fun record =>
    record.name = config.bridgeName && record.createdByO3k &&
      record.identity = some link.identity)

/-- The bridge is a link of the kernel, and the one of the manifest. -/
def bridgeIsLive : Option Link → Bool
  | none => false
  | some link => link.kind = .bridge && bridgeIsOwned config m link

def bridgeIsOwnedLive : HostM Bool := do
  let shown ← given (← ask (.showLink config.bridgeName))
  let m ← ask .ownership
  pure (bridgeIsLive config m shown)

def rollbackBridge (original : HostNetworkError) : HostM HostNetworkError := do
  let recorded ← ask .ownership
  if recorded.bridge.isNone then
    pure .rollbackFailed
  else do
    let shown ← ask (.showLink config.bridgeName)
    let m ← ask .ownership
    if shown.toOption.any (bridgeIsLive config m) then do
      let deleted ← ask (.ip (.delete config.bridgeName))
      match deleted with
      | .error _ => pure .rollbackFailed
      | .ok () => do
        let cleared ← ask (.updateOwnership .clearBridge)
        pure (if cleared.toOption.isSome then original else .rollbackFailed)
    else
      pure .rollbackFailed

/-- What the rollback of a provisional link sees. -/
def isProvisionalBridge : Option Link → Bool
  | none => false
  | some link =>
    link.kind = .bridge &&
      eqIgnoreAsciiCase link.mac (deterministicBridgeMac lib config.bridgeName)

def rollbackProvisionalBridge (temp : String) (original : HostNetworkError) :
    HostM HostNetworkError := do
  let shown ← ask (.showLink temp)
  if shown.toOption.any (isProvisionalBridge lib config) then do
    let deleted ← ask (.ip (.delete temp))
    pure (if deleted.toOption.isSome then original else .rollbackFailed)
  else
    pure .rollbackFailed

/-- The uplink of a bridge that exists is attached to it. -/
def checkUplink : HostM Unit :=
  match config.uplink with
  | none => pure ()
  | some uplink => do
    match ← given (← ask (.showLink uplink)) with
    | none => throw .commandFailed
    | some link =>
      require (link.up && link.master.any (eqIgnoreAsciiCase · config.bridgeName))
        .foreignInterface

def reuseBridge : HostM Bool := do
  match ← given (← ask (.showLink config.bridgeName)) with
  | none => throw .foreignInterface
  | some link => do
    let m ← ask .ownership
    require (link.kind = .bridge) .foreignInterface
    require (bridgeIsOwned config m link) .foreignInterface
    runIp (.setUp config.bridgeName)
    checkUplink config
    pure false

/-- The identity of the bridge that has been made. -/
def provisionalIdentity (temp : String) : HostM LinkIdentity := do
  match (← ask (.showLink temp)).toOption.join with
  | none => throw .foreignInterface
  | some link => do
    require (link.kind = .bridge) .foreignInterface
    pure link.identity

def attachUplink : HostM Unit :=
  match config.uplink with
  | none => pure ()
  | some uplink => runIp (.setMaster uplink config.bridgeName)

/-- The bridge is made under a provisional name and renamed when its ownership
is durable. -/
def createBridge : HostM Bool := do
  let suffix ← ask .partialSuffix
  let temp := partialBridgeName suffix
  runIp (.addBridge temp)
  orRollback
    (do
      runIp (.setAddress temp (deterministicBridgeMac lib config.bridgeName))
      runIp (.setUp temp))
    (rollbackProvisionalBridge lib config temp)
  let identity ← orRollback (provisionalIdentity temp) (rollbackProvisionalBridge lib config temp)
  orRollback (update (.recordBridge identity)) (rollbackProvisionalBridge lib config temp)
  orRollback
    (do
      runIp (.setDown temp)
      runIp (.rename temp config.bridgeName))
    (rollbackProvisionalBridge lib config temp)
  orRollback
    (do
      runIp (.setUp config.bridgeName)
      attachUplink config)
    (rollbackBridge config)
  pure true

/-- Whether the bridge has been made. -/
def ensureBridgeWithOwnership : HostM Bool := do
  if ← ask (.linkExists config.bridgeName) then
    reuseBridge config
  else
    createBridge lib config

def ensureBridge : HostM Unit := do
  let _ ← ensureBridgeWithOwnership lib config
  pure ()

/-- The bridge is undone if it has been made in the same call. -/
def rollbackCreatedBridge (created : Bool) (e : HostNetworkError) : HostM HostNetworkError :=
  if created then rollbackBridge config e else pure e

def recordedGateway : Option GatewaySpec := m.bridge.bind (·.gateway)

/-- The address goes, and the bridge with it if it has been made. -/
def rollbackGateway (gateway : GatewaySpec) (created : Bool) (e : HostNetworkError) :
    HostM HostNetworkError := do
  let deleted ← ask (.ip (.deleteAddress gateway config.bridgeName))
  match deleted with
  | .error _ => pure .rollbackFailed
  | .ok () => rollbackCreatedBridge config created e

/-- A bridge that has not been made here is the one of the manifest. -/
def checkOwnedUnlessCreated (created : Bool) : HostM Unit :=
  if created then
    pure ()
  else do
    let owned ← bridgeIsOwnedLive config
    require owned .foreignInterface

def ensureGateway (gateway : GatewaySpec) : HostM Unit := do
  require (gateway.prefixLen ≤ 30) .invalidConfiguration
  let m ← ask .ownership
  require ((recordedGateway m).all (· = gateway)) .ownershipConflict
  let created ← ensureBridgeWithOwnership lib config
  checkOwnedUnlessCreated config created
  orRollback (runIp (.replaceAddress gateway config.bridgeName))
    (rollbackCreatedBridge config created)
  orRollback (update (.setGateway gateway)) (rollbackGateway config gateway created)

/-- `remove_gateway`, of the gateway that is recorded. -/
def removeGateway (gateway : GatewaySpec) : HostM Unit := do
  require (gateway.prefixLen ≤ 30) .invalidConfiguration
  let m ← ask .ownership
  match recordedGateway m with
  | none => pure ()
  | some recorded => do
    require (recorded = gateway) .ownershipConflict
    let owned ← bridgeIsOwnedLive config
    require owned .foreignInterface
    runIp (.deleteAddress gateway config.bridgeName)
    update .clearGateway

def deleteBridgeLink : HostM Unit := do
  if ← ask (.linkExists config.bridgeName) then do
    let shown ← given (← ask (.showLink config.bridgeName))
    let m ← ask .ownership
    require (bridgeIsLive config m shown) .foreignInterface
    runIp (.delete config.bridgeName)
  else
    pure ()

def deleteBridge : HostM Unit := do
  let m ← ask .ownership
  match m.bridge with
  | none => throw .foreignInterface
  | some bridge => do
    require (bridge.createdByO3k && bridge.gateway.isNone && m.taps.rows.isEmpty)
      .ownershipConflict
    deleteBridgeLink config
    update .clearBridge

def removeRecordedGateway : Option GatewaySpec → HostM Unit
  | none => pure ()
  | some gateway => removeGateway config gateway

def cleanupIfUnused : HostM Unit := do
  let m ← ask .ownership
  if ¬ m.taps.rows.isEmpty then
    pure ()
  else do
    removeRecordedGateway config (recordedGateway m)
    let m ← ask .ownership
    if m.bridge.isSome then
      deleteBridge config
    else
      pure ()

/-- `validate_recorded_tap`. -/
def recordIsOf (interface : String) (spec : TapSpec) : Bool :=
  (m.tap? interface).any (fun record =>
    record.isOf spec && record.bridge = config.bridgeName && record.createdByO3k)

def validateRecordedTap (interface : String) (spec : TapSpec) : HostM Unit := do
  let m ← ask .ownership
  require (recordIsOf config m interface spec) .foreignInterface

def validateSpec (spec : TapSpec) : HostM Unit := do
  require (isReference spec.instanceId) .invalidName
  require (isReference spec.portId) .invalidName
  require (isMac spec.mac) .invalidMac

/-- `tap_name`. -/
def nameOfTap (portId : String) : HostM String := do
  require (¬ isBlank portId) .invalidName
  pure (tapName lib portId)

/-- `interface_is_owned_with`. -/
def interfaceIsOwned (name mac : String) : HostM Bool := do
  match ← given (← ask (.showLink name)) with
  | none => throw .commandFailed
  | some link => pure (link.isOwned mac config.bridgeName)

/-- The loop of `stabilize_tap_address`: it polls until it times out. -/
def stabilizeTapAddress (name mac : String) : Nat → HostM Unit
  | 0 => throw .commandFailed
  | polls + 1 => do
    match ← given (← ask (.showLink name)) with
    | none => throw .commandFailed
    | some link =>
      if eqIgnoreAsciiCase link.mac mac then do
        if ← ask .settled then
          pure ()
        else
          stabilizeTapAddress name mac polls
      else do
        runIp (.setAddress name mac)
        stabilizeTapAddress name mac polls

/-- The polls of five seconds, a tenth of a second apart. -/
def stabilizePolls : Nat := 50

def rollbackTapAndBridge (name mac : String) (created : Bool) (original : HostNetworkError) :
    HostM HostNetworkError := do
  let shown ← ask (.showLink name)
  if shown.toOption.join.any (fun link => link.isOwned mac config.bridgeName) then do
    let deleted ← ask (.ip (.delete name))
    match deleted with
    | .error _ => pure .rollbackFailed
    | .ok () => rollbackCreatedBridge config created original
  else
    pure .rollbackFailed

def rollbackRecordedTap
    (linkName interface : String) (spec : TapSpec) (created : Bool) (original : HostNetworkError) :
    HostM HostNetworkError := do
  let e ← rollbackTapAndBridge config linkName spec.mac created original
  let cleared ← ask (.updateOwnership (.clearTap interface spec))
  pure (if cleared.toOption.isSome then e else .rollbackFailed)

def reuseTap (name : String) (spec : TapSpec) (created : Bool) : HostM (String × Bool) := do
  let owned ← interfaceIsOwned config name spec.mac
  if ¬ owned then do
    let e ← rollbackCreatedBridge config created .foreignInterface
    throw e
  else do
    validateRecordedTap config name spec
    pure (name, false)

/-- The TAP is made under a provisional name and renamed when its ownership is
durable. -/
def createTap (name : String) (spec : TapSpec) (created : Bool) : HostM (String × Bool) := do
  let suffix ← ask .partialSuffix
  let temp := partialTapName suffix
  orRollback (runIp (.addTap temp)) (rollbackCreatedBridge config created)
  orRollback
    (do
      runIp (.setAddress temp spec.mac)
      runIp (.setMaster temp config.bridgeName))
    (rollbackTapAndBridge config temp spec.mac created)
  orRollback (stabilizeTapAddress temp spec.mac stabilizePolls)
    (rollbackTapAndBridge config temp spec.mac created)
  orRollback (update (.recordTap name spec)) (rollbackTapAndBridge config temp spec.mac created)
  orRollback (runIp (.rename temp name)) (rollbackRecordedTap config temp name spec created)
  orRollback (runIp (.setUp name)) (rollbackRecordedTap config name name spec created)
  pure (name, true)

def ensureTap (spec : TapSpec) : HostM (String × Bool) := do
  validateSpec spec
  let created ← ensureBridgeWithOwnership lib config
  let name ← nameOfTap lib spec.portId
  if ← ask (.linkExists name) then
    reuseTap config name spec created
  else
    createTap config name spec created

def deleteTapLink (name : String) (spec : TapSpec) : HostM Unit := do
  if ← ask (.linkExists name) then do
    let owned ← interfaceIsOwned config name spec.mac
    require owned .foreignInterface
    validateRecordedTap config name spec
    runIp (.delete name)
  else
    pure ()

def deleteTap (spec : TapSpec) : HostM Unit := do
  validateSpec spec
  let name ← nameOfTap lib spec.portId
  deleteTapLink config name spec
  update (.clearTap name spec)

def resolveOwnedTap (spec : TapSpec) : HostM String := do
  given (← ask .refreshOwnership)
  validateSpec spec
  let name ← nameOfTap lib spec.portId
  let found ← ask (.linkExists name)
  require found .commandFailed
  let owned ← interfaceIsOwned config name spec.mac
  require owned .foreignInterface
  validateRecordedTap config name spec
  pure name

end Manager

/-!
# The flat realizer

`FlatNetworkRealizer`, and the default observation of a removal.
-/

abbrev FlatM (α : Type) : Type := ExceptT FlatNetworkError (Program HostCall HostReply) α

namespace FlatM

/-- `?` on a step of the host network. -/
def hostly {α : Type} (p : HostM α) : FlatM α :=
  ExceptT.mk (p.run >>= fun r => pure (r.mapError .host))

def ask (c : HostCall) : FlatM (HostReply c) := ExceptT.lift (Program.perform c)

/-- `?` on a step of the DHCP service. -/
def dhcply {α : Type} (r : Except DhcpError α) : FlatM α := ExceptT.mk (pure (r.mapError .dhcp))

end FlatM

open FlatM

def NetworkPlanIntent.unsupported : NetworkPlanIntent → Bool
  | .route _ => true
  | .gateway _ => true
  | .egress _ => true
  | .publicAddressBinding _ => true
  | .policyDefault _ => true
  | .policy _ => true
  | _ => false

/-- The realm of the plan: the first. -/
def realmOf : List NetworkPlanIntent → Option (Ipv4Prefix × Ipv4Addr)
  | [] => none
  | .addressRealm _ addresses gateway :: _ => some (addresses, gateway)
  | _ :: rest => realmOf rest

/-- The TAP that an attachment of the plan has. -/
def tapSpec (planId endpointId : Uuid) (mac : String) : TapSpec := ⟨planId, endpointId, mac⟩

section Realizer

variable (lib : HostLibrary) (config : HostNetworkConfig)

/-- The attachments in their order. -/
def realizeEndpoints (planId : Uuid) : List NetworkPlanIntent → FlatM Unit
  | [] => pure ()
  | .endpointAttachment endpointId mac fixedIp _ :: rest => do
    let _ ← hostly (ensureTap lib config (tapSpec planId endpointId mac))
    dhcply (← ask (.upsertBinding ⟨endpointId, mac, fixedIp⟩))
    realizeEndpoints planId rest
  | _ :: rest => realizeEndpoints planId rest

/-- `start` or `reload`. -/
def serveDhcp : FlatM Unit := do
  if ← ask .supervised then do
    dhcply (← ask .writeConfig)
    dhcply (← ask .stopProcess)
    dhcply (← ask .launchProcess)
  else do
    dhcply (← ask .writeConfig)
    dhcply (← ask .launchProcess)

def dhcpConfigOf (addresses : Ipv4Prefix) (gateway : Ipv4Addr) : DhcpConfig where
  subnet := addresses
  gateway := gateway
  dns := []
  interface := config.bridgeName
  leaseSeconds := 3600
  mtu := none

def realize (plan : FlatPlan) : FlatM Unit :=
  if plan.intents.any NetworkPlanIntent.unsupported then
    throw .unsupportedIntent
  else
    match realmOf plan.intents with
    | none => throw .missingRealm
    | some (addresses, gateway) => do
      hostly (ensureBridge lib config)
      hostly (ensureGateway lib config ⟨gateway, addresses.prefixLen⟩)
      dhcply (← ask (.configure (dhcpConfigOf config addresses gateway)))
      realizeEndpoints lib config plan.planId plan.intents
      serveDhcp

/-- The attachments in their order. -/
def removeEndpoints (planId : Uuid) : List NetworkPlanIntent → FlatM Unit
  | [] => pure ()
  | .endpointAttachment endpointId mac _ _ :: rest => do
    dhcply (← ask (.removeBinding endpointId))
    hostly (deleteTap lib config (tapSpec planId endpointId mac))
    removeEndpoints planId rest
  | _ :: rest => removeEndpoints planId rest

def stopServing : FlatM Unit := do
  if ← ask .supervised then do
    dhcply (← ask .stopProcess)
    ask .dropSupervisor
  else
    pure ()

def remove (plan : FlatPlan) : FlatM Unit := do
  removeEndpoints lib config plan.planId plan.intents
  stopServing
  hostly (cleanupIfUnused config)

/-- The attachments in their order. -/
def observeEndpoints (planId : Uuid) : List NetworkPlanIntent → FlatM Bool
  | [] => pure true
  | .endpointAttachment endpointId mac _ _ :: rest => do
    let _ ← hostly (resolveOwnedTap lib config (tapSpec planId endpointId mac))
    let binding ← ask (.binding endpointId)
    if binding.isNone then
      throw .missingEndpoint
    else
      observeEndpoints planId rest
  | _ :: rest => observeEndpoints planId rest

def observe (plan : FlatPlan) : FlatM Bool := observeEndpoints lib config plan.planId plan.intents

/-- `NetworkPlanRealizer::observe_removed`. -/
def observeRemoved (plan : FlatPlan) : FlatM Bool :=
  (fun present => !present) <$> observe lib config plan

end Realizer

end FlatNetwork
end O3k
