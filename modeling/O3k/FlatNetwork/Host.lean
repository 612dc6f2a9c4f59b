import O3k.FlatNetwork.Records
import O3k.Semantics.Endings

/-!
# The calls of a flat node

What the realizer asks of its host: the commands of the kernel, the updates of
the ownership manifest, the DHCP service and its process.  Whether a command, a
write or a process succeeds is an answer; what it does is not.
-/

namespace O3k
namespace FlatNetwork

open Relational Network Fabric Semantics

/-- The commands that change links. -/
inductive IpCommand
  | addBridge (name : String)
  | addTap (name : String)
  | setAddress (name mac : String)
  | setMaster (name bridge : String)
  | rename (name new : String)
  | setUp (name : String)
  | setDown (name : String)
  | delete (name : String)
  | replaceAddress (address : GatewaySpec) (name : String)
  | deleteAddress (address : GatewaySpec) (name : String)
  deriving DecidableEq

/-- The updates of the manifest. -/
inductive OwnershipUpdate
  | recordBridge (identity : LinkIdentity)
  | setGateway (gateway : GatewaySpec)
  | clearGateway
  | clearBridge
  | recordTap (interface : String) (spec : TapSpec)
  | clearTap (interface : String) (spec : TapSpec)
  deriving DecidableEq

inductive HostCall
  | partialSuffix
  | settled
  | linkExists (name : String)
  | showLink (name : String)
  | ip (command : IpCommand)
  | ownership
  | updateOwnership (update : OwnershipUpdate)
  | refreshOwnership
  | configure (config : DhcpConfig)
  | upsertBinding (binding : Binding)
  | removeBinding (portId : String)
  | binding (portId : String)
  | supervised
  | writeConfig
  | launchProcess
  | stopProcess
  | dropSupervisor
  deriving DecidableEq

abbrev HostReply : HostCall → Type
  | .partialSuffix => String
  | .settled => Bool
  | .linkExists _ => Bool
  | .showLink _ => Except HostNetworkError (Option Link)
  | .ip _ => Except HostNetworkError Unit
  | .ownership => NetworkOwnershipManifest
  | .updateOwnership _ => Except HostNetworkError Unit
  | .refreshOwnership => Except HostNetworkError Unit
  | .configure _ => Except DhcpError Unit
  | .upsertBinding _ => Except DhcpError Unit
  | .removeBinding _ => Except DhcpError Unit
  | .binding _ => Option Binding
  | .supervised => Bool
  | .writeConfig => Except DhcpError Unit
  | .launchProcess => Except DhcpError Unit
  | .stopProcess => Except DhcpError Unit
  | .dropSupervisor => Unit

/-- What the environment decides: whether the command, the file or the process
works, whether the address of a TAP is stable, the address that the kernel picks
for a new link, and random digits. -/
structure HostAnswer where
  works : Bool
  settled : Bool
  mac : String
  suffix : String
  deriving DecidableEq

abbrev Links : Type := String → Option Link

namespace Links

variable (links : Links)

def modify (name : String) (f : Link → Link) : Option Links :=
  (links name).map (fun link => Function.update links name (some (f link)))

def add (name : String) (link : Link) : Option Links :=
  if (links name).isSome then none else some (Function.update links name (some link))

/-- The links whose master is the name have another. -/
def withMaster (name : String) (master : Option String) : Links :=
  fun other => (links other).map (fun link =>
    if link.master = some name then { link with master := master } else link)

/-- Of a link that is there; what was enslaved to a bridge no longer is. -/
def delete (name : String) : Option Links :=
  (links name).map (fun link =>
    Function.update (if link.kind = .bridge then withMaster links name none else links) name none)

/-- What was enslaved to a bridge is so under its new name. -/
def rename (name new : String) : Option Links :=
  match links name with
  | none => none
  | some link =>
    if (links new).isSome then
      none
    else
      let renamed := Function.update (Function.update links name none) new (some link)
      some (if link.kind = .bridge then withMaster renamed name (some new) else renamed)

end Links

/-- What a command makes of the links, if the kernel does not refuse it. -/
def IpCommand.apply (links : Links) (index : Nat) (mac : String) : IpCommand → Option Links
  | .addBridge name => links.add name ⟨.bridge, index, mac, none, false, []⟩
  | .addTap name => links.add name ⟨.tap, index, mac, none, false, []⟩
  | .setAddress name mac => links.modify name (fun link => { link with mac := mac })
  | .setMaster name bridge =>
    if (links bridge).isSome then
      links.modify name (fun link => { link with master := some bridge })
    else
      none
  | .rename name new => links.rename name new
  | .setUp name => links.modify name (fun link => { link with up := true })
  | .setDown name => links.modify name (fun link => { link with up := false })
  | .delete name => links.delete name
  | .replaceAddress address name =>
    links.modify name (fun link =>
      { link with addresses := address :: link.addresses.filter (· ≠ address) })
  | .deleteAddress address name =>
    match links name with
    | none => none
    | some link =>
      if address ∈ link.addresses then
        links.modify name (fun link =>
          { link with addresses := link.addresses.filter (· ≠ address) })
      else
        none

section Ownership

variable (config : HostNetworkConfig)

def OwnershipUpdate.apply (m : NetworkOwnershipManifest) :
    OwnershipUpdate → Except HostNetworkError NetworkOwnershipManifest
  | .recordBridge identity =>
    if m.bridge.any (fun b => b.name ≠ config.bridgeName || b.uplink ≠ config.uplink) then
      .error .ownershipConflict
    else
      .ok { m with
        bridge := some
          { name := config.bridgeName
            uplink := config.uplink
            createdByO3k := true
            identity := some identity
            gateway := m.bridge.bind (·.gateway) } }
  | .setGateway gateway =>
    match m.bridge with
    | none => .error .foreignInterface
    | some bridge =>
      if bridge.name ≠ config.bridgeName ∨ ¬ bridge.createdByO3k then
        .error .foreignInterface
      else
        .ok { m with bridge := some { bridge with gateway := some gateway } }
  | .clearGateway =>
    .ok { m with bridge := m.bridge.map (fun bridge => { bridge with gateway := none }) }
  | .clearBridge =>
    if m.taps.rows.isEmpty then
      .ok { m with bridge := none }
    else
      .error .ownershipConflict
  | .recordTap interface spec =>
    if (m.tap? interface).any (· ≠ spec.record config interface) then
      .error .ownershipConflict
    else
      .ok { m with taps := m.taps.put (interface, spec.record config interface) }
  | .clearTap interface spec =>
    match m.tap? interface with
    | none => .ok m
    | some record =>
      if record.isOf spec then
        .ok { m with taps := m.taps.deleteWhere (fun row => row.1 = interface) }
      else
        .error .foreignInterface

end Ownership

namespace DhcpState

variable (d : DhcpState)

def configure (config : DhcpConfig) : Except DhcpError DhcpState :=
  if config.isValid ∧
      d.bindings.rows.all (fun binding =>
        isSubnetHost config.subnet binding.address && binding.address ≠ config.gateway) then
    .ok { d with config := some config }
  else
    .error .invalidConfig

def upsertBinding (binding : Binding) : Except DhcpError DhcpState :=
  match d.config with
  | none => .error .invalidConfig
  | some config =>
    if binding.portId.isEmpty ∨ ¬ isMac binding.mac ∨
        ¬ isSubnetHost config.subnet binding.address ∨ binding.address = config.gateway then
      .error .invalidConfig
    else if d.bindings.rows.any (fun existing =>
        existing.portId ≠ binding.portId &&
          (existing.address = binding.address || existing.mac = binding.mac)) then
      .error .conflict
    else
      .ok { d with bindings := d.bindings.put binding }

def removeBinding (portId : String) : DhcpState :=
  { d with bindings := d.bindings.deleteWhere (fun binding => binding.portId = portId) }

/-- The configuration can be written. -/
def isRenderable : Bool := d.config.any DhcpConfig.isValid

end DhcpState

section Exec

variable (config : HostNetworkConfig)

def execIp (command : IpCommand) (x : HostAnswer) (h : FlatHost) :
    Except HostNetworkError Unit × FlatHost :=
  match (if x.works then command.apply h.links h.nextIndex x.mac else none) with
  | none => (.error .commandFailed, h)
  | some links => (.ok (), { h with links := links, nextIndex := h.nextIndex + 1 })

def execUpdate (update : OwnershipUpdate) (x : HostAnswer) (h : FlatHost) :
    Except HostNetworkError Unit × FlatHost :=
  match update.apply config h.manifest with
  | .error e => (.error e, h)
  | .ok manifest =>
    if x.works then
      (.ok (), { h with manifest := manifest })
    else
      (.error .ownershipStorage, h)

/-- `persist` after a change of the service: what it keeps has changed even if
it cannot be written. -/
def persistDhcp (d : Except DhcpError DhcpState) (x : HostAnswer) (h : FlatHost) :
    Except DhcpError Unit × FlatHost :=
  match d with
  | .error e => (.error e, h)
  | .ok d => (if x.works then .ok () else .error .storage, { h with dhcp := d })

/-- A process is started under the configuration that has been written. -/
def launchDhcp (x : HostAnswer) (h : FlatHost) : Except DhcpError Unit × FlatHost :=
  if x.works then
    (.ok (), { h with supervisor := some ⟨some h.dhcp⟩ })
  else
    (.error .commandFailed, h)

def stopDhcp (x : HostAnswer) (h : FlatHost) : Except DhcpError Unit × FlatHost :=
  if x.works then
    (.ok (), { h with supervisor := h.supervisor.map (fun _ => ⟨none⟩) })
  else
    (.error .commandFailed, h)

/-- `write_config`. -/
def writeDhcpConfig (d : DhcpState) (x : HostAnswer) : Except DhcpError Unit :=
  if ¬ d.isRenderable then
    .error .invalidConfig
  else if x.works then
    .ok ()
  else
    .error .storage

def execHost : (c : HostCall) → HostAnswer → FlatHost → HostReply c × FlatHost
  | .partialSuffix, x, h => (x.suffix, h)
  | .settled, x, h => (x.settled, h)
  | .linkExists name, x, h => (x.works && (h.links name).isSome, h)
  | .showLink name, x, h => (if x.works then .ok (h.links name) else .error .commandFailed, h)
  | .ip command, x, h => execIp command x h
  | .ownership, _, h => (h.manifest, h)
  | .updateOwnership update, x, h => execUpdate config update x h
  | .refreshOwnership, x, h =>
    (if x.works then validateManifest config h.manifest else .error .ownershipStorage, h)
  | .configure c, x, h => persistDhcp (h.dhcp.configure c) x h
  | .upsertBinding binding, x, h => persistDhcp (h.dhcp.upsertBinding binding) x h
  | .removeBinding portId, x, h => persistDhcp (.ok (h.dhcp.removeBinding portId)) x h
  | .binding portId, _, h => (h.dhcp.bindings.get? portId, h)
  | .supervised, _, h => (h.supervisor.isSome, h)
  | .writeConfig, x, h => (writeDhcpConfig h.dhcp x, h)
  | .launchProcess, x, h => launchDhcp x h
  | .stopProcess, x, h => stopDhcp x h
  | .dropSupervisor, _, h => ((), { h with supervisor := none })

end Exec

end FlatNetwork
end O3k
