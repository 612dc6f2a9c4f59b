import O3k.Planning.PolicyGraph

/-!
# The flat network: its records

What the ownership manifest and the DHCP service keep, the links of the kernel,
and the checks of names and addresses.
-/

namespace O3k
namespace FlatNetwork

open Relational Network Fabric Execution

abbrev FlatPlan : Type := Planning.Plan

structure GatewaySpec where
  address : Ipv4Addr
  prefixLen : Nat
  deriving DecidableEq

/-- `interface_identity`: the index of a link and its address. -/
abbrev LinkIdentity : Type := Nat × String

structure BridgeOwnership where
  name : String
  uplink : Option String
  createdByO3k : Bool
  identity : Option LinkIdentity
  gateway : Option GatewaySpec
  deriving DecidableEq

structure TapOwnership where
  interface : String
  instanceId : String
  portId : String
  mac : String
  bridge : String
  createdByO3k : Bool
  deriving DecidableEq

/-- The taps are a map from the names of interfaces. -/
structure NetworkOwnershipManifest where
  bridge : Option BridgeOwnership
  taps : Table (Prod.fst : String × TapOwnership → String)

def NetworkOwnershipManifest.tap? (m : NetworkOwnershipManifest) (interface : String) :
    Option TapOwnership :=
  (m.taps.get? interface).map (·.2)

structure HostNetworkConfig where
  bridgeName : String
  uplink : Option String
  deriving DecidableEq

structure TapSpec where
  instanceId : String
  portId : String
  mac : String
  deriving DecidableEq

inductive LinkKind
  | bridge
  | tap
  | other
  deriving DecidableEq

/-- What `ip -d link show` says of a link, and its addresses. -/
structure Link where
  kind : LinkKind
  index : Nat
  mac : String
  master : Option String
  up : Bool
  addresses : List GatewaySpec
  deriving DecidableEq

/-- The subnet is kept as the text of its prefix. -/
structure DhcpConfig where
  subnet : Ipv4Prefix
  gateway : Ipv4Addr
  dns : List Ipv4Addr
  interface : String
  leaseSeconds : Nat
  mtu : Option Nat
  deriving DecidableEq

structure Binding where
  portId : String
  mac : String
  address : Ipv4Addr
  deriving DecidableEq

structure DhcpState where
  config : Option DhcpConfig
  bindings : Table Binding.portId

/-- The dnsmasq process that is owned, with what it has been started with. -/
structure DnsmasqSupervisor where
  process : Option DhcpState

inductive HostNetworkError
  | invalidConfiguration
  | commandFailed
  | invalidName
  | invalidMac
  | foreignInterface
  | rollbackFailed
  | corruptOwnership
  | ownershipStorage
  | ownershipConflict
  deriving DecidableEq

def HostNetworkError.display : HostNetworkError → String
  | .invalidConfiguration => "host network configuration is invalid"
  | .commandFailed => "host network operation failed"
  | .invalidName => "host network interface name is invalid"
  | .invalidMac => "host network MAC address is invalid"
  | .foreignInterface => "existing TAP interface is not owned by the requested O3K network"
  | .rollbackFailed => "host network rollback failed after an operation error"
  | .corruptOwnership => "host network ownership metadata is corrupt"
  | .ownershipStorage => "host network ownership metadata could not be persisted"
  | .ownershipConflict => "host network ownership metadata conflicts with the requested resource"

inductive DhcpError
  | invalidConfig
  | conflict
  | storage
  | corruptState
  | commandFailed
  deriving DecidableEq

def DhcpError.display : DhcpError → String
  | .invalidConfig => "DHCP configuration is invalid"
  | .conflict => "DHCP binding conflicts with an existing address or MAC"
  | .storage => "DHCP storage failed"
  | .corruptState => "DHCP state is corrupt"
  | .commandFailed => "dnsmasq command failed"

inductive FlatNetworkError
  | host (e : HostNetworkError)
  | dhcp (e : DhcpError)
  | unsupportedIntent
  | missingRealm
  | missingEndpoint
  deriving DecidableEq

def FlatNetworkError.display : FlatNetworkError → String
  | .host e => "flat network host realization failed: " ++ e.display
  | .dhcp e => "flat network DHCP realization failed: " ++ e.display
  | .unsupportedIntent => "flat network plan contains an unsupported routed intent"
  | .missingRealm => "flat network plan has no address realm"
  | .missingEndpoint => "flat network observation found an unresolved owned endpoint"

/-- SHA-256 of a text. -/
structure HostLibrary where
  sha256 : String → List UInt8
  sha256_length : ∀ s, (sha256 s).length = 32

/-- `char::is_control`. -/
def isControl (c : Char) : Bool := c.toNat < 32 || (127 ≤ c.toNat && c.toNat < 160)

/-- `validate_ifname`. -/
def isIfname (name : String) : Bool :=
  !name.isEmpty && name.utf8ByteSize ≤ 15 &&
    name.toList.all (fun c => c.isAlphanum || c = '_' || c = '-')

/-- `validate_reference`. -/
def isReference (value : String) : Bool :=
  !value.isEmpty && value.utf8ByteSize ≤ 128 &&
    !value.toList.any (fun c => isWhitespace c || isControl c || c = '/' || c = '\\')

/-- `n` parts of two hexadecimal digits after the first, with colons between. -/
def isMacText : Nat → List Char → Bool
  | 0, [a, b] => isHexDigit a && isHexDigit b
  | n + 1, a :: b :: c :: rest => isHexDigit a && isHexDigit b && c = ':' && isMacText n rest
  | _, _ => false

/-- `validate_mac`, and `valid_mac` of the DHCP service. -/
def isMac (mac : String) : Bool := isMacText 5 mac.toList

def eqIgnoreAsciiCase (a b : String) : Bool := a.toList.map Char.toLower = b.toList.map Char.toLower

def toAsciiLowercase (s : String) : String := String.ofList (s.toList.map Char.toLower)

/-- `tap_name` of a port that is not blank. -/
def tapName (lib : HostLibrary) (portId : String) : String :=
  String.ofList ("o3ktap-".toList ++ ((lib.sha256 portId).take 4).flatMap (hexByte ·.toNat))

/-- `partial_tap_name` and `partial_bridge_name`, with the random digits. -/
def partialTapName (suffix : String) : String := "o3ktmp-" ++ suffix

def partialBridgeName (suffix : String) : String := "o3kbm-" ++ suffix

def deterministicBridgeMac (lib : HostLibrary) (bridgeName : String) : String :=
  macText (2 :: ((lib.sha256 bridgeName).take 5).map (·.toNat))

/-- `subnet_bounds` and `valid_host`. -/
def isSubnetHost (subnet : Ipv4Prefix) (address : Ipv4Addr) : Bool :=
  subnet.prefixLen ≤ 30 &&
    (subnet.network &&& Ipv4Prefix.mask subnet.prefixLen) < address &&
    address < ((subnet.network &&& Ipv4Prefix.mask subnet.prefixLen) |||
      ~~~ Ipv4Prefix.mask subnet.prefixLen)

/-- `validate_config`. -/
def DhcpConfig.isValid (config : DhcpConfig) : Bool :=
  isIfname config.interface && config.leaseSeconds ≠ 0 && config.mtu ≠ some 0 &&
    isSubnetHost config.subnet config.gateway &&
    config.dns.all (isSubnetHost config.subnet)

/-- The links of the kernel, the manifest, and the DHCP service with its
process. -/
structure FlatHost where
  links : String → Option Link
  nextIndex : Nat
  manifest : NetworkOwnershipManifest
  dhcp : DhcpState
  supervisor : Option DnsmasqSupervisor

/-- A DHCP process is running. -/
def FlatHost.Serving (h : FlatHost) : Prop :=
  ∃ supervisor ∈ h.supervisor, supervisor.process.isSome = true

/-- `interface_output_is_owned`. -/
def Link.isOwned (link : Link) (mac bridge : String) : Bool :=
  link.kind = .tap && eqIgnoreAsciiCase link.mac mac &&
    link.master.any (eqIgnoreAsciiCase · bridge)

/-- `interface_identity`. -/
def Link.identity (link : Link) : LinkIdentity := (link.index, toAsciiLowercase link.mac)

def TapSpec.record (spec : TapSpec) (config : HostNetworkConfig) (interface : String) :
    TapOwnership :=
  { interface := interface
    instanceId := spec.instanceId
    portId := spec.portId
    mac := toAsciiLowercase spec.mac
    bridge := config.bridgeName
    createdByO3k := true }

/-- The instance, the port and the address of a record are those specified. -/
def TapOwnership.isOf (record : TapOwnership) (spec : TapSpec) : Bool :=
  record.instanceId = spec.instanceId && record.portId = spec.portId &&
    eqIgnoreAsciiCase record.mac spec.mac

/-- The rows of `validate_manifest` in their order, with the ports seen. -/
def validateTaps (config : HostNetworkConfig) :
    List (String × TapOwnership) → List String → Except HostNetworkError Unit
  | [], _ => .ok ()
  | (interface, tap) :: rest, ports =>
    if ¬ (isIfname interface ∧ isIfname tap.interface ∧ isReference tap.instanceId ∧
        isReference tap.portId) then
      .error .invalidName
    else if ¬ isMac tap.mac then
      .error .invalidMac
    else if interface ≠ tap.interface ∨ tap.bridge ≠ config.bridgeName ∨ ¬ tap.createdByO3k ∨
        tap.portId ∈ ports then
      .error .ownershipConflict
    else
      validateTaps config rest (tap.portId :: ports)

/-- The bridge of `validate_manifest`. -/
def validateBridge (config : HostNetworkConfig) : Option BridgeOwnership → Except HostNetworkError Unit
  | none => .ok ()
  | some bridge =>
    if bridge.name ≠ config.bridgeName ∨ bridge.uplink ≠ config.uplink then
      .error .ownershipConflict
    else if bridge.gateway.any (fun gateway => 30 < gateway.prefixLen) then
      .error .invalidConfiguration
    else
      .ok ()

def validateManifest (config : HostNetworkConfig) (manifest : NetworkOwnershipManifest) :
    Except HostNetworkError Unit := do
  validateBridge config manifest.bridge
  validateTaps config manifest.taps.rows []

end FlatNetwork
end O3k
