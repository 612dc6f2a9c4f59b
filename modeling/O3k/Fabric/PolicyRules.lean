import O3k.Fabric.Records
import O3k.Semantics.FirstMatch
import Mathlib.Data.List.ReduceOption

/-!
# The packet policy of a realm as nftables rules

The rules that the Linux providers derive from policy intents: the return
traffic, the denials, the allowances, and two rules for each endpoint whose
default is to deny.  A packet is decided by the first rule that matches it.
-/

namespace O3k
namespace Fabric

open Relational Network Semantics

inductive LinuxFabricError
  | corruptState
  | foreignState
  | ownershipConflict
  | commandFailed
  | storage
  deriving DecidableEq

inductive NftVerdict
  | accept
  | drop
  deriving DecidableEq

/-- What `nft` is asked to compare. -/
inductive NftMatch
  | ctState (states : List String)
  | daddr (address : Ipv4Addr)
  | saddr (address : Ipv4Addr)
  | daddrIn (block : Ipv4Prefix)
  | saddrIn (block : Ipv4Prefix)
  | protocol (name : String) (dport : Option PortRange)
  deriving DecidableEq

structure NftRule where
  tests : List NftMatch
  verdict : NftVerdict
  comment : String
  deriving DecidableEq

/-- An IPv4 packet, with the number of its protocol. -/
structure Packet where
  source : Ipv4Addr
  destination : Ipv4Addr
  protocol : Nat
  destinationPort : Nat
  deriving DecidableEq

def protocolNumber (name : String) : Option Nat :=
  if name = "icmp" then some 1
  else if name = "tcp" then some 6
  else if name = "udp" then some 17
  else none

/-- The address is in the block: it has the leading bits of the prefix. -/
def inBlock (block : Ipv4Prefix) (address : Ipv4Addr) : Bool :=
  address &&& Ipv4Prefix.mask block.prefixLen = block.network &&& Ipv4Prefix.mask block.prefixLen

/-- A test on a packet whose connection is in the given state. -/
def NftMatch.holds (state : String) (packet : Packet) : NftMatch → Bool
  | ctState states => state ∈ states
  | daddr address => packet.destination = address
  | saddr address => packet.source = address
  | daddrIn block => inBlock block packet.destination
  | saddrIn block => inBlock block packet.source
  | protocol name dport =>
    protocolNumber name = some packet.protocol &&
      dport.all fun ports =>
        ports.start ≤ packet.destinationPort && packet.destinationPort ≤ ports.stop

def NftRule.hits (state : String) (packet : Packet) (rule : NftRule) : Bool :=
  rule.tests.all (NftMatch.holds state packet)

/-- What a chain decides: the first rule that matches, else to accept. -/
def evaluate (state : String) (packet : Packet) (rules : List NftRule) : NftVerdict :=
  chainVerdict (NftRule.hits state packet) NftRule.verdict .accept rules

def policyProtocol : NetworkProtocol → Option String
  | .any => none
  | .tcp => some "tcp"
  | .udp => some "udp"
  | .icmp => some "icmp"

def verdictOf (action : PolicyAction) : NftVerdict := if action = .allow then .accept else .drop

section Derive

-- the marker of the provider, the comment on its defaults, the address of an endpoint
variable (marker defaultComment : String)
variable (addressOf : Uuid → Option Ipv4Addr)

def establishedRule : NftRule where
  tests := [.ctState ["established", "related"]]
  verdict := .accept
  comment := marker

def endpointTest (address : Ipv4Addr) (policy : PolicyIntent) : NftMatch :=
  match policy.direction with
  | .ingress => .daddr address
  | .egress => .saddr address

/-- The test on the other address. -/
def peerTests (policy : PolicyIntent) : List NftMatch :=
  match policy.source.or policy.destination with
  | none => []
  | some block =>
    match policy.direction with
    | .ingress => [.saddrIn block]
    | .egress => [.daddrIn block]

def protocolTests (policy : PolicyIntent) : List NftMatch :=
  match policyProtocol policy.protocol with
  | none => []
  | some name => [.protocol name policy.ports]

def policyRule (address : Ipv4Addr) (index : Nat) (policy : PolicyIntent) : NftRule where
  tests := endpointTest address policy :: (peerTests policy ++ protocolTests policy)
  verdict := verdictOf policy.action
  comment := marker ++ ":" ++ toString index

/-- The order of the policies: `(action != Deny, id)`. -/
def PolicyIntent.sortKey (policy : PolicyIntent) : Bool ×ₗ Uuid :=
  toLex (decide (policy.action ≠ .deny), policy.id)

def denyRules (address : Ipv4Addr) : List NftRule :=
  [⟨[.daddr address], .drop, defaultComment⟩, ⟨[.saddr address], .drop, defaultComment⟩]

/-- What is to be done after the chain is there, in order: a rule to add, or
nothing that can be done, for want of an address. -/
def forwardSteps (policies : List PolicyIntent) (defaults : List PolicyDefaultIntent) :
    List (Option NftRule) :=
  some (establishedRule marker) ::
    (((sortBy PolicyIntent.sortKey policies).zipIdx.map fun (policy, index) =>
        (addressOf policy.endpointId).map fun address => policyRule marker address index policy) ++
      defaults.flatMap fun default =>
        match addressOf default.endpointId with
        | none => [none]
        | some address =>
          if default.unmatchedAction = .deny then (denyRules defaultComment address).map some
          else [])

end Derive

variable (plan : NamespacedRoutedFabricPlan)

def endpointAddress (endpointId : Uuid) : Option Ipv4Addr :=
  (plan.directory.location endpointId).map (·.fixedIp)

/-- What `ensure_policy` does after it has added the chain. -/
def policySteps : List (Option NftRule) :=
  forwardSteps "o3k-p11-policy" "o3k-p11-policy-default" (endpointAddress plan) plan.policies
    plan.policyDefaults

/-- The forward chain that `ensure_policy` builds. -/
def forwardChain : List NftRule := (policySteps plan).reduceOption

def policyPlanIsValid : Prop :=
  plan.policyGeneration ≠ 0 ∧
    (∀ default ∈ plan.policyDefaults,
      default.policyId ≠ nilUuid ∧ default.endpointId ≠ nilUuid ∧ default.generation ≠ 0 ∧
        default.statefulMode = .stateful ∧
        (plan.directory.location default.endpointId).isSome = true) ∧
    (plan.policyDefaults.map (·.endpointId)).Nodup ∧
    ∀ policy ∈ plan.policies,
      policy.id ≠ nilUuid ∧ policy.endpointId ≠ nilUuid ∧
        (plan.directory.location policy.endpointId).isSome = true ∧
        (∀ ports ∈ policy.ports,
          ports.start ≤ ports.stop ∧ policy.protocol ≠ .any ∧ policy.protocol ≠ .icmp) ∧
        (policy.direction = .ingress → policy.destination = none) ∧
        (policy.direction = .egress → policy.source = none)

instance (plan : NamespacedRoutedFabricPlan) : Decidable (policyPlanIsValid plan) :=
  inferInstanceAs (Decidable (_ ∧ _))

/-- `validate_policy_plan`; every check refuses in the same way. -/
def validatePolicyPlan : Except LinuxFabricError Unit :=
  if policyPlanIsValid plan then .ok () else .error .ownershipConflict

theorem validatePolicyPlan_eq_ok {plan : NamespacedRoutedFabricPlan} :
    validatePolicyPlan plan = .ok () ↔ policyPlanIsValid plan := by
  unfold validatePolicyPlan
  split_ifs with h <;> simp [h]

theorem policySteps_eq_map_some {plan : NamespacedRoutedFabricPlan} (h : policyPlanIsValid plan) :
    policySteps plan = (forwardChain plan).map some := by
  obtain ⟨_, hdefaults, _, hpolicies⟩ := h
  have hsome : ∀ step ∈ policySteps plan, step.isSome = true := by
    intro step hstep
    rcases List.mem_cons.mp hstep with rfl | hstep
    · rfl
    rcases List.mem_append.mp hstep with hstep | hstep
    · obtain ⟨⟨policy, index⟩, hmem, rfl⟩ := List.mem_map.mp hstep
      obtain ⟨_, _, hlocation, _⟩ :=
        hpolicies policy (mem_sortBy.mp (List.fst_mem_of_mem_zipIdx hmem))
      simpa [endpointAddress] using hlocation
    · obtain ⟨default, hmem, hstep⟩ := List.mem_flatMap.mp hstep
      obtain ⟨_, _, _, _, hlocation⟩ := hdefaults default hmem
      obtain ⟨entry, hentry⟩ := Option.isSome_iff_exists.mp hlocation
      simp only [endpointAddress, hentry, Option.map_some] at hstep
      split_ifs at hstep with hdeny
      · obtain ⟨rule, _, rfl⟩ := List.mem_map.mp hstep
        rfl
      · exact absurd hstep List.not_mem_nil
  unfold forwardChain
  generalize policySteps plan = steps at hsome
  induction steps with
  | nil => rfl
  | cons step rest ih =>
    obtain ⟨rule, rfl⟩ := Option.isSome_iff_exists.mp (hsome step List.mem_cons_self)
    rw [List.reduceOption_cons_of_some, List.map_cons,
      ← ih fun other hother => hsome other (List.mem_cons_of_mem _ hother)]

/-!
# Applying the policy of a realm

`LinuxFabricBackend::ensure_policy` and `remove_policy` as scripts of what the
provider remembers and stores and of its `nft` commands.
-/

/-- What the provider records of a realm, as far as its policy goes. -/
structure RealmOwnership where
  realmId : Uuid
  namespaceName : String
  policyGeneration : Nat
  policyFingerprint : String
  deriving DecidableEq

abbrev ProviderState := Table RealmOwnership.realmId

/-- A table of `nft`: its comment, and the rules of its forward chain once
there is one. -/
structure NftTable where
  comment : String
  chain : Option (List NftRule)
  deriving DecidableEq

/-- The listing of the table contains the text. -/
def NftTable.mentions (table : NftTable) (text : String) : Bool :=
  containsText text table.comment ||
    (table.chain.getD []).any fun rule => containsText text rule.comment

/-- The provider, its state file, and the tables by namespace and name. -/
structure PolicyWorld where
  memory : ProviderState
  file : ProviderState
  tables : String × String → Option NftTable

/-- What the provider takes from its libraries: the bytes of an identity and
the digest of a policy snapshot. -/
structure PolicyLibrary where
  uuidBytes : Uuid → List UInt8
  sha256 : Nat × List PolicyDefaultIntent × List PolicyIntent → String

/-- `{:08x}`. -/
def hexWord (n : Nat) : String :=
  String.ofList
    (Nat.digitChar <$>
      [n / 16 ^ 7 % 16, n / 16 ^ 6 % 16, n / 16 ^ 5 % 16, n / 16 ^ 4 % 16, n / 16 ^ 3 % 16,
        n / 16 ^ 2 % 16, n / 16 % 16, n % 16])

section Names

variable (lib : PolicyLibrary)

/-- The hash of `provider_name`. -/
def providerHash (kind : String) (realmId : Uuid) (target : String) : UInt64 :=
  (kind.toList.flatMap String.utf8EncodeChar ++ lib.uuidBytes realmId ++
      target.toList.flatMap String.utf8EncodeChar).foldl
    (fun hash byte => (hash ^^^ byte.toUInt64) * 0x100000001b3) 0xcbf29ce484222325

def providerName (kind : String) (realmId : Uuid) (target : String) : String :=
  "o3k-" ++ kind ++ "-" ++ hexWord ((providerHash lib kind realmId target).toNat % 2 ^ 32)

def policyTableName (realmId : Uuid) : String := providerName lib "p" realmId "policy"

def policyFingerprint (plan : NamespacedRoutedFabricPlan) : String :=
  lib.sha256 (plan.policyGeneration, plan.policyDefaults, plan.policies)

end Names

/-- What a call does, one thing after another. -/
inductive PolicyOp
  | list (table : String × String)
  | remember (ownership : RealmOwnership)
  | store
  | commit (state : ProviderState)
  | adopt (state : ProviderState)
  | deleteTable (table : String × String)
  | addTable (table : String × String) (comment : String)
  | addChain (table : String × String)
  | addRule (table : String × String) (rule : NftRule)

def PolicyOp.canFail : PolicyOp → Bool
  | remember _ => false
  | adopt _ => false
  | _ => true

namespace PolicyWorld

def onTable (world : PolicyWorld) (table : String × String) (f : NftTable → NftTable) :
    PolicyWorld :=
  { world with tables := Function.update world.tables table ((world.tables table).map f) }

end PolicyWorld

/-- `store` writes the memory to the state file and `commit` another state;
`nft` adds a table or a chain only where there is none. -/
def PolicyOp.apply (world : PolicyWorld) : PolicyOp → PolicyWorld
  | list _ => world
  | remember ownership => { world with memory := world.memory.put ownership }
  | store => { world with file := world.memory }
  | commit state => { world with file := state }
  | adopt state => { world with memory := state }
  | deleteTable table => { world with tables := Function.update world.tables table none }
  | addTable table comment =>
    { world with
      tables :=
        Function.update world.tables table
          (some ((world.tables table).getD ⟨comment, none⟩)) }
  | addChain table => world.onTable table fun t => { t with chain := some (t.chain.getD []) }
  | addRule table rule => world.onTable table fun t => { t with chain := t.chain.map (· ++ [rule]) }

/-- How `nft list table` answers when it can be run: with the table, or, for a
reason of its own, without success. -/
inductive ListAnswer
  | honest
  | unsuccessful
  deriving DecidableEq

def ListAnswer.show (answer : ListAnswer) (table : Option NftTable) : Option NftTable :=
  match answer with
  | honest => table
  | unsuccessful => none

/-- What a call would do without interruption, and its answer. -/
structure Outcome where
  script : List PolicyOp
  result : Except LinuxFabricError Unit

section Calls

variable (lib : PolicyLibrary)

def buildTable (table : String × String) (plan : NamespacedRoutedFabricPlan) : List PolicyOp :=
  .addTable table ("o3k-p11-policy:" ++ policyFingerprint lib plan) ::
    .addChain table ::
      ((policySteps plan).takeWhile Option.isSome).reduceOption.map (.addRule table)

/-- `remove_policy`; the table is listed again after it is deleted. -/
def removePolicy
    (first second : ListAnswer) (world : PolicyWorld) (plan : NamespacedRoutedFabricPlan) :
    Outcome :=
  match world.memory.get? plan.realmId with
  | none => ⟨[], .ok ()⟩
  | some current =>
    if current.policyFingerprint = "" then
      ⟨[], .ok ()⟩
    else
      let table := (current.namespaceName, policyTableName lib plan.realmId)
      let cleared :=
        world.memory.put { current with policyGeneration := 0, policyFingerprint := "" }
      match first.show (world.tables table) with
      | none =>
        if (second.show (world.tables table)).isSome then
          ⟨[.list table, .list table], .error .commandFailed⟩
        else
          ⟨[.list table, .list table, .commit cleared, .adopt cleared], .ok ()⟩
      | some listed =>
        if listed.mentions "o3k-p11-policy" = false then
          ⟨[.list table], .error .foreignState⟩
        else
          ⟨[.list table, .deleteTable table, .list table, .commit cleared, .adopt cleared], .ok ()⟩

def ensurePolicy
    (first second : ListAnswer) (world : PolicyWorld) (plan : NamespacedRoutedFabricPlan) :
    Outcome :=
  match world.memory.get? plan.realmId with
  | none => ⟨[], .error .corruptState⟩
  | some current =>
    if plan.policies = [] ∧ plan.policyDefaults = [] then
      removePolicy lib first second world plan
    else
      match validatePolicyPlan plan with
      | .error e => ⟨[], .error e⟩
      | .ok () =>
        let fingerprint := policyFingerprint lib plan
        if current.policyGeneration = plan.policyGeneration ∧
            current.policyFingerprint = fingerprint then
          ⟨[], .ok ()⟩
        else
          let table := (current.namespaceName, policyTableName lib plan.realmId)
          let next :=
            { current with
              policyGeneration := plan.policyGeneration
              policyFingerprint := fingerprint }
          match first.show (world.tables table) with
          | none =>
            ⟨.list table :: .remember next :: .store :: buildTable lib table plan,
              if (policySteps plan).all Option.isSome then .ok ()
              else .error .ownershipConflict⟩
          | some listed =>
            if listed.mentions "o3k-p11-policy" = false then
              ⟨[.list table], .error .foreignState⟩
            else
              ⟨.list table :: .remember next :: .store :: .deleteTable table ::
                  buildTable lib table plan,
                if (policySteps plan).all Option.isSome then .ok ()
                else .error .ownershipConflict⟩

end Calls

end Fabric
end O3k
