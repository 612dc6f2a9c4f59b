import O3k.Network.Compatibility
import O3k.Semantics.Loop

/-!
# The address of a port

`create_port_for_project_internal` tries the addresses of a pool one after the
other.  An insert that is refused because the row exists already is a lost race,
and the loop goes on.  The candidate is advanced by a saturating addition, so
that 255.255.255.255 is never left behind.
-/

namespace O3k
namespace Network

open Relational Relational.Transaction Semantics Operations

/-- What the calls of the allocation return.  The loop counts its rounds:
`store` is what the store holds at the insert of a round. -/
structure PortOutcomes where
  network : Except StoreError (Option CanonicalNetworkRecord)
  realms : Except StoreError (List CanonicalAddressRealmRecord)
  pools : Except StoreError (List CanonicalAddressPoolRecord)
  endpoints : Except StoreError (List CanonicalEndpointRecord)
  freshId : Nat → Uuid
  quota : Nat → Except StoreError Unit
  fault : Nat → Option SqlError
  store : Nat → NetworkTables
  stored : Nat → Except StoreError (Option CanonicalEndpointRecord)

structure Allocation where
  realm : CanonicalAddressRealmRecord
  pool : CanonicalAddressPoolRecord
  gateway : Ipv4Addr
  occupied : List Ipv4Addr
  deriving DecidableEq

namespace PortRequest

variable (request : PortRequest) (o : PortOutcomes)

def chooseRealm (realms : List CanonicalAddressRealmRecord) :
    Except NetworkError CanonicalAddressRealmRecord :=
  match request.requestedFixedIp with
  | some (subnetId, _) =>
    (realms.find? (fun r => r.id = subnetId ∧ r.state = .active)).elim (.error .notFound) .ok
  | none =>
    match realms with
    | [] => .error .notFound
    | [realm] => if realm.state = .active then .ok realm else .error .conflict
    | _ => .error .invalidRequest

/-- The reads before the loop. -/
def allocation : Except NetworkError Allocation := do
  let network ← o.network.mapError mapStoreError
  let _ ← network.elim (.error .notFound) .ok
  let realms ← o.realms.mapError mapStoreError
  let realm ← request.chooseRealm realms
  let pools ← o.pools.mapError mapStoreError
  let pool ← pools.head?.elim (.error .notFound) .ok
  let endpoints ← o.endpoints.mapError mapStoreError
  let gateway ← pool.gateway.elim (.error .invalidRequest) .ok
  return ⟨realm, pool, gateway, endpoints.map (·.fixedIp)⟩

variable (lib : NetworkLibrary) (a : Allocation)

def candidatePort (round : Nat) (address : Ipv4Addr) : PortRecord :=
  request.port a.realm (if request.stableId then request.id else o.freshId round) address lib

/-- `insert_canonical_endpoint_and_port`, after the retries of a locked
database. -/
def insertAt (round : Nat) (address : Ipv4Addr) : Except StoreError NetworkTables :=
  let port := request.candidatePort o lib a round address
  match o.fault round with
  | some error => .error (.database error)
  | none =>
    (insertCanonicalEndpointAndPortBody (port.canonicalEndpoint a.realm.id) port
      (o.store round)).map Prod.snd

/-- The reservation and the insert at an address; `none` goes on to the next
one. -/
def attempt (round : Nat) (address : Ipv4Addr) : Option (Except NetworkError PortRecord) :=
  match o.quota round with
  | .error error => some (.error (mapStoreError error))
  | .ok () =>
    match request.insertAt o lib a round address with
    | .ok _ => some (.ok (request.candidatePort o lib a round address))
    | .error .resourceAlreadyExists =>
      if request.explicitIp.isSome then
        some (.error .conflict)
      else if request.stableId then
        match o.stored round with
        | .error error => some (.error (mapStoreError error))
        | .ok (some _) => some (.error .conflict)
        | .ok none => none
      else
        none
    | .error error => some (.error (mapStoreError error))

structure Scan where
  candidate : Ipv4Addr
  round : Nat

/-- `saturating_add(1)`. -/
def saturatingSucc (candidate : Ipv4Addr) : Ipv4Addr :=
  if candidate = BitVec.allOnes 32 then candidate else candidate + 1

/-- The body of the loop, up to the advance. -/
def tryCandidate (s : Scan) : Option (Except NetworkError PortRecord) :=
  if s.candidate ≠ a.gateway ∧ a.pool.firstUsable ≤ s.candidate ∧
      s.candidate ≤ a.pool.lastUsable then
    if request.explicitIp.isNone ∧ s.candidate ∈ a.occupied then
      none
    else
      request.attempt o lib a s.round s.candidate
  else
    none

/-- `while candidate <= end`, and what comes after it. -/
def scanStep (s : Scan) : Scan ⊕ Except NetworkError PortRecord :=
  if s.candidate ≤ request.explicitIp.getD a.pool.lastUsable then
    match request.tryCandidate o lib a s with
    | some result => .inr result
    | none =>
      if request.explicitIp.isSome then
        .inr (.error .invalidRequest)
      else
        .inl ⟨saturatingSucc s.candidate, s.round + 1⟩
  else if request.explicitIp.isSome then
    .inr (.error .invalidRequest)
  else
    .inr (.error .poolExhausted)

/-- `create_port_for_project_internal` returns the result. -/
def Returns (result : Except NetworkError PortRecord) : Prop :=
  match request.allocation o with
  | .error error => result = .error error
  | .ok a =>
    Ends (request.scanStep o lib a)
      ⟨request.explicitIp.getD a.pool.firstUsable, 0⟩ result

/-- The address is occupied, or its insert is refused because a row exists
already and the project has no port under the id that was asked for: the row has
the address, or the id in another project. -/
def FoundTaken (round : Nat) (address : Ipv4Addr) : Prop :=
  address ∈ a.occupied ∨
    o.quota round = .ok () ∧
      request.insertAt o lib a round address = .error .resourceAlreadyExists ∧
      (request.stableId = true → o.stored round = .ok none)

/-- The `n`-th address of the pool; the first pass of the loop tries it in the
round `n`. -/
def poolAddress (n : Nat) : Ipv4Addr := a.pool.firstUsable + BitVec.ofNat 32 n

def poolSpan : Nat := a.pool.lastUsable.toNat - a.pool.firstUsable.toNat

/-- Every address of the pool but the gateway is found taken. -/
def AllTaken : Prop :=
  a.pool.firstUsable ≤ a.pool.lastUsable →
    ∀ n ≤ poolSpan a, poolAddress a n ≠ a.gateway →
      request.FoundTaken o lib a n (poolAddress a n)

/-- The port has an address of the pool that nobody else in the realm has. -/
def IsPlacedAlone (port : PortRecord) : Prop :=
  a.pool.firstUsable ≤ port.fixedIp ∧ port.fixedIp ≤ a.pool.lastUsable ∧
    port.fixedIp ≠ a.gateway ∧
    ∃ round tables,
      request.insertAt o lib a round port.fixedIp = .ok tables ∧
        ∀ e ∈ tables.endpoints.rows,
          e.realmId = a.realm.id → e.fixedIp = port.fixedIp → e.id = port.id

/-- The call returns; a port that it returns has its address alone, and the pool
is reported exhausted exactly when every address was found taken. -/
def AllocatesExactly : Prop :=
  ∃ result,
    request.Returns o lib result ∧
      (∀ port, result = .ok port →
        ∃ a, request.allocation o = .ok a ∧ request.IsPlacedAlone o lib a port) ∧
      (result = .error .poolExhausted
        ↔ ∃ a, request.allocation o = .ok a ∧ request.AllTaken o lib a)

/-- The pool does not reach the last of all addresses, or one of its addresses
is not found taken. -/
def LeavesRoom : Prop :=
  ∀ a, request.allocation o = .ok a →
    a.pool.lastUsable = BitVec.allOnes 32 → ¬ request.AllTaken o lib a

section Round

variable {request o lib a}
variable (hexplicit : request.explicitIp = none)

theorem mapStoreError_ne_poolExhausted (error : StoreError) :
    mapStoreError error ≠ .poolExhausted := by
  cases error <;> simp [mapStoreError]

include hexplicit in
theorem attempt_eq_none_iff {round : Nat} {address : Ipv4Addr} :
    request.attempt o lib a round address = none ↔ o.quota round = .ok () ∧
      request.insertAt o lib a round address = .error .resourceAlreadyExists ∧
      (request.stableId = true → o.stored round = .ok none) := by
  rw [attempt, hexplicit]
  cases hquota : o.quota round with
  | error error => simp
  | ok u =>
    cases hinsert : request.insertAt o lib a round address with
    | ok tables => simp
    | error error =>
      cases error with
      | resourceAlreadyExists =>
        cases hstable : request.stableId with
        | false => simp
        | true =>
          cases hstored : o.stored round with
          | error error => simp
          | ok stored => cases stored <;> simp
      | _ => simp

include hexplicit in
theorem tryCandidate_eq_none_iff {s : Scan}
    (hfirst : a.pool.firstUsable ≤ s.candidate) (hlast : s.candidate ≤ a.pool.lastUsable) :
    request.tryCandidate o lib a s = none ↔
    (s.candidate ≠ a.gateway → request.FoundTaken o lib a s.round s.candidate) := by
  rw [tryCandidate]
  by_cases hgateway : s.candidate = a.gateway
  · simp [hgateway]
  · rw [if_pos ⟨hgateway, hfirst, hlast⟩, FoundTaken, ← attempt_eq_none_iff hexplicit]
    by_cases hoccupied : s.candidate ∈ a.occupied
    · simp [hexplicit, hoccupied, hgateway]
    · simp [hoccupied, hgateway]

theorem attempt_eq_ok {round : Nat} {address : Ipv4Addr} {port : PortRecord}
    (h : request.attempt o lib a round address = some (.ok port)) :
    port = request.candidatePort o lib a round address ∧
      ∃ tables, request.insertAt o lib a round address = .ok tables := by
  rw [attempt] at h
  split at h
  · cases h
  · split at h
    · rename_i tables hinsert
      cases h
      exact ⟨rfl, tables, hinsert⟩
    · split_ifs at h
      · cases h
      · split at h <;> cases h
    · cases h

theorem attempt_ne_exhausted {round : Nat} {address : Ipv4Addr} :
    request.attempt o lib a round address ≠ some (.error .poolExhausted) := by
  intro h
  rw [attempt] at h
  split at h
  · exact mapStoreError_ne_poolExhausted _ (Except.error.inj (Option.some.inj h))
  · split at h
    · cases h
    · split_ifs at h
      · cases h
      · split at h
        · exact mapStoreError_ne_poolExhausted _ (Except.error.inj (Option.some.inj h))
        · cases h
        · cases h
    · exact mapStoreError_ne_poolExhausted _ (Except.error.inj (Option.some.inj h))

theorem insertEndpointRow_ok {endpoint : CanonicalEndpointRecord} {before after : NetworkTables}
    (h : insertEndpointRow endpoint before = .ok ((), after)) :
    before.endpoints.get? endpoint.id = none ∧
      after = before.setEndpoints (before.endpoints.put endpoint) := by
  simp only [insertEndpointRow, get_bind_apply] at h
  obtain ⟨_, h⟩ := require_bind_eq_ok.mp h
  obtain ⟨endpoints, hinsert, h⟩ := orFail_bind_eq_ok.mp h
  obtain ⟨habsent, rfl⟩ := (before.endpoints.insert?_eq_some_iff endpoints).mp hinsert
  cases h
  exact ⟨habsent, rfl⟩

theorem insertEndpointRow_alone {endpoint : CanonicalEndpointRecord} {before after : NetworkTables}
    (h : insertEndpointRow endpoint before = .ok ((), after)) :
    ∀ e ∈ after.endpoints.rows,
      e.realmId = endpoint.realmId → e.fixedIp = endpoint.fixedIp → e.id = endpoint.id := by
  have hnew : before.endpointIsNew endpoint = true := by
    simp only [insertEndpointRow, get_bind_apply] at h
    exact (require_bind_eq_ok.mp h).1
  obtain ⟨_, rfl⟩ := insertEndpointRow_ok h
  intro e he hrealm haddress
  rcases before.endpoints.mem_put.mp he with rfl | ⟨he, _⟩
  · rfl
  · have hother := List.all_eq_true.mp hnew e he
    simp [hrealm, haddress] at hother

theorem insertAt_alone {round : Nat} {address : Ipv4Addr} {tables : NetworkTables}
    (h : request.insertAt o lib a round address = .ok tables) :
    ∀ e ∈ tables.endpoints.rows,
      e.realmId = a.realm.id → e.fixedIp = address →
        e.id = (request.candidatePort o lib a round address).id := by
  rw [insertAt] at h
  split at h
  · cases h
  · cases hbody :
        insertCanonicalEndpointAndPortBody
          ((request.candidatePort o lib a round address).canonicalEndpoint a.realm.id)
          (request.candidatePort o lib a round address) (o.store round) with
    | error error =>
      rw [hbody] at h
      cases h
    | ok result =>
      rw [hbody] at h
      cases h
      obtain ⟨_, _, hbody⟩ := fromExcept_bind_eq_ok.mp hbody
      obtain ⟨_, _, hbody⟩ := orFail_bind_eq_ok.mp hbody
      obtain ⟨_, hbody⟩ := require_bind_eq_ok.mp hbody
      rw [get_bind_apply] at hbody
      obtain ⟨_, _, hbody⟩ := orFail_bind_eq_ok.mp hbody
      obtain ⟨_, hbody⟩ := require_bind_eq_ok.mp hbody
      obtain ⟨_, s₁, hendpoint, hport⟩ := bind_eq_ok.mp hbody
      have hports : result.2.endpoints = s₁.endpoints := by
        simp only [insertPortRow, get_bind_apply] at hport
        obtain ⟨_, hport⟩ := require_bind_eq_ok.mp hport
        obtain ⟨_, _, hport⟩ := orFail_bind_eq_ok.mp hport
        obtain ⟨_, hport⟩ := require_bind_eq_ok.mp hport
        cases hport
        rfl
      rw [hports]
      exact insertEndpointRow_alone hendpoint

end Round

section Scan

variable {request o lib a}
variable (hexplicit : request.explicitIp = none)
variable (hnonempty : a.pool.firstUsable ≤ a.pool.lastUsable)

/-- The state of the loop before the round `n` of its first pass. -/
def scanAt (a : Allocation) (n : Nat) : Scan := ⟨poolAddress a n, n⟩

include hnonempty in
theorem toNat_poolAddress {n : Nat} (h : n ≤ poolSpan a) :
    (poolAddress a n).toNat = a.pool.firstUsable.toNat + n := by
  have hle : a.pool.firstUsable.toNat ≤ a.pool.lastUsable.toNat := hnonempty
  rw [poolSpan] at h
  rw [poolAddress, BitVec.toNat_add, BitVec.toNat_ofNat]
  omega

include hnonempty in
theorem poolAddress_inPool {n : Nat} (h : n ≤ poolSpan a) :
    a.pool.firstUsable ≤ poolAddress a n ∧ poolAddress a n ≤ a.pool.lastUsable := by
  have hle : a.pool.firstUsable.toNat ≤ a.pool.lastUsable.toNat := hnonempty
  have haddress := toNat_poolAddress hnonempty h
  rw [poolSpan] at h
  constructor
  · exact BitVec.le_def.mpr (by omega)
  · exact BitVec.le_def.mpr (by omega)

include hnonempty in
theorem saturatingSucc_poolAddress {n : Nat} (h : n < poolSpan a) :
    saturatingSucc (poolAddress a n) = poolAddress a (n + 1) := by
  have haddress := toNat_poolAddress hnonempty h.le
  have hnext := toNat_poolAddress hnonempty (Nat.succ_le_of_lt h)
  rw [poolSpan] at h
  have hne : poolAddress a n ≠ BitVec.allOnes 32 := by
    intro heq
    have htop : (poolAddress a n).toNat = 2 ^ 32 - 1 := by rw [heq]; decide
    omega
  rw [saturatingSucc, if_neg hne]
  refine BitVec.eq_of_toNat_eq ?_
  have hone : (1 : Ipv4Addr).toNat = 1 := rfl
  rw [hnext, BitVec.toNat_add, haddress, hone]
  omega

include hexplicit in
theorem scanStep_of_le {s : Scan} (hlast : s.candidate ≤ a.pool.lastUsable) :
    request.scanStep o lib a s =
      (request.tryCandidate o lib a s).elim
        (.inl ⟨saturatingSucc s.candidate, s.round + 1⟩) .inr := by
  rw [scanStep, hexplicit, Option.getD_none, if_pos hlast]
  cases request.tryCandidate o lib a s with
  | some result => rfl
  | none => rfl

include hexplicit hnonempty in
/-- A round in the pool goes on exactly from the gateway and from what is found
taken. -/
theorem scanStep_advances_iff {n : Nat} (h : n ≤ poolSpan a) :
    request.scanStep o lib a (scanAt a n) = .inl ⟨saturatingSucc (poolAddress a n), n + 1⟩ ↔
    (poolAddress a n ≠ a.gateway → request.FoundTaken o lib a n (poolAddress a n)) := by
  obtain ⟨hfirst, hlast⟩ := poolAddress_inPool hnonempty h
  have hround :
      request.tryCandidate o lib a (scanAt a n) = none
        ↔
      (poolAddress a n ≠ a.gateway → request.FoundTaken o lib a n (poolAddress a n)) :=
    tryCandidate_eq_none_iff hexplicit hfirst hlast
  rw [scanStep_of_le (s := scanAt a n) hexplicit hlast, ← hround]
  cases request.tryCandidate o lib a (scanAt a n) with
  | some result => simp
  | none => simp [scanAt]

/-- The loop never leaves with exhaustion below the end of its pool. -/
theorem scanStep_ne_exhausted {s : Scan}
    (hlast : s.candidate ≤ request.explicitIp.getD a.pool.lastUsable) :
    request.scanStep o lib a s ≠ .inr (.error .poolExhausted) := by
  rw [scanStep, if_pos hlast]
  cases htry : request.tryCandidate o lib a s with
  | some result =>
    intro h
    rw [Sum.inr.inj h] at htry
    rw [tryCandidate] at htry
    split_ifs at htry
    exact attempt_ne_exhausted htry
  | none =>
    split_ifs
    · simp
    · simp

include hexplicit hnonempty in
theorem scan_path {n : Nat} (hn : n ≤ poolSpan a)
    (htaken : ∀ m < n, poolAddress a m ≠ a.gateway → request.FoundTaken o lib a m (poolAddress a m))
    {result : Except NetworkError PortRecord} :
    Ends (request.scanStep o lib a) (scanAt a 0) result ↔
    Ends (request.scanStep o lib a) (scanAt a n) result := by
  refine ends_path_iff (fun m hm => ?_)
  rw [(scanStep_advances_iff hexplicit hnonempty (by omega)).mpr (htaken m hm),
    saturatingSucc_poolAddress hnonempty (by omega), scanAt]

include hexplicit hnonempty in
/-- The loop leaves at the first address that is not found taken, and not with
exhaustion. -/
theorem scan_leaves {n : Nat} (hn : n ≤ poolSpan a)
    (hfree : ¬ (poolAddress a n ≠ a.gateway → request.FoundTaken o lib a n (poolAddress a n)))
    (htaken : ∀ m < n, poolAddress a m ≠ a.gateway →
      request.FoundTaken o lib a m (poolAddress a m)) :
    ∃ result,
      Ends (request.scanStep o lib a) (scanAt a 0) result ∧ result ≠ .error .poolExhausted := by
  cases hstep : request.scanStep o lib a (scanAt a n) with
  | inl next =>
    have hadvances :
        ¬ request.scanStep o lib a (scanAt a n)
          = .inl ⟨saturatingSucc (poolAddress a n), n + 1⟩ :=
      (scanStep_advances_iff hexplicit hnonempty hn).not.mpr hfree
    obtain ⟨_, hlast⟩ := poolAddress_inPool hnonempty hn
    rw [scanStep_of_le (s := scanAt a n) hexplicit hlast] at hstep hadvances
    cases htry : request.tryCandidate o lib a (scanAt a n) with
    | some result =>
      rw [htry] at hstep
      cases hstep
    | none =>
      rw [htry] at hadvances
      exact absurd rfl hadvances
  | inr result =>
    refine ⟨result, (scan_path hexplicit hnonempty hn htaken).mpr (ends_of_leaves hstep), ?_⟩
    rintro rfl
    have hlast : (scanAt a n).candidate ≤ request.explicitIp.getD a.pool.lastUsable := by
      rw [hexplicit]
      exact (poolAddress_inPool hnonempty hn).2
    exact scanStep_ne_exhausted hlast hstep

include hexplicit hnonempty in
/-- A pool that is taken is exhausted, unless it reaches the last address. -/
theorem scan_exhausted (hbelow : a.pool.lastUsable ≠ BitVec.allOnes 32)
    (htaken : ∀ n ≤ poolSpan a, poolAddress a n ≠ a.gateway →
      request.FoundTaken o lib a n (poolAddress a n)) :
    Ends (request.scanStep o lib a) (scanAt a 0) (.error .poolExhausted) := by
  refine (scan_path hexplicit hnonempty le_rfl (fun m hm => htaken m hm.le)).mpr ?_
  have hstep :
      request.scanStep o lib a (scanAt a (poolSpan a))
        = .inl ⟨saturatingSucc (poolAddress a (poolSpan a)), poolSpan a + 1⟩ :=
    (scanStep_advances_iff hexplicit hnonempty le_rfl).mpr (htaken _ le_rfl)
  refine (ends_step_iff hstep).mpr (ends_of_leaves ?_)
  have hle : a.pool.firstUsable.toNat ≤ a.pool.lastUsable.toNat := hnonempty
  have hend : poolAddress a (poolSpan a) = a.pool.lastUsable := by
    refine BitVec.eq_of_toNat_eq ?_
    rw [toNat_poolAddress hnonempty le_rfl, poolSpan]
    omega
  have htop : a.pool.lastUsable.toNat ≠ 2 ^ 32 - 1 :=
    fun heq => hbelow (BitVec.eq_of_toNat_eq (heq.trans (by decide)))
  have hbeyond : ¬ a.pool.lastUsable + 1 ≤ a.pool.lastUsable := by
    have hone : (1 : Ipv4Addr).toNat = 1 := rfl
    rw [BitVec.le_def, BitVec.toNat_add, hone]
    omega
  rw [hend, saturatingSucc, if_neg hbelow, scanStep, hexplicit]
  simp only [Option.getD_none]
  rw [if_neg hbeyond]
  rfl

include hexplicit in
theorem scan_placedAlone {s : Scan} {port : PortRecord}
    (h : Ends (request.scanStep o lib a) s (.ok port)) :
    request.IsPlacedAlone o lib a port := by
  by_contra hnot
  refine not_ends_of_invariant (I := fun _ => True) (fun s _ hleave => ?_) (fun _ _ _ _ => trivial)
    trivial h
  by_cases hlast : s.candidate ≤ a.pool.lastUsable
  · rw [scanStep_of_le hexplicit hlast] at hleave
    cases htry : request.tryCandidate o lib a s with
    | none =>
      rw [htry] at hleave
      cases hleave
    | some result =>
      rw [htry] at hleave
      cases hleave
      rw [tryCandidate] at htry
      split_ifs at htry with hpool hoccupied
      obtain ⟨rfl, tables, hinsert⟩ := attempt_eq_ok htry
      exact hnot ⟨hpool.2.1, hpool.2.2, hpool.1, s.round, tables, hinsert, insertAt_alone hinsert⟩
  · simp [scanStep, hexplicit, hlast] at hleave

end Scan

section Call

variable {request o}

theorem poolAddress_zero (a : Allocation) : poolAddress a 0 = a.pool.firstUsable := by
  simp [poolAddress]

theorem bind_ne_error {α β : Type} {x : Except NetworkError α} {f : α → Except NetworkError β}
    {error : NetworkError} (hx : x ≠ .error error) (hf : ∀ value, f value ≠ .error error) :
    (x >>= f) ≠ .error error := by
  cases x with
  | error e => exact fun h => hx (congrArg Except.error (Except.error.inj h))
  | ok value => exact hf value

theorem mapError_ne_exhausted {α : Type} (x : Except StoreError α) :
    x.mapError mapStoreError ≠ .error .poolExhausted := by
  cases x with
  | error error => exact fun h => mapStoreError_ne_poolExhausted error (Except.error.inj h)
  | ok value => exact fun h => by cases h

theorem elim_ne_exhausted {α : Type} (x : Option α) {error : NetworkError}
    (h : error ≠ .poolExhausted) :
    (x.elim (.error error) .ok : Except NetworkError α) ≠ .error .poolExhausted := by
  cases x with
  | none => exact fun heq => h (Except.error.inj heq)
  | some value => exact fun heq => by cases heq

theorem chooseRealm_ne_exhausted (realms : List CanonicalAddressRealmRecord) :
    request.chooseRealm realms ≠ .error .poolExhausted := by
  unfold chooseRealm
  split
  · exact elim_ne_exhausted _ (by simp)
  · split
    · simp
    · split_ifs
      · simp
      · simp
    · simp

theorem allocation_ne_exhausted : request.allocation o ≠ .error .poolExhausted := by
  refine bind_ne_error (mapError_ne_exhausted _) (fun network => ?_)
  refine bind_ne_error (elim_ne_exhausted _ (by simp)) (fun _ => ?_)
  refine bind_ne_error (mapError_ne_exhausted _) (fun realms => ?_)
  refine bind_ne_error (chooseRealm_ne_exhausted _) (fun realm => ?_)
  refine bind_ne_error (mapError_ne_exhausted _) (fun pools => ?_)
  refine bind_ne_error (elim_ne_exhausted _ (by simp)) (fun pool => ?_)
  refine bind_ne_error (mapError_ne_exhausted _) (fun endpoints => ?_)
  exact bind_ne_error (elim_ne_exhausted _ (by simp)) (fun gateway h => by cases h)

/-- **Allocation is exact** exactly when the pool does not reach 255.255.255.255
or one of its addresses is not found taken. -/
theorem allocates_exactly_iff (hexplicit : request.explicitIp = none) :
    request.AllocatesExactly o lib ↔ request.LeavesRoom o lib := by
  cases hallocation : request.allocation o with
  | error error =>
    have hne : error ≠ .poolExhausted :=
      fun heq => allocation_ne_exhausted (heq ▸ hallocation)
    simp [AllocatesExactly, LeavesRoom, Returns, hallocation, hne]
  | ok a =>
    have hreturns : ∀ result,
        request.Returns o lib result ↔ Ends (request.scanStep o lib a) (scanAt a 0) result := by
      intro result
      rw [Returns, hallocation, hexplicit, scanAt, poolAddress_zero]
      rfl
    have hroom :
        request.LeavesRoom o lib ↔
          (a.pool.lastUsable = BitVec.allOnes 32 → ¬ request.AllTaken o lib a) := by
      simp [LeavesRoom, hallocation]
    have hexact :
        request.AllocatesExactly o lib ↔
          ∃ result, Ends (request.scanStep o lib a) (scanAt a 0) result ∧
            (result = .error .poolExhausted ↔ request.AllTaken o lib a) := by
      simp only [AllocatesExactly, hreturns, hallocation, Except.ok.injEq, exists_eq_left']
      refine exists_congr (fun result => and_congr_right (fun hends => ?_))
      refine and_iff_right (fun port hport => ?_)
      exact scan_placedAlone hexplicit (hport ▸ hends)
    rw [hroom, hexact]
    constructor
    · rintro ⟨result, hends, hexhausted⟩ htop htaken
      rw [hexhausted.mpr htaken] at hends
      refine not_ends_of_invariant (I := fun _ => True) (fun s _ => ?_) (fun _ _ _ _ => trivial)
        trivial hends
      refine scanStep_ne_exhausted ?_
      rw [hexplicit, Option.getD_none, htop, BitVec.le_def]
      have hlt := s.candidate.isLt
      have htop : (BitVec.allOnes 32).toNat = 2 ^ 32 - 1 := by decide
      omega
    · intro hbelow
      by_cases hnonempty : a.pool.firstUsable ≤ a.pool.lastUsable
      · by_cases htaken : request.AllTaken o lib a
        · refine ⟨_, scan_exhausted hexplicit hnonempty (fun htop => hbelow htop htaken)
            (htaken hnonempty), ?_⟩
          simp [htaken]
        · -- the first address that is not found taken
          have hfree : ∃ n, n ≤ poolSpan a ∧
              ¬ (poolAddress a n ≠ a.gateway →
                request.FoundTaken o lib a n (poolAddress a n)) := by
            by_contra hnone
            exact htaken (fun _ n hn => by
              by_contra h
              exact hnone ⟨n, hn, h⟩)
          classical
          obtain ⟨hspan, hfound⟩ := Nat.find_spec hfree
          obtain ⟨result, hends, hne⟩ := scan_leaves hexplicit hnonempty hspan hfound
            (fun m hm => by
              by_contra h
              exact Nat.find_min hfree hm ⟨hm.le.trans hspan, h⟩)
          exact ⟨result, hends, by simp [hne, htaken]⟩
      · refine ⟨.error .poolExhausted, ends_of_leaves ?_, ?_⟩
        · rw [scanStep, scanAt, poolAddress_zero, hexplicit]
          simp only [Option.getD_none]
          rw [if_neg hnonempty]
          rfl
        · simp [AllTaken, hnonempty]

end Call

end PortRequest

/-- No request of these runs consults the library, but for the MAC. -/
def plainLibrary : NetworkLibrary where
  isRfc3339 := fun _ => true
  toLowercase := id
  debug := id
  displaySql := fun _ => ""
  portMac := id
  urlId := id
  sha256 := id
  vniSeed := fun _ => 0
  displayStore := fun _ => ""

def oneNetwork : NetworkTables :=
  { NetworkTables.empty with
    networks := Table.ofList [⟨"network", "project", "net", true, 1, .active⟩]
    legacyNetworks := Table.ofList [⟨"network", "net", "project", "ACTIVE"⟩] }

/-- A subnet whose addresses are those from 255.255.255.254 to `last`. -/
def topSubnet (last : Ipv4Addr) : SubnetRequest :=
  ⟨"project", "realm", "network", "subnet", "255.255.255.252/30", none, some 0xfffffffe, some last⟩

/-- The subnet is created, and endpoints at the last two addresses. -/
def fillTopSubnet (last : Ipv4Addr) : Service Unit := do
  createSubnetForProjectWithId (topSubnet last) (.ok ()) "pool"
  createCanonicalEndpointForProject "project" "realm" 0xfffffffe "first" "first"
  createCanonicalEndpointForProject "project" "realm" 0xffffffff "second" "second"

def filled (last : Ipv4Addr) : Except NetworkError Unit × NetworkTables :=
  Program.alone (exec plainLibrary.toTextLibrary) (fillTopSubnet last).run oneNetwork

/-- What the calls return while nobody else writes to the store. -/
def quietOutcomes (s : NetworkTables) : PortOutcomes where
  network := .ok (s.getCanonicalNetwork "project" "network")
  realms := .ok (s.listCanonicalRealms "project" "network")
  pools := .ok (s.listCanonicalPools "project" "realm")
  endpoints := .ok (s.listCanonicalEndpoints "project" "realm")
  freshId := fun _ => "third"
  quota := fun _ => .ok ()
  fault := fun _ => none
  store := fun _ => s
  stored := fun _ => .ok none

def anyAddress : PortRequest := ⟨"project", "third", "network", "port", none, false⟩

/-- What the request chooses. -/
def topAllocation (last : Ipv4Addr) : Allocation where
  realm := ⟨"realm", "network", "project", "255.255.255.252/30", false, 1, .active⟩
  pool :=
    ⟨"pool", "realm", "project", "255.255.255.252/30", some 0xfffffffd, 0xfffffffe, last, 1,
      .active⟩
  gateway := 0xfffffffd
  occupied := [0xfffffffe, 0xffffffff]

/-- A pool that ends one address earlier is reported exhausted. -/
theorem allocates_exactly_below :
    anyAddress.AllocatesExactly (quietOutcomes (filled 0xfffffffe).2) plainLibrary := by
  refine (PortRequest.allocates_exactly_iff plainLibrary rfl).mpr ?_
  intro a ha htop
  have hlast : (anyAddress.allocation (quietOutcomes (filled 0xfffffffe).2)).toOption.map
      (·.pool.lastUsable) = some 0xfffffffe := by
    decide +kernel
  rw [ha] at hlast
  cases Option.some.inj (hlast.symm.trans (congrArg some htop))

theorem allocation_filled :
    anyAddress.allocation (quietOutcomes (filled 0xffffffff).2)
      = .ok (topAllocation 0xffffffff) := by
  decide +kernel

theorem scanStep_full {o : PortOutcomes} {s : PortRequest.Scan}
    (h : s.candidate = 0xfffffffe ∨ s.candidate = 0xffffffff) :
    anyAddress.scanStep o plainLibrary (topAllocation 0xffffffff) s
      = .inl ⟨0xffffffff, s.round + 1⟩ := by
  obtain ⟨candidate, round⟩ := s
  rcases h with h | h
  · cases h
    rfl
  · cases h
    rfl

theorem not_returns_full {o : PortOutcomes}
    (h : anyAddress.allocation o = .ok (topAllocation 0xffffffff))
    (result : Except NetworkError PortRecord) :
    ¬ anyAddress.Returns o plainLibrary result := by
  rw [PortRequest.Returns, h]
  refine not_ends_of_invariant
    (I := fun s => s.candidate = 0xfffffffe ∨ s.candidate = 0xffffffff)
    (fun s hs => ?_) (fun s next hs hnext => ?_) (.inl rfl)
  · rw [scanStep_full hs]
    simp
  · rw [scanStep_full hs] at hnext
    cases hnext
    exact .inr rfl

/-- The service admits a pool that ends with the last of all addresses; when both
its addresses are taken, the call never returns. -/
theorem full_pool_never_returns :
    (filled 0xffffffff).1 = .ok () ∧
      (∀ result, ¬ anyAddress.Returns (quietOutcomes (filled 0xffffffff).2) plainLibrary result) ∧
      ¬ anyAddress.AllocatesExactly (quietOutcomes (filled 0xffffffff).2) plainLibrary := by
  have hnever :
      ∀ result,
        ¬ anyAddress.Returns (quietOutcomes (filled 0xffffffff).2) plainLibrary result :=
    not_returns_full allocation_filled
  refine ⟨by decide +kernel, hnever, ?_⟩
  rintro ⟨result, hreturns, _⟩
  exact hnever result hreturns

end Network
end O3k
