import O3k.Network.Records
import O3k.Relational.Transaction
import O3k.Semantics.Connections

/-!
# The allocation of network addresses

`allocate_network_address` and `release_network_address` of the SQLite store,
over its pool of connections.  An allocation opens its transaction by hand: it
commits an answer, rolls a conflict back, and leaves every other error, and a
panic, with the transaction open.  The address column holds text.
-/

namespace O3k
namespace Network

open Relational Relational.Transaction Semantics

def parseIpv4Prefix (value : String) : Except StoreError (Ipv4Addr × Nat) :=
  match splitOnce '/' value with
  | none => .error (.corrupt "network prefix is missing length")
  | some (address, length) =>
    match Ipv4Addr.parse address, parseU8 length with
    | none, _ => .error (.corrupt "network prefix has invalid address")
    | _, none => .error (.corrupt "network prefix has invalid length")
    | some address, some prefixLen =>
      if ¬ (1 ≤ prefixLen ∧ prefixLen ≤ 30) then
        .error (.corrupt "network allocation prefix must leave usable addresses")
      else if address &&& prefixMask prefixLen ≠ address then
        .error (.corrupt "network prefix is not canonical")
      else
        .ok (address &&& prefixMask prefixLen, prefixLen)

/-- `network + size` leaves the 32 bits. -/
def boundsOverflow (network : Ipv4Addr) (prefixLen : Nat) : Bool :=
  2 ^ 32 ≤ network.toNat + 2 ^ (32 - prefixLen)

/-- `allocation_bounds`, where the arithmetic wraps. -/
def allocationBounds (network : Ipv4Addr) (prefixLen : Nat) : Ipv4Addr × Ipv4Addr :=
  (network + 1, network + BitVec.ofNat 32 (2 ^ (32 - prefixLen)) - 2)

/-- `(first..=last).find(|candidate| !occupied.contains(candidate))`. -/
def firstFree (first last : Ipv4Addr) (occupied : List Ipv4Addr) : Option Ipv4Addr :=
  ((List.range' first.toNat (last.toNat + 1 - first.toNat)).map (BitVec.ofNat 32)).find?
    (fun candidate => candidate ∉ occupied)

/-- A row of `network_address_allocations`. -/
structure NetworkAddressAllocationRow where
  realmId : Uuid
  projectId : String
  endpointId : Uuid
  operationId : String
  address : String
  deriving DecidableEq

structure NetworkAddressAllocationRecord where
  realmId : Uuid
  projectId : String
  endpointId : Uuid
  operationId : String
  address : Ipv4Addr
  deriving DecidableEq

abbrev AddressAllocations := Table NetworkAddressAllocationRow.endpointId

namespace NetworkAddressAllocationRow

def readAddress (row : NetworkAddressAllocationRow) : Except StoreError Ipv4Addr :=
  match Ipv4Addr.parse row.address with
  | some address => .ok address
  | none => .error (.corrupt "invalid allocated network address")

/-- `network_allocation_from_row`. -/
def record (row : NetworkAddressAllocationRow) :
    Except StoreError NetworkAddressAllocationRecord := do
  let address ← row.readAddress
  return ⟨row.realmId, row.projectId, row.endpointId, row.operationId, address⟩

end NetworkAddressAllocationRow

def NetworkAddressAllocationRecord.row (record : NetworkAddressAllocationRecord) :
    NetworkAddressAllocationRow :=
  ⟨record.realmId, record.projectId, record.endpointId, record.operationId, record.address.toText⟩

/-- `INSERT`, under the primary key and the two `UNIQUE` constraints. -/
def AddressAllocations.insertRow? (t : AddressAllocations) (row : NetworkAddressAllocationRow) :
    Option AddressAllocations :=
  if t.rows.any (fun r => r.operationId = row.operationId ||
      (r.realmId = row.realmId && r.address = row.address)) then
    none
  else
    t.insert? row

/-- The arguments of `allocate_network_address`. -/
structure AddressRequest where
  realmId : Uuid
  projectId : String
  endpointId : Uuid
  operationId : String
  prefixText : String
  deriving DecidableEq

namespace AddressRequest

/-- The identity of the row is that of the request. -/
def Owns (request : AddressRequest) (row : NetworkAddressAllocationRow) : Prop :=
  row.realmId = request.realmId ∧ row.projectId = request.projectId ∧
    row.endpointId = request.endpointId ∧ row.operationId = request.operationId

instance (request : AddressRequest) (row : NetworkAddressAllocationRow) :
    Decidable (request.Owns row) :=
  inferInstanceAs (Decidable (_ ∧ _))

def record (request : AddressRequest) (address : Ipv4Addr) : NetworkAddressAllocationRecord :=
  ⟨request.realmId, request.projectId, request.endpointId, request.operationId, address⟩

/-- The endpoint or the operation of the row is that of the request. -/
def Reuses (request : AddressRequest) (row : NetworkAddressAllocationRow) : Prop :=
  row.endpointId = request.endpointId ∨ row.operationId = request.operationId

instance (request : AddressRequest) (row : NetworkAddressAllocationRow) :
    Decidable (request.Reuses row) :=
  inferInstanceAs (Decidable (_ ∨ _))

end AddressRequest

/-- What a call returns; `none` when it panics. -/
abbrev AddressAnswer := Option (Except StoreError (Option NetworkAddressAllocationRecord))

/-- The transaction of `allocate_network_address`.  A build with overflow
checks panics where the bounds overflow. -/
def allocateBody (overflowChecks : Bool) (request : AddressRequest) (network : Ipv4Addr)
    (prefixLen : Nat) (t : AddressAllocations) : Exit × AddressAnswer × AddressAllocations :=
  match t.rows.find? (fun row => request.Reuses row) with
  | some row =>
    if request.Owns row then
      match row.record with
      | .ok record => (.commit, some (.ok (some record)), t)
      | .error error => (.abandon, some (.error error), t)
    else
      (.rollback, some (.error .networkAddressConflict), t)
  | none =>
    match (t.rows.filter (fun row => row.realmId = request.realmId)).mapM
        NetworkAddressAllocationRow.readAddress with
    | .error error => (.abandon, some (.error error), t)
    | .ok occupied =>
      if overflowChecks && boundsOverflow network prefixLen then
        (.abandon, none, t)
      else
        let (first, last) := allocationBounds network prefixLen
        match firstFree first last occupied with
        | none => (.abandon, some (.error .networkAddressExhausted), t)
        | some address =>
          match t.insertRow? (request.record address).row with
          | none => (.abandon, some (.error .networkAddressConflict), t)
          | some t' => (.commit, some (.ok (some (request.record address))), t')

def allocateNetworkAddress (overflowChecks : Bool) (request : AddressRequest) :
    Job AddressAllocations AddressAnswer :=
  if isBlank request.projectId || isBlank request.operationId then
    .refused (some (.error (.corrupt "network address allocation has empty identity")))
  else
    match parseIpv4Prefix request.prefixText with
    | .error error => .refused (some (.error error))
    | .ok (network, prefixLen) =>
      .transaction (allocateBody overflowChecks request network prefixLen)

def releaseNetworkAddress (projectId : String) (endpointId : Uuid) :
    Job AddressAllocations AddressAnswer :=
  .statement (fun t =>
    (some (.ok none),
      t.deleteWhere (fun row => row.projectId = projectId && row.endpointId = endpointId)))

inductive AddressCall
  | allocate (request : AddressRequest)
  | release (projectId : String) (endpointId : Uuid)
  deriving DecidableEq

def AddressCall.job (overflowChecks : Bool) : AddressCall → Job AddressAllocations AddressAnswer
  | allocate request => allocateNetworkAddress overflowChecks request
  | release projectId endpointId => releaseNetworkAddress projectId endpointId

/-- The address lies strictly between the network and the broadcast address. -/
def Usable (prefixText : String) (a : Ipv4Addr) : Prop :=
  ∃ network prefixLen, parseIpv4Prefix prefixText = .ok (network, prefixLen) ∧
    network.toNat < a.toNat ∧ a.toNat < network.toNat + (2 ^ (32 - prefixLen) - 1)

variable {first last a network : Ipv4Addr} {occupied : List Ipv4Addr} {prefixText : String}
  {prefixLen : Nat}

theorem firstFree_eq_some (h : firstFree first last occupied = some a) :
    first.toNat ≤ a.toNat ∧ a.toNat ≤ last.toNat ∧ a ∉ occupied := by
  unfold firstFree at h
  have hmem := List.mem_of_find?_eq_some h
  have hfree := List.find?_some h
  simp only [List.mem_map, List.mem_range'_1] at hmem
  obtain ⟨n, hn, rfl⟩ := hmem
  have hlast := last.isLt
  rw [BitVec.toNat_ofNat, Nat.mod_eq_of_lt (by omega)]
  exact ⟨by omega, by omega, by simpa using hfree⟩

theorem firstFree_eq_none
    (h : firstFree first last occupied = none) (hfirst : first.toNat ≤ a.toNat)
    (hlast : a.toNat ≤ last.toNat) :
    a ∈ occupied := by
  unfold firstFree at h
  rw [List.find?_eq_none] at h
  have hmem : a.toNat ∈ List.range' first.toNat (last.toNat + 1 - first.toNat) :=
    List.mem_range'_1.mpr ⟨hfirst, by omega⟩
  simpa using h a (List.mem_map.mpr ⟨a.toNat, hmem, by simp⟩)

theorem parseIpv4Prefix_ok (h : parseIpv4Prefix prefixText = .ok (network, prefixLen)) :
    1 ≤ prefixLen ∧ prefixLen ≤ 30 ∧ network.toNat % 2 ^ (32 - prefixLen) = 0 := by
  unfold parseIpv4Prefix at h
  split at h
  · cases h
  · split at h
    · cases h
    · cases h
    · rename_i address length _ _
      split at h
      · cases h
      · split at h
        · cases h
        · rename_i hlen hcanonical
          simp only [not_not] at hlen hcanonical
          obtain ⟨rfl, rfl⟩ := Prod.mk.inj (Except.ok.inj h)
          have hpos : length ≠ 0 := by omega
          refine ⟨hlen.1, hlen.2, ?_⟩
          rw [hcanonical]
          rw [prefixMask, if_neg hpos] at hcanonical
          exact toNat_mod_of_and_mask hcanonical

theorem parseIpv4Prefix_error {e : StoreError} (h : parseIpv4Prefix prefixText = .error e) :
    ∃ detail, e = .corrupt detail := by
  unfold parseIpv4Prefix at h
  grind

theorem allocationBounds_toNat (h : parseIpv4Prefix prefixText = .ok (network, prefixLen)) :
    (allocationBounds network prefixLen).1.toNat = network.toNat + 1 ∧
      (allocationBounds network prefixLen).2.toNat =
        network.toNat + (2 ^ (32 - prefixLen) - 1) - 1 := by
  obtain ⟨hlow, hhigh, hmod⟩ := parseIpv4Prefix_ok h
  obtain ⟨j, hj⟩ : ∃ j, 32 - prefixLen = j := ⟨_, rfl⟩
  rw [hj] at hmod ⊢
  have hsize : 2 ^ 2 ≤ 2 ^ j := Nat.pow_le_pow_right (by omega) (by omega)
  have hbound : 2 ^ j ≤ 2 ^ 31 := Nat.pow_le_pow_right (by omega) (by omega)
  -- both the network and 2 ^ 32 are multiples of the size
  have hfits : network.toNat + 2 ^ j ≤ 2 ^ 32 := by
    have hsplit : 2 ^ 32 = 2 ^ j * 2 ^ prefixLen := by
      rw [← Nat.pow_add]
      congr 1
      omega
    obtain ⟨q, hq⟩ := Nat.dvd_of_mod_eq_zero hmod
    have hlt : 2 ^ j * q < 2 ^ j * 2 ^ prefixLen := by
      rw [← hq, ← hsplit]
      exact network.isLt
    calc network.toNat + 2 ^ j = 2 ^ j * (q + 1) := by rw [hq, Nat.mul_succ]
      _ ≤ 2 ^ j * 2 ^ prefixLen := Nat.mul_le_mul_left _ (Nat.lt_of_mul_lt_mul_left hlt)
      _ = 2 ^ 32 := hsplit.symm
  simp only [allocationBounds, hj, BitVec.toNat_add, BitVec.toNat_sub, BitVec.toNat_ofNat]
  exact ⟨by simp; omega, by simp; omega⟩

/-- The constraints of the table, and a text in the address column that is that
of an address or of none. -/
structure WellKept (t : AddressAllocations) : Prop where
  written :
    ∀ row ∈ t.rows, Ipv4Addr.parse row.address = none ∨ ∃ a, row.address = Ipv4Addr.toText a
  operations :
    ∀ row ∈ t.rows, ∀ row' ∈ t.rows, row.operationId = row'.operationId → row = row'
  addresses :
    ∀ row ∈ t.rows, ∀ row' ∈ t.rows,
      row.realmId = row'.realmId → row.address = row'.address → row = row'

variable {t t' : AddressAllocations} {request : AddressRequest}
  {row row' : NetworkAddressAllocationRow} {overflowChecks : Bool}

theorem WellKept.owns_unique
    (h : WellKept t) (hrow : row ∈ t.rows) (hrow' : row' ∈ t.rows) (howns : request.Owns row)
    (hreuses : request.Reuses row') :
    row' = row := by
  rcases hreuses with hendpoint | hoperation
  · exact t.eq_of_mem_of_key_eq hrow' hrow (hendpoint.trans howns.2.2.1.symm)
  · exact h.operations row' hrow' row hrow (hoperation.trans howns.2.2.2.symm)

theorem insertRow?_of_absent
    (hfree : ∀ row' ∈ t.rows, row'.endpointId ≠ row.endpointId ∧
      row'.operationId ≠ row.operationId ∧ (row'.realmId = row.realmId → row'.address ≠ row.address)) :
    t.insertRow? row = some (t.put row) := by
  have hany : ¬ (t.rows.any (fun r => r.operationId = row.operationId ||
      (r.realmId = row.realmId && r.address = row.address)) = true) := by
    rw [List.any_eq_true]
    rintro ⟨row', hrow', hsame⟩
    have := hfree row' hrow'
    grind
  rw [AddressAllocations.insertRow?, if_neg hany]
  exact t.insert?_of_absent (t.get?_eq_none_iff.mpr fun row' hrow' => (hfree row' hrow').1)

/-- **What the transaction does**, and when. -/
inductive Allocates (overflowChecks : Bool) (request : AddressRequest) (network : Ipv4Addr)
    (prefixLen : Nat) (t : AddressAllocations) :
    Exit × AddressAnswer × AddressAllocations → Prop
  | replayed {row : NetworkAddressAllocationRow} {record : NetworkAddressAllocationRecord}
      (mem : row ∈ t.rows) (owns : request.Owns row) (read : row.record = .ok record) :
      Allocates overflowChecks request network prefixLen t
        (.commit, some (.ok (some record)), t)
  | corrupt {row : NetworkAddressAllocationRow} {detail : String}
      (mem : row ∈ t.rows) (unread : Ipv4Addr.parse row.address = none)
      (seen : request.Owns row ∨ row.realmId = request.realmId) :
      Allocates overflowChecks request network prefixLen t
        (.abandon, some (.error (.corrupt detail)), t)
  | conflict {row : NetworkAddressAllocationRow}
      (mem : row ∈ t.rows) (reuses : request.Reuses row) (foreign : ¬ request.Owns row) :
      Allocates overflowChecks request network prefixLen t
        (.rollback, some (.error .networkAddressConflict), t)
  | panicked (new : ∀ row ∈ t.rows, ¬ request.Reuses row)
      (overflow : (overflowChecks && boundsOverflow network prefixLen) = true) :
      Allocates overflowChecks request network prefixLen t (.abandon, none, t)
  | exhausted (new : ∀ row ∈ t.rows, ¬ request.Reuses row)
      (inside : (overflowChecks && boundsOverflow network prefixLen) = false)
      (legible : ∀ row ∈ t.rows, row.realmId = request.realmId → Ipv4Addr.parse row.address ≠ none)
      (taken : ∀ a, Usable request.prefixText a →
        ∃ row ∈ t.rows, row.realmId = request.realmId ∧ row.address = a.toText) :
      Allocates overflowChecks request network prefixLen t
        (.abandon, some (.error .networkAddressExhausted), t)
  | allocated {a : Ipv4Addr} (new : ∀ row ∈ t.rows, ¬ request.Reuses row)
      (usable : Usable request.prefixText a)
      (free : ∀ row ∈ t.rows, row.realmId = request.realmId → row.address ≠ a.toText) :
      Allocates overflowChecks request network prefixLen t
        (.commit, some (.ok (some (request.record a))), t.put (request.record a).row)

theorem readAddress_eq_ok_iff : row.readAddress = .ok a ↔ Ipv4Addr.parse row.address = some a := by
  unfold NetworkAddressAllocationRow.readAddress
  split <;> simp_all

theorem record_row (record : NetworkAddressAllocationRecord) : record.row.record = .ok record := by
  simp only [NetworkAddressAllocationRow.record, NetworkAddressAllocationRow.readAddress,
    NetworkAddressAllocationRecord.row, parse_toText]
  rfl

theorem readAddress_eq_error {e : StoreError} (h : row.readAddress = .error e) :
    Ipv4Addr.parse row.address = none ∧ ∃ detail, e = .corrupt detail := by
  unfold NetworkAddressAllocationRow.readAddress at h
  split at h
  · cases h
  · rename_i hnone
    cases h
    exact ⟨hnone, _, rfl⟩

theorem WellKept.address_of_parse
    (h : WellKept t) (hrow : row ∈ t.rows) (hparse : Ipv4Addr.parse row.address = some a) :
    row.address = a.toText := by
  rcases h.written row hrow with hnone | ⟨b, hb⟩
  · cases hparse.symm.trans hnone
  · rw [hb, parse_toText] at hparse
    rw [hb, Option.some.inj hparse]

theorem allocates
    (hkept : WellKept t) (hparse : parseIpv4Prefix request.prefixText = .ok (network, prefixLen)) :
    Allocates overflowChecks request network prefixLen t
      (allocateBody overflowChecks request network prefixLen t) := by
  unfold allocateBody
  cases hfind : t.rows.find? (fun row => request.Reuses row) with
  | some row =>
    have hmem := List.mem_of_find?_eq_some hfind
    have hreuses : request.Reuses row := by
      simpa using List.find?_some hfind
    simp only
    split
    · rename_i howns
      split
      · rename_i record hread
        exact .replayed hmem howns hread
      · rename_i e hread
        cases hread' : row.readAddress with
        | ok a =>
          simp [NetworkAddressAllocationRow.record, hread', bind, Except.bind, pure,
            Except.pure] at hread
        | error e' =>
          obtain ⟨hnone, detail, rfl⟩ := readAddress_eq_error hread'
          obtain rfl : StoreError.corrupt detail = e := by
            simpa [NetworkAddressAllocationRow.record, hread', bind, Except.bind] using hread
          exact .corrupt hmem hnone (.inl howns)
    · rename_i hforeign
      exact .conflict hmem hreuses hforeign
  | none =>
    have hnew : ∀ row ∈ t.rows, ¬ request.Reuses row := by
      simpa using hfind
    have hrows : ∀ row ∈ t.rows.filter (fun row => row.realmId = request.realmId),
        row ∈ t.rows ∧ row.realmId = request.realmId := by
      simp
    simp only
    split
    · rename_i e hread
      obtain ⟨row, hrow, he⟩ := except_mapM_error hread
      obtain ⟨hnone, detail, rfl⟩ := readAddress_eq_error he
      exact .corrupt (hrows row hrow).1 hnone (.inr (hrows row hrow).2)
    · rename_i occupied hread
      obtain ⟨hfirst, hlast⟩ := allocationBounds_toNat hparse
      split
      · rename_i hoverflow
        exact .panicked hnew hoverflow
      · rename_i hinside
        split
        · rename_i hnone
          refine .exhausted hnew (by simpa using hinside) ?_ ?_
          · intro row hrow hrealm hunread
            obtain ⟨a, _, ha⟩ := except_mapM_ok_of_mem hread (List.mem_filter.mpr ⟨hrow, by simpa⟩)
            cases hunread.symm.trans (readAddress_eq_ok_iff.mp ha)
          · rintro a ⟨network', prefixLen', hparse', hlow, hhigh⟩
            obtain ⟨rfl, rfl⟩ := Prod.mk.inj (Except.ok.inj (hparse.symm.trans hparse'))
            have hoccupied := firstFree_eq_none hnone (a := a) (by omega) (by omega)
            obtain ⟨row, hrow, ha⟩ := (mem_of_except_mapM hread).mp hoccupied
            exact ⟨row, (hrows row hrow).1, (hrows row hrow).2,
              hkept.address_of_parse (hrows row hrow).1 (readAddress_eq_ok_iff.mp ha)⟩
        · rename_i a hsome
          obtain ⟨hlow, hhigh, hfree⟩ := firstFree_eq_some hsome
          have husable : Usable request.prefixText a :=
            ⟨network, prefixLen, hparse, by omega, by omega⟩
          have hunused : ∀ row ∈ t.rows, row.realmId = request.realmId →
              row.address ≠ a.toText := by
            intro row hrow hrealm haddress
            refine hfree ((mem_of_except_mapM hread).mpr
              ⟨row, List.mem_filter.mpr ⟨hrow, by simpa⟩, readAddress_eq_ok_iff.mpr ?_⟩)
            rw [haddress, parse_toText]
          have hinsert : t.insertRow? (request.record a).row =
              some (t.put (request.record a).row) := by
            refine insertRow?_of_absent fun row hrow => ?_
            exact ⟨fun h => hnew row hrow (.inl h), fun h => hnew row hrow (.inr h),
              hunused row hrow⟩
          rw [hinsert]
          exact .allocated hnew husable hunused

namespace AddressRequest

/-- The identity is not empty and the prefix is one to allocate from. -/
def Admitted (request : AddressRequest) (network : Ipv4Addr) (prefixLen : Nat) : Prop :=
  (isBlank request.projectId = false ∧ isBlank request.operationId = false) ∧
    parseIpv4Prefix request.prefixText = .ok (network, prefixLen)

end AddressRequest

/-- An allocation is refused without a connection, or does what its transaction
does: what it leaves behind is in the database only where it commits. -/
theorem allocate_effect (overflowChecks : Bool) (request : AddressRequest) (hkept : WellKept t) :
    ((∃ detail, ((AddressCall.allocate request).job overflowChecks).effect t =
          (some (.error (.corrupt detail)), t)) ∧
        ∀ network prefixLen, ¬ request.Admitted network prefixLen)
      ∨
    ∃ network prefixLen exit, request.Admitted network prefixLen ∧
      Allocates overflowChecks request network prefixLen t
        (exit, ((AddressCall.allocate request).job overflowChecks).effect t) := by
  simp only [AddressCall.job, allocateNetworkAddress]
  split
  · rename_i hblank
    exact .inl ⟨⟨_, rfl⟩, fun _ _ h => by simp [h.1.1, h.1.2] at hblank⟩
  · rename_i hnamed
    cases hparse : parseIpv4Prefix request.prefixText with
    | error e =>
      refine .inl ⟨?_, fun _ _ h => by cases hparse.symm.trans h.2⟩
      obtain ⟨detail, rfl⟩ := parseIpv4Prefix_error hparse
      exact ⟨detail, rfl⟩
    | ok p =>
      obtain ⟨network, prefixLen⟩ := p
      have h := @allocates _ _ _ _ overflowChecks hkept hparse
      refine .inr ⟨network, prefixLen,
        (allocateBody overflowChecks request network prefixLen t).1,
        ⟨by simpa using hnamed, hparse⟩, ?_⟩
      simp only [Job.effect]
      generalize allocateBody overflowChecks request network prefixLen t = r at h ⊢
      cases h with
      | replayed mem owns read => exact .replayed mem owns read
      | corrupt mem unread seen => exact .corrupt mem unread seen
      | conflict mem reuses foreign => exact .conflict mem reuses foreign
      | panicked new overflow => exact .panicked new overflow
      | exhausted new inside legible taken => exact .exhausted new inside legible taken
      | allocated new usable free => exact .allocated new usable free

theorem wellKept_empty :
    WellKept ∅ where
  written _ h := by cases h
  operations _ h := by cases h
  addresses _ h := by cases h

theorem WellKept.put (h : WellKept t) (hnew : ∀ row ∈ t.rows, ¬ request.Reuses row)
    (hfree : ∀ row ∈ t.rows, row.realmId = request.realmId → row.address ≠ a.toText) :
    WellKept (t.put (request.record a).row) := by
  have hrows := fun row => t.mem_put (r := (request.record a).row) (x := row)
  refine ⟨fun row hrow => ?_, fun row hrow row' hrow' hsame => ?_,
    fun row hrow row' hrow' hrealm hsame => ?_⟩
  · rcases (hrows row).mp hrow with rfl | ⟨hrow, _⟩
    · exact .inr ⟨a, rfl⟩
    · exact h.written row hrow
  · rcases (hrows row).mp hrow with rfl | ⟨hrow, _⟩ <;>
      rcases (hrows row').mp hrow' with rfl | ⟨hrow', _⟩
    · rfl
    · exact absurd (.inr hsame.symm) (hnew row' hrow')
    · exact absurd (.inr hsame) (hnew row hrow)
    · exact h.operations row hrow row' hrow' hsame
  · rcases (hrows row).mp hrow with rfl | ⟨hrow, _⟩ <;>
      rcases (hrows row').mp hrow' with rfl | ⟨hrow', _⟩
    · rfl
    · exact absurd hsame.symm (hfree row' hrow' hrealm.symm)
    · exact absurd hsame (hfree row hrow hrealm)
    · exact h.addresses row hrow row' hrow' hrealm hsame

/-- **Every call**, run alone, keeps the table well. -/
theorem WellKept.effect (h : WellKept t) (overflowChecks : Bool) (call : AddressCall) :
    WellKept ((call.job overflowChecks).effect t).2 := by
  cases call with
  | allocate request =>
    rcases allocate_effect overflowChecks request h with
      ⟨⟨_, heffect⟩, _⟩ | ⟨_, _, _, _, hallocates⟩
    · rw [heffect]
      exact h
    · generalize ((AddressCall.allocate request).job overflowChecks).effect t = r at hallocates
      cases hallocates with
      | allocated new usable free => exact h.put new free
      | _ => exact h
  | release projectId endpointId =>
    have hrows : ∀ row ∈ (t.deleteWhere fun row => row.projectId = projectId &&
        row.endpointId = endpointId).rows, row ∈ t.rows := fun row hrow =>
      (t.mem_deleteWhere.mp hrow).1
    exact ⟨fun row hrow => h.written row (hrows row hrow),
      fun row hrow row' hrow' => h.operations row (hrows row hrow) row' (hrows row' hrow'),
      fun row hrow row' hrow' => h.addresses row (hrows row hrow) row' (hrows row' hrow')⟩

end Network
end O3k
