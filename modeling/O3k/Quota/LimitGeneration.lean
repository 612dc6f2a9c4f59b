import O3k.Quota.Store

/-!
# Changing a limit at a known generation

`set_limit_if_generation` and its audited variant, on both repositories.  The
statement inserts a missing row whatever generation the caller expects.
-/

namespace O3k
namespace Quota

open Relational Relational.Transaction

structure AuditEventRecord where
  eventId : String
  timestamp : String
  requestId : String
  auditId : String
  principalId : String
  principalKind : String
  effectiveScope : String
  service : String
  action : String
  resourceType : Option String
  resourceId : Option String
  ownerScope : Option String
  operationId : Option String
  outcome : String
  reasonCategory : Option String
  deriving DecidableEq

/-- The quota tables beside `audit_events`. -/
structure AuditedQuota where
  quota : QuotaStore
  auditEvents : Table AuditEventRecord.eventId

/-- What a caller asks for. -/
structure LimitChange where
  scope : OwnershipScope
  key : LimitKey
  limit : LimitValue
  expectedGeneration : Nat

variable (c : LimitChange)

namespace LimitChange

def storedGeneration (s : QuotaStore) : Nat :=
  ((s.limits.get? (limitRowKey c.scope c.key)).map QuotaLimitRow.generation).getD 0

def checkKey : Except StoreError Unit :=
  if c.key.isKnown then .ok ()
  else .error (.corrupt ("unknown or unregistered limit key '" ++ c.key.text ++ "'"))

/-- `i64::try_from` of a generation. -/
def checkGeneration (generation : Nat) : Except StoreError Unit :=
  if generation ≤ integerMax then .ok () else .error (.corrupt "quota generation overflow")

def nextGeneration : Except StoreError Nat :=
  checkedAdd c.expectedGeneration 1 (.corrupt "quota generation overflow")

/-- `i64::try_from` of a maximum. -/
def checkLimit (overflow : Nat → String) : Except StoreError Unit :=
  match c.limit with
  | .unlimited => .ok ()
  | .maximum max => if max ≤ integerMax then .ok () else .error (.corrupt (overflow max))

/-- `INSERT … ON CONFLICT … DO UPDATE … WHERE generation = ?`; nothing where no row
is affected. -/
def upsert? (next : Nat) (s : QuotaStore) : Option QuotaStore :=
  let written := { s with limits := s.limits.put ⟨c.scope, c.key, c.limit, next⟩ }
  match s.limits.get? (limitRowKey c.scope c.key) with
  | none => some written
  | some row => if row.generation = c.expectedGeneration then some written else none

/-- `set_limit_if_generation` after its checks. -/
def setLimit (checked : Except StoreError Nat) : QuotaBody Nat := do
  let next ← fromExcept checked
  let s ← get
  let s' ← orFail (c.upsert? next s) .quotaGenerationConflict
  set s'
  pure next

/-- `set_limit_if_generation_with_audit` after its checks. -/
def setLimitWithAudit (checked : Except StoreError Nat) (audit : AuditEventRecord) :
    Transaction AuditedQuota StoreError Nat := do
  let next ← fromExcept checked
  let d ← get
  let quota ← orFail (c.upsert? next d.quota) .quotaGenerationConflict
  let auditEvents ← orFail (d.auditEvents.insert? audit) .auditEventConflict
  set (AuditedQuota.mk quota auditEvents)
  pure next

end LimitChange

def signedOverflow (max : Nat) : String :=
  "limit maximum " ++ toString max ++ " exceeds signed 64-bit"

def limitOverflow (_ : Nat) : String := "quota limit overflow"

namespace Sqlite

def checkChange (overflow : Nat → String) : Except StoreError Nat := do
  c.checkKey
  LimitChange.checkGeneration c.expectedGeneration
  let next ← c.nextGeneration
  LimitChange.checkGeneration next
  c.checkLimit overflow
  pure next

def setLimitIfGeneration : QuotaStore → Except StoreError Nat × QuotaStore :=
  atomically (c.setLimit (checkChange c signedOverflow))

def setLimitIfGenerationWithAudit (audit : AuditEventRecord) :
    AuditedQuota → Except StoreError Nat × AuditedQuota :=
  atomically (c.setLimitWithAudit (checkChange c limitOverflow) audit)

end Sqlite

namespace Postgres

def checkChange (overflow : Nat → String) : Except StoreError Nat := do
  c.checkKey
  let next ← c.nextGeneration
  c.checkLimit overflow
  LimitChange.checkGeneration next
  LimitChange.checkGeneration c.expectedGeneration
  pure next

def setLimitIfGeneration : QuotaStore → Except StoreError Nat × QuotaStore :=
  atomically (c.setLimit (checkChange c signedOverflow))

def setLimitIfGenerationWithAudit (audit : AuditEventRecord) :
    AuditedQuota → Except StoreError Nat × AuditedQuota :=
  atomically (c.setLimitWithAudit (checkChange c limitOverflow) audit)

end Postgres

namespace LimitChange

/-- A known key, a generation with a successor in the column, a maximum that fits. -/
def Admissible : Prop :=
  c.key.isKnown ∧ c.expectedGeneration + 1 ≤ integerMax ∧
    ∀ max, c.limit = .maximum max → max ≤ integerMax

/-- The row is there, or is expected to be missing. -/
def FindsRow (s : QuotaStore) : Prop :=
  (s.limits.get? (limitRowKey c.scope c.key)).isSome ∨ c.expectedGeneration = 0

/-- The change is made at the generation expected, and refused at any other. -/
def ComparesAndSets (s : QuotaStore) (reply : Except StoreError Nat) (s' : QuotaStore) : Prop :=
  let next := c.expectedGeneration + 1
  if c.storedGeneration s = c.expectedGeneration then
    reply = .ok next ∧ s' = { s with limits := s.limits.put ⟨c.scope, c.key, c.limit, next⟩ }
  else
    reply = .error .quotaGenerationConflict ∧ s' = s

/-- So it is, and the audit record is added exactly with the change. -/
def ComparesAndRecords
    (audit : AuditEventRecord) (d : AuditedQuota) (r : Except StoreError Nat × AuditedQuota) :
    Prop :=
  c.ComparesAndSets d.quota r.1 r.2.quota ∧
    if c.storedGeneration d.quota = c.expectedGeneration then
      d.auditEvents.insert? audit = some r.2.auditEvents
    else
      r.2.auditEvents = d.auditEvents

/-- The change is refused before the store is read, or is admissible. -/
def Checks (checked : Except StoreError Nat) : Prop :=
  (c.Admissible ∧ checked = .ok (c.expectedGeneration + 1)) ∨
    ¬ c.Admissible ∧ ∃ detail, checked = .error (.corrupt detail)

variable {c} {checked : Except StoreError Nat} {s : QuotaStore}

theorem upsert?_eq (hfinds : c.FindsRow s) :
    c.upsert? (c.expectedGeneration + 1) s = if c.storedGeneration s = c.expectedGeneration then
      some
        { s with
          limits := s.limits.put ⟨c.scope, c.key, c.limit, c.expectedGeneration + 1⟩ }
    else none := by
  unfold upsert? storedGeneration
  cases hrow : s.limits.get? (limitRowKey c.scope c.key) with
  | none =>
    have hzero : c.expectedGeneration = 0 := by simpa [FindsRow, hrow] using hfinds
    simp [hzero]
  | some row => rfl

theorem upsert?_of_not_findsRow (hfinds : ¬ c.FindsRow s) (next : Nat) :
    c.storedGeneration s ≠ c.expectedGeneration ∧ c.upsert? next s =
      some { s with limits := s.limits.put ⟨c.scope, c.key, c.limit, next⟩ } := by
  obtain ⟨hrow, hne⟩ := not_or.mp hfinds
  rw [Option.not_isSome_iff_eq_none] at hrow
  unfold upsert? storedGeneration
  rw [hrow]
  exact ⟨fun h => hne h.symm, rfl⟩

theorem comparesAndSets_iff (hchecks : c.Checks checked) :
    c.ComparesAndSets s (atomically (c.setLimit checked) s).1
        (atomically (c.setLimit checked) s).2 ↔ c.Admissible ∧ c.FindsRow s := by
  rcases hchecks with ⟨hadmissible, rfl⟩ | ⟨hrefused, detail, rfl⟩
  · by_cases hfinds : c.FindsRow s
    · refine iff_of_true ?_ ⟨hadmissible, hfinds⟩
      by_cases hgeneration : c.storedGeneration s = c.expectedGeneration
      · have hupsert := (upsert?_eq hfinds).trans (if_pos hgeneration)
        simp [ComparesAndSets, setLimit, atomically, orFail, fromExcept, hupsert, hgeneration]
      · have hupsert := (upsert?_eq hfinds).trans (if_neg hgeneration)
        simp [ComparesAndSets, setLimit, atomically, orFail, fromExcept, hupsert, hgeneration]
    · refine iff_of_false ?_ (fun h => hfinds h.2)
      obtain ⟨hne, hupsert⟩ := upsert?_of_not_findsRow hfinds (c.expectedGeneration + 1)
      simp [ComparesAndSets, setLimit, atomically, orFail, fromExcept, hupsert, hne]
  · refine iff_of_false ?_ (fun h => hrefused h.1)
    simp [ComparesAndSets, setLimit, atomically, fromExcept]

theorem comparesAndRecords_iff {audit : AuditEventRecord} {d : AuditedQuota}
    (hchecks : c.Checks checked) :
    c.ComparesAndRecords audit d (atomically (c.setLimitWithAudit checked audit) d) ↔
    c.Admissible ∧ c.FindsRow d.quota ∧
      (c.storedGeneration d.quota = c.expectedGeneration →
        d.auditEvents.get? audit.eventId = none) := by
  rcases hchecks with ⟨hadmissible, rfl⟩ | ⟨hrefused, detail, rfl⟩
  · by_cases hfinds : c.FindsRow d.quota
    · by_cases hgeneration : c.storedGeneration d.quota = c.expectedGeneration
      · have hupsert := (upsert?_eq hfinds).trans (if_pos hgeneration)
        cases hevent : d.auditEvents.get? audit.eventId <;>
          simp [ComparesAndRecords, ComparesAndSets, setLimitWithAudit, atomically, orFail,
            fromExcept, Table.insert?, hupsert, hgeneration, hevent, hadmissible, hfinds]
      · have hupsert := (upsert?_eq hfinds).trans (if_neg hgeneration)
        simp [ComparesAndRecords, ComparesAndSets, setLimitWithAudit, atomically, orFail,
          fromExcept, hupsert, hgeneration, hadmissible, hfinds]
    · refine iff_of_false ?_ (fun h => hfinds h.2.1)
      obtain ⟨hne, hupsert⟩ := upsert?_of_not_findsRow hfinds (c.expectedGeneration + 1)
      cases hevent : d.auditEvents.get? audit.eventId <;>
        simp [ComparesAndRecords, ComparesAndSets, setLimitWithAudit, atomically, orFail,
          fromExcept, Table.insert?, hupsert, hne, hevent]
  · refine iff_of_false ?_ (fun h => hrefused h.1)
    simp [ComparesAndRecords, ComparesAndSets, setLimitWithAudit, atomically, fromExcept]

theorem checks_checkChange (overflow : Nat → String) :
    c.Checks (Sqlite.checkChange c overflow) ∧ c.Checks (Postgres.checkChange c overflow) := by
  unfold Checks Admissible Sqlite.checkChange Postgres.checkChange checkKey nextGeneration
    checkedAdd checkGeneration checkLimit
  have hbound : integerMax ≤ u64Max := by decide
  by_cases hkey : c.key.isKnown
  · have hlimit :
        (∃ max, c.limit = .maximum max ∧ ¬ max ≤ integerMax) ∨
          c.limit = .unlimited ∨ ∃ max, c.limit = .maximum max ∧ max ≤ integerMax := by
      cases c.limit <;> simp [Nat.lt_or_ge]
    by_cases hnext : c.expectedGeneration + 1 ≤ integerMax
    · have hexpected : c.expectedGeneration ≤ integerMax := by omega
      have hfits : c.expectedGeneration + 1 ≤ u64Max := hnext.trans hbound
      rcases hlimit with ⟨max, hlimit, hmax⟩ | hlimit | ⟨max, hlimit, hmax⟩ <;>
        simp [bind, Except.bind, pure, Except.pure, *]
    · by_cases hexpected : c.expectedGeneration ≤ integerMax <;>
        by_cases hfits : c.expectedGeneration + 1 ≤ u64Max <;>
        rcases hlimit with ⟨max, hlimit, hmax⟩ | hlimit | ⟨max, hlimit, hmax⟩ <;>
        simp [bind, Except.bind, *]
  · simp [bind, Except.bind, hkey]

end LimitChange

/-- The four calls compare and set exactly where the change is admissible and the
row is there or is expected to be missing; with an audit record, its event must
be new where the change is to be made. -/
theorem set_limit_if_generation_iff (s : QuotaStore) (audit : AuditEventRecord) (d : AuditedQuota) :
    (c.ComparesAndSets s (Sqlite.setLimitIfGeneration c s).1 (Sqlite.setLimitIfGeneration c s).2
        ↔ c.Admissible ∧ c.FindsRow s) ∧
      (c.ComparesAndSets s (Postgres.setLimitIfGeneration c s).1
          (Postgres.setLimitIfGeneration c s).2
        ↔ c.Admissible ∧ c.FindsRow s) ∧
      (c.ComparesAndRecords audit d (Sqlite.setLimitIfGenerationWithAudit c audit d) ↔
      c.Admissible ∧ c.FindsRow d.quota ∧
        (c.storedGeneration d.quota = c.expectedGeneration →
          d.auditEvents.get? audit.eventId = none)) ∧
      (c.ComparesAndRecords audit d (Postgres.setLimitIfGenerationWithAudit c audit d) ↔
      c.Admissible ∧ c.FindsRow d.quota ∧
        (c.storedGeneration d.quota = c.expectedGeneration →
          d.auditEvents.get? audit.eventId = none)) :=
  ⟨LimitChange.comparesAndSets_iff (LimitChange.checks_checkChange _).1,
    LimitChange.comparesAndSets_iff (LimitChange.checks_checkChange _).2,
    LimitChange.comparesAndRecords_iff (LimitChange.checks_checkChange _).1,
    LimitChange.comparesAndRecords_iff (LimitChange.checks_checkChange _).2⟩

/-- A limit expected at generation seven, in a store without limits. -/
def unseenLimit : LimitChange := ⟨⟨"p", .project⟩, ⟨"network", "ports"⟩, .maximum 1, 7⟩

/-- Both repositories store it and answer eight. -/
theorem set_limit_if_generation_unseen :
    let s : QuotaStore := ⟨∅, ∅, ⟨[], [], [], [], [], [], []⟩⟩
    unseenLimit.Admissible ∧
      (Sqlite.setLimitIfGeneration unseenLimit s).1 = .ok 8 ∧
      (Postgres.setLimitIfGeneration unseenLimit s).1 = .ok 8 ∧
      ¬ unseenLimit.ComparesAndSets s (Sqlite.setLimitIfGeneration unseenLimit s).1
        (Sqlite.setLimitIfGeneration unseenLimit s).2 ∧
      ¬ unseenLimit.ComparesAndSets s (Postgres.setLimitIfGeneration unseenLimit s).1
        (Postgres.setLimitIfGeneration unseenLimit s).2 :=
  ⟨⟨by decide, by decide, fun _ hmax => LimitValue.maximum.inj hmax ▸ by decide⟩,
    by decide, by decide, (fun h => by cases h.1), (fun h => by cases h.1)⟩

end Quota
end O3k
