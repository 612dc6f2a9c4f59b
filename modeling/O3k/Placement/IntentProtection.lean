import O3k.Placement.PostgresEffects
import O3k.Placement.SqliteReplies
import O3k.Relational.Inserts
import O3k.Relational.Sorting

/-!
# Intents that are stored already

An intent announces an allocation under an id; another one under the id has to
be refused.  SQLite inserts what is missing and compares afterwards, so that an
intent with fewer resources is extended by one with more.  PostgreSQL
overwrites whatever is stored.
-/

namespace O3k
namespace Placement

open Relational Relational.Transaction Semantics

variable {Q R : Type}

/-- An intent that passes validation, with amounts that a column can hold. -/
def ValidIntent (intent : PlacementIntentRecord) : Prop :=
  Sqlite.invalidAllocation intent = false ∧
    ∀ resource ∈ intent.resources, resource.amount ≤ Sqlite.i64Max

instance (intent : PlacementIntentRecord) : Decidable (ValidIntent intent) :=
  inferInstanceAs (Decidable (_ ∧ _))

/-- Another intent is stored under the id. -/
def OtherStored (toU64 : Q → Nat) (t : PlacementTables Q R) (intent : PlacementIntentRecord) :
    Prop :=
  ∃ before, t.getIntent toU64 intent.id = some before ∧ before ≠ intent

/-- What `upsert_intent` owes a stored intent: what it accepts is stored as
given and replaces nothing, and another intent under the id is a conflict, or
malformed, and changes nothing. -/
structure IntentProtected
    (toU64 : Q → Nat) (intent : PlacementIntentRecord) (t : PlacementTables Q R)
    (outcome : Except StoreError PlacementIntentRecord × PlacementTables Q R) : Prop where
  accepted :
    ∀ answer, outcome.1 = .ok answer →
      outcome.2.getIntent toU64 intent.id = some intent ∧ ¬ OtherStored toU64 t intent
  refused :
    OtherStored toU64 t intent →
      outcome.2 = t ∧
        ∃ e, outcome.1 = .error e ∧ (ValidIntent intent → e = .placementIntentConflict)

def ProtectsIntents (toU64 : Q → Nat)
    (exec : (c : RepositoryCall R) → PlacementTables Q R → c.Reply × PlacementTables Q R)
    (t : PlacementTables Q R) :
    RepositoryCall R → Prop
  | .upsertIntent intent => IntentProtected toU64 intent t (exec (.upsertIntent intent) t)
  | _ => True

/-- Resources in the order of their classes. -/
abbrev InOrder (intent : PlacementIntentRecord) : Prop :=
  StrictlySorted PlacementResourceRecord.resourceClass intent.resources

theorem getIntent_putIntent (toU64 : Q → Nat) (t : PlacementTables Q R) (row : AllocationRow Q) :
    (t.putIntent row).getIntent toU64 row.id = some (row.record toU64) := by
  simp [PlacementTables.getIntent, PlacementTables.putIntent]

theorem inOrder_record (toU64 : Q → Nat) (row : AllocationRow Q) : InOrder (row.record toU64) :=
  List.pairwise_map.mpr row.resources.sorted

theorem intentProtected_of_error {toU64 : Q → Nat} {intent : PlacementIntentRecord}
    {t : PlacementTables Q R} {e : StoreError}
    (h : ValidIntent intent → e = .placementIntentConflict) :
    IntentProtected toU64 intent t (.error e, t) where
  accepted := fun _ hok => by cases hok
  refused := fun _ => ⟨rfl, e, rfl, h⟩

namespace Sqlite

/-- The intent has what is stored, and more. -/
def Extends (before intent : PlacementIntentRecord) : Prop :=
  before.providerId = intent.providerId ∧
    before.consumerId = intent.consumerId ∧
    InOrder intent ∧
    ∀ resource ∈ before.resources, resource ∈ intent.resources

/-- The call extends no stored intent. -/
def ExtendsNone (t : Tables R) : RepositoryCall R → Prop
  | .upsertIntent intent =>
    ∀ before, t.getIntent id intent.id = some before →
      before ≠ intent → ValidIntent intent → ¬ Extends before intent
  | _ => True

theorem insertOrIgnoreResources_of_fits {records : List PlacementResourceRecord}
    (hfits : ∀ record ∈ records, record.amount ≤ i64Max) (rows : Resources Nat) :
    ∃ rows',
      insertOrIgnoreResources records rows = .ok rows' ∧ (∀ row ∈ rows.rows, row ∈ rows'.rows) ∧
        (∀ row ∈ rows'.rows, row ∈ rows.rows ∨
          ∃ record ∈ records, row = ⟨record.resourceClass, record.amount⟩) ∧
        ∀ record ∈ records, ∃ row ∈ rows'.rows, row.resourceClass = record.resourceClass := by
  induction records generalizing rows with
  | nil => exact ⟨rows, rfl, fun _ h => h, fun _ h => Or.inl h, fun _ h => by cases h⟩
  | cons record rest ih =>
    have hamount : placementI64 record.amount = .ok record.amount :=
      if_pos (hfits record List.mem_cons_self)
    let next := (rows.insert? ⟨record.resourceClass, record.amount⟩).getD rows
    obtain ⟨rows', hok, hkept, honly, hclasses⟩ :=
      ih (fun r hr => hfits r (List.mem_cons_of_mem _ hr)) next
    have hnext :
        (∀ row ∈ rows.rows, row ∈ next.rows) ∧
          (∀ row ∈ next.rows, row ∈ rows.rows ∨ row = ⟨record.resourceClass, record.amount⟩) ∧
          ∃ row ∈ next.rows, row.resourceClass = record.resourceClass := by
      cases hget : rows.get? record.resourceClass with
      | some stored =>
        have hsame : next = rows := by
          simp [next, Table.insert?, hget]
        rw [hsame]
        exact ⟨fun _ h => h, fun _ h => Or.inl h,
          stored, rows.mem_of_get? hget, rows.key_of_get? hget⟩
      | none =>
        have hput : next = rows.put ⟨record.resourceClass, record.amount⟩ := by
          simp [next, Table.insert?, hget]
        rw [hput]
        refine ⟨?_, ?_, _, rows.mem_put.mpr (Or.inl rfl), rfl⟩
        · intro row hrow
          refine rows.mem_put.mpr (Or.inr ⟨hrow, ?_⟩)
          exact fun hkey => rows.get?_eq_none_iff.mp hget row hrow hkey
        · intro row hrow
          rcases rows.mem_put.mp hrow with h | ⟨h, _⟩
          · exact Or.inr h
          · exact Or.inl h
    obtain ⟨hfirst, hadded, hclass⟩ := hnext
    refine ⟨rows', except_bind_eq_ok.mpr ⟨_, hamount, hok⟩,
      fun row hrow => hkept row (hfirst row hrow), ?_, ?_⟩
    · intro row hrow
      rcases honly row hrow with h | ⟨r, hr, heq⟩
      · rcases hadded row h with h | heq
        · exact Or.inl h
        · exact Or.inr ⟨record, List.mem_cons_self, heq⟩
      · exact Or.inr ⟨r, List.mem_cons_of_mem _ hr, heq⟩
    · intro r hr
      rcases List.mem_cons.mp hr with rfl | hr
      · obtain ⟨row, hrow, heq⟩ := hclass
        exact ⟨row, hkept row hrow, heq⟩
      · exact hclasses r hr

/-- After the inserts the row reads as the intent exactly when it extends what
was stored. -/
theorem record_eq_iff_extends {before : AllocationRow Nat} {intent : PlacementIntentRecord}
    (hid : before.id = intent.id) {rows : Resources Nat}
    (hkept : ∀ row ∈ before.resources.rows, row ∈ rows.rows)
    (honly :
      ∀ row ∈ rows.rows, row ∈ before.resources.rows ∨
        ∃ record ∈ intent.resources, row = ⟨record.resourceClass, record.amount⟩)
    (hclasses :
      ∀ record ∈ intent.resources, ∃ row ∈ rows.rows, row.resourceClass = record.resourceClass) :
    ({ before with resources := rows } : AllocationRow Nat).record id = intent
      ↔
    Extends (before.record id) intent := by
  have hrecord :
      ∀ row : AllocationRow Nat, ∀ resource : PlacementResourceRecord,
        resource ∈ (row.record id).resources ↔
          (⟨resource.resourceClass, resource.amount⟩ : ResourceRow Nat) ∈ row.resources.rows := by
    intro row resource
    simp only [AllocationRow.record, List.mem_map, ResourceRow.record, id]
    constructor
    · rintro ⟨stored, hstored, rfl⟩
      exact hstored
    · exact fun h => ⟨_, h, rfl⟩
  constructor
  · rintro rfl
    refine ⟨rfl, rfl, inOrder_record id _, ?_⟩
    intro resource hresource
    exact (hrecord _ resource).mpr (hkept _ ((hrecord before resource).mp hresource))
  · rintro ⟨hprovider, hconsumer, horder, hsubset⟩
    have hmem :
        ∀ resource, resource ∈ rows.rows.map (ResourceRow.record id) ↔
          resource ∈ intent.resources := by
      have hforward :
          ∀ resource, resource ∈ rows.rows.map (ResourceRow.record id) →
            resource ∈ intent.resources := by
        intro resource hresource
        obtain ⟨row, hrow, rfl⟩ := List.mem_map.mp hresource
        rcases honly row hrow with hold | ⟨record, hin, rfl⟩
        · exact hsubset _ ((hrecord before _).mpr hold)
        · exact hin
      intro resource
      refine ⟨hforward resource, ?_⟩
      intro hresource
      obtain ⟨row, hrow, hclass⟩ := hclasses resource hresource
      have hread := hforward _ (List.mem_map_of_mem (f := ResourceRow.record id) hrow)
      rw [horder.eq_of_key_eq hresource hread hclass.symm]
      exact List.mem_map_of_mem hrow
    have hresources : rows.rows.map (ResourceRow.record id) = intent.resources :=
      StrictlySorted.eq_of_mem_iff (List.pairwise_map.mpr rows.sorted) horder hmem
    obtain ⟨_, _, _, _⟩ := intent
    simp only [AllocationRow.record] at hid hprovider hconsumer hresources ⊢
    rw [hid, hprovider, hconsumer, hresources]

section UpsertIntent

variable {t : Tables R} {intent : PlacementIntentRecord}

theorem upsertIntent_of_invalid (h : ¬ ValidIntent intent) :
    ∃ e, upsertIntent intent t = (.error e, t) := by
  unfold upsertIntent
  split_ifs with hinvalid
  · exact ⟨_, rfl⟩
  · cases hbody : upsertIntentBody intent t with
    | error e => exact ⟨e, atomically_of_error hbody⟩
    | ok outcome =>
      obtain ⟨_, _, _, _, _, hamounts⟩ := upsertIntentBody_ok hbody
      exact absurd ⟨by simpa using hinvalid, hamounts⟩ h

theorem upsertIntent_of_valid (h : ValidIntent intent) :
    upsertIntent intent t = atomically (upsertIntentBody intent) t := by
  rw [upsertIntent, if_neg (by simp [h.1])]

/-- What is accepted is stored as given. -/
theorem getIntent_upsertIntent (hvalid : ValidIntent intent) {answer : PlacementIntentRecord}
    (hok : (upsertIntent intent t).1 = .ok answer) :
    (upsertIntent intent t).2.getIntent id intent.id = some intent := by
  rw [upsertIntent_of_valid hvalid] at hok ⊢
  obtain ⟨t', ht'⟩ : ∃ t', atomically (upsertIntentBody intent) t = (.ok answer, t') :=
    ⟨_, Prod.ext hok rfl⟩
  obtain ⟨row, hrecord, _, hput, _⟩ := upsertIntentBody_ok (atomically_ok_iff.mp ht')
  rw [ht', hput, ← hrecord]
  exact getIntent_putIntent id t row

theorem intentProtected_of_absent
    (hvalid : ValidIntent intent) (habsent : t.intents.get? intent.id = none) :
    IntentProtected id intent t (upsertIntent intent t) := by
  have hfree : ¬ OtherStored id t intent := by
    rintro ⟨_, hsome, _⟩
    simp [PlacementTables.getIntent, habsent] at hsome
  exact ⟨fun _ hok => ⟨getIntent_upsertIntent hvalid hok, hfree⟩, fun h => absurd h hfree⟩

theorem upsertIntent_of_stored {before : AllocationRow Nat}
    (hvalid : ValidIntent intent) (hstored : t.intents.get? intent.id = some before) :
    (Extends (before.record id) intent ∧ (upsertIntent intent t).1 = .ok intent) ∨
      (¬ Extends (before.record id) intent ∧
        upsertIntent intent t = (.error .placementIntentConflict, t)) := by
  have hid : before.id = intent.id := t.intents.key_of_get? hstored
  obtain ⟨rows, hok, hkept, honly, hclasses⟩ :=
    insertOrIgnoreResources_of_fits hvalid.2 before.resources
  have hextends := record_eq_iff_extends hid hkept honly hclasses
  let row : AllocationRow Nat := { before with resources := rows }
  have hbody :
      upsertIntentBody intent t
        =
      (require (row.record id = intent) .placementIntentConflict >>= fun _ => do
        modify (fun t => t.putIntent row)
        return row.record id) t := by
    simp only [upsertIntentBody, insertOrIgnoreIntent, bind_assoc, get_bind_apply, hstored,
      pure_bind, hok, fromExcept_ok_bind, row]
  rw [upsertIntent_of_valid hvalid]
  by_cases heq : row.record id = intent
  · rw [require_bind_of_pos _ _ heq] at hbody
    rw [atomically_of_ok hbody]
    exact Or.inl ⟨hextends.mp heq, congrArg Except.ok heq⟩
  · rw [require_bind_of_neg _ _ heq] at hbody
    rw [atomically_of_error hbody]
    exact Or.inr ⟨fun h => heq (hextends.mpr h), rfl⟩

theorem intentProtected_iff_of_stored {before : AllocationRow Nat}
    (hvalid : ValidIntent intent) (hstored : t.intents.get? intent.id = some before) :
    IntentProtected id intent t (upsertIntent intent t) ↔
    (before.record id ≠ intent → ¬ Extends (before.record id) intent) := by
  have hother : OtherStored id t intent ↔ before.record id ≠ intent := by
    simp [OtherStored, PlacementTables.getIntent, hstored]
  rcases upsertIntent_of_stored hvalid hstored with ⟨hextends, hok⟩ | ⟨hextends, hconflict⟩
  · constructor
    · intro hprotected hne
      exact absurd (hother.mpr hne) (hprotected.accepted _ hok).2
    · intro hnone
      have hsame : ¬ OtherStored id t intent := fun h => hnone (hother.mp h) hextends
      exact ⟨fun _ hok => ⟨getIntent_upsertIntent hvalid hok, hsame⟩, fun h => absurd h hsame⟩
  · rw [hconflict]
    exact iff_of_true (intentProtected_of_error (fun _ => rfl)) (fun _ => hextends)

theorem intentProtected_iff (t : Tables R) (intent : PlacementIntentRecord) :
    IntentProtected id intent t (upsertIntent intent t) ↔ ExtendsNone t (.upsertIntent intent) := by
  by_cases hvalid : ValidIntent intent
  · cases hstored : t.intents.get? intent.id with
    | none =>
      refine iff_of_true (intentProtected_of_absent hvalid hstored) ?_
      intro before hsome
      simp [PlacementTables.getIntent, hstored] at hsome
    | some before =>
      rw [intentProtected_iff_of_stored hvalid hstored]
      simp [ExtendsNone, PlacementTables.getIntent, hstored, hvalid]
  · obtain ⟨e, he⟩ := upsertIntent_of_invalid (t := t) hvalid
    rw [he]
    exact iff_of_true (intentProtected_of_error (fun h => absurd h hvalid))
      (fun _ _ _ h => absurd h hvalid)

end UpsertIntent

end Sqlite

namespace Postgres

def resourceRow (resource : PlacementResourceRecord) : ResourceRow Int :=
  ⟨resource.resourceClass, asI64 resource.amount⟩

/-- The database refuses the intent: its provider is missing, or a class is
there twice. -/
def Refuses (t : Tables R) (intent : PlacementIntentRecord) : Prop :=
  t.providers.get? intent.providerId = none ∨
    ¬ (intent.resources.map PlacementResourceRecord.resourceClass).Nodup

/-- What is stored reads as it was given: `u64` amounts, in order. -/
def Readable (intent : PlacementIntentRecord) : Prop :=
  InOrder intent ∧ ∀ resource ∈ intent.resources, resource.amount < 2 ^ 64

/-- The call overwrites no stored intent, and stores what can be read back. -/
def OverwritesNone (t : Tables R) : RepositoryCall R → Prop
  | .upsertIntent intent =>
    (OtherStored asU64 t intent → Refuses t intent ∧ ¬ ValidIntent intent) ∧
      (Refuses t intent ∨ Readable intent)
  | _ => True

theorem insertResources_eq (records : List PlacementResourceRecord) (rows : Resources Int) :
    insertResources records rows =
    insertEach (.database .uniqueViolation) (fun record => .ok (resourceRow record))
      records rows := by
  induction records generalizing rows with
  | nil => rfl
  | cons record rest ih =>
    have hrow : resourceRow record = ⟨record.resourceClass, asI64 record.amount⟩ := rfl
    cases hinsert : rows.insert? (resourceRow record) with
    | none =>
      simp only [insertResources, insertEach, ← hrow, hinsert]
      rfl
    | some rows' => simp only [insertResources, insertEach, ← hrow, hinsert, ih]

variable {records : List PlacementResourceRecord}

theorem insertResources_eq_ok_iff {rows : Resources Int} :
    insertResources records ∅ = .ok rows ↔
    (records.map PlacementResourceRecord.resourceClass).Nodup ∧
      rows = Table.ofList (records.map resourceRow) := by
  rw [insertResources_eq, insertEach_eq_ok_iff]
  constructor
  · rintro ⟨made, hmade, hnodup, _, rfl⟩
    have hsame : records.map resourceRow = made := by
      rw [← List.forall₂_eq_eq_eq, List.forall₂_map_left_iff]
      exact hmade.imp (fun _ _ h => Except.ok.inj h)
    subst hsame
    exact ⟨by simpa [Function.comp_def, resourceRow] using hnodup, rfl⟩
  · rintro ⟨hnodup, rfl⟩
    refine ⟨records.map resourceRow, ?_, ?_, fun _ _ => rfl, rfl⟩
    · rw [List.forall₂_map_right_iff]
      exact List.forall₂_same.mpr (fun _ _ => rfl)
    · simpa [Function.comp_def, resourceRow] using hnodup

def storedResources (intent : PlacementIntentRecord) : Resources Int :=
  Table.ofList (intent.resources.map resourceRow)

def storedRow (intent : PlacementIntentRecord) : AllocationRow Int :=
  ⟨intent.id, intent.providerId, intent.consumerId, storedResources intent⟩

theorem insertResources_error {rows : Resources Int} {e : StoreError}
    (h : insertResources records rows = .error e) :
    e = .database .uniqueViolation := by
  induction records generalizing rows with
  | nil => cases h
  | cons record rest ih =>
    rw [insertResources] at h
    split at h
    · cases h
      rfl
    · exact ih h

theorem exec_upsertIntent_of_refused {t : Tables R} {intent : PlacementIntentRecord}
    (h : Refuses t intent) :
    ∃ e, e ≠ .placementIntentConflict ∧ exec (.upsertIntent intent) t = (.error e, t) := by
  obtain ⟨e, hne, he⟩ :
      ∃ e, e ≠ .placementIntentConflict ∧ upsertIntentBody intent t = .error e := by
    simp only [upsertIntentBody, get_bind_apply]
    cases hprovider : t.providers.get? intent.providerId with
    | none => exact ⟨.database .foreignKeyViolation, by rintro ⟨⟩, rfl⟩
    | some provider =>
      rw [orFail_some_bind]
      cases hresources : insertResources intent.resources ∅ with
      | error e =>
        refine ⟨e, ?_, rfl⟩
        rw [insertResources_error hresources]
        rintro ⟨⟩
      | ok rows =>
        rcases h with hnone | hdouble
        · cases hnone.symm.trans hprovider
        · exact absurd (insertResources_eq_ok_iff.mp hresources).1 hdouble
  exact ⟨e, hne, atomically_of_error he⟩

theorem exec_upsertIntent_of_not_refused {t : Tables R} {intent : PlacementIntentRecord}
    (h : ¬ Refuses t intent) :
    exec (.upsertIntent intent) t = (.ok intent, t.putIntent (storedRow intent)) := by
  obtain ⟨hprovider, hnodup⟩ := not_or.mp h
  obtain ⟨provider, hget⟩ := Option.ne_none_iff_exists'.mp hprovider
  have hresources : insertResources intent.resources ∅ = .ok (storedResources intent) :=
    insertResources_eq_ok_iff.mpr ⟨not_not.mp hnodup, rfl⟩
  refine atomically_of_ok ?_
  simp only [upsertIntentBody, get_bind_apply, hget, orFail_some_bind, hresources,
    fromExcept_ok_bind]
  rfl

theorem record_storedRow_iff {intent : PlacementIntentRecord} :
    (storedRow intent).record asU64 = intent ↔ Readable intent := by
  constructor
  · intro h
    refine ⟨h ▸ inOrder_record asU64 (storedRow intent), ?_⟩
    intro resource hresource
    rw [← h] at hresource
    obtain ⟨row, _, rfl⟩ := List.mem_map.mp hresource
    exact (BitVec.ofInt 64 row.amount).isLt
  · rintro ⟨horder, hfits⟩
    have hrows : (storedResources intent).rows = intent.resources.map resourceRow := by
      have hsorted : StrictlySorted (@ResourceRow.resourceClass Int)
          (intent.resources.map resourceRow) := List.pairwise_map.mpr horder
      refine StrictlySorted.eq_of_mem_iff (storedResources intent).sorted hsorted ?_
      intro row
      exact Table.mem_ofList hsorted.keys_nodup
    have hread :
        intent.resources.map (ResourceRow.record asU64 ∘ resourceRow) = intent.resources := by
      refine (List.map_congr_left ?_).trans (List.map_id _)
      intro resource hresource
      simp only [Function.comp_apply, ResourceRow.record, resourceRow, asU64_asI64,
        Nat.mod_eq_of_lt (hfits resource hresource), id]
    simp [AllocationRow.record, storedRow, hrows, hread]

theorem intentProtected_iff (t : Tables R) (intent : PlacementIntentRecord) :
    IntentProtected asU64 intent t (exec (.upsertIntent intent) t) ↔
    OverwritesNone t (.upsertIntent intent) := by
  by_cases hrefused : Refuses t intent
  · obtain ⟨e, hne, he⟩ := exec_upsertIntent_of_refused hrefused
    rw [he]
    constructor
    · intro hprotected
      refine ⟨fun hother => ⟨hrefused, fun hvalid => ?_⟩, Or.inl hrefused⟩
      obtain ⟨_, e', hsame, hconflict⟩ := hprotected.refused hother
      cases hsame
      exact hne (hconflict hvalid)
    · rintro ⟨hother, _⟩
      exact
        { accepted := fun _ hok => by cases hok
          refused := fun h => ⟨rfl, e, rfl, fun hvalid => absurd hvalid (hother h).2⟩ }
  · rw [exec_upsertIntent_of_not_refused hrefused]
    have hget := getIntent_putIntent asU64 t (storedRow intent)
    constructor
    · intro hprotected
      obtain ⟨hstored, hfree⟩ := hprotected.accepted _ rfl
      refine ⟨fun h => absurd h hfree, Or.inr (record_storedRow_iff.mp ?_)⟩
      exact Option.some.inj (hget.symm.trans hstored)
    · rintro ⟨hother, hreadable⟩
      have hfree : ¬ OtherStored asU64 t intent := fun h => hrefused (hother h).1
      refine ⟨fun _ _ => ⟨?_, hfree⟩, fun h => absurd h hfree⟩
      exact hget.trans (congrArg some (record_storedRow_iff.mpr (hreadable.resolve_left hrefused)))

end Postgres

/-- **Protection of stored intents**: in every run of the SQLite repository each
upsert keeps the obligation exactly when it extends no stored intent, and in
every run of the PostgreSQL repository exactly when it overwrites none. -/
theorem upsert_intent_protects_iff :
    (∀ (t : Sqlite.Tables R) (calls : List (RepositoryCall R)),
      EachStep Sqlite.step (ProtectsIntents id Sqlite.exec) t calls ↔
      EachStep Sqlite.step Sqlite.ExtendsNone t calls) ∧
    ∀ (t : Postgres.Tables R) (calls : List (RepositoryCall R)),
      EachStep Postgres.step (ProtectsIntents Postgres.asU64 Postgres.exec) t calls ↔
      EachStep Postgres.step Postgres.OverwritesNone t calls := by
  have hsqlite :
      ∀ (t : Sqlite.Tables R) (c : RepositoryCall R),
        ProtectsIntents id Sqlite.exec t c ↔ Sqlite.ExtendsNone t c := by
    intro t c
    cases c with
    | upsertIntent intent => exact Sqlite.intentProtected_iff t intent
    | _ => exact Iff.rfl
  have hpostgres :
      ∀ (t : Postgres.Tables R) (c : RepositoryCall R),
        ProtectsIntents Postgres.asU64 Postgres.exec t c ↔ Postgres.OverwritesNone t c := by
    intro t c
    cases c with
    | upsertIntent intent => exact Postgres.intentProtected_iff t intent
    | _ => exact Iff.rfl
  constructor
  · intro t calls
    exact ⟨EachStep.imp (fun t c => (hsqlite t c).mp), EachStep.imp (fun t c => (hsqlite t c).mpr)⟩
  · intro t calls
    exact ⟨EachStep.imp (fun t c => (hpostgres t c).mp),
      EachStep.imp (fun t c => (hpostgres t c).mpr)⟩

/-- An intent for one VCPU is replaced by one for a VCPU and memory, on both
repositories. -/
theorem upsert_intent_replaces_smaller_intent :
    let calls : List (RepositoryCall Unit) :=
      [.registerProvider "node" [],
        .upsertIntent ⟨"allocation-s", "node", "s", [⟨"VCPU", 1⟩]⟩,
        .upsertIntent ⟨"allocation-s", "node", "s", [⟨"MEMORY_MB", 512⟩, ⟨"VCPU", 1⟩]⟩]
    ¬ EachStep Sqlite.step (ProtectsIntents id Sqlite.exec) PlacementTables.empty calls ∧
      ¬ EachStep Postgres.step (ProtectsIntents Postgres.asU64 Postgres.exec)
        PlacementTables.empty calls := by
  constructor
  · rintro ⟨_, _, hlast, _⟩
    exact (hlast.accepted _ rfl).2 ⟨_, rfl, by decide⟩
  · rintro ⟨_, _, hlast, _⟩
    exact (hlast.accepted _ rfl).2 ⟨_, rfl, by decide⟩

end Placement
end O3k
