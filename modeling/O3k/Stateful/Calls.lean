import O3k.Stateful.Records

/-!
# What the calls of the stateful provider leave

Each call of the provider, with any answers of the host, keeps the record well
formed; what it leaves in the memory when it succeeds is a function of what was
there.  Where the host lists the table as it is, a table that holds what is
recorded does so after the call too.
-/

namespace O3k
namespace Stateful

open Relational Relational.Transaction Semantics
open Network hiding PolicyIntent
open Fabric hiding NetworkPlanError LinuxFabricError
open Planning hiding NetworkPlanError
open Program (Yields yields_pure yields_throw)

section Realization

variable {lib : ProviderLibrary} {memory : Option Ownership}
variable {intents : List NetworkPlanIntent} {endpoints : List PolicyEndpoint}

/-- What is not named by the endpoints of a call. -/
def isCurrent (endpoints : List PolicyEndpoint) (id : Uuid) : Bool :=
  endpoints.any (·.endpointId = id)

theorem validateDefaults_ok {defaults : List PolicyDefaultIntent}
    (h : validateDefaults endpoints defaults = .ok ()) :
    ∀ d ∈ defaults, (addressOf endpoints d.endpointId).isSome = true := by
  rw [validateDefaults] at h
  split_ifs at h with hinvalid
  intro d hd
  by_contra hnone
  refine hinvalid ⟨d, hd, .inr (.inr (.inl ?_))⟩
  simpa using hnone

/-- **The record of a call** that is not refused. -/
structure Realizes
    (memory : Option Ownership) (intents : List NetworkPlanIntent) (endpoints : List PolicyEndpoint)
    (next : Ownership) : Prop where
  policies :
    next.policies =
      sortBy recordKey
        ((recordedPolicies memory).filter (fun p => !isCurrent endpoints p.endpointId) ++
          intents.filterMap policyOf)
  defaults :
    next.defaults =
      sortBy PolicyDefaultIntent.endpointId
        ((recordedDefaults memory).filter (fun d => !isCurrent endpoints d.endpointId) ++
          intents.filterMap defaultOf)
  merged : next.endpoints = mergeEndpoints (recordedEndpoints memory) endpoints
  addressed : ∀ p ∈ next.policies, (addressOf next.endpoints p.endpointId).isSome = true
  known : ∀ d ∈ intents.filterMap defaultOf, (addressOf endpoints d.endpointId).isSome = true

theorem realization_ok {next : Ownership}
    (h : realization lib memory intents endpoints = .ok next) :
    Realizes memory intents endpoints next := by
  rw [realization] at h
  obtain ⟨_, h⟩ := except_check_bind_eq_ok.mp h
  obtain ⟨hdefaults, h⟩ := except_check_bind_eq_ok.mp h
  dsimp only at h
  split_ifs at h with hconflict haddressed
  cases h
  refine ⟨rfl, rfl, rfl, ?_, validateDefaults_ok hdefaults⟩
  intro p hp
  by_contra hnone
  refine haddressed (List.any_eq_true.mpr ⟨p, hp, ?_⟩)
  simpa using hnone

/-- The records of the provider, where there are any. -/
def RecordIsWellFormed (memory : Option Ownership) : Prop := ∀ o, memory = some o → o.WellFormed

theorem RecordIsWellFormed.nodup (h : RecordIsWellFormed memory) :
    ((recordedEndpoints memory).map (·.endpointId)).Nodup := by
  cases memory with
  | none => exact List.nodup_nil
  | some o => exact (h o rfl).endpoints

theorem RecordIsWellFormed.policies (h : RecordIsWellFormed memory) :
    ∀ p ∈ recordedPolicies memory,
      (addressOf (recordedEndpoints memory) p.endpointId).isSome = true := by
  cases memory with
  | none => exact fun p hp => absurd hp List.not_mem_nil
  | some o => exact (h o rfl).policies

theorem RecordIsWellFormed.defaults (h : RecordIsWellFormed memory) :
    ∀ d ∈ recordedDefaults memory,
      (addressOf (recordedEndpoints memory) d.endpointId).isSome = true := by
  cases memory with
  | none => exact fun d hd => absurd hd List.not_mem_nil
  | some o => exact (h o rfl).defaults

theorem RecordIsWellFormed.sorted (h : RecordIsWellFormed memory) :
    (recordedPolicies memory).Pairwise (fun p q => recordKey p ≤ recordKey q) := by
  cases memory with
  | none => exact List.Pairwise.nil
  | some o => exact (h o rfl).sorted

theorem Realizes.wellFormed {next : Ownership}
    (hmemory : RecordIsWellFormed memory) (h : Realizes memory intents endpoints next) :
    next.WellFormed where
  endpoints := by
    rw [h.merged]
    exact nodup_mergeEndpoints hmemory.nodup
  policies := h.addressed
  defaults := by
    intro d hd
    rw [h.merged, addressOf_mergeEndpoints hmemory.nodup, Option.isSome_or]
    rw [h.defaults, mem_sortBy, List.mem_append, List.mem_filter] at hd
    rcases hd with ⟨hd, _⟩ | hd
    · simp [hmemory.defaults d hd]
    · simp [h.known d hd]
  sorted := by
    rw [h.policies]
    exact sortBy_sorted _

end Realization

structure ProviderWorld.WellFormed (w : ProviderWorld) : Prop where
  memory : RecordIsWellFormed w.memory
  file : RecordIsWellFormed w.file

/-- What the table holds for a record: its marker, and all its rules. -/
structure Ownership.IsRealizedBy (o : Ownership) (table : PolicyTable) : Prop where
  comment : table.comment = policyMarker ++ ":" ++ o.fingerprint
  rules :
    ∃ chain, table.chain = some chain ∧
      chain.filterMap ChainEntry.rule? =
        establishedRule policyMarker :: o.steps.filterMap (·.2)

/-- **The table holds what is recorded**; without a record there is no table of
the provider. -/
def ProviderWorld.Realized (w : ProviderWorld) : Prop :=
  match w.memory with
  | none => ∀ table, w.table = some table → table.mentions policyMarker = false
  | some o => ∃ table, w.table = some table ∧ o.IsRealizedBy table

/-- The call goes well: it keeps the records well formed, and what it returns
satisfies `P`.  The commands that answer are executed if `E` holds. -/
abbrev Goes
    (E : Prop) {α : Type} (P : α → ProviderWorld → Prop) (p : Provider α) (w : ProviderWorld) :
    Prop :=
  Yields exec Eq ProviderWorld.WellFormed (fun _ x _ => E → x = .executed)
    (fun _ _ _ => True) P p w

section Calls

variable {E : Prop} {α : Type} {w : ProviderWorld}

theorem goes_refuse {P : α → ProviderWorld → Prop} (error : PolicyNetworkError) :
    Goes E P (refuse error) w :=
  yields_throw _ _

theorem goes_checked {P : α → ProviderWorld → Prop} {x : Except PolicyNetworkError α}
    (h : ∀ a, x = .ok a → P a w) :
    Goes E P (checked x) w := by
  refine Program.yields_mk_pure (fun a ha => h a ?_)
  cases x with
  | error e => cases ha
  | ok a' =>
    cases ha
    rfl

theorem goes_ask (call : ProviderCall) {P : call.Reply → ProviderWorld → Prop}
    (h :
      w.WellFormed → ∀ x, (E → x = .executed) →
        (exec call x w).2.WellFormed ∧ P (exec call x w).1 (exec call x w).2) :
    Goes E P (ask call) w := by
  refine Program.yields_lift_perform ?_
  rintro _ x rfl hwell hexecuted
  exact ⟨trivial, h hwell x hexecuted⟩

theorem goes_ownership {P : Option Ownership → ProviderWorld → Prop} (h : P w.memory w) :
    Goes E P (ask .ownership) w :=
  goes_ask .ownership (fun hwell _ _ => ⟨hwell, h⟩)

variable {P : Unit → ProviderWorld → Prop}

theorem goes_setOwnership {memory : Option Ownership}
    (hmemory : RecordIsWellFormed memory) (h : P () { w with memory := memory }) :
    Goes E P (ask (.setOwnership memory)) w :=
  goes_ask (.setOwnership memory) (fun hwell _ _ => ⟨⟨hmemory, hwell.file⟩, h⟩)

theorem goes_removeFile (h : ∀ file, P () { w with file := file }) :
    Goes E P (ask .removeFile) w := by
  refine goes_ask .removeFile (fun hwell x _ => ?_)
  cases x with
  | executed => exact ⟨⟨hwell.memory, fun o ho => by cases ho⟩, h none⟩
  | unsuccessful => exact ⟨hwell, h w.file⟩
  | failed => exact ⟨hwell, h w.file⟩

theorem goes_storeState {o : Ownership} (ho : o.WellFormed) (h : P () { w with file := some o }) :
    Goes E P (storeState o) w := by
  refine Yields.bind
    (P := fun answer w' => answer = .ok () → w' = { w with file := some o })
    (goes_ask (.storeState o) (fun hwell x _ => ?_))
    (fun answer w' hanswer => goes_checked (fun _ hok => ?_))
  · cases x with
    | executed =>
      refine ⟨⟨hwell.memory, ?_⟩, fun _ => rfl⟩
      intro o' ho'
      cases ho'
      exact ho
    | unsuccessful => exact ⟨hwell, fun hok => by cases hok⟩
    | failed => exact ⟨hwell, fun hok => by cases hok⟩
  · rw [hanswer hok]
    exact h

theorem goes_listTable {P : Option PolicyTable → ProviderWorld → Prop}
    (h : ∀ listed, (E → listed = w.table) → (∀ t, listed = some t → w.table = some t) →
      P listed w) :
    Goes E P listTable w := by
  refine Yields.bind
    (P := fun answer w' => w' = w ∧ ∀ listed, answer = .ok listed → P listed w)
    (goes_ask .list (fun hwell x hexecuted => ?_))
    (fun answer w' hanswer => goes_checked (fun listed hok => ?_))
  · cases x with
    | executed =>
      refine ⟨hwell, rfl, fun listed hok => ?_⟩
      cases hok
      exact h _ (fun _ => rfl) (fun t ht => ht)
    | unsuccessful =>
      refine ⟨hwell, rfl, fun listed hok => ?_⟩
      cases hok
      exact h _ (fun hE => by cases hexecuted hE) (fun t ht => by cases ht)
    | failed => exact ⟨hwell, rfl, fun listed hok => by cases hok⟩
  · rw [hanswer.1]
    exact hanswer.2 listed hok

theorem goes_run {P : Except PolicyNetworkError Bool → ProviderWorld → Prop} {command : NftCommand}
    (hdone : ∀ table, command.apply w.table = some table → P (.ok true) { w with table := table })
    (hnot : P (.ok false) w) (herror : ∀ e, P (.error e) w) :
    Goes E P (ask (.run command)) w := by
  refine goes_ask (.run command) (fun hwell x _ => ?_)
  cases x with
  | executed =>
    simp only [exec]
    cases happly : command.apply w.table with
    | some table => exact ⟨⟨hwell.memory, hwell.file⟩, hdone table happly⟩
    | none => exact ⟨hwell, hnot⟩
  | unsuccessful => exact ⟨hwell, hnot⟩
  | failed => exact ⟨hwell, herror _⟩

theorem goes_runCommand {command : NftCommand}
    (h : ∀ table, command.apply w.table = some table → P () { w with table := table }) :
    Goes E P (runCommand command) w := by
  refine Yields.bind
    (P := fun answer w' => answer = .ok true → P () w')
    (goes_run (fun table happly _ => h table happly) (fun hok => by cases hok)
      (fun _ hok => by cases hok)) (fun answer w' hanswer => ?_)
  refine Yields.bind (P := fun success w'' => answer = .ok success ∧ w'' = w')
    (goes_checked (fun success hok => ⟨hok, rfl⟩)) ?_
  rintro success _ ⟨hok, rfl⟩
  cases success with
  | true => exact yields_pure (hanswer hok)
  | false => exact goes_refuse _

end Calls

section Programs

variable {E : Prop} {w : ProviderWorld} {lib : ProviderLibrary} {α : Type}

variable {P : α → ProviderWorld → Prop}

theorem goes_bind_ownership {f : Option Ownership → Provider α} (h : Goes E P (f w.memory) w) :
    Goes E P (ask .ownership >>= f) w := by
  refine Yields.bind (P := fun memory w' => memory = w.memory ∧ w' = w)
    (goes_ownership ⟨rfl, rfl⟩) ?_
  rintro _ _ ⟨rfl, rfl⟩
  exact h

variable {f : Unit → Provider α}

theorem goes_bind_setOwnership {memory : Option Ownership}
    (hmemory : RecordIsWellFormed memory) (h : Goes E P (f ()) { w with memory := memory }) :
    Goes E P (ask (.setOwnership memory) >>= f) w := by
  refine Yields.bind (P := fun _ w' => w' = { w with memory := memory })
    (goes_setOwnership hmemory rfl) ?_
  rintro _ _ rfl
  exact h

variable {o : Ownership}

theorem goes_bind_storeState (ho : o.WellFormed) (h : Goes E P (f ()) { w with file := some o }) :
    Goes E P (storeState o >>= f) w := by
  refine Yields.bind (P := fun _ w' => w' = { w with file := some o }) (goes_storeState ho rfl) ?_
  rintro _ _ rfl
  exact h

theorem goes_bind_runCommand {command : NftCommand}
    (h : ∀ table, command.apply w.table = some table → Goes E P (f ()) { w with table := table }) :
    Goes E P (runCommand command >>= f) w := by
  refine Yields.bind
    (P := fun _ w' =>
      ∃ table, command.apply w.table = some table ∧ w' = { w with table := table })
    (goes_runCommand (fun table happly => ⟨table, happly, rfl⟩)) ?_
  rintro _ _ ⟨table, happly, rfl⟩
  exact h table happly

theorem goes_bind_checked {α β : Type} {P : β → ProviderWorld → Prop} {f : α → Provider β}
    {x : Except PolicyNetworkError α} (h : ∀ a, x = .ok a → Goes E P (f a) w) :
    Goes E P (checked x >>= f) w := by
  refine Yields.bind (P := fun a w' => x = .ok a ∧ w' = w)
    (goes_checked (fun a hok => ⟨hok, rfl⟩)) ?_
  rintro a _ ⟨hok, rfl⟩
  exact h a hok

theorem goes_bind_listTable {f : Option PolicyTable → Provider α}
    (h : ∀ listed, (E → listed = none → w.table = none) → Goes E P (f listed) w) :
    Goes E P (listTable >>= f) w := by
  refine Yields.bind
    (P := fun listed w' => w' = w ∧ (E → listed = none → w.table = none))
    (goes_listTable (fun listed hE _ => ⟨rfl, fun he hnone => (hE he).symm.trans hnone⟩)) ?_
  rintro listed _ ⟨rfl, hlisted⟩
  exact h listed hlisted

theorem goes_bind_ensureForeignSafe {f : Bool → Provider α} {memory : Option Ownership}
    (h : ∀ tableExists, (E → tableExists = false → w.table = none) → Goes E P (f tableExists) w) :
    Goes E P (ensureForeignSafe memory >>= f) w := by
  refine Yields.bind
    (P := fun tableExists w' => w' = w ∧ (E → tableExists = false → w.table = none))
    (goes_bind_listTable (fun listed hlisted => ?_)) ?_
  · cases listed with
    | none => exact yields_pure ⟨rfl, fun he _ => hlisted he rfl⟩
    | some table =>
      dsimp only
      split_ifs
      · exact goes_refuse _
      · exact goes_refuse _
      · exact yields_pure ⟨rfl, fun _ hfalse => by cases hfalse⟩
  · rintro tableExists _ ⟨rfl, hnone⟩
    exact h tableExists hnone

theorem apply_deleteTable {before after : Option PolicyTable}
    (h : NftCommand.deleteTable.apply before = some after) :
    after = none := by
  cases before with
  | none => cases h
  | some table =>
    cases h
    rfl

theorem goes_addRules {P : Unit → ProviderWorld → Prop} {steps : List (Uuid × Option NftRule)}
    {table : PolicyTable} {chain : List ChainEntry} (htable : w.table = some table)
    (hchain : table.chain = some chain)
    (h :
      P ()
        { w with
          table :=
            some
              { table with
                chain := some (chain ++ (steps.filterMap (·.2)).map ChainEntry.rule) } }) :
    Goes E P (addRules steps) w := by
  induction steps generalizing w table chain with
  | nil =>
    refine yields_pure ?_
    obtain ⟨comment, _⟩ := table
    obtain ⟨memory, file, _⟩ := w
    cases hchain
    cases htable
    simpa using h
  | cons step rest ih =>
    obtain ⟨id, rule⟩ := step
    cases rule with
    | none => exact yields_throw _ _
    | some rule =>
      refine goes_bind_runCommand (fun table' happly => ?_)
      simp only [NftCommand.apply, htable, hchain, Option.bind_eq_bind, Option.bind_some,
        Option.pure_def, Option.some.injEq] at happly
      subst happly
      refine ih rfl rfl ?_
      simpa using h

/-- **The table is built** in full, where there is none or the old one is deleted. -/
theorem goes_buildTable {P : Unit → ProviderWorld → Prop} {tableExists : Bool}
    (h :
      ∀ table, (tableExists = false → w.table = none) → o.IsRealizedBy table →
        P () { w with table := some table })
    (hother : ∀ table, ¬ (tableExists = false → w.table = none) → P () { w with table := table }) :
    Goes E P (buildTable o tableExists) w := by
  refine Yields.bind
    (P := fun _ w' =>
      ∃ table, w' = { w with table := table } ∧
        ((tableExists = false → w.table = none) → table = none)) ?_ ?_
  · cases tableExists with
    | false => exact yields_pure ⟨w.table, rfl, fun hnone => hnone rfl⟩
    | true =>
      exact goes_runCommand (fun table happly => ⟨table, rfl, fun _ => apply_deleteTable happly⟩)
  rintro _ _ ⟨table, rfl, hnone⟩
  refine goes_bind_runCommand (fun added hadded => ?_)
  simp only [NftCommand.apply, Option.some.injEq] at hadded
  subst hadded
  refine goes_bind_runCommand (fun chained hchained => ?_)
  simp only [NftCommand.apply, Option.map_some, Option.some.injEq] at hchained
  subst hchained
  refine goes_bind_runCommand (fun accepted haccepted => ?_)
  simp only [NftCommand.apply, Option.bind_eq_bind, Option.bind_some, Option.pure_def,
    Option.some.injEq] at haccepted
  subst haccepted
  refine goes_addRules rfl rfl ?_
  by_cases hfresh : tableExists = false → w.table = none
  · rw [hnone hfresh]
    refine h _ hfresh ⟨rfl, _, rfl, ?_⟩
    simp [ChainEntry.rule?, List.filterMap_map, Function.comp_def]
  · exact hother _ hfresh

variable {intents : List NetworkPlanIntent}

/-- **What `apply` leaves**: the next record, and its table. -/
theorem goes_apply {endpoints : List PolicyEndpoint} (hw : w.WellFormed) :
    Goes E
      (fun _ w' =>
        ∃ next, Realizes w.memory intents endpoints next ∧ w'.memory = some next ∧
          (E → w.Realized → w'.Realized))
      (apply lib intents endpoints) w := by
  refine goes_bind_ownership (goes_bind_checked (fun next hok => ?_))
  have hnext : Realizes w.memory intents endpoints next := realization_ok hok
  refine goes_bind_ensureForeignSafe (fun tableExists hnone => ?_)
  split_ifs with hsame hforeign
  · exact yields_pure ⟨next, hnext, hsame, fun _ h => h⟩
  · exact goes_refuse _
  · have hwell : next.WellFormed := hnext.wellFormed hw.memory
    refine goes_bind_storeState hwell (goes_bind_setOwnership ?_ ?_)
    · intro o ho
      cases ho
      exact hwell
    · refine goes_buildTable (fun table _ hrealized => ?_) (fun table hnot => ?_)
      · exact ⟨next, hnext, rfl, fun _ _ => ⟨table, rfl, hrealized⟩⟩
      · exact ⟨next, hnext, rfl, fun he _ => absurd (hnone he) hnot⟩

/-- **What `remove` leaves**: no record, and no table. -/
theorem goes_remove (hw : w.WellFormed) :
    Goes E (fun _ w' => w'.memory = none ∧ (E → w.Realized → w'.Realized)) remove w := by
  refine goes_bind_ownership ?_
  cases hmemory : w.memory with
  | none => exact yields_pure ⟨hmemory, fun _ h => h⟩
  | some current =>
    have hcurrent : RecordIsWellFormed (some current) := hmemory ▸ hw.memory
    refine goes_bind_setOwnership (fun o ho => by cases ho) ?_
    refine goes_bind_listTable (fun listed hlisted => ?_)
    cases listed with
    | none =>
      refine goes_removeFile (fun file => ⟨rfl, fun he _ table htable => ?_⟩)
      cases (hlisted he rfl).symm.trans htable
    | some table =>
      dsimp only
      split_ifs
      · exact goes_bind_setOwnership hcurrent (goes_refuse _)
      · refine Yields.bind
          (P := fun answer w' =>
            answer = .ok true → w' = { w with memory := none, table := none })
          (goes_run (fun table' happly _ => ?_) (fun hok => by cases hok)
            (fun _ hok => by cases hok)) (fun answer w' hdeleted => ?_)
        · rw [apply_deleteTable happly]
        · refine goes_bind_checked (fun success hok => ?_)
          cases success with
          | true =>
            rw [hdeleted hok]
            exact goes_removeFile (fun file => ⟨rfl, fun _ _ t ht => by cases ht⟩)
          | false => exact goes_bind_setOwnership hcurrent (goes_refuse _)

theorem isRealizedBy_of_addMarker {comment : String} {table table' : PolicyTable}
    (h : (NftCommand.addEntry (.marker comment)).apply (some table) = some (some table'))
    (hrealized : o.IsRealizedBy table) :
    o.IsRealizedBy table' := by
  obtain ⟨hcomment, chain, hchain, hrules⟩ := hrealized
  simp only [NftCommand.apply, hchain, Option.bind_eq_bind, Option.bind_some, Option.pure_def,
    Option.some.injEq] at h
  subst h
  refine ⟨hcomment, _, rfl, ?_⟩
  rw [List.filterMap_append, hrules]
  exact List.append_nil _

theorem apply_addEntry {entry : ChainEntry} {before after : Option PolicyTable}
    (h : (NftCommand.addEntry entry).apply before = some after) :
    ∃ t t', before = some t ∧ after = some t' := by
  cases before with
  | none => cases h
  | some t =>
    obtain ⟨comment, chain⟩ := t
    cases chain with
    | none => cases h
    | some chain =>
      cases h
      exact ⟨_, _, rfl, rfl⟩

/-- The world with another table that holds what is recorded if the old one does. -/
theorem realized_of_addMarker {comment : String} {after : Option PolicyTable}
    (h : (NftCommand.addEntry (.marker comment)).apply w.table = some after)
    (hrealized : ∃ table, w.table = some table ∧ o.IsRealizedBy table) :
    ∃ table, after = some table ∧ o.IsRealizedBy table := by
  obtain ⟨table, htable, hrealized⟩ := hrealized
  obtain ⟨t, t', _, rfl⟩ := apply_addEntry h
  rw [htable] at h
  exact ⟨t', rfl, isRealizedBy_of_addMarker h hrealized⟩

theorem goes_writeEndpointMarkers {P : Unit → ProviderWorld → Prop} {rows : List (Uuid × String)}
    (h :
      ∀ after,
        (∀ o : Ownership, (∃ table, w.table = some table ∧ o.IsRealizedBy table) →
          ∃ table, after = some table ∧ o.IsRealizedBy table) →
        P () { w with table := after }) :
    Goes E P (writeEndpointMarkers rows) w := by
  induction rows generalizing w with
  | nil => exact yields_pure (h w.table (fun _ hrealized => hrealized))
  | cons row rest ih =>
    refine goes_bind_runCommand (fun table happly => ih (fun after hafter => ?_))
    exact h after (fun o hrealized => hafter o (realized_of_addMarker happly hrealized))

theorem isRealizedBy_of_same {o o' : Ownership} {table : PolicyTable}
    (hfingerprint : o'.fingerprint = o.fingerprint) (hsteps : o'.steps = o.steps)
    (h : o.IsRealizedBy table) :
    o'.IsRealizedBy table := by
  obtain ⟨hcomment, chain, hchain, hrules⟩ := h
  exact ⟨hfingerprint ▸ hcomment, chain, hchain, hsteps ▸ hrules⟩

theorem Ownership.WellFormed.rebind (h : o.WellFormed) (id : Uuid) : (o.rebind id).WellFormed :=
  ⟨h.endpoints, h.policies, h.defaults, h.sorted⟩

theorem recordIsWellFormed_some (h : o.WellFormed) : RecordIsWellFormed (some o) := by
  intro o' ho'
  cases ho'
  exact h

theorem goes_rebindEvidence {id : Uuid} (hw : RecordIsWellFormed w.memory) :
    Goes E
      (fun _ w' =>
        ∃ current, w.memory = some current ∧ w'.memory = some (current.rebind id) ∧
          (w.Realized → w'.Realized))
      (rebindEvidence id) w := by
  refine goes_bind_ownership ?_
  cases hmemory : w.memory with
  | none => exact goes_refuse _
  | some current =>
    have hwell : (current.rebind id).WellFormed := (hw current hmemory).rebind id
    refine Yields.bind
      (P := fun _ w' =>
        ∃ after, w' = { w with table := after } ∧
          ∀ o : Ownership, (∃ table, w.table = some table ∧ o.IsRealizedBy table) →
            ∃ table, after = some table ∧ o.IsRealizedBy table)
      (goes_writeEndpointMarkers (fun after hafter => ⟨after, rfl, hafter⟩)) ?_
    rintro _ _ ⟨after, rfl, hafter⟩
    refine goes_bind_storeState hwell
      (goes_setOwnership (recordIsWellFormed_some hwell) ⟨current, rfl, rfl, fun hrealized => ?_⟩)
    rw [ProviderWorld.Realized, hmemory] at hrealized
    obtain ⟨table, htable, hrealized⟩ := hafter current hrealized
    exact ⟨table, htable, isRealizedBy_of_same (o := current) rfl rfl hrealized⟩

/-- **What a snapshot leaves**: nothing where nothing remains, and else the next
record for the intents of all endpoints. -/
theorem goes_applyEndpointSnapshot {id : Uuid} {known : List PolicyEndpoint} (hw : w.WellFormed) :
    Goes E
      (fun _ w' =>
        (aggregateIntents w.memory id intents = [] ∧ w'.memory = none ∨
          ∃ next,
            Realizes w.memory (aggregateIntents w.memory id intents)
                (mergeEndpoints (recordedEndpoints w.memory) known) next ∧
              w'.memory = some (next.rebind id)) ∧
          (E → w.Realized → w'.Realized))
      (applyEndpointSnapshot lib id intents known) w := by
  rw [applyEndpointSnapshot]
  split_ifs
  · exact goes_refuse _
  · refine goes_bind_ownership ?_
    dsimp only
    split_ifs with hnothing hempty
    · exact yields_pure ⟨.inl hnothing, fun _ h => h⟩
    · exact (goes_remove hw).mono (fun _ w' h => ⟨.inl ⟨hempty, h.1⟩, h.2⟩)
    · refine Yields.bind
        (P := fun _ w' =>
          (∃ next,
            Realizes w.memory (aggregateIntents w.memory id intents)
                (mergeEndpoints (recordedEndpoints w.memory) known) next ∧
              w'.memory = some next ∧ (E → w.Realized → w'.Realized)))
        (goes_apply hw) ?_
      rintro _ w' ⟨next, hnext, hmemory, hrealized⟩
      refine (goes_rebindEvidence ?_).mono ?_
      · rw [hmemory]
        exact recordIsWellFormed_some (hnext.wellFormed hw.memory)
      · rintro _ w'' ⟨current, hcurrent, hrebound, hkeeps⟩
        cases hmemory.symm.trans hcurrent
        exact ⟨.inr ⟨next, hnext, hrebound⟩, fun he h => hkeeps (hrealized he h)⟩

theorem goes_recordEndpointFingerprint {id : Uuid} {fingerprint : String} (hw : w.WellFormed) :
    Goes E (fun _ w' => w.Realized → w'.Realized) (recordEndpointFingerprint id fingerprint) w := by
  refine goes_bind_ownership ?_
  cases hmemory : w.memory with
  | none => exact goes_refuse _
  | some current =>
    dsimp only
    split_ifs
    · have hcurrent := hw.memory current hmemory
      have hwell :
          ({ current with
              endpointFingerprints := current.endpointFingerprints.put (id, fingerprint)
              endpointAggregateFingerprints :=
                current.endpointAggregateFingerprints.put (id, current.fingerprint) } :
            Ownership).WellFormed :=
        ⟨hcurrent.endpoints, hcurrent.policies, hcurrent.defaults, hcurrent.sorted⟩
      refine goes_bind_runCommand (fun table happly => goes_bind_storeState hwell
        (goes_setOwnership (recordIsWellFormed_some hwell) (fun hrealized => ?_)))
      rw [ProviderWorld.Realized, hmemory] at hrealized
      obtain ⟨after, hafter, hrealized⟩ := realized_of_addMarker happly hrealized
      exact ⟨after, hafter, isRealizedBy_of_same (o := current) rfl rfl hrealized⟩
    · exact goes_refuse _

/-- **What a removal leaves**: what was there, where it names nothing or there
is nothing; nothing, where all policies are named; and else the record without
the policies of the endpoints. -/
theorem goes_removeForPlan {endpoints : List PolicyEndpoint} (hw : w.WellFormed) :
    Goes E
      (fun _ w' =>
        ((namesNothing intents endpoints = true ∨ w.memory = none) ∧ w'.memory = w.memory ∨
          ¬ namesNothing intents endpoints = true ∧
            (∀ p ∈ recordedPolicies w.memory, isTarget intents endpoints p.endpointId = true) ∧
            w'.memory = none ∨
          (∃ p ∈ recordedPolicies w.memory, isTarget intents endpoints p.endpointId = false) ∧
            ∃ next, Realizes w.memory [] endpoints next ∧ w'.memory = some next) ∧
          (E → w.Realized → w'.Realized))
      (removeForPlan lib intents endpoints) w := by
  rw [removeForPlan]
  split_ifs with hnothing
  · exact yields_pure ⟨.inl ⟨.inl hnothing, rfl⟩, fun _ h => h⟩
  · refine goes_bind_ownership ?_
    cases hmemory : w.memory with
    | none => exact yields_pure ⟨.inl ⟨.inr rfl, hmemory⟩, fun _ h => h⟩
    | some current =>
      dsimp only
      split_ifs with hall
      · refine (goes_remove hw).mono (fun _ w' h => ⟨.inr (.inl ⟨hnothing, ?_, h.1⟩), h.2⟩)
        exact List.all_eq_true.mp hall
      · refine (goes_apply hw).mono (fun _ w' h => ?_)
        obtain ⟨next, hnext, hnextMemory, hrealized⟩ := h
        refine ⟨.inr (.inr ⟨?_, next, hmemory ▸ hnext, hnextMemory⟩), hrealized⟩
        have hsome : ∃ p ∈ current.policies, isTarget intents endpoints p.endpointId = false := by
          by_contra hnone
          refine hall (List.all_eq_true.mpr (fun p hp => ?_))
          by_contra htarget
          exact hnone ⟨p, hp, Bool.not_eq_true _ ▸ htarget⟩
        exact hsome

end Programs

end Stateful
end O3k
