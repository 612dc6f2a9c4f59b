import O3k.Policy.Realizations

/-!
# What a realized policy record says of the provider

The statements on a realization are fenced by the attempt id, the provider is
not.  A record tells the truth as long as no provider call overwrites the
register once its attempt has been superseded, and no recovery records an
observation that is no longer true.
-/

namespace O3k
namespace Policy

open Relational Semantics

abbrev Runs (Graph Snapshot ι : Type) :=
  Concurrent (World Graph) ι (PolicyCall Snapshot) PolicyCall.Reply
    (Except CanonicalPolicyServiceError (List (Uuid × PolicyApplyOutcome)))

section Statements

variable {Graph Snapshot : Type} {reader : GraphReader Graph Snapshot} {w : World Graph}

theorem upsertPolicyRealization_cases (r : CanonicalPolicyRealizationRecord) :
    ((∃ e, (upsertPolicyRealization reader w r).1 = .error e) ∧
        (upsertPolicyRealization reader w r).2 = w) ∨
      upsertPolicyRealization reader w r =
      (.ok w.attempts.length,
        { w with
          realizations := w.realizations.put { r with attemptId := w.attempts.length }
          attempts := w.attempts ++ [r.desiredFingerprint] }) := by
  unfold upsertPolicyRealization
  split
  · exact Or.inl ⟨⟨_, rfl⟩, rfl⟩
  · split
    · exact Or.inl ⟨⟨_, rfl⟩, rfl⟩
    · exact Or.inl ⟨⟨_, rfl⟩, rfl⟩
    · split_ifs
      · exact Or.inr rfl
      · exact Or.inl ⟨⟨_, rfl⟩, rfl⟩
      · exact Or.inl ⟨⟨_, rfl⟩, rfl⟩

theorem updateRow_cases (new : Option CanonicalPolicyRealizationRecord) :
    (updateRow w new).2 = w ∨
      ∃ r, new = some r ∧ (updateRow w new).2 = { w with realizations := w.realizations.put r } := by
  cases new with
  | none => exact Or.inl rfl
  | some r =>
    simp only [updateRow]
    split_ifs with hchecks
    · exact Or.inr ⟨r, rfl, rfl⟩
    · exact Or.inl rfl

theorem requeuePolicyRealization_cases
    (expectedAttemptId : AttemptId) (r : CanonicalPolicyRealizationRecord) :
    (requeuePolicyRealization w expectedAttemptId r).2 = w ∨
      ∃ old new,
        w.realizations.get? r.endpointId = some old ∧ old.attemptId = expectedAttemptId ∧
          new.endpointId = old.endpointId ∧
          new.attemptId = r.attemptId ∧
          new.state = r.state ∧
          (requeuePolicyRealization w expectedAttemptId r).2 =
          { w with realizations := w.realizations.put new } := by
  unfold requeuePolicyRealization
  split
  · exact Or.inl rfl
  · exact Or.inl rfl
  · refine (updateRow_cases _).imp id ?_
    rintro ⟨new, hnew, hput⟩
    obtain ⟨old, hold, rfl⟩ := Option.map_eq_some_iff.mp hnew
    obtain ⟨hold, hexpected⟩ := Option.filter_eq_some_iff.mp hold
    refine ⟨old, _, hold, (of_decide_eq_true hexpected).2, ?_, ?_, ?_, hput⟩ <;> rfl

theorem setPolicyRealizationOutcome_cases (u : OutcomeUpdate) :
    (setPolicyRealizationOutcome w u).2 = w ∨
      ∃ old new,
        w.realizations.get? u.endpoint = some old ∧ u.expects old ∧
          new.endpointId = old.endpointId ∧
          new.attemptId = old.attemptId ∧
          new.desiredFingerprint = old.desiredFingerprint ∧
          new.state = u.state ∧
          (setPolicyRealizationOutcome w u).2 =
          { w with realizations := w.realizations.put new } := by
  unfold setPolicyRealizationOutcome
  split
  · exact Or.inl rfl
  · refine (updateRow_cases _).imp id ?_
    rintro ⟨new, hnew, hput⟩
    obtain ⟨old, hold, rfl⟩ := Option.map_eq_some_iff.mp hnew
    obtain ⟨hold, hexpected⟩ := Option.filter_eq_some_iff.mp hold
    refine ⟨old, _, hold, of_decide_eq_true hexpected, ?_, ?_, ?_, ?_, hput⟩ <;> rfl

/-- The attempt whose outcome a call reports, and its endpoint. -/
def PolicyCall.reports : PolicyCall Snapshot → Option (AttemptId × Uuid)
  | .requeuePolicyRealization expectedAttemptId r => some (expectedAttemptId, r.endpointId)
  | .setPolicyRealizationOutcome u => some (u.expectedAttemptId, u.endpoint)
  | _ => none

/-- An outcome leaves the record of another attempt as it is. -/
def Fenced (reader : GraphReader Graph Snapshot) (c : PolicyCall Snapshot) (w : World Graph) :
    Prop :=
  ∀ attemptId endpoint, c.reports = some (attemptId, endpoint) →
    ∀ r, w.realizations.get? endpoint = some r → r.attemptId ≠ attemptId →
      (exec reader c w).2.realizations.get? endpoint = some r

theorem fenced (c : PolicyCall Snapshot) (w : World Graph) : Fenced reader c w := by
  intro attemptId endpoint hreports r hr hother
  cases c with
  | requeuePolicyRealization expectedAttemptId new =>
    cases hreports
    rcases requeuePolicyRealization_cases (w := w) attemptId new with
      hmiss | ⟨old, _, hold, hattempt, _⟩
    · exact (congrArg (fun s : World Graph => s.realizations.get? _) hmiss).trans hr
    · cases hold.symm.trans hr
      exact absurd hattempt hother
  | setPolicyRealizationOutcome u =>
    cases hreports
    rcases setPolicyRealizationOutcome_cases (w := w) u with hmiss | ⟨old, _, hold, hexpects, _⟩
    · exact (congrArg (fun s : World Graph => s.realizations.get? _) hmiss).trans hr
    · cases hold.symm.trans hr
      exact absurd hexpects.2.2.2 hother
  | _ => cases hreports

/-- Every realized record has the fingerprint that the register holds. -/
def TellsTheTruth (w : World Graph) : Prop :=
  ∀ endpoint r, w.realizations.get? endpoint = some r → r.state = .realized →
    w.register endpoint = some r.desiredFingerprint

/-- When no run is in progress, the records tell the truth. -/
def TruthfulAtRest {ι : Type} (runs : Runs Graph Snapshot ι) : Prop :=
  (∀ id, ¬ runs.InProgress id) → TellsTheTruth runs.store

/-- The provider is called while the record is still the one of the attempt and
for its fingerprint, and an observation is recorded while it is still true. -/
def Undisturbed (c : PolicyCall Snapshot) (w : World Graph) : Prop :=
  match c with
  | .applyPolicySnapshot attemptId endpoint _ fingerprint =>
    ∀ r, w.realizations.get? endpoint = some r →
      r.attemptId = attemptId ∧ r.desiredFingerprint = fingerprint
  | .setPolicyRealizationOutcome u =>
    u.state = .realized → u.lastOutcome = some observedAfterUnknownOutcome →
      ∀ r, w.realizations.get? u.endpoint = some r → u.expects r →
        w.register u.endpoint = some u.expected
  | _ => True

instance : (c : PolicyCall Snapshot) → (w : World Graph) → Decidable (Undisturbed c w)
  | .applyPolicySnapshot attemptId endpoint _ fingerprint, w =>
    inferInstanceAs (Decidable (∀ r ∈ w.realizations.get? endpoint,
      r.attemptId = attemptId ∧ r.desiredFingerprint = fingerprint))
  | .setPolicyRealizationOutcome u, w =>
    inferInstanceAs (Decidable
      (u.state = .realized → u.lastOutcome = some observedAfterUnknownOutcome →
        ∀ r ∈ w.realizations.get? u.endpoint, u.expects r →
          w.register u.endpoint = some u.expected))
  | .compileEndpointWithMetadata _ _, _ => isTrue trivial
  | .getPolicyRealization _ _, _ => isTrue trivial
  | .listPolicyRealizations _, _ => isTrue trivial
  | .upsertPolicyRealization _, _ => isTrue trivial
  | .requeuePolicyRealization _ _, _ => isTrue trivial
  | .observePolicySnapshot _, _ => isTrue trivial

structure Sound (w : World Graph) : Prop where
  recorded :
    ∀ endpoint r, w.realizations.get? endpoint = some r → r.attemptId < w.attempts.length
  truth : TellsTheTruth w

/-- Attempts are only added, and under an attempt recorded before the register
changes to the fingerprint of that attempt at most. -/
structure Moves (w w' : World Graph) : Prop where
  attempts : ∃ more, w'.attempts = w.attempts ++ more
  attempt :
    ∀ endpoint r', w'.realizations.get? endpoint = some r' →
      r'.attemptId < w.attempts.length →
        (∃ r, w.realizations.get? endpoint = some r ∧ r.attemptId = r'.attemptId) ∧
          (w'.register endpoint = w.register endpoint ∨
            w'.register endpoint = w.attempts[r'.attemptId]?)

theorem Moves.refl (w : World Graph) : Moves w w :=
  ⟨⟨[], (List.append_nil _).symm⟩, fun _ r' hr' _ => ⟨⟨r', hr', rfl⟩, Or.inl rfl⟩⟩

theorem Moves.getElem? {w' : World Graph}
    (h : Moves w w') {attemptId : AttemptId} {fingerprint : String}
    (hrecorded : w.attempts[attemptId]? = some fingerprint) :
    w'.attempts[attemptId]? = some fingerprint := by
  obtain ⟨more, hmore⟩ := h.attempts
  obtain ⟨hlt, _⟩ := List.getElem?_eq_some_iff.mp hrecorded
  rw [hmore, List.getElem?_append_left hlt, hrecorded]

theorem Moves.trans {w₁ w₂ w₃ : World Graph} (h : Moves w₁ w₂) (h' : Moves w₂ w₃) :
    Moves w₁ w₃ := by
  obtain ⟨more, hmore⟩ := h.attempts
  obtain ⟨more', hmore'⟩ := h'.attempts
  refine ⟨⟨more ++ more', by rw [hmore', hmore, List.append_assoc]⟩, ?_⟩
  intro endpoint r₃ hr₃ hlt
  have hlt' : r₃.attemptId < w₂.attempts.length := by
    rw [hmore, List.length_append]
    exact Nat.lt_of_lt_of_le hlt (Nat.le_add_right _ _)
  have hsame : w₂.attempts[r₃.attemptId]? = w₁.attempts[r₃.attemptId]? := by
    rw [hmore, List.getElem?_append_left hlt]
  obtain ⟨⟨r₂, hr₂, hattempt⟩, hregister⟩ := h'.attempt endpoint r₃ hr₃ hlt'
  obtain ⟨⟨r₁, hr₁, hattempt'⟩, hregister'⟩ := h.attempt endpoint r₂ hr₂ (hattempt ▸ hlt)
  rw [hattempt] at hregister'
  refine ⟨⟨r₁, hr₁, hattempt'.trans hattempt⟩, ?_⟩
  rcases hregister with heq | heq
  · exact hregister'.imp heq.trans heq.trans
  · exact Or.inr (heq.trans hsame)

/-- What a run owes at each of its calls. -/
def Owes (c : PolicyCall Snapshot) (w : World Graph) : Prop :=
  match c with
  | .upsertPolicyRealization r => r.state = .applying
  | .requeuePolicyRealization expectedAttemptId r =>
    r.attemptId = expectedAttemptId ∧ r.state = .pending
  | .setPolicyRealizationOutcome u =>
    u.state = .realized →
      u.lastOutcome = some observedAfterUnknownOutcome ∨
        ∀ r, w.realizations.get? u.endpoint = some r → u.expects r →
          w.register u.endpoint = some u.expected
  | .applyPolicySnapshot attemptId _ _ fingerprint => w.attempts[attemptId]? = some fingerprint
  | _ => True

theorem Sound.put (h : Sound w) {endpoint : Uuid} {old new : CanonicalPolicyRealizationRecord}
    (hold : w.realizations.get? endpoint = some old) (hendpoint : new.endpointId = old.endpointId)
    (hattempt : new.attemptId = old.attemptId)
    (htruth : new.state = .realized → w.register endpoint = some new.desiredFingerprint) :
    Moves w { w with realizations := w.realizations.put new } ∧
      Sound { w with realizations := w.realizations.put new } := by
  have hkey : new.endpointId = endpoint := hendpoint.trans (w.realizations.key_of_get? hold)
  have hget : ∀ other, (w.realizations.put new).get? other =
      if endpoint = other then some new else w.realizations.get? other := by
    intro other
    rw [Table.get?_put, hkey]
  refine ⟨⟨⟨[], (List.append_nil _).symm⟩, ?_⟩, ?_, ?_⟩
  · intro other r' hr' _
    rw [hget] at hr'
    split_ifs at hr' with heq
    · subst heq
      cases hr'
      exact ⟨⟨old, hold, hattempt.symm⟩, Or.inl rfl⟩
    · exact ⟨⟨r', hr', rfl⟩, Or.inl rfl⟩
  · intro other r hr
    rw [hget] at hr
    split_ifs at hr with heq
    · cases hr
      rw [hattempt]
      exact h.recorded endpoint old hold
    · exact h.recorded other r hr
  · intro other r hr hrealized
    rw [hget] at hr
    split_ifs at hr with heq
    · subst heq
      cases hr
      exact htruth hrealized
    · exact h.truth other r hr hrealized

/-- **One call**: what a run owes and an undisturbed provider keep the records true. -/
theorem Sound.exec
    (h : Sound w) {c : PolicyCall Snapshot} (howes : Owes c w) (hundisturbed : Undisturbed c w) :
    Moves w (exec reader c w).2 ∧ Sound (exec reader c w).2 := by
  cases c with
  | upsertPolicyRealization r =>
    rcases @upsertPolicyRealization_cases _ _ reader w r with ⟨_, hsame⟩ | hnew
    · rw [show (Policy.exec reader (.upsertPolicyRealization r) w).2 = w from hsame]
      exact ⟨Moves.refl w, h⟩
    · rw [show Policy.exec reader (.upsertPolicyRealization r) w = _ from hnew]
      refine ⟨⟨⟨_, rfl⟩, ?_⟩, ?_, ?_⟩
      · intro endpoint r' hr' hlt
        rw [Table.get?_put] at hr'
        split_ifs at hr' with heq
        · cases hr'
          exact absurd hlt (lt_irrefl _)
        · exact ⟨⟨r', hr', rfl⟩, Or.inl rfl⟩
      · intro endpoint r' hr'
        rw [List.length_append, List.length_singleton]
        rw [Table.get?_put] at hr'
        split_ifs at hr' with heq
        · cases hr'
          exact Nat.lt_succ_self _
        · exact Nat.lt_succ_of_lt (h.recorded endpoint r' hr')
      · intro endpoint r' hr' hrealized
        rw [Table.get?_put] at hr'
        split_ifs at hr' with heq
        · cases hr'
          cases howes.symm.trans hrealized
        · exact h.truth endpoint r' hr' hrealized
  | requeuePolicyRealization expectedAttemptId r =>
    rcases requeuePolicyRealization_cases (w := w) expectedAttemptId r with
      hmiss | ⟨old, new, hold, hattempt, hendpoint, hnew, hstate, hput⟩
    · rw [show (Policy.exec reader (.requeuePolicyRealization expectedAttemptId r) w).2 = w
        from hmiss]
      exact ⟨Moves.refl w, h⟩
    · rw [show (Policy.exec reader (.requeuePolicyRealization expectedAttemptId r) w).2 = _
        from hput]
      refine h.put hold hendpoint (hnew.trans (howes.1.trans hattempt.symm)) ?_
      intro hrealized
      cases (hstate.trans howes.2).symm.trans hrealized
  | setPolicyRealizationOutcome u =>
    rcases setPolicyRealizationOutcome_cases (w := w) u with
      hmiss | ⟨old, new, hold, hexpects, hendpoint, hattempt, hdesired, hstate, hput⟩
    · rw [show (Policy.exec reader (.setPolicyRealizationOutcome u) w).2 = w from hmiss]
      exact ⟨Moves.refl w, h⟩
    · rw [show (Policy.exec reader (.setPolicyRealizationOutcome u) w).2 = _ from hput]
      refine h.put hold hendpoint hattempt ?_
      intro hrealized
      rw [hdesired, hexpects.2.2.1]
      have hstate' := hstate.symm.trans hrealized
      rcases howes hstate' with hobserved | hown
      · exact hundisturbed hstate' hobserved old hold hexpects
      · exact hown old hold hexpects
  | applyPolicySnapshot attemptId endpoint snapshot fingerprint =>
    have hregister : ∀ other,
        (Policy.exec reader (.applyPolicySnapshot attemptId endpoint snapshot fingerprint)
            w).2.register other
          =
        if other = endpoint then some fingerprint else w.register other :=
      fun other => Function.update_apply _ _ _ _
    refine ⟨⟨⟨[], (List.append_nil _).symm⟩, ?_⟩, h.recorded, ?_⟩
    · intro other r' hr' _
      refine ⟨⟨r', hr', rfl⟩, ?_⟩
      rw [hregister]
      split_ifs with heq
      · subst heq
        rw [(hundisturbed r' hr').1]
        exact Or.inr howes.symm
      · exact Or.inl rfl
    · intro other r hr hrealized
      rw [hregister]
      split_ifs with heq
      · subst heq
        rw [(hundisturbed r hr).2]
      · exact h.truth other r hr hrealized
  | _ => exact ⟨Moves.refl w, h⟩

theorem Sound.environment (h : Sound w) (e : Environment Graph) :
    Moves w (environment reader e w) ∧ Sound (environment reader e w) := by
  cases e with
  | provider answer => exact ⟨⟨(Moves.refl w).attempts, (Moves.refl w).attempt⟩, h.recorded, h.truth⟩
  | mutate graph =>
    have hkept : ∀ endpoint r,
        (Policy.environment reader (.mutate graph) w).realizations.get? endpoint = some r →
          w.realizations.get? endpoint = some r := by
      intro endpoint r hr
      exact (Option.filter_eq_some_iff.mp
        ((w.realizations.get?_deleteWhere _ endpoint).symm.trans hr)).1
    refine ⟨⟨⟨[], (List.append_nil _).symm⟩, ?_⟩, ?_, ?_⟩
    · exact fun endpoint r' hr' _ => ⟨⟨r', hkept endpoint r' hr', rfl⟩, Or.inl rfl⟩
    · exact fun endpoint r hr => h.recorded endpoint r (hkept endpoint r hr)
    · exact fun endpoint r hr => h.truth endpoint r (hkept endpoint r hr)

/-- The attempt has written: the register holds its fingerprint while the record is its own. -/
structure Wrote (attemptId : AttemptId) (endpoint : Uuid) (fingerprint : String)
    (w : World Graph) : Prop where
  recorded : w.attempts[attemptId]? = some fingerprint
  register :
    ∀ r, w.realizations.get? endpoint = some r → r.attemptId = attemptId →
      w.register endpoint = some fingerprint

theorem Wrote.moves {w' : World Graph} {attemptId : AttemptId} {endpoint : Uuid}
    {fingerprint : String} (h : Wrote attemptId endpoint fingerprint w) (hmoves : Moves w w') :
    Wrote attemptId endpoint fingerprint w' := by
  refine ⟨hmoves.getElem? h.recorded, ?_⟩
  rintro r' hr' rfl
  obtain ⟨hlt, _⟩ := List.getElem?_eq_some_iff.mp h.recorded
  obtain ⟨⟨r, hr, hattempt⟩, hregister⟩ := hmoves.attempt endpoint r' hr' hlt
  rcases hregister with hsame | hown
  · exact hsame.trans (h.register r hr hattempt)
  · exact hown.trans h.recorded

end Statements

section Runs

variable {Graph Snapshot α β : Type} {reader : GraphReader Graph Snapshot} {w : World Graph}

/-- Whatever happens between its calls, the service owes nothing it does not give. -/
def OnCourse
    (reader : GraphReader Graph Snapshot) (p : PolicyService Snapshot α) (w : World Graph) :
    Prop :=
  Program.Ensures (exec reader) Moves Sound Owes (fun _ _ => True) p.run w

theorem onCourse_pure (a : α) : OnCourse reader (pure a) w := trivial

variable {f : α → PolicyService Snapshot β}

theorem onCourse_bind {p : PolicyService Snapshot α}
    (hp : OnCourse reader p w) (hf : ∀ a w', OnCourse reader (f a) w') :
    OnCourse reader (p >>= f) w := by
  refine Program.Ensures.bind hp ?_
  intro x w' _
  cases x with
  | error e => trivial
  | ok a => exact hf a w'

theorem onCourse_call {c : PolicyCall Snapshot} {f : c.Reply → PolicyService Snapshot β}
    (h :
      ∀ w', Moves w w' →
        Owes c w' ∧ OnCourse reader (f (exec reader c w').1) (exec reader c w').2) :
    OnCourse reader (PolicyService.call c >>= f) w :=
  fun w' hmoves _ => h w' hmoves

theorem onCourse_stored {x : Except StoreError α} (h : ∀ a, x = .ok a → OnCourse reader (f a) w) :
    OnCourse reader (PolicyService.stored x >>= f) w := by
  cases x with
  | error e => trivial
  | ok a => exact h a rfl

theorem onCourse_stored_last (x : Except StoreError α) :
    OnCourse reader (PolicyService.stored x : PolicyService Snapshot α) w := by
  cases x <;> trivial

theorem onCourse_ensure {p : Prop} [Decidable p] {e : CanonicalPolicyServiceError}
    {f : Unit → PolicyService Snapshot β} (h : p → OnCourse reader (f ()) w) :
    OnCourse reader (PolicyService.ensure p e >>= f) w := by
  by_cases hp : p
  · simp only [PolicyService.ensure, if_pos hp]
    exact h hp
  · simp only [PolicyService.ensure, if_neg hp]
    trivial

theorem onCourse_compiled {projectId : String} {endpointId : Uuid}
    {f : Compiled Snapshot → PolicyService Snapshot β}
    (h : ∀ current w', Moves w w' → OnCourse reader (f current) w') :
    OnCourse reader (PolicyService.compiled projectId endpointId >>= f) w := by
  intro w' hmoves _
  refine ⟨trivial, ?_⟩
  show Program.Ensures _ _ _ _ _ (Program.bind (.done _) _) _
  cases hreply : reader.compileEndpointWithMetadata w'.graph projectId endpointId with
  | error e =>
    simp only [exec, hreply]
    trivial
  | ok current =>
    simp only [exec, hreply]
    exact h current w' hmoves

variable {realization : CanonicalPolicyRealizationRecord}

theorem onCourse_setOutcome (h :
      realization.state = .realized →
        Wrote realization.attemptId realization.endpointId realization.desiredFingerprint w) :
    OnCourse reader (setOutcome realization : PolicyService Snapshot Unit) w := by
  refine onCourse_call fun w' hmoves => ⟨?_, onCourse_stored_last _⟩
  intro hrealized
  refine Or.inr fun r hr hexpects => ?_
  exact ((h hrealized).moves hmoves).register r hr hexpects.2.2.2

theorem onCourse_recordSuccess (h :
      realization.state = .realized →
        Wrote realization.attemptId realization.endpointId realization.desiredFingerprint w) :
    OnCourse reader (recordSuccess realization : PolicyService Snapshot Unit) w := by
  refine onCourse_compiled fun current w' hmoves => ?_
  split_ifs with hstale
  · exact onCourse_call fun w'' _ => ⟨⟨rfl, rfl⟩, onCourse_stored_last _⟩
  · exact onCourse_setOutcome fun hrealized => (h hrealized).moves hmoves

theorem onCourse_recordOutcome {projectId fingerprint : String} {endpointId : Uuid}
    {attemptId : AttemptId} {generation : Nat} (outcome : PolicyApplyOutcome)
    (h : Wrote attemptId endpointId fingerprint w) :
    OnCourse reader
      (recordOutcome
        (realizationOf projectId endpointId attemptId fingerprint generation outcome) outcome :
        PolicyService Snapshot Unit)
      w := by
  cases outcome with
  | success => exact onCourse_recordSuccess fun _ => h
  | definiteFailure => exact onCourse_setOutcome fun hrealized => (by cases hrealized)
  | unknown => exact onCourse_setOutcome fun hrealized => (by cases hrealized)

theorem getElem?_of_upsert {r : CanonicalPolicyRealizationRecord} {attemptId : AttemptId}
    (h : (upsertPolicyRealization reader w r).1 = .ok attemptId) :
    (upsertPolicyRealization reader w r).2.attempts[attemptId]? = some r.desiredFingerprint := by
  rcases @upsertPolicyRealization_cases _ _ reader w r with ⟨⟨e, herror⟩, _⟩ | hnew
  · cases herror.symm.trans h
  · rw [hnew] at h ⊢
    cases h
    exact List.getElem?_concat_length

variable (projectId : String)

theorem onCourse_reconcile (endpointId : Uuid) (expected : Option String) (w : World Graph) :
    OnCourse reader (reconcileEndpointPolicy projectId endpointId expected) w := by
  refine onCourse_compiled fun current w₁ _ => onCourse_ensure fun _ => ?_
  refine onCourse_call fun w₂ _ => ⟨trivial, onCourse_stored fun previous _ => ?_⟩
  refine onCourse_call fun w₃ _ => ⟨rfl, onCourse_stored fun attemptId hattempt => ?_⟩
  have hrecorded := getElem?_of_upsert hattempt
  refine onCourse_call fun w₄ hmoves => ⟨hmoves.getElem? hrecorded, ?_⟩
  refine onCourse_bind (onCourse_recordOutcome _ ⟨hmoves.getElem? hrecorded, ?_⟩)
    fun _ _ => onCourse_pure _
  exact fun _ _ _ => Function.update_self _ _ _

theorem onCourse_retry
    (record : CanonicalPolicyRealizationRecord) (current : Compiled Snapshot) (w : World Graph) :
    OnCourse reader (retry projectId record current) w :=
  onCourse_bind (onCourse_reconcile _ _ _ _) fun _ _ => onCourse_pure _

theorem onCourse_settle (record : CanonicalPolicyRealizationRecord) (current : Compiled Snapshot)
    (observation : PolicyObservation) (w : World Graph) :
    OnCourse reader (settle projectId record current observation) w := by
  cases observation with
  | observed fingerprint generation providerResourceId =>
    simp only [settle]
    split_ifs with hcurrent
    · refine onCourse_call fun w' _ => ⟨fun _ => Or.inl rfl, ?_⟩
      exact onCourse_stored fun _ _ => onCourse_pure _
    · exact onCourse_retry _ _ _ _
  | absent => exact onCourse_retry _ _ _ _
  | unknown reason => exact onCourse_pure _

theorem onCourse_recoverRealization (record : CanonicalPolicyRealizationRecord) (w : World Graph) :
    OnCourse reader (recoverRealization projectId record) w := by
  refine onCourse_compiled fun current w₁ _ => ?_
  split_ifs with hcurrent hpending
  · exact onCourse_pure _
  · refine onCourse_bind ?_ fun _ w₂ => onCourse_call fun w₃ _ => ⟨trivial, onCourse_settle _ _ _ _ _⟩
    unfold requeueStale
    split_ifs with hstale
    · exact onCourse_call fun w₂ _ => ⟨⟨rfl, rfl⟩, onCourse_stored_last _⟩
    · exact onCourse_pure _
  · refine onCourse_bind ?_ fun _ w₂ => onCourse_retry _ _ _ _
    unfold requeueStale
    split_ifs with hstale
    · exact onCourse_call fun w₂ _ => ⟨⟨rfl, rfl⟩, onCourse_stored_last _⟩
    · exact onCourse_pure _

theorem onCourse_recoverRealizations
    (records : List CanonicalPolicyRealizationRecord) (w : World Graph) :
    OnCourse reader (recoverRealizations projectId records) w := by
  induction records generalizing w with
  | nil => exact onCourse_pure _
  | cons record records ih =>
    refine onCourse_bind (onCourse_recoverRealization _ _ _) fun _ w' => ?_
    exact onCourse_bind (ih w') fun _ _ => onCourse_pure _

theorem onCourse_program (r : PolicyRun) (w : World Graph) :
    Program.Ensures (exec reader) Moves Sound Owes (fun _ _ => True) (r.program Snapshot) w := by
  cases r with
  | reconcile projectId endpointId expected =>
    exact onCourse_bind (onCourse_reconcile _ _ _ _) fun _ _ => onCourse_pure _
  | recover projectId =>
    refine onCourse_call fun w' _ => ⟨trivial, ?_⟩
    exact onCourse_stored fun _ _ => onCourse_recoverRealizations _ _ _

end Runs

section Interleavings

variable {Graph Snapshot ι : Type} [DecidableEq ι]

/-- One event: a run starts, a run makes its next call, or the graph or the
provider changes. -/
def step (reader : GraphReader Graph Snapshot) :
    Runs Graph Snapshot ι → Event ι PolicyRun (Environment Graph) → Runs Graph Snapshot ι :=
  Concurrent.step (exec reader) (PolicyRun.program Snapshot) (environment reader)

/-- Nothing is realized yet, whatever the provider holds. -/
def World.unrealized (graph : Graph) (register : Uuid → Option String) (answer : ProviderAnswer) :
    World Graph :=
  ⟨graph, ∅, [], register, answer⟩

theorem sound_unrealized
    (graph : Graph) (register : Uuid → Option String) (answer : ProviderAnswer) :
    Sound (World.unrealized graph register answer) :=
  ⟨fun _ _ h => (by cases h), fun _ _ h => (by cases h)⟩

/-- **A realized policy record tells the truth** in every interleaving in which
no superseded attempt overwrites the provider and no outdated observation is
recorded; and in all of them a late outcome leaves a newer attempt alone. -/
theorem realized_records_tell_the_truth
    (reader : GraphReader Graph Snapshot) (graph : Graph) (register : Uuid → Option String)
    (answer : ProviderAnswer) (events : List (Event ι PolicyRun (Environment Graph))) :
    EachStep (step reader) (fun runs e => runs.Meets (Fenced reader) e)
        (Concurrent.initial (World.unrealized graph register answer)) events ∧
      (EachStep (step reader) (fun runs e => runs.Meets Undisturbed e)
          (Concurrent.initial (World.unrealized graph register answer)) events →
        Always (step reader) TruthfulAtRest
          (Concurrent.initial (World.unrealized graph register answer)) events) := by
  refine ⟨eachStep_of_invariant (I := fun _ => True) (fun _ _ _ => trivial) ?_ _ _ trivial, ?_⟩
  · rintro runs e -
    cases e with
    | start | other => trivial
    | advance id => exact fun c _ => fenced c runs.store
  · intro hundisturbed
    have hguard :
        EachStep
          (Concurrent.step (exec reader) (PolicyRun.program Snapshot) (environment reader))
          (fun runs e => True ∧ runs.Meets Undisturbed e)
          (Concurrent.initial (World.unrealized graph register answer)) events :=
      hundisturbed.imp fun _ _ hmeets => ⟨trivial, hmeets⟩
    have htrack :=
      Concurrent.onTrack_run_meets (R := Moves) (I := Sound) (A := Owes) (Q := fun _ _ => True)
        (G := fun _ _ => True) Moves.refl (fun _ _ _ => Moves.trans) (fun _ _ _ _ _ => trivial)
        (fun w _ r _ _ => onCourse_program r w.store)
        (fun _ e hsound _ => hsound.environment e)
        (fun _ _ hsound howes hmeets => hsound.exec howes hmeets)
        (sound_unrealized graph register answer) events hguard
    exact htrack.imp fun runs hruns _ => hruns.store.truth

end Interleavings

/-- A graph of one endpoint that compiles to the fingerprint it is. -/
def fingerprintReader : GraphReader String Unit where
  compileEndpointWithMetadata graph _ _ := .ok ⟨(), graph, 1⟩
  hasEndpoint _ _ _ := true

/-- The first run is overtaken between its upsert and its provider call. -/
def overtaken : List (Event Bool PolicyRun (Environment String)) :=
  [.start false (.reconcile "project" "endpoint" none),
    .advance false, .advance false, .advance false,
    .other (.mutate "sha256:b"),
    .start true (.reconcile "project" "endpoint" none),
    .advance true, .advance true, .advance true, .advance true, .advance true, .advance true,
    .advance false, .advance false, .advance false]

def overtakenStart : Runs String Unit Bool :=
  Concurrent.initial (World.unrealized "sha256:a" (fun _ => none) ⟨.success none, .ok (none, none)⟩)

/-- The second run supersedes the first after its provider call, and has an answer that says
nothing; the third recovers. -/
def inTurn : List (Event Nat PolicyRun (Environment String)) :=
  [.start 0 (.reconcile "project" "endpoint" none),
    .advance 0, .advance 0, .advance 0, .advance 0,
    .other (.mutate "sha256:b"),
    .start 1 (.reconcile "project" "endpoint" none),
    .advance 1, .advance 1, .advance 1,
    .advance 0, .advance 0,
    .other (.provider ⟨.unknown "timeout", .ok (none, none)⟩),
    .advance 1, .advance 1,
    .start 2 (.recover "project"),
    .advance 2, .advance 2, .advance 2, .advance 2]

def inTurnStart : Runs String Unit Nat :=
  Concurrent.initial (World.unrealized "sha256:a" (fun _ => none) ⟨.success none, .ok (none, none)⟩)

/-- A requeue that comes too late, an unknown outcome and its recovery leave the records true, and
the last one realized. -/
theorem records_true_in_turn :
    Always (step fingerprintReader) TruthfulAtRest inTurnStart inTurn ∧
      ((run (step fingerprintReader) inTurnStart inTurn).store.realizations.get?
          "endpoint").map (fun r => (r.state, r.desiredFingerprint))
        =
      some (.realized, "sha256:b") :=
  ⟨(realized_records_tell_the_truth fingerprintReader "sha256:a" (fun _ => none)
      ⟨.success none, .ok (none, none)⟩ inTurn).2 (by decide +kernel),
    by decide +kernel⟩

/-- Both runs are over, the record is realized for the second fingerprint, and
the provider holds the first. -/
theorem late_write_breaks_truth :
    ¬ Always (step fingerprintReader) TruthfulAtRest overtakenStart overtaken := by
  intro h
  have hlast := h.last
  have hrest : ∀ id, ¬ (run (step fingerprintReader) overtakenStart overtaken).InProgress id := by
    rintro id ⟨c, next, hnext⟩
    cases id with
    | false =>
      have hdone : (run (step fingerprintReader) overtakenStart overtaken).calls false
          = some (.done (.error (.store .staleGeneration))) := rfl
      cases hdone.symm.trans hnext
    | true =>
      have hdone : (run (step fingerprintReader) overtakenStart overtaken).calls true
          = some (.done (.ok [("endpoint", .success none)])) := rfl
      cases hdone.symm.trans hnext
  have hrecord :
      ((run (step fingerprintReader) overtakenStart overtaken).store.realizations.get?
          "endpoint").map (fun r => (r.state, r.desiredFingerprint))
        =
      some (.realized, "sha256:b") := by
    decide +kernel
  have hregister :
      (run (step fingerprintReader) overtakenStart overtaken).store.register "endpoint"
        =
      some "sha256:a" := by
    decide +kernel
  obtain ⟨r, hr, hfields⟩ := Option.map_eq_some_iff.mp hrecord
  rw [Prod.mk.injEq] at hfields
  have htruth := hlast hrest "endpoint" r hr hfields.1
  rw [hregister, hfields.2] at htruth
  exact absurd htruth (by decide)

end Policy
end O3k
