import O3k.Network.PortAllocation

/-!
# The segment of a realm

`ensure_vxlan_realm_binding` reads the binding of a realm and, where there is
none, probes the segments from a place that depends on the realm on.

The rely says that bindings stay and that only probes add bindings.  What it
carries: a segment that was found taken stays taken by the realm that has it,
and the binding that a failed probe reads was inserted by a probe.
-/

namespace O3k
namespace Network

open Relational Relational.Transaction Semantics Service

namespace VniAllocation

variable (lib : NetworkLibrary) (fabricDomainId : Uuid)

/-- The realm has the segment. -/
def Bound (s : NetworkTables) (realmId : Uuid) (segment : Nat) : Prop :=
  ∃ b ∈ s.bindings.rows,
    b.fabricDomainId = fabricDomainId ∧ b.realmId = realmId ∧ b.providerSegmentId = segment

/-- `UNIQUE (fabric_domain_id, provider_segment_id)`. -/
def SegmentsAreUnique (s : NetworkTables) : Prop :=
  ∀ b ∈ s.bindings.rows, ∀ b' ∈ s.bindings.rows,
    b.fabricDomainId = fabricDomainId → b'.fabricDomainId = fabricDomainId →
      b.providerSegmentId = b'.providerSegmentId → b = b'

/-- A row that a probe inserts. -/
def IsProbed (b : CanonicalRealmBindingRecord) : Prop :=
  ∃ realmId segment, realmId ≠ nilUuid ∧ 0 < segment ∧ segment ≤ maxVni ∧
    b = vxlanCandidate fabricDomainId realmId segment

/-- Bindings of the domain stay, and what comes is probed. -/
def Grows (s s' : NetworkTables) : Prop :=
  (∀ b ∈ s.bindings.rows, b.fabricDomainId = fabricDomainId → b ∈ s'.bindings.rows) ∧
    ∀ b ∈ s'.bindings.rows, b.fabricDomainId = fabricDomainId →
      b ∈ s.bindings.rows ∨ IsProbed fabricDomainId b

/-- The store calls of an allocation. -/
def IsProbe : RepositoryCall → Prop
  | .getCanonicalRealmBinding domainKey _ => domainKey = fabricDomainId
  | .insertCanonicalRealmBinding b => IsProbed fabricDomainId b
  | _ => False

/-- What an answer for a realm says about the store. -/
def Answered (realmId : Uuid) (answer : Except NetworkError RealmEncapsulationBinding)
    (s : NetworkTables) : Prop :=
  match answer with
  | .ok b =>
    b.fabricDomainId = fabricDomainId ∧ b.realmId = realmId ∧ b.validate = .ok () ∧
      Bound fabricDomainId s realmId b.providerSegmentId
  | .error .poolExhausted =>
    ∀ segment, 0 < segment → segment ≤ maxVni →
      ∃ other, other ≠ realmId ∧ Bound fabricDomainId s other segment
  | .error _ => True

variable {lib fabricDomainId}

theorem Grows.refl (s : NetworkTables) : Grows fabricDomainId s s :=
  ⟨fun _ hb _ => hb, fun _ hb _ => .inl hb⟩

theorem Grows.trans {s₁ s₂ s₃ : NetworkTables}
    (h : Grows fabricDomainId s₁ s₂) (h' : Grows fabricDomainId s₂ s₃) :
    Grows fabricDomainId s₁ s₃ := by
  refine ⟨fun b hb hd => h'.1 b (h.1 b hb hd) hd, ?_⟩
  intro b hb hd
  rcases h'.2 b hb hd with hb | hprobed
  · exact h.2 b hb hd
  · exact .inr hprobed

variable {realmId : Uuid}

theorem Bound.grows {s s' : NetworkTables} {segment : Nat}
    (h : Bound fabricDomainId s realmId segment) (hgrows : Grows fabricDomainId s s') :
    Bound fabricDomainId s' realmId segment := by
  obtain ⟨b, hb, hd, hrest⟩ := h
  exact ⟨b, hgrows.1 b hb hd, hd, hrest⟩

theorem Answered.grows {s s' : NetworkTables}
    {answer : Except NetworkError RealmEncapsulationBinding}
    (h : Answered fabricDomainId realmId answer s) (hgrows : Grows fabricDomainId s s') :
    Answered fabricDomainId realmId answer s' := by
  unfold Answered at h ⊢
  split
  · exact ⟨h.1, h.2.1, h.2.2.1, h.2.2.2.grows hgrows⟩
  · intro segment hpos hle
    obtain ⟨other, hne, hbound⟩ := h segment hpos hle
    exact ⟨other, hne, hbound.grows hgrows⟩
  · trivial

variable {b : CanonicalRealmBindingRecord}

theorem insertCanonicalRealmBinding_ok {s s' : NetworkTables}
    (h : insertCanonicalRealmBindingBody b s = .ok ((), s')) :
    (∀ b' ∈ s.bindings.rows,
        ¬ (b'.fabricDomainId = b.fabricDomainId ∧ b'.providerSegmentId = b.providerSegmentId)) ∧
      ∀ b', b' ∈ s'.bindings.rows ↔ b' = b ∨ b' ∈ s.bindings.rows := by
  simp only [insertCanonicalRealmBindingBody, get_bind_apply, orFail_bind_eq_ok,
    fromExcept_bind_eq_ok, require_bind_eq_ok, set_apply, Table.insert?_eq_some_iff] at h
  obtain ⟨_, _, _, _, _, _, hfree, _, ⟨habsent, rfl⟩, hset⟩ := h
  obtain ⟨_, rfl⟩ := Prod.mk.inj (Except.ok.inj hset)
  refine ⟨hfree, fun b' => (Table.mem_put s.bindings).trans ?_⟩
  rw [Table.get?_eq_none_iff] at habsent
  constructor
  · rintro (rfl | ⟨hb', _⟩)
    · exact .inl rfl
    · exact .inr hb'
  · rintro (rfl | hb')
    · exact .inl rfl
    · exact .inr ⟨hb', habsent b' hb'⟩

variable {s : NetworkTables}

theorem insertCanonicalRealmBinding_exists
    (h : insertCanonicalRealmBindingBody b s = .error .resourceAlreadyExists) :
    ∃ b' ∈ s.bindings.rows, b'.fabricDomainId = b.fabricDomainId ∧
      (b'.providerSegmentId = b.providerSegmentId ∨ b'.realmId = b.realmId) := by
  have hgeneration : ∀ n, checkedGeneration n ≠ .error .resourceAlreadyExists := by
    intro n
    unfold checkedGeneration
    split <;> simp
  simp only [insertCanonicalRealmBindingBody, get_bind_apply, orFail_bind_eq_error,
    fromExcept_bind_eq_error, hgeneration, require_bind_eq_error, reduceCtorEq, and_false,
    false_or, set_apply, exists_const, or_false] at h
  obtain ⟨_, _, _, _, _, _, ⟨htaken, _⟩ | ⟨_, hkey, _⟩⟩ := h
  · simp only [not_forall, not_not] at htaken
    obtain ⟨b', hb', hd, hsegment⟩ := htaken
    exact ⟨b', hb', hd, .inl hsegment⟩
  · cases hget : s.bindings.get? b.key with
    | none =>
      rw [s.bindings.insert?_of_absent hget] at hkey
      cases hkey
    | some b' =>
      have hsame : b'.fabricDomainId = b.fabricDomainId ∧ b'.realmId = b.realmId := by
        simpa [CanonicalRealmBindingRecord.key] using s.bindings.key_of_get? hget
      exact ⟨b', s.bindings.mem_of_get? hget, hsame.1, .inr hsame.2⟩

/-- The store calls of an allocation keep the invariant and stay in the rely. -/
theorem isProbe_exec {c : RepositoryCall}
    (hunique : SegmentsAreUnique fabricDomainId s) (h : IsProbe fabricDomainId c) :
    Grows fabricDomainId s (exec lib.toTextLibrary c s).2 ∧
      SegmentsAreUnique fabricDomainId (exec lib.toTextLibrary c s).2 := by
  cases c with
  | getCanonicalRealmBinding domainKey realmId => exact ⟨Grows.refl s, hunique⟩
  | insertCanonicalRealmBinding b =>
    refine atomically_rel (fun s' => Grows fabricDomainId s s' ∧ SegmentsAreUnique fabricDomainId s')
      ⟨Grows.refl s, hunique⟩ ?_
    intro _ s' hbody
    obtain ⟨hfree, hrows⟩ := insertCanonicalRealmBinding_ok hbody
    refine ⟨⟨fun b' hb' _ => (hrows b').mpr (.inr hb'), ?_⟩, ?_⟩
    · intro b' hb' _
      rcases (hrows b').mp hb' with rfl | hb'
      · exact .inr h
      · exact .inl hb'
    · intro b₁ hb₁ b₂ hb₂ hd₁ hd₂ hsegment
      rcases (hrows b₁).mp hb₁ with rfl | hb₁ <;> rcases (hrows b₂).mp hb₂ with rfl | hb₂
      · rfl
      · exact absurd ⟨hd₂.trans hd₁.symm, hsegment.symm⟩ (hfree b₂ hb₂)
      · exact absurd ⟨hd₁.trans hd₂.symm, hsegment⟩ (hfree b₁ hb₁)
      · exact hunique b₁ hb₁ b₂ hb₂ hd₁ hd₂ hsegment
  | _ => exact h.elim

variable (lib fabricDomainId) in
/-- An allocation on its way, with what its answer says of the realm. -/
def OnItsWay (realmId : Uuid) (p : Service RealmEncapsulationBinding) (s : NetworkTables) : Prop :=
  Program.Ensures (exec lib.toTextLibrary) (Grows fabricDomainId)
    (SegmentsAreUnique fabricDomainId) (fun c _ => IsProbe fabricDomainId c)
    (fun answer => Answered fabricDomainId realmId answer) p.run s

theorem onItsWay_call_bind {c : RepositoryCall} {f : c.Reply → Service RealmEncapsulationBinding}
    {s : NetworkTables} :
    OnItsWay lib fabricDomainId realmId (call c >>= f) s ↔
    ∀ s', Grows fabricDomainId s s' → SegmentsAreUnique fabricDomainId s' →
      IsProbe fabricDomainId c ∧
        OnItsWay lib fabricDomainId realmId (f (exec lib.toTextLibrary c s').1)
          (exec lib.toTextLibrary c s').2 :=
  Iff.rfl

theorem onItsWay_throw {e : NetworkError} (h : e ≠ .poolExhausted) :
    OnItsWay lib fabricDomainId realmId (throw e) s := by
  show Answered fabricDomainId realmId (.error e) s
  cases e <;> first | exact absurd rfl h | trivial

theorem answered_vxlanBinding {segment generation : Nat}
    (hdomain : fabricDomainId ≠ nilUuid) (hrealm : realmId ≠ nilUuid) (hpos : 0 < segment)
    (hle : segment ≤ maxVni) (hgeneration : generation ≠ 0)
    (hbound : Bound fabricDomainId s realmId segment) :
    Answered fabricDomainId realmId
      (.ok (vxlanBinding fabricDomainId realmId segment generation)) s := by
  refine ⟨rfl, rfl, ?_, hbound⟩
  have hlow : segment ≠ 0 := by omega
  have hhigh : ¬ 0x000fffff < segment := by
    simpa [maxVni] using hle
  simp [RealmEncapsulationBinding.validate, vxlanBinding, hdomain, hrealm, hlow, hhigh, hgeneration]

theorem onItsWay_storedVxlanBinding (hdomain : fabricDomainId ≠ nilUuid) (hb : b ∈ s.bindings.rows)
    (hprobed : IsProbed fabricDomainId b) :
    OnItsWay lib fabricDomainId b.realmId (storedVxlanBinding fabricDomainId b.realmId b) s := by
  obtain ⟨realmId, segment, hrealm, hpos, hle, rfl⟩ := hprobed
  have hword : segment < 2 ^ 32 := by
    unfold maxVni at hle
    omega
  have hanswer :
      (storedVxlanBinding fabricDomainId realmId
          (vxlanCandidate fabricDomainId realmId segment)).run =
        pure (.ok (vxlanBinding fabricDomainId realmId segment 1)) := by
    simp only [storedVxlanBinding, vxlanCandidate, hword, ensure]
    rfl
  show Program.Ensures _ _ _ _ _ (storedVxlanBinding fabricDomainId realmId _).run _
  rw [hanswer]
  exact answered_vxlanBinding hdomain hrealm hpos hle (by decide) ⟨_, hb, rfl, rfl, rfl⟩

/-- **Completeness of the probe sequence**: it visits every segment. -/
theorem exists_offset {seed segment : Nat}
    (hseed : seed < maxVni) (hpos : 0 < segment) (hle : segment ≤ maxVni) :
    ∃ offset < maxVni, (seed + offset) % maxVni + 1 = segment := by
  unfold maxVni at *
  by_cases h : seed < segment
  · exact ⟨segment - 1 - seed, by omega, by omega⟩
  · exact ⟨segment - 1 + 0x000fffff - seed, by omega, by omega⟩

/-- **The probes**, when the offsets tried so far are taken by other realms and
whatever binding the realm has is one that a probe inserted. -/
theorem onItsWay_probeVni {seed remaining : Nat}
    (hdomain : fabricDomainId ≠ nilUuid) (hrealm : realmId ≠ nilUuid) (hseed : seed < maxVni)
    (hremaining : remaining ≤ maxVni)
    (hown :
      ∀ b ∈ s.bindings.rows, b.fabricDomainId = fabricDomainId → b.realmId = realmId →
        IsProbed fabricDomainId b)
    (htaken :
      ∀ offset < maxVni - remaining,
        ∃ other, other ≠ realmId ∧ Bound fabricDomainId s other ((seed + offset) % maxVni + 1)) :
    OnItsWay lib fabricDomainId realmId (probeVni fabricDomainId realmId seed remaining) s := by
  induction remaining generalizing s with
  | zero =>
    intro segment hpos hle
    obtain ⟨offset, hlt, rfl⟩ := exists_offset hseed hpos hle
    exact htaken offset hlt
  | succ remaining ih =>
    have hrange :
        0 < (seed + (maxVni - (remaining + 1))) % maxVni + 1 ∧
          (seed + (maxVni - (remaining + 1))) % maxVni + 1 ≤ maxVni :=
      ⟨Nat.succ_pos _, Nat.mod_lt _ (by decide)⟩
    refine onItsWay_call_bind.mpr fun s₁ h₁ _ => ⟨⟨realmId, _, hrealm, hrange.1, hrange.2, rfl⟩, ?_⟩
    cases hbody : insertCanonicalRealmBindingBody
        (vxlanCandidate fabricDomainId realmId
          ((seed + (maxVni - (remaining + 1))) % maxVni + 1)) s₁ with
    | ok r =>
      obtain ⟨⟨⟩, s₂⟩ := r
      have hexec := atomically_of_ok hbody
      simp only [exec, hexec]
      exact answered_vxlanBinding hdomain hrealm hrange.1 hrange.2 (by decide)
        ⟨_, ((insertCanonicalRealmBinding_ok hbody).2 _).mpr (.inl rfl), rfl, rfl, rfl⟩
    | error e =>
      have hexec := atomically_of_error hbody
      simp only [exec, hexec]
      split
      · rename_i heq
        cases heq
      · rename_i heq
        cases heq
        refine onItsWay_call_bind.mpr fun s₂ h₂ _ => ⟨rfl, ?_⟩
        cases hget : s₂.bindings.get? (toLex (fabricDomainId, realmId)) with
        | some existing =>
          have hmem := s₂.bindings.mem_of_get? hget
          obtain ⟨hdom, rfl⟩ :
              existing.fabricDomainId = fabricDomainId ∧ existing.realmId = realmId := by
            simpa [CanonicalRealmBindingRecord.key] using s₂.bindings.key_of_get? hget
          simp only [exec, hget]
          refine onItsWay_storedVxlanBinding hdomain hmem ?_
          rcases (h₁.trans h₂).2 existing hmem hdom with hold | hprobed
          · exact hown existing hold hdom rfl
          · exact hprobed
        | none =>
          have hnone : ∀ b ∈ s₂.bindings.rows, b.fabricDomainId = fabricDomainId →
              b.realmId ≠ realmId := by
            intro b hb hdom hsame
            refine s₂.bindings.get?_eq_none_iff.mp hget b hb ?_
            simp [CanonicalRealmBindingRecord.key, hdom, hsame]
          simp only [exec, hget]
          refine ih (by omega) (fun b hb hdom hsame => absurd hsame (hnone b hb hdom)) ?_
          intro offset hlt
          by_cases hlast : offset = maxVni - (remaining + 1)
          · subst hlast
            -- the collision was not with a binding of the realm itself: it would still be there
            obtain ⟨b, hb, hdom, hsame⟩ := insertCanonicalRealmBinding_exists hbody
            have hother := hnone b (h₂.1 b hb hdom) hdom
            exact ⟨b.realmId, hother, b, h₂.1 b hb hdom, hdom, rfl, hsame.resolve_right hother⟩
          · obtain ⟨other, hne, hbound⟩ := htaken offset (by omega)
            exact ⟨other, hne, hbound.grows (h₁.trans h₂)⟩
      · rename_i heq
        cases heq
        refine onItsWay_throw ?_
        cases e <;> simp [mapStoreError]

theorem onItsWay_ensure_bind {p : Prop} [Decidable p] {e : NetworkError}
    {f : Unit → Service RealmEncapsulationBinding} (he : e ≠ .poolExhausted)
    (hf : p → OnItsWay lib fabricDomainId realmId (f ()) s) :
    OnItsWay lib fabricDomainId realmId (ensure p e >>= f) s := by
  by_cases hp : p
  · have hgo : (ensure p e >>= f) = f () := by
      simp only [ensure, hp, if_true]
      rfl
    rw [hgo]
    exact hf hp
  · have hthrow : (ensure p e >>= f) = throw e := by
      simp only [ensure, hp, if_false]
      rfl
    rw [hthrow]
    exact onItsWay_throw he

theorem storedVxlanBinding_cases (realmId : Uuid) (b : CanonicalRealmBindingRecord) :
    storedVxlanBinding fabricDomainId realmId b = throw .conflict ∨
      storedVxlanBinding fabricDomainId realmId b = throw .invalidRequest ∨
      storedVxlanBinding fabricDomainId realmId b =
        pure (vxlanBinding fabricDomainId realmId b.providerSegmentId b.bindingGeneration) := by
  by_cases hkind : b.providerKind = "vxlan" ∧ b.state = .active
  · by_cases hword : b.providerSegmentId < 2 ^ 32
    · refine .inr (.inr ?_)
      simp only [storedVxlanBinding, ensure, hkind, hword]
      rfl
    · refine .inr (.inl ?_)
      simp only [storedVxlanBinding, ensure, hkind, hword]
      rfl
  · refine .inl ?_
    simp only [storedVxlanBinding, ensure, hkind]
    rfl

/-- **An allocation**, in any store. -/
theorem onItsWay_ensureVxlanRealmBinding {realm : CanonicalAddressRealmRecord}
    (hrealm : realm.id ≠ nilUuid) (s : NetworkTables) :
    OnItsWay lib fabricDomainId realm.id (ensureVxlanRealmBinding lib fabricDomainId realm) s := by
  refine onItsWay_ensure_bind (by decide) ?_
  rintro ⟨hdomain, _⟩
  refine onItsWay_call_bind.mpr fun s₁ _ _ => ⟨rfl, ?_⟩
  cases hget : s₁.bindings.get? (toLex (fabricDomainId, realm.id)) with
  | some existing =>
    have hsame :
        existing.fabricDomainId = fabricDomainId ∧ existing.realmId = realm.id := by
      simpa [CanonicalRealmBindingRecord.key] using s₁.bindings.key_of_get? hget
    simp only [exec, hget]
    rcases storedVxlanBinding_cases realm.id existing with
      h | h | h
    · rw [h]
      exact onItsWay_throw (by decide)
    · rw [h]
      exact onItsWay_throw (by decide)
    · rw [h]
      refine onItsWay_ensure_bind (by decide) fun hvalid => ?_
      exact ⟨rfl, rfl, hvalid, existing, s₁.bindings.mem_of_get? hget, hsame.1, hsame.2, rfl⟩
  | none =>
    simp only [exec, hget]
    refine onItsWay_probeVni hdomain hrealm (Nat.mod_lt _ (by decide)) le_rfl ?_
      (fun offset hlt => absurd hlt (by omega))
    intro b hb hdom hsame
    refine absurd ?_ (s₁.bindings.get?_eq_none_iff.mp hget b hb)
    simp [CanonicalRealmBindingRecord.key, hdom, hsame]

variable (lib fabricDomainId) in
/-- A call for a realm, which keeps the realm beside its answer. -/
def program (realm : CanonicalAddressRealmRecord) :
    Program RepositoryCall RepositoryCall.Reply
      (Uuid × Except NetworkError RealmEncapsulationBinding) := do
  let answer ← (ensureVxlanRealmBinding lib fabricDomainId realm).run
  return (realm.id, answer)

abbrev Calls (ι : Type) :=
  Concurrent NetworkTables ι RepositoryCall RepositoryCall.Reply
    (Uuid × Except NetworkError RealmEncapsulationBinding)

variable (fabricDomainId) in
/-- What the answers given so far say together. -/
structure Agree {ι : Type} (w : Calls ι) : Prop where
  valid :
    ∀ id realmId b, w.Returned id (realmId, .ok b) →
      b.fabricDomainId = fabricDomainId ∧ b.realmId = realmId ∧
        0 < b.providerSegmentId ∧ b.providerSegmentId ≤ maxVni ∧ b.validate = .ok ()
  oneSegmentEach :
    ∀ id realmId b id' realmId' b',
      w.Returned id (realmId, .ok b) → w.Returned id' (realmId', .ok b') →
        (realmId = realmId' ↔ b.providerSegmentId = b'.providerSegmentId)
  exhausted :
    ∀ id realmId, w.Returned id (realmId, .error .poolExhausted) →
      ∀ segment, 0 < segment → segment ≤ maxVni →
        ∃ other, other ≠ realmId ∧ Bound fabricDomainId w.store other segment

theorem Agree.of_answered {ι : Type} {w : Calls ι}
    (hunique : SegmentsAreUnique fabricDomainId w.store)
    (h : ∀ id realmId answer, w.Returned id (realmId, answer) →
      Answered fabricDomainId realmId answer w.store) :
    Agree fabricDomainId w where
  valid id realmId b hb := by
    obtain ⟨hdomain, hrealm, hvalid, _⟩ := h id realmId _ hb
    refine ⟨hdomain, hrealm, ?_⟩
    have hrange := hvalid
    unfold RealmEncapsulationBinding.validate at hrange
    unfold maxVni
    split at hrange
    · cases hrange
    · split at hrange
      · cases hrange
      · exact ⟨by omega, by omega, hvalid⟩
  oneSegmentEach id realmId b id' realmId' b' hb hb' := by
    obtain ⟨_, _, _, row, hrow, hdom, hrealm, hsegment⟩ := h id realmId _ hb
    obtain ⟨_, _, _, row', hrow', hdom', hrealm', hsegment'⟩ := h id' realmId' _ hb'
    constructor
    · rintro rfl
      have hkey : row.key = row'.key := by
        simp [CanonicalRealmBindingRecord.key, hdom, hdom', hrealm, hrealm']
      rw [← hsegment, ← hsegment', w.store.bindings.eq_of_mem_of_key_eq hrow hrow' hkey]
    · intro hsame
      rw [← hsegment, ← hsegment'] at hsame
      rw [← hrealm, ← hrealm', hunique row hrow row' hrow' hdom hdom' hsame]
  exhausted id realmId hb := h id realmId _ hb

theorem onTrack_program {realm : CanonicalAddressRealmRecord}
    (hrealm : realm.id ≠ nilUuid) (s : NetworkTables) :
    Program.Ensures (exec lib.toTextLibrary) (Grows fabricDomainId)
      (SegmentsAreUnique fabricDomainId) (fun c _ => IsProbe fabricDomainId c)
      (fun answer s => Answered fabricDomainId answer.1 answer.2 s)
      (program lib fabricDomainId realm) s :=
  Program.Ensures.bind (onItsWay_ensureVxlanRealmBinding hrealm s) fun _ _ h => h

variable {Env : Type}

variable (fabricDomainId) in
/-- A call is for a realm with an id, and the environment leaves the bindings of
the domain alone. -/
def Allowed {ι : Type} (env : Env → NetworkTables → NetworkTables) (w : Calls ι) :
    Event ι CanonicalAddressRealmRecord Env → Prop
  | .start _ realm => realm.id ≠ nilUuid
  | .advance _ => True
  | .other e => ∀ b, b.fabricDomainId = fabricDomainId →
      (b ∈ (env e w.store).bindings.rows ↔ b ∈ w.store.bindings.rows)

/-- **In every interleaving**, of any number of calls for realms that have an
id, the answers agree. -/
theorem vni_allocation_agrees {ι : Type} [DecidableEq ι] (lib : NetworkLibrary)
    (fabricDomainId : Uuid) (env : Env → NetworkTables → NetworkTables) (s : NetworkTables)
    (hunique : SegmentsAreUnique fabricDomainId s)
    (events : List (Event ι CanonicalAddressRealmRecord Env))
    (hallowed :
      EachStep (Concurrent.step (exec lib.toTextLibrary) (program lib fabricDomainId) env)
        (Allowed fabricDomainId env) (Concurrent.initial s) events) :
    Always (Concurrent.step (exec lib.toTextLibrary) (program lib fabricDomainId) env)
      (Agree fabricDomainId) (Concurrent.initial s) events := by
  have htrack :=
    Concurrent.onTrack_run (R := Grows fabricDomainId) (I := SegmentsAreUnique fabricDomainId)
      (A := fun c _ => IsProbe fabricDomainId c)
      (Q := fun (answer : Uuid × Except NetworkError RealmEncapsulationBinding) s =>
        Answered fabricDomainId answer.1 answer.2 s)
      Grows.refl (fun _ _ _ => Grows.trans) (fun _ _ _ h hgrows => h.grows hgrows)
      (fun w _ realm _ hrealm => onTrack_program hrealm w.store)
      (fun w e hunique hsame => ?_)
      (fun _ _ hunique hprobe => isProbe_exec hunique hprobe) hunique events hallowed
  · exact htrack.imp fun w hw =>
      .of_answered hw.store fun id realmId answer hreturned => hw.calls id _ hreturned
  · exact ⟨⟨fun b hb hd => (hsame b hd).mpr hb, fun b hb hd => .inl ((hsame b hd).mp hb)⟩,
      fun b hb b' hb' hd hd' => hunique b ((hsame b hd).mp hb) b' ((hsame b' hd').mp hb') hd hd'⟩

/-- Two calls for one realm, of which the second starts before the first has
returned. -/
theorem vni_allocation_agrees_twoCalls :
    Always
      (Concurrent.step (exec plainLibrary.toTextLibrary) (program plainLibrary "fabric")
        (fun (e : Empty) _ => e.elim))
      (Agree "fabric") (Concurrent.initial (filled 0xfffffffe).2)
      [.start false (topAllocation 0xfffffffe).realm, .advance false,
        .start true (topAllocation 0xfffffffe).realm, .advance true, .advance false,
        .advance true, .advance true] := by
  have hnone : (filled 0xfffffffe).2.bindings.rows = [] := by
    decide +kernel
  have hid : (topAllocation 0xfffffffe).realm.id ≠ nilUuid := by
    decide
  refine vni_allocation_agrees plainLibrary "fabric" _ _ ?_ _
    ⟨hid, trivial, hid, trivial, trivial, trivial, trivial, trivial⟩
  intro b hb
  rw [hnone] at hb
  cases hb

/-- The service creates the subnet and the realm of the id that it is given. -/
def nilRealm : Except NetworkError Unit × NetworkTables :=
  Program.alone (exec plainLibrary.toTextLibrary)
    (createSubnetForProjectWithId
      ⟨"project", nilUuid, "network", "subnet", "10.0.0.0/24", none, none, none⟩ (.ok ())
      "pool").run oneNetwork

def nilRealmCalls : Calls Bool :=
  run (Concurrent.step (exec plainLibrary.toTextLibrary) (program plainLibrary "fabric")
      (fun (e : Empty) _ => e.elim))
    (Concurrent.initial nilRealm.2)
    [.start false ⟨nilUuid, "network", "project", "10.0.0.0/24", false, 1, .active⟩,
      .advance false, .advance false,
      .start true ⟨nilUuid, "network", "project", "10.0.0.0/24", false, 1, .active⟩,
      .advance true]

/-- The first call answers with a binding that the second refuses. -/
theorem vni_allocation_binds_nil_realm :
    nilRealm.1 = .ok () ∧ SegmentsAreUnique "fabric" nilRealm.2 ∧
      nilRealmCalls.Returned false (nilUuid, .ok (vxlanBinding "fabric" nilUuid 1 1)) ∧
      nilRealmCalls.Returned true (nilUuid, .error .conflict) ∧
      ¬ Agree "fabric" nilRealmCalls := by
  have hreturned :
      nilRealmCalls.Returned false (nilUuid, .ok (vxlanBinding "fabric" nilUuid 1 1)) := by
    rfl
  have hnone : nilRealm.2.bindings.rows = [] := by
    decide +kernel
  refine ⟨by decide +kernel, fun b hb => ?_, hreturned, by rfl, ?_⟩
  · rw [hnone] at hb
    cases hb
  · intro hagree
    exact absurd (hagree.valid false nilUuid _ hreturned).2.2.2.2 (by decide)

end VniAllocation

end Network
end O3k
