import O3k.Gateways.Compile
import O3k.Network.RealmDeletion

/-!
# The snapshot of a gateway

The execution plan of a gateway as the service compiles it: the gateway, its
attachments and their realms are read one by one, and a gateway that is being
deleted is compiled as if it were active.
-/

namespace O3k
namespace Gateways

open Relational Semantics Network Service Fabric Execution

/-- The loop over the attachments: the realms that are there. -/
def collectRealms (projectId : String) :
    List CanonicalL3GatewayAttachmentRecord → Service (List CanonicalAddressRealmRecord)
  | [] => pure []
  | attachment :: rest => do
    let found ← call (.getCanonicalRealm projectId attachment.realmId)
    let realms ← collectRealms projectId rest
    return found.toList ++ realms

def collectExternalRealm (projectId : String) :
    Option Uuid → Service (List CanonicalAddressRealmRecord)
  | none => pure []
  | some externalRealmId => do
    let external ← okOr .notFound (← call (.getCanonicalRealm projectId externalRealmId))
    ensure (external.state = .active) .conflict
    return [external]

/-- `.map_err(|_| NetworkError::InvalidRequest)`. -/
def orInvalidRequest (x : Except L3GatewayError L3GatewayExecutionPlan) :
    Service L3GatewayExecutionPlan :=
  match x with
  | .ok plan => pure plan
  | .error _ => throw .invalidRequest

def compileL3GatewayExecutionPlanForProject (projectId : String) (gatewayId : Uuid) :
    Service L3GatewayExecutionPlan := do
  let gateway ← okOr .notFound (← call (.getCanonicalL3Gateway projectId gatewayId))
  ensure (gateway.state = .active ∨ gateway.state = .deleting) .conflict
  let attachments ← call (.listCanonicalL3GatewayAttachments projectId gatewayId)
  let realms ← collectRealms projectId attachments
  let external ← collectExternalRealm projectId gateway.externalRealmId
  orInvalidRequest
    (compileL3GatewayExecutionPlan { gateway with state := .active } attachments
      (realmMap (realms ++ external)))

section Alone

variable (lib : TextLibrary) (s : NetworkTables)

/-- What the service returns when nobody else writes. -/
abbrev returned {α : Type} (p : Service α) : Except NetworkError α × NetworkTables :=
  Program.alone (exec lib) p.run s

variable {lib s}

theorem returned_call_bind {α : Type} (c : RepositoryCall) (f : c.Reply → Service α) :
    returned lib s (call c >>= f) = returned lib (exec lib c s).2 (f (exec lib c s).1) := by
  rfl

theorem returned_okOr_bind {α β : Type} {error : NetworkError} {x : Option α} {a : α}
    (hx : x = some a) (f : α → Service β) :
    returned lib s (okOr error x >>= f) = returned lib s (f a) := by
  subst hx
  rfl

theorem returned_ensure_bind {β : Type} {p : Prop} [Decidable p] {error : NetworkError}
    (hp : p) (f : Unit → Service β) :
    returned lib s (ensure p error >>= f) = returned lib s (f ()) := by
  have hok : ensure p error = pure () := by
    rw [ensure, if_pos hp]
    rfl
  rw [hok]
  rfl

theorem returned_collectRealms
    (projectId : String) (attachments : List CanonicalL3GatewayAttachmentRecord) :
    returned lib s (collectRealms projectId attachments) =
    (.ok (attachments.filterMap (fun a => s.getCanonicalRealm projectId a.realmId)), s) := by
  induction attachments with
  | nil => rfl
  | cons attachment rest ih =>
    rw [collectRealms, returned_call_bind]
    have hrest := Program.alone_run_bind_of_ok (exec lib) ih
      (f := fun realms => (return (s.getCanonicalRealm projectId attachment.realmId).toList
        ++ realms : Service _))
    refine Eq.trans hrest ?_
    cases hfound : s.getCanonicalRealm projectId attachment.realmId with
    | none => simp [hfound]
    | some realm => simp [hfound]

theorem returned_collectExternalRealm {projectId : String} {external : Option Uuid}
    (h : ∀ id ∈ external, ∃ realm, s.getCanonicalRealm projectId id = some realm ∧
      realm.state = .active) :
    returned lib s (collectExternalRealm projectId external) =
    (.ok (external.bind (s.getCanonicalRealm projectId)).toList, s) := by
  cases external with
  | none => rfl
  | some id =>
    obtain ⟨realm, hrealm, hactive⟩ := h id rfl
    rw [collectExternalRealm, returned_call_bind]
    have hreply : (exec lib (.getCanonicalRealm projectId id) s).1 = some realm := hrealm
    refine (returned_okOr_bind hreply _).trans ?_
    refine (returned_ensure_bind hactive _).trans ?_
    simp [hrealm]
    rfl

def snapshotRealms (s : NetworkTables) (gateway : CanonicalL3GatewayRecord) :
    List CanonicalAddressRealmRecord :=
  (s.listCanonicalL3GatewayAttachments gateway.projectId gateway.id).filterMap
      (fun a => s.getCanonicalRealm gateway.projectId a.realmId) ++
    (gateway.externalRealmId.bind (s.getCanonicalRealm gateway.projectId)).toList

/-- **What the service compiles** of an active gateway whose external realm is
active. -/
theorem returned_compile {gateway : CanonicalL3GatewayRecord}
    (hgateway : s.getCanonicalL3Gateway gateway.projectId gateway.id = some gateway)
    (hactive : gateway.state = .active)
    (hexternal : ∀ id ∈ gateway.externalRealmId,
      ∃ realm, s.getCanonicalRealm gateway.projectId id = some realm ∧ realm.state = .active)
    {plan : L3GatewayExecutionPlan}
    (hplan :
      compileL3GatewayExecutionPlan gateway
        (s.listCanonicalL3GatewayAttachments gateway.projectId gateway.id)
        (realmMap (snapshotRealms s gateway)) = .ok plan) :
    returned lib s (compileL3GatewayExecutionPlanForProject gateway.projectId gateway.id) =
    (.ok plan, s) := by
  have hsame : { gateway with state := .active } = gateway := by
    rw [← hactive]
  rw [compileL3GatewayExecutionPlanForProject, returned_call_bind]
  have hreply :
      (exec lib (.getCanonicalL3Gateway gateway.projectId gateway.id) s).1 = some gateway :=
    hgateway
  refine (returned_okOr_bind hreply _).trans ?_
  refine (returned_ensure_bind (Or.inl hactive) _).trans ?_
  rw [returned_call_bind]
  refine (Program.alone_run_bind_of_ok (exec lib)
    (returned_collectRealms gateway.projectId _)).trans ?_
  refine (Program.alone_run_bind_of_ok (exec lib)
    (returned_collectExternalRealm hexternal)).trans ?_
  rw [hsame]
  exact congrArg (fun x => returned lib s (orInvalidRequest x)) hplan

end Alone

end Gateways
end O3k
