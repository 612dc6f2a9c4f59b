import O3k.Gateways.Graph
import O3k.Gateways.NextHop

/-!
# What is admitted to a gateway graph

None of their checks looks at the prefixes of the realms that are attached
already, or compares the external realm with them; so the graph stays executable
as long as what is written happens to fit.
-/

namespace O3k
namespace Gateways

open Relational Relational.Transaction Semantics Network NetworkTables Service Fabric Execution

inductive GatewayCall
  | create (id : Uuid) (projectId name : String) (externalRealmId : Option Uuid) (enableSnat : Bool)
  | update (projectId : String) (gatewayId : Uuid) (expectedGeneration : Nat) (name : String)
      (externalRealmId : Option Uuid) (enableSnat : Bool)
  | attach (id : Uuid) (projectId : String) (gatewayId realmId : Uuid)
  | detach (projectId : String) (attachmentId : Uuid) (expectedGeneration : Nat)

def GatewayCall.request : GatewayCall → ServiceCall
  | create id projectId name externalRealmId enableSnat =>
    .createL3Gateway id projectId name externalRealmId enableSnat
  | update projectId gatewayId expected name externalRealmId enableSnat =>
    .updateL3Gateway projectId gatewayId expected name externalRealmId enableSnat
  | attach id projectId gatewayId realmId => .attachL3GatewayRealm id projectId gatewayId realmId
  | detach projectId attachmentId expected => .detachL3GatewayRealm projectId attachmentId expected

/-- The attachment fits what is attached to the gateway: its realm has more
than one address, overlaps no other one, and is not the external realm. -/
def Fits (s : NetworkTables) (a : CanonicalL3GatewayAttachmentRecord) : Prop :=
  (∀ p ∈ attachmentPrefix s a,
    p.prefixLen < 32 ∧
      ∀ b ∈ s.attachments.rows, b.state = .active → b.gatewayId = a.gatewayId →
        ∀ q ∈ attachmentPrefix s b, overlaps p q = false) ∧
    ∀ gateway ∈ s.gateways.get? a.gatewayId, gateway.externalRealmId ≠ some a.realmId

instance (s : NetworkTables) (a : CanonicalL3GatewayAttachmentRecord) : Decidable (Fits s a) :=
  inferInstanceAs (Decidable (_ ∧ _))

/-- The external realm is not attached to the gateway. -/
def IsElsewhere (s : NetworkTables) (gatewayId : Uuid) (external : Option Uuid) : Prop :=
  ∀ a ∈ s.attachments.rows, a.state = .active → a.gatewayId = gatewayId →
    external ≠ some a.realmId

instance (s : NetworkTables) (gatewayId : Uuid) (external : Option Uuid) :
    Decidable (IsElsewhere s gatewayId external) :=
  inferInstanceAs (Decidable (∀ a ∈ s.attachments.rows, _))

/-- What is written fits the graph; nothing is asked of a statement that fails. -/
def Admissible : RepositoryCall → NetworkTables → Prop
  | .insertCanonicalL3Gateway gateway, s =>
    (insertCanonicalL3GatewayBody gateway s).isOk →
      gateway.id ≠ nilUuid ∧ gateway.projectId ≠ ""
  | .updateCanonicalL3Gateway projectId id expected name external snat, s =>
    (updateCanonicalL3GatewayBody projectId id expected name external snat s).isOk →
      IsElsewhere s id external
  | .insertCanonicalL3GatewayAttachment a, s =>
    (insertCanonicalL3GatewayAttachmentBody a s).isOk → a.id ≠ nilUuid ∧ Fits s a
  | _, _ => True

instance (c : RepositoryCall) (s : NetworkTables) : Decidable (Admissible c s) := by
  cases c with
  | insertCanonicalL3Gateway gateway => exact inferInstanceAs (Decidable (_ → _))
  | updateCanonicalL3Gateway projectId id expected name external snat =>
    exact inferInstanceAs (Decidable (_ → IsElsewhere s id external))
  | insertCanonicalL3GatewayAttachment a => exact inferInstanceAs (Decidable (_ → _ ∧ Fits s a))
  | _ => exact inferInstanceAs (Decidable True)

/-- What the requests call: reads, and writes of rows that are new and active. -/
def MakesCall : RepositoryCall → Prop
  | .getCanonicalL3Gateway _ _ => True
  | .getCanonicalRealm _ _ => True
  | .listCanonicalL3GatewayAttachments _ _ => True
  | .insertCanonicalL3Gateway gateway => gateway.generation = 1 ∧ gateway.state = .active
  | .updateCanonicalL3Gateway _ _ _ _ _ _ => True
  | .insertCanonicalL3GatewayAttachment a => a.generation = 1 ∧ a.state = .active
  | .beginCanonicalL3GatewayAttachmentDeletion _ _ _ => True
  | _ => False

theorem calls_checkExternalRealm (projectId : String) (external : Option Uuid) :
    Calls MakesCall (checkExternalRealm projectId external) := by
  cases external with
  | none => exact calls_pure ()
  | some id =>
    exact calls_bind (calls_call trivial) (fun _ => calls_bind (calls_okOr _ _)
      (fun _ => calls_ensure _ _))

theorem calls_request (lib : NetworkLibrary) (c : GatewayCall) :
    (c.request.program lib).Calls MakesCall := by
  cases c with
  | create id projectId name external snat =>
    exact calls_bind (calls_ensure _ _) (fun _ =>
      calls_bind (calls_checkExternalRealm _ _) (fun _ =>
        calls_bind (calls_call ⟨rfl, rfl⟩) (fun _ => calls_mapped _)))
  | update projectId gatewayId expected name external snat =>
    exact calls_bind (calls_ensure _ _) (fun _ =>
      calls_bind (calls_checkExternalRealm _ _) (fun _ =>
        calls_bind (calls_call trivial) (fun _ => calls_bind (calls_mapped _)
          (fun _ => calls_pure ()))))
  | attach id projectId gatewayId realmId =>
    exact calls_bind (calls_call trivial) (fun _ => calls_bind (calls_okOr _ _) (fun _ =>
      calls_bind (calls_ensure _ _) (fun _ => calls_bind (calls_call trivial) (fun _ =>
        calls_bind (calls_okOr _ _) (fun _ => calls_bind (calls_ensure _ _) (fun _ =>
          calls_bind (calls_call trivial) (fun _ => calls_bind (calls_ensure _ _) (fun _ =>
            calls_bind (calls_call ⟨rfl, rfl⟩) (fun _ => calls_mapped _)))))))))
  | detach projectId attachmentId expected =>
    exact calls_bind (calls_call trivial) (fun _ => calls_bind (calls_mapped _)
      (fun _ => calls_pure ()))

section Writes

variable {s s' : NetworkTables}

theorem insertGateway_ok {gateway : CanonicalL3GatewayRecord}
    (h : insertCanonicalL3GatewayBody gateway s = .ok ((), s')) :
    s.gateways.get? gateway.id = none ∧
      s.externalRealmExists gateway.projectId gateway.externalRealmId = true ∧
      s' = s.setGateways (s.gateways.put gateway) := by
  obtain ⟨_, _, h⟩ := fromExcept_bind_eq_ok.mp h
  rw [get_bind_apply] at h
  obtain ⟨gateways, hinsert, h⟩ := orFail_bind_eq_ok.mp h
  obtain ⟨habsent, rfl⟩ := (s.gateways.insert?_eq_some_iff gateways).mp hinsert
  obtain ⟨hexternal, h⟩ := require_bind_eq_ok.mp h
  cases h
  exact ⟨habsent, hexternal, rfl⟩

variable {projectId : String} {id : Uuid} {expected : Nat}

theorem updateGateway_ok {name : String} {external : Option Uuid} {snat : Bool}
    {row : CanonicalL3GatewayRecord}
    (h : updateCanonicalL3GatewayBody projectId id expected name external snat s = .ok (row, s')) :
    ∃ gateway ∈ s.gateways.rows, gateway.id = id ∧ gateway.projectId = projectId ∧
      s.externalRealmExists projectId external = true ∧
      s' = s.setGateways (s.gateways.put
        { gateway with
          name := name
          externalRealmId := external
          enableSnat := snat
          generation := gateway.generation + 1 }) := by
  simp only [updateCanonicalL3GatewayBody, get_bind_apply] at h
  obtain ⟨gateway, hget, h⟩ := orFail_bind_eq_ok.mp h
  obtain ⟨_, h⟩ := require_bind_eq_ok.mp h
  obtain ⟨hexternal, h⟩ := require_bind_eq_ok.mp h
  cases h
  obtain ⟨hrow, hproject⟩ := Option.filter_eq_some_iff.mp hget
  obtain ⟨hmem, hid⟩ := (Table.get?_eq_some_iff _).mp hrow
  exact ⟨gateway, hmem, hid, by simpa using hproject, hexternal, rfl⟩

variable {a : CanonicalL3GatewayAttachmentRecord}

theorem insertAttachment_ok (h : insertCanonicalL3GatewayAttachmentBody a s = .ok ((), s')) :
    (∃ realm, s.getCanonicalRealm a.projectId a.realmId = some realm) ∧
      (s.getCanonicalL3Gateway a.projectId a.gatewayId).isSome ∧
      s' = s.setAttachments (s.attachments.put a) := by
  obtain ⟨_, _, h⟩ := fromExcept_bind_eq_ok.mp h
  rw [get_bind_apply] at h
  obtain ⟨realm, hrealm, h⟩ := orFail_bind_eq_ok.mp h
  obtain ⟨_, h⟩ := require_bind_eq_ok.mp h
  obtain ⟨_, h⟩ := require_bind_eq_ok.mp h
  obtain ⟨attachments, hinsert, h⟩ := orFail_bind_eq_ok.mp h
  obtain ⟨_, rfl⟩ := (s.attachments.insert?_eq_some_iff attachments).mp hinsert
  obtain ⟨hgateway, h⟩ := require_bind_eq_ok.mp h
  cases h
  exact ⟨⟨realm, hrealm⟩, hgateway, rfl⟩

variable {row : CanonicalL3GatewayAttachmentRecord}

theorem beginDetachment_ok
    (h : beginCanonicalL3GatewayAttachmentDeletionBody projectId id expected s = .ok (row, s')) :
    ∃ a ∈ s.attachments.rows,
      s' = s.setAttachments (s.attachments.put
        { a with state := .deleting, generation := a.generation + 1 }) := by
  simp only [beginCanonicalL3GatewayAttachmentDeletionBody, get_bind_apply] at h
  obtain ⟨a, hget, h⟩ := orFail_bind_eq_ok.mp h
  obtain ⟨_, h⟩ := require_bind_eq_ok.mp h
  cases h
  obtain ⟨hrow, _⟩ := Option.filter_eq_some_iff.mp hget
  exact ⟨a, ((Table.get?_eq_some_iff _).mp hrow).1, rfl⟩

theorem Sound.putGateway (h : Sound s) {row : CanonicalL3GatewayRecord} (hok : GatewayOk s row)
    (howned : ∀ a ∈ s.attachments.rows, a.gatewayId = row.id → row.projectId = a.projectId)
    (helsewhere : IsElsewhere s row.id row.externalRealmId) :
    Sound (s.setGateways (s.gateways.put row)) where
  realms := h.realms
  gateways := by
    intro gateway hgateway
    rcases (Table.mem_put _).mp hgateway with rfl | ⟨hold, _⟩
    · exact ⟨hok.identified, hok.owned, hok.generation, hok.active, hok.external⟩
    · have hold := h.gateways gateway hold
      exact ⟨hold.identified, hold.owned, hold.generation, hold.active, hold.external⟩
  attachments := by
    intro a ha
    have hold := h.attachments a ha
    refine ⟨hold.identified, hold.generation, ?_, hold.hosted⟩
    show (((s.gateways.put row).get? a.gatewayId).filter _).isSome = true
    rw [Table.get?_put]
    split_ifs with hid
    · simp [howned a ha hid.symm]
    · exact hold.owned
  apart := h.apart
  external := by
    intro gateway hgateway a ha hactive hid
    rcases (Table.mem_put _).mp hgateway with rfl | ⟨hold, _⟩
    · exact helsewhere a ha hactive hid
    · exact h.external gateway hold a ha hactive hid

theorem Sound.putAttachment
    (h : Sound s) (hok : AttachmentOk s row) (hfits : row.state = .active → Fits s row) :
    Sound (s.setAttachments (s.attachments.put row)) where
  realms := h.realms
  gateways := by
    intro gateway hgateway
    have hold := h.gateways gateway hgateway
    exact ⟨hold.identified, hold.owned, hold.generation, hold.active, hold.external⟩
  attachments := by
    intro a ha
    rcases (Table.mem_put _).mp ha with rfl | ⟨hold, _⟩
    · exact ⟨hok.identified, hok.generation, hok.owned, hok.hosted⟩
    · have hold := h.attachments a hold
      exact ⟨hold.identified, hold.generation, hold.owned, hold.hosted⟩
  apart := by
    intro a ha b hb haActive hbActive hsame hne p hp q hq
    rcases (Table.mem_put _).mp ha with rfl | ⟨haOld, _⟩
    · rcases (Table.mem_put _).mp hb with rfl | ⟨hbOld, _⟩
      · exact absurd rfl hne
      · exact ((hfits haActive).1 p hp).2 b hbOld hbActive hsame.symm q hq
    · rcases (Table.mem_put _).mp hb with rfl | ⟨hbOld, _⟩
      · rw [overlaps_comm]
        exact ((hfits hbActive).1 q hq).2 a haOld haActive hsame p hp
      · exact h.apart a haOld b hbOld haActive hbActive hsame hne p hp q hq
  external := by
    intro gateway hgateway a ha hactive hid
    rcases (Table.mem_put _).mp ha with rfl | ⟨hold, _⟩
    · exact (hfits hactive).2 gateway ((Table.get?_eq_some_iff _).mpr ⟨hgateway, hid.symm⟩)
    · exact h.external gateway hgateway a hold hactive hid

theorem AttachmentOk.gateway (h : AttachmentOk s a) :
    ∃ gateway ∈ s.gateways.rows, gateway.id = a.gatewayId ∧ gateway.projectId = a.projectId := by
  obtain ⟨gateway, hget⟩ := Option.isSome_iff_exists.mp h.owned
  obtain ⟨hrow, hproject⟩ := Option.filter_eq_some_iff.mp hget
  obtain ⟨hmem, hid⟩ := (Table.get?_eq_some_iff _).mp hrow
  exact ⟨gateway, hmem, hid, by simpa using hproject⟩

theorem sound_insertGateway (h : Sound s) {gateway : CanonicalL3GatewayRecord}
    (hnew : gateway.generation = 1 ∧ gateway.state = .active)
    (hadmissible : gateway.id ≠ nilUuid ∧ gateway.projectId ≠ "")
    (hbody : insertCanonicalL3GatewayBody gateway s = .ok ((), s')) :
    Sound s' := by
  obtain ⟨habsent, hexternal, rfl⟩ := insertGateway_ok hbody
  -- nothing is attached to a gateway that is not there
  have hfree : ∀ a ∈ s.attachments.rows, a.gatewayId ≠ gateway.id := by
    intro a ha hid
    obtain ⟨other, hother, hotherId, _⟩ := (h.attachments a ha).gateway
    exact (Table.get?_eq_none_iff _).mp habsent other hother (hotherId.trans hid)
  refine h.putGateway ⟨hadmissible.1, hadmissible.2, by omega, hnew.2, hexternal⟩ ?_ ?_
  · exact fun a ha hid => absurd hid (hfree a ha)
  · exact fun a ha _ hid => absurd hid (hfree a ha)

theorem sound_updateGateway (h : Sound s)
    {name : String} {external : Option Uuid} {snat : Bool} {row : CanonicalL3GatewayRecord}
    (hadmissible : IsElsewhere s id external)
    (hbody : updateCanonicalL3GatewayBody projectId id expected name external snat s
      = .ok (row, s')) :
    Sound s' := by
  obtain ⟨gateway, hmem, rfl, rfl, hexternal, rfl⟩ := updateGateway_ok hbody
  have hok := h.gateways gateway hmem
  refine h.putGateway
    ⟨hok.identified, hok.owned, Nat.succ_ne_zero _, hok.active, hexternal⟩ ?_ hadmissible
  intro a ha hid
  obtain ⟨other, hother, hotherId, hproject⟩ := (h.attachments a ha).gateway
  obtain rfl : other = gateway :=
    s.gateways.eq_of_mem_of_key_eq hother hmem (hotherId.trans hid)
  exact hproject

theorem sound_insertAttachment (h : Sound s) (hnew : a.generation = 1 ∧ a.state = .active)
    (hadmissible : a.id ≠ nilUuid ∧ Fits s a)
    (hbody : insertCanonicalL3GatewayAttachmentBody a s = .ok ((), s')) :
    Sound s' := by
  obtain ⟨⟨realm, hrealm⟩, hgateway, rfl⟩ := insertAttachment_ok hbody
  obtain ⟨p, hparse⟩ := (h.realms realm (getCanonicalRealm_id hrealm).1).parsed
  have hprefix : attachmentPrefix s a = some p :=
    Option.bind_eq_some_iff.mpr ⟨realm, hrealm, hparse⟩
  exact h.putAttachment
    ⟨hadmissible.1, by omega, hgateway, p, hprefix, (hadmissible.2.1 p hprefix).1⟩
    (fun _ => hadmissible.2)

theorem sound_beginDetachment (h : Sound s)
    (hbody :
      beginCanonicalL3GatewayAttachmentDeletionBody projectId id expected s = .ok (row, s')) :
    Sound s' := by
  obtain ⟨a, hmem, rfl⟩ := beginDetachment_ok hbody
  have hok := h.attachments a hmem
  exact h.putAttachment ⟨hok.identified, Nat.succ_ne_zero _, hok.owned, hok.hosted⟩
    (fun hactive => by cases hactive)

end Writes

/-- **Step lemma**: a call of a request, when it is admissible, keeps the graph
executable. -/
theorem sound_exec (lib : TextLibrary) {c : RepositoryCall} {s : NetworkTables} (h : Sound s)
    (hmakes : MakesCall c) (hadmissible : Admissible c s) :
    Sound (exec lib c s).2 := by
  cases c with
  | getCanonicalL3Gateway | getCanonicalRealm | listCanonicalL3GatewayAttachments => exact h
  | insertCanonicalL3Gateway gateway =>
    exact atomically_rel Sound h
      (fun _ _ hbody => sound_insertGateway h hmakes (hadmissible (by rw [hbody]; rfl)) hbody)
  | updateCanonicalL3Gateway projectId id expected name external snat =>
    exact atomically_rel Sound h
      (fun _ _ hbody => sound_updateGateway h (hadmissible (by rw [hbody]; rfl)) hbody)
  | insertCanonicalL3GatewayAttachment a =>
    exact atomically_rel Sound h
      (fun _ _ hbody => sound_insertAttachment h hmakes (hadmissible (by rw [hbody]; rfl)) hbody)
  | beginCanonicalL3GatewayAttachmentDeletion projectId id expected =>
    exact atomically_rel Sound h (fun _ _ hbody => sound_beginDetachment h hbody)
  | _ => exact absurd hmakes id

/-- No gateway yet, and active realms of any prefixes. -/
structure Start (s : NetworkTables) : Prop where
  realms : ∀ realm ∈ s.realms.rows, RealmOk realm
  gateways : s.gateways = ∅
  attachments : s.attachments = ∅

theorem Start.sound {s : NetworkTables} (h : Start s) :
    Sound s where
  realms := h.realms
  gateways := by simp [h.gateways]
  attachments := by simp [h.attachments]
  apart := by simp [h.attachments]
  external := by simp [h.gateways]

section Runs

variable (lib : NetworkLibrary) {ι : Type} [DecidableEq ι]

/-- Requests in flight: one starts, or makes its next call to the repository. -/
def gatewayStep :
    Concurrent NetworkTables ι RepositoryCall RepositoryCall.Reply (Except NetworkError Unit) →
    Event ι GatewayCall Empty →
    Concurrent NetworkTables ι RepositoryCall RepositoryCall.Reply (Except NetworkError Unit) :=
  Concurrent.step (exec lib.toTextLibrary) (fun c => c.request.program lib) (fun e _ => e.elim)

/-- Every gateway that is there can be executed. -/
def GraphExecutable (s : NetworkTables) : Prop :=
  ∀ gateway ∈ s.gateways.rows, Executable lib.toTextLibrary s gateway

/-- **Admitted gateway graphs are executable**, in every interleaving of the
requests in which what is written fits the graph. -/
theorem admitted_graphs_executable
    (s : NetworkTables) (hstart : Start s) (events : List (Event ι GatewayCall Empty))
    (hadmissible :
      EachStep (gatewayStep lib) (fun w e => w.Meets Admissible e) (Concurrent.initial s) events) :
    Always (gatewayStep lib) (fun w => GraphExecutable lib w.store) (Concurrent.initial s)
      events := by
  have htrack :
      Always (gatewayStep lib)
        (Concurrent.OnTrack (exec lib.toTextLibrary) (fun _ _ => True) Sound
          (fun c _ => MakesCall c) (fun _ _ => True))
        (Concurrent.initial s) events :=
    Concurrent.onTrack_run_meets (G := fun _ _ => True)
      (fun _ => trivial) (fun _ _ _ _ _ => trivial) (fun _ _ _ _ _ => trivial)
      (fun w _ c _ _ =>
        Program.Ensures.of_calls (fun _ _ hmakes => hmakes) (calls_request lib c) w.store)
      (fun _ e _ _ => e.elim)
      (fun c s hsound hmakes hadmissible =>
        ⟨trivial, sound_exec lib.toTextLibrary hsound hmakes hadmissible⟩)
      hstart.sound events (hadmissible.imp (fun _ _ h => ⟨trivial, h⟩))
  exact htrack.imp (fun w h gateway hgateway => executable_of_sound h.store hgateway _)

end Runs

/-- No request of a gateway consults the library. -/
def networkLibrary : NetworkLibrary :=
  { isRfc3339 := fun _ => true
    toLowercase := id
    debug := id
    displaySql := fun _ => ""
    portMac := id
    urlId := id
    sha256 := id
    vniSeed := fun _ => 0
    displayStore := fun _ => "" }

/-- Three active realms; `wide` overlaps `front`. -/
def threeRealms : NetworkTables :=
  { NetworkTables.empty with
    realms := Table.ofList
      [sampleRealm "front" "10.0.0.0/24", sampleRealm "back" "10.1.0.0/24",
        sampleRealm "wide" "10.0.0.0/8"] }

theorem start_threeRealms : Start threeRealms where
  realms := by
    intro realm hrealm
    have hall :
        ∀ realm ∈ threeRealms.realms.rows,
          realm.id ≠ nilUuid ∧ realm.generation ≠ 0 ∧ realm.state = .active ∧
            (parsePrefix? realm.prefixText).isSome = true := by
      decide +kernel
    obtain ⟨hid, hgeneration, hactive, hparse⟩ := hall realm hrealm
    exact ⟨hid, hgeneration, hactive, Option.isSome_iff_exists.mp hparse⟩
  gateways := rfl
  attachments := rfl

/-- A gateway is created, and two realms are attached to it. -/
def attachBoth (first second : Uuid) : List (Event Nat GatewayCall Empty) :=
  [.start 0 (.create "gateway" "project" "edge" none false), .advance 0,
    .start 1 (.attach "a" "project" "gateway" first),
    .advance 1, .advance 1, .advance 1, .advance 1,
    .start 2 (.attach "b" "project" "gateway" second),
    .advance 2, .advance 2, .advance 2, .advance 2]

/-- Realms that do not overlap. -/
theorem disjoint_realms_executable :
    Always (gatewayStep networkLibrary) (fun w => GraphExecutable networkLibrary w.store)
      (Concurrent.initial threeRealms) (attachBoth "front" "back") :=
  admitted_graphs_executable networkLibrary threeRealms start_threeRealms _ (by decide +kernel)

def overlappingPlan : L3GatewayExecutionPlan :=
  { gatewayId := "gateway"
    projectId := "project"
    gatewayGeneration := 1
    attachments :=
      [⟨"a", 1, "front", 1, ⟨0x0a000000, 24⟩, 0x0a000001⟩,
        ⟨"b", 1, "wide", 1, ⟨0x0a000000, 8⟩, 0x0a000001⟩]
    externalRealmId := none
    externalRealmPrefix := none
    externalRealmGeneration := none
    enableSnat := false }

/-- Both attachments are admitted, and the host refuses what they are compiled
to. -/
theorem overlapping_realms_admitted :
    Start threeRealms ∧
      ¬ Always (gatewayStep networkLibrary) (fun w => GraphExecutable networkLibrary w.store)
        (Concurrent.initial threeRealms) (attachBoth "front" "wide") := by
  refine ⟨start_threeRealms, ?_⟩
  intro halways
  obtain ⟨plan, hplan, hvalid⟩ := halways.last sampleGateway (by decide +kernel)
  have hcompiled :
      (returned networkLibrary.toTextLibrary
          (run (gatewayStep networkLibrary) (Concurrent.initial threeRealms)
            (attachBoth "front" "wide")).store
          (compileL3GatewayExecutionPlanForProject sampleGateway.projectId sampleGateway.id)).1
        = .ok overlappingPlan := by
    decide +kernel
  obtain rfl : plan = overlappingPlan := Except.ok.inj (hplan.symm.trans hcompiled)
  exact absurd hvalid (by decide +kernel)

end Gateways
end O3k
