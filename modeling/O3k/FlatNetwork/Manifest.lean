import O3k.Fabric.Admission
import O3k.FlatNetwork.Manager

/-!
# The ownership manifest

A manifest that the manager has written passes its own check when it is read
again: a record is kept under the name of the TAP of its port, so that no port
has two.
-/

namespace O3k
namespace FlatNetwork

open Relational Network Fabric Execution Semantics

theorem toNat_toLower (c : Char) :
    c.toLower.toNat = if 65 ≤ c.toNat ∧ c.toNat ≤ 90 then c.toNat + 32 else c.toNat := by
  unfold Char.toLower
  have hiff : (c.val ≥ 'A'.val ∧ c.val ≤ 'Z'.val) ↔ (65 ≤ c.toNat ∧ c.toNat ≤ 90) := by
    simp only [ge_iff_le, UInt32.le_iff_toNat_le]
    exact Iff.rfl
  by_cases h : c.val ≥ 'A'.val ∧ c.val ≤ 'Z'.val
  · have hrange := hiff.mp h
    rw [dif_pos h, if_pos hrange]
    show (c.val + ('a'.val - 'A'.val)).toNat = c.val.toNat + 32
    rw [UInt32.toNat_add]
    have hle : c.val.toNat ≤ 90 := hrange.2
    have h32 : ('a'.val - 'A'.val).toNat = 32 := by decide
    omega
  · rw [dif_neg h, if_neg (mt hiff.mpr h)]

theorem char_le_iff (a b : Char) : a ≤ b ↔ a.toNat ≤ b.toNat := by
  rw [Char.le_def, UInt32.le_iff_toNat_le]
  exact Iff.rfl

theorem isHexDigit_toLower (c : Char) : isHexDigit c.toLower = isHexDigit c := by
  rw [Bool.eq_iff_iff]
  simp only [isHexDigit, char_le_iff, toNat_toLower, Bool.or_eq_true, Bool.and_eq_true,
    decide_eq_true_eq]
  have h0 : '0'.toNat = 48 := rfl
  have h9 : '9'.toNat = 57 := rfl
  have ha : 'a'.toNat = 97 := rfl
  have hf : 'f'.toNat = 102 := rfl
  have hA : 'A'.toNat = 65 := rfl
  have hF : 'F'.toNat = 70 := rfl
  split <;> omega

theorem toLower_eq_colon (c : Char) : c.toLower = ':' ↔ c = ':' := by
  rw [← Char.toNat_inj, ← Char.toNat_inj, toNat_toLower]
  have : ':'.toNat = 58 := rfl
  split <;> omega

theorem isMacText_map (n : Nat) (cs : List Char) :
    isMacText n (cs.map Char.toLower) = isMacText n cs := by
  fun_induction isMacText n cs with
  | case1 a b => simp [isMacText, isHexDigit_toLower]
  | case2 n a b c rest ih =>
    simp only [List.map_cons, isMacText, isHexDigit_toLower, ih, toLower_eq_colon]
  | case3 n cs h₁ h₂ =>
    unfold isMacText
    split
    · rename_i a b hmap
      obtain ⟨a', l, rfl, -, hl⟩ := List.map_eq_cons_iff.mp hmap
      obtain ⟨b', l', rfl, -, hl'⟩ := List.map_eq_cons_iff.mp hl
      rw [List.map_eq_nil_iff.mp hl'] at h₁
      exact (h₁ a' b' rfl rfl).elim
    · rename_i m a b c rest hmap
      obtain ⟨a', l, rfl, -, hl⟩ := List.map_eq_cons_iff.mp hmap
      obtain ⟨b', l', rfl, -, hl'⟩ := List.map_eq_cons_iff.mp hl
      obtain ⟨c', l'', rfl, -, -⟩ := List.map_eq_cons_iff.mp hl'
      exact absurd rfl (h₂ m a' b' c' l'' rfl)
    · rfl

theorem isMac_congr {mac mac' : String} (h : eqIgnoreAsciiCase mac mac' = true) :
    isMac mac = isMac mac' := by
  have hsame : mac.toList.map Char.toLower = mac'.toList.map Char.toLower := of_decide_eq_true h
  unfold isMac
  rw [← isMacText_map, hsame, isMacText_map]

theorem isBlank_of_isReference {s : String} (h : isReference s = true) : isBlank s = false := by
  simp only [isReference, Bool.and_eq_true, Bool.not_eq_true', List.any_eq_false] at h
  obtain ⟨⟨hne, -⟩, hclean⟩ := h
  cases hs : s.toList with
  | nil =>
    rw [String.toList_eq_nil_iff] at hs
    rw [hs] at hne
    cases hne
  | cons c rest =>
    have := hclean c (by rw [hs]; exact List.mem_cons_self)
    simp only [isBlank, hs, List.all_cons]
    simp_all

theorem isIfname_tapName (lib : HostLibrary) (portId : String) :
    isIfname (tapName lib portId) = true := by
  have hdigit : ∀ n : Fin 16, (Nat.digitChar n).isAlphanum = true := by decide
  have hhex : ∀ b, ∀ c ∈ hexByte b, c.isAlphanum = true := by
    intro b c hc
    simp only [hexByte, List.mem_cons, List.not_mem_nil, or_false] at hc
    rcases hc with rfl | rfl
    · exact hdigit ⟨b / 16 % 16, Nat.mod_lt _ (by decide)⟩
    · exact hdigit ⟨b % 16, Nat.mod_lt _ (by decide)⟩
  have hlen : ((lib.sha256 portId).take 4).length = 4 := by
    simp [lib.sha256_length]
  obtain ⟨a, b, c, d, habcd⟩ := List.length_eq_four.mp hlen
  unfold isIfname tapName
  rw [habcd]
  simp only [List.flatMap_cons, List.flatMap_nil, List.append_nil, Bool.and_eq_true,
    String.toList_ofList, String.utf8ByteSize_ofList, String.utf8Len_append, utf8Len_hexByte,
    List.all_append, decide_eq_true_eq]
  refine ⟨⟨?_, ?_⟩, ?_⟩
  · simp
  · decide
  · refine ⟨by decide, ?_, ?_, ?_, ?_⟩ <;>
      exact List.all_eq_true.mpr fun c hc => by simp [hhex _ c hc]

section Kept

variable (lib : HostLibrary) (config : HostNetworkConfig)

/-- The specification passes the checks at the beginning of the methods. -/
def TapSpec.Valid (spec : TapSpec) : Prop :=
  isReference spec.instanceId = true ∧ isReference spec.portId = true ∧ isMac spec.mac = true

theorem validateSpec_cases (spec : TapSpec) :
    (spec.Valid ∧ validateSpec spec = pure ()) ∨
      (¬ spec.Valid ∧ ∃ e, validateSpec spec = throw e) := by
  unfold validateSpec TapSpec.Valid
  cases isReference spec.instanceId with
  | false => exact Or.inr ⟨by simp, _, rfl⟩
  | true =>
    cases isReference spec.portId with
    | false => exact Or.inr ⟨by simp, _, rfl⟩
    | true =>
      cases isMac spec.mac with
      | false => exact Or.inr ⟨by simp, _, rfl⟩
      | true => exact Or.inl ⟨⟨rfl, rfl, rfl⟩, rfl⟩

/-- The record is one of a valid specification, under the name of its TAP. -/
structure RowKept (row : String × TapOwnership) : Prop where
  name : row.1 = tapName lib row.2.portId
  interface : row.1 = row.2.interface
  spec : TapSpec.Valid ⟨row.2.instanceId, row.2.portId, row.2.mac⟩
  bridge : row.2.bridge = config.bridgeName
  created : row.2.createdByO3k = true

structure ManifestKept (m : NetworkOwnershipManifest) : Prop where
  bridge : ∀ b ∈ m.bridge, b.name = config.bridgeName ∧ b.uplink = config.uplink ∧
    ∀ gateway ∈ b.gateway, gateway.prefixLen ≤ 30
  taps : ∀ row ∈ m.taps.rows, RowKept lib config row

variable {lib config}

theorem validateTaps_of_kept (rows : List (String × TapOwnership)) (ports : List String)
    (hkept : ∀ row ∈ rows, RowKept lib config row ∧ row.2.portId ∉ ports)
    (hnodup : (rows.map Prod.fst).Nodup) :
    validateTaps config rows ports = .ok () := by
  induction rows generalizing ports with
  | nil => rfl
  | cons row rest ih =>
    obtain ⟨interface, tap⟩ := row
    obtain ⟨⟨hname, hinterface, ⟨hinstance, hport, hmac⟩, hbridge, hcreated⟩, hfresh⟩ :=
      hkept _ List.mem_cons_self
    obtain ⟨hnew, hrest⟩ := List.nodup_cons.mp hnodup
    simp only at hname hinterface hinstance hport hmac hbridge hcreated hfresh hnew
    have hifname : isIfname interface = true := by
      rw [hname]
      exact isIfname_tapName lib _
    have hok : ¬ (interface ≠ tap.interface ∨ tap.bridge ≠ config.bridgeName ∨
        ¬ tap.createdByO3k = true ∨ tap.portId ∈ ports) := by
      rintro (h | h | h | h)
      · exact h hinterface
      · exact h hbridge
      · exact h hcreated
      · exact hfresh h
    rw [validateTaps, if_neg (not_not.mpr ⟨hifname, hinterface ▸ hifname, hinstance, hport⟩),
      if_neg (not_not.mpr hmac), if_neg hok]
    refine ih _ (fun row hrow => ⟨(hkept row (List.mem_cons_of_mem _ hrow)).1, ?_⟩) hrest
    intro hmem
    rcases List.mem_cons.mp hmem with hsame | hmem
    · have hkept' := (hkept row (List.mem_cons_of_mem _ hrow)).1
      refine hnew (List.mem_map.mpr ⟨row, hrow, ?_⟩)
      rw [hkept'.name, hsame, ← hname]
    · exact (hkept row (List.mem_cons_of_mem _ hrow)).2 hmem

/-- **A manifest that is kept is read again.** -/
theorem ManifestKept.valid {m : NetworkOwnershipManifest} (h : ManifestKept lib config m) :
    validateManifest config m = .ok () := by
  have hbridge : validateBridge config m.bridge = .ok () := by
    unfold validateBridge
    split
    · rfl
    · rename_i b hb
      obtain ⟨hname, huplink, hgateway⟩ := h.bridge b hb
      rw [if_neg (by simp [hname, huplink]), if_neg]
      rw [Option.any_eq_true]
      rintro ⟨gateway, hmem, hlong⟩
      have := hgateway gateway hmem
      simp only [decide_eq_true_eq] at hlong
      omega
  have htaps : validateTaps config m.taps.rows [] = .ok () :=
    validateTaps_of_kept _ _ (fun row hrow => ⟨h.taps row hrow, List.not_mem_nil⟩)
      m.taps.keys_nodup
  unfold validateManifest
  rw [hbridge, htaps]
  rfl

/-- The updates that the manager makes. -/
def Sanctioned (lib : HostLibrary) : HostCall → Prop
  | .updateOwnership (.recordTap interface spec) => interface = tapName lib spec.portId ∧ spec.Valid
  | .updateOwnership (.setGateway gateway) => gateway.prefixLen ≤ 30
  | _ => True

theorem toLower_toLower (c : Char) : c.toLower.toLower = c.toLower := by
  rw [← Char.toNat_inj, toNat_toLower, toNat_toLower]
  split
  · rw [if_neg (by omega)]
  · rfl

theorem eqIgnoreAsciiCase_toAsciiLowercase (s : String) :
    eqIgnoreAsciiCase (toAsciiLowercase s) s = true := by
  unfold eqIgnoreAsciiCase toAsciiLowercase
  simp [Function.comp_def, toLower_toLower]

theorem ManifestKept.apply {m m' : NetworkOwnershipManifest} {u : OwnershipUpdate}
    (h : ManifestKept lib config m) (hsanctioned : Sanctioned lib (.updateOwnership u))
    (happly : u.apply config m = .ok m') :
    ManifestKept lib config m' := by
  cases u with
  | recordBridge identity =>
    simp only [OwnershipUpdate.apply] at happly
    split at happly
    · cases happly
    · cases happly
      refine ⟨?_, h.taps⟩
      rintro b ⟨⟩
      refine ⟨rfl, rfl, fun gateway hgateway => ?_⟩
      obtain ⟨old, hold, hmem⟩ := Option.bind_eq_some_iff.mp hgateway
      exact (h.bridge old hold).2.2 gateway hmem
  | setGateway gateway =>
    simp only [OwnershipUpdate.apply] at happly
    split at happly
    · cases happly
    · rename_i bridge hbridge
      split at happly
      · cases happly
      · cases happly
        refine ⟨?_, h.taps⟩
        rintro b ⟨⟩
        refine ⟨(h.bridge _ hbridge).1, (h.bridge _ hbridge).2.1, ?_⟩
        rintro g ⟨⟩
        exact hsanctioned
  | clearGateway =>
    simp only [OwnershipUpdate.apply] at happly
    cases happly
    refine ⟨?_, h.taps⟩
    intro b hb
    obtain ⟨old, hold, rfl⟩ := Option.map_eq_some_iff.mp hb
    exact ⟨(h.bridge old hold).1, (h.bridge old hold).2.1, fun _ hg => by cases hg⟩
  | clearBridge =>
    simp only [OwnershipUpdate.apply] at happly
    split at happly
    · cases happly
      exact ⟨(fun _ hb => by cases hb), h.taps⟩
    · cases happly
  | recordTap interface spec =>
    simp only [OwnershipUpdate.apply] at happly
    split at happly
    · cases happly
    · cases happly
      obtain ⟨hname, hinstance, hport, hmac⟩ := hsanctioned
      refine ⟨h.bridge, fun row hrow => ?_⟩
      rcases m.taps.mem_put.mp hrow with rfl | ⟨hrow, _⟩
      · refine ⟨hname, rfl, ⟨hinstance, hport, ?_⟩, rfl, rfl⟩
        exact (isMac_congr (eqIgnoreAsciiCase_toAsciiLowercase spec.mac)).trans hmac
      · exact h.taps row hrow
  | clearTap interface spec =>
    simp only [OwnershipUpdate.apply] at happly
    split at happly
    · cases happly
      exact h
    · split at happly
      · cases happly
        exact ⟨h.bridge, fun row hrow => h.taps row (m.taps.mem_deleteWhere.mp hrow).1⟩
      · cases happly

theorem ManifestKept.execHost {h : FlatHost} {c : HostCall} {x : HostAnswer}
    (hkept : ManifestKept lib config h.manifest) (hsanctioned : Sanctioned lib c) :
    ManifestKept lib config (execHost config c x h).2.manifest := by
  cases c with
  | updateOwnership u =>
    simp only [FlatNetwork.execHost, execUpdate]
    cases happly : u.apply config h.manifest with
    | error e => exact hkept
    | ok m =>
      have := hkept.apply hsanctioned happly
      simp only
      split <;> assumption
  | ip command =>
    simp only [FlatNetwork.execHost, execIp]
    split <;> exact hkept
  | configure c =>
    simp only [FlatNetwork.execHost, persistDhcp]
    split <;> exact hkept
  | upsertBinding binding =>
    simp only [FlatNetwork.execHost, persistDhcp]
    split <;> exact hkept
  | removeBinding portId => exact hkept
  | launchProcess =>
    simp only [FlatNetwork.execHost, launchDhcp]
    split <;> exact hkept
  | stopProcess =>
    simp only [FlatNetwork.execHost, stopDhcp]
    split <;> exact hkept
  | partialSuffix | settled | linkExists | showLink | ownership | refreshOwnership | binding
  | supervised | writeConfig | dropSupervisor => exact hkept

end Kept

end FlatNetwork
end O3k
