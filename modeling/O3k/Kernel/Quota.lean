import Mathlib.Algebra.GroupWithZero.Nat
import Mathlib.Data.List.Basic

/-!
# Limits, scopes and reservations

The quota values of the kernel.  A scope keeps the two fields that the store
binds, its id and its kind; a `u64` is a natural number, checked where the
source checks it.
-/

namespace O3k

inductive ScopeKind
  | project
  | domain
  | system
  deriving DecidableEq

/-- `ScopeKind::as_str`. -/
def ScopeKind.asStr : ScopeKind → String
  | .project => "project"
  | .domain => "domain"
  | .system => "system"

structure OwnershipScope where
  id : String
  kind : ScopeKind
  deriving DecidableEq

/-- `LimitKey`: a namespace and a resource of it. -/
structure LimitKey where
  ns : String
  resource : String
  deriving DecidableEq

namespace LimitKey

/-- `LimitKey::KNOWN_DIMENSIONS`. -/
def knownDimensions : List (String × String) :=
  [ ("compute", "servers"),
    ("compute", "vcpus"),
    ("compute", "memory_mb"),
    ("compute", "disk_gb"),
    ("image", "images"),
    ("image", "bytes"),
    ("network", "networks"),
    ("network", "subnets"),
    ("network", "ports") ]

/-- `LimitKey::is_known`. -/
def isKnown (key : LimitKey) : Bool :=
  knownDimensions.any fun d => d.1 = key.ns && d.2 = key.resource

/-- `Display` of a key. -/
def text (key : LimitKey) : String := key.ns ++ ":" ++ key.resource

end LimitKey

inductive LimitValue
  | unlimited
  | maximum (max : Nat)
  deriving DecidableEq

namespace LimitValue

/-- An amount that the ceiling allows. -/
def Allows : LimitValue → Nat → Prop
  | .unlimited, _ => True
  | .maximum max, amount => amount ≤ max

def NotAbove : LimitValue → LimitValue → Prop
  | _, .unlimited => True
  | .unlimited, .maximum _ => False
  | .maximum max, .maximum max' => max ≤ max'

theorem Allows.mono {limit : LimitValue} {amount amount' : Nat}
    (h : limit.Allows amount) (hle : amount' ≤ amount) :
    limit.Allows amount' := by
  cases limit with
  | unlimited => trivial
  | maximum max => exact Nat.le_trans hle h

theorem Allows.raise {limit limit' : LimitValue} {amount : Nat}
    (h : limit.Allows amount) (hraise : limit.NotAbove limit') :
    limit'.Allows amount := by
  cases limit' with
  | unlimited => trivial
  | maximum max' =>
    cases limit with
    | unlimited => exact hraise.elim
    | maximum max => exact Nat.le_trans h hraise

theorem NotAbove.refl (limit : LimitValue) : limit.NotAbove limit := by
  cases limit with
  | unlimited => trivial
  | maximum max => exact Nat.le_refl max

theorem NotAbove.trans {a b c : LimitValue} (hab : a.NotAbove b) (hbc : b.NotAbove c) :
    a.NotAbove c := by
  cases c with
  | unlimited => trivial
  | maximum z =>
    cases b with
    | unlimited => exact hbc.elim
    | maximum y =>
      cases a with
      | unlimited => exact hab.elim
      | maximum x => exact Nat.le_trans hab hbc

end LimitValue

structure ResourceAmount where
  key : LimitKey
  amount : Nat
  deriving DecidableEq

/-- What a list of amounts holds of a key. -/
def amountOf (amounts : List ResourceAmount) (key : LimitKey) : Nat :=
  ((amounts.filter fun a => a.key = key).map ResourceAmount.amount).sum

inductive ReservationState
  | pending
  | committed
  | released
  deriving DecidableEq

/-- `Reservation`, with the amounts of its row in `quota_reservation_amounts`. -/
structure Reservation where
  id : String
  scope : OwnershipScope
  operationId : String
  amounts : List ResourceAmount
  state : ReservationState
  createdAt : String
  deriving DecidableEq

section Amounts

variable {amounts amounts' : List ResourceAmount} {a : ResourceAmount} {key : LimitKey}

theorem amountOf_of_not_mem (h : key ∉ amounts.map ResourceAmount.key) :
    amountOf amounts key = 0 := by
  have hnone : amounts.filter (fun a => a.key = key) = [] := by
    refine List.filter_eq_nil_iff.mpr ?_
    intro a ha hkey
    exact h (List.mem_map.mpr ⟨a, ha, of_decide_eq_true hkey⟩)
  simp [amountOf, hnone]

theorem amountOf_of_mem (hnodup : (amounts.map ResourceAmount.key).Nodup) (h : a ∈ amounts) :
    amountOf amounts a.key = a.amount := by
  induction amounts with
  | nil => exact absurd h List.not_mem_nil
  | cons b rest ih =>
    obtain ⟨hb, hrest⟩ : b.key ∉ rest.map ResourceAmount.key ∧
        (rest.map ResourceAmount.key).Nodup :=
      List.nodup_cons.mp hnodup
    rcases List.mem_cons.mp h with rfl | hmem
    · have hzero := amountOf_of_not_mem hb
      simp only [amountOf] at hzero ⊢
      simp [hzero]
    · have hne : b.key ≠ a.key := by
        intro heq
        exact hb (heq ▸ List.mem_map_of_mem hmem)
      have hsame := ih hrest hmem
      simp only [amountOf] at hsame ⊢
      simpa [List.filter_cons, hne] using hsame

end Amounts

end O3k
