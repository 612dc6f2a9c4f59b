import Mathlib.Data.BitVec
import O3k.Store.Values

/-!
# IPv4 addresses and prefixes

An address is 32 bits.  `Ipv4Net` is a prefix as the network service reads it:
the host bits are dropped and at most 30 bits are fixed, so that there are a
first and a last host.
-/

namespace O3k
namespace Network

abbrev Ipv4Addr := BitVec 32

instance : LawfulBEq Ipv4Addr :=
  inferInstanceAs (LawfulBEq (BitVec 32))

def splitChars (c : Char) : List Char → List (List Char)
  | [] => [[]]
  | x :: xs =>
    match splitChars c xs with
    | [] => [[]]
    | part :: parts => if x = c then [] :: part :: parts else (x :: part) :: parts

/-- Decimal digits, at least one. -/
def parseDigits (cs : List Char) : Option Nat :=
  if cs ≠ [] ∧ cs.all Char.isDigit then
    some (cs.foldl (fun n c => 10 * n + (c.toNat - '0'.toNat)) 0)
  else
    none

/-- `u8::from_str`: an optional plus sign and digits. -/
def parseU8 (s : String) : Option Nat :=
  let digits :=
    match s.toList with
    | '+' :: cs => cs
    | cs => cs
  (parseDigits digits).filter (fun n => n ≤ 255)

/-- One number of a dotted address: no sign and no leading zero. -/
def parseOctet (cs : List Char) : Option Nat :=
  if cs.length ≤ 3 ∧ (cs.head? ≠ some '0' ∨ cs = ['0']) then
    (parseDigits cs).filter (fun n => n ≤ 255)
  else
    none

namespace Ipv4Addr

/-- `Ipv4Addr::from_str`. -/
def parse (s : String) : Option Ipv4Addr :=
  match (splitChars '.' s.toList).map parseOctet with
  | [some a, some b, some c, some d] => some (BitVec.ofNat 32 (((a * 256 + b) * 256 + c) * 256 + d))
  | _ => none

/-- `Display for Ipv4Addr`. -/
def toText (address : Ipv4Addr) : String :=
  let n := address.toNat
  toString (n / 2 ^ 24) ++ "." ++ toString (n / 2 ^ 16 % 256) ++ "." ++
    toString (n / 2 ^ 8 % 256) ++ "." ++ toString (n % 256)

end Ipv4Addr

theorem splitChars_ne_nil (c : Char) (cs : List Char) : splitChars c cs ≠ [] := by
  cases cs with
  | nil => simp [splitChars]
  | cons x xs =>
    unfold splitChars
    split <;> (try split) <;> simp

theorem splitChars_append {c : Char} {part : List Char} (h : ∀ x ∈ part, x ≠ c) (rest : List Char) :
    splitChars c (part ++ c :: rest) = part :: splitChars c rest := by
  induction part with
  | nil =>
    cases hrest : splitChars c rest with
    | nil => exact absurd hrest (splitChars_ne_nil c rest)
    | cons p ps => simp [splitChars, hrest]
  | cons x xs ih =>
    have hx : x ≠ c := h x (by simp)
    simp [splitChars, ih (fun y hy => h y (by simp [hy])), hx]

theorem splitChars_of_forall {c : Char} {part : List Char} (h : ∀ x ∈ part, x ≠ c) :
    splitChars c part = [part] := by
  induction part with
  | nil => rfl
  | cons x xs ih =>
    have hx : x ≠ c := h x (by simp)
    simp [splitChars, ih (fun y hy => h y (by simp [hy])), hx]

theorem toDigits_ne_dot (n : Nat) : ∀ c ∈ Nat.toDigits 10 n, c ≠ '.' := by
  rintro c hc rfl
  exact absurd (Nat.isDigit_of_mem_toDigits (by omega) (by omega) hc) (by decide)

theorem parseOctet_toDigits : ∀ n < 256, parseOctet (Nat.toDigits 10 n) = some n := by
  decide +kernel

theorem parse_toText (a : Ipv4Addr) : Ipv4Addr.parse a.toText = some a := by
  have hdigits := toDigits_ne_dot
  have htext : a.toText.toList =
      Nat.toDigits 10 (a.toNat / 2 ^ 24) ++ '.' :: (Nat.toDigits 10 (a.toNat / 2 ^ 16 % 256) ++
        '.' :: (Nat.toDigits 10 (a.toNat / 2 ^ 8 % 256) ++
          '.' :: Nat.toDigits 10 (a.toNat % 256))) := by
    simp only [Ipv4Addr.toText, String.toList_append, Nat.toString_eq_repr, Nat.toList_repr,
      List.append_assoc, show ".".toList = ['.'] from rfl, List.cons_append, List.nil_append]
  unfold Ipv4Addr.parse
  rw [htext, splitChars_append (hdigits _), splitChars_append (hdigits _),
    splitChars_append (hdigits _), splitChars_of_forall (hdigits _)]
  simp only [List.map_cons, List.map_nil, parseOctet_toDigits _ (show a.toNat / 2 ^ 24 < 256 by omega),
    parseOctet_toDigits _ (Nat.mod_lt _ (show 0 < 256 by omega)), Option.some.injEq]
  apply BitVec.eq_of_toNat_eq
  rw [BitVec.toNat_ofNat]
  omega

theorem toText_injective : Function.Injective Ipv4Addr.toText := by
  intro a b h
  have hparse := parse_toText a
  rw [h, parse_toText b] at hparse
  exact (Option.some.inj hparse).symm

theorem toNat_mod_of_and_mask {a : Ipv4Addr} {k : Nat} (h : a &&& (BitVec.allOnes 32 <<< k) = a) :
    a.toNat % 2 ^ k = 0 := by
  have hlow : ∀ i < k, a.getLsbD i = false := by
    intro i hi
    rw [← h]
    simp [hi]
  refine Nat.eq_of_testBit_eq fun i => ?_
  rw [Nat.testBit_mod_two_pow, Nat.zero_testBit, BitVec.testBit_toNat]
  by_cases hi : i < k
  · simp [hlow i hi]
  · simp [hi]

/-- The bits that a prefix of the given length fixes. -/
def prefixMask (length : Nat) : BitVec 32 :=
  if length = 0 then 0 else BitVec.allOnes 32 <<< (32 - length)

structure Ipv4Net where
  network : Ipv4Addr
  broadcast : Ipv4Addr
  length : Nat
  deriving DecidableEq

namespace Ipv4Net

/-- `Ipv4Net::parse`; every failure is `NetworkError::InvalidRequest`. -/
def parse? (value : String) : Option Ipv4Net := do
  let (address, length) ← splitOnce '/' value
  let raw ← Ipv4Addr.parse address
  let length ← parseU8 length
  if 30 < length then
    none
  else
    let mask := prefixMask length
    some ⟨raw &&& mask, (raw &&& mask) ||| ~~~mask, length⟩

def canonical (self : Ipv4Net) : String := self.network.toText ++ "/" ++ toString self.length

def contains (self : Ipv4Net) (address : Ipv4Addr) : Bool :=
  self.network ≤ address && address ≤ self.broadcast

def firstHost (self : Ipv4Net) : Ipv4Addr := self.network + 1

def lastHost (self : Ipv4Net) : Ipv4Addr := self.broadcast - 1

end Ipv4Net

example : (Ipv4Net.parse? "10.1.2.3/24").map Ipv4Net.canonical = some "10.1.2.0/24" := by
  decide

/-- Why `validate_ipv4_cidr` refuses a text. -/
inductive CidrError
  | invalidPrefix
  | invalidLength
  | nonCanonical
  deriving DecidableEq

def CidrError.text : CidrError → String
  | invalidPrefix => "invalid canonical IPv4 prefix"
  | invalidLength => "invalid canonical IPv4 prefix length"
  | nonCanonical => "non-canonical IPv4 prefix"

def validateIpv4Cidr (value : String) : Except CidrError Unit :=
  match splitOnce '/' value with
  | none => .error .invalidPrefix
  | some (address, length) =>
    match Ipv4Addr.parse address, parseU8 length with
    | some raw, some length =>
      if 32 < length then
        .error .invalidLength
      else if raw &&& prefixMask length ≠ raw then
        .error .nonCanonical
      else
        .ok ()
    | _, _ => .error .invalidPrefix

end Network
end O3k
