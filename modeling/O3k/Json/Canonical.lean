import Mathlib.Data.Nat.Digits.Lemmas

/-!
# Canonical JSON

One rendering for each value: no blanks, numerals without leading zeros, texts
with the shortest escapes.  The members of an object come in the order that the
value has them; a canonical value has them sorted by name.

A rendering can be read off the front of any bytes, provided that no digit
follows it (a numeral ends where its digits end), and so different values have
different renderings.
-/

namespace O3k
namespace Json

abbrev Bytes := List UInt8

/-- The bytes are over, or go on with something else than a digit. -/
def Stops : Bytes → Prop
  | [] => True
  | b :: _ => b < 48 ∨ 57 < b

section Texts

def hexDigit (n : UInt8) : UInt8 := if n < 10 then 48 + n else 87 + n

/-- A byte of a text: the two that have a meaning and the control characters
are escaped. -/
def escape (b : UInt8) : Bytes :=
  if b = 34 then [92, 34]
  else if b = 92 then [92, 92]
  else if b = 8 then [92, 98]
  else if b = 9 then [92, 116]
  else if b = 10 then [92, 110]
  else if b = 12 then [92, 102]
  else if b = 13 then [92, 114]
  else if b < 32 then [92, 117, 48, 48, hexDigit (b / 16), hexDigit (b % 16)]
  else [b]

def hexValue (d : UInt8) : UInt8 := if d < 58 then d - 48 else d - 87

/-- Read one byte of a text back. -/
def unescape : Bytes → Option (UInt8 × Bytes)
  | 92 :: 34 :: rest => some (34, rest)
  | 92 :: 92 :: rest => some (92, rest)
  | 92 :: 98 :: rest => some (8, rest)
  | 92 :: 116 :: rest => some (9, rest)
  | 92 :: 110 :: rest => some (10, rest)
  | 92 :: 102 :: rest => some (12, rest)
  | 92 :: 114 :: rest => some (13, rest)
  | 92 :: 117 :: 48 :: 48 :: x :: y :: rest => some (16 * hexValue x + hexValue y, rest)
  | b :: rest => some (b, rest)
  | [] => none

theorem hexValue_hexDigit :
    ∀ n < 32, 16 * hexValue (hexDigit (UInt8.ofNat n / 16)) +
      hexValue (hexDigit (UInt8.ofNat n % 16)) = UInt8.ofNat n := by
  decide

theorem unescape_escape (b : UInt8) (rest : Bytes) :
    unescape (escape b ++ rest) = some (b, rest) := by
  unfold escape
  split
  · rename_i h; subst h; rfl
  split
  · rename_i h; subst h; rfl
  split
  · rename_i h; subst h; rfl
  split
  · rename_i h; subst h; rfl
  split
  · rename_i h; subst h; rfl
  split
  · rename_i h; subst h; rfl
  split
  · rename_i h; subst h; rfl
  split
  · rename_i hcontrol
    have hvalue := hexValue_hexDigit b.toNat hcontrol
    rw [UInt8.ofNat_toNat] at hvalue
    show some (16 * hexValue (hexDigit (b / 16)) + hexValue (hexDigit (b % 16)), rest) = _
    rw [hvalue]
  · rename_i hbackslash _ _ _ _ _ _
    unfold unescape
    split <;> simp_all

theorem escape_head_ne_quote (b : UInt8) : ∃ c rest, escape b = c :: rest ∧ c ≠ 34 := by
  unfold escape
  split
  · exact ⟨_, _, rfl, by decide⟩
  · rename_i hquote
    repeat' split
    all_goals first
      | exact ⟨_, _, rfl, by decide⟩
      | exact ⟨_, _, rfl, hquote⟩

def quote (s : Bytes) : Bytes := 34 :: (s.flatMap escape ++ [34])

/-- Pieces that can each be read off the front of what goes on after them are
read off one after the other, up to a stop that opens none. -/
theorem flatMap_cancel {α β : Type} {code : α → List β} {stop : β} {P : List β → Prop}
    (hcontinues : ∀ (s : List α) rest, P (s.flatMap code ++ stop :: rest))
    (hopens : ∀ a, ∃ c tail, code a = c :: tail ∧ c ≠ stop) {s s' : List α}
    (hread : ∀ a ∈ s, ∀ b rest rest', P rest → P rest' →
      code a ++ rest = code b ++ rest' → a = b ∧ rest = rest')
    {rest rest' : List β} (h : s.flatMap code ++ stop :: rest = s'.flatMap code ++ stop :: rest') :
    s = s' ∧ rest = rest' := by
  induction s generalizing s' with
  | nil =>
    cases s' with
    | nil => simpa using h
    | cons b s' =>
      obtain ⟨c, tail, hc, hne⟩ := hopens b
      simp only [List.flatMap_nil, List.nil_append, List.flatMap_cons, hc,
        List.cons_append, List.cons.injEq] at h
      exact absurd h.1.symm hne
  | cons a s ih =>
    cases s' with
    | nil =>
      obtain ⟨c, tail, hc, hne⟩ := hopens a
      simp only [List.flatMap_nil, List.nil_append, List.flatMap_cons, hc,
        List.cons_append, List.cons.injEq] at h
      exact absurd h.1 hne
    | cons b s' =>
      simp only [List.flatMap_cons, List.append_assoc] at h
      obtain ⟨rfl, htail⟩ :=
        hread a List.mem_cons_self b _ _ (hcontinues s rest) (hcontinues s' rest') h
      obtain ⟨rfl, rfl⟩ := ih (fun x hx => hread x (List.mem_cons_of_mem _ hx)) htail
      exact ⟨rfl, rfl⟩

theorem escape_cancel {b b' : UInt8} {rest rest' : Bytes}
    (h : escape b ++ rest = escape b' ++ rest') :
    b = b' ∧ rest = rest' := by
  have hread := congrArg unescape h
  rw [unescape_escape, unescape_escape] at hread
  exact Prod.mk.inj (Option.some.inj hread)

theorem quote_cancel {s s' rest rest' : Bytes} (h : quote s ++ rest = quote s' ++ rest') :
    s = s' ∧ rest = rest' := by
  refine flatMap_cancel (P := fun _ => True) (fun _ _ => trivial) escape_head_ne_quote
    (fun _ _ _ _ _ _ _ => escape_cancel) ?_
  simpa [quote, List.append_assoc] using h

end Texts

section Numerals

def isDigit (b : UInt8) : Bool := 48 ≤ b && b ≤ 57

def digitByte (d : Nat) : UInt8 := UInt8.ofNat (48 + d)

/-- The decimal numeral of `n`. -/
def numeral (n : Nat) : Bytes := if n = 0 then [48] else (Nat.digits 10 n).reverse.map digitByte

theorem isDigit_digitByte : ∀ d < 10, isDigit (digitByte d) = true := by
  decide

def digitValue (b : UInt8) : Nat := b.toNat - 48

theorem digitValue_digitByte : ∀ d < 10, digitValue (digitByte d) = d := by
  decide

theorem isDigit_of_mem_numeral {n : Nat} : ∀ b ∈ numeral n, isDigit b = true := by
  unfold numeral
  split
  · simp [isDigit]
  · intro b hb
    obtain ⟨d, hd, rfl⟩ := List.mem_map.mp hb
    exact isDigit_digitByte d (Nat.digits_lt_base (by decide) (List.mem_reverse.mp hd))

theorem numeral_ne_nil (n : Nat) : numeral n ≠ [] := by
  unfold numeral
  split
  · simp
  · rename_i hn
    simpa [Nat.digits_eq_nil_iff_eq_zero] using hn

theorem ofDigits_numeral (n : Nat) : Nat.ofDigits 10 ((numeral n).reverse.map digitValue) = n := by
  unfold numeral
  split
  · rename_i hn
    subst hn
    rfl
  · have hdigits :
        (Nat.digits 10 n).map (digitValue ∘ digitByte) = Nat.digits 10 n := by
      refine (List.map_congr_left ?_).trans (List.map_id _)
      intro d hd
      exact digitValue_digitByte d (Nat.digits_lt_base (by decide) hd)
    rw [← List.map_reverse, List.reverse_reverse, List.map_map, hdigits, Nat.ofDigits_digits]

theorem numeral_injective {n m : Nat} (h : numeral n = numeral m) : n = m := by
  rw [← ofDigits_numeral n, h, ofDigits_numeral m]

theorem takeWhile_isDigit {rest : Bytes} (hrest : Stops rest) : rest.takeWhile isDigit = [] := by
  cases rest with
  | nil => rfl
  | cons b rest =>
    refine List.takeWhile_cons_of_neg ?_
    simp only [isDigit, Bool.and_eq_true, decide_eq_true_eq, not_and_or, UInt8.not_le]
    exact hrest

theorem numeral_cancel {n m : Nat} {rest rest' : Bytes}
    (hrest : Stops rest) (hrest' : Stops rest') (h : numeral n ++ rest = numeral m ++ rest') :
    n = m ∧ rest = rest' := by
  have hfront := congrArg (List.takeWhile isDigit) h
  rw [List.takeWhile_append_of_pos isDigit_of_mem_numeral,
    List.takeWhile_append_of_pos isDigit_of_mem_numeral, takeWhile_isDigit hrest,
    takeWhile_isDigit hrest', List.append_nil, List.append_nil] at hfront
  refine ⟨numeral_injective hfront, ?_⟩
  rw [hfront] at h
  exact List.append_cancel_left h

end Numerals

inductive Value
  | null
  | bool (b : Bool)
  | text (s : Bytes)
  | number (n : Nat)
  | array (items : List Value)
  | object (members : List (Bytes × Value))

def separator (first : Bool) : Bytes := if first then [] else [44]

mutual

def render : Value → Bytes
  | .null => [110, 117, 108, 108]
  | .bool true => [116, 114, 117, 101]
  | .bool false => [102, 97, 108, 115, 101]
  | .text s => quote s
  | .number n => numeral n
  | .array items => 91 :: renderItems true items
  | .object members => 123 :: renderMembers true members

def renderItems (first : Bool) : List Value → Bytes
  | [] => [93]
  | v :: rest => separator first ++ (render v ++ renderItems false rest)

def renderMembers (first : Bool) : List (Bytes × Value) → Bytes
  | [] => [125]
  | (name, v) :: rest =>
    separator first ++ (quote name ++ (58 :: (render v ++ renderMembers false rest)))

end

section Values

theorem stops_renderItems (items : List Value) (rest : Bytes) :
    Stops (renderItems false items ++ rest) := by
  cases items with
  | nil => simp [renderItems, Stops]
  | cons v items => simp [renderItems, separator, Stops]

theorem stops_renderMembers (members : List (Bytes × Value)) (rest : Bytes) :
    Stops (renderMembers false members ++ rest) := by
  cases members with
  | nil => simp [renderMembers, Stops]
  | cons m members => simp [renderMembers, separator, Stops]

/-- The first byte says what kind of value comes. -/
def Opens : Value → UInt8 → Prop
  | .null, b => b = 110
  | .bool value, b => b = if value then 116 else 102
  | .text _, b => b = 34
  | .number _, b => isDigit b = true
  | .array _, b => b = 91
  | .object _, b => b = 123

theorem render_opens (v : Value) : ∃ b rest, render v = b :: rest ∧ Opens v b := by
  cases v with
  | number n =>
    obtain ⟨b, rest, hnumeral⟩ := List.exists_cons_of_ne_nil (numeral_ne_nil n)
    refine ⟨b, rest, by rw [render, hnumeral], ?_⟩
    exact isDigit_of_mem_numeral b (hnumeral ▸ List.mem_cons_self)
  | bool value =>
    cases value with
    | true => exact ⟨116, _, by rw [render], rfl⟩
    | false => exact ⟨102, _, by rw [render], rfl⟩
  | null | text | array | object => exact ⟨_, _, by simp only [render, quote]; rfl, rfl⟩

theorem Opens.ne_close {v : Value} {b : UInt8} (h : Opens v b) : b ≠ 93 := by
  rintro rfl
  cases v with
  | bool value => cases value <;> simp [Opens] at h
  | null | text | number | array | object => simp [Opens, isDigit] at h

def kindOf (b : UInt8) : Nat :=
  if b = 110 then 0 else if b = 34 then 1 else if b = 91 then 3 else if b = 123 then 4
  else if b = 116 then 5 else if b = 102 then 6 else 2

def Value.kind : Value → Nat
  | .null => 0
  | .bool value => if value then 5 else 6
  | .text _ => 1
  | .number _ => 2
  | .array _ => 3
  | .object _ => 4

theorem kindOf_digit {b : UInt8} (h : isDigit b = true) : kindOf b = 2 := by
  have hne : ∀ c, isDigit c = false → b ≠ c := by
    rintro c hc rfl
    exact Bool.noConfusion (h.symm.trans hc)
  rw [kindOf, if_neg (hne 110 rfl), if_neg (hne 34 rfl), if_neg (hne 91 rfl),
    if_neg (hne 123 rfl), if_neg (hne 116 rfl), if_neg (hne 102 rfl)]

theorem Opens.kind {v : Value} {b : UInt8} (h : Opens v b) : kindOf b = v.kind := by
  cases v with
  | number n => exact kindOf_digit h
  | bool value => cases value <;> (cases h; rfl)
  | null | text | array | object =>
    cases h
    rfl

theorem kind_of_render_append {v w : Value} {rest rest' : Bytes}
    (h : render v ++ rest = render w ++ rest') :
    v.kind = w.kind := by
  obtain ⟨b, tail, hb, hopens⟩ := render_opens v
  obtain ⟨b', tail', hb', hopens'⟩ := render_opens w
  rw [hb, hb', List.cons_append, List.cons_append] at h
  rw [← hopens.kind, ← hopens'.kind, (List.cons.inj h).1]

mutual

theorem render_cancel (v w : Value) {rest rest' : Bytes} (hrest : Stops rest) (hrest' : Stops rest')
    (h : render v ++ rest = render w ++ rest') :
    v = w ∧ rest = rest' := by
  have hkind := kind_of_render_append h
  match v, w with
  | .null, .null => exact ⟨rfl, by simpa [render] using h⟩
  | .bool true, .bool true | .bool false, .bool false => exact ⟨rfl, by simpa [render] using h⟩
  | .text s, .text s' =>
    obtain ⟨rfl, rfl⟩ := quote_cancel (by simpa [render] using h)
    exact ⟨rfl, rfl⟩
  | .number n, .number m =>
    obtain ⟨rfl, rfl⟩ := numeral_cancel hrest hrest' (by simpa [render] using h)
    exact ⟨rfl, rfl⟩
  | .array items, .array items' =>
    obtain ⟨rfl, rfl⟩ := renderItems_cancel items items' true (by simpa [render] using h)
    exact ⟨rfl, rfl⟩
  | .object members, .object members' =>
    obtain ⟨rfl, rfl⟩ := renderMembers_cancel members members' true (by simpa [render] using h)
    exact ⟨rfl, rfl⟩

theorem renderItems_cancel (items items' : List Value) (first : Bool) {rest rest' : Bytes}
    (h : renderItems first items ++ rest = renderItems first items' ++ rest') :
    items = items' ∧ rest = rest' := by
  match items, items' with
  | [], [] => exact ⟨rfl, by simpa [renderItems] using h⟩
  | [], v :: _ =>
    obtain ⟨b, tail, hb, hopens⟩ := render_opens v
    cases first <;> simp [renderItems, separator, hb] at h
    exact absurd h.1.symm hopens.ne_close
  | v :: _, [] =>
    obtain ⟨b, tail, hb, hopens⟩ := render_opens v
    cases first <;> simp [renderItems, separator, hb] at h
    exact absurd h.1 hopens.ne_close
  | v :: items, w :: items' =>
    simp only [renderItems, List.append_assoc] at h
    obtain ⟨rfl, htail⟩ := render_cancel v w (stops_renderItems items rest)
      (stops_renderItems items' rest') (List.append_cancel_left h)
    obtain ⟨rfl, rfl⟩ := renderItems_cancel items items' false htail
    exact ⟨rfl, rfl⟩

theorem renderMembers_cancel
    (members members' : List (Bytes × Value)) (first : Bool) {rest rest' : Bytes}
    (h : renderMembers first members ++ rest = renderMembers first members' ++ rest') :
    members = members' ∧ rest = rest' := by
  match members, members' with
  | [], [] => exact ⟨rfl, by simpa [renderMembers] using h⟩
  | [], (_, _) :: _ | (_, _) :: _, [] => cases first <;> simp [renderMembers, separator, quote] at h
  | (name, v) :: members, (name', w) :: members' =>
    simp only [renderMembers, List.append_assoc, List.cons_append] at h
    obtain ⟨rfl, hvalue⟩ := quote_cancel (List.append_cancel_left h)
    obtain ⟨rfl, htail⟩ := render_cancel v w (stops_renderMembers members rest)
      (stops_renderMembers members' rest') (List.cons.inj hvalue).2
    obtain ⟨rfl, rfl⟩ := renderMembers_cancel members members' false htail
    exact ⟨rfl, rfl⟩

end

/-- **Canonical renderings are injective.** -/
theorem render_injective {v w : Value} (h : render v = render w) : v = w := by
  have hstops : Stops [] := trivial
  have happend : render v ++ [] = render w ++ [] := by rw [h]
  exact (render_cancel v w hstops hstops happend).1

theorem renderItems_true (items : List Value) :
    renderItems true items = [44].intercalate (items.map render) ++ [93] := by
  cases items with
  | nil => rfl
  | cons v items =>
    have hmore : ∀ items : List Value, ∀ v,
        render v ++ renderItems false items =
          [44].intercalate ((v :: items).map render) ++ [93] := by
      intro items
      induction items with
      | nil => simp [renderItems]
      | cons w items ih =>
        intro v
        rw [renderItems, ih w]
        simp [separator, List.intercalate_cons_cons]
    rw [renderItems, hmore items v]
    simp [separator]

end Values

section Encodings

variable {α : Type}

/-- The UTF-8 bytes of a text. -/
def Value.ofText (s : String) : Value := .text s.toUTF8.data.toList

/-- A member of an object. -/
def field (name : String) (v : Value) : Bytes × Value := (name.toUTF8.data.toList, v)

/-- `null` for nothing. -/
def Value.ofOption (encode : α → Value) : Option α → Value
  | none => .null
  | some a => encode a

theorem toUTF8_injective {s s' : String} (h : s.toUTF8.data.toList = s'.toUTF8.data.toList) :
    s = s' :=
  String.toByteArray_inj.mp (ByteArray.ext (Array.toList_inj.mp h))

@[simp] theorem ofText_inj {s s' : String} : Value.ofText s = Value.ofText s' ↔ s = s' :=
  ⟨fun h => toUTF8_injective (Value.text.inj h), fun h => by rw [h]⟩

@[simp] theorem field_inj {name : String} {v w : Value} : field name v = field name w ↔ v = w := by
  simp [field]

theorem field_ne {name name' : String} (h : name ≠ name') (v w : Value) :
    field name v ≠ field name' w := by
  intro heq
  exact h (toUTF8_injective (congrArg Prod.fst heq))

theorem ofOption_injective {encode : α → Value}
    (hencode : Function.Injective encode) (hnull : ∀ a, encode a ≠ .null) :
    Function.Injective (Value.ofOption encode) := by
  intro a b h
  cases a with
  | none =>
    cases b with
    | none => rfl
    | some b => exact absurd h.symm (hnull b)
  | some a =>
    cases b with
    | none => exact absurd h (hnull a)
    | some b => exact congrArg some (hencode h)

end Encodings

end Json
end O3k
