import Mathlib.Data.Finset.Sort
import O3k.Json.Canonical
import O3k.Lifecycle.RefusedRequests

/-!
# The material of an idempotency fingerprint

`IdempotencyReservationRequest::from_semantics` digests the action, the resource
type, the target and the canonical text of the body, a line each.  The canonical
text can be read off the front of any text and has no line break, so the
material determines the body and the lines before it; it determines these apart
only when the action and the resource type take one line each.
-/

namespace O3k
namespace Lifecycle

open Operations Relational.Transaction

/-- The characters of a serialised number. -/
def isNumeral (c : Char) : Bool := c.isDigit || c ∈ ['-', '+', '.', 'e', 'E']

/-- A number, by its serialised text. -/
structure Numeral where
  first : Char
  rest : List Char
  numeral : ∀ c ∈ first :: rest, isNumeral c = true

/-- `serde_json::Value`; a map is the family of its values over its keys. -/
inductive JsonValue
  | null
  | bool (b : Bool)
  | number (n : Numeral)
  | string (s : String)
  | array (n : Nat) (items : Fin n → JsonValue)
  | object (keys : Finset String) (members : {key // key ∈ keys} → JsonValue)

/-- A character of a string, as `serde_json::to_string` writes it. -/
def escapeChar (c : Char) : List Char :=
  if c = '"' then ['\\', '"']
  else if c = '\\' then ['\\', '\\']
  else if c = Char.ofNat 8 then ['\\', 'b']
  else if c = '\t' then ['\\', 't']
  else if c = '\n' then ['\\', 'n']
  else if c = Char.ofNat 12 then ['\\', 'f']
  else if c = '\r' then ['\\', 'r']
  else if c.toNat < 32 then
    ['\\', 'u', '0', '0', Nat.digitChar (c.toNat / 16), Nat.digitChar (c.toNat % 16)]
  else [c]

def quoteString (s : String) : List Char := '"' :: (s.toList.flatMap escapeChar ++ ['"'])

/-- `canonical_json`, as characters. -/
def canonicalJson : JsonValue → List Char
  | .null => ['n', 'u', 'l', 'l']
  | .bool true => ['t', 'r', 'u', 'e']
  | .bool false => ['f', 'a', 'l', 's', 'e']
  | .number n => n.first :: n.rest
  | .string s => quoteString s
  | .array _ items =>
    '[' :: ([','].intercalate (List.ofFn fun i => canonicalJson (items i)) ++ [']'])
  | .object keys members =>
    '{' :: ([','].intercalate ((keys.sort (· ≤ ·)).attach.map fun key =>
      quoteString key.1 ++
        ':' :: canonicalJson (members ⟨key.1, (Finset.mem_sort _).mp key.2⟩)) ++ ['}'])

section Strings

/-- The characters that a string does not hold as they are. -/
def escapedChars : List Char := '"' :: '\\' :: (List.range 32).map Char.ofNat

theorem escapeChar_plain {c : Char} (hc : c ∉ escapedChars) : escapeChar c = [c] := by
  have hne : ∀ d ∈ escapedChars, c ≠ d := fun d hd h => hc (h ▸ hd)
  have hcontrol : ¬ c.toNat < 32 := fun hlt =>
    hc (by
      refine List.mem_cons_of_mem _ (List.mem_cons_of_mem _ (List.mem_map.mpr ⟨c.toNat, ?_⟩))
      exact ⟨List.mem_range.mpr hlt, Char.ofNat_toNat c⟩)
  rw [escapeChar, if_neg (hne _ (by decide)), if_neg (hne _ (by decide)),
    if_neg (hne _ (by decide)), if_neg (hne _ (by decide)), if_neg (hne _ (by decide)),
    if_neg (hne _ (by decide)), if_neg (hne _ (by decide)), if_neg hcontrol]

theorem escapeChar_comparable :
    ∀ c ∈ escapedChars, ∀ d ∈ escapedChars, escapeChar c <+: escapeChar d → c = d := by
  have h : (escapedChars.all fun c => escapedChars.all fun d =>
      decide (escapeChar c <+: escapeChar d → c = d)) = true := by
    decide +kernel
  simpa only [List.all_eq_true, decide_eq_true_eq] using h

theorem escapeChar_escaped :
    ∀ c ∈ escapedChars, (escapeChar c).head? = some '\\' ∧ '\n' ∉ escapeChar c := by
  have h : (escapedChars.all fun c =>
      decide ((escapeChar c).head? = some '\\' ∧ '\n' ∉ escapeChar c)) = true := by
    decide +kernel
  simpa only [List.all_eq_true, decide_eq_true_eq] using h

theorem escapeChar_cancel {c d : Char} {rest rest' : List Char}
    (h : escapeChar c ++ rest = escapeChar d ++ rest') :
    c = d ∧ rest = rest' := by
  have hmixed : ∀ {c d : Char} {rest rest' : List Char}, c ∈ escapedChars → d ∉ escapedChars →
      escapeChar c ++ rest ≠ escapeChar d ++ rest' := by
    intro c d rest rest' hc hd h
    have hhead := congrArg List.head? h
    rw [escapeChar_plain hd, List.head?_append, (escapeChar_escaped c hc).1] at hhead
    exact hd (Option.some.inj hhead ▸ by decide)
  by_cases hc : c ∈ escapedChars <;> by_cases hd : d ∈ escapedChars
  · have hsame : c = d := by
      rcases List.prefix_or_prefix_of_prefix (List.prefix_append _ rest)
        (h ▸ List.prefix_append _ rest') with hprefix | hprefix
      · exact escapeChar_comparable c hc d hd hprefix
      · exact (escapeChar_comparable d hd c hc hprefix).symm
    subst hsame
    exact ⟨rfl, List.append_cancel_left h⟩
  · exact absurd h (hmixed hc hd)
  · exact absurd h.symm (hmixed hd hc)
  · rw [escapeChar_plain hc, escapeChar_plain hd] at h
    exact List.cons.inj h

theorem newline_notMem_escapeChar (c : Char) : '\n' ∉ escapeChar c := by
  by_cases hc : c ∈ escapedChars
  · exact (escapeChar_escaped c hc).2
  · rw [escapeChar_plain hc, List.mem_singleton]
    exact fun h => hc (h ▸ by decide)

theorem escapeChar_opens (c : Char) : ∃ d tail, escapeChar c = d :: tail ∧ d ≠ '"' := by
  by_cases hc : c ∈ escapedChars
  · obtain ⟨tail, htail⟩ := List.head?_eq_some_iff.mp (escapeChar_escaped c hc).1
    exact ⟨'\\', tail, htail, by decide⟩
  · exact ⟨c, [], escapeChar_plain hc, fun h => hc (h ▸ by decide)⟩

theorem quoteString_cancel {s s' : String} {rest rest' : List Char}
    (h : quoteString s ++ rest = quoteString s' ++ rest') :
    s = s' ∧ rest = rest' := by
  have hchars :
      s.toList.flatMap escapeChar ++ '"' :: rest = s'.toList.flatMap escapeChar ++ '"' :: rest' := by
    simpa [quoteString] using h
  obtain ⟨hsame, hrest⟩ := Json.flatMap_cancel (P := fun _ => True) (fun _ _ => trivial)
    escapeChar_opens (fun _ _ _ _ _ _ _ => escapeChar_cancel) hchars
  exact ⟨String.toList_inj.mp hsame, hrest⟩

end Strings

section Sequences

/-- The text is over, or goes on with something else than a number does. -/
def Stops : List Char → Prop
  | [] => True
  | c :: _ => isNumeral c = false

theorem intercalate_cons (a : List Char) (l : List (List Char)) :
    [','].intercalate (a :: l) = a ++ l.flatMap (',' :: ·) := by
  induction l generalizing a with
  | nil => simp
  | cons b l ih => rw [List.intercalate_cons_cons, ih, List.flatMap_cons]; simp

variable {α : Type} {render : α → List Char}

/-- A value can be read off the front of what goes on after it. -/
def ReadOff (render : α → List Char) (a : α) : Prop :=
  ∀ b rest rest', Stops rest → Stops rest' → render a ++ rest = render b ++ rest' →
    a = b ∧ rest = rest'

theorem sequence_cancel {close : Char} (hclose : isNumeral close = false ∧ close ≠ ',')
    (hopens : ∀ a, ∃ c tail, render a = c :: tail ∧ c ≠ close) {l l' : List α}
    (hl : ∀ a ∈ l, ReadOff render a) {rest rest' : List Char}
    (h :
      [','].intercalate (l.map render) ++ close :: rest =
      [','].intercalate (l'.map render) ++ close :: rest') :
    l = l' ∧ rest = rest' := by
  have hstops : ∀ (s : List α) rest,
      Stops (s.flatMap (fun a => ',' :: render a) ++ close :: rest) := by
    intro s rest
    cases s with
    | nil => exact hclose.1
    | cons a s => exact (rfl : isNumeral ',' = false)
  cases l with
  | nil =>
    cases l' with
    | nil => simpa using h
    | cons b l' =>
      obtain ⟨c, tail, hc, hne⟩ := hopens b
      simp only [List.map_cons, intercalate_cons, hc] at h
      exact absurd (List.cons.inj h).1.symm hne
  | cons a l =>
    cases l' with
    | nil =>
      obtain ⟨c, tail, hc, hne⟩ := hopens a
      simp only [List.map_cons, intercalate_cons, hc] at h
      exact absurd (List.cons.inj h).1 hne
    | cons b l' =>
      refine Json.flatMap_cancel hstops (fun a => ⟨',', render a, rfl, hclose.2.symm⟩) ?_ ?_
      · intro a ha b rest rest' hrest hrest' h
        exact hl a ha b rest rest' hrest hrest' (List.cons.inj h).2
      · simpa [intercalate_cons, List.flatMap_map] using h

theorem notMem_sequence {c : Char} (hc : c ≠ ',') {l : List (List Char)} (hl : ∀ x ∈ l, c ∉ x) :
    c ∉ [','].intercalate l := by
  cases l with
  | nil => simp
  | cons a l =>
    rw [intercalate_cons, List.mem_append, List.mem_flatMap]
    rintro (ha | ⟨x, hx, hmem⟩)
    · exact hl a List.mem_cons_self ha
    · exact (List.mem_cons.mp hmem).elim hc (hl x (List.mem_cons_of_mem _ hx))

end Sequences

section Values

def kindOf (c : Char) : Nat := if isNumeral c then 0 else ['n', 't', 'f', '"', '[', '{'].idxOf c + 1

def JsonValue.kind : JsonValue → Nat
  | .number _ => 0
  | .null => 1
  | .bool true => 2
  | .bool false => 3
  | .string _ => 4
  | .array .. => 5
  | .object .. => 6

theorem canonicalJson_opens (v : JsonValue) :
    ∃ c tail, canonicalJson v = c :: tail ∧ kindOf c = v.kind := by
  cases v with
  | number n => exact ⟨n.first, n.rest, rfl, if_pos (n.numeral _ List.mem_cons_self)⟩
  | bool b => cases b <;> exact ⟨_, _, rfl, rfl⟩
  | null | string | array | object => exact ⟨_, _, rfl, rfl⟩

theorem kind_of_append_eq {v w : JsonValue} {rest rest' : List Char}
    (h : canonicalJson v ++ rest = canonicalJson w ++ rest') :
    v.kind = w.kind := by
  obtain ⟨c, tail, hc, hkind⟩ := canonicalJson_opens v
  obtain ⟨d, tail', hd, hkind'⟩ := canonicalJson_opens w
  rw [hc, hd] at h
  rw [← hkind, ← hkind', (List.cons.inj h).1]

theorem takeWhile_numeral (n : Numeral) {rest : List Char} (hrest : Stops rest) :
    (n.first :: n.rest ++ rest).takeWhile isNumeral = n.first :: n.rest := by
  have hstop : rest.takeWhile isNumeral = [] := by
    cases rest with
    | nil => rfl
    | cons c rest => exact List.takeWhile_cons_of_neg (Bool.eq_false_iff.mp hrest)
  rw [List.takeWhile_append_of_pos n.numeral, hstop, List.append_nil]

theorem numeral_cancel {n m : Numeral} {rest rest' : List Char}
    (hrest : Stops rest) (hrest' : Stops rest')
    (h : n.first :: n.rest ++ rest = m.first :: m.rest ++ rest') :
    n = m ∧ rest = rest' := by
  have hfront := congrArg (List.takeWhile isNumeral) h
  rw [takeWhile_numeral n hrest, takeWhile_numeral m hrest'] at hfront
  cases n
  cases m
  cases hfront
  exact ⟨rfl, List.append_cancel_left h⟩

/-- A member of an object, as `canonical_json` writes it. -/
def field (member : String × JsonValue) : List Char :=
  quoteString member.1 ++ ':' :: canonicalJson member.2

def sortedMembers (keys : Finset String) (members : {key // key ∈ keys} → JsonValue) :
    List (String × JsonValue) :=
  (keys.sort (· ≤ ·)).attach.map fun key =>
    (key.1, members ⟨key.1, (Finset.mem_sort _).mp key.2⟩)

theorem canonicalJson_object (keys : Finset String) (members : {key // key ∈ keys} → JsonValue) :
    canonicalJson (.object keys members) =
    '{' :: ([','].intercalate ((sortedMembers keys members).map field) ++ ['}']) := by
  rw [sortedMembers, List.map_map]
  rfl

theorem sortedMembers_inj {keys keys' : Finset String}
    {members : {key // key ∈ keys} → JsonValue} {members' : {key // key ∈ keys'} → JsonValue}
    (h : sortedMembers keys members = sortedMembers keys' members') :
    JsonValue.object keys members = JsonValue.object keys' members' := by
  have hkeys : keys.sort (· ≤ ·) = keys'.sort (· ≤ ·) := by
    simpa [sortedMembers, Function.comp_def] using congrArg (List.map Prod.fst) h
  obtain rfl : keys = keys' := by
    rw [← Finset.sort_toFinset keys (· ≤ ·), hkeys, Finset.sort_toFinset]
  congr 1
  funext key
  have hmem : key.1 ∈ keys.sort (· ≤ ·) := (Finset.mem_sort _).mpr key.2
  have hvalue := List.map_inj_left.mp h ⟨key.1, hmem⟩ (List.mem_attach _ _)
  exact (Prod.mk.inj hvalue).2

theorem canonicalJson_ne_close (v : JsonValue) :
    ∃ c tail, canonicalJson v = c :: tail ∧ c ≠ ']' := by
  obtain ⟨c, tail, hc, hkind⟩ := canonicalJson_opens v
  refine ⟨c, tail, hc, ?_⟩
  rintro rfl
  have hbound : v.kind ≤ 6 := by
    unfold JsonValue.kind
    split <;> decide
  exact absurd hbound (hkind ▸ by decide)

theorem readOff_field {member : String × JsonValue} (hvalue : ReadOff canonicalJson member.2) :
    ReadOff field member := by
  intro b rest rest' hrest hrest' h
  simp only [field, List.append_assoc, List.cons_append] at h
  obtain ⟨hkey, h⟩ := quoteString_cancel h
  obtain ⟨hvalue, hrest⟩ := hvalue b.2 rest rest' hrest hrest' (List.cons.inj h).2
  exact ⟨Prod.ext hkey hvalue, hrest⟩

/-- **Canonical texts can be read off the front of any text.** -/
theorem readOff_canonicalJson (v : JsonValue) : ReadOff canonicalJson v := by
  intro w rest rest' hrest hrest' h
  have hkind := kind_of_append_eq h
  match v, w with
  | .null, .null | .bool true, .bool true | .bool false, .bool false =>
    exact ⟨rfl, List.append_cancel_left h⟩
  | .number n, .number m =>
    obtain ⟨rfl, hrest⟩ := numeral_cancel hrest hrest' h
    exact ⟨rfl, hrest⟩
  | .string s, .string s' =>
    obtain ⟨rfl, hrest⟩ := quoteString_cancel h
    exact ⟨rfl, hrest⟩
  | .array n items, .array m items' =>
    have hread : ∀ v ∈ List.ofFn items, ReadOff canonicalJson v := by
      intro v hv
      obtain ⟨i, rfl⟩ := List.mem_ofFn.mp hv
      exact readOff_canonicalJson (items i)
    have hcommas :
        [','].intercalate ((List.ofFn items).map canonicalJson) ++ ']' :: rest
          =
        [','].intercalate ((List.ofFn items').map canonicalJson) ++ ']' :: rest' := by
      simpa [canonicalJson, List.map_ofFn, Function.comp_def] using h
    obtain ⟨hitems, hrest⟩ :=
      sequence_cancel ⟨rfl, by decide⟩ canonicalJson_ne_close hread hcommas
    obtain ⟨rfl, hsame⟩ := Sigma.mk.inj_iff.mp (List.ofFn_inj'.mp hitems)
    exact ⟨by rw [eq_of_heq hsame], hrest⟩
  | .object keys members, .object keys' members' =>
    have hread : ∀ member ∈ sortedMembers keys members, ReadOff field member := by
      intro member hmember
      obtain ⟨key, _, rfl⟩ := List.mem_map.mp hmember
      exact readOff_field (readOff_canonicalJson (members _))
    have hcommas :
        [','].intercalate ((sortedMembers keys members).map field) ++ '}' :: rest
          =
        [','].intercalate ((sortedMembers keys' members').map field) ++ '}' :: rest' := by
      simpa [canonicalJson_object] using h
    obtain ⟨hmembers, hrest⟩ :=
      sequence_cancel ⟨rfl, by decide⟩ (fun _ => ⟨'"', _, rfl, by decide⟩) hread hcommas
    exact ⟨sortedMembers_inj hmembers, hrest⟩

theorem canonicalJson_injective : Function.Injective canonicalJson := by
  intro v w h
  exact (readOff_canonicalJson v w [] [] trivial trivial (congrArg (· ++ []) h)).1

theorem newline_notMem_quoteString (s : String) : '\n' ∉ quoteString s := by
  simp [quoteString, newline_notMem_escapeChar]

theorem newline_notMem_canonicalJson (v : JsonValue) : '\n' ∉ canonicalJson v := by
  induction v with
  | null => decide
  | bool b => cases b <;> decide
  | number n => exact fun h => absurd (n.numeral _ h) (by decide)
  | string s => exact newline_notMem_quoteString s
  | array n items ih =>
    have hitems := notMem_sequence (c := '\n') (by decide) (l := List.ofFn fun i =>
      canonicalJson (items i)) (by simpa [List.mem_ofFn] using ih)
    simp [canonicalJson, hitems]
  | object keys members ih =>
    have hmembers := notMem_sequence (c := '\n') (by decide)
      (l := (sortedMembers keys members).map field) (by
        intro x hx
        obtain ⟨member, hmember, rfl⟩ := List.mem_map.mp hx
        obtain ⟨key, _, rfl⟩ := List.mem_map.mp hmember
        simp [field, newline_notMem_quoteString, ih])
    rw [canonicalJson_object]
    simp [hmembers]

end Values

section Lines

variable {α : Type} {a : α} {x x' y y' : List α}

theorem last_cancel (hy : a ∉ y) (hy' : a ∉ y') (h : x ++ a :: y = x' ++ a :: y') :
    x = x' ∧ y = y' := by
  have hshorter : ∀ {x x' y y' : List α} {z : List α}, a ∉ y → x' = x ++ z →
      a :: y = z ++ a :: y' → x = x' ∧ y = y' := by
    rintro x _ y y' z hy rfl h
    cases z with
    | nil => exact ⟨(List.append_nil x).symm, (List.cons.inj h).2⟩
    | cons b z =>
      rw [(List.cons.inj h).2] at hy
      exact absurd (List.mem_append_right z List.mem_cons_self) hy
  rcases List.append_eq_append_iff.mp h with ⟨z, hx, hz⟩ | ⟨z, hx, hz⟩
  · exact hshorter hy hx hz
  · exact (hshorter hy' hx hz).imp Eq.symm Eq.symm

theorem first_cancel (hx : a ∉ x) (hx' : a ∉ x') (h : x ++ a :: y = x' ++ a :: y') :
    x = x' ∧ y = y' := by
  have hreverse := congrArg List.reverse h
  simp only [List.reverse_append, List.reverse_cons, List.append_assoc, List.singleton_append]
    at hreverse
  obtain ⟨hy, hx⟩ := last_cancel (by simpa using hx) (by simpa using hx') hreverse
  exact ⟨List.reverse_inj.mp hx, List.reverse_inj.mp hy⟩

end Lines

/-- The arguments of `from_semantics`. -/
structure SemanticCall where
  ownerScope : String
  action : String
  key : String
  resourceType : String
  target : Option String
  body : JsonValue
  operationId : Uuid

namespace SemanticCall

def accept (lib : CanonicalLibrary) (call : SemanticCall) :
    Except StoreError IdempotencyReservationRequest :=
  fromSemantics lib call.ownerScope call.action call.key call.resourceType (call.target.getD "")
    (String.ofList (canonicalJson call.body)) call.operationId

/-- The lines before the body, of a call that is accepted as `request`. -/
def head (call : SemanticCall) (request : IdempotencyReservationRequest) : String :=
  call.action ++ "\n" ++ request.resourceType ++ "\n" ++ call.target.getD ""

/-- What is digested of the call. -/
def material (call : SemanticCall) (request : IdempotencyReservationRequest) : String :=
  call.head request ++ "\n" ++ String.ofList (canonicalJson call.body)

variable {lib : CanonicalLibrary} {call call' : SemanticCall}

variable {request request' : IdempotencyReservationRequest}

theorem fingerprint_of_accept (h : call.accept lib = .ok request) :
    request.fingerprint = lib.digest (call.material request) := by
  unfold accept fromSemantics at h
  split at h
  · cases h
  · obtain ⟨actionId, _, h⟩ := except_bind_eq_ok.mp h
    split at h
    · cases h
    · obtain ⟨resourceType, _, h⟩ := except_bind_eq_ok.mp h
      split at h
      · cases h
      · cases h
        rfl

theorem material_eq_iff :
    call.material request = call'.material request' ↔
    call.head request = call'.head request' ∧ call.body = call'.body := by
  constructor
  · intro h
    have hchars := congrArg String.toList h
    simp only [material, String.toList_append, String.toList_ofList, List.append_assoc] at hchars
    obtain ⟨hhead, hbody⟩ := last_cancel (newline_notMem_canonicalJson _)
      (newline_notMem_canonicalJson _) hchars
    exact ⟨String.toList_inj.mp hhead, canonicalJson_injective hbody⟩
  · rintro ⟨hhead, hbody⟩
    rw [material, hhead, hbody, material]

/-- The two calls ask for the same. -/
def Same (call : SemanticCall) (request : IdempotencyReservationRequest) (call' : SemanticCall)
    (request' : IdempotencyReservationRequest) : Prop :=
  call.action = call'.action ∧ request.resourceType = request'.resourceType ∧
    call.target.getD "" = call'.target.getD "" ∧ call.body = call'.body

/-- The lines before the body are one text that the two calls cut differently. -/
def CutsDiffer (call : SemanticCall) (request : IdempotencyReservationRequest)
    (call' : SemanticCall) (request' : IdempotencyReservationRequest) : Prop :=
  call.head request = call'.head request' ∧
    ¬ (call.action = call'.action ∧ request.resourceType = request'.resourceType)

theorem target_of_head
    (h : call.head request = call'.head request') (haction : call.action = call'.action)
    (htype : request.resourceType = request'.resourceType) :
    call.target.getD "" = call'.target.getD "" := by
  unfold head at h
  rw [haction, htype] at h
  exact (String.append_right_inj _).mp h

theorem not_cutsDiffer_of_lines
    (haction : '\n' ∉ call.action.toList) (haction' : '\n' ∉ call'.action.toList)
    (htype : '\n' ∉ request.resourceType.toList) (htype' : '\n' ∉ request'.resourceType.toList) :
    ¬ CutsDiffer call request call' request' := by
  rintro ⟨hhead, hdiffer⟩
  have hchars := congrArg String.toList hhead
  simp only [head, String.toList_append, List.append_assoc] at hchars
  obtain ⟨hsame, hrest⟩ := first_cancel haction haction' hchars
  obtain ⟨hsame', _⟩ := first_cancel htype htype' hrest
  exact hdiffer ⟨String.toList_inj.mp hsame, String.toList_inj.mp hsame'⟩

/-- **Fingerprint material**: of two accepted calls, the materials are equal
exactly when the calls ask for the same, unless the bodies are equal and the
lines before them are cut differently. -/
theorem material_faithful_iff
    (h : call.accept lib = .ok request) (h' : call'.accept lib = .ok request') :
    (request.fingerprint = lib.digest (call.material request) ∧
      request'.fingerprint = lib.digest (call'.material request')) ∧
    ((call.material request = call'.material request' ↔ Same call request call' request') ↔
    ¬ (call.body = call'.body ∧ CutsDiffer call request call' request')) ∧
    ('\n' ∉ call.action.toList → '\n' ∉ call'.action.toList →
      '\n' ∉ request.resourceType.toList → '\n' ∉ request'.resourceType.toList →
      ¬ CutsDiffer call request call' request') := by
  refine ⟨⟨fingerprint_of_accept h, fingerprint_of_accept h'⟩, ?_, not_cutsDiffer_of_lines⟩
  rw [material_eq_iff]
  constructor
  · rintro hfaithful ⟨hbody, hhead, hdiffer⟩
    obtain ⟨haction, htype, _⟩ := hfaithful.mp ⟨hhead, hbody⟩
    exact hdiffer ⟨haction, htype⟩
  · intro hcut
    constructor
    · rintro ⟨hhead, hbody⟩
      have hsame : call.action = call'.action ∧ request.resourceType = request'.resourceType :=
        by_contra fun hdiffer => hcut ⟨hbody, hhead, hdiffer⟩
      exact ⟨hsame.1, hsame.2, target_of_head hhead hsame.1 hsame.2, hbody⟩
    · rintro ⟨haction, htype, htarget, hbody⟩
      exact ⟨by rw [head, haction, htype, htarget, head], hbody⟩

/-- A target that goes on with a line of its own. -/
def longTarget : SemanticCall :=
  ⟨"project-1", "a:x", "key-1", "a:y", some "a:z\n", .null, "operation-1"⟩

def longAction : SemanticCall :=
  ⟨"project-1", "a:x\na:y", "key-1", "a:z", none, .null, "operation-2"⟩

theorem material_of_two_actions :
    ∃ request request', longTarget.accept plainCanonicalLibrary = .ok request ∧
      longAction.accept plainCanonicalLibrary = .ok request' ∧
      ¬ (longTarget.material request = longAction.material request' ↔
        Same longTarget request longAction request') := by
  refine ⟨_, _, rfl, rfl, fun h => ?_⟩
  have haction := (h.mp (by decide +kernel)).1
  exact absurd haction (by decide)

/-- An object of two members, from the text that lists them in this order. -/
def pairOf (a b : String × JsonValue) : JsonValue :=
  .object {a.1, b.1} fun key => if key.1 = a.1 then a.2 else b.2

theorem pairOf_comm {a b : String × JsonValue} (hkeys : a.1 ≠ b.1) : pairOf a b = pairOf b a := by
  have hmembers :
      sortedMembers {a.1, b.1} (fun key => if key.1 = a.1 then a.2 else b.2)
        =
      sortedMembers {a.1, b.1} (fun key => if key.1 = b.1 then b.2 else a.2) := by
    refine List.map_inj_left.mpr fun key _ => ?_
    have hmem := (Finset.mem_sort _).mp key.2
    rcases Finset.mem_insert.mp hmem with heq | heq
    · simp [heq, hkeys]
    · simp [Finset.mem_singleton.mp heq, hkeys.symm]
  refine (sortedMembers_inj hmembers).trans ?_
  unfold pairOf
  rw [Finset.pair_comm]

/-- A request for a server, with a line break in its target. -/
def createServer (body : JsonValue) : SemanticCall :=
  ⟨"project-1", "compute:CreateServer", "key-1", "compute:server", some "host-1\n", body,
    "operation-1"⟩

def serverName : String × JsonValue := ("name", .string "web\n\"1\"")

def serverDisk : String × JsonValue :=
  ("disk", .number ⟨'2', ['0'], by simp [isNumeral]⟩)

def serverTags : String × JsonValue :=
  ("tags", .array 2 fun i => if i = 0 then .string "a" else .null)

/-- The members in another order, on both levels of the body. -/
theorem material_faithful_iff_reordered :
    ∃ request request',
      (createServer (pairOf ("server", pairOf serverName serverDisk) serverTags)).accept
          plainCanonicalLibrary = .ok request ∧
      (createServer (pairOf serverTags ("server", pairOf serverDisk serverName))).accept
          plainCanonicalLibrary = .ok request' ∧
      (createServer (pairOf ("server", pairOf serverName serverDisk) serverTags)).material request =
      (createServer (pairOf serverTags ("server", pairOf serverDisk serverName))).material
        request' := by
  refine ⟨_, _, rfl, rfl,
    ((@material_faithful_iff plainCanonicalLibrary _ _ _ _ rfl rfl).2.1.mpr ?_).mpr
      ⟨rfl, rfl, rfl, ?_⟩⟩
  · exact fun h => h.2.2 ⟨rfl, rfl⟩
  · show pairOf _ _ = pairOf _ _
    rw [pairOf_comm (a := serverName) (by decide)]
    exact pairOf_comm (by decide)

end SemanticCall

end Lifecycle
end O3k
