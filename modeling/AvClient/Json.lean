import Mathlib.Data.List.Basic

/-!
# JavaScript strings and `JSON.stringify`

`SubmitVotes` hashes three objects after passing each through `JSON.stringify`: the signed
content, the board-hash object and the receipt-hash object. Whether a receipt binds the ballot
it was issued for therefore rests on that encoding being injective on the objects the client
builds. Those objects carry values the bulletin board answered, which may be any JSON value, so
this module models ECMA-262 `JSON.stringify` on all of them: the literals, non-negative
integers, strings (`QuoteJSONString`), arrays and objects.

A JavaScript string is its sequence of UTF-16 code units, lone surrogates included, so
`JsString` is `List UInt16`; `QuoteJSONString` escapes an unpaired surrogate as `\uXXXX`, as
the well-formed `JSON.stringify` of ES2019 does.

## Main results

* `decodeString_quoteUnits` — reading a JSON string literal back from its encoding returns the
  string and the text after the closing quote.
* `readDecimal_decimal` — a decimal numeral followed by a non-digit reads back as its number.
* `stringify_append_inj` — an encoded value followed by a delimiter determines both.
* `stringify_injective` — `JSON.stringify` is injective on `JsonValue`; equality of values is
  decided through it.
-/

namespace AvClient.Json

/-- A JavaScript string value, as the sequence of its UTF-16 code units. -/
abbrev JsString := List UInt16

/-- The UTF-16 code units of one character (ECMA-262 `UTF16EncodeCodePoint`). -/
def utf16Units (c : Char) : JsString :=
  if c.toNat < 0x10000 then [UInt16.ofNat c.toNat]
  else
    [UInt16.ofNat (0xD800 + (c.toNat - 0x10000) / 0x400),
      UInt16.ofNat (0xDC00 + (c.toNat - 0x10000) % 0x400)]

/-- The JavaScript string a string literal of the source denotes. -/
def JsString.ofString (s : String) : JsString := s.toList.flatMap utf16Units

/-! ## `QuoteJSONString` -/

/-- Whether a code unit is a leading surrogate, `0xD800`–`0xDBFF`. -/
def isLeadingSurrogate (u : UInt16) : Bool := 0xD800 ≤ u.toNat && u.toNat ≤ 0xDBFF

/-- Whether a code unit is a trailing surrogate, `0xDC00`–`0xDFFF`. -/
def isTrailingSurrogate (u : UInt16) : Bool := 0xDC00 ≤ u.toNat && u.toNat ≤ 0xDFFF

/-- Lowercase hexadecimal digit of `d < 16`. -/
def hexDigit (d : Nat) : UInt16 := UInt16.ofNat (if d < 10 then 0x30 + d else 0x57 + d)

/-- Value of a hexadecimal digit of either case. -/
def hexValue (h : UInt16) : Option Nat :=
  if 0x30 ≤ h.toNat ∧ h.toNat ≤ 0x39 then some (h.toNat - 0x30)
  else if 0x61 ≤ h.toNat ∧ h.toNat ≤ 0x66 then some (h.toNat - 0x57)
  else if 0x41 ≤ h.toNat ∧ h.toNat ≤ 0x46 then some (h.toNat - 0x37)
  else none

/-- Escape sequence `UnicodeEscape(C)`: a backslash, `u` and four lowercase hex digits. -/
def unicodeEscape (u : UInt16) : JsString :=
  [0x5C, 0x75, hexDigit (u.toNat / 4096), hexDigit (u.toNat / 256 % 16),
    hexDigit (u.toNat / 16 % 16), hexDigit (u.toNat % 16)]

/-- Text `QuoteJSONString` writes for one code unit that is not half of a surrogate pair:
the short escapes of its table, `UnicodeEscape` below `0x20` and for a lone surrogate, and the
unit itself otherwise. -/
def escapeUnit (u : UInt16) : JsString :=
  if u = 0x08 then [0x5C, 0x62]
  else if u = 0x09 then [0x5C, 0x74]
  else if u = 0x0A then [0x5C, 0x6E]
  else if u = 0x0C then [0x5C, 0x66]
  else if u = 0x0D then [0x5C, 0x72]
  else if u = 0x22 then [0x5C, 0x22]
  else if u = 0x5C then [0x5C, 0x5C]
  else if u.toNat < 0x20 || isLeadingSurrogate u || isTrailingSurrogate u then unicodeEscape u
  else [u]

mutual
/-- Body of `QuoteJSONString`, between the quotes. A surrogate pair is one code point and is
copied; every other unit goes through `escapeUnit`. -/
def quoteUnits : JsString → JsString
  | [] => []
  | u :: rest => quotePending u rest
/-- Function `quoteUnits` on `u :: rest`, deciding whether `u` opens a surrogate pair. -/
def quotePending (u : UInt16) : JsString → JsString
  | [] => escapeUnit u
  | l :: rest =>
    if isLeadingSurrogate u && isTrailingSurrogate l then u :: l :: quoteUnits rest
    else escapeUnit u ++ quotePending l rest
end

/-- The string literal `QuoteJSONString(s)`. -/
def quote (s : JsString) : JsString := 0x22 :: quoteUnits s ++ [0x22]

/-! ## Reading a string literal back -/

/-- Unit denoted by a one-character escape `\e`. -/
def simpleEscape (e : UInt16) : Option UInt16 :=
  if e = 0x22 then some 0x22
  else if e = 0x5C then some 0x5C
  else if e = 0x2F then some 0x2F
  else if e = 0x62 then some 0x08
  else if e = 0x66 then some 0x0C
  else if e = 0x6E then some 0x0A
  else if e = 0x72 then some 0x0D
  else if e = 0x74 then some 0x09
  else none

/-- Unit denoted by the four hex digits of a `\u` escape. -/
def hex4 (a b c d : UInt16) : Option UInt16 := do
  let a ← hexValue a
  let b ← hexValue b
  let c ← hexValue c
  let d ← hexValue d
  pure (UInt16.ofNat (a * 4096 + b * 256 + c * 16 + d))

/-- Prepend a decoded unit to a decoded string, keeping the text after it. -/
def consDecoded (v : UInt16) (p : JsString × JsString) : JsString × JsString := (v :: p.1, p.2)

mutual
/-- Read a string literal's body up to its closing quote: the string, and the text after it. -/
def decodeString : JsString → Option (JsString × JsString)
  | [] => none
  | u :: rest =>
    if u = 0x22 then some ([], rest)
    else if u = 0x5C then decodeEscape rest
    else (decodeString rest).map (consDecoded u)
/-- Function `decodeString` after a backslash. -/
def decodeEscape : JsString → Option (JsString × JsString)
  | [] => none
  | e :: rest =>
    if e = 0x75 then decodeUnicode rest
    else (simpleEscape e).bind fun v => (decodeString rest).map (consDecoded v)
/-- Function `decodeString` after a backslash and `u`. -/
def decodeUnicode : JsString → Option (JsString × JsString)
  | a :: b :: c :: d :: rest =>
    (hex4 a b c d).bind fun v => (decodeString rest).map (consDecoded v)
  | _ => none
end

theorem hexValue_hexDigit {d : Nat} (h : d < 16) : hexValue (hexDigit d) = some d := by
  have hd : (hexDigit d).toNat = if d < 10 then 0x30 + d else 0x57 + d := by
    unfold hexDigit
    split <;> exact UInt16.toNat_ofNat_of_lt (by unfold UInt16.size; omega)
  unfold hexValue
  rw [hd]
  by_cases h10 : d < 10
  · rw [if_pos h10, if_pos (by omega), Nat.add_sub_cancel_left]
  · rw [if_neg h10, if_neg (by omega), if_pos (by omega), Nat.add_sub_cancel_left]

theorem hex4_unicodeEscape (u : UInt16) :
    hex4 (hexDigit (u.toNat / 4096)) (hexDigit (u.toNat / 256 % 16))
      (hexDigit (u.toNat / 16 % 16)) (hexDigit (u.toNat % 16)) = some u := by
  have hu : u.toNat < 65536 := u.toNat_lt_size
  simp only [hex4, Option.pure_def, Option.bind_eq_bind, Option.some_bind,
    hexValue_hexDigit (by omega : u.toNat / 4096 < 16),
    hexValue_hexDigit (Nat.mod_lt _ (by decide) : u.toNat / 256 % 16 < 16),
    hexValue_hexDigit (Nat.mod_lt _ (by decide) : u.toNat / 16 % 16 < 16),
    hexValue_hexDigit (Nat.mod_lt _ (by decide) : u.toNat % 16 < 16)]
  congr 1
  apply UInt16.toNat.inj
  rw [UInt16.toNat_ofNat_of_lt (by unfold UInt16.size; omega)]
  omega

theorem decodeString_raw {u : UInt16} (t : JsString) (h₁ : u ≠ 0x22) (h₂ : u ≠ 0x5C) :
    decodeString (u :: t) = (decodeString t).map (consDecoded u) := by
  simp [decodeString, h₁, h₂]

theorem decodeString_simple {e v : UInt16} (t : JsString) (he : e ≠ 0x75)
    (hv : simpleEscape e = some v) :
    decodeString (0x5C :: e :: t) = (decodeString t).map (consDecoded v) := by
  simp [decodeString, decodeEscape, he, hv]

theorem decodeString_unicodeEscape (u : UInt16) (t : JsString) :
    decodeString (unicodeEscape u ++ t) = (decodeString t).map (consDecoded u) := by
  simp [unicodeEscape, decodeString, decodeEscape, decodeUnicode, hex4_unicodeEscape]

/-- Each escape reads back as the unit it escapes. -/
theorem decodeString_escapeUnit (u : UInt16) (t : JsString) :
    decodeString (escapeUnit u ++ t) = (decodeString t).map (consDecoded u) := by
  unfold escapeUnit
  by_cases h₁ : u = 0x08
  · rw [if_pos h₁, h₁]; exact decodeString_simple t (by decide) rfl
  rw [if_neg h₁]
  by_cases h₂ : u = 0x09
  · rw [if_pos h₂, h₂]; exact decodeString_simple t (by decide) rfl
  rw [if_neg h₂]
  by_cases h₃ : u = 0x0A
  · rw [if_pos h₃, h₃]; exact decodeString_simple t (by decide) rfl
  rw [if_neg h₃]
  by_cases h₄ : u = 0x0C
  · rw [if_pos h₄, h₄]; exact decodeString_simple t (by decide) rfl
  rw [if_neg h₄]
  by_cases h₅ : u = 0x0D
  · rw [if_pos h₅, h₅]; exact decodeString_simple t (by decide) rfl
  rw [if_neg h₅]
  by_cases h₆ : u = 0x22
  · rw [if_pos h₆, h₆]; exact decodeString_simple t (by decide) rfl
  rw [if_neg h₆]
  by_cases h₇ : u = 0x5C
  · rw [if_pos h₇, h₇]; exact decodeString_simple t (by decide) rfl
  rw [if_neg h₇]
  split
  · exact decodeString_unicodeEscape u t
  · exact decodeString_raw t h₆ h₇

/-- A surrogate is neither of the two units `decodeString` treats specially. -/
private theorem ne_of_leadingSurrogate {u : UInt16} (h : isLeadingSurrogate u = true) :
    u ≠ 0x22 ∧ u ≠ 0x5C := by
  constructor <;> rintro rfl <;> exact absurd h (by decide)

private theorem ne_of_trailingSurrogate {u : UInt16} (h : isTrailingSurrogate u = true) :
    u ≠ 0x22 ∧ u ≠ 0x5C := by
  constructor <;> rintro rfl <;> exact absurd h (by decide)

mutual
/-- **Round trip.** The body `quoteUnits s`, its closing quote and any text after it read back
as `s` and that text. -/
theorem decodeString_quoteUnits : ∀ (s rest : JsString),
    decodeString (quoteUnits s ++ 0x22 :: rest) = some (s, rest)
  | [], rest => by simp [quoteUnits, decodeString]
  | u :: s, rest => decodeString_quotePending u s rest
theorem decodeString_quotePending : ∀ (u : UInt16) (s rest : JsString),
    decodeString (quotePending u s ++ 0x22 :: rest) = some (u :: s, rest)
  | u, [], rest => by
    rw [quotePending, decodeString_escapeUnit]
    simp [decodeString, consDecoded]
  | u, l :: s, rest => by
    rw [quotePending]
    split
    · next h =>
      simp only [Bool.and_eq_true] at h
      obtain ⟨hu₁, hu₂⟩ := ne_of_leadingSurrogate h.1
      obtain ⟨hl₁, hl₂⟩ := ne_of_trailingSurrogate h.2
      rw [List.cons_append, List.cons_append, decodeString_raw _ hu₁ hu₂,
        decodeString_raw _ hl₁ hl₂, decodeString_quoteUnits s rest]
      rfl
    · rw [List.append_assoc, decodeString_escapeUnit, decodeString_quotePending l s rest]
      rfl
end

/-- A quoted string followed by any text determines the string and the text. -/
theorem quote_append_inj {s s' r r' : JsString} (h : quote s ++ r = quote s' ++ r') :
    s = s' ∧ r = r' := by
  simp only [quote, List.cons_append, List.append_assoc, List.singleton_append,
    List.cons.injEq, true_and] at h
  have := congrArg decodeString h
  rw [decodeString_quoteUnits, decodeString_quoteUnits] at this
  simpa using this

/-! ## Numbers -/

/-- Whether a code unit is a decimal digit `0`–`9`. -/
def isDigitUnit (u : UInt16) : Bool := 0x30 ≤ u.toNat && u.toNat ≤ 0x39

/-- Decimal digits of `n` ahead of `acc`, most significant first; `fuel` bounds the number
of divisions by ten. -/
def digitsAux : Nat → Nat → List Nat → List Nat
  | 0, _, acc => acc
  | fuel + 1, n, acc => if n < 10 then n :: acc else digitsAux fuel (n / 10) (n % 10 :: acc)

/-- Text of `Number::toString(n)` for a non-negative integer: its decimal numeral. -/
def decimal (n : Nat) : JsString :=
  (digitsAux (n + 1) n []).map fun d => UInt16.ofNat (0x30 + d)

/-- Value of a string of decimal digits. -/
def decimalValue (us : JsString) : Nat := us.foldl (fun a u => 10 * a + (u.toNat - 0x30)) 0

/-- Read the longest run of digits as a number, returning it and the text after it. -/
def readDecimal (us : JsString) : Nat × JsString :=
  (decimalValue (us.takeWhile isDigitUnit), us.dropWhile isDigitUnit)

theorem digitsAux_lt_ten : ∀ (fuel n : Nat) (acc : List Nat), (∀ d ∈ acc, d < 10) →
    ∀ d ∈ digitsAux fuel n acc, d < 10
  | 0, _, _, hacc => hacc
  | fuel + 1, n, acc, hacc => by
    unfold digitsAux
    split
    · intro d hd
      rcases List.mem_cons.mp hd with rfl | hd
      · assumption
      · exact hacc d hd
    · refine digitsAux_lt_ten fuel _ _ fun d hd => ?_
      rcases List.mem_cons.mp hd with rfl | hd
      · exact Nat.mod_lt _ (by decide)
      · exact hacc d hd

/-- Reading the digits of `n` back, after a prefix already read as `a`, gives `n` after `acc`. -/
theorem foldl_digitsAux : ∀ (fuel n : Nat) (acc : List Nat), n < fuel →
    (digitsAux fuel n acc).foldl (fun a d => 10 * a + d) 0 =
      acc.foldl (fun a d => 10 * a + d) n
  | 0, _, _, h => absurd h (Nat.not_lt_zero _)
  | fuel + 1, n, acc, h => by
    unfold digitsAux
    split
    · simp
    · rw [foldl_digitsAux fuel _ _ (by omega), List.foldl_cons]
      congr 1
      omega

theorem decimal_isDigitUnit (n : Nat) : ∀ u ∈ decimal n, isDigitUnit u = true := by
  intro u hu
  obtain ⟨d, hd, rfl⟩ := List.mem_map.mp hu
  have := digitsAux_lt_ten (n + 1) n [] (by simp) d hd
  simp [isDigitUnit, UInt16.toNat_ofNat_of_lt (show 0x30 + d < UInt16.size by
    unfold UInt16.size; omega)]
  omega

/-- Reading a digit's code unit back gives the digit. -/
private theorem foldl_digitUnits : ∀ (ds : List Nat) (a : Nat), (∀ d ∈ ds, d < 10) →
    (ds.map fun d => UInt16.ofNat (0x30 + d)).foldl (fun a u => 10 * a + (u.toNat - 0x30)) a =
      ds.foldl (fun a d => 10 * a + d) a
  | [], _, _ => rfl
  | d :: ds, a, h => by
    have hd := h d (List.mem_cons_self d ds)
    rw [List.map_cons, List.foldl_cons, List.foldl_cons,
      UInt16.toNat_ofNat_of_lt (by unfold UInt16.size; omega), Nat.add_sub_cancel_left]
    exact foldl_digitUnits ds _ fun d' hd' => h d' (List.mem_cons_of_mem d hd')

theorem decimalValue_decimal (n : Nat) : decimalValue (decimal n) = n := by
  unfold decimalValue decimal
  rw [foldl_digitUnits _ 0 (digitsAux_lt_ten (n + 1) n [] (by simp)),
    foldl_digitsAux (n + 1) n [] (by omega)]
  rfl

/-- Text that may follow a number without joining it: empty, or led by a non-digit. -/
def Delimited (r : JsString) : Prop := ∀ u ∈ r.head?, isDigitUnit u = false

theorem readDecimal_decimal (n : Nat) {r : JsString} (hr : Delimited r) :
    readDecimal (decimal n ++ r) = (n, r) := by
  have hd := decimal_isDigitUnit n
  unfold readDecimal
  rw [List.takeWhile_append_of_pos hd, List.dropWhile_append_of_pos hd]
  cases r with
  | nil => simp [decimalValue_decimal]
  | cons u r =>
    have hu : isDigitUnit u = false := hr u rfl
    simp [List.takeWhile_cons, List.dropWhile_cons, hu, decimalValue_decimal]

/-- A numeral followed by a delimiter determines the number and the text after it. -/
theorem decimal_append_inj {n m : Nat} {r r' : JsString} (hr : Delimited r) (hr' : Delimited r')
    (h : decimal n ++ r = decimal m ++ r') : n = m ∧ r = r' := by
  have := congrArg readDecimal h
  rw [readDecimal_decimal n hr, readDecimal_decimal m hr'] at this
  simpa using this

theorem digitsAux_ne_nil : ∀ (fuel n : Nat) (acc : List Nat), 0 < fuel ∨ acc ≠ [] →
    digitsAux fuel n acc ≠ []
  | 0, _, _, h => by simpa using h
  | fuel + 1, n, acc, _ => by
    unfold digitsAux
    split
    · exact List.cons_ne_nil _ _
    · exact digitsAux_ne_nil fuel _ _ (.inr (List.cons_ne_nil _ _))

/-- A numeral starts with a digit. -/
theorem decimal_head (n : Nat) : ∃ u t, decimal n = u :: t ∧ isDigitUnit u = true := by
  cases h : decimal n with
  | nil =>
    exact absurd (List.map_eq_nil_iff.mp h) (digitsAux_ne_nil _ n [] (.inl (Nat.succ_pos n)))
  | cons u t => exact ⟨u, t, rfl, decimal_isDigitUnit n u (h ▸ List.mem_cons_self u t)⟩

/-! ## Values -/

/-- A JSON value: what `JSON.parse` builds from a response, and what the client builds and
passes to `JSON.stringify`. A number is a non-negative integer, which JavaScript holds exactly
below `2 ^ 53` and `Number::toString` writes as its decimal numeral; other numbers are left out.
An object's members are its own properties, in property order. -/
inductive JsonValue where
  | null
  | bool (b : Bool)
  | number (n : Nat)
  | string (s : JsString)
  | array (elements : List JsonValue)
  | object (members : List (JsString × JsonValue))
  deriving Repr

mutual
/-- Text of `JSON.stringify(v)`: the literals `null`, `true` and `false` (their code units), the
numeral of a number, `QuoteJSONString` of a string, and the elements of an array or the members
of an object between brackets or braces. -/
def JsonValue.stringify : JsonValue → JsString
  | .null => [0x6E, 0x75, 0x6C, 0x6C]
  | .bool true => [0x74, 0x72, 0x75, 0x65]
  | .bool false => [0x66, 0x61, 0x6C, 0x73, 0x65]
  | .number n => decimal n
  | .string s => quote s
  | .array vs => 0x5B :: stringifyElements true vs
  | .object ms => 0x7B :: stringifyMembers true ms
/-- Elements of an array and its closing bracket, every element but the first led by a
comma. -/
def stringifyElements (first : Bool) : List JsonValue → JsString
  | [] => [0x5D]
  | v :: vs => (if first then [] else [0x2C]) ++ v.stringify ++ stringifyElements false vs
/-- Members of an object and its closing brace: each member is its quoted key, a colon and
its value, and every member but the first is led by a comma. -/
def stringifyMembers (first : Bool) : List (JsString × JsonValue) → JsString
  | [] => [0x7D]
  | (k, v) :: ms =>
    (if first then [] else [0x2C]) ++ quote k ++ 0x3A :: v.stringify ++ stringifyMembers false ms
end

/-- The kind of a value, one per constructor. -/
def JsonValue.kind : JsonValue → Nat
  | .null => 0
  | .bool _ => 1
  | .number _ => 2
  | .string _ => 3
  | .array _ => 4
  | .object _ => 5

/-- The kind of value a text starting with `u` encodes; `6` for a unit no value starts with. -/
def kindOfLead (u : UInt16) : Nat :=
  if u = 0x6E then 0
  else if u = 0x74 ∨ u = 0x66 then 1
  else if isDigitUnit u then 2
  else if u = 0x22 then 3
  else if u = 0x5B then 4
  else if u = 0x7B then 5
  else 6

/-- The first unit of a value's text tells its kind. -/
theorem kindOfLead_stringify (v : JsonValue) :
    ∃ u t, v.stringify = u :: t ∧ kindOfLead u = v.kind := by
  cases v with
  | bool b => cases b <;> exact ⟨_, _, rfl, rfl⟩
  | number n =>
    obtain ⟨u, t, ht, hu⟩ := decimal_head n
    refine ⟨u, t, ht, ?_⟩
    have h₁ : u ≠ 0x6E := by rintro rfl; exact absurd hu (by decide)
    have h₂ : ¬(u = 0x74 ∨ u = 0x66) := by rintro (rfl | rfl) <;> exact absurd hu (by decide)
    simp [kindOfLead, h₁, h₂, hu, JsonValue.kind]
  | _ => exact ⟨_, _, rfl, rfl⟩

theorem JsonValue.kind_lt_six (v : JsonValue) : v.kind < 6 := by
  cases v <;> simp [JsonValue.kind]

/-- Two texts that begin with two values begin with values of one kind. -/
theorem kind_eq_of_append_eq {v w : JsonValue} {r r' : JsString}
    (h : v.stringify ++ r = w.stringify ++ r') : v.kind = w.kind := by
  obtain ⟨u, t, hv, hu⟩ := kindOfLead_stringify v
  obtain ⟨u', t', hw, hu'⟩ := kindOfLead_stringify w
  rw [hv, hw, List.cons_append, List.cons_append, List.cons.injEq] at h
  rw [← hu, ← hu', h.1]

/-- What follows an element's value is led by a comma or a bracket, never a digit. -/
theorem delimited_stringifyElements (vs : List JsonValue) (r : JsString) :
    Delimited (stringifyElements false vs ++ r) := by
  intro u hu
  cases vs <;> cases hu <;> decide

/-- What follows a member's value is led by a comma or a brace, never a digit. -/
theorem delimited_stringifyMembers (first : Bool) (ms : List (JsString × JsonValue))
    (r : JsString) : Delimited (stringifyMembers first ms ++ r) := by
  intro u hu
  cases ms with
  | nil => cases hu; decide
  | cons m ms =>
    obtain ⟨k, v⟩ := m
    cases first <;> cases hu <;> decide

mutual
/-- **Self-delimiting encoding.** A stringified value followed by text that cannot extend a
numeral determines the value and the text. -/
theorem stringify_append_inj : ∀ (v w : JsonValue) {r r' : JsString}, Delimited r →
    Delimited r' → v.stringify ++ r = w.stringify ++ r' → v = w ∧ r = r'
  | .null, w, _, _, _, _, h => by
    have hk := kind_eq_of_append_eq h
    cases w <;> simp_all [JsonValue.kind, JsonValue.stringify]
  | .bool b, w, _, _, _, _, h => by
    have hk := kind_eq_of_append_eq h
    cases w <;> simp only [JsonValue.kind] at hk <;> try contradiction
    rename_i b'
    cases b <;> cases b' <;> simp_all [JsonValue.stringify]
  | .number n, w, _, _, hr, hr', h => by
    have hk := kind_eq_of_append_eq h
    cases w <;> simp only [JsonValue.kind] at hk <;> try contradiction
    obtain ⟨rfl, rfl⟩ := decimal_append_inj hr hr' h
    exact ⟨rfl, rfl⟩
  | .string s, w, _, _, _, _, h => by
    have hk := kind_eq_of_append_eq h
    cases w <;> simp only [JsonValue.kind] at hk <;> try contradiction
    obtain ⟨rfl, rfl⟩ := quote_append_inj h
    exact ⟨rfl, rfl⟩
  | .array vs, w, _, _, _, _, h => by
    have hk := kind_eq_of_append_eq h
    cases w <;> simp only [JsonValue.kind] at hk <;> try contradiction
    rename_i ws
    simp only [JsonValue.stringify, List.cons_append, List.cons.injEq, true_and] at h
    obtain ⟨rfl, rfl⟩ := stringifyElements_append_inj true vs ws h
    exact ⟨rfl, rfl⟩
  | .object ms, w, _, _, _, _, h => by
    have hk := kind_eq_of_append_eq h
    cases w <;> simp only [JsonValue.kind] at hk <;> try contradiction
    rename_i ns
    simp only [JsonValue.stringify, List.cons_append, List.cons.injEq, true_and] at h
    obtain ⟨rfl, rfl⟩ := stringifyMembers_append_inj true ms ns h
    exact ⟨rfl, rfl⟩
theorem stringifyElements_append_inj : ∀ (first : Bool) (vs ws : List JsonValue)
    {r r' : JsString}, stringifyElements first vs ++ r = stringifyElements first ws ++ r' →
    vs = ws ∧ r = r'
  | _, [], [], _, _, h => by simpa [stringifyElements] using h
  | first, [], w :: _, _, _, h => by
    obtain ⟨u, t, hw, hu⟩ := kindOfLead_stringify w
    cases first
    · simp [stringifyElements] at h
    · simp only [stringifyElements, ite_true, List.nil_append, hw, List.cons_append,
        List.singleton_append, List.append_assoc, List.cons.injEq] at h
      have h6 : kindOfLead 0x5D = 6 := by decide
      have := w.kind_lt_six
      rw [← h.1] at hu
      omega
  | first, v :: _, [], _, _, h => by
    obtain ⟨u, t, hv, hu⟩ := kindOfLead_stringify v
    cases first
    · simp [stringifyElements] at h
    · simp only [stringifyElements, ite_true, List.nil_append, hv, List.cons_append,
        List.singleton_append, List.append_assoc, List.cons.injEq] at h
      have h6 : kindOfLead 0x5D = 6 := by decide
      have := v.kind_lt_six
      rw [h.1] at hu
      omega
  | first, v :: vs, w :: ws, r, r', h => by
    simp only [stringifyElements, List.append_assoc, List.append_cancel_left_eq] at h
    obtain ⟨rfl, hv⟩ := stringify_append_inj v w (delimited_stringifyElements vs r)
      (delimited_stringifyElements ws r') h
    obtain ⟨rfl, rfl⟩ := stringifyElements_append_inj false vs ws hv
    exact ⟨rfl, rfl⟩
theorem stringifyMembers_append_inj : ∀ (first : Bool) (ms ns : List (JsString × JsonValue))
    {r r' : JsString}, stringifyMembers first ms ++ r = stringifyMembers first ns ++ r' →
    ms = ns ∧ r = r'
  | _, [], [], _, _, h => by simpa [stringifyMembers] using h
  | first, [], (_, _) :: _, _, _, h => by
    cases first <;> simp [stringifyMembers, quote] at h
  | first, (_, _) :: _, [], _, _, h => by
    cases first <;> simp [stringifyMembers, quote] at h
  | first, (k, v) :: ms, (k', v') :: ns, r, r', h => by
    simp only [stringifyMembers, List.append_assoc, List.append_cancel_left_eq] at h
    obtain ⟨rfl, hk⟩ := quote_append_inj h
    simp only [List.cons_append, List.cons.injEq, true_and] at hk
    obtain ⟨rfl, hv⟩ := stringify_append_inj v v' (delimited_stringifyMembers false ms r)
      (delimited_stringifyMembers false ns r') hk
    obtain ⟨rfl, rfl⟩ := stringifyMembers_append_inj false ms ns hv
    exact ⟨rfl, rfl⟩
end

/-- Function `JSON.stringify` is injective on JSON values. -/
theorem stringify_injective : Function.Injective JsonValue.stringify := fun v w h =>
  (@stringify_append_inj v w [] [] (by simp [Delimited]) (by simp [Delimited])
    (by simpa using h)).1

/-- Equality of JSON values, decided by comparing their texts. -/
instance : DecidableEq JsonValue := fun v w =>
  decidable_of_iff (v.stringify = w.stringify) ⟨fun h => stringify_injective h, congrArg _⟩

end AvClient.Json
