import AvClient.Json

/-!
# Hex strings (`isValidHexString`)

The crypto helpers of the client check hex input with `isValidHexString`: an even length, and a
match of the regular expression `/^[0-9A-Fa-f]+$/`. A hex string stands for a byte sequence,
two digits per byte, high digit first; `hexBytes` reads one back. It states what the check is
for and is not code of the sources.

## Main results

* `matchesHexPattern_iff` — the regular expression matches exactly the non-empty strings of
  hex digits.
* `isValidHexString_iff` — the check accepts exactly the non-empty strings that read back as
  bytes; the empty string is rejected.
-/

namespace AvClient.Json

/-- Character class `[0-9A-Fa-f]`. -/
def isHexDigitUnit (u : UInt16) : Bool :=
  (0x30 ≤ u.toNat && u.toNat ≤ 0x39) || (0x41 ≤ u.toNat && u.toNat ≤ 0x46) ||
    (0x61 ≤ u.toNat && u.toNat ≤ 0x66)

/-- Whether `test.match(/^[0-9A-Fa-f]+$/)` finds a match: a code unit of the class, then the
end of the string or another match. -/
def matchesHexPattern : JsString → Bool
  | [] => false
  | u :: rest => isHexDigitUnit u && (rest.isEmpty || matchesHexPattern rest)

/-- Function `isValidHexString`. -/
def isValidHexString (test : JsString) : Bool :=
  if test.length % 2 != 0 then false
  else matchesHexPattern test

/-- The bytes a hex string stands for, two digits per byte, high digit first. -/
def hexBytes : JsString → Option (List Nat)
  | [] => some []
  | [_] => none
  | hi :: lo :: rest => do
    let h ← hexValue hi
    let l ← hexValue lo
    let bytes ← hexBytes rest
    pure ((16 * h + l) :: bytes)

theorem isHexDigitUnit_iff {u : UInt16} : isHexDigitUnit u = true ↔ (hexValue u).isSome := by
  unfold isHexDigitUnit hexValue
  split_ifs <;> simp <;> omega

theorem matchesHexPattern_iff {s : JsString} :
    matchesHexPattern s = true ↔ s ≠ [] ∧ ∀ u ∈ s, isHexDigitUnit u = true := by
  induction s with
  | nil => simp [matchesHexPattern]
  | cons u rest ih =>
    rw [matchesHexPattern]
    rcases rest with _ | ⟨v, rest⟩
    · simp
    · simp [ih]

theorem hexBytes_isSome_iff {s : JsString} :
    (hexBytes s).isSome ↔ s.length % 2 = 0 ∧ ∀ u ∈ s, (hexValue u).isSome := by
  induction s using hexBytes.induct with
  | case1 => simp [hexBytes]
  | case2 u => simp [hexBytes]
  | case3 hi lo rest ih =>
    have hlen : (rest.length + 1 + 1) % 2 = rest.length % 2 := by omega
    rcases hh : hexValue hi with _ | h
    · simp [hexBytes, hh]
    rcases hl : hexValue lo with _ | l
    · simp [hexBytes, hh, hl]
    rcases hr : hexBytes rest with _ | bytes <;> simp [hr] at ih
    · simpa [hexBytes, hh, hl, hr, hlen] using ih
    · simpa [hexBytes, hh, hl, hr, hlen, ih.1] using ih.2

/-- **The hex check.** `isValidHexString` accepts exactly the non-empty strings that read back
as bytes, two hex digits of either case per byte; the empty string, a string of odd length and
a string with any other character are rejected. -/
theorem isValidHexString_iff {s : JsString} :
    isValidHexString s = true ↔ s ≠ [] ∧ (hexBytes s).isSome := by
  unfold isValidHexString
  rw [hexBytes_isSome_iff]
  by_cases hodd : s.length % 2 = 0
  · simp [hodd, matchesHexPattern_iff, isHexDigitUnit_iff]
  · simp [hodd]

-- The affidavit key `fetchElectionConfig` appends passes; the empty string does not.
example : isValidHexString
    (.ofString "03e9858b6e48eb93d8f27aa76b60806298c4c7dd94077ad6c3ff97c44937888647") = true ∧
    isValidHexString [] = false := by
  decide

end AvClient.Json
