import AvClient.Json

/-!
# `StringToNumber`, and a string compared with an integer Number

The board-hash check of `verifyReceipt` compares the hash the client computed, a string, with
the `boardHash` the board answered, whatever its type, using `!=`. When the board answered a
number, or a boolean, which is compared as `1` or `0`, ECMA-262 `IsLooselyEqual` converts the
string with `StringToNumber`: the string, less its leading and trailing white space and line
terminators, must be a `StringNumericLiteral`, whose mathematical value is rounded to the
nearest Number; any other string is `NaN`, which equals nothing.

`stringNumericValue` reads a string as `StringToNumber` does and keeps the literal's exact value
`mantissa × 10 ^ exponent`. `roundsTo` decides whether that value rounds to a given integer
Number below `2 ^ 53`, by integer comparisons with the midpoints between it and the Numbers next
to it, ties going to the even significand. It scales with `<<<` and builds no rational, so
that `decide` runs it on concrete strings. Where ECMA-262 lets an implementation round a literal
of more than 20 significant digits otherwise, the model rounds correctly, as the engines do.
-/

namespace AvClient.Json

/-! ## Reading a `StringNumericLiteral` -/

/-- A `StrWhiteSpaceChar`: a `WhiteSpace` (tab, vertical tab, form feed, `ZWNBSP` and the
`Space_Separator` characters) or a `LineTerminator`. All are single code units. -/
def isStrWhiteSpaceUnit (u : UInt16) : Bool :=
  u = 0x09 || u = 0x0A || u = 0x0B || u = 0x0C || u = 0x0D || u = 0x20 || u = 0xA0 ||
    u = 0x1680 || (0x2000 ≤ u.toNat && u.toNat ≤ 0x200A) || u = 0x2028 || u = 0x2029 ||
    u = 0x202F || u = 0x205F || u = 0x3000 || u = 0xFEFF

/-- The string without its leading and trailing `StrWhiteSpaceChar`s. -/
def trimWhiteSpace (s : JsString) : JsString :=
  ((s.dropWhile isStrWhiteSpaceUnit).reverse.dropWhile isStrWhiteSpaceUnit).reverse

/-- Value of a digit in a radix up to 16. -/
def digitValue (radix : Nat) (u : UInt16) : Option Nat :=
  (hexValue u).filter (· < radix)

/-- Value of a non-empty run of digits in a radix, most significant first. -/
def digitsValue (radix : Nat) (us : JsString) : Option Nat :=
  if us.isEmpty then none
  else us.foldlM (fun acc u => (digitValue radix u).map (radix * acc + ·)) 0

/-- Value of an `ExponentPart` after its `e` or `E`: an optional sign and decimal digits. -/
def exponentValue : JsString → Option Int
  | 0x2B :: ds => (digitsValue 10 ds).map Int.ofNat
  | 0x2D :: ds => (digitsValue 10 ds).map fun n => -(n : Int)
  | ds => (digitsValue 10 ds).map Int.ofNat

/-- The fraction digits after an optional `.`, and the text after them. -/
def fractionPart : JsString → JsString × JsString
  | 0x2E :: r => (r.takeWhile isDigitUnit, r.dropWhile isDigitUnit)
  | r => ([], r)

/-- Value `m × 10 ^ k` of a `StrUnsignedDecimalLiteral` other than `Infinity`: decimal digits,
an optional `.` with fraction digits, at least one digit in all, then an optional
`ExponentPart`. -/
def unsignedDecimalValue (us : JsString) : Option (Nat × Int) :=
  let intDigits := us.takeWhile isDigitUnit
  let (fracDigits, rest) := fractionPart (us.dropWhile isDigitUnit)
  let exponent : Option Int := match rest with
    | [] => some 0
    | e :: r => if e = 0x65 ∨ e = 0x45 then exponentValue r else none
  if intDigits.isEmpty ∧ fracDigits.isEmpty then none
  else exponent.map fun k =>
    (decimalValue (intDigits ++ fracDigits), k - fracDigits.length)

/-- What `StringToNumber` reads a string as, before its value is rounded to a Number. -/
inductive NumericValue where
  | nan
  | infinity (negative : Bool)
  /-- A finite literal, of value `mantissa × 10 ^ exponent` and the given sign. -/
  | finite (negative : Bool) (mantissa : Nat) (exponent : Int)

/-- A `StrDecimalLiteral` after its sign. -/
def decimalLiteralValue (negative : Bool) (us : JsString) : NumericValue :=
  if us = JsString.ofString "Infinity" then .infinity negative
  else match unsignedDecimalValue us with
    | some (m, k) => .finite negative m k
    | none => .nan

/-- A `NonDecimalIntegerLiteral` after its prefix. -/
def nonDecimalValue (radix : Nat) (ds : JsString) : NumericValue :=
  match digitsValue radix ds with
  | some m => .finite false m 0
  | none => .nan

/-- `StringNumericValue` of a string, `NaN` when it is no `StringNumericLiteral`: after the
white space is trimmed, the empty string is `0`; `0x`, `0o` and `0b`, of either case, lead a
hexadecimal, octal or binary integer, with no sign; otherwise a `StrDecimalLiteral`, with an
optional sign. -/
def stringNumericValue (s : JsString) : NumericValue :=
  match trimWhiteSpace s with
  | [] => .finite false 0 0
  | 0x2B :: us => decimalLiteralValue false us
  | 0x2D :: us => decimalLiteralValue true us
  | 0x30 :: p :: ds =>
    if p = 0x78 ∨ p = 0x58 then nonDecimalValue 16 ds
    else if p = 0x6F ∨ p = 0x4F then nonDecimalValue 8 ds
    else if p = 0x62 ∨ p = 0x42 then nonDecimalValue 2 ds
    else decimalLiteralValue false (0x30 :: p :: ds)
  | us => decimalLiteralValue false us

/-! ## Rounding to an integer Number -/

/-- The exponent `e` with `2 ^ e ≤ n < 2 ^ (e + 1)`, for `0 < n < 2 ^ fuel`. -/
def log2Below : Nat → Nat → Nat
  | 0, _ => 0
  | fuel + 1, n => if n < 2 then 0 else log2Below fuel (n / 2) + 1

/-- How `m × 10 ^ k × 2 ^ s` compares with `b`, in integers. -/
def compareScaled (m : Nat) (k : Int) (s b : Nat) : Ordering :=
  if 0 ≤ k then compare (m * Nat.pow 10 k.toNat <<< s) b
  else compare (m <<< s) (b * Nat.pow 10 (-k).toNat)

/-- Whether the Number nearest `m × 10 ^ k` is the integer `n`, for `n < 2 ^ 53`, rounding to
nearest with ties to the even significand. For `2 ^ e ≤ n < 2 ^ (e + 1)` the Number above `n`
is `n + 2 ^ (e - 52)` and the one below `n - 2 ^ (e - 52)`, or `n - 2 ^ (e - 53)` when `n` is
`2 ^ e`; scaled by `2 ^ (54 - e)`, the midpoints are `2` above and `2` or `1` below. The value
rounds to `0` when it is at most half the least subnormal, `2 ^ -1075`. -/
def roundsTo (m : Nat) (k : Int) (n : Nat) : Bool :=
  if n = 0 then compareScaled m k 1075 1 != .gt
  else
    let e := log2Below 53 n
    let s := 54 - e
    let below := if n = 1 <<< e then 1 else 2
    let lo := compareScaled m k s ((n <<< s) - below)
    let hi := compareScaled m k s ((n <<< s) + 2)
    if e < 52 ∨ n % 2 = 0 then lo != .lt && hi != .gt else lo == .gt && hi == .lt

/-- `Number::equal(StringToNumber(x), n)` for an integer Number `n` below `2 ^ 53`: `NaN` and
the infinities equal no such `n`, and a negative literal only `0`, when it rounds to `-0`. -/
def stringToNumberEquals (x : JsString) (n : Nat) : Bool :=
  match stringNumericValue x with
  | .finite negative m k => roundsTo m k n && (!negative || n == 0)
  | _ => false

-- Every spelling of ten below equals `10`; a separator or a trailing letter makes `NaN`.
example : stringToNumberEquals (.ofString "10") 10 ∧ stringToNumberEquals (.ofString "010") 10 ∧
    stringToNumberEquals (.ofString " 1e1\n") 10 ∧ stringToNumberEquals (.ofString "0xA") 10 ∧
    stringToNumberEquals (.ofString "10.0000000000000001") 10 ∧
    !stringToNumberEquals (.ofString "1_0") 10 ∧ !stringToNumberEquals (.ofString "10a") 10 ∧
    stringToNumberEquals (.ofString "-0") 0 ∧ stringToNumberEquals (.ofString "") 0 := by
  decide

end AvClient.Json
