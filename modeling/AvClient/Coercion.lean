import AvClient.Async
import AvClient.NumericLiteral

/-!
# Values of a response, as the client's operators see them

The bulletin board's answers reach `SubmitVotes` as the `data` of a response: values
`JSON.parse` built, whose types nothing checks, with properties that may be missing. The client
applies JavaScript's operators to them. `!v` and `if (v)` test `ToBoolean(v)`; a property read
`v.key` throws a `TypeError` on `undefined` and `null`; and `x != v`, for a string `x`, compares
by `IsLooselyEqual`, which first converts `v`: a number or a boolean through
`StringToNumber(x)`, an array or an object through `ToPrimitive(v)`, which joins an array's
elements with commas and writes a plain object as `[object Object]`.

A value read from a response is an `Option JsonValue`, `none` standing for `undefined`.

## Main results

* `looselyEquals?_eq_some_true` — what `x == v` accepts besides the string `x` itself: an array
  whose elements join to `x`, a plain object when `x` is `[object Object]`, and a number or a
  boolean that `StringToNumber(x)` equals.
* `looselyEquals?_inj` — a value that is neither a number nor a boolean equals at most one
  string.
-/

namespace AvClient

open Json Async

/-- `ToBoolean(v)` of a value read from a response. -/
def toBoolean : Option JsonValue → Bool
  | none | some .null => false
  | some (.bool b) => b
  | some (.number n) => n != 0
  | some (.string s) => !s.isEmpty
  | some (.array _) | some (.object _) => true

/-- The member of an object with the given key; other values have none. A parsed object has
one member per key. -/
def Json.JsonValue.property (key : JsString) : JsonValue → Option JsonValue
  | .object members => members.lookup key
  | _ => none

/-- Property read `v[key]` of a value read from a response: a `TypeError` on `undefined` and
`null`; otherwise the object's member. None of the names the client reads is defined by the
prototype of an object, an array, a string, a number or a boolean, so reading one that is not an
own member gives `undefined`. -/
def readProperty {σ : Type} (v : Option JsonValue) (key : JsString) :
    Async σ (Option JsonValue) :=
  match v with
  | none | some .null => throw .typeError
  | some v => pure (v.property key)

@[simp] theorem readProperty_none {σ : Type} (key : JsString) (w : World σ) :
    (readProperty none key : Async σ _) w = .error .typeError w := rfl

@[simp] theorem readProperty_null {σ : Type} (key : JsString) (w : World σ) :
    (readProperty (some .null) key : Async σ _) w = .error .typeError w := rfl

theorem readProperty_of_ne_null {σ : Type} {v : JsonValue} (h : v ≠ .null) (key : JsString)
    (w : World σ) : (readProperty (some v) key : Async σ _) w = .ok (v.property key) w := by
  cases v <;> first | exact absurd rfl h | rfl

/-! ## `ToPrimitive` -/

/-- Whether an object has an own property `toString`. `OrdinaryToPrimitive` then finds a value
that is not a function where it looks for the method, and with no other method that returns a
primitive, throws a `TypeError`. -/
def hasOwnToString (members : List (JsString × JsonValue)) : Bool :=
  members.any fun m => m.1 == JsString.ofString "toString"

mutual
/-- The string `ToPrimitive(v)` gives for a value that is not `undefined`, or `ToString(v)` of
one that is not an object; `none` is the `TypeError` of an object with an own `toString`. An
array is `Array.prototype.join` of its elements, a plain object `[object Object]`. -/
def Json.JsonValue.toPrimitiveString? : JsonValue → Option JsString
  | .null => some (.ofString "null")
  | .bool b => some (.ofString (if b then "true" else "false"))
  | .number n => some (decimal n)
  | .string s => some s
  | .array vs => joinElements? vs
  | .object ms => if hasOwnToString ms then none else some (.ofString "[object Object]")
/-- Function `Array.prototype.join` with the separator `,`: `null` elements are written as the
empty string, the others through `ToString`. -/
def joinElements? : List JsonValue → Option JsString
  | [] => some []
  | v :: vs => do
    let first ← match v with
      | .null => some []
      | v => v.toPrimitiveString?
    match vs with
    | [] => pure first
    | _ => pure (first ++ 0x2C :: (← joinElements? vs))
end

/-! ## `IsLooselyEqual` -/

/-- `IsLooselyEqual(x, v)` for a string `x` and a value `v` read from a response: `undefined`
and `null` equal no string; a string compares as itself; a boolean as the number `1` or `0`; a
number through `StringToNumber(x)`; an array or an object through `ToPrimitive(v)`, whose
`TypeError` is `none`. -/
def looselyEquals? (x : JsString) : Option JsonValue → Option Bool
  | none | some .null => some false
  | some (.bool b) => some (stringToNumberEquals x (if b then 1 else 0))
  | some (.number n) => some (stringToNumberEquals x n)
  | some (.string s) => some (x == s)
  | some v => v.toPrimitiveString?.map (x == ·)

-- The number `10` equals both `"10"` and `"010"`; `[h]` equals `"h"`; an object with its own
-- `toString` makes the comparison throw.
example : looselyEquals? (.ofString "10") (some (.number 10)) = some true ∧
    looselyEquals? (.ofString "010") (some (.number 10)) = some true ∧
    looselyEquals? (.ofString "h") (some (.array [.string (.ofString "h")])) = some true ∧
    looselyEquals? (.ofString "h") (some (.object [(.ofString "toString", .null)])) = none := by
  decide

/-- **What the loose comparison accepts.** A string `x` loosely equals a value exactly when the
value is `x` itself, an array whose elements join to `x`, a plain object when `x` is
`[object Object]`, or a number or a boolean that `StringToNumber(x)` equals. -/
theorem looselyEquals?_eq_some_true {x : JsString} {v : Option JsonValue} :
    looselyEquals? x v = some true ↔
      v = some (.string x) ∨
      (∃ vs, v = some (.array vs) ∧ joinElements? vs = some x) ∨
      (∃ ms, v = some (.object ms) ∧ hasOwnToString ms = false ∧
        x = .ofString "[object Object]") ∨
      (∃ n, v = some (.number n) ∧ stringToNumberEquals x n = true) ∨
      (∃ b, v = some (.bool b) ∧ stringToNumberEquals x (if b then 1 else 0) = true) := by
  rcases v with _ | (_ | b | n | s | vs | ms)
  · simp [looselyEquals?]
  · simp [looselyEquals?]
  · simp [looselyEquals?]
  · simp [looselyEquals?]
  · simp [looselyEquals?, @eq_comm _ s]
  · simp [looselyEquals?, JsonValue.toPrimitiveString?]
  · cases h : hasOwnToString ms <;> simp [looselyEquals?, JsonValue.toPrimitiveString?, h]

/-- **The loose comparison is injective off numbers and booleans.** A value that is neither a
number nor a boolean loosely equals at most one string: only `StringToNumber`, which reads many
strings as one Number, lets two strings equal one value. -/
theorem looselyEquals?_inj {x y : JsString} {v : Option JsonValue}
    (hn : ∀ n, v ≠ some (.number n)) (hb : ∀ b, v ≠ some (.bool b))
    (hx : looselyEquals? x v = some true) (hy : looselyEquals? y v = some true) : x = y := by
  rw [looselyEquals?_eq_some_true] at hx hy
  rcases hx with rfl | ⟨vs, rfl, hx⟩ | ⟨ms, rfl, -, rfl⟩ | ⟨n, rfl, -⟩ | ⟨b, rfl, -⟩
  · simpa using hy
  · simp_all
  · simp_all
  · exact absurd rfl (hn n)
  · exact absurd rfl (hb b)

end AvClient
