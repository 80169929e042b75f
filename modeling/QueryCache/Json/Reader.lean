/-
QueryCache.Json.Reader — the JSON value of a written form.

An integer literal that fits 64 bits is an integer.  Every other number
is computed in binary64 steps: the digits are gathered in 64 bits as
long as they fit, and the result is scaled by one or more powers of ten
(`scaled?`); a number beyond the largest finite value is refused.  `-0`
is the negative zero.  Surrogates must pair up, values nest to depth 127,
and of two fields with one name the later one stays.
-/
import QueryCache.Json.Basic
import QueryCache.Json.Form

namespace QueryCache

/-! ## 1. Numbers -/

/-- The largest unsigned integer of 64 bits. -/
def maxWord : Nat := 0xFFFFFFFFFFFFFFFF

/-- The largest signed integer of 32 bits, the bound of a decimal
exponent. -/
def maxExponent : Nat := 0x7FFFFFFF

namespace NumberForm

/-- Gathers digits into a significand of 64 bits; the result says how many
digits were taken and which are left. -/
def gather (significand : Nat) (taken : Nat) : Text → Nat × Nat × Text
  | [] => (significand, taken, [])
  | c :: rest =>
    let next := 10 * significand + (c.toNat - '0'.toNat)
    if next ≤ maxWord then gather next (taken + 1) rest else (significand, taken, c :: rest)

/-- Divides by `10^308` until at most 308 powers of ten are left, and then
by those; zero stays zero. -/
def scaledDown (x : Float) (power : Nat) : Float :=
  if power ≤ 308 then x / Float.ofScientific 1 false power
  else if x == 0 then x
  else scaledDown (x / 1e308) (power - 308)
termination_by power

/-- A significand times a power of ten, none when that is too large. -/
def scaled? (significand : Nat) (exponent : Int) : Option Float :=
  let x := Float.ofNat significand
  if exponent < 0 then some (scaledDown x exponent.natAbs)
  else if exponent ≤ 308 then
    let y := x * Float.ofScientific 1 false exponent.toNat
    if y.isInf then none else some y
  else if x == 0 then some x
  else none

/-- The magnitude of a number as a binary64 value. -/
def magnitude? (form : NumberForm) : Option Float :=
  let (significand, _, left) := gather 0 0 form.whole
  let (significand, fractionDigits, _) := gather significand 0 form.fraction
  let exponent : Int := (left.length : Int) - fractionDigits
  match form.exponent with
  | none => scaled? significand exponent
  | some (minus, digits) =>
    let power := Text.digitsValue digits
    if power > maxExponent then
      if significand = 0 ∨ minus then some 0 else none
    else scaled? significand (if minus then exponent - power else exponent + power)

/-- The number: an integer if it is written as one and fits, else the
binary64 value. -/
def toNumber? (form : NumberForm) : Option Number :=
  let value := Text.digitsValue form.whole
  if form.fraction.isEmpty ∧ form.exponent.isNone ∧ !form.negative ∧ value ≤ maxWord then
    some (.int value)
  else if form.fraction.isEmpty ∧ form.exponent.isNone ∧ form.negative ∧
      0 < value ∧ value ≤ signedLimit then
    some (.int (-value))
  else
    form.magnitude?.map fun x => .float (if form.negative then -x else x)

end NumberForm

/-! ## 2. Strings -/

/-- The character of a unit that is no surrogate, or of a pair of them. -/
def decodeUnits : List StringUnit → Option Text
  | [] => some []
  | .char c :: rest => (decodeUnits rest).map (c :: ·)
  | .code high :: .code low :: rest =>
    if 0xD800 ≤ high ∧ high < 0xDC00 then
      if 0xDC00 ≤ low ∧ low < 0xE000 then
        (decodeUnits rest).map
          (Char.ofNat (0x10000 + (high - 0xD800) * 0x400 + (low - 0xDC00)) :: ·)
      else none
    else if 0xDC00 ≤ high ∧ high < 0xE000 then none
    else (decodeUnits (.code low :: rest)).map (Char.ofNat high :: ·)
  | .code unit :: rest =>
    if 0xD800 ≤ unit ∧ unit < 0xE000 then none
    else (decodeUnits rest).map (Char.ofNat unit :: ·)

/-! ## 3. Values -/

namespace Json

mutual

/-- The value of a form with fewer than `depth` containers around each
other. -/
def ofForm? : (depth : Nat) → Form → Option Json
  | _, .null => some null
  | _, .bool b => some (bool b)
  | _, .number form => form.toNumber?.map num
  | _, .string units => (decodeUnits units).map str
  | depth, .array items =>
    if depth ≤ 1 then none else (itemsOfForm? (depth - 1) items).map arr
  | depth, .object fields =>
    if depth ≤ 1 then none else (fieldsOfForm? (depth - 1) fields).map ofEntries

def itemsOfForm? : (depth : Nat) → List Form → Option (List Json)
  | _, [] => some []
  | depth, item :: rest => do
    let value ← ofForm? depth item
    let values ← itemsOfForm? depth rest
    some (value :: values)

def fieldsOfForm? : (depth : Nat) → List (List StringUnit × Form) → Option (List (Text × Json))
  | _, [] => some []
  | depth, (name, item) :: rest => do
    let name ← decodeUnits name
    let value ← ofForm? depth item
    let fields ← fieldsOfForm? depth rest
    some ((name, value) :: fields)

end

/-- The depth at which a container is refused. -/
def depthLimit : Nat := 128

/-- The value of a JSON text. -/
def read (text : Text) : Option Json :=
  (Form.read text).bind (ofForm? depthLimit)

end Json
end QueryCache
