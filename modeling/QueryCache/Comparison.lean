/-
QueryCache.Comparison — how filters and orders compare values.

Filter operands arrive as text, and so do many columns, so values of
different kinds meet: a number and a text that writes a number compare as
numbers, two texts that write points in time compare as such, a boolean
equals its name.  `equals` is the equality of filters, `compare?` their
order, none where a pair has no meaningful order; `sortOrder` extends it
to an order of all values for sorting rows.
-/
import QueryCache.Json.Reader
import QueryCache.Json.Writer
import QueryCache.Timestamp

namespace QueryCache

/-! ## 1. Numbers written as text -/

/-- The nearest binary64 value, infinite beyond the largest finite one. -/
def NumberForm.nearest (form : NumberForm) : Float :=
  let digits := Text.digitsValue (form.whole ++ form.fraction)
  let exponent : Int := match form.exponent with
    | none => 0
    | some (minus, digits) =>
      if minus then -(Text.digitsValue digits : Int) else Text.digitsValue digits
  let power := exponent - form.fraction.length
  let x := Float.ofScientific digits (power < 0) power.natAbs
  if form.negative then -x else x

/-- The integer, when it is written without fraction and exponent and fits
64 bits with its sign. -/
def NumberForm.signedInt? (form : NumberForm) : Option Int :=
  let value := Text.digitsValue form.whole
  if !form.fraction.isEmpty || form.exponent.isSome then none
  else if form.negative then
    if value ≤ signedLimit then some (-value) else none
  else if value < signedLimit then some value
  else none

/-- The number that the whole text writes. -/
def numberForm? (text : Text) : Option NumberForm :=
  match Form.readNumber text with
  | some (form, []) => some form
  | _ => none

/-- The value that a text in a query string stands for: a number, a
boolean or null if it writes one, else the text itself.  Double quotes
around it make it a text. -/
def typedValue (text : Text) : Json :=
  let text := Text.trim text
  match Text.between '"' '"' text with
  | some inner => .str inner
  | none =>
    if text = "null".toList then .null
    else if text = "true".toList then .bool true
    else if text = "false".toList then .bool false
    else
      match numberForm? text with
      | none => .str text
      | some form =>
        match form.signedInt? with
        | some n => .num (.int n)
        | none =>
          let x := form.nearest
          if x.isFinite then .num (.float x) else .str text

namespace Comparison

/-- The number that a value is or writes. -/
def float? : Json → Option Float
  | .num n => some n.toFloat
  | .str text => (numberForm? text).map NumberForm.nearest
  | _ => none

/-- How far apart two equal numbers may be: a thousand-millionth, or as
much of the larger magnitude. -/
def tolerance : Float := 1e-9

/-- The larger of two binary64 values. -/
def larger (x y : Float) : Float :=
  if x < y then y else x

/-- Equal numbers, up to the tolerance. -/
def close (x y : Float) : Bool :=
  let bound := larger (larger tolerance (tolerance * x.abs)) (tolerance * y.abs)
  (x - y).abs ≤ bound

/-! ## 2. Equality -/

/-- Both values are or write numbers, and these are close. -/
def closeNumbers (a b : Json) : Bool :=
  match float? a, float? b with
  | some x, some y => close x y
  | _, _ => false

/-- The name of a truth value. -/
def boolName (b : Bool) : Text :=
  if b then "true" else "false"

/-- The texts are the same or write the same point in time. -/
def equalTexts (s t : Text) : Bool :=
  s == t ||
    match Timestamp.read s, Timestamp.read t with
    | some x, some y => x == y
    | _, _ => false

/-- The equality of filters. -/
def equals : Json → Json → Bool
  | .null, .null => true
  | .num m, .num n => closeNumbers (.num m) (.num n)
  | .num m, .str t => closeNumbers (.num m) (.str t)
  | .str s, .num n => closeNumbers (.str s) (.num n)
  | .str s, .str t => equalTexts s t
  | .bool b, .str t => t == boolName b
  | .str s, .bool b => s == boolName b
  | a, b => a.sameAs b

/-! ## 3. Order -/

/-- Points in time by time, other texts by their characters. -/
def compareTexts (s t : Text) : Ordering :=
  match Timestamp.read s, Timestamp.read t with
  | some x, some y => compare x y
  | _, _ => compare s t

/-- The order of filters; none for nulls and for values of kinds that do
not compare. -/
def compare? : Json → Json → Option Ordering
  | .null, _ => none
  | _, .null => none
  | .bool a, .bool b => some (compare a b)
  | .str s, .str t => some (compareTexts s t)
  | a, b =>
    match float? a, float? b with
    | some x, some y => some (compareFloat x y)
    | _, _ => none

/-- The rank of a kind of value among the others. -/
def kindRank : Json → Nat
  | .null => 0
  | .bool _ => 1
  | .num _ => 2
  | .str _ => 3
  | .arr _ => 4
  | .obj _ => 5

/-- The order of two values that are not null: the order of filters where
there is one, arrays and objects by their written form, else by kind. -/
def compareKinds (a b : Json) : Ordering :=
  match compare? a b with
  | some ordering => ordering
  | none =>
    match a, b with
    | .arr _, .arr _ => compare a.write b.write
    | .obj _, .obj _ => compare a.write b.write
    | _, _ => compare (kindRank a) (kindRank b)

/-- The order for sorting rows.  Nulls go where they are told to,
whatever the direction. -/
def sortOrder (ascending nullsFirst : Bool) (a b : Json) : Ordering :=
  match a.isNull, b.isNull with
  | true, true => .eq
  | true, false => if nullsFirst then .lt else .gt
  | false, true => if nullsFirst then .gt else .lt
  | false, false => if ascending then compareKinds a b else (compareKinds a b).swap

/-! ## 4. Containment -/

/-- The container holds every item, every field or the text of the other
value. -/
def contains : (container contained : Json) → Bool
  | .arr items, .arr needles => needles.all fun needle => items.any fun item => equals item needle
  | .obj fields, .obj needles => needles.all fun (name, needle) =>
      (Fields.get? name fields).any fun value => equals value needle
  | .str text, .str needle => Text.contains needle text
  | _, _ => false

end Comparison
end QueryCache
