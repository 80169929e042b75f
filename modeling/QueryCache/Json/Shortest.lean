/-
QueryCache.Json.Shortest — the fewest decimal digits that read back as a
binary64 value.

A positive finite value is `m · 2^q`.  The numbers that round to it form
an interval around it, whose ends belong to it when `m` is even.  For
1, 2, … 17 digits the two neighbours of the value on that decimal grid
are tested against the interval in exact arithmetic; the first grid with
a hit wins, and of two hits the nearer one, an even digit on a tie.
-/
import QueryCache.Json.Number

namespace QueryCache

/-- A positive binary64 value `mantissa · 2^exponent`. -/
structure Dyadic where
  mantissa : Nat
  exponent : Int
  /-- The next smaller value is only half as far away as the next larger. -/
  narrowBelow : Bool
deriving DecidableEq

/-- A positive decimal number `digits · 10^scale`. -/
structure Decimal where
  digits : Nat
  scale : Int
deriving DecidableEq

namespace Dyadic

/-- The magnitude held by the low 63 bits of a finite binary64 value. -/
def ofBits (bits : Nat) : Dyadic :=
  let biased : Nat := bits / 0x10000000000000 % 0x800
  let fraction : Nat := bits % 0x10000000000000
  if biased = 0 then ⟨fraction, -1074, false⟩
  else ⟨fraction + 0x10000000000000, (biased : Int) - 1075, fraction == 0 && biased != 1⟩

/-- The value as a quotient, in quarters of its unit: `4 · m / denominator`
with the scale of `2^exponent` folded in. -/
def quarters (d : Dyadic) : Nat × Nat :=
  (Nat.pow 2 (d.exponent - 2).toNat, Nat.pow 2 (2 - d.exponent).toNat)

/-- The largest `e` with `10^e ≤ num / den`. -/
def decimalExponent (num den : Nat) : Int :=
  let guess := ((num.log2 : Int) - den.log2) * 30103 / 100000
  let atLeast (e : Int) : Bool := den * Nat.pow 10 e.toNat ≤ num * Nat.pow 10 (-e).toNat
  if atLeast (guess + 1) then guess + 1
  else if atLeast guess then guess
  else guess - 1

/-- The grid point `scale` that stands for the value, if a neighbour of
the value on that grid rounds to it. -/
def onGrid? (d : Dyadic) (scale : Int) : Option Decimal :=
  let (unit, den) := d.quarters
  let a := den * Nat.pow 10 scale.toNat
  let b := unit * Nat.pow 10 (-scale).toNat
  let value := 4 * d.mantissa * b
  let low := (4 * d.mantissa - if d.narrowBelow then 1 else 2) * b
  let high := (4 * d.mantissa + 2) * b
  let closed := d.mantissa % 2 = 0
  let rounds (n : Nat) : Bool :=
    if closed then low ≤ n * a && n * a ≤ high else low < n * a && n * a < high
  let below := value / a
  let above := below + 1
  let nearerBelow :=
    let fromBelow := value - below * a
    let fromAbove := above * a - value
    fromBelow < fromAbove || (fromBelow == fromAbove && below % 2 == 0)
  if rounds below && (nearerBelow || !rounds above) && below != 0 then some ⟨below, scale⟩
  else if rounds above then some ⟨above, scale⟩
  else none

/-- Tries ever finer grids, `count` more of them after `scale`. -/
def shortestFrom (d : Dyadic) (scale : Int) : Nat → Decimal
  | 0 => (d.onGrid? scale).getD ⟨0, scale⟩
  | count + 1 => (d.onGrid? scale).getD (d.shortestFrom (scale - 1) count)

/-- The fewest digits that read back as the value. -/
def shortest (d : Dyadic) : Decimal :=
  let (unit, den) := d.quarters
  d.shortestFrom (decimalExponent (4 * d.mantissa * unit) den) 16

end Dyadic
end QueryCache
