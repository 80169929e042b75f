/-
QueryCache.Json.Number — the numbers of a JSON document.

An integer literal that fits 64 bits is kept exactly; every other number
is a binary64 value.  The two kinds are never the same value (`1` is not
`1.0`), and two binary64 values are the same when they are numerically
equal, so both zeros are the same value.  `floatRank` turns the order of
the finite and infinite binary64 values into the order of the integers,
which makes it a total order by construction.
-/

namespace QueryCache

/-- One more than the largest signed integer of 64 bits. -/
def signedLimit : Nat := 0x8000000000000000

/-- The place of a binary64 value among all of them: negative values
count down from zero, positive values count up, both zeros are 0. -/
def floatRank (x : Float) : Int :=
  let bits := x.toBits.toNat
  if bits < signedLimit then bits else (signedLimit : Int) - bits

/-- The numeric order of binary64 values; infinities lie at the ends. -/
def compareFloat (x y : Float) : Ordering :=
  compare (floatRank x) (floatRank y)

/-- A number as a JSON document holds it. -/
inductive Number where
  | int (value : Int)
  | float (value : Float)
deriving DecidableEq

namespace Number

instance : Inhabited Number := ⟨.int 0⟩

/-- The nearest binary64 value. -/
def toFloat : Number → Float
  | int n => Float.ofInt n
  | float x => x

/-- The same value of the same kind. -/
def sameAs : Number → Number → Bool
  | int a, int b => a == b
  | float x, float y => floatRank x == floatRank y
  | _, _ => false

@[simp] theorem sameAs_refl (n : Number) : n.sameAs n = true := by
  cases n <;> simp [sameAs]

theorem sameAs_comm (m n : Number) : m.sameAs n = n.sameAs m := by
  cases m <;> cases n <;> simp [sameAs, BEq.comm]

end Number
end QueryCache
