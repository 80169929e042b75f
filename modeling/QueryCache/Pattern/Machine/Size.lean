/-
QueryCache.Pattern.Machine.Size — how large a machine may grow.

A machine has numbered states.  Each takes `stateBytes`, and states with
several ways out take more for these.  A machine grows by `Size.grow`,
which fails beyond `sizeLimit`.
-/
import QueryCache.Unicode.ByteSequence

namespace QueryCache.Pattern.Machine

/-- The end of the text at which a machine begins to read. -/
inductive Direction where
  | forward
  | backward
deriving DecidableEq, Repr

/-- The bytes of one state. -/
def stateBytes : Nat := 32

/-- The bytes of a way out that names a state only. -/
def linkBytes : Nat := 4

/-- The bytes of a way out that names a range of bytes and a state. -/
def wayBytes : Nat := 8

/-- The most bytes that a machine may take. -/
def sizeLimit : Nat := 10 * 1024 * 1024

/-- The states of a machine, numbered from zero, and what their ways out
take. -/
structure Size where
  states : Nat
  further : Nat
deriving DecidableEq, Repr

namespace Size

/-- All bytes of the machine. -/
def bytes (size : Size) : Nat :=
  stateBytes * size.states + size.further

/-- The machine without states. -/
def zero : Size := ⟨0, 0⟩

/-- More states and more bytes for their ways out, within the limit. -/
def grow (size : Size) (states further : Nat) : Option Size :=
  let grown : Size := ⟨size.states + states, size.further + further⟩
  if grown.bytes ≤ sizeLimit then some grown else none

end Size

/-- `count` steps, until one fails. -/
def growTimes (step : Size → Option Size) : (count : Nat) → Size → Option Size
  | 0, size => some size
  | count + 1, size => do
    let size ← step size
    growTimes step count size

end QueryCache.Pattern.Machine
