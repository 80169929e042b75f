/-
QueryCache.Pattern.Machine.Chars — machines that read one character of a
set.

The machine of an ASCII set has one state with all the ranges.  The
machine of any other set reads the bytes of a character one after the
other, and shares states between sequences: forward the sequences share
their last bytes, backward their first ones.  What can be shared is looked
up by a description of the state, a list of numbers, in a table with few
slots; a slot keeps only the latest state that fell on it, so how much is
shared depends on the slots.
-/
import Std.Data.HashMap
import QueryCache.Pattern.Machine.Size

namespace QueryCache.Pattern.Machine

open Unicode (ByteRange ByteSequence CharSet)

/-- The slot that a description falls on. -/
def slotOf (slots : Nat) (description : List Nat) : Nat :=
  let hash : UInt64 := description.foldl
    (fun hash n => (hash ^^^ n.toUInt64) * 1099511628211) 14695981039346656037
  hash.toNat % slots

/-- A machine that grows, with the states that it can share. -/
structure Sharing where
  size : Size
  known : Std.HashMap Nat (List Nat × Nat)

/-- The state with this description and the machine that has it: the state
that is known by it, or else a new one that takes `further` bytes more. -/
def Sharing.state (sharing : Sharing) (slots further : Nat) (description : List Nat) :
    Option (Nat × Sharing) :=
  let slot := slotOf slots description
  match sharing.known[slot]?.filter (·.1 == description) with
  | some (_, state) => some (state, sharing)
  | none => do
    let size ← sharing.size.grow 1 further
    let state := sharing.size.states
    some (state, ⟨size, sharing.known.insert slot (description, state)⟩)

/-- Sequences that begin with the same range, together. -/
def byFirstRange (sequences : List ByteSequence) : List (List ByteSequence) :=
  sequences.splitBy fun a b => a.head? == b.head?

/-- The state from which all the sequences, of at most `length` ranges
each, lead to the state `target`; a state comes after those it leads to. -/
def shareEnds (target : Nat) :
    (length : Nat) → List ByteSequence → Sharing → Option (Nat × Sharing)
  | 0, _, sharing => some (target, sharing)
  | length + 1, sequences, sharing =>
    if sequences.all (·.isEmpty) then some (target, sharing)
    else do
      let groups := byFirstRange sequences
      let (ways, sharing) ← groups.foldlM
        (fun (ways, sharing) group => do
          let (next, sharing) ← shareEnds target length (group.map List.tail) sharing
          let ranges := (group.take 1).flatMap (·.take 1)
          some (ways ++ ranges.flatMap fun range => [range.first, range.last, next], sharing))
        (([] : List Nat), sharing)
      sharing.state 10000 (wayBytes * groups.length) ways

/-- The state from which one range after the other leads to the state
`target`, the first range last. -/
def shareStart (target : Nat) (sequence : ByteSequence) (sharing : Sharing) :
    Option (Nat × Sharing) :=
  sequence.foldlM
    (fun (next, sharing) range => sharing.state 1000 0 [next, range.first, range.last])
    (target, sharing)

/-- The machine of a set behind what has grown already. -/
def growChars (direction : Direction) (set : CharSet) (size : Size) : Option Size :=
  if set.isAscii then size.grow 2 (wayBytes * set.ranges.length)
  else
    match direction with
    | .forward => do
      let target := size.states
      let size ← size.grow 1 0
      let (_, sharing) ← shareEnds target 4 set.byteSequences ⟨size, ∅⟩
      some sharing.size
    | .backward => do
      let target := size.states + 1
      let size ← size.grow 2 0
      let sharing ← set.byteSequences.foldlM
        (fun (sharing : Sharing) sequence => do
          let (_, sharing) ← shareStart target sequence sharing
          let size ← sharing.size.grow 0 linkBytes
          some { sharing with size })
        ⟨size, ∅⟩
      some sharing.size

end QueryCache.Pattern.Machine
