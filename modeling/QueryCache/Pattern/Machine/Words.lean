/-
QueryCache.Pattern.Machine.Words — machines that read one of several
words.

The words are kept as a tree with a byte on each branch, where a word that
ends parts the words before it from those behind it.  The tree is walked
node by node; how many nodes it has is bounded by the bytes of the words.
-/
import QueryCache.Pattern.Machine.Size

namespace QueryCache.Pattern.Machine

/-- The bytes of a word that are still to be read. -/
abbrev Bytes := List Nat

/-- The words between those that are read completely. -/
def unfinished (words : List Bytes) : List (List Bytes) :=
  (words.splitBy fun a b => a.isEmpty == b.isEmpty).filter fun run => !run.all List.isEmpty

/-- How many words are read completely; those in front count as one. -/
def finished (words : List Bytes) : Nat :=
  (words.filter List.isEmpty).length - ((words.takeWhile List.isEmpty).length - 1)

/-- What is left of the words behind each first byte. -/
def behindFirstByte (words : List Bytes) : List (List Bytes) :=
  let sorted := words.mergeSort fun a b => a.headD 0 ≤ b.headD 0
  (sorted.splitBy fun a b => a.head? == b.head?).map (·.map List.tail)

/-- The states for the nodes that are left, at most `fuel` of them. -/
def growNodes : (fuel : Nat) → (nodes : List (List Bytes)) → Size → Option Size
  | _, [], size => some size
  | 0, _ :: _, _ => none
  | fuel + 1, words :: nodes, size => do
    let runs := unfinished words
    let children := runs.map behindFirstByte
    let ways := (children.filter (·.length ≠ 1)).foldl (· + ·.length) 0
    let size ← size.grow (1 + runs.length)
      (linkBytes * (runs.length + finished words) + wayBytes * ways)
    let deeper := children.flatten.filter fun child => child.any (!·.isEmpty)
    growNodes fuel (deeper ++ nodes) size

/-- The machine of one of the words behind what has grown already. -/
def growWords (direction : Direction) (words : List Bytes) (size : Size) : Option Size := do
  let words := match direction with
    | .forward => words
    | .backward => words.map List.reverse
  let size ← size.grow 1 0
  growNodes ((words.map List.length).foldl (· + ·) 1) [words] size

end QueryCache.Pattern.Machine
