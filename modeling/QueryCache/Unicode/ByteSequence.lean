/-
QueryCache.Unicode.ByteSequence — sets of characters as sequences of byte
ranges.

The UTF-8 forms of the characters in a range are the texts of a few
sequences of byte ranges, each byte free within its own range.  A range of
characters is cut wherever the number of bytes changes, and wherever two
ends differ in a byte while a byte after it does not run through all of
its values.  The main statement, `le_and_lt_of_cut?`, says that a cut lies
inside the range, so cutting comes to an end.
-/
import QueryCache.Unicode.CharSet
import QueryCache.Unicode.Utf8

namespace QueryCache.Unicode

/-- The bytes from `first` to `last`. -/
structure ByteRange where
  first : Nat
  last : Nat
deriving DecidableEq

/-- One byte from each range in turn. -/
abbrev ByteSequence := List ByteRange

/-- The greatest code points written with one, two and three bytes. -/
def lengthEdges : List Nat := [0x7F, 0x7FF, 0xFFFF]

/-- How many code points differ in the last byte, the last two and the last
three bytes only. -/
def blockSizes : List Nat := [0x40, 0x1000, 0x40000]

/-- Where a range that crosses a block of this size is cut: behind the
block it begins in, or before the block it ends in. -/
def blockCut? (first last block : Nat) : Option Nat :=
  if first / block = last / block then none
  else if first % block ≠ 0 then some (first / block * block + (block - 1))
  else if last % block ≠ block - 1 then some (last / block * block - 1)
  else none

/-- The last code point before the cut of a range that is no sequence. -/
def cut? (first last : Nat) : Option Nat :=
  if last ≤ 0x7F then none
  else
    match lengthEdges.find? fun edge => first ≤ edge && edge < last with
    | some edge => some edge
    | none => blockSizes.findSome? (blockCut? first last)

theorem le_and_lt_of_blockCut? {first last block edge : Nat} (hb : 0 < block) (h : first ≤ last)
    (he : blockCut? first last block = some edge) : first ≤ edge ∧ edge < last := by
  have hf := Nat.div_add_mod first block
  have hl := Nat.div_add_mod last block
  have hfm := Nat.mod_lt first hb
  rw [Nat.mul_comm] at hf hl
  unfold blockCut? at he
  split at he
  · simp at he
  · rename_i hne
    have hlt : first / block < last / block :=
      Nat.lt_of_le_of_ne (Nat.div_le_div_right h) hne
    have hstep : first / block * block + block ≤ last / block * block := by
      rw [← Nat.succ_mul]
      exact Nat.mul_le_mul_right block hlt
    split at he
    · obtain rfl := Option.some.inj he
      omega
    · split at he
      · obtain rfl := Option.some.inj he
        omega
      · simp at he

/-- A cut lies inside the range. -/
theorem le_and_lt_of_cut? {first last edge : Nat} (h : first ≤ last)
    (he : cut? first last = some edge) : first ≤ edge ∧ edge < last := by
  unfold cut? at he
  split at he
  · simp at he
  · split at he
    · rename_i hfind
      obtain rfl := Option.some.inj he
      simpa using List.find?_some hfind
    · obtain ⟨block, hmem, hcut⟩ := List.exists_of_findSome?_eq_some he
      refine le_and_lt_of_blockCut? ?_ h hcut
      simp only [blockSizes, List.mem_cons, List.not_mem_nil, or_false] at hmem
      omega

/-- The sequences of the characters from `first` to `last`, in order. -/
def sequencesOf (first last : Nat) : List ByteSequence :=
  if h : first ≤ last then
    match he : cut? first last with
    | some edge =>
      have := le_and_lt_of_cut? h he
      sequencesOf first edge ++ sequencesOf (edge + 1) last
    | none =>
      [List.zipWith ByteRange.mk (Utf8.encodeChar (Char.ofNat first))
        (Utf8.encodeChar (Char.ofNat last))]
  else []
termination_by last - first

/-- The sequences of the characters of a set, in order. -/
def CharSet.byteSequences (set : CharSet) : List ByteSequence :=
  set.ranges.flatMap fun range => sequencesOf range.1 range.2

end QueryCache.Unicode
