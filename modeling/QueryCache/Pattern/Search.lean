/-
QueryCache.Pattern.Search — patterns that can be searched for.

A search uses machines of states, unless the pattern comes down to byte
strings: because its beginnings are all there is to it, or because it is
one of many words.  A pattern that has no such short cut and whose machines
are too large is not searched for.
-/
import QueryCache.Pattern.Beginnings
import QueryCache.Pattern.Machine

namespace QueryCache.Pattern

/-- So many words are searched for without machines. -/
def manyWords : Nat := 3000

/-- One of many words. -/
def isWordList (pattern : Pattern) : Bool :=
  pattern.words?.any fun words => manyWords ≤ words.length

/-- The pattern can be searched for. -/
def isSearchable (pattern : Pattern) : Bool :=
  pattern.hasMachines || pattern.isPlain || pattern.isWordList

theorem isSearchable_of_hasMachines {pattern : Pattern} (h : pattern.hasMachines = true) :
    pattern.isSearchable = true := by
  simp [isSearchable, h]

end QueryCache.Pattern
