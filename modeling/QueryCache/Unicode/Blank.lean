/-
QueryCache.Unicode.Blank — the characters that count as white space.

These are the 25 characters with the Unicode property White_Space.
-/
import QueryCache.Unicode.Ranges

namespace QueryCache.Unicode

/-- The characters with the property White_Space. -/
def blankRanges : Ranges :=
  [(0x09, 0x0D), (0x20, 0x20), (0x85, 0x85), (0xA0, 0xA0), (0x1680, 0x1680),
   (0x2000, 0x200A), (0x2028, 0x2029), (0x202F, 0x202F), (0x205F, 0x205F),
   (0x3000, 0x3000)]

/-- White space: blanks, line ends and the spaces of every script. -/
def isBlank (c : Char) : Bool :=
  blankRanges.contains c

end QueryCache.Unicode
