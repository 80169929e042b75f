/-
QueryCache.Pattern.Flags — the flags in force at a place of a pattern.

Flags decide whether blanks and comments count, whether letters differ by
case, where lines end and whether the pattern is about Unicode or about
ASCII.  Outside Unicode a set must be one of ASCII characters, since no
other character is a single byte.
-/
import QueryCache.Pattern.Build

namespace QueryCache.Pattern

open Unicode (CharSet)

/-- How many groups, repetitions, classes, sequences and alternatives may
stand around each other. -/
def nestingLimit : Nat := 250

/-- The flags in force at a place of the pattern. -/
structure Flags where
  ignoreCase : Bool := false
  multiLine : Bool := false
  dotAll : Bool := false
  unicode : Bool := true
  anyLineEnd : Bool := false
  /-- Repetitions ask for few rounds, and those marked as lazy for many. -/
  swapGreed : Bool := false
  /-- Blanks and comments in the pattern mean nothing. -/
  verbose : Bool := false

/-! ## 1. Blanks and comments -/

/-- Skips blanks and comments; a comment ends with its line. -/
def skipVerbose : (inComment : Bool) → Text → Text
  | _, [] => []
  | true, c :: rest => skipVerbose (c != '\n') rest
  | false, c :: rest =>
    if Unicode.isBlank c then skipVerbose false rest
    else if c = '#' then skipVerbose true rest
    else c :: rest

/-- Skips what means nothing under the flags. -/
def Flags.skip (flags : Flags) (text : Text) : Text :=
  if flags.verbose then skipVerbose false text else text

/-! ## 2. Sets under the flags -/

/-- A set of ASCII characters with the letters of either case. -/
def withAsciiCases (set : CharSet) : CharSet :=
  (List.range 26).foldl
    (fun grown k =>
      let pair := [('A'.toNat + k), ('a'.toNat + k)]
      if pair.any set.ranges.containsCode then grown.insertAll pair else grown)
    set

namespace Flags

/-- The set with the letters of either case when the flags ignore it. -/
def cased (flags : Flags) (set : CharSet) : CharSet :=
  if !flags.ignoreCase then set
  else if flags.unicode then set.withCases
  else withAsciiCases set

/-- The set, or everything outside it, when the flags allow for it. -/
def signed? (flags : Flags) (negated : Bool) (set : CharSet) : Option CharSet :=
  let set := if negated then set.compl else set
  if flags.unicode || set.isAscii then some set else none

/-- The character may stand in a set. -/
def admits (flags : Flags) (c : Char) : Bool :=
  flags.unicode || c.toNat < 0x80

/-- The decimal digits. -/
def digits (flags : Flags) : CharSet :=
  if flags.unicode then Unicode.Category.decimalNumber.set else .range '0' '9'

/-- The white space. -/
def blanks (flags : Flags) : CharSet :=
  if flags.unicode then Unicode.blanks else .union (.range '\t' '\r') (.single ' ')

/-- Which characters make up words. -/
def words (flags : Flags) : WordScope :=
  if flags.unicode then .unicode else .ascii

/-- One character of the set. -/
def setPattern (flags : Flags) (set : CharSet) : Pattern :=
  ofSet set (!flags.unicode)

/-- What a character outside sets stands for; `isByte` tells that it was
given as a byte, which is a character only within ASCII. -/
def charPattern? (flags : Flags) (c : Char) (isByte : Bool) : Option Pattern :=
  if flags.unicode then some (Pattern.char flags.ignoreCase c)
  else if isByte && 0x80 ≤ c.toNat then none
  else if flags.ignoreCase && c.isAlpha then some (ofSet (withAsciiCases (.single c)) true)
  else some (literal [c])

/-- What a dot stands for. -/
def dot? (flags : Flags) : Option Pattern :=
  if !flags.unicode then none
  else if flags.dotAll then some (ofSet .all false)
  else if flags.anyLineEnd then some (ofSet notLineEnd false)
  else some (ofSet notLineFeed false)

/-- The condition of `^`. -/
def start (flags : Flags) : Assertion :=
  if !flags.multiLine then .textStart
  else if flags.anyLineEnd then .anyLineStart else .lineStart

/-- The condition of `$`. -/
def stop (flags : Flags) : Assertion :=
  if !flags.multiLine then .textEnd
  else if flags.anyLineEnd then .anyLineEnd else .lineEnd

end Flags
end QueryCache.Pattern
