/-
QueryCache.Pattern.AsciiClass — the sets of characters that patterns know
by name within ASCII, and the set of a dot.
-/
import QueryCache.Text.Basic
import QueryCache.Unicode.CharSet

namespace QueryCache.Pattern

open Unicode (CharSet)

/-- The set with this name between `[:` and `:]`. -/
def asciiClass? (name : Text) : Option CharSet :=
  let upper := CharSet.range 'A' 'Z'
  let lower := CharSet.range 'a' 'z'
  let digit := CharSet.range '0' '9'
  let alpha := upper.union lower
  let alnum := alpha.union digit
  let rows : List (String × CharSet) :=
    [("alnum", alnum), ("alpha", alpha), ("ascii", .range '\x00' '\x7f'),
     ("blank", .union (.single '\t') (.single ' ')),
     ("cntrl", .union (.range '\x00' '\x1f') (.single '\x7f')), ("digit", digit),
     ("graph", .range '!' '~'), ("lower", lower), ("print", .range ' ' '~'),
     ("punct", (CharSet.range '!' '~').diff alnum),
     ("space", .union (.range '\t' '\r') (.single ' ')), ("upper", upper),
     ("word", alnum.union (.single '_')),
     ("xdigit", .unions [digit, .range 'a' 'f', .range 'A' 'F'])]
  (rows.find? fun row => row.1.toList = name).map (·.2)

/-- The ASCII letters, digits and underscore. -/
def asciiWordChars : CharSet :=
  .unions [.range '0' '9', .range 'A' 'Z', .single '_', .range 'a' 'z']

/-- Everything but a line feed. -/
def notLineFeed : CharSet :=
  (CharSet.single '\n').compl

/-- Everything but a line feed and a carriage return. -/
def notLineEnd : CharSet :=
  ((CharSet.single '\r').union (.single '\n')).compl

theorem contains_notLineFeed (c : Char) : notLineFeed.contains c = (c != '\n') := by
  simp [notLineFeed, bne]

end QueryCache.Pattern
