/-
QueryCache.Pattern.Basic — patterns and what they match.

A pattern maps the set of positions where it may begin to the set of
positions where it may end.  A set of positions of a text is a list of
marks, one for each position from before the first character to behind
the last one.  `Pattern.run` is that map, `Pattern.occursIn` asks whether
any position can be reached from anywhere, so a match may begin and end
inside the text.  A repetition without bound is the closure of one round:
every round that finds a new position uses up one of finitely many, so
as many rounds as there are positions suffice.  A run of characters of one
set is followed in a single pass.
-/
import QueryCache.Pattern.AsciiClass
import QueryCache.Unicode.Property

namespace QueryCache

open Unicode (CharSet)

/-- Which characters make up words. -/
inductive WordScope where
  | unicode
  | ascii
deriving DecidableEq, Repr

/-- The characters of words. -/
def WordScope.chars : WordScope → CharSet
  | unicode => Unicode.wordChars
  | ascii => Pattern.asciiWordChars

/-- A condition on a position of the text. -/
inductive Assertion where
  | textStart
  | textEnd
  | lineStart
  | lineEnd
  /-- Line ends are `\r`, `\n` and `\r\n`. -/
  | anyLineStart
  | anyLineEnd
  | wordBoundary (scope : WordScope)
  | notWordBoundary (scope : WordScope)
  | wordStart (scope : WordScope)
  | wordEnd (scope : WordScope)
  | wordStartHalf (scope : WordScope)
  | wordEndHalf (scope : WordScope)
deriving DecidableEq, Repr

/-- The condition holds between the character before and the one after. -/
def Assertion.holds (before after : Option Char) : Assertion → Bool
  | textStart => before.isNone
  | textEnd => after.isNone
  | lineStart => before.isNone || before == some '\n'
  | lineEnd => after.isNone || after == some '\n'
  | anyLineStart =>
    before.isNone || before == some '\n' || (before == some '\r' && after != some '\n')
  | anyLineEnd =>
    after.isNone || after == some '\r' || (after == some '\n' && before != some '\r')
  | wordBoundary scope => before.any scope.chars.contains != after.any scope.chars.contains
  | notWordBoundary scope => before.any scope.chars.contains == after.any scope.chars.contains
  | wordStart scope => !before.any scope.chars.contains && after.any scope.chars.contains
  | wordEnd scope => before.any scope.chars.contains && !after.any scope.chars.contains
  | wordStartHalf scope => !before.any scope.chars.contains
  | wordEndHalf scope => !after.any scope.chars.contains

/-- A pattern for a stretch of text. -/
inductive Pattern where
  | empty
  | literal (text : Text)
  /-- One character of the set; `ascii` tells that the set was written
  where patterns are not about Unicode. -/
  | chars (set : CharSet) (ascii : Bool)
  | assert (condition : Assertion)
  | group (index : Nat) (body : Pattern)
  | seq (first second : Pattern)
  | alt (first second : Pattern)
  /-- At least `min` rounds, at most `max` when that is given; `lazy` asks
  for few rounds and does not change what matches. -/
  | rounds (body : Pattern) (min : Nat) (max : Option Nat) (lazy : Bool)
deriving DecidableEq

namespace Pattern

/-! ## 1. Sets of positions -/

/-- A mark for every position of a text. -/
abbrev Marks := List Bool

/-- Every position of the text. -/
def everywhere (text : Text) : Marks :=
  true :: text.map fun _ => true

/-- The positions behind one character that is admitted. -/
def advance (admits : Char → Bool) (text : Text) (marks : Marks) : Marks :=
  false :: List.zipWith (fun mark c => mark && admits c) marks text

/-- The positions at which the condition holds. -/
def keep (condition : Assertion) : (before : Option Char) → Text → Marks → Marks
  | _, _, [] => []
  | before, [], mark :: marks =>
    (mark && condition.holds before none) :: marks.map fun _ => false
  | before, c :: text, mark :: marks =>
    (mark && condition.holds before (some c)) :: keep condition (some c) text marks

/-- In one set or the other. -/
def either (a b : Marks) : Marks :=
  List.zipWith (· || ·) a b

/-- In the first set and not in the second. -/
def without (a b : Marks) : Marks :=
  List.zipWith (fun x y => x && !y) a b

/-- `count` rounds of `step`; once a round changes nothing, no later one
does. -/
def times (step : Marks → Marks) : (count : Nat) → Marks → Marks
  | 0, marks => marks
  | count + 1, marks =>
    let next := step marks
    if next = marks then marks else times step count next

/-- What up to `count` rounds of `step` reach from `frontier`, added to
`seen`. -/
def spread (step : Marks → Marks) : (count : Nat) → (frontier seen : Marks) → Marks
  | 0, _, seen => seen
  | count + 1, frontier, seen =>
    let fresh := without (step frontier) seen
    if fresh.any id then spread step count fresh (either seen fresh) else seen

/-- The positions that a run of admitted characters leads to; `reached`
tells whether one led to the position before. -/
def flood (admits : Char → Bool) : (reached : Bool) → Text → Marks → Marks
  | _, _, [] => []
  | reached, [], mark :: _ => [mark || reached]
  | reached, c :: text, mark :: marks =>
    (mark || reached) :: flood admits ((mark || reached) && admits c) text marks

/-! ## 2. Matching -/

/-- The positions a match can end at when it begins at one of `marks`. -/
def run (text : Text) : Pattern → Marks → Marks
  | empty, marks => marks
  | literal word, marks => word.foldl (fun marks c => advance (· == c) text marks) marks
  | chars set _, marks => advance set.contains text marks
  | assert condition, marks => keep condition none text marks
  | group _ body, marks => run text body marks
  | seq first second, marks => run text second (run text first marks)
  | alt first second, marks => either (run text first marks) (run text second marks)
  | rounds body min max _, marks =>
    let least := times (run text body) min marks
    match max, body with
    | none, chars set _ => flood set.contains false text least
    | none, _ => spread (run text body) (text.length + 1) least least
    | some most, _ => spread (run text body) (most - min) least least

/-- Some stretch of the text matches. -/
def occursIn (pattern : Pattern) (text : Text) : Bool :=
  (pattern.run text (everywhere text)).any id

@[simp] theorem run_empty (text : Text) (marks : Marks) : run text empty marks = marks := rfl

theorem run_literal (text word : Text) (marks : Marks) :
    run text (literal word) marks =
      word.foldl (fun marks c => advance (· == c) text marks) marks := rfl

theorem run_chars (text : Text) (set : CharSet) (ascii : Bool) (marks : Marks) :
    run text (chars set ascii) marks = advance set.contains text marks := rfl

@[simp] theorem run_group (text : Text) (index : Nat) (body : Pattern) (marks : Marks) :
    run text (group index body) marks = run text body marks := rfl

theorem run_seq (text : Text) (first second : Pattern) (marks : Marks) :
    run text (seq first second) marks = run text second (run text first marks) := rfl

theorem run_many (text : Text) (set : CharSet) (ascii : Bool) (lazy : Bool) (marks : Marks) :
    run text (rounds (chars set ascii) 0 none lazy) marks =
      flood set.contains false text marks := rfl

end Pattern
end QueryCache
