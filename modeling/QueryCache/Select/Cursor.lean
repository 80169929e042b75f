/-
QueryCache.Select.Cursor — a place in a select clause.

The cursor stands in front of a character or behind the last one, and
knows how many nested clauses it is in.  Its steps move it forward over
the text; what is left to read never grows.
-/
import QueryCache.Select.ParseError

namespace QueryCache

/-- A place in a clause and the depth of nesting there. -/
structure Cursor where
  text : Text
  position : Nat := 0
  depth : Nat := 0
deriving DecidableEq

namespace Cursor

/-! ## 1. Looking -/

/-- The text still to read. -/
def rest (c : Cursor) : Text :=
  c.text.drop c.position

/-- How many characters are still to read. -/
def remaining (c : Cursor) : Nat :=
  c.text.length - c.position

/-- Nothing is left to read. -/
def atEnd (c : Cursor) : Bool :=
  c.text.length ≤ c.position

/-- The next character, the null character behind the end. -/
def current (c : Cursor) : Char :=
  c.text[c.position]?.getD '\x00'

/-- The text between two positions. -/
def range (c : Cursor) (start stop : Nat) : Text :=
  (c.text.take stop).drop start

/-- The text from a position up to the cursor. -/
def since (c : Cursor) (pivot : Nat) : Text :=
  c.range pivot c.position

/-- An error about the text from `pivot` to the next character. -/
def error (c : Cursor) (cause : ParseError.Cause) (pivot : Nat) : ParseError :=
  ⟨cause, c.range pivot (c.position + 1), pivot, c.position⟩

/-! ## 2. Moving -/

/-- Behind the next `count` characters. -/
def forward (c : Cursor) (count : Nat) : Cursor :=
  { c with position := c.position + count }

/-- Behind the next character. -/
def next (c : Cursor) : Cursor :=
  c.forward 1

/-- Behind the characters that satisfy `p`. -/
def skipWhile (p : Char → Bool) (c : Cursor) : Cursor :=
  c.forward (c.rest.takeWhile p).length

/-- Behind white space. -/
def skipBlanks (c : Cursor) : Cursor :=
  c.skipWhile Unicode.isBlank

/-- Ahead by `count` characters, but not beyond the last one. -/
def jump (c : Cursor) (count : Nat) : Cursor :=
  { c with
    position :=
      if c.position + count < c.text.length then c.position + count else c.text.length - 1 }

/-- Into a nested clause. -/
def enter (c : Cursor) : Cursor :=
  { c with position := c.position + 1, depth := c.depth + 1 }

/-- Out of a nested clause. -/
def leave (c : Cursor) : Cursor :=
  { c with position := c.position + 1, depth := c.depth - 1 }

/-! ## 3. What is left never grows -/

theorem length_rest (c : Cursor) : c.rest.length = c.remaining := by
  simp [rest, remaining]

theorem remaining_forward (c : Cursor) (count : Nat) :
    (c.forward count).remaining = c.remaining - count := by
  simp only [remaining, forward]; omega

theorem remaining_next (c : Cursor) : c.next.remaining = c.remaining - 1 :=
  remaining_forward c 1

theorem remaining_skipBlanks_le (c : Cursor) : c.skipBlanks.remaining ≤ c.remaining := by
  simp only [skipBlanks, skipWhile, remaining_forward]; omega

theorem remaining_enter (c : Cursor) : c.enter.remaining = c.remaining - 1 := by
  simp only [remaining, enter]; omega

theorem remaining_leave (c : Cursor) : c.leave.remaining = c.remaining - 1 := by
  simp only [remaining, leave]; omega

/-- Text met by the cursor is taken off what remains. -/
theorem remaining_skipWhile_lt {p : Char → Bool} {c : Cursor}
    (h : c.rest.takeWhile p ≠ []) : (c.skipWhile p).remaining < c.remaining := by
  have hpos : 0 < (c.rest.takeWhile p).length := List.length_pos_iff.2 h
  have hle : (c.rest.takeWhile p).length ≤ c.rest.length :=
    (List.takeWhile_sublist p).length_le
  rw [length_rest] at hle
  simp only [skipWhile, remaining_forward]
  omega

/-- The text passed over is the text between the two positions. -/
theorem since_skipWhile (p : Char → Bool) (c : Cursor) :
    (c.skipWhile p).since c.position = c.rest.takeWhile p := by
  have key : ∀ l : Text, l.take (l.takeWhile p).length = l.takeWhile p := by
    intro l
    induction l with
    | nil => rfl
    | cons x xs ih =>
      by_cases hx : p x <;> simp [hx, ih]
  simp only [since, range, skipWhile, forward, rest]
  rw [List.drop_take, Nat.add_sub_cancel_left, key]

end Cursor
end QueryCache
