/-
QueryCache.Text.Basic — text as a list of characters, and the cuts the
rest of the library makes in it.

Clauses, keys and patterns are read character by character, so a text is
the list of its characters and its order is the lexicographic order of
code points.  A cut at a separator loses nothing: `join_splitOn` puts
the parts together again.
-/
import QueryCache.Unicode.Alphanumeric
import QueryCache.Unicode.Blank

namespace QueryCache

/-- A text is the list of its characters. -/
abbrev Text := List Char

instance : Coe String Text := ⟨String.toList⟩

namespace Text

/-! ## 1. Cutting and joining -/

/-- The parts between the occurrences of `sep`; there is always at least
one part. -/
def splitOn (sep : Char) : Text → List Text
  | [] => [[]]
  | c :: cs =>
    if c = sep then [] :: splitOn sep cs
    else match splitOn sep cs with
      | [] => [[c]]
      | part :: parts => (c :: part) :: parts

/-- The parts with `sep` written between them. -/
def join (sep : Char) : List Text → Text
  | [] => []
  | [part] => part
  | part :: parts => part ++ sep :: join sep parts

/-- The text before and after the first `sep`. -/
def splitOnce (sep : Char) : Text → Option (Text × Text)
  | [] => none
  | c :: cs =>
    if c = sep then some ([], cs)
    else (splitOnce sep cs).map fun (before, after) => (c :: before, after)

/-- The text before the first `sep`, all of it when there is none. -/
def upTo (sep : Char) (text : Text) : Text :=
  text.takeWhile (· ≠ sep)

/-- The text before the first `::`, all of it when there is none. -/
def upToCast : Text → Text
  | ':' :: ':' :: _ => []
  | [] => []
  | c :: cs => c :: upToCast cs

theorem splitOn_ne_nil (sep : Char) (text : Text) : splitOn sep text ≠ [] := by
  cases text with
  | nil => simp [splitOn]
  | cons c cs =>
    simp only [splitOn]
    split
    · simp
    · split <;> simp

theorem join_cons {part : Text} {parts : List Text} {sep : Char} (h : parts ≠ []) :
    join sep (part :: parts) = part ++ sep :: join sep parts := by
  cases parts with
  | nil => exact absurd rfl h
  | cons p ps => rfl

theorem join_splitOn (sep : Char) (text : Text) : join sep (splitOn sep text) = text := by
  induction text with
  | nil => rfl
  | cons c cs ih =>
    simp only [splitOn]
    split
    · rename_i h
      rw [join_cons (splitOn_ne_nil sep cs), ih, h]; rfl
    · split
      · rename_i h; exact absurd h (splitOn_ne_nil sep cs)
      · rename_i part parts h
        rw [h] at ih
        cases parts with
        | nil => simpa [join] using ih
        | cons p ps => simpa [join] using ih

theorem append_of_splitOnce {sep : Char} {text before after : Text}
    (h : splitOnce sep text = some (before, after)) : text = before ++ sep :: after := by
  induction text generalizing before after with
  | nil => simp [splitOnce] at h
  | cons c cs ih =>
    simp only [splitOnce] at h
    split at h
    · rename_i hc; simp only [Option.some.injEq, Prod.mk.injEq] at h; simp [← h.1, ← h.2, hc]
    · obtain ⟨⟨b, a⟩, hba, heq⟩ := Option.map_eq_some_iff.1 h
      simp only [Prod.mk.injEq] at heq
      rw [← heq.1, ← heq.2, ih hba]; rfl

/-! ## 2. Ends and containment -/

/-- Without the white space at both ends. -/
def trim (text : Text) : Text :=
  ((text.dropWhile Unicode.isBlank).reverse.dropWhile Unicode.isBlank).reverse

/-- What follows `start`, when the text begins with it. -/
def stripStart (start text : Text) : Option Text :=
  start.isPrefixOf? text

/-- What precedes `stop`, when the text ends with it. -/
def stripEnd (stop text : Text) : Option Text :=
  stop.isSuffixOf? text

/-- What stands between `opening` and `closing`, when the text begins
with the one and, after it, ends with the other. -/
def between (opening closing : Char) (text : Text) : Option Text :=
  (stripStart [opening] text).bind (stripEnd [closing])

/-- `needle` occurs somewhere in the text. -/
def contains (needle : Text) : Text → Bool
  | [] => needle.isEmpty
  | c :: cs => needle.isPrefixOf (c :: cs) || contains needle cs

/-- The cuts of a text at every occurrence of the separator `sep`, read
from the left.  The empty separator stands before every character and at
the end. -/
def splitOnText (sep text : Text) : List Text :=
  match sep with
  | [] => [] :: text.map ([·]) ++ [[]]
  | s :: ss => go (s :: ss) 0 [] text
where
  /-- `skip` characters still belong to the separator just met; `part` is
  the current part, reversed. -/
  go (sep : Text) (skip : Nat) (part : Text) : Text → List Text
  | [] => [part.reverse]
  | c :: cs =>
    match skip with
    | n + 1 => go sep n part cs
    | 0 =>
      if sep.isPrefixOf (c :: cs) then part.reverse :: go sep (sep.length - 1) [] cs
      else go sep 0 (c :: part) cs

/-- The parts with the text `sep` written between them. -/
def joinText (sep : Text) (parts : List Text) : Text :=
  List.flatten (parts.intersperse sep)

/-! ## 3. Measures and digits -/

/-- The number of bytes of the text in UTF-8. -/
def byteSize : Text → Nat
  | [] => 0
  | c :: rest => c.utf8Size + byteSize rest

/-- The value of a run of decimal digits. -/
def digitsValue (digits : Text) : Nat :=
  digits.foldl (fun n c => 10 * n + (c.toNat - '0'.toNat)) 0

/-- The value of a hexadecimal digit. -/
def hexDigit? (c : Char) : Option Nat :=
  if '0' ≤ c ∧ c ≤ '9' then some (c.toNat - '0'.toNat)
  else if 'a' ≤ c ∧ c ≤ 'f' then some (c.toNat - 'a'.toNat + 10)
  else if 'A' ≤ c ∧ c ≤ 'F' then some (c.toNat - 'A'.toNat + 10)
  else none

/-- The value of a run of hexadecimal digits. -/
def hexValue? (digits : Text) : Option Nat :=
  digits.foldlM (fun n c => (hexDigit? c).map (16 * n + ·)) 0

/-- A natural number in decimal digits. -/
def ofNat (n : Nat) : Text :=
  Nat.toDigits 10 n

/-- An ASCII digit. -/
def isDigit (c : Char) : Bool :=
  '0' ≤ c && c ≤ '9'

end Text
end QueryCache
