/-
QueryCache.Filter.TopLevel — lists whose items may hold brackets and
quotes.

A text is cut at the commas that stand outside brackets and double
quotes.  Any closing bracket closes any opening one; inside quotes
brackets mean nothing.  The text is refused when a bracket closes more
than was opened, when one stays open, or when it ends inside quotes.
-/
import QueryCache.Select.ParseError

namespace QueryCache.TopLevel

/-- A bracket that opens. -/
def opens (c : Char) : Bool :=
  c == '(' || c == '\x7b' || c == '['

/-- A bracket that closes. -/
def closes (c : Char) : Bool :=
  c == ')' || c == '\x7d' || c == ']'

/-- Where the cut stands: outside quotes or inside them, and within how
many brackets. -/
structure Nesting where
  depth : Nat := 0
  quoted : Bool := false
deriving DecidableEq

/-- The nesting behind a character; none when it closes too much. -/
def Nesting.step (nesting : Nesting) (c : Char) : Option Nesting :=
  if c = '"' then some { nesting with quoted := !nesting.quoted }
  else if nesting.quoted then some nesting
  else if opens c then some { nesting with depth := nesting.depth + 1 }
  else if closes c then
    if nesting.depth = 0 then none else some { nesting with depth := nesting.depth - 1 }
  else some nesting

/-- Nothing is open. -/
def Nesting.isClosed (nesting : Nesting) : Bool :=
  nesting.depth == 0 && !nesting.quoted

/-- A comma that separates items. -/
def Nesting.separates (nesting : Nesting) (c : Char) : Bool :=
  c == ',' && nesting.isClosed

/-- What cannot be cut: a bracket closes too much at a byte position, or
something stays open. -/
inductive Failure where
  | closesTooMuch (position : Nat)
  | staysOpen
deriving DecidableEq

/-- The items with their byte positions.  `index` is the position of the
next character, `start` that of the current item, `item` what has been
read of it, last character first. -/
def cut (nesting : Nesting) (index start : Nat) (item : Text) :
    Text → Except Failure (List (Nat × Text))
  | [] => if nesting.isClosed then .ok [(start, item.reverse)] else .error .staysOpen
  | c :: rest =>
    let after := index + c.utf8Size
    if nesting.separates c then
      (cut nesting after after [] rest).map ((start, item.reverse) :: ·)
    else
      match nesting.step c with
      | some nesting => cut nesting after start (c :: item) rest
      | none => .error (.closesTooMuch index)

/-- The items of a list with their byte positions; `offset` is the place
of the list. -/
def split (text : Text) (offset : Nat) : Except ParseError (List (Nat × Text)) :=
  (cut {} 0 0 [] text).mapError fun
    | .closesTooMuch position => .inText .unbalancedParentheses text (offset + position)
    | .staysOpen => .inText .missingClosingParenthesis text offset

end QueryCache.TopLevel
