/-
QueryCache.Pattern.Bracketed — sets of characters in brackets.

Between brackets stand characters, ranges, escapes, named ASCII sets and
further brackets, and between those may stand `&&`, `--` and `~~`, which
are read from left to right and bind less than standing side by side.  A
set keeps count of how deep it is nested.
-/
import QueryCache.Pattern.Escape

namespace QueryCache.Pattern

open Unicode (CharSet)

/-- An operation between the sets of a class. -/
inductive SetOp where
  | inter
  | diff
  | symmDiff

def SetOp.apply : SetOp → CharSet → CharSet → CharSet
  | inter => CharSet.inter
  | diff => CharSet.diff
  | symmDiff => CharSet.symmDiff

/-- A set with the depth of its nesting. -/
structure ClassPart where
  set : CharSet
  depth : Nat

/-- A member of a class: a character, or a set of its own. -/
inductive ClassItem where
  | char (c : Char)
  | set (set : CharSet)

/-- One member of a class, before any range. -/
def readClassItem (flags : Flags) (fuel : Nat) : Text → Option (ClassItem × Text)
  | [] => none
  | '\\' :: rest => do
    match ← readEscape flags fuel rest with
    | (.char c, rest) => some (.char c, rest)
    | (.byte c, rest) => some (.char c, rest)
    | (.set set, rest) => some (.set set, rest)
    | (.assertion _, _) => none
  | c :: rest => some (.char c, rest)

/-- One member or range of a class. -/
def readClassRange (flags : Flags) (fuel : Nat) (text : Text) : Option (CharSet × Text) := do
  let (first, text) ← readClassItem flags fuel text
  let text := flags.skip text
  match text with
  | [] => none
  | c :: rest =>
    let next := (flags.skip rest).head?
    if c ≠ '-' ∨ next = some ']' ∨ next = some '-' then
      match first with
      | .char c => if flags.admits c then some (.single c, text) else none
      | .set set => some (set, text)
    else
      match first, ← readClassItem flags fuel (flags.skip rest) with
      | .char first, (.char last, rest) =>
        if first ≤ last ∧ flags.admits first ∧ flags.admits last then
          some (.range first last, rest)
        else none
      | _, _ => none

/-- A named class such as `[:alpha:]`, from its opening bracket: whether it
is negated, and the set of its name. -/
def readNamedClass : Text → Option ((Bool × CharSet) × Text)
  | '[' :: ':' :: rest => do
    let (negated, rest) := match rest with
      | '^' :: rest => (true, rest)
      | _ => (false, rest)
    let (name, after) ← Text.splitOnce ':' rest
    let set ← asciiClass? name
    match after with
    | ']' :: after => some ((negated, set), after)
    | _ => none
  | _ => none

/-- The start of a class after its bracket: whether it is negated, and the
hyphens or bracket that stand for themselves there. -/
def readClassStart (flags : Flags) (fuel : Nat) (text : Text) : Bool × List CharSet × Text :=
  let (negated, text) := match flags.skip text with
    | '^' :: rest => (true, flags.skip rest)
    | text => (false, text)
  let rec hyphens : Nat → Text → List CharSet × Text
    | fuel + 1, '-' :: rest =>
      let (items, rest) := hyphens fuel (flags.skip rest)
      (.single '-' :: items, rest)
    | _, text => ([], text)
  let (items, text) := hyphens fuel text
  match items, text with
  | [], ']' :: rest => (negated, [.single ']'], flags.skip rest)
  | _, _ => (negated, items, text)

/-- The union of the members of a class. -/
def unionOf (items : List ClassPart) : ClassPart :=
  match items with
  | [] => ⟨.empty, 0⟩
  | [item] => item
  | _ => ⟨.unions (items.map (·.set)), 1 + (items.map (·.depth)).foldl max 0⟩

/-- A class being read: the sets and operation to the left, and the
members since then, the last one first. -/
structure ClassFrame where
  left : Option (SetOp × ClassPart)
  items : List ClassPart

/-- Closes the members of a frame and joins them to what is on the left. -/
def ClassFrame.close (frame : ClassFrame) (flags : Flags) : ClassPart :=
  let right := unionOf frame.items.reverse
  match frame.left with
  | none => right
  | some (op, left) =>
    ⟨op.apply (flags.cased left.set) (flags.cased right.set), 1 + max left.depth right.depth⟩

/-- The members of a class up to its closing bracket; `negated` is the
class's own sign.  The result has the depth of the class.  At most `room`
classes may stand inside each other. -/
def readClass (flags : Flags) : (fuel : Nat) → (room : Nat) → (negated : Bool) → ClassFrame →
    Text → Option (ClassPart × Text)
  | 0, _, _, _, _ => none
  | fuel + 1, room, negated, frame, text =>
    let operator (op : SetOp) (rest : Text) :=
      readClass flags fuel room negated ⟨some (op, frame.close flags), []⟩ rest
    let push (part : ClassPart) (rest : Text) :=
      readClass flags fuel room negated { frame with items := part :: frame.items } rest
    match flags.skip text with
    | [] => none
    | ']' :: rest => do
      let whole := frame.close flags
      let set ← flags.signed? negated (flags.cased whole.set)
      some (⟨set, 1 + whole.depth⟩, rest)
    | '&' :: '&' :: rest => operator .inter rest
    | '-' :: '-' :: rest => operator .diff rest
    | '~' :: '~' :: rest => operator .symmDiff rest
    | '[' :: rest =>
      match readNamedClass ('[' :: rest), room with
      | some ((outside, set), rest), _ =>
        match flags.signed? outside (flags.cased set) with
        | some set => push ⟨set, 0⟩ rest
        | none => none
      | none, 0 => none
      | none, room + 1 =>
        let (innerNegated, items, rest) := readClassStart flags fuel rest
        match readClass flags fuel room innerNegated ⟨none, (items.map (⟨·, 0⟩)).reverse⟩ rest with
        | some (inner, rest) =>
          readClass flags fuel (room + 1) negated { frame with items := inner :: frame.items } rest
        | none => none
    | c :: rest =>
      match readClassRange flags fuel (c :: rest) with
      | some (set, rest) => push ⟨set, 0⟩ rest
      | none => none

/-- A bracketed class, after its opening bracket; no text longer than
`fuel` is read. -/
def readBracketed (flags : Flags) (fuel : Nat) (text : Text) : Option (ClassPart × Text) :=
  let (negated, items, rest) := readClassStart flags fuel text
  readClass flags fuel nestingLimit negated
    ⟨none, (items.map (⟨·, 0⟩)).reverse⟩ rest

end QueryCache.Pattern
