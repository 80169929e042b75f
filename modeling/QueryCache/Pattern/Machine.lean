/-
QueryCache.Pattern.Machine — the machines that search for a pattern.

A search reads the text with two machines, one forward and one backward,
and a pattern is of use only when both stay within the size limit.  No
machine is built here: `grow` counts the states of a pattern behind what
has grown already, in the order in which a machine numbers them, since the
states of sets are shared by number.  A repetition is written out, so the
count stops as soon as the limit is passed.
-/
import QueryCache.Pattern.Build
import QueryCache.Pattern.Machine.Chars
import QueryCache.Pattern.Machine.Words

namespace QueryCache.Pattern

open Machine (Direction Size linkBytes wayBytes growTimes)

/-! ## 1. Reading backward -/

/-- The pattern in front of what follows it. -/
def followedBy (pattern : Pattern) : Option Pattern → Pattern
  | none => pattern
  | some rest => seq pattern rest

/-- The parts of a pattern in the opposite order, in front of what follows
them. -/
def backwardOnto : Pattern → Option Pattern → Pattern
  | seq first second, rest => second.backwardOnto (some (first.backwardOnto rest))
  | group index body, rest => (group index (body.backwardOnto none)).followedBy rest
  | alt first second, rest =>
    (alt (first.backwardOnto none) (second.backwardOnto none)).followedBy rest
  | rounds body min max lazy, rest =>
    (rounds (body.backwardOnto none) min max lazy).followedBy rest
  | part, rest => part.followedBy rest

/-- The pattern as a machine in this direction comes upon its parts. -/
def facing (direction : Direction) (pattern : Pattern) : Pattern :=
  match direction with
  | .forward => pattern
  | .backward => pattern.backwardOnto none

/-! ## 2. Growing -/

/-- The last state of the machine takes a link for what comes next. -/
def endsOpen (direction : Direction) : Pattern → Bool
  | group _ body => direction == .backward && body.endsOpen direction
  | seq _ second => second.endsOpen direction
  | rounds body min max _ =>
    match max with
    | none => min != 0 || (body.takesText && body.isInhabited)
    | some most => min == most && body.endsOpen direction
  | _ => false

/-- The bytes of the link to what comes next. -/
def nextBytes (direction : Direction) (pattern : Pattern) : Nat :=
  if pattern.endsOpen direction then linkBytes else 0

/-- The words of the alternatives behind those found before, the last one
first, when all alternatives are words. -/
def pushWords : Pattern → List Text → Option (List Text)
  | alt (literal word) rest, words => rest.pushWords (word :: words)
  | literal word, words => some (word :: words)
  | _, _ => none

/-- The words, when all alternatives are words. -/
def words? (pattern : Pattern) : Option (List Text) :=
  (pattern.pushWords []).map List.reverse

/-- Which of its alternatives a chain of alternatives begins with. -/
inductive Place where
  | first
  | second
  | later
deriving DecidableEq, Repr

/-- The states of a pattern behind what has grown already. -/
def grow (direction : Direction) : Pattern → Place → Size → Option Size
  | empty, _, size => size.grow 1 0
  | literal text, _, size => size.grow (Utf8.encode text).length 0
  | chars set _, _, size => Machine.growChars direction set size
  | assert _, _, size => size.grow 1 0
  | group _ body, _, size =>
    match direction with
    | .forward => do
      let size ← size.grow 1 0
      let size ← body.grow direction .first size
      size.grow 1 (body.nextBytes direction)
    | .backward => body.grow direction .first size
  | seq first second, _, size => do
    let size ← first.grow direction .first size
    let size ← size.grow 0 (first.nextBytes direction)
    second.grow direction .first size
  | alt first second, place, size =>
    match (if place = .first then (alt first second).words? else none) with
    | some words => Machine.growWords direction (words.map Utf8.encode) size
    | none => do
      -- the fork and the join of a choice come behind its second alternative
      let size ← first.grow direction .first size
      let size ← size.grow (if place = .second then 2 else 0)
        (linkBytes + first.nextBytes direction)
      match second with
      | alt _ _ => second.grow direction (if place = .first then .second else .later) size
      | _ => do
        let size ← second.grow direction .first size
        size.grow (if place = .first then 2 else 0) (linkBytes + second.nextBytes direction)
  | rounds body min max _, _, size =>
    let round := body.grow direction .first
    let next := body.nextBytes direction
    let exactly (count : Nat) (size : Size) : Option Size := do
      let size ← round size
      growTimes (fun size => do round (← size.grow 0 next)) (count - 1) size
    match min, max with
    | 0, none =>
      if body.takesText && body.isInhabited then do
        let size ← round (← size.grow 1 linkBytes)
        size.grow 0 next
      else do
        let size ← round size
        size.grow 3 (next + 4 * linkBytes)
    | 0, some 1 => do
      let size ← round (← size.grow 1 (2 * linkBytes))
      size.grow 1 next
    | min, none => do
      let size ← exactly min size
      size.grow 1 (next + linkBytes)
    | min, some max =>
      if min = max then if min = 0 then size.grow 1 0 else exactly min size
      else do
        let size ← if min = 0 then size.grow 1 0 else exactly min size
        let size ← size.grow 1 (if min = 0 then 0 else next)
        growTimes (fun size => do
          let size ← round (← size.grow 1 (2 * linkBytes))
          size.grow 0 next) (max - min) size

/-! ## 3. The whole machine -/

/-- The size of the machine in one direction, if it stays within the limit.
A machine that may begin anywhere first passes over any bytes. -/
def machineSize? (pattern : Pattern) (direction : Direction) : Option Size := do
  let whole := group 0 (pattern.facing direction)
  let anchor : Assertion := match direction with
    | .forward => .textStart
    | .backward => .textEnd
  let size ← if whole.beginsWith anchor then Size.zero.grow 1 0
    else Size.zero.grow 3 (2 * linkBytes + wayBytes)
  let size ← whole.grow direction .first size
  size.grow 1 (whole.nextBytes direction)

/-- Both machines of the pattern stay within the limit. -/
def hasMachines (pattern : Pattern) : Bool :=
  (pattern.machineSize? .forward).isSome && (pattern.machineSize? .backward).isSome

end QueryCache.Pattern
