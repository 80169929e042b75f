/-
QueryCache.Pattern.Build — patterns in their simplest form.

Parts are put together so that a sequence holds no sequence, no empty part
and no two literals side by side; one of several characters or sets is one
set; alternatives share no first part; and what can only match nothing is
repeated at most once.  `run_concat` says that a sequence built this way
runs its parts one after the other.
-/
import QueryCache.Pattern.Basic
import QueryCache.Unicode.Folding

namespace QueryCache.Pattern

open Unicode (CharSet)

/-! ## 1. What a pattern needs -/

/-- Every match is empty. -/
def matchesOnlyEmpty : Pattern → Bool
  | empty => true
  | literal text => text.isEmpty
  | chars _ _ => false
  | assert _ => true
  | group _ body => body.matchesOnlyEmpty
  | seq first second => first.matchesOnlyEmpty && second.matchesOnlyEmpty
  | alt first second => first.matchesOnlyEmpty && second.matchesOnlyEmpty
  | rounds body _ max _ => max.isSome && (max == some 0 || body.matchesOnlyEmpty)

/-- No part is an empty set, which nothing matches. -/
def isInhabited : Pattern → Bool
  | chars set _ => !set.isEmpty
  | group _ body => body.isInhabited
  | seq first second => first.isInhabited && second.isInhabited
  | alt first second => first.isInhabited && second.isInhabited
  | rounds body _ _ _ => body.isInhabited
  | _ => true

/-- Every way through the parts takes a character. -/
def takesText : Pattern → Bool
  | empty => false
  | literal text => !text.isEmpty
  | chars _ _ => true
  | assert _ => false
  | group _ body => body.takesText
  | seq first second => first.takesText || second.takesText
  | alt first second => first.takesText && second.takesText
  | rounds body min _ _ => min != 0 && body.takesText

/-- The condition must hold where a match begins. -/
def beginsWith (condition : Assertion) : Pattern → Bool
  | assert other => other == condition
  | group _ body => body.beginsWith condition
  | seq first second =>
    first.beginsWith condition || (first.matchesOnlyEmpty && second.beginsWith condition)
  | alt first second => first.beginsWith condition && second.beginsWith condition
  | rounds body min _ _ => min != 0 && body.beginsWith condition
  | _ => false

/-! ## 2. Sequences -/

/-- The parts of a pattern in front of others, the last part first. -/
def pushParts : Pattern → List Pattern → List Pattern
  | seq first second, parts => pushParts second (pushParts first parts)
  | empty, parts => parts
  | part, parts => part :: parts

/-- The parts of a sequence in order. -/
def parts (pattern : Pattern) : List Pattern :=
  (pattern.pushParts []).reverse

/-- One part in front of what follows it; literals grow together. -/
def prependPart : Option Pattern → Pattern → Option Pattern
  | none, part => some part
  | some (literal more), literal text => some (literal (text ++ more))
  | some (seq (literal more) rest), literal text => some (seq (literal (text ++ more)) rest)
  | some rest, part => some (seq part rest)

/-- One pattern after the other. -/
def concat (patterns : List Pattern) : Pattern :=
  ((patterns.foldl (fun done part => part.pushParts done) []).foldl prependPart none).getD empty

/-- The parts run one after the other. -/
def runAll (text : Text) (parts : List Pattern) (marks : Marks) : Marks :=
  parts.foldl (fun marks part => run text part marks) marks

theorem runAll_append (text : Text) (a b : List Pattern) (marks : Marks) :
    runAll text (a ++ b) marks = runAll text b (runAll text a marks) := by
  simp [runAll, List.foldl_append]

theorem runAll_pushParts (text : Text) (pattern : Pattern) (done : List Pattern) (marks : Marks) :
    runAll text (pattern.pushParts done).reverse marks =
      run text pattern (runAll text done.reverse marks) := by
  induction pattern generalizing done with
  | seq first second ih₁ ih₂ => rw [pushParts, ih₂, ih₁, run_seq]
  | empty => rfl
  | _ => simp [pushParts, runAll]

theorem run_prependPart (text : Text) (rest : Option Pattern) (part : Pattern) (marks : Marks) :
    run text ((prependPart rest part).getD empty) marks =
      run text (rest.getD empty) (run text part marks) := by
  unfold prependPart
  split
  · rfl
  · simp [run_literal, List.foldl_append]
  · simp [run_seq, run_literal, List.foldl_append]
  · rfl

theorem run_foldl_prependPart (text : Text) (done : List Pattern) (rest : Option Pattern)
    (marks : Marks) :
    run text ((done.foldl prependPart rest).getD empty) marks =
      run text (rest.getD empty) (runAll text done.reverse marks) := by
  induction done generalizing rest with
  | nil => rfl
  | cons part more ih =>
    rw [List.foldl_cons, ih, run_prependPart, List.reverse_cons, runAll_append]
    rfl

/-- A sequence runs its parts one after the other. -/
theorem run_concat (text : Text) (patterns : List Pattern) (marks : Marks) :
    run text (concat patterns) marks = runAll text patterns marks := by
  have push : ∀ (patterns done : List Pattern),
      runAll text (patterns.foldl (fun done part => part.pushParts done) done).reverse marks =
        runAll text patterns (runAll text done.reverse marks) := by
    intro patterns
    induction patterns with
    | nil => exact fun _ => rfl
    | cons part more ih =>
      intro done
      rw [List.foldl_cons, ih, runAll_pushParts]
      rfl
  rw [concat, run_foldl_prependPart, push]
  rfl

/-! ## 3. Sets and repetitions -/

/-- One character of a set. -/
def ofSet (set : CharSet) (ascii : Bool) : Pattern :=
  if set.isEmpty then chars .empty true
  else
    match set.only? with
    | some c => literal [c]
    | none => chars set ascii

/-- A character, in either case if wanted. -/
def char (ignoreCase : Bool) (c : Char) : Pattern :=
  if ignoreCase then
    match Unicode.orbit c with
    | [_] => literal [c]
    | orbit => chars (CharSet.insertAll .empty (orbit.map Char.toNat)) false
  else literal [c]

/-- A pattern repeated: what matches only nothing needs no second round,
and one round is the pattern itself. -/
def repeated (body : Pattern) (min : Nat) (max : Option Nat) (lazy : Bool) : Pattern :=
  let (min, max) :=
    if body.matchesOnlyEmpty then (Nat.min min 1, some ((max.map (Nat.min · 1)).getD 1))
    else (min, max)
  if min = 0 ∧ max = some 0 then empty
  else if min = 1 ∧ max = some 1 then body
  else rounds body min max lazy

/-- Any run of characters of the set. -/
def many (set : CharSet) : Pattern :=
  rounds (chars set false) 0 none false

/-! ## 4. Alternatives -/

/-- The alternatives of a pattern in front of others, the last one first. -/
def pushChoices : Pattern → List Pattern → List Pattern
  | alt first second, choices => pushChoices second (pushChoices first choices)
  | choice, choices => choice :: choices

/-- One of several alternatives, given with the last one first. -/
def chooseReversed : List Pattern → Pattern
  | [] => chars .empty true
  | last :: others => others.foldl (fun rest choice => alt choice rest) last

/-- The set that the alternatives make up when all of them are characters,
or all of them are sets. -/
def setOf? (choices : List Pattern) : Option CharSet :=
  match choices.mapM (fun choice : Pattern => match choice with
    | literal [c] => some c.toNat
    | _ => none) with
  | some codes => some (CharSet.insertAll .empty codes)
  | none => (choices.mapM fun choice : Pattern => match choice with
    | chars set _ => some set
    | _ => none).map CharSet.unions

/-- One of several alternatives, none of them with alternatives of its own;
the last one stands first. -/
def chooseFlat (reversed : List Pattern) : Pattern :=
  match reversed with
  | [choice] => choice
  | _ =>
    match setOf? reversed with
    | some set => ofSet set false
    | none => chooseReversed reversed

/-- The beginning that two lists share. -/
def sharedBeginning : List Pattern → List Pattern → List Pattern
  | a :: as, b :: bs => if a = b then a :: sharedBeginning as bs else []
  | _, _ => []

/-- The first parts that all alternatives share, when each of them is a
sequence. -/
def sharedParts (choices : List Pattern) : List Pattern :=
  match choices with
  | seq first second :: others =>
    others.foldl
      (fun shared choice => match choice with
        | seq first second => sharedBeginning shared (seq first second).parts
        | _ => [])
      (seq first second).parts
  | _ => []

/-- One of several alternatives: first what all of them begin with, then
the choice between what is left of each. -/
def oneOf (alternatives : List Pattern) : Pattern :=
  let choices := alternatives.foldl (fun done choice => choice.pushChoices done) []
  match setOf? choices, sharedParts choices with
  | none, shared@(_ :: _) =>
    let rests := choices.map fun choice => concat (choice.parts.drop shared.length)
    let choices := rests.reverse.foldl (fun done choice => choice.pushChoices done) []
    concat (shared ++ [chooseFlat choices])
  | _, _ => chooseFlat choices

end QueryCache.Pattern
