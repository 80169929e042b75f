/-
QueryCache.Pattern.Beginnings — the bytes with which matches begin.

`Pattern.beginnings` collects a few byte strings, in order of preference,
one of which every match begins with; there are none of use when matches
may begin with too many.  A beginning is whole when nothing follows it in
a match, so a pattern whose beginnings are all whole matches them and
nothing else.  `refined` keeps those that make a quick search.
-/
import QueryCache.Pattern.Basic
import QueryCache.Unicode.Utf8

namespace QueryCache.Pattern

open Unicode (CharSet)

/-! ## 1. Beginnings -/

/-- The bytes with which some matches begin. -/
structure Beginning where
  bytes : List Nat
  /-- Such a match has no further bytes. -/
  whole : Bool
deriving DecidableEq

/-- The beginnings of all matches, the preferred ones first; none when
matches may begin with anything. -/
abbrev Beginnings := Option (List Beginning)

/-- The match without bytes. -/
def nothing : Beginning := ⟨[], true⟩

/-- The first `count` bytes. -/
def Beginning.cut (count : Nat) (beginning : Beginning) : Beginning :=
  if beginning.bytes.length ≤ count then beginning
  else ⟨beginning.bytes.take count, false⟩

/-- More bytes may follow. -/
def Beginning.opened (beginning : Beginning) : Beginning :=
  { beginning with whole := false }

/-- The most characters of a set that count one by one. -/
def charLimit : Nat := 10

/-- The most rounds of a repetition that count. -/
def roundLimit : Nat := 10

/-- The most bytes of a beginning. -/
def byteLimit : Nat := 100

/-- The most beginnings. -/
def beginningLimit : Nat := 250

/-- One beginning in front of the others, as one with the next if that has
the same bytes. -/
def prependBeginning (beginning : Beginning) : List Beginning → List Beginning
  | next :: rest =>
    if beginning.bytes = next.bytes then
      ⟨next.bytes, beginning.whole && next.whole⟩ :: rest
    else beginning :: next :: rest
  | [] => [beginning]

/-- The beginnings with those of the same bytes that stand side by side
made one; it is whole if all of them are. -/
def joined (beginnings : List Beginning) : List Beginning :=
  beginnings.foldr prependBeginning []

namespace Beginnings

/-- More bytes may follow any of the beginnings. -/
def opened (beginnings : Beginnings) : Beginnings :=
  beginnings.map (·.map Beginning.opened)

/-- More bytes follow, or may follow, every beginning. -/
def isOpen (beginnings : Beginnings) : Bool :=
  beginnings.all (·.all (!·.whole))

/-- Every beginning has at most so many bytes. -/
def cut (count : Nat) (beginnings : Beginnings) : Beginnings :=
  beginnings.map (·.map (Beginning.cut count))

/-- The beginnings of what may be either. -/
def or : Beginnings → Beginnings → Beginnings
  | some a, some b =>
    if a.length + b.length ≤ beginningLimit then some (joined (a ++ b))
    else
      let a := joined (a.map (Beginning.cut 4))
      let b := joined (b.map (Beginning.cut 4))
      if a.length + b.length ≤ beginningLimit then some (joined (a ++ b)) else none
  | _, _ => none

/-- The beginnings of one thing after another. -/
def and (first second : Beginnings) : Beginnings :=
  let crossed : Beginnings :=
    match first, second with
    | none, _ => none
    | some a, second =>
      match second.filter fun b => a.length * b.length ≤ beginningLimit with
      | none =>
        if a.any (·.bytes.isEmpty) then none else some (a.map Beginning.opened)
      | some b =>
        some (joined (a.flatMap fun x =>
          if x.whole then b.map fun y => ⟨x.bytes ++ y.bytes, y.whole⟩ else [x]))
  crossed.cut byteLimit

/-- What comes next adds nothing once all beginnings are open. -/
def andThen (first second : Beginnings) : Beginnings :=
  if first.isOpen then first else first.and second

/-- The beginnings of `count` rounds. -/
def rounds (round : Beginnings) : (count : Nat) → Beginnings → Beginnings
  | 0, before => before
  | count + 1, before =>
    if before.isOpen then before else rounds round count (before.and round)

/-- The beginnings of a character of the set. -/
def ofSet (set : CharSet) : Beginnings :=
  if (set.ranges.map fun range => range.2 + 1 - range.1).foldl (· + ·) 0 ≤ charLimit then
    some (set.ranges.flatMap fun range =>
      (List.range' range.1 (range.2 + 1 - range.1)).map fun n =>
        ⟨Utf8.encodeChar (Char.ofNat n), true⟩)
  else none

/-- The beginnings of a text. -/
def ofText (text : Text) : Beginnings :=
  some [Beginning.cut byteLimit ⟨Utf8.encode text, true⟩]

end Beginnings

/-! ## 2. The beginnings of a pattern -/

/-- How a pattern is related to what has been read before. -/
inductive Link where
  | after
  | instead
deriving DecidableEq, Repr

/-- The beginnings so far with those of what is linked to them. -/
def Link.join (link : Link) (before own : Beginnings) : Beginnings :=
  match link with
  | after => before.andThen own
  | instead => before.or own

/-- The beginnings so far with those of the pattern linked to them. -/
def extendBeginnings : Pattern → Link → Beginnings → Beginnings
  | empty, link, before => link.join before (some [nothing])
  | literal text, link, before => link.join before (.ofText text)
  | chars set _, link, before => link.join before (.ofSet set)
  | assert _, link, before => link.join before (some [nothing])
  | group _ body, link, before =>
    link.join before (body.extendBeginnings .after (some [nothing]))
  | seq first second, .after, before =>
    if before.isOpen then before
    else second.extendBeginnings .after (first.extendBeginnings .after before)
  | seq first second, .instead, before =>
    before.or (second.extendBeginnings .after
      (first.extendBeginnings .after (some [nothing])))
  | alt first second, .after, before =>
    before.andThen (second.extendBeginnings .instead
      (first.extendBeginnings .instead (some [])))
  | alt first second, .instead, before =>
    if before.isNone then none
    else second.extendBeginnings .instead (first.extendBeginnings .instead before)
  | rounds body min max lazy, link, before =>
    let round := body.extendBeginnings .after (some [nothing])
    link.join before <|
      if min = 0 then
        let round := if max = some 1 then round else round.opened
        if lazy then Beginnings.or (some [nothing]) round else round.or (some [nothing])
      else
        let few := Beginnings.rounds round (Nat.min min roundLimit) (some [nothing])
        if max = some min ∧ min ≤ roundLimit then few else few.opened

/-- The beginnings of the pattern's matches. -/
def beginnings (pattern : Pattern) : Beginnings :=
  pattern.extendBeginnings .after (some [nothing])

/-! ## 3. Beginnings to search for -/

/-- The beginnings that start with no other one before them. -/
def dropCovered (beginnings : List Beginning) : List Beginning :=
  beginnings.foldl
    (fun kept next =>
      if kept.any (·.bytes.isPrefixOf next.bytes) then kept else kept ++ [next])
    []

/-- The bytes that both lists begin with. -/
def commonStart : List Nat → List Nat → List Nat
  | a :: as, b :: bs => if a = b then a :: commonStart as bs else []
  | _, _ => []

/-- The bytes that all beginnings share. -/
def sharedStart : List Beginning → List Nat
  | [] => []
  | first :: rest => rest.foldl (fun shared next => commonStart shared next.bytes) first.bytes

/-- Bytes that few texts hold often. -/
def isRareByte (byte : Nat) : Bool :=
  Unicode.Ranges.containsCode
    [(0, 9), (11, 12), (14, 31), (33, 39), (42, 43), (51, 56), (59, 94), (96, 96), (106, 107),
      (113, 113), (119, 119), (122, 123), (125, 127), (133, 143), (145, 176), (178, 180),
      (184, 184), (190, 190)] byte

/-- Bytes that nearly every text holds: the blank, `e` and `t`, and those
with which characters beyond ASCII begin. -/
def isCommonByte (byte : Nat) : Bool :=
  byte = 0x20 || byte = 0x65 || byte = 0x74 || 0xC0 ≤ byte

/-- Nearly every text holds the beginning. -/
def Beginning.isEverywhere (beginning : Beginning) : Bool :=
  match beginning.bytes with
  | [] => true
  | [byte] => isCommonByte byte
  | _ => false

/-- Cuts beginnings while they are too many: to so many bytes if there are
more than so many. -/
def shortened : (steps : List (Nat × Nat)) → List Beginning → List Beginning
  | [], beginnings => beginnings
  | (count, limit) :: steps, beginnings =>
    if beginnings.length ≤ limit then beginnings
    else shortened steps (dropCovered (beginnings.map (Beginning.cut count)))

/-- All beginnings are whole. -/
def allWhole (beginnings : List Beginning) : Bool :=
  beginnings.all (·.whole)

/-- The beginnings worth a search.  A shared start is searched for alone
when it is rare, long, or spares many beginnings; beginnings that are not
whole are of no use if they are everywhere. -/
def refined (beginnings : List Beginning) : Beginnings :=
  if beginnings.any (·.bytes.isEmpty) then none
  else
    let kept := dropCovered beginnings
    let shared := sharedStart kept
    if beginnings.length > 1 ∧ shared.length ≤ 3 ∧ (shared.head?.any isRareByte) then
      some (joined (kept.map (Beginning.cut 1)))
    else
      let isFast := allWhole kept && kept.length ≤ 16
      let kept :=
        if shared.length > 4 ∨ (shared.length > 1 ∧ !isFast) then
          joined (kept.map (Beginning.cut shared.length))
        else kept
      let few := shortened [(5, 10), (4, 10), (3, 64), (2, 64), (1, 10)] kept
      let isPoor := few.any Beginning.isEverywhere
      if allWhole kept then
        if isPoor ∨ few.any (·.bytes.length ≤ 2) ∨ few.length > 64 then some kept else some few
      else if isPoor then none
      else some few

/-! ## 4. Plain patterns -/

/-- The pattern has neither groups nor conditions. -/
def isBare : Pattern → Bool
  | assert _ => false
  | group _ _ => false
  | seq first second => first.isBare && second.isBare
  | alt first second => first.isBare && second.isBare
  | rounds body _ _ _ => body.isBare
  | _ => true

/-- A search for the pattern is a search for some byte strings. -/
def isPlain (pattern : Pattern) : Bool :=
  pattern.isBare &&
    match pattern.beginnings.bind refined with
    | some beginnings => !beginnings.isEmpty && allWhole beginnings
    | none => false

end QueryCache.Pattern
