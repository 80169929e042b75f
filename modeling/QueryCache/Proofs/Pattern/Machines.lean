/-
QueryCache.Proofs.Pattern.Machines — how large the machines of patterns grow.

A machine grows step by step, and a step is refused when it passes the limit.
So a step is bounded by the bytes that it may take: with that much room left it
succeeds, and takes no more (`StaysWithin`).  Bounds add up along a chain of
steps.  A machine that shares states takes no more than one that does not, which
bounds the machine of a set by its byte sequences (`staysWithin_growChars`).
With this a `like` pattern of up to `likeLimit` characters has machines within
the limit, whatever it is made of (`isSearchable_ofLike`).
-/
import Mathlib
import QueryCache.Pattern.Like

namespace QueryCache.Pattern

open Unicode (ByteSequence CharSet)
open Machine (Direction Sharing Size linkBytes sizeLimit stateBytes wayBytes)

/-! ## 1. Steps with a bound -/

/-- With room for so many bytes the result is there, and takes no more. -/
def StaysWithin {α : Type} (sizeOf : α → Size) (bytes : Nat) (size : Size) (result : Option α) :
    Prop :=
  size.bytes + bytes ≤ sizeLimit →
    ∃ a, result = some a ∧ (sizeOf a).bytes ≤ size.bytes + bytes

namespace StaysWithin

variable {α β : Type} {sizeOf : α → Size} {sizeOf' : β → Size} {bytes more : Nat} {size : Size}

theorem of_some {a : α} (h : (sizeOf a).bytes ≤ size.bytes + bytes) :
    StaysWithin sizeOf bytes size (some a) :=
  fun _ => ⟨a, rfl, h⟩

theorem mono {result : Option α} (h : StaysWithin sizeOf bytes size result)
    (hle : bytes ≤ more) : StaysWithin sizeOf more size result := by
  intro hroom
  obtain ⟨a, ha, hbytes⟩ := h (by omega)
  exact ⟨a, ha, by omega⟩

theorem bind {result : Option α} {next : α → Option β}
    (h : StaysWithin sizeOf bytes size result)
    (hnext : ∀ a, StaysWithin sizeOf' more (sizeOf a) (next a)) :
    StaysWithin sizeOf' (bytes + more) size (result.bind next) := by
  intro hroom
  obtain ⟨a, rfl, ha⟩ := h (by omega)
  obtain ⟨b, hb, hbytes⟩ := hnext a (by omega)
  exact ⟨b, hb, by omega⟩

/-- The bounds of the steps of a fold add up. -/
theorem foldlM {step : α → β → Option α} {cost : β → Nat}
    (h : ∀ a b, StaysWithin sizeOf (cost b) (sizeOf a) (step a b)) (list : List β) (start : α) :
    StaysWithin sizeOf (list.map cost).sum (sizeOf start) (list.foldlM step start) := by
  induction list generalizing start with
  | nil => exact of_some (Nat.le_add_right _ _)
  | cons b rest ih => exact (h start b).bind fun a => ih a

end StaysWithin

theorem staysWithin_grow (size : Size) (states further : Nat) :
    StaysWithin id (stateBytes * states + further) size (size.grow states further) := by
  intro hroom
  have hbytes : Size.bytes ⟨size.states + states, size.further + further⟩ =
      size.bytes + (stateBytes * states + further) := by
    simp only [Size.bytes, Nat.mul_add]
    omega
  rw [← hbytes] at hroom
  exact ⟨_, if_pos hroom, hbytes.le⟩

/-! ## 2. Sets of characters -/

theorem staysWithin_state (sharing : Sharing) (slots further : Nat) (description : List Nat) :
    StaysWithin (fun found : Nat × Sharing => found.2.size) (stateBytes + further) sharing.size
      (sharing.state slots further description) := by
  rw [Sharing.state]
  extract_lets slot
  split
  · exact .of_some (Nat.le_add_right _ _)
  · rw [← Nat.add_zero (stateBytes + further)]
    exact (staysWithin_grow sharing.size 1 further).bind fun _ => .of_some (Nat.le_refl _)

/-- The bytes of the states for the ends of sequences, none of them shared. -/
def endsBytes : (length : Nat) → List ByteSequence → Nat
  | 0, _ => 0
  | length + 1, sequences =>
    if sequences.all (·.isEmpty) then 0
    else
      let groups := Machine.byFirstRange sequences
      (groups.map fun group => endsBytes length (group.map List.tail)).sum +
        (stateBytes + wayBytes * groups.length)

theorem staysWithin_shareEnds (target length : Nat) (sequences : List ByteSequence)
    (sharing : Sharing) :
    StaysWithin (fun found : Nat × Sharing => found.2.size) (endsBytes length sequences)
      sharing.size (Machine.shareEnds target length sequences sharing) := by
  induction length generalizing sequences sharing with
  | zero => exact .of_some (Nat.le_add_right _ _)
  | succ length ih =>
    rw [Machine.shareEnds, endsBytes]
    split
    · exact .of_some (Nat.le_add_right _ _)
    · refine (@StaysWithin.foldlM (List Nat × Sharing) (List ByteSequence)
        (fun found => found.2.size) _ (fun group => endsBytes length (group.map List.tail))
        (fun found group => ?_) _ ([], sharing)).bind fun _ => staysWithin_state _ _ _ _
      rw [← Nat.add_zero (endsBytes _ _)]
      exact (ih (group.map List.tail) found.2).bind fun _ => .of_some (Nat.le_refl _)

theorem staysWithin_shareStart (target : Nat) (sequence : ByteSequence) (sharing : Sharing) :
    StaysWithin (fun found : Nat × Sharing => found.2.size)
      (sequence.map fun _ => stateBytes).sum sharing.size
      (Machine.shareStart target sequence sharing) := by
  rw [Machine.shareStart]
  refine @StaysWithin.foldlM (Nat × Sharing) _ (fun found => found.2.size) _ _
    (fun found range => ?_) sequence (target, sharing)
  exact (staysWithin_state found.2 _ 0 _).mono (Nat.le_refl _)

/-- The bytes of the machine that reads a character of these sequences, without
states that are shared. -/
def charsBytes (direction : Direction) (sequences : List ByteSequence) : Nat :=
  match direction with
  | .forward => stateBytes + endsBytes 4 sequences
  | .backward =>
    stateBytes * 2 +
      (sequences.map fun sequence => (sequence.map fun _ => stateBytes).sum + linkBytes).sum

theorem staysWithin_growChars {set : CharSet} (h : set.isAscii = false) (direction : Direction)
    (size : Size) :
    StaysWithin id (charsBytes direction set.byteSequences) size
      (Machine.growChars direction set size) := by
  unfold Machine.growChars
  rw [if_neg (Bool.eq_false_iff.1 h)]
  cases direction with
  | forward =>
    refine (staysWithin_grow size 1 0).bind fun size => ?_
    rw [← Nat.add_zero (endsBytes _ _)]
    exact (staysWithin_shareEnds _ _ _ ⟨size, ∅⟩).bind fun _ => .of_some (Nat.le_refl _)
  | backward =>
    refine (staysWithin_grow size 2 0).bind fun size => ?_
    rw [← Nat.add_zero (List.sum _)]
    refine (@StaysWithin.foldlM Sharing ByteSequence (fun sharing => sharing.size) _ _
      (fun sharing sequence => ?_) _ ⟨size, ∅⟩).bind fun _ => .of_some (Nat.le_refl _)
    refine (staysWithin_shareStart _ sequence sharing).bind fun found => ?_
    rw [← Nat.add_zero linkBytes]
    exact (staysWithin_grow found.2.size 0 linkBytes).bind fun _ => .of_some (Nat.le_refl _)

/-- The bytes of the machine for any character of a line. -/
def lineCharBytes : Nat := 1000

theorem staysWithin_notLineFeed (direction : Direction) (size : Size) :
    StaysWithin id lineCharBytes size (Machine.growChars direction notLineFeed size) := by
  have hset : notLineFeed.isAscii = false := by decide +kernel
  have hbytes : charsBytes direction notLineFeed.byteSequences ≤ lineCharBytes := by
    cases direction <;> decide +kernel
  exact (staysWithin_growChars hset direction size).mono hbytes

/-! ## 3. The parts of a pattern -/

/-- The parts that `like` patterns are made of, one after the other. -/
inductive IsLikeParts : Pattern → Prop
  | empty : IsLikeParts empty
  | literal (text : Text) : IsLikeParts (literal text)
  | chars : IsLikeParts (chars notLineFeed false)
  | many : IsLikeParts (many notLineFeed)
  | assert (condition : Assertion) : IsLikeParts (assert condition)
  | seq {first second : Pattern} : IsLikeParts first → IsLikeParts second →
      IsLikeParts (seq first second)

/-- The bytes that the machine of such parts may take. -/
def cost : Pattern → Nat
  | literal text => stateBytes * (4 * text.length)
  | chars _ _ => lineCharBytes
  | rounds _ _ _ _ => stateBytes + linkBytes + lineCharBytes
  | seq first second => first.cost + (linkBytes + second.cost)
  | _ => stateBytes

theorem nextBytes_le (direction : Direction) (pattern : Pattern) :
    pattern.nextBytes direction ≤ linkBytes := by
  unfold nextBytes
  split
  · exact Nat.le_refl _
  · exact Nat.zero_le _

theorem length_encode_le (text : Text) : (Utf8.encode text).length ≤ 4 * text.length := by
  have hchar : ∀ c : Char, (Utf8.encodeChar c).length ≤ 4 := by
    intro c
    unfold Utf8.encodeChar
    extract_lets n
    split_ifs <;> simp
  induction text with
  | nil => exact Nat.le_refl _
  | cons c text ih =>
    have hencode : Utf8.encode (c :: text) = Utf8.encodeChar c ++ Utf8.encode text := rfl
    rw [hencode, List.length_append, List.length_cons]
    have := hchar c
    omega

theorem staysWithin_pattern {pattern : Pattern} (h : IsLikeParts pattern) (direction : Direction)
    (place : Place) (size : Size) :
    StaysWithin id pattern.cost size (pattern.grow direction place size) := by
  induction h generalizing place size with
  | empty => exact staysWithin_grow size 1 0
  | literal text =>
    refine (staysWithin_grow size _ 0).mono (Nat.mul_le_mul_left _ (length_encode_le text))
  | chars => exact staysWithin_notLineFeed direction size
  | assert condition => exact staysWithin_grow size 1 0
  | many =>
    have hround : ((chars notLineFeed false).takesText && (chars notLineFeed false).isInhabited) =
        true := by decide +kernel
    rw [many, grow]
    simp only [hround, if_true]
    refine (staysWithin_grow size 1 linkBytes).bind fun size => ?_
    rw [← Nat.add_zero lineCharBytes]
    exact (staysWithin_notLineFeed direction size).bind fun size => staysWithin_grow size 0 0
  | @seq first second _ _ ihfirst ihsecond =>
    rw [grow]
    refine (ihfirst .first size).bind fun size => ?_
    have hlink := (staysWithin_grow size 0 (first.nextBytes direction)).mono
      (show stateBytes * 0 + _ ≤ linkBytes by simpa using nextBytes_le direction first)
    exact hlink.bind fun size => ihsecond .first size

/-! ## 4. Whole patterns -/

/-- The bytes of what follows, with the link to it. -/
def restCost (rest : Option Pattern) : Nat :=
  rest.elim 0 fun rest => linkBytes + rest.cost

theorem isLikeParts_followedBy {pattern : Pattern} (h : IsLikeParts pattern)
    {rest : Option Pattern} (hrest : ∀ part ∈ rest, IsLikeParts part) :
    IsLikeParts (pattern.followedBy rest) ∧
      (pattern.followedBy rest).cost = pattern.cost + restCost rest := by
  cases rest with
  | none => exact ⟨h, rfl⟩
  | some rest => exact ⟨.seq h (hrest rest rfl), rfl⟩

/-- Read backward, the parts are the same. -/
theorem isLikeParts_backwardOnto {pattern : Pattern} (h : IsLikeParts pattern)
    {rest : Option Pattern} (hrest : ∀ part ∈ rest, IsLikeParts part) :
    IsLikeParts (pattern.backwardOnto rest) ∧
      (pattern.backwardOnto rest).cost = pattern.cost + restCost rest := by
  induction h generalizing rest with
  | empty => exact isLikeParts_followedBy .empty hrest
  | literal text => exact isLikeParts_followedBy (.literal text) hrest
  | chars => exact isLikeParts_followedBy .chars hrest
  | many => exact isLikeParts_followedBy .many hrest
  | assert condition => exact isLikeParts_followedBy (.assert condition) hrest
  | @seq first second _ _ ihfirst ihsecond =>
    obtain ⟨hfirst, hcost⟩ := ihfirst hrest
    have hbehind : ∀ part ∈ some (first.backwardOnto rest), IsLikeParts part := by
      rintro _ ⟨rfl⟩
      exact hfirst
    obtain ⟨hsecond, hcost'⟩ := ihsecond hbehind
    refine ⟨hsecond, ?_⟩
    rw [backwardOnto, hcost', restCost, Option.elim_some, hcost, cost]
    omega

/-- A state of its own, with the link to a part behind it. -/
theorem staysWithin_linked (direction : Direction) (part : Pattern) (size : Size) :
    StaysWithin id (stateBytes + linkBytes) size (size.grow 1 (part.nextBytes direction)) := by
  refine (staysWithin_grow size 1 _).mono ?_
  rw [Nat.mul_one]
  exact Nat.add_le_add_left (nextBytes_le direction part) _

theorem staysWithin_whole {pattern : Pattern} (h : IsLikeParts pattern) (direction : Direction)
    (size : Size) :
    StaysWithin id (pattern.cost + 100) size
      ((group 0 (pattern.facing direction)).grow direction .first size) := by
  cases direction with
  | forward =>
    refine ((staysWithin_grow size 1 0).bind fun size =>
      (staysWithin_pattern h .forward .first size).bind fun size =>
        staysWithin_linked .forward pattern size).mono ?_
    simp only [stateBytes, linkBytes]
    omega
  | backward =>
    obtain ⟨hparts, hcost⟩ := @isLikeParts_backwardOnto pattern h none (by simp)
    refine (staysWithin_pattern hparts .backward .first size).mono ?_
    rw [hcost]
    exact Nat.add_le_add_left (Nat.zero_le _) _

/-- A pattern of such parts has machines of no more than its cost and what
stands around it. -/
theorem staysWithin_machineSize {pattern : Pattern} (h : IsLikeParts pattern)
    (direction : Direction) :
    StaysWithin id (pattern.cost + 300) Size.zero (pattern.machineSize? direction) := by
  unfold machineSize?
  extract_lets whole anchor behind
  have hbehind : ∀ size, StaysWithin id (pattern.cost + 100 + (stateBytes + linkBytes)) size
      (behind size) := fun size =>
    (staysWithin_whole h direction size).bind fun size => staysWithin_linked direction whole size
  split
  · refine ((staysWithin_grow Size.zero 1 0).bind hbehind).mono ?_
    simp only [stateBytes, linkBytes]
    omega
  · refine ((staysWithin_grow Size.zero 3 _).bind hbehind).mono ?_
    simp only [stateBytes, linkBytes, wayBytes]
    omega

/-! ## 5. Patterns put together -/

/-- The bytes of several parts and the links between them. -/
def totalCost (parts : List Pattern) : Nat :=
  (parts.map fun part => linkBytes + part.cost).sum

theorem totalCost_cons (part : Pattern) (parts : List Pattern) :
    totalCost (part :: parts) = linkBytes + part.cost + totalCost parts :=
  List.sum_cons

theorem totalCost_append (front back : List Pattern) :
    totalCost (front ++ back) = totalCost front + totalCost back := by
  rw [totalCost, List.map_append, List.sum_append]
  rfl

/-- Taken apart, parts cost no more. -/
theorem isLikeParts_pushParts {pattern : Pattern} (h : IsLikeParts pattern) {done : List Pattern}
    (hdone : ∀ part ∈ done, IsLikeParts part) :
    (∀ part ∈ pattern.pushParts done, IsLikeParts part) ∧
      totalCost (pattern.pushParts done) ≤ totalCost (pattern :: done) := by
  have hcons : ∀ {part : Pattern}, IsLikeParts part →
      ∀ other ∈ part :: done, IsLikeParts other :=
    fun hpart => List.forall_mem_cons.2 ⟨hpart, hdone⟩
  induction h generalizing done with
  | empty => exact ⟨hdone, by rw [totalCost_cons]; exact Nat.le_add_left _ _⟩
  | literal text => exact ⟨hcons (.literal text), Nat.le_refl _⟩
  | chars => exact ⟨hcons .chars, Nat.le_refl _⟩
  | many => exact ⟨hcons .many, Nat.le_refl _⟩
  | assert condition => exact ⟨hcons (.assert condition), Nat.le_refl _⟩
  | @seq first second hfirst hsecond ihfirst ihsecond =>
    obtain ⟨hparts, hcost⟩ := ihfirst hdone hcons
    obtain ⟨hparts', hcost'⟩ := ihsecond hparts fun hpart => List.forall_mem_cons.2 ⟨hpart, hparts⟩
    refine ⟨hparts', ?_⟩
    rw [totalCost_cons] at hcost hcost' ⊢
    rw [cost, pushParts]
    omega

/-- Put in front of others, a part costs itself and a link at most. -/
theorem isLikeParts_prependPart {part : Pattern} (h : IsLikeParts part) {rest : Option Pattern}
    (hrest : ∀ other ∈ rest, IsLikeParts other) :
    (∀ other ∈ prependPart rest part, IsLikeParts other) ∧
      restCost (prependPart rest part) ≤ linkBytes + part.cost + restCost rest := by
  unfold prependPart
  split
  · exact ⟨fun _ hmem => Option.mem_some.1 hmem ▸ h, Nat.le_refl _⟩
  · refine ⟨fun _ hmem => Option.mem_some.1 hmem ▸ .literal _, ?_⟩
    simp only [restCost, Option.elim_some, cost, List.length_append, Nat.mul_add]
    omega
  · rename_i more rest text
    cases hrest _ rfl with
    | seq _ hmore =>
      refine ⟨fun _ hmem => Option.mem_some.1 hmem ▸ .seq (.literal _) hmore, ?_⟩
      simp only [restCost, Option.elim_some, cost, List.length_append, Nat.mul_add]
      omega
  · rename_i rest part _ _
    refine ⟨fun _ hmem => Option.mem_some.1 hmem ▸ .seq h (hrest _ rfl), ?_⟩
    simp only [restCost, Option.elim_some, cost]
    omega

theorem isLikeParts_foldl_pushParts {parts done : List Pattern}
    (h : ∀ part ∈ parts, IsLikeParts part) (hdone : ∀ part ∈ done, IsLikeParts part) :
    (∀ part ∈ parts.foldl (fun done part => part.pushParts done) done, IsLikeParts part) ∧
      totalCost (parts.foldl (fun done part => part.pushParts done) done) ≤
        totalCost parts + totalCost done := by
  induction parts generalizing done with
  | nil => exact ⟨hdone, Nat.le_add_left _ _⟩
  | cons part rest ih =>
    obtain ⟨hpart, hrest⟩ := List.forall_mem_cons.1 h
    obtain ⟨hpushed, hcost⟩ := isLikeParts_pushParts hpart hdone
    obtain ⟨hall, hmore⟩ := ih hrest hpushed
    refine ⟨hall, ?_⟩
    rw [totalCost_cons] at hcost ⊢
    rw [List.foldl_cons]
    omega

theorem isLikeParts_foldl_prependPart {parts : List Pattern} {rest : Option Pattern}
    (h : ∀ part ∈ parts, IsLikeParts part) (hrest : ∀ part ∈ rest, IsLikeParts part) :
    (∀ part ∈ parts.foldl prependPart rest, IsLikeParts part) ∧
      restCost (parts.foldl prependPart rest) ≤ totalCost parts + restCost rest := by
  induction parts generalizing rest with
  | nil => exact ⟨hrest, Nat.le_add_left _ _⟩
  | cons part others ih =>
    obtain ⟨hpart, hothers⟩ := List.forall_mem_cons.1 h
    obtain ⟨hfront, hcost⟩ := isLikeParts_prependPart hpart hrest
    obtain ⟨hall, hmore⟩ := ih hothers hfront
    refine ⟨hall, ?_⟩
    rw [totalCost_cons, List.foldl_cons]
    omega

theorem isLikeParts_concat {parts : List Pattern} (h : ∀ part ∈ parts, IsLikeParts part) :
    IsLikeParts (concat parts) ∧ (concat parts).cost ≤ totalCost parts + stateBytes := by
  obtain ⟨hparts, hcost⟩ := isLikeParts_foldl_pushParts h (List.forall_mem_nil IsLikeParts)
  obtain ⟨hwhole, hmore⟩ := isLikeParts_foldl_prependPart hparts fun part hmem =>
    absurd hmem (Option.not_mem_none part)
  rw [concat]
  cases hrest : (parts.foldl (fun done part => part.pushParts done) []).foldl prependPart none with
  | none => exact ⟨.empty, Nat.le_add_left _ _⟩
  | some whole =>
    rw [hrest] at hwhole hmore
    refine ⟨hwhole whole rfl, ?_⟩
    have hnil : totalCost [] = 0 := rfl
    simp only [restCost, Option.elim_some, Option.elim_none] at hmore
    rw [Option.getD_some]
    omega

/-! ## 6. Patterns of `like` -/

theorem isLikeParts_ofLikeChar (c : Char) :
    IsLikeParts (ofLikeChar false c) ∧ linkBytes + (ofLikeChar false c).cost ≤ 1040 := by
  unfold ofLikeChar
  split
  · exact ⟨.many, by decide⟩
  · split
    · exact ⟨.chars, by decide⟩
    · exact ⟨.literal [c], by simp [char, cost, linkBytes, stateBytes]⟩

theorem isLikeParts_ofLikeChars (pattern : Text) :
    (∀ part ∈ pattern.map (ofLikeChar false), IsLikeParts part) ∧
      totalCost (pattern.map (ofLikeChar false)) ≤ 1040 * pattern.length := by
  induction pattern with
  | nil => exact ⟨List.forall_mem_nil _, Nat.le_refl _⟩
  | cons c pattern ih =>
    obtain ⟨hparts, hcost⟩ := ih
    obtain ⟨hpart, hown⟩ := isLikeParts_ofLikeChar c
    rw [List.map_cons, totalCost_cons, List.length_cons]
    exact ⟨List.forall_mem_cons.2 ⟨hpart, hparts⟩, by omega⟩

theorem isLikeParts_ofLike (pattern : Text) :
    IsLikeParts (ofLike false pattern) ∧
      (ofLike false pattern).cost ≤ 1040 * pattern.length + 200 := by
  obtain ⟨hchars, hcost⟩ := isLikeParts_ofLikeChars pattern
  have hends : ∀ part ∈ assert .textStart :: pattern.map (ofLikeChar false) ++ [assert .textEnd],
      IsLikeParts part := by
    rw [List.forall_mem_append, List.forall_mem_cons, List.forall_mem_singleton]
    exact ⟨⟨.assert _, hchars⟩, .assert _⟩
  have htotal : totalCost (assert .textStart :: pattern.map (ofLikeChar false) ++
      [assert .textEnd]) = 36 + totalCost (pattern.map (ofLikeChar false)) + 36 := by
    rw [totalCost_append, totalCost_cons]
    rfl
  obtain ⟨hparts, hwhole⟩ := isLikeParts_concat hends
  rw [htotal] at hwhole
  simp only [stateBytes] at hwhole
  refine ⟨hparts, ?_⟩
  rw [ofLike]
  omega

/-- So many characters a `like` pattern may always have. -/
def likeLimit : Nat := 10000

/-- A pattern of up to so many characters is searched for. -/
theorem isSearchable_ofLike {pattern : Text} (h : pattern.length ≤ likeLimit) :
    (ofLike false pattern).isSearchable = true := by
  obtain ⟨hparts, hcost⟩ := isLikeParts_ofLike pattern
  have hroom : (ofLike false pattern).cost + 300 ≤ sizeLimit := by
    rw [likeLimit] at h
    rw [sizeLimit]
    omega
  have hmachine : ∀ direction, ((ofLike false pattern).machineSize? direction).isSome = true := by
    intro direction
    have hzero : Size.zero.bytes = 0 := rfl
    obtain ⟨size, hsize, -⟩ := staysWithin_machineSize hparts direction
      (by rw [hzero, Nat.zero_add]; exact hroom)
    exact Option.isSome_iff_exists.2 ⟨size, hsize⟩
  refine isSearchable_of_hasMachines ?_
  rw [hasMachines, hmachine, hmachine]
  rfl

end QueryCache.Pattern
