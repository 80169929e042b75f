/-
QueryCache.Proofs.Pattern.Like — what values are like a pattern.

A value is like a pattern if it can be cut into one piece for each character of
the pattern: any piece for `%` and `*`, one character for `_`, the character
itself for every other (`IsLike`).  The machine of a pattern finds these cuts,
except that its wildcards cover no line feed (`occursIn_ofLike`).  Every cut has
at least as many line feeds as the pattern has, so they are all accounted for
exactly if value and pattern have equally many (`like_iff`).
-/
import QueryCache.Proofs.Pattern.Machines
import QueryCache.Proofs.Pattern.Marks

namespace QueryCache.Pattern

/-! ## 1. Values cut along a pattern -/

/-- The piece of a value that a character of the pattern stands for, where
wildcards cover admitted characters alone. -/
def Covers (admits : Char → Bool) (c : Char) (piece : Text) : Prop :=
  if c = '%' ∨ c = '*' then ∀ d ∈ piece, admits d = true
  else if c = '_' then ∃ d, piece = [d] ∧ admits d = true
  else piece = [c]

/-- The value is cut into one piece for each character of the pattern. -/
def IsCutAlong (admits : Char → Bool) (pattern value : Text) : Prop :=
  ∃ pieces : List Text, pieces.flatten = value ∧ List.Forall₂ (Covers admits) pattern pieces

/-- The value is like the pattern: wildcards cover any characters. -/
def IsLike (pattern value : Text) : Prop :=
  IsCutAlong (fun _ => true) pattern value

section

variable {admits : Char → Bool}

theorem isCutAlong_nil {value : Text} : IsCutAlong admits [] value ↔ value = [] := by
  constructor
  · rintro ⟨pieces, rfl, hpieces⟩
    cases hpieces
    rfl
  · rintro rfl
    exact ⟨[], rfl, .nil⟩

theorem isCutAlong_cons {c : Char} {pattern value : Text} :
    IsCutAlong admits (c :: pattern) value ↔
      ∃ piece rest, value = piece ++ rest ∧ Covers admits c piece ∧
        IsCutAlong admits pattern rest := by
  constructor
  · rintro ⟨pieces, rfl, hpieces⟩
    cases hpieces with
    | cons hpiece hrest => exact ⟨_, _, rfl, hpiece, _, rfl, hrest⟩
  · rintro ⟨piece, _, rfl, hpiece, rest, rfl, hrest⟩
    exact ⟨piece :: rest, rfl, .cons hpiece hrest⟩

end

/-! ## 2. The machine of a pattern -/

/-- The characters that wildcards cover. -/
def inLine (c : Char) : Bool :=
  c != '\n'

section

variable {text : Text}

theorem fits_ofLikeChar {marks : Marks} (h : Fits text marks) (c : Char) :
    Fits text (run text (ofLikeChar false c) marks) := by
  unfold ofLikeChar
  split
  · exact fits_flood h
  · split
    · exact fits_advance h
    · exact fits_advance h

/-- A character of the pattern leads over the pieces that it stands for. -/
theorem reaches_ofLikeChar {front : Text} {marks : Marks} (h : Fits text marks)
    (hfront : front <+: text) (c : Char) :
    Reaches (run text (ofLikeChar false c) marks) front ↔
      ∃ before piece, front = before ++ piece ∧ Reaches marks before ∧ Covers inLine c piece := by
  have hline : notLineFeed.contains = inLine := funext contains_notLineFeed
  unfold ofLikeChar Covers
  split
  · rw [many, run_many, reaches_flood h hfront, hline]
    simp
  · split
    · rw [run_chars, reaches_advance h hfront, hline]
      constructor
      · rintro ⟨before, d, rfl, hbefore, hd⟩
        exact ⟨before, [d], rfl, hbefore, d, rfl, hd⟩
      · rintro ⟨before, _, rfl, hbefore, d, rfl, hd⟩
        exact ⟨before, d, rfl, hbefore, hd⟩
    · have hstep : run text (char false c) marks = advance (· == c) text marks := rfl
      rw [hstep, reaches_advance h hfront]
      constructor
      · rintro ⟨before, d, rfl, hbefore, hd⟩
        exact ⟨before, [d], rfl, hbefore, by rw [eq_of_beq hd]⟩
      · rintro ⟨before, _, rfl, hbefore, rfl⟩
        exact ⟨before, c, rfl, hbefore, beq_self_eq_true c⟩

theorem fits_runAll {pattern : Text} {marks : Marks} (h : Fits text marks) :
    Fits text (runAll text (pattern.map (ofLikeChar false)) marks) := by
  induction pattern generalizing marks with
  | nil => exact h
  | cons c pattern ih => exact ih (fits_ofLikeChar h c)

/-- A pattern leads over what is cut along it. -/
theorem reaches_runAll {pattern front : Text} {marks : Marks} (h : Fits text marks)
    (hfront : front <+: text) :
    Reaches (runAll text (pattern.map (ofLikeChar false)) marks) front ↔
      ∃ before middle, front = before ++ middle ∧ Reaches marks before ∧
        IsCutAlong inLine pattern middle := by
  induction pattern generalizing marks front with
  | nil => simp [runAll, isCutAlong_nil]
  | cons c pattern ih =>
    have hstep : runAll text ((c :: pattern).map (ofLikeChar false)) marks =
        runAll text (pattern.map (ofLikeChar false)) (run text (ofLikeChar false c) marks) := rfl
    rw [hstep, ih (fits_ofLikeChar h c) hfront]
    constructor
    · rintro ⟨before, rest, rfl, hbefore, hrest⟩
      have hprefix := (List.prefix_append before rest).trans hfront
      obtain ⟨start, piece, rfl, hstart, hpiece⟩ := (reaches_ofLikeChar h hprefix c).1 hbefore
      exact ⟨start, piece ++ rest, List.append_assoc .., hstart,
        isCutAlong_cons.2 ⟨piece, rest, rfl, hpiece, hrest⟩⟩
    · rintro ⟨before, _, rfl, hbefore, hcut⟩
      obtain ⟨piece, rest, rfl, hpiece, hrest⟩ := isCutAlong_cons.1 hcut
      rw [← List.append_assoc] at hfront
      have hprefix := (List.prefix_append (before ++ piece) rest).trans hfront
      exact ⟨before ++ piece, rest, (List.append_assoc ..).symm,
        (reaches_ofLikeChar h hprefix c).2 ⟨before, piece, rfl, hbefore, hpiece⟩, hrest⟩

end

/-- The machine of a pattern finds the values that are cut along it within their
lines. -/
theorem occursIn_ofLike (pattern value : Text) :
    (ofLike false pattern).occursIn value = true ↔ IsCutAlong inLine pattern value := by
  have hstart : Fits value (keep .textStart none value (everywhere value)) :=
    fits_keep (fits_everywhere value)
  have hend := @fits_runAll value pattern _ hstart
  have hrun : run value (ofLike false pattern) (everywhere value) =
      keep .textEnd none value (runAll value (pattern.map (ofLikeChar false))
        (keep .textStart none value (everywhere value))) := by
    rw [ofLike, run_concat, runAll_append]
    rfl
  rw [occursIn, hrun, any_iff_reaches (fits_keep hend)]
  constructor
  · rintro ⟨front, hfront, hreaches⟩
    obtain ⟨rfl, hwhole⟩ := (reaches_keep_textEnd hend hfront).1 hreaches
    obtain ⟨before, middle, heq, hbefore, hcut⟩ := (reaches_runAll hstart hfront).1 hwhole
    have hprefix : before <+: front := heq ▸ List.prefix_append before middle
    obtain ⟨-, rfl, -⟩ := (reaches_keep_textStart (fits_everywhere front) hprefix).1 hbefore
    rwa [heq]
  · intro hcut
    refine ⟨value, List.prefix_rfl, (reaches_keep_textEnd hend List.prefix_rfl).2 ⟨rfl, ?_⟩⟩
    refine (reaches_runAll hstart List.prefix_rfl).2 ⟨[], value, rfl, ?_, hcut⟩
    have hnil : [] <+: value := List.nil_prefix
    exact (reaches_keep_textStart (fits_everywhere value) hnil).2
      ⟨rfl, rfl, reaches_everywhere hnil⟩

/-! ## 3. Line feeds -/

/-- A piece has the line feeds of its character, unless a wildcard covers more. -/
theorem covers_inLine_iff {c : Char} {piece : Text} :
    Covers inLine c piece ↔
      Covers (fun _ => true) c piece ∧ piece.count '\n' = [c].count '\n' := by
  unfold Covers
  split
  · rename_i hrun
    have hc : [c].count '\n' = 0 := by rcases hrun with rfl | rfl <;> decide
    rw [hc, List.count_eq_zero]
    constructor
    · exact fun h => ⟨fun _ _ => rfl, fun hmem => absurd (h _ hmem) (by decide)⟩
    · rintro ⟨-, hfree⟩ d hd
      exact bne_iff_ne.2 (ne_of_mem_of_not_mem hd hfree)
  · split
    · rename_i hone
      have hc : [c].count '\n' = 0 := by rw [hone]; decide
      rw [hc, List.count_eq_zero]
      constructor
      · rintro ⟨d, rfl, hd⟩
        exact ⟨⟨d, rfl, rfl⟩, by simpa [eq_comm] using bne_iff_ne.1 hd⟩
      · rintro ⟨⟨d, rfl, -⟩, hfree⟩
        exact ⟨d, rfl, bne_iff_ne.2 (by simpa [eq_comm] using hfree)⟩
    · constructor
      · rintro rfl
        exact ⟨rfl, rfl⟩
      · exact And.left

theorem count_le_of_covers {c : Char} {piece : Text} (h : Covers (fun _ => true) c piece) :
    [c].count '\n' ≤ piece.count '\n' := by
  unfold Covers at h
  split at h
  · rename_i hrun
    rcases hrun with rfl | rfl <;> exact Nat.zero_le _
  · split at h
    · rename_i hone
      rw [hone]
      exact Nat.zero_le _
    · exact h ▸ Nat.le_refl _

theorem count_le_of_isLike {pattern value : Text} (h : IsLike pattern value) :
    pattern.count '\n' ≤ value.count '\n' := by
  induction pattern generalizing value with
  | nil => exact Nat.zero_le _
  | cons c pattern ih =>
    obtain ⟨piece, rest, rfl, hpiece, hrest⟩ := isCutAlong_cons.1 h
    rw [← List.singleton_append, List.count_append, List.count_append]
    exact Nat.add_le_add (count_le_of_covers hpiece) (ih hrest)

/-- A value is cut along a pattern within its lines exactly if it is like the
pattern and has no further line feeds. -/
theorem isCutAlong_inLine_iff {pattern value : Text} :
    IsCutAlong inLine pattern value ↔
      IsLike pattern value ∧ value.count '\n' = pattern.count '\n' := by
  induction pattern generalizing value with
  | nil =>
    rw [IsLike, isCutAlong_nil, isCutAlong_nil]
    constructor
    · rintro rfl
      exact ⟨rfl, rfl⟩
    · exact And.left
  | cons c pattern ih =>
    rw [IsLike, isCutAlong_cons, isCutAlong_cons]
    constructor
    · rintro ⟨piece, rest, rfl, hpiece, hrest⟩
      obtain ⟨hcovers, hcount⟩ := covers_inLine_iff.1 hpiece
      obtain ⟨hlike, hrest⟩ := ih.1 hrest
      refine ⟨⟨piece, rest, rfl, hcovers, hlike⟩, ?_⟩
      rw [← List.singleton_append, List.count_append, List.count_append, hcount, hrest]
    · rintro ⟨⟨piece, rest, rfl, hcovers, hlike⟩, hcount⟩
      -- No piece has fewer line feeds than its character, so none has more.
      have hpiece := count_le_of_covers hcovers
      have hrest := count_le_of_isLike hlike
      rw [← List.singleton_append, List.count_append, List.count_append] at hcount
      exact ⟨piece, rest, rfl, covers_inLine_iff.2 ⟨hcovers, by omega⟩, ih.2 ⟨hlike, by omega⟩⟩

/-- A value is found like a pattern exactly if the pattern can be searched for,
the value is like it, and the pattern has all line feeds of the value: wildcards
cover none.  Patterns of up to `likeLimit` characters can be searched for. -/
theorem like_iff (pattern value : Text) :
    (like false pattern value = true ↔
      (ofLike false pattern).isSearchable = true ∧ IsLike pattern value ∧
        value.count '\n' = pattern.count '\n') ∧
    (pattern.length ≤ likeLimit → (ofLike false pattern).isSearchable = true) := by
  refine ⟨?_, isSearchable_ofLike⟩
  rw [like, Bool.and_eq_true, occursIn_ofLike, isCutAlong_inLine_iff]

theorem like_iff_dots :
    "a%c_".toList.length ≤ likeLimit ∧ like false "a%c_".toList "a.b.cd".toList = true := by
  have hlength : "a%c_".toList.length ≤ likeLimit := by decide
  have hrun : Covers (fun _ => true) '%' ".b.".toList := fun _ _ => rfl
  have hone : Covers (fun _ => true) '_' "d".toList := ⟨'d', rfl, rfl⟩
  have hlike : IsLike "a%c_".toList "a.b.cd".toList :=
    ⟨["a".toList, ".b.".toList, "c".toList, "d".toList], rfl,
      .cons rfl (.cons hrun (.cons rfl (.cons hone .nil)))⟩
  obtain ⟨hfound, hsearchable⟩ := like_iff "a%c_".toList "a.b.cd".toList
  exact ⟨hlength, hfound.2 ⟨hsearchable hlength, hlike, by decide⟩⟩

/-- A line feed between two letters is like a wildcard between them, and is not
found. -/
theorem lineFeed_not_covered :
    IsLike "a%b".toList "a\nb".toList ∧ like false "a%b".toList "a\nb".toList = false := by
  constructor
  · have hrun : Covers (fun _ => true) '%' "\n".toList := fun _ _ => rfl
    exact ⟨["a".toList, "\n".toList, "b".toList], rfl,
      .cons rfl (.cons hrun (.cons rfl .nil))⟩
  · rw [Bool.eq_false_iff, ne_eq, like, Bool.and_eq_true, occursIn_ofLike, isCutAlong_inLine_iff]
    exact fun h => absurd h.2.2 (by decide)

end QueryCache.Pattern
