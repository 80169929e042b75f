/-
QueryCache.Proofs.Select.Plain — heads made of identifiers.

An identifier holds none of the characters that mean something in a
clause or in a path: no blank, no comma, no parenthesis, no dot, no colon
and no exclamation mark.  So a plain segment, `name!hint` with identifiers
throughout, has no alias and no cast; and any head, `alias:name!hint`, is
taken apart again from its own text, if only its marks can be told from
those in its parts (`Head.ofWritten_of_splitAlias`).
-/
import QueryCache.Proofs.Text
import QueryCache.Select.Field

namespace QueryCache

/-! ## 1. Characters of identifiers -/

/-- The characters that mean something in a clause or in a path. -/
def marks : Text := [',', '(', ')', '.', ':', '!', '*', ' ']

namespace Head

theorem not_isIdentifierChar_mark {c : Char} (h : c ∈ marks) : isIdentifierChar c = false := by
  simp only [marks, List.mem_cons, List.not_mem_nil, or_false] at h
  rcases h with rfl | rfl | rfl | rfl | rfl | rfl | rfl | rfl <;> decide

/-- The code points of white space. -/
def blankCodes : List Nat :=
  [0x09, 0x0A, 0x0B, 0x0C, 0x0D, 0x20, 0x85, 0xA0, 0x1680, 0x2000, 0x2001, 0x2002, 0x2003, 0x2004,
   0x2005, 0x2006, 0x2007, 0x2008, 0x2009, 0x200A, 0x2028, 0x2029, 0x202F, 0x205F, 0x3000]

theorem mem_blankCodes {c : Char} (h : Unicode.isBlank c = true) : c.toNat ∈ blankCodes := by
  obtain ⟨range, hrange, hlow, hhigh⟩ := Unicode.Ranges.exists_of_containsCode h
  simp only [Unicode.blankRanges, List.mem_cons, List.not_mem_nil, or_false] at hrange
  simp only [blankCodes, List.mem_cons, List.not_mem_nil, or_false]
  rcases hrange with rfl | rfl | rfl | rfl | rfl | rfl | rfl | rfl | rfl | rfl <;>
    simp only at hlow hhigh <;> omega

theorem not_isIdentifierChar_blankCode :
    ∀ n ∈ blankCodes, isIdentifierChar (Char.ofNat n) = false := by
  decide +kernel

/-- White space is in no identifier. -/
theorem not_isBlank {c : Char} (h : isIdentifierChar c = true) : Unicode.isBlank c = false := by
  rcases hblank : Unicode.isBlank c with _ | _
  · rfl
  · have hnot := not_isIdentifierChar_blankCode _ (mem_blankCodes hblank)
    rw [Char.ofNat_toNat, h] at hnot
    contradiction

theorem not_mem_of_isIdentifier {text : Text} {c : Char} (h : isIdentifier text = true)
    (hc : c ∈ marks) : c ∉ text := by
  intro hmem
  simp only [isIdentifier, Bool.and_eq_true, List.all_eq_true] at h
  have := h.2 c hmem
  rw [not_isIdentifierChar_mark hc] at this
  contradiction

/-- An identifier ends no head. -/
theorem isHeadChar_of_isIdentifierChar {c : Char} (h : isIdentifierChar c = true) :
    isHeadChar c = true := by
  rcases hhead : isHeadChar c with _ | _
  · have hmark : c ∈ marks := by
      simp only [isHeadChar, Bool.and_eq_false_iff, bne_eq_false_iff_eq] at hhead
      rcases hhead with (rfl | rfl) | rfl <;> decide
    rw [not_isIdentifierChar_mark hmark] at h
    contradiction
  · rfl

/-- Neither does a blank. -/
theorem isHeadChar_of_isBlank {c : Char} (h : Unicode.isBlank c = true) : isHeadChar c = true := by
  rcases hhead : isHeadChar c with _ | _
  · simp only [isHeadChar, Bool.and_eq_false_iff, bne_eq_false_iff_eq] at hhead
    rcases hhead with (rfl | rfl) | rfl <;> exact absurd h (by decide)
  · rfl

end Head

/-! ## 2. Segments -/

namespace Segment

/-- The parts of the segment are identifiers: `name!hint!hint`. -/
def isPlain (segment : Text) : Bool :=
  (Text.splitOn '!' segment).all Head.isIdentifier

section

variable {segment : Text} (h : isPlain segment = true)
include h

theorem char_of_isPlain {c : Char} (hc : c ∈ segment) :
    c = '!' ∨ Head.isIdentifierChar c = true := by
  rw [← Text.join_splitOn '!' segment] at hc
  rcases Text.mem_join hc with rfl | ⟨part, hpart, hc⟩
  · exact Or.inl rfl
  · have hident := List.all_eq_true.1 h part hpart
    simp only [Head.isIdentifier, Bool.and_eq_true, List.all_eq_true] at hident
    exact Or.inr (hident.2 c hc)

theorem not_mem_of_isPlain {c : Char} (hc : c ∈ marks) (hne : c ≠ '!') : c ∉ segment := by
  intro hmem
  rcases char_of_isPlain h hmem with rfl | hident
  · exact hne rfl
  · rw [Head.not_isIdentifierChar_mark hc] at hident
    contradiction

theorem ne_nil_of_isPlain : segment ≠ [] := by
  rintro rfl
  simp [isPlain, Text.splitOn, Head.isIdentifier] at h

/-- A plain segment is no alias in front of another one. -/
theorem splitAlias_of_isPlain : splitAlias segment = (none, segment) :=
  splitAlias_of_not_mem (not_mem_of_isPlain h (by decide) (by decide))

theorem bareName_of_isPlain : bareName segment = Text.upTo '!' segment := by
  refine Text.upToCast_of_not_mem ?_
  intro hmem
  exact not_mem_of_isPlain h (by decide) (by decide) (List.takeWhile_subset _ hmem)

theorem bareName_bareName : bareName (bareName segment) = bareName segment := by
  have hbare := bareName_of_isPlain h
  have hhint : '!' ∉ bareName segment := by
    rw [hbare]
    exact Text.not_mem_upTo '!' segment
  have hcolon : ':' ∉ bareName segment := by
    rw [hbare]
    exact fun hmem => not_mem_of_isPlain h (by decide) (by decide) (List.takeWhile_subset _ hmem)
  conv => lhs; rw [bareName, stripHints, Text.upTo_of_not_mem hhint]
  exact Text.upToCast_of_not_mem hcolon

theorem ne_star_of_isPlain : segment ≠ ['*'] := by
  rintro rfl
  exact not_mem_of_isPlain h (by decide) (by decide) (List.mem_cons_self)

end

end Segment

/-! ## 3. Heads -/

namespace Head

/-- The parts of the head are identifiers. -/
structure IsPlain (head : Head) : Prop where
  aliasName : ∀ text ∈ head.aliasName, isIdentifier text = true
  name : isIdentifier head.name = true
  hints : ∀ text ∈ head.hints, isIdentifier text = true

/-- The text that the parts of a head make. -/
def spelled (head : Head) : Text :=
  match head.aliasName with
  | some aliasName => aliasName ++ ':' :: head.segment
  | none => head.segment

/-- The alias is read off the text of a head, when no lone colon stands
behind it. -/
theorem splitAlias_spelled {head : Head} (halias : ∀ text ∈ head.aliasName, ':' ∉ text)
    (hcolon : Segment.splitAtLoneColon false head.segment = none)
    (hfirst : head.segment.head? ≠ some ':') :
    Segment.splitAlias head.spelled = (head.aliasName, head.segment) := by
  rw [spelled, Segment.splitAlias]
  rcases hname : head.aliasName with _ | aliasName
  · simp only [hcolon]
  · simp only [Segment.splitAtLoneColon_append (halias aliasName hname) hfirst]

/-- So are all parts of it. -/
theorem ofWritten_of_splitAlias {head : Head}
    (halias : Segment.splitAlias head.spelled = (head.aliasName, head.segment))
    (hparts : Text.splitOn '!' head.segment = head.name :: head.hints) :
    ofWritten head.spelled = { head with written := head.spelled } := by
  simp only [ofWritten, halias, hparts]

section

variable {head : Head} (hname : '!' ∉ head.name)
include hname

/-- The hints are read off a segment. -/
theorem splitOn_segment (hhints : ∀ text ∈ head.hints, isIdentifier text = true) :
    Text.splitOn '!' head.segment = head.name :: head.hints := by
  refine Text.splitOn_join (by simp) ?_
  intro part hpart
  rcases List.mem_cons.1 hpart with rfl | hpart
  · exact hname
  · exact not_mem_of_isIdentifier (hhints part hpart) (by decide)

/-- What stands in front of them is the name. -/
theorem upTo_segment : Text.upTo '!' head.segment = head.name := by
  rw [segment]
  rcases head.hints with _ | ⟨hint, hints⟩
  · rw [Text.join, Text.upTo_of_not_mem hname]
  · rw [Text.join_cons (by simp), Text.upTo_append hname]

end

theorem isPlain_segment {head : Head} (h : head.IsPlain) :
    Segment.isPlain head.segment = true := by
  have hname : '!' ∉ head.name := not_mem_of_isIdentifier h.name (by decide)
  rw [Segment.isPlain, splitOn_segment hname h.hints, List.all_cons, h.name,
    List.all_eq_true.2 h.hints]
  rfl

end Head
end QueryCache
