/-
QueryCache.Proofs.Select.Named — heads with casts, wildcards and counts.

A named head is written `alias:name!hint` like a plain one, but its name
may carry a cast, or be `*` or `count()`.  Its alias is still the text
before the first lone colon, since the colons of a cast stand together.
So it is taken apart again from its own text (`Head.ofWritten_named`), and
the text is one that can be read (`Head.IsNamed.isValid`).  Plain heads
are named (`Head.IsPlain.isNamed`).
-/
import QueryCache.Proofs.Select.Plain

namespace QueryCache.Head

/-! ## 1. Names of columns -/

/-- An identifier, perhaps with a cast. -/
inductive IsColumnName : Text → Prop where
  | plain {name : Text} (hname : isIdentifier name = true) : IsColumnName name
  | cast {name type : Text} (hname : isIdentifier name = true)
    (htype : isIdentifier type = true) : IsColumnName (name ++ ':' :: ':' :: type)

/-- A name is checked by its parts. -/
theorem isColumnName_iff {name : Text} :
    IsColumnName name ↔ isIdentifier (Text.upToCast name) = true ∧
      ∀ type ∈ Text.stripStart "::" (name.drop (Text.upToCast name).length),
        isIdentifier type = true := by
  constructor
  · rintro (hname | @⟨name, type, hname, htype⟩)
    · rw [Text.upToCast_of_not_mem (not_mem_of_isIdentifier hname (by decide)), List.drop_length]
      exact ⟨hname, fun type htype => absurd htype (by simp [Text.stripStart])⟩
    · rw [Text.upToCast_cast (not_mem_of_isIdentifier hname (by decide)), List.drop_left]
      refine ⟨hname, fun other hother => ?_⟩
      have heq := Text.stripStart_eq_some_iff.1 (Option.mem_def.1 hother)
      obtain rfl : type = other := by simpa using heq
      exact htype
  · rintro ⟨hname, htype⟩
    rcases Text.upToCast_eq_self_or name with heq | ⟨type, heq⟩
    · exact .plain (heq ▸ hname)
    · have hdrop : ∀ base : Text, name = base ++ ':' :: ':' :: type →
          name.drop base.length = ':' :: ':' :: type := by
        rintro base rfl
        exact List.drop_left
      rw [hdrop _ heq] at htype
      rw [heq]
      exact .cast hname (htype type rfl)

instance : DecidablePred IsColumnName := fun _ => decidable_of_iff _ isColumnName_iff.symm

theorem ne_nil_of_isIdentifier {text : Text} (h : isIdentifier text = true) : text ≠ [] := by
  rintro rfl
  simp [isIdentifier] at h

theorem isIdentifierChar_of_mem {text : Text} (h : isIdentifier text = true) {c : Char}
    (hc : c ∈ text) : isIdentifierChar c = true := by
  rw [isIdentifier, Bool.and_eq_true, List.all_eq_true] at h
  exact h.2 c hc

namespace IsColumnName

variable {name : Text} (h : IsColumnName name)
include h

theorem char {c : Char} (hc : c ∈ name) : c = ':' ∨ isIdentifierChar c = true := by
  cases h with
  | plain hname => exact Or.inr (isIdentifierChar_of_mem hname hc)
  | cast hname htype =>
    simp only [List.mem_append, List.mem_cons] at hc
    rcases hc with hc | rfl | rfl | hc
    · exact Or.inr (isIdentifierChar_of_mem hname hc)
    · exact Or.inl rfl
    · exact Or.inl rfl
    · exact Or.inr (isIdentifierChar_of_mem htype hc)

/-- All of it is within one head. -/
theorem headChar {c : Char} (hc : c ∈ name) : isHeadChar c = true ∧ Unicode.isBlank c = false := by
  rcases h.char hc with rfl | hident
  · decide
  · exact ⟨isHeadChar_of_isIdentifierChar hident, not_isBlank hident⟩

theorem not_mem {c : Char} (hc : c ∈ marks) (hne : c ≠ ':') : c ∉ name := by
  intro hmem
  rcases h.char hmem with rfl | hident
  · exact hne rfl
  · rw [not_isIdentifierChar_mark hc] at hident
    contradiction

theorem ne_nil : name ≠ [] := by
  cases h with
  | plain hname => exact ne_nil_of_isIdentifier hname
  | cast hname _ => simp

/-- Without the cast it is an identifier. -/
theorem isIdentifier_upToCast : isIdentifier (Text.upToCast name) = true := by
  cases h with
  | plain hname =>
    rwa [Text.upToCast_of_not_mem (not_mem_of_isIdentifier hname (by decide))]
  | cast hname _ =>
    rwa [Text.upToCast_cast (not_mem_of_isIdentifier hname (by decide))]

theorem isName : Head.isName name = true := by
  have hchars : name.all isNameChar = true := by
    rw [List.all_eq_true]
    intro c hc
    rcases h.char hc with rfl | hident
    · decide
    · simp only [isIdentifierChar, Bool.or_eq_true] at hident
      simp only [isNameChar, Bool.or_eq_true]
      exact Or.inl (Or.inl hident)
  have hempty : name.isEmpty = false := by simpa using h.ne_nil
  rw [Head.isName, hempty, hchars, Bool.or_eq_true]
  exact Or.inr rfl

/-- No lone colon is in the name, whatever hints follow. -/
theorem splitAtLoneColon_append {rest : Text} (hrest : ':' ∉ rest) :
    Segment.splitAtLoneColon false (name ++ rest) = none ∧ (name ++ rest).head? ≠ some ':' := by
  have hfirst : ∀ name : Text, isIdentifier name = true → ∀ rest : Text,
      (name ++ rest).head? ≠ some ':' := by
    intro name hname rest hhead
    obtain ⟨c, cs, rfl⟩ := List.exists_cons_of_ne_nil (ne_nil_of_isIdentifier hname)
    obtain rfl := Option.some.inj hhead
    exact not_mem_of_isIdentifier hname (by decide) List.mem_cons_self
  cases h with
  | plain hname =>
    have hcolon : ':' ∉ name ++ rest := by
      rw [List.mem_append, not_or]
      exact ⟨not_mem_of_isIdentifier hname (by decide), hrest⟩
    exact ⟨Segment.splitAtLoneColon_of_not_mem hcolon false, hfirst name hname rest⟩
  | @cast name type hname htype =>
    have hcolon : ':' ∉ type ++ rest := by
      rw [List.mem_append, not_or]
      exact ⟨not_mem_of_isIdentifier htype (by decide), hrest⟩
    rw [List.append_assoc]
    exact ⟨Segment.splitAtLoneColon_cast (not_mem_of_isIdentifier hname (by decide)) hcolon,
      hfirst name hname _⟩

end IsColumnName

/-! ## 2. Named heads -/

/-- The name is a column name, or it is `*` or `count()` without hints;
alias and hints are identifiers. -/
structure IsNamed (head : Head) : Prop where
  aliasName : ∀ text ∈ head.aliasName, isIdentifier text = true
  name : IsColumnName head.name ∨
    head.hints = [] ∧ (head.name = ['*'] ∨ head.name = "count()".toList)
  hints : ∀ text ∈ head.hints, isIdentifier text = true

instance : DecidablePred IsNamed := fun _ =>
  decidable_of_iff (_ ∧ _ ∧ _)
    ⟨fun h => ⟨h.1, h.2.1, h.2.2⟩, fun h => ⟨h.aliasName, h.name, h.hints⟩⟩

/-- A segment begins with its name; behind that, hints bring no other
marks. -/
theorem exists_segment_eq (head : Head) (hhints : ∀ text ∈ head.hints, isIdentifier text = true) :
    ∃ rest, head.segment = head.name ++ rest ∧
      ∀ c ∈ rest, c = '!' ∨ isIdentifierChar c = true := by
  rw [segment]
  rcases hparts : head.hints with _ | ⟨hint, hints⟩
  · exact ⟨[], by rw [List.append_nil, Text.join], by simp⟩
  · refine ⟨'!' :: Text.join '!' (hint :: hints), Text.join_cons (by simp), ?_⟩
    intro c hc
    rcases List.mem_cons.1 hc with rfl | hc
    · exact Or.inl rfl
    · rcases Text.mem_join hc with rfl | ⟨text, htext, hc⟩
      · exact Or.inl rfl
      · exact Or.inr (isIdentifierChar_of_mem (hhints text (hparts ▸ htext)) hc)

namespace IsNamed

variable {head : Head} (h : head.IsNamed)
include h

theorem hint_not_mem_name : '!' ∉ head.name := by
  rcases h.name with hname | ⟨-, hname | hname⟩
  · exact hname.not_mem (by decide) (by decide)
  · rw [hname]
    decide
  · rw [hname]
    decide

theorem splitAtLoneColon_segment :
    Segment.splitAtLoneColon false head.segment = none ∧ head.segment.head? ≠ some ':' := by
  obtain ⟨rest, hsegment, hrest⟩ := exists_segment_eq head h.hints
  have hcolon : ':' ∉ rest := by
    intro hmem
    rcases hrest _ hmem with heq | hident
    · contradiction
    · rw [not_isIdentifierChar_mark (by decide)] at hident
      contradiction
  rcases h.name with hname | ⟨hhints, hname | hname⟩
  · rw [hsegment]
    exact hname.splitAtLoneColon_append hcolon
  · rw [segment, hhints, hname, Text.join]
    decide
  · rw [segment, hhints, hname, Text.join]
    decide

theorem splitAlias_spelled :
    Segment.splitAlias head.spelled = (head.aliasName, head.segment) :=
  Head.splitAlias_spelled
    (fun text htext => not_mem_of_isIdentifier (h.aliasName text htext) (by decide))
    h.splitAtLoneColon_segment.1 h.splitAtLoneColon_segment.2

/-- A segment refers to the name of its head without the cast. -/
theorem bareName_segment : Segment.bareName head.segment = Text.upToCast head.name := by
  rw [Segment.bareName, Segment.stripHints, upTo_segment h.hint_not_mem_name]

theorem segment_ne_nil : head.segment ≠ [] := by
  obtain ⟨rest, hsegment, -⟩ := exists_segment_eq head h.hints
  have hname : head.name ≠ [] := by
    rcases h.name with hname | ⟨-, hname | hname⟩
    · exact hname.ne_nil
    · simp [hname]
    · simp [hname]
  simp [hsegment, hname]

end IsNamed

/-- The parts of a named head are read back from its text. -/
theorem ofWritten_named {head : Head} (h : head.IsNamed) :
    ofWritten head.spelled = { head with written := head.spelled } :=
  ofWritten_of_splitAlias h.splitAlias_spelled (splitOn_segment h.hint_not_mem_name h.hints)

/-! ## 3. Their texts -/

theorem IsNamed.isValid {head : Head} (h : head.IsNamed) (hname : isName head.name = true) :
    head.isValid = true := by
  have halias : head.aliasName.all isIdentifier = true := by
    rcases htext : head.aliasName with _ | text
    · rfl
    · exact h.aliasName text htext
  rw [Head.isValid, halias, hname, List.all_eq_true.2 h.hints]
  rfl

/-- The text is within one head if the name is. -/
theorem IsNamed.headChar_of_mem_spelled {head : Head} (h : head.IsNamed)
    (hname : ∀ c ∈ head.name, isHeadChar c = true ∧ Unicode.isBlank c = false) :
    ∀ c ∈ head.spelled, isHeadChar c = true ∧ Unicode.isBlank c = false := by
  have hident : ∀ c, isIdentifierChar c = true →
      isHeadChar c = true ∧ Unicode.isBlank c = false := fun c hc =>
    ⟨isHeadChar_of_isIdentifierChar hc, not_isBlank hc⟩
  have hsegment : ∀ c ∈ head.segment, isHeadChar c = true ∧ Unicode.isBlank c = false := by
    intro c hc
    obtain ⟨rest, heq, hrest⟩ := exists_segment_eq head h.hints
    rw [heq] at hc
    rcases List.mem_append.1 hc with hc | hc
    · exact hname c hc
    · rcases hrest c hc with rfl | hc
      · decide
      · exact hident c hc
  intro c hc
  rw [spelled] at hc
  rcases halias : head.aliasName with _ | text
  · rw [halias] at hc
    exact hsegment c hc
  · rw [halias] at hc
    simp only [List.mem_append, List.mem_cons] at hc
    rcases hc with hc | rfl | hc
    · exact hident c (isIdentifierChar_of_mem (h.aliasName text halias) hc)
    · decide
    · exact hsegment c hc

theorem IsNamed.spelled_ne_nil {head : Head} (h : head.IsNamed) : head.spelled ≠ [] := by
  rw [spelled]
  split
  · simp
  · exact h.segment_ne_nil

/-- Plain heads are named. -/
theorem IsPlain.isNamed {head : Head} (h : head.IsPlain) : head.IsNamed :=
  ⟨h.aliasName, Or.inl (.plain h.name), h.hints⟩

end QueryCache.Head
