/-
QueryCache.Proofs.Statement.Accepted — which merged statements are read.

Without its alias a head is a name with hints, or a count with its `()`.
Such a segment is emitted as it is, under what stands before a lone colon in
it, or under the alias that a collision makes up.  Names may hold arrows and
colons and aliases may not, so the text of an entry is read as a head unless
the entry carries an alias that is no identifier, or one with no name behind
it; then it is refused (`tells_toEntry`).  So a statement merged from leaves
of accepted clauses is accepted exactly when no entry is of that kind
(`parseSelect_merged_iff`).
-/
import QueryCache.Proofs.Select.Grammar
import QueryCache.Proofs.Select.Refused
import QueryCache.Proofs.Statement.ReadBack

namespace QueryCache

/-! ## 1. Segments of accepted clauses -/

namespace Head

/-- The head has the name and the hints of one that was read. -/
structure IsNameable (head : Head) : Prop where
  name : isName head.name = true ∨ head.hints = [] ∧ head.name = "count()".toList
  hints : ∀ text ∈ head.hints, isIdentifier text = true

theorem isNameable_of_isValid {head : Head} (h : head.isValid = true) : head.IsNameable := by
  simp only [isValid, Bool.and_eq_true] at h
  exact ⟨Or.inl h.1.2, List.all_eq_true.1 h.2⟩

/-- What was read has such a name, and stands behind its alias. -/
theorem isNameable_of_parse {c c' : Cursor} {head : Head} (h : parse c = (.ok head, c')) :
    head.IsNameable ∧ Segment.withoutAlias head.written = head.segment := by
  obtain ⟨written, hvalid, rfl | ⟨hcount, rfl⟩⟩ := isValid_of_parse h
  · refine ⟨isNameable_of_isValid hvalid, ?_⟩
    have hparts := Text.join_splitOn '!' (Segment.splitAlias written).2
    rcases hsplit : Text.splitOn '!' (Segment.splitAlias written).2 with _ | ⟨name, hints⟩
    · exact absurd hsplit (Text.splitOn_ne_nil _ _)
    · rw [hsplit] at hparts
      simp only [ofWritten, hsplit, segment, hparts, Segment.withoutAlias]
  · have hspelled := isSpelled_call (isSpelled_ofWritten written) hcount
    have hlegal := isLegal_of_isValid hvalid
    simp only [isCount, Bool.and_eq_true, beq_iff_eq, List.isEmpty_iff] at hcount
    have hname : (ofWritten written).call.name = "count()".toList := by
      rw [call, hcount.1]
      rfl
    have hnamed : (ofWritten written).call.IsNamed :=
      ⟨hlegal.aliasName, Or.inr ⟨hcount.2, Or.inr hname⟩, hlegal.hints⟩
    refine ⟨⟨Or.inr ⟨hcount.2, hname⟩, hlegal.hints⟩, ?_⟩
    rw [hspelled, Segment.withoutAlias, hnamed.splitAlias_spelled]

section

variable {head : Head} (h : head.IsNameable)
include h

theorem IsNameable.hint_not_mem_name : '!' ∉ head.name := by
  rcases h.name with hname | ⟨-, hname⟩
  · exact hint_not_mem_of_isNameText (isName_iff.1 hname)
  · rw [hname]
    decide

theorem IsNameable.splitOn_segment :
    Text.splitOn '!' head.segment = head.name :: head.hints :=
  Head.splitOn_segment h.hint_not_mem_name h.hints

theorem IsNameable.stripHints_segment : Segment.stripHints head.segment = head.name :=
  upTo_segment h.hint_not_mem_name

/-- A segment without lone colon is read as name and hints. -/
theorem IsNameable.ofWritten_segment
    (hcolon : Segment.splitAtLoneColon false head.segment = none) :
    ofWritten head.segment = ⟨head.segment, none, head.name, head.hints⟩ := by
  simp only [ofWritten, Segment.splitAlias, hcolon, h.splitOn_segment]

theorem IsNameable.headChar (hname : isName head.name = true) :
    ∀ c ∈ head.segment, isHeadChar c = true ∧ Unicode.isBlank c = false :=
  headChar_of_parts (isName_iff.1 hname) fun hint hmem => isIdentifier_iff.1 (h.hints hint hmem)

end

end Head

/-- The segment is a head without its alias. -/
def Segment.IsNameable (segment : Text) : Prop :=
  ∃ head : Head, head.IsNameable ∧ head.segment = segment

namespace Segment

/-- A colon in front that is not alone begins a cast. -/
theorem exists_cast {rest : Text} (h : splitAtLoneColon false (':' :: rest) = none) :
    ∃ others, rest = ':' :: others := by
  rw [splitAtLoneColon] at h
  split at h
  · contradiction
  · rename_i hlone
    simpa [List.head?_eq_some_iff] using hlone

/-- What a segment without lone colon refers to has no colon. -/
theorem colon_not_mem_bareName {segment : Text} (h : splitAtLoneColon false segment = none) :
    ':' ∉ bareName segment := by
  rw [bareName, stripHints]
  induction segment with
  | nil => simp [Text.upTo, Text.upToCast]
  | cons c rest ih =>
    by_cases hc : c = ':'
    · subst hc
      obtain ⟨others, rfl⟩ := exists_cast h
      simp [Text.upTo, Text.upToCast]
    · rw [splitAtLoneColon, if_neg fun hlone => hc hlone.1, Option.map_eq_none_iff,
        decide_eq_false hc] at h
      rw [Text.upTo, List.takeWhile_cons]
      split
      · rw [Text.upToCast, List.mem_cons, not_or]
        · exact ⟨Ne.symm hc, ih h⟩
        · exact fun _ heq _ => hc heq
      · simp [Text.upToCast]

/-- Colons behind a colon are not alone either. -/
theorem splitAtLoneColon_append_cast {front rest : Text} (hfront : ':' ∉ front)
    (h : splitAtLoneColon false (':' :: rest) = none) :
    splitAtLoneColon false (front ++ ':' :: ':' :: rest) = none := by
  induction front with
  | nil =>
    obtain ⟨others, rfl⟩ := exists_cast h
    simp only [splitAtLoneColon, List.head?_cons, reduceCtorEq, and_false, if_false,
      decide_true, Option.map_eq_none_iff, List.nil_append, ne_eq, not_true_eq_false] at h ⊢
    exact h
  | cons c front ih =>
    rw [List.mem_cons, not_or] at hfront
    have hc : c ≠ ':' := Ne.symm hfront.1
    rw [List.cons_append, splitAtLoneColon, if_neg fun hlone => hc hlone.1, decide_eq_false hc,
      ih hfront.2]
    rfl

end Segment

/-! ## 2. Texts of entries -/

/-- An alias of the entry is an identifier, and a name stands behind it. -/
def Entry.IsReadable (entry : Entry) : Prop :=
  ∀ text ∈ entry.aliasName, Head.isIdentifier text = true ∧ Segment.stripHints entry.path ≠ []

instance : DecidablePred Entry.IsReadable := fun _ =>
  inferInstanceAs (Decidable (∀ _ ∈ _, _))

namespace Head

open GroupedPath (Tells)

variable {head : Head} (h : head.IsNameable)

/-- Whether a text within one head is read depends on its parts alone. -/
theorem tells_of_chars {entry : Entry} (hne : entry.declaration ≠ [])
    (hchars : ∀ c ∈ entry.declaration, isHeadChar c = true ∧ Unicode.isBlank c = false)
    (hvalid : (ofWritten entry.declaration).isValid = true ↔ entry.IsReadable) :
    Tells Entry.IsReadable entry := by
  by_cases hentry : entry.IsReadable
  · exact Or.inl ⟨hentry, readsBack_of_chars hne hchars (hvalid.2 hentry)⟩
  · refine Or.inr ⟨hentry, isRefused_of_chars hne hchars ?_⟩
    rw [← Bool.not_eq_true, hvalid]
    exact hentry

theorem isName_iff_chars {name : Text} :
    isName name = true ↔ name = ['*'] ∨ name ≠ [] ∧ ∀ c ∈ name, isNameChar c = true := by
  simp [isName]

theorem ne_nil_of_isName {name : Text} (h : isName name = true) : name ≠ [] := by
  rintro rfl
  simp [isName] at h

include h

theorem IsNameable.isValid (hname : isName head.name = true) {written : Text}
    {aliasName : Option Text} (halias : aliasName.all isIdentifier = true) :
    isValid ⟨written, aliasName, head.name, head.hints⟩ = true := by
  rw [Head.isValid, halias, hname, List.all_eq_true.2 h.hints]
  rfl

/-- A segment without lone colon is read. -/
theorem IsNameable.tells_segment
    (hcolon : Segment.splitAtLoneColon false head.segment = none) :
    Tells Entry.IsReadable ⟨head.segment, head.segment, none⟩ := by
  refine Or.inl ⟨by simp [Entry.IsReadable], ?_⟩
  rcases h.name with hname | ⟨hhints, hname⟩
  · refine readsBack_of_chars ?_ (h.headChar hname) ?_
    · exact Text.join_ne_nil (ne_nil_of_isName hname) head.hints
    · rw [h.ofWritten_segment hcolon]
      exact h.isValid hname rfl
  · have hcount : IsNamed ⟨head.segment, none, head.name, head.hints⟩ :=
      ⟨by simp, Or.inr ⟨hhints, Or.inr hname⟩, h.hints⟩
    exact readsBack_named hcount

/-- Hints follow a name in the same way whatever it is, and bring no
colon. -/
theorem IsNameable.exists_tail :
    ∃ tail, (∀ name, segment { head with name } = name ++ tail) ∧ ':' ∉ tail := by
  rcases hhints : head.hints with _ | ⟨hint, hints⟩
  · exact ⟨[], fun name => by simp [segment, Text.join], by simp⟩
  · refine ⟨'!' :: Text.join '!' (hint :: hints),
      fun name => Text.join_cons (List.cons_ne_nil _ _), ?_⟩
    intro hmem
    rcases List.mem_cons.1 hmem with heq | hmem
    · contradiction
    · rcases Text.mem_join hmem with heq | ⟨text, htext, hmem⟩
      · contradiction
      · exact not_mem_of_isIdentifier (h.hints text (hhints ▸ htext)) (by decide) hmem

/-- A lone colon of the segment is one of its name. -/
theorem IsNameable.exists_name {aliasName rest : Text}
    (hsegment : head.segment = aliasName ++ ':' :: rest) :
    ∃ name, head.name = aliasName ++ ':' :: name ∧ rest = segment { head with name } := by
  obtain ⟨tail, htail, hchars⟩ := h.exists_tail
  have hwhole : head.name ++ tail = aliasName ++ ':' :: rest :=
    (htail head.name).symm.trans hsegment
  rcases List.append_eq_append_iff.1 hwhole with ⟨front, -, hfront⟩ | ⟨front, hname, hrest⟩
  · exact absurd (hfront ▸ by simp) hchars
  · rcases front with _ | ⟨c, name⟩
    · exact absurd (show ':' ∈ tail by rw [List.nil_append] at hrest; rw [← hrest]; simp) hchars
    · obtain ⟨rfl, rfl⟩ := List.cons.inj hrest
      exact ⟨name, hname, (htail name).symm⟩

/-- One with a lone colon is read as alias and name if it can be. -/
theorem IsNameable.tells_split {aliasName rest : Text}
    (hcolon : Segment.splitAtLoneColon false head.segment = some (aliasName, rest)) :
    Tells Entry.IsReadable ⟨aliasName ++ ':' :: rest, rest, some aliasName⟩ := by
  have hsegment := Segment.append_of_splitAtLoneColon hcolon
  obtain ⟨name, hname, rfl⟩ := h.exists_name hsegment
  have hwhole : isName head.name = true := by
    refine h.name.resolve_right fun hcount => ?_
    have hmem : ':' ∈ head.name := by
      rw [hname]
      simp
    rw [hcount.2] at hmem
    exact absurd hmem (by decide)
  have hrest : isName name = true ↔ name ≠ [] := by
    refine ⟨ne_nil_of_isName, fun hne => ?_⟩
    rw [isName_iff_chars] at hwhole ⊢
    rcases hwhole with hstar | ⟨-, hchars⟩
    · rw [hstar] at hname
      exact absurd (congrArg (':' ∈ ·) hname) (by simp)
    · exact Or.inr ⟨hne, fun c hc => hchars c (by rw [hname]; simp [hc])⟩
  have hhint : '!' ∉ name := fun hmem => h.hint_not_mem_name (by rw [hname]; simp [hmem])
  have hparts : Text.splitOn '!' (segment { head with name }) = name :: head.hints :=
    @Head.splitOn_segment { head with name } hhint h.hints
  have hread : ofWritten (aliasName ++ ':' :: segment { head with name }) =
      ⟨aliasName ++ ':' :: segment { head with name }, some aliasName, name, head.hints⟩ := by
    rw [← hsegment]
    simp only [ofWritten, Segment.splitAlias, hcolon, hparts]
  refine tells_of_chars (by simp) ?_ ?_
  · rw [← hsegment]
    exact h.headChar hwhole
  · have hstrip : Segment.stripHints (segment { head with name }) = name :=
      @upTo_segment { head with name } hhint
    simp only [hread, Head.isValid, Option.all_some, List.all_eq_true.2 h.hints, Bool.and_true,
      Bool.and_eq_true, hrest, Entry.IsReadable, Option.mem_some, forall_eq', hstrip]

/-- Behind a front and a colon a cast makes the front part of the name. -/
theorem IsNameable.readsBack_of_cast (hname : isName head.name = true)
    (hcolon : Segment.splitAtLoneColon false head.segment = none)
    (hfirst : head.segment.head? = some ':') {front : Text}
    (hfront : ∀ c ∈ front, isIdentifierChar c = true) :
    ReadsBack (front ++ ':' :: head.segment) := by
  obtain ⟨tail, htail, -⟩ := h.exists_tail
  let longer : Head := { head with name := front ++ ':' :: head.name }
  have hsegment : head.segment = head.name ++ tail := htail head.name
  have hlonger : longer.segment = front ++ ':' :: head.segment := by
    rw [hsegment]
    exact (htail _).trans (by simp)
  have hchars : ∀ c ∈ head.name, isNameChar c = true := by
    rcases isName_iff_chars.1 hname with hstar | ⟨-, hchars⟩
    · rw [hsegment, hstar] at hfirst
      exact absurd (Option.some.inj hfirst) (by decide)
    · exact hchars
  have hnameable : longer.IsNameable := by
    refine ⟨Or.inl (isName_iff_chars.2 (Or.inr ⟨by simp [longer], fun c hc => ?_⟩)), h.hints⟩
    rcases List.mem_append.1 hc with hc | hc
    · have hident := hfront c hc
      simp only [isIdentifierChar, Bool.or_eq_true] at hident
      simp only [isNameChar, Bool.or_eq_true, hident, true_or]
    · rcases List.mem_cons.1 hc with rfl | hc
      · decide
      · exact hchars c hc
  have hnone : Segment.splitAtLoneColon false longer.segment = none := by
    obtain ⟨rest, hrest⟩ := List.head?_eq_some_iff.1 hfirst
    rw [hlonger, hrest]
    refine Segment.splitAtLoneColon_append_cast (fun hmem => ?_) (hrest ▸ hcolon)
    have hident := hfront _ hmem
    rw [not_isIdentifierChar_mark (by decide)] at hident
    contradiction
  rw [← hlonger]
  exact (hnameable.tells_segment hnone).readsBack (by simp [Entry.IsReadable])

/-- Under the alias that a collision makes up a segment is read if the name
that it refers to may stand in an alias. -/
theorem IsNameable.tells_collision
    (hcolon : Segment.splitAtLoneColon false head.segment = none) (hname : isName head.name = true)
    (number : Nat) :
    Tells Entry.IsReadable ⟨dedupeAlias number (Segment.bareName head.segment) ++
      ':' :: head.segment, head.segment,
      some (dedupeAlias number (Segment.bareName head.segment))⟩ := by
  have hbare : Segment.bareName head.segment = Text.upToCast head.name := by
    rw [Segment.bareName, h.stripHints_segment]
  have hnone := Segment.colon_not_mem_bareName hcolon
  have halias : ':' ∉ dedupeAlias number (Segment.bareName head.segment) := by
    intro hmem
    rcases char_of_mem_dedupeAlias hmem with hident | hmem
    · rw [not_isIdentifierChar_mark (by decide)] at hident
      contradiction
    · exact hnone hmem
  by_cases hfirst : head.segment.head? = some ':'
  · -- The segment begins with its cast, and refers to nothing.
    obtain ⟨rest, hrest⟩ := List.head?_eq_some_iff.1 hfirst
    obtain ⟨others, rfl⟩ := Segment.exists_cast (hrest ▸ hcolon)
    have hempty : Segment.bareName head.segment = [] := by
      rw [hrest]
      simp [Segment.bareName, Segment.stripHints, Text.upTo, Text.upToCast]
    have hident : ∀ c ∈ dedupeAlias number [], isIdentifierChar c = true := fun c hc =>
      (char_of_mem_dedupeAlias hc).elim id (by simp)
    rw [hempty]
    refine Or.inl ⟨?_, h.readsBack_of_cast hname hcolon hfirst hident⟩
    rintro text ⟨⟩
    exact ⟨isIdentifier_dedupeAlias number (by simp),
      h.stripHints_segment.symm ▸ ne_nil_of_isName hname⟩
  · have hsplit : Segment.splitAlias
        (dedupeAlias number (Segment.bareName head.segment) ++ ':' :: head.segment) =
          (some (dedupeAlias number (Segment.bareName head.segment)), head.segment) := by
      rw [Segment.splitAlias, Segment.splitAtLoneColon_append halias hfirst]
    refine tells_of_chars (by simp) ?_ ?_
    · intro c hc
      rcases List.mem_append.1 hc with hc | hc
      · rcases char_of_mem_dedupeAlias hc with hident | hc
        · exact ⟨isHeadChar_of_isIdentifierChar hident, not_isBlank hident⟩
        · exact headChar_of_isNameText (isName_iff.1 hname) c
            (Text.mem_of_mem_upToCast (hbare ▸ hc))
      · rcases List.mem_cons.1 hc with rfl | hc
        · decide
        · exact h.headChar hname c hc
    · have hne := ne_nil_of_isName hname
      simp only [ofWritten, hsplit, h.splitOn_segment, Head.isValid, Option.all_some, hname,
        List.all_eq_true.2 h.hints, Bool.and_true, Entry.IsReadable, Option.mem_some, forall_eq',
        h.stripHints_segment, ne_eq, hne, not_false_eq_true, and_true]

end Head

/-! ## 3. Entries of a tree -/

namespace SelectNode

open GroupedPath (Tells AreToldBy IsToldBy EveryOf)

/-- The entry of a node is told by its alias, if no count collides. -/
theorem tells_toEntry {node : SelectNode} (h : Segment.IsNameable node.declaration)
    {collides : Bool} (hcollides : collides = true →
      node.aliasName = none ∧ node.declaration ≠ "count()".toList) (counter : Nat) :
    Tells Entry.IsReadable (node.toEntry collides counter).1 := by
  obtain ⟨head, hhead, hsegment⟩ := h
  rcases hcolon : Segment.splitAtLoneColon false head.segment with _ | ⟨aliasName, rest⟩
  · have hsplit : Segment.splitAlias node.declaration = (none, head.segment) := by
      rw [← hsegment, Segment.splitAlias, hcolon]
    cases collides with
    | false =>
      have hentry : (node.toEntry false counter).1 = ⟨head.segment, head.segment, none⟩ := by
        simp only [toEntry, aliasName, path, hsplit, Bool.false_eq_true, if_false]
      rw [hentry]
      exact hhead.tells_segment hcolon
    | true =>
      have hname : Head.isName head.name = true := by
        refine hhead.name.resolve_right fun hcount => (hcollides rfl).2 ?_
        rw [← hsegment, Head.segment, hcount.1, hcount.2, Text.join]
      have hentry : (node.toEntry true counter).1 =
          ⟨dedupeAlias counter (Segment.bareName head.segment) ++ ':' :: head.segment,
            head.segment, some (dedupeAlias counter (Segment.bareName head.segment))⟩ := by
        simp only [toEntry, name, path, hsplit, if_true]
      rw [hentry]
      exact hhead.tells_collision hcolon hname counter
  · have hsplit : Segment.splitAlias node.declaration = (some aliasName, rest) := by
      rw [← hsegment, Segment.splitAlias, hcolon]
    cases collides with
    | false =>
      have hentry : (node.toEntry false counter).1 =
          ⟨aliasName ++ ':' :: rest, rest, some aliasName⟩ := by
        simp only [toEntry, SelectNode.aliasName, path, hsplit, Bool.false_eq_true, if_false]
      rw [hentry]
      exact hhead.tells_split hcolon
    | true =>
      have hnone := (hcollides rfl).1
      rw [SelectNode.aliasName, hsplit] at hnone
      contradiction

/-- A node without alias that refers to `count()` and is emitted is the
relation of that name. -/
theorem heading_of_count {node : SelectNode} (h : Segment.IsNameable node.declaration)
    (hvisible : node.isSuppressed = false) (hnone : node.aliasName = none)
    (hname : node.name = "count()".toList) : node.heading = (true, "count()".toList) := by
  obtain ⟨head, hhead, hsegment⟩ := h
  have hpath : node.path = node.declaration :=
    congrArg Prod.snd (Segment.splitAlias_of_none hnone)
  rw [name, hpath, Segment.bareName, ← hsegment, hhead.stripHints_segment] at hname
  have hdeclaration : node.declaration = "count()".toList := by
    rcases hhead.name with hplain | ⟨hhints, hcount⟩
    · have hmem : '(' ∈ head.name :=
        Text.mem_of_mem_upToCast (hname ▸ by decide : '(' ∈ Text.upToCast head.name)
      exact absurd (Head.headChar_of_isNameText (Head.isName_iff.1 hplain) _ hmem).1 (by decide)
    · rw [← hsegment, Head.segment, hhints, hcount, Text.join]
  cases node with
  | leaf index declaration =>
    have heq : declaration = "count()".toList := hdeclaration
    rw [isSuppressed, heq] at hvisible
    exact absurd hvisible (by decide)
  | relation index declaration children => exact Prod.ext rfl hdeclaration

/-- So counts do not collide. -/
theorem ne_count_of_needsAlias {policy : DedupePolicy} {size : Nat} {siblings : List SelectNode}
    (hlevel : IsLevel (fun _ => Segment.IsNameable) size siblings) {node : SelectNode}
    (hneeds : needsAlias policy siblings node = true) :
    node.aliasName = none ∧ node.declaration ≠ "count()".toList := by
  simp only [needsAlias, Bool.and_eq_true, decide_eq_true_eq] at hneeds
  obtain ⟨⟨halias, hmany⟩, -⟩ := hneeds
  rw [Option.isNone_iff_eq_none] at halias
  refine ⟨halias, fun hcount => absurd ?_ (Nat.not_le.2 hmany)⟩
  have hname : node.name = "count()".toList := by
    rw [name, path, hcount]
    decide
  have hheading : ∀ other ∈ group node.name siblings,
      other.heading = (true, "count()".toList) := by
    intro other hother
    simp only [group, List.mem_filter, Bool.and_eq_true, Bool.not_eq_true', beq_iff_eq,
      Option.isNone_iff_eq_none] at hother
    obtain ⟨hmem, ⟨hvisible, hnone⟩, heq⟩ := hother
    exact heading_of_count (hlevel.declared other hmem) hvisible hnone (heq.trans hname)
  exact length_group_le_one_of_heading hlevel.distinct hheading

mutual

/-- A node that is not suppressed emits entries that are told. -/
theorem isToldBy_emit (policy : DedupePolicy) {size : Nat} (chain : EmitChain) (collides : Bool)
    (counter : Nat) : (node : SelectNode) → Segment.IsNameable node.declaration →
    IsOrderly (fun _ => Segment.IsNameable) size node → node.isSuppressed = false →
    (collides = true → node.aliasName = none ∧ node.declaration ≠ "count()".toList) →
    AreToldBy Entry.IsReadable (emit policy chain collides counter node).grouped
  | leaf index declaration, hdeclared, _, _, hcollides => by
    rw [emit, AreToldBy, IsToldBy]
    exact ⟨tells_toEntry hdeclared hcollides counter, trivial⟩
  | relation index declaration children, hdeclared, horderly, hvisible, hcollides => by
    rw [IsOrderly] at horderly
    rw [isSuppressed] at hvisible
    rw [emit, AreToldBy, IsToldBy]
    refine ⟨⟨tells_toEntry hdeclared hcollides counter, fun hnil => ?_, ?_⟩, trivial⟩
    · rw [grouped_eq_nil_iff.1 hnil] at hvisible
      contradiction
    · exact areToldBy_emitList policy _ _ _ children horderly.1.declared horderly.2
        fun node _ => ne_count_of_needsAlias horderly.1

/-- So do the nodes of a level. -/
theorem areToldBy_emitList (policy : DedupePolicy) {size : Nat} (chain : EmitChain)
    (collides : SelectNode → Bool) (counter : Nat) : (nodes : List SelectNode) →
    (∀ node ∈ nodes, Segment.IsNameable node.declaration) →
    AreOrderly (fun _ => Segment.IsNameable) size nodes →
    (∀ node ∈ nodes, collides node = true →
      node.aliasName = none ∧ node.declaration ≠ "count()".toList) →
    AreToldBy Entry.IsReadable (emitList policy chain collides counter nodes).grouped
  | [], _, _, _ => by
    rw [emitList]
    trivial
  | node :: rest, hdeclared, horderly, hcollides => by
    rw [AreOrderly] at horderly
    have hrest : ∀ counter, AreToldBy Entry.IsReadable
        (emitList policy chain collides counter rest).grouped := fun counter =>
      areToldBy_emitList policy chain collides counter rest
        (fun other hmem => hdeclared other (List.mem_cons_of_mem _ hmem)) horderly.2
        (fun other hmem => hcollides other (List.mem_cons_of_mem _ hmem))
    rw [emitList]
    split
    · exact hrest counter
    · rename_i hnode
      exact GroupedPath.areToldBy_append (isToldBy_emit policy chain (collides node) counter node
        (hdeclared node List.mem_cons_self) horderly.1 (by simpa using hnode)
        (hcollides node List.mem_cons_self)) (hrest _)

end

end SelectNode

/-! ## 4. Merged statements -/

/-- The path is a leaf of an accepted clause without its aliases. -/
def Path.IsStripped (path : Path) : Prop :=
  ∃ clause leaves leaf, parseSelect clause = .ok leaves ∧ leaf ∈ leaves ∧
    path = leaf.withoutAlias

/-- The heads of an accepted clause have names, and without its aliases a
leaf is known by their segments. -/
theorem Field.isNameable_of_mem_chainsOf {clause : Text} {fields : List Field}
    (h : selectFields clause = .ok fields) {heads : List Head} (hmem : heads ∈ chainsOf fields) :
    DotlessChain heads ∧ (∀ head ∈ heads, head.IsNameable) ∧
      (Path.ofHeads heads).withoutAlias =
        Path.ofText (Text.join '.' (heads.map (·.segment))) := by
  have hread := all_of_mem_chainsOf fields (selectFields_all
    (p := fun head => head.IsDotless ∧ head.IsSpelled ∧ head.IsNameable ∧
      Segment.withoutAlias head.written = head.segment)
    (fun _ _ _ h => ⟨(Head.isLegal_of_parse h).isDotless, Head.isSpelled_of_parse h,
      Head.isNameable_of_parse h⟩) h) heads hmem
  have hdotless : DotlessChain heads :=
    ⟨chainsOf_ne_nil fields heads hmem, fun head hhead => (hread head hhead).1⟩
  exact ⟨hdotless, fun head hhead => (hread head hhead).2.2.1,
    Path.withoutAlias_eq hdotless (fun head hhead => (hread head hhead).2.1)
      fun head hhead => (hread head hhead).2.2.2⟩

/-- Its segments are those of heads without their aliases. -/
theorem Path.IsStripped.isNameable {path : Path} (h : path.IsStripped) :
    ∀ segment ∈ Text.splitOn '.' path.declaration, Segment.IsNameable segment := by
  obtain ⟨clause, leaves, leaf, hclause, hleaf, rfl⟩ := h
  rcases hfields : selectFields clause with error | fields
  · rw [parseSelect_eq, hfields] at hclause
    contradiction
  · rw [parseSelect_chains hfields, Except.ok.injEq] at hclause
    rw [← hclause] at hleaf
    obtain ⟨heads, hheads, rfl⟩ := List.mem_map.1 hleaf
    obtain ⟨hdotless, hnameable, hstripped⟩ := Field.isNameable_of_mem_chainsOf hfields hheads
    have hsplit : Text.splitOn '.' (Path.ofHeads heads).withoutAlias.declaration =
        heads.map (·.segment) := by
      rw [hstripped]
      exact Path.segments_ofHeads hdotless
    rw [hsplit]
    intro segment hmem
    obtain ⟨head, hhead, rfl⟩ := List.mem_map.1 hmem
    exact ⟨head, hnameable head hhead, rfl⟩

section

variable {paths : List Path}
  (h : ∀ path ∈ paths, ∀ segment ∈ Text.splitOn '.' path.declaration, Segment.IsNameable segment)
  (policy : DedupePolicy)
include h

theorem areToldBy_buildStatement :
    GroupedPath.AreToldBy Entry.IsReadable (buildStatement paths policy).grouped := by
  obtain ⟨hlevel, horderly⟩ := SelectTree.ofPaths_declared
    (p := fun _ => Segment.IsNameable) fun path hmem =>
      SelectNode.isDeclaredChain_of_forall (Text.splitOn_ne_nil _ _)
        fun segment hsegment _ => h path hmem segment hsegment
  exact SelectNode.areToldBy_emitList policy {} _ 0 _ hlevel.declared horderly
    fun node _ => SelectNode.ne_count_of_needsAlias hlevel

/-- A statement of such segments is read exactly when all its entries can be,
and then as the fields that they spell. -/
theorem selectFields_buildStatement_iff {fields : List Field} :
    selectFields (buildStatement paths policy).statement = .ok fields ↔
      GroupedPath.EveryOf Entry.IsReadable (buildStatement paths policy).grouped ∧
        fields = GroupedPath.toFields (buildStatement paths policy).grouped :=
  GroupedPath.selectFields_statement_iff (areToldBy_buildStatement h policy)

theorem parseSelect_buildStatement_iff :
    (∃ leaves, parseSelect (buildStatement paths policy).statement = .ok leaves) ↔
      GroupedPath.EveryOf Entry.IsReadable (buildStatement paths policy).grouped := by
  constructor
  · rintro ⟨leaves, hread⟩
    rcases hfields : selectFields (buildStatement paths policy).statement with error | fields
    · rw [parseSelect_eq, hfields] at hread
      contradiction
    · exact ((selectFields_buildStatement_iff h policy).1 hfields).1
  · intro hall
    exact ⟨_, parseSelect_chains ((selectFields_buildStatement_iff h policy).2 ⟨hall, rfl⟩)⟩

end

/-- The leaves of accepted clauses, one clause after the other. -/
theorem exists_clause_of_mem {clauses : List Text} {leaves : List (List Path)}
    (h : clauses.mapM parseSelect = .ok leaves) :
    ∀ level ∈ leaves, ∃ clause, parseSelect clause = .ok level := by
  induction clauses generalizing leaves with
  | nil =>
    obtain rfl : [] = leaves := Except.ok.inj h
    simp
  | cons clause rest ih =>
    rw [List.mapM_cons] at h
    rcases hfirst : parseSelect clause with error | first
    · rw [hfirst] at h
      contradiction
    · rcases hothers : rest.mapM parseSelect with error | others
      · rw [hfirst, hothers] at h
        contradiction
      · rw [hfirst, hothers] at h
        obtain rfl : first :: others = leaves := Except.ok.inj h
        intro level hmem
        rcases List.mem_cons.1 hmem with rfl | hmem
        · exact ⟨clause, hfirst⟩
        · exact ih hothers level hmem

/-- The statement merged from the leaves of accepted clauses is accepted
exactly when every alias in it is an identifier with a name behind it. -/
theorem parseSelect_merged_iff {clauses : List Text} {leaves : List (List Path)}
    (h : clauses.mapM parseSelect = .ok leaves) (policy : DedupePolicy) :
    (∃ paths, parseSelect
        (buildStatement (leaves.flatten.map Path.withoutAlias) policy).statement = .ok paths) ↔
      GroupedPath.EveryOf Entry.IsReadable
        (buildStatement (leaves.flatten.map Path.withoutAlias) policy).grouped := by
  have hstripped : ∀ path ∈ leaves.flatten.map Path.withoutAlias, path.IsStripped := by
    intro path hmem
    obtain ⟨leaf, hleaf, rfl⟩ := List.mem_map.1 hmem
    obtain ⟨level, hlevel, hleaf⟩ := List.mem_flatten.1 hleaf
    obtain ⟨clause, hclause⟩ := exists_clause_of_mem h level hlevel
    exact ⟨clause, level, leaf, hclause, hleaf, rfl⟩
  exact parseSelect_buildStatement_iff (fun path hmem => (hstripped path hmem).isNameable) policy

/-! ## 5. Arrows -/

/-- All characters of the text may stand in a head, and none is a blank. -/
def Head.isStretch (written : Text) : Bool :=
  written.all fun c => isHeadChar c && !Unicode.isBlank c

theorem Head.char_of_isStretch {written : Text} (h : isStretch written = true) :
    ∀ c ∈ written, isHeadChar c = true ∧ Unicode.isBlank c = false := by
  simpa [isStretch] using h

/-- Clauses of columns. -/
def columnClauses (columns : List (List String)) : List Text :=
  columns.map fun names => Text.join ',' (names.map String.toList)

/-- The leaves of each. -/
def columnLeaves (columns : List (List String)) : List (List Path) :=
  columns.map fun names => (names.map String.toList).map fun name =>
    Path.ofHeads [Head.ofWritten name]

theorem mapM_parseSelect_columns {columns : List (List String)}
    (h : ∀ names ∈ columns, names ≠ [] ∧ ∀ name ∈ names, name.toList ≠ [] ∧
      Head.isStretch name.toList = true ∧ (Head.ofWritten name.toList).isValid = true) :
    (columnClauses columns).mapM parseSelect = .ok (columnLeaves columns) := by
  induction columns with
  | nil => rfl
  | cons names rest ih =>
    obtain ⟨hne, hnames⟩ := h names List.mem_cons_self
    have hfirst : parseSelect (Text.join ',' (names.map String.toList)) =
        .ok ((names.map String.toList).map fun name => Path.ofHeads [Head.ofWritten name]) := by
      refine parseSelect_heads (by simpa using hne) fun name hmem => ?_
      obtain ⟨written, hwritten, rfl⟩ := List.mem_map.1 hmem
      obtain ⟨hne, hchars, hvalid⟩ := hnames written hwritten
      exact Head.readsBack_of_chars hne (Head.char_of_isStretch hchars) hvalid
    rw [columnClauses, List.map_cons, List.mapM_cons, hfirst, ← columnClauses,
      ih fun other hmem => h other (List.mem_cons_of_mem _ hmem)]
    rfl

/-- Parts of a JSON column, and a number that is selected in two ways. -/
def arrowColumns : List (List String) :=
  [["data->a", "id"], ["data->b::text", "id::text"]]

/-- What collides is an identifier, so the statement of both is accepted. -/
theorem parseSelect_merged_arrowColumns :
    (columnClauses arrowColumns).mapM parseSelect = .ok (columnLeaves arrowColumns) ∧
      ((∃ paths, parseSelect (buildStatement ((columnLeaves arrowColumns).flatten.map
          Path.withoutAlias) preferUnhintedRelation).statement = .ok paths) ↔
        GroupedPath.EveryOf Entry.IsReadable (buildStatement
          ((columnLeaves arrowColumns).flatten.map Path.withoutAlias)
            preferUnhintedRelation).grouped) ∧
      ∃ paths, parseSelect "data->a,id,data->b::text,d_0_id:id::text".toList = .ok paths := by
  have hread : (columnClauses arrowColumns).mapM parseSelect = .ok (columnLeaves arrowColumns) :=
    mapM_parseSelect_columns (by decide +kernel)
  have hiff := parseSelect_merged_iff hread preferUnhintedRelation
  have hstatement : (buildStatement ((columnLeaves arrowColumns).flatten.map Path.withoutAlias)
      preferUnhintedRelation).statement = "data->a,id,data->b::text,d_0_id:id::text".toList := by
    decide +kernel
  refine ⟨hread, hiff, ?_⟩
  rw [← hstatement]
  exact hiff.2 (by decide +kernel)

/-- One column and its cast share a name that no alias may have. -/
def castColumns : List (List String) :=
  [["data->a", "data->a::text"]]

/-- The statement of both gets an alias with an arrow, and is refused. -/
theorem castColumns_refused :
    (columnClauses castColumns).mapM parseSelect = .ok (columnLeaves castColumns) ∧
      (buildStatement ((columnLeaves castColumns).flatten.map Path.withoutAlias)).statement =
        "data->a,d_0_data->a:data->a::text".toList ∧
      ∀ paths, parseSelect "data->a,d_0_data->a:data->a::text".toList ≠ .ok paths := by
  refine ⟨mapM_parseSelect_columns (by decide +kernel), by decide +kernel, fun paths hread => ?_⟩
  let entries : List GroupedPath := [.leaf ⟨"data->a".toList, "data->a".toList, none⟩,
    .leaf ⟨"d_0_data->a:data->a::text".toList, "data->a::text".toList, some "d_0_data->a".toList⟩]
  have htold : GroupedPath.AreToldBy Entry.IsReadable entries :=
    ⟨Or.inl ⟨by decide, Head.readsBack_of_chars (by decide)
        (Head.char_of_isStretch (by decide +kernel)) (by decide +kernel)⟩,
      Or.inr ⟨by decide +kernel, Head.isRefused_of_chars (by decide)
        (Head.char_of_isStretch (by decide +kernel)) (by decide +kernel)⟩, trivial⟩
  rcases hfields : selectFields "data->a,d_0_data->a:data->a::text".toList with error | fields
  · rw [parseSelect_eq, hfields] at hread
    contradiction
  · have hall := ((GroupedPath.selectFields_statement_iff htold).1 hfields).1
    exact absurd hall (by decide +kernel)

end QueryCache
