/-
QueryCache.Proofs.Filter.Members — where the members of a group are cut.

Nothing in a member `column.[not.]op.operand` of a group says where its column
ends.  The member is cut in front of the first segment behind the first one
that is named like an operator, or in front of a `not` that such a segment
follows.  That is behind the column unless the column has such a segment
itself (`IsCutEarly`).  A member that is cut early is refused or read as a
condition on a shorter column (`shorter_of_parseMember`).
-/
import QueryCache.Proofs.Filter.Entries
import QueryCache.Proofs.Filter.Groups

namespace QueryCache

/-! ## 1. Members -/

/-- A part of a list that is cut nowhere, with no blanks around it. -/
structure IsMember (text : Text) : Prop where
  item : TopLevel.IsItem text
  ne_nil : text ≠ []
  first : ∀ c ∈ text.head?, Unicode.isBlank c = false
  last : ∀ c ∈ text.getLast?, Unicode.isBlank c = false

namespace IsMember

theorem of_isWritten {text : Text} (h : IsWritten text) : IsMember text :=
  ⟨h.item, h.ne_nil, h.first, h.last⟩

theorem trim {text : Text} (h : IsMember text) : Text.trim text = text :=
  Text.trim_eq_self h.first h.last

theorem append {front back : Text} (hfront : IsMember front) (hback : IsMember back) :
    IsMember (front ++ back) where
  item := hfront.item.append hback.item
  ne_nil := List.append_ne_nil_of_left_ne_nil hfront.ne_nil back
  first := by
    rw [List.head?_append_of_ne_nil front hfront.ne_nil]
    exact hfront.first
  last := by
    rw [List.getLast?_append_of_ne_nil front hback.ne_nil]
    exact hback.last

/-- Between double quotes a text may hold anything but these. -/
theorem quoted {text : Text} (h : '"' ∉ text) : IsMember ('"' :: (text ++ ['"'])) where
  item := TopLevel.isItem_quoted h
  ne_nil := List.cons_ne_nil _ _
  first := (Text.ends_enclosed (by decide) (by decide) text).1
  last := (Text.ends_enclosed (by decide) (by decide) text).2

end IsMember

/-- A dotted column of identifiers. -/
def IsIdentifierPath (column : Text) : Prop :=
  ∀ segment ∈ Text.splitOn '.' column, Head.isIdentifier segment = true

instance : DecidablePred IsIdentifierPath := fun column =>
  inferInstanceAs (Decidable (∀ segment ∈ Text.splitOn '.' column,
    Head.isIdentifier segment = true))

theorem IsIdentifierPath.isMember {column : Text} (h : IsIdentifierPath column) :
    IsMember column :=
  .of_isWritten (isWritten_of_identifiers h)

/-- A member is a column and its expression. -/
theorem IsIdentifierPath.isMember_append {column expression : Text} (h : IsIdentifierPath column)
    (hexpression : IsMember expression) : IsMember (column ++ '.' :: expression) := by
  have hdot : IsMember ['.'] := .of_isWritten (isWritten_word (by decide) (by decide))
  have htext := (h.isMember.append hdot).append hexpression
  rwa [List.append_assoc] at htext

theorem isMember_spell {operand : Text} (h : IsMember operand) (operator : FilterOperator)
    (negated : Bool) : IsMember (operator.spell negated operand) := by
  have hname : IsMember (operator.name ++ ['.'] ++ operand) :=
    (IsMember.of_isWritten ((isWritten_word operator.name_plain.1 operator.name_plain.2.1).append
      (isWritten_word (by decide) (by decide)))).append h
  rw [List.append_assoc] at hname
  rw [FilterOperator.spell]
  split
  · exact (IsMember.of_isWritten (isWritten_word (by decide) (by decide))).append hname
  · exact hname

/-! ## 2. The cut -/

/-- The cut stops within the column: at a segment behind the first one that is
named like an operator, or at a `not` at its end that the operator follows. -/
def IsCutEarly (column : Text) (negated : Bool) : Prop :=
  (∃ segment ∈ (Text.splitOn '.' column).tail, isOperator segment = true) ∨
    negated = false ∧ (Text.splitOn '.' column).tail.getLast? = some "not".toList

instance (column : Text) (negated : Bool) : Decidable (IsCutEarly column negated) :=
  inferInstanceAs (Decidable ((∃ segment ∈ (Text.splitOn '.' column).tail,
    isOperator segment = true) ∨
      negated = false ∧ (Text.splitOn '.' column).tail.getLast? = some "not".toList))

/-- The first place where the cut may stop is within the column or behind it;
it is behind it if the column has no such place. -/
theorem exists_go_append {expression : List Text}
    (h : splitAtOperator.go expression = some ([], expression)) (column : List Text) :
    ∃ cut rest, splitAtOperator.go (column ++ expression) = some (cut, rest) ∧
      cut ++ rest = column ++ expression ∧ cut.length ≤ column.length ∧
      (cut.length = column.length ↔
        ¬((∃ segment ∈ column, isOperator segment = true) ∨
          expression.head?.any isOperator = true ∧ column.getLast? = some "not".toList)) := by
  induction column with
  | nil => exact ⟨[], expression, h, rfl, Nat.le_refl _, by simp⟩
  | cons segment column ih =>
    obtain ⟨cut, rest, hgo, hcut, hle, hiff⟩ := ih
    rw [List.cons_append, splitAtOperator.go]
    split
    · rename_i hstop
      refine ⟨[], _, rfl, rfl, Nat.zero_le _, by simp, fun hno => (hno ?_).elim⟩
      -- A `not` is followed by a segment of the column, or by the expression.
      simp only [Bool.or_eq_true, Bool.and_eq_true, beq_iff_eq] at hstop
      rcases hstop with hoperator | ⟨rfl, hnext⟩
      · exact Or.inl ⟨segment, List.mem_cons_self, hoperator⟩
      · cases column with
        | nil => exact Or.inr ⟨hnext, rfl⟩
        | cons next column =>
          exact Or.inl ⟨next, List.mem_cons_of_mem _ List.mem_cons_self, by simpa using hnext⟩
    · rename_i hstays
      simp only [Bool.or_eq_true, Bool.and_eq_true, beq_iff_eq, not_or, not_and] at hstays
      refine ⟨segment :: cut, rest, by rw [hgo]; rfl, by rw [List.cons_append, hcut],
        Nat.succ_le_succ hle, ?_⟩
      rw [List.length_cons, List.length_cons, Nat.add_right_cancel_iff, hiff]
      refine not_congr ?_
      cases column with
      | nil =>
        have hlast : expression.head?.any isOperator = true → segment ≠ "not".toList :=
          fun hhead hnot => hstays.2 hnot hhead
        simpa [hstays.1] using hlast
      | cons next column => simp [hstays.1]

/-- A member is cut behind its column, or within it if that is cut early. -/
theorem exists_splitAtOperator_spell (column : Text) (operator : FilterOperator) (negated : Bool)
    (operand : Text) :
    ∃ cut rest,
      splitAtOperator (Text.splitOn '.' (column ++ '.' :: operator.spell negated operand)) =
        some (cut, rest) ∧
      cut ≠ [] ∧ cut ++ rest =
        Text.splitOn '.' column ++ Text.splitOn '.' (operator.spell negated operand) ∧
      cut.length ≤ (Text.splitOn '.' column).length ∧
      (cut.length = (Text.splitOn '.' column).length ↔ ¬IsCutEarly column negated) := by
  obtain ⟨first, others, hparts, -⟩ := Text.exists_parts '.' column
  obtain ⟨word, more, hexpression, -, hword, hgo⟩ := exists_splitOn_spell operator negated operand
  obtain ⟨cut, rest, hcut, happend, hle, hiff⟩ := exists_go_append hgo others
  refine ⟨first :: cut, rest, ?_, List.cons_ne_nil _ _, ?_, ?_, ?_⟩
  · rw [Text.splitOn_append_sep, hparts, hexpression, List.cons_append, splitAtOperator, hcut]
    rfl
  · rw [hparts, hexpression, List.cons_append, List.cons_append, happend]
  · rw [hparts]
    exact Nat.succ_le_succ hle
  · rw [hparts, List.length_cons, List.length_cons, Nat.add_right_cancel_iff, hiff, IsCutEarly,
      hparts, List.tail_cons]
    simp [hword]

/-! ## 3. Members read -/

/-- What is read as a condition is an expression on the column. -/
theorem exists_spell_of_parseCondition {column expression : Text} {relation : Option Text}
    {offset : Nat} {c : Condition}
    (h : parseCondition column expression relation offset = .ok c) :
    c.path = columnOf relation column ∧ c.aliasChain = none ∧
      ∃ operand, expression = c.operator.spell c.negated operand := by
  unfold parseCondition at h
  split at h
  rename_i negated spelled hcut
  have hexpression : expression = (if negated then "not.".toList else []) ++ spelled := by
    split at hcut
    · rename_i hstrip
      obtain ⟨rfl, rfl⟩ := Prod.mk.inj hcut
      exact Text.stripStart_eq_some_iff.1 hstrip
    · obtain ⟨rfl, rfl⟩ := Prod.mk.inj hcut
      rfl
  split at h
  · contradiction
  · rename_i name operand hsplit
    split at h
    · contradiction
    · rename_i operator hname
      rcases hoperand : parseOperand operator operand offset with error | value
      · rw [hoperand] at h
        contradiction
      · rw [hoperand] at h
        obtain rfl := Except.ok.inj h
        refine ⟨rfl, rfl, operand, ?_⟩
        rw [hexpression, FilterOperator.spell, FilterOperator.name_of_ofName? hname,
          Text.append_of_splitOnce hsplit]

section

variable {column : Text} (operator : FilterOperator) {negated : Bool} (operand : Text)
  (relation : Option Text) (offset : Nat)

/-- A member that is cut behind its column is read as its expression on it. -/
theorem parseMember_spell (h : ¬IsCutEarly column negated) :
    parseMember (column ++ '.' :: operator.spell negated operand) relation offset =
      (parseCondition column (operator.spell negated operand) relation offset).map
        .condition := by
  obtain ⟨cut, rest, hsplit, -, happend, -, hlength⟩ :=
    exists_splitAtOperator_spell column operator negated operand
  obtain ⟨rfl, rfl⟩ := List.append_inj happend (hlength.2 h)
  rw [parseMember, hsplit]
  simp only [Text.join_splitOn]

/-- A member that is cut early is read, if at all, as a condition on a shorter
column. -/
theorem shorter_of_parseMember (h : IsCutEarly column negated) {filter : FilterTree}
    (hread : parseMember (column ++ '.' :: operator.spell negated operand) relation offset =
      .ok filter) :
    ∃ c shorter, filter = .condition c ∧ c.path = columnOf relation shorter ∧
      (Text.splitOn '.' shorter).length < (Text.splitOn '.' column).length := by
  obtain ⟨cut, rest, hsplit, hne, happend, hle, hlength⟩ :=
    exists_splitAtOperator_spell column operator negated operand
  rw [parseMember, hsplit] at hread
  dsimp only at hread
  rcases hc : parseCondition (Text.join '.' cut) (Text.join '.' rest) relation offset with
    error | c
  · rw [hc] at hread
    contradiction
  · rw [hc] at hread
    have hdots : ∀ segment ∈ cut, '.' ∉ segment := by
      intro segment hmem
      have hin : segment ∈ cut ++ rest := List.mem_append_left _ hmem
      rw [happend] at hin
      exact (List.mem_append.1 hin).elim Text.not_mem_of_mem_splitOn Text.not_mem_of_mem_splitOn
    refine ⟨c, Text.join '.' cut, (Except.ok.inj hread).symm,
      (exists_spell_of_parseCondition hc).1, ?_⟩
    rw [Text.splitOn_join hne hdots]
    exact lt_of_le_of_ne hle fun heq => hlength.1 heq h

end

/-! ## 4. Groups of members -/

theorem toOption_mapM_pieces {α : Type} {read : Nat × Text → Except ParseError α}
    {member : Text → Option α} {texts : List Text} {pieces : List (Nat × Text)}
    (hpieces : pieces.map Prod.snd = texts)
    (h : ∀ text ∈ texts, ∀ position, (read (position, text)).toOption = member text) :
    (pieces.mapM read).toOption = texts.mapM member := by
  induction texts generalizing pieces with
  | nil =>
    obtain rfl := List.map_eq_nil_iff.1 hpieces
    rfl
  | cons text rest ih =>
    obtain ⟨⟨position, piece⟩, others, rfl, rfl, hothers⟩ := List.map_eq_cons_iff.1 hpieces
    rw [List.mapM_cons, List.mapM_cons, toOption_bind, h piece List.mem_cons_self]
    simp only [toOption_bind]
    rw [ih hothers fun other hmem => h other (List.mem_cons_of_mem _ hmem)]
    rfl

/-- A group without groups in it is read member by member, at every nesting
that leaves room for it. -/
theorem toOption_parseGroupWithin_members {members : List Text} (hne : members ≠ [])
    (hmembers : ∀ member ∈ members, IsMember member ∧ groupMember? member = none)
    (relation : Option Text) (nesting : Nat) (logic : Logic) (offset : Nat) :
    (parseGroupWithin relation (nesting + 1) logic (parenthesized members) offset).toOption =
      (members.mapM fun member => (parseMember member relation 0).toOption).map logic.wrap := by
  have htrim : Text.trim (parenthesized members) = parenthesized members :=
    Text.trim_eq_self (Text.ends_enclosed (by decide) (by decide) _).1
      (Text.ends_enclosed (by decide) (by decide) _).2
  obtain ⟨pieces, hsplit, hpieces⟩ := TopLevel.exists_split_join hne
    (fun member hmem => (hmembers member hmem).1.item) (offset + 1)
  rw [parseGroupWithin, htrim, parenthesized, Text.between_append]
  simp only [hsplit, bind, Except.bind]
  rw [← toOption_mapM_pieces hpieces fun member hmem position => ?_]
  · rw [← toOption_map]
    rfl
  · obtain ⟨hmember, hplain⟩ := hmembers member hmem
    have hne : member.isEmpty = false := by simpa using hmember.ne_nil
    simp only [hmember.trim, hne, hplain, Bool.false_eq_true, if_false]
    exact toOption_parseMember _ _ _ _

theorem toOption_parseGroup_members {members : List Text} (hne : members ≠ [])
    (hmembers : ∀ member ∈ members, IsMember member ∧ groupMember? member = none)
    (relation : Option Text) (logic : Logic) (offset : Nat) :
    (parseGroup logic (parenthesized members) relation offset).toOption =
      (members.mapM fun member => (parseMember member relation 0).toOption).map logic.wrap := by
  rw [parseGroup, parenthesized, List.length_cons]
  exact toOption_parseGroupWithin_members hne hmembers relation _ logic offset

end QueryCache
