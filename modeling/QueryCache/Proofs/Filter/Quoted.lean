/-
QueryCache.Proofs.Filter.Quoted — texts between double quotes in a group.

Within quotes a member of a group may hold commas, dots and parentheses: it is
still one member, cut behind its column.  The operators that compare read the
text between the quotes; those that match patterns take their operand as it is
written, quotes included (`parseOperand_quoted`).  So the text of a member is
the operand exactly of the operators that match no pattern
(`parseGroup_quoted_iff`).
-/
import QueryCache.Proofs.Filter.Members

namespace QueryCache

/-! ## 1. Quoted operands -/

namespace FilterOperator

/-- The operator takes one text as its operand. -/
def takesText : FilterOperator → Bool
  | eq | neq | gt | gte | lt | lte | like | ilike | match_ | imatch => true
  | is | in_ | cs | cd => false

/-- The operator matches texts against a pattern. -/
def matchesPattern : FilterOperator → Bool
  | like | ilike | match_ | imatch => true
  | _ => false

end FilterOperator

/-- Only where no pattern is matched do the quotes go. -/
theorem parseOperand_quoted {operator : FilterOperator} (h : operator.takesText = true)
    (content : Text) (offset : Nat) :
    parseOperand operator ('"' :: (content ++ ['"'])) offset =
      .ok (.str (if operator.matchesPattern then '"' :: (content ++ ['"']) else content)) := by
  cases operator with
  | like | ilike | match_ | imatch => rfl
  | is | in_ | cs | cd => contradiction
  | eq | neq | gt | gte | lt | lte => exact congrArg Except.ok (typedValue_quoted content)

namespace Condition

/-- A condition on a column of identifiers whose operand is one text without
double quotes. -/
structure IsQuoted (c : Condition) : Prop where
  column : IsIdentifierPath c.path
  aliasChain : c.aliasChain = none
  operator : c.operator.takesText = true
  operand : ∃ content, c.operand = .str content ∧ '"' ∉ content

/-- The condition on the column of a relation. -/
def inRelation (relation : Option Text) (c : Condition) : Condition :=
  { c with path := columnOf relation c.path }

/-- What a member with that condition is read as: patterns keep the quotes
around them. -/
def asMember (relation : Option Text) (c : Condition) : Condition :=
  if c.operator.matchesPattern then
    { c.inRelation relation with operand := .str (operandText c.operand) }
  else c.inRelation relation

end Condition

/-! ## 2. Quoted members -/

theorem columnOf_inj {relation : Option Text} {column other : Text}
    (h : columnOf relation column = columnOf relation other) : column = other := by
  cases relation with
  | none => exact h
  | some relation => exact (List.cons.inj (List.append_cancel_left h)).2

theorem mapM_map_eq_some_iff {α β γ : Type} {read : β → Option γ} {spell : α → β} {value : α → γ}
    {list : List α} :
    (list.map spell).mapM read = some (list.map value) ↔
      ∀ a ∈ list, read (spell a) = some (value a) := by
  induction list with
  | nil => simp
  | cons a rest ih =>
    rw [List.map_cons, List.map_cons, List.mapM_cons, List.forall_mem_cons, ← ih]
    simp only [bind, Option.bind_eq_some_iff, pure, Option.some.injEq, List.cons.injEq]
    constructor
    · rintro ⟨_, hfirst, _, hrest, rfl, rfl⟩
      exact ⟨hfirst, hrest⟩
    · rintro ⟨hfirst, hrest⟩
      exact ⟨_, hfirst, _, hrest, rfl, rfl⟩

namespace Condition

variable {c : Condition}

theorem IsQuoted.isMember_text (h : c.IsQuoted) : IsMember c.text := by
  obtain ⟨content, hcontent, hquote⟩ := h.operand
  have hoperand : IsMember (operandText c.operand) := by
    rw [hcontent]
    exact IsMember.quoted hquote
  exact h.column.isMember_append (isMember_spell hoperand c.operator c.negated)

theorem IsQuoted.groupMember?_text (h : c.IsQuoted) : groupMember? c.text = none :=
  FilterTree.groupMember?_spell h.column c.operator c.negated (operandText c.operand)

/-- Cut behind its column, a member is read as the condition it spells, or as a
pattern with quotes around it. -/
theorem IsQuoted.parseMember_text (h : c.IsQuoted) (hcut : ¬IsCutEarly c.path c.negated)
    (relation : Option Text) (offset : Nat) :
    parseMember c.text relation offset = .ok (.condition (c.asMember relation)) := by
  obtain ⟨content, hcontent, -⟩ := h.operand
  have hoperand : operandText c.operand = '"' :: (content ++ ['"']) := by
    rw [hcontent]
    rfl
  have hread : Condition.mk (columnOf relation c.path) none c.operator c.negated
      (.str (if c.operator.matchesPattern then '"' :: (content ++ ['"']) else content)) =
        c.asMember relation := by
    rw [asMember, inRelation, hoperand, h.aliasChain]
    split
    · rfl
    · rw [hcontent]
  rw [text, expression_eq_spell, parseMember_spell c.operator _ relation offset hcut,
    parseCondition_spell, hoperand, parseOperand_quoted h.operator]
  exact congrArg (fun c => Except.ok (FilterTree.condition c)) hread

/-- It is read as the condition it spells exactly if the cut is behind the
column and no pattern is matched. -/
theorem IsQuoted.parseMember_text_iff (h : c.IsQuoted) (relation : Option Text) (offset : Nat) :
    parseMember c.text relation offset = .ok (.condition (c.inRelation relation)) ↔
      c.operator.matchesPattern = false ∧ ¬IsCutEarly c.path c.negated := by
  by_cases hcut : IsCutEarly c.path c.negated
  · refine iff_of_false (fun hread => ?_) fun hno => hno.2 hcut
    obtain ⟨other, shorter, hsame, hpath, hlength⟩ :=
      shorter_of_parseMember c.operator (operandText c.operand) relation offset hcut hread
    obtain rfl := FilterTree.condition.inj hsame
    rw [← columnOf_inj hpath] at hlength
    exact absurd hlength (Nat.lt_irrefl _)
  · rw [h.parseMember_text hcut, Except.ok.injEq, FilterTree.condition.injEq]
    simp only [hcut, not_false_eq_true, and_true]
    rw [asMember]
    split
    · rename_i hpattern
      obtain ⟨content, hcontent, -⟩ := h.operand
      refine iff_of_false (fun hsame => ?_) (by simp [hpattern])
      have hoperand : Json.str (operandText c.operand) = c.operand :=
        congrArg Condition.operand hsame
      rw [hcontent] at hoperand
      have hlength := congrArg List.length (Json.str.inj hoperand)
      simp only [operandText, itemText, List.length_cons, List.length_append] at hlength
      omega
    · rename_i hpattern
      simpa using hpattern

end Condition

/-! ## 3. Quoted groups -/

section

variable {items : List Condition} (hne : items ≠ []) (h : ∀ c ∈ items, c.IsQuoted) (logic : Logic)
  (relation : Option Text) (offset : Nat)
include hne h

theorem toOption_parseGroup_quoted :
    (parseGroup logic (parenthesized (items.map Condition.text)) relation offset).toOption =
      ((items.map Condition.text).mapM fun member =>
        (parseMember member relation 0).toOption).map logic.wrap := by
  refine toOption_parseGroup_members (by simpa using hne) ?_ relation logic offset
  exact List.forall_mem_map.2 fun c hmem => ⟨(h c hmem).isMember_text, (h c hmem).groupMember?_text⟩

/-- A group of quoted members, none of them cut early. -/
theorem parseGroup_quoted (hcut : ∀ c ∈ items, ¬IsCutEarly c.path c.negated) :
    parseGroup logic (parenthesized (items.map Condition.text)) relation offset =
      .ok (logic.wrap (items.map fun c => .condition (c.asMember relation))) := by
  have hread : ((items.map Condition.text).mapM fun member =>
      (parseMember member relation 0).toOption) =
        some (items.map fun c => .condition (c.asMember relation)) := by
    refine mapM_map_eq_some_iff.2 fun c hmem => toOption_eq_some_iff.2 ?_
    exact (h c hmem).parseMember_text (hcut c hmem) relation 0
  rw [← toOption_eq_some_iff, toOption_parseGroup_quoted hne h, hread]
  rfl

/-- A group of quoted members is read as the conditions they spell exactly if
none of them matches a pattern and none is cut early.  A pattern is read with
the quotes around it. -/
theorem parseGroup_quoted_iff :
    (parseGroup logic (parenthesized (items.map Condition.text)) relation offset =
        .ok (logic.wrap (items.map fun c => .condition (c.inRelation relation))) ↔
      ∀ c ∈ items, c.operator.matchesPattern = false ∧ ¬IsCutEarly c.path c.negated) ∧
    ((∀ c ∈ items, ¬IsCutEarly c.path c.negated) →
      parseGroup logic (parenthesized (items.map Condition.text)) relation offset =
        .ok (logic.wrap (items.map fun c => .condition (c.asMember relation)))) := by
  have hwrap : Function.Injective logic.wrap := by
    intro group other hsame
    cases logic with
    | anyOf => exact FilterTree.anyOf.inj hsame
    | allOf => exact FilterTree.allOf.inj hsame
  refine ⟨?_, parseGroup_quoted hne h logic relation offset⟩
  rw [← toOption_eq_some_iff, toOption_parseGroup_quoted hne h, ← Option.map_some,
    (Option.map_injective hwrap).eq_iff, mapM_map_eq_some_iff]
  refine forall₂_congr fun c hmem => ?_
  rw [toOption_eq_some_iff]
  exact (h c hmem).parseMember_text_iff relation 0

end

/-- Authors by names that hold all that a group is cut at. -/
def authorNames : List Condition :=
  [⟨"name".toList, none, .eq, false, .str "a,b).or(c.eq.d".toList⟩,
   ⟨"team.name".toList, none, .lt, true, .str "(".toList⟩]

theorem isQuoted_authorNames : ∀ c ∈ authorNames, c.IsQuoted := by
  simp only [authorNames, List.forall_mem_cons, List.not_mem_nil, false_implies, implies_true,
    and_true]
  exact ⟨⟨by decide, rfl, rfl, _, rfl, by decide⟩, ⟨by decide, rfl, rfl, _, rfl, by decide⟩⟩

theorem parseGroup_quoted_authorNames :
    (∀ c ∈ authorNames, c.IsQuoted ∧ c.operator.matchesPattern = false ∧
      ¬IsCutEarly c.path c.negated) ∧
    parseGroup .anyOf "(name.eq.\"a,b).or(c.eq.d\",team.name.not.lt.\"(\")".toList
        (some "author".toList) 10 =
      .ok (.anyOf
        [.condition ⟨"author.name".toList, none, .eq, false, .str "a,b).or(c.eq.d".toList⟩,
         .condition ⟨"author.team.name".toList, none, .lt, true, .str "(".toList⟩]) := by
  have hread : ∀ c ∈ authorNames, c.operator.matchesPattern = false ∧
      ¬IsCutEarly c.path c.negated := by
    decide
  exact ⟨fun c hmem => ⟨isQuoted_authorNames c hmem, hread c hmem⟩,
    (parseGroup_quoted_iff (List.cons_ne_nil _ _) isQuoted_authorNames .anyOf
      (some "author".toList) 10).1.2 hread⟩

/-- Names compared with a text that holds a comma. -/
def commaName (operator : FilterOperator) : Condition :=
  ⟨"name".toList, none, operator, false, .str "a,b".toList⟩

/-- A query with one group of one condition. -/
def namesQuery (c : Condition) : ParsedQuery where
  select := "id,name".toList
  paths := [.ofText "id".toList, .ofText "name".toList]
  filters := [.allOf [.condition c]]

theorem parseQueryKey_commaName {operator : FilterOperator} (h : operator.takesText = true)
    {text : Text} {offset other : Nat}
    (hparams : QueryParam.ofText text =
      .ok [⟨"select".toList, "id,name".toList, other⟩,
        ⟨"and".toList, parenthesized [(commaName operator).text], offset⟩]) :
    parseQueryKey text = .ok (namesQuery ((commaName operator).asMember none)) := by
  have hpaths : parseSelect "id,name".toList = .ok (namesQuery (commaName operator)).paths :=
    @parseSelect_columns ["id".toList, "name".toList] (by decide) (by decide)
  have hcolumn : IsIdentifierPath "name".toList := by decide
  have hcut : ¬IsCutEarly "name".toList false := by decide
  have hquoted : ∀ c ∈ [commaName operator], c.IsQuoted :=
    List.forall_mem_singleton.2 ⟨hcolumn, rfl, h, _, rfl, by decide⟩
  have hfilter : QueryParam.IsFilter
      ⟨"and".toList, parenthesized [(commaName operator).text], offset⟩ :=
    (by decide : "and".toList ∉ ["select".toList, "order".toList, "limit".toList,
      "offset".toList] ∧ ParsedQuery.isIgnored "and".toList = false)
  have hlogic : logicGroup? "and".toList = some (none, false, .allOf) := by decide
  have hread : ParsedQuery.parseFilter
      ⟨"and".toList, parenthesized [(commaName operator).text], offset⟩ =
        .ok (.allOf [.condition ((commaName operator).asMember none)]) := by
    have hgroup : ∀ place,
        parseGroup .allOf (parenthesized [(commaName operator).text]) none place =
          .ok (.allOf [.condition ((commaName operator).asMember none)]) := fun place =>
      parseGroup_quoted (List.cons_ne_nil _ _) hquoted .allOf none place
        (List.forall_mem_singleton.2 hcut)
    simp only [ParsedQuery.parseFilter, hlogic, hgroup]
    rfl
  have hdirect : ∀ path ∈ [Path.ofText "id".toList, .ofText "name".toList], path.IsDirect := by
    decide
  have hchain : ((commaName operator).asMember none).aliasChain = none := by
    cases operator <;> rfl
  rw [parseQueryKey_of_filter hparams hpaths hfilter hread, FilterTree.mapConditions_eq_self]
  · rfl
  · intro c hc
    obtain rfl : c = (commaName operator).asMember none := by simpa using hc
    exact Condition.resolve_of_isDirect hdirect hchain

/-- `name.eq."a,b"` asks for the name `a,b`, but `name.like."a,b"` for a name
with quotes around it. -/
theorem quotes_kept_in_pattern :
    parseQueryKey "select=id,name&and=(name.eq.\"a,b\")".toList =
      .ok (namesQuery (commaName .eq)) ∧
    parseQueryKey "select=id,name&and=(name.like.\"a,b\")".toList =
      .ok (namesQuery { commaName .like with operand := .str "\"a,b\"".toList }) ∧
    parseQueryKey "select=id,name&and=(name.like.\"a,b\")".toList ≠
      .ok (namesQuery (commaName .like)) := by
  have hlike : parseQueryKey "select=id,name&and=(name.like.\"a,b\")".toList =
      .ok (namesQuery { commaName .like with operand := .str "\"a,b\"".toList }) :=
    @parseQueryKey_commaName .like rfl _ 15 0 rfl
  refine ⟨@parseQueryKey_commaName .eq rfl _ 15 0 rfl, hlike, fun hclaimed => ?_⟩
  have hfilters := congrArg ParsedQuery.filters (Except.ok.inj (hlike.symm.trans hclaimed))
  have hmembers := FilterTree.allOf.inj (List.cons.inj hfilters).1
  have hoperand := congrArg Condition.operand (FilterTree.condition.inj (List.cons.inj hmembers).1)
  contradiction

end QueryCache
