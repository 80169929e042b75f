/-
QueryCache.Proofs.Filter.Groups — groups of filters read back from query
strings.

A group is written with its members in parentheses behind `or` or `and`
(`FilterTree.text`).  As written texts are items of a list, a group is cut
into its own members at every level, and every member is read as what it
spells (`parseGroupWithin_texts`).  As a parameter beside a selection
without aliases and hints the group is the one filter of the query
(`parseQueryKey_group`).
-/
import QueryCache.Proofs.Filter.Resolved
import QueryCache.Proofs.Filter.ThreeValued
import QueryCache.Proofs.Filter.Written
import QueryCache.Proofs.Select.Parsed
import QueryCache.Proofs.SelectedColumns

namespace QueryCache

/-! ## 1. Groups -/

/-- The word in front of a group. -/
def Logic.word : Logic → Text
  | .anyOf => "or".toList
  | .allOf => "and".toList

namespace FilterTree

mutual

/-- A filter as a member of a group. -/
def text : FilterTree → Text
  | condition c => c.text
  | anyOf group => Logic.anyOf.word ++ parenthesized (texts group)
  | allOf group => Logic.allOf.word ++ parenthesized (texts group)

def texts : List FilterTree → List Text
  | [] => []
  | filter :: rest => text filter :: texts rest

end

mutual

/-- The conditions can be written and no group is empty. -/
def IsWritable : FilterTree → Prop
  | condition c => c.IsWritable
  | anyOf group => group ≠ [] ∧ AreWritable group
  | allOf group => group ≠ [] ∧ AreWritable group

def AreWritable : List FilterTree → Prop
  | [] => True
  | filter :: rest => IsWritable filter ∧ AreWritable rest

end

theorem texts_eq_map (group : List FilterTree) : texts group = group.map text := by
  induction group with
  | nil => rfl
  | cons filter rest ih => rw [texts, ih, List.map_cons]

theorem areWritable_iff {group : List FilterTree} :
    AreWritable group ↔ ∀ filter ∈ group, filter.IsWritable := by
  induction group with
  | nil => simp [AreWritable]
  | cons filter rest ih => rw [AreWritable, ih, List.forall_mem_cons]

theorem text_wrap (logic : Logic) (group : List FilterTree) :
    (logic.wrap group).text = logic.word ++ parenthesized (group.map text) := by
  cases logic <;> rw [Logic.wrap, text, texts_eq_map]

theorem isWritable_wrap_iff {logic : Logic} {group : List FilterTree} :
    (logic.wrap group).IsWritable ↔ group ≠ [] ∧ ∀ filter ∈ group, filter.IsWritable := by
  cases logic <;> rw [Logic.wrap, IsWritable, areWritable_iff]

/-- A filter is a condition or a group. -/
theorem exists_wrap (filter : FilterTree) :
    (∃ c, filter = condition c) ∨ ∃ logic group, filter = Logic.wrap logic group := by
  cases filter with
  | condition c => exact Or.inl ⟨c, rfl⟩
  | anyOf group => exact Or.inr ⟨.anyOf, group, rfl⟩
  | allOf group => exact Or.inr ⟨.allOf, group, rfl⟩

theorem isWritten_text (filter : FilterTree) (h : filter.IsWritable) : IsWritten filter.text := by
  have hgroup : ∀ (logic : Logic) (group : List FilterTree),
      (∀ filter ∈ group, filter.IsWritable → IsWritten filter.text) →
      (logic.wrap group).IsWritable → IsWritten (logic.wrap group).text := by
    intro logic group ih hwritable
    rw [text_wrap]
    refine IsWritten.append (isWritten_word ?_ ?_) (IsWritten.parenthesized ?_)
    · cases logic <;> decide
    · cases logic <;> decide
    · exact List.forall_mem_map.2 fun filter hmem =>
        ih filter hmem ((isWritable_wrap_iff.1 hwritable).2 filter hmem)
  induction filter using memberInduction with
  | condition c =>
    rw [IsWritable] at h
    rw [text]
    exact h.isWritten_text
  | anyOf group ih => exact hgroup .anyOf group ih h
  | allOf group ih => exact hgroup .allOf group ih h

/-! ## 2. Groups read back -/

/-- A text whose first segment has no parenthesis begins with no group. -/
theorem named_eq_none {text : Text} (h : '(' ∉ Text.upTo '.' text) :
    groupMember?.named text = none := by
  have hword : ∀ {word rest : Text}, '.' ∉ word →
      Text.stripStart word text = some ('(' :: rest) → False := by
    intro word rest hdot hstrip
    rw [Text.stripStart_eq_some_iff] at hstrip
    refine h ?_
    rw [hstrip, Text.upTo, List.takeWhile_append_of_pos, List.takeWhile_cons_of_pos (by decide)]
    · simp
    · intro c hc
      simpa using ne_of_mem_of_not_mem hc hdot
  unfold groupMember?.named
  split
  · rename_i hstrip
    exact (hword (by decide) hstrip).elim
  · split
    · rename_i hstrip
      exact (hword (by decide) hstrip).elim
    · rfl

/-- A text whose first two segments have no parenthesis is taken for no group. -/
theorem groupMember?_eq_none {text first second : Text} {others : List Text}
    (hsplit : Text.splitOn '.' text = first :: second :: others) (hfirst : '(' ∉ first)
    (hsecond : '(' ∉ second) : groupMember? text = none := by
  have hnamed : ∀ {text segment : Text} {more : List Text},
      Text.splitOn '.' text = segment :: more → '(' ∉ segment →
      groupMember?.named text = none := by
    intro text segment more hsplit hsegment
    obtain ⟨behind, hbehind⟩ := Text.splitOn_eq_cons '.' text
    rw [hsplit, List.cons.injEq] at hbehind
    exact named_eq_none (hbehind.1 ▸ hsegment)
  unfold groupMember? groupMember?.plain
  rw [hnamed hsplit hfirst]
  split
  · rename_i behind hstrip
    -- A column that begins with `not` is a column all the same.
    rw [Text.stripStart_eq_some_iff] at hstrip
    rw [hstrip, splitOn_not, List.cons.injEq] at hsplit
    rw [hnamed hsplit.2 hsecond]
    rfl
  · rfl

/-- No condition is taken for a group. -/
theorem groupMember?_spell {column : Text}
    (h : ∀ segment ∈ Text.splitOn '.' column, Head.isIdentifier segment = true)
    (operator : FilterOperator) (negated : Bool) (operand : Text) :
    groupMember? (column ++ '.' :: operator.spell negated operand) = none := by
  obtain ⟨first, others, hparts, -⟩ := Text.exists_parts '.' column
  obtain ⟨word, rest, hexpression, hword, -⟩ := exists_splitOn_spell operator negated operand
  have hplain : ∀ segment ∈ first :: others, '(' ∉ segment := fun segment hmem =>
    Head.not_mem_of_isIdentifier (h segment (hparts ▸ hmem)) (by decide)
  have hsegments : Text.splitOn '.' (column ++ '.' :: operator.spell negated operand) =
      first :: (others ++ word :: rest) := by
    rw [Text.splitOn_append_sep, hparts, hexpression, List.cons_append]
  rcases others with _ | ⟨second, others⟩
  · exact groupMember?_eq_none hsegments (hplain first List.mem_cons_self) hword
  · exact groupMember?_eq_none hsegments (hplain first List.mem_cons_self)
      (hplain second (by simp))

/-- A group among the members of a group is taken for one. -/
theorem groupMember?_wrap (logic : Logic) (group : List FilterTree) :
    groupMember? (logic.wrap group).text =
      some (false, logic, parenthesized (group.map text)) := by
  rw [text_wrap]
  cases logic <;> rfl

/-- A member is no longer than its group. -/
theorem length_text_lt {filter : FilterTree} {group : List FilterTree} (h : filter ∈ group) :
    filter.text.length < (parenthesized (group.map text)).length := by
  have hjoin : filter.text.length ≤ (Text.join ',' (group.map text)).length :=
    Text.length_le_length_join (List.mem_map_of_mem h)
  rw [parenthesized, List.length_cons, List.length_append]
  omega

/-- A group is read back from its members, at every nesting that its text
leaves room for. -/
theorem parseGroupWithin_texts {nesting : Nat} {logic : Logic} {group : List FilterTree}
    (h : (logic.wrap group).IsWritable)
    (hnesting : (parenthesized (group.map text)).length ≤ nesting) (offset : Nat) :
    parseGroupWithin none nesting logic (parenthesized (group.map text)) offset =
      .ok (logic.wrap group) := by
  induction nesting generalizing logic group offset with
  | zero => simp [parenthesized] at hnesting
  | succ nesting ih =>
    obtain ⟨hne, hmembers⟩ := isWritable_wrap_iff.1 h
    have hwritten : ∀ filter ∈ group, IsWritten filter.text := fun filter hmem =>
      isWritten_text filter (hmembers filter hmem)
    have htrim := (IsWritten.parenthesized (List.forall_mem_map.2 hwritten)).trim
    have htexts : group.map text ≠ [] := by simpa using hne
    obtain ⟨pieces, hsplit, hpieces⟩ := TopLevel.exists_split_join htexts
      (List.forall_mem_map.2 fun filter hmem => (hwritten filter hmem).item) (offset + 1)
    rw [parseGroupWithin, htrim, parenthesized, Text.between_append]
    simp only [hsplit, bind, Except.bind]
    rw [TopLevel.mapM_pieces hpieces fun filter hmem position => ?_]
    · rfl
    have hne : filter.text.isEmpty = false := by simpa using (hwritten filter hmem).ne_nil
    simp only [(hwritten filter hmem).trim, hne, Bool.false_eq_true, if_false]
    rcases exists_wrap filter with ⟨c, rfl⟩ | ⟨logic, inner, rfl⟩
    · have hc : c.IsWritable := hmembers _ hmem
      have hplain : groupMember? c.text = none := groupMember?_spell hc.column.1 _ _ _
      rw [text, hplain]
      exact c.parseMember_text hc _
    · have hlength := length_text_lt hmem
      rw [text_wrap, List.length_append] at hlength
      rw [groupMember?_wrap]
      simp only
      rw [ih (hmembers _ hmem) (by omega)]
      rfl

theorem parseGroup_texts {logic : Logic} {group : List FilterTree}
    (h : (logic.wrap group).IsWritable) (offset : Nat) :
    parseGroup logic (parenthesized (group.map text)) none offset = .ok (logic.wrap group) :=
  parseGroupWithin_texts h (Nat.le_refl _) offset

end FilterTree

/-! ## 3. Groups of a query -/

/-- A part `key=value` of a query string is a parameter. -/
theorem QueryParam.ofParts_cons {key value name text : Text} (hkey : '=' ∉ key)
    (hname : Percent.decode key = some name) (htext : Percent.decode value = some text)
    (offset : Nat) (rest : List Text) :
    ofParts offset ((key ++ '=' :: value) :: rest) =
      (ofParts (offset + Text.byteSize (key ++ '=' :: value) + 1) rest).map
        (⟨name, text, offset⟩ :: ·) := by
  have hne : (key ++ '=' :: value).isEmpty = false := by simp
  simp only [ofParts, hne, Text.splitOnce_append hkey, Option.getD_some, hname, htext,
    Bool.false_eq_true, if_false, bind, Except.bind]
  cases ofParts (offset + Text.byteSize (key ++ '=' :: value) + 1) rest <;> rfl

/-- Two parts are two parameters. -/
theorem QueryParam.ofText_two {key value name text otherKey otherValue otherName otherText : Text}
    (hkey : '=' ∉ key) (hname : Percent.decode key = some name)
    (htext : Percent.decode value = some text) (hother : '=' ∉ otherKey)
    (hotherName : Percent.decode otherKey = some otherName)
    (hotherText : Percent.decode otherValue = some otherText)
    (hends : '&' ∉ key ++ '=' :: value) (hotherEnds : '&' ∉ otherKey ++ '=' :: otherValue) :
    ∃ offset, ofText ((key ++ '=' :: value) ++ '&' :: (otherKey ++ '=' :: otherValue)) =
      .ok [⟨name, text, 0⟩, ⟨otherName, otherText, offset⟩] := by
  refine ⟨0 + Text.byteSize (key ++ '=' :: value) + 1, ?_⟩
  rw [ofText, Text.splitOn_append hends, Text.splitOn_of_not_mem hotherEnds,
    ofParts_cons hkey hname htext, ofParts_cons hother hotherName hotherText]
  rfl

/-- A selected leaf without alias and without hints. -/
def Path.IsDirect (path : Path) : Prop :=
  path.aliasChain = none ∧ '!' ∉ path.path

instance : DecidablePred Path.IsDirect := fun path =>
  inferInstanceAs (Decidable (path.aliasChain = none ∧ '!' ∉ path.path))

theorem Path.outputPath_of_isDirect {path : Path} (h : path.IsDirect) :
    path.outputPath = path.path := by
  have hsegments : (Text.splitOn '.' path.path).map Segment.stripHints =
      Text.splitOn '.' path.path := by
    refine (List.map_congr_left fun segment hmem => ?_).trans (List.map_id _)
    refine Text.upTo_of_not_mem fun hmark => h.2 ?_
    rw [← Text.join_splitOn '.' path.path]
    exact Text.mem_join_of_mem hmem hmark
  rw [outputPath, h.1, Option.getD_none, Segment.stripPathHints, Segment.mapSegments, hsegments,
    Text.join_splitOn]

/-- A selection without aliases and hints resolves no column. -/
theorem Condition.resolve_of_isDirect {paths : List Path} (h : ∀ path ∈ paths, path.IsDirect)
    {c : Condition} (hc : c.aliasChain = none) : c.resolve paths = c := by
  have hmap : mapAliasStart? paths c.path = none := by
    rw [mapAliasStart?, List.findSome?_eq_none_iff]
    intro path hmem
    rw [mapThrough?, (h path hmem).1]
    rfl
  have hleaf : ∀ path, leafNamed? paths c.path = some path →
      path.path = c.path ∧ path.aliasChain = none := by
    intro path hnamed
    rw [leafNamed?, Option.orElse_eq_or, Option.or_eq_some_iff] at hnamed
    rcases hnamed with hfind | ⟨-, hfind⟩
    · have hdirect := h path (List.mem_of_find?_eq_some hfind)
      have hchain := List.find?_some hfind
      rw [hdirect.1] at hchain
      contradiction
    · have hdirect := h path (List.mem_of_find?_eq_some hfind)
      have hpath := List.find?_some hfind
      rw [Path.outputPath_of_isDirect hdirect] at hpath
      exact ⟨by simpa using hpath, hdirect.1⟩
  unfold resolve
  split
  · rename_i path hnamed
    obtain ⟨hpath, hchain⟩ := hleaf path hnamed
    rw [hpath, hchain, ← hc]
  · rw [hmap]

namespace FilterTree

theorem mapConditions_eq_self {f : Condition → Condition} (filter : FilterTree)
    (h : ∀ c ∈ filter.conditions, f c = c) : filter.mapConditions f = filter := by
  have hgroup : ∀ group : List FilterTree,
      (∀ filter ∈ group, filter.mapConditions f = filter) →
      group.map (mapConditions f) = group :=
    fun group ih => (List.map_congr_left ih).trans (List.map_id group)
  induction filter using memberInduction with
  | condition c => rw [mapConditions_condition, h c (by simp)]
  | anyOf group ih =>
    rw [mapConditions_anyOf, hgroup group fun filter hmem => ih filter hmem fun c hc =>
      h c (mem_conditions_anyOf hmem hc)]
  | allOf group ih =>
    rw [mapConditions_allOf, hgroup group fun filter hmem => ih filter hmem fun c hc =>
      h c (mem_conditions_allOf hmem hc)]

theorem aliasChain_of_isWritable (filter : FilterTree) (h : filter.IsWritable) :
    ∀ c ∈ filter.conditions, c.aliasChain = none := by
  have hgroup : ∀ (logic : Logic) (group : List FilterTree),
      (∀ filter ∈ group, filter.IsWritable → ∀ c ∈ filter.conditions, c.aliasChain = none) →
      (logic.wrap group).IsWritable → ∀ c ∈ group.flatMap conditions, c.aliasChain = none := by
    intro logic group ih hwritable c hc
    obtain ⟨filter, hmem, hc⟩ := List.mem_flatMap.1 hc
    exact ih filter hmem ((isWritable_wrap_iff.1 hwritable).2 filter hmem) c hc
  induction filter using memberInduction with
  | condition c =>
    rw [IsWritable] at h
    simpa using h.aliasChain
  | anyOf group ih =>
    rw [conditions_anyOf]
    exact hgroup .anyOf group ih h
  | allOf group ih =>
    rw [conditions_allOf]
    exact hgroup .allOf group ih h

/-- Nor does a selection without aliases and hints change a filter. -/
theorem mapConditions_resolve_negateIf {paths : List Path} (hpaths : ∀ path ∈ paths, path.IsDirect)
    {filter : FilterTree} (h : filter.IsWritable) (negated : Bool) :
    (filter.negateIf negated).mapConditions (·.resolve paths) = filter.negateIf negated := by
  refine mapConditions_eq_self _ fun c hc => Condition.resolve_of_isDirect hpaths ?_
  have hchain := aliasChain_of_isWritable filter h
  rw [negateIf] at hc
  split at hc
  · rw [conditions_negate] at hc
    obtain ⟨written, hmem, rfl⟩ := List.mem_map.1 hc
    exact hchain written hmem
  · exact hchain c hc

end FilterTree

/-- The name of a parameter that holds a group. -/
def Logic.key (logic : Logic) (negated : Bool) : Text :=
  (if negated then "not.".toList else []) ++ logic.word

/-- The parameter of a group. -/
def groupParam (logic : Logic) (negated : Bool) (group : List FilterTree) : Text :=
  logic.key negated ++ '=' :: parenthesized (group.map FilterTree.text)

/-- The parameter of a selection. -/
def selectParam (clause : Text) : Text :=
  "select".toList ++ '=' :: clause

theorem selectParam_eq (clause : Text) : selectParam clause = "select".toList ++ '=' :: clause :=
  rfl

namespace ParsedQuery

/-- The parameter of a group adds the group to the query, or its negation. -/
theorem addParam_group {logic : Logic} {group : List FilterTree}
    (h : (logic.wrap group).IsWritable) {query : ParsedQuery}
    (hpaths : ∀ path ∈ query.paths, path.IsDirect) (negated : Bool) (offset : Nat) :
    query.addParam ⟨logic.key negated, parenthesized (group.map FilterTree.text), offset⟩ =
      .ok { query with filters := query.filters ++ [(logic.wrap group).negateIf negated] } := by
  have hkey : logic.key negated ∉
        ["select".toList, "order".toList, "limit".toList, "offset".toList] ∧
      isIgnored (logic.key negated) = false := by
    cases logic <;> cases negated <;> decide
  have hfilter : QueryParam.IsFilter
      ⟨logic.key negated, parenthesized (group.map FilterTree.text), offset⟩ := hkey
  have hgroup : logicGroup? (logic.key negated) = some (none, negated, logic) := by
    cases logic <;> cases negated <;> decide
  rw [addParam_of_isFilter hfilter, parseFilter]
  simp only [hgroup, FilterTree.parseGroup_texts h, Except.map,
    FilterTree.mapConditions_resolve_negateIf hpaths h]

end ParsedQuery

/-- A group beside a selection without aliases and hints, on either side of
it, is the one filter of the query; behind `not.` its negation is. -/
theorem parseQueryKey_group {clause select : Text} {paths : List Path}
    (hclause : '&' ∉ clause) (hselect : Percent.decode clause = some select)
    (hpaths : parseSelect select = .ok paths) (hdirect : ∀ path ∈ paths, path.IsDirect)
    {logic : Logic} {group : List FilterTree} (hgroup : (logic.wrap group).IsWritable)
    (negated : Bool) :
    parseQueryKey (selectParam clause ++ '&' :: groupParam logic negated group) =
        .ok { select, paths, filters := [(logic.wrap group).negateIf negated] } ∧
      parseQueryKey (groupParam logic negated group ++ '&' :: selectParam clause) =
        .ok { select, paths, filters := [(logic.wrap group).negateIf negated] } := by
  have hkey : '=' ∉ logic.key negated ∧ Percent.IsVerbatim (logic.key negated) ∧
      logic.key negated ≠ "select".toList := by
    cases logic <;> cases negated <;> decide
  have hverbatim : Percent.IsVerbatim (parenthesized (group.map FilterTree.text)) :=
    (IsWritten.parenthesized (List.forall_mem_map.2 fun filter hmem =>
      filter.isWritten_text ((FilterTree.isWritable_wrap_iff.1 hgroup).2 filter hmem))).verbatim
  have hname := Percent.decode_of_isVerbatim hkey.2.1
  have htext := Percent.decode_of_isVerbatim hverbatim
  have hends : '&' ∉ groupParam logic negated group := by
    have hparam : Percent.IsVerbatim (groupParam logic negated group) := by
      rw [groupParam, Percent.isVerbatim_append, Percent.isVerbatim_cons]
      exact ⟨hkey.2.1, by decide, hverbatim⟩
    exact fun hmem => (hparam _ hmem).2.2 rfl
  have hselectKey : '=' ∉ "select".toList := by decide
  have hselectName : Percent.decode "select".toList = some "select".toList :=
    Percent.decode_of_isVerbatim (by decide)
  have hselectEnds : '&' ∉ selectParam clause := by
    rw [selectParam_eq, List.mem_append, List.mem_cons, not_or, not_or]
    exact ⟨by decide, by decide, hclause⟩
  have hpass : ∀ (query : ParsedQuery) (offset : Nat),
      query.addParam ⟨"select".toList, select, offset⟩ = .ok query := fun _ _ => if_pos rfl
  have hadd := @ParsedQuery.addParam_group logic group hgroup { select, paths } hdirect negated
  constructor
  · obtain ⟨offset, hparams⟩ := QueryParam.ofText_two hselectKey hselectName hselect hkey.1 hname
      htext hselectEnds hends
    rw [selectParam_eq, groupParam, parseQueryKey_of_params hparams hpaths, List.foldlM_cons, hadd]
    rfl
  · obtain ⟨offset, hparams⟩ := QueryParam.ofText_two hkey.1 hname htext hselectKey hselectName
      hselect hends hselectEnds
    have hfind : [⟨logic.key negated, parenthesized (group.map FilterTree.text), 0⟩,
        ⟨"select".toList, select, offset⟩].find?
          (fun param : QueryParam => param.key == "select".toList) =
        some ⟨"select".toList, select, offset⟩ := by
      rw [List.find?_cons_of_neg (by simpa using hkey.2.2)]
      rfl
    rw [selectParam_eq, groupParam, parseQueryKey_of_find hparams hfind hpaths, List.foldlM_cons,
      hadd]
    simp only [List.foldlM_cons, List.foldlM_nil, bind, Except.bind, hpass]
    rfl

/-- Conditions on the tag of a note: a name that looks like a group, and
columns named like operators. -/
def tagGroup : List FilterTree :=
  [.condition ⟨"tag.name".toList, none, .eq, true, .str "a,b).or(c.eq.d".toList⟩,
   .allOf [.condition ⟨"not".toList, none, .in_, false, .arr [.num (.int (-3)), .str "x".toList]⟩,
     .condition ⟨"or".toList, none, .is, false, .null⟩]]

theorem isWritable_tagGroup : (Logic.anyOf.wrap tagGroup).IsWritable := by
  have hname : IsItemValue (.str "a,b).or(c.eq.d".toList) := ⟨by decide, by decide⟩
  have hitems : ∀ item ∈ [Json.num (.int (-3)), .str "x".toList], IsItemValue item := by
    simp only [List.forall_mem_cons, List.not_mem_nil, false_implies, implies_true, and_true]
    exact ⟨show IsSigned (-3) by decide, by decide, by decide⟩
  rw [Logic.wrap, tagGroup]
  simp only [FilterTree.IsWritable, FilterTree.AreWritable, and_true, ne_eq, reduceCtorEq,
    not_false_eq_true, true_and]
  exact ⟨⟨by decide, rfl, hname⟩, ⟨by decide, rfl, _, rfl, hitems⟩, by decide, rfl, Or.inl rfl⟩

theorem parseQueryKey_group_tags :
    parseQueryKey ("select=id,name&not.or=(tag.name.not.eq.\"a,b).or(c.eq.d\"," ++
        "and(not.in.(-3,\"x\"),or.is.null))").toList =
      .ok { select := "id,name".toList, paths := [.ofText "id".toList, .ofText "name".toList]
            filters := [.allOf
              [.condition ⟨"tag.name".toList, none, .eq, false, .str "a,b).or(c.eq.d".toList⟩,
               .anyOf
                [.condition ⟨"not".toList, none, .in_, true,
                  .arr [.num (.int (-3)), .str "x".toList]⟩,
                 .condition ⟨"or".toList, none, .is, true, .null⟩]]] } := by
  have hclause : Percent.decode "id,name".toList = some "id,name".toList :=
    Percent.decode_of_isVerbatim (by decide)
  have hpaths : parseSelect "id,name".toList =
      .ok (["id".toList, "name".toList].map Path.ofText) :=
    @parseSelect_columns ["id".toList, "name".toList] (by decide) (by decide)
  exact (parseQueryKey_group (by decide) hclause hpaths (by decide) isWritable_tagGroup true).1

end QueryCache
