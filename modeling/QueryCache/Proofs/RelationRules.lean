/-
QueryCache.Proofs.RelationRules — which queries a relation rule reaches.

A rule judges the filters of a query by a row of one column, the id column
of the rule, which holds what the changed row points to.  A condition of a
query reads that row only if its chain of keys is the name of the column
itself: the chain has as many segments as the condition's column
(`Condition.IsAligned`), so no other one leads into a row of one column
(`values_single`).  Hence a rule reaches a query exactly when every
condition that names the id column reads it under its own name and accepts
the value (`relationConcerns_iff`).
-/
import QueryCache.Cache.Mutation
import QueryCache.Proofs.Filter.Regrouped
import QueryCache.Proofs.Statement.ReadBack

namespace QueryCache

/-! ## 1. Rows of one column -/

/-- A path of as many segments leads into a row of one column only by the
name of the column. -/
theorem RowPath.values_single {column path : Text} {value : Json}
    (h : (Text.splitOn '.' column).length = (Text.splitOn '.' path).length) :
    values (.obj [(column, value)]) path = if path = column then [value] else [] := by
  by_cases hname : path = column
  · have hfound : Fields.get? path [(column, value)] = some value := by
      rw [Fields.get?_cons, if_pos hname]
    rw [if_pos hname, values_of_get? hfound]
  · have hmissing : ∀ name, name ≠ column → Fields.get? name [(column, value)] = none := by
      intro name hne
      rw [Fields.get?_cons, if_neg hne]
      rfl
    have hjoin := Text.join_splitOn '.' path
    rw [if_neg hname, values]
    rcases hsplit : Text.splitOn '.' path with _ | ⟨segment, _ | ⟨next, rest⟩⟩
    · exact absurd hsplit (Text.splitOn_ne_nil _ _)
    · rw [hsplit, Text.join] at hjoin
      simp [valuesAt, Json.rows, hjoin, hmissing path hname]
    · -- The column has a dot, too, so it is not the first segment.
      have hdot : segment ≠ column := by
        rintro rfl
        have hmem : segment ∈ Text.splitOn '.' path := hsplit ▸ List.mem_cons_self
        rw [Text.splitOn_of_not_mem (Text.not_mem_of_mem_splitOn hmem), hsplit] at h
        simp at h
      rw [hsplit] at hjoin
      simp [valuesAt, Json.rows, hjoin, hmissing path hname, hmissing segment hdot]

/-! ## 2. Conditions and their keys -/

namespace Segment

theorem length_stripPathHints (path : Text) :
    (Text.splitOn '.' (stripPathHints path)).length = (Text.splitOn '.' path).length := by
  rw [stripPathHints, mapSegments, Text.splitOn_join, List.length_map]
  · simpa using Text.splitOn_ne_nil '.' path
  · intro part hpart hdot
    obtain ⟨segment, hsegment, rfl⟩ := List.mem_map.1 hpart
    exact Text.not_mem_of_mem_splitOn hsegment (List.takeWhile_subset _ hdot)

end Segment

namespace Condition

/-- The condition has a key for each segment of its column. -/
def IsAligned (c : Condition) : Prop :=
  (Text.splitOn '.' c.lookupPath).length = (Text.splitOn '.' c.path).length

/-- What the condition says of one value of its column. -/
def acceptsValue (c : Condition) (value : Json) : Bool :=
  c.operator.accepts value c.operand != c.negated

variable {c : Condition}

theorem isAligned_of_unaliased (h : c.aliasChain = none) : c.IsAligned := by
  rw [IsAligned, lookupPath, h, Option.getD_none, Segment.length_stripPathHints]

/-- A condition stays aligned when it is resolved. -/
theorem isAligned_resolve {paths : List Path} (haligned : ∀ path ∈ paths, path.IsAligned)
    (h : c.aliasChain = none) : (c.resolve paths).IsAligned := by
  rw [resolve, mapAliasStart?_eq haligned]
  split
  · -- The keys of a leaf are those of its output path.
    rename_i path hleaf
    exact haligned path (mem_of_leafNamed hleaf)
  · split
    · rename_i mapped hmapped
      obtain ⟨path, hfind, rfl⟩ := Option.map_eq_some_iff.1 hmapped
      exact (length_standIn (haligned path (List.mem_of_find?_eq_some hfind)) c.path).symm
    · exact isAligned_of_unaliased h

/-- Of a row of one column a condition that names the column accepts the
value, if it reads the column under its own name. -/
theorem accepts_single (haligned : c.IsAligned) {column : Text}
    (htargets : c.targets [column] = true) (value : Json) :
    c.accepts (.obj [(column, value)]) = true ↔
      c.lookupPath = column ∧ c.acceptsValue value = true := by
  have hlength : (Text.splitOn '.' column).length = (Text.splitOn '.' c.lookupPath).length := by
    simp only [targets, List.any_cons, List.any_nil, Bool.or_false, Bool.or_eq_true,
      beq_iff_eq] at htargets
    rcases htargets with rfl | hchain
    · exact haligned.symm
    · rw [lookupPath, ← hchain, Option.getD_some]
  have hvalues : RowPath.values (.obj [(column, value)]) c.lookupPath =
      if c.lookupPath = column then [value] else [] := RowPath.values_single hlength
  rw [accepts, found, values, hvalues, acceptsValue]
  by_cases hname : c.lookupPath = column
  · simp [hname]
  · simp [hname]

end Condition

/-! ## 3. Plain conditions of a query -/

/-- What is read as a group is a group. -/
theorem exists_wrap_of_parseGroup {logic : Logic} {body : Text} {relation : Option Text}
    {offset : Nat} {filter : FilterTree} (h : parseGroup logic body relation offset = .ok filter) :
    ∃ members, filter = logic.wrap members := by
  rw [parseGroup] at h
  rcases hlength : body.length with _ | nesting
  · rw [hlength, parseGroupWithin] at h
    contradiction
  · rw [hlength, parseGroupWithin] at h
    split at h
    · contradiction
    · have hread := congrArg Except.toOption h
      rw [toOption_bind] at hread
      obtain ⟨items, -, hread⟩ := Option.bind_eq_some_iff.1 hread
      rw [toOption_bind] at hread
      obtain ⟨members, -, hread⟩ := Option.bind_eq_some_iff.1 hread
      exact ⟨members, (Option.some.inj hread).symm⟩

/-- A parameter that spells a plain condition names no leaf's keys yet. -/
theorem ParsedQuery.aliasChain_of_parseFilter {param : QueryParam} {c : Condition}
    (h : parseFilter param = .ok (.condition c)) : c.aliasChain = none := by
  unfold parseFilter at h
  dsimp only at h
  split at h
  · rename_i relation negated logic hgroup
    rcases hread : parseGroup logic param.value relation
        (param.offset + Text.byteSize param.key + 1) with error | filter
    · rw [hread] at h
      contradiction
    · obtain ⟨members, rfl⟩ := exists_wrap_of_parseGroup hread
      rw [hread] at h
      have hwrapped := Except.ok.inj h
      cases logic <;> cases negated <;>
        simp [Logic.wrap, FilterTree.negateIf, FilterTree.negate] at hwrapped
  · rcases hread : parseCondition param.key param.value none
        (param.offset + Text.byteSize param.key + 1) with error | read
    · rw [hread] at h
      contradiction
    · rw [hread] at h
      obtain rfl := FilterTree.condition.inj (Except.ok.inj h)
      exact (exists_spell_of_parseCondition hread).2.1

/-- The plain conditions of a query have a key for each segment of their
columns. -/
theorem isAligned_of_ofQueryKey {text : Text} {filter : QueryFilter}
    (h : QueryFilter.ofQueryKey text = .ok filter) {c : Condition}
    (hc : .condition c ∈ filter.filters) : c.IsAligned := by
  rcases hquery : parseQueryKey text with error | query
  · rw [QueryFilter.ofQueryKey, hquery] at h
    contradiction
  · rw [QueryFilter.ofQueryKey, hquery] at h
    obtain rfl := Except.ok.inj h
    obtain ⟨params, select, paths, hparams, -⟩ := parseQueryKey_eq_ok hquery
    obtain ⟨param, -, -, written, hwritten, hresolved⟩ :=
      parseQueryKey_filters hquery hparams _ hc
    cases written with
    | condition spelled =>
      rw [FilterTree.mapConditions_condition] at hresolved
      obtain rfl := FilterTree.condition.inj hresolved
      exact Condition.isAligned_resolve
        (isAligned_of_parseSelect (paths_of_parseQueryKey hquery))
        (ParsedQuery.aliasChain_of_parseFilter hwritten)
    | anyOf group => simp at hresolved
    | allOf group => simp at hresolved

/-- Plain conditions, restricted to a column, are those that name it. -/
theorem QueryFilter.passesOn_conditions {filter : QueryFilter} {conditions : List Condition}
    (h : filter.filters = conditions.map .condition) (row : Json) (paths : List Text) :
    filter.passesOn row paths = true ↔
      ∀ c ∈ conditions, c.targets paths = true → c.accepts row = true := by
  have hkept : (FilterTree.restrictTo? paths) ∘ FilterTree.condition =
      fun c => if c.targets paths then some (.condition c) else none := rfl
  rw [passesOn, filtersOn, h, List.filterMap_map, hkept, List.all_eq_true]
  constructor
  · intro hall c hc htargets
    exact hall (.condition c) (List.mem_filterMap.2 ⟨c, hc, by rw [if_pos htargets]⟩)
  · intro hall kept hmem
    obtain ⟨c, hc, hkept⟩ := List.mem_filterMap.1 hmem
    split at hkept
    · rename_i htargets
      obtain rfl := Option.some.inj hkept
      exact hall c hc htargets
    · contradiction

/-! ## 4. Relation rules -/

/-- The rule is about the queries of a key, and the changed row points to
the value. -/
structure RelationRule.PointsTo (config : CacheConfig) (rule : RelationRule) (key : CacheKey)
    (input value : Json) : Prop where
  relation : rule.relation = key.table
  schema : key.hasSchema config rule.schema = true
  pointed : input.get? rule.foreignKey = some value
  nonNull : value ≠ .null

/-- Relation rules reach the queries of a key with plain conditions exactly
when one of them points to a value such that every condition that names its
id column reads the column under its own name and accepts the value. -/
theorem RevalidationRules.relationConcerns_iff {config : CacheConfig}
    {rules : RevalidationRules} {input : Json} {key : CacheKey} {filter : QueryFilter}
    (hfilter : QueryFilter.ofQueryKey key.queryKey = .ok filter) {conditions : List Condition}
    (hconditions : filter.filters = conditions.map .condition) :
    rules.relationConcerns config input key (some filter) = true ↔
      ∃ rule ∈ rules.relations, ∃ value, rule.PointsTo config key input value ∧
        ∀ c ∈ conditions, c.targets [rule.idColumn] = true →
          c.lookupPath = rule.idColumn ∧ c.acceptsValue value = true := by
  have hjudged : ∀ (column : Text) (value : Json),
      filter.passesOn (.obj [(column, value)]) [column] = true ↔
        ∀ c ∈ conditions, c.targets [column] = true →
          c.lookupPath = column ∧ c.acceptsValue value = true := by
    intro column value
    rw [QueryFilter.passesOn_conditions hconditions]
    refine forall_congr' fun c => forall_congr' fun hc => forall_congr' fun htargets => ?_
    have hmem : FilterTree.condition c ∈ filter.filters :=
      hconditions ▸ List.mem_map_of_mem hc
    exact Condition.accepts_single (isAligned_of_ofQueryKey hfilter hmem) htargets value
  rw [relationConcerns, List.any_eq_true]
  refine exists_congr fun rule => and_congr_right fun _ => ?_
  simp only [← hjudged]
  constructor
  · intro hconcerns
    unfold RelationRule.concerns at hconcerns
    split at hconcerns
    · contradiction
    · rename_i hown
      simp only [Bool.or_eq_true, bne_iff_ne, Bool.not_eq_true', not_or, not_not,
        Bool.not_eq_false] at hown
      split at hconcerns
      · contradiction
      · contradiction
      · rename_i value hnonNull hpointed
        exact ⟨value, ⟨hown.1, hown.2, hpointed, hnonNull⟩, hconcerns⟩
  · rintro ⟨value, ⟨hrelation, hschema, hpointed, hnonNull⟩, hpasses⟩
    simp [RelationRule.concerns, hrelation, hschema, hpointed, hpasses]

/-! ## 5. Conversations and their messages -/

/-- A selection with one condition. -/
theorem QueryFilter.ofQueryKey_of_filter {text clause : Text} {offset : Nat} {paths : List Path}
    {param : QueryParam} {c : Condition}
    (hparams : QueryParam.ofText text = .ok [⟨"select".toList, clause, offset⟩, param])
    (hpaths : parseSelect clause = .ok paths) (hparam : param.IsFilter)
    (hfilter : ParsedQuery.parseFilter param = .ok (.condition c)) :
    ofQueryKey text = .ok ⟨paths, [.condition (c.resolve paths)]⟩ := by
  rw [ofQueryKey, parseQueryKey_of_filter hparams hpaths hparam hfilter]
  rfl

/-- A change of a message makes the queries stale that show its
conversation. -/
def conversationRules : RevalidationRules :=
  { relations := [⟨none, "conversation".toList, "id".toList, "conversation_id".toList⟩] }

/-- A message of conversation 7. -/
def message : Json :=
  .obj [("conversation_id".toList, .ofNat 7)]

/-- The condition on the conversation, as it is written. -/
def isSeven : Condition where
  path := "id".toList
  operator := .eq
  operand := .ofNat 7

/-- The query string for conversation 7, which shows its number under the
given head. -/
def conversationText (head : Text) : Text :=
  "select=".toList ++ head ++ ",subject&id=eq.7".toList

/-- The leaves of that query. -/
def conversationPaths (head : Text) : List Path :=
  [head, "subject".toList].map fun name => Path.ofHeads [Head.ofWritten name]

/-- The query, read. -/
theorem ofQueryKey_conversation {head : Text} (hhead : Head.ReadsBack head)
    {offset : Nat} (hparams : QueryParam.ofText (conversationText head) =
      .ok [⟨"select".toList, Text.join ',' [head, "subject".toList], 0⟩,
        ⟨"id".toList, "eq.7".toList, offset⟩]) :
    QueryFilter.ofQueryKey (conversationText head) =
      .ok ⟨conversationPaths head, [.condition (isSeven.resolve (conversationPaths head))]⟩ := by
  have hreads : ∀ name ∈ [head, "subject".toList], Head.ReadsBack name := by
    intro name hname
    rcases List.mem_cons.1 hname with rfl | hname
    · exact hhead
    · rw [List.mem_singleton.1 hname]
      exact GroupedPath.readsBack_of_spelled (by decide +kernel) (by decide +kernel)
  have hkey : IsFilterKey "id".toList := by decide
  exact QueryFilter.ofQueryKey_of_filter hparams
    (parseSelect_heads (List.cons_ne_nil _ _) hreads) hkey
    (@parseFilter_eq _ "7".toList _ offset (by decide) (by decide))

/-- Conversation 7 under its own name is reached. -/
theorem conversation_reached :
    ∃ filter, QueryFilter.ofQueryKey (conversationText "id".toList) = .ok filter ∧
      filter.filters = [isSeven].map .condition ∧
      conversationRules.relationConcerns {} message
        (.ofQuery "public".toList "conversation".toList (conversationText "id".toList))
        (some filter) = true := by
  have hhead : Head.ReadsBack "id".toList :=
    GroupedPath.readsBack_of_spelled (by decide +kernel) (by decide +kernel)
  have hfilter := ofQueryKey_conversation hhead rfl
  have hstays : isSeven.resolve (conversationPaths "id".toList) = isSeven := by decide +kernel
  rw [hstays] at hfilter
  have hconditions : [FilterTree.condition isSeven] = [isSeven].map .condition := rfl
  refine ⟨_, hfilter, hconditions, ?_⟩
  refine (RevalidationRules.relationConcerns_iff hfilter hconditions).2
    ⟨_, List.mem_cons_self, .ofNat 7, ⟨rfl, rfl, rfl, Json.noConfusion⟩, fun c hc _ => ?_⟩
  obtain rfl := List.mem_singleton.1 hc
  exact ⟨rfl, by decide +kernel⟩

/-- Under an alias it is missed: the condition accepts the value, and reads
the column under the alias, where the rule's row has nothing. -/
theorem aliased_conversation_missed :
    ∃ filter c, QueryFilter.ofQueryKey (conversationText "ref:id".toList) = .ok filter ∧
      filter.filters = [.condition c] ∧ c.path = "id".toList ∧
      c.acceptsValue (.ofNat 7) = true ∧
      (∀ rule ∈ conversationRules.relations, rule.idColumn = c.path ∧
        rule.PointsTo {}
          (.ofQuery "public".toList "conversation".toList (conversationText "ref:id".toList))
          message (.ofNat 7)) ∧
      conversationRules.relationConcerns {} message
        (.ofQuery "public".toList "conversation".toList (conversationText "ref:id".toList))
        (some filter) = false := by
  have hhead : Head.ReadsBack "ref:id".toList :=
    GroupedPath.readsBack_of_spelled (by decide +kernel) (by decide +kernel)
  have hfilter := ofQueryKey_conversation hhead rfl
  have hresolved : isSeven.resolve (conversationPaths "ref:id".toList) =
      isSeven.withAlias "ref".toList := by decide +kernel
  rw [hresolved] at hfilter
  refine ⟨_, _, hfilter, rfl, rfl, by decide +kernel, fun rule hrule => ?_, by decide +kernel⟩
  obtain rfl := List.mem_singleton.1 hrule
  exact ⟨rfl, ⟨rfl, rfl, rfl, Json.noConfusion⟩⟩

end QueryCache
