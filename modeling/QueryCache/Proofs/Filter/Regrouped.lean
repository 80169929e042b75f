/-
QueryCache.Proofs.Filter.Regrouped — a filter moved into a group.

A condition may be a parameter of its own, `column=expression`, or the member
of a group, `and=(column.expression)`.  As a parameter its column is what
stands in front of the equality sign; in a group the column is what the cut
leaves (`IsCutEarly`).  A cut that stops early makes the column shorter, and a
resolved column has as many segments as the written one
(`length_resolve`).  So the two places mean the same exactly for the columns
that are not cut early (`parseQueryKey_regrouped_iff`).
-/
import QueryCache.Proofs.Filter.AliasStarts
import QueryCache.Proofs.Filter.Members

namespace QueryCache

/-! ## 1. Resolved columns are as long as the written ones -/

theorem length_standIn {path : Path} (haligned : path.IsAligned) (column : Text) :
    (Text.splitOn '.' (path.standIn column)).length = (Text.splitOn '.' column).length := by
  have hcolumn : path.sharedStart column < (Text.splitOn '.' column).length := Path.sharedStart_lt
  have hsegments : path.sharedStart column ≤ path.segments.length :=
    Path.sharedStart_le_segments haligned
  rw [Path.standIn, Path.splitOn_swapStart hcolumn, List.length_append, List.length_take,
    List.length_drop]
  omega

theorem names_of_leafNamed {paths : List Path} {column : Text} {path : Path}
    (h : leafNamed? paths column = some path) : path.path = column ∨ path.outputPath = column := by
  rw [leafNamed?, Option.orElse_eq_or, Option.or_eq_some_iff] at h
  rcases h with hchain | ⟨-, hpath⟩
  · have hown : path.aliasChain = some column := by simpa using List.find?_some hchain
    exact Or.inr (by rw [Path.outputPath, hown, Option.getD_some])
  · simpa using List.find?_some hpath

theorem length_resolve {paths : List Path} (haligned : ∀ path ∈ paths, path.IsAligned)
    (c : Condition) :
    (Text.splitOn '.' (c.resolve paths).path).length = (Text.splitOn '.' c.path).length := by
  rw [Condition.resolve, mapAliasStart?_eq haligned]
  split
  · rename_i path hleaf
    rcases names_of_leafNamed hleaf with hpath | houtput
    · rw [hpath]
    · have hlength := haligned path (mem_of_leafNamed hleaf)
      rw [Path.IsAligned, houtput] at hlength
      exact hlength.symm
  · split
    · rename_i mapped hmapped
      obtain ⟨path, hfind, rfl⟩ := Option.map_eq_some_iff.1 hmapped
      exact length_standIn (haligned path (List.mem_of_find?_eq_some hfind)) c.path
    · rfl

/-! ## 2. The entries around a filter -/

/-- The key of a parameter that is read as a filter. -/
def IsFilterKey (key : Text) : Prop :=
  key ∉ ["select".toList, "order".toList, "limit".toList, "offset".toList] ∧
    ParsedQuery.isIgnored key = false

instance : DecidablePred IsFilterKey := fun _ => instDecidableAnd

/-- How many filters the entries add. -/
def filterCount (entries : List (Text × Text)) : Nat :=
  entries.countP fun entry => IsFilterKey entry.1

namespace ParsedQuery

theorem addEntry_of_isFilterKey {key : Text} (h : IsFilterKey key) (query : ParsedQuery)
    (value : Text) :
    query.addEntry (key, value) = (parseFilter ⟨key, value, 0⟩).toOption.map fun filter =>
      { query with
        filters := query.filters ++ [filter.mapConditions (·.resolve query.paths)] } := by
  have hfilter : QueryParam.IsFilter ⟨key, value, 0⟩ := h
  rw [addEntry, addParam_of_isFilter hfilter, toOption_map]

/-- An entry keeps the leaves, and adds one filter if it is one. -/
theorem addEntry_frame {query next : ParsedQuery} {entry : Text × Text}
    (h : query.addEntry entry = some next) :
    next.paths = query.paths ∧
      next.filters.length = query.filters.length + filterCount [entry] := by
  have hadd := toOption_eq_some_iff.1 h
  refine ⟨(addParam_paths hadd).2, ?_⟩
  obtain ⟨key, value⟩ := entry
  rw [filterCount, List.countP_singleton]
  by_cases hkey : IsFilterKey key
  · rw [addEntry_of_isFilterKey hkey] at h
    obtain ⟨filter, -, rfl⟩ := Option.map_eq_some_iff.1 h
    simp [hkey]
  · rcases addParam_filters hadd with hsame | ⟨hfilter, -⟩
    · simp [hkey, hsame]
    · exact absurd hfilter hkey

theorem foldlM_addEntry_frame {entries : List (Text × Text)} {query next : ParsedQuery}
    (h : entries.foldlM addEntry query = some next) :
    next.paths = query.paths ∧
      next.filters.length = query.filters.length + filterCount entries := by
  induction entries generalizing query with
  | nil =>
    obtain rfl := Option.some.inj h
    exact ⟨rfl, rfl⟩
  | cons entry rest ih =>
    rw [List.foldlM_cons] at h
    obtain ⟨middle, hfirst, hrest⟩ := Option.bind_eq_some_iff.1 h
    obtain ⟨hpaths, hlength⟩ := addEntry_frame hfirst
    obtain ⟨hpaths', hlength'⟩ := ih hrest
    refine ⟨hpaths'.trans hpaths, ?_⟩
    have hcount : filterCount (entry :: rest) = filterCount [entry] + filterCount rest :=
      @List.countP_append _ _ [entry] rest
    rw [hlength', hlength, hcount, Nat.add_assoc]

end ParsedQuery

/-- The selection does not depend on an entry with another key. -/
theorem selectionOf_replace {before after : List (Text × Text)} {entry other : Text × Text}
    (hentry : entry.1 ≠ "select".toList) (hother : other.1 ≠ "select".toList) :
    selectionOf (before ++ entry :: after) = selectionOf (before ++ other :: after) := by
  rw [selectionOf, selectionOf, List.find?_append, List.find?_append,
    List.find?_cons_of_neg (by simpa using hentry), List.find?_cons_of_neg (by simpa using hother)]

/-! ## 3. The two places -/

namespace ParsedQuery

/-- A condition as a parameter of its own. -/
theorem addEntry_condition {column : Text} (hkey : IsFilterKey column)
    (hlogic : logicGroup? column = none) (query : ParsedQuery) (expression : Text) :
    query.addEntry (column, expression) =
      (parseCondition column expression none 0).toOption.map fun c =>
        { query with filters := query.filters ++ [.condition (c.resolve query.paths)] } := by
  rw [addEntry_of_isFilterKey hkey, parseFilter]
  simp only [hlogic]
  rw [toOption_map, toOption_parseCondition column expression none _ 0, Option.map_map]
  refine congrArg (Option.map · _) (funext fun c => ?_)
  rw [Function.comp_apply, FilterTree.mapConditions_condition]

/-- A condition as the one member of a group. -/
theorem addEntry_group {member : Text} (hmember : IsMember member)
    (hplain : groupMember? member = none) (query : ParsedQuery) :
    query.addEntry ("and".toList, parenthesized [member]) =
      (parseMember member none 0).toOption.map fun filter =>
        { query with
          filters := query.filters ++
            [.allOf [filter.mapConditions (·.resolve query.paths)]] } := by
  have hkey : IsFilterKey "and".toList := by decide
  have hlogic : logicGroup? "and".toList = some (none, false, .allOf) := by decide
  have hgroup := toOption_parseGroup_members (List.cons_ne_nil member [])
    (List.forall_mem_singleton.2 ⟨hmember, hplain⟩) none .allOf
  rw [addEntry_of_isFilterKey hkey, parseFilter]
  simp only [hlogic]
  rw [toOption_map, hgroup, List.mapM_cons, List.mapM_nil]
  cases (parseMember member none 0).toOption with
  | none => rfl
  | some filter =>
    refine congrArg (fun group => some { query with filters := query.filters ++ [group] }) ?_
    exact FilterTree.mapConditions_allOf _ _

/-- The entries behind a filter add theirs to it. -/
theorem foldlM_addEntry_from (entries : List (Text × Text)) (query : ParsedQuery)
    (front : List FilterTree) :
    entries.foldlM addEntry { query with filters := front } =
      (entries.foldlM addEntry { query with filters := [] }).map (prepend front) := by
  rw [← foldlM_addEntry_prepend, prepend, List.append_nil]

end ParsedQuery

/-- The member of a column and an expression is resolved to the condition that
these spell exactly if the column is not cut early. -/
theorem resolved_member_iff {paths : List Path} (haligned : ∀ path ∈ paths, path.IsAligned)
    {column expression : Text} {c : Condition}
    (hc : parseCondition column expression none 0 = .ok c) :
    (parseMember (column ++ '.' :: expression) none 0).toOption.map
        (·.mapConditions (·.resolve paths)) = some (.condition (c.resolve paths)) ↔
      ¬IsCutEarly column c.negated := by
  obtain ⟨hpath, -, operand, rfl⟩ := exists_spell_of_parseCondition hc
  constructor
  · intro hsame hcut
    obtain ⟨filter, hfilter, hresolved⟩ := Option.map_eq_some_iff.1 hsame
    obtain ⟨other, shorter, rfl, hother, hlength⟩ :=
      shorter_of_parseMember _ _ _ _ hcut (toOption_eq_some_iff.1 hfilter)
    rw [FilterTree.mapConditions_condition] at hresolved
    have hlengths := congrArg (fun c => (Text.splitOn '.' c.path).length)
      (FilterTree.condition.inj hresolved)
    rw [length_resolve haligned, length_resolve haligned, hpath, hother] at hlengths
    exact absurd hlengths (Nat.ne_of_lt hlength)
  · intro hcut
    rw [parseMember_spell c.operator operand none 0 hcut, hc]
    exact congrArg some (FilterTree.mapConditions_condition _ _)

/-! ## 4. A query string around one entry -/

/-- What a select clause and the entries in front of another one are read as. -/
def readFront (clause : Text) (before : List (Text × Text)) : Option ParsedQuery :=
  (parseSelect clause).toOption.bind fun paths =>
    before.foldlM ParsedQuery.addEntry { select := clause, paths }

theorem length_filters_readFront {clause : Text} {before : List (Text × Text)}
    {front : ParsedQuery} (h : readFront clause before = some front) :
    front.filters.length = filterCount before := by
  obtain ⟨paths, -, hfront⟩ := Option.bind_eq_some_iff.1 h
  simpa using (ParsedQuery.foldlM_addEntry_frame hfront).2

/-- A query string is read up to an entry, that entry, and the rest. -/
theorem toOption_parseQueryKey_around {text : Text} {before after : List (Text × Text)}
    {entry : Text × Text} (h : QueryParam.entries text = some (before ++ entry :: after)) :
    (parseQueryKey text).toOption =
      (readFront (selectionOf (before ++ entry :: after)) before).bind fun front =>
        (front.addEntry entry).bind fun next => after.foldlM ParsedQuery.addEntry next := by
  rw [toOption_parseQueryKey, h, Option.bind_some, readFront, Option.bind_assoc]
  simp only [List.foldlM_append, List.foldlM_cons]
  rfl

section

variable {text : Text} {before after : List (Text × Text)}

/-- What a query string with a condition of its own is made of. -/
theorem exists_parts_of_condition {column expression : Text} (hkey : IsFilterKey column)
    (hlogic : logicGroup? column = none)
    (hentries : QueryParam.entries text = some (before ++ (column, expression) :: after))
    {query : ParsedQuery} (hquery : parseQueryKey text = .ok query) :
    ∃ c front back, (∀ offset, parseCondition column expression none offset = .ok c) ∧
      readFront (selectionOf (before ++ (column, expression) :: after)) before = some front ∧
      after.foldlM ParsedQuery.addEntry { front with filters := [] } = some back ∧
      query = back.prepend (front.filters ++ [.condition (c.resolve front.paths)]) := by
  have hread := toOption_eq_some_iff.2 hquery
  rw [toOption_parseQueryKey_around hentries] at hread
  obtain ⟨front, hfront, hread⟩ := Option.bind_eq_some_iff.1 hread
  obtain ⟨next, hnext, hread⟩ := Option.bind_eq_some_iff.1 hread
  rw [ParsedQuery.addEntry_condition hkey hlogic] at hnext
  obtain ⟨c, hc, rfl⟩ := Option.map_eq_some_iff.1 hnext
  rw [ParsedQuery.foldlM_addEntry_from] at hread
  obtain ⟨back, hback, rfl⟩ := Option.map_eq_some_iff.1 hread
  refine ⟨c, front, back, fun offset => ?_, hfront, hback, rfl⟩
  rw [← toOption_eq_some_iff, toOption_parseCondition _ _ _ offset 0, hc]

/-- A query string with a group of one member, when the entries around it are
read. -/
theorem toOption_parseQueryKey_member {member : Text} (hmember : IsMember member)
    (hplain : groupMember? member = none)
    (hentries : QueryParam.entries text =
      some (before ++ ("and".toList, parenthesized [member]) :: after))
    {front back : ParsedQuery}
    (hfront : readFront
      (selectionOf (before ++ ("and".toList, parenthesized [member]) :: after)) before = some front)
    (hback : after.foldlM ParsedQuery.addEntry { front with filters := [] } = some back) :
    (parseQueryKey text).toOption = (parseMember member none 0).toOption.map fun filter =>
      back.prepend
        (front.filters ++ [.allOf [filter.mapConditions (·.resolve front.paths)]]) := by
  rw [toOption_parseQueryKey_around hentries, hfront, Option.bind_some,
    ParsedQuery.addEntry_group hmember hplain]
  cases (parseMember member none 0).toOption with
  | none => rfl
  | some filter =>
    rw [Option.map_some, Option.bind_some, ParsedQuery.foldlM_addEntry_from, hback]
    rfl

end

/-! ## 5. The two places mean the same -/

/-- A parameter `column=expression` that is read as a condition is read as the
group of that condition, with the other parameters as they are, when it is
written `and=(column.expression)` instead: exactly if the column is not cut
early. -/
theorem parseQueryKey_regrouped_iff {placed grouped : Text} {before after : List (Text × Text)}
    {column expression : Text} (hcolumn : IsIdentifierPath column) (hkey : IsFilterKey column)
    (hlogic : logicGroup? column = none) (hexpression : IsMember expression)
    (hplaced : QueryParam.entries placed = some (before ++ (column, expression) :: after))
    (hgrouped : QueryParam.entries grouped =
      some (before ++ ("and".toList, parenthesized [column ++ '.' :: expression]) :: after))
    {query : ParsedQuery} (hquery : parseQueryKey placed = .ok query) :
    ∃ c, (∀ offset, parseCondition column expression none offset = .ok c) ∧
      query.filters[filterCount before]? = some (.condition (c.resolve query.paths)) ∧
      (parseQueryKey grouped = .ok { query with
          filters := query.filters.set (filterCount before)
            (.allOf [.condition (c.resolve query.paths)]) } ↔
        ¬IsCutEarly column c.negated) := by
  obtain ⟨c, front, back, hplaces, hfront, hback, hparts⟩ :=
    exists_parts_of_condition hkey hlogic hplaced hquery
  have hown : back.paths = front.paths := (ParsedQuery.foldlM_addEntry_frame hback).1
  have hcount : filterCount before = front.filters.length := (length_filters_readFront hfront).symm
  have haligned : ∀ path ∈ front.paths, path.IsAligned := by
    have hpaths : query.paths = front.paths := by rw [hparts, ParsedQuery.prepend, hown]
    exact isAligned_of_parseSelect (hpaths ▸ paths_of_parseQueryKey hquery)
  have hplain : groupMember? (column ++ '.' :: expression) = none := by
    obtain ⟨-, -, operand, rfl⟩ := exists_spell_of_parseCondition (hplaces 0)
    exact FilterTree.groupMember?_spell hcolumn _ _ _
  have hcolumnKey : column ≠ "select".toList := fun hselect =>
    hkey.1 (by rw [hselect]; exact List.mem_cons_self)
  have hgroupKey : "and".toList ≠ "select".toList := by decide
  have hselection : selectionOf (before ++ (column, expression) :: after) = selectionOf
      (before ++ ("and".toList, parenthesized [column ++ '.' :: expression]) :: after) :=
    selectionOf_replace hcolumnKey hgroupKey
  rw [hselection] at hfront
  have hgroup := toOption_parseQueryKey_member (hcolumn.isMember_append hexpression) hplain
    hgrouped hfront hback
  have hset : (front.filters ++ [FilterTree.condition (c.resolve front.paths)] ++ back.filters).set
      front.filters.length (.allOf [.condition (c.resolve front.paths)]) =
        front.filters ++ [.allOf [.condition (c.resolve front.paths)]] ++ back.filters := by
    simp
  subst hparts
  refine ⟨c, hplaces, ?_, ?_⟩
  · rw [ParsedQuery.prepend, hown, hcount]
    simp
  · rw [← resolved_member_iff haligned (hplaces 0), ← toOption_eq_some_iff, hgroup, hcount]
    simp only [ParsedQuery.prepend, hown, hset, Option.map_eq_some_iff, ParsedQuery.mk.injEq,
      List.append_cancel_right_eq, List.append_cancel_left_eq, List.cons.injEq, and_true,
      true_and, FilterTree.allOf.injEq]

/-- The members of all teams but one. -/
def otherTeams : ParsedQuery where
  select := "id,name".toList
  paths := [.ofText "id".toList, .ofText "name".toList]
  filters := [.condition ⟨"team.name".toList, none, .eq, true, .str "Core".toList⟩]
  limit := some 3

theorem parseSelect_otherTeams : parseSelect otherTeams.select = .ok otherTeams.paths :=
  @parseSelect_columns ["id".toList, "name".toList] (by decide) (by decide)

theorem parseFilter_otherTeams (offset : Nat) :
    ParsedQuery.parseFilter ⟨"team.name".toList, "not.eq.Core".toList, offset⟩ =
      .ok (.condition ⟨"team.name".toList, none, .eq, true, .str "Core".toList⟩) := by
  have hvalue : typedValue "Core".toList = .str "Core".toList := by decide
  have hlogic : logicGroup? "team.name".toList = none := by decide
  have hspell : "not.eq.Core".toList = FilterOperator.eq.spell true "Core".toList := by decide
  simp only [ParsedQuery.parseFilter, hlogic, hspell, parseCondition_spell, parseOperand, hvalue]
  rfl

theorem parseQueryKey_otherTeams :
    parseQueryKey "select=id,name&team.name=not.eq.Core&limit=3".toList = .ok otherTeams := by
  have hparams : QueryParam.ofText "select=id,name&team.name=not.eq.Core&limit=3".toList =
      .ok [⟨"select".toList, "id,name".toList, 0⟩,
        ⟨"team.name".toList, "not.eq.Core".toList, 15⟩, ⟨"limit".toList, "3".toList, 37⟩] := rfl
  have hfilter : QueryParam.IsFilter ⟨"team.name".toList, "not.eq.Core".toList, 15⟩ :=
    (by decide : IsFilterKey "team.name".toList)
  rw [parseQueryKey_of_params hparams parseSelect_otherTeams, List.foldlM_cons,
    ParsedQuery.addParam_of_isFilter hfilter, parseFilter_otherTeams]
  rfl

theorem parseQueryKey_regrouped_otherTeams :
    parseQueryKey "select=id,name&team.name=not.eq.Core&limit=3".toList = .ok otherTeams ∧
    parseQueryKey "select=id,name&and=(team.name.not.eq.Core)&limit=3".toList =
      .ok { otherTeams with filters := [.allOf otherTeams.filters] } := by
  have hexpression : IsMember "not.eq.Core".toList :=
    .of_isWritten (isWritten_word (by decide) (by decide))
  have hentries : QueryParam.entries "select=id,name&team.name=not.eq.Core&limit=3".toList =
      some ([("select".toList, "id,name".toList)] ++
        ("team.name".toList, "not.eq.Core".toList) :: [("limit".toList, "3".toList)]) := rfl
  have hgrouped : QueryParam.entries "select=id,name&and=(team.name.not.eq.Core)&limit=3".toList =
      some ([("select".toList, "id,name".toList)] ++
        ("and".toList, parenthesized ["team.name".toList ++ '.' :: "not.eq.Core".toList]) ::
          [("limit".toList, "3".toList)]) := rfl
  obtain ⟨c, hc, hfilter, hsame⟩ := parseQueryKey_regrouped_iff (by decide) (by decide) (by decide)
    hexpression hentries hgrouped parseQueryKey_otherTeams
  refine ⟨parseQueryKey_otherTeams, ?_⟩
  have hcut : ¬IsCutEarly "team.name".toList c.negated := by
    cases c.negated <;> decide
  have hplace : filterCount [("select".toList, "id,name".toList)] = 0 := by decide
  rw [hplace] at hfilter
  rw [hsame.2 hcut, hplace, ← Option.some.inj hfilter]
  rfl

/-- The games of a cup that are known by their number. -/
def cupGames (filters : List FilterTree) : ParsedQuery where
  select := "id,name".toList
  paths := [.ofText "id".toList, .ofText "name".toList]
  filters

/-- As a parameter `cup.match=eq.5` asks for the match 5 of a cup; in a group it
asks for a cup that matches the pattern `eq.5`. -/
theorem match_column_cut_early :
    parseQueryKey "select=id,name&cup.match=eq.5".toList =
      .ok (cupGames [.condition ⟨"cup.match".toList, none, .eq, false, .num (.int 5)⟩]) ∧
    parseQueryKey "select=id,name&and=(cup.match.eq.5)".toList =
      .ok (cupGames [.allOf [.condition ⟨"cup".toList, none, .match_, false,
        .str "eq.5".toList⟩]]) ∧
    parseQueryKey "select=id,name&and=(cup.match.eq.5)".toList ≠
      .ok (cupGames [.allOf [.condition ⟨"cup.match".toList, none, .eq, false,
        .num (.int 5)⟩]]) := by
  have hplaced : QueryParam.ofText "select=id,name&cup.match=eq.5".toList =
      .ok [⟨"select".toList, "id,name".toList, 0⟩, ⟨"cup.match".toList, "eq.5".toList, 15⟩] := rfl
  have hgrouped : QueryParam.ofText "select=id,name&and=(cup.match.eq.5)".toList =
      .ok [⟨"select".toList, "id,name".toList, 0⟩,
        ⟨"and".toList, "(cup.match.eq.5)".toList, 15⟩] := rfl
  have hpaths : parseSelect "id,name".toList = .ok (cupGames []).paths :=
    @parseSelect_columns ["id".toList, "name".toList] (by decide) (by decide)
  have hcondition : ParsedQuery.parseFilter ⟨"cup.match".toList, "eq.5".toList, 15⟩ =
      .ok (.condition ⟨"cup.match".toList, none, .eq, false, .num (.int 5)⟩) :=
    parseFilter_eq 15 (by decide) (by decide)
  have hgroup : ParsedQuery.parseFilter ⟨"and".toList, "(cup.match.eq.5)".toList, 15⟩ =
      .ok (.allOf [.condition ⟨"cup".toList, none, .match_, false, .str "eq.5".toList⟩]) := rfl
  have hread : parseQueryKey "select=id,name&and=(cup.match.eq.5)".toList =
      .ok (cupGames [.allOf [.condition ⟨"cup".toList, none, .match_, false,
        .str "eq.5".toList⟩]]) :=
    parseQueryKey_of_filter hgrouped hpaths (by decide : IsFilterKey "and".toList) hgroup
  refine ⟨parseQueryKey_of_filter hplaced hpaths (by decide : IsFilterKey "cup.match".toList)
    hcondition, hread, fun hclaimed => ?_⟩
  have hfilters := congrArg ParsedQuery.filters (Except.ok.inj (hread.symm.trans hclaimed))
  have hmembers := FilterTree.allOf.inj (List.cons.inj hfilters).1
  have hc := FilterTree.condition.inj (List.cons.inj hmembers).1
  have hoperator := congrArg Condition.operator hc
  contradiction

end QueryCache
