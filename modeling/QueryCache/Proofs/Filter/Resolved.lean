/-
QueryCache.Proofs.Filter.Resolved — the conditions of a query string.

The filters of a query are those that its parameters spell, with the column
of every condition resolved against the selection
(`parseQueryKey_filters`).  Resolving puts segments of selected leaves in
place of the segments at the start of a column, and brings no others
(`Condition.forall_segment_resolve`).
-/
import QueryCache.Proofs.Filter.Tree
import QueryCache.Proofs.Select.Canonical

namespace QueryCache

/-! ## 1. Filters of a query -/

/-- The parameter is read as a filter. -/
def QueryParam.IsFilter (param : QueryParam) : Prop :=
  param.key ∉ ["select".toList, "order".toList, "limit".toList, "offset".toList] ∧
    ParsedQuery.isIgnored param.key = false

namespace FilterTree

/-- The conditions of a filter are replaced one by one. -/
theorem conditions_mapConditions (f : Condition → Condition) (filter : FilterTree) :
    (filter.mapConditions f).conditions = filter.conditions.map f := by
  have hgroup : ∀ group : List FilterTree,
      (∀ filter ∈ group, (filter.mapConditions f).conditions = filter.conditions.map f) →
      (group.map (mapConditions f)).flatMap conditions = (group.flatMap conditions).map f := by
    intro group ih
    rw [List.flatMap_map, List.map_flatMap]
    exact List.flatMap_congr ih
  induction filter using memberInduction with
  | condition c => simp
  | anyOf group ih => simpa using hgroup group ih
  | allOf group ih => simpa using hgroup group ih

/-- The columns that filters read are those of their conditions. -/
theorem mem_paths {filters : List FilterTree} {column : FilterPath} :
    column ∈ FilterTree.paths filters ↔
      ∃ filter ∈ filters, ∃ c ∈ filter.conditions, FilterPath.mk c.path c.aliasChain = column := by
  suffices ∀ (written : List Condition) (seen : List FilterPath),
      column ∈ written.foldl (fun seen c =>
          if seen.contains (FilterPath.mk c.path c.aliasChain) then seen
          else seen ++ [⟨c.path, c.aliasChain⟩]) seen ↔
        column ∈ seen ∨ ∃ c ∈ written, FilterPath.mk c.path c.aliasChain = column by
    refine (this (filters.flatMap conditions) []).trans ?_
    simp only [List.not_mem_nil, false_or, List.mem_flatMap]
    constructor
    · rintro ⟨c, ⟨filter, hfilter, hc⟩, hcolumn⟩
      exact ⟨filter, hfilter, c, hc, hcolumn⟩
    · rintro ⟨filter, hfilter, c, hc, hcolumn⟩
      exact ⟨c, ⟨filter, hfilter, hc⟩, hcolumn⟩
  intro written
  induction written with
  | nil => simp
  | cons c rest ih =>
    intro seen
    rw [List.foldl_cons, ih, List.exists_mem_cons_iff]
    split
    · rename_i hseen
      rw [List.contains_iff_mem] at hseen
      constructor
      · exact Or.imp_right Or.inr
      · rintro (h | rfl | h)
        · exact Or.inl h
        · exact Or.inl hseen
        · exact Or.inr h
    · rw [List.mem_append, List.mem_singleton, or_assoc, @eq_comm _ column]

end FilterTree

namespace ParsedQuery

theorem addParam_of_isFilter {param : QueryParam} (h : param.IsFilter) (query : ParsedQuery) :
    query.addParam param = (parseFilter param).map fun filter =>
      { query with
        filters := query.filters ++ [filter.mapConditions (·.resolve query.paths)] } := by
  obtain ⟨hkey, hignored⟩ := h
  simp only [List.mem_cons, List.not_mem_nil, or_false, not_or] at hkey
  obtain ⟨hselect, horder, hlimit, hoffset⟩ := hkey
  exact (if_neg hselect).trans ((if_neg horder).trans ((if_neg hlimit).trans
    ((if_neg hoffset).trans (if_neg (Bool.eq_false_iff.1 hignored)))))

/-- A parameter adds the filter that it spells, resolved, or none. -/
theorem addParam_filters {query next : ParsedQuery} {param : QueryParam}
    (h : query.addParam param = .ok next) :
    next.filters = query.filters ∨ param.IsFilter ∧ ∃ written,
      parseFilter param = .ok written ∧
        next.filters = query.filters ++ [written.mapConditions (·.resolve query.paths)] := by
  have mapped : ∀ {α : Type} {r : Except ParseError α} {f : α → ParsedQuery},
      r.map f = .ok next → ∃ a, r = .ok a ∧ f a = next := by
    intro α r f hr
    rcases r with error | a
    · simp [Except.map] at hr
    · exact ⟨a, rfl, Except.ok.inj hr⟩
  unfold addParam at h
  split at h
  · exact Or.inl (Except.ok.inj h ▸ rfl)
  · rename_i hselect
    split at h
    · obtain ⟨_, -, rfl⟩ := mapped h
      exact Or.inl rfl
    · rename_i horder
      split at h
      · obtain ⟨_, -, rfl⟩ := mapped h
        exact Or.inl rfl
      · rename_i hlimit
        split at h
        · obtain ⟨_, -, rfl⟩ := mapped h
          exact Or.inl rfl
        · rename_i hoffset
          split at h
          · exact Or.inl (Except.ok.inj h ▸ rfl)
          · rename_i hignored
            obtain ⟨written, hwritten, rfl⟩ := mapped h
            refine Or.inr ⟨⟨?_, Bool.eq_false_iff.2 hignored⟩, written, hwritten, rfl⟩
            simp only [List.mem_cons, List.not_mem_nil, or_false, not_or]
            exact ⟨hselect, horder, hlimit, hoffset⟩

end ParsedQuery

/-- Every filter of a query is one that a parameter spells, resolved. -/
theorem parseQueryKey_filters {text : Text} {query : ParsedQuery} {params : List QueryParam}
    (h : parseQueryKey text = .ok query) (hparams : QueryParam.ofText text = .ok params) :
    ∀ filter ∈ query.filters, ∃ param ∈ params, param.IsFilter ∧
      ∃ written, ParsedQuery.parseFilter param = .ok written ∧
        filter = written.mapConditions (·.resolve query.paths) := by
  obtain ⟨others, select, paths, hothers, -, hquery⟩ := parseQueryKey_eq_ok h
  obtain rfl := Except.ok.inj (hparams.symm.trans hothers)
  refine (ParsedQuery.foldlM_addParam_induction
    (P := fun query => query.paths = paths ∧ ∀ filter ∈ query.filters, ∃ param ∈ params,
      param.IsFilter ∧ ∃ written, ParsedQuery.parseFilter param = .ok written ∧
        filter = written.mapConditions (·.resolve query.paths))
    (fun query next param hmem hnext ⟨hpaths, hfilters⟩ => ?_) hquery ⟨rfl, by simp⟩).2
  have hkept := (ParsedQuery.addParam_paths hnext).2
  rw [hkept]
  refine ⟨hpaths, ?_⟩
  rcases ParsedQuery.addParam_filters hnext with hsame | ⟨hfilter, written, hwritten, hadded⟩
  · rw [hsame]
    exact hfilters
  · rw [hadded]
    intro filter hin
    rcases List.mem_append.1 hin with hin | hin
    · exact hfilters filter hin
    · exact ⟨param, hmem, hfilter, written, hwritten, List.mem_singleton.1 hin⟩

/-- A selection and one filter. -/
theorem parseQueryKey_of_filter {text clause : Text} {offset : Nat} {paths : List Path}
    {param : QueryParam} {filter : FilterTree}
    (hparams : QueryParam.ofText text = .ok [⟨"select".toList, clause, offset⟩, param])
    (hpaths : parseSelect clause = .ok paths) (hparam : param.IsFilter)
    (hfilter : ParsedQuery.parseFilter param = .ok filter) :
    parseQueryKey text =
      .ok { select := clause, paths, filters := [filter.mapConditions (·.resolve paths)] } := by
  rw [parseQueryKey_of_params hparams hpaths, List.foldlM_cons,
    ParsedQuery.addParam_of_isFilter hparam, hfilter]
  rfl

/-- A column that is to equal a value. -/
theorem parseFilter_eq {column operand : Text} {value : Json} (offset : Nat)
    (hgroup : logicGroup? column = none) (hvalue : typedValue operand = value) :
    ParsedQuery.parseFilter ⟨column, "eq.".toList ++ operand, offset⟩ =
      .ok (.condition { path := column, operator := .eq, operand := value }) := by
  have hcondition : ∀ offset, parseCondition column ("eq.".toList ++ operand) none offset =
      .ok { path := column, operator := .eq, operand := typedValue operand } := fun _ => rfl
  simp only [ParsedQuery.parseFilter, hgroup, hcondition, hvalue]
  rfl

/-! ## 2. Columns -/

section

variable {p : Text → Prop}

/-- A column that is mapped through a leaf consists of segments of both. -/
theorem forall_segment_mapThrough {column mapped : Text} {path : Path}
    (hcolumn : ∀ segment ∈ Text.splitOn '.' column, p segment)
    (hpath : ∀ segment ∈ Text.splitOn '.' path.path, p segment)
    (h : mapThrough? (Text.splitOn '.' column) path = some mapped) :
    ∀ segment ∈ Text.splitOn '.' mapped, p segment := by
  obtain ⟨chain, -, h⟩ := Option.bind_eq_some_iff.1 h
  obtain ⟨k, hk, h⟩ := List.exists_of_findSome?_eq_some h
  dsimp only at h
  split at h
  · split at h
    · contradiction
    · obtain rfl := Option.some.inj h
      have hshort : k + 1 ≤ path.segments.length := by
        rw [List.mem_reverse, List.mem_range] at hk
        omega
      have hmem : ∀ segment ∈ path.segments.take (k + 1) ++ (Text.splitOn '.' column).drop (k + 1),
          segment ∈ Text.splitOn '.' path.path ∨ segment ∈ Text.splitOn '.' column :=
        fun segment hsegment => (List.mem_append.1 hsegment).imp List.mem_of_mem_take
          List.mem_of_mem_drop
      rw [Text.splitOn_join (fun hnil => ?_) (fun segment hsegment => ?_)]
      · exact fun segment hsegment =>
          (hmem segment hsegment).elim (hpath segment) (hcolumn segment)
      · have hlength := congrArg List.length hnil
        simp only [List.length_append, List.length_take, List.length_nil] at hlength
        omega
      · rcases hmem segment hsegment with hin | hin <;> exact Text.not_mem_of_mem_splitOn hin
  · contradiction

/-- The leaf that a column names is one of the leaves. -/
theorem mem_of_leafNamed {paths : List Path} {column : Text} {path : Path}
    (h : leafNamed? paths column = some path) : path ∈ paths := by
  unfold leafNamed? at h
  rcases hchain : paths.find? fun path => path.aliasChain == some column with _ | named
  · rw [hchain] at h
    exact List.mem_of_find?_eq_some h
  · rw [hchain] at h
    exact Option.some.inj h ▸ List.mem_of_find?_eq_some hchain

/-- A resolved column consists of segments of the column and of the selected
leaves. -/
theorem Condition.forall_segment_resolve {paths : List Path} {c : Condition}
    (hpaths : ∀ path ∈ paths, ∀ segment ∈ Text.splitOn '.' path.path, p segment)
    (hc : ∀ segment ∈ Text.splitOn '.' c.path, p segment) :
    ∀ segment ∈ Text.splitOn '.' (c.resolve paths).path, p segment := by
  rw [resolve]
  split
  · rename_i path hleaf
    exact hpaths path (mem_of_leafNamed hleaf)
  · split
    · rename_i mapped hmapped
      obtain ⟨path, hmem, hmapped⟩ := List.exists_of_findSome?_eq_some hmapped
      exact forall_segment_mapThrough hc (hpaths path hmem) hmapped
    · exact hc

end

end QueryCache
