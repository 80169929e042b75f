/-
QueryCache.Proofs.Statement.Merged — a merged statement holds the caller's
leaves.

Merging adds paths without aliases and drops none.  So when the names of
the caller's clause and of the live queries are identifiers, every path
folded into the statement is bare, the caller's own leaves are among them,
and there is a statement (`exists_merged`).
-/
import QueryCache.Proofs.Reshape.Slots
import QueryCache.Proofs.Statement.Emitted
import QueryCache.Reshape.Merge

namespace QueryCache

/-- A select clause of identifiers: no wildcard, no cast and no aggregate.
The fields of every level answer under keys of their own. -/
structure PlainClause (clause : Text) (fields : List Field) : Prop where
  select_eq : selectFields clause = .ok fields
  nonempty : fields ≠ []
  plain : Field.AllOf Head.IsPlain fields
  not_aggregate : ∀ chain ∈ Field.chainsOf fields, (Path.ofHeads chain).isAggregate = false
  distinct : Field.DistinctKeysOf fields

/-- A live query, read from its query string, in which all names, aliases
and hints are identifiers. -/
def TableQuery.IsPlain (query : TableQuery) : Prop :=
  ∃ text parsed fields, TableQuery.ofQueryKey text = .ok query ∧
    parseQueryKey text = .ok parsed ∧ selectFields parsed.select = .ok fields ∧
    Field.AllOf Head.IsPlain fields ∧
    ∀ column ∈ FilterTree.paths query.filters, ∀ segment ∈ Text.splitOn '.' column.path,
      Segment.isPlain segment = true

/-- The leaves of the caller's clause are merged with what the live queries
need. -/
theorem normalizeQuery_of_parseSelect {clause : Text} {leaves : List Path}
    (h : parseSelect clause = .ok leaves) (queries : List TableQuery) :
    normalizeQuery (some clause) false queries =
      .ok (NormalizedQuery.merged (some leaves) queries) := by
  simp only [normalizeQuery, h, Except.map, bind, Except.bind, pure, Except.pure,
    Bool.false_eq_true, if_false]

theorem parseSelect_of_normalizeQuery {clause : Text} {queries : List TableQuery}
    {result : Option NormalizedQuery}
    (h : normalizeQuery (some clause) false queries = .ok result) :
    ∃ leaves, parseSelect clause = .ok leaves := by
  rcases hread : parseSelect clause with error | leaves
  · simp only [normalizeQuery, hread] at h
    contradiction
  · exact ⟨leaves, rfl⟩

/-! ## 1. Bare paths -/

/-- The segments of a chain of heads. -/
def Head.segments (chain : List Head) : List Text :=
  chain.map (·.segment)

theorem PlainChain.segments {chain : List Head} (h : PlainChain chain) :
    Head.segments chain ≠ [] ∧
      ∀ segment ∈ Head.segments chain, Segment.isPlain segment = true := by
  refine ⟨by simpa [Head.segments] using h.1, ?_⟩
  intro segment hmem
  obtain ⟨head, hhead, rfl⟩ := List.mem_map.1 hmem
  exact Head.isPlain_segment (h.2 head hhead).1

/-- Without its aliases the leaf of a plain chain is bare. -/
theorem PlainChain.isBare {chain : List Head} (h : PlainChain chain) :
    (Path.ofHeads chain).withoutAlias.IsBare :=
  ⟨Head.segments chain, h.segments.1, h.segments.2, Path.withoutAlias_ofHeads h⟩

namespace TableQuery

/-- The leaves of a plain live query are bare without their aliases. -/
theorem isBare_of_mem {query : TableQuery} (h : query.IsPlain) {path : Path}
    (hmem : path ∈ query.paths) : path.withoutAlias.IsBare := by
  obtain ⟨text, parsed, fields, hquery, hparsed, hselect, hplain, -⟩ := h
  have hpaths := paths_of_parseQueryKey hparsed
  rw [parseSelect_chains hselect, Except.ok.injEq] at hpaths
  rw [TableQuery.ofQueryKey, hparsed] at hquery
  have heq : query.paths = parsed.paths := congrArg paths (Except.ok.inj hquery).symm
  rw [heq, ← hpaths] at hmem
  obtain ⟨chain, hchain, rfl⟩ := List.mem_map.1 hmem
  exact (Field.plainChain_of_mem hplain (selectFields_spelled hselect) hchain).isBare

/-- So is what its filters need. -/
theorem isBare_filterPath {query : TableQuery} (h : query.IsPlain) {column : FilterPath}
    (hmem : column ∈ FilterTree.paths query.filters) :
    (NormalizedQuery.filterPath query column).IsBare := by
  unfold NormalizedQuery.filterPath
  split
  · rename_i path hfound
    exact isBare_of_mem h (List.mem_of_find?_eq_some hfound)
  · obtain ⟨-, -, -, -, -, -, -, hcolumns⟩ := h
    exact ⟨_, Text.splitOn_ne_nil _ _, hcolumns column hmem, by rw [Text.join_splitOn]⟩

end TableQuery

/-! ## 2. Merged paths -/

namespace NormalizedQuery

theorem mem_pushUnique {paths : List Path} {path other : Path} :
    (other ∈ paths → other ∈ pushUnique paths path) ∧
      (other ∈ pushUnique paths path → other ∈ paths ∨ other = path) := by
  unfold pushUnique
  dsimp only
  split
  · exact ⟨id, Or.inl⟩
  · exact ⟨fun h => List.mem_append_left _ h, fun h => by simpa using h⟩

/-- Pushing paths keeps those that are there, and adds no others. -/
theorem mem_foldl_pushUnique {needed paths : List Path} {other : Path} :
    (other ∈ paths → other ∈ needed.foldl pushUnique paths) ∧
      (other ∈ needed.foldl pushUnique paths → other ∈ paths ∨ other ∈ needed) := by
  induction needed generalizing paths with
  | nil => exact ⟨id, Or.inl⟩
  | cons path rest ih =>
    obtain ⟨hkept, hnew⟩ := @ih (pushUnique paths path)
    obtain ⟨hkept', hnew'⟩ := @mem_pushUnique paths path other
    refine ⟨fun h => hkept (hkept' h), fun h => ?_⟩
    rcases hnew h with h | h
    · rcases hnew' h with h | rfl
      · exact Or.inl h
      · exact Or.inr List.mem_cons_self
    · exact Or.inr (List.mem_cons_of_mem _ h)

/-- Live queries add bare paths to bare paths, and keep these. -/
theorem foldl_addQuery {queries : List TableQuery} (hqueries : ∀ query ∈ queries, query.IsPlain)
    {paths : List Path} (hpaths : ∀ path ∈ paths, path.IsBare) :
    (∀ path ∈ queries.foldl addQuery paths, path.IsBare) ∧
      ∀ path ∈ paths, path ∈ queries.foldl addQuery paths := by
  induction queries generalizing paths with
  | nil => exact ⟨hpaths, fun _ hmem => hmem⟩
  | cons query rest ih =>
    have hquery := hqueries query List.mem_cons_self
    have hbare : ∀ path ∈ addQuery paths query, path.IsBare := by
      intro path hmem
      rcases mem_foldl_pushUnique.2 hmem with hmem | hmem
      · exact hpaths path hmem
      · rcases List.mem_append.1 hmem with hmem | hmem
        · obtain ⟨column, hcolumn, rfl⟩ := List.mem_map.1 hmem
          exact TableQuery.isBare_filterPath hquery hcolumn
        · obtain ⟨own, hown, rfl⟩ := List.mem_map.1 hmem
          exact TableQuery.isBare_of_mem hquery (List.mem_filter.1 hown).1
    obtain ⟨hall, hkept⟩ :=
      ih (fun other hmem => hqueries other (List.mem_cons_of_mem _ hmem)) hbare
    exact ⟨hall, fun path hmem => hkept path (mem_foldl_pushUnique.1 hmem)⟩

/-! ## 3. Merged statements -/

/-- The statement of bare paths, one of which is no aggregate, is not
empty. -/
theorem statement_ne_nil {nodes : List SelectNode} {policy : DedupePolicy} {chain : EmitChain}
    {collides : SelectNode → Bool} {counter : Nat} (hnodes : SelectNode.ArePlain nodes)
    (hvisible : SelectNode.visible nodes ≠ []) :
    GroupedPath.statement
      (SelectNode.emitList policy chain collides counter nodes).grouped ≠ [] := by
  refine GroupedPath.statement_ne_nil (fun hnil => hvisible ?_)
    (SelectNode.declaration_ne_nil fun node hmem =>
      SelectNode.path_ne_nil_of_isPlain (SelectNode.arePlain_iff.1 hnodes node hmem))
  exact SelectNode.areSuppressed_iff.1 (SelectNode.grouped_eq_nil_iff.1 hnil)

/-- The bare paths of a clause. -/
def ownPaths (fields : List Field) : List Path :=
  ((Field.chainsOf fields).map Path.ofHeads).map Path.withoutAlias

section

variable {user : Text} {fields : List Field} (huser : PlainClause user fields)
include huser

theorem plainChain_of_clause : ∀ chain ∈ Field.chainsOf fields, PlainChain chain := fun _ hmem =>
  Field.plainChain_of_mem huser.plain (selectFields_spelled huser.select_eq) hmem

theorem isBare_ownPaths : ∀ path ∈ ownPaths fields, path.IsBare := by
  intro path hmem
  obtain ⟨leaf, hleaf, rfl⟩ := List.mem_map.1 hmem
  obtain ⟨chain, hchain, rfl⟩ := List.mem_map.1 hleaf
  exact (plainChain_of_clause huser chain hchain).isBare

/-- The tree of bare paths, those of a clause among them, leads to every
leaf of the clause. -/
theorem leadsTo_visible {paths : List Path} (hbare : ∀ path ∈ paths, path.IsBare)
    (hkept : ∀ path ∈ ownPaths fields, path ∈ paths) :
    ∀ chain ∈ Field.chainsOf fields, GroupedPath.LeadsTo (Head.segments chain)
      (SelectNode.visible (SelectTree.ofPaths paths).children) := by
  obtain ⟨hplain, hholds⟩ := SelectTree.ofPaths_bare hbare
  intro chain hchain
  have hplainChain := plainChain_of_clause huser chain hchain
  have hsegments := hplainChain.segments
  refine (hholds _ hsegments.1 hsegments.2 (hkept _ ?_)).leadsTo hplain ?_
  · have hpath := Path.withoutAlias_ofHeads hplainChain
    exact hpath ▸ List.mem_map_of_mem (List.mem_map_of_mem hchain)
  · intro segment hlast
    have hterminal := huser.not_aggregate chain hchain
    rw [Path.isAggregate, Path.terminal, Path.segments,
      Path.splitOn_path_ofHeads hplainChain] at hterminal
    rw [Option.mem_def, Head.segments] at hlast
    rwa [hlast, Option.getD_some] at hterminal

/-- A caller with a plain clause gets the statement of bare paths, the bare
paths of the clause among them. -/
theorem exists_mergedPaths {queries : List TableQuery}
    (hqueries : ∀ query ∈ queries, query.IsPlain) :
    ∃ paths, (∀ path ∈ paths, path.IsBare) ∧ (∀ path ∈ ownPaths fields, path ∈ paths) ∧
      normalizeQuery (some user) false queries = .ok (some ⟨(buildStatement paths).statement,
        some ((Field.chainsOf fields).map Path.ofHeads), paths,
        (buildStatement paths).grouped⟩) := by
  obtain ⟨hbare, hkept⟩ := foldl_addQuery hqueries (isBare_ownPaths huser)
  refine ⟨_, hbare, hkept, ?_⟩
  let statement := buildStatement (queries.foldl addQuery (ownPaths fields))
  obtain ⟨chain, hchain⟩ := List.exists_mem_of_ne_nil _
    (Field.chainsOf_nonempty fields huser.nonempty)
  have hnonempty : statement.isEmpty = false := by
    have hne : statement.statement ≠ [] :=
      statement_ne_nil (SelectTree.ofPaths_bare hbare).1
        (leadsTo_visible huser hbare hkept chain hchain).ne_nil
    simpa [SelectStatement.isEmpty] using hne
  have hmerged : NormalizedQuery.merged (some ((Field.chainsOf fields).map Path.ofHeads))
      queries = if statement.isEmpty then none else some ⟨statement.statement,
        some ((Field.chainsOf fields).map Path.ofHeads),
        queries.foldl addQuery (ownPaths fields), statement.grouped⟩ := rfl
  rw [hnonempty, if_neg Bool.false_ne_true] at hmerged
  rw [normalizeQuery_of_parseSelect (parseSelect_chains huser.select_eq), hmerged]

/-- When no two entries of the statement refer to one name it is bare and
leads to every leaf of the clause. -/
theorem exists_merged {queries : List TableQuery} (hqueries : ∀ query ∈ queries, query.IsPlain) :
    ∃ merged, normalizeQuery (some user) false queries = .ok (some merged) ∧
      merged.userPaths = some ((Field.chainsOf fields).map Path.ofHeads) ∧
      merged.selectQuery = GroupedPath.statement merged.grouped ∧
      (GroupedPath.DistinctNamesOf merged.grouped → GroupedPath.AreBare merged.grouped ∧
        ∀ chain ∈ Field.chainsOf fields,
          GroupedPath.LeadsTo (Head.segments chain) merged.grouped) := by
  obtain ⟨paths, hbare, hkept, hmerged⟩ := exists_mergedPaths huser hqueries
  refine ⟨_, hmerged, rfl, rfl, fun hdistinct => ?_⟩
  have hplain := (SelectTree.ofPaths_bare hbare).1
  have hgrouped : (buildStatement paths).grouped =
      SelectNode.visible (SelectTree.ofPaths paths).children :=
    SelectNode.grouped_emitList _ _ _ _ _ hplain
      (fun node _ => SelectNode.needsAlias_eq_false hdistinct node) hdistinct
  dsimp only
  rw [hgrouped]
  exact ⟨SelectNode.areBare_visible _ hplain, leadsTo_visible huser hbare hkept⟩

end

end NormalizedQuery
end QueryCache
