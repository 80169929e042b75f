/-
QueryCache.Proofs.Statement.Needed — a merged statement selects what is
needed, once.

Needed are the leaves of the caller's clause, those of the live queries, and
the columns of all their conditions, but no aggregates (`IsNeeded`).  When
all names are identifiers, these paths are canonical, each is merged under
its own text (`mem_addQuery_iff`), and a statement of canonical paths has
them as its leaves, each once.  So the statement is missing only when nothing
is needed (`normalizeQuery_needed`).
-/
import QueryCache.Proofs.Filter.Resolved
import QueryCache.Proofs.Statement.Leaves
import QueryCache.Proofs.Statement.Merged
import QueryCache.Proofs.Statement.ReadBack

namespace QueryCache

/-! ## 1. What is needed -/

namespace TableQuery

/-- The query is read from that text, in which all names are identifiers,
perhaps with casts and hints, and so are the columns of the filters as they
are written; `*` and `count()` may be selected. -/
structure IsNamedAs (text : Text) (query : TableQuery) : Prop where
  read : ofQueryKey text = .ok query
  select : ∀ parsed, parseQueryKey text = .ok parsed → IsNamedClause parsed.select
  filters : ∀ params, QueryParam.ofText text = .ok params → ∀ param ∈ params, param.IsFilter →
    ∀ written, ParsedQuery.parseFilter param = .ok written →
      ∀ c ∈ written.conditions, c.path.IsDottedName

/-- The canonical path is that of a selected leaf or of a condition. -/
def Uses (query : TableQuery) (path : Text) : Prop :=
  (∃ leaf ∈ query.paths, leaf.path = path) ∨
    ∃ filter ∈ query.filters, ∃ c ∈ filter.conditions, c.path = path

end TableQuery

/-- The canonical path is that of a leaf of the caller's clause, or used by a
live query, and it is no aggregate. -/
structure IsNeeded (user : Option Text) (queries : List TableQuery) (path : Text) : Prop where
  used : (∃ clause ∈ user, ∃ leaves, parseSelect clause = .ok leaves ∧
      ∃ leaf ∈ leaves, leaf.path = path) ∨ ∃ query ∈ queries, query.Uses path
  not_aggregate : (Path.ofText path).isAggregate = false

/-- All the paths are canonical, and known by their texts alone. -/
def AreCanonical (paths : List Path) : Prop :=
  ∀ path ∈ paths, ∃ text, text.IsCanonicalPath ∧ path = Path.ofText text

theorem AreCanonical.exists_declaration_iff {paths : List Path} (h : AreCanonical paths)
    {text : Text} : (∃ path ∈ paths, path.declaration = text) ↔ Path.ofText text ∈ paths := by
  constructor
  · rintro ⟨path, hmem, rfl⟩
    obtain ⟨own, -, rfl⟩ := h path hmem
    exact hmem
  · exact fun hmem => ⟨_, hmem, rfl⟩

/-- A query whose leaves and columns are canonical. -/
structure TableQuery.IsCanonical (query : TableQuery) : Prop where
  leaves : ∀ leaf ∈ query.paths, leaf.IsCanonical
  columns : ∀ filter ∈ query.filters, ∀ c ∈ filter.conditions, c.path.IsCanonicalPath

namespace TableQuery.IsNamedAs

variable {text : Text} {query : TableQuery} (h : query.IsNamedAs text)
include h

/-- The leaves and columns of a query of identifiers have segments of named
heads. -/
theorem isNamedPath : (∀ leaf ∈ query.paths, leaf.path.IsNamedPath ∧ leaf.IsCanonical) ∧
    ∀ filter ∈ query.filters, ∀ c ∈ filter.conditions, c.path.IsNamedPath := by
  obtain ⟨hread, hselect, hfilters⟩ := h
  rcases hparsed : parseQueryKey text with error | parsed
  · rw [ofQueryKey, hparsed] at hread
    contradiction
  · rw [ofQueryKey, hparsed] at hread
    obtain rfl := Except.ok.inj hread
    obtain ⟨params, -, -, hparams, -, -⟩ := parseQueryKey_eq_ok hparsed
    obtain ⟨leaves, hleaves, hnamed⟩ := (hselect parsed hparsed).exists_leaves
    rw [paths_of_parseQueryKey hparsed] at hleaves
    obtain rfl := Except.ok.inj hleaves
    refine ⟨hnamed, fun filter hfilter c hc => ?_⟩
    obtain ⟨param, hparam, hisFilter, written, hwritten, rfl⟩ :=
      parseQueryKey_filters hparsed hparams filter hfilter
    rw [FilterTree.conditions_mapConditions] at hc
    obtain ⟨own, hown, rfl⟩ := List.mem_map.1 hc
    have hname := hfilters params hparams param hparam hisFilter written hwritten own hown
    exact Condition.forall_segment_resolve (fun leaf hleaf => (hnamed leaf hleaf).1)
      hname.isNamedPath

theorem isCanonical : query.IsCanonical where
  leaves leaf hleaf := (h.isNamedPath.1 leaf hleaf).2
  columns filter hfilter c hc := (h.isNamedPath.2 filter hfilter c hc).isCanonicalPath

end TableQuery.IsNamedAs

namespace NormalizedQuery

/-! ## 2. Merging -/

/-- Pushing canonical paths adds each of them once and nothing else. -/
theorem mem_pushUnique_iff {paths : List Path} (hpaths : AreCanonical paths) {path other : Path}
    (hpath : AreCanonical [path]) :
    other ∈ pushUnique paths path ↔ other ∈ paths ∨ other = path := by
  obtain ⟨text, htext, rfl⟩ := hpath path List.mem_cons_self
  refine ⟨mem_pushUnique.2, ?_⟩
  rintro (hmem | rfl)
  · exact mem_pushUnique.1 hmem
  · unfold pushUnique
    dsimp only
    split
    · rename_i hany
      obtain ⟨same, hsame, heq⟩ := List.any_eq_true.1 hany
      obtain ⟨own, hown, rfl⟩ := hpaths same hsame
      have htexts : own = text := by
        simpa [Path.ofText, Segment.stripPathAliases_of_canonical hown,
          Segment.stripPathAliases_of_canonical htext] using heq
      exact htexts ▸ hsame
    · exact List.mem_append_right _ List.mem_cons_self

theorem mem_foldl_pushUnique_iff {needed paths : List Path} (hneeded : AreCanonical needed)
    (hpaths : AreCanonical paths) {other : Path} :
    other ∈ needed.foldl pushUnique paths ↔ other ∈ paths ∨ other ∈ needed := by
  induction needed generalizing paths with
  | nil => simp
  | cons path rest ih =>
    have hpath : AreCanonical [path] := fun one hone =>
      hneeded one (List.mem_singleton.1 hone ▸ List.mem_cons_self)
    have hpushed : ∀ {one : Path}, one ∈ pushUnique paths path ↔ one ∈ paths ∨ one = path :=
      mem_pushUnique_iff hpaths hpath
    have hnext : AreCanonical (pushUnique paths path) := fun one hone =>
      (hpushed.1 hone).elim (hpaths one) fun heq => hneeded one (heq ▸ List.mem_cons_self)
    rw [List.foldl_cons, ih (fun one hone => hneeded one (List.mem_cons_of_mem _ hone)) hnext,
      hpushed, List.mem_cons, or_assoc]

/-- What a live query adds: the columns of its conditions, and its leaves
but for aggregates. -/
def added (query : TableQuery) : List Path :=
  (FilterTree.paths query.filters).map (filterPath query) ++
    (query.paths.filter fun path => !path.isAggregate).map Path.withoutAlias

theorem addQuery_eq (paths : List Path) (query : TableQuery) :
    addQuery paths query = (added query).foldl pushUnique paths := rfl

section

variable {query : TableQuery} (h : query.IsCanonical)
include h

/-- A column is needed under its own text, also when a leaf selects it. -/
theorem filterPath_eq (column : FilterPath) :
    filterPath query column = Path.ofText column.path := by
  unfold filterPath
  split
  · rename_i path hfound
    have hpath : path.path = column.path := by
      have hsame := List.find?_some hfound
      rw [Bool.and_eq_true, beq_iff_eq] at hsame
      exact hsame.1
    rw [(h.leaves path (List.mem_of_find?_eq_some hfound)).withoutAlias_eq, hpath]
  · rfl

theorem mem_added_iff {path : Path} : path ∈ added query ↔
    (∃ filter ∈ query.filters, ∃ c ∈ filter.conditions, Path.ofText c.path = path) ∨
      ∃ leaf ∈ query.paths, leaf.isAggregate = false ∧ Path.ofText leaf.path = path := by
  rw [added, List.mem_append, List.mem_map, List.mem_map]
  refine or_congr ?_ ?_
  · constructor
    · rintro ⟨column, hcolumn, rfl⟩
      obtain ⟨filter, hfilter, c, hc, rfl⟩ := FilterTree.mem_paths.1 hcolumn
      exact ⟨filter, hfilter, c, hc, (filterPath_eq h ⟨c.path, c.aliasChain⟩).symm⟩
    · rintro ⟨filter, hfilter, c, hc, rfl⟩
      exact ⟨_, FilterTree.mem_paths.2 ⟨filter, hfilter, c, hc, rfl⟩, filterPath_eq h _⟩
  · constructor
    · rintro ⟨leaf, hleaf, rfl⟩
      obtain ⟨hmem, hvalue⟩ := List.mem_filter.1 hleaf
      exact ⟨leaf, hmem, by simpa using hvalue, (h.leaves leaf hmem).withoutAlias_eq.symm⟩
    · rintro ⟨leaf, hmem, hvalue, rfl⟩
      exact ⟨leaf, List.mem_filter.2 ⟨hmem, by simp [hvalue]⟩, (h.leaves leaf hmem).withoutAlias_eq⟩

theorem areCanonical_added : AreCanonical (added query) := by
  intro path hmem
  rcases (mem_added_iff h).1 hmem with ⟨filter, hfilter, c, hc, rfl⟩ | ⟨leaf, hleaf, -, rfl⟩
  · exact ⟨_, h.columns filter hfilter c hc, rfl⟩
  · exact ⟨_, (h.leaves leaf hleaf).canonical, rfl⟩

/-- Of what is no aggregate, a live query adds what it uses. -/
theorem ofText_mem_added_iff {text : Text} (hvalue : (Path.ofText text).isAggregate = false) :
    Path.ofText text ∈ added query ↔ query.Uses text := by
  have hinj : ∀ {other : Text}, Path.ofText other = Path.ofText text ↔ other = text := by
    simp [Path.ofText]
  rw [mem_added_iff h, TableQuery.Uses, or_comm]
  refine or_congr ?_ ?_
  · constructor
    · rintro ⟨leaf, hleaf, -, heq⟩
      exact ⟨leaf, hleaf, hinj.1 heq⟩
    · rintro ⟨leaf, hleaf, rfl⟩
      exact ⟨leaf, hleaf, hvalue, rfl⟩
  · simp only [hinj]

end

/-- Live queries add what each of them adds. -/
theorem mem_foldl_addQuery_iff {queries : List TableQuery}
    (hqueries : ∀ query ∈ queries, query.IsCanonical) {paths : List Path}
    (hpaths : AreCanonical paths) :
    AreCanonical (queries.foldl addQuery paths) ∧ ∀ {path : Path},
      path ∈ queries.foldl addQuery paths ↔
        path ∈ paths ∨ ∃ query ∈ queries, path ∈ added query := by
  induction queries generalizing paths with
  | nil => simpa using hpaths
  | cons query rest ih =>
    have hquery := hqueries query List.mem_cons_self
    have hadded : ∀ {path : Path},
        path ∈ addQuery paths query ↔ path ∈ paths ∨ path ∈ added query := by
      intro path
      rw [addQuery_eq]
      exact mem_foldl_pushUnique_iff (areCanonical_added hquery) hpaths
    have hnext : AreCanonical (addQuery paths query) := fun path hmem =>
      (hadded.1 hmem).elim (hpaths path) (areCanonical_added hquery path)
    obtain ⟨hall, hmem⟩ :=
      ih (fun other hother => hqueries other (List.mem_cons_of_mem _ hother)) hnext
    refine ⟨hall, fun {path} => ?_⟩
    rw [List.foldl_cons, hmem, hadded, or_assoc, List.exists_mem_cons_iff]

section

variable {own : List Path} (hown : ∀ leaf ∈ own, leaf.IsCanonical)
include hown

theorem areCanonical_withoutAlias : AreCanonical (own.map Path.withoutAlias) := by
  intro path hmem
  obtain ⟨leaf, hleaf, rfl⟩ := List.mem_map.1 hmem
  exact ⟨leaf.path, (hown leaf hleaf).canonical, (hown leaf hleaf).withoutAlias_eq⟩

theorem ofText_mem_withoutAlias_iff {text : Text} :
    Path.ofText text ∈ own.map Path.withoutAlias ↔ ∃ leaf ∈ own, leaf.path = text := by
  rw [List.mem_map]
  refine exists_congr fun leaf => and_congr_right fun hleaf => ?_
  rw [(hown leaf hleaf).withoutAlias_eq]
  simp [Path.ofText]

variable {queries : List TableQuery} (hqueries : ∀ query ∈ queries, query.IsCanonical)
include hqueries

/-- The merged paths are canonical. -/
theorem isCanonicalPath_of_mem_merged :
    ∀ path ∈ queries.foldl addQuery (own.map Path.withoutAlias),
      path.declaration.IsCanonicalPath := by
  intro path hpath
  obtain ⟨text, htext, rfl⟩ :=
    (mem_foldl_addQuery_iff hqueries (areCanonical_withoutAlias hown)).1 path hpath
  exact htext

/-- The leaves of their statement are the given leaves and what the live
queries use, but for aggregates. -/
theorem mem_leafPaths_merged_iff {text : Text} :
    text ∈ GroupedPath.leafPaths
        (buildStatement (queries.foldl addQuery (own.map Path.withoutAlias))).grouped ↔
      ((∃ leaf ∈ own, leaf.path = text) ∨ ∃ query ∈ queries, query.Uses text) ∧
        (Path.ofText text).isAggregate = false := by
  have howned := areCanonical_withoutAlias hown
  obtain ⟨hall, hmem⟩ := mem_foldl_addQuery_iff hqueries howned
  rw [mem_leafPaths_iff (isCanonicalPath_of_mem_merged hown hqueries),
    hall.exists_declaration_iff, hmem, ofText_mem_withoutAlias_iff hown]
  refine and_congr_left fun hvalue => or_congr_right ?_
  exact exists_congr fun query => and_congr_right fun hquery =>
    ofText_mem_added_iff (hqueries query hquery) hvalue

end
end NormalizedQuery

/-! ## 3. Merged statements -/

/-- The leaves of the caller's clause, of which there are none without a
clause, are merged with what the live queries need. -/
theorem exists_normalizeQuery {user : Option Text} (huser : ∀ clause ∈ user, IsNamedClause clause)
    (queries : List TableQuery) :
    ∃ userPaths : Option (List Path),
      normalizeQuery user false queries = .ok (NormalizedQuery.merged userPaths queries) ∧
      (∀ leaf ∈ userPaths.getD [], leaf.IsCanonical) ∧
      ∀ text, (∃ leaf ∈ userPaths.getD [], leaf.path = text) ↔
        ∃ clause ∈ user, ∃ leaves, parseSelect clause = .ok leaves ∧
          ∃ leaf ∈ leaves, leaf.path = text := by
  rcases user with _ | clause
  · exact ⟨none, rfl, by simp, by simp⟩
  · obtain ⟨leaves, hleaves, hnamed⟩ := (huser clause rfl).exists_leaves
    exact ⟨some leaves, normalizeQuery_of_parseSelect hleaves queries,
      fun leaf hleaf => (hnamed leaf hleaf).2, fun text => by simp [hleaves]⟩

/-- The statement for a caller and the live queries beside it is missing
when nothing is needed; otherwise its leaves are exactly what is needed,
each once. -/
theorem normalizeQuery_needed {user : Option Text} {queries : List TableQuery}
    (huser : ∀ clause ∈ user, IsNamedClause clause)
    (hqueries : ∀ query ∈ queries, ∃ text, query.IsNamedAs text) :
    ∃ result, normalizeQuery user false queries = .ok result ∧
      (result = none ↔ ∀ path, ¬ IsNeeded user queries path) ∧
      ∀ merged ∈ result, (GroupedPath.leafPaths merged.grouped).Nodup ∧
        ∀ path, path ∈ GroupedPath.leafPaths merged.grouped ↔ IsNeeded user queries path := by
  obtain ⟨userPaths, hresult, hleaves, hown⟩ := exists_normalizeQuery huser queries
  have hcanonical : ∀ query ∈ queries, query.IsCanonical := fun query hmem =>
    (hqueries query hmem).elim fun _ hnamed => hnamed.isCanonical
  have hdeclared := NormalizedQuery.isCanonicalPath_of_mem_merged hleaves hcanonical
  have hneeded : ∀ text,
      text ∈ GroupedPath.leafPaths (buildStatement (queries.foldl NormalizedQuery.addQuery
        ((userPaths.getD []).map Path.withoutAlias))).grouped ↔ IsNeeded user queries text := by
    intro text
    rw [NormalizedQuery.mem_leafPaths_merged_iff hleaves hcanonical, hown]
    exact ⟨fun ⟨hused, hvalue⟩ => ⟨hused, hvalue⟩, fun ⟨hused, hvalue⟩ => ⟨hused, hvalue⟩⟩
  have hempty :=
    (isEmpty_buildStatement_iff hdeclared preferUnhintedRelation).trans
      List.eq_nil_iff_forall_not_mem
  simp only [hneeded] at hempty
  refine ⟨_, hresult, ?_⟩
  rw [NormalizedQuery.merged]
  split
  · rename_i hnone
    exact ⟨iff_of_true rfl (hempty.1 hnone), by simp⟩
  · rename_i hsome
    refine ⟨iff_of_false (by simp) (mt hempty.2 hsome), ?_⟩
    rintro merged ⟨⟩
    exact ⟨nodup_leafPaths hdeclared _, hneeded⟩

/-! ## 4. Notes with a tag -/

/-- The name of a label, under an alias. -/
def tags : List GroupedPath :=
  [.nested (.ofHead (Head.ofWritten "tag:label!inner".toList))
    [.leaf (.ofHead (Head.ofWritten "name".toList))]]

/-- The leaves of a live query for tags. -/
def tagPaths : List Path :=
  (Field.chainsOf (GroupedPath.toFields tags)).map Path.ofHeads

/-- The tag is a given one, written against the alias. -/
def tagIsOpen : Condition :=
  { path := "tag.name".toList, operator := .eq, operand := .str "open".toList }

/-- What the query string for it asks for. -/
def tagParsed : ParsedQuery where
  select := GroupedPath.statement tags
  paths := tagPaths
  filters := [.condition (tagIsOpen.resolve tagPaths)]

/-- The live query for it. -/
def tagQuery : TableQuery :=
  ⟨tagParsed.paths, tagParsed.filters⟩

theorem allReadBack_tags : GroupedPath.AllReadBack tags := by
  have hread : ∀ written : Text, (Head.ofWritten written).IsNamed →
      Head.ReadsBack (Entry.ofHead (Head.ofWritten written)).declaration := fun written h =>
    GroupedPath.readsBack_ofHead ⟨h, Head.isSpelled_ofWritten written⟩
  exact ⟨⟨hread _ (by decide +kernel), List.cons_ne_nil _ _, hread _ (by decide +kernel),
    trivial⟩, trivial⟩

theorem isNamedClause_statement {paths : List GroupedPath} (hne : paths ≠ [])
    (hread : GroupedPath.AllReadBack paths)
    (hnamed : Field.AllOf Head.IsNamed (GroupedPath.toFields paths)) :
    IsNamedClause (GroupedPath.statement paths) :=
  ⟨_, GroupedPath.selectFields_readBack hne hread, hnamed⟩

theorem isNamedClause_notes : IsNamedClause (GroupedPath.statement notes) :=
  isNamedClause_statement (List.cons_ne_nil _ _) allReadBack_notes.1
    ⟨⟨by decide +kernel, ⟨by decide +kernel, trivial⟩, trivial⟩, ⟨by decide +kernel, trivial⟩,
      ⟨by decide +kernel, trivial⟩, trivial⟩

/-- A clause of named heads and a filter on columns of identifiers make a query
of identifiers. -/
theorem isNamedAs_of_filter {text clause : Text} {offset : Nat} {leaves : List Path}
    {param : QueryParam} {filter : FilterTree}
    (hparams : QueryParam.ofText text = .ok [⟨"select".toList, clause, offset⟩, param])
    (hleaves : parseSelect clause = .ok leaves) (hparam : param.IsFilter)
    (hfilter : ParsedQuery.parseFilter param = .ok filter) (hclause : IsNamedClause clause)
    (hcolumns : ∀ c ∈ filter.conditions, c.path.IsDottedName) :
    TableQuery.IsNamedAs text ⟨leaves, [filter.mapConditions (·.resolve leaves)]⟩ := by
  have hparsed := parseQueryKey_of_filter hparams hleaves hparam hfilter
  refine ⟨by rw [TableQuery.ofQueryKey, hparsed]; rfl, fun found hfound => ?_,
    fun params hfound other hmem hother written hwritten c hc => ?_⟩
  · obtain rfl := Except.ok.inj (hparsed.symm.trans hfound)
    exact hclause
  · obtain rfl := Except.ok.inj (hparams.symm.trans hfound)
    simp only [List.mem_cons, List.not_mem_nil, or_false] at hmem
    rcases hmem with rfl | rfl
    · exact absurd List.mem_cons_self hother.1
    · obtain rfl := Except.ok.inj (hfilter.symm.trans hwritten)
      exact hcolumns c hc

theorem parseFilter_tag :
    ParsedQuery.parseFilter ⟨"tag.name".toList, "eq.open".toList, 29⟩ =
      .ok (.condition tagIsOpen) :=
  @parseFilter_eq _ "open".toList _ 29 (by decide +kernel) (by decide +kernel)

theorem isNamedAs_tagQuery :
    tagQuery.IsNamedAs "select=tag:label!inner(name)&tag.name=eq.open".toList := by
  have hne : tags ≠ [] := List.cons_ne_nil _ _
  have hparams : QueryParam.ofText "select=tag:label!inner(name)&tag.name=eq.open".toList =
      .ok [⟨"select".toList, GroupedPath.statement tags, 0⟩,
        ⟨"tag.name".toList, "eq.open".toList, 29⟩] := rfl
  have hclause : IsNamedClause (GroupedPath.statement tags) :=
    isNamedClause_statement hne allReadBack_tags
      ⟨⟨by decide +kernel, ⟨by decide +kernel, trivial⟩, trivial⟩, trivial⟩
  have hcolumn : tagIsOpen.path.IsDottedName := by
    show ∀ segment ∈ Text.splitOn '.' "tag.name".toList, Head.isIdentifier segment = true
    decide
  have hnamed := isNamedAs_of_filter hparams
    (parseSelect_chains (GroupedPath.selectFields_readBack hne allReadBack_tags))
    ⟨by decide, by decide +kernel⟩ parseFilter_tag hclause (by simpa using hcolumn)
  rwa [FilterTree.mapConditions_condition] at hnamed

/-- The tag's name is fetched once, although it is selected and filtered on,
and the count is left out. -/
example : (NormalizedQuery.merged
    (some ((Field.chainsOf (GroupedPath.toFields notes)).map Path.ofHeads)) [tagQuery]).map
      (fun merged => GroupedPath.leafPaths merged.grouped) =
    some ["note_id.id".toList, ['*'], "label!inner.name".toList] := by
  decide +kernel

/-- The statement for the notes and the tag selects what they need. -/
theorem normalizeQuery_needed_notes :
    (∀ clause ∈ some (GroupedPath.statement notes), IsNamedClause clause) ∧
      (∀ query ∈ [tagQuery], ∃ text, query.IsNamedAs text) ∧
      ∃ result, normalizeQuery (some (GroupedPath.statement notes)) false [tagQuery] = .ok result ∧
        (result = none ↔ ∀ path,
          ¬ IsNeeded (some (GroupedPath.statement notes)) [tagQuery] path) ∧
        ∀ merged ∈ result, (GroupedPath.leafPaths merged.grouped).Nodup ∧
          ∀ path, path ∈ GroupedPath.leafPaths merged.grouped ↔
            IsNeeded (some (GroupedPath.statement notes)) [tagQuery] path := by
  have huser : ∀ clause ∈ some (GroupedPath.statement notes), IsNamedClause clause := by
    rintro clause ⟨⟩
    exact isNamedClause_notes
  have hqueries : ∀ query ∈ [tagQuery], ∃ text, query.IsNamedAs text := by
    intro query hmem
    rw [List.mem_singleton.1 hmem]
    exact ⟨_, isNamedAs_tagQuery⟩
  exact ⟨huser, hqueries, normalizeQuery_needed huser hqueries⟩

end QueryCache
