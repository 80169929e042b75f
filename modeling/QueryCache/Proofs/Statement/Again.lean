/-
QueryCache.Proofs.Statement.Again — a merged statement merges to itself.

When all names are identifiers, the leaves of a merged statement are, without
their aliases, the leaf paths of its entries
(`withoutAlias_of_parseSelect_buildStatement`): the aliases that collisions
made up fall away again.  The live queries add nothing to them but
aggregates (`NormalizedQuery.exists_foldl_addQuery_leafPaths`), and these are
never seen, so the tree that grows from them shows what the first one did
(`buildStatement_leafPaths`).  A second run can only fail because the
statement is refused, which is so exactly when one of its levels has two
stars (`normalizeQuery_again_iff`).
-/
import QueryCache.Proofs.Statement.Needed
import QueryCache.Proofs.Statement.Regrown
import QueryCache.Proofs.Statement.Stars

namespace QueryCache

/-! ## 1. Entries read back -/

/-- If the entry is read at all, then as its path, whatever its alias is. -/
def Entry.ReadsPath (entry : Entry) : Prop :=
  entry.IsReadable → (Head.ofWritten entry.declaration).segment = entry.path

/-- A named node is emitted as an entry that is read as its path. -/
theorem SelectNode.readsPath_toEntry {node : SelectNode} (h : Segment.IsNamed node.declaration)
    (collides : Bool) (counter : Nat) : (node.toEntry collides counter).1.ReadsPath := by
  intro hread
  obtain ⟨head, hnamed, hsegment⟩ := h
  have hsplit : Segment.splitAlias node.declaration = (none, head.segment) := by
    rw [← hsegment, Segment.splitAlias, hnamed.splitAtLoneColon_segment.1]
  have hentry : (node.toEntry collides counter).1 =
      .ofHead (head.aliasedAs (node.toEntry collides counter).1.aliasName) := by
    cases collides <;> simp only [toEntry, aliasName, path, hsplit] <;> rfl
  have hown : (head.aliasedAs (node.toEntry collides counter).1.aliasName).IsOwn :=
    ⟨Head.isNamed_aliasedAs hnamed fun text htext => (hread text htext).1,
      head.isSpelled_aliasedAs _⟩
  rw [hentry, Entry.ofHead, hown.ofWritten_written]

namespace SelectNode

section

variable {q : Entry → Prop} {p : Bool → Text → Prop} {size : Nat}

mutual

/-- What holds of the entries of declared nodes holds of all entries that a
node emits. -/
theorem everyOf_emit (hq : ∀ node : SelectNode, p node.isRelation node.declaration →
      ∀ collides counter, q (node.toEntry collides counter).1)
    (policy : DedupePolicy) (chain : EmitChain) (collides : Bool) (counter : Nat) :
    (node : SelectNode) → p node.isRelation node.declaration → IsOrderly p size node →
    GroupedPath.EveryOf q (emit policy chain collides counter node).grouped
  | leaf index declaration, hdeclared, _ => by
    rw [emit]
    exact ⟨hq _ hdeclared collides counter, trivial⟩
  | relation index declaration children, hdeclared, horderly => by
    rw [IsOrderly] at horderly
    rw [emit]
    exact ⟨⟨hq _ hdeclared collides counter,
      everyOf_emitList hq policy _ _ _ children horderly.1.declared horderly.2⟩, trivial⟩

theorem everyOf_emitList (hq : ∀ node : SelectNode, p node.isRelation node.declaration →
      ∀ collides counter, q (node.toEntry collides counter).1)
    (policy : DedupePolicy) (chain : EmitChain) (collides : SelectNode → Bool) (counter : Nat) :
    (nodes : List SelectNode) → (∀ node ∈ nodes, p node.isRelation node.declaration) →
    AreOrderly p size nodes →
    GroupedPath.EveryOf q (emitList policy chain collides counter nodes).grouped
  | [], _, _ => by
    rw [emitList]
    trivial
  | node :: rest, hdeclared, horderly => by
    rw [AreOrderly] at horderly
    have hrest : ∀ counter,
        GroupedPath.EveryOf q (emitList policy chain collides counter rest).grouped :=
      fun counter => everyOf_emitList hq policy chain collides counter rest
        (fun other hmem => hdeclared other (List.mem_cons_of_mem _ hmem)) horderly.2
    rw [emitList]
    split
    · exact hrest counter
    · exact GroupedPath.everyOf_append.2 ⟨everyOf_emit hq policy chain (collides node) counter node
        (hdeclared node List.mem_cons_self) horderly.1, hrest _⟩

end

end

end SelectNode

namespace GroupedPath

mutual

theorem map_segments_chains : (grouped : GroupedPath) → grouped.ReadsBack →
    grouped.Every Entry.IsReadable → grouped.Every Entry.ReadsPath →
    (Field.chains grouped.toField).map Head.segments = leafChains grouped
  | leaf entry, _, hread, hpath => by
    rw [Every] at hread hpath
    rw [toField, Field.chains, leafChains, ← hpath hread]
    rfl
  | nested entry paths, hback, hread, hpath => by
    rw [ReadsBack] at hback
    rw [Every] at hread hpath
    have hfields : (toFields paths).isEmpty = false := by
      rw [toFields_eq_map]
      simpa using hback.2.1
    rw [toField, Field.chains, hfields, if_neg Bool.false_ne_true, leafChains,
      ← map_segments_chainsOf paths hback.2.2 hread.2 hpath.2, ← hpath.1 hread.1, List.map_map,
      List.map_map]
    rfl

/-- The chains that readable entries spell lead to their leaves. -/
theorem map_segments_chainsOf : (paths : List GroupedPath) → AllReadBack paths →
    EveryOf Entry.IsReadable paths → EveryOf Entry.ReadsPath paths →
    (Field.chainsOf (toFields paths)).map Head.segments = leafChainsOf paths
  | [], _, _, _ => rfl
  | grouped :: rest, hback, hread, hpath => by
    rw [AllReadBack] at hback
    rw [EveryOf] at hread hpath
    rw [toFields, Field.chainsOf, List.map_append, leafChainsOf,
      map_segments_chains grouped hback.1 hread.1 hpath.1,
      map_segments_chainsOf rest hback.2 hread.2 hpath.2]

end

end GroupedPath

/-- Read back and without its aliases, a statement of named paths is known by
its leaf paths. -/
theorem withoutAlias_of_parseSelect_buildStatement {paths leaves : List Path}
    (h : ∀ path ∈ paths, path.declaration.IsNamedPath) {policy : DedupePolicy}
    (hread : parseSelect (buildStatement paths policy).statement = .ok leaves) :
    leaves.map Path.withoutAlias =
      (GroupedPath.leafPaths (buildStatement paths policy).grouped).map Path.ofText := by
  have hnameable : ∀ path ∈ paths, ∀ segment ∈ Text.splitOn '.' path.declaration,
      Segment.IsNameable segment := fun path hmem segment hsegment =>
    (h path hmem segment hsegment).isNameable
  have hreadable := (parseSelect_buildStatement_iff hnameable policy).1 ⟨leaves, hread⟩
  have hfields := (selectFields_buildStatement_iff hnameable policy).2 ⟨hreadable, rfl⟩
  rw [parseSelect_chains hfields, Except.ok.injEq] at hread
  obtain ⟨hlevel, horderly⟩ := SelectTree.ofPaths_declared (p := fun _ => Segment.IsNamed)
    fun path hmem => SelectNode.isDeclaredChain_of_forall (Text.splitOn_ne_nil _ _)
      fun segment hsegment _ => h path hmem segment hsegment
  have hchains := GroupedPath.map_segments_chainsOf _
    (GroupedPath.allReadBack_of_everyOf _ (areToldBy_buildStatement hnameable policy) hreadable)
    hreadable (SelectNode.everyOf_emitList (fun node hnode => SelectNode.readsPath_toEntry hnode)
      policy {} _ 0 _ hlevel.declared horderly)
  rw [← hread, GroupedPath.leafPaths, ← hchains, List.map_map, List.map_map, List.map_map]
  exact List.map_congr_left fun chain hmem => (Field.isNameable_of_mem_chainsOf hfields hmem).2.2

/-! ## 2. What the live queries add again -/

namespace NormalizedQuery

/-- Pushing appends those of the paths that are not there. -/
theorem exists_foldl_pushUnique (needed paths : List Path) :
    ∃ extras, needed.foldl pushUnique paths = paths ++ extras ∧
      ∀ path ∈ extras, path ∈ needed ∧ path ∉ paths := by
  induction needed generalizing paths with
  | nil => exact ⟨[], by simp⟩
  | cons path rest ih =>
    obtain ⟨extras, heq, hextras⟩ := ih (pushUnique paths path)
    rw [List.foldl_cons, heq]
    unfold pushUnique at hextras ⊢
    dsimp only at hextras ⊢
    split
    · rename_i hknown
      rw [if_pos hknown] at hextras
      exact ⟨extras, rfl, fun other hmem =>
        ⟨List.mem_cons_of_mem _ (hextras other hmem).1, (hextras other hmem).2⟩⟩
    · rename_i hnew
      rw [if_neg hnew] at hextras
      refine ⟨path :: extras, by simp, fun other hmem => ?_⟩
      rcases List.mem_cons.1 hmem with rfl | hmem
      · exact ⟨List.mem_cons_self, fun hin => hnew (List.any_eq_true.2 ⟨_, hin, by simp⟩)⟩
      · obtain ⟨hneeded, hout⟩ := hextras other hmem
        exact ⟨List.mem_cons_of_mem _ hneeded, fun hin => hout (List.mem_append_left _ hin)⟩

/-- To the leaf paths of a merged statement the same live queries add nothing
but aggregates. -/
theorem exists_foldl_addQuery_leafPaths {own : List Path} (hown : ∀ leaf ∈ own, leaf.IsCanonical)
    {queries : List TableQuery} (hqueries : ∀ query ∈ queries, query.IsCanonical)
    {known : List Path} (hknown : known = (GroupedPath.leafPaths (buildStatement
      (queries.foldl addQuery (own.map Path.withoutAlias))).grouped).map Path.ofText) :
    ∃ extras, queries.foldl addQuery known = known ++ extras ∧
      ∀ path ∈ extras, path.declaration.IsCanonicalPath ∧
        ¬ SelectsValue (Text.splitOn '.' path.declaration) := by
  have hfold : queries.foldl addQuery known = (queries.flatMap added).foldl pushUnique known := by
    rw [List.foldl_flatMap]
    rfl
  obtain ⟨extras, heq, hextras⟩ := exists_foldl_pushUnique (queries.flatMap added) known
  refine ⟨extras, hfold.trans heq, fun path hmem => ?_⟩
  obtain ⟨hadded, hnew⟩ := hextras path hmem
  obtain ⟨query, hquery, hadded⟩ := List.mem_flatMap.1 hadded
  obtain ⟨text, htext, rfl⟩ := areCanonical_added (hqueries query hquery) path hadded
  refine ⟨htext, fun hvalue => hnew ?_⟩
  -- The first run has merged whatever selects a value.
  have hmerged := ((mem_foldl_addQuery_iff hqueries (areCanonical_withoutAlias hown)).2).2
    (Or.inr ⟨query, hquery, hadded⟩)
  rw [hknown]
  exact List.mem_map_of_mem ((mem_leafPaths_iff (isCanonicalPath_of_mem_merged hown hqueries) _).2
    ⟨⟨_, hmerged, rfl⟩, hvalue⟩)

end NormalizedQuery

section

variable {paths : List Path} (h : ∀ path ∈ paths, path.declaration.IsCanonicalPath)
  (policy : DedupePolicy)
include h

/-- The leaf paths of a statement are inserted as the chains to its
leaves. -/
theorem declaredChains_leafPaths :
    declaredChains ((GroupedPath.leafPaths (buildStatement paths policy).grouped).map
      Path.ofText) = GroupedPath.leafChainsOf (buildStatement paths policy).grouped := by
  have hchain : ∀ chain ∈ GroupedPath.leafChainsOf (buildStatement paths policy).grouped,
      Text.join '.' chain ≠ [] ∧ Text.splitOn '.' (Text.join '.' chain) = chain := by
    intro chain hmem
    obtain ⟨⟨path, hpath, rfl⟩, -⟩ := (mem_leafChainsOf_buildStatement h policy).1 hmem
    rw [Text.join_splitOn]
    exact ⟨(h path hpath).ne_nil, rfl⟩
  have hdeclared : ∀ path ∈ (GroupedPath.leafPaths (buildStatement paths policy).grouped).map
      Path.ofText, (!path.declaration.isEmpty) = true := by
    intro path hmem
    obtain ⟨text, htext, rfl⟩ := List.mem_map.1 hmem
    obtain ⟨chain, hchainMem, rfl⟩ := List.mem_map.1 htext
    simpa [Path.ofText] using (hchain chain hchainMem).1
  rw [declaredChains, List.filter_eq_self.2 hdeclared, GroupedPath.leafPaths, List.map_map,
    List.map_map]
  exact (List.map_congr_left fun chain hmem => (hchain chain hmem).2).trans (List.map_id _)

/-- A statement is the statement of its own leaf paths, whatever aggregates
come behind them. -/
theorem buildStatement_leafPaths {extras : List Path}
    (hextras : ∀ path ∈ extras, path.declaration.IsCanonicalPath ∧
      ¬ SelectsValue (Text.splitOn '.' path.declaration)) :
    buildStatement ((GroupedPath.leafPaths (buildStatement paths policy).grouped).map
      Path.ofText ++ extras) policy = buildStatement paths policy := by
  obtain ⟨hlevel, horderly⟩ := SelectTree.ofPaths_canonical h
  refine buildStatement_eq_of_visible ?_ policy
  rw [SelectTree.visible_ofPaths_append hextras]
  refine SelectNode.visible_of_areMerged (fun _ _ hsegment => hsegment.2) _ hlevel horderly ?_
  rw [SelectNode.valueChains, ← leafChainsOf_buildStatement h policy,
    ← declaredChains_leafPaths h policy]
  exact SelectTree.areMerged_ofPaths _

end

/-! ## 3. A second run -/

namespace NormalizedQuery

variable {own : List Path} {queries : List TableQuery} {result : NormalizedQuery}

/-- There is a merged statement unless it is empty. -/
theorem merged_eq_some_iff : merged (some own) queries = some result ↔
    (buildStatement (queries.foldl addQuery (own.map Path.withoutAlias))).isEmpty = false ∧
      ⟨(buildStatement (queries.foldl addQuery (own.map Path.withoutAlias))).statement, some own,
        queries.foldl addQuery (own.map Path.withoutAlias),
        (buildStatement (queries.foldl addQuery (own.map Path.withoutAlias))).grouped⟩ =
          result := by
  rw [merged, Option.getD_some]
  split
  · rename_i hempty
    simp [hempty]
  · rename_i hsome
    simp [hsome]

/-- Named leaves and the columns of named queries merge to named paths. -/
theorem isNamedPath_of_mem_merged
    (hown : ∀ leaf ∈ own, leaf.path.IsNamedPath ∧ leaf.IsCanonical)
    (hqueries : ∀ query ∈ queries, ∃ text, query.IsNamedAs text) :
    ∀ path ∈ queries.foldl addQuery (own.map Path.withoutAlias),
      path.declaration.IsNamedPath := by
  intro path hmem
  have hcanonical : ∀ query ∈ queries, query.IsCanonical := fun query hquery =>
    (hqueries query hquery).elim fun _ hnamed => hnamed.isCanonical
  have hleaves := areCanonical_withoutAlias fun leaf hleaf => (hown leaf hleaf).2
  rcases (mem_foldl_addQuery_iff hcanonical hleaves).2.1 hmem with hmem | ⟨query, hquery, hadded⟩
  · obtain ⟨leaf, hleaf, rfl⟩ := List.mem_map.1 hmem
    rw [(hown leaf hleaf).2.withoutAlias_eq]
    exact (hown leaf hleaf).1
  · obtain ⟨text, hnamed⟩ := hqueries query hquery
    rcases (mem_added_iff (hcanonical query hquery)).1 hadded with
      ⟨filter, hfilter, c, hc, rfl⟩ | ⟨leaf, hleaf, -, rfl⟩
    · exact hnamed.isNamedPath.2 filter hfilter c hc
    · exact (hnamed.isNamedPath.1 leaf hleaf).1

end NormalizedQuery

/-- The statement that is merged for a caller and the live queries beside it
merges with these to itself, unless one of its levels has both the column `*`
and a relation of that name. -/
theorem normalizeQuery_again_iff {user : Text} {queries : List TableQuery}
    {merged : NormalizedQuery} (huser : IsNamedClause user)
    (hqueries : ∀ query ∈ queries, ∃ text, query.IsNamedAs text)
    (hmerged : normalizeQuery (some user) false queries = .ok (some merged)) :
    (∃ again, normalizeQuery (some merged.selectQuery) false queries = .ok (some again) ∧
        again.selectQuery = merged.selectQuery ∧ again.grouped = merged.grouped) ↔
      GroupedPath.EveryLevel GroupedPath.HasOneStar merged.grouped := by
  obtain ⟨own, hown, hnamed⟩ := huser.exists_leaves
  rw [normalizeQuery_of_parseSelect hown, Except.ok.injEq] at hmerged
  obtain ⟨hsome, rfl⟩ := NormalizedQuery.merged_eq_some_iff.1 hmerged
  have hpaths := NormalizedQuery.isNamedPath_of_mem_merged hnamed hqueries
  have hcanonical : ∀ query ∈ queries, query.IsCanonical := fun query hquery =>
    (hqueries query hquery).elim fun _ hnamed => hnamed.isCanonical
  have hleaves : ∀ leaf ∈ own, leaf.IsCanonical := fun leaf hleaf => (hnamed leaf hleaf).2
  rw [← everyOf_isReadable_iff hpaths, ← parseSelect_buildStatement_iff fun path hmem segment
    hsegment => (hpaths path hmem segment hsegment).isNameable]
  constructor
  · rintro ⟨again, hagain, -⟩
    exact parseSelect_of_normalizeQuery hagain
  · rintro ⟨leaves, hread⟩
    have hknown := withoutAlias_of_parseSelect_buildStatement hpaths hread
    obtain ⟨extras, hfold, hextras⟩ :=
      NormalizedQuery.exists_foldl_addQuery_leafPaths hleaves hcanonical hknown
    have hsame : buildStatement (queries.foldl NormalizedQuery.addQuery
        (leaves.map Path.withoutAlias)) = buildStatement (queries.foldl NormalizedQuery.addQuery
          (own.map Path.withoutAlias)) := by
      rw [hfold, hknown]
      exact buildStatement_leafPaths (fun path hmem => (hpaths path hmem).isCanonicalPath) _ hextras
    have hagain := NormalizedQuery.merged_eq_some_iff.2 ⟨hsame ▸ hsome, rfl⟩
    exact ⟨_, (normalizeQuery_of_parseSelect hread queries).trans (congrArg _ hagain),
      congrArg SelectStatement.statement hsame, congrArg SelectStatement.grouped hsame⟩

/-! ## 4. Labels and rows -/

/-- A label by its number. -/
def numberedLabel : List GroupedPath :=
  [.nested (.ofHead (Head.ofWritten "label".toList)) [.leaf (.ofHead (Head.ofWritten "id".toList))]]

theorem allReadBack_numberedLabel : GroupedPath.AllReadBack numberedLabel :=
  ⟨⟨GroupedPath.readsBack_ofWritten (by decide +kernel), List.cons_ne_nil _ _,
    GroupedPath.readsBack_ofWritten (by decide +kernel), trivial⟩, trivial⟩

theorem isNamedClause_numberedLabel : IsNamedClause (GroupedPath.statement numberedLabel) :=
  isNamedClause_statement (List.cons_ne_nil _ _) allReadBack_numberedLabel
    ⟨⟨by decide +kernel, ⟨by decide +kernel, trivial⟩, trivial⟩, trivial⟩

/-- The alias of the hinted label falls away and is made up again. -/
theorem normalizeQuery_again_numberedLabel :
    IsNamedClause (GroupedPath.statement numberedLabel) ∧
      (∀ query ∈ [tagQuery], ∃ text, query.IsNamedAs text) ∧
      ∃ merged : NormalizedQuery,
        normalizeQuery (some (GroupedPath.statement numberedLabel)) false [tagQuery] =
          .ok (some merged) ∧
        merged.selectQuery = "label(id),d_0_label:label!inner(name)".toList ∧
        ∃ again, normalizeQuery (some merged.selectQuery) false [tagQuery] = .ok (some again) ∧
          again.selectQuery = merged.selectQuery ∧ again.grouped = merged.grouped := by
  have hqueries : ∀ query ∈ [tagQuery], ∃ text, query.IsNamedAs text := by
    intro query hmem
    rw [List.mem_singleton.1 hmem]
    exact ⟨_, isNamedAs_tagQuery⟩
  have hmerged := (normalizeQuery_of_parseSelect (parseSelect_chains
    (GroupedPath.selectFields_readBack (List.cons_ne_nil _ _) allReadBack_numberedLabel))
      [tagQuery]).trans (congrArg _ (NormalizedQuery.merged_eq_some_iff.2 ⟨by decide +kernel, rfl⟩))
  exact ⟨isNamedClause_numberedLabel, hqueries, _, hmerged, by decide +kernel,
    (normalizeQuery_again_iff isNamedClause_numberedLabel hqueries hmerged).2
      (by decide +kernel)⟩

/-- Every column, as it is or under an alias. -/
def allColumns (written : String) : List GroupedPath :=
  [.leaf (.ofHead (Head.ofWritten written.toList))]

/-- The state is open, written against the alias of the rows. -/
def rowIsOpen : Condition where
  path := "row.state".toList
  operator := .eq
  operand := .str "open".toList

/-- The live query for such rows. -/
def rowQuery : TableQuery where
  paths := [⟨"row:*".toList, "*".toList, some "row".toList⟩]
  filters := [.condition
    { rowIsOpen with path := "*.state".toList, aliasChain := some "row.state".toList }]

theorem parseSelect_allColumns {written : String} (h : (Head.ofWritten written.toList).IsNamed) :
    parseSelect (GroupedPath.statement (allColumns written)) =
        .ok [Path.ofHeads [Head.ofWritten written.toList]] ∧
      IsNamedClause (GroupedPath.statement (allColumns written)) := by
  have hne : allColumns written ≠ [] := List.cons_ne_nil _ _
  have hread : GroupedPath.AllReadBack (allColumns written) :=
    ⟨GroupedPath.readsBack_ofWritten h, trivial⟩
  have hfields : GroupedPath.toFields (allColumns written) =
      [.mk (Head.ofWritten written.toList) []] := by
    rw [allColumns, GroupedPath.toFields_eq_map, List.map_singleton,
      (GroupedPath.toField_ofHead ⟨h, Head.isSpelled_ofWritten _⟩).1]
  have hleaves := parseSelect_chains (GroupedPath.selectFields_readBack hne hread)
  rw [hfields] at hleaves
  refine ⟨hleaves, isNamedClause_statement hne hread ?_⟩
  rw [hfields]
  exact ⟨⟨h, trivial⟩, trivial⟩

theorem isNamedAs_rowQuery : rowQuery.IsNamedAs "select=row:*&row.state=eq.open".toList := by
  obtain ⟨hleaves, hclause⟩ := @parseSelect_allColumns "row:*" (by decide +kernel)
  have hparams : QueryParam.ofText "select=row:*&row.state=eq.open".toList =
      .ok [⟨"select".toList, GroupedPath.statement (allColumns "row:*"), 0⟩,
        ⟨rowIsOpen.path, "eq.open".toList, 13⟩] := rfl
  have hfilter : ParsedQuery.parseFilter ⟨rowIsOpen.path, "eq.open".toList, 13⟩ =
      .ok (.condition rowIsOpen) :=
    @parseFilter_eq _ "open".toList _ 13 (by decide +kernel) (by decide +kernel)
  have hcolumn : rowIsOpen.path.IsDottedName := by
    show ∀ segment ∈ Text.splitOn '.' "row.state".toList, Head.isIdentifier segment = true
    decide
  have hnamed := isNamedAs_of_filter hparams hleaves ⟨by decide, by decide +kernel⟩ hfilter hclause
    (by simpa using hcolumn)
  rwa [FilterTree.mapConditions_condition] at hnamed

/-- The statement for every column and such rows has two stars, of which one
gets an alias that is refused. -/
theorem rowQuery_refused :
    IsNamedClause ['*'] ∧ rowQuery.IsNamedAs "select=row:*&row.state=eq.open".toList ∧
      ∃ merged : NormalizedQuery,
        normalizeQuery (some ['*']) false [rowQuery] = .ok (some merged) ∧
        merged.selectQuery = "d_0_*:*,*(state)".toList ∧
        ∀ again, normalizeQuery (some merged.selectQuery) false [rowQuery] ≠ .ok again := by
  have hstar : GroupedPath.statement (allColumns "*") = ['*'] := by decide +kernel
  obtain ⟨hleaves, hclause⟩ := @parseSelect_allColumns "*" (by decide +kernel)
  rw [hstar] at hleaves hclause
  have hmerged := (normalizeQuery_of_parseSelect hleaves [rowQuery]).trans
    (congrArg _ (NormalizedQuery.merged_eq_some_iff.2 ⟨by decide +kernel, rfl⟩))
  refine ⟨hclause, isNamedAs_rowQuery, _, hmerged, by decide +kernel, fun again hagain => ?_⟩
  dsimp only at hagain
  have hqueries : ∀ query ∈ [rowQuery], ∃ text, query.IsNamedAs text := fun query hmem =>
    ⟨_, List.mem_singleton.1 hmem ▸ isNamedAs_rowQuery⟩
  obtain ⟨own, hown, hnamed⟩ := hclause.exists_leaves
  obtain rfl := Except.ok.inj (hleaves.symm.trans hown)
  have hpaths := NormalizedQuery.isNamedPath_of_mem_merged hnamed hqueries
  have hiff := parseSelect_buildStatement_iff (fun path hmem segment hsegment =>
    (hpaths path hmem segment hsegment).isNameable) preferUnhintedRelation
  have hreadable := hiff.1 (parseSelect_of_normalizeQuery hagain)
  exact absurd hreadable (by decide +kernel)

end QueryCache
