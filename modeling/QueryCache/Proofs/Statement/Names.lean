/-
QueryCache.Proofs.Statement.Names — statements of names.

A path without dots, aliases, hints and casts selects the column that it
names, or `*`.  Such paths are the leaves of a flat tree, and no two of
them refer to one name, so the statement never has to make up an alias: it
selects each name as it is (`exists_name_of_mem_statement`), and leaves
none of them out but an aggregate (`mem_statement_of_name`).
-/
import QueryCache.Proofs.Statement.Inserted
import QueryCache.Proofs.Statement.Needed
import QueryCache.Proofs.Statement.ResponseKeys

namespace QueryCache

/-- The segment is a name alone: a column, or `*`. -/
structure Segment.IsName (segment : Text) : Prop where
  ne_nil : segment ≠ []
  dotless : '.' ∉ segment
  unaliased : (splitAlias segment).1 = none
  bare : bareName segment = segment

namespace SelectNode

/-- Leaves of names refer to distinct names. -/
theorem areNamedOnce_of_names {nodes : List SelectNode} (hdistinct : (nodes.map heading).Nodup)
    (h : ∀ node ∈ nodes, node.isRelation = false ∧ Segment.IsName node.declaration) :
    AreNamedOnce nodes := by
  have hown : ∀ node ∈ nodes, node.name = node.declaration := by
    intro node hmem
    have hsegment := (h node hmem).2
    rw [name, path, Segment.splitAlias_of_none hsegment.unaliased, hsegment.bare]
  have hheadings : nodes.Pairwise fun node other => node.heading ≠ other.heading :=
    List.pairwise_map.1 hdistinct
  refine hheadings.imp_of_mem fun {node other} hnode hother hne _ _ _ _ hname => hne ?_
  rw [hown node hnode, hown other hother] at hname
  exact Prod.ext ((h node hnode).1.trans (h other hother).1.symm) hname

end SelectNode

section

variable {names : List Text} (h : ∀ name ∈ names, Segment.IsName name) (policy : DedupePolicy)
include h

/-- The tree of names has a leaf for each of them. -/
theorem isLevel_names : SelectNode.IsLevel
    (fun isRelation segment => isRelation = false ∧ segment ∈ names)
    (SelectTree.ofPaths (names.map .ofText)).size
    (SelectTree.ofPaths (names.map .ofText)).children := by
  refine (SelectTree.ofPaths_declared fun path hpath => ?_).1
  obtain ⟨name, hname, rfl⟩ := List.mem_map.1 hpath
  rw [Path.ofText, Text.splitOn_of_not_mem (h name hname).dotless]
  exact ⟨rfl, hname⟩

theorem splitAlias_names : ∀ node ∈ (SelectTree.ofPaths (names.map .ofText)).children,
    (Segment.splitAlias node.declaration).1 = none :=
  fun node hnode => (h _ ((isLevel_names h).declared node hnode).2).unaliased

/-- What a statement of names selects is one of them, as it is. -/
theorem exists_name_of_mem_statement {grouped : GroupedPath}
    (hmem : grouped ∈ (buildStatement (names.map .ofText) policy).grouped) :
    ∃ name ∈ names, grouped = .leaf (.bare name) := by
  have hlevel := isLevel_names h
  obtain ⟨node, hnode, -, number, -, hgrouped⟩ := SelectNode.exists_node_of_mem hmem
  have honce : SelectNode.AreNamedOnce (SelectTree.ofPaths (names.map .ofText)).children :=
    SelectNode.areNamedOnce_of_names hlevel.distinct fun other hother =>
      ⟨(hlevel.declared other hother).1, h _ (hlevel.declared other hother).2⟩
  rw [honce.needsAlias_eq_false policy node] at hgrouped
  obtain ⟨hleaf, hname⟩ := hlevel.declared node hnode
  cases node with
  | relation index segment children => simp [SelectNode.isRelation] at hleaf
  | leaf index segment =>
    have hsplit := Segment.splitAlias_of_none (h segment hname).unaliased
    refine ⟨segment, hname, ?_⟩
    rw [SelectNode.emit, List.singleton_inj] at hgrouped
    rw [← hgrouped]
    simp only [SelectNode.toEntry, SelectNode.aliasName, SelectNode.path,
      SelectNode.declaration, hsplit]
    rfl

/-- It selects every name that is no aggregate. -/
theorem mem_statement_of_name {name : Text} (hname : name ∈ names)
    (hvalue : Segment.isAggregate name = false) :
    .leaf (.bare name) ∈ (buildStatement (names.map .ofText) policy).grouped := by
  have hchain : [name] ∈ declaredChains (names.map .ofText) := by
    refine List.mem_map.2 ⟨.ofText name, List.mem_filter.2 ⟨List.mem_map_of_mem hname, ?_⟩,
      Text.splitOn_of_not_mem (h name hname).dotless⟩
    simpa [Path.ofText] using (h name hname).ne_nil
  have hheading : (false, name) ∈
      (SelectTree.ofPaths (names.map .ofText)).children.map SelectNode.heading := by
    rw [(SelectTree.areMerged_ofPaths _).headings]
    exact SelectNode.mem_namedBy.2 ⟨[name], hchain, rfl⟩
  obtain ⟨node, hnode, heading⟩ := List.mem_map.1 hheading
  have hvisible : node.isSuppressed = false := by
    cases node with
    | relation index segment children => simp [SelectNode.heading, SelectNode.isRelation] at heading
    | leaf index segment =>
      obtain rfl : segment = name := congrArg Prod.snd heading
      rw [SelectNode.isSuppressed, Segment.splitAlias_of_none (h segment hname).unaliased]
      simpa using hvalue
  have hemitted : (false, name) ∈
      (buildStatement (names.map .ofText) policy).grouped.map GroupedPath.heading := by
    rw [buildStatement, SelectTree.toStatement, SelectNode.map_heading_emitList (splitAlias_names h),
      ← heading]
    exact List.mem_map_of_mem (List.mem_filter.2 ⟨hnode, by simp [hvisible]⟩)
  obtain ⟨grouped, hgrouped, hown⟩ := List.mem_map.1 hemitted
  obtain ⟨other, -, rfl⟩ := exists_name_of_mem_statement h policy hgrouped
  obtain rfl : other = name := congrArg Prod.snd hown
  exact hgrouped

/-- A statement of names says something if one of them is no aggregate. -/
theorem isEmpty_statement_of_name {name : Text} (hname : name ∈ names)
    (hvalue : Segment.isAggregate name = false) :
    (buildStatement (names.map .ofText) policy).isEmpty = false := by
  have hne : (buildStatement (names.map .ofText) policy).grouped ≠ [] :=
    List.ne_nil_of_mem (mem_statement_of_name h policy hname hvalue)
  rw [SelectStatement.isEmpty, List.isEmpty_eq_false_iff]
  refine GroupedPath.statement_ne_nil hne fun grouped hgrouped => ?_
  obtain ⟨other, hother, rfl⟩ := exists_name_of_mem_statement h policy hgrouped
  exact (h other hother).ne_nil

end

end QueryCache
