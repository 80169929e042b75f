/-
QueryCache.Proofs.Statement.Walked — walks over the nodes of a tree end and
visit every leaf once.

Links lead to younger nodes, so a walk along them ends within as many steps
as there are rows, and unrolls the table into the nested tree
(`NodeTable.walk?_eq`).  The chains that lead to the leaves are those of
the inserted declarations, each once (`mem_leafChainsOf_ofPaths`,
`nodup_leafChainsOf_ofPaths`), and what is there is not inserted again
(`insertChain_of_holds`).  What the tree emits are these leaves in their
order, each at its own path, but for aggregates without alias
(`map_path_emitList`); a node is suppressed when no leaf is left of it
(`isSuppressed_iff_isEmitted`).  `SelectTree.ofPaths_isTree` puts this
together for any paths.
-/
import QueryCache.Proofs.Statement.Laid
import QueryCache.Proofs.Statement.Leaves

namespace QueryCache

/-! ## 1. Insertion again -/

namespace SelectNode

variable {p : Bool → Text → Prop} {size : Nat}

section

variable {nodes : List SelectNode}

/-- A relation is the one that its segment leads to. -/
theorem childrenOf?_of_mem (hdistinct : (nodes.map heading).Nodup) {number : Nat} {segment : Text}
    {children : List SelectNode} (hmem : relation number segment children ∈ nodes) :
    childrenOf? segment nodes = some children := by
  rcases hfound : childrenOf? segment nodes with _ | found
  · exact absurd (List.mem_map_of_mem hmem) (not_mem_heading_of_relation hfound)
  · obtain ⟨other, hother⟩ := mem_of_childrenOf? hfound
    have heq := List.inj_on_of_nodup_map hdistinct hother hmem rfl
    rw [relation.injEq] at heq
    rw [heq.2.2]

theorem setChildren_of_childrenOf? {segment : Text} {children : List SelectNode}
    (h : childrenOf? segment nodes = some children) :
    setChildren segment children nodes = nodes := by
  obtain ⟨front, number, back, rfl, -, hset⟩ := exists_of_childrenOf? h
  exact hset children

end

/-- A chain that the nodes hold is not inserted again. -/
theorem insertChain_of_holds {chain : List Text} {nodes : List SelectNode}
    (h : Holds chain nodes) (more : Nat) (hlevel : IsLevel p size nodes)
    (horderly : AreOrderly p size nodes) : insertChain chain more nodes = (nodes, more) := by
  match chain with
  | [] => exact h.elim
  | [segment] =>
    obtain ⟨number, hmem⟩ := h
    rw [insertChain, if_pos]
    exact List.any_eq_true.2 ⟨_, hmem, by simp [isLeafNamed]⟩
  | segment :: next :: rest =>
    obtain ⟨number, children, hmem, hbelow⟩ := h
    have hchildren := childrenOf?_of_mem hlevel.distinct hmem
    obtain ⟨hlevel', horderly'⟩ := areOrderly_of_childrenOf? horderly hchildren
    rw [insertChain, hchildren]
    simp only [insertChain_of_holds hbelow more hlevel' horderly',
      setChildren_of_childrenOf? hchildren]

end SelectNode

namespace SelectTree

open SelectNode

variable (paths : List Path)

/-- The empty declaration is passed over. -/
theorem ofPaths_filter :
    ofPaths (paths.filter fun path => !path.declaration.isEmpty) = ofPaths paths := by
  have hstep : (fun (tree : SelectTree) (path : Path) =>
      if !path.declaration.isEmpty then tree.insert path else tree) = insert := by
    funext tree path
    rcases hempty : path.declaration.isEmpty <;> simp [insert, hempty]
  rw [ofPaths, ofPaths, List.foldl_filter, hstep]

/-- Every level of a tree has distinct kinds and segments. -/
theorem areOrderly_ofPaths :
    IsLevel (fun _ _ => True) (ofPaths paths).size (ofPaths paths).children ∧
      AreOrderly (fun _ _ => True) (ofPaths paths).size (ofPaths paths).children :=
  ofPaths_declared fun _ _ =>
    isDeclaredChain_of_forall (Text.splitOn_ne_nil _ _) fun _ _ _ => trivial

/-- A tree leads to its leaves along the declarations that were inserted, but
for the empty one. -/
theorem mem_leafChainsOf_ofPaths {chain : List Text} :
    chain ∈ leafChainsOf (ofPaths paths).children ↔
      ∃ path ∈ paths, path.declaration ≠ [] ∧ Text.splitOn '.' path.declaration = chain := by
  rw [← ofPaths_filter, mem_leafChainsOf_iff, holds_ofPaths_iff]
  · simp [and_assoc]
  · intro path hmem
    simpa using (List.mem_filter.1 hmem).2

theorem nodup_leafChainsOf_ofPaths : (leafChainsOf (ofPaths paths).children).Nodup :=
  nodup_leafChainsOf _ (areOrderly_ofPaths paths).1.distinct (areOrderly_ofPaths paths).2

variable {paths}

/-- A declaration that was inserted is not inserted again. -/
theorem insert_ofPaths_of_mem {path other : Path} (hmem : other ∈ paths)
    (hsame : other.declaration = path.declaration) :
    (ofPaths paths).insert path = ofPaths paths := by
  rw [insert]
  split
  · rfl
  · rename_i hne
    have hchain : Holds (Text.splitOn '.' path.declaration) (ofPaths paths).children := by
      rw [← mem_leafChainsOf_iff, mem_leafChainsOf_ofPaths]
      exact ⟨other, hmem, by simpa [hsame] using hne, by rw [hsame]⟩
    obtain ⟨hlevel, horderly⟩ := areOrderly_ofPaths paths
    rw [insertChain_of_holds hchain _ hlevel horderly]

end SelectTree

namespace NodeTable

open SelectNode (leaf relation)

/-- Nor is it in the table. -/
theorem insert_ofPaths_of_mem {paths : List Path} {path other : Path} (hmem : other ∈ paths)
    (hsame : other.declaration = path.declaration) :
    (ofPaths paths).insert path = ofPaths paths := by
  have hinserted := (describes_ofPaths paths).insert path
  rw [SelectTree.insert_ofPaths_of_mem hmem hsame] at hinserted
  exact hinserted.eq (describes_ofPaths paths)

/-! ## 2. Walks along the links -/

/-- The node of that number with all that its links lead to; none if they go
on below the depth, or lead to no row. -/
def walk? (table : NodeTable) : (depth number : Nat) → Option SelectNode
  | 0, _ => none
  | depth + 1, number => do
    let row ← table[number]?
    if row.heading.1 then
      let children ← row.links.mapM fun link => table.walk? depth link.2
      return relation number row.heading.2 children
    else return leaf number row.heading.2

section

variable {table : NodeTable} {reached : Nat}

/-- A child of a node that is laid out is younger than it. -/
theorem Lays.index_lt_of_mem (htree : table.IsTree reached) {number : Nat} {segment : Text}
    {children : List SelectNode} (h : table.Lays (relation number segment children))
    {child : SelectNode} (hmem : child ∈ children) : number < child.index :=
  (htree.younger ⟨_, h.row, List.mem_map_of_mem hmem⟩).1

mutual

/-- Numbers grow along the links, so the walk from a node ends within the
depth that the younger nodes leave it. -/
theorem walk?_eq (htree : table.IsTree reached) : (node : SelectNode) → table.Lays node →
    (depth : Nat) → table.length ≤ node.index + depth →
    table.walk? depth node.index = some node
  | node, h, 0, hdepth => absurd h.index_lt (by omega)
  | leaf number segment, h, depth + 1, _ => by
    have hrow := h.row
    rw [SelectNode.index] at hrow ⊢
    rw [walk?, hrow]
    rfl
  | relation number segment children, h, depth + 1, hdepth => by
    have hrow := h.row
    have hchildren := mapM_walk?_eq htree children depth fun child hmem => by
      have hyounger := h.index_lt_of_mem htree hmem
      rw [SelectNode.index] at hdepth
      exact ⟨h.of_mem hmem, by omega⟩
    rw [SelectNode.index] at hrow ⊢
    rw [walk?, hrow]
    simp only [TableRow.ofNode, SelectNode.children, Option.bind_eq_bind, Option.bind_some,
      hchildren]
    rfl

/-- So do the walks from the children of a row. -/
theorem mapM_walk?_eq (htree : table.IsTree reached) : (nodes : List SelectNode) → (depth : Nat) →
    (∀ node ∈ nodes, table.Lays node ∧ table.length ≤ node.index + depth) →
    (nodes.map SelectNode.link).mapM (fun link => table.walk? depth link.2) = some nodes
  | [], _, _ => rfl
  | node :: rest, depth, h => by
    obtain ⟨hnode, hdepth⟩ := h node List.mem_cons_self
    have hrest := mapM_walk?_eq htree rest depth fun other hmem =>
      h other (List.mem_cons_of_mem _ hmem)
    rw [List.map_cons, List.mapM_cons, hrest, SelectNode.link,
      walk?_eq htree node hnode depth hdepth]
    rfl

end

end

end NodeTable

/-! ## 3. Leaves that are visited -/

/-- The chain ends in a leaf that is emitted: one with an alias, or one that
selects no aggregate. -/
def IsEmitted (chain : List Text) : Prop :=
  ((Segment.splitAlias (chain.getLast?.getD [])).1.isNone &&
    Segment.isAggregate (Segment.splitAlias (chain.getLast?.getD [])).2) = false

instance : DecidablePred IsEmitted := fun _ => inferInstanceAs (Decidable (_ = _))

theorem isEmitted_cons (segment : Text) (chain : List Text) (h : chain ≠ []) :
    IsEmitted (segment :: chain) ↔ IsEmitted chain := by
  obtain ⟨next, rest, rfl⟩ := List.exists_cons_of_ne_nil h
  rw [IsEmitted, IsEmitted, List.getLast?_cons_cons]

/-- The path along a chain, without aliases, below another path. -/
def pathBelow (above : Text) (chain : List Text) : Text :=
  (chain.map fun segment => (Segment.splitAlias segment).2).foldl dotted above

namespace SelectNode

theorem isEmitted_leaf (index : Nat) (declaration : Text) :
    IsEmitted [declaration] ↔ (leaf index declaration).isSuppressed = false := by
  rw [isSuppressed]
  rfl

mutual

/-- A node is suppressed when no leaf below it is emitted. -/
theorem isSuppressed_iff_isEmitted : (node : SelectNode) →
    (node.isSuppressed = true ↔ (leafChains node).filter (IsEmitted ·) = [])
  | leaf index declaration => by
    rw [leafChains, List.filter_singleton]
    rcases hsuppressed : (leaf index declaration).isSuppressed <;>
      simp [isEmitted_leaf index, hsuppressed]
  | relation index declaration children => by
    rw [isSuppressed, filter_leafChains IsEmitted isEmitted_cons, List.map_eq_nil_iff]
    exact areSuppressed_iff_isEmitted children

theorem areSuppressed_iff_isEmitted : (nodes : List SelectNode) →
    (areSuppressed nodes = true ↔ (leafChainsOf nodes).filter (IsEmitted ·) = [])
  | [] => by
    rw [areSuppressed, leafChainsOf]
    simp
  | node :: rest => by
    rw [areSuppressed, Bool.and_eq_true, leafChainsOf, List.filter_append, List.append_eq_nil_iff,
      isSuppressed_iff_isEmitted node, areSuppressed_iff_isEmitted rest]

end

mutual

theorem map_path_emit (policy : DedupePolicy) (chain : EmitChain) (collides : Bool)
    (counter : Nat) : (node : SelectNode) → node.isSuppressed = false →
    (emit policy chain collides counter node).paths.map Path.path =
      ((leafChains node).filter (IsEmitted ·)).map (pathBelow chain.path)
  | leaf index declaration, hvisible => by
    rw [emit, leafChains, List.filter_singleton,
      decide_eq_true ((isEmitted_leaf index declaration).2 hvisible)]
    rfl
  | relation index declaration children, hvisible => by
    rw [filter_leafChains IsEmitted isEmitted_cons, List.map_map, emit]
    exact map_path_emitList policy _ _ _ children

/-- Each leaf is emitted at its own path, and in the order of the tree. -/
theorem map_path_emitList (policy : DedupePolicy) (chain : EmitChain)
    (collides : SelectNode → Bool) (counter : Nat) : (nodes : List SelectNode) →
    (emitList policy chain collides counter nodes).paths.map Path.path =
      ((leafChainsOf nodes).filter (IsEmitted ·)).map (pathBelow chain.path)
  | [] => by
    rw [emitList, leafChainsOf]
    rfl
  | node :: rest => by
    rw [emitList, leafChainsOf, List.filter_append, List.map_append]
    split
    · rename_i hsuppressed
      rw [(isSuppressed_iff_isEmitted node).1 hsuppressed, List.map_nil, List.nil_append]
      exact map_path_emitList policy chain collides counter rest
    · rename_i hvisible
      simp only [List.map_append]
      rw [map_path_emit policy chain (collides node) counter node (by simpa using hvisible),
        map_path_emitList policy chain collides _ rest]

end

end SelectNode

/-! ## 4. Trees of paths -/

open SelectNode (leafChains leafChainsOf)

/-- The rows that the tree walks over are all rows of the table, each once. -/
theorem NodeTable.Describes.perm {table : NodeTable} {tree : SelectTree}
    (h : table.Describes tree) : tree.root.numbers.Perm (List.range table.length) := by
  rw [List.perm_ext_iff_of_nodup h.lays.apart List.nodup_range]
  intro number
  rw [h.numbers, List.mem_range]

theorem NodeTable.walk?_ofPaths {paths : List Path} {node : SelectNode}
    (h : node ∈ (SelectTree.ofPaths paths).root.nodes) :
    (ofPaths paths).walk? (ofPaths paths).length node.index = some node :=
  walk?_eq (isTree_ofPaths paths) node ((describes_ofPaths paths).lays.of_mem_nodes h) _
    (Nat.le_add_left _ _)

/-- The nodes that any paths leave are a tree.  In the table links lead from a
node to a younger one, every node but the root is linked once, under its kind
and segment, and no relation but the root is empty; so walks along the links
end, from every node.  The leaves are at the chains of the inserted
declarations, each once; a declaration that was inserted is not inserted
again; and the tree is suppressed and emitted leaf by leaf. -/
theorem SelectTree.ofPaths_isTree (paths : List Path) :
    (NodeTable.ofPaths paths).IsTree 0 ∧
    (∀ node ∈ (ofPaths paths).root.nodes,
      (NodeTable.ofPaths paths).walk? (NodeTable.ofPaths paths).length node.index = some node) ∧
    (ofPaths paths).root.numbers.Perm (List.range (NodeTable.ofPaths paths).length) ∧
    (NodeTable.ofPaths paths).length = (ofPaths paths).size ∧
    (leafChainsOf (ofPaths paths).children).Nodup ∧
    (∀ chain, chain ∈ leafChainsOf (ofPaths paths).children ↔
      ∃ path ∈ paths, path.declaration ≠ [] ∧ Text.splitOn '.' path.declaration = chain) ∧
    (∀ path, (∃ other ∈ paths, other.declaration = path.declaration) →
      (NodeTable.ofPaths paths).insert path = NodeTable.ofPaths paths ∧
        (ofPaths paths).insert path = ofPaths paths) ∧
    (∀ node ∈ (ofPaths paths).root.nodes,
      (node.isSuppressed = true ↔ (leafChains node).filter (IsEmitted ·) = [])) ∧
    ∀ policy, ((ofPaths paths).toStatement policy).paths.map Path.path =
      ((leafChainsOf (ofPaths paths).children).filter (IsEmitted ·)).map (pathBelow []) := by
  have hdescribes := NodeTable.describes_ofPaths paths
  refine ⟨NodeTable.isTree_ofPaths paths, fun node hmem => NodeTable.walk?_ofPaths hmem,
    hdescribes.perm, hdescribes.size, nodup_leafChainsOf_ofPaths paths,
    fun chain => mem_leafChainsOf_ofPaths paths, ?_, ?_, ?_⟩
  · rintro path ⟨other, hmem, hsame⟩
    exact ⟨NodeTable.insert_ofPaths_of_mem hmem hsame, insert_ofPaths_of_mem hmem hsame⟩
  · exact fun node _ => SelectNode.isSuppressed_iff_isEmitted node
  · exact fun policy => SelectNode.map_path_emitList policy {} _ 0 (ofPaths paths).children

/-- A column and an expansion of one segment are two nodes. -/
example : NodeTable.ofPaths [.ofText "note_id".toList, .ofText "note_id.test".toList] =
    [⟨(true, []), [((false, "note_id".toList), 1), ((true, "note_id".toList), 2)]⟩,
      ⟨(false, "note_id".toList), []⟩,
      ⟨(true, "note_id".toList), [((false, "test".toList), 3)]⟩,
      ⟨(false, "test".toList), []⟩] := by
  decide

end QueryCache
