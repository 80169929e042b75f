/-
QueryCache.Proofs.Statement.Laid — the table of the nodes and the nested
tree are one.

A nested node is laid out in a table when it and all nodes below it are in
the rows of their numbers, each in a row of its own (`Lays`).  Inserting a
chain below a laid out relation grows the table by the nodes that the
relation gains and leaves every row beside them as it was (`Grows`,
`Lays.insertChain`): a new row is the youngest child of its parent
(`Lays.grow`), and a relation grows where one of its children does
(`Grows.below`).  So the table of any paths holds the nodes of their tree and
nothing else (`describes_ofPaths`).
-/
import QueryCache.Proofs.Statement.Inserted
import QueryCache.Proofs.Statement.Table

namespace QueryCache

namespace SelectNode

/-! ## 1. All nodes -/

mutual

/-- The node and all below it, a parent before its children. -/
def nodes : SelectNode → List SelectNode
  | leaf index declaration => [leaf index declaration]
  | relation index declaration children =>
    relation index declaration children :: nodesOf children

/-- The nodes of a level and all below them. -/
def nodesOf : List SelectNode → List SelectNode
  | [] => []
  | node :: rest => nodes node ++ nodesOf rest

end

/-- The numbers of the node and of all below it. -/
def numbers (node : SelectNode) : List Nat :=
  node.nodes.map index

theorem nodesOf_append (front back : List SelectNode) :
    nodesOf (front ++ back) = nodesOf front ++ nodesOf back := by
  induction front with
  | nil => rfl
  | cons node rest ih => rw [List.cons_append, nodesOf, nodesOf, ih, List.append_assoc]

theorem nodes_relation (index : Nat) (declaration : Text) (children : List SelectNode) :
    nodes (relation index declaration children) =
      relation index declaration children :: nodesOf children := by
  rw [nodes]

theorem mem_nodes_self (node : SelectNode) : node ∈ node.nodes := by
  cases node <;> simp [nodes]

theorem nodes_of_children {node : SelectNode} (h : node.children = []) : node.nodes = [node] := by
  cases node with
  | leaf index declaration => rw [nodes]
  | relation index declaration children =>
    obtain rfl : children = [] := h
    rw [nodes, nodesOf]

theorem mem_nodesOf {node : SelectNode} {nodes : List SelectNode} (h : node ∈ nodes) :
    node ∈ nodesOf nodes := by
  induction nodes with
  | nil => contradiction
  | cons first rest ih =>
    rw [nodesOf]
    rcases List.mem_cons.1 h with rfl | h
    · exact List.mem_append_left _ node.mem_nodes_self
    · exact List.mem_append_right _ (ih h)

mutual

/-- What is below a node below is below the node. -/
theorem nodes_sublist {below : SelectNode} : {node : SelectNode} → below ∈ nodes node →
    (nodes below).Sublist (nodes node)
  | leaf index declaration, h => by
    rw [nodes, List.mem_singleton] at h
    rw [h]
  | relation index declaration children, h => by
    rw [nodes_relation] at h ⊢
    rcases List.mem_cons.1 h with rfl | h
    · rw [nodes_relation]
    · exact (nodesOf_sublist h).cons _

theorem nodesOf_sublist {below : SelectNode} : {nodes : List SelectNode} →
    below ∈ nodesOf nodes → (SelectNode.nodes below).Sublist (nodesOf nodes)
  | [], h => by
    rw [nodesOf] at h
    contradiction
  | node :: rest, h => by
    rw [nodesOf] at h ⊢
    rcases List.mem_append.1 h with h | h
    · exact (nodes_sublist h).trans (List.sublist_append_left _ _)
    · exact (nodesOf_sublist h).trans (List.sublist_append_right _ _)

end

section

variable (parent : Nat) (name : Text) (front back : List SelectNode) (node : SelectNode)

theorem nodes_relation_append : nodes (relation parent name (front ++ node :: back)) =
    relation parent name (front ++ node :: back) ::
      (nodesOf front ++ (nodes node ++ nodesOf back)) := by
  rw [nodes_relation, nodesOf_append, nodesOf]

theorem numbers_relation_append : numbers (relation parent name (front ++ node :: back)) =
    (parent :: (nodesOf front).map index) ++ (numbers node ++ (nodesOf back).map index) := by
  rw [numbers, nodes_relation_append, List.map_cons, List.map_append, List.map_append,
    List.cons_append, numbers]
  rfl

end

/-! ## 2. Links to children -/

/-- The relation that a segment leads to, among its siblings. -/
theorem exists_of_childrenOf? {segment : Text} {nodes children : List SelectNode}
    (h : childrenOf? segment nodes = some children) :
    ∃ front index back, nodes = front ++ relation index segment children :: back ∧
      (true, segment) ∉ front.map heading ∧
      ∀ new, setChildren segment new nodes = front ++ relation index segment new :: back := by
  induction nodes with
  | nil => simp [childrenOf?] at h
  | cons node rest ih =>
    cases node with
    | leaf index declaration =>
      rw [childrenOf?] at h
      obtain ⟨front, found, back, rfl, hfront, hset⟩ := ih h
      refine ⟨leaf index declaration :: front, found, back, rfl, ?_, fun new => ?_⟩
      · simpa [heading, isRelation] using hfront
      · rw [setChildren, hset, List.cons_append]
    | relation index declaration old =>
      rw [childrenOf?] at h
      split at h
      · rename_i heq
        subst heq
        obtain rfl := Option.some.inj h
        exact ⟨[], index, rest, rfl, by simp, fun new => by rw [setChildren, if_pos rfl]; rfl⟩
      · rename_i hne
        obtain ⟨front, found, back, rfl, hfront, hset⟩ := ih h
        refine ⟨relation index declaration old :: front, found, back, rfl, ?_, fun new => ?_⟩
        · have hother : segment ≠ declaration := fun heq => hne heq.symm
          simpa [heading, isRelation, SelectNode.declaration, hother] using hfront
        · rw [setChildren, if_neg hne, hset, List.cons_append]

/-- The link to a node. -/
def link (node : SelectNode) : (Bool × Text) × Nat :=
  (node.heading, node.index)

theorem lookup_links_eq_none {nodes : List SelectNode} {key : Bool × Text}
    (h : key ∉ nodes.map heading) : (nodes.map link).lookup key = none := by
  rw [List.lookup_eq_none_iff]
  intro entry hmem
  obtain ⟨node, hnode, rfl⟩ := List.mem_map.1 hmem
  rw [bne_iff_ne]
  rintro rfl
  exact h (List.mem_map_of_mem hnode)

theorem exists_lookup_links {nodes : List SelectNode} {key : Bool × Text}
    (h : key ∈ nodes.map heading) : ∃ number, (nodes.map link).lookup key = some number := by
  by_contra hnone
  have hlookup : (nodes.map link).lookup key = none :=
    Option.eq_none_iff_forall_ne_some.2 fun number heq => hnone ⟨number, heq⟩
  obtain ⟨node, hnode, rfl⟩ := List.mem_map.1 h
  rw [List.lookup_eq_none_iff] at hlookup
  simpa [link] using hlookup _ (List.mem_map_of_mem hnode)

theorem lookup_links_append {front back : List SelectNode} {node : SelectNode}
    (h : node.heading ∉ front.map heading) :
    ((front ++ node :: back).map link).lookup node.heading = some node.index := by
  rw [List.map_append, List.lookup_append, lookup_links_eq_none h, Option.none_or, List.map_cons,
    link, List.lookup_cons_self]

end SelectNode

open SelectNode (heading index leaf relation nodes nodesOf numbers)

/-- The row of a node. -/
def TableRow.ofNode (node : SelectNode) : TableRow where
  heading := node.heading
  links := node.children.map SelectNode.link

/-- A row tells of the children nothing but the links to them. -/
theorem TableRow.ofNode_relation {parent : Nat} {name : Text} {children others : List SelectNode}
    (h : children.map SelectNode.link = others.map SelectNode.link) :
    ofNode (relation parent name children) = ofNode (relation parent name others) := by
  rw [ofNode, ofNode, SelectNode.children, SelectNode.children, h]
  rfl

namespace NodeTable

/-! ## 3. Nodes in their rows -/

/-- The node and all below it are in the rows of their numbers, each in a row
of its own. -/
structure Lays (table : NodeTable) (node : SelectNode) : Prop where
  rows : ∀ below ∈ node.nodes, table[below.index]? = some (.ofNode below)
  apart : node.numbers.Nodup

section

variable {table : NodeTable} {node : SelectNode}

theorem Lays.lt_length (h : table.Lays node) {number : Nat} (hmem : number ∈ node.numbers) :
    number < table.length := by
  obtain ⟨below, hbelow, rfl⟩ := List.mem_map.1 hmem
  exact (List.getElem?_eq_some_iff.1 (h.rows below hbelow)).1

theorem Lays.row (h : table.Lays node) : table[node.index]? = some (.ofNode node) :=
  h.rows node node.mem_nodes_self

theorem Lays.index_lt (h : table.Lays node) : node.index < table.length :=
  (List.getElem?_eq_some_iff.1 h.row).1

/-- The nodes below are laid out with the node. -/
theorem Lays.of_mem_nodes (h : table.Lays node) {below : SelectNode} (hmem : below ∈ node.nodes) :
    table.Lays below :=
  have hsublist := SelectNode.nodes_sublist hmem
  ⟨fun other hother => h.rows other (hsublist.subset hother), h.apart.sublist (hsublist.map _)⟩

/-- So are the children of a relation. -/
theorem Lays.of_mem {number : Nat} {declaration : Text} {children : List SelectNode}
    (h : table.Lays (relation number declaration children)) {child : SelectNode}
    (hmem : child ∈ children) : table.Lays child := by
  refine h.of_mem_nodes ?_
  rw [SelectNode.nodes_relation]
  exact List.mem_cons_of_mem _ (SelectNode.mem_nodesOf hmem)

/-- No node below a relation has its number. -/
theorem Lays.index_ne {number : Nat} {declaration : Text} {children : List SelectNode}
    (h : table.Lays (relation number declaration children)) {below : SelectNode}
    (hmem : below ∈ nodesOf children) : below.index ≠ number := by
  have hapart := h.apart
  rw [numbers, SelectNode.nodes_relation, List.map_cons, List.nodup_cons] at hapart
  exact fun heq => hapart.1 (List.mem_map.2 ⟨below, hmem, heq⟩)

/-- What a lookup in the row of the node finds. -/
theorem Lays.linked? (h : table.Lays node) (key : Bool × Text) :
    table.linked? node.index key = (node.children.map SelectNode.link).lookup key := by
  rw [NodeTable.linked?, h.row, Option.bind_some, TableRow.ofNode]

theorem Lays.child_of_not_mem (h : table.Lays node) {key : Bool × Text}
    (hnew : key ∉ node.children.map heading) :
    table.child node.index key = (table.length, table.grow node.index key) := by
  rw [NodeTable.child, h.linked?, SelectNode.lookup_links_eq_none hnew]

theorem Lays.child_of_mem (h : table.Lays node) {key : Bool × Text}
    (hmem : key ∈ node.children.map heading) : (table.child node.index key).2 = table := by
  obtain ⟨number, hlookup⟩ := SelectNode.exists_lookup_links hmem
  rw [NodeTable.child, h.linked?, hlookup]

/-- The walk goes to the first child of the kind and the segment. -/
theorem Lays.child_of_append (h : table.Lays node) {front back : List SelectNode}
    {below : SelectNode} (hchildren : node.children = front ++ below :: back)
    (hfront : below.heading ∉ front.map heading) :
    table.child node.index below.heading = (below.index, table) := by
  rw [NodeTable.child, h.linked?, hchildren, SelectNode.lookup_links_append hfront]

end

/-! ## 4. Growth -/

/-- The table has grown by the nodes that the new node has more than the old
one, and the rows of all others are as they were. -/
structure Grows (table grown : NodeTable) (node new : SelectNode) : Prop where
  lays : grown.Lays new
  link : new.link = node.link
  gained : ∀ number, number ∈ new.numbers ↔
    number ∈ node.numbers ∨ table.length ≤ number ∧ number < grown.length
  kept : ∀ number < table.length, number ∉ node.numbers → grown[number]? = table[number]?
  longer : table.length ≤ grown.length

theorem Lays.grows_refl {table : NodeTable} {node : SelectNode} (h : table.Lays node) :
    Grows table table node node where
  lays := h
  link := rfl
  gained number := by
    rw [or_iff_left]
    omega
  kept _ _ _ := rfl
  longer := Nat.le_refl _

theorem Grows.trans {table grown last : NodeTable} {node new newest : SelectNode}
    (h : Grows table grown node new) (hlast : Grows grown last new newest) :
    Grows table last node newest where
  lays := hlast.lays
  link := hlast.link.trans h.link
  gained number := by
    have hlonger := h.longer
    have hlongest := hlast.longer
    rw [hlast.gained, h.gained, or_assoc]
    refine or_congr_right ?_
    omega
  kept number hlength hmem := by
    have hnew : number ∉ new.numbers := by
      rw [h.gained]
      rintro (hmem' | hmem')
      · exact hmem hmem'
      · omega
    rw [hlast.kept number (Nat.lt_of_lt_of_le hlength h.longer) hnew, h.kept number hlength hmem]
  longer := h.longer.trans hlast.longer

/-- Numbers stay distinct when those in the middle gain some beyond the bound
of all. -/
theorem nodup_replace {front old new back : List Nat} {bound : Nat}
    (h : (front ++ (old ++ back)).Nodup)
    (hbound : ∀ number ∈ front ++ (old ++ back), number < bound) (hnew : new.Nodup) (hgrown : ∀ number ∈ new, number ∈ old ∨ bound ≤ number) :
    (front ++ (new ++ back)).Nodup := by
  rw [List.nodup_append, List.nodup_append] at h ⊢
  simp only [List.mem_append] at h hbound ⊢
  obtain ⟨hfront, ⟨-, hback, hold⟩, hothers⟩ := h
  refine ⟨hfront, ⟨hnew, hback, fun number hmem other hother => ?_⟩,
    fun number hmem other hother => ?_⟩
  · rcases hgrown number hmem with hin | hlarge
    · exact hold number hin other hother
    · have hless := hbound other (Or.inr (Or.inr hother))
      omega
  · rcases hother with hother | hother
    · rcases hgrown other hother with hin | hlarge
      · exact hothers number hmem other (Or.inl hin)
      · have hless := hbound number (Or.inl hmem)
        omega
    · exact hothers number hmem other (Or.inr hother)

section

variable {table : NodeTable} {parent : Nat} {name : Text} {children : List SelectNode}

/-- A new node without children is the youngest of its siblings. -/
theorem Lays.grow (h : table.Lays (relation parent name children)) {new : SelectNode}
    (hindex : new.index = table.length) (hchildren : new.children = []) :
    Grows table (table.grow parent new.heading) (relation parent name children)
      (relation parent name (children ++ [new])) := by
  have hrow : table[parent]? = some (.ofNode (relation parent name children)) := h.row
  have hparent : parent < table.length := h.index_lt
  have hnodes : nodes (relation parent name (children ++ [new])) =
      relation parent name (children ++ [new]) :: (nodesOf children ++ [new]) := by
    rw [SelectNode.nodes_relation_append, SelectNode.nodes_of_children hchildren, nodesOf,
      List.append_nil]
  have hnumbers : numbers (relation parent name (children ++ [new])) =
      numbers (relation parent name children) ++ [table.length] := by
    rw [numbers, numbers, hnodes, SelectNode.nodes_relation, List.map_cons, List.map_append,
      List.map_singleton, hindex]
    rfl
  constructor
  case lays =>
    constructor
    case rows =>
      intro below hmem
      rw [hnodes, List.mem_cons, List.mem_append, List.mem_singleton] at hmem
      rcases hmem with rfl | hmem | rfl
      · refine (getElem?_grow_parent hrow).trans (congrArg some ?_)
        simp [NodeTable.link, TableRow.ofNode, SelectNode.children, SelectNode.link, hindex,
          heading, SelectNode.isRelation, SelectNode.declaration]
      · have hin : below ∈ nodes (relation parent name children) := by
          rw [SelectNode.nodes_relation]
          exact List.mem_cons_of_mem _ hmem
        have hold := h.rows below hin
        rw [getElem?_grow_of_ne (List.getElem?_eq_some_iff.1 hold).1 (h.index_ne hmem), hold]
      · rw [hindex, getElem?_grow_self hparent, TableRow.ofNode, hchildren]
        rfl
    case apart =>
      rw [hnumbers, ← List.concat_eq_append]
      exact List.Nodup.concat (fun hmem => Nat.lt_irrefl _ (h.lt_length hmem)) h.apart
  case link => rfl
  case gained =>
    intro number
    rw [hnumbers, length_grow, List.mem_append, List.mem_singleton]
    refine or_congr_right ?_
    omega
  case kept =>
    intro number hlength hmem
    refine getElem?_grow_of_ne hlength ?_
    rintro rfl
    exact hmem (List.mem_map_of_mem (SelectNode.mem_nodes_self _))
  case longer =>
    rw [length_grow]
    exact Nat.le_succ _

section

variable {front back : List SelectNode} {child new : SelectNode} {grown : NodeTable}
  (hgrows : Grows table grown child new)
  (h : table.Lays (relation parent name (front ++ child :: back)))
include hgrows h

/-- The rows beside a child that grows are kept. -/
theorem Grows.kept_beside {number : Nat} (hmem : number ∈ parent :: (nodesOf front).map index ∨
    number ∈ (nodesOf back).map index) : grown[number]? = table[number]? := by
  have hapart := h.apart
  rw [SelectNode.numbers_relation_append, List.nodup_append, List.nodup_append] at hapart
  obtain ⟨-, ⟨-, -, hback⟩, hfront⟩ := hapart
  refine hgrows.kept number (h.lt_length ?_) fun hchild => ?_
  · rw [SelectNode.numbers_relation_append, List.mem_append, List.mem_append]
    exact hmem.imp_right Or.inr
  · rcases hmem with hmem | hmem
    · exact hfront number hmem number (List.mem_append_left _ hchild) rfl
    · exact hback number hchild number hmem rfl

/-- A relation grows where one of its children does. -/
theorem Grows.below : Grows table grown (relation parent name (front ++ child :: back))
    (relation parent name (front ++ new :: back)) := by
  constructor
  case lays =>
    constructor
    case rows =>
      intro below hmem
      rw [SelectNode.nodes_relation_append, List.mem_cons, List.mem_append, List.mem_append] at hmem
      -- A row beside the child is kept, and holds a node that was laid out.
      have hold : below ∈ nodesOf front ∨ below ∈ nodesOf back →
          below ∈ nodes (relation parent name (front ++ child :: back)) := by
        rw [SelectNode.nodes_relation_append]
        rintro (hbelow | hbelow)
        · exact List.mem_cons_of_mem _ (List.mem_append_left _ hbelow)
        · exact List.mem_cons_of_mem _ (List.mem_append_right _ (List.mem_append_right _ hbelow))
      rcases hmem with rfl | hmem | hmem | hmem
      · refine (hgrows.kept_beside h (Or.inl List.mem_cons_self)).trans (h.row.trans ?_)
        exact congrArg some (TableRow.ofNode_relation (by simp [hgrows.link]))
      · rw [hgrows.kept_beside h (Or.inl (List.mem_cons_of_mem _ (List.mem_map_of_mem hmem)))]
        exact h.rows below (hold (Or.inl hmem))
      · exact hgrows.lays.rows below hmem
      · rw [hgrows.kept_beside h (Or.inr (List.mem_map_of_mem hmem))]
        exact h.rows below (hold (Or.inr hmem))
    case apart =>
      have hapart := h.apart
      rw [SelectNode.numbers_relation_append] at hapart ⊢
      refine nodup_replace hapart (fun number hmem => h.lt_length ?_) hgrows.lays.apart
        fun number hmem => ((hgrows.gained number).1 hmem).imp_right And.left
      rwa [SelectNode.numbers_relation_append]
  case link => rfl
  case gained =>
    intro number
    rw [SelectNode.numbers_relation_append, SelectNode.numbers_relation_append]
    simp only [List.mem_append, hgrows.gained]
    tauto
  case kept =>
    intro number hlength hmem
    refine hgrows.kept number hlength fun hchild => hmem ?_
    rw [SelectNode.numbers_relation_append]
    exact List.mem_append_right _ (List.mem_append_left _ hchild)
  case longer => exact hgrows.longer

end

end

/-- Inserting a chain below a relation grows the table as it grows the
relation. -/
theorem Lays.insertChain {table : NodeTable} {parent : Nat} {name : Text}
    {children : List SelectNode} (h : table.Lays (relation parent name children))
    (chain : List Text) :
    Grows table (table.insertChain chain parent) (relation parent name children)
        (relation parent name (SelectNode.insertChain chain table.length children).1) ∧
      (table.insertChain chain parent).length =
        (SelectNode.insertChain chain table.length children).2 := by
  match chain with
  | [] => exact ⟨h.grows_refl, rfl⟩
  | [segment] =>
    rw [NodeTable.insertChain, SelectNode.insertChain]
    split
    · rename_i hany
      have hmem : (false, segment) ∈ children.map heading := by
        by_contra hnew
        rw [SelectNode.any_isLeafNamed_eq_false hnew] at hany
        contradiction
      have hchild : (table.child parent (false, segment)).2 = table := h.child_of_mem hmem
      rw [hchild]
      exact ⟨h.grows_refl, rfl⟩
    · rename_i hany
      have hnew : (false, segment) ∉ children.map heading :=
        SelectNode.not_mem_heading_of_leaf (by simpa using hany)
      have hchild : table.child parent (false, segment) =
          (table.length, table.grow parent (false, segment)) := h.child_of_not_mem hnew
      rw [hchild]
      have hgrows := @Lays.grow _ _ _ _ h (leaf table.length segment) rfl rfl
      exact ⟨hgrows, length_grow⟩
  | segment :: next :: rest =>
    rw [NodeTable.insertChain, SelectNode.insertChain]
    split
    · rename_i old hold
      obtain ⟨front, number, back, rfl, hfront, hset⟩ := SelectNode.exists_of_childrenOf? hold
      have hchild : table.child parent (true, segment) = (number, table) :=
        @Lays.child_of_append _ _ h front back (relation number segment old) rfl hfront
      have hbelow : table.Lays (relation number segment old) := h.of_mem (by simp)
      obtain ⟨hgrows, hlength⟩ := hbelow.insertChain (next :: rest)
      rw [hchild]
      simp only [hset]
      exact ⟨hgrows.below h, hlength⟩
    · rename_i hnone
      have hnew : (true, segment) ∉ children.map heading :=
        SelectNode.not_mem_heading_of_relation hnone
      have hchild : table.child parent (true, segment) =
          (table.length, table.grow parent (true, segment)) := h.child_of_not_mem hnew
      have hgrown := @Lays.grow _ _ _ _ h (relation table.length segment []) rfl rfl
      have hbelow := hgrown.lays.of_mem (List.mem_append_right _ (List.mem_singleton.2 rfl))
      obtain ⟨hgrows, hlength⟩ := hbelow.insertChain (next :: rest)
      have hsize : (table.grow parent (relation table.length segment []).heading).length =
          table.length + 1 := length_grow
      rw [hsize] at hgrows hlength
      rw [hchild]
      exact ⟨hgrown.trans (hgrows.below hgrown.lays), hlength⟩

/-! ## 5. Tables of trees -/

/-- The nodes of the tree are in the rows of the table, and nothing else
is. -/
structure Describes (table : NodeTable) (tree : SelectTree) : Prop where
  lays : table.Lays tree.root
  size : table.length = tree.size
  numbers : ∀ number, number ∈ tree.root.numbers ↔ number < table.length

theorem describes_root : Describes [TableRow.mk (true, []) []] {} where
  lays :=
    { rows := by
        intro below hmem
        obtain rfl : below = SelectTree.root {} := by
          simpa [SelectTree.root, nodes, nodesOf] using hmem
        rfl
      apart := List.nodup_singleton _ }
  size := rfl
  numbers number := by
    simp [SelectTree.root, SelectNode.numbers, nodes, nodesOf, index]

theorem Describes.insert {table : NodeTable} {tree : SelectTree} (h : table.Describes tree)
    (path : Path) : (table.insert path).Describes (tree.insert path) := by
  rw [NodeTable.insert, SelectTree.insert]
  split
  · exact h
  · obtain ⟨hgrows, hlength⟩ := h.lays.insertChain (Text.splitOn '.' path.declaration)
    rw [h.size] at hgrows hlength
    refine ⟨hgrows.lays, hlength, fun number => ?_⟩
    have hlonger := hgrows.longer
    rw [SelectTree.root, hgrows.gained, ← SelectTree.root, h.numbers]
    omega

/-- The table of any paths and their tree grow together. -/
theorem describes_ofPaths (paths : List Path) :
    (ofPaths paths).Describes (SelectTree.ofPaths paths) := by
  suffices ∀ (table : NodeTable) (tree : SelectTree), table.Describes tree →
      NodeTable.Describes (paths.foldl insert table) (paths.foldl SelectTree.insert tree) from
    this _ _ describes_root
  induction paths with
  | nil => exact fun _ _ h => h
  | cons path rest ih => exact fun _ _ h => ih _ _ (h.insert path)

/-- A tree has one table. -/
theorem Describes.eq {table other : NodeTable} {tree : SelectTree} (h : table.Describes tree)
    (hother : other.Describes tree) : table = other := by
  have hlength : table.length = other.length := h.size.trans hother.size.symm
  refine List.ext_getElem? fun number => ?_
  by_cases hnumber : number < table.length
  · obtain ⟨node, hnode, rfl⟩ := List.mem_map.1 ((h.numbers number).2 hnumber)
    rw [h.lays.rows node hnode, hother.lays.rows node hnode]
  · rw [List.getElem?_eq_none (Nat.le_of_not_lt hnumber),
      List.getElem?_eq_none (Nat.le_of_not_lt (hlength ▸ hnumber))]

end NodeTable
end QueryCache
