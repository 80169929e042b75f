/-
QueryCache.Statement.Tree — the tree of everything that is selected.

Selected leaves are inserted one by one; a leaf that shares its first
segments with an earlier one shares their nodes.  A node carries the
number of nodes that were there before it, so numbers grow from a parent
to its children and from an older child to a younger one.  A column `x`
and an expansion `x(...)` are different nodes.
-/
import QueryCache.Select.Path

namespace QueryCache

/-- A node below the root: a selected leaf, or a relation and what is
selected below it, in the order of insertion. -/
inductive SelectNode where
  | leaf (index : Nat) (declaration : Text)
  | relation (index : Nat) (declaration : Text) (children : List SelectNode)

namespace SelectNode

/-! ## 1. What a node is -/

/-- How many nodes are older. -/
def index : SelectNode → Nat
  | leaf index _ => index
  | relation index _ _ => index

/-- The segment as written. -/
def declaration : SelectNode → Text
  | leaf _ declaration => declaration
  | relation _ declaration _ => declaration

/-- The nodes below. -/
def children : SelectNode → List SelectNode
  | leaf _ _ => []
  | relation _ _ children => children

/-- The node expands a relation. -/
def isRelation : SelectNode → Bool
  | leaf _ _ => false
  | relation _ _ _ => true

/-- The alias in the segment. -/
def aliasName (node : SelectNode) : Option Text :=
  (Segment.splitAlias node.declaration).1

/-- The segment without its alias. -/
def path (node : SelectNode) : Text :=
  (Segment.splitAlias node.declaration).2

/-- The name that the segment refers to. -/
def name (node : SelectNode) : Text :=
  Segment.bareName node.path

/-- The segment names a relation by a hint. -/
def isHinted (node : SelectNode) : Bool :=
  Segment.isHinted node.path

mutual

/-- An aggregate without alias is never emitted, and neither is a relation
without any emitted child. -/
def isSuppressed : SelectNode → Bool
  | leaf _ declaration =>
    (Segment.splitAlias declaration).1.isNone &&
      Segment.isAggregate (Segment.splitAlias declaration).2
  | relation _ _ children => areSuppressed children

def areSuppressed : List SelectNode → Bool
  | [] => true
  | node :: rest => isSuppressed node && areSuppressed rest

end

theorem areSuppressed_eq_all (nodes : List SelectNode) :
    areSuppressed nodes = nodes.all isSuppressed := by
  induction nodes with
  | nil => rfl
  | cons node rest ih => simp [areSuppressed, ih]

/-! ## 2. Insertion -/

/-- The leaf with this segment. -/
def isLeafNamed (segment : Text) : SelectNode → Bool
  | leaf _ declaration => declaration == segment
  | relation _ _ _ => false

/-- The nodes below the relation with this segment. -/
def childrenOf? (segment : Text) : List SelectNode → Option (List SelectNode)
  | [] => none
  | leaf _ _ :: rest => childrenOf? segment rest
  | relation _ declaration children :: rest =>
    if declaration = segment then some children else childrenOf? segment rest

/-- The nodes with those below the relation with this segment replaced. -/
def setChildren (segment : Text) (children : List SelectNode) : List SelectNode → List SelectNode
  | [] => []
  | leaf index declaration :: rest => leaf index declaration :: setChildren segment children rest
  | relation index declaration old :: rest =>
    if declaration = segment then relation index declaration children :: rest
    else relation index declaration old :: setChildren segment children rest

/-- Inserts a chain of segments, the last of which is a leaf, among the
nodes of a level.  `size` counts all nodes of the tree, before and after. -/
def insertChain : List Text → (size : Nat) → List SelectNode → List SelectNode × Nat
  | [], size, nodes => (nodes, size)
  | [segment], size, nodes =>
    if nodes.any (isLeafNamed segment) then (nodes, size)
    else (nodes ++ [leaf size segment], size + 1)
  | segment :: next :: rest, size, nodes =>
    match childrenOf? segment nodes with
    | some children =>
      let (children, size) := insertChain (next :: rest) size children
      (setChildren segment children nodes, size)
    | none =>
      let (children, grown) := insertChain (next :: rest) (size + 1) []
      (nodes ++ [relation size segment children], grown)

end SelectNode

/-! ## 3. The tree -/

/-- The nodes of the top level and the number of all nodes, the root
included. -/
structure SelectTree where
  children : List SelectNode := []
  size : Nat := 1

namespace SelectTree

/-- The root as a node: a relation without a name. -/
def root (tree : SelectTree) : SelectNode :=
  .relation 0 [] tree.children

/-- Nothing was inserted. -/
def isEmpty (tree : SelectTree) : Bool :=
  tree.children.isEmpty

/-- The tree with a declaration inserted; the empty one is no leaf. -/
def insert (tree : SelectTree) (path : Path) : SelectTree :=
  if path.declaration.isEmpty then tree
  else
    let (children, size) :=
      SelectNode.insertChain (Text.splitOn '.' path.declaration) tree.size tree.children
    ⟨children, size⟩

/-- The tree of all the paths, inserted in their order. -/
def ofPaths (paths : List Path) : SelectTree :=
  paths.foldl insert {}

end SelectTree
end QueryCache
