/-
QueryCache.Statement.Build — paths merged into one select statement.

The leaves of all paths form a tree; what the tree emits, level by level,
is the statement.  Siblings that collide get the aliases `d_0_name`,
`d_1_name`, … from one counter that runs through all levels, a parent
before its children.
-/
import QueryCache.Statement.Dedupe
import QueryCache.Statement.Grouped

namespace QueryCache

/-- A merged statement: its text, its leaves and its entries. -/
structure SelectStatement where
  statement : Text
  /-- The emitted leaves with the aliases they were given. -/
  paths : List Path
  grouped : List GroupedPath

/-- Nothing is selected. -/
def SelectStatement.isEmpty (s : SelectStatement) : Bool :=
  s.statement.isEmpty

/-! ## 1. Chains -/

/-- The chains of the entries above a level; all are empty at the top. -/
structure EmitChain where
  declaration : Text := []
  path : Text := []
  names : Text := []
  aliased : Bool := false

/-- A chain with one more segment. -/
def dotted (chain segment : Text) : Text :=
  if chain.isEmpty then segment else chain ++ '.' :: segment

/-- The chains below an entry. -/
def EmitChain.extend (chain : EmitChain) (entry : Entry) (name : Text) : EmitChain where
  declaration := dotted chain.declaration entry.declaration
  path := dotted chain.path entry.path
  names := dotted chain.names (entry.aliasName.getD name)
  aliased := chain.aliased || entry.aliasName.isSome

/-- The leaf at the end of the chains. -/
def EmitChain.leaf (chain : EmitChain) : Path :=
  ⟨chain.declaration, chain.path, if chain.aliased then some chain.names else none⟩

/-! ## 2. Emission -/

/-- The alias given to the `number`-th collision. -/
def dedupeAlias (number : Nat) (name : Text) : Text :=
  "d_".toList ++ Text.ofNat number ++ '_' :: name

/-- What a part of the tree emits, and the counter behind it. -/
structure Emission where
  grouped : List GroupedPath
  paths : List Path
  counter : Nat

namespace SelectNode

/-- The entry of a node that collides or not, and the counter behind it. -/
def toEntry (node : SelectNode) (collides : Bool) (counter : Nat) : Entry × Nat :=
  let aliasName := if collides then some (dedupeAlias counter node.name) else node.aliasName
  let declaration := match aliasName with
    | some aliasName => aliasName ++ ':' :: node.path
    | none => node.path
  (⟨declaration, node.path, aliasName⟩, if collides then counter + 1 else counter)

mutual

/-- What a node emits; `collides` tells whether it needs an alias among
its siblings. -/
def emit (policy : DedupePolicy) (chain : EmitChain) (collides : Bool) (counter : Nat) :
    SelectNode → Emission
  | leaf index declaration =>
    let node := leaf index declaration
    let (entry, counter) := node.toEntry collides counter
    ⟨[.leaf entry], [(chain.extend entry node.name).leaf], counter⟩
  | relation index declaration children =>
    let node := relation index declaration children
    let (entry, counter) := node.toEntry collides counter
    let below := emitList policy (chain.extend entry node.name) (needsAlias policy children)
      counter children
    ⟨[.nested entry below.grouped], below.paths, below.counter⟩

/-- What nodes of a level emit; suppressed ones emit nothing. -/
def emitList (policy : DedupePolicy) (chain : EmitChain) (collides : SelectNode → Bool)
    (counter : Nat) : List SelectNode → Emission
  | [] => ⟨[], [], counter⟩
  | node :: rest =>
    if node.isSuppressed then emitList policy chain collides counter rest
    else
      let first := emit policy chain (collides node) counter node
      let others := emitList policy chain collides first.counter rest
      ⟨first.grouped ++ others.grouped, first.paths ++ others.paths, others.counter⟩

end

end SelectNode

/-! ## 3. Statements -/

/-- The statement that selects what the tree holds. -/
def SelectTree.toStatement (policy : DedupePolicy) (tree : SelectTree) : SelectStatement :=
  let emission :=
    SelectNode.emitList policy {} (SelectNode.needsAlias policy tree.children) 0 tree.children
  ⟨GroupedPath.statement emission.grouped, emission.paths, emission.grouped⟩

/-- The statement that selects all the paths. -/
def buildStatement (paths : List Path) (policy : DedupePolicy := preferUnhintedRelation) :
    SelectStatement :=
  (SelectTree.ofPaths paths).toStatement policy

end QueryCache
