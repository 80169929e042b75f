/-
QueryCache.Proofs.Statement.Levels — the levels of a tree.

Inserting a chain adds a segment to a level only when no node of its kind
has it, gives each new node a number of its own, and changes no node that is
there but for what is below it.  So when all chains that are inserted
consist of segments with some property, the nodes of every level have it,
and a kind and a segment determine the node, as does its number
(`SelectTree.ofPaths_declared`).
-/
import QueryCache.Proofs.Statement.Tree

namespace QueryCache

namespace SelectNode

/-- The kind of a node and its segment. -/
def heading (node : SelectNode) : Bool × Text :=
  (node.isRelation, node.declaration)

/-- Siblings in a tree of that size: the kind and the segment of each have
the property, no two siblings have both in common, and no two are of one
age. -/
structure IsLevel (p : Bool → Text → Prop) (size : Nat) (nodes : List SelectNode) : Prop where
  declared : ∀ node ∈ nodes, p node.isRelation node.declaration
  distinct : (nodes.map heading).Nodup
  ages : (nodes.map index).Nodup
  older : ∀ node ∈ nodes, node.index < size

mutual

/-- Every level below the node is one of distinct segments with the
property. -/
def IsOrderly (p : Bool → Text → Prop) (size : Nat) : SelectNode → Prop
  | leaf _ _ => True
  | relation _ _ children => IsLevel p size children ∧ AreOrderly p size children

def AreOrderly (p : Bool → Text → Prop) (size : Nat) : List SelectNode → Prop
  | [] => True
  | node :: rest => IsOrderly p size node ∧ AreOrderly p size rest

end

variable {p : Bool → Text → Prop} {size more : Nat}

theorem areOrderly_iff {nodes : List SelectNode} :
    AreOrderly p size nodes ↔ ∀ node ∈ nodes, IsOrderly p size node := by
  induction nodes with
  | nil => simp [AreOrderly]
  | cons node rest ih => simp [AreOrderly, ih]

theorem isLevel_nil : IsLevel p size [] :=
  ⟨by simp, List.nodup_nil, List.nodup_nil, by simp⟩

theorem IsLevel.mono {nodes : List SelectNode} (h : IsLevel p size nodes) (hsize : size ≤ more) :
    IsLevel p more nodes :=
  { h with older := fun node hmem => Nat.lt_of_lt_of_le (h.older node hmem) hsize }

mutual

/-- The tree may grow elsewhere. -/
theorem isOrderly_mono (hsize : size ≤ more) : (node : SelectNode) → IsOrderly p size node →
    IsOrderly p more node
  | leaf _ _, _ => by rw [IsOrderly]; trivial
  | relation _ _ children, h => by
    rw [IsOrderly] at h ⊢
    exact ⟨h.1.mono hsize, areOrderly_mono hsize children h.2⟩

theorem areOrderly_mono (hsize : size ≤ more) : (nodes : List SelectNode) →
    AreOrderly p size nodes → AreOrderly p more nodes
  | [], _ => by rw [AreOrderly]; trivial
  | node :: rest, h => by
    rw [AreOrderly] at h ⊢
    exact ⟨isOrderly_mono hsize node h.1, areOrderly_mono hsize rest h.2⟩

end

/-! ## 1. Levels -/

section

variable {segment : Text} {nodes new : List SelectNode}

/-- New children change nothing that a level knows of its nodes. -/
theorem map_setChildren {α : Type} (f : SelectNode → α)
    (hf : ∀ index declaration old, f (relation index declaration old) =
      f (relation index declaration new)) :
    (setChildren segment new nodes).map f = nodes.map f := by
  induction nodes with
  | nil => rfl
  | cons node rest ih =>
    cases node with
    | leaf index declaration => rw [setChildren, List.map_cons, List.map_cons, ih]
    | relation index declaration children =>
      rw [setChildren]
      split
      · rw [List.map_cons, List.map_cons, hf index declaration children]
      · rw [List.map_cons, List.map_cons, ih]

theorem map_heading_setChildren :
    (setChildren segment new nodes).map heading = nodes.map heading :=
  map_setChildren heading fun _ _ _ => rfl

theorem map_index_setChildren : (setChildren segment new nodes).map index = nodes.map index :=
  map_setChildren index fun _ _ _ => rfl

theorem IsLevel.setChildren (h : IsLevel p size nodes) :
    IsLevel p size (SelectNode.setChildren segment new nodes) where
  declared node hmem := by
    have hheading : heading node ∈ (SelectNode.setChildren segment new nodes).map heading :=
      List.mem_map_of_mem hmem
    rw [map_heading_setChildren] at hheading
    obtain ⟨other, hother, heq⟩ := List.mem_map.1 hheading
    obtain ⟨hkind, hsegment⟩ := Prod.mk.inj heq
    rw [← hkind, ← hsegment]
    exact h.declared other hother
  distinct := by
    rw [map_heading_setChildren]
    exact h.distinct
  ages := by
    rw [map_index_setChildren]
    exact h.ages
  older node hmem := by
    have hindex : index node ∈ (SelectNode.setChildren segment new nodes).map index :=
      List.mem_map_of_mem hmem
    rw [map_index_setChildren] at hindex
    obtain ⟨other, hother, heq⟩ := List.mem_map.1 hindex
    exact heq ▸ h.older other hother

/-- The youngest node enters a level under a heading of its own. -/
theorem IsLevel.append (h : IsLevel p size nodes) {node : SelectNode}
    (hnode : p node.isRelation node.declaration) (hnew : heading node ∉ nodes.map heading)
    (hindex : node.index = size) (hsize : size < more) : IsLevel p more (nodes ++ [node]) where
  declared other hmem := by
    rcases List.mem_append.1 hmem with hmem | hmem
    · exact h.declared other hmem
    · rw [List.mem_singleton.1 hmem]
      exact hnode
  distinct := by
    rw [List.map_append, List.map_singleton, List.nodup_append]
    refine ⟨h.distinct, by simp, ?_⟩
    intro old hold other hother heq
    rw [heq, List.mem_singleton.1 hother] at hold
    exact hnew hold
  ages := by
    rw [List.map_append, List.map_singleton, List.nodup_append]
    refine ⟨h.ages, by simp, ?_⟩
    intro old hold other hother heq
    obtain ⟨elder, helder, rfl⟩ := List.mem_map.1 hold
    have hless := h.older elder helder
    rw [heq, List.mem_singleton.1 hother, hindex] at hless
    exact Nat.lt_irrefl _ hless
  older other hmem := by
    rcases List.mem_append.1 hmem with hmem | hmem
    · exact Nat.lt_trans (h.older other hmem) hsize
    · rw [List.mem_singleton.1 hmem, hindex]
      exact hsize

theorem not_mem_heading_of_leaf (h : nodes.any (isLeafNamed segment) = false) :
    (false, segment) ∉ nodes.map heading := by
  intro hmem
  obtain ⟨node, hnode, heq⟩ := List.mem_map.1 hmem
  have hnot := List.any_eq_false.1 h node hnode
  cases node with
  | leaf index declaration =>
    have hsegment : declaration = segment := (Prod.mk.inj heq).2
    simp [isLeafNamed, hsegment] at hnot
  | relation index declaration children => simp [heading, isRelation] at heq

theorem not_mem_heading_of_relation (h : childrenOf? segment nodes = none) :
    (true, segment) ∉ nodes.map heading := by
  induction nodes with
  | nil => simp
  | cons node rest ih =>
    cases node with
    | leaf index declaration =>
      rw [childrenOf?] at h
      simpa [heading, isRelation] using ih h
    | relation index declaration children =>
      rw [childrenOf?] at h
      split at h
      · contradiction
      · rename_i hne
        have hother : declaration ≠ segment := hne
        simpa [heading, isRelation, SelectNode.declaration, hother.symm] using ih h

/-- The children of a relation are orderly. -/
theorem areOrderly_of_childrenOf? {children : List SelectNode} (h : AreOrderly p size nodes)
    (hchildren : childrenOf? segment nodes = some children) :
    IsLevel p size children ∧ AreOrderly p size children := by
  obtain ⟨index, hmem⟩ := mem_of_childrenOf? hchildren
  have hrelation := areOrderly_iff.1 h _ hmem
  rwa [IsOrderly] at hrelation

theorem areOrderly_setChildren (h : AreOrderly p size nodes) (hlevel : IsLevel p size new)
    (hnew : AreOrderly p size new) : AreOrderly p size (setChildren segment new nodes) := by
  induction nodes with
  | nil => exact h
  | cons node rest ih =>
    rw [AreOrderly] at h
    cases node with
    | leaf index declaration =>
      rw [setChildren, AreOrderly]
      exact ⟨h.1, ih h.2⟩
    | relation index declaration children =>
      rw [setChildren]
      split
      · rw [AreOrderly, IsOrderly]
        exact ⟨⟨hlevel, hnew⟩, h.2⟩
      · rw [AreOrderly]
        exact ⟨h.1, ih h.2⟩

theorem areOrderly_append (h : AreOrderly p size nodes) {node : SelectNode}
    (hnode : IsOrderly p size node) : AreOrderly p size (nodes ++ [node]) := by
  rw [areOrderly_iff] at h ⊢
  intro other hmem
  rcases List.mem_append.1 hmem with hmem | hmem
  · exact h other hmem
  · exact List.mem_singleton.1 hmem ▸ hnode

end

/-! ## 2. Insertion -/

/-- A chain of segments with the property, the last of which is a leaf. -/
def IsDeclaredChain (p : Bool → Text → Prop) : List Text → Prop
  | [] => False
  | [segment] => p false segment
  | segment :: next :: rest => p true segment ∧ IsDeclaredChain p (next :: rest)

theorem isDeclaredChain_append {front : List Text} {last : Text}
    (hfront : ∀ segment ∈ front, p true segment) (hlast : p false last) :
    IsDeclaredChain p (front ++ [last]) := by
  induction front with
  | nil => exact hlast
  | cons segment rest ih =>
    have hbelow := ih fun other hmem => hfront other (List.mem_cons_of_mem _ hmem)
    have hsegment := hfront segment List.mem_cons_self
    rcases rest with _ | ⟨next, rest⟩
    · exact ⟨hsegment, hbelow⟩
    · exact ⟨hsegment, hbelow⟩

/-- A property of segments of either kind. -/
theorem isDeclaredChain_of_forall {chain : List Text} (hne : chain ≠ [])
    (h : ∀ segment ∈ chain, ∀ isRelation, p isRelation segment) : IsDeclaredChain p chain := by
  rw [← List.dropLast_concat_getLast hne] at h ⊢
  exact isDeclaredChain_append (fun segment hmem => h segment (List.mem_append_left _ hmem) true)
    (h _ (by simp) false)

/-- Inserting a declared chain keeps every level orderly. -/
theorem areOrderly_insertChain {chain : List Text} (hchain : IsDeclaredChain p chain) (size : Nat)
    {nodes : List SelectNode} (hlevel : IsLevel p size nodes) (h : AreOrderly p size nodes) :
    size ≤ (insertChain chain size nodes).2 ∧
      IsLevel p (insertChain chain size nodes).2 (insertChain chain size nodes).1 ∧
      AreOrderly p (insertChain chain size nodes).2 (insertChain chain size nodes).1 := by
  match chain with
  | [] => exact hchain.elim
  | [segment] =>
    rw [insertChain]
    split
    · exact ⟨Nat.le_refl _, hlevel, h⟩
    · rename_i hany
      have hnone : nodes.any (isLeafNamed segment) = false := by simpa using hany
      refine ⟨Nat.le_succ _, hlevel.append hchain (not_mem_heading_of_leaf hnone) rfl
        (Nat.lt_succ_self _), ?_⟩
      exact areOrderly_append (areOrderly_mono (Nat.le_succ _) nodes h)
        (by rw [IsOrderly]; trivial)
  | segment :: next :: rest =>
    rw [insertChain]
    split
    · rename_i children hchildren
      obtain ⟨hbelow, hchildren⟩ := areOrderly_of_childrenOf? h hchildren
      obtain ⟨hsize, hnewLevel, hnew⟩ := areOrderly_insertChain hchain.2 size hbelow hchildren
      exact ⟨hsize, (hlevel.mono hsize).setChildren,
        areOrderly_setChildren (areOrderly_mono hsize nodes h) hnewLevel hnew⟩
    · rename_i hnone
      obtain ⟨hsize, hnewLevel, hnew⟩ := areOrderly_insertChain hchain.2 (size + 1)
        isLevel_nil (show AreOrderly p (size + 1) [] from trivial)
      have hgrown : size ≤ (insertChain (next :: rest) (size + 1) []).2 :=
        Nat.le_of_succ_le hsize
      refine ⟨hgrown, hlevel.append hchain.1 (not_mem_heading_of_relation hnone) rfl hsize, ?_⟩
      exact areOrderly_append (areOrderly_mono hgrown nodes h)
        (by rw [IsOrderly]; exact ⟨hnewLevel, hnew⟩)

end SelectNode

namespace SelectTree

open SelectNode

/-- A tree of declared paths is orderly. -/
theorem ofPaths_declared {p : Bool → Text → Prop} {paths : List Path}
    (h : ∀ path ∈ paths, IsDeclaredChain p (Text.splitOn '.' path.declaration)) :
    IsLevel p (ofPaths paths).size (ofPaths paths).children ∧
      AreOrderly p (ofPaths paths).size (ofPaths paths).children := by
  suffices ∀ tree : SelectTree, IsLevel p tree.size tree.children →
      AreOrderly p tree.size tree.children →
      IsLevel p (paths.foldl insert tree).size (paths.foldl insert tree).children ∧
        AreOrderly p (paths.foldl insert tree).size (paths.foldl insert tree).children from
    this {} isLevel_nil trivial
  induction paths with
  | nil => exact fun tree hlevel horderly => ⟨hlevel, horderly⟩
  | cons path rest ih =>
    intro tree hlevel horderly
    have hinserted : IsLevel p (tree.insert path).size (tree.insert path).children ∧
        AreOrderly p (tree.insert path).size (tree.insert path).children := by
      rw [insert]
      split
      · exact ⟨hlevel, horderly⟩
      · exact (areOrderly_insertChain (h path List.mem_cons_self) tree.size hlevel horderly).2
    exact ih (fun other hmem => h other (List.mem_cons_of_mem _ hmem)) _ hinserted.1 hinserted.2

end SelectTree
end QueryCache
