/-
QueryCache.Proofs.Statement.Tree — what was inserted is in the tree.

A tree holds a chain of segments when relations lead along it to a leaf.
Inserting a chain makes the tree hold it (`holds_insertChain`) and keeps
every chain that it holds (`Holds.insertChain`), since insertion only adds
nodes.  With plain segments every node is plain, and no relation is empty.
-/
import QueryCache.Proofs.Select.Plain
import QueryCache.Statement.Tree

namespace QueryCache

namespace SelectNode

/-- The nodes hold a chain of segments: relations lead along it to a
leaf. -/
def Holds : List Text → List SelectNode → Prop
  | [], _ => False
  | [segment], nodes => ∃ index, leaf index segment ∈ nodes
  | segment :: next :: rest, nodes =>
    ∃ index children, relation index segment children ∈ nodes ∧ Holds (next :: rest) children

mutual

/-- The segments of the node and of all below it are plain, and no relation
is empty. -/
def IsPlain : SelectNode → Prop
  | leaf _ declaration => Segment.isPlain declaration = true
  | relation _ declaration children =>
    Segment.isPlain declaration = true ∧ children ≠ [] ∧ ArePlain children

def ArePlain : List SelectNode → Prop
  | [] => True
  | node :: rest => IsPlain node ∧ ArePlain rest

end

theorem arePlain_iff {nodes : List SelectNode} :
    ArePlain nodes ↔ ∀ node ∈ nodes, IsPlain node := by
  induction nodes with
  | nil => simp [ArePlain]
  | cons node rest ih => simp [ArePlain, ih]

theorem isPlain_declaration {node : SelectNode} (h : node.IsPlain) :
    Segment.isPlain node.declaration = true := by
  cases node with
  | leaf index declaration =>
    rw [IsPlain] at h
    exact h
  | relation index declaration children =>
    rw [IsPlain] at h
    exact h.1

/-! ## 1. Children of a relation -/

theorem mem_of_childrenOf? {segment : Text} {nodes children : List SelectNode}
    (h : childrenOf? segment nodes = some children) :
    ∃ index, relation index segment children ∈ nodes := by
  induction nodes with
  | nil => simp [childrenOf?] at h
  | cons node rest ih =>
    cases node with
    | leaf index declaration =>
      rw [childrenOf?] at h
      obtain ⟨found, hmem⟩ := ih h
      exact ⟨found, List.mem_cons_of_mem _ hmem⟩
    | relation index declaration old =>
      rw [childrenOf?] at h
      split at h
      · rename_i heq
        obtain rfl := Option.some.inj h
        exact ⟨index, heq ▸ List.mem_cons_self⟩
      · obtain ⟨found, hmem⟩ := ih h
        exact ⟨found, List.mem_cons_of_mem _ hmem⟩

section

variable {segment : Text} {nodes old : List SelectNode} (new : List SelectNode)

theorem leaf_mem_setChildren {index : Nat} {declaration : Text}
    (h : leaf index declaration ∈ nodes) :
    leaf index declaration ∈ setChildren segment new nodes := by
  induction nodes with
  | nil => contradiction
  | cons node rest ih =>
    cases node with
    | leaf first name =>
      rw [setChildren]
      rcases List.mem_cons.1 h with heq | h
      · exact heq ▸ List.mem_cons_self
      · exact List.mem_cons_of_mem _ (ih h)
    | relation first name children =>
      have hrest := (List.mem_cons.1 h).resolve_left (by simp)
      rw [setChildren]
      split
      · exact List.mem_cons_of_mem _ hrest
      · exact List.mem_cons_of_mem _ (ih hrest)

/-- A relation stays, or the new children are set below it. -/
theorem relation_mem_setChildren {index : Nat} {declaration : Text} {children : List SelectNode}
    (h : relation index declaration children ∈ nodes) :
    relation index declaration children ∈ setChildren segment new nodes ∨
      declaration = segment ∧ childrenOf? segment nodes = some children ∧
        relation index segment new ∈ setChildren segment new nodes := by
  induction nodes with
  | nil => contradiction
  | cons node rest ih =>
    cases node with
    | leaf first name =>
      have hrest := (List.mem_cons.1 h).resolve_left (by simp)
      rw [setChildren, childrenOf?]
      rcases ih hrest with h | ⟨heq, hchildren, h⟩
      · exact Or.inl (List.mem_cons_of_mem _ h)
      · exact Or.inr ⟨heq, hchildren, List.mem_cons_of_mem _ h⟩
    | relation first name others =>
      rw [setChildren, childrenOf?]
      split
      · rename_i hname
        rcases List.mem_cons.1 h with heq | h
        · rw [relation.injEq] at heq
          obtain ⟨rfl, rfl, rfl⟩ := heq
          exact Or.inr ⟨hname, rfl, hname ▸ List.mem_cons_self⟩
        · exact Or.inl (List.mem_cons_of_mem _ h)
      · rcases List.mem_cons.1 h with heq | h
        · exact Or.inl (heq ▸ List.mem_cons_self)
        · rcases ih h with h | ⟨heq, hchildren, h⟩
          · exact Or.inl (List.mem_cons_of_mem _ h)
          · exact Or.inr ⟨heq, hchildren, List.mem_cons_of_mem _ h⟩

theorem exists_mem_setChildren (h : childrenOf? segment nodes = some old) :
    ∃ index, relation index segment new ∈ setChildren segment new nodes := by
  induction nodes with
  | nil => simp [childrenOf?] at h
  | cons node rest ih =>
    cases node with
    | leaf index declaration =>
      rw [childrenOf?] at h
      obtain ⟨found, hmem⟩ := ih h
      exact ⟨found, by rw [setChildren]; exact List.mem_cons_of_mem _ hmem⟩
    | relation index declaration children =>
      rw [childrenOf?] at h
      rw [setChildren]
      split at h
      · rename_i heq
        rw [if_pos heq]
        exact ⟨index, heq ▸ List.mem_cons_self⟩
      · rename_i hne
        rw [if_neg hne]
        obtain ⟨found, hmem⟩ := ih h
        exact ⟨found, List.mem_cons_of_mem _ hmem⟩

theorem arePlain_setChildren (hnodes : ArePlain nodes) (hne : new ≠ []) (hnew : ArePlain new) :
    ArePlain (setChildren segment new nodes) := by
  induction nodes with
  | nil => exact hnodes
  | cons node rest ih =>
    rw [ArePlain] at hnodes
    cases node with
    | leaf index declaration =>
      rw [setChildren, ArePlain]
      exact ⟨hnodes.1, ih hnodes.2⟩
    | relation index declaration children =>
      rw [setChildren]
      split
      · have hplain := hnodes.1
        rw [IsPlain] at hplain
        rw [ArePlain, IsPlain]
        exact ⟨⟨hplain.1, hne, hnew⟩, hnodes.2⟩
      · rw [ArePlain]
        exact ⟨hnodes.1, ih hnodes.2⟩

end

/-! ## 2. Insertion -/

theorem Holds.ne_nil {chain : List Text} {nodes : List SelectNode} (h : Holds chain nodes) :
    nodes ≠ [] := by
  match chain with
  | [] => exact h.elim
  | [segment] =>
    obtain ⟨index, hmem⟩ := h
    exact List.ne_nil_of_mem hmem
  | segment :: next :: rest =>
    obtain ⟨index, children, hmem, -⟩ := h
    exact List.ne_nil_of_mem hmem

/-- More nodes hold what some of them hold. -/
theorem Holds.mono {chain : List Text} {nodes others : List SelectNode} (h : Holds chain nodes)
    (hsub : ∀ node ∈ nodes, node ∈ others) : Holds chain others := by
  match chain with
  | [] => exact h
  | [segment] =>
    obtain ⟨index, hmem⟩ := h
    exact ⟨index, hsub _ hmem⟩
  | segment :: next :: rest =>
    obtain ⟨index, children, hmem, hrest⟩ := h
    exact ⟨index, children, hsub _ hmem, hrest⟩

/-- An inserted chain is held. -/
theorem holds_insertChain {chain : List Text} (hne : chain ≠ []) (size : Nat)
    (nodes : List SelectNode) : Holds chain (insertChain chain size nodes).1 := by
  match chain with
  | [] => exact absurd rfl hne
  | [segment] =>
    rw [insertChain]
    split
    · rename_i hany
      obtain ⟨node, hmem, hnode⟩ := List.any_eq_true.1 hany
      cases node with
      | leaf index declaration =>
        have heq : declaration = segment := by simpa [isLeafNamed] using hnode
        exact ⟨index, heq ▸ hmem⟩
      | relation index declaration children => simp [isLeafNamed] at hnode
    · exact ⟨size, by simp⟩
  | segment :: next :: rest =>
    rw [insertChain]
    split
    · rename_i children hchildren
      have hbelow := holds_insertChain (List.cons_ne_nil next rest) size children
      obtain ⟨index, hmem⟩ := exists_mem_setChildren
        (insertChain (next :: rest) size children).1 hchildren
      exact ⟨index, _, hmem, hbelow⟩
    · have hbelow := holds_insertChain (List.cons_ne_nil next rest) (size + 1) []
      exact ⟨size, _, List.mem_append_right _ List.mem_cons_self, hbelow⟩

/-- What is held stays held when a chain is inserted. -/
theorem Holds.insertChain {chain other : List Text} {nodes : List SelectNode}
    (h : Holds other nodes) (size : Nat) :
    Holds other (SelectNode.insertChain chain size nodes).1 := by
  match chain with
  | [] => exact h
  | [segment] =>
    rw [SelectNode.insertChain]
    split
    · exact h
    · exact h.mono fun _ hmem => List.mem_append_left _ hmem
  | segment :: next :: rest =>
    rw [SelectNode.insertChain]
    split
    · rename_i children hchildren
      match other with
      | [] => exact h
      | [name] =>
        obtain ⟨index, hmem⟩ := h
        exact ⟨index, leaf_mem_setChildren _ hmem⟩
      | name :: following :: others =>
        obtain ⟨index, below, hmem, hbelow⟩ := h
        rcases @relation_mem_setChildren segment nodes
          (SelectNode.insertChain (next :: rest) size children).1 _ _ _ hmem with
          hstays | ⟨rfl, hfound, hset⟩
        · exact ⟨index, below, hstays, hbelow⟩
        · -- The other chain leads below the relation that gets new children.
          rw [hchildren, Option.some.injEq] at hfound
          subst hfound
          exact ⟨index, _, hset, hbelow.insertChain size⟩
    · exact h.mono fun _ hmem => List.mem_append_left _ hmem

/-- Inserting plain segments leaves plain nodes plain. -/
theorem arePlain_insertChain {chain : List Text} {nodes : List SelectNode}
    (hchain : ∀ segment ∈ chain, Segment.isPlain segment = true) (hnodes : ArePlain nodes)
    (size : Nat) : ArePlain (insertChain chain size nodes).1 := by
  have happend : ∀ node : SelectNode, node.IsPlain → ArePlain (nodes ++ [node]) := by
    intro node hnode
    rw [arePlain_iff] at hnodes ⊢
    intro other hmem
    rcases List.mem_append.1 hmem with hmem | hmem
    · exact hnodes other hmem
    · exact List.mem_singleton.1 hmem ▸ hnode
  match chain with
  | [] => exact hnodes
  | [segment] =>
    rw [insertChain]
    split
    · exact hnodes
    · refine happend _ ?_
      rw [IsPlain]
      exact hchain segment List.mem_cons_self
  | segment :: next :: rest =>
    have hbelow : ∀ segment ∈ next :: rest, Segment.isPlain segment = true :=
      fun segment hmem => hchain segment (List.mem_cons_of_mem _ hmem)
    rw [insertChain]
    split
    · rename_i children hchildren
      obtain ⟨index, hmem⟩ := mem_of_childrenOf? hchildren
      have hrelation := arePlain_iff.1 hnodes _ hmem
      rw [IsPlain] at hrelation
      exact arePlain_setChildren _ hnodes
        (holds_insertChain (List.cons_ne_nil next rest) size children).ne_nil
        (arePlain_insertChain hbelow hrelation.2.2 size)
    · refine happend _ ?_
      rw [IsPlain]
      exact ⟨hchain segment List.mem_cons_self,
        (holds_insertChain (List.cons_ne_nil next rest) (size + 1) []).ne_nil,
        arePlain_insertChain hbelow (show ArePlain [] from trivial) (size + 1)⟩

end SelectNode

/-! ## 3. Trees of paths -/

/-- The path of plain segments, without aliases. -/
def Path.IsBare (path : Path) : Prop :=
  ∃ chain, chain ≠ [] ∧ (∀ segment ∈ chain, Segment.isPlain segment = true) ∧
    path = ofText (Text.join '.' chain)

namespace SelectTree

open SelectNode

section

variable {chain : List Text} (hne : chain ≠ [])
  (hchain : ∀ segment ∈ chain, Segment.isPlain segment = true)
include hne hchain

/-- A chain of plain segments is inserted segment by segment. -/
theorem insert_ofText (tree : SelectTree) :
    (tree.insert (.ofText (Text.join '.' chain))).children =
      (insertChain chain tree.size tree.children).1 := by
  have hsplit : Text.splitOn '.' (Text.join '.' chain) = chain :=
    Text.splitOn_join hne fun segment hmem =>
      Segment.not_mem_of_isPlain (hchain segment hmem) (by decide) (by decide)
  have hempty : (Text.join '.' chain).isEmpty = false := by
    obtain ⟨first, rest, rfl⟩ := List.exists_cons_of_ne_nil hne
    have hfirst := Segment.ne_nil_of_isPlain (hchain first List.mem_cons_self)
    simpa using Text.join_ne_nil hfirst rest
  simp only [insert, Path.ofText, hempty, Bool.false_eq_true, if_false, hsplit]

end

/-- The tree of bare paths is plain and holds their chains. -/
theorem ofPaths_bare {paths : List Path} (h : ∀ path ∈ paths, path.IsBare) :
    ArePlain (ofPaths paths).children ∧
      ∀ chain, chain ≠ [] → (∀ segment ∈ chain, Segment.isPlain segment = true) →
        Path.ofText (Text.join '.' chain) ∈ paths → Holds chain (ofPaths paths).children := by
  -- What is inserted is held from then on.
  suffices ∀ tree : SelectTree, ArePlain tree.children →
      ArePlain (paths.foldl insert tree).children ∧
        (∀ chain, Holds chain tree.children → Holds chain (paths.foldl insert tree).children) ∧
        ∀ chain, chain ≠ [] → (∀ segment ∈ chain, Segment.isPlain segment = true) →
          Path.ofText (Text.join '.' chain) ∈ paths →
            Holds chain (paths.foldl insert tree).children by
    obtain ⟨hplain, -, hholds⟩ := this {} trivial
    exact ⟨hplain, hholds⟩
  induction paths with
  | nil => exact fun tree htree => ⟨htree, fun _ hchain => hchain, by simp⟩
  | cons path rest ih =>
    intro tree htree
    obtain ⟨inserted, hne, hinserted, rfl⟩ := h path List.mem_cons_self
    have hnodes := insert_ofText hne hinserted tree
    have hplain : ArePlain (tree.insert (.ofText (Text.join '.' inserted))).children := by
      rw [hnodes]
      exact arePlain_insertChain hinserted htree tree.size
    obtain ⟨hall, hkept, hheld⟩ := ih (fun other hmem => h other (List.mem_cons_of_mem _ hmem))
      _ hplain
    refine ⟨hall, ?_, ?_⟩
    · intro chain hchain
      refine hkept chain ?_
      rw [hnodes]
      exact hchain.insertChain tree.size
    · intro chain hne' hchain hmem
      rcases List.mem_cons.1 hmem with heq | hmem
      · refine hkept chain ?_
        rw [← heq, insert_ofText hne' hchain tree]
        exact holds_insertChain hne' tree.size tree.children
      · exact hheld chain hne' hchain hmem

end SelectTree
end QueryCache
