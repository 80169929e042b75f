/-
QueryCache.Proofs.Statement.Inserted — a tree says what its paths say, in
the order in which they say it first.

A path is inserted as a chain of segments.  Each chain that reaches a level
names a node there, by its kind and its segment, and says the rest behind
it.  A level that merges chains has one node for each that they name, in the
order of their first mention, and the children of a relation merge what the
chains say behind it (`AreMerged`).  Inserting a chain merges one chain more
(`AreMerged.insertChain`), so the tree of a list of paths merges their
chains (`SelectTree.areMerged_ofPaths`).
-/
import Mathlib.Data.List.Induction
import QueryCache.Proofs.Statement.Repeated

namespace QueryCache

/-! ## 1. First mentions -/

section

variable {α : Type} [BEq α] [LawfulBEq α] {mentions : List α} {a : α}

theorem eraseDups_concat_of_mem (h : a ∈ mentions) :
    (mentions ++ [a]).eraseDups = mentions.eraseDups := by
  rw [List.eraseDups_append, List.removeAll]
  simp [h]

theorem eraseDups_concat_of_not_mem (h : a ∉ mentions) :
    (mentions ++ [a]).eraseDups = mentions.eraseDups ++ [a] := by
  rw [List.eraseDups_append, List.removeAll]
  simp [h, List.eraseDups_cons]

theorem nodup_eraseDups (mentions : List α) : mentions.eraseDups.Nodup := by
  induction mentions using List.reverseRecOn with
  | nil => exact List.nodup_nil
  | append_singleton mentions a ih =>
    by_cases hmem : a ∈ mentions
    · rw [eraseDups_concat_of_mem hmem]
      exact ih
    · rw [eraseDups_concat_of_not_mem hmem, ← List.concat_eq_append]
      exact ih.concat fun hin => hmem (List.mem_eraseDups.1 hin)

end

namespace SelectNode

/-! ## 2. Levels that merge chains -/

/-- The kind and the segment of the node that a chain names. -/
def named? : List Text → Option (Bool × Text)
  | [] => none
  | [segment] => some (false, segment)
  | segment :: _ :: _ => some (true, segment)

/-- What a chain says behind a relation, if it goes through it. -/
def behind? (segment : Text) : List Text → Option (List Text)
  | first :: next :: rest => if first = segment then some (next :: rest) else none
  | _ => none

/-- The nodes that chains name, each once. -/
def namedBy (chains : List (List Text)) : List (Bool × Text) :=
  (chains.filterMap named?).eraseDups

/-- What chains say behind a relation. -/
def allBehind (segment : Text) (chains : List (List Text)) : List (List Text) :=
  chains.filterMap (behind? segment)

mutual

/-- The children of the node merge what the chains say behind it. -/
def Merges (chains : List (List Text)) : SelectNode → Prop
  | leaf _ _ => True
  | relation _ segment children =>
    children.map heading = namedBy (allBehind segment chains) ∧
      MergeAll (allBehind segment chains) children

def MergeAll (chains : List (List Text)) : List SelectNode → Prop
  | [] => True
  | node :: rest => Merges chains node ∧ MergeAll chains rest

end

/-- The level merges the chains: its nodes are those that the chains name, in
the order of their first mention, and so it goes on below. -/
structure AreMerged (chains : List (List Text)) (nodes : List SelectNode) : Prop where
  headings : nodes.map heading = namedBy chains
  below : MergeAll chains nodes

theorem mergeAll_iff {chains : List (List Text)} {nodes : List SelectNode} :
    MergeAll chains nodes ↔ ∀ node ∈ nodes, Merges chains node := by
  induction nodes with
  | nil => simp [MergeAll]
  | cons node rest ih => rw [MergeAll, ih, List.forall_mem_cons]

theorem merges_relation {chains : List (List Text)} {index : Nat} {segment : Text}
    {children : List SelectNode} :
    Merges chains (relation index segment children) ↔
      AreMerged (allBehind segment chains) children := by
  rw [Merges]
  exact ⟨fun h => ⟨h.1, h.2⟩, fun h => ⟨h.1, h.2⟩⟩

/-- A node depends on what the chains say behind it alone. -/
theorem Merges.of_allBehind_eq {chains others : List (List Text)} {node : SelectNode}
    (h : Merges chains node) (hsame : node.isRelation = true →
      allBehind node.declaration others = allBehind node.declaration chains) :
    Merges others node := by
  cases node with
  | leaf index segment =>
    rw [Merges]
    trivial
  | relation index segment children =>
    rw [merges_relation] at h ⊢
    rwa [show allBehind segment others = allBehind segment chains from hsame rfl]

theorem areMerged_nil : AreMerged [] [] :=
  ⟨rfl, trivial⟩

/-! ## 3. One chain more -/

section

variable {chains : List (List Text)} {nodes : List SelectNode}

theorem allBehind_concat (segment : Text) (chain : List Text) :
    allBehind segment (chains ++ [chain]) =
      allBehind segment chains ++ (behind? segment chain).toList := by
  rw [allBehind, List.filterMap_append, allBehind]
  rcases hbehind : behind? segment chain with _ | rest <;> simp [hbehind]

theorem mem_namedBy {heading : Bool × Text} :
    heading ∈ namedBy chains ↔ ∃ chain ∈ chains, named? chain = some heading := by
  rw [namedBy, List.mem_eraseDups, List.mem_filterMap]

section

variable {chain : List Text} {heading : Bool × Text} (h : named? chain = some heading)
include h

theorem namedBy_concat_of_mem (hmem : heading ∈ namedBy chains) :
    namedBy (chains ++ [chain]) = namedBy chains := by
  rw [namedBy, List.mem_eraseDups] at hmem
  rw [namedBy, List.filterMap_append, List.filterMap_cons_some h, List.filterMap_nil,
    eraseDups_concat_of_mem hmem, namedBy]

theorem namedBy_concat_of_not_mem (hnew : heading ∉ namedBy chains) :
    namedBy (chains ++ [chain]) = namedBy chains ++ [heading] := by
  rw [namedBy, List.mem_eraseDups] at hnew
  rw [namedBy, List.filterMap_append, List.filterMap_cons_some h, List.filterMap_nil,
    eraseDups_concat_of_not_mem hnew, namedBy]

end

/-- Nothing is said behind a relation that is not named. -/
theorem allBehind_eq_nil {segment : Text} (h : (true, segment) ∉ namedBy chains) :
    allBehind segment chains = [] := by
  rw [allBehind, List.filterMap_eq_nil_iff]
  intro chain hchain
  unfold behind?
  split
  · rename_i first next rest
    rw [if_neg]
    rintro rfl
    exact h (mem_namedBy.2 ⟨_, hchain, rfl⟩)
  · rfl

/-- Other nodes are as they were when more is said behind one. -/
theorem Merges.concat {node : SelectNode} (h : Merges chains node) {chain : List Text}
    (hother : node.isRelation = true → behind? node.declaration chain = none) :
    Merges (chains ++ [chain]) node := by
  refine h.of_allBehind_eq fun hrelation => ?_
  rw [allBehind_concat, hother hrelation]
  exact List.append_nil _

theorem mergeAll_setChildren {segment : Text} {old new : List SelectNode} {chain : List Text}
    (h : MergeAll chains nodes) (hdistinct : (nodes.map heading).Nodup)
    (hold : childrenOf? segment nodes = some old)
    (hnew : AreMerged (allBehind segment (chains ++ [chain])) new)
    (hchain : ∀ other ≠ segment, behind? other chain = none) :
    MergeAll (chains ++ [chain]) (setChildren segment new nodes) := by
  induction nodes with
  | nil => simp [childrenOf?] at hold
  | cons node rest ih =>
    rw [MergeAll] at h
    rw [List.map_cons, List.nodup_cons] at hdistinct
    cases node with
    | leaf index declaration =>
      rw [childrenOf?] at hold
      rw [setChildren, MergeAll]
      exact ⟨h.1.concat (by simp [isRelation]), ih h.2 hdistinct.2 hold⟩
    | relation index declaration children =>
      rw [childrenOf?] at hold
      rw [setChildren]
      split at hold
      · rename_i heq
        subst heq
        rw [if_pos rfl, MergeAll, merges_relation]
        refine ⟨hnew, mergeAll_iff.2 fun other hmem => ?_⟩
        -- No later node expands the same relation.
        refine (mergeAll_iff.1 h.2 other hmem).concat fun hrelation => hchain _ fun heq => ?_
        exact hdistinct.1 (List.mem_map.2 ⟨other, hmem, Prod.ext hrelation heq⟩)
      · rename_i hne
        rw [if_neg hne, MergeAll]
        exact ⟨h.1.concat fun _ => hchain declaration hne, ih h.2 hdistinct.2 hold⟩

/-- A node with a heading of its own enters the level last. -/
theorem AreMerged.append (h : AreMerged chains nodes) {chain : List Text} {node : SelectNode}
    (hnamed : named? chain = some node.heading) (hnew : node.heading ∉ nodes.map heading)
    (hothers : ∀ other ∈ nodes, other.isRelation = true →
      behind? other.declaration chain = none)
    (hnode : Merges (chains ++ [chain]) node) :
    AreMerged (chains ++ [chain]) (nodes ++ [node]) where
  headings := by
    rw [h.headings] at hnew
    rw [namedBy_concat_of_not_mem hnamed hnew, List.map_append, List.map_singleton, h.headings]
  below := mergeAll_iff.2 fun other hmem => by
    rcases List.mem_append.1 hmem with hmem | hmem
    · exact (mergeAll_iff.1 h.below other hmem).concat (hothers other hmem)
    · exact List.mem_singleton.1 hmem ▸ hnode

end

section

variable {chains : List (List Text)} {nodes : List SelectNode} {segment : Text}

/-- A column is entered unless it is there. -/
theorem AreMerged.insertLeaf (h : AreMerged chains nodes) (segment : Text) (size : Nat) :
    AreMerged (chains ++ [[segment]]) (SelectNode.insertChain [segment] size nodes).1 := by
  have hnamed : named? [segment] = some (false, segment) := rfl
  rw [SelectNode.insertChain]
  split
  · rename_i hany
    have hmem : (false, segment) ∈ namedBy chains := by
      rw [← h.headings]
      by_contra hnew
      rw [any_isLeafNamed_eq_false hnew] at hany
      contradiction
    refine ⟨?_, mergeAll_iff.2 fun node hnode =>
      (mergeAll_iff.1 h.below node hnode).concat fun _ => rfl⟩
    rw [namedBy_concat_of_mem hnamed hmem, h.headings]
  · rename_i hany
    have hnone : nodes.any (isLeafNamed segment) = false := by simpa using hany
    have hnew : (leaf size segment).heading ∉ nodes.map heading := not_mem_heading_of_leaf hnone
    exact h.append hnamed hnew (fun _ _ _ => rfl) (by rw [Merges]; trivial)

/-- A chain through a relation says nothing behind another. -/
theorem behind?_of_ne {next other : Text} {rest : List Text} (hne : other ≠ segment) :
    behind? other (segment :: next :: rest) = none :=
  if_neg (Ne.symm hne)

/-- A chain through a relation says its rest behind it. -/
theorem allBehind_concat_through (next : Text) (rest : List Text) :
    allBehind segment (chains ++ [segment :: next :: rest]) =
      allBehind segment chains ++ [next :: rest] := by
  rw [allBehind_concat, behind?, if_pos rfl]
  rfl

/-- A relation that is there takes over the children that merge more. -/
theorem AreMerged.expand (h : AreMerged chains nodes) {next : Text} {rest : List Text}
    {old new : List SelectNode} (hold : childrenOf? segment nodes = some old)
    (hnew : AreMerged (allBehind segment chains) old →
      AreMerged (allBehind segment chains ++ [next :: rest]) new) :
    AreMerged (chains ++ [segment :: next :: rest]) (setChildren segment new nodes) := by
  obtain ⟨index, hmem⟩ := mem_of_childrenOf? hold
  have hbelow := hnew (merges_relation.1 (mergeAll_iff.1 h.below _ hmem))
  rw [← allBehind_concat_through] at hbelow
  have hdistinct : (nodes.map heading).Nodup := by
    rw [h.headings, namedBy]
    exact nodup_eraseDups _
  have hheading : (true, segment) ∈ namedBy chains := by
    rw [← h.headings]
    exact List.mem_map_of_mem hmem
  have hnamed : named? (segment :: next :: rest) = some (true, segment) := rfl
  refine ⟨?_, mergeAll_setChildren h.below hdistinct hold hbelow fun _ => behind?_of_ne⟩
  rw [map_heading_setChildren, namedBy_concat_of_mem hnamed hheading, h.headings]

/-- A relation that is not there is entered with the children of one chain. -/
theorem AreMerged.enter (h : AreMerged chains nodes) {next : Text} {rest : List Text}
    {children : List SelectNode} (hnone : childrenOf? segment nodes = none)
    (hchildren : AreMerged [next :: rest] children) (size : Nat) :
    AreMerged (chains ++ [segment :: next :: rest])
      (nodes ++ [relation size segment children]) := by
  have hnew : (relation size segment children).heading ∉ nodes.map heading :=
    not_mem_heading_of_relation hnone
  have hnothing : allBehind segment chains = [] := by
    refine allBehind_eq_nil ?_
    rw [← h.headings]
    exact hnew
  refine h.append rfl hnew (fun node hmem hrelation => behind?_of_ne fun heq => ?_) ?_
  · exact hnew (List.mem_map.2 ⟨node, hmem, Prod.ext hrelation heq⟩)
  · rw [merges_relation, allBehind_concat_through, hnothing]
    exact hchildren

end

/-- An inserted chain is merged with the others. -/
theorem AreMerged.insertChain {chains : List (List Text)} {nodes : List SelectNode}
    (h : AreMerged chains nodes) {chain : List Text} (hne : chain ≠ []) (size : Nat) :
    AreMerged (chains ++ [chain]) (SelectNode.insertChain chain size nodes).1 := by
  match chain with
  | [] => exact absurd rfl hne
  | [segment] => exact h.insertLeaf segment size
  | segment :: next :: rest =>
    rw [SelectNode.insertChain]
    split
    · rename_i children hchildren
      exact h.expand hchildren fun hmerged =>
        hmerged.insertChain (List.cons_ne_nil next rest) size
    · rename_i hnone
      exact h.enter hnone (areMerged_nil.insertChain (List.cons_ne_nil next rest) (size + 1)) size

end SelectNode

/-! ## 4. Trees of paths -/

/-- The chains that paths insert. -/
def declaredChains (paths : List Path) : List (List Text) :=
  (paths.filter fun path => !path.declaration.isEmpty).map fun path =>
    Text.splitOn '.' path.declaration

namespace SelectTree

open SelectNode

/-- The tree of a list of paths merges their chains. -/
theorem areMerged_ofPaths (paths : List Path) :
    AreMerged (declaredChains paths) (ofPaths paths).children := by
  suffices ∀ (chains : List (List Text)) (tree : SelectTree), AreMerged chains tree.children →
      AreMerged (chains ++ declaredChains paths) (paths.foldl insert tree).children from
    this [] {} areMerged_nil
  induction paths with
  | nil =>
    intro chains tree h
    rwa [declaredChains, List.filter_nil, List.map_nil, List.append_nil]
  | cons path rest ih =>
    intro chains tree h
    rw [List.foldl_cons]
    by_cases hempty : path.declaration.isEmpty
    · have hinsert : tree.insert path = tree := if_pos hempty
      have hchains : declaredChains (path :: rest) = declaredChains rest := by
        simp only [declaredChains, hempty, Bool.not_true, Bool.false_eq_true, not_false_eq_true,
          List.filter_cons_of_neg]
      rw [hinsert, hchains]
      exact ih chains tree h
    · have hchains : declaredChains (path :: rest) =
          Text.splitOn '.' path.declaration :: declaredChains rest := by
        simp only [declaredChains, hempty, Bool.not_false, List.filter_cons_of_pos,
          List.map_cons]
      have hinsert : (tree.insert path).children =
          (insertChain (Text.splitOn '.' path.declaration) tree.size tree.children).1 := by
        rw [insert, if_neg hempty]
      have hmerged := h.insertChain (Text.splitOn_ne_nil '.' path.declaration) tree.size
      rw [← hinsert] at hmerged
      have hrest := ih _ _ hmerged
      rwa [List.append_assoc, List.singleton_append, ← hchains] at hrest

end SelectTree
end QueryCache
