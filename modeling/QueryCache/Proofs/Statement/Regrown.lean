/-
QueryCache.Proofs.Statement.Regrown — a tree grown again from the leaves
that it shows.

Without aliases a tree shows the leaves that select values
(`SelectNode.valueChains`).  Read in their order, these name the emitted
nodes of each level in theirs (`namedBy_valueChains`), and behind a relation
they are those of its children (`allBehind_valueChains`).  So a tree that
merges them has the visible part of the first one (`visible_of_areMerged`);
and aggregates that are inserted behind them are never seen
(`visible_insertChain`).
-/
import QueryCache.Proofs.Statement.Leaves
import QueryCache.Proofs.Statement.Shown

namespace QueryCache

/-- What is mentioned several times in a row and not again counts once. -/
theorem eraseDups_block {α : Type} [BEq α] [LawfulBEq α] {a : α} {block rest : List α}
    (hne : block ≠ []) (hblock : ∀ b ∈ block, b = a) (hrest : a ∉ rest) :
    (block ++ rest).eraseDups = a :: rest.eraseDups := by
  obtain ⟨first, more, rfl⟩ := List.exists_cons_of_ne_nil hne
  obtain rfl := hblock first List.mem_cons_self
  have hmore : more.filter (fun b => !b == first) = [] := by
    rw [List.filter_eq_nil_iff]
    intro b hb
    simp [hblock b (List.mem_cons_of_mem _ hb)]
  have hothers : rest.filter (fun b => !b == first) = rest := by
    rw [List.filter_eq_self]
    intro b hb
    have hne : b ≠ first := fun heq => hrest (heq ▸ hb)
    simp [hne]
  rw [List.cons_append, List.eraseDups_cons, List.filter_append, hmore, hothers, List.nil_append]

namespace SelectNode

/-! ## 1. Chains to values -/

/-- The chains that lead to leaves that select values. -/
def valueChains (nodes : List SelectNode) : List (List Text) :=
  (leafChainsOf nodes).filter (SelectsValue ·)

theorem valueChains_cons (node : SelectNode) (rest : List SelectNode) :
    valueChains (node :: rest) =
      (leafChains node).filter (SelectsValue ·) ++ valueChains rest := by
  rw [valueChains, leafChainsOf, List.filter_append, valueChains]

theorem valueChains_append (front back : List SelectNode) :
    valueChains (front ++ back) = valueChains front ++ valueChains back := by
  induction front with
  | nil => rfl
  | cons node rest ih => rw [List.cons_append, valueChains_cons, valueChains_cons, ih,
      List.append_assoc]

theorem named?_eq {chain : List Text} (hne : chain ≠ []) :
    named? chain = some (decide (1 < chain.length), chain.head?.getD []) := by
  rcases chain with _ | ⟨segment, _ | ⟨next, rest⟩⟩
  · contradiction
  · rfl
  · simp [named?]

/-- A chain to a leaf names the node through which it leads. -/
theorem named?_of_mem_leafChains {chain : List Text} {node : SelectNode}
    (h : chain ∈ leafChains node) : named? chain = some node.heading := by
  rw [heading_of_mem_leafChains h, named?_eq (ne_nil_of_mem_leafChains h)]

/-- It says nothing behind other nodes. -/
theorem behind?_of_mem_leafChains {chain : List Text} {node : SelectNode} {segment : Text}
    (h : chain ∈ leafChains node) (hne : node.heading ≠ (true, segment)) :
    behind? segment chain = none := by
  have hnamed := named?_of_mem_leafChains h
  unfold behind?
  split
  · rename_i first next rest
    rw [if_neg]
    rintro rfl
    exact hne (Option.some.inj hnamed).symm
  · rfl

theorem exists_node_of_mem_valueChains {chain : List Text} {nodes : List SelectNode}
    (h : chain ∈ valueChains nodes) : ∃ node ∈ nodes, chain ∈ leafChains node :=
  mem_leafChainsOf.1 (List.mem_filter.1 h).1

section

variable {p : Bool → Text → Prop} {size : Nat} {nodes : List SelectNode}

/-- In their order they name the emitted nodes. -/
theorem namedBy_valueChains (hp : DeclaresNoAlias p)
    (hdeclared : ∀ node ∈ nodes, p node.isRelation node.declaration)
    (horderly : AreOrderly p size nodes) (hdistinct : (nodes.map heading).Nodup) :
    namedBy (valueChains nodes) = (emitted nodes).map heading := by
  induction nodes with
  | nil => rfl
  | cons node rest ih =>
    rw [AreOrderly] at horderly
    rw [List.map_cons, List.nodup_cons] at hdistinct
    have hrest := ih (fun other hmem => hdeclared other (List.mem_cons_of_mem _ hmem)) horderly.2
      hdistinct.2
    have hempty := isSuppressed_iff hp node (hdeclared node List.mem_cons_self) horderly.1
    rw [valueChains_cons]
    by_cases hnode : node.isSuppressed = true
    · have hemitted : emitted (node :: rest) = emitted rest :=
        List.filter_cons_of_neg (by simp [hnode])
      rw [hempty.1 hnode, List.nil_append, hrest, hemitted]
    · have hemitted : emitted (node :: rest) = node :: emitted rest :=
        List.filter_cons_of_pos (by simp [hnode])
      have hnamed : ∀ chain ∈ (leafChains node).filter (SelectsValue ·),
          named? chain = some node.heading := fun chain hchain =>
        named?_of_mem_leafChains (List.mem_filter.1 hchain).1
      have hothers : node.heading ∉ (valueChains rest).filterMap named? := by
        intro hmem
        obtain ⟨chain, hchain, hname⟩ := List.mem_filterMap.1 hmem
        obtain ⟨other, hother, hleaf⟩ := exists_node_of_mem_valueChains hchain
        rw [named?_of_mem_leafChains hleaf] at hname
        exact hdistinct.1 (List.mem_map.2 ⟨other, hother, Option.some.inj hname⟩)
      rw [namedBy] at hrest ⊢
      rw [List.filterMap_append, eraseDups_block ?_ ?_ hothers, hrest, hemitted, List.map_cons]
      · obtain ⟨chain, hchain⟩ := List.exists_mem_of_ne_nil _ fun hnil => hnode (hempty.2 hnil)
        exact List.ne_nil_of_mem (List.mem_filterMap.2 ⟨chain, hchain, hnamed chain hchain⟩)
      · intro heading hmem
        obtain ⟨chain, hchain, hname⟩ := List.mem_filterMap.1 hmem
        rw [hnamed chain hchain] at hname
        exact (Option.some.inj hname).symm

/-- Behind a relation they are those of its children. -/
theorem allBehind_valueChains (hdistinct : (nodes.map heading).Nodup) {index : Nat}
    {segment : Text} {children : List SelectNode} (hmem : relation index segment children ∈ nodes) :
    allBehind segment (valueChains nodes) = valueChains children := by
  have hown : allBehind segment
      ((leafChains (relation index segment children)).filter (SelectsValue ·)) =
        valueChains children := by
    rw [filter_leafChains_relation, allBehind, List.filterMap_map]
    refine (List.filterMap_congr fun chain hchain => ?_).trans List.filterMap_some
    obtain ⟨node, -, hleaf⟩ := exists_node_of_mem_valueChains hchain
    obtain ⟨next, rest, rfl⟩ := List.exists_cons_of_ne_nil (ne_nil_of_mem_leafChains hleaf)
    exact if_pos rfl
  have hothers : ∀ others : List SelectNode, (true, segment) ∉ others.map heading →
      allBehind segment (valueChains others) = [] := by
    intro others hnone
    rw [allBehind, List.filterMap_eq_nil_iff]
    intro chain hchain
    obtain ⟨other, hother, hleaf⟩ := exists_node_of_mem_valueChains hchain
    exact behind?_of_mem_leafChains hleaf fun heq => hnone (heq ▸ List.mem_map_of_mem hother)
  obtain ⟨front, back, rfl⟩ := List.append_of_mem hmem
  rw [List.map_append, List.map_cons, List.nodup_append] at hdistinct
  obtain ⟨-, hback, hfront⟩ := hdistinct
  rw [valueChains_append, valueChains_cons]
  simp only [allBehind, List.filterMap_append] at hown hothers ⊢
  rw [hown, hothers front fun hin => hfront _ hin _ List.mem_cons_self rfl,
    hothers back (List.nodup_cons.1 hback).1, List.nil_append, List.append_nil]

/-! ## 2. Merging them again -/

mutual

/-- A node of which an emitted one is regrown shows the same. -/
theorem visibleOf_of_merges (hp : DeclaresNoAlias p) {chains : List (List Text)} :
    (node : SelectNode) → IsOrderly p size node → node.isSuppressed = false →
    (∀ index segment children, node = relation index segment children →
      allBehind segment chains = valueChains children) →
    (other : SelectNode) → other.heading = node.heading → Merges chains other →
    other.isSuppressed = false ∧ visibleOf other = visibleOf node
  | leaf index segment, _, hvisible, _, other, hheading, _ => by
    cases other with
    | leaf otherIndex declaration =>
      obtain rfl : declaration = segment := congrArg Prod.snd hheading
      rw [isSuppressed] at hvisible ⊢
      exact ⟨hvisible, by rw [visibleOf, visibleOf]⟩
    | relation otherIndex declaration children => simp [heading, isRelation] at hheading
  | relation index segment children, horderly, hvisible, hbehind, other, hheading, hmerges => by
    cases other with
    | leaf otherIndex declaration => simp [heading, isRelation] at hheading
    | relation otherIndex declaration others =>
      obtain rfl : declaration = segment := congrArg Prod.snd hheading
      rw [IsOrderly] at horderly
      rw [merges_relation, hbehind index declaration children rfl] at hmerges
      have hchildren := visible_of_areMerged hp children horderly.1 horderly.2 hmerges
      rw [isSuppressed, ← Bool.not_eq_true, areSuppressed_iff] at hvisible ⊢
      rw [visibleOf, visibleOf, hchildren]
      exact ⟨hvisible, rfl⟩

theorem visible_of_mergeAll (hp : DeclaresNoAlias p) {chains : List (List Text)} :
    (nodes : List SelectNode) → AreOrderly p size nodes →
    (∀ index segment children, relation index segment children ∈ nodes →
      allBehind segment chains = valueChains children) →
    (others : List SelectNode) → others.map heading = (emitted nodes).map heading →
    MergeAll chains others → visible others = visible nodes
  | [], _, _, others, hheadings, _ => by
    rw [List.map_eq_nil_iff.1 hheadings]
  | node :: rest, horderly, hbehind, others, hheadings, hmerges => by
    rw [AreOrderly] at horderly
    have hrest : ∀ index segment children, relation index segment children ∈ rest →
        allBehind segment chains = valueChains children := fun index segment children hmem =>
      hbehind index segment children (List.mem_cons_of_mem _ hmem)
    rw [visible]
    rcases hnode : node.isSuppressed with _ | _
    · rw [emitted, List.filter_cons_of_pos (by simp [hnode]), ← emitted] at hheadings
      obtain ⟨other, more, rfl, hheading, hmore⟩ := List.map_eq_cons_iff.1 hheadings
      rw [MergeAll] at hmerges
      obtain ⟨hother, hsame⟩ := visibleOf_of_merges hp node horderly.1 hnode
        (fun index segment children heq =>
          hbehind index segment children (heq ▸ List.mem_cons_self)) other hheading hmerges.1
      rw [if_neg Bool.false_ne_true, visible, hother, if_neg Bool.false_ne_true, hsame,
        visible_of_mergeAll hp rest horderly.2 hrest more hmore hmerges.2]
    · rw [emitted, List.filter_cons_of_neg (by simp [hnode]), ← emitted] at hheadings
      rw [if_pos rfl]
      exact visible_of_mergeAll hp rest horderly.2 hrest others hheadings hmerges

/-- What merges the chains to the values of a tree shows what the tree
shows. -/
theorem visible_of_areMerged (hp : DeclaresNoAlias p) (nodes : List SelectNode)
    (hlevel : IsLevel p size nodes) (horderly : AreOrderly p size nodes) {others : List SelectNode}
    (h : AreMerged (valueChains nodes) others) : visible others = visible nodes :=
  visible_of_mergeAll hp nodes horderly
    (fun _ _ _ hmem => allBehind_valueChains hlevel.distinct hmem) others
    (h.headings.trans (namedBy_valueChains hp hlevel.declared horderly hlevel.distinct)) h.below

end

end

/-! ## 3. Aggregates behind them -/

theorem visible_append (front back : List SelectNode) :
    visible (front ++ back) = visible front ++ visible back := by
  simp only [visible_eq, List.filter_append, List.map_append]

/-- A suppressed node behind others is not seen. -/
theorem visible_append_suppressed {nodes : List SelectNode} {node : SelectNode}
    (h : node.isSuppressed = true) : visible (nodes ++ [node]) = visible nodes := by
  rw [visible_append, visible, if_pos h, visible, List.append_nil]

/-- Children that show the same as the old ones change nothing. -/
theorem visible_setChildren {segment : Text} {nodes old new : List SelectNode}
    (hold : childrenOf? segment nodes = some old) (h : visible new = visible old) :
    visible (setChildren segment new nodes) = visible nodes := by
  induction nodes with
  | nil => rfl
  | cons node rest ih =>
    cases node with
    | leaf index declaration =>
      rw [childrenOf?] at hold
      rw [setChildren, visible, visible, ih hold]
    | relation index declaration children =>
      rw [childrenOf?] at hold
      rw [setChildren]
      split at hold
      · rename_i hsegment
        obtain rfl := Option.some.inj hold
        have hsuppressed : areSuppressed new = areSuppressed children := by
          rw [Bool.eq_iff_iff, areSuppressed_iff, areSuppressed_iff, h]
        rw [if_pos hsegment]
        rw [visible, visible, isSuppressed, isSuppressed, hsuppressed, visibleOf, visibleOf, h]
      · rename_i hsegment
        rw [if_neg hsegment, visible, visible, ih hold]

/-- An inserted aggregate without alias is never seen. -/
theorem visible_insertChain {chain : List Text} (hvalue : ¬ SelectsValue chain)
    (halias : ∀ segment ∈ chain, (Segment.splitAlias segment).1 = none) (size : Nat)
    (nodes : List SelectNode) : visible (insertChain chain size nodes).1 = visible nodes := by
  match chain with
  | [] => rw [insertChain]
  | [segment] =>
    have haggregate : Segment.isAggregate segment = true := by
      rw [SelectsValue] at hvalue
      simpa using hvalue
    rw [insertChain]
    split
    · rfl
    · refine visible_append_suppressed ?_
      rw [isSuppressed, Segment.splitAlias_of_none (halias segment List.mem_cons_self), haggregate]
      rfl
  | segment :: next :: rest =>
    rw [selectsValue_cons segment (List.cons_ne_nil next rest)] at hvalue
    have hbelow := visible_insertChain hvalue fun other hmem =>
      halias other (List.mem_cons_of_mem _ hmem)
    rw [insertChain]
    split
    · rename_i children hchildren
      exact visible_setChildren hchildren (hbelow size children)
    · refine visible_append_suppressed ?_
      rw [isSuppressed, areSuppressed_iff]
      exact hbelow (size + 1) []

end SelectNode

/-- Aggregates without aliases behind other paths are never seen. -/
theorem SelectTree.visible_ofPaths_append {paths extras : List Path}
    (h : ∀ path ∈ extras, path.declaration.IsCanonicalPath ∧
      ¬ SelectsValue (Text.splitOn '.' path.declaration)) :
    SelectNode.visible (ofPaths (paths ++ extras)).children =
      SelectNode.visible (ofPaths paths).children := by
  rw [ofPaths, List.foldl_append, ← ofPaths]
  generalize ofPaths paths = tree
  induction extras generalizing tree with
  | nil => rfl
  | cons path rest ih =>
    obtain ⟨hcanonical, hvalue⟩ := h path List.mem_cons_self
    have hdeclared : path.declaration.isEmpty = false := by simpa using hcanonical.ne_nil
    rw [List.foldl_cons, ih fun other hmem => h other (List.mem_cons_of_mem _ hmem)]
    simp only [insert, hdeclared, Bool.false_eq_true, if_false]
    exact SelectNode.visible_insertChain hvalue (fun segment hmem => (hcanonical segment hmem).2)
      _ _

end QueryCache
