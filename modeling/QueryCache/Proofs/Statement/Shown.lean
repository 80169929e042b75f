/-
QueryCache.Proofs.Statement.Shown — the visible part of a tree determines
its statement.

What a node is emitted as depends on its segment, on the number of the next
alias, and on whether it collides; and whether it collides depends on the
kinds and segments of the emitted nodes of its level alone
(`Placed.collides_congr`).  Suppressed nodes and the ages of nodes do not
matter.  So trees with the same visible part emit the same
(`emitList_congr`), and the paths from which they grew have one statement
(`buildStatement_eq_of_visible`).
-/
import QueryCache.Proofs.Statement.Numbered

namespace QueryCache

/-! ## 1. Collisions -/

namespace Placed

open SelectNode (heading)

theorem map_heading_namesakes (place : Placed) :
    place.namesakes.map heading = (place.siblings.map heading).filter fun other =>
      (Segment.splitAlias other.2).1.isNone &&
        Segment.bareName (Segment.splitAlias other.2).2 == place.node.name := by
  rw [List.filter_map]
  rfl

theorem map_heading_picked? (policy : DedupePolicy) (place : Placed) :
    (place.picked? policy).map heading =
      (policy ((place.namesakes.map heading).map fun other =>
        ⟨other.2, Segment.isHinted (Segment.splitAlias other.2).2, other.1⟩)).bind
          fun position => (place.namesakes.map heading)[position]? := by
  rw [picked?, List.map_map, Option.map_bind]
  simp only [List.getElem?_map]
  rfl

variable {policy : DedupePolicy} {depth level : Nat} {siblings others : List SelectNode}
  {node other : SelectNode} (hsiblings : siblings.map heading = others.map heading)
  (hnode : node.heading = other.heading)
include hsiblings hnode

theorem Collides.congr (h : Collides policy ⟨depth, siblings, node⟩) :
    Collides policy ⟨level, others, other⟩ := by
  have hdeclaration : node.declaration = other.declaration := congrArg Prod.snd hnode
  have halias : node.aliasName = other.aliasName := by
    rw [SelectNode.aliasName, SelectNode.aliasName, hdeclaration]
  have hname : node.name = other.name := by
    rw [SelectNode.name, SelectNode.path, SelectNode.name, SelectNode.path, hdeclaration]
  have hnamesakes : (Placed.namesakes ⟨depth, siblings, node⟩).map heading =
      (Placed.namesakes ⟨level, others, other⟩).map heading := by
    rw [map_heading_namesakes, map_heading_namesakes, hsiblings, hname]
  constructor
  case bare => exact halias ▸ h.bare
  case shared =>
    obtain ⟨found, hfound, hdiffers, hbare, hshared⟩ := h.shared
    obtain ⟨same, hsame, hheading⟩ : ∃ same ∈ others, same.heading = found.heading :=
      List.mem_map.1 (hsiblings ▸ List.mem_map_of_mem hfound)
    have hsameDeclaration : same.declaration = found.declaration := congrArg Prod.snd hheading
    refine ⟨same, hsame, ?_, ?_, ?_⟩
    · rw [hheading, ← hnode]
      exact hdiffers
    · rw [SelectNode.aliasName, hsameDeclaration]
      exact hbare
    · rw [← hname, SelectNode.name, SelectNode.path, hsameDeclaration]
      exact hshared
  case passedOver =>
    rw [map_heading_picked?, ← hnamesakes, ← hnode, ← map_heading_picked?]
    exact h.passedOver

/-- Whether a node collides depends on its heading and on those of the emitted
nodes of its level. -/
theorem collides_congr :
    Collides policy ⟨depth, siblings, node⟩ ↔ Collides policy ⟨level, others, other⟩ :=
  ⟨Collides.congr hsiblings hnode, Collides.congr hsiblings.symm hnode.symm⟩

end Placed

namespace SelectNode

/-! ## 2. Emission -/

theorem visible_eq_map_emitted (nodes : List SelectNode) :
    visible nodes = (emitted nodes).map visibleOf :=
  visible_eq nodes

theorem mem_emitted_iff {node : SelectNode} {nodes : List SelectNode} :
    node ∈ emitted nodes ↔ node ∈ nodes ∧ node.isSuppressed = false := by
  simp [emitted]

theorem heading_visibleOf (node : SelectNode) : (visibleOf node).heading = node.heading := by
  cases node <;> rw [visibleOf] <;> rfl

/-- The visible part of a node tells its heading. -/
theorem heading_of_visibleOf {node other : SelectNode} (h : visibleOf node = visibleOf other) :
    node.heading = other.heading := by
  rw [← heading_visibleOf, h, heading_visibleOf]

/-- The visible part of a level tells the headings of its emitted nodes. -/
theorem map_heading_emitted (nodes : List SelectNode) :
    (emitted nodes).map heading = (visible nodes).map GroupedPath.heading := by
  rw [visible_eq_map_emitted, List.map_map]
  exact List.map_congr_left fun node _ => (heading_visibleOf node).symm

theorem emitList_emitted (policy : DedupePolicy) (chain : EmitChain)
    (collides : SelectNode → Bool) (counter : Nat) (nodes : List SelectNode) :
    emitList policy chain collides counter (emitted nodes) =
      emitList policy chain collides counter nodes := by
  induction nodes generalizing counter with
  | nil => rfl
  | cons node rest ih =>
    rw [emitted] at ih ⊢
    rcases hnode : node.isSuppressed with _ | _
    · rw [List.filter_cons_of_pos (by simp [hnode]), emitList, emitList, hnode]
      simp only [Bool.false_eq_true, if_false, ih]
    · rw [List.filter_cons_of_neg (by simp [hnode]), emitList, hnode, if_pos rfl, ih]

section

variable {p : Bool → Text → Prop} {size more : Nat}

theorem areOrderly_emitted {nodes : List SelectNode} (h : AreOrderly p size nodes) :
    AreOrderly p size (emitted nodes) :=
  areOrderly_iff.2 fun node hmem => areOrderly_iff.1 h node (mem_emitted_iff.1 hmem).1

/-- Levels with the same visible part have the same collisions. -/
theorem needsAlias_congr (policy : DedupePolicy) {nodes others : List SelectNode}
    (hlevel : IsLevel p size nodes) (hothers : IsLevel p more others)
    (h : visible nodes = visible others) :
    ∀ node ∈ nodes, ∀ other ∈ emitted others, node.isSuppressed = false →
      visibleOf node = visibleOf other →
      needsAlias policy nodes node = needsAlias policy others other := by
  intro node hmem other hother hvisible hsame
  obtain ⟨hother, hotherVisible⟩ := mem_emitted_iff.1 hother
  have hheadings : (emitted nodes).map heading = (emitted others).map heading := by
    rw [map_heading_emitted, map_heading_emitted, h]
  rw [needsAlias_eq hlevel hmem hvisible policy 0,
    needsAlias_eq hothers hother hotherVisible policy 0]
  exact decide_eq_decide.2 (Placed.collides_congr hheadings (heading_of_visibleOf hsame))

mutual

/-- Nodes with the same visible part are emitted alike. -/
theorem emit_congr (policy : DedupePolicy) (chain : EmitChain) (collides : Bool)
    (counter : Nat) : (node : SelectNode) → IsOrderly p size node → (other : SelectNode) →
    IsOrderly p more other → visibleOf node = visibleOf other →
    emit policy chain collides counter node = emit policy chain collides counter other
  | leaf index declaration, _, leaf otherIndex otherDeclaration, _, h => by
    obtain rfl : declaration = otherDeclaration := congrArg Prod.snd (heading_of_visibleOf h)
    rw [emit, emit]
    rfl
  | leaf _ _, _, relation _ _ _, _, h => by simp [visibleOf] at h
  | relation _ _ _, _, leaf _ _, _, h => by simp [visibleOf] at h
  | relation index declaration children, horderly, relation otherIndex otherDeclaration others,
      hothers, h => by
    obtain rfl : declaration = otherDeclaration := congrArg Prod.snd (heading_of_visibleOf h)
    rw [visibleOf, visibleOf, GroupedPath.nested.injEq] at h
    rw [IsOrderly] at horderly hothers
    have hbelow : ∀ chain counter,
        emitList policy chain (needsAlias policy children) counter children =
          emitList policy chain (needsAlias policy others) counter others := by
      intro chain counter
      rw [← emitList_emitted policy chain (needsAlias policy others)]
      exact emitList_congr policy chain counter children horderly.2 (emitted others)
        (areOrderly_emitted hothers.2) (fun other hmem => (mem_emitted_iff.1 hmem).2)
        (h.2.trans (visible_eq_map_emitted others))
        (needsAlias_congr policy horderly.1 hothers.1 h.2)
    rw [emit, emit]
    simp only [toEntry, aliasName, path, name, SelectNode.declaration, hbelow]

/-- A level is emitted like the nodes of another one that are seen of it. -/
theorem emitList_congr (policy : DedupePolicy) (chain : EmitChain) (counter : Nat)
    {collides otherCollides : SelectNode → Bool} : (nodes : List SelectNode) →
    AreOrderly p size nodes → (others : List SelectNode) → AreOrderly p more others →
    (∀ other ∈ others, other.isSuppressed = false) → visible nodes = others.map visibleOf →
    (∀ node ∈ nodes, ∀ other ∈ others, node.isSuppressed = false →
      visibleOf node = visibleOf other → collides node = otherCollides other) →
    emitList policy chain collides counter nodes =
      emitList policy chain otherCollides counter others
  | [], _, others, _, _, h, _ => by
    rw [visible] at h
    rw [List.map_eq_nil_iff.1 h.symm, emitList, emitList]
  | node :: rest, horderly, others, hothers, hshown, h, hcollides => by
    rw [AreOrderly] at horderly
    have hrest : ∀ found ∈ rest, ∀ other ∈ others, found.isSuppressed = false →
        visibleOf found = visibleOf other → collides found = otherCollides other :=
      fun found hfound => hcollides found (List.mem_cons_of_mem _ hfound)
    rw [visible] at h
    rw [emitList]
    split
    · rename_i hnode
      rw [if_pos hnode] at h
      exact emitList_congr policy chain counter rest horderly.2 others hothers hshown h hrest
    · rename_i hnode
      rw [if_neg hnode] at h
      rcases others with _ | ⟨other, others⟩
      · simp at h
      · obtain ⟨hsame, h⟩ := List.cons.inj h
        rw [AreOrderly] at hothers
        have hother := hshown other List.mem_cons_self
        rw [emitList, hother, if_neg Bool.false_ne_true,
          hcollides node List.mem_cons_self other List.mem_cons_self (by simpa using hnode) hsame,
          emit_congr policy chain (otherCollides other) counter node horderly.1 other hothers.1
            hsame]
        simp only [emitList_congr policy chain _ rest horderly.2 others hothers.2
          (fun one hone => hshown one (List.mem_cons_of_mem _ hone)) h fun found hfound one hone =>
            hrest found hfound one (List.mem_cons_of_mem _ hone)]

end

end

end SelectNode

/-! ## 3. Statements -/

/-- Paths whose trees have the same visible part have the same statement. -/
theorem buildStatement_eq_of_visible {paths others : List Path}
    (h : SelectNode.visible (SelectTree.ofPaths paths).children =
      SelectNode.visible (SelectTree.ofPaths others).children) (policy : DedupePolicy) :
    buildStatement paths policy = buildStatement others policy := by
  have hdeclared : ∀ paths : List Path, ∀ path ∈ paths, SelectNode.IsDeclaredChain
      (fun _ _ => True) (Text.splitOn '.' path.declaration) := fun _ _ _ =>
    SelectNode.isDeclaredChain_of_forall (Text.splitOn_ne_nil _ _) fun _ _ _ => trivial
  obtain ⟨hlevel, horderly⟩ := SelectTree.ofPaths_declared (hdeclared paths)
  obtain ⟨hotherLevel, hotherOrderly⟩ := SelectTree.ofPaths_declared (hdeclared others)
  have hemitted := SelectNode.emitList_congr policy {} 0 _ horderly _
    (SelectNode.areOrderly_emitted hotherOrderly)
    (fun other hmem => (SelectNode.mem_emitted_iff.1 hmem).2)
    (h.trans (SelectNode.visible_eq_map_emitted _))
    (SelectNode.needsAlias_congr policy hlevel hotherLevel h)
  rw [SelectNode.emitList_emitted] at hemitted
  unfold buildStatement SelectTree.toStatement
  rw [hemitted]

end QueryCache
