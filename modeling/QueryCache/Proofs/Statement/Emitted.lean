/-
QueryCache.Proofs.Statement.Emitted — what a tree without collisions
emits.

The visible part of a tree is what is left without its suppressed nodes.
When no two emitted siblings refer to one name, no node needs an alias,
whatever the policy is, and the tree emits its visible part as it stands
(`grouped_emitList`).  Every chain that the tree holds, unless it ends in
an aggregate, leads to a leaf of that part.
-/
import QueryCache.Proofs.Statement.Bare
import QueryCache.Proofs.Statement.Levels
import QueryCache.Statement.Build

namespace QueryCache.SelectNode

mutual

/-- A node as a bare entry, without what is suppressed below it. -/
def visibleOf : SelectNode → GroupedPath
  | leaf _ declaration => .leaf (.bare declaration)
  | relation _ declaration children => .nested (.bare declaration) (visible children)

/-- The nodes that are not suppressed, as bare entries. -/
def visible : List SelectNode → List GroupedPath
  | [] => []
  | node :: rest => if node.isSuppressed then visible rest else visibleOf node :: visible rest

end

theorem visible_eq (nodes : List SelectNode) :
    visible nodes = (nodes.filter fun node => !node.isSuppressed).map visibleOf := by
  induction nodes with
  | nil => rfl
  | cons node rest ih =>
    rw [visible, ih]
    rcases hnode : node.isSuppressed with _ | _ <;> simp [hnode]

theorem mem_visible {node : SelectNode} {nodes : List SelectNode} (h : node ∈ nodes)
    (hnode : node.isSuppressed = false) : visibleOf node ∈ visible nodes := by
  rw [visible_eq]
  exact List.mem_map_of_mem (List.mem_filter.2 ⟨h, by simp [hnode]⟩)

/-! ## 1. The visible part -/

theorem areSuppressed_iff {nodes : List SelectNode} :
    areSuppressed nodes = true ↔ visible nodes = [] := by
  rw [areSuppressed_eq_all, visible_eq, List.map_eq_nil_iff, List.filter_eq_nil_iff,
    List.all_eq_true]
  simp

/-- A plain leaf is suppressed only as an aggregate. -/
theorem isSuppressed_leaf {index : Nat} {segment : Text}
    (h : Segment.isPlain segment = true) :
    (leaf index segment).isSuppressed = Segment.isAggregate segment := by
  rw [isSuppressed, Segment.splitAlias_of_isPlain h]
  rfl

mutual

theorem isBare_visibleOf : (node : SelectNode) → node.IsPlain → node.isSuppressed = false →
    (visibleOf node).IsBare
  | leaf _ segment, h, _ => by
    rw [IsPlain] at h
    rw [visibleOf, GroupedPath.IsBare]
    exact ⟨h, rfl⟩
  | relation _ segment children, h, hvisible => by
    rw [IsPlain] at h
    rw [isSuppressed] at hvisible
    rw [visibleOf, GroupedPath.IsBare]
    refine ⟨⟨h.1, rfl⟩, ?_, areBare_visible children h.2.2⟩
    intro hnil
    rw [areSuppressed_iff.2 hnil] at hvisible
    contradiction

/-- The visible part of a plain tree is bare. -/
theorem areBare_visible : (nodes : List SelectNode) → ArePlain nodes →
    GroupedPath.AreBare (visible nodes)
  | [], _ => by rw [visible]; trivial
  | node :: rest, h => by
    rw [ArePlain] at h
    rw [visible]
    split
    · exact areBare_visible rest h.2
    · rename_i hnode
      rw [GroupedPath.AreBare]
      exact ⟨isBare_visibleOf node h.1 (by simpa using hnode), areBare_visible rest h.2⟩

end

/-- A chain that the nodes hold leads to a leaf of their visible part,
unless it ends in an aggregate. -/
theorem Holds.leadsTo {chain : List Text} {nodes : List SelectNode} (h : Holds chain nodes)
    (hnodes : ArePlain nodes)
    (hlast : ∀ segment ∈ chain.getLast?, Segment.isAggregate segment = false) :
    GroupedPath.LeadsTo chain (visible nodes) := by
  match chain with
  | [] => exact h.elim
  | [segment] =>
    obtain ⟨index, hmem⟩ := h
    have hplain := arePlain_iff.1 hnodes _ hmem
    rw [IsPlain] at hplain
    have hvisible : (leaf index segment).isSuppressed = false := by
      rw [isSuppressed_leaf hplain]
      exact hlast segment rfl
    have hentry := mem_visible hmem hvisible
    rw [visibleOf] at hentry
    exact ⟨_, hentry, rfl⟩
  | segment :: next :: rest =>
    obtain ⟨index, children, hmem, hbelow⟩ := h
    have hplain := arePlain_iff.1 hnodes _ hmem
    rw [IsPlain] at hplain
    have hleads := hbelow.leadsTo hplain.2.2 fun last hmem =>
      hlast last (by rwa [List.getLast?_cons_cons])
    have hvisible : (relation index segment children).isSuppressed = false := by
      rcases hsuppressed : (relation index segment children).isSuppressed with _ | _
      · rfl
      · rw [isSuppressed, areSuppressed_iff] at hsuppressed
        exact absurd hsuppressed hleads.ne_nil
    have hentry := mem_visible hmem hvisible
    rw [visibleOf] at hentry
    exact ⟨_, _, hentry, rfl, hleads⟩

/-! ## 2. Emission -/

theorem exists_emit (policy : DedupePolicy) (chain : EmitChain) (collides : Bool)
    (counter : Nat) (node : SelectNode) :
    ∃ grouped, (emit policy chain collides counter node).grouped = [grouped] ∧
      grouped.entry = (node.toEntry collides counter).1 := by
  cases node with
  | leaf index declaration =>
    rw [emit]
    exact ⟨_, rfl, rfl⟩
  | relation index declaration children =>
    rw [emit]
    exact ⟨_, rfl, rfl⟩

/-- The entries of a level refer to the names of its emitted nodes. -/
theorem map_name_emitList (policy : DedupePolicy) (chain : EmitChain)
    (collides : SelectNode → Bool) (counter : Nat) (nodes : List SelectNode) :
    (emitList policy chain collides counter nodes).grouped.map GroupedPath.name =
      (nodes.filter fun node => !node.isSuppressed).map name := by
  induction nodes generalizing counter with
  | nil => rfl
  | cons node rest ih =>
    rw [emitList]
    split
    · rename_i hnode
      rw [ih, List.filter_cons_of_neg (by simp [hnode])]
    · rename_i hnode
      obtain ⟨grouped, hgrouped, hentry⟩ := exists_emit policy chain (collides node) counter node
      have hname : grouped.name = node.name := by
        rw [GroupedPath.name, hentry]
        rfl
      rw [List.filter_cons_of_pos (by simp [hnode])]
      simp only [hgrouped, List.singleton_append, List.map_cons, ih, hname]

theorem heading_of_emit {policy : DedupePolicy} {chain : EmitChain} {collides : Bool}
    {counter : Nat} {node : SelectNode} {grouped : GroupedPath}
    (hnone : (Segment.splitAlias node.declaration).1 = none)
    (h : (emit policy chain collides counter node).grouped = [grouped]) :
    grouped.heading = node.heading := by
  have hpath : node.path = node.declaration := congrArg Prod.snd (Segment.splitAlias_of_none hnone)
  cases node with
  | leaf index declaration =>
    rw [emit, List.singleton_inj] at h
    rw [← h]
    exact congrArg (Prod.mk false) hpath
  | relation index declaration children =>
    rw [emit, List.singleton_inj] at h
    rw [← h]
    exact congrArg (Prod.mk true) hpath

/-- The entries of a level are of the kinds and the segments of its emitted
nodes. -/
theorem map_heading_emitList {policy : DedupePolicy} {chain : EmitChain}
    {collides : SelectNode → Bool} {counter : Nat} {nodes : List SelectNode}
    (hnone : ∀ node ∈ nodes, (Segment.splitAlias node.declaration).1 = none) :
    (emitList policy chain collides counter nodes).grouped.map GroupedPath.heading =
      (nodes.filter fun node => !node.isSuppressed).map heading := by
  induction nodes generalizing counter with
  | nil => rfl
  | cons node rest ih =>
    rw [emitList]
    split
    · rename_i hnode
      rw [ih fun other hmem => hnone other (List.mem_cons_of_mem _ hmem),
        List.filter_cons_of_neg (by simp [hnode])]
    · rename_i hnode
      obtain ⟨grouped, hgrouped, -⟩ := exists_emit policy chain (collides node) counter node
      rw [List.filter_cons_of_pos (by simp [hnode])]
      simp only [hgrouped, List.singleton_append, List.map_cons,
        heading_of_emit (hnone node List.mem_cons_self) hgrouped,
        ih fun other hmem => hnone other (List.mem_cons_of_mem _ hmem)]

/-- A level emits nothing when all its nodes are suppressed, and only
then. -/
theorem grouped_eq_nil_iff {policy : DedupePolicy} {chain : EmitChain}
    {collides : SelectNode → Bool} {counter : Nat} {nodes : List SelectNode} :
    (emitList policy chain collides counter nodes).grouped = [] ↔ areSuppressed nodes = true := by
  have hnames := map_name_emitList policy chain collides counter nodes
  rw [← List.map_eq_nil_iff, hnames, List.map_eq_nil_iff, List.filter_eq_nil_iff,
    areSuppressed_eq_all, List.all_eq_true]
  simp

/-- What is emitted declares something when the nodes do. -/
theorem declaration_ne_nil {policy : DedupePolicy} {chain : EmitChain}
    {collides : SelectNode → Bool} {counter : Nat} {nodes : List SelectNode}
    (hnodes : ∀ node ∈ nodes, node.path ≠ []) :
    ∀ grouped ∈ (emitList policy chain collides counter nodes).grouped,
      grouped.entry.declaration ≠ [] := by
  induction nodes generalizing counter with
  | nil => simp [emitList]
  | cons node rest ih =>
    have hrest : ∀ other ∈ rest, other.path ≠ [] := fun other hmem =>
      hnodes other (List.mem_cons_of_mem _ hmem)
    intro grouped hmem
    rw [emitList] at hmem
    split at hmem
    · exact ih hrest grouped hmem
    · obtain ⟨first, hfirst, hentry⟩ := exists_emit policy chain (collides node) counter node
      simp only [hfirst, List.singleton_append, List.mem_cons] at hmem
      rcases hmem with rfl | hmem
      · rw [hentry, toEntry]
        dsimp only
        split
        · simp
        · exact hnodes node List.mem_cons_self
      · exact ih hrest grouped hmem

theorem path_ne_nil_of_isPlain {node : SelectNode} (h : node.IsPlain) : node.path ≠ [] := by
  have hplain := isPlain_declaration h
  rw [path, Segment.splitAlias_of_isPlain hplain]
  exact Segment.ne_nil_of_isPlain hplain

/-- Emitted siblings without alias refer to distinct names. -/
def AreNamedOnce (siblings : List SelectNode) : Prop :=
  siblings.Pairwise fun node other => node.isSuppressed = false → other.isSuppressed = false →
    node.aliasName = none → other.aliasName = none → node.name ≠ other.name

theorem AreNamedOnce.length_group_le_one {siblings : List SelectNode} (h : AreNamedOnce siblings)
    (own : Text) : (group own siblings).length ≤ 1 := by
  have hnone : (group own siblings).Pairwise fun _ _ => False := by
    refine (h.sublist List.filter_sublist).imp_of_mem fun {node other} hmem hother hdiffer => ?_
    simp only [group, List.mem_filter, Bool.and_eq_true, Bool.not_eq_true', beq_iff_eq,
      Option.isNone_iff_eq_none] at hmem hother
    obtain ⟨-, ⟨hvisible, halias⟩, hname⟩ := hmem
    obtain ⟨-, ⟨hotherVisible, hotherAlias⟩, hotherName⟩ := hother
    exact hdiffer hvisible hotherVisible halias hotherAlias (hname.trans hotherName.symm)
  rcases hgroup : group own siblings with _ | ⟨first, _ | ⟨second, rest⟩⟩
  · simp
  · simp
  · rw [hgroup] at hnone
    exact ((List.pairwise_cons.1 hnone).1 second List.mem_cons_self).elim

/-- Among such siblings no node needs an alias. -/
theorem AreNamedOnce.needsAlias_eq_false {siblings : List SelectNode} (h : AreNamedOnce siblings)
    (policy : DedupePolicy) (node : SelectNode) : needsAlias policy siblings node = false := by
  have hfew : decide (1 < (group node.name siblings).length) = false := by
    simpa using h.length_group_le_one node.name
  simp only [needsAlias, hfew, Bool.and_false, Bool.false_and]

/-- No node needs an alias among siblings that are emitted under names of
their own. -/
theorem needsAlias_eq_false {policy : DedupePolicy} {chain : EmitChain}
    {collides : SelectNode → Bool} {counter : Nat} {siblings : List SelectNode}
    (h : GroupedPath.DistinctNamesOf (emitList policy chain collides counter siblings).grouped)
    (node : SelectNode) : needsAlias policy siblings node = false := by
  have hnodup : ((siblings.filter fun node => !node.isSuppressed).map name).Nodup := by
    rw [← map_name_emitList policy chain collides counter siblings]
    exact List.pairwise_map.2 (GroupedPath.pairwise_of_distinctNamesOf h)
  have honce : AreNamedOnce siblings := by
    refine (List.pairwise_filter.1 (List.pairwise_map.1 hnodup)).imp ?_
    intro node other hname hvisible hotherVisible _ _
    exact hname (by simp [hvisible]) (by simp [hotherVisible])
  exact honce.needsAlias_eq_false policy node

/-- Without a collision a plain node is emitted as it is. -/
theorem toEntry_false {node : SelectNode} (h : Segment.isPlain node.declaration = true)
    (counter : Nat) : (node.toEntry false counter).1 = .bare node.declaration := by
  simp only [toEntry, aliasName, path, Segment.splitAlias_of_isPlain h, Bool.false_eq_true,
    if_false]
  rfl

mutual

theorem grouped_emit (policy : DedupePolicy) (chain : EmitChain) (counter : Nat) :
    (node : SelectNode) → node.IsPlain →
    (∀ grouped ∈ (emit policy chain false counter node).grouped, grouped.DistinctNames) →
    (emit policy chain false counter node).grouped = [visibleOf node]
  | leaf index segment, h, _ => by
    rw [IsPlain] at h
    rw [emit, visibleOf]
    simp only [@toEntry_false (leaf index segment) h counter]
    rfl
  | relation index segment children, h, hdistinct => by
    rw [IsPlain] at h
    rw [emit] at hdistinct ⊢
    simp only [@toEntry_false (relation index segment children) h.1 counter,
      List.mem_singleton, forall_eq, GroupedPath.DistinctNames] at hdistinct ⊢
    rw [visibleOf, grouped_emitList policy _ _ _ children h.2.2
      (fun node _ => needsAlias_eq_false hdistinct node) hdistinct]
    rfl

/-- Nodes that do not collide are emitted as their visible part. -/
theorem grouped_emitList (policy : DedupePolicy) (chain : EmitChain)
    (collides : SelectNode → Bool) (counter : Nat) : (nodes : List SelectNode) →
    ArePlain nodes → (∀ node ∈ nodes, collides node = false) →
    GroupedPath.DistinctNamesOf (emitList policy chain collides counter nodes).grouped →
    (emitList policy chain collides counter nodes).grouped = visible nodes
  | [], _, _, _ => by rw [emitList, visible]
  | node :: rest, h, hcollides, hdistinct => by
    rw [ArePlain] at h
    rw [emitList] at hdistinct ⊢
    rw [visible]
    split
    · rename_i hnode
      rw [if_pos hnode] at hdistinct
      exact grouped_emitList policy chain collides counter rest h.2
        (fun other hmem => hcollides other (List.mem_cons_of_mem _ hmem)) hdistinct
    · rename_i hnode
      rw [if_neg hnode] at hdistinct
      have hcollides' := hcollides node List.mem_cons_self
      simp only [hcollides'] at hdistinct ⊢
      have hparts := GroupedPath.distinctNamesOf_append hdistinct
      rw [grouped_emit policy chain counter node h.1 fun grouped hmem =>
          GroupedPath.distinctNames_of_mem hparts.1 hmem,
        grouped_emitList policy chain collides _ rest h.2
          (fun other hmem => hcollides other (List.mem_cons_of_mem _ hmem)) hparts.2]
      rfl

end

end QueryCache.SelectNode
