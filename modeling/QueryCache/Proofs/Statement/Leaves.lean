/-
QueryCache.Proofs.Statement.Leaves — the leaves of trees and of statements.

A chain of segments leads to a leaf of a tree when the tree holds it
(`mem_leafChainsOf_iff`), and no chain leads to two leaves when the levels
are orderly (`nodup_leafChainsOf`).  A tree of paths holds the chains that
were inserted and no others (`SelectTree.holds_ofPaths_iff`).  Without
aliases it emits the leaves that are no aggregates, each at its own chain
(`leafChainsOf_emitList`), whatever collides.  So the statement of canonical
paths has the paths that are no aggregates as its leaves, each once
(`mem_leafPaths_iff`, `nodup_leafPaths`).
-/
import QueryCache.Proofs.Select.Canonical
import QueryCache.Proofs.Statement.Emitted
import QueryCache.Proofs.Statement.Levels

namespace QueryCache

namespace SelectNode

/-! ## 1. Leaves of a tree -/

mutual

/-- The chains of segments that lead to the leaves of a node. -/
def leafChains : SelectNode → List (List Text)
  | leaf _ declaration => [[declaration]]
  | relation _ declaration children => (leafChainsOf children).map (declaration :: ·)

/-- Those that lead to the leaves of nodes side by side. -/
def leafChainsOf : List SelectNode → List (List Text)
  | [] => []
  | node :: rest => leafChains node ++ leafChainsOf rest

end

theorem mem_leafChainsOf {chain : List Text} {nodes : List SelectNode} :
    chain ∈ leafChainsOf nodes ↔ ∃ node ∈ nodes, chain ∈ leafChains node := by
  induction nodes with
  | nil => simp [leafChainsOf]
  | cons node rest ih => simp [leafChainsOf, ih]

theorem ne_nil_of_mem_leafChains {chain : List Text} {node : SelectNode}
    (h : chain ∈ leafChains node) : chain ≠ [] := by
  cases node with
  | leaf index declaration =>
    rw [leafChains] at h
    simp_all
  | relation index declaration children =>
    rw [leafChains] at h
    obtain ⟨rest, -, rfl⟩ := List.mem_map.1 h
    exact List.cons_ne_nil _ _

/-- A chain tells the heading of the node that it leads through. -/
theorem heading_of_mem_leafChains {chain : List Text} {node : SelectNode}
    (h : chain ∈ leafChains node) :
    node.heading = (decide (1 < chain.length), chain.head?.getD []) := by
  cases node with
  | leaf index declaration =>
    rw [leafChains, List.mem_singleton] at h
    rw [h]
    rfl
  | relation index declaration children =>
    rw [leafChains] at h
    obtain ⟨rest, hrest, rfl⟩ := List.mem_map.1 h
    obtain ⟨node, -, hmem⟩ := mem_leafChainsOf.1 hrest
    have hlong : 1 < (declaration :: rest).length := by
      simpa using List.length_pos_iff.2 (ne_nil_of_mem_leafChains hmem)
    rw [decide_eq_true hlong]
    rfl

/-- The chains that lead to leaves are those that the nodes hold. -/
theorem mem_leafChainsOf_iff {chain : List Text} {nodes : List SelectNode} :
    chain ∈ leafChainsOf nodes ↔ Holds chain nodes := by
  rw [mem_leafChainsOf]
  match chain with
  | [] =>
    refine iff_of_false ?_ id
    rintro ⟨node, -, hmem⟩
    exact ne_nil_of_mem_leafChains hmem rfl
  | [segment] =>
    constructor
    · rintro ⟨node, hnode, hmem⟩
      cases node with
      | leaf index declaration =>
        rw [leafChains, List.mem_singleton, List.singleton_inj] at hmem
        exact ⟨index, hmem ▸ hnode⟩
      | relation index declaration children =>
        have hheading := heading_of_mem_leafChains hmem
        simp [heading, isRelation] at hheading
    · rintro ⟨index, hmem⟩
      exact ⟨_, hmem, by rw [leafChains, List.mem_singleton]⟩
  | segment :: next :: rest =>
    constructor
    · rintro ⟨node, hnode, hmem⟩
      cases node with
      | leaf index declaration =>
        have hheading := heading_of_mem_leafChains hmem
        simp [heading, isRelation] at hheading
      | relation index declaration children =>
        rw [leafChains] at hmem
        obtain ⟨below, hbelow, heq⟩ := List.mem_map.1 hmem
        obtain ⟨rfl, rfl⟩ := List.cons.inj heq
        exact ⟨index, children, hnode, mem_leafChainsOf_iff.1 hbelow⟩
    · rintro ⟨index, children, hmem, hbelow⟩
      refine ⟨_, hmem, ?_⟩
      rw [leafChains]
      exact List.mem_map_of_mem (mem_leafChainsOf_iff.2 hbelow)

section

variable {p : Bool → Text → Prop} {size : Nat}

mutual

theorem nodup_leafChains : (node : SelectNode) → IsOrderly p size node → (leafChains node).Nodup
  | leaf _ declaration, _ => by
    rw [leafChains]
    exact List.nodup_singleton _
  | relation _ declaration children, h => by
    rw [IsOrderly] at h
    rw [leafChains]
    exact (nodup_leafChainsOf children h.1.distinct h.2).map fun _ _ heq => (List.cons.inj heq).2

/-- No chain leads to two leaves. -/
theorem nodup_leafChainsOf : (nodes : List SelectNode) → (nodes.map heading).Nodup →
    AreOrderly p size nodes → (leafChainsOf nodes).Nodup
  | [], _, _ => by
    rw [leafChainsOf]
    exact List.nodup_nil
  | node :: rest, hdistinct, h => by
    rw [AreOrderly] at h
    rw [List.map_cons, List.nodup_cons] at hdistinct
    rw [leafChainsOf, List.nodup_append]
    refine ⟨nodup_leafChains node h.1, nodup_leafChainsOf rest hdistinct.2 h.2, ?_⟩
    rintro chain hchain _ hother rfl
    obtain ⟨other, hmem, hother⟩ := mem_leafChainsOf.1 hother
    refine hdistinct.1 (List.mem_map.2 ⟨other, hmem, ?_⟩)
    rw [heading_of_mem_leafChains hchain, heading_of_mem_leafChains hother]

end

end

/-! ## 2. Insertion -/

/-- A node that is there once the children are set was there, or is a
relation with these children. -/
theorem mem_setChildren {segment : Text} {nodes new : List SelectNode} {node : SelectNode}
    (h : node ∈ setChildren segment new nodes) :
    node ∈ nodes ∨ ∃ index, node = relation index segment new := by
  induction nodes with
  | nil => exact Or.inl h
  | cons first rest ih =>
    cases first with
    | leaf index declaration =>
      rw [setChildren] at h
      rcases List.mem_cons.1 h with rfl | h
      · exact Or.inl List.mem_cons_self
      · exact (ih h).imp_left (List.mem_cons_of_mem _)
    | relation index declaration old =>
      rw [setChildren] at h
      split at h
      · rename_i hsegment
        rcases List.mem_cons.1 h with rfl | h
        · exact Or.inr ⟨index, by rw [hsegment]⟩
        · exact Or.inl (List.mem_cons_of_mem _ h)
      · rcases List.mem_cons.1 h with rfl | h
        · exact Or.inl List.mem_cons_self
        · exact (ih h).imp_left (List.mem_cons_of_mem _)

theorem holds_iff {chain : List Text} {nodes : List SelectNode} :
    Holds chain nodes ↔ ∃ node ∈ nodes, chain ∈ leafChains node :=
  mem_leafChainsOf_iff.symm.trans mem_leafChainsOf

theorem not_holds_nil {chain : List Text} : ¬ Holds chain [] := by
  simp [holds_iff]

theorem holds_append {chain : List Text} {nodes others : List SelectNode} :
    Holds chain (nodes ++ others) ↔ Holds chain nodes ∨ Holds chain others := by
  simp only [holds_iff, List.mem_append, or_and_right, exists_or]

theorem holds_leaf {chain : List Text} {index : Nat} {segment : Text} :
    Holds chain [leaf index segment] ↔ chain = [segment] := by
  simp [holds_iff, leafChains]

/-- A relation holds its segment in front of what its children hold. -/
theorem holds_relation {chain : List Text} {index : Nat} {segment : Text}
    {children : List SelectNode} :
    Holds chain [relation index segment children] ↔
      ∃ below, Holds below children ∧ segment :: below = chain := by
  simp [holds_iff, leafChains, mem_leafChainsOf]

theorem Holds.of_mem {chain : List Text} {node : SelectNode} {nodes : List SelectNode}
    (hmem : node ∈ nodes) (h : Holds chain [node]) : Holds chain nodes := by
  obtain ⟨only, honly, hchain⟩ := holds_iff.1 h
  exact holds_iff.2 ⟨only, List.mem_singleton.1 honly ▸ hmem, hchain⟩

/-- What is held once the children are set was held, or is held by them. -/
theorem Holds.of_setChildren {chain : List Text} {segment : Text} {nodes new : List SelectNode}
    (h : Holds chain (setChildren segment new nodes)) :
    Holds chain nodes ∨ ∃ below, Holds below new ∧ segment :: below = chain := by
  obtain ⟨node, hnode, hchain⟩ := holds_iff.1 h
  rcases mem_setChildren hnode with hmem | ⟨index, rfl⟩
  · exact Or.inl (holds_iff.2 ⟨node, hmem, hchain⟩)
  · exact Or.inr (holds_relation.1 (holds_iff.2 ⟨_, List.mem_singleton.2 rfl, hchain⟩))

/-- Insertion adds the inserted chain and no other. -/
theorem Holds.of_insertChain {chain other : List Text} {nodes : List SelectNode} {size : Nat}
    (h : Holds other (SelectNode.insertChain chain size nodes).1) :
    other = chain ∨ Holds other nodes := by
  match chain with
  | [] => exact Or.inr h
  | [segment] =>
    rw [SelectNode.insertChain] at h
    split at h
    · exact Or.inr h
    · exact (holds_append.1 h).symm.imp_left holds_leaf.1
  | segment :: next :: rest =>
    rw [SelectNode.insertChain] at h
    split at h
    · rename_i children hchildren
      obtain ⟨index, hrelation⟩ := mem_of_childrenOf? hchildren
      rcases h.of_setChildren with h | ⟨below, hbelow, rfl⟩
      · exact Or.inr h
      · rcases hbelow.of_insertChain with rfl | hbelow
        · exact Or.inl rfl
        · exact Or.inr (.of_mem hrelation (holds_relation.2 ⟨below, hbelow, rfl⟩))
    · rcases holds_append.1 h with h | h
      · exact Or.inr h
      · obtain ⟨below, hbelow, rfl⟩ := holds_relation.1 h
        rcases hbelow.of_insertChain with rfl | hbelow
        · exact Or.inl rfl
        · exact absurd hbelow not_holds_nil

end SelectNode

namespace SelectTree

open SelectNode

/-- A tree of paths holds the chains of the paths and no others. -/
theorem holds_ofPaths_iff {paths : List Path} (hne : ∀ path ∈ paths, path.declaration ≠ [])
    {chain : List Text} : Holds chain (ofPaths paths).children ↔
      ∃ path ∈ paths, Text.splitOn '.' path.declaration = chain := by
  suffices ∀ tree : SelectTree, Holds chain (paths.foldl insert tree).children ↔
      Holds chain tree.children ∨ ∃ path ∈ paths, Text.splitOn '.' path.declaration = chain by
    refine (this {}).trans ?_
    simp only [not_holds_nil, false_or]
  induction paths with
  | nil => simp
  | cons path rest ih =>
    intro tree
    have hinsert : (tree.insert path).children =
        (insertChain (Text.splitOn '.' path.declaration) tree.size tree.children).1 := by
      have hdeclared : path.declaration.isEmpty = false := by
        simpa using hne path List.mem_cons_self
      simp only [insert, hdeclared, Bool.false_eq_true, if_false]
    have hstep : Holds chain (tree.insert path).children ↔
        Holds chain tree.children ∨ Text.splitOn '.' path.declaration = chain := by
      rw [hinsert]
      constructor
      · exact fun h => h.of_insertChain.symm.imp_right Eq.symm
      · rintro (h | rfl)
        · exact h.insertChain tree.size
        · exact holds_insertChain (Text.splitOn_ne_nil _ _) tree.size tree.children
    rw [List.foldl_cons, ih (fun other hmem => hne other (List.mem_cons_of_mem _ hmem)), hstep]
    simp only [List.mem_cons, exists_eq_or_imp, or_assoc]

end SelectTree

/-! ## 3. Leaves of a statement -/

namespace GroupedPath

mutual

/-- The chains of segments without aliases that lead to the leaves of an
entry. -/
def leafChains : GroupedPath → List (List Text)
  | leaf entry => [[entry.path]]
  | nested entry paths => (leafChainsOf paths).map (entry.path :: ·)

/-- Those that lead to the leaves of a level. -/
def leafChainsOf : List GroupedPath → List (List Text)
  | [] => []
  | grouped :: rest => leafChains grouped ++ leafChainsOf rest

end

theorem leafChainsOf_append (front back : List GroupedPath) :
    leafChainsOf (front ++ back) = leafChainsOf front ++ leafChainsOf back := by
  induction front with
  | nil => rfl
  | cons grouped rest ih => rw [List.cons_append, leafChainsOf, leafChainsOf, ih, List.append_assoc]

theorem leafChainsOf_singleton (grouped : GroupedPath) :
    leafChainsOf [grouped] = leafChains grouped := by
  rw [leafChainsOf, leafChainsOf, List.append_nil]

/-- The full canonical paths of the leaves of a level. -/
def leafPaths (paths : List GroupedPath) : List Text :=
  (leafChainsOf paths).map (Text.join '.')

end GroupedPath

/-- The last segment of the chain selects no aggregate. -/
def SelectsValue (chain : List Text) : Prop :=
  Segment.isAggregate (chain.getLast?.getD []) = false

instance : DecidablePred SelectsValue := fun _ => inferInstanceAs (Decidable (_ = _))

theorem selectsValue_cons (segment : Text) {chain : List Text} (h : chain ≠ []) :
    SelectsValue (segment :: chain) ↔ SelectsValue chain := by
  obtain ⟨next, rest, rfl⟩ := List.exists_cons_of_ne_nil h
  rw [SelectsValue, SelectsValue, List.getLast?_cons_cons]

namespace SelectNode

/-- A property of the last segments of chains picks the same leaves below a
relation. -/
theorem filter_leafChains (q : List Text → Prop) [DecidablePred q]
    (hq : ∀ segment chain, chain ≠ [] → (q (segment :: chain) ↔ q chain)) (index : Nat)
    (declaration : Text) (children : List SelectNode) :
    (leafChains (relation index declaration children)).filter (q ·) =
      ((leafChainsOf children).filter (q ·)).map (declaration :: ·) := by
  rw [leafChains, List.filter_map]
  refine congrArg _ (List.filter_congr fun chain hmem => ?_)
  obtain ⟨node, -, hchain⟩ := mem_leafChainsOf.1 hmem
  exact decide_eq_decide.2 (hq declaration chain (ne_nil_of_mem_leafChains hchain))

/-- Below a relation the same leaves select values. -/
theorem filter_leafChains_relation (index : Nat) (declaration : Text)
    (children : List SelectNode) :
    (leafChains (relation index declaration children)).filter (SelectsValue ·) =
      ((leafChainsOf children).filter (SelectsValue ·)).map (declaration :: ·) :=
  filter_leafChains SelectsValue (fun segment _ hne => selectsValue_cons segment hne) index
    declaration children

/-- Segments with the property declare no alias. -/
def DeclaresNoAlias (p : Bool → Text → Prop) : Prop :=
  ∀ isRelation segment, p isRelation segment → (Segment.splitAlias segment).1 = none

section

variable {p : Bool → Text → Prop} {size : Nat}

mutual

/-- Without aliases a node is suppressed when no leaf below it selects a
value. -/
theorem isSuppressed_iff (hp : DeclaresNoAlias p) : (node : SelectNode) →
    p node.isRelation node.declaration → IsOrderly p size node →
    (node.isSuppressed = true ↔ (leafChains node).filter (SelectsValue ·) = [])
  | leaf index declaration, hdeclared, _ => by
    have hnone : (Segment.splitAlias declaration).1 = none := hp _ _ hdeclared
    rw [isSuppressed, leafChains, Segment.splitAlias_of_none hnone]
    rcases haggregate : Segment.isAggregate declaration <;> simp [SelectsValue, haggregate]
  | relation index declaration children, _, h => by
    rw [IsOrderly] at h
    rw [isSuppressed, filter_leafChains_relation, List.map_eq_nil_iff]
    exact areSuppressed_iff_filter hp children h.1.declared h.2

theorem areSuppressed_iff_filter (hp : DeclaresNoAlias p) : (nodes : List SelectNode) →
    (∀ node ∈ nodes, p node.isRelation node.declaration) → AreOrderly p size nodes →
    (areSuppressed nodes = true ↔ (leafChainsOf nodes).filter (SelectsValue ·) = [])
  | [], _, _ => by
    rw [areSuppressed, leafChainsOf]
    simp
  | node :: rest, hdeclared, h => by
    rw [AreOrderly] at h
    rw [areSuppressed, Bool.and_eq_true, leafChainsOf, List.filter_append, List.append_eq_nil_iff,
      isSuppressed_iff hp node (hdeclared node List.mem_cons_self) h.1,
      areSuppressed_iff_filter hp rest
        (fun other hmem => hdeclared other (List.mem_cons_of_mem _ hmem)) h.2]

end

mutual

theorem leafChainsOf_emit (hp : DeclaresNoAlias p) (policy : DedupePolicy) (chain : EmitChain)
    (collides : Bool) (counter : Nat) : (node : SelectNode) →
    p node.isRelation node.declaration → IsOrderly p size node → node.isSuppressed = false →
    GroupedPath.leafChainsOf (emit policy chain collides counter node).grouped =
      (leafChains node).filter (SelectsValue ·)
  | leaf index declaration, hdeclared, _, hvisible => by
    have hnone : (Segment.splitAlias declaration).1 = none := hp _ _ hdeclared
    have hpath : (leaf index declaration).path = declaration :=
      congrArg Prod.snd (Segment.splitAlias_of_none hnone)
    rw [isSuppressed, Segment.splitAlias_of_none hnone] at hvisible
    have hvalue : SelectsValue [declaration] := by
      rw [SelectsValue]
      simpa using hvisible
    rw [emit, GroupedPath.leafChainsOf_singleton, leafChains, List.filter_singleton,
      decide_eq_true hvalue]
    simp only [GroupedPath.leafChains, toEntry, hpath]
    rfl
  | relation index declaration children, hdeclared, h, _ => by
    have hnone : (Segment.splitAlias declaration).1 = none := hp _ _ hdeclared
    have hpath : (relation index declaration children).path = declaration :=
      congrArg Prod.snd (Segment.splitAlias_of_none hnone)
    rw [IsOrderly] at h
    rw [filter_leafChains_relation, emit, GroupedPath.leafChainsOf_singleton]
    simp only [GroupedPath.leafChains, toEntry, hpath]
    rw [leafChainsOf_emitList hp policy _ _ _ children h.1.declared h.2]

/-- Without aliases the nodes emit their leaves that select a value. -/
theorem leafChainsOf_emitList (hp : DeclaresNoAlias p) (policy : DedupePolicy)
    (chain : EmitChain) (collides : SelectNode → Bool) (counter : Nat) :
    (nodes : List SelectNode) →
    (∀ node ∈ nodes, p node.isRelation node.declaration) → AreOrderly p size nodes →
    GroupedPath.leafChainsOf (emitList policy chain collides counter nodes).grouped =
      (leafChainsOf nodes).filter (SelectsValue ·)
  | [], _, _ => by
    rw [emitList, leafChainsOf]
    rfl
  | node :: rest, hdeclared, h => by
    rw [AreOrderly] at h
    have hnode := hdeclared node List.mem_cons_self
    have hrest : ∀ other ∈ rest, p other.isRelation other.declaration := fun other hmem =>
      hdeclared other (List.mem_cons_of_mem _ hmem)
    rw [emitList, leafChainsOf, List.filter_append]
    split
    · rename_i hsuppressed
      rw [(isSuppressed_iff hp node hnode h.1).1 hsuppressed, List.nil_append]
      exact leafChainsOf_emitList hp policy chain collides counter rest hrest h.2
    · rename_i hvisible
      simp only [GroupedPath.leafChainsOf_append]
      rw [leafChainsOf_emit hp policy chain (collides node) counter node hnode h.1
          (by simpa using hvisible),
        leafChainsOf_emitList hp policy chain collides _ rest hrest h.2]

end

end

end SelectNode

/-! ## 4. Statements of canonical paths -/

section

variable {paths : List Path} (h : ∀ path ∈ paths, path.declaration.IsCanonicalPath)
include h

/-- A tree of canonical paths is one of canonical segments. -/
theorem SelectTree.ofPaths_canonical :
    SelectNode.IsLevel (fun _ => Segment.IsCanonical) (ofPaths paths).size
        (ofPaths paths).children ∧
      SelectNode.AreOrderly (fun _ => Segment.IsCanonical) (ofPaths paths).size
        (ofPaths paths).children :=
  ofPaths_declared fun path hmem => SelectNode.isDeclaredChain_of_forall (Text.splitOn_ne_nil _ _)
    fun segment hsegment _ => h path hmem segment hsegment

variable (policy : DedupePolicy)

theorem leafChainsOf_buildStatement :
    GroupedPath.leafChainsOf (buildStatement paths policy).grouped =
      (SelectNode.leafChainsOf (SelectTree.ofPaths paths).children).filter (SelectsValue ·) :=
  have ⟨hlevel, horderly⟩ := SelectTree.ofPaths_canonical h
  SelectNode.leafChainsOf_emitList (fun _ _ hsegment => hsegment.2) policy _ _ 0 _ hlevel.declared
    horderly

/-- The chains of a statement are those of the paths that are no
aggregates. -/
theorem mem_leafChainsOf_buildStatement {chain : List Text} :
    chain ∈ GroupedPath.leafChainsOf (buildStatement paths policy).grouped ↔
      (∃ path ∈ paths, Text.splitOn '.' path.declaration = chain) ∧ SelectsValue chain := by
  rw [leafChainsOf_buildStatement h policy, List.mem_filter, SelectNode.mem_leafChainsOf_iff,
    SelectTree.holds_ofPaths_iff fun path hmem => (h path hmem).ne_nil, decide_eq_true_iff]

/-- The leaves of a statement are the paths that are no aggregates. -/
theorem mem_leafPaths_iff {text : Text} :
    text ∈ GroupedPath.leafPaths (buildStatement paths policy).grouped ↔
      (∃ path ∈ paths, path.declaration = text) ∧ (Path.ofText text).isAggregate = false := by
  rw [GroupedPath.leafPaths, List.mem_map]
  constructor
  · rintro ⟨chain, hchain, rfl⟩
    obtain ⟨⟨path, hmem, rfl⟩, hvalue⟩ := (mem_leafChainsOf_buildStatement h policy).1 hchain
    rw [Text.join_splitOn]
    exact ⟨⟨path, hmem, rfl⟩, hvalue⟩
  · rintro ⟨⟨path, hmem, rfl⟩, hvalue⟩
    exact ⟨_, (mem_leafChainsOf_buildStatement h policy).2 ⟨⟨path, hmem, rfl⟩, hvalue⟩,
      Text.join_splitOn _ _⟩

/-- Each leaf of a statement is there once. -/
theorem nodup_leafPaths : (GroupedPath.leafPaths (buildStatement paths policy).grouped).Nodup := by
  obtain ⟨hlevel, horderly⟩ := SelectTree.ofPaths_canonical h
  have hchains : (GroupedPath.leafChainsOf (buildStatement paths policy).grouped).Nodup := by
    rw [leafChainsOf_buildStatement h policy]
    exact (SelectNode.nodup_leafChainsOf _ hlevel.distinct horderly).filter _
  refine hchains.map_on fun chain hchain other hother heq => ?_
  obtain ⟨⟨path, -, rfl⟩, -⟩ := (mem_leafChainsOf_buildStatement h policy).1 hchain
  obtain ⟨⟨path', -, rfl⟩, -⟩ := (mem_leafChainsOf_buildStatement h policy).1 hother
  rw [Text.join_splitOn, Text.join_splitOn] at heq
  rw [heq]

/-- A statement is empty when it has no leaves. -/
theorem isEmpty_buildStatement_iff : (buildStatement paths policy).isEmpty = true ↔
    GroupedPath.leafPaths (buildStatement paths policy).grouped = [] := by
  obtain ⟨hlevel, horderly⟩ := SelectTree.ofPaths_canonical h
  have hpath : ∀ node ∈ (SelectTree.ofPaths paths).children, node.path ≠ [] := by
    intro node hmem
    obtain ⟨hne, hnone⟩ := hlevel.declared node hmem
    rwa [SelectNode.path, Segment.splitAlias_of_none hnone]
  have hgrouped : (buildStatement paths policy).isEmpty = true ↔
      (buildStatement paths policy).grouped = [] := by
    rw [SelectStatement.isEmpty, List.isEmpty_iff]
    refine ⟨fun hnil => ?_, fun hnil => ?_⟩
    · by_contra hne
      exact GroupedPath.statement_ne_nil hne (SelectNode.declaration_ne_nil hpath) hnil
    · have hstatement : (buildStatement paths policy).statement =
          GroupedPath.statement (buildStatement paths policy).grouped := rfl
      rw [hstatement, hnil]
      rfl
  rw [hgrouped, GroupedPath.leafPaths, List.map_eq_nil_iff, leafChainsOf_buildStatement h policy,
    ← SelectNode.areSuppressed_iff_filter (fun _ _ hsegment => hsegment.2) _ hlevel.declared
      horderly]
  exact SelectNode.grouped_eq_nil_iff

end

end QueryCache
