/-
QueryCache.Proofs.Statement.Numbered — made up aliases are numbered as the
statement is read.

A statement is read entry by entry, each before those nested in it.  Read
this way it shows the emitted nodes of the tree in their places
(`Placed`), and what a node is written as depends on its place alone: it
gets an alias exactly if it has none, shares its name with another emitted
sibling without alias, and is not the one that the policy picks of these
(`Placed.Collides`); any other node is written as the paths write it.  The
alias carries the number of aliases that were made up before it, so they
count from zero without a gap through all levels
(`buildStatement_numbered`).
-/
import QueryCache.Proofs.Statement.Inserted

namespace QueryCache

/-! ## 1. Reading order -/

namespace GroupedPath

mutual

/-- An entry and those nested in it as they are read, each with its depth. -/
def outlineOf (depth : Nat) : GroupedPath → List (Nat × Entry)
  | leaf entry => [(depth, entry)]
  | nested entry paths => (depth, entry) :: outline (depth + 1) paths

/-- The entries of a level as they are read. -/
def outline (depth : Nat) : List GroupedPath → List (Nat × Entry)
  | [] => []
  | grouped :: rest => outlineOf depth grouped ++ outline depth rest

end

theorem outline_append (depth : Nat) (front back : List GroupedPath) :
    outline depth (front ++ back) = outline depth front ++ outline depth back := by
  induction front with
  | nil => rfl
  | cons grouped rest ih => rw [List.cons_append, outline, outline, ih, List.append_assoc]

end GroupedPath

/-- An emitted node in its place: its depth, and the emitted nodes of its
level, itself among them, in the order of their first mention. -/
structure Placed where
  depth : Nat
  siblings : List SelectNode
  node : SelectNode

namespace SelectNode

/-- The nodes of a level that are emitted. -/
def emitted (nodes : List SelectNode) : List SelectNode :=
  nodes.filter fun node => !node.isSuppressed

mutual

/-- A node and the emitted nodes below it in their places, a parent before
its children. -/
def placesOf (depth : Nat) (siblings : List SelectNode) : SelectNode → List Placed
  | leaf index declaration => [⟨depth, siblings, leaf index declaration⟩]
  | relation index declaration children =>
    ⟨depth, siblings, relation index declaration children⟩ ::
      places (depth + 1) (emitted children) children

def places (depth : Nat) (siblings : List SelectNode) : List SelectNode → List Placed
  | [] => []
  | node :: rest =>
    if node.isSuppressed then places depth siblings rest
    else placesOf depth siblings node ++ places depth siblings rest

end

end SelectNode

/-- The emitted nodes of a tree in their places, as they are read. -/
def SelectTree.places (tree : SelectTree) : List Placed :=
  SelectNode.places 0 (SelectNode.emitted tree.children) tree.children

/-! ## 2. Collisions -/

namespace Placed

open SelectNode (heading toMember)

/-- The siblings without alias that refer to the name of the node. -/
def namesakes (place : Placed) : List SelectNode :=
  place.siblings.filter fun other => other.aliasName.isNone && other.name == place.node.name

/-- The one of them that the policy picks. -/
def picked? (policy : DedupePolicy) (place : Placed) : Option SelectNode :=
  (policy (place.namesakes.map toMember)).bind fun position => place.namesakes[position]?

/-- The node needs an alias: it has none, another emitted sibling without
alias refers to its name, and it is not the one that the policy picks. -/
structure Collides (policy : DedupePolicy) (place : Placed) : Prop where
  bare : place.node.aliasName = none
  shared : ∃ other ∈ place.siblings, other.heading ≠ place.node.heading ∧
    other.aliasName = none ∧ other.name = place.node.name
  passedOver : (place.picked? policy).map heading ≠ some place.node.heading

instance (policy : DedupePolicy) : DecidablePred (Collides policy) := fun place =>
  decidable_of_iff (place.node.aliasName = none ∧
      (∃ other ∈ place.siblings, other.heading ≠ place.node.heading ∧
        other.aliasName = none ∧ other.name = place.node.name) ∧
      (place.picked? policy).map heading ≠ some place.node.heading)
    ⟨fun h => ⟨h.1, h.2.1, h.2.2⟩, fun h => ⟨h.bare, h.shared, h.passedOver⟩⟩

/-- The entry of the node: with the alias of that number if it collides, else
as the paths write it. -/
def entry (policy : DedupePolicy) (place : Placed) (number : Nat) : Entry :=
  if place.Collides policy then
    ⟨dedupeAlias number place.node.name ++ ':' :: place.node.path, place.node.path,
      some (dedupeAlias number place.node.name)⟩
  else ⟨place.node.declaration, place.node.path, place.node.aliasName⟩

/-- The number of the next collision. -/
def next (policy : DedupePolicy) (place : Placed) (number : Nat) : Nat :=
  if place.Collides policy then number + 1 else number

theorem next_add_countP (policy : DedupePolicy) (place : Placed) (number : Nat)
    (rest : List Placed) : place.next policy number + rest.countP (Collides policy) =
      number + (place :: rest).countP (Collides policy) := by
  rw [next, List.countP_cons]
  by_cases hcollides : place.Collides policy
  · simp only [hcollides, if_true, decide_true]
    omega
  · simp only [hcollides, if_false, decide_false, Bool.false_eq_true, Nat.add_zero]

end Placed

namespace SelectNode

/-- A segment is its alias, a colon and the rest, or has no alias. -/
theorem declaration_eq (node : SelectNode) : node.declaration =
    match node.aliasName with
    | some aliasName => aliasName ++ ':' :: node.path
    | none => node.path := by
  rw [aliasName, path, Segment.splitAlias]
  split
  · rename_i found
    split at found
    · rename_i hcut
      obtain rfl := Option.some.inj found
      exact Segment.append_of_splitAtLoneColon hcut
    · contradiction
  · rename_i found
    split at found
    · contradiction
    · rfl

section

variable {policy : DedupePolicy} {p : Bool → Text → Prop} {size : Nat}
  {nodes : List SelectNode}

/-- Of members that are told apart a policy picks the one whose place it
names. -/
theorem findIdx?_eq_iff_picked {members : List SelectNode} (hages : (members.map index).Nodup)
    (hheadings : (members.map heading).Nodup) {node : SelectNode} (hmem : node ∈ members)
    (pick : Option Nat) :
    members.findIdx? (·.index == node.index) = pick ↔
      (pick.bind fun position => members[position]?).map heading = some node.heading := by
  obtain ⟨place, hplace, hnode⟩ := List.getElem_of_mem hmem
  have hfound : members.findIdx? (·.index == node.index) = some place := by
    rw [List.findIdx?_eq_some_iff_getElem]
    refine ⟨hplace, by simp [hnode], fun earlier hearlier hsame => ?_⟩
    have hbound : earlier < (members.map index).length := by simpa using hearlier.trans hplace
    have hindex : (members.map index)[earlier]? = (members.map index)[place]? := by
      simpa [hplace, hearlier.trans hplace, hnode] using hsame
    exact hearlier.ne ((List.getElem?_inj hbound hages).1 hindex)
  rw [hfound]
  cases pick with
  | none => simp
  | some position =>
    rw [Option.some.injEq, Option.bind_some]
    constructor
    · rintro rfl
      rw [List.getElem?_eq_getElem hplace, hnode, Option.map_some]
    · intro hpicked
      obtain ⟨other, hother, hsame⟩ := Option.map_eq_some_iff.1 hpicked
      obtain ⟨hposition, rfl⟩ := List.getElem?_eq_some_iff.1 hother
      have hbound : place < (members.map heading).length := by simpa using hplace
      have hheading : (members.map heading)[place]? = (members.map heading)[position]? := by
        simp [hplace, hposition, hnode, hsame]
      exact (List.getElem?_inj hbound hheadings).1 hheading

/-- A member is one of several exactly if it has company. -/
theorem one_lt_length_iff {members : List SelectNode} (hheadings : (members.map heading).Nodup)
    {node : SelectNode} (hmem : node ∈ members) :
    1 < members.length ↔ ∃ other ∈ members, other.heading ≠ node.heading := by
  constructor
  · intro hmany
    obtain ⟨first, second, rest, rfl⟩ : ∃ first second rest, members = first :: second :: rest := by
      rcases members with _ | ⟨first, _ | ⟨second, rest⟩⟩
      · simp at hmany
      · simp at hmany
      · exact ⟨first, second, rest, rfl⟩
    rw [List.map_cons, List.nodup_cons] at hheadings
    by_cases hsame : first.heading = node.heading
    · refine ⟨second, by simp, fun heq => hheadings.1 ?_⟩
      rw [hsame, ← heq]
      exact List.mem_map_of_mem List.mem_cons_self
    · exact ⟨first, List.mem_cons_self, hsame⟩
  · rintro ⟨other, hother, hdiffer⟩
    rcases members with _ | ⟨first, _ | ⟨second, rest⟩⟩
    · contradiction
    · rw [List.mem_singleton] at hmem hother
      exact absurd (congrArg heading (hother.trans hmem.symm)) hdiffer
    · simp

theorem mem_group_iff {name : Text} {node : SelectNode} : node ∈ group name nodes ↔
    node ∈ emitted nodes ∧ node.aliasName = none ∧ node.name = name := by
  simp only [group, emitted, List.mem_filter, Bool.and_eq_true, Option.isNone_iff_eq_none,
    beq_iff_eq, and_assoc]

/-- A node needs an alias exactly if it collides. -/
theorem needsAlias_eq (h : IsLevel p size nodes) {node : SelectNode} (hmem : node ∈ nodes)
    (hvisible : node.isSuppressed = false) (policy : DedupePolicy) (depth : Nat) :
    needsAlias policy nodes node =
      decide (Placed.Collides policy ⟨depth, emitted nodes, node⟩) := by
  have hgroup : group node.name nodes = Placed.namesakes ⟨depth, emitted nodes, node⟩ := by
    rw [group, Placed.namesakes, emitted, List.filter_filter]
    exact List.filter_congr fun other _ => by rw [Bool.and_assoc, Bool.and_comm]
  rw [Bool.eq_iff_iff, decide_eq_true_iff, needsAlias]
  rcases hbare : node.aliasName with _ | aliasName
  · have hin : node ∈ group node.name nodes := by
      simp [group, hmem, hvisible, hbare]
    have hsublist : (group node.name nodes).Sublist nodes := List.filter_sublist
    have hages := h.ages.sublist (hsublist.map index)
    have hheadings := h.distinct.sublist (hsublist.map heading)
    have hpicked := findIdx?_eq_iff_picked hages hheadings hin
      (policy ((group node.name nodes).map toMember))
    have hshared : 1 < (group node.name nodes).length ↔
        ∃ other ∈ emitted nodes, other.heading ≠ node.heading ∧ other.aliasName = none ∧
          other.name = node.name := by
      rw [one_lt_length_iff hheadings hin]
      simp only [mem_group_iff]
      exact exists_congr fun other => and_right_comm.trans and_assoc
    simp only [Option.isNone_none, Bool.true_and, Bool.and_eq_true, decide_eq_true_eq,
      bne_iff_ne, ne_eq, hpicked, hshared]
    rw [hgroup]
    exact ⟨fun hneeds => ⟨hbare, hneeds.1, hneeds.2⟩,
      fun hcollides => ⟨hcollides.shared, hcollides.passedOver⟩⟩
  · simp only [Option.isNone_some, Bool.false_and, Bool.false_eq_true, false_iff]
    intro hcollides
    have hnone := hcollides.bare
    rw [hbare] at hnone
    contradiction

/-! ## 3. Numbering -/

/-- The entries of nodes in their places, each collision numbered after those
before it. -/
def numbered (policy : DedupePolicy) : Nat → List Placed → List (Nat × Entry)
  | _, [] => []
  | number, place :: rest =>
    (place.depth, place.entry policy number) :: numbered policy (place.next policy number) rest

theorem numbered_append (policy : DedupePolicy) (number : Nat) (front back : List Placed) :
    numbered policy number (front ++ back) = numbered policy number front ++
      numbered policy (number + front.countP (Placed.Collides policy)) back := by
  induction front generalizing number with
  | nil => rfl
  | cons place rest ih =>
    rw [List.cons_append, numbered, numbered, ih, Placed.next_add_countP, List.cons_append]

/-- The number of a collision is that of the collisions before it. -/
theorem numbered_eq_mapIdx (policy : DedupePolicy) (number : Nat) (placed : List Placed) :
    numbered policy number placed = placed.mapIdx fun position place =>
      (place.depth, place.entry policy
        (number + (placed.take position).countP (Placed.Collides policy))) := by
  induction placed generalizing number with
  | nil => rfl
  | cons place rest ih =>
    rw [numbered, ih, List.mapIdx_cons]
    simp only [Placed.next_add_countP, List.take_succ_cons]
    rfl

theorem toEntry_eq (policy : DedupePolicy) (place : Placed) (number : Nat) :
    place.node.toEntry (decide (place.Collides policy)) number =
      (place.entry policy number, place.next policy number) := by
  rw [toEntry, Placed.entry, Placed.next]
  by_cases hcollides : place.Collides policy
  · simp only [hcollides, decide_true, if_true]
  · simp only [hcollides, decide_false, Bool.false_eq_true, if_false, Prod.mk.injEq,
      Entry.mk.injEq, and_true]
    exact (declaration_eq place.node).symm

/-- What is emitted from that number on is read as the nodes in their
places. -/
structure IsReadAs (policy : DedupePolicy) (depth number : Nat) (placed : List Placed)
    (emission : Emission) : Prop where
  outline_eq : GroupedPath.outline depth emission.grouped = numbered policy number placed
  counter_eq : emission.counter = number + placed.countP (Placed.Collides policy)

mutual

/-- A node is read as itself and the nodes below it. -/
theorem isReadAs_emit (policy : DedupePolicy) (chain : EmitChain) (depth : Nat)
    (siblings : List SelectNode) (number : Nat) : (node : SelectNode) → IsOrderly p size node →
    IsReadAs policy depth number (placesOf depth siblings node) (emit policy chain
      (decide (Placed.Collides policy ⟨depth, siblings, node⟩)) number node)
  | leaf index declaration, _ => by
    have hentry := toEntry_eq policy ⟨depth, siblings, leaf index declaration⟩ number
    rw [emit, placesOf]
    simp only [hentry]
    constructor
    · rfl
    · exact Placed.next_add_countP policy _ number []
  | relation index declaration children, h => by
    rw [IsOrderly] at h
    have hentry := toEntry_eq policy ⟨depth, siblings, relation index declaration children⟩ number
    have hbelow := fun chain number => isReadAs_emitList policy chain (depth + 1)
      (emitted children) number children h.2
      (fun node hmem hvisible => needsAlias_eq h.1 hmem hvisible policy (depth + 1))
    rw [emit, placesOf]
    simp only [hentry]
    constructor
    · rw [GroupedPath.outline, GroupedPath.outline, List.append_nil, GroupedPath.outlineOf,
        (hbelow _ _).outline_eq, numbered]
    · rw [(hbelow _ _).counter_eq]
      exact Placed.next_add_countP policy _ number _

/-- A level is read as its emitted nodes, one after the other. -/
theorem isReadAs_emitList (policy : DedupePolicy) (chain : EmitChain) (depth : Nat)
    (siblings : List SelectNode) (number : Nat) {collides : SelectNode → Bool} :
    (nodes : List SelectNode) → AreOrderly p size nodes →
    (∀ node ∈ nodes, node.isSuppressed = false →
      collides node = decide (Placed.Collides policy ⟨depth, siblings, node⟩)) →
    IsReadAs policy depth number (places depth siblings nodes)
      (emitList policy chain collides number nodes)
  | [], _, _ => by
    rw [emitList, places]
    exact ⟨rfl, rfl⟩
  | node :: rest, h, hcollides => by
    rw [AreOrderly] at h
    have hothers := fun number => isReadAs_emitList policy chain depth siblings number rest h.2
      fun other hmem => hcollides other (List.mem_cons_of_mem _ hmem)
    rw [emitList, places]
    split
    · exact hothers number
    · rename_i hnode
      have hnode : node.isSuppressed = false := by simpa using hnode
      have hfirst := isReadAs_emit policy chain depth siblings number node h.1
      rw [hcollides node List.mem_cons_self hnode]
      dsimp only
      constructor
      · rw [GroupedPath.outline_append, numbered_append, hfirst.outline_eq, hfirst.counter_eq,
          (hothers _).outline_eq]
      · rw [List.countP_append, (hothers _).counter_eq, hfirst.counter_eq, Nat.add_assoc]

end

end

/-! ## 4. Made up aliases -/

/-- The aliases under which nodes that collide are emitted. -/
def madeUpAliases (policy : DedupePolicy) (placed : List Placed) (outline : List (Nat × Entry)) :
    List Text :=
  (placed.zip outline).filterMap fun (place, _, entry) =>
    if place.Collides policy then entry.aliasName else none

theorem madeUpAliases_numbered (policy : DedupePolicy) (number : Nat) (placed : List Placed) :
    madeUpAliases policy placed (numbered policy number placed) =
      (placed.filter (Placed.Collides policy)).mapIdx fun count place =>
        dedupeAlias (number + count) place.node.name := by
  induction placed generalizing number with
  | nil => rfl
  | cons place rest ih =>
    have hrest := ih (place.next policy number)
    rw [madeUpAliases] at hrest
    rw [madeUpAliases, numbered, List.zip_cons_cons]
    by_cases hcollides : place.Collides policy
    · rw [List.filter_cons_of_pos (by simpa using hcollides), List.mapIdx_cons,
        List.filterMap_cons_some (b := dedupeAlias number place.node.name), hrest]
      · simp only [Placed.next, if_pos hcollides, Nat.add_zero, Nat.add_assoc, Nat.add_comm 1]
      · simp only [Placed.entry, if_pos hcollides]
    · rw [List.filter_cons_of_neg (by simpa using hcollides), List.filterMap_cons_none, hrest]
      · simp only [Placed.next, if_neg hcollides]
      · simp only [if_neg hcollides]

end SelectNode

/-- Read entry by entry, a statement shows the emitted nodes of the merged
paths in their places.  A node that collides has an alias with the number of
the collisions before it, any other is written as the paths write it; so the
aliases that are made up count from zero.  They are written `d_`, the number in
decimal digits, `_` and the name that the node refers to. -/
theorem buildStatement_numbered (policy : DedupePolicy) (paths : List Path) :
    SelectNode.AreMerged (declaredChains paths) (SelectTree.ofPaths paths).children ∧
      GroupedPath.outline 0 (buildStatement paths policy).grouped =
        (SelectTree.ofPaths paths).places.mapIdx (fun position place =>
          (place.depth, place.entry policy
            (((SelectTree.ofPaths paths).places.take position).countP
              (Placed.Collides policy)))) ∧
      SelectNode.madeUpAliases policy (SelectTree.ofPaths paths).places
          (GroupedPath.outline 0 (buildStatement paths policy).grouped) =
        ((SelectTree.ofPaths paths).places.filter (Placed.Collides policy)).mapIdx
          (fun number place => dedupeAlias number place.node.name) ∧
      ∀ (number : Nat) (name : Text),
        dedupeAlias number name = ['d', '_'] ++ Nat.toDigits 10 number ++ ['_'] ++ name := by
  have hdeclared : ∀ path ∈ paths, SelectNode.IsDeclaredChain (fun _ _ => True)
      (Text.splitOn '.' path.declaration) := fun path _ =>
    SelectNode.isDeclaredChain_of_forall (Text.splitOn_ne_nil _ _) fun _ _ _ => trivial
  obtain ⟨hlevel, horderly⟩ := SelectTree.ofPaths_declared hdeclared
  have houtline : GroupedPath.outline 0 (buildStatement paths policy).grouped =
      SelectNode.numbered policy 0 (SelectTree.ofPaths paths).places :=
    (SelectNode.isReadAs_emitList policy {} 0 _ 0 _ horderly fun node hmem hvisible =>
      SelectNode.needsAlias_eq hlevel hmem hvisible policy 0).outline_eq
  refine ⟨SelectTree.areMerged_ofPaths paths, ?_, ?_, ?_⟩
  · rw [houtline, SelectNode.numbered_eq_mapIdx]
    simp only [Nat.zero_add]
  · rw [houtline, SelectNode.madeUpAliases_numbered]
    simp only [Nat.zero_add]
  · intro number name
    rw [dedupeAlias, Text.ofNat, List.append_assoc _ ['_'], List.singleton_append]
    rfl

/-- The numbers run on from the columns of a relation to its namesake and to
the relations behind it. -/
example : (buildStatement (["a.x", "a.x.y", "a", "b!one.z", "b!two.z"].map
      fun name : String => .ofText name.toList)).statement =
    "a(d_0_x:x,x(y)),d_1_a:a,d_2_b:b!one(z),d_3_b:b!two(z)".toList := by
  decide +kernel

end QueryCache
