/-
QueryCache.Proofs.Statement.Rebuilt — a statement is rebuilt from its own
leaves.

What a tree emits is settled: every entry declares a named head, is shown,
and differs from its siblings (`areSettled_emitList`).  An alias that a
collision makes up differs from all others by its number, and from those of
the clauses by its form; the entries without alias refer to names of their
own.  So the leaves of a statement are those of a clause whose fields are
apart, and the statement of these repeats it (`buildStatement_rebuilt`): no
sibling collides once more, none is left out, and none gets another number.
-/
import QueryCache.Proofs.Statement.Repeated
import QueryCache.Proofs.Statement.ResponseKeys

namespace QueryCache

/-! ## 1. Leaves of entries -/

namespace GroupedPath

mutual

/-- The leaves below an entry, by the chains above it. -/
def leavesFrom (chain : EmitChain) : GroupedPath → List Path
  | leaf entry => [(chain.extend entry (Segment.bareName entry.path)).leaf]
  | nested entry paths => leavesFromAll (chain.extend entry (Segment.bareName entry.path)) paths

def leavesFromAll (chain : EmitChain) : List GroupedPath → List Path
  | [] => []
  | grouped :: rest => leavesFrom chain grouped ++ leavesFromAll chain rest

end

theorem leavesFromAll_append (chain : EmitChain) (front back : List GroupedPath) :
    leavesFromAll chain (front ++ back) =
      leavesFromAll chain front ++ leavesFromAll chain back := by
  induction front with
  | nil => rfl
  | cons grouped rest ih =>
    rw [List.cons_append, leavesFromAll, leavesFromAll, ih, List.append_assoc]

end GroupedPath

namespace SelectNode

open GroupedPath (leavesFrom leavesFromAll)

mutual

theorem paths_emit (policy : DedupePolicy) (chain : EmitChain) (collides : Bool)
    (counter : Nat) : (node : SelectNode) → (emit policy chain collides counter node).paths =
      leavesFromAll chain (emit policy chain collides counter node).grouped
  | leaf index declaration => by
    rw [emit, leavesFromAll, leavesFromAll, leavesFrom, List.append_nil]
    rfl
  | relation index declaration children => by
    rw [emit, leavesFromAll, leavesFromAll, leavesFrom, List.append_nil]
    exact paths_emitList policy _ _ _ children

/-- The entries that are emitted determine the leaves. -/
theorem paths_emitList (policy : DedupePolicy) (chain : EmitChain)
    (collides : SelectNode → Bool) (counter : Nat) : (nodes : List SelectNode) →
    (emitList policy chain collides counter nodes).paths =
      leavesFromAll chain (emitList policy chain collides counter nodes).grouped
  | [] => by
    rw [emitList, leavesFromAll]
  | node :: rest => by
    rw [emitList]
    split
    · exact paths_emitList policy chain collides counter rest
    · dsimp only
      rw [GroupedPath.leavesFromAll_append, paths_emit policy chain (collides node) counter node,
        paths_emitList policy chain collides _ rest]

end

end SelectNode

/-- Statements with the same entries are the same. -/
theorem SelectTree.toStatement_eq_of_grouped {policy : DedupePolicy} {tree other : SelectTree}
    (h : (tree.toStatement policy).grouped = (other.toStatement policy).grouped) :
    tree.toStatement policy = other.toStatement policy := by
  have hstatement : ∀ tree : SelectTree, tree.toStatement policy =
      ⟨GroupedPath.statement (tree.toStatement policy).grouped,
        GroupedPath.leavesFromAll {} (tree.toStatement policy).grouped,
        (tree.toStatement policy).grouped⟩ := by
    intro tree
    have hleaves := SelectNode.paths_emitList policy {}
      (SelectNode.needsAlias policy tree.children) 0 tree.children
    unfold toStatement
    rw [← hleaves]
  rw [hstatement tree, hstatement other, h]

/-! ## 2. Entries of siblings -/

namespace SelectNode

/-- A segment that a named head declares under no made up alias. -/
def DeclaresGiven (isRelation : Bool) (segment : Text) : Prop :=
  Head.Declares isRelation segment ∧ ∀ text ∈ (Segment.splitAlias segment).1, ¬ text.IsGenerated

/-- The alias under which a node is emitted. -/
def emittedAlias (node : SelectNode) (collides : Bool) (number : Nat) : Option Text :=
  if collides then some (dedupeAlias number node.name) else node.aliasName

theorem emittedAlias_eq_none {node : SelectNode} {collides : Bool} {number : Nat}
    (h : node.emittedAlias collides number = none) :
    collides = false ∧ node.aliasName = none := by
  cases collides with
  | false => exact ⟨rfl, h⟩
  | true => simp [emittedAlias] at h

/-- The entry declares a head of its own that says what the node says, but
for the alias. -/
structure IsEntryOf (node : SelectNode) (aliasName : Option Text) (grouped : GroupedPath) :
    Prop where
  own : grouped.toField.head.IsOwn
  entry_eq : grouped.entry = .ofHead grouped.toField.head
  kind : grouped.toField.isRelation = node.isRelation
  aliasName_eq : grouped.toField.head.aliasName = aliasName
  segment_eq : grouped.toField.head.segment = node.path

theorem isEntryOf_emit {policy : DedupePolicy} {chain : EmitChain} {collides : Bool}
    {number : Nat} {node : SelectNode} {grouped : GroupedPath}
    (hdeclared : Head.Declares node.isRelation node.declaration)
    (hvisible : node.isSuppressed = false)
    (hcollides : collides = true → Head.isIdentifier node.name = true)
    (h : (emit policy chain collides number node).grouped = [grouped]) :
    node.IsEntryOf (node.emittedAlias collides number) grouped := by
  have hnone : ∀ head ∈ ([] : List Head), head.IsOwn := by simp
  obtain ⟨head, hown, hentry, -⟩ := exists_own hdeclared hcollides number hnone
  obtain ⟨first, hfirst, hgrouped⟩ := exists_emit policy chain collides number node
  obtain rfl : first = grouped := List.singleton_inj.1 (hfirst.symm.trans h)
  have hhead : first.toField.head = head := by
    have hwritten : first.toField.head = Head.ofWritten first.entry.declaration := by
      cases first <;> rfl
    rw [hwritten, hgrouped, hentry, Entry.ofHead, hown.ofWritten_written]
  have hkind : first.toField.isRelation = node.isRelation := by
    cases node with
    | leaf index declaration =>
      rw [emit, List.singleton_inj] at hfirst
      rw [← hfirst]
      rfl
    | relation index declaration children =>
      rw [emit, List.singleton_inj] at hfirst
      rw [isSuppressed] at hvisible
      have hsome : ∀ chain counter, (emitList policy chain (needsAlias policy children) counter
          children).grouped ≠ [] := fun chain counter hnil => by
        rw [grouped_eq_nil_iff.1 hnil] at hvisible
        contradiction
      rw [← hfirst, GroupedPath.toField, Field.isRelation, Field.children,
        GroupedPath.toFields_eq_map]
      simpa [isRelation] using hsome _ _
  have heq := hgrouped.trans hentry
  refine ⟨hhead ▸ hown, hhead ▸ heq, hkind, ?_, ?_⟩
  · rw [hhead]
    exact (congrArg Entry.aliasName hentry).symm
  · rw [hhead]
    exact (congrArg Entry.path hentry).symm

/-- Siblings of distinct headings are emitted as fields that differ, unless
both are named without an alias and refer to one name. -/
theorem differs_of_isEntryOf {node other : SelectNode} {collides otherCollides : Bool}
    {number next : Nat} {grouped following : GroupedPath}
    (hdeclared : DeclaresGiven node.isRelation node.declaration)
    (hotherDeclared : DeclaresGiven other.isRelation other.declaration)
    (h : node.IsEntryOf (node.emittedAlias collides number) grouped)
    (hother : other.IsEntryOf (other.emittedAlias otherCollides next) following)
    (hheading : node.heading ≠ other.heading)
    (hnext : (if collides then number + 1 else number) ≤ next)
    (hname : collides = false → otherCollides = false → node.aliasName = none →
      other.aliasName = none → node.name ≠ other.name) :
    grouped.toField.Differs following.toField := by
  constructor
  · intro hkind hwritten
    have hhead : grouped.toField.head = following.toField.head := by
      rw [← h.own.ofWritten_written, hwritten, hother.own.ofWritten_written]
    have halias : node.emittedAlias collides number = other.emittedAlias otherCollides next := by
      rw [← h.aliasName_eq, hhead, hother.aliasName_eq]
    have hpath : node.path = other.path := by
      rw [← h.segment_eq, hhead, hother.segment_eq]
    -- A made up alias is no other one, and no alias of a clause.
    cases collides <;> cases otherCollides <;>
      simp only [emittedAlias, if_true, if_false, Bool.false_eq_true] at halias hnext
    · refine hheading (Prod.ext ?_ ?_)
      · exact h.kind.symm.trans (hkind.trans hother.kind)
      · obtain ⟨head, hhead, hspelled⟩ := exists_isOf hdeclared.1
        obtain ⟨otherHead, hotherHead, hotherSpelled⟩ := exists_isOf hotherDeclared.1
        rw [hhead.aliasName_eq, hotherHead.aliasName_eq] at halias
        rw [hhead.path_eq, hotherHead.path_eq] at hpath
        exact hspelled.trans ((by rw [Head.spelled, Head.spelled, halias, hpath] :
          head.spelled = otherHead.spelled).trans hotherSpelled.symm)
    · exact hdeclared.2 _ halias (isGenerated_dedupeAlias next other.name)
    · exact hotherDeclared.2 _ halias.symm (isGenerated_dedupeAlias number node.name)
    · have heq := dedupeAlias_injective (Option.some.inj halias)
      omega
  · intro hnone hotherNone hkey
    have hkeys : ∀ (node : SelectNode) (aliasName : Option Text) (grouped : GroupedPath),
        node.IsEntryOf aliasName grouped → grouped.toField.head.aliasName = none →
        grouped.toField.key = node.name := by
      intro node aliasName grouped h hnone
      rw [Field.key, Head.effectiveName, hnone, Option.getD_none, name, ← h.segment_eq,
        h.own.1.bareName_segment]
    rw [hkeys node _ grouped h hnone, hkeys other _ following hother hotherNone] at hkey
    obtain ⟨hplain, hnone⟩ := emittedAlias_eq_none (h.aliasName_eq ▸ hnone)
    obtain ⟨hotherPlain, hotherNone⟩ := emittedAlias_eq_none (hother.aliasName_eq ▸ hotherNone)
    exact hname hplain hotherPlain hnone hotherNone hkey

end SelectNode

/-! ## 3. Settled entries -/

namespace GroupedPath

/-- The entry is that of its field, which is shown, of named heads, and
apart on every level. -/
structure IsSettled (grouped : GroupedPath) : Prop where
  own : grouped.toField.All Head.IsOwn
  apart : grouped.toField.IsApart
  shown : grouped.toField.isHidden = false
  kept : grouped.toField.entryOf = grouped

/-- The entries are those of their fields, which are apart. -/
structure AreSettled (paths : List GroupedPath) : Prop where
  own : Field.AllOf Head.IsOwn (toFields paths)
  apart : Field.AreApart (toFields paths)
  kept : Field.entriesOf (toFields paths) = paths

theorem areSettled_cons {grouped : GroupedPath} {rest : List GroupedPath}
    (h : grouped.IsSettled) (hrest : AreSettled rest)
    (hdiffer : ∀ other ∈ rest, grouped.toField.Differs other.toField) :
    AreSettled (grouped :: rest) where
  own := by
    rw [toFields, Field.AllOf]
    exact ⟨h.own, hrest.own⟩
  apart := by
    rw [toFields, Field.AreApart]
    refine ⟨h.apart, ?_, hrest.apart⟩
    rw [toFields_eq_map]
    exact List.forall_mem_map.2 hdiffer
  kept := by
    rw [toFields, Field.entriesOf, h.shown, if_neg Bool.false_ne_true, h.kept, hrest.kept]

theorem isSettled_leaf {head : Head} (h : head.IsOwn)
    (hshown : (head.aliasName.isNone && Segment.isAggregate head.segment) = false) :
    IsSettled (leaf (.ofHead head)) := by
  have hfield := (toField_ofHead h).1
  refine ⟨?_, ?_, ?_, ?_⟩ <;> rw [hfield]
  · exact ⟨h, trivial⟩
  · exact trivial
  · exact hshown
  · rfl

theorem isSettled_nested {head : Head} (h : head.IsOwn) {paths : List GroupedPath}
    (hne : paths ≠ []) (hpaths : AreSettled paths) : IsSettled (nested (.ofHead head) paths) := by
  have hfield := (toField_ofHead h).2 paths
  have hempty : (toFields paths).isEmpty = false := by
    rw [toFields_eq_map]
    simpa using hne
  refine ⟨?_, ?_, ?_, ?_⟩ <;> rw [hfield]
  · exact ⟨h, hpaths.own⟩
  · exact hpaths.apart
  · rw [Field.isHidden, hempty, if_neg Bool.false_ne_true, ← Bool.not_eq_true,
      Field.areHidden_iff, hpaths.kept]
    exact hne
  · rw [Field.entryOf, hempty, if_neg Bool.false_ne_true, hpaths.kept]

end GroupedPath

namespace SelectNode

open GroupedPath (IsSettled AreSettled areSettled_cons isSettled_leaf isSettled_nested)

theorem IsLevel.declares {size : Nat} {nodes : List SelectNode}
    (h : IsLevel DeclaresGiven size nodes) : IsLevel Head.Declares size nodes :=
  { h with declared := fun node hmem => (h.declared node hmem).1 }

/-- Siblings that need no alias and have none refer to distinct names. -/
theorem IsLevel.pairwise_name {p : Bool → Text → Prop} {size : Nat} {nodes : List SelectNode}
    (h : IsLevel p size nodes) (policy : DedupePolicy) :
    nodes.Pairwise fun node other => node.isSuppressed = false → other.isSuppressed = false →
      needsAlias policy nodes node = false → needsAlias policy nodes other = false →
      node.aliasName = none → other.aliasName = none → node.name ≠ other.name := by
  have hdistinct : nodes.Pairwise (· ≠ ·) := List.Nodup.of_map _ h.ages
  refine hdistinct.imp_of_mem fun {node other} hmem hother hne hvisible hotherVisible hneeds
    hotherNeeds hnone hotherNone hname => hne ?_
  exact eq_of_needsAlias h.ages hmem hother hvisible hotherVisible hnone hotherNone hneeds
    hotherNeeds hname

mutual

/-- A node that is not suppressed emits a settled entry. -/
theorem isSettled_emit (policy : DedupePolicy) {size : Nat} (chain : EmitChain)
    (collides : Bool) (counter : Nat) : (node : SelectNode) →
    DeclaresGiven node.isRelation node.declaration → IsOrderly DeclaresGiven size node →
    node.isSuppressed = false → (collides = true → Head.isIdentifier node.name = true) →
    ∀ grouped, (emit policy chain collides counter node).grouped = [grouped] → grouped.IsSettled
  | leaf index declaration, hdeclared, _, hvisible, hcollides, grouped, h => by
    obtain ⟨hown, hentry, -, halias, hsegment⟩ := isEntryOf_emit hdeclared.1 hvisible hcollides h
    rw [emit, List.singleton_inj] at h
    have hleaf : grouped = .leaf (.ofHead grouped.toField.head) := by
      rw [← hentry, ← h]
      rfl
    rw [hleaf]
    refine isSettled_leaf hown ?_
    rw [halias, hsegment]
    cases collides with
    | false =>
      rw [isSuppressed] at hvisible
      exact hvisible
    | true => rfl
  | relation index declaration children, hdeclared, horderly, hvisible, hcollides, grouped, h => by
    obtain ⟨hown, hentry, hkind, -⟩ := isEntryOf_emit hdeclared.1 hvisible hcollides h
    rw [IsOrderly] at horderly
    rw [emit, List.singleton_inj] at h
    have hbelow : ∀ chain counter, AreSettled
        (emitList policy chain (needsAlias policy children) counter children).grouped :=
      fun chain counter => areSettled_emitList policy chain _ counter children
        horderly.1.declared horderly.2
        (fun node hmem => isIdentifier_of_needsAlias horderly.1.declares hmem)
        horderly.1.distinct (horderly.1.pairwise_name policy)
    obtain ⟨entry, paths, hpaths, rfl⟩ : ∃ entry paths, AreSettled paths ∧
        grouped = .nested entry paths := ⟨_, _, hbelow _ _, h.symm⟩
    have hne : paths ≠ [] := by
      rintro rfl
      exact absurd hkind (by simp [GroupedPath.toField, GroupedPath.toFields, Field.isRelation,
        Field.children, isRelation])
    generalize (GroupedPath.nested entry paths).toField.head = head at hown hentry
    obtain rfl : entry = .ofHead head := hentry
    exact isSettled_nested hown hne hpaths

/-- So do the nodes of a level, one after the other. -/
theorem areSettled_emitList (policy : DedupePolicy) {size : Nat} (chain : EmitChain)
    (collides : SelectNode → Bool) (counter : Nat) : (nodes : List SelectNode) →
    (∀ node ∈ nodes, DeclaresGiven node.isRelation node.declaration) →
    AreOrderly DeclaresGiven size nodes →
    (∀ node ∈ nodes, node.isSuppressed = false → collides node = true →
      Head.isIdentifier node.name = true) →
    (nodes.map heading).Nodup →
    (nodes.Pairwise fun node other => node.isSuppressed = false → other.isSuppressed = false →
      collides node = false → collides other = false → node.aliasName = none →
      other.aliasName = none → node.name ≠ other.name) →
    AreSettled (emitList policy chain collides counter nodes).grouped
  | [], _, _, _, _, _ => by
    rw [emitList]
    exact ⟨trivial, trivial, rfl⟩
  | node :: rest, hdeclared, horderly, hcollides, hdistinct, hnames => by
    rw [AreOrderly] at horderly
    rw [List.map_cons, List.nodup_cons] at hdistinct
    rw [List.pairwise_cons] at hnames
    have hrest : ∀ counter, AreSettled (emitList policy chain collides counter rest).grouped :=
      fun counter => areSettled_emitList policy chain collides counter rest
        (fun other hmem => hdeclared other (List.mem_cons_of_mem _ hmem)) horderly.2
        (fun other hmem => hcollides other (List.mem_cons_of_mem _ hmem)) hdistinct.2 hnames.2
    rw [emitList]
    split
    · exact hrest counter
    · rename_i hnode
      have hvisible : node.isSuppressed = false := by simpa using hnode
      have hnodeDeclared := hdeclared node List.mem_cons_self
      have hident := hcollides node List.mem_cons_self hvisible
      obtain ⟨first, hfirst, -⟩ := exists_emit policy chain (collides node) counter node
      have hentry := isEntryOf_emit hnodeDeclared.1 hvisible hident hfirst
      have hgrown := counter_le_emit policy chain (collides node) counter node
      dsimp only
      rw [hfirst, List.singleton_append]
      refine areSettled_cons (isSettled_emit policy chain (collides node) counter node
        hnodeDeclared horderly.1 hvisible hident first hfirst) (hrest _) ?_
      intro grouped hgrouped
      obtain ⟨other, hmem, hotherVisible, number, hnumber, hother⟩ := exists_node_of_mem hgrouped
      have hotherDeclared := hdeclared other (List.mem_cons_of_mem _ hmem)
      have hotherEntry := isEntryOf_emit hotherDeclared.1 hotherVisible
        (hcollides other (List.mem_cons_of_mem _ hmem) hotherVisible) hother
      refine differs_of_isEntryOf hnodeDeclared hotherDeclared hentry hotherEntry ?_
        (hgrown.trans hnumber) fun hplain hotherPlain hnone hotherNone =>
          hnames.1 other hmem hvisible hotherVisible hplain hotherPlain hnone hotherNone
      exact fun heq => hdistinct.1 (List.mem_map.2 ⟨other, hmem, heq.symm⟩)

end

end SelectNode

/-! ## 4. Statements -/

/-- A chain with one property, all segments of which have another. -/
theorem SelectNode.IsDeclaredChain.and {p : Bool → Text → Prop} {q : Text → Prop}
    {chain : List Text} (h : IsDeclaredChain p chain) (hq : ∀ segment ∈ chain, q segment) :
    IsDeclaredChain (fun isRelation segment => p isRelation segment ∧ q segment) chain := by
  match chain with
  | [] => exact h.elim
  | [segment] => exact ⟨h, hq segment List.mem_cons_self⟩
  | segment :: next :: rest =>
    have hrest := @SelectNode.IsDeclaredChain.and p q (next :: rest) h.2 fun other hmem =>
      hq other (List.mem_cons_of_mem _ hmem)
    exact ⟨⟨h.1, hq segment List.mem_cons_self⟩, hrest⟩

section

variable {paths : List Path} (hread : ∀ path ∈ paths, path.IsRead)
  (hnamed : ∀ path ∈ paths, path.IsNamed)
include hread hnamed

/-- The entries of a statement are settled when no alias of the paths looks
made up. -/
theorem areSettled_buildStatement (halias : ∀ path ∈ paths,
      ∀ segment ∈ Text.splitOn '.' path.declaration,
        ∀ text ∈ (Segment.splitAlias segment).1, ¬ text.IsGenerated) (policy : DedupePolicy) :
    GroupedPath.AreSettled (buildStatement paths policy).grouped := by
  obtain ⟨hlevel, horderly⟩ := SelectTree.ofPaths_declared (p := SelectNode.DeclaresGiven)
    fun path hmem => SelectNode.IsDeclaredChain.and
      (Path.isDeclaredChain_of_isRead (hread path hmem) (hnamed path hmem)) (halias path hmem)
  exact SelectNode.areSettled_emitList policy {} _ 0 _ hlevel.declared horderly
    (fun node hmem => SelectNode.isIdentifier_of_needsAlias hlevel.declares hmem)
    hlevel.distinct (hlevel.pairwise_name policy)

/-- The statement of the leaves of a statement is that statement. -/
theorem buildStatement_rebuilt (halias : ∀ path ∈ paths,
      ∀ segment ∈ Text.splitOn '.' path.declaration,
        ∀ text ∈ (Segment.splitAlias segment).1, ¬ text.IsGenerated) (policy : DedupePolicy) :
    buildStatement (buildStatement paths policy).paths policy = buildStatement paths policy := by
  have hleaves : (buildStatement paths policy).paths = (Field.chainsOf (GroupedPath.toFields
      (buildStatement paths policy).grouped)).map Path.ofHeads :=
    (isRead_buildStatement (fun path hmem => Path.isDeclaredChain_of_isRead (hread path hmem)
      (hnamed path hmem)) policy).paths_eq
  have hsettled := areSettled_buildStatement hread hnamed halias policy
  refine SelectTree.toStatement_eq_of_grouped ?_
  calc (buildStatement (buildStatement paths policy).paths policy).grouped
    _ = Field.entriesOf (GroupedPath.toFields (buildStatement paths policy).grouped) := by
        rw [hleaves]
        exact grouped_buildStatement_chains hsettled.own hsettled.apart policy
    _ = (buildStatement paths policy).grouped := hsettled.kept

end

/-- The statement of the notes is rebuilt from its leaves, the made up alias
of the number among them. -/
theorem buildStatement_rebuilt_notes :
    (∀ path ∈ notePaths, path.IsRead) ∧ (∀ path ∈ notePaths, path.IsNamed) ∧
      (∀ path ∈ notePaths, ∀ segment ∈ Text.splitOn '.' path.declaration,
        ∀ text ∈ (Segment.splitAlias segment).1, ¬ text.IsGenerated) ∧
      buildStatement (buildStatement notePaths preferUnhintedRelation).paths
          preferUnhintedRelation =
        buildStatement notePaths preferUnhintedRelation := by
  have halias : ∀ path ∈ notePaths, ∀ segment ∈ Text.splitOn '.' path.declaration,
      ∀ text ∈ (Segment.splitAlias segment).1, ¬ text.IsGenerated := by decide +kernel
  exact ⟨isRead_notePaths, isNamed_notePaths, halias,
    buildStatement_rebuilt isRead_notePaths isNamed_notePaths halias preferUnhintedRelation⟩

end QueryCache
