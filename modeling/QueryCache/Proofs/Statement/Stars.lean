/-
QueryCache.Proofs.Statement.Stars — what is refused of named paths.

Names of columns may stand in aliases but `*` may not, and a collision makes
an alias of it when two nodes of one level are named `*`: the column, and a
relation, which a condition needs when its column is written against an alias
of `*`.  So the statement of named paths is accepted unless one of its levels
has both (`everyOf_isReadable_iff`).
-/
import QueryCache.Proofs.Select.Canonical
import QueryCache.Proofs.Statement.Accepted
import QueryCache.Proofs.Statement.Shown

namespace QueryCache

theorem Segment.IsNamed.isNameable {segment : Text} (h : IsNamed segment) :
    IsNameable segment := by
  obtain ⟨head, hnamed, hsegment⟩ := h
  refine ⟨head, ⟨?_, hnamed.hints⟩, hsegment⟩
  rcases hnamed.name with hname | ⟨hhints, hname | hname⟩
  · exact Or.inl hname.isName
  · rw [hname]
    exact Or.inl rfl
  · exact Or.inr ⟨hhints, hname⟩

/-! ## 1. Levels of a statement -/

namespace GroupedPath

mutual

/-- Every level below the entry has the property. -/
def LevelsBelow (p : List GroupedPath → Prop) : GroupedPath → Prop
  | leaf _ => True
  | nested _ paths => p paths ∧ LevelsBelowAll p paths

/-- Every level below the entries has the property. -/
def LevelsBelowAll (p : List GroupedPath → Prop) : List GroupedPath → Prop
  | [] => True
  | grouped :: rest => LevelsBelow p grouped ∧ LevelsBelowAll p rest

end

/-- Every level of the statement has the property. -/
def EveryLevel (p : List GroupedPath → Prop) (paths : List GroupedPath) : Prop :=
  p paths ∧ LevelsBelowAll p paths

section

variable (p : List GroupedPath → Prop) [DecidablePred p]

mutual

def decidableLevelsBelow : (grouped : GroupedPath) → Decidable (grouped.LevelsBelow p)
  | leaf _ => isTrue trivial
  | nested _ paths =>
    @instDecidableAnd _ _ (inferInstanceAs (Decidable (p paths))) (decidableLevelsBelowAll paths)

def decidableLevelsBelowAll : (paths : List GroupedPath) → Decidable (LevelsBelowAll p paths)
  | [] => isTrue trivial
  | grouped :: rest =>
    @instDecidableAnd _ _ (decidableLevelsBelow grouped) (decidableLevelsBelowAll rest)

end

instance : DecidablePred (EveryLevel p) := fun paths =>
  @instDecidableAnd _ _ (inferInstanceAs (Decidable (p paths))) (decidableLevelsBelowAll p paths)

end

/-- The level does not have both the column `*` and a relation of that
name. -/
def HasOneStar (level : List GroupedPath) : Prop :=
  ¬ ((false, ['*']) ∈ level.map heading ∧ (true, ['*']) ∈ level.map heading)

instance : DecidablePred HasOneStar := fun _ => inferInstanceAs (Decidable (¬ _))

theorem everyOf_append {q : Entry → Prop} {front back : List GroupedPath} :
    EveryOf q (front ++ back) ↔ EveryOf q front ∧ EveryOf q back := by
  induction front with
  | nil => simp [EveryOf]
  | cons grouped rest ih => rw [List.cons_append, EveryOf, EveryOf, ih, and_assoc]

theorem levelsBelowAll_append {p : List GroupedPath → Prop} {front back : List GroupedPath} :
    LevelsBelowAll p (front ++ back) ↔ LevelsBelowAll p front ∧ LevelsBelowAll p back := by
  induction front with
  | nil => simp [LevelsBelowAll]
  | cons grouped rest ih => rw [List.cons_append, LevelsBelowAll, LevelsBelowAll, ih, and_assoc]

end GroupedPath

namespace SelectNode

/-! ## 2. Nodes that are named `*` -/

section

variable {node : SelectNode} (h : Segment.IsNamed node.declaration)
include h

theorem splitAlias_declaration : Segment.splitAlias node.declaration = (none, node.declaration) :=
  Segment.splitAlias_of_none h.isCanonical.2

/-- A node refers to `*` only under that segment. -/
theorem name_eq_star_iff : node.name = ['*'] ↔ node.declaration = ['*'] := by
  rw [name, path, splitAlias_declaration h]
  constructor
  · intro hname
    obtain ⟨head, hnamed, hsegment⟩ := h
    rw [← hsegment] at hname ⊢
    rw [hnamed.bareName_segment] at hname
    rcases hnamed.name with hcolumn | ⟨hhints, hstar | hcount⟩
    · have hident := hcolumn.isIdentifier_upToCast
      rw [hname] at hident
      contradiction
    · rw [Head.segment, hhints, hstar, Text.join]
    · rw [hcount] at hname
      exact absurd hname (by decide)
  · intro hstar
    rw [hstar]
    decide

/-- The entry of a node is readable unless `*` collides. -/
theorem isReadable_toEntry_iff {collides : Bool}
    (hcount : collides = true → node.declaration ≠ "count()".toList) (counter : Nat) :
    (node.toEntry collides counter).1.IsReadable ↔
      (collides = true → node.declaration ≠ ['*']) := by
  have hpath : node.path = node.declaration := congrArg Prod.snd (splitAlias_declaration h)
  cases collides with
  | false =>
    have hnone : (node.toEntry false counter).1.aliasName = none :=
      congrArg Prod.fst (splitAlias_declaration h)
    simp [Entry.IsReadable, hnone]
  | true =>
    have hentry : (node.toEntry true counter).1.IsReadable ↔
        Head.isIdentifier (dedupeAlias counter node.name) = true ∧
          Segment.stripHints node.path ≠ [] := by
      simp [Entry.IsReadable, toEntry]
    rw [hentry, hpath]
    simp only [forall_const]
    constructor
    · rintro ⟨hident, -⟩ hstar
      rw [(name_eq_star_iff h).2 hstar] at hident
      have hmem : '*' ∈ dedupeAlias counter ['*'] := by simp [dedupeAlias]
      exact Head.not_mem_of_isIdentifier hident (by decide) hmem
    · intro hstar
      obtain ⟨head, hnamed, hsegment⟩ := h
      rw [name, hpath, ← hsegment, hnamed.bareName_segment, Segment.stripHints,
        Head.upTo_segment hnamed.hint_not_mem_name]
      rw [← hsegment] at hstar hcount
      rcases hnamed.name with hcolumn | ⟨hhints, hname | hname⟩
      · exact ⟨isIdentifier_dedupeAlias counter fun c hc =>
          Head.isIdentifierChar_of_mem hcolumn.isIdentifier_upToCast hc, hcolumn.ne_nil⟩
      · exact absurd (by rw [Head.segment, hhints, hname, Text.join]) hstar
      · exact absurd (by rw [Head.segment, hhints, hname, Text.join]) (hcount rfl)

end

/-- A node named `*` needs an alias exactly if a level has two. -/
theorem forall_needsAlias_iff {size : Nat} {nodes : List SelectNode}
    (h : IsLevel (fun _ => Segment.IsNamed) size nodes) (policy : DedupePolicy) :
    (∀ node ∈ nodes, node.isSuppressed = false → needsAlias policy nodes node = true →
        node.declaration ≠ ['*']) ↔
      ¬ ((false, ['*']) ∈ (emitted nodes).map heading ∧
        (true, ['*']) ∈ (emitted nodes).map heading) := by
  have hbare : ∀ node ∈ emitted nodes, node.aliasName = none := fun node hmem =>
    congrArg Prod.fst (splitAlias_declaration (h.declared node (mem_emitted_iff.1 hmem).1))
  have hname : ∀ node ∈ emitted nodes, node.declaration = ['*'] → node.name = ['*'] :=
    fun node hmem => (name_eq_star_iff (h.declared node (mem_emitted_iff.1 hmem).1)).2
  constructor
  · rintro hnone ⟨hcolumn, hrelation⟩
    obtain ⟨column, hcolumn, hcolumnHeading⟩ := List.mem_map.1 hcolumn
    obtain ⟨relation, hrelation, hrelationHeading⟩ := List.mem_map.1 hrelation
    have hcolumnStar : column.declaration = ['*'] := congrArg Prod.snd hcolumnHeading
    have hrelationStar : relation.declaration = ['*'] := congrArg Prod.snd hrelationHeading
    have hnames : column.name = relation.name :=
      (hname _ hcolumn hcolumnStar).trans (hname _ hrelation hrelationStar).symm
    have hdiffer : column.heading ≠ relation.heading := by
      rw [hcolumnHeading, hrelationHeading]
      decide
    -- The policy picks one of them at most.
    have hpicked : ∀ node ∈ emitted nodes, ∀ other ∈ emitted nodes, node.declaration = ['*'] →
        other.heading ≠ node.heading → other.name = node.name →
        ((Placed.picked? policy ⟨0, emitted nodes, node⟩).map heading = some node.heading) := by
      intro node hmem other hother hstar hne hsame
      by_contra hpassed
      obtain ⟨hin, hvisible⟩ := mem_emitted_iff.1 hmem
      refine hnone node hin hvisible ?_ hstar
      rw [needsAlias_eq h hin hvisible policy 0, decide_eq_true_iff]
      exact ⟨hbare node hmem, ⟨other, hother, hne, hbare other hother, hsame⟩, hpassed⟩
    have hfirst := hpicked column hcolumn relation hrelation hcolumnStar hdiffer.symm hnames.symm
    have hsecond := hpicked relation hrelation column hcolumn hrelationStar hdiffer hnames
    have hsame : Placed.picked? policy ⟨0, emitted nodes, column⟩ =
        Placed.picked? policy ⟨0, emitted nodes, relation⟩ := by
      simp only [Placed.picked?, Placed.namesakes, hnames]
    rw [hsame, hsecond] at hfirst
    exact hdiffer (Option.some.inj hfirst).symm
  · intro hone node hmem hvisible hneeds hstar
    have hin := mem_emitted_iff.2 ⟨hmem, hvisible⟩
    rw [needsAlias_eq h hmem hvisible policy 0, decide_eq_true_iff] at hneeds
    obtain ⟨other, hother, hdiffer, -, hsame⟩ := hneeds.shared
    have hotherStar : other.declaration = ['*'] := by
      rw [← name_eq_star_iff (h.declared other (mem_emitted_iff.1 hother).1)]
      exact hsame.trans (hname node hin hstar)
    have hheading : ∀ found ∈ emitted nodes, found.declaration = ['*'] →
        (found.isRelation, ['*']) ∈ (emitted nodes).map heading := fun found hfound heq =>
      List.mem_map.2 ⟨found, hfound, Prod.ext rfl heq⟩
    have hkinds : other.isRelation ≠ node.isRelation := fun heq =>
      hdiffer (Prod.ext heq (hotherStar.trans hstar.symm))
    have hnode := hheading node hin hstar
    have hfound := hheading other hother hotherStar
    rcases hkind : node.isRelation with _ | _
    · have hotherKind : other.isRelation = true := by simpa [hkind] using hkinds
      rw [hkind] at hnode
      rw [hotherKind] at hfound
      exact hone ⟨hnode, hfound⟩
    · have hotherKind : other.isRelation = false := by simpa [hkind] using hkinds
      rw [hkind] at hnode
      rw [hotherKind] at hfound
      exact hone ⟨hfound, hnode⟩

/-! ## 3. Statements of named paths -/

open GroupedPath (EveryOf LevelsBelowAll HasOneStar EveryLevel)

section

variable {size : Nat}

/-- Counts of named nodes do not collide. -/
theorem IsLevel.ne_count {nodes : List SelectNode}
    (h : IsLevel (fun _ => Segment.IsNamed) size nodes) {policy : DedupePolicy} :
    ∀ node ∈ nodes, needsAlias policy nodes node = true →
      node.declaration ≠ "count()".toList := by
  intro node _ hneeds
  have hnameable : IsLevel (fun _ => Segment.IsNameable) size nodes :=
    { h with declared := fun other hmem => (h.declared other hmem).isNameable }
  exact (ne_count_of_needsAlias hnameable hneeds).2

/-- A level and those below have one star each exactly if no node of it
collides as `*`, and they have. -/
theorem everyLevel_hasOneStar_iff {nodes : List SelectNode}
    (h : IsLevel (fun _ => Segment.IsNamed) size nodes) (policy : DedupePolicy)
    (chain : EmitChain) (counter : Nat) :
    EveryLevel HasOneStar
        (emitList policy chain (needsAlias policy nodes) counter nodes).grouped ↔
      (∀ node ∈ nodes, node.isSuppressed = false → needsAlias policy nodes node = true →
        node.declaration ≠ ['*']) ∧
        LevelsBelowAll HasOneStar
          (emitList policy chain (needsAlias policy nodes) counter nodes).grouped := by
  have hnone : ∀ node ∈ nodes, (Segment.splitAlias node.declaration).1 = none :=
    fun node hmem => (h.declared node hmem).isCanonical.2
  rw [forall_needsAlias_iff h policy, EveryLevel, HasOneStar, map_heading_emitList hnone]
  rfl

mutual

/-- The entries that a node emits are readable unless it collides as `*`, or
a level below has two. -/
theorem everyOf_isReadable_emit (policy : DedupePolicy) (chain : EmitChain) (collides : Bool)
    (counter : Nat) : (node : SelectNode) → Segment.IsNamed node.declaration →
    IsOrderly (fun _ => Segment.IsNamed) size node →
    (collides = true → node.declaration ≠ "count()".toList) →
    (EveryOf Entry.IsReadable (emit policy chain collides counter node).grouped ↔
      (collides = true → node.declaration ≠ ['*']) ∧
        LevelsBelowAll HasOneStar (emit policy chain collides counter node).grouped)
  | leaf index declaration, hnamed, _, hcount => by
    rw [emit]
    simp only [EveryOf, GroupedPath.Every, LevelsBelowAll, GroupedPath.LevelsBelow, and_true,
      isReadable_toEntry_iff hnamed hcount]
  | relation index declaration children, hnamed, horderly, hcount => by
    rw [IsOrderly] at horderly
    have hbelow : ∀ chain counter, EveryOf Entry.IsReadable
        (emitList policy chain (needsAlias policy children) counter children).grouped ↔
          EveryLevel HasOneStar
            (emitList policy chain (needsAlias policy children) counter children).grouped :=
      fun chain counter =>
        (everyOf_isReadable_emitList policy chain _ counter children horderly.1.declared
          horderly.2 horderly.1.ne_count).trans
            (everyLevel_hasOneStar_iff horderly.1 policy chain counter).symm
    rw [emit]
    simp only [EveryOf, GroupedPath.Every, LevelsBelowAll, GroupedPath.LevelsBelow, and_true,
      isReadable_toEntry_iff hnamed hcount, hbelow]
    rfl

theorem everyOf_isReadable_emitList (policy : DedupePolicy) (chain : EmitChain)
    (collides : SelectNode → Bool) (counter : Nat) : (nodes : List SelectNode) →
    (∀ node ∈ nodes, Segment.IsNamed node.declaration) →
    AreOrderly (fun _ => Segment.IsNamed) size nodes →
    (∀ node ∈ nodes, collides node = true → node.declaration ≠ "count()".toList) →
    (EveryOf Entry.IsReadable (emitList policy chain collides counter nodes).grouped ↔
      (∀ node ∈ nodes, node.isSuppressed = false → collides node = true →
        node.declaration ≠ ['*']) ∧
        LevelsBelowAll HasOneStar (emitList policy chain collides counter nodes).grouped)
  | [], _, _, _ => by
    rw [emitList]
    simp [EveryOf, LevelsBelowAll]
  | node :: rest, hnamed, horderly, hcount => by
    rw [AreOrderly] at horderly
    rw [List.forall_mem_cons] at hnamed hcount
    have hrest : ∀ counter, EveryOf Entry.IsReadable
        (emitList policy chain collides counter rest).grouped ↔ _ := fun counter =>
      everyOf_isReadable_emitList policy chain collides counter rest hnamed.2 horderly.2 hcount.2
    rw [emitList, List.forall_mem_cons]
    split
    · rename_i hnode
      rw [hrest counter, hnode]
      simp
    · rename_i hnode
      have hvisible : node.isSuppressed = false := by simpa using hnode
      have hfirst := everyOf_isReadable_emit policy chain (collides node) counter node hnamed.1
        horderly.1 hcount.1
      simp only [GroupedPath.everyOf_append, GroupedPath.levelsBelowAll_append, hfirst, hrest,
        hvisible, forall_const]
      exact and_and_and_comm

end

end

end SelectNode

/-- The statement of named paths is accepted exactly if no level has both the
column `*` and a relation of that name. -/
theorem everyOf_isReadable_iff {paths : List Path}
    (h : ∀ path ∈ paths, path.declaration.IsNamedPath) (policy : DedupePolicy) :
    GroupedPath.EveryOf Entry.IsReadable (buildStatement paths policy).grouped ↔
      GroupedPath.EveryLevel GroupedPath.HasOneStar (buildStatement paths policy).grouped := by
  obtain ⟨hlevel, horderly⟩ := SelectTree.ofPaths_declared (p := fun _ => Segment.IsNamed)
    fun path hmem => SelectNode.isDeclaredChain_of_forall (Text.splitOn_ne_nil _ _)
      fun segment hsegment _ => h path hmem segment hsegment
  exact (SelectNode.everyOf_isReadable_emitList policy {} _ 0 _ hlevel.declared horderly
    hlevel.ne_count).trans (SelectNode.everyLevel_hasOneStar_iff hlevel policy {} 0).symm

end QueryCache
