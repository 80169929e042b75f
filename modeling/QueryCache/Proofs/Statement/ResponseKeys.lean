/-
QueryCache.Proofs.Statement.ResponseKeys — siblings answer under keys of
their own.

An alias that a collision makes up carries the value of a counter that only
grows, so no two of them agree (`dedupeAlias_injective`); it has a form that
plain names are assumed not to have.  Of the siblings that refer to one name
only the one that the policy picked goes without such an alias
(`eq_of_needsAlias`).  So on every level that a tree emits the keys are
distinct, and every level of a statement is one that its tree emits
(`exists_nodes_of_isLevelOf`).
-/
import QueryCache.Proofs.Statement.Emitted
import QueryCache.Proofs.Statement.Levels

namespace QueryCache

/-! ## 1. Made up aliases -/

/-- The form of the aliases that collisions make up: `d_<digits>_...`. -/
def Text.IsGenerated (name : Text) : Prop :=
  ∃ digits rest, digits ≠ [] ∧ (∀ c ∈ digits, c.isDigit = true) ∧
    name = "d_".toList ++ digits ++ '_' :: rest

theorem Text.isDigit_of_mem_ofNat {number : Nat} {c : Char} (h : c ∈ Text.ofNat number) :
    c.isDigit = true :=
  Nat.isDigit_of_mem_toDigits (by decide) (by decide) h

theorem isGenerated_dedupeAlias (number : Nat) (name : Text) :
    (dedupeAlias number name).IsGenerated :=
  ⟨Text.ofNat number, name, Nat.toDigits_ne_nil, fun _ => Text.isDigit_of_mem_ofNat, rfl⟩

/-- The form is checked on the longest run of digits. -/
theorem Text.isGenerated_iff {name : Text} : name.IsGenerated ↔
    name.take 2 = "d_".toList ∧ (name.drop 2).takeWhile Char.isDigit ≠ [] ∧
      ((name.drop 2).dropWhile Char.isDigit).head? = some '_' := by
  constructor
  · rintro ⟨digits, rest, hne, hdigits, rfl⟩
    have hdrop : ("d_".toList ++ digits ++ '_' :: rest).drop 2 = digits ++ '_' :: rest := rfl
    have hmark : Char.isDigit '_' = false := by decide
    refine ⟨rfl, ?_, ?_⟩
    · rw [hdrop, List.takeWhile_append_of_pos hdigits]
      simp [hne]
    · rw [hdrop, List.dropWhile_append_of_pos hdigits, List.dropWhile_cons_of_neg (by simp [hmark])]
      rfl
  · rintro ⟨hmark, hne, hhead⟩
    obtain ⟨rest, hrest⟩ := List.head?_eq_some_iff.1 hhead
    refine ⟨_, rest, hne, fun c hc => List.mem_takeWhile_imp hc, ?_⟩
    rw [← hrest, List.append_assoc, List.takeWhile_append_dropWhile, ← hmark,
      List.take_append_drop]

instance : DecidablePred Text.IsGenerated := fun _ => decidable_of_iff _ Text.isGenerated_iff.symm

/-- Made up aliases of different numbers differ, whatever they stand for. -/
theorem dedupeAlias_injective {number other : Nat} {name otherName : Text}
    (h : dedupeAlias number name = dedupeAlias other otherName) : number = other := by
  have hdigits : ∀ (n : Nat) (rest : Text),
      (Text.ofNat n ++ '_' :: rest).takeWhile Char.isDigit = Text.ofNat n := by
    intro n rest
    rw [List.takeWhile_append_of_pos fun c hc => Text.isDigit_of_mem_ofNat hc,
      List.takeWhile_cons_of_neg (by decide), List.append_nil]
  simp only [dedupeAlias, List.append_assoc] at h
  have htail := List.append_cancel_left h
  have hsame : Text.ofNat number = Text.ofNat other := by
    rw [← hdigits number name, htail, hdigits]
  have hread := congrArg (fun digits => Nat.ofDigitChars 10 digits 0) hsame
  simpa [Text.ofNat] using hread

/-! ## 2. Levels of a statement -/

/-- The level of a statement with these entries at the top: the top itself,
or what is nested in an entry of a level. -/
inductive GroupedPath.IsLevelOf (top : List GroupedPath) : List GroupedPath → Prop where
  | top : IsLevelOf top top
  | inside {level paths : List GroupedPath} {entry : Entry} (hlevel : IsLevelOf top level)
    (hmem : nested entry paths ∈ level) : IsLevelOf top paths

namespace SelectNode

open GroupedPath (IsLevelOf responseKey)

section

variable (policy : DedupePolicy)

mutual

/-- The counter only grows, and it grows with each alias that is made up. -/
theorem counter_le_emit (chain : EmitChain) (collides : Bool) (counter : Nat) :
    (node : SelectNode) →
    (if collides then counter + 1 else counter) ≤ (emit policy chain collides counter node).counter
  | leaf index declaration => by
    rw [emit]
    exact Nat.le_refl _
  | relation index declaration children => by
    rw [emit]
    exact counter_le_emitList _ _ _ children

theorem counter_le_emitList (chain : EmitChain) (collides : SelectNode → Bool) (counter : Nat) :
    (nodes : List SelectNode) → counter ≤ (emitList policy chain collides counter nodes).counter
  | [] => by rw [emitList]
  | node :: rest => by
    rw [emitList]
    split
    · exact counter_le_emitList chain collides counter rest
    · have hfirst := counter_le_emit chain (collides node) counter node
      have hothers := counter_le_emitList chain collides
        (emit policy chain (collides node) counter node).counter rest
      refine Nat.le_trans ?_ hothers
      split at hfirst <;> omega

end

variable {policy} {chain : EmitChain} {collides : SelectNode → Bool} {counter : Nat}
  {nodes : List SelectNode}

/-- An emitted entry stems from a node that is not suppressed. -/
theorem exists_node_of_mem {grouped : GroupedPath}
    (h : grouped ∈ (emitList policy chain collides counter nodes).grouped) :
    ∃ node ∈ nodes, node.isSuppressed = false ∧ ∃ number, counter ≤ number ∧
      (emit policy chain (collides node) number node).grouped = [grouped] := by
  induction nodes generalizing counter with
  | nil => simp [emitList] at h
  | cons node rest ih =>
    rw [emitList] at h
    split at h
    · obtain ⟨other, hmem, hother⟩ := ih h
      exact ⟨other, List.mem_cons_of_mem _ hmem, hother⟩
    · rename_i hnode
      rcases List.mem_append.1 h with hfirst | hothers
      · obtain ⟨first, hgrouped, -⟩ := exists_emit policy chain (collides node) counter node
        rw [hgrouped] at hfirst
        obtain rfl := List.mem_singleton.1 hfirst
        exact ⟨node, List.mem_cons_self, by simpa using hnode, counter, Nat.le_refl _, hgrouped⟩
      · obtain ⟨other, hmem, hvisible, number, hnumber, hother⟩ := ih hothers
        have hgrown := counter_le_emit policy chain (collides node) counter node
        refine ⟨other, List.mem_cons_of_mem _ hmem, hvisible, number, ?_, hother⟩
        split at hgrown <;> omega

/-! ## 3. Keys -/

/-- An entry answers under a made up alias, or under what its node says. -/
theorem responseKey_of_emit {node : SelectNode} {number : Nat} {grouped : GroupedPath}
    {aliased : Bool} (h : (emit policy chain aliased number node).grouped = [grouped]) :
    grouped.responseKey =
      if aliased then dedupeAlias number node.name else node.aliasName.getD node.name := by
  obtain ⟨first, hfirst, hentry⟩ := exists_emit policy chain aliased number node
  rw [hfirst, List.singleton_inj] at h
  rw [← h, GroupedPath.responseKey, hentry]
  cases aliased <;> rfl

/-- Entries that need no alias answer under distinct plain names, and all
others under made up aliases of distinct numbers. -/
theorem nodup_responseKey_emitList
    (hplain : ∀ node ∈ nodes, node.aliasName = none ∧ ¬ node.name.IsGenerated)
    (hnames : nodes.Pairwise fun node other => node.isSuppressed = false →
      other.isSuppressed = false → collides node = false → collides other = false →
      node.name ≠ other.name) :
    ((emitList policy chain collides counter nodes).grouped.map responseKey).Nodup := by
  induction nodes generalizing counter with
  | nil => simp [emitList]
  | cons node rest ih =>
    obtain ⟨hothers, hrest⟩ := List.pairwise_cons.1 hnames
    have hrestPlain : ∀ other ∈ rest, other.aliasName = none ∧ ¬ other.name.IsGenerated :=
      fun other hmem => hplain other (List.mem_cons_of_mem _ hmem)
    rw [emitList]
    split
    · exact ih hrestPlain hrest
    · rename_i hnode
      have hvisible : node.isSuppressed = false := by simpa using hnode
      obtain ⟨first, hfirst, -⟩ := exists_emit policy chain (collides node) counter node
      have hkey := responseKey_of_emit hfirst
      have hgrown := counter_le_emit policy chain (collides node) counter node
      simp only [hfirst, List.singleton_append, List.map_cons, List.nodup_cons]
      refine ⟨fun hmem => ?_, ih hrestPlain hrest⟩
      obtain ⟨grouped, hgrouped, hsame⟩ := List.mem_map.1 hmem
      obtain ⟨other, hmem, hotherVisible, number, hnumber, hother⟩ := exists_node_of_mem hgrouped
      have hotherKey := responseKey_of_emit hother
      rw [hkey, hotherKey] at hsame
      obtain ⟨hnone, hown⟩ := hplain node List.mem_cons_self
      obtain ⟨hotherNone, hotherOwn⟩ := hrestPlain other hmem
      rw [hnone, hotherNone, Option.getD_none, Option.getD_none] at hsame
      rcases hcollides : collides node with _ | _ <;>
        rcases hotherCollides : collides other with _ | _ <;>
        simp only [hcollides, hotherCollides, Bool.false_eq_true, if_true, if_false] at hsame hgrown
      · exact hothers other hmem hvisible hotherVisible hcollides hotherCollides hsame.symm
      · exact hown (hsame ▸ isGenerated_dedupeAlias number other.name)
      · exact hotherOwn (hsame ▸ isGenerated_dedupeAlias counter node.name)
      · have heq := dedupeAlias_injective hsame
        rw [hcollides] at hnumber
        omega

end

/-- Of the siblings that refer to one name one at most goes without an
alias: the one that the policy picked. -/
theorem eq_of_needsAlias {policy : DedupePolicy} {siblings : List SelectNode}
    (hages : (siblings.map index).Nodup) {node other : SelectNode} (hmem : node ∈ siblings)
    (hother : other ∈ siblings) (hvisible : node.isSuppressed = false)
    (hotherVisible : other.isSuppressed = false) (hnone : node.aliasName = none)
    (hotherNone : other.aliasName = none) (hneeds : needsAlias policy siblings node = false)
    (hotherNeeds : needsAlias policy siblings other = false) (hname : node.name = other.name) :
    node = other := by
  by_contra hne
  have hgroup : node ∈ group node.name siblings := by
    simp [group, hmem, hvisible, hnone]
  have hotherGroup : other ∈ group node.name siblings := by
    simp [group, hother, hotherVisible, hotherNone, hname]
  have hmany : 1 < (group node.name siblings).length := by
    rcases hmembers : group node.name siblings with _ | ⟨first, _ | ⟨second, rest⟩⟩
    · simp [hmembers] at hgroup
    · rw [hmembers, List.mem_singleton] at hgroup hotherGroup
      exact absurd (hgroup.trans hotherGroup.symm) hne
    · simp
  -- Both stand at the place that the policy picked.
  have hpick := hneeds
  have hotherPick := hotherNeeds
  simp only [needsAlias, hnone, hotherNone, ← hname, hmany, Option.isNone_none, decide_true,
    Bool.true_and, bne_eq_false_iff_eq] at hpick hotherPick
  have hplace := hpick.trans hotherPick.symm
  obtain ⟨place, hfound⟩ : ∃ place,
      (group node.name siblings).findIdx? (·.index == node.index) = some place := by
    rw [← Option.isSome_iff_exists, List.findIdx?_isSome, List.any_eq_true]
    exact ⟨node, hgroup, by simp⟩
  have hotherFound := hplace.symm.trans hfound
  obtain ⟨_, hindex, -⟩ := List.findIdx?_eq_some_iff_getElem.1 hfound
  obtain ⟨_, hotherIndex, -⟩ := List.findIdx?_eq_some_iff_getElem.1 hotherFound
  simp only [beq_iff_eq] at hindex hotherIndex
  exact hne (List.inj_on_of_nodup_map hages hmem hother (hindex.symm.trans hotherIndex))

/-! ## 4. Every level -/

/-- The property of segments that declare no alias and no made up name. -/
def IsOwnName (_isRelation : Bool) (segment : Text) : Prop :=
  (Segment.splitAlias segment).1 = none ∧ ¬ (Segment.bareName segment).IsGenerated

/-- The siblings of a level of such segments answer under distinct keys. -/
theorem IsLevel.nodup_responseKey {size : Nat} {nodes : List SelectNode}
    (h : IsLevel IsOwnName size nodes) (policy : DedupePolicy) (chain : EmitChain)
    (counter : Nat) :
    ((emitList policy chain (needsAlias policy nodes) counter nodes).grouped.map
      responseKey).Nodup := by
  have hplain : ∀ node ∈ nodes, node.aliasName = none ∧ ¬ node.name.IsGenerated := by
    intro node hmem
    obtain ⟨halias, hname⟩ := h.declared node hmem
    refine ⟨halias, ?_⟩
    rwa [name, path, Segment.splitAlias_of_none halias]
  refine nodup_responseKey_emitList hplain ?_
  have hdistinct : nodes.Pairwise (· ≠ ·) := List.Nodup.of_map _ h.ages
  refine hdistinct.imp_of_mem fun {node other} hmem hother hne hvisible hotherVisible hneeds
    hotherNeeds hname => hne ?_
  exact eq_of_needsAlias h.ages hmem hother hvisible hotherVisible (hplain node hmem).1
    (hplain other hother).1 hneeds hotherNeeds hname

/-- Every level of what an orderly tree emits is emitted by a level of the
tree. -/
theorem exists_nodes_of_isLevelOf {p : Bool → Text → Prop} {size : Nat} {policy : DedupePolicy}
    {nodes : List SelectNode} (hlevel : IsLevel p size nodes) (horderly : AreOrderly p size nodes)
    {chain : EmitChain} {counter : Nat} {level : List GroupedPath}
    (h : IsLevelOf (emitList policy chain (needsAlias policy nodes) counter nodes).grouped level) :
    ∃ inner chain counter, IsLevel p size inner ∧ AreOrderly p size inner ∧
      level = (emitList policy chain (needsAlias policy inner) counter inner).grouped := by
  induction h with
  | top => exact ⟨nodes, chain, counter, hlevel, horderly, rfl⟩
  | inside _ hmem ih =>
    obtain ⟨inner, chain, counter, -, hinner, rfl⟩ := ih
    obtain ⟨node, hnode, -, number, -, hgrouped⟩ := exists_node_of_mem hmem
    have hbelow := areOrderly_iff.1 hinner node hnode
    cases node with
    | leaf index declaration =>
      rw [emit] at hgrouped
      simp at hgrouped
    | relation index declaration children =>
      rw [IsOrderly] at hbelow
      rw [emit] at hgrouped
      simp only [List.cons.injEq, GroupedPath.nested.injEq, and_true] at hgrouped
      exact ⟨children, _, _, hbelow.1, hbelow.2, hgrouped.2.symm⟩

end SelectNode

/-- No two siblings of a statement answer under one key, whatever the policy
picks. -/
theorem nodup_responseKey_buildStatement (policy : DedupePolicy) {paths : List Path}
    (halias : ∀ path ∈ paths, ∀ segment ∈ Text.splitOn '.' path.declaration,
      (Segment.splitAlias segment).1 = none)
    (hname : ∀ path ∈ paths, ∀ segment ∈ Text.splitOn '.' path.declaration,
      ¬ (Segment.bareName segment).IsGenerated)
    {level : List GroupedPath}
    (h : GroupedPath.IsLevelOf (buildStatement paths policy).grouped level) :
    (level.map GroupedPath.responseKey).Nodup := by
  obtain ⟨hlevel, horderly⟩ := SelectTree.ofPaths_declared fun path hmem =>
    SelectNode.isDeclaredChain_of_forall (p := SelectNode.IsOwnName) (Text.splitOn_ne_nil _ _)
      fun segment hsegment _ =>
        ⟨halias path hmem segment hsegment, hname path hmem segment hsegment⟩
  obtain ⟨nodes, chain, counter, hnodes, -, rfl⟩ :=
    SelectNode.exists_nodes_of_isLevelOf hlevel horderly h
  exact hnodes.nodup_responseKey policy chain counter

/-- A number as it is and as a text, beside two expansions of it, one of
which selects a column in the same two ways. -/
def numberPaths : List Path :=
  ["note_id", "note_id::text", "note_id.id", "note_id.id::text", "note_id!inner.id"].map
    fun name : String => .ofText name.toList

/-- Each sibling answers under a key of its own. -/
example : (buildStatement numberPaths firstSeen).statement =
    "note_id,d_0_note_id:note_id::text,d_1_note_id:note_id(id,d_2_id:id::text),".toList ++
      "d_3_note_id:note_id!inner(id)".toList := by
  decide +kernel

theorem nodup_responseKey_numberPaths :
    (∀ path ∈ numberPaths, ∀ segment ∈ Text.splitOn '.' path.declaration,
        (Segment.splitAlias segment).1 = none) ∧
      (∀ path ∈ numberPaths, ∀ segment ∈ Text.splitOn '.' path.declaration,
        ¬ (Segment.bareName segment).IsGenerated) ∧
      GroupedPath.IsLevelOf (buildStatement numberPaths firstSeen).grouped
        (buildStatement numberPaths firstSeen).grouped ∧
      ((buildStatement numberPaths firstSeen).grouped.map GroupedPath.responseKey).Nodup := by
  have halias : ∀ path ∈ numberPaths, ∀ segment ∈ Text.splitOn '.' path.declaration,
      (Segment.splitAlias segment).1 = none := by decide
  have hname : ∀ path ∈ numberPaths, ∀ segment ∈ Text.splitOn '.' path.declaration,
      ¬ (Segment.bareName segment).IsGenerated := by decide +kernel
  exact ⟨halias, hname, .top, nodup_responseKey_buildStatement firstSeen halias hname .top⟩

end QueryCache
