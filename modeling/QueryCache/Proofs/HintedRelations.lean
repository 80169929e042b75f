/-
QueryCache.Proofs.HintedRelations — relations that share a bare name.

Relations of one name under different hints are told apart by their segments:
each of them finds in the flat row what stands under its own segment, or the
columns below it.  But where nothing stands under the segment of a hinted
relation, because it leads to one record, the bare name is looked up, which is
the segment of the relation without hints.  So the answer of a record tells
the relations of a level apart when these leave the bare name alone
(`Record.TellsApart`), as they do when they all have hints
(`Record.tellsAllApart_of_areNamedApart`).  Then the flat rows gather what the
records answer (`Slot.gathers_apart`), and the caller gets for each relation
its own data (`denormalizeResponse_apart`).
-/
import QueryCache.Proofs.Reshape.Gathered
import QueryCache.Proofs.Reshape.LastWritten
import QueryCache.Proofs.Statement.ReadBack

namespace QueryCache

/-! ## 1. Statements in which names collide -/

namespace GroupedPath

theorem mem_leafChainsOf {chain : List Text} {paths : List GroupedPath} :
    chain ∈ leafChainsOf paths ↔ ∃ grouped ∈ paths, chain ∈ leafChains grouped := by
  induction paths with
  | nil => simp [leafChainsOf]
  | cons grouped rest ih => simp [leafChainsOf, ih]

theorem ne_nil_of_mem_leafChainsOf {chain : List Text} {paths : List GroupedPath}
    (h : chain ∈ leafChainsOf paths) : chain ≠ [] := by
  obtain ⟨grouped, -, hchain⟩ := mem_leafChainsOf.1 h
  cases grouped with
  | leaf entry =>
    rw [leafChains, List.mem_singleton] at hchain
    simp [hchain]
  | nested entry inner =>
    rw [leafChains] at hchain
    obtain ⟨below, -, rfl⟩ := List.mem_map.1 hchain
    exact List.cons_ne_nil _ _

/-- The chains of the leaves lead to them. -/
theorem leadsTo_of_mem_leafChainsOf {chain : List Text} {paths : List GroupedPath}
    (h : chain ∈ leafChainsOf paths) : LeadsTo chain paths := by
  obtain ⟨grouped, hmem, hchain⟩ := mem_leafChainsOf.1 h
  cases grouped with
  | leaf entry =>
    rw [leafChains, List.mem_singleton] at hchain
    rw [hchain]
    exact ⟨entry, hmem, rfl⟩
  | nested entry inner =>
    rw [leafChains] at hchain
    obtain ⟨below, hbelow, rfl⟩ := List.mem_map.1 hchain
    obtain ⟨next, rest, rfl⟩ := List.exists_cons_of_ne_nil (ne_nil_of_mem_leafChainsOf hbelow)
    exact ⟨entry, inner, hmem, rfl, leadsTo_of_mem_leafChainsOf hbelow⟩
termination_by chain.length

/-- Siblings that declare plain heads and answer under keys of their own.
There is something below every relation. -/
structure AreDeclared (level : List GroupedPath) : Prop extends AreSiblings level where
  head : ∀ grouped ∈ level, ∃ head : Head, head.IsPlain ∧ head.IsSpelled ∧
    grouped.entry = .ofHead head
  nonempty : ∀ entry inner, nested entry inner ∈ level → inner ≠ []
  keys : (level.map responseKey).Nodup

end GroupedPath

/-- The text of a head is kept, and its alias is read off. -/
theorem Head.ofWritten_parts (written : Text) :
    (ofWritten written).written = written ∧
      (ofWritten written).aliasName = (Segment.splitAlias written).1 := by
  rw [ofWritten]
  dsimp only
  split <;> exact ⟨rfl, rfl⟩

namespace SelectNode

/-- A plain segment is that of a plain head. -/
theorem isOf_ofWritten {node : SelectNode} (h : Segment.isPlain node.declaration = true) :
    (Head.ofWritten node.declaration).IsPlain ∧ node.IsOf (Head.ofWritten node.declaration) := by
  have hentry : GroupedPath.IsPlainEntry (.bare node.declaration) :=
    GroupedPath.isPlainEntry_segment h
  have hplain : (Head.ofWritten node.declaration).IsPlain := GroupedPath.isPlain_ofWritten hentry
  have hsegment := (GroupedPath.ofWritten_segment h).1
  have hpath : node.path = (Head.ofWritten node.declaration).segment := by
    rw [path, Segment.splitAlias_of_isPlain h, hsegment]
  refine ⟨hplain, hplain.isNamed, (Head.ofWritten_parts _).2.symm, hpath, ?_,
    fun _ => .plain hplain.name⟩
  rw [name, hpath, hplain.isNamed.bareName_segment]

/-- A node of a plain segment is emitted as a plain head, whether it collides
or not. -/
theorem exists_plain_of_emit {policy : DedupePolicy} {chain : EmitChain} {collides : Bool}
    {counter : Nat} {node : SelectNode} {grouped : GroupedPath}
    (h : Segment.isPlain node.declaration = true)
    (hgrouped : (emit policy chain collides counter node).grouped = [grouped]) :
    ∃ head : Head, head.IsPlain ∧ head.IsSpelled ∧ grouped.entry = .ofHead head := by
  obtain ⟨hplain, hhead⟩ := isOf_ofWritten h
  have hname : Head.isIdentifier node.name = true := by
    rw [hhead.name_eq]
    exact (Head.IsColumnName.plain hplain.name).isIdentifier_upToCast
  obtain ⟨aliasName, halias, hentry⟩ := exists_toEntry hhead (fun _ => hname) counter
  obtain ⟨first, hfirst, hdeclared⟩ := exists_emit policy chain collides counter node
  rw [hgrouped, List.singleton_inj] at hfirst
  subst hfirst
  exact ⟨(Head.ofWritten node.declaration).aliasedAs aliasName,
    ⟨halias, hplain.name, hplain.hints⟩, Head.isSpelled_aliasedAs _ aliasName,
    hdeclared.trans hentry⟩

/-- An emitted relation has something below it. -/
theorem inner_ne_nil_of_emit {policy : DedupePolicy} {chain : EmitChain} {collides : Bool}
    {counter : Nat} {node : SelectNode} {entry : Entry} {inner : List GroupedPath}
    (hvisible : node.isSuppressed = false)
    (hgrouped : (emit policy chain collides counter node).grouped = [.nested entry inner]) :
    inner ≠ [] := by
  cases node with
  | leaf index declaration =>
    rw [emit] at hgrouped
    simp at hgrouped
  | relation index declaration children =>
    rw [emit] at hgrouped
    simp only [List.cons.injEq, GroupedPath.nested.injEq, and_true] at hgrouped
    rw [← hgrouped.2]
    intro hnil
    rw [isSuppressed, grouped_eq_nil_iff.1 hnil] at hvisible
    contradiction

end SelectNode

section

variable {paths : List Path} (hbare : ∀ path ∈ paths, path.IsBare)
include hbare

/-- The declarations of bare paths are chains of plain segments. -/
theorem isPlain_of_mem_splitOn : ∀ path ∈ paths, ∀ segment ∈ Text.splitOn '.' path.declaration,
    Segment.isPlain segment = true := by
  intro path hmem segment hsegment
  obtain ⟨chain, hne, hchain, rfl⟩ := hbare path hmem
  rw [Path.ofText, Text.splitOn_join hne fun part hpart =>
    Segment.not_mem_of_isPlain (hchain part hpart) (by decide) (by decide)] at hsegment
  exact hchain segment hsegment

theorem isCanonicalPath_of_isBare : ∀ path ∈ paths, path.declaration.IsCanonicalPath := by
  intro path hmem segment hsegment
  have hplain := isPlain_of_mem_splitOn hbare path hmem segment hsegment
  exact ⟨Segment.ne_nil_of_isPlain hplain, by rw [Segment.splitAlias_of_isPlain hplain]⟩

variable (policy : DedupePolicy)

/-- The statement of bare paths reads back, whatever collides. -/
theorem selectFields_buildStatement (hne : (buildStatement paths policy).grouped ≠ []) :
    selectFields (buildStatement paths policy).statement =
      .ok (GroupedPath.toFields (buildStatement paths policy).grouped) := by
  have hdeclared : ∀ path ∈ paths,
      SelectNode.IsDeclaredChain Head.Declares (Text.splitOn '.' path.declaration) := by
    intro path hmem
    refine SelectNode.isDeclaredChain_of_forall (Text.splitOn_ne_nil _ _)
      fun segment hsegment isRelation => ?_
    have hentry : GroupedPath.IsPlainEntry (.bare segment) :=
      GroupedPath.isPlainEntry_segment (isPlain_of_mem_splitOn hbare path hmem segment hsegment)
    have hplain := GroupedPath.isPlain_ofWritten hentry
    exact ⟨Head.ofWritten segment, hplain.isNamed,
      (Head.isSpelled_ofWritten segment).symm.trans (Head.ofWritten_parts segment).1,
      fun _ => .plain hplain.name⟩
  exact GroupedPath.selectFields_readBack hne (isRead_buildStatement hdeclared policy).readsBack

/-- Its levels are declared, if no two entries of a level answer under one
key. -/
theorem areDeclared_buildStatement
    (hkeys : ∀ level, GroupedPath.IsLevelOf (buildStatement paths policy).grouped level →
      (level.map GroupedPath.responseKey).Nodup)
    {level : List GroupedPath}
    (h : GroupedPath.IsLevelOf (buildStatement paths policy).grouped level) :
    GroupedPath.AreDeclared level := by
  have hsiblings := areSiblings_buildStatement policy (isCanonicalPath_of_isBare hbare)
    (fun path hmem hstar =>
      Segment.ne_star_of_isPlain (isPlain_of_mem_splitOn hbare path hmem _ hstar) rfl) h
  have hdistinct := hkeys level h
  obtain ⟨hlevel, horderly⟩ := SelectTree.ofPaths_declared fun path hmem =>
    SelectNode.isDeclaredChain_of_forall (p := fun _ segment => Segment.isPlain segment = true)
      (Text.splitOn_ne_nil _ _) fun segment hsegment _ =>
        isPlain_of_mem_splitOn hbare path hmem segment hsegment
  obtain ⟨nodes, chain, counter, hnodes, -, rfl⟩ :=
    SelectNode.exists_nodes_of_isLevelOf hlevel horderly h
  refine ⟨hsiblings, fun grouped hmem => ?_, fun entry inner hmem => ?_, hdistinct⟩
  · obtain ⟨node, hnode, -, number, -, hgrouped⟩ := SelectNode.exists_node_of_mem hmem
    exact SelectNode.exists_plain_of_emit (hnodes.declared node hnode) hgrouped
  · obtain ⟨node, -, hvisible, number, -, hgrouped⟩ := SelectNode.exists_node_of_mem hmem
    exact SelectNode.inner_ne_nil_of_emit hvisible hgrouped

end

/-! ## 2. Flat answers -/

theorem Fields.ofList_ne_nil {α : Type} {entries : List (Text × α)} (h : entries ≠ []) :
    ofList entries ≠ [] := by
  intro hnil
  have hlast := get?_ofList_append (entries.getLast h).1 entries.dropLast [entries.getLast h]
  rw [List.dropLast_concat_getLast, hnil] at hlast
  simp [ofList, get?_nil] at hlast

namespace GroupedPath

/-- An entry's value stands under its segment when no entry of the other kind
writes there. -/
theorem AreSiblings.lastColumn?_of_mem {level : List GroupedPath} (h : AreSiblings level)
    {row : Fields Json} {grouped : GroupedPath} (hmem : grouped ∈ level) {value : Json}
    (hvalue : grouped.ownColumn? row = some value)
    (hothers : ∀ other ∈ level, other.entry.path = grouped.entry.path →
      other.heading ≠ grouped.heading → other.ownColumn? row = none) :
    lastColumn? row grouped.entry.path level = some value := by
  obtain ⟨front, back, rfl⟩ := List.append_of_mem hmem
  exact lastColumn?_eq hvalue fun other hother hpath =>
    hothers other (by simp [hother]) hpath (h.heading_ne other (List.mem_append_right _ hother))

theorem exists_of_lastColumn? {row : Fields Json} {segment : Text} {paths : List GroupedPath}
    {value : Json} (h : lastColumn? row segment paths = some value) :
    ∃ grouped ∈ paths, grouped.entry.path = segment ∧ grouped.ownColumn? row = some value := by
  induction paths with
  | nil => contradiction
  | cons grouped rest ih =>
    rw [lastColumn?, Option.or_eq_some_iff] at h
    rcases h with hrest | ⟨-, hfirst⟩
    · obtain ⟨other, hmem, hother⟩ := ih hrest
      exact ⟨other, List.mem_cons_of_mem _ hmem, hother⟩
    · split at hfirst
      · rename_i hpath
        exact ⟨grouped, List.mem_cons_self, hpath, hfirst⟩
      · contradiction

/-- What a record answers for entries. -/
def answered (record : Record) (paths : List GroupedPath) : Fields Json :=
  Fields.ofList (Field.answers record (toFields paths))

theorem toField_of_head {grouped : GroupedPath} {head : Head} (hplain : head.IsPlain)
    (hspelled : head.IsSpelled) (hentry : grouped.entry = .ofHead head) :
    grouped.toField.head = head ∧ head.segment = grouped.entry.path ∧
      head.effectiveName = grouped.responseKey := by
  have hwritten : Head.ofWritten grouped.entry.declaration = head := by
    rw [hentry]
    exact Head.IsOwn.ofWritten_written ⟨hplain.isNamed, hspelled⟩
  refine ⟨?_, by rw [hentry]; rfl, ?_⟩
  · cases grouped <;> exact hwritten
  · rw [responseKey, hentry, Entry.ofHead, Head.effectiveName, hplain.isNamed.bareName_segment]

section

variable {paths : List GroupedPath} (h : AreDeclared paths)
include h

theorem toField_of_mem {grouped : GroupedPath} (hmem : grouped ∈ paths) :
    grouped.toField.head.segment = grouped.entry.path ∧
      grouped.toField.key = grouped.responseKey := by
  obtain ⟨head, hplain, hspelled, hentry⟩ := h.head grouped hmem
  obtain ⟨hhead, hsegment, hname⟩ := toField_of_head hplain hspelled hentry
  exact ⟨hhead ▸ hsegment, (congrArg Head.effectiveName hhead).trans hname⟩

/-- The answer holds the value of each entry under its key. -/
theorem get?_answered (record : Record) {grouped : GroupedPath} (hmem : grouped ∈ paths) :
    Fields.get? grouped.responseKey (answered record paths) =
      some (grouped.toField.answer record) := by
  have hanswers : Field.answers record (toFields paths) =
      paths.map fun grouped => (grouped.responseKey, grouped.toField.answer record) := by
    rw [Field.answers_eq_map, toFields_eq_map, List.map_map]
    refine List.map_congr_left fun other hother => ?_
    exact congrArg (·, other.toField.answer record) (toField_of_mem h hother).2
  rw [answered, hanswers]
  refine Fields.get?_ofList ?_ (List.mem_map_of_mem hmem)
  exact List.pairwise_map.2 (List.pairwise_map.1 h.keys)

theorem get?_answered_leaf (record : Record) {entry : Entry} (hmem : leaf entry ∈ paths) :
    Fields.get? (leaf entry).responseKey (answered record paths) =
      some (record.column entry.path) := by
  have hsegment := (toField_of_mem h hmem).1
  rw [get?_answered h record hmem]
  rw [toField] at hsegment ⊢
  rw [Field.answer_leaf]
  exact congrArg (fun segment => some (record.column segment)) hsegment

theorem get?_answered_nested (record : Record) {entry : Entry} {inner : List GroupedPath}
    (hmem : nested entry inner ∈ paths) :
    Fields.get? (nested entry inner).responseKey (answered record paths) =
      some ((record.relation entry.path).toJson fun related => .obj (answered related inner)) := by
  have hsegment := (toField_of_mem h hmem).1
  have hfields : toFields inner ≠ [] := by
    rw [toFields_eq_map]
    simpa using h.nonempty entry inner hmem
  rw [get?_answered h record hmem]
  rw [toField] at hsegment ⊢
  rw [Field.answer_relation record _ hfields]
  exact congrArg (fun segment => some ((record.relation segment).toJson fun related =>
    Field.answerRow related (toFields inner))) hsegment

/-- What a relation that does not lead to one record writes under its
segment. -/
theorem ownColumn?_answered (record : Record) {entry : Entry} {inner : List GroupedPath}
    (hmem : nested entry inner ∈ paths) :
    (nested entry inner).ownColumn? (answered record paths) =
      match record.relation entry.path with
      | .one _ => none
      | related => some (related.toJson fun related => .obj (Slot.flatAnswer related inner)) := by
  rw [ownColumn?, get?_answered_nested h record hmem]
  cases record.relation entry.path with
  | none => rfl
  | one related => rfl
  | many records =>
    exact congrArg some (Related.mapRows_toJson (fun _ => rfl) rfl (.many records))

/-- Under a segment of the flat row stands what the last entry wrote there. -/
theorem get?_flatAnswer (record : Record) {segment : Text} (hdot : '.' ∉ segment) :
    Fields.get? segment (Slot.flatAnswer record paths) =
      lastColumn? (answered record paths) segment paths := by
  rw [Slot.flatAnswer]
  exact get?_flattenRow_segment h.explicit hdot

/-- Relations are known by their segments. -/
theorem eq_of_path_eq {entry other : Entry} {inner below : List GroupedPath}
    (hmem : nested entry inner ∈ paths) (hother : nested other below ∈ paths)
    (hpath : entry.path = other.path) : nested entry inner = nested other below :=
  List.inj_on_of_nodup_map h.distinct hmem hother (congrArg (Prod.mk true) hpath)

end

/-- The flat row of a level with entries is not empty. -/
theorem columnsOf_ne_nil (record : Record) (claimed : List Text) : (paths : List GroupedPath) →
    paths ≠ [] → (∀ level, IsLevelOf paths level → AreDeclared level) →
    columnsOf claimed (answered record paths) paths ≠ []
  | [], hne, _ => absurd rfl hne
  | leaf entry :: rest, _, h => by
    have hlevel := h _ .top
    rw [columnsOf, columns_of_ownColumn? (hlevel.explicit _ List.mem_cons_self)
      (get?_answered_leaf hlevel record List.mem_cons_self)]
    simp
  | nested entry inner :: rest, _, h => by
    have hlevel := h _ .top
    have hmem : nested entry inner ∈ nested entry inner :: rest := List.mem_cons_self
    have hexplicit := hlevel.explicit _ hmem
    rw [columnsOf]
    rcases hown : (nested entry inner).ownColumn? (answered record (nested entry inner :: rest))
      with _ | value
    · have hstar : entry.path ≠ ['*'] := hexplicit.ne_star
      have hrow := get?_answered_nested hlevel record hmem
      rw [ownColumn?_answered hlevel record hmem] at hown
      split at hown
      · rename_i related hrelation
        rw [hrelation] at hrow
        have hbelow := columnsOf_ne_nil related (claimedKeys inner) inner
          (hlevel.nonempty _ _ hmem) fun level hinner =>
            h level ((IsLevelOf.inside .top hmem).trans hinner)
        rw [columns, if_neg hstar, hrow]
        simpa [Related.toJson] using fun hnil => absurd hnil hbelow
      · contradiction
    · rw [columns_of_ownColumn? hexplicit hown]
      simp

end GroupedPath

/-! ## 3. Relations told apart -/

/-- The value is not what a relation could hold: null, a row or a list. -/
def Json.isScalar : Json → Bool
  | .null | .arr _ | .obj _ => false
  | _ => true

/-- The answer of the record tells each relation of a level from its siblings.
Only a relation to one record goes together with a column of its own segment,
since both write under it otherwise.  And where a relation leads to one record,
neither a column nor a relation answers in its place under the bare name. -/
structure Record.TellsApart (record : Record) (level : List GroupedPath) : Prop where
  single : ∀ column relation inner, .leaf column ∈ level → .nested relation inner ∈ level →
    column.path = relation.path → ∃ related, record.relation relation.path = .one related
  scalar : ∀ column relation inner related, .leaf column ∈ level →
    .nested relation inner ∈ level → record.relation relation.path = .one related →
    column.path = relation.path ∨ column.path = Segment.bareName relation.path →
      (record.column column.path).isScalar = true
  unhinted : ∀ relation inner related other below, .nested relation inner ∈ level →
    record.relation relation.path = .one related → .nested other below ∈ level →
    other.path = Segment.bareName relation.path → ∃ found, record.relation other.path = .one found

/-- The relations of entries lead from a record to another one, for which the
entries of an inner level are answered. -/
inductive Record.Visits : Record → List GroupedPath → Record → List GroupedPath → Prop where
  | here (record : Record) (paths : List GroupedPath) : Visits record paths record paths
  | through {record related last : Record} {paths inner level : List GroupedPath} {entry : Entry}
    (hmem : .nested entry inner ∈ paths)
    (hrelated : related ∈ (record.relation entry.path).toList)
    (hbelow : Visits related inner last level) : Visits record paths last level

/-- Every record that is visited tells apart the relations of its level. -/
def Record.TellsAllApart (record : Record) (paths : List GroupedPath) : Prop :=
  ∀ last level, record.Visits paths last level → last.TellsApart level

theorem Record.Visits.isLevelOf {record last : Record} {paths level : List GroupedPath}
    (h : record.Visits paths last level) : GroupedPath.IsLevelOf paths level := by
  induction h with
  | here => exact .top
  | through hmem _ _ ih => exact (GroupedPath.IsLevelOf.inside .top hmem).trans ih

/-- No entry of the level has the segment or the bare name of a relation that
is not its own, as when the relations to one table all have hints. -/
def GroupedPath.AreNamedApart (level : List GroupedPath) : Prop :=
  ∀ relation inner, .nested relation inner ∈ level → ∀ other ∈ level,
    other.entry.path = relation.path ∨ other.entry.path = Segment.bareName relation.path →
      other = .nested relation inner

/-- Then every record tells the relations apart, whatever they lead to. -/
theorem Record.tellsAllApart_of_areNamedApart {paths : List GroupedPath}
    (h : ∀ level, GroupedPath.IsLevelOf paths level → GroupedPath.AreNamedApart level)
    (record : Record) : record.TellsAllApart paths := by
  intro last level hvisits
  have hlevel := h level hvisits.isLevelOf
  constructor
  case single =>
    intro column relation inner hcolumn hrelation hpath
    exact absurd (hlevel relation inner hrelation (.leaf column) hcolumn (.inl hpath)) (by simp)
  case scalar =>
    intro column relation inner related hcolumn hrelation _ hpath
    exact absurd (hlevel relation inner hrelation (.leaf column) hcolumn hpath) (by simp)
  case unhinted =>
    intro relation inner related other below hrelation hone hother hpath
    have hsame := hlevel relation inner hrelation (.nested other below) hother (.inr hpath)
    rw [GroupedPath.nested.injEq] at hsame
    exact ⟨related, hsame.1 ▸ hone⟩

namespace Slot

open GroupedPath

/-- Where only scalars are looked up a relation is read from dotted names. -/
theorem related?_of_scalar {source : Fields Json} {segment : Text}
    (h : ∀ value, lookup? source segment = some value → value.isScalar = true)
    (shape : Fields Json → Fields Json) :
    related? shape source segment =
      (flatFields? source segment).map fun fields => .obj (shape fields) := by
  rw [related?]
  rcases hlookup : lookup? source segment with _ | value
  · rfl
  · have hscalar := h value hlookup
    cases value with
    | null | arr | obj => exact absurd hscalar Bool.false_ne_true
    | _ => rfl

theorem dot_not_mem_bareName {segment : Text} (h : '.' ∉ segment) :
    '.' ∉ Segment.bareName segment := fun hmem =>
  h (List.takeWhile_subset _ (Text.mem_of_mem_upToCast hmem))

section

variable {record : Record} {paths : List GroupedPath} (h : AreDeclared paths)
  (happart : record.TellsApart paths)
include h happart

/-- The path of a column finds its value. -/
theorem lookup?_column {entry : Entry} (hmem : leaf entry ∈ paths) :
    lookup? (flatAnswer record paths) entry.path = some (record.column entry.path) := by
  have hdot : '.' ∉ entry.path := (h.explicit _ hmem).dotless
  refine lookup?_of_get? ((get?_flatAnswer h record hdot).trans ?_)
  have hcolumn := get?_answered_leaf h record hmem
  refine h.lastColumn?_of_mem hmem hcolumn fun other hother hpath hne => ?_
  cases other with
  | leaf other => exact absurd (congrArg (Prod.mk false) hpath) hne
  | nested other inner =>
    obtain ⟨related, hone⟩ := happart.single entry other inner hmem hother hpath.symm
    rw [ownColumn?_answered h record hother, hone]

variable {entry : Entry} {inner : List GroupedPath} (hmem : nested entry inner ∈ paths)
include hmem

/-- The path of a relation finds null or rows if it does not lead to one
record. -/
theorem lookup?_relation (hmany : ∀ related, record.relation entry.path ≠ .one related) :
    lookup? (flatAnswer record paths) entry.path =
      some ((record.relation entry.path).toJson fun related =>
        .obj (flatAnswer related inner)) := by
  have hdot : '.' ∉ entry.path := (h.explicit _ hmem).dotless
  have hown := ownColumn?_answered h record hmem
  split at hown
  · rename_i related hone
    exact absurd hone (hmany related)
  · refine lookup?_of_get? ((get?_flatAnswer h record hdot).trans ?_)
    refine h.lastColumn?_of_mem hmem hown fun other hother hpath hne => ?_
    cases other with
    | leaf other =>
      obtain ⟨related, hone⟩ := happart.single other entry inner hother hmem hpath
      exact absurd hone (hmany related)
    | nested other below => exact absurd (congrArg (Prod.mk true) hpath) hne

variable {related : Record}

/-- Where a relation leads to one record only scalars stand under its segment
and under its bare name. -/
theorem isScalar_of_lookup? (hone : record.relation entry.path = .one related) {value : Json}
    (hvalue : lookup? (flatAnswer record paths) entry.path = some value) :
    value.isScalar = true := by
  have hdot : '.' ∉ entry.path := (h.explicit _ hmem).dotless
  have hsegment : ∀ segment, segment = entry.path ∨ segment = Segment.bareName entry.path →
      lastColumn? (answered record paths) segment paths = some value → value.isScalar = true := by
    intro segment hsegment hlast
    obtain ⟨other, hother, hpath, hown⟩ := exists_of_lastColumn? hlast
    cases other with
    | leaf column =>
      have hcolumn := get?_answered_leaf h record hother
      rw [ownColumn?, hcolumn, Option.some.injEq] at hown
      have hplace : column.path = entry.path ∨ column.path = Segment.bareName entry.path :=
        hpath ▸ hsegment
      exact hown ▸ happart.scalar column entry inner related hother hmem hone hplace
    | nested other below =>
      obtain ⟨found, hfound⟩ : ∃ found, record.relation other.path = .one found := by
        rcases hsegment with hsegment | hsegment
        · exact ⟨related, (hpath.trans hsegment).symm ▸ hone⟩
        · exact happart.unhinted entry inner related other below hmem hone hother
            (hpath.trans hsegment)
      rw [ownColumn?_answered h record hother, hfound] at hown
      contradiction
  rw [lookup?, get?_flatAnswer h record hdot,
    get?_flatAnswer h record (dot_not_mem_bareName hdot)] at hvalue
  rcases hlast : lastColumn? (answered record paths) entry.path paths with _ | found
  · rw [hlast] at hvalue
    exact hsegment _ (Or.inr rfl) hvalue
  · rw [hlast] at hvalue
    exact hsegment _ (Or.inl rfl) (hlast.trans hvalue)

omit happart in
/-- The columns below its segment are the flat row of that record. -/
theorem flatFields?_relation (hone : record.relation entry.path = .one related)
    (hbelow : ∀ level, IsLevelOf inner level → AreDeclared level) :
    flatFields? (flatAnswer record paths) entry.path = some (flatAnswer related inner) := by
  have hrow : Fields.get? (nested entry inner).responseKey (answered record paths) =
      some (.obj (answered related inner)) := by
    rw [get?_answered_nested h record hmem, hone]
    rfl
  have hne : flatAnswer related inner ≠ [] := by
    rw [flatAnswer, flattenRow_eq_columns]
    exact Fields.ofList_ne_nil (columnsOf_ne_nil related _ inner (h.nonempty _ _ hmem) hbelow)
  exact (flatFields?_of_get? (ascending_flattenRow _ _) (ascending_flattenRow _ _)
    (get?_flattenRow_below h.toAreSiblings hmem hrow)).trans
      (if_neg fun hempty => hne (List.isEmpty_iff.1 hempty))

end

/-- Flat rows gather what records answer, if these tell apart the relations of
all levels. -/
theorem gathers_apart : Gathers fun record paths =>
    (∀ level, IsLevelOf paths level → AreDeclared level) ∧ record.TellsAllApart paths where
  column := by
    rintro record paths entry ⟨h, happart⟩ hmem
    exact lookup?_column (h _ .top) (happart _ _ (.here _ _)) hmem
  relation := by
    rintro record paths entry inner ⟨h, happart⟩ hmem shape
    have hlevel := h _ .top
    have hhere := happart _ _ (.here _ _)
    have hbelow : ∀ level, IsLevelOf inner level → AreDeclared level := fun level hinner =>
      h level ((IsLevelOf.inside .top hmem).trans hinner)
    cases hrelation : record.relation entry.path with
    | none =>
      have hlookup := lookup?_relation hlevel hhere hmem (by simp [hrelation])
      rw [related?, hlookup, hrelation]
      rfl
    | one related =>
      rw [related?_of_scalar fun value hvalue =>
          isScalar_of_lookup? hlevel hhere hmem hrelation hvalue,
        flatFields?_relation hlevel hmem hrelation hbelow]
      rfl
    | many records =>
      have hlookup := lookup?_relation hlevel hhere hmem (by simp [hrelation])
      rw [related?, hlookup, hrelation]
      exact congrArg some (Related.mapRows_toJson (fun _ => rfl) rfl (.many records))
  below := by
    rintro record paths entry inner ⟨h, happart⟩ hmem related hrelated
    exact ⟨fun level hinner => h level ((IsLevelOf.inside .top hmem).trans hinner),
      fun last level hvisits => happart last level (.through hmem hrelated hvisits)⟩
  unique := by
    rintro record paths ⟨h, -⟩ entry other inner below hmem hother hpath
    have heq := eq_of_path_eq (h _ .top) hmem hother hpath
    rw [nested.injEq] at heq
    exact heq.2

end Slot

/-! ## 4. Merged fetches -/

/-- The statement of bare paths leads to every leaf of a clause whose bare paths
are among them. -/
theorem leadsTo_buildStatement {user : Text} {fields : List Field} (huser : PlainClause user fields)
    {paths : List Path} (hbare : ∀ path ∈ paths, path.IsBare)
    (hkept : ∀ path ∈ NormalizedQuery.ownPaths fields, path ∈ paths) (policy : DedupePolicy) :
    ∀ chain ∈ Field.chainsOf fields,
      GroupedPath.LeadsTo (Head.segments chain) (buildStatement paths policy).grouped := by
  intro chain hchain
  have hplain := NormalizedQuery.plainChain_of_clause huser chain hchain
  have hpath : (Path.ofHeads chain).withoutAlias ∈ paths :=
    hkept _ (List.mem_map_of_mem (List.mem_map_of_mem hchain))
  have hsplit : Text.splitOn '.' (Path.ofHeads chain).withoutAlias.declaration =
      Head.segments chain := by
    rw [Path.withoutAlias_ofHeads hplain]
    exact Text.splitOn_join hplain.segments.1 fun segment hmem =>
      Segment.not_mem_of_isPlain (hplain.segments.2 segment hmem) (by decide) (by decide)
  refine GroupedPath.leadsTo_of_mem_leafChainsOf ((mem_leafChainsOf_buildStatement
    (isCanonicalPath_of_isBare hbare) policy).2 ⟨⟨_, hpath, hsplit⟩, ?_⟩)
  have hterminal := huser.not_aggregate chain hchain
  rwa [Path.isAggregate, Path.terminal, Path.segments, Path.splitOn_path_ofHeads hplain]
    at hterminal

/-- A caller with a plain clause gets a statement that reads back and leads to
every leaf of the clause. -/
theorem NormalizedQuery.exists_declared {user : Text} {fields : List Field}
    {queries : List TableQuery} (huser : PlainClause user fields)
    (hqueries : ∀ query ∈ queries, query.IsPlain) :
    ∃ merged, normalizeQuery (some user) false queries = .ok (some merged) ∧
      merged.userPaths = some ((Field.chainsOf fields).map Path.ofHeads) ∧
      selectFields merged.selectQuery = .ok (GroupedPath.toFields merged.grouped) ∧
      (∀ chain ∈ Field.chainsOf fields,
        GroupedPath.LeadsTo (Head.segments chain) merged.grouped) ∧
      ((∀ level, GroupedPath.IsLevelOf merged.grouped level →
          (level.map GroupedPath.responseKey).Nodup) →
        ∀ level, GroupedPath.IsLevelOf merged.grouped level → GroupedPath.AreDeclared level) := by
  obtain ⟨paths, hbare, hkept, hmerged⟩ := exists_mergedPaths huser hqueries
  have hleads := leadsTo_buildStatement huser hbare hkept preferUnhintedRelation
  exact ⟨_, hmerged, rfl, selectFields_buildStatement hbare preferUnhintedRelation
    (GroupedPath.ne_nil_of_leads huser hleads), hleads, fun hkeys _ hlevel =>
      areDeclared_buildStatement hbare preferUnhintedRelation hkeys hlevel⟩

/-- A caller with a plain clause gets a merged statement.  When no two entries
of a level answer under one key, and the records tell apart the relations that
share a bare name, the backend's answer to it, denormalized, is the backend's
answer to the clause: each relation has its own data. -/
theorem denormalizeResponse_apart {user : Text} {fields : List Field}
    {queries : List TableQuery} (huser : PlainClause user fields)
    (hqueries : ∀ query ∈ queries, query.IsPlain) :
    ∃ merged, normalizeQuery (some user) false queries = .ok (some merged) ∧
      ((∀ level, GroupedPath.IsLevelOf merged.grouped level →
          (level.map GroupedPath.responseKey).Nodup) →
        ∀ records : Related Record,
          (∀ record ∈ records.toList, record.TellsAllApart merged.grouped) →
          ∃ response, respond merged.selectQuery records = .ok response ∧
            respond user records = .ok (merged.denormalizeResponse response)) := by
  obtain ⟨merged, hmerged, huserPaths, hselect, hleads, hdeclared⟩ :=
    NormalizedQuery.exists_declared huser hqueries
  refine ⟨merged, hmerged, fun hkeys records happart => ?_⟩
  exact denormalizeResponse_of_gathers huser huserPaths hselect hleads Slot.gathers_apart
    fun record hmem => ⟨hdeclared hkeys, happart record hmem⟩

/-! ## 5. The staff of a project -/

/-- The name of an employee. -/
def nameOnly : List GroupedPath :=
  [.leaf (.bare "name".toList)]

theorem arePlain_nameOnly : GroupedPath.ArePlain nameOnly :=
  ⟨GroupedPath.isPlainEntry_segment (by decide), trivial⟩

theorem distinctKeys_nameOnly : Field.DistinctKeysOf (GroupedPath.toFields nameOnly) :=
  ⟨trivial, fun _ h => absurd h List.not_mem_nil, trivial⟩

/-- The owner and the editor of a project. -/
def staff : List GroupedPath :=
  [.nested ⟨"owner:employee".toList, "employee".toList, some "owner".toList⟩ nameOnly,
   .nested ⟨"editor:employee!editor_id".toList, "employee!editor_id".toList,
      some "editor".toList⟩ nameOnly]

/-- The clause that selects their names. -/
def staffClause : Text :=
  "owner:employee(name),editor:employee!editor_id(name)".toList

theorem plainClause_staff : PlainClause staffClause (GroupedPath.toFields staff) := by
  have hplain : GroupedPath.ArePlain staff :=
    ⟨⟨@GroupedPath.isPlainEntry_alias _ "owner".toList "employee".toList (by decide) (by decide)
        rfl, List.cons_ne_nil _ _, arePlain_nameOnly⟩,
      ⟨@GroupedPath.isPlainEntry_alias _ "editor".toList "employee!editor_id".toList (by decide)
        (by decide) rfl, List.cons_ne_nil _ _, arePlain_nameOnly⟩, trivial⟩
  refine ⟨GroupedPath.selectFields_statement (List.cons_ne_nil _ _) hplain,
    List.cons_ne_nil _ _, GroupedPath.allOf_toFields staff hplain, by decide +kernel,
    distinctKeys_nameOnly, ?_, distinctKeys_nameOnly, fun _ h => absurd h List.not_mem_nil,
    trivial⟩
  intro other hother
  obtain rfl := List.mem_singleton.1 hother
  decide

/-- The paths of the names. -/
def staffPaths : List Path :=
  ["employee.name", "employee!editor_id.name"].map fun name : String => .ofText name.toList

/-- The statement for them: the hinted relation answers under a made up
alias. -/
def staffMerged : NormalizedQuery where
  selectQuery := (buildStatement staffPaths).statement
  userPaths := some ((Field.chainsOf (GroupedPath.toFields staff)).map Path.ofHeads)
  paths := staffPaths
  grouped := (buildStatement staffPaths).grouped

theorem normalizeQuery_staff :
    normalizeQuery (some staffClause) false [] = .ok (some staffMerged) := by
  have hread := parseSelect_chains plainClause_staff.select_eq
  have hpaths : ((Field.chainsOf (GroupedPath.toFields staff)).map Path.ofHeads).map
      Path.withoutAlias = staffPaths := by decide +kernel
  have hempty : (buildStatement staffPaths).isEmpty = false := by decide +kernel
  simp only [normalizeQuery, hread, Except.map, bind, Except.bind, pure, Except.pure,
    Bool.false_eq_true, if_false, NormalizedQuery.merged, Option.getD_some, List.foldl_nil, hpaths,
    hempty]
  rfl

/-- The nodes of the owner and of the editor. -/
def staffNodes : SelectNode × SelectNode :=
  (.relation 1 "employee".toList [.leaf 2 "name".toList],
    .relation 3 "employee!editor_id".toList [.leaf 4 "name".toList])

/-- Their entries. -/
def staffEntries : GroupedPath × GroupedPath :=
  (.nested (.bare "employee".toList) nameOnly,
    .nested ⟨"d_0_employee:employee!editor_id".toList, "employee!editor_id".toList,
      some "d_0_employee".toList⟩ nameOnly)

open SelectNode in
theorem grouped_staffMerged : staffMerged.grouped = [staffEntries.1, staffEntries.2] := by
  have htree : (SelectTree.ofPaths staffPaths).children = [staffNodes.1, staffNodes.2] := rfl
  have howner : needsAlias preferUnhintedRelation [staffNodes.1, staffNodes.2] staffNodes.1 =
      false := by decide
  have heditor : needsAlias preferUnhintedRelation [staffNodes.1, staffNodes.2] staffNodes.2 =
      true := by decide
  have hfirst : (emit preferUnhintedRelation {} false 0 staffNodes.1).grouped =
      [staffEntries.1] := rfl
  have hcounter : (emit preferUnhintedRelation {} false 0 staffNodes.1).counter = 0 := rfl
  have hsecond : (emit preferUnhintedRelation {} true 0 staffNodes.2).grouped =
      [staffEntries.2] := rfl
  simp only [staffMerged, buildStatement, SelectTree.toStatement, htree]
  rw [emitList, if_neg (by decide)]
  dsimp only
  rw [howner, hfirst, hcounter, emitList, if_neg (by decide)]
  dsimp only
  rw [heditor, hsecond, emitList]
  rfl

/-- An employee with that name. -/
def employee (name : String) : Record :=
  .mk (fun _ => .str name.toList) fun _ => .none

/-- A project with what stands for its owner and its editor. -/
def project (owner editor : Related Record) : Record :=
  .mk (fun _ => .null) fun segment =>
    if segment = "employee".toList then owner
    else if segment = "employee!editor_id".toList then editor
    else .none

/-- Among columns there are no relations to tell apart. -/
theorem tellsAllApart_nameOnly (record : Record) : record.TellsAllApart nameOnly := by
  refine record.tellsAllApart_of_areNamedApart fun level hlevel => ?_
  obtain rfl : level = nameOnly := by
    induction hlevel with
    | top => rfl
    | inside _ hmem ih =>
      rw [ih] at hmem
      simp [nameOnly] at hmem
  intro relation inner hrelation
  simp [nameOnly] at hrelation

/-- With one owner the owner and the editor are told apart. -/
theorem tellsAllApart_project (owner : Record) (editor : Related Record) :
    (project (.one owner) editor).TellsAllApart staffMerged.grouped := by
  rw [grouped_staffMerged]
  intro last level hvisits
  cases hvisits with
  | here =>
    refine ⟨by simp [staffEntries], by simp [staffEntries], ?_⟩
    intro relation inner related other below hrelation _ hother hpath
    simp only [staffEntries, List.mem_cons, GroupedPath.nested.injEq, List.not_mem_nil,
      or_false] at hrelation hother
    rcases hother with ⟨rfl, -⟩ | ⟨rfl, -⟩
    · exact ⟨owner, rfl⟩
    · rcases hrelation with ⟨rfl, -⟩ | ⟨rfl, -⟩ <;> exact absurd hpath (by decide)
  | through hmem _ hbelow =>
    simp only [staffEntries, List.mem_cons, GroupedPath.nested.injEq, List.not_mem_nil,
      or_false] at hmem
    rcases hmem with ⟨-, rfl⟩ | ⟨-, rfl⟩ <;> exact tellsAllApart_nameOnly _ _ _ hbelow

/-- Beside one owner the editor is found, whether there is none, one or
many. -/
theorem denormalizeResponse_apart_staff :
    PlainClause staffClause (GroupedPath.toFields staff) ∧
      staffMerged.selectQuery = "employee(name),d_0_employee:employee!editor_id(name)".toList ∧
      (∀ level, GroupedPath.IsLevelOf staffMerged.grouped level →
        (level.map GroupedPath.responseKey).Nodup) ∧
      ∀ editor : Related Record, ∃ response,
        respond staffMerged.selectQuery (.one (project (.one (employee "Ann")) editor)) =
            .ok response ∧
          respond staffClause (.one (project (.one (employee "Ann")) editor)) =
            .ok (staffMerged.denormalizeResponse response) := by
  have hkeys : ∀ level, GroupedPath.IsLevelOf staffMerged.grouped level →
      (level.map GroupedPath.responseKey).Nodup := by
    intro level hlevel
    simp only [staffMerged] at hlevel
    exact nodup_responseKey_buildStatement preferUnhintedRelation (by decide) (by decide +kernel)
      hlevel
  refine ⟨plainClause_staff, by decide +kernel, hkeys, fun editor => ?_⟩
  obtain ⟨merged, hmerged, hresponse⟩ :=
    @denormalizeResponse_apart _ _ [] plainClause_staff fun _ hmem => absurd hmem List.not_mem_nil
  rw [normalizeQuery_staff, Except.ok.injEq, Option.some.injEq] at hmerged
  subst hmerged
  refine hresponse hkeys (.one (project (.one (employee "Ann")) editor)) fun record hmem => ?_
  rw [List.mem_singleton.1 hmem]
  exact tellsAllApart_project _ editor

/-- The row of an employee. -/
def employeeRow (name : String) : Json :=
  .obj [("name".toList, .str name.toList)]

/-- What the backend answers to the statement for a list of owners and one
editor. -/
def ownersAnswer : Json :=
  .obj [("d_0_employee".toList, employeeRow "Bo"), ("employee".toList, .arr [employeeRow "Ann"])]

/-- The same under canonical names: the editor is flat. -/
def ownersFlat : Fields Json :=
  [("employee".toList, .arr [employeeRow "Ann"]),
    ("employee!editor_id.name".toList, .str "Bo".toList)]

/-- For the owner and for the editor the owners are read. -/
theorem valueIn_ownersFlat : ∀ field ∈ GroupedPath.toFields staff,
    Slot.valueIn ownersFlat field = some (.arr [employeeRow "Ann"]) := by
  have hname : Slot.reshapeFields (Field.slots (GroupedPath.toFields nameOnly))
      [("name".toList, .str "Ann".toList)] = [("name".toList, .str "Ann".toList)] := by
    rw [Slot.reshapeFields_slots _
      (Field.segment_ne_star (GroupedPath.allOf_toFields nameOnly arePlain_nameOnly))
      (Field.pairwise_of_distinctKeysOf distinctKeys_nameOnly)]
    rfl
  have hrelated : ∀ segment, Slot.lookup? ownersFlat segment = some (.arr [employeeRow "Ann"]) →
      Slot.related? (Slot.reshapeFields (Field.slots (GroupedPath.toFields nameOnly))) ownersFlat
        segment = some (.arr [employeeRow "Ann"]) := by
    intro segment hlookup
    rw [Slot.related?, hlookup]
    simp only [employeeRow, Json.mapRows, Json.mapRowsList, hname]
  intro field hmem
  simp only [staff, GroupedPath.toFields, GroupedPath.toField, List.mem_cons, List.not_mem_nil,
    or_false] at hmem
  rcases hmem with rfl | rfl
  · exact hrelated "employee".toList rfl
  · exact hrelated "employee!editor_id".toList rfl

/-- Beside a list of owners the one editor is not found: the owners stand under
the bare name of both relations. -/
theorem editor_hidden_by_owners :
    let records : Related Record :=
      .one (project (.many [employee "Ann"]) (.one (employee "Bo")))
    normalizeQuery (some staffClause) false [] = .ok (some staffMerged) ∧
      respond staffMerged.selectQuery records = .ok ownersAnswer ∧
      respond staffClause records = .ok (.obj [("editor".toList, employeeRow "Bo"),
        ("owner".toList, .arr [employeeRow "Ann"])]) ∧
      staffMerged.denormalizeResponse ownersAnswer =
        .obj [("editor".toList, .arr [employeeRow "Ann"]),
          ("owner".toList, .arr [employeeRow "Ann"])] := by
  intro records
  refine ⟨normalizeQuery_staff, ?_, ?_, ?_⟩
  · have hplain : GroupedPath.ArePlain [staffEntries.1, staffEntries.2] :=
      ⟨⟨GroupedPath.isPlainEntry_segment (by decide), List.cons_ne_nil _ _, arePlain_nameOnly⟩,
        ⟨@GroupedPath.isPlainEntry_alias _ "d_0_employee".toList "employee!editor_id".toList
          (by decide) (by decide) rfl, List.cons_ne_nil _ _, arePlain_nameOnly⟩, trivial⟩
    have hstatement : staffMerged.selectQuery =
        GroupedPath.statement [staffEntries.1, staffEntries.2] := by decide +kernel
    rw [respond, hstatement, GroupedPath.selectFields_statement (List.cons_ne_nil _ _) hplain]
    rfl
  · rw [respond, plainClause_staff.select_eq]
    rfl
  · have hslots : Slot.ofPaths (staffMerged.userPaths.getD staffMerged.paths) =
        Field.slots (GroupedPath.toFields staff) :=
      Slot.ofPaths_chains plainClause_staff.plain
        (selectFields_spelled plainClause_staff.select_eq) plainClause_staff.distinct
    have hflat : normalizeResponse staffMerged.grouped ownersAnswer = .obj ownersFlat := by
      rw [grouped_staffMerged]
      rfl
    have hvalues : ((GroupedPath.toFields staff).filterMap fun field =>
        (Slot.valueIn ownersFlat field).map fun value => (field.key, value)) =
          (GroupedPath.toFields staff).map fun field =>
            (field.key, .arr [employeeRow "Ann"]) := by
      rw [← List.filterMap_eq_map]
      refine List.filterMap_congr fun field hmem => ?_
      rw [valueIn_ownersFlat field hmem]
      rfl
    rw [NormalizedQuery.denormalizeResponse, hflat, denormalize, hslots, Slot.reshape_obj,
      Slot.reshapeFields_slots _ (Field.segment_ne_star plainClause_staff.plain)
        (Field.pairwise_of_distinctKeysOf plainClause_staff.distinct), hvalues]
    rfl

end QueryCache
