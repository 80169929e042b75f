/-
QueryCache.Proofs.Statement.ReadBack — a merged statement is read as its
leaves.

What an orderly tree emits reads back, level by level: every entry declares
a named head, and the leaves of the emission are the paths of the chains
that the entries spell (`Emission.IsRead`).  An alias that a collision
makes up is an identifier, since only columns collide
(`isIdentifier_of_needsAlias`).  So the statement of any paths that were
read from clauses of named heads is read as the leaves that the builder
gave, whatever the policy is (`parseSelect_buildStatement`).
-/
import QueryCache.Proofs.Statement.Declared
import QueryCache.Proofs.Statement.Emitted

namespace QueryCache

/-! ## 1. Aliases -/

/-- A made up alias holds characters of identifiers, and those of the name
that it stands for. -/
theorem char_of_mem_dedupeAlias {number : Nat} {name : Text} {c : Char}
    (h : c ∈ dedupeAlias number name) : Head.isIdentifierChar c = true ∨ c ∈ name := by
  have hdigit : ∀ c ∈ Text.ofNat number, Head.isIdentifierChar c = true := by
    intro c hc
    have hdigit : c.isDigit = true := Nat.isDigit_of_mem_toDigits (by decide) (by decide) hc
    have hcode : c.val < 0x80 := by
      simp only [Char.isDigit, Bool.and_eq_true, decide_eq_true_eq] at hdigit
      exact UInt32.lt_of_le_of_lt hdigit.2 (by decide)
    have halphanumeric : Unicode.isAlphanumeric c = true :=
      Unicode.isAlphanumeric_of_isAlphanum (by simp [Char.isAlphanum, hdigit]) hcode
    rw [Head.isIdentifierChar, halphanumeric]
    rfl
  have hmarks : "d_".toList.all Head.isIdentifierChar = true := by decide
  simp only [dedupeAlias, List.mem_append, List.mem_cons] at h
  rcases h with (h | h) | rfl | h
  · exact Or.inl (List.all_eq_true.1 hmarks c h)
  · exact Or.inl (hdigit c h)
  · exact Or.inl (by decide)
  · exact Or.inr h

/-- The alias of a collision is an identifier if the name has the characters
of one. -/
theorem isIdentifier_dedupeAlias (number : Nat) {name : Text}
    (h : ∀ c ∈ name, Head.isIdentifierChar c = true) :
    Head.isIdentifier (dedupeAlias number name) = true := by
  rw [Head.isIdentifier, Bool.and_eq_true, List.all_eq_true]
  exact ⟨rfl, fun c hc => (char_of_mem_dedupeAlias hc).elim id (h c)⟩

namespace SelectNode

/-- What a declared node says of itself. -/
structure IsOf (node : SelectNode) (head : Head) : Prop where
  named : head.IsNamed
  aliasName_eq : node.aliasName = head.aliasName
  path_eq : node.path = head.segment
  name_eq : node.name = Text.upToCast head.name
  column : node.isRelation = true → Head.IsColumnName head.name

theorem exists_isOf {node : SelectNode} (h : Head.Declares node.isRelation node.declaration) :
    ∃ head, node.IsOf head ∧ node.declaration = head.spelled := by
  obtain ⟨head, hnamed, hspelled, hcolumn⟩ := h
  have hpath : node.path = head.segment := by
    rw [path, ← hspelled, hnamed.splitAlias_spelled]
  refine ⟨head, ⟨hnamed, ?_, hpath, ?_, hcolumn⟩, hspelled.symm⟩
  · rw [aliasName, ← hspelled, hnamed.splitAlias_spelled]
  · rw [name, hpath, hnamed.bareName_segment]

/-- An emitted count carries an alias. -/
theorem aliasName_ne_none_of_count {node : SelectNode} {head : Head} (h : node.IsOf head)
    (hname : head.name = "count()".toList) (hhints : head.hints = [])
    (hvisible : node.isSuppressed = false) : node.aliasName ≠ none := by
  have hsegment : node.path = "count()".toList := by
    rw [h.path_eq, Head.segment, hname, hhints, Text.join]
  cases node with
  | leaf index declaration =>
    intro hnone
    have haggregate : (leaf index declaration).isSuppressed =
        ((leaf index declaration).aliasName.isNone &&
          Segment.isAggregate (leaf index declaration).path) := by
      rw [isSuppressed]
      rfl
    rw [haggregate, hnone, hsegment] at hvisible
    exact absurd hvisible (by decide)
  | relation index declaration children =>
    have hcolumn := h.column rfl
    rw [hname] at hcolumn
    exact absurd hcolumn (by decide)

/-- A node without alias that refers to `*` is the leaf `*`. -/
theorem heading_of_star {node : SelectNode} {head : Head} (h : node.IsOf head)
    (hspelled : node.declaration = head.spelled) (halias : node.aliasName = none)
    (hname : node.name = ['*']) : node.heading = (false, ['*']) := by
  have hstar : ¬ Head.IsColumnName ['*'] := by decide
  rw [h.name_eq] at hname
  rw [h.aliasName_eq] at halias
  rcases h.named.name with hcolumn | ⟨hhints, hhead | hhead⟩
  · have hident := hcolumn.isIdentifier_upToCast
    rw [hname] at hident
    exact absurd (.plain hident) hstar
  · have hkind : node.isRelation = false := by
      rw [← Bool.not_eq_true]
      exact fun hrelation => hstar (hhead ▸ h.column hrelation)
    have hdeclaration : node.declaration = ['*'] := by
      rw [hspelled, Head.spelled, halias, Head.segment, hhead, hhints, Text.join]
    rw [heading, hkind, hdeclaration]
  · rw [hhead] at hname
    exact absurd hname (by decide)

/-- Siblings of one heading do not collide with each other. -/
theorem length_group_le_one_of_heading {siblings : List SelectNode} {name : Text}
    {common : Bool × Text} (hdistinct : (siblings.map heading).Nodup)
    (h : ∀ node ∈ group name siblings, node.heading = common) :
    (group name siblings).length ≤ 1 := by
  have hone : ((group name siblings).map heading).Nodup :=
    hdistinct.sublist (List.filter_sublist.map heading)
  rwa [List.map_congr_left h, List.map_const', List.nodup_replicate] at hone

/-- Only columns collide: of the nodes of a level without alias one at most
selects every column, and counts are suppressed. -/
theorem isIdentifier_of_needsAlias {policy : DedupePolicy} {size : Nat}
    {siblings : List SelectNode} (hlevel : IsLevel Head.Declares size siblings)
    {node : SelectNode} (hmem : node ∈ siblings) (hvisible : node.isSuppressed = false)
    (hneeds : needsAlias policy siblings node = true) :
    Head.isIdentifier node.name = true := by
  obtain ⟨head, hhead, -⟩ := exists_isOf (hlevel.declared node hmem)
  simp only [needsAlias, Bool.and_eq_true, decide_eq_true_eq] at hneeds
  obtain ⟨⟨halias, hmany⟩, -⟩ := hneeds
  rw [Option.isNone_iff_eq_none] at halias
  rcases hhead.named.name with hname | ⟨hhints, hname | hname⟩
  · rw [hhead.name_eq]
    exact hname.isIdentifier_upToCast
  · have hstar : node.name = ['*'] := by
      rw [hhead.name_eq, hname]
      rfl
    have hall : ∀ other ∈ group node.name siblings, other.heading = (false, ['*']) := by
      intro other hother
      simp only [group, List.mem_filter, Bool.and_eq_true, beq_iff_eq,
        Option.isNone_iff_eq_none] at hother
      obtain ⟨hother, ⟨-, hnone⟩, hname⟩ := hother
      obtain ⟨own, hown, hspelled⟩ := exists_isOf (hlevel.declared other hother)
      exact heading_of_star hown hspelled hnone (hname.trans hstar)
    exact absurd (length_group_le_one_of_heading hlevel.distinct hall) (Nat.not_le.2 hmany)
  · exact absurd halias (aliasName_ne_none_of_count hhead hname hhints hvisible)

end SelectNode

/-! ## 2. Entries -/

/-- The entry that declares a head. -/
def Entry.ofHead (head : Head) : Entry :=
  ⟨head.written, head.segment, head.aliasName⟩

/-- The head under another alias, or without any. -/
def Head.aliasedAs (head : Head) (aliasName : Option Text) : Head :=
  { head with
    aliasName
    written := Head.spelled { head with aliasName } }

theorem Head.isNamed_aliasedAs {head : Head} (h : head.IsNamed) {aliasName : Option Text}
    (halias : ∀ text ∈ aliasName, isIdentifier text = true) : (head.aliasedAs aliasName).IsNamed :=
  ⟨halias, h.name, h.hints⟩

theorem Head.isSpelled_aliasedAs (head : Head) (aliasName : Option Text) :
    (head.aliasedAs aliasName).IsSpelled := rfl

/-- A node is emitted as its head under an alias of its own or a made up
one. -/
theorem SelectNode.exists_toEntry {node : SelectNode} {head : Head} (h : node.IsOf head)
    {collides : Bool} (hcollides : collides = true → Head.isIdentifier node.name = true)
    (counter : Nat) :
    ∃ aliasName : Option Text, (∀ text ∈ aliasName, Head.isIdentifier text = true) ∧
      (node.toEntry collides counter).1 = .ofHead (head.aliasedAs aliasName) := by
  refine ⟨if collides then some (dedupeAlias counter node.name) else node.aliasName, ?_, ?_⟩
  · cases collides with
    | false =>
      intro text htext
      exact h.named.aliasName text (h.aliasName_eq ▸ htext)
    | true =>
      intro text htext
      obtain rfl := Option.some.inj htext
      exact isIdentifier_dedupeAlias counter fun c hc =>
        Head.isIdentifierChar_of_mem (hcollides rfl) hc
  · rw [toEntry, h.path_eq]
    rfl

/-! ## 3. Chains of entries -/

/-- The chains of the entries that declare heads. -/
def EmitChain.ofHeads (heads : List Head) : EmitChain where
  declaration := Text.join '.' (heads.map (·.written))
  path := Text.join '.' (heads.map (·.segment))
  names := Text.join '.' (heads.map (·.effectiveName))
  aliased := heads.any (·.aliasName.isSome)

/-- A head that was read back from its text. -/
def Head.IsOwn (head : Head) : Prop :=
  head.IsNamed ∧ head.IsSpelled

theorem dotted_join {parts : List Text} (hparts : ∀ part ∈ parts, part ≠ []) (part : Text) :
    dotted (Text.join '.' parts) part = Text.join '.' (parts ++ [part]) := by
  rcases parts with _ | ⟨first, rest⟩
  · rfl
  · have hne := @Text.join_ne_nil '.' _ (hparts first List.mem_cons_self) rest
    have hempty : (Text.join '.' (first :: rest)).isEmpty = false := by simpa using hne
    rw [dotted, hempty, if_neg Bool.false_ne_true, Text.join_append_singleton (by simp)]

theorem Head.IsNamed.effectiveName_ne_nil {head : Head} (h : head.IsNamed) :
    head.effectiveName ≠ [] := by
  rw [Head.effectiveName]
  rcases halias : head.aliasName with _ | text
  · rcases h.name with hname | ⟨-, hname | hname⟩
    · exact Head.ne_nil_of_isIdentifier hname.isIdentifier_upToCast
    · rw [hname]
      decide
    · rw [hname]
      decide
  · exact Head.ne_nil_of_isIdentifier (h.aliasName text halias)

theorem EmitChain.extend_ofHeads {above : List Head} (habove : ∀ head ∈ above, head.IsOwn)
    {head : Head} {name : Text} (hname : name = Text.upToCast head.name) :
    (EmitChain.ofHeads above).extend (.ofHead head) name = EmitChain.ofHeads (above ++ [head]) := by
  have hdotted : ∀ f : Head → Text, (∀ head : Head, head.IsOwn → f head ≠ []) →
      dotted (Text.join '.' (above.map f)) (f head) =
        Text.join '.' ((above ++ [head]).map f) := by
    intro f hf
    rw [List.map_append]
    refine dotted_join (fun part hmem => ?_) _
    obtain ⟨other, hother, rfl⟩ := List.mem_map.1 hmem
    exact hf other (habove other hother)
  have hwritten := hdotted (·.written) fun other hother =>
    hother.2 ▸ hother.1.spelled_ne_nil
  have hsegment := hdotted (·.segment) fun other hother => hother.1.segment_ne_nil
  have hnames := hdotted (·.effectiveName) fun other hother => hother.1.effectiveName_ne_nil
  subst hname
  simp only [EmitChain.ofHeads, EmitChain.extend, Entry.ofHead, List.any_append, List.any_cons,
    List.any_nil, Bool.or_false]
  rw [EmitChain.mk.injEq]
  exact ⟨hwritten, hsegment, hnames, rfl⟩

/-! ## 4. Emission -/

theorem Head.IsOwn.ofWritten_written {head : Head} (h : head.IsOwn) :
    Head.ofWritten head.written = head := by
  obtain ⟨hnamed, hspelled⟩ := h
  rw [hspelled, Head.ofWritten_named hnamed, ← hspelled]

theorem GroupedPath.allReadBack_append {front back : List GroupedPath}
    (hfront : AllReadBack front) (hback : AllReadBack back) : AllReadBack (front ++ back) := by
  induction front with
  | nil => exact hback
  | cons grouped rest ih =>
    rw [AllReadBack] at hfront
    rw [List.cons_append, AllReadBack]
    exact ⟨hfront.1, ih hfront.2⟩

/-- The entries below the heads read back, and the leaves are the paths of
the chains that they spell. -/
structure Emission.IsRead (above : List Head) (emission : Emission) : Prop where
  readsBack : GroupedPath.AllReadBack emission.grouped
  paths_eq : emission.paths = (Field.chainsOf (GroupedPath.toFields emission.grouped)).map
    fun chain => Path.ofHeads (above ++ chain)

theorem Emission.isRead_append {above : List Head} {first others : Emission}
    (hfirst : first.IsRead above) (hothers : others.IsRead above) (counter : Nat) :
    Emission.IsRead above
      ⟨first.grouped ++ others.grouped, first.paths ++ others.paths, counter⟩ where
  readsBack := GroupedPath.allReadBack_append hfirst.readsBack hothers.readsBack
  paths_eq := by
    simp only [hfirst.paths_eq, hothers.paths_eq, GroupedPath.toFields_eq_map,
      Field.chainsOf_eq_flatMap, List.map_append, List.flatMap_append]

theorem GroupedPath.toField_ofHead {head : Head} (h : head.IsOwn) :
    (leaf (.ofHead head)).toField = .mk head [] ∧
      ∀ paths, (nested (.ofHead head) paths).toField = .mk head (toFields paths) := by
  refine ⟨?_, fun paths => ?_⟩
  · rw [toField, Entry.ofHead, h.ofWritten_written]
  · rw [toField, Entry.ofHead, h.ofWritten_written]

theorem GroupedPath.readsBack_ofHead {head : Head} (h : head.IsOwn) :
    Head.ReadsBack (Entry.ofHead head).declaration := by
  rw [Entry.ofHead, h.2]
  exact Head.readsBack_named h.1

theorem GroupedPath.readsBack_ofWritten {written : Text} (h : (Head.ofWritten written).IsNamed) :
    Head.ReadsBack (Entry.ofHead (Head.ofWritten written)).declaration :=
  readsBack_ofHead ⟨h, Head.isSpelled_ofWritten written⟩

/-- So does a text that is what its head spells. -/
theorem GroupedPath.readsBack_of_spelled {written : Text} (h : (Head.ofWritten written).IsNamed)
    (hspelled : (Entry.ofHead (Head.ofWritten written)).declaration = written) :
    Head.ReadsBack written := by
  have hread := readsBack_ofWritten h
  rwa [hspelled] at hread

theorem Emission.isRead_leaf {head : Head} (h : head.IsOwn) (above : List Head) (counter : Nat) :
    Emission.IsRead above ⟨[.leaf (.ofHead head)], [Path.ofHeads (above ++ [head])], counter⟩ where
  readsBack := by
    rw [GroupedPath.AllReadBack, GroupedPath.ReadsBack]
    exact ⟨GroupedPath.readsBack_ofHead h, trivial⟩
  paths_eq := by
    rw [GroupedPath.toFields_eq_map, List.map_singleton, (GroupedPath.toField_ofHead h).1]
    rfl

/-- Below a relation the chains go through its head. -/
theorem Emission.isRead_nested {head : Head} (h : head.IsOwn) {above : List Head}
    {below : Emission} (hbelow : below.IsRead (above ++ [head])) (hne : below.grouped ≠ []) :
    Emission.IsRead above
      ⟨[.nested (.ofHead head) below.grouped], below.paths, below.counter⟩ where
  readsBack := by
    rw [GroupedPath.AllReadBack, GroupedPath.ReadsBack]
    exact ⟨⟨GroupedPath.readsBack_ofHead h, hne, hbelow.readsBack⟩, trivial⟩
  paths_eq := by
    have hfields : (GroupedPath.toFields below.grouped).isEmpty = false := by
      rw [GroupedPath.toFields_eq_map]
      simpa using hne
    have hchains : Field.chainsOf [.mk head (GroupedPath.toFields below.grouped)] =
        (Field.chainsOf (GroupedPath.toFields below.grouped)).map (head :: ·) := by
      rw [Field.chainsOf, Field.chains, hfields, if_neg Bool.false_ne_true, Field.chainsOf,
        List.append_nil]
    rw [GroupedPath.toFields_eq_map, List.map_singleton, (GroupedPath.toField_ofHead h).2, hchains,
      List.map_map, hbelow.paths_eq]
    refine List.map_congr_left fun chain _ => ?_
    rw [Function.comp_apply, List.append_assoc, List.singleton_append]

namespace SelectNode

/-- A declared node is emitted as a head of its own. -/
theorem exists_own {node : SelectNode} (h : Head.Declares node.isRelation node.declaration)
    {collides : Bool} (hcollides : collides = true → Head.isIdentifier node.name = true)
    (counter : Nat) {above : List Head} (habove : ∀ head ∈ above, head.IsOwn) :
    ∃ head : Head, head.IsOwn ∧ (node.toEntry collides counter).1 = .ofHead head ∧
      (EmitChain.ofHeads above).extend (.ofHead head) node.name =
        EmitChain.ofHeads (above ++ [head]) := by
  obtain ⟨head, hhead, -⟩ := exists_isOf h
  obtain ⟨aliasName, halias, hentry⟩ := exists_toEntry hhead hcollides counter
  exact ⟨head.aliasedAs aliasName,
    ⟨Head.isNamed_aliasedAs hhead.named halias, head.isSpelled_aliasedAs aliasName⟩, hentry,
    EmitChain.extend_ofHeads habove hhead.name_eq⟩

mutual

/-- A declared node emits an entry that reads back. -/
theorem isRead_emit (policy : DedupePolicy) {size : Nat} {above : List Head}
    (habove : ∀ head ∈ above, head.IsOwn) (collides : Bool) (counter : Nat) :
    (node : SelectNode) → Head.Declares node.isRelation node.declaration →
    IsOrderly Head.Declares size node →
    node.isSuppressed = false → (collides = true → Head.isIdentifier node.name = true) →
    (emit policy (EmitChain.ofHeads above) collides counter node).IsRead above
  | leaf index declaration, hdeclared, _, _, hcollides => by
    obtain ⟨head, hown, hentry, hchain⟩ := exists_own hdeclared hcollides counter habove
    rw [emit]
    simp only [hentry, hchain]
    exact Emission.isRead_leaf hown above _
  | relation index declaration children, hdeclared, horderly, hvisible, hcollides => by
    obtain ⟨head, hown, hentry, hchain⟩ := exists_own hdeclared hcollides counter habove
    have hbelow : ∀ other ∈ above ++ [head], other.IsOwn := by
      intro other hmem
      rcases List.mem_append.1 hmem with hmem | hmem
      · exact habove other hmem
      · exact List.mem_singleton.1 hmem ▸ hown
    rw [IsOrderly] at horderly
    rw [isSuppressed] at hvisible
    rw [emit]
    simp only [hentry, hchain]
    have hsome : ∀ chain counter, (emitList policy chain (needsAlias policy children) counter
        children).grouped ≠ [] := fun chain counter hnil => by
      rw [grouped_eq_nil_iff.1 hnil] at hvisible
      contradiction
    refine Emission.isRead_nested hown ?_ (hsome _ _)
    exact isRead_emitList policy hbelow (needsAlias policy children) _ children
      horderly.1.declared horderly.2 fun node hmem => isIdentifier_of_needsAlias horderly.1 hmem

/-- So do the nodes of a level, one after the other. -/
theorem isRead_emitList (policy : DedupePolicy) {size : Nat} {above : List Head}
    (habove : ∀ head ∈ above, head.IsOwn) (collides : SelectNode → Bool) (counter : Nat) :
    (nodes : List SelectNode) →
    (∀ node ∈ nodes, Head.Declares node.isRelation node.declaration) →
    AreOrderly Head.Declares size nodes →
    (∀ node ∈ nodes, node.isSuppressed = false → collides node = true →
      Head.isIdentifier node.name = true) →
    (emitList policy (EmitChain.ofHeads above) collides counter nodes).IsRead above
  | [], _, _, _ => by
    rw [emitList]
    exact ⟨trivial, rfl⟩
  | node :: rest, hdeclared, horderly, hcollides => by
    rw [AreOrderly] at horderly
    have hrest : ∀ counter, (emitList policy (EmitChain.ofHeads above) collides counter
        rest).IsRead above := fun counter =>
      isRead_emitList policy habove collides counter rest
        (fun other hmem => hdeclared other (List.mem_cons_of_mem _ hmem)) horderly.2
        (fun other hmem => hcollides other (List.mem_cons_of_mem _ hmem))
    rw [emitList]
    split
    · exact hrest counter
    · rename_i hnode
      have hvisible : node.isSuppressed = false := by simpa using hnode
      exact Emission.isRead_append
        (isRead_emit policy habove (collides node) counter node
          (hdeclared node List.mem_cons_self) horderly.1 hvisible
          (hcollides node List.mem_cons_self hvisible))
        (hrest _) _

end

end SelectNode

/-! ## 5. Statements -/

/-- What is emitted for paths of declared segments reads back. -/
theorem isRead_buildStatement {paths : List Path} (hdeclared : ∀ path ∈ paths,
      SelectNode.IsDeclaredChain Head.Declares (Text.splitOn '.' path.declaration))
    (policy : DedupePolicy) :
    Emission.IsRead [] (SelectNode.emitList policy (EmitChain.ofHeads [])
      (SelectNode.needsAlias policy (SelectTree.ofPaths paths).children) 0
      (SelectTree.ofPaths paths).children) := by
  obtain ⟨hlevel, horderly⟩ := SelectTree.ofPaths_declared hdeclared
  exact SelectNode.isRead_emitList policy (by simp) _ 0 _ hlevel.declared horderly
    fun node hmem => SelectNode.isIdentifier_of_needsAlias hlevel hmem

/-- The statement of paths that were read is read as its leaves. -/
theorem parseSelect_buildStatement {paths : List Path} (hread : ∀ path ∈ paths, path.IsRead)
    (hnamed : ∀ path ∈ paths, path.IsNamed) (policy : DedupePolicy) :
    parseSelect (buildStatement paths policy).statement =
      .ok (buildStatement paths policy).paths := by
  have hemitted := isRead_buildStatement (fun path hmem =>
    Path.isDeclaredChain_of_isRead (hread path hmem) (hnamed path hmem)) policy
  have hgrouped : (buildStatement paths policy).statement =
      GroupedPath.statement (buildStatement paths policy).grouped := rfl
  have hleaves : (buildStatement paths policy).paths = (Field.chainsOf
      (GroupedPath.toFields (buildStatement paths policy).grouped)).map Path.ofHeads :=
    hemitted.paths_eq
  have hreads : GroupedPath.AllReadBack (buildStatement paths policy).grouped :=
    hemitted.readsBack
  rw [hgrouped, hleaves]
  rcases hempty : (buildStatement paths policy).grouped with _ | ⟨first, rest⟩
  · rfl
  · rw [hempty] at hreads
    exact parseSelect_chains (GroupedPath.selectFields_readBack (List.cons_ne_nil _ _) hreads)

/-! ## 6. Notes -/

/-- A note, every column, and the number of rows. -/
def notes : List GroupedPath :=
  [.nested (.ofHead (Head.ofWritten "note:note_id")) [.leaf (.ofHead (Head.ofWritten "id"))],
    .leaf (.ofHead (Head.ofWritten ['*'])), .leaf (.ofHead (Head.ofWritten "total:count()"))]

/-- The number of the note, and once more as a text, and a count. -/
def noteNumbers : List GroupedPath :=
  ["note_id", "note_id::text", "count"].map fun name : String =>
    .leaf (.ofHead (Head.ofWritten name))

/-- Their leaves, of which the numbers come without aliases. -/
def notePaths : List Path :=
  (Field.chainsOf (GroupedPath.toFields notes)).map Path.ofHeads ++
    ((Field.chainsOf (GroupedPath.toFields noteNumbers)).map Path.ofHeads).map Path.withoutAlias

/-- The statement of both: the number as a text gets an alias, and the count
is left out. -/
example : (buildStatement notePaths).statement =
    "note:note_id(id),*,total:count(),note_id,d_0_note_id:note_id::text".toList := by
  decide +kernel

theorem allReadBack_notes :
    GroupedPath.AllReadBack notes ∧ GroupedPath.AllReadBack noteNumbers := by
  have hread : ∀ {written : Text}, (Head.ofWritten written).IsNamed →
      Head.ReadsBack (Entry.ofHead (Head.ofWritten written)).declaration :=
    GroupedPath.readsBack_ofWritten
  constructor
  · exact ⟨⟨hread (by decide +kernel), List.cons_ne_nil _ _, hread (by decide +kernel),
      trivial⟩, hread (by decide +kernel), hread (by decide +kernel), trivial⟩
  · exact ⟨hread (by decide +kernel), hread (by decide +kernel), hread (by decide +kernel),
      trivial⟩

theorem isRead_notePaths : ∀ path ∈ notePaths, path.IsRead := by
  intro path hpath
  rcases List.mem_append.1 hpath with hpath | hpath
  · exact ⟨_, _, path, parseSelect_chains (GroupedPath.selectFields_readBack (by simp [notes])
      allReadBack_notes.1), hpath, Or.inl rfl⟩
  · obtain ⟨leaf, hleaf, rfl⟩ := List.mem_map.1 hpath
    exact ⟨_, _, leaf, parseSelect_chains (GroupedPath.selectFields_readBack
      (by simp [noteNumbers]) allReadBack_notes.2), hleaf, Or.inr rfl⟩

theorem isNamed_notePaths : ∀ path ∈ notePaths, path.IsNamed := by decide +kernel

/-- It is read as its leaves. -/
theorem parseSelect_buildStatement_notes :
    (∀ path ∈ notePaths, path.IsRead) ∧ (∀ path ∈ notePaths, path.IsNamed) ∧
      parseSelect (buildStatement notePaths preferUnhintedRelation).statement =
        .ok (buildStatement notePaths preferUnhintedRelation).paths :=
  ⟨isRead_notePaths, isNamed_notePaths,
    parseSelect_buildStatement isRead_notePaths isNamed_notePaths preferUnhintedRelation⟩

end QueryCache
