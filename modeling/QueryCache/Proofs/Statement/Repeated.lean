/-
QueryCache.Proofs.Statement.Repeated — the statement of a clause's own
leaves repeats the clause.

When the fields of every level are apart, a chain that is inserted meets
nothing that an earlier field left, so the tree of the leaves has one node
for each field, in the order of the clause (`mirrorAll_ofPaths`).  No two
siblings without alias refer to one name, so nothing collides, whatever the
policy is: the statement has one entry for each field but those that no
statement shows, an aggregate without alias and a relation with nothing else
below it (`grouped_buildStatement_chains`).
-/
import QueryCache.Proofs.Reshape.Slots
import QueryCache.Proofs.Statement.ReadBack

namespace QueryCache

/-! ## 1. Fields that are apart -/

namespace Field

/-- Two fields of a level differ in their kind or in how they are written,
and without aliases they answer under different names. -/
def Differs (field other : Field) : Prop :=
  (field.isRelation = other.isRelation → field.head.written ≠ other.head.written) ∧
    (field.head.aliasName = none → other.head.aliasName = none → field.key ≠ other.key)

mutual

/-- The fields of every level below are apart. -/
def IsApart : Field → Prop
  | mk _ children => AreApart children

/-- So are those of this level. -/
def AreApart : List Field → Prop
  | [] => True
  | field :: rest => IsApart field ∧ (∀ other ∈ rest, Differs field other) ∧ AreApart rest

end

mutual

/-- No statement shows an aggregate without alias, nor a relation with
nothing else below it. -/
def isHidden : Field → Bool
  | mk head children =>
    if children.isEmpty then head.aliasName.isNone && Segment.isAggregate head.segment
    else areHidden children

def areHidden : List Field → Bool
  | [] => true
  | field :: rest => isHidden field && areHidden rest

end

mutual

/-- The entry of a field, with the entries that are shown below it. -/
def entryOf : Field → GroupedPath
  | mk head children =>
    if children.isEmpty then .leaf (.ofHead head) else .nested (.ofHead head) (entriesOf children)

/-- The entries of the fields that are shown. -/
def entriesOf : List Field → List GroupedPath
  | [] => []
  | field :: rest => if isHidden field then entriesOf rest else entryOf field :: entriesOf rest

end

theorem areHidden_iff {fields : List Field} : areHidden fields = true ↔ entriesOf fields = [] := by
  induction fields with
  | nil => simp [areHidden, entriesOf]
  | cons field rest ih =>
    rw [areHidden, entriesOf]
    rcases field.isHidden with _ | _ <;> simp [ih]

end Field

namespace SelectNode

/-! ## 2. Nodes of fields -/

mutual

/-- The node and all below it are written as the field is. -/
def Mirrors : SelectNode → Field → Prop
  | leaf _ declaration, field => declaration = field.head.written ∧ field.children = []
  | relation _ declaration children, field =>
    declaration = field.head.written ∧ field.children ≠ [] ∧ MirrorAll children field.children

/-- The nodes stand for the fields in their order. -/
def MirrorAll : List SelectNode → List Field → Prop
  | [], fields => fields = []
  | _ :: _, [] => False
  | node :: rest, field :: others => Mirrors node field ∧ MirrorAll rest others

end

theorem Mirrors.heading_eq {node : SelectNode} {field : Field} (h : node.Mirrors field) :
    node.heading = (field.isRelation, field.head.written) := by
  cases node with
  | leaf index declaration =>
    rw [Mirrors] at h
    rw [heading, Field.isRelation, h.2]
    exact Prod.ext rfl h.1
  | relation index declaration children =>
    rw [Mirrors] at h
    have hrelation : field.isRelation = true := by
      rw [Field.isRelation]
      simpa using h.2.1
    rw [heading, hrelation]
    exact Prod.ext rfl h.1

/-! ## 3. Insertion -/

section

variable {segment : Text} {nodes : List SelectNode}

theorem any_isLeafNamed_eq_false (h : (false, segment) ∉ nodes.map heading) :
    nodes.any (isLeafNamed segment) = false := by
  rw [List.any_eq_false]
  intro node hmem hleaf
  refine h (List.mem_map.2 ⟨node, hmem, ?_⟩)
  cases node with
  | leaf index declaration =>
    have heq : declaration = segment := by simpa [isLeafNamed] using hleaf
    rw [heq]
    rfl
  | relation index declaration children => simp [isLeafNamed] at hleaf

theorem childrenOf?_eq_none (h : (true, segment) ∉ nodes.map heading) :
    childrenOf? segment nodes = none := by
  rcases hchildren : childrenOf? segment nodes with _ | children
  · rfl
  · obtain ⟨index, hmem⟩ := mem_of_childrenOf? hchildren
    exact absurd (List.mem_map_of_mem hmem) h

variable (h : childrenOf? segment nodes = none)
include h

theorem childrenOf?_append (index : Nat) (children : List SelectNode) :
    childrenOf? segment (nodes ++ [relation index segment children]) = some children := by
  induction nodes with
  | nil => rw [List.nil_append, childrenOf?, if_pos rfl]
  | cons node rest ih =>
    cases node with
    | leaf first declaration =>
      rw [childrenOf?] at h
      rw [List.cons_append, childrenOf?, ih h]
    | relation first declaration others =>
      rw [childrenOf?] at h
      split at h
      · contradiction
      · rename_i hne
        rw [List.cons_append, childrenOf?, if_neg hne, ih h]

theorem setChildren_append (index : Nat) (old new : List SelectNode) :
    setChildren segment new (nodes ++ [relation index segment old]) =
      nodes ++ [relation index segment new] := by
  induction nodes with
  | nil => rw [List.nil_append, setChildren, if_pos rfl, List.nil_append]
  | cons node rest ih =>
    cases node with
    | leaf first declaration =>
      rw [childrenOf?] at h
      rw [List.cons_append, setChildren, ih h, List.cons_append]
    | relation first declaration others =>
      rw [childrenOf?] at h
      split at h
      · contradiction
      · rename_i hne
        rw [List.cons_append, setChildren, if_neg hne, ih h, List.cons_append]

end

/-- Inserts chains one after the other into the nodes of a tree of that
size. -/
def insertChains (chains : List (List Text)) (state : List SelectNode × Nat) :
    List SelectNode × Nat :=
  chains.foldl (fun state chain => insertChain chain state.2 state.1) state

theorem insertChains_append (first second : List (List Text)) (state : List SelectNode × Nat) :
    insertChains (first ++ second) state = insertChains second (insertChains first state) :=
  List.foldl_append

/-- All chains through a new relation go below one node. -/
theorem insertChains_below {segment : Text} {nodes : List SelectNode}
    (h : childrenOf? segment nodes = none) (size : Nat) {chains : List (List Text)}
    (hchains : ∀ chain ∈ chains, chain ≠ []) (hne : chains ≠ []) :
    insertChains (chains.map (segment :: ·)) (nodes, size) =
      (nodes ++ [relation size segment (insertChains chains ([], size + 1)).1],
        (insertChains chains ([], size + 1)).2) := by
  -- The first chain makes the node, and each further one finds it at the end.
  have more : ∀ (chains : List (List Text)) (children : List SelectNode) (grown : Nat),
      (∀ chain ∈ chains, chain ≠ []) →
      insertChains (chains.map (segment :: ·)) (nodes ++ [relation size segment children], grown) =
        (nodes ++ [relation size segment (insertChains chains (children, grown)).1],
          (insertChains chains (children, grown)).2) := by
    intro chains
    induction chains with
    | nil => exact fun _ _ _ => rfl
    | cons chain rest ih =>
      intro children grown hchains
      obtain ⟨next, others, rfl⟩ := List.exists_cons_of_ne_nil (hchains chain List.mem_cons_self)
      have hstep : insertChain (segment :: next :: others) grown
          (nodes ++ [relation size segment children]) =
            (nodes ++ [relation size segment (insertChain (next :: others) grown children).1],
              (insertChain (next :: others) grown children).2) := by
        rw [insertChain, childrenOf?_append h]
        dsimp only
        rw [setChildren_append h]
      simp only [insertChains, List.map_cons, List.foldl_cons, hstep] at ih ⊢
      exact ih _ _ fun other hmem => hchains other (List.mem_cons_of_mem _ hmem)
  obtain ⟨chain, rest, rfl⟩ := List.exists_cons_of_ne_nil hne
  obtain ⟨next, others, rfl⟩ := List.exists_cons_of_ne_nil (hchains chain List.mem_cons_self)
  have hfirst : insertChain (segment :: next :: others) size nodes =
      (nodes ++ [relation size segment (insertChain (next :: others) (size + 1) []).1],
        (insertChain (next :: others) (size + 1) []).2) := by
    rw [insertChain, h]
  have hrest := more rest (insertChain (next :: others) (size + 1) []).1
    (insertChain (next :: others) (size + 1) []).2
    fun other hmem => hchains other (List.mem_cons_of_mem _ hmem)
  simp only [insertChains, List.map_cons, List.foldl_cons, hfirst] at hrest ⊢
  exact hrest

/-- The chains of a clause as they are written. -/
def writtenChains (chains : List (List Head)) : List (List Text) :=
  chains.map (·.map (·.written))

mutual

/-- The chains of a new field add a node that mirrors it. -/
theorem exists_mirrors : (field : Field) → field.IsApart → (nodes : List SelectNode) →
    (size : Nat) → (field.isRelation, field.head.written) ∉ nodes.map heading →
    ∃ node more, insertChains (writtenChains (Field.chains field)) (nodes, size) =
      (nodes ++ [node], more) ∧ node.Mirrors field
  | .mk head children, hapart, nodes, size, hnew => by
    rw [Field.IsApart] at hapart
    rw [Field.chains]
    by_cases hempty : children.isEmpty
    · have hleaf : nodes.any (isLeafNamed head.written) = false := by
        refine any_isLeafNamed_eq_false ?_
        simpa [Field.isRelation, Field.children, Field.head, hempty] using hnew
      refine ⟨leaf size head.written, size + 1, ?_, ?_⟩
      · rw [if_pos hempty]
        simp only [insertChains, writtenChains, List.map_cons, List.map_nil, List.foldl_cons,
          List.foldl_nil, insertChain, hleaf, Bool.false_eq_true, if_false]
      · rw [Mirrors]
        exact ⟨rfl, by simpa [Field.children] using hempty⟩
    · have hne : children ≠ [] := by simpa using hempty
      have hnone : childrenOf? head.written nodes = none := by
        refine childrenOf?_eq_none ?_
        simpa [Field.isRelation, Field.children, Field.head, hempty] using hnew
      obtain ⟨below, more, hbelow, hmirror⟩ :=
        exists_mirrorAll children hapart [] (size + 1) (by simp)
      have hchains : ∀ chain ∈ writtenChains (Field.chainsOf children), chain ≠ [] := by
        intro chain hmem
        obtain ⟨heads, hheads, rfl⟩ := List.mem_map.1 hmem
        simpa using Field.chainsOf_ne_nil children heads hheads
      have hsome : writtenChains (Field.chainsOf children) ≠ [] := by
        simpa [writtenChains] using Field.chainsOf_nonempty children hne
      have hwritten : writtenChains ((Field.chainsOf children).map (head :: ·)) =
          (writtenChains (Field.chainsOf children)).map (head.written :: ·) := by
        simp only [writtenChains, List.map_map, Function.comp_def, List.map_cons]
      rw [if_neg hempty, hwritten, insertChains_below hnone size hchains hsome, hbelow]
      refine ⟨_, _, rfl, ?_⟩
      rw [Mirrors]
      exact ⟨rfl, hne, hmirror⟩

/-- The chains of new fields add nodes that mirror them. -/
theorem exists_mirrorAll : (fields : List Field) → Field.AreApart fields →
    (nodes : List SelectNode) → (size : Nat) →
    (∀ field ∈ fields, (field.isRelation, field.head.written) ∉ nodes.map heading) →
    ∃ new more, insertChains (writtenChains (Field.chainsOf fields)) (nodes, size) =
      (nodes ++ new, more) ∧ MirrorAll new fields
  | [], _, nodes, size, _ => by
    refine ⟨[], size, ?_, rfl⟩
    rw [List.append_nil]
    rfl
  | field :: rest, hapart, nodes, size, hnew => by
    rw [Field.AreApart] at hapart
    obtain ⟨hfield, hdiffer, hrest⟩ := hapart
    obtain ⟨node, grown, hnode, hmirror⟩ :=
      exists_mirrors field hfield nodes size (hnew field List.mem_cons_self)
    have hfresh : ∀ other ∈ rest,
        (other.isRelation, other.head.written) ∉ (nodes ++ [node]).map heading := by
      intro other hmem
      rw [List.map_append, List.mem_append, not_or, List.map_singleton, List.mem_singleton,
        hmirror.heading_eq, Prod.mk.injEq]
      exact ⟨hnew other (List.mem_cons_of_mem _ hmem),
        fun heq => (hdiffer other hmem).1 heq.1.symm heq.2.symm⟩
    obtain ⟨others, more, hothers, hmirrors⟩ :=
      exists_mirrorAll rest hrest (nodes ++ [node]) grown hfresh
    refine ⟨node :: others, more, ?_, ?_⟩
    · rw [Field.chainsOf, writtenChains, List.map_append, ← writtenChains, ← writtenChains,
        insertChains_append, hnode, hothers, List.append_assoc]
      rfl
    · rw [MirrorAll]
      exact ⟨hmirror, hmirrors⟩

end

end SelectNode

/-! ## 4. The tree of the leaves -/

theorem Head.IsNamed.isDotless {head : Head} (h : head.IsNamed) : head.IsDotless where
  aliasName text htext := not_mem_of_isIdentifier (h.aliasName text htext) (by decide)
  name := by
    rcases h.name with hname | ⟨-, hname | hname⟩
    · exact hname.not_mem (by decide) (by decide)
    · rw [hname]
      decide
    · rw [hname]
      decide
  hints text htext := not_mem_of_isIdentifier (h.hints text htext) (by decide)

namespace SelectTree

open SelectNode

/-- The leaves of named heads are inserted as they are written. -/
theorem insert_ofHeads {chain : List Head} (hne : chain ≠ []) (hown : ∀ head ∈ chain, head.IsOwn)
    (tree : SelectTree) : tree.insert (.ofHeads chain) =
      ⟨(insertChain (chain.map (·.written)) tree.size tree.children).1,
        (insertChain (chain.map (·.written)) tree.size tree.children).2⟩ := by
  have hdotless : DotlessChain chain := ⟨hne, fun head hmem => (hown head hmem).1.isDotless⟩
  have hsplit := Path.splitOn_declaration_ofHeads hdotless fun head hmem => (hown head hmem).2
  have hdeclared : (Path.ofHeads chain).declaration.isEmpty = false := by
    obtain ⟨first, rest, rfl⟩ := List.exists_cons_of_ne_nil hne
    obtain ⟨hnamed, hspelled⟩ := hown first List.mem_cons_self
    have hwritten : first.written ≠ [] := hspelled ▸ hnamed.spelled_ne_nil
    simpa [Path.ofHeads] using Text.join_ne_nil hwritten (rest.map (·.written))
  simp only [insert, hdeclared, Bool.false_eq_true, if_false, hsplit]

variable {fields : List Field} (hown : Field.AllOf Head.IsOwn fields)
include hown

theorem children_ofPaths : (ofPaths ((Field.chainsOf fields).map Path.ofHeads)).children =
    (insertChains (writtenChains (Field.chainsOf fields)) ([], 1)).1 := by
  have hchains : ∀ chain ∈ Field.chainsOf fields, chain ≠ [] ∧ ∀ head ∈ chain, head.IsOwn :=
    fun chain hmem => ⟨Field.chainsOf_ne_nil fields chain hmem,
      Field.all_of_mem_chainsOf fields hown chain hmem⟩
  suffices ∀ (chains : List (List Head)) (tree : SelectTree),
      (∀ chain ∈ chains, chain ≠ [] ∧ ∀ head ∈ chain, head.IsOwn) →
      ((chains.map Path.ofHeads).foldl insert tree).children =
        (insertChains (writtenChains chains) (tree.children, tree.size)).1 from
    this _ {} hchains
  intro chains
  induction chains with
  | nil => exact fun _ _ => rfl
  | cons chain rest ih =>
    intro tree hchains
    obtain ⟨hne, hheads⟩ := hchains chain List.mem_cons_self
    rw [List.map_cons, List.foldl_cons, insert_ofHeads hne hheads tree,
      ih _ fun other hmem => hchains other (List.mem_cons_of_mem _ hmem)]
    rfl

/-- The tree of the leaves has a node for each field. -/
theorem mirrorAll_ofPaths (hapart : Field.AreApart fields) :
    MirrorAll (ofPaths ((Field.chainsOf fields).map Path.ofHeads)).children fields := by
  obtain ⟨new, more, hinserted, hmirror⟩ := exists_mirrorAll fields hapart [] 1 (by simp)
  rw [children_ofPaths hown, hinserted]
  exact hmirror

end SelectTree

/-! ## 5. Its statement -/

namespace SelectNode

/-- A node written as the head says what the head says. -/
theorem splitAlias_written {head : Head} (h : head.IsOwn) :
    Segment.splitAlias head.written = (head.aliasName, head.segment) := by
  rw [h.2, h.1.splitAlias_spelled]

/-- Without a collision it is emitted as the head. -/
theorem toEntry_written {node : SelectNode} {head : Head} (h : head.IsOwn)
    (hnode : node.declaration = head.written) (counter : Nat) :
    node.toEntry false counter = (.ofHead head, counter) := by
  have hsplit : Segment.splitAlias node.declaration = (head.aliasName, head.segment) := by
    rw [hnode, splitAlias_written h]
  have hwritten : head.written = head.spelled := h.2
  cases halias : head.aliasName with
  | none => simp [toEntry, aliasName, path, hsplit, Entry.ofHead, hwritten, Head.spelled, halias]
  | some text =>
    simp [toEntry, aliasName, path, hsplit, Entry.ofHead, hwritten, Head.spelled, halias]

theorem declaration_of_mirrors {node : SelectNode} {field : Field} (h : node.Mirrors field) :
    node.declaration = field.head.written :=
  congrArg Prod.snd h.heading_eq

mutual

/-- A node is suppressed when its field is hidden. -/
theorem isSuppressed_of_mirrors : (node : SelectNode) → (field : Field) →
    field.All Head.IsOwn → node.Mirrors field → node.isSuppressed = field.isHidden
  | leaf _ declaration, .mk head children, hown, h => by
    rw [Field.All] at hown
    rw [Mirrors] at h
    obtain ⟨hdeclaration, hchildren⟩ := h
    have hempty : children.isEmpty = true := by simpa [Field.children] using hchildren
    rw [isSuppressed, hdeclaration, Field.isHidden, if_pos hempty, Field.head,
      splitAlias_written hown.1]
  | relation _ declaration nodes, .mk head children, hown, h => by
    rw [Field.All] at hown
    rw [Mirrors] at h
    have hempty : children.isEmpty = false := by simpa [Field.children] using h.2.1
    rw [isSuppressed, Field.isHidden, hempty, if_neg Bool.false_ne_true]
    exact areSuppressed_of_mirrorAll nodes children hown.2 h.2.2

theorem areSuppressed_of_mirrorAll : (nodes : List SelectNode) → (fields : List Field) →
    Field.AllOf Head.IsOwn fields → MirrorAll nodes fields →
    areSuppressed nodes = Field.areHidden fields
  | [], fields, _, h => by
    rw [MirrorAll] at h
    rw [h, areSuppressed, Field.areHidden]
  | _ :: _, [], _, h => by
    rw [MirrorAll] at h
    exact h.elim
  | node :: rest, field :: others, hown, h => by
    rw [Field.AllOf] at hown
    rw [MirrorAll] at h
    rw [areSuppressed, Field.areHidden, isSuppressed_of_mirrors node field hown.1 h.1,
      areSuppressed_of_mirrorAll rest others hown.2 h.2]

end

/-- What a node says of itself is what the head of its field says. -/
theorem name_of_mirrors {node : SelectNode} {field : Field} (hown : field.All Head.IsOwn)
    (h : node.Mirrors field) : node.aliasName = field.head.aliasName ∧
      (field.head.aliasName = none → node.name = field.key) := by
  obtain ⟨head, children⟩ := field
  rw [Field.All] at hown
  have hsplit : Segment.splitAlias node.declaration = (head.aliasName, head.segment) := by
    rw [declaration_of_mirrors h]
    exact splitAlias_written hown.1
  refine ⟨congrArg Prod.fst hsplit, fun hnone => ?_⟩
  have hnone' : head.aliasName = none := hnone
  have hkey : (Field.mk head children).key = Text.upToCast head.name := by
    rw [Field.key, Field.head, Head.effectiveName, hnone', Option.getD_none]
  rw [hkey, name, path, hsplit, hown.1.1.bareName_segment]

theorem MirrorAll.exists_field {nodes : List SelectNode} {fields : List Field}
    (h : MirrorAll nodes fields) : ∀ node ∈ nodes, ∃ field ∈ fields, node.Mirrors field := by
  induction nodes generalizing fields with
  | nil => simp
  | cons node rest ih =>
    rcases fields with _ | ⟨field, others⟩
    · exact h.elim
    · rw [MirrorAll] at h
      intro other hother
      rcases List.mem_cons.1 hother with rfl | hother
      · exact ⟨field, List.mem_cons_self, h.1⟩
      · obtain ⟨found, hfound, hmirror⟩ := ih h.2 other hother
        exact ⟨found, List.mem_cons_of_mem _ hfound, hmirror⟩

/-- Nodes of fields that are apart do not collide. -/
theorem MirrorAll.areNamedOnce {nodes : List SelectNode} {fields : List Field}
    (h : MirrorAll nodes fields) (hown : Field.AllOf Head.IsOwn fields)
    (hapart : Field.AreApart fields) : AreNamedOnce nodes := by
  induction nodes generalizing fields with
  | nil => exact List.Pairwise.nil
  | cons node rest ih =>
    rcases fields with _ | ⟨field, others⟩
    · exact h.elim
    · rw [Field.AllOf] at hown
      rw [Field.AreApart] at hapart
      rw [MirrorAll] at h
      obtain ⟨halias, hkey⟩ := name_of_mirrors hown.1 h.1
      refine List.pairwise_cons.2 ⟨fun other hother _ _ hnone hotherNone hname => ?_,
        ih h.2 hown.2 hapart.2.2⟩
      obtain ⟨found, hfound, hmirror⟩ := h.2.exists_field other hother
      obtain ⟨hotherAlias, hotherKey⟩ :=
        name_of_mirrors (Field.allOf_iff.1 hown.2 found hfound) hmirror
      rw [halias] at hnone
      rw [hotherAlias] at hotherNone
      refine (hapart.2.1 found hfound).2 hnone hotherNone ?_
      rw [← hkey hnone, ← hotherKey hotherNone, hname]

mutual

/-- A node that does not collide is emitted as the entry of its field. -/
theorem grouped_emit_of_mirrors (policy : DedupePolicy) (chain : EmitChain) (counter : Nat) :
    (node : SelectNode) → (field : Field) → field.All Head.IsOwn → field.IsApart →
    node.Mirrors field →
    (emit policy chain false counter node).grouped = [field.entryOf]
  | leaf index declaration, .mk head children, hown, _, h => by
    rw [Field.All] at hown
    rw [Mirrors] at h
    have hempty : children.isEmpty = true := by simpa [Field.children] using h.2
    rw [emit, Field.entryOf, if_pos hempty]
    simp only [@toEntry_written (leaf index declaration) head hown.1 h.1 counter]
  | relation index declaration nodes, .mk head children, hown, hapart, h => by
    rw [Field.All] at hown
    rw [Field.IsApart] at hapart
    rw [Mirrors] at h
    have hempty : children.isEmpty = false := by simpa [Field.children] using h.2.1
    have hcollides : ∀ node ∈ nodes, needsAlias policy nodes node = false := fun node _ =>
      (h.2.2.areNamedOnce hown.2 hapart).needsAlias_eq_false policy node
    rw [emit, Field.entryOf, hempty, if_neg Bool.false_ne_true]
    simp only [@toEntry_written (relation index declaration nodes) head hown.1 h.1 counter]
    rw [grouped_emitList_of_mirrorAll policy _ _ _ nodes children hown.2 hapart h.2.2 hcollides]

/-- Nodes that do not collide are emitted as the entries of their fields. -/
theorem grouped_emitList_of_mirrorAll (policy : DedupePolicy) (chain : EmitChain)
    (collides : SelectNode → Bool) (counter : Nat) : (nodes : List SelectNode) →
    (fields : List Field) → Field.AllOf Head.IsOwn fields → Field.AreApart fields →
    MirrorAll nodes fields → (∀ node ∈ nodes, collides node = false) →
    (emitList policy chain collides counter nodes).grouped = Field.entriesOf fields
  | [], fields, _, _, h, _ => by
    rw [MirrorAll] at h
    rw [h, emitList, Field.entriesOf]
  | _ :: _, [], _, _, h, _ => by
    rw [MirrorAll] at h
    exact h.elim
  | node :: rest, field :: others, hown, hapart, h, hcollides => by
    rw [Field.AllOf] at hown
    rw [Field.AreApart] at hapart
    rw [MirrorAll] at h
    have hrest : ∀ counter, (emitList policy chain collides counter rest).grouped =
        Field.entriesOf others := fun counter =>
      grouped_emitList_of_mirrorAll policy chain collides counter rest others hown.2 hapart.2.2
        h.2 fun other hmem => hcollides other (List.mem_cons_of_mem _ hmem)
    rw [emitList, Field.entriesOf, isSuppressed_of_mirrors node field hown.1 h.1]
    split
    · exact hrest counter
    · simp only [hcollides node List.mem_cons_self]
      rw [grouped_emit_of_mirrors policy chain counter node field hown.1 hapart.1 h.1, hrest]
      rfl

end

end SelectNode

/-- The statement of the leaves of a clause has one entry for each field
that is shown, and nothing else. -/
theorem grouped_buildStatement_chains {fields : List Field}
    (hown : Field.AllOf Head.IsOwn fields) (hapart : Field.AreApart fields)
    (policy : DedupePolicy) :
    (buildStatement ((Field.chainsOf fields).map Path.ofHeads) policy).grouped =
      Field.entriesOf fields := by
  have hmirror := SelectTree.mirrorAll_ofPaths hown hapart
  exact SelectNode.grouped_emitList_of_mirrorAll policy _ _ 0 _ fields hown hapart hmirror
    fun node _ => (hmirror.areNamedOnce hown hapart).needsAlias_eq_false policy node

end QueryCache
