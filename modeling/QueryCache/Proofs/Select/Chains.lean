/-
QueryCache.Proofs.Select.Chains — leaves as chains of heads.

A leaf of a tree of fields is known by the heads that lead to it.
`leaves_eq` gives the path that stands for each chain.  No head of a clause
holds a dot, so a path has as many keys as segments
(`isAligned_of_parseSelect`), and for plain heads it says all of them: its
segments, its keys, and what is left of it without aliases.
-/
import QueryCache.Proofs.Select.Written
import QueryCache.Reshape.Shape

namespace QueryCache

/-! ## 1. Chains -/

namespace Field

mutual

/-- The chains of heads that lead to the leaves of a field. -/
def chains : Field → List (List Head)
  | mk head children =>
    if children.isEmpty then [[head]] else (chainsOf children).map (head :: ·)

/-- The chains of heads that lead to the leaves of fields side by side. -/
def chainsOf : List Field → List (List Head)
  | [] => []
  | field :: rest => chains field ++ chainsOf rest

end

theorem chainsOf_eq_flatMap (fields : List Field) : chainsOf fields = fields.flatMap chains := by
  induction fields with
  | nil => rfl
  | cons field rest ih => rw [chainsOf, ih, List.flatMap_cons]

end Field

/-- The path at the end of a chain of heads. -/
def Path.ofHeads (heads : List Head) : Path where
  declaration := Text.join '.' (heads.map (·.written))
  path := Text.join '.' (heads.map (·.segment))
  aliasChain :=
    if heads.any (·.aliasName.isSome) then some (Text.join '.' (heads.map (·.effectiveName)))
    else none

/-- The chains above a level; none at the top. -/
def Field.Ancestry.ofHeads? (heads : List Head) : Option Ancestry :=
  if heads.isEmpty then none
  else some {
    declaration := Text.join '.' (heads.map (·.written))
    path := Text.join '.' (heads.map (·.segment))
    names := Text.join '.' (heads.map (·.effectiveName))
    aliased := heads.any (·.aliasName.isSome) }

/-! ## 2. Leaves -/

namespace Text

theorem join_append_singleton {sep : Char} {parts : List Text} (h : parts ≠ []) (part : Text) :
    join sep (parts ++ [part]) = join sep parts ++ sep :: part := by
  induction parts with
  | nil => exact absurd rfl h
  | cons first rest ih =>
    rcases rest with _ | ⟨next, rest⟩
    · rfl
    · have hne : next :: rest ≠ [] := List.cons_ne_nil _ _
      rw [List.cons_append, join_cons (by simp), ih hne, join_cons hne, List.append_assoc,
        List.cons_append]

end Text

namespace Field

theorem extend_ofHeads (above : List Head) (head : Head) :
    some (Ancestry.extend (Ancestry.ofHeads? above) head) =
      Ancestry.ofHeads? (above ++ [head]) := by
  rcases above with _ | ⟨first, above⟩
  · simp [Ancestry.ofHeads?, Ancestry.extend, extendChain, Text.join]
  · have hjoin : ∀ f : Head → Text,
        Text.join '.' ((first :: (above ++ [head])).map f) =
          Text.join '.' ((first :: above).map f) ++ '.' :: f head := by
      intro f
      rw [← List.cons_append, List.map_append, List.map_singleton,
        Text.join_append_singleton (by simp)]
    simp only [Ancestry.ofHeads?, List.isEmpty_cons, Bool.false_eq_true, if_false,
      Ancestry.extend, extendChain, Option.map_some, List.cons_append, hjoin, List.any_append,
      List.any_cons, List.any_nil, Bool.or_false, Option.any_some, Bool.or_assoc]

theorem leaf_ofHeads {heads : List Head} {ancestry : Ancestry}
    (h : Ancestry.ofHeads? heads = some ancestry) : ancestry.leaf = Path.ofHeads heads := by
  rcases heads with _ | ⟨first, rest⟩
  · simp [Ancestry.ofHeads?] at h
  · simp only [Ancestry.ofHeads?, List.isEmpty_cons, Bool.false_eq_true, if_false,
      Option.some.injEq] at h
    rw [← h]
    rfl

mutual

/-- The leaves of a field are the paths of its chains. -/
theorem leaves_eq (above : List Head) : (field : Field) →
    leaves (Ancestry.ofHeads? above) field =
      (chains field).map fun chain => Path.ofHeads (above ++ chain)
  | mk head [] => by
    rw [leaves, leaf_ofHeads (extend_ofHeads above head).symm]
    rfl
  | mk head (first :: others) => by
    rw [leaves, extend_ofHeads, leaves_eq (above ++ [head]) first,
      leavesOfList_eq (above ++ [head]) others]
    simp [chains, chainsOf, Function.comp_def]

theorem leavesOfList_eq (above : List Head) : (fields : List Field) →
    leavesOfList (Ancestry.ofHeads? above) fields =
      (chainsOf fields).map fun chain => Path.ofHeads (above ++ chain)
  | [] => by simp [leavesOfList, chainsOf]
  | field :: rest => by
    rw [leavesOfList, leaves_eq above field, leavesOfList_eq above rest, chainsOf,
      List.map_append]

end

/-- The paths of a clause are those of the chains of its fields. -/
theorem leavesOfList_none (fields : List Field) :
    leavesOfList none fields = (chainsOf fields).map Path.ofHeads :=
  leavesOfList_eq [] fields

end Field

theorem parseSelect_chains {clause : Text} {fields : List Field}
    (h : selectFields clause = .ok fields) :
    parseSelect clause = .ok ((Field.chainsOf fields).map Path.ofHeads) := by
  rw [parseSelect_eq, h, ← Field.leavesOfList_none]
  rfl

/-- The chains of fields without nested clauses are their heads. -/
theorem Field.chainsOf_leaves {fields : List Field} (h : ∀ field ∈ fields, field.children = []) :
    chainsOf fields = fields.map fun field => [field.head] := by
  induction fields with
  | nil => rfl
  | cons field rest ih =>
    rw [chainsOf, ih fun other hmem => h other (List.mem_cons_of_mem _ hmem), List.map_cons]
    obtain ⟨head, children⟩ := field
    obtain rfl : children = [] := h _ List.mem_cons_self
    rfl

/-- Texts that read back, separated by commas, are read as one field for
each. -/
theorem selectFields_heads {names : List Text} (hne : names ≠ [])
    (h : ∀ name ∈ names, Head.ReadsBack name) :
    selectFields (Text.join ',' names) =
      .ok (names.map fun name => .mk (Head.ofWritten name) []) := by
  let columns : List GroupedPath := names.map fun name => .leaf ⟨name, name, none⟩
  have hread : GroupedPath.statementParts columns = names ∧ GroupedPath.AllReadBack columns ∧
      GroupedPath.toFields columns = names.map fun name => .mk (Head.ofWritten name) [] := by
    clear hne
    induction names with
    | nil => exact ⟨rfl, trivial, rfl⟩
    | cons name rest ih =>
      obtain ⟨hparts, hreads, hfields⟩ := ih fun other hmem => h other (List.mem_cons_of_mem _ hmem)
      refine ⟨congrArg (name :: ·) hparts, ⟨h name List.mem_cons_self, hreads⟩, ?_⟩
      exact congrArg (Field.mk (Head.ofWritten name) [] :: ·) hfields
  obtain ⟨hparts, hreads, hfields⟩ := hread
  have hcolumns := GroupedPath.selectFields_readBack (by simpa [columns] using hne) hreads
  rwa [GroupedPath.statement, hparts, hfields] at hcolumns

/-- So they are read as one leaf for each. -/
theorem parseSelect_heads {names : List Text} (hne : names ≠ [])
    (h : ∀ name ∈ names, Head.ReadsBack name) :
    parseSelect (Text.join ',' names) =
      .ok (names.map fun name => Path.ofHeads [Head.ofWritten name]) := by
  have hleaves : ∀ field ∈ names.map fun name => Field.mk (Head.ofWritten name) [],
      field.children = [] := by
    intro field hfield
    obtain ⟨name, -, rfl⟩ := List.mem_map.1 hfield
    rfl
  rw [parseSelect_chains (selectFields_heads hne h), Field.chainsOf_leaves hleaves, List.map_map,
    List.map_map]
  rfl

namespace Field

theorem chains_ne_nil (field : Field) : ∀ chain ∈ chains field, chain ≠ [] := by
  obtain ⟨head, children⟩ := field
  intro chain hmem
  rw [chains] at hmem
  split at hmem
  · simp_all
  · obtain ⟨rest, -, rfl⟩ := List.mem_map.1 hmem
    simp

theorem chainsOf_ne_nil (fields : List Field) : ∀ chain ∈ chainsOf fields, chain ≠ [] := by
  intro chain hmem
  rw [chainsOf_eq_flatMap, List.mem_flatMap] at hmem
  obtain ⟨field, -, hmem⟩ := hmem
  exact chains_ne_nil field chain hmem

mutual

/-- The heads of a chain are heads of the field. -/
theorem all_of_mem_chains {p : Head → Prop} : (field : Field) → field.All p →
    ∀ chain ∈ chains field, ∀ head ∈ chain, p head
  | mk head children, h => by
    intro chain hchain other hother
    rw [All] at h
    rw [chains] at hchain
    split at hchain
    · rw [List.mem_singleton] at hchain
      rw [hchain, List.mem_singleton] at hother
      exact hother ▸ h.1
    · obtain ⟨rest, hrest, rfl⟩ := List.mem_map.1 hchain
      rcases List.mem_cons.1 hother with rfl | hother
      · exact h.1
      · exact all_of_mem_chainsOf children h.2 rest hrest other hother

theorem all_of_mem_chainsOf {p : Head → Prop} : (fields : List Field) → AllOf p fields →
    ∀ chain ∈ chainsOf fields, ∀ head ∈ chain, p head
  | [], _ => by simp [chainsOf]
  | field :: rest, h => by
    intro chain hchain
    rw [AllOf] at h
    rw [chainsOf, List.mem_append] at hchain
    rcases hchain with hchain | hchain
    · exact all_of_mem_chains field h.1 chain hchain
    · exact all_of_mem_chainsOf rest h.2 chain hchain

end

end Field

/-! ## 3. Chains without dots -/

/-- No part of the heads holds a dot. -/
def DotlessChain (heads : List Head) : Prop :=
  heads ≠ [] ∧ ∀ head ∈ heads, head.IsDotless

/-- The path has a key for each of its segments. -/
def Path.IsAligned (path : Path) : Prop :=
  (Text.splitOn '.' path.outputPath).length = path.segments.length

namespace Head

variable {head : Head} (h : head.IsDotless)
include h

theorem dot_not_mem_segment : '.' ∉ head.segment := by
  intro hmem
  rcases Text.mem_join hmem with hdot | ⟨part, hpart, hmem⟩
  · contradiction
  · rcases List.mem_cons.1 hpart with rfl | hpart
    · exact h.name hmem
    · exact h.hints part hpart hmem

theorem dot_not_mem_spelled : '.' ∉ head.spelled := by
  have hsegment := dot_not_mem_segment h
  rw [spelled]
  rcases halias : head.aliasName with _ | text
  · exact hsegment
  · have htext := h.aliasName text halias
    simp [htext, hsegment]

theorem dot_not_mem_effectiveName : '.' ∉ head.effectiveName := by
  intro hmem
  rw [effectiveName] at hmem
  rcases halias : head.aliasName with _ | text
  · rw [halias] at hmem
    exact h.name (Text.mem_of_mem_upToCast hmem)
  · rw [halias] at hmem
    exact h.aliasName text halias hmem

end Head

namespace Path

section

variable {heads : List Head} (h : DotlessChain heads)
include h

theorem segments_ofHeads : (ofHeads heads).segments = heads.map (·.segment) := by
  refine Text.splitOn_join (by simpa using h.1) ?_
  intro segment hmem
  obtain ⟨head, hhead, rfl⟩ := List.mem_map.1 hmem
  exact Head.dot_not_mem_segment (h.2 head hhead)

theorem splitOn_declaration_ofHeads (hspelled : ∀ head ∈ heads, head.IsSpelled) :
    Text.splitOn '.' (ofHeads heads).declaration = heads.map (·.written) := by
  refine Text.splitOn_join (by simpa using h.1) ?_
  intro written hmem
  obtain ⟨head, hhead, rfl⟩ := List.mem_map.1 hmem
  rw [hspelled head hhead]
  exact Head.dot_not_mem_spelled (h.2 head hhead)

/-- Without its aliases a leaf is known by its segments alone. -/
theorem withoutAlias_eq (hspelled : ∀ head ∈ heads, head.IsSpelled)
    (hstripped : ∀ head ∈ heads, Segment.withoutAlias head.written = head.segment) :
    (ofHeads heads).withoutAlias = ofText (Text.join '.' (heads.map (·.segment))) := by
  have hsegments : (heads.map (·.written)).map Segment.withoutAlias = heads.map (·.segment) := by
    rw [List.map_map]
    exact List.map_congr_left hstripped
  simp only [withoutAlias, ofText, Segment.stripPathAliases, Segment.mapSegments,
    splitOn_declaration_ofHeads h hspelled, hsegments]
  rfl

theorem withoutAlias_named (hspelled : ∀ head ∈ heads, head.IsSpelled)
    (hnamed : ∀ head ∈ heads, head.IsNamed) :
    (ofHeads heads).withoutAlias = ofText (Text.join '.' (heads.map (·.segment))) := by
  refine withoutAlias_eq h hspelled fun head hhead => ?_
  rw [hspelled head hhead, Segment.withoutAlias, (hnamed head hhead).splitAlias_spelled]

theorem isAligned_ofHeads : (ofHeads heads).IsAligned := by
  have hsegments := segments_ofHeads h
  rw [IsAligned, hsegments, List.length_map, outputPath]
  rcases haliased : heads.any (·.aliasName.isSome) with _ | _
  · have hchain : (ofHeads heads).aliasChain = none := by simp [ofHeads, haliased]
    have hparts : ∀ part ∈ (heads.map (·.segment)).map Segment.stripHints, '.' ∉ part := by
      intro part hpart hmem
      obtain ⟨segment, hsegment, rfl⟩ := List.mem_map.1 hpart
      obtain ⟨head, hhead, rfl⟩ := List.mem_map.1 hsegment
      exact Head.dot_not_mem_segment (h.2 head hhead) (List.takeWhile_subset _ hmem)
    rw [segments] at hsegments
    rw [hchain, Option.getD_none, Segment.stripPathHints, Segment.mapSegments, hsegments,
      Text.splitOn_join (by simpa using h.1) hparts, List.length_map, List.length_map]
  · have hchain : (ofHeads heads).aliasChain =
        some (Text.join '.' (heads.map (·.effectiveName))) := by simp [ofHeads, haliased]
    have hparts : ∀ part ∈ heads.map (·.effectiveName), '.' ∉ part := by
      intro part hpart
      obtain ⟨head, hhead, rfl⟩ := List.mem_map.1 hpart
      exact Head.dot_not_mem_effectiveName (h.2 head hhead)
    rw [hchain, Option.getD_some, Text.splitOn_join (by simpa using h.1) hparts, List.length_map]

end

/-- Where keys and segments match, a route pairs them up. -/
theorem route_of_isAligned {path : Path} (h : path.IsAligned) :
    Slot.route path = path.segments.zip (Text.splitOn '.' path.outputPath) := by
  unfold Slot.route
  exact if_pos h

end Path

/-- The paths of a clause have a key for each segment. -/
theorem isAligned_of_parseSelect {clause : Text} {paths : List Path}
    (h : parseSelect clause = .ok paths) : ∀ path ∈ paths, path.IsAligned := by
  rcases hfields : selectFields clause with error | fields
  · rw [parseSelect_eq, hfields] at h
    contradiction
  · rw [parseSelect_chains hfields, Except.ok.injEq] at h
    intro path hpath
    rw [← h] at hpath
    obtain ⟨chain, hchain, rfl⟩ := List.mem_map.1 hpath
    exact Path.isAligned_ofHeads ⟨Field.chainsOf_ne_nil fields chain hchain,
      Field.all_of_mem_chainsOf fields (selectFields_dotless hfields) chain hchain⟩

/-- A chain whose names carry no cast answers under the effective names of its
heads. -/
theorem Path.splitOn_outputPath_of_dotless {heads : List Head} (h : DotlessChain heads)
    (hnames : ∀ head ∈ heads, Segment.stripHints head.segment = Text.upToCast head.name) :
    Text.splitOn '.' (ofHeads heads).outputPath = heads.map (·.effectiveName) := by
  have hdots : ∀ name ∈ heads.map (·.effectiveName), '.' ∉ name := by
    intro name hmem
    obtain ⟨head, hhead, rfl⟩ := List.mem_map.1 hmem
    exact Head.dot_not_mem_effectiveName (h.2 head hhead)
  have hne : heads.map (·.effectiveName) ≠ [] := by simpa using h.1
  unfold outputPath
  rcases haliased : heads.any (·.aliasName.isSome) with _ | _
  · have hstripped : (heads.map (·.segment)).map Segment.stripHints =
        heads.map (·.effectiveName) := by
      rw [List.map_map]
      refine List.map_congr_left fun head hhead => ?_
      have hnone : head.aliasName = none := by
        simpa using List.any_eq_false.1 haliased head hhead
      rw [Function.comp_apply, hnames head hhead, Head.effectiveName, hnone, Option.getD_none]
    have hchain : (ofHeads heads).aliasChain = none := by simp [ofHeads, haliased]
    have hsegments := segments_ofHeads h
    rw [segments] at hsegments
    rw [hchain, Option.getD_none, Segment.stripPathHints, Segment.mapSegments, hsegments,
      hstripped]
    exact Text.splitOn_join hne hdots
  · have hchain : (ofHeads heads).aliasChain =
        some (Text.join '.' (heads.map (·.effectiveName))) := by simp [ofHeads, haliased]
    rw [hchain, Option.getD_some]
    exact Text.splitOn_join hne hdots

/-- It leads through its segments to its keys. -/
theorem Path.route_of_dotless {heads : List Head} (h : DotlessChain heads)
    (hnames : ∀ head ∈ heads, Segment.stripHints head.segment = Text.upToCast head.name) :
    Slot.route (ofHeads heads) = heads.map fun head => (head.segment, head.effectiveName) := by
  rw [route_of_isAligned (isAligned_ofHeads h), segments_ofHeads h,
    splitOn_outputPath_of_dotless h hnames, List.zip_map']

/-! ## 4. Plain chains -/

/-- The heads are plain, and written as their parts spell them. -/
def PlainChain (heads : List Head) : Prop :=
  heads ≠ [] ∧ ∀ head ∈ heads, head.IsPlain ∧ head.IsSpelled

theorem PlainChain.isDotless {heads : List Head} (h : PlainChain heads) : DotlessChain heads :=
  ⟨h.1, fun head hhead => Head.isDotless_of_isPlain (h.2 head hhead).1⟩

namespace Field

theorem plainChain_of_mem {fields : List Field} (hplain : AllOf Head.IsPlain fields)
    (hspelled : AllOf Head.IsSpelled fields) {chain : List Head} (h : chain ∈ chainsOf fields) :
    PlainChain chain := by
  refine ⟨chainsOf_ne_nil fields chain h, ?_⟩
  intro head hhead
  exact ⟨all_of_mem_chainsOf fields hplain chain h head hhead,
    all_of_mem_chainsOf fields hspelled chain h head hhead⟩

end Field

namespace Head

/-- Without an alias the rows of the response use the bare name. -/
theorem effectiveName_eq {head : Head} (hplain : head.IsPlain) :
    head.effectiveName = head.aliasName.getD head.name := by
  rw [effectiveName,
    Text.upToCast_of_not_mem (not_mem_of_isIdentifier hplain.name (by decide))]

theorem stripHints_of_isPlain {head : Head} (hplain : head.IsPlain) :
    Segment.stripHints head.segment = Text.upToCast head.name := by
  have hname : '!' ∉ head.name := not_mem_of_isIdentifier hplain.name (by decide)
  have hcast : ':' ∉ head.name := not_mem_of_isIdentifier hplain.name (by decide)
  rw [Segment.stripHints, upTo_segment hname, Text.upToCast_of_not_mem hcast]

theorem isIdentifier_effectiveName {head : Head} (hplain : head.IsPlain) :
    isIdentifier head.effectiveName = true := by
  rw [effectiveName_eq hplain]
  rcases halias : head.aliasName with _ | text
  · exact hplain.name
  · exact hplain.aliasName text (by simp [halias])

end Head

namespace Path

section

variable {heads : List Head} (h : PlainChain heads)
include h

theorem splitOn_path_ofHeads :
    Text.splitOn '.' (ofHeads heads).path = heads.map (·.segment) :=
  segments_ofHeads h.isDotless

theorem withoutAlias_ofHeads :
    (ofHeads heads).withoutAlias = ofText (Text.join '.' (heads.map (·.segment))) :=
  withoutAlias_named h.isDotless (fun head hhead => (h.2 head hhead).2)
    fun head hhead => (h.2 head hhead).1.isNamed

theorem splitOn_outputPath_ofHeads :
    Text.splitOn '.' (ofHeads heads).outputPath = heads.map (·.effectiveName) :=
  splitOn_outputPath_of_dotless h.isDotless fun head hhead =>
    Head.stripHints_of_isPlain (h.2 head hhead).1

/-- A chain leads through its segments to its keys. -/
theorem route_ofHeads :
    Slot.route (ofHeads heads) = heads.map fun head => (head.segment, head.effectiveName) :=
  route_of_dotless h.isDotless fun head hhead =>
    Head.stripHints_of_isPlain (h.2 head hhead).1

end

end Path
end QueryCache
