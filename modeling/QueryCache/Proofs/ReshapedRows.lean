/-
QueryCache.Proofs.ReshapedRows — filtering a reshaped row is filtering the
row itself.

A row of the table holds columns and relations under bare names, where a
selection knows them by segments with hints, and answers them under keys of
its own.  A bare row holds for a field of a selection what stands under the
name of the field (`valueIn_leaf`, `valueIn_relation`), so the reshaped row
is read along the keys of a chain as the row itself along its names, by
induction on the chain (`ends_reshaped`).  A condition is resolved to the
chain of keys of a selected leaf, whose path without hints is the chain of
names (`accepts_denormalize_iff`).
-/
import QueryCache.Proofs.Filter.Resolved
import QueryCache.Proofs.Invisible
import QueryCache.Proofs.Projection
import QueryCache.Proofs.QualifyingRows

namespace QueryCache

/-! ## 1. Where a path ends -/

namespace Json

mutual

/-- A row is no array. -/
theorem isArray_of_mem_rows {row : Json} : (value : Json) → row ∈ value.rows →
    row.isArray = false
  | arr items, h => by
    rw [rows] at h
    exact isArray_of_mem_rowsOfList items h
  | null, h | bool _, h | num _, h | str _, h | obj _, h => by
    rw [rows, List.mem_singleton] at h
    rw [h]
    rfl

theorem isArray_of_mem_rowsOfList {row : Json} : (items : List Json) → row ∈ rowsOfList items →
    row.isArray = false
  | [], h => by
    rw [rowsOfList] at h
    contradiction
  | item :: rest, h => by
    rw [rowsOfList, List.mem_append] at h
    rcases h with h | h
    · exact isArray_of_mem_rows item h
    · exact isArray_of_mem_rowsOfList rest h

end

mutual

/-- The rows of mapped rows. -/
theorem rows_mapRows (f : Json → Json) : (value : Json) →
    (value.mapRows f).rows = value.rows.flatMap fun row => (f row).rows
  | arr items => by
    rw [mapRows, rows, rows]
    exact rowsOfList_mapRowsList f items
  | null | bool _ | num _ | str _ | obj _ => by simp [mapRows, rows]

theorem rowsOfList_mapRowsList (f : Json → Json) : (items : List Json) →
    rowsOfList (mapRowsList f items) = (rowsOfList items).flatMap fun row => (f row).rows
  | [] => rfl
  | item :: rest => by
    rw [mapRowsList, rowsOfList, rowsOfList, List.flatMap_append, rows_mapRows f item,
      rowsOfList_mapRowsList f rest]

end

theorem rows_of_isArray {row : Json} (h : row.isArray = false) : row.rows = [row] := by
  cases row with
  | arr items => contradiction
  | _ => rw [rows]

/-- A relation is null, an object or an array. -/
def isRelated (value : Json) : Bool :=
  value.isNull || value.isObject || value.isArray

end Json

namespace RowPath

/-- The ends of a chain of segments: values, and the places where it breaks
off.  A null relation and a relation without rows have none. -/
def ends : List Text → Json → List (Option Json)
  | [], value => [some value]
  | segment :: below, value => value.rows.flatMap fun row =>
    match row with
    | .null => []
    | .obj fields =>
      match (if below.isEmpty then none
        else Fields.get? (Text.join '.' (segment :: below)) fields) with
      | some found => [some found]
      | none =>
        match Fields.get? segment fields with
        | some found => ends below found
        | none => [none]
    | _ => [none]

/-- A chain leads on when it breaks off nowhere. -/
theorem leadsOn_eq_ends (segments : List Text) (value : Json) :
    leadsOn segments value = (ends segments value).all Option.isSome := by
  induction segments generalizing value with
  | nil => rfl
  | cons segment below ih =>
    rw [leadsOn, ends, List.all_flatMap]
    refine congrArg (List.all value.rows) (funext fun row => ?_)
    cases row with
    | obj fields =>
      by_cases hbelow : below.isEmpty = true
      · simp only [hbelow, Bool.not_true, Bool.false_and, Bool.false_or, if_true]
        rcases Fields.get? segment fields with _ | found
        · rfl
        · exact ih found
      · simp only [hbelow, Bool.false_eq_true, if_false, Bool.not_false, Bool.true_and, Fields.has]
        rcases Fields.get? (Text.join '.' (segment :: below)) fields with _ | found
        · rw [Option.isSome_none, Bool.false_or]
          rcases Fields.get? segment fields with _ | found
          · rfl
          · exact ih found
        · rfl
    | _ => rfl

/-- The values of a chain are those at its ends. -/
theorem valuesAt_eq_ends (segments : List Text) (value : Json) :
    valuesAt segments value = (ends segments value).filterMap id := by
  induction segments generalizing value with
  | nil => rfl
  | cons segment below ih =>
    rw [valuesAt, ends, List.filterMap_flatMap]
    refine congrArg (fun f => List.flatMap f value.rows) (funext fun row => ?_)
    cases row with
    | obj fields =>
      dsimp only
      rcases (if below.isEmpty then none
        else Fields.get? (Text.join '.' (segment :: below)) fields) with _ | found
      · rcases Fields.get? segment fields with _ | found
        · rfl
        · exact ih found
      · rfl
    | _ => rfl

section

variable {segment : Text} {below : List Text}

/-- Behind a key the rows are read one by one. -/
theorem ends_eq_flatMap (value : Json) :
    ends (segment :: below) value =
      value.rows.flatMap fun row => ends (segment :: below) row := by
  rw [ends]
  refine List.flatMap_congr fun row hrow => ?_
  rw [ends, Json.rows_of_isArray (Json.isArray_of_mem_rows value hrow), List.flatMap_cons,
    List.flatMap_nil, List.append_nil]

theorem ends_mapRows (f : Json → Json) (value : Json) :
    ends (segment :: below) (value.mapRows f) =
      value.rows.flatMap fun row => ends (segment :: below) (f row) := by
  rw [ends, Json.rows_mapRows, List.flatMap_assoc]
  refine List.flatMap_congr fun row _ => ?_
  rw [ends]

/-- In a row without dotted names a chain goes down key by key. -/
theorem ends_obj {fields : Fields Json}
    (hdot : ∀ name, '.' ∈ name → Fields.get? name fields = none) :
    ends (segment :: below) (.obj fields) =
      (Fields.get? segment fields).elim [none] (ends below) := by
  have hwhole : (if below.isEmpty then none
      else Fields.get? (Text.join '.' (segment :: below)) fields) = none := by
    split
    · rfl
    · rename_i hbelow
      refine hdot _ ?_
      rw [Text.join_cons (by simpa using hbelow)]
      simp
  rw [ends, Json.rows, List.flatMap_cons, List.flatMap_nil, List.append_nil]
  simp only [hwhole]
  rcases Fields.get? segment fields with _ | found <;> rfl

/-- A value that is no relation breaks a chain off. -/
theorem ends_of_isRelated {value : Json} (h : value.isRelated = false) :
    ends (segment :: below) value = [none] := by
  cases value with
  | null => contradiction
  | obj fields => contradiction
  | arr items => contradiction
  | _ => rfl

end
end RowPath

/-! ## 2. Bare rows -/

/-- The names hold neither dots nor hints. -/
def Fields.IsBare (row : Fields Json) : Prop :=
  ∀ entry ∈ row, '.' ∉ entry.1 ∧ '!' ∉ entry.1

theorem Fields.IsBare.get?_eq_none {row : Fields Json} (h : Fields.IsBare row) {name : Text}
    (hname : '.' ∈ name ∨ '!' ∈ name) : Fields.get? name row = none := by
  rcases hget : Fields.get? name row with _ | value
  · rfl
  · obtain ⟨hdot, hhint⟩ := h _ (Fields.mem_of_get? hget)
    exact absurd hname (by simp [hdot, hhint])

namespace Field

mutual

/-- The objects to which the field leads from a row are bare, and so on
below them. -/
def LeadsToBare : Field → Fields Json → Prop
  | mk head children, row => children ≠ [] → ∀ value, Fields.get? head.name row = some value →
    ∀ related, Json.obj related ∈ value.rows → IsBareRowFor children related

/-- The row is bare, and so are the objects to which the fields lead. -/
def IsBareRowFor : List Field → Fields Json → Prop
  | [], row => row.IsBare
  | field :: rest, row => LeadsToBare field row ∧ IsBareRowFor rest row

end

theorem IsBareRowFor.isBare {fields : List Field} {row : Fields Json}
    (h : IsBareRowFor fields row) : row.IsBare := by
  induction fields with
  | nil => exact h
  | cons field rest ih =>
    rw [IsBareRowFor] at h
    exact ih h.2

/-- The objects to which a field leads are bare rows for its own fields. -/
theorem IsBareRowFor.below {fields : List Field} {row : Fields Json}
    (h : IsBareRowFor fields row) {field : Field} (hmem : field ∈ fields)
    (hchildren : field.children ≠ []) {value : Json}
    (hvalue : Fields.get? field.head.name row = some value) {related : Fields Json}
    (hrelated : Json.obj related ∈ value.rows) : IsBareRowFor field.children related := by
  induction fields with
  | nil => contradiction
  | cons other rest ih =>
    rw [IsBareRowFor] at h
    rcases List.mem_cons.1 hmem with rfl | hmem
    · obtain ⟨head, children⟩ := field
      rw [LeadsToBare] at h
      exact h.1 hchildren value hvalue related hrelated
    · exact ih h.2 hmem

/-- A chain of fields starts with a field, and goes on below it. -/
theorem exists_of_mem_chainsOf {fields : List Field} {head : Head} {chain : List Head}
    (h : head :: chain ∈ chainsOf fields) :
    ∃ field ∈ fields, field.head = head ∧
      (chain = [] ∧ field.children = [] ∨
        field.children ≠ [] ∧ chain ∈ chainsOf field.children) := by
  rw [chainsOf_eq_flatMap, List.mem_flatMap] at h
  obtain ⟨⟨first, children⟩, hmem, h⟩ := h
  refine ⟨_, hmem, ?_⟩
  rw [chains] at h
  split at h
  · rename_i hempty
    obtain ⟨rfl, rfl⟩ := List.cons.inj (List.mem_singleton.1 h)
    exact ⟨rfl, Or.inl ⟨rfl, List.isEmpty_iff.1 hempty⟩⟩
  · rename_i hempty
    obtain ⟨below, hbelow, hcons⟩ := List.mem_map.1 h
    obtain ⟨rfl, rfl⟩ := List.cons.inj hcons
    exact ⟨rfl, Or.inr ⟨fun hnil => hempty (List.isEmpty_iff.2 hnil), hbelow⟩⟩

end Field

namespace Slot

section

variable {row : Fields Json} (hrow : Fields.IsBare row) {head : Head} (hplain : head.IsPlain)
include hrow hplain

/-- A segment finds what stands under its name. -/
theorem lookup?_segment : lookup? row head.segment = Fields.get? head.name row := by
  have hname : '!' ∉ head.name := Head.not_mem_of_isIdentifier hplain.name (by decide)
  have hbare : Segment.bareName head.segment = head.name := by
    rw [Segment.bareName_of_isPlain (Head.isPlain_segment hplain), Head.upTo_segment hname]
  rw [lookup?, hbare]
  rcases hhints : head.hints with _ | ⟨hint, hints⟩
  · have hsegment : head.segment = head.name := by rw [Head.segment, hhints, Text.join]
    rw [hsegment]
    rcases Fields.get? head.name row with _ | value <;> rfl
  · have hmark : '!' ∈ head.segment := by
      rw [Head.segment, hhints, Text.join_cons (by simp)]
      simp
    rw [hrow.get?_eq_none (Or.inr hmark)]
    rfl

omit hplain in
theorem flatFields?_of_isBare (segment : Text) : flatFields? row segment = none := by
  have hnil : Fields.below (segment ++ ['.']) row = [] := by
    rw [Fields.below, List.filterMap_eq_nil_iff]
    rintro ⟨name, value⟩ hmem
    rw [Option.map_eq_none_iff, Option.eq_none_iff_forall_ne_some]
    intro rest hrest
    have hname : name = segment ++ ['.'] ++ rest := Text.stripStart_eq_some_iff.1 hrest
    exact (hrow _ hmem).1 (by simp [hname])
  rw [flatFields?_eq, hnil]
  rfl

/-- For a column a bare row holds what stands under its name. -/
theorem valueIn_leaf {field : Field} (hhead : field.head = head) (hleaf : field.children = []) :
    valueIn row field = Fields.get? head.name row := by
  rw [valueIn, hleaf, hhead]
  exact lookup?_segment hrow hplain

/-- For a relation it holds what stands there, if that is one, reshaped. -/
theorem valueIn_relation {field : Field} (hhead : field.head = head)
    (hrelation : field.children ≠ []) :
    valueIn row field = ((Fields.get? head.name row).filter Json.isRelated).map
      (reshape (Field.slots field.children)) := by
  rw [valueIn, if_neg (by simpa using hrelation), related?, hhead, lookup?_segment hrow hplain,
    flatFields?_of_isBare hrow]
  rcases Fields.get? head.name row with _ | value
  · rfl
  · cases value <;> rfl

end

/-! ## 3. Reshaped rows -/

/-- The keys of fields hold no dots. -/
theorem get?_reshapeFields_of_dot {fields : List Field} (hplain : Field.AllOf Head.IsPlain fields)
    (hkeys : Field.DistinctKeysOf fields) (row : Fields Json) {name : Text} (hdot : '.' ∈ name) :
    Fields.get? name (reshapeFields (Field.slots fields) row) = none := by
  refine get?_reshapeFields_slots_eq_none row (Field.segment_ne_star hplain)
    (Field.pairwise_of_distinctKeysOf hkeys) fun field hmem hkey => ?_
  exact Head.not_mem_of_isIdentifier
    (Head.isIdentifier_effectiveName (Field.all_head_children hplain hmem).1) (by decide)
    (hkey ▸ hdot)

/-- A reshaped row is read along the keys of a chain as the row itself along
its names. -/
theorem ends_reshaped {chain : List Head} {fields : List Field} {row : Fields Json}
    (hchain : chain ∈ Field.chainsOf fields) (hplain : Field.AllOf Head.IsPlain fields)
    (hkeys : Field.DistinctKeysOf fields) (hrow : Field.IsBareRowFor fields row) :
    RowPath.ends (chain.map (·.effectiveName)) (.obj (reshapeFields (Field.slots fields) row)) =
      RowPath.ends (chain.map (·.name)) (.obj row) := by
  induction chain generalizing fields row with
  | nil => exact absurd rfl (Field.chainsOf_ne_nil fields _ hchain)
  | cons head chain ih =>
    obtain ⟨field, hmem, hhead, hbelow⟩ := Field.exists_of_mem_chainsOf hchain
    obtain ⟨hhead', hchildren⟩ := Field.all_head_children hplain hmem
    rw [hhead] at hhead'
    have hget := get?_reshapeFields_slots row (Field.segment_ne_star hplain)
      (Field.pairwise_of_distinctKeysOf hkeys) hmem
    rw [Field.key, hhead] at hget
    rw [List.map_cons, List.map_cons,
      RowPath.ends_obj fun _ => get?_reshapeFields_of_dot hplain hkeys row,
      RowPath.ends_obj fun _ hdot => hrow.isBare.get?_eq_none (Or.inl hdot), hget]
    rcases hbelow with ⟨rfl, hleaf⟩ | ⟨hrelation, hbelow⟩
    · rw [valueIn_leaf hrow.isBare hhead' hhead hleaf]
      rfl
    · rw [valueIn_relation hrow.isBare hhead' hhead hrelation]
      obtain ⟨next, rest, rfl⟩ := List.exists_cons_of_ne_nil
        (Field.chainsOf_ne_nil field.children _ hbelow)
      rcases hvalue : Fields.get? head.name row with _ | value
      · rfl
      · rcases hrelated : value.isRelated with _ | _
        · rw [Option.filter_some, if_neg (by simp [hrelated])]
          exact (RowPath.ends_of_isRelated hrelated).symm
        · rw [Option.filter_some, if_pos hrelated]
          show RowPath.ends _ (reshape (Field.slots field.children) value) = RowPath.ends _ value
          rw [List.map_cons, List.map_cons, reshape, RowPath.ends_mapRows,
            RowPath.ends_eq_flatMap value]
          refine List.flatMap_congr fun inner hinner => ?_
          have hrow' : ∀ related : Fields Json, inner = .obj related →
              Field.IsBareRowFor field.children related := fun related heq =>
            hrow.below hmem hrelation (hhead ▸ hvalue) (heq ▸ hinner)
          cases inner with
          | obj related =>
            exact ih hbelow hchildren (Field.distinctKeysOf_children hkeys hmem)
              (hrow' related rfl)
          | arr items =>
            exact absurd (Json.isArray_of_mem_rows value hinner) (by simp [Json.isArray])
          | _ => rfl

end Slot

/-! ## 4. Paths and conditions -/

namespace Path

variable {heads : List Head} (h : PlainChain heads)
include h

theorem splitOn_stripPathHints_ofHeads :
    Text.splitOn '.' (Segment.stripPathHints (ofHeads heads).path) = heads.map (·.name) := by
  have hname : ∀ head ∈ heads, ∀ c ∈ marks, c ∉ head.name := fun head hhead _ =>
    Head.not_mem_of_isIdentifier (h.2 head hhead).1.name
  have hnames : (heads.map (·.segment)).map Segment.stripHints = heads.map (·.name) := by
    rw [List.map_map]
    exact List.map_congr_left fun head hhead =>
      Head.upTo_segment (hname head hhead '!' (by decide))
  rw [Segment.stripPathHints, Segment.mapSegments, splitOn_path_ofHeads h, hnames]
  refine Text.splitOn_join (by simpa using h.1) fun name hmem => ?_
  obtain ⟨head, hhead, rfl⟩ := List.mem_map.1 hmem
  exact hname head hhead '.' (by decide)

theorem isWildcard_ofHeads : (ofHeads heads).isWildcard = false := by
  obtain ⟨last, hlast⟩ := List.getLast?_isSome.2 h.1 |> Option.isSome_iff_exists.1
  have hterminal : (ofHeads heads).terminal = last.segment := by
    rw [terminal, segments, splitOn_path_ofHeads h, List.getLast?_map, hlast]
    rfl
  rw [isWildcard, hterminal, beq_eq_false_iff_ne]
  exact Segment.ne_star_of_isPlain
    (Head.isPlain_segment (h.2 last (List.mem_of_getLast? hlast)).1)

end Path

namespace RowPath

/-- A path of a selection, and its values, in a reshaped row and in the row
itself. -/
theorem ends_denormalize {fields : List Field} (hplain : Field.AllOf Head.IsPlain fields)
    (hspelled : Field.AllOf Head.IsSpelled fields) (hkeys : Field.DistinctKeysOf fields)
    {row : Fields Json} (hrow : Field.IsBareRowFor fields row) {path : Path}
    (hpath : path ∈ (Field.chainsOf fields).map Path.ofHeads) :
    has (.obj (Slot.reshapeFields (Field.slots fields) row)) path.outputPath =
        has (.obj row) (Segment.stripPathHints path.path) ∧
      values (.obj (Slot.reshapeFields (Field.slots fields) row)) path.outputPath =
        values (.obj row) (Segment.stripPathHints path.path) := by
  obtain ⟨chain, hchain, rfl⟩ := List.mem_map.1 hpath
  have hheads := Field.plainChain_of_mem hplain hspelled hchain
  rw [has, has, values, values, Path.splitOn_outputPath_ofHeads hheads,
    Path.splitOn_stripPathHints_ofHeads hheads, leadsOn_eq_ends, leadsOn_eq_ends,
    valuesAt_eq_ends, valuesAt_eq_ends, Slot.ends_reshaped hchain hplain hkeys hrow]
  exact ⟨rfl, rfl⟩

end RowPath

/-- The column is that of a selected leaf, by its path or by its keys. -/
def NamesLeaf (paths : List Path) (column : Text) : Prop :=
  ∃ path ∈ paths, path.path = column ∨ path.outputPath = column

/-- A condition on a selected leaf is resolved to its path and its keys. -/
theorem Condition.exists_resolve {paths : List Path} {c : Condition}
    (h : NamesLeaf paths c.path) :
    ∃ path ∈ paths,
      c.resolve paths = { c with path := path.path, aliasChain := path.aliasChain } := by
  obtain ⟨path, hpath, hnames⟩ := h
  have hleaf : ∃ leaf, leafNamed? paths c.path = some leaf := by
    rw [leafNamed?]
    rcases hchain : paths.find? fun path => path.aliasChain == some c.path with _ | leaf
    · rw [hchain]
      exact Option.isSome_iff_exists.1 (List.find?_isSome.2 ⟨path, hpath, by simpa using hnames⟩)
    · rw [hchain]
      exact ⟨leaf, rfl⟩
  obtain ⟨leaf, hleaf⟩ := hleaf
  exact ⟨leaf, mem_of_leafNamed hleaf, by rw [resolve, hleaf]⟩

/-- A filter accepts rows alike whose conditions accept them alike. -/
theorem FilterTree.accepts_mapConditions {f : Condition → Condition} {row other : Json}
    (filter : FilterTree) (h : ∀ c ∈ filter.conditions, (f c).accepts other = c.accepts row) :
    (filter.mapConditions f).accepts other = filter.accepts row := by
  induction filter using memberInduction with
  | condition c => exact h c (by simp)
  | anyOf group ih =>
    have hmember : ∀ member ∈ group, (member.mapConditions f).accepts other = member.accepts row :=
      fun member hmem => ih member hmem fun c hc => h c (by simpa using ⟨member, hmem, hc⟩)
    rw [mapConditions_anyOf, accepts_anyOf, accepts_anyOf, List.isEmpty_map, List.any_map]
    refine congrArg (group.isEmpty || ·) ?_
    rw [Bool.eq_iff_iff, List.any_eq_true, List.any_eq_true]
    exact exists_congr fun member => and_congr_right fun hmem => by
      rw [Function.comp_apply, hmember member hmem]
  | allOf group ih =>
    have hmember : ∀ member ∈ group, (member.mapConditions f).accepts other = member.accepts row :=
      fun member hmem => ih member hmem fun c hc => h c (by simpa using ⟨member, hmem, hc⟩)
    rw [mapConditions_allOf, accepts_allOf, accepts_allOf, List.all_map, Bool.eq_iff_iff,
      List.all_eq_true, List.all_eq_true]
    exact forall₂_congr fun member hmem => by rw [Function.comp_apply, hmember member hmem]

/-! ## 5. Queries -/

/-- A query string with identifiers for names, aliases and hints, siblings
with keys of their own, and filters on selected leaves alone. -/
structure FiltersItsLeaves (text : Text) (query : ParsedQuery) (fields : List Field) : Prop where
  query_eq : parseQueryKey text = .ok query
  select_eq : selectFields query.select = .ok fields
  plain : Field.AllOf Head.IsPlain fields
  not_aggregate : ∀ path ∈ query.paths, path.isAggregate = false
  distinct : Field.DistinctKeysOf fields
  named : ∀ params, QueryParam.ofText text = .ok params → ∀ param ∈ params, param.IsFilter →
    ∀ written, ParsedQuery.parseFilter param = .ok written →
      ∀ c ∈ written.conditions, NamesLeaf query.paths c.path

namespace FiltersItsLeaves

variable {text : Text} {query : ParsedQuery} {fields : List Field}
  (h : FiltersItsLeaves text query fields)
include h

theorem paths_eq : query.paths = (Field.chainsOf fields).map Path.ofHeads := by
  have hpaths := paths_of_parseQueryKey h.query_eq
  rw [parseSelect_chains h.select_eq, Except.ok.injEq] at hpaths
  exact hpaths.symm

theorem denormalize_row (row : Fields Json) :
    query.rowFilter.denormalize (.obj row) =
      .obj (Slot.reshapeFields (Field.slots fields) row) := by
  have hslots : Slot.ofPaths query.paths = Field.slots fields := by
    rw [h.paths_eq, Slot.ofPaths_chains h.plain (selectFields_spelled h.select_eq) h.distinct]
  have hfilter : query.rowFilter.denormalize (.obj row) =
      Slot.reshape (Slot.ofPaths query.paths) (.obj row) := rfl
  rw [hfilter, hslots, Slot.reshape_obj]

variable {row : Fields Json} (hrow : Field.IsBareRowFor fields row)
include hrow

/-- A selected path is read in the reshaped row as its path without hints in
the row. -/
theorem ends_path {path : Path} (hpath : path ∈ query.paths) :
    RowPath.has (query.rowFilter.denormalize (.obj row)) path.outputPath =
        RowPath.has (.obj row) (Segment.stripPathHints path.path) ∧
      RowPath.values (query.rowFilter.denormalize (.obj row)) path.outputPath =
        RowPath.values (.obj row) (Segment.stripPathHints path.path) := by
  rw [h.denormalize_row]
  rw [h.paths_eq] at hpath
  exact RowPath.ends_denormalize h.plain (selectFields_spelled h.select_eq) h.distinct hrow hpath

theorem hasPaths_denormalize :
    query.rowFilter.hasPaths (query.rowFilter.denormalize (.obj row)) =
      query.paths.all fun path => RowPath.has (.obj row) (Segment.stripPathHints path.path) := by
  have hall : query.paths.filter (fun path => !path.isWildcard && !path.isAggregate) =
      query.paths := by
    refine List.filter_eq_self.2 fun path hpath => ?_
    have hwildcard : path.isWildcard = false := by
      rw [h.paths_eq] at hpath
      obtain ⟨chain, hchain, rfl⟩ := List.mem_map.1 hpath
      exact Path.isWildcard_ofHeads
        (Field.plainChain_of_mem h.plain (selectFields_spelled h.select_eq) hchain)
    rw [hwildcard, h.not_aggregate path hpath]
    rfl
  have hpaths : query.rowFilter.paths = query.paths := rfl
  rw [QueryFilter.hasPaths, hpaths, hall, Bool.eq_iff_iff, List.all_eq_true, List.all_eq_true]
  exact forall₂_congr fun path hpath => by rw [(h.ends_path hrow hpath).1]

/-- A condition of the query reads in the reshaped row what it reads on the
table. -/
theorem accepts_onTable {filter : FilterTree} (hfilter : filter ∈ query.filters) {c : Condition}
    (hc : c ∈ filter.conditions) :
    c.onTable.accepts (.obj row) = c.accepts (query.rowFilter.denormalize (.obj row)) := by
  obtain ⟨params, -, -, hparams, -⟩ := parseQueryKey_eq_ok h.query_eq
  obtain ⟨param, hparam, hisFilter, written, hwritten, rfl⟩ :=
    parseQueryKey_filters h.query_eq hparams filter hfilter
  rw [FilterTree.conditions_mapConditions] at hc
  obtain ⟨spelled, hspelled, rfl⟩ := List.mem_map.1 hc
  obtain ⟨path, hpath, hresolve⟩ := Condition.exists_resolve
    (h.named params hparams param hparam hisFilter written hwritten spelled hspelled)
  have hvalues : (spelled.resolve query.paths).onTable.values (.obj row) =
      (spelled.resolve query.paths).values (query.rowFilter.denormalize (.obj row)) := by
    rw [hresolve]
    exact (h.ends_path hrow hpath).2.symm
  rw [Condition.accepts, Condition.accepts, Condition.found, Condition.found, hvalues]
  rfl

theorem passes_denormalize :
    query.rowFilter.passes (query.rowFilter.denormalize (.obj row)) =
      query.rowFilter.qualifies (.obj row) := by
  rw [QueryFilter.passes, QueryFilter.qualifies, Bool.eq_iff_iff, List.all_eq_true,
    List.all_eq_true]
  refine forall₂_congr fun filter hfilter => ?_
  rw [FilterTree.accepts_mapConditions filter fun c hc => h.accepts_onTable hrow hfilter hc]

end FiltersItsLeaves

/-- A row of the table, reshaped, belongs to a query exactly if the row itself
carries every selected path and passes every filter, paths and columns read
without aliases and hints. -/
theorem accepts_denormalize_iff {text : Text} {query : ParsedQuery} {fields : List Field}
    (h : FiltersItsLeaves text query fields) {row : Fields Json}
    (hrow : Field.IsBareRowFor fields row) :
    ∃ filter, QueryFilter.ofQueryKey text = .ok filter ∧
      (filter.accepts (filter.denormalize (.obj row)) = true ↔
        (∀ path ∈ filter.paths,
          RowPath.has (.obj row) (Segment.stripPathHints path.path) = true) ∧
        filter.qualifies (.obj row) = true) := by
  refine ⟨query.rowFilter, ?_, ?_⟩
  · rw [QueryFilter.ofQueryKey, h.query_eq]
    rfl
  · rw [QueryFilter.accepts, h.hasPaths_denormalize hrow, h.passes_denormalize hrow,
      Bool.and_eq_true, List.all_eq_true]
    rfl

/-! ## 6. Labels of a company -/

/-- The labels of the contacts of one company, which the filter names by its
label. -/
def firmText : Text :=
  "select=label:name,firm:company(title:name)&firm.title=eq.acme".toList

/-- The condition as it is written. -/
def isFirm : Condition where
  path := "firm.title".toList
  operator := .eq
  operand := .str "acme".toList

/-- That query, read. -/
def firmQuery : ParsedQuery where
  select := "label:name,firm:company(title:name)".toList
  paths := (Field.chainsOf (GroupedPath.toFields labels)).map Path.ofHeads
  filters := [.condition
    { isFirm with path := "company.name".toList, aliasChain := some "firm.title".toList }]

theorem params_firm : QueryParam.ofText firmText =
    .ok [⟨"select".toList, "label:name,firm:company(title:name)".toList, 0⟩,
      ⟨"firm.title".toList, "eq.acme".toList, 43⟩] := by
  rfl

theorem parseFilter_firm :
    ParsedQuery.parseFilter ⟨"firm.title".toList, "eq.acme".toList, 43⟩ =
      .ok (.condition isFirm) :=
  @parseFilter_eq _ "acme".toList _ 43 (by decide) (by decide)

theorem filtersItsLeaves_firm :
    FiltersItsLeaves firmText firmQuery (GroupedPath.toFields labels) where
  query_eq := by
    have hresolve : isFirm.resolve firmQuery.paths =
        { isFirm with
          path := "company.name".toList, aliasChain := some "firm.title".toList } := by
      decide
    rw [parseQueryKey_of_filter params_firm (parseSelect_chains plainClause_labels.select_eq)
      ⟨by decide, by decide⟩ parseFilter_firm, FilterTree.mapConditions_condition]
    show Except.ok { firmQuery with filters := [.condition (isFirm.resolve firmQuery.paths)] } = _
    rw [hresolve]
    rfl
  select_eq := plainClause_labels.select_eq
  plain := plainClause_labels.plain
  not_aggregate := by decide
  distinct := plainClause_labels.distinct
  named := by
    intro params hparams param hparam hfilter written hwritten c hc
    obtain rfl := Except.ok.inj (params_firm.symm.trans hparams)
    rcases List.mem_cons.1 hparam with rfl | hparam
    · exact absurd List.mem_cons_self hfilter.1
    · obtain rfl := List.mem_singleton.1 hparam
      obtain rfl := Except.ok.inj (parseFilter_firm.symm.trans hwritten)
      obtain rfl : c = isFirm := by simpa using hc
      unfold NamesLeaf
      decide

/-- A contact of that company. -/
def firmRow : Fields Json :=
  [("company".toList, .obj [("name".toList, .str "acme".toList)]),
    ("name".toList, .str "ann".toList)]

theorem isBareRowFor_firm : Field.IsBareRowFor (GroupedPath.toFields labels) firmRow := by
  have hbare : Fields.IsBare firmRow := by
    unfold Fields.IsBare
    decide
  refine ⟨fun h => absurd rfl h, fun _ value hvalue related hrelated => ?_, hbare⟩
  obtain rfl := Option.some.inj hvalue
  obtain rfl := Json.obj.inj (List.mem_singleton.1 hrelated)
  refine ⟨fun h => absurd rfl h, ?_⟩
  show Fields.IsBare _
  unfold Fields.IsBare
  decide

/-- A contact of the company belongs to the query. -/
theorem accepts_denormalize_firm :
    FiltersItsLeaves firmText firmQuery (GroupedPath.toFields labels) ∧
      Field.IsBareRowFor (GroupedPath.toFields labels) firmRow ∧
      ∃ filter, QueryFilter.ofQueryKey firmText = .ok filter ∧
        filter.accepts (filter.denormalize (.obj firmRow)) = true := by
  refine ⟨filtersItsLeaves_firm, isBareRowFor_firm, ?_⟩
  obtain ⟨filter, hfilter, haccepts⟩ :=
    accepts_denormalize_iff filtersItsLeaves_firm isBareRowFor_firm
  refine ⟨filter, hfilter, haccepts.2 ?_⟩
  have hquery : QueryFilter.ofQueryKey firmText = .ok firmQuery.rowFilter := by
    rw [QueryFilter.ofQueryKey, filtersItsLeaves_firm.query_eq]
    rfl
  obtain rfl := Except.ok.inj (hquery.symm.trans hfilter)
  decide

end QueryCache
