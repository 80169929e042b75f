/-
QueryCache.Proofs.Projection — rows in the shape of plain columns.

A query that selects plain columns answers, under the key of each column,
what the row holds under its name (`denormalize_row`).  So the answer has
the primary keys of the row, and a condition of the query reads in it
exactly one value (`values_row`).
-/
import QueryCache.Filter.QueryFilter
import QueryCache.Proofs.DistinctRows
import QueryCache.Proofs.Reshape.Slots
import QueryCache.Proofs.SameComparison

namespace QueryCache

/-- The field selects a column as it is, under its name or an alias. -/
structure Field.IsColumn (field : Field) : Prop where
  leaf : field.children = []
  plain : field.head.IsPlain
  unhinted : field.head.hints = []
  not_count : field.head.name ≠ "count".toList

/-- The query selects plain columns under keys of their own: the primary
keys under their names, and every column that its filters use.  Its
filters on the primary keys stand outside groups. -/
structure ColumnQuery (query : ParsedQuery) (fields : List Field) (primaryKeys : List Text) :
    Prop where
  select_eq : selectFields query.select = .ok fields
  columns : ∀ field ∈ fields, field.IsColumn
  distinct : fields.Pairwise fun a b => a.key ≠ b.key
  keys_selected : ∀ name ∈ primaryKeys, ∃ field ∈ fields,
    field.head.name = name ∧ field.head.aliasName = none
  filters_selected : ∀ c ∈ query.filters.flatMap FilterTree.conditions, ∃ field ∈ fields,
    c.path = field.head.name ∧ c.aliasChain = field.head.aliasName
  keys_outside_groups : ∀ filter ∈ query.filters, (∀ c, filter ≠ .condition c) →
    ∀ c ∈ filter.conditions, c.targets primaryKeys = false

/-- The selection and the filters of a query. -/
def ParsedQuery.rowFilter (query : ParsedQuery) : QueryFilter :=
  ⟨query.paths, query.filters⟩

/-- The row holds every column of the selection. -/
def IsFullRow (fields : List Field) (row : Json) : Prop :=
  ∃ source, row = .obj source ∧
    ∀ field ∈ fields, (Fields.get? field.head.name source).isSome = true

theorem IsFullRow.exists_get? {fields : List Field} {source : Fields Json}
    (h : IsFullRow fields (.obj source)) {field : Field} (hmem : field ∈ fields) :
    ∃ value, Fields.get? field.head.name source = some value := by
  obtain ⟨other, heq, hother⟩ := h
  obtain rfl := Json.obj.inj heq
  exact Option.isSome_iff_exists.1 (hother field hmem)

/-! ## 1. Columns -/

namespace Field

section

variable {field : Field} (h : field.IsColumn)
include h

theorem segment_column : field.head.segment = field.head.name := by
  rw [Head.segment, h.unhinted]
  rfl

theorem chains_column : chains field = [[field.head]] := by
  obtain ⟨head, children⟩ := field
  have hleaf : children = [] := h.leaf
  subst hleaf
  rfl

theorem key_column : field.key = field.head.aliasName.getD field.head.name :=
  Head.effectiveName_eq h.plain

end

end Field

namespace ColumnQuery

variable {query : ParsedQuery} {fields : List Field} {primaryKeys : List Text} {text : Text}

section

variable (h : ColumnQuery query fields primaryKeys)
include h

theorem chainsOf_eq : Field.chainsOf fields = fields.map fun field => [field.head] := by
  have hcolumns := h.columns
  clear h
  induction fields with
  | nil => rfl
  | cons field rest ih =>
    rw [Field.chainsOf, Field.chains_column (hcolumns field List.mem_cons_self),
      ih fun other hmem => hcolumns other (List.mem_cons_of_mem _ hmem)]
    rfl

theorem allOf_isPlain : Field.AllOf Head.IsPlain fields := by
  rw [Field.allOf_iff]
  intro field hmem
  obtain ⟨head, children⟩ := field
  have hcolumn := h.columns _ hmem
  have hleaf : children = [] := hcolumn.leaf
  subst hleaf
  exact ⟨hcolumn.plain, trivial⟩

theorem distinctKeysOf : Field.DistinctKeysOf fields := by
  have hcolumns := h.columns
  have hdistinct := h.distinct
  clear h
  induction fields with
  | nil => trivial
  | cons field rest ih =>
    obtain ⟨hfield, hrest⟩ := List.pairwise_cons.1 hdistinct
    refine ⟨?_, fun other hmem => (hfield other hmem).symm,
      ih (fun other hmem => hcolumns other (List.mem_cons_of_mem _ hmem)) hrest⟩
    obtain ⟨head, children⟩ := field
    have hleaf : children = [] := (hcolumns _ List.mem_cons_self).leaf
    subst hleaf
    trivial

theorem plainChain_column {field : Field} (hmem : field ∈ fields) :
    PlainChain [field.head] := by
  refine Field.plainChain_of_mem h.allOf_isPlain (selectFields_spelled h.select_eq) ?_
  rw [h.chainsOf_eq]
  exact List.mem_map_of_mem hmem

/-- The paths of the query are its columns. -/
theorem paths_eq (hquery : parseQueryKey text = .ok query) :
    query.paths = fields.map fun field => Path.ofHeads [field.head] := by
  have hpaths := paths_of_parseQueryKey hquery
  rw [parseSelect_chains h.select_eq, Except.ok.injEq, h.chainsOf_eq, List.map_map] at hpaths
  exact hpaths.symm

theorem segment_ne_star {field : Field} (hmem : field ∈ fields) : field.head.segment ≠ ['*'] :=
  Segment.ne_star_of_isPlain (Head.isPlain_segment (h.columns field hmem).plain)

/-- The answer to a row has a slot for each column. -/
theorem denormalize_row (hquery : parseQueryKey text = .ok query) (source : Fields Json) :
    query.rowFilter.denormalize (.obj source) =
      .obj (Slot.reshapeFields (Field.slots fields) source) := by
  have hslots : Slot.ofPaths query.paths = Field.slots fields := by
    rw [h.paths_eq hquery, ← Slot.ofPaths_chains h.allOf_isPlain
      (selectFields_spelled h.select_eq) h.distinctKeysOf, h.chainsOf_eq, List.map_map]
    rfl
  have hfilter : query.rowFilter.denormalize (.obj source) =
      Slot.reshape (Slot.ofPaths query.paths) (.obj source) := rfl
  rw [hfilter, hslots, Slot.reshape_obj]

/-- Under the key of a column the answer holds what the row holds under
its name. -/
theorem get?_key (source : Fields Json) {field : Field} (hmem : field ∈ fields) :
    Fields.get? field.key (Slot.reshapeFields (Field.slots fields) source) =
      Fields.get? field.head.name source := by
  have hcolumn := h.columns field hmem
  have hsegment := Field.segment_column hcolumn
  have hmark := Head.not_mem_of_isIdentifier hcolumn.plain.name (c := '!') (by decide)
  have hbare : Segment.bareName field.head.name = field.head.name := by
    rw [Segment.bareName_of_isPlain (hsegment ▸ Head.isPlain_segment hcolumn.plain),
      Text.upTo_of_not_mem hmark]
  rw [Slot.get?_reshapeFields_slots source (fun _ => h.segment_ne_star) h.distinct hmem,
    Slot.valueIn, hcolumn.leaf, hsegment]
  simp only [List.isEmpty_nil, if_true, Slot.lookup?, hbare]
  rcases Fields.get? field.head.name source with _ | value <;> rfl

theorem get?_eq_none (source : Fields Json) {name : Text}
    (hname : ∀ field ∈ fields, field.key ≠ name) :
    Fields.get? name (Slot.reshapeFields (Field.slots fields) source) = none :=
  Slot.get?_reshapeFields_slots_eq_none source (fun _ => h.segment_ne_star) h.distinct hname

/-- The answer holds the primary keys of the row. -/
theorem get?_primaryKey (source : Fields Json) {name : Text} (hname : name ∈ primaryKeys) :
    Fields.get? name (Slot.reshapeFields (Field.slots fields) source) =
      Fields.get? name source := by
  obtain ⟨field, hmem, rfl, halias⟩ := h.keys_selected name hname
  have hkey : field.key = field.head.name := by
    rw [Field.key_column (h.columns field hmem), halias]
    rfl
  rw [← h.get?_key source hmem, hkey]

theorem sharesKeys_denormalize (hquery : parseQueryKey text = .ok query) (a b : Fields Json) :
    sharesKeys primaryKeys (query.rowFilter.denormalize (.obj a))
        (query.rowFilter.denormalize (.obj b)) =
      sharesKeys primaryKeys (.obj a) (.obj b) := by
  have hkeys : ∀ (source : Fields Json) (input : Json),
      sharesKeys primaryKeys (query.rowFilter.denormalize (.obj source)) input =
        sharesKeys primaryKeys (.obj source) input := by
    intro source
    rw [h.denormalize_row hquery]
    exact sharesKeys_congr fun name hname => h.get?_primaryKey source hname
  rw [hkeys, sharesKeys_comm, hkeys, sharesKeys_comm]

/-- The answer to a full row covers every other answer. -/
theorem mergeRow_denormalize (hquery : parseQueryKey text = .ok query) (a : Fields Json)
    {b : Fields Json} (hb : IsFullRow fields (.obj b)) :
    PatchContext.mergeRow none (query.rowFilter.denormalize (.obj a))
        (query.rowFilter.denormalize (.obj b)) =
      query.rowFilter.denormalize (.obj b) := by
  rw [h.denormalize_row hquery, h.denormalize_row hquery, PatchContext.mergeRow]
  have hlower := Slot.ascending_reshapeFields (Field.slots fields) a
  have hupper := Slot.ascending_reshapeFields (Field.slots fields) b
  congr 1
  refine Fields.ext_of_ascending (Fields.ascending_overlay hlower) hupper ?_
  intro name
  rw [Fields.get?_overlay hupper]
  by_cases hname : ∃ field ∈ fields, field.key = name
  · obtain ⟨field, hmem, rfl⟩ := hname
    obtain ⟨value, hvalue⟩ := hb.exists_get? hmem
    rw [h.get?_key b hmem, hvalue]
    rfl
  · have hnone : ∀ field ∈ fields, field.key ≠ name :=
      fun field hmem heq => hname ⟨field, hmem, heq⟩
    rw [h.get?_eq_none a hnone, h.get?_eq_none b hnone]
    rfl

/-! ## 2. Conditions -/

section

variable {a b : Fields Json} {c : Condition} {field : Field} {x y : Json}

/-- A condition of the query reads the column of a field. -/
theorem values_row (hquery : parseQueryKey text = .ok query) (hmem : field ∈ fields)
    (hpath : c.path = field.head.name) (halias : c.aliasChain = field.head.aliasName)
    (hx : Fields.get? field.head.name a = some x) :
    c.values (query.rowFilter.denormalize (.obj a)) = [x] := by
  have hcolumn := h.columns field hmem
  have hkey := Field.key_column hcolumn
  have hident := Head.isIdentifier_effectiveName hcolumn.plain
  have hdot : '.' ∉ field.key := Head.not_mem_of_isIdentifier hident (by decide)
  have hlookup : c.lookupPath = field.key := by
    rw [Condition.lookupPath, hpath, halias, hkey]
    rcases field.head.aliasName with _ | name
    · have hname := Head.not_mem_of_isIdentifier hcolumn.plain.name (c := '.') (by decide)
      have hhint := Head.not_mem_of_isIdentifier hcolumn.plain.name (c := '!') (by decide)
      rw [Option.getD_none, Option.getD_none, Segment.stripPathHints, Segment.mapSegments,
        Text.splitOn_of_not_mem hname]
      exact Text.upTo_of_not_mem hhint
    · rfl
  have hget := (h.get?_key a hmem).trans hx
  rw [h.denormalize_row hquery, Condition.values, hlookup, RowPath.values,
    Text.splitOn_of_not_mem hdot]
  simp only [RowPath.valuesAt, Json.rows, List.flatMap_cons, List.flatMap_nil, List.isEmpty_nil,
    if_true, hget, List.append_nil]

/-- A condition accepts rows with the same value in its column alike. -/
theorem accepts_congr (hquery : parseQueryKey text = .ok query) (hmem : field ∈ fields)
    (hpath : c.path = field.head.name) (halias : c.aliasChain = field.head.aliasName)
    (hx : Fields.get? field.head.name a = some x) (hy : Fields.get? field.head.name b = some y)
    (hsame : x.sameAs y = true) :
    c.accepts (query.rowFilter.denormalize (.obj a)) =
      c.accepts (query.rowFilter.denormalize (.obj b)) := by
  have hoperator := FilterOperator.accepts_congr hsame c.operator c.operand
  simp only [Condition.accepts, Condition.found, h.values_row hquery hmem hpath halias hx,
    h.values_row hquery hmem hpath halias hy, List.any_cons, List.any_nil, hoperator]
  rfl

end

/-! ## 3. Rows of the query -/

/-- The answer carries every path of the query. -/
theorem hasPaths_row (hquery : parseQueryKey text = .ok query) {row : Json}
    (hrow : IsFullRow fields row) :
    query.rowFilter.hasPaths (query.rowFilter.denormalize row) = true := by
  rw [QueryFilter.hasPaths, List.all_eq_true]
  intro path hpath
  have hmem : path ∈ query.paths := (List.mem_filter.1 hpath).1
  rw [h.paths_eq hquery] at hmem
  obtain ⟨field, hfield, rfl⟩ := List.mem_map.1 hmem
  obtain ⟨source, rfl, hsource⟩ := hrow
  have hget := hsource field hfield
  rw [← h.get?_key source hfield] at hget
  have hkey : Text.splitOn '.' (Path.ofHeads [field.head]).outputPath = [field.key] :=
    Path.splitOn_outputPath_ofHeads (h.plainChain_column hfield)
  obtain ⟨value, hvalue⟩ := Option.isSome_iff_exists.1 hget
  rw [h.denormalize_row hquery, RowPath.has, hkey]
  simp [RowPath.leadsOn, Json.rows, hvalue]

/-- So the answer belongs to the query when it passes the filters. -/
theorem accepts_row (hquery : parseQueryKey text = .ok query) {row : Json}
    (hrow : IsFullRow fields row) :
    query.rowFilter.accepts (query.rowFilter.denormalize row) =
      query.rowFilter.passes (query.rowFilter.denormalize row) := by
  rw [QueryFilter.accepts, h.hasPaths_row hquery hrow, Bool.true_and]

/-- The query can be judged row by row. -/
theorem not_wildcard_or_aggregate (hquery : parseQueryKey text = .ok query) :
    query.rowFilter.hasWildcard = false ∧ query.rowFilter.hasAggregate = false := by
  have hterminal : ∀ field ∈ fields, (Path.ofHeads [field.head]).terminal = field.head.name := by
    intro field hmem
    have hsegments : (Path.ofHeads [field.head]).segments = [field.head.segment] :=
      Path.splitOn_path_ofHeads (h.plainChain_column hmem)
    rw [Path.terminal, hsegments, Field.segment_column (h.columns field hmem)]
    rfl
  constructor
  · rw [QueryFilter.hasWildcard, List.any_eq_false]
    intro path hpath
    rw [ParsedQuery.rowFilter, h.paths_eq hquery] at hpath
    obtain ⟨field, hmem, rfl⟩ := List.mem_map.1 hpath
    have hstar := Head.not_mem_of_isIdentifier (h.columns field hmem).plain.name (c := '*')
      (by decide)
    rw [Path.isWildcard, hterminal field hmem, beq_iff_eq]
    intro heq
    exact hstar (heq ▸ List.mem_cons_self)
  · rw [QueryFilter.hasAggregate, List.any_eq_false]
    intro path hpath
    rw [ParsedQuery.rowFilter, h.paths_eq hquery] at hpath
    obtain ⟨field, hmem, rfl⟩ := List.mem_map.1 hpath
    have hcall := Head.not_mem_of_isIdentifier (h.columns field hmem).plain.name (c := '(')
      (by decide)
    rw [Path.isAggregate, hterminal field hmem, Segment.isAggregate, Bool.or_eq_true, beq_iff_eq,
      beq_iff_eq]
    rintro (heq | heq)
    · exact (h.columns field hmem).not_count heq
    · exact hcall (heq ▸ by decide)

end

end ColumnQuery

/-! ## 4. Filters on the primary keys -/

namespace FilterTree

mutual

/-- A filter without conditions about the paths says nothing about them. -/
theorem restrictTo?_eq_none {paths : List Text} : (filter : FilterTree) →
    (∀ c ∈ filter.conditions, c.targets paths = false) → filter.restrictTo? paths = none
  | condition c, h => by
    rw [restrictTo?, h c (by rw [conditions]; exact List.mem_cons_self)]
    rfl
  | anyOf group, h => by
    rw [conditions] at h
    rw [restrictTo?, restrictAll_eq_nil group h]
    rfl
  | allOf group, h => by
    rw [conditions] at h
    rw [restrictTo?, restrictAll_eq_nil group h]
    rfl

theorem restrictAll_eq_nil {paths : List Text} : (group : List FilterTree) →
    (∀ c ∈ conditionsOfAll group, c.targets paths = false) → restrictAll paths group = []
  | [], _ => by rw [restrictAll]
  | filter :: rest, h => by
    rw [conditionsOfAll] at h
    rw [restrictAll, restrictTo?_eq_none filter fun c hc => h c (List.mem_append_left _ hc)]
    exact restrictAll_eq_nil rest fun c hc => h c (List.mem_append_right _ hc)

end

end FilterTree

namespace ColumnQuery

variable {query : ParsedQuery} {fields : List Field} {primaryKeys : List Text} {text : Text}

section

variable (h : ColumnQuery query fields primaryKeys)
include h

/-- What the filters say about the primary keys they say in single
conditions. -/
theorem exists_condition_of_not_passesOn {row : Json}
    (hrow : query.rowFilter.passesOn row primaryKeys = false) :
    ∃ c, .condition c ∈ query.filters ∧ c.targets primaryKeys = true ∧ c.accepts row = false := by
  rw [QueryFilter.passesOn, List.all_eq_false] at hrow
  obtain ⟨filter, hfilter, hrejects⟩ := hrow
  obtain ⟨whole, hwhole, hrestricted⟩ := List.mem_filterMap.1 hfilter
  by_cases hcondition : ∃ c, whole = .condition c
  · obtain ⟨c, rfl⟩ := hcondition
    rw [FilterTree.restrictTo?] at hrestricted
    split at hrestricted
    · rename_i htargets
      obtain rfl := Option.some.inj hrestricted
      exact ⟨c, hwhole, htargets, by simpa using hrejects⟩
    · contradiction
  · have houtside := h.keys_outside_groups whole hwhole fun c heq => hcondition ⟨c, heq⟩
    rw [FilterTree.restrictTo?_eq_none whole houtside] at hrestricted
    contradiction

/-- In the column of a condition on the primary keys, rows with the same
keys hold the same value. -/
theorem sameAs_of_targets {a b : Fields Json}
    (hshared : sharesKeys primaryKeys (.obj a) (.obj b) = true) {c : Condition}
    (htargets : c.targets primaryKeys = true) {field : Field} (hmem : field ∈ fields)
    (hpath : c.path = field.head.name) (halias : c.aliasChain = field.head.aliasName) :
    ∃ x y, Fields.get? field.head.name a = some x ∧ Fields.get? field.head.name b = some y ∧
      x.sameAs y = true := by
  -- The key named by the condition is the name of the column or its alias.
  obtain ⟨name, hname, hcase⟩ := List.any_eq_true.1 htargets
  have hcolumn : ∀ source : Fields Json,
      Fields.get? field.head.name source = Fields.get? name source := by
    intro source
    rw [Bool.or_eq_true, beq_iff_eq, beq_iff_eq, hpath, halias] at hcase
    rcases hcase with rfl | hcase
    · rfl
    · have hkey : field.key = name := by
        rw [Field.key_column (h.columns field hmem), ← hcase]
        rfl
      rw [← h.get?_key source hmem, hkey, h.get?_primaryKey source hname]
  obtain ⟨x, y, hx, hy, hsame⟩ := sharesKeys_iff.1 hshared name hname
  exact ⟨x, y, (hcolumn a).trans hx, (hcolumn b).trans hy, hsame⟩

/-- When the filters on the primary keys exclude a row, they exclude every
row with its keys. -/
theorem not_passes_of_excluded (hquery : parseQueryKey text = .ok query) {a b : Fields Json}
    (hshared : sharesKeys primaryKeys (.obj a) (.obj b) = true)
    (hexcluded : query.rowFilter.passesOn (query.rowFilter.denormalize (.obj b)) primaryKeys =
      false) :
    query.rowFilter.passes (query.rowFilter.denormalize (.obj a)) = false := by
  obtain ⟨c, hc, htargets, hrejects⟩ := h.exists_condition_of_not_passesOn hexcluded
  have hconditions : c ∈ query.filters.flatMap FilterTree.conditions := by
    refine List.mem_flatMap.2 ⟨_, hc, ?_⟩
    rw [FilterTree.conditions]
    exact List.mem_cons_self
  obtain ⟨field, hmem, hpath, halias⟩ := h.filters_selected c hconditions
  obtain ⟨x, y, hx, hy, hsame⟩ := h.sameAs_of_targets hshared htargets hmem hpath halias
  have hboth := h.accepts_congr hquery hmem hpath halias hx hy hsame
  rw [QueryFilter.passes, List.all_eq_false]
  exact ⟨_, hc, by simp [hboth, hrejects]⟩

end

end ColumnQuery
end QueryCache
