/-
QueryCache.Proofs.WildcardRows — a wildcard beside columns.

A selection of `*` and columns is fetched without its aliases, and the
answer is flattened to itself (`flattenRow_names`): every column of the row
is read by its own entry, or else by the wildcard.  In the shape of the
selection the wildcard takes over the columns that no selected column
names; the others stand under the keys of the columns that select them
(`Slot.reshapeFields_starred`).  So a column that is selected under an
alias alone is not shown under its own name, and all columns are shown
exactly where each one that is named is also selected as it is
(`normalizeQuery_starred`).
-/
import QueryCache.Proofs.Reshape.Columns
import QueryCache.Proofs.Reshape.LastWritten
import QueryCache.Proofs.Reshape.Slots
import QueryCache.Proofs.Statement.Names

namespace QueryCache

/-! ## 1. Answers to statements of names -/

namespace GroupedPath

/-- What an entry of a name reads. -/
theorem columns_name {claimed : List Text} {row : Fields Json} {name : Text}
    (h : Segment.IsName name) : columns claimed row (.leaf (.bare name)) =
      if name = ['*'] then row.filter fun column => !claimed.contains column.1
      else (Fields.get? name row).toList.map fun value => (name, value) := by
  have hkey : (leaf (.bare name)).responseKey = name := h.bare
  rw [columns, hkey]
  rfl

theorem mem_columnsOf {claimed : List Text} {row : Fields Json} {paths : List GroupedPath}
    {column : Text × Json} :
    column ∈ columnsOf claimed row paths ↔
      ∃ grouped ∈ paths, column ∈ columns claimed row grouped := by
  induction paths with
  | nil => simp [columnsOf]
  | cons grouped rest ih => simp [columnsOf, ih]

/-- Of `*` and columns that are not renamed a row is flattened to itself:
a column that no entry reads is left to the wildcard. -/
theorem flattenRow_names {paths : List GroupedPath}
    (h : ∀ grouped ∈ paths, ∃ name, Segment.IsName name ∧ grouped = .leaf (.bare name))
    (hstar : .leaf (.bare ['*']) ∈ paths) {row : Fields Json} (hrow : row.Ascending) :
    flattenRow paths row = row := by
  have hsound : ∀ column ∈ columnsOf (claimedKeys paths) row paths,
      Fields.get? column.1 row = some column.2 := by
    intro column hcolumn
    obtain ⟨grouped, hgrouped, hcolumn⟩ := mem_columnsOf.1 hcolumn
    obtain ⟨name, hname, rfl⟩ := h grouped hgrouped
    rw [columns_name hname] at hcolumn
    split at hcolumn
    · exact Fields.get?_of_mem hrow (List.mem_of_mem_filter hcolumn)
    · obtain ⟨value, hvalue, rfl⟩ := List.mem_map.1 hcolumn
      exact Option.mem_toList.1 hvalue
  have hcomplete : ∀ column ∈ row, column ∈ columnsOf (claimedKeys paths) row paths := by
    intro column hcolumn
    rw [mem_columnsOf]
    by_cases hclaimed : column.1 ∈ claimedKeys paths
    · obtain ⟨grouped, hgrouped, hown⟩ := List.mem_map.1 hclaimed
      obtain ⟨hgrouped, hexplicit⟩ := List.mem_filter.1 hgrouped
      obtain ⟨name, hname, rfl⟩ := h grouped hgrouped
      obtain rfl : name = column.1 := hname.bare.symm.trans hown
      have hne : column.1 ≠ ['*'] := by simpa [isWildcard, entry, Entry.bare] using hexplicit
      refine ⟨_, hgrouped, ?_⟩
      rw [columns_name hname, if_neg hne, Fields.get?_of_mem hrow hcolumn]
      exact List.mem_singleton.2 rfl
    · obtain ⟨name, hname, heq⟩ := h _ hstar
      obtain rfl : ['*'] = name := congrArg (fun grouped => grouped.entry.path) heq
      refine ⟨_, hstar, ?_⟩
      rw [columns_name hname, if_pos rfl]
      exact List.mem_filter.2 ⟨hcolumn, by simpa using hclaimed⟩
  refine Fields.ext_of_ascending (ascending_flattenRow paths row) hrow fun name => ?_
  rw [flattenRow_eq_columns]
  exact Fields.get?_ofList_same hsound hcomplete name

end GroupedPath

/-! ## 2. Selections of `*` and columns -/

namespace Field

/-- `*` and columns side by side, the columns under aliases or not, which
answer under keys of their own. -/
structure AreStarred (fields : List Field) : Prop where
  star : ∃ field ∈ fields, field.head.name = ['*']
  leaves : ∀ field ∈ fields, field.children = []
  unhinted : ∀ field ∈ fields, field.head.hints = []
  named : ∀ field ∈ fields, Head.isIdentifier field.head.name = true ∨
    field.head.name = ['*'] ∧ field.head.aliasName = none
  distinct : fields.Pairwise fun a b => a.key ≠ b.key

/-- The names that fields select. -/
def names (fields : List Field) : List Text :=
  fields.map (·.head.name)

/-- The column of a row that a field selects. -/
def selected? (row : Fields Json) (field : Field) : Option Json :=
  if field.head.name = ['*'] then none else Fields.get? field.head.name row

/-- The columns of a row that fields select, each under the key of its
field. -/
def selected (fields : List Field) (row : Fields Json) : Fields Json :=
  Fields.ofList (fields.filterMap fun field =>
    (selected? row field).map fun value => (field.key, value))

theorem ascending_selected (fields : List Field) (row : Fields Json) :
    (selected fields row).Ascending :=
  Fields.ascending_ofList _

/-- Some field names the column, which may have hints and a cast. -/
def isNamedBy (fields : List Field) (column : Text) : Bool :=
  (names fields).contains (Segment.bareName column)

/-- A row in which a wildcard has left the columns that fields name to
them. -/
def starredRow (fields : List Field) (row : Fields Json) : Fields Json :=
  Fields.overlay (row.filter fun column => !isNamedBy fields column.1) (selected fields row)

section

variable {fields : List Field} (h : AreStarred fields)
include h

theorem AreStarred.segment_eq {field : Field} (hmem : field ∈ fields) :
    field.head.segment = field.head.name := by
  rw [Head.segment, h.unhinted field hmem]
  rfl

theorem AreStarred.isName {field : Field} (hmem : field ∈ fields) :
    Segment.IsName field.head.name := by
  rcases h.named field hmem with hname | ⟨hname, -⟩
  · have hplain : Segment.isPlain field.head.name = true := by
      have hhead : Head.IsPlain ⟨[], none, field.head.name, []⟩ := ⟨by simp, hname, by simp⟩
      exact Head.isPlain_segment hhead
    refine ⟨Head.ne_nil_of_isIdentifier hname, Head.not_mem_of_isIdentifier hname (by decide),
      by rw [Segment.splitAlias_of_isPlain hplain], ?_⟩
    rw [Segment.bareName_of_isPlain hplain,
      Text.upTo_of_not_mem (Head.not_mem_of_isIdentifier hname (by decide))]
  · rw [hname]
    exact ⟨by decide, by decide, by decide, by decide⟩

theorem AreStarred.isName_of_mem_names : ∀ name ∈ names fields, Segment.IsName name := by
  intro name hname
  obtain ⟨field, hmem, rfl⟩ := List.mem_map.1 hname
  exact h.isName hmem

theorem AreStarred.star_mem_names : ['*'] ∈ names fields := by
  obtain ⟨field, hmem, hname⟩ := h.star
  exact List.mem_map.2 ⟨field, hmem, hname⟩

theorem AreStarred.upToCast_name {field : Field} (hmem : field ∈ fields) :
    Text.upToCast field.head.name = field.head.name := by
  rcases h.named field hmem with hname | ⟨hname, -⟩
  · exact Text.upToCast_of_not_mem (Head.not_mem_of_isIdentifier hname (by decide))
  · rw [hname]
    decide

theorem AreStarred.key_eq {field : Field} (hmem : field ∈ fields) :
    field.key = field.head.aliasName.getD field.head.name := by
  rw [key, Head.effectiveName, h.upToCast_name hmem]

theorem AreStarred.distinctKeysOf : DistinctKeysOf fields := by
  obtain ⟨-, hleaves, -, -, hdistinct⟩ := h
  induction fields with
  | nil => trivial
  | cons field rest ih =>
    obtain ⟨hfield, hrest⟩ := List.pairwise_cons.1 hdistinct
    rw [DistinctKeysOf]
    refine ⟨?_, fun other hother => (hfield other hother).symm,
      ih (fun other hother => hleaves other (List.mem_cons_of_mem _ hother)) hrest⟩
    obtain ⟨head, children⟩ := field
    obtain rfl : children = [] := hleaves _ List.mem_cons_self
    rw [DistinctKeys]
    trivial

theorem AreStarred.slots_eq :
    slots fields = fields.map fun field => .mk field.head.name field.key true [] := by
  rw [slots_eq_map]
  refine List.map_congr_left fun field hmem => ?_
  have hsegment := h.segment_eq hmem
  obtain ⟨head, children⟩ := field
  obtain rfl : children = [] := h.leaves _ hmem
  rw [slot, ← hsegment]
  rfl

end

end Field

/-! ## 3. Rows in the shape of such selections -/

namespace Slot

section

variable {fields : List Field} (h : Field.AreStarred fields) (row : Fields Json) (name : Text)
include h

theorem claimed_starred : claimed (Field.slots fields) = Field.names fields := by
  rw [h.slots_eq, claimed, List.map_map]
  exact List.map_congr_left fun field hmem => (h.isName hmem).bare

theorem rows?_starred : ∀ slot ∈ Field.slots fields, rows? row name slot = none := by
  rw [h.slots_eq]
  intro slot hslot
  obtain ⟨field, -, rfl⟩ := List.mem_map.1 hslot
  rw [rows?]
  exact ite_self _

/-- The slot of a field has the column that the field selects. -/
theorem column?_starred {field : Field} (hmem : field ∈ fields) :
    column? row name (.mk field.head.name field.key true []) =
      if field.key = name then Field.selected? row field else none := by
  have hlookup : lookup? row field.head.name = Fields.get? field.head.name row := by
    rw [lookup?, (h.isName hmem).bare]
    cases Fields.get? field.head.name row <;> rfl
  simp only [column?, Field.selected?, segment, key, isLeaf, true_and, hlookup]
  by_cases hstar : field.head.name = ['*'] <;> by_cases hkey : field.key = name <;>
    simp [hstar, hkey]

/-- The slots have the columns that the fields select. -/
theorem last?_column?_starred :
    last? (column? row name) (Field.slots fields) =
      Fields.get? name (Field.selected fields row) := by
  have hslots : ∀ slot ∈ Field.slots fields, ∃ field ∈ fields,
      column? row name slot = if field.key = name then Field.selected? row field else none := by
    rw [h.slots_eq]
    intro slot hslot
    obtain ⟨field, hmem, rfl⟩ := List.mem_map.1 hslot
    exact ⟨field, hmem, column?_starred h row name hmem⟩
  by_cases hkey : ∃ field ∈ fields, field.key = name
  · obtain ⟨field, hmem, rfl⟩ := hkey
    -- No other field has its key.
    have hown : ∀ slot ∈ Field.slots fields, ∀ value,
        column? row field.key slot = some value → Field.selected? row field = some value := by
      intro slot hslot value hvalue
      obtain ⟨other, hother, hcolumn⟩ := hslots slot hslot
      rw [hcolumn] at hvalue
      obtain ⟨hsame, hvalue⟩ := Option.ite_none_right_eq_some.1 hvalue
      rwa [← List.inj_on_of_nodup_map (List.pairwise_map.2 h.distinct) hother hmem hsame]
    rw [Field.selected, get?_ofList_keys h.distinct (Field.selected? row) hmem]
    rcases hvalue : Field.selected? row field with _ | value
    · refine last?_eq_none_iff.2 fun slot hslot => ?_
      rcases hcolumn : column? row field.key slot with _ | found
      · rfl
      · rw [hown slot hslot found hcolumn] at hvalue
        contradiction
    · have hin : Slot.mk field.head.name field.key true [] ∈ Field.slots fields := by
        rw [h.slots_eq]
        exact List.mem_map_of_mem hmem
      refine last?_eq_some hin ?_ fun slot hslot found hfound => ?_
      · rw [column?_starred h row field.key hmem, if_pos rfl, hvalue]
      · rw [hown slot hslot found hfound] at hvalue
        exact Option.some.inj hvalue
  · have hother : ∀ field ∈ fields, field.key ≠ name :=
      fun field hmem heq => hkey ⟨field, hmem, heq⟩
    rw [Field.selected, get?_ofList_keys_eq_none _ hother]
    refine last?_eq_none_iff.2 fun slot hslot => ?_
    obtain ⟨field, hmem, hcolumn⟩ := hslots slot hslot
    rw [hcolumn, if_neg (hother field hmem)]

theorem readsAll_starred : readsAll row (Field.slots fields).reverse = true := by
  obtain ⟨field, hmem, hstar⟩ := h.star
  have hin : Slot.mk field.head.name field.key true [] ∈ Field.slots fields := by
    rw [h.slots_eq]
    exact List.mem_map_of_mem hmem
  obtain ⟨front, back, hslots⟩ := List.append_of_mem hin
  refine readsAll_iff.2 ⟨front, _, back, hslots, isWildcard_iff.2 ⟨rfl, hstar⟩, fun slot hslot => ?_⟩
  exact rows?_starred h row _ slot (hslots ▸ List.mem_append_left _ hslot)

/-- In the shape of the selection a row without dotted names shows what the
fields select, and every other column that no field names. -/
theorem reshapeFields_starred (hdotless : ∀ column ∈ row, '.' ∉ column.1)
    (hrow : row.Ascending) :
    reshapeFields (Field.slots fields) row = Field.starredRow fields row := by
  refine Fields.ext_of_ascending (ascending_reshapeFields _ row)
    (Fields.ascending_overlay (hrow.filter _)) fun name => ?_
  rw [Field.starredRow, Fields.get?_overlay (Field.ascending_selected fields row),
    Fields.get?_filter fun column => !Field.isNamedBy fields column, get?_reshapeFields,
    last?_eq_none_iff.2 (rows?_starred h row name), last?_column?_starred h row name,
    Option.none_or, Option.orElse_eq_or, takenOver?, claimed_starred h]
  congr 1
  rcases hvalue : Fields.get? name row with _ | value
  · simp
  · have hdot := hdotless _ (Fields.mem_of_get? hvalue)
    rw [Text.upTo_of_not_mem hdot, Field.isNamedBy]
    simp [readsAll_starred h row]

end

end Slot

/-! ## 4. Fetched and shown -/

namespace Field

/-- The row with every column under its own name, and what fields select
under the keys of the fields. -/
def fullRow (fields : List Field) (row : Fields Json) : Fields Json :=
  Fields.overlay row (selected fields row)

variable {fields : List Field} {row : Fields Json}

theorem get?_fullRow (name : Text) : Fields.get? name (fullRow fields row) =
    (Fields.get? name (selected fields row)).or (Fields.get? name row) := by
  rw [fullRow, Fields.get?_overlay (ascending_selected fields row), Option.orElse_eq_or]

theorem get?_starredRow (name : Text) : Fields.get? name (starredRow fields row) =
    (Fields.get? name (selected fields row)).or
      (if isNamedBy fields name then none else Fields.get? name row) := by
  rw [starredRow, Fields.get?_overlay (ascending_selected fields row), Option.orElse_eq_or,
    Fields.get?_filter fun column => !isNamedBy fields column]
  cases isNamedBy fields name <;> rfl

/-- Every column is shown exactly if each one that is named is also selected
as it is. -/
theorem starredRow_eq_fullRow_iff (h : AreStarred fields) (hrow : row.Ascending)
    (haliases : ∀ field ∈ fields, ∀ aliasName ∈ field.head.aliasName,
      Fields.get? aliasName row = none) :
    starredRow fields row = fullRow fields row ↔
      ∀ column ∈ row, isNamedBy fields column.1 = true →
        ∃ field ∈ fields, field.head.name = column.1 ∧ field.head.name ≠ ['*'] ∧
          field.head.aliasName = none := by
  constructor
  · intro heq column hcolumn hnamed
    have hvalue := Fields.get?_of_mem hrow hcolumn
    have hshown : (Fields.get? column.1 (selected fields row)).isSome = true := by
      have hget := congrArg (Fields.get? column.1) heq
      rw [get?_starredRow, get?_fullRow, hvalue, if_pos hnamed, Option.or_none] at hget
      rw [hget]
      cases Fields.get? column.1 (selected fields row) <;> rfl
    -- A field shows it, and not under an alias.
    obtain ⟨field, hmem, hkey⟩ : ∃ field ∈ fields, field.key = column.1 := by
      by_contra hnone
      have hother : ∀ field ∈ fields, field.key ≠ column.1 :=
        fun field hmem hkey => hnone ⟨field, hmem, hkey⟩
      rw [selected, Slot.get?_ofList_keys_eq_none _ hother] at hshown
      contradiction
    rw [← hkey, selected, Slot.get?_ofList_keys h.distinct (selected? row) hmem] at hshown
    have hstar : field.head.name ≠ ['*'] := by
      intro hstar
      rw [selected?, if_pos hstar] at hshown
      contradiction
    rw [h.key_eq hmem] at hkey
    rcases halias : field.head.aliasName with _ | aliasName
    · rw [halias, Option.getD_none] at hkey
      exact ⟨field, hmem, hkey, hstar, halias⟩
    · rw [halias, Option.getD_some] at hkey
      have hnone := haliases field hmem aliasName halias
      rw [hkey, hvalue] at hnone
      contradiction
  · intro hown
    refine Fields.ext_of_ascending (Fields.ascending_overlay (hrow.filter _))
      (Fields.ascending_overlay hrow) fun name => ?_
    rw [get?_starredRow, get?_fullRow]
    cases hnamed : isNamedBy fields name with
    | false => rw [if_neg Bool.false_ne_true]
    | true =>
      rcases hvalue : Fields.get? name row with _ | value
      · rfl
      · obtain ⟨field, hmem, hname, hstar, halias⟩ := hown _ (Fields.mem_of_get? hvalue) hnamed
        have hkey : field.key = name := by
          rw [h.key_eq hmem, halias, Option.getD_none, hname]
        have hshown := Slot.get?_ofList_keys h.distinct (selected? row) hmem
        rw [hkey, selected?, if_neg hstar, hname, hvalue] at hshown
        rw [selected, hshown]
        rfl

end Field

namespace Field

section

variable {clause : Text} {fields : List Field} (hclause : selectFields clause = .ok fields)
  (h : AreStarred fields)

include hclause

theorem dotlessChain_head {field : Field} (hmem : field ∈ fields) : DotlessChain [field.head] :=
  ⟨List.cons_ne_nil _ _, fun head hhead => by
    rw [List.mem_singleton.1 hhead]
    exact (all_head_children (selectFields_dotless hclause) hmem).1⟩

include h

/-- Without their aliases the leaves of the selection are the names. -/
theorem AreStarred.map_withoutAlias :
    ((chainsOf fields).map Path.ofHeads).map Path.withoutAlias = (names fields).map .ofText := by
  rw [chainsOf_leaves h.leaves, names, List.map_map, List.map_map, List.map_map]
  refine List.map_congr_left fun field hmem => ?_
  have hlegal : field.head.IsLegal :=
    (all_head_children (selectFields_all (fun _ _ _ => Head.isLegal_of_parse) hclause) hmem).1
  have hspelled : field.head.IsSpelled :=
    (all_head_children (selectFields_spelled hclause) hmem).1
  have hnamed : field.head.IsNamed :=
    ⟨hlegal.aliasName, (h.named field hmem).imp .plain fun hstar =>
      ⟨h.unhinted field hmem, Or.inl hstar.1⟩, hlegal.hints⟩
  have hleaf := Path.withoutAlias_named (dotlessChain_head hclause hmem)
    (fun head hhead => List.mem_singleton.1 hhead ▸ hspelled)
    (fun head hhead => List.mem_singleton.1 hhead ▸ hnamed)
  rw [Function.comp_apply, Function.comp_apply, Function.comp_apply, hleaf]
  exact congrArg Path.ofText (h.segment_eq hmem)

/-- The statement of the names is fetched for the selection. -/
theorem AreStarred.normalizeQuery_eq :
    normalizeQuery (some clause) false [] = .ok (some
      ⟨(buildStatement ((names fields).map .ofText)).statement,
        some ((chainsOf fields).map Path.ofHeads), (names fields).map .ofText,
        (buildStatement ((names fields).map .ofText)).grouped⟩) := by
  have hsome : (buildStatement ((names fields).map .ofText)).isEmpty = false :=
    isEmpty_statement_of_name h.isName_of_mem_names _ h.star_mem_names (by decide)
  rw [normalizeQuery_of_parseSelect (parseSelect_chains hclause), NormalizedQuery.merged,
    Option.getD_some, h.map_withoutAlias hclause, List.foldl_nil]
  simp only [hsome, Bool.false_eq_true, if_false]

/-- The slots of the selection are those of its fields. -/
theorem AreStarred.ofPaths_eq :
    Slot.ofPaths ((chainsOf fields).map Path.ofHeads) = slots fields := by
  refine Slot.ofPaths_of_routes (fun chain hchain => ?_) h.distinctKeysOf
  rw [chainsOf_leaves h.leaves] at hchain
  obtain ⟨field, hmem, rfl⟩ := List.mem_map.1 hchain
  have hlegal : field.head.IsLegal :=
    (all_head_children (selectFields_all (fun _ _ _ => Head.isLegal_of_parse) hclause) hmem).1
  refine Path.route_of_dotless (dotlessChain_head hclause hmem) fun head hhead => ?_
  rw [List.mem_singleton.1 hhead, hlegal.stripHints_segment, h.upToCast_name hmem]

end

end Field

/-- A row that is fetched for `*` and columns is shown as their starred
row. -/
theorem exists_starredRow {clause : Text} {fields : List Field}
    (hclause : selectFields clause = .ok fields) (h : Field.AreStarred fields)
    {row : Fields Json} (hrow : row.Ascending) (hdotless : ∀ column ∈ row, '.' ∉ column.1) :
    ∃ query, normalizeQuery (some clause) false [] = .ok (some query) ∧
      query.denormalizeResponse (.obj row) = .obj (Field.starredRow fields row) := by
  refine ⟨_, h.normalizeQuery_eq hclause, ?_⟩
  have hentries : ∀ grouped ∈ (buildStatement ((Field.names fields).map .ofText)).grouped,
      ∃ name, Segment.IsName name ∧ grouped = .leaf (.bare name) := by
    intro grouped hgrouped
    obtain ⟨name, hname, heq⟩ := exists_name_of_mem_statement h.isName_of_mem_names _ hgrouped
    exact ⟨name, h.isName_of_mem_names name hname, heq⟩
  have hstar := mem_statement_of_name h.isName_of_mem_names preferUnhintedRelation
    h.star_mem_names (by decide)
  have hflat : normalizeResponse (buildStatement ((Field.names fields).map .ofText)).grouped
      (.obj row) = .obj row := by
    simp only [normalizeResponse, Json.mapRows, GroupedPath.flattenRow_names hentries hstar hrow]
  rw [NormalizedQuery.denormalizeResponse, hflat, Option.getD_some, denormalize,
    h.ofPaths_eq hclause, Slot.reshape_obj, Slot.reshapeFields_starred h row hdotless hrow]

/-- A row that is fetched for `*` and columns shows, in the shape of the
selection, what the fields select and every other column that no field
names.  These are all columns exactly if each one that is named is also
selected as it is. -/
theorem normalizeQuery_starred {clause : Text} {fields : List Field}
    (hclause : selectFields clause = .ok fields) (h : Field.AreStarred fields)
    {row : Fields Json} (hrow : row.Ascending) (hdotless : ∀ column ∈ row, '.' ∉ column.1)
    (haliases : ∀ field ∈ fields, ∀ aliasName ∈ field.head.aliasName,
      Fields.get? aliasName row = none) :
    ∃ query, normalizeQuery (some clause) false [] = .ok (some query) ∧
      query.denormalizeResponse (.obj row) = .obj (Field.starredRow fields row) ∧
      (Field.starredRow fields row = Field.fullRow fields row ↔
        ∀ column ∈ row, Field.isNamedBy fields column.1 = true →
          ∃ field ∈ fields, field.head.name = column.1 ∧ field.head.name ≠ ['*'] ∧
            field.head.aliasName = none) := by
  obtain ⟨query, hquery, hshown⟩ := exists_starredRow hclause h hrow hdotless
  exact ⟨query, hquery, hshown, Field.starredRow_eq_fullRow_iff h hrow haliases⟩

/-! ## 5. Labels -/

/-- A row of a table of labels. -/
def labelRow : Fields Json :=
  [("id".toList, .ofNat 1), ("name".toList, .str ['a'])]

theorem ascending_labelRow : labelRow.Ascending := by
  rw [Fields.Ascending]
  decide +kernel

/-- Fields without children, as their heads are written. -/
def Field.leavesOf (written : List Text) : List Field :=
  written.map fun head => .mk (Head.ofWritten head) []

/-- Named heads, as they are written, are read as such fields. -/
theorem selectFields_leavesOf {written : List Text} (hne : written ≠ [])
    (h : ∀ head ∈ written, (Head.ofWritten head).IsNamed ∧
      (Entry.ofHead (Head.ofWritten head)).declaration = head) :
    selectFields (Text.join ',' written) = .ok (Field.leavesOf written) := by
  refine selectFields_heads hne fun head hhead => ?_
  obtain ⟨hnamed, hspelled⟩ := h head hhead
  exact GroupedPath.readsBack_of_spelled hnamed hspelled

/-- The name as it is, and under an alias. -/
def nameAndLabel : List Text :=
  ["*".toList, "name".toList, "label:name".toList]

/-- The name under an alias alone. -/
def labelAlone : List Text :=
  ["*".toList, "label:name".toList]

/-- Where the name is also selected as it is, all columns are shown. -/
theorem labelRow_shown :
    selectFields "*,name,label:name".toList = .ok (Field.leavesOf nameAndLabel) ∧
      Field.AreStarred (Field.leavesOf nameAndLabel) ∧
      ∃ query, normalizeQuery (some "*,name,label:name".toList) false [] = .ok (some query) ∧
        query.denormalizeResponse (.obj labelRow) =
          .obj (Field.fullRow (Field.leavesOf nameAndLabel) labelRow) ∧
        Field.fullRow (Field.leavesOf nameAndLabel) labelRow =
          [("id".toList, .ofNat 1), ("label".toList, .str ['a']), ("name".toList, .str ['a'])] := by
  have hclause : selectFields "*,name,label:name".toList = .ok (Field.leavesOf nameAndLabel) :=
    @selectFields_leavesOf nameAndLabel (List.cons_ne_nil _ _) (by decide +kernel)
  have hstarred : Field.AreStarred (Field.leavesOf nameAndLabel) := by
    refine ⟨by decide +kernel, ?_, by decide +kernel, by decide +kernel, by decide +kernel⟩
    simp [Field.leavesOf, Field.children]
  obtain ⟨query, hquery, hshown, hfull⟩ := normalizeQuery_starred hclause hstarred
    ascending_labelRow (by decide +kernel) (by decide +kernel)
  have hall : Field.starredRow (Field.leavesOf nameAndLabel) labelRow =
      Field.fullRow (Field.leavesOf nameAndLabel) labelRow := hfull.2 (by decide +kernel)
  exact ⟨hclause, hstarred, query, hquery, by rw [hshown, hall], by decide +kernel⟩

/-- Where the name is selected as the label alone, it is not shown as the
name. -/
theorem name_hidden_by_label :
    selectFields "*,label:name".toList = .ok (Field.leavesOf labelAlone) ∧
      Field.AreStarred (Field.leavesOf labelAlone) ∧
      labelRow.Ascending ∧ (∀ column ∈ labelRow, '.' ∉ column.1) ∧
      (∀ field ∈ Field.leavesOf labelAlone, ∀ aliasName ∈ field.head.aliasName,
        Fields.get? aliasName labelRow = none) ∧
      ∃ query, normalizeQuery (some "*,label:name".toList) false [] = .ok (some query) ∧
        query.denormalizeResponse (.obj labelRow) =
          .obj [("id".toList, .ofNat 1), ("label".toList, .str ['a'])] ∧
        query.denormalizeResponse (.obj labelRow) ≠
          .obj (Field.fullRow (Field.leavesOf labelAlone) labelRow) := by
  have hclause : selectFields "*,label:name".toList = .ok (Field.leavesOf labelAlone) :=
    @selectFields_leavesOf labelAlone (List.cons_ne_nil _ _) (by decide +kernel)
  have hstarred : Field.AreStarred (Field.leavesOf labelAlone) := by
    refine ⟨by decide +kernel, ?_, by decide +kernel, by decide +kernel, by decide +kernel⟩
    simp [Field.leavesOf, Field.children]
  have hdotless : ∀ column ∈ labelRow, '.' ∉ column.1 := by decide +kernel
  obtain ⟨query, hquery, hshown⟩ := exists_starredRow hclause hstarred ascending_labelRow hdotless
  have hhidden : Field.starredRow (Field.leavesOf labelAlone) labelRow =
      [("id".toList, .ofNat 1), ("label".toList, .str ['a'])] := by decide +kernel
  rw [hhidden] at hshown
  refine ⟨hclause, hstarred, ascending_labelRow, hdotless, by decide +kernel, query, hquery, hshown, ?_⟩
  rw [hshown]
  decide +kernel

end QueryCache
