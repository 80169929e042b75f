/-
QueryCache.Proofs.QualifyingRows — a row that belongs to a query stays in
its list.

An upsert is judged on the row in the shape of the query.  Where a filter
reads a column that the query does not select, that shape has nothing to
show for it, and the row is dropped from the list although it passes every
filter (`open_contact_lost`).  Where every condition that the new row
satisfies reads a selected column, a row of the list that qualifies stays
(`mutateItem_holds_row`): the changed row carries every path, since the
new version of the row says nothing about relations, and it is accepted,
since no condition that holds of the row of the table fails on it.
-/
import QueryCache.Proofs.Filter.Resolved
import QueryCache.Proofs.Filter.Restricted
import QueryCache.Proofs.UnpatchableKeys

namespace QueryCache

/-- The condition on a row of the table, which knows no aliases. -/
def Condition.onTable (c : Condition) : Condition :=
  { c with aliasChain := none }

/-- A row of the table passes every filter of the query. -/
def QueryFilter.qualifies (filter : QueryFilter) (row : Json) : Bool :=
  filter.filters.all fun tree => (tree.mapConditions Condition.onTable).accepts row

/-! ## 1. Rows of the table -/

/-- In a row of the table a condition on a column reads what the column
holds. -/
theorem Condition.exists_value_of_onTable {c : Condition} {source : Fields Json}
    (hcolumn : Head.isIdentifier c.path = true)
    (haccepts : c.onTable.accepts (.obj source) = true) :
    ∃ value, Fields.get? c.path source = some value ∧
      c.onTable.values (.obj source) = [value] := by
  have hdot : '.' ∉ c.path := Head.not_mem_of_isIdentifier hcolumn (by decide)
  have hlookup : c.onTable.lookupPath = c.path := by
    rw [lookupPath, onTable, Option.getD_none, Segment.stripPathHints, Segment.mapSegments,
      Text.splitOn_of_not_mem hdot]
    exact Text.upTo_of_not_mem (Head.not_mem_of_isIdentifier hcolumn (by decide))
  rcases hget : Fields.get? c.path source with _ | value
  · have hnone : c.onTable.values (.obj source) = [] := by
      rw [values, hlookup, RowPath.values, Text.splitOn_of_not_mem hdot]
      simp [RowPath.valuesAt, Json.rows, hget]
    simp [accepts, hnone] at haccepts
  · refine ⟨value, rfl, ?_⟩
    rw [values, hlookup]
    exact RowPath.values_of_get? hget

/-- A condition that a row of the table satisfies holds of every row with
the same value under the key of its column. -/
theorem Condition.accepts_of_onTable {c : Condition} {source fields : Fields Json}
    (hcolumn : Head.isIdentifier c.path = true)
    (haccepts : c.onTable.accepts (.obj source) = true)
    (hfields : ∀ value, Fields.get? c.path source = some value →
      Fields.get? c.lookupPath fields = some value) : c.accepts (.obj fields) = true := by
  obtain ⟨value, hget, hvalues⟩ := exists_value_of_onTable hcolumn haccepts
  have hsame : c.values (.obj fields) = [value] :=
    RowPath.values_of_get? (hfields value hget)
  have hcondition : c.onTable.accepts (.obj source) = c.accepts (.obj fields) := by
    rw [accepts, accepts, found, found, hvalues, hsame]
    rfl
  rw [← hcondition, haccepts]

/-! ## 2. Paths of an overlaid row -/

/-- A path that leads on in a row leads on after fields were laid over it,
if those below its first key are null. -/
theorem RowPath.has_overlay {fields upper : Fields Json} (hupper : upper.Ascending) {path : Text}
    (hpath : RowPath.has (.obj fields) path = true)
    (hnull : '.' ∈ path → ∀ value, Fields.get? (Text.upTo '.' path) upper = some value →
      value = .null) : RowPath.has (.obj (Fields.overlay fields upper)) path = true := by
  obtain ⟨below, hsplit⟩ := Text.splitOn_eq_cons '.' path
  have hget := @Fields.get?_overlay _ fields upper hupper
  simp only [RowPath.has, hsplit, RowPath.leadsOn, Json.rows, List.all_cons, List.all_nil,
    Bool.and_true, Bool.or_eq_true, Bool.and_eq_true] at hpath ⊢
  rcases hpath with ⟨hbelow, hwhole⟩ | hfirst
  · -- A field named by the whole path is still there.
    refine Or.inl ⟨hbelow, ?_⟩
    obtain ⟨value, hvalue⟩ := Option.isSome_iff_exists.1 hwhole
    rw [Fields.has, hget, hvalue]
    cases Fields.get? (Text.join '.' (Text.upTo '.' path :: below)) upper <;> rfl
  · right
    rw [hget]
    rcases hvalue : Fields.get? (Text.upTo '.' path) upper with _ | value
    · exact hfirst
    · rcases below with _ | ⟨second, below⟩
      · rfl
      · have hdot : '.' ∈ path := by
          by_contra hdot
          rw [Text.splitOn_of_not_mem hdot] at hsplit
          simp at hsplit
        rw [hnull hdot value hvalue]
        rfl

/-- A path leads into a relation exactly when its keys do. -/
theorem Path.dot_mem_outputPath_iff {path : Path} (h : path.IsAligned) :
    '.' ∈ path.outputPath ↔ '.' ∈ path.path := by
  have hone : ∀ text : Text, '.' ∈ text ↔ (Text.splitOn '.' text).length ≠ 1 := by
    intro text
    constructor
    · intro hdot hlength
      obtain ⟨part, hpart⟩ := List.length_eq_one_iff.1 hlength
      have htext := Text.join_splitOn '.' text
      have hparts := Text.splitOn_eq_cons '.' text
      rw [hpart] at htext hparts
      obtain ⟨rest, hrest⟩ := hparts
      rw [← htext, Text.join, (List.cons.inj hrest).1] at hdot
      exact Text.not_mem_upTo '.' text hdot
    · intro hlength
      by_contra hdot
      rw [Text.splitOn_of_not_mem hdot] at hlength
      exact hlength rfl
  rw [hone, hone, h]
  rfl

/-! ## 3. Replaced rows -/

/-- An upsert into rows that have the one meant puts the merged row back, if
it belongs to the query. -/
theorem PatchContext.mem_upsertRows {ctx : PatchContext} {input current : Json}
    {merge : Option (Json → Json → Json)} {rows : List Json}
    (hfound : rows.find? (fun row => sharesKeys ctx.primaryKeys row input) = some current)
    (haccepts : ctx.accepts (mergeRow merge current input) = true) :
    ctx.transform (mergeRow merge current input) ∈ ctx.upsertRows input merge rows := by
  have hrow : ctx.upsertRows input merge rows = ctx.reinsert (mergeRow merge current input)
      (rows.eraseP fun row => sharesKeys ctx.primaryKeys row input) := by
    rw [upsertRows, hfound]
  rw [hrow, reinsert, if_pos haccepts]
  exact (List.mem_insertIdx (ctx.place_le _ _)).2 (Or.inl rfl)

/-- Every condition that a row of the table satisfies reads a column that
the query selects. -/
def QueryFilter.Shows (filter : QueryFilter) (row : Json) : Prop :=
  ∀ c ∈ filter.filters.flatMap FilterTree.conditions, c.onTable.accepts row = true →
    filter.Selects c.path c.lookupPath

/-- An upsert gives the new version of a row of the table, of which a cached
list holds the old one, with its keys and every path of the query.  The row
has no relations, and no column answers under the key of one. -/
structure ItemMutation.ReplacesRow (config : CacheConfig) (mutation : ItemMutation)
    (store : Store) (text : Text) (key : CacheKey) (filter : QueryFilter) (rows : List Json)
    (source : Fields Json) : Prop where
  key_eq : CacheKey.decode config text = some key
  targets : mutation.targets key = true
  filter_eq : QueryFilter.ofQueryKey key.queryKey = .ok filter
  list_eq : store.listAt? text = some rows
  upserts : mutation.change = .upsert none
  input_eq : mutation.input = .obj source
  flat : ∀ field ∈ source, '.' ∉ field.1
  keyed : mutation.primaryKeys ≠ []
  keys_kept : ∀ name ∈ mutation.primaryKeys, filter.Keeps name
  cached : ∃ row ∈ rows, sharesKeys mutation.primaryKeys row mutation.input = true
  complete : ∀ row ∈ rows, sharesKeys mutation.primaryKeys row mutation.input = true →
    filter.hasPaths row = true
  transform_keeps : ∀ row, sharesKeys mutation.primaryKeys row mutation.input = true →
    sharesKeys mutation.primaryKeys (mutation.transform row) mutation.input = true
  relations_apart : ∀ path ∈ filter.paths, '.' ∈ path.path → ∀ other ∈ filter.paths,
    Text.upTo '.' other.outputPath = Text.upTo '.' path.outputPath → '.' ∈ other.path
  relations_absent : ∀ path ∈ filter.paths, '.' ∈ path.path →
    ∀ value, Slot.lookup? source (Text.upTo '.' path.path) = some value →
      value.isObject = false ∧ value.isArray = false

namespace ItemMutation.ReplacesRow

variable {config : CacheConfig} {mutation : ItemMutation} {store : Store} {text : Text}
  {key : CacheKey} {filter : QueryFilter} {rows : List Json} {source : Fields Json}
  (h : mutation.ReplacesRow config store text key filter rows source)
include h

/-- In the shape of the query the new version has its keys. -/
theorem sharesKeys_denormalize (row : Json) :
    sharesKeys mutation.primaryKeys (filter.denormalize mutation.input) row =
      sharesKeys mutation.primaryKeys mutation.input row := by
  refine sharesKeys_congr (fun name hname => ?_) row
  obtain ⟨cached, -, hshared⟩ := h.cached
  obtain ⟨-, value, -, hvalue, -⟩ := sharesKeys_iff.1 hshared name hname
  rw [QueryFilter.get?_denormalize_of_keeps (QueryFilter.isAligned_of_ofQueryKey h.filter_eq)
    (h.keys_kept name hname) hvalue, hvalue]

/-- Laid over a row with every path it leaves every path. -/
theorem hasPaths_overlay (hwildcard : filter.hasWildcard = false) {fields : Fields Json}
    (hpaths : filter.hasPaths (.obj fields) = true) :
    filter.hasPaths (.obj (Fields.overlay fields
      (Slot.reshapeFields (Slot.ofPaths filter.paths) source))) = true := by
  have haligned := QueryFilter.isAligned_of_ofQueryKey h.filter_eq
  rw [QueryFilter.hasPaths, List.all_eq_true] at hpaths ⊢
  intro path hpath
  have hmem : path ∈ filter.paths := (List.mem_filter.1 hpath).1
  refine RowPath.has_overlay (Slot.ascending_reshapeFields _ source) (hpaths path hpath) ?_
  intro hdot value hvalue
  have hrelation := (Path.dot_mem_outputPath_iff (haligned path hmem)).1 hdot
  have hapart := h.relations_apart path hmem hrelation
  refine QueryFilter.get?_reshapeFields_of_relation haligned hwildcard h.flat hapart ?_ hvalue
  intro other hother hkey
  exact h.relations_absent other hother (hapart other hother hkey)

/-- So it passes the filters there if it does in the table. -/
theorem passes_overlay (hqualifies : filter.qualifies mutation.input = true)
    (hshows : filter.Shows mutation.input) (fields : Fields Json) :
    filter.passes (.obj (Fields.overlay fields
      (Slot.reshapeFields (Slot.ofPaths filter.paths) source))) = true := by
  rw [QueryFilter.qualifies, h.input_eq, List.all_eq_true] at hqualifies
  rw [QueryFilter.Shows, h.input_eq] at hshows
  rw [QueryFilter.passes, List.all_eq_true]
  intro tree htree
  refine FilterTree.accepts_of_mapConditions tree (fun c hc haccepts => ?_) (hqualifies tree htree)
  have hselects := hshows c (List.mem_flatMap.2 ⟨tree, htree, hc⟩) haccepts
  refine Condition.accepts_of_onTable hselects.isIdentifier haccepts fun value hvalue => ?_
  rw [Fields.get?_overlay (Slot.ascending_reshapeFields _ source),
    QueryFilter.get?_reshapeFields_of_selects
      (QueryFilter.isAligned_of_ofQueryKey h.filter_eq) hselects hvalue]
  rfl

/-- The patch finds the old version of the row and puts the new one back. -/
theorem exists_mem_applyRows (hwildcard : filter.hasWildcard = false)
    (hqualifies : filter.qualifies mutation.input = true)
    (hshows : filter.Shows mutation.input) (orderBy : List SortKey) :
    ∃ row ∈ mutation.change.applyRows
        ⟨mutation.primaryKeys, filter.accepts, orderBy, mutation.transform⟩
        (filter.denormalize mutation.input) rows,
      sharesKeys mutation.primaryKeys row mutation.input = true := by
  have hshape := h.sharesKeys_denormalize
  obtain ⟨old, hold, hshared⟩ := h.cached
  rcases hfound : rows.find? fun row =>
      sharesKeys mutation.primaryKeys row (filter.denormalize mutation.input) with _ | current
  · have hnone := List.find?_eq_none.1 hfound old hold
    rw [sharesKeys_comm, hshape, sharesKeys_comm] at hnone
    exact absurd hshared hnone
  · have hcurrent : sharesKeys mutation.primaryKeys current mutation.input = true := by
      have hkeys := List.find?_some hfound
      rwa [sharesKeys_comm, hshape, sharesKeys_comm] at hkeys
    have hpaths := h.complete current (List.mem_of_find?_eq_some hfound) hcurrent
    -- A row with a key is an object, and the new version is laid over it.
    obtain ⟨fields, rfl⟩ : ∃ fields, current = .obj fields := by
      obtain ⟨name, hname⟩ := List.exists_mem_of_ne_nil _ h.keyed
      obtain ⟨value, -, hvalue, -⟩ := sharesKeys_iff.1 hcurrent name hname
      cases current with
      | obj fields => exact ⟨fields, rfl⟩
      | _ => simp [Json.get?] at hvalue
    have hinput : filter.denormalize mutation.input =
        .obj (Slot.reshapeFields (Slot.ofPaths filter.paths) source) := by
      rw [h.input_eq, QueryFilter.denormalize_obj]
    have haccepts : filter.accepts (PatchContext.mergeRow none (.obj fields)
        (filter.denormalize mutation.input)) = true := by
      rw [hinput, PatchContext.mergeRow, QueryFilter.accepts, h.hasPaths_overlay hwildcard hpaths,
        h.passes_overlay hqualifies hshows]
      rfl
    have hmerged : sharesKeys mutation.primaryKeys (PatchContext.mergeRow none (.obj fields)
        (filter.denormalize mutation.input)) mutation.input = true := by
      have hkeys : ∀ name ∈ mutation.primaryKeys,
          ((filter.denormalize mutation.input).get? name).isSome = true := by
        intro name hname
        obtain ⟨-, value, -, hvalue, -⟩ := sharesKeys_iff.1 hcurrent name hname
        rw [QueryFilter.get?_denormalize_of_keeps
          (QueryFilter.isAligned_of_ofQueryKey h.filter_eq) (h.keys_kept name hname) hvalue]
        rfl
      rw [sharesKeys_comm, ← h.sharesKeys_denormalize, sharesKeys_comm]
      exact RowChange.sharesKeys_mergeRow_none hkeys fun fields hfields =>
        ascending_of_denormalize hfields
    refine ⟨_, ?_, h.transform_keeps _ hmerged⟩
    rw [h.upserts]
    exact PatchContext.mem_upsertRows hfound haccepts

end ItemMutation.ReplacesRow

/-- A query whose entry is patched has no wildcard. -/
theorem ItemMutation.Patches.hasWildcard_eq {mutation : ItemMutation} {key : CacheKey}
    {filter : QueryFilter} {orderBy : List SortKey} (h : mutation.Patches key filter orderBy) :
    filter.hasWildcard = false := by
  have hjudged := h.not_refetched
  rw [ItemMutation.mustRefetch, Bool.or_eq_false_iff, Bool.or_eq_false_iff] at hjudged
  exact hjudged.1.2

/-- A row of a cached list whose new version passes every filter of the
query stays in the list, if each condition that the new version satisfies
reads a column that the query selects.  A query whose rows are not judged
one by one keeps it in any case. -/
theorem mutateItem_holds_row {config : CacheConfig} {mutation : ItemMutation} {store : Store}
    {text : Text} {key : CacheKey} {filter : QueryFilter} {rows : List Json}
    {source : Fields Json} (h : mutation.ReplacesRow config store text key filter rows source)
    (hqualifies : filter.qualifies mutation.input = true)
    (hshows : ItemMutation.mustRefetch key filter = false → filter.Shows mutation.input)
    (faults : Faults) :
    ∃ rows', (mutateItem config faults mutation store).1.listAt? text = some rows' ∧
      ∃ row ∈ rows', sharesKeys mutation.primaryKeys row mutation.input = true := by
  obtain ⟨data, hdata, hflatten⟩ := Option.bind_eq_some_iff.1 h.list_eq
  rcases mutateItem_cases h.key_eq hdata faults mutation with
    hsame | ⟨filter', orderBy, hpatch, heq⟩
  · refine ⟨rows, ?_, h.cached⟩
    rw [Store.listAt?, hsame]
    exact hflatten
  · obtain rfl : filter = filter' := Except.ok.inj (h.filter_eq.symm.trans hpatch.filter_eq)
    refine ⟨_, ?_, h.exists_mem_applyRows hpatch.hasWildcard_eq hqualifies
      (hshows hpatch.not_refetched) orderBy⟩
    rw [Store.listAt?, heq]
    exact flatten_patchEntry_eq hflatten

/-! ## 4. Open contacts -/

/-- The condition that a contact is open. -/
def isOpen : Condition where
  path := "status".toList
  operator := .eq
  operand := .str "open".toList

/-- The query for columns of the open contacts. -/
def openKey (clause : Text) : CacheKey where
  schema := "public".toList
  table := "contact".toList
  queryKey := "select=".toList ++ clause ++ "&status=eq.open".toList
  select := clause
  limit := none
  offset := none

/-- Its written key. -/
def openText (clause : Text) : Text :=
  "postgrest$public$contact$select=".toList ++ clause ++
    "&status=eq.open$null$count=null$head=false$null".toList

def openFilter (names : List Text) : QueryFilter :=
  ⟨names.map Path.ofText, [.condition isOpen]⟩

theorem ofQueryKey_open {names : List Text} {offset : Nat} (hne : names ≠ [])
    (hnames : ∀ name ∈ names, Head.isIdentifier name = true)
    (hparams : QueryParam.ofText (openKey (Text.join ',' names)).queryKey =
      .ok [⟨"select".toList, Text.join ',' names, 0⟩,
        ⟨"status".toList, "eq.open".toList, offset⟩])
    (hresolve : isOpen.resolve (names.map Path.ofText) = isOpen) :
    QueryFilter.ofQueryKey (openKey (Text.join ',' names)).queryKey =
      .ok (openFilter names) := by
  have hfilter : ParsedQuery.parseFilter ⟨"status".toList, "eq.open".toList, offset⟩ =
      .ok (.condition isOpen) :=
    @parseFilter_eq _ "open".toList _ offset (by decide) (by decide)
  have hparam : QueryParam.IsFilter ⟨"status".toList, "eq.open".toList, offset⟩ :=
    (by decide : "status".toList ∉ ["select".toList, "order".toList, "limit".toList,
      "offset".toList] ∧ ParsedQuery.isIgnored "status".toList = false)
  rw [QueryFilter.ofQueryKey, parseQueryKey_of_filter hparams (parseSelect_columns hne hnames)
    hparam hfilter, FilterTree.mapConditions_condition, hresolve]
  rfl

/-- An open contact. -/
def openFields (id : Int) (name : Text) : Fields Json :=
  [("id".toList, .num (.int id)), ("name".toList, .str name),
    ("status".toList, .str "open".toList)]

/-- The contact 1 is renamed and open. -/
def reopenContact : ItemMutation :=
  { enterContact with input := .obj (openFields 1 ['b']) }

/-- One row of a query for open contacts. -/
def openStore (clause : Text) (row : Json) : Store :=
  (default : Store).insert (openText clause) (.response (.arr [row]) (some 1))

theorem reopenContact_qualifies (names : List Text) :
    (openFilter names).qualifies reopenContact.input = true := by
  have haccepts : (FilterTree.condition isOpen.onTable).accepts reopenContact.input = true := by
    decide
  rw [QueryFilter.qualifies, openFilter, List.all_cons, FilterTree.mapConditions_condition,
    haccepts]
  rfl

/-- The change replaces the only row of the query for columns of the open
contacts, the id among them. -/
theorem reopenContact_replacesRow {names : List Text} {fields : Fields Json}
    (hkey : CacheKey.decode {} (openText (Text.join ',' names)) =
      some (openKey (Text.join ',' names)))
    (hfilter : QueryFilter.ofQueryKey (openKey (Text.join ',' names)).queryKey =
      .ok (openFilter names))
    (hnames : ∀ name ∈ names, Head.isIdentifier name = true) (hid : "id".toList ∈ names)
    (hshared : sharesKeys ["id".toList] (.obj fields) reopenContact.input = true)
    (hpaths : (openFilter names).hasPaths (.obj fields) = true) :
    reopenContact.ReplacesRow {} (openStore (Text.join ',' names) (.obj fields))
      (openText (Text.join ',' names)) (openKey (Text.join ',' names)) (openFilter names)
      [.obj fields] (openFields 1 ['b']) := by
  have hcolumns : ∀ path ∈ (openFilter names).paths, '.' ∉ path.path := by
    intro path hpath
    obtain ⟨name, hname, rfl⟩ := List.mem_map.1 hpath
    exact Head.not_mem_of_isIdentifier (hnames name hname) (by decide)
  constructor
  case key_eq => exact hkey
  case targets => rfl
  case filter_eq => exact hfilter
  case list_eq =>
    rw [Store.listAt?, openStore, Store.get?_insert_self]
    rfl
  case upserts => rfl
  case input_eq => rfl
  case flat => decide
  case keyed => decide
  case keys_kept =>
    intro name hname
    obtain rfl := List.mem_singleton.1 hname
    exact Or.inl (QueryFilter.selects_of_columns names rfl hnames hid)
  case cached => exact ⟨_, List.mem_singleton_self _, hshared⟩
  case complete =>
    intro row hrow _
    rw [List.mem_singleton.1 hrow]
    exact hpaths
  case transform_keeps => exact fun _ hrow => hrow
  case relations_apart => exact fun path hpath hdot => absurd hdot (hcolumns path hpath)
  case relations_absent => exact fun path hpath hdot => absurd hdot (hcolumns path hpath)

/-- Where the status is selected the contact stays. -/
theorem mutateItem_holds_open :
    reopenContact.ReplacesRow {}
        (openStore "id,status" (.obj [("id".toList, .num (.int 1)),
          ("status".toList, .str "open".toList)]))
        (openText "id,status") (openKey "id,status") (openFilter ["id".toList, "status".toList])
        [.obj [("id".toList, .num (.int 1)), ("status".toList, .str "open".toList)]]
        (openFields 1 ['b']) ∧
      ∃ rows', (mutateItem {} {} reopenContact
          (openStore "id,status" (.obj [("id".toList, .num (.int 1)),
            ("status".toList, .str "open".toList)]))).1.listAt? (openText "id,status") =
            some rows' ∧
        ∃ row ∈ rows', sharesKeys ["id".toList] row reopenContact.input = true := by
  have hnames : ∀ name ∈ ["id".toList, "status".toList], Head.isIdentifier name = true := by decide
  have hreplaces := @reopenContact_replacesRow ["id".toList, "status".toList]
    [("id".toList, .num (.int 1)), ("status".toList, .str "open".toList)] (by decide)
    (@ofQueryKey_open _ 17 (by simp) hnames rfl (by decide)) hnames (by decide)
    (by decide) (by decide)
  refine ⟨hreplaces, mutateItem_holds_row hreplaces (reopenContact_qualifies _) ?_ {}⟩
  intro _ c hc _
  obtain rfl : c = isOpen := by simpa [openFilter] using hc
  exact QueryFilter.selects_of_columns ["id".toList, "status".toList] rfl hnames (by decide)

/-- Where only the name is selected beside the id, it is dropped, and the
query is not revalidated. -/
theorem open_contact_lost :
    reopenContact.ReplacesRow {} (openStore "id,name" (contact 1 ['a'])) (openText "id,name")
        (openKey "id,name") (openFilter ["id".toList, "name".toList]) [contact 1 ['a']]
        (openFields 1 ['b']) ∧
      (openFilter ["id".toList, "name".toList]).qualifies reopenContact.input = true ∧
      (mutateItem {} {} reopenContact (openStore "id,name" (contact 1 ['a']))).1.listAt?
        (openText "id,name") = some [] ∧
      (openText "id,name", .revalidate) ∉
        reopenContact.plan {} (openStore "id,name" (contact 1 ['a'])).keys := by
  have hnames : ∀ name ∈ ["id".toList, "name".toList], Head.isIdentifier name = true := by decide
  have hreplaces : reopenContact.ReplacesRow {} (openStore "id,name" (contact 1 ['a']))
      (openText "id,name") (openKey "id,name") (openFilter ["id".toList, "name".toList])
      [contact 1 ['a']] (openFields 1 ['b']) :=
    @reopenContact_replacesRow ["id".toList, "name".toList]
      [("id".toList, .num (.int 1)), ("name".toList, .str ['a'])] (by decide)
      (@ofQueryKey_open _ 15 (by simp) hnames rfl (by decide)) hnames (by decide)
      (by decide) (by decide)
  have hshape : (openFilter ["id".toList, "name".toList]).denormalize reopenContact.input =
      contact 1 ['b'] := by
    rw [reopenContact, QueryFilter.denormalize_obj, Slot.reshapeFields_eq]
    rfl
  have hpatches : reopenContact.Patches (openKey "id,name")
      (openFilter ["id".toList, "name".toList]) [] := by
    refine ⟨rfl, hreplaces.filter_eq, ?_, ?_, by decide, rfl⟩
    · rw [hshape]
      decide
    · rw [hshape]
      decide
  refine ⟨hreplaces, reopenContact_qualifies _, ?_, ?_⟩
  · have hfaults : ({} : Faults).write (openText "id,name") = none := rfl
    rw [listAt?_mutateItem_of_patches hreplaces.key_eq hreplaces.list_eq hfaults rfl hpatches,
      hshape]
    decide
  · rw [ItemMutation.mem_plan_iff, ItemMutation.revalidate_mem_planKey_iff hreplaces.key_eq,
      ItemMutation.ownTask_of_patches hpatches]
    rintro ⟨-, htask | hrule⟩
    · simp at htask
    · exact absurd hrule (by decide)

end QueryCache
