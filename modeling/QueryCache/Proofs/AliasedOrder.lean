/-
QueryCache.Proofs.AliasedOrder — queries ordered by a column that they
answer under an alias.

A backend orders by the name of a column, and so does the sort key of a
cache key; but the rows of a list hold the column under its alias.  The sort
key then reads null in every row, also in the one that an upsert makes of a
full row (`value_of_entered`), so all rows compare equal and the row goes
behind all others.  The list is still sorted under the alias exactly when
none of them comes after the row (`mutateItem_inOrder_alias_iff`).  Filters,
which are resolved through the aliases of the selection, do not have this
gap, and neither has a query that selects the column under both names.
-/
import QueryCache.Proofs.PatchedLists
import QueryCache.Proofs.QualifyingRows
import QueryCache.Proofs.TotalOrder

namespace QueryCache

/-! ## 1. Sort keys of one column -/

namespace SortKey

/-- The same order, read under an alias. -/
def under (key : SortKey) (aliasName : Text) : SortKey :=
  { key with column := aliasName, foreignTable := none }

/-- An object is sorted by what it holds under the column, by null if it holds
nothing there. -/
theorem value_obj {key : SortKey} (htable : key.foreignTable = none) (hdot : '.' ∉ key.column)
    (fields : Fields Json) :
    key.value (.obj fields) = (Fields.get? key.column fields).getD .null := by
  rw [value, path, htable, RowPath.values, Text.splitOn_of_not_mem hdot]
  rcases hvalue : Fields.get? key.column fields with _ | found <;>
    simp [RowPath.valuesAt, Json.rows, hvalue]

theorem compareRows_singleton (key : SortKey) (a b : Json) :
    QueryCache.compareRows [key] a b =
      Comparison.sortOrder key.ascending key.nullsFirst (key.value a) (key.value b) := by
  rw [compareRows_cons, compareRows_nil, compareRows]
  cases Comparison.sortOrder key.ascending key.nullsFirst (key.value a) (key.value b) <;> rfl

/-- Rows that are both sorted by null compare equal. -/
theorem compareRows_of_null {key : SortKey} {a b : Json} (ha : key.value a = .null)
    (hb : key.value b = .null) : QueryCache.compareRows [key] a b = .eq := by
  rw [compareRows_singleton, ha, hb]
  rfl

end SortKey

/-! ## 2. A row put among others -/

section

variable {ctx : PatchContext} {order : SortKey} {aliasName : Text} {row : Json}
  {others : List Json}

/-- A list whose rows hold the column under both names is in order under the
one when it is under the other. -/
theorem inOrder_under_iff
    (h : ∀ other ∈ others, order.value other = (order.under aliasName).value other) :
    InOrder [order.under aliasName] others ↔ InOrder [order] others := by
  have hcompare : ∀ {a b}, a ∈ others → b ∈ others →
      (compareRows [order.under aliasName] a b ≠ .gt ↔ compareRows [order] a b ≠ .gt) := by
    intro a b ha hb
    rw [SortKey.compareRows_singleton, SortKey.compareRows_singleton, h a ha, h b hb]
    rfl
  exact List.Pairwise.iff_of_mem hcompare

/-- In such a list a row that holds the column under both names, too, has its
place by either. -/
theorem inOrder_insertIdx_under (horder : ctx.orderBy = [order])
    (hothers : InOrder [order.under aliasName] others)
    (hsame : ∀ other, other = row ∨ other ∈ others →
      order.value other = (order.under aliasName).value other)
    {kinds : SortKind → Prop} (hunmixed : SortKind.Unmixed kinds)
    (hkinds : ∀ other, other = row ∨ other ∈ others →
      kinds ((order.under aliasName).value other).sortKind) :
    InOrder [order.under aliasName] (others.insertIdx (ctx.place row others) row) := by
  have htotal : TotalPreorderOn (compareRows ctx.orderBy) fun other =>
      other = row ∨ other ∈ others := by
    rw [horder]
    refine (totalPreorderOn_hasSortKinds fun _ _ => hunmixed).mono fun other hother key hkey => ?_
    rw [List.mem_singleton.1 hkey, hsame other hother]
    exact hkinds other hother
  have hplaced : InOrder ctx.orderBy (others.insertIdx (ctx.place row others) row) := by
    refine inOrder_insertIdx_place ?_ htotal
    rw [horder]
    exact (inOrder_under_iff fun other hother => hsame other (Or.inr hother)).1 hothers
  rw [horder] at hplaced
  refine (inOrder_under_iff fun other hother => hsame other ?_).2 hplaced
  exact (List.mem_insertIdx (ctx.place_le row others)).1 hother

/-- Among rows that are sorted by null, the place of another one is the
end. -/
theorem PatchContext.place_of_nulls (horder : ctx.orderBy = [order])
    (hrow : order.value row = .null) (hothers : ∀ other ∈ others, order.value other = .null) :
    ctx.place row others = others.length := by
  have hall : ∀ other ∈ others, (compareRows [order] other row != .gt) = true := by
    intro other hother
    rw [SortKey.compareRows_of_null (hothers other hother) hrow]
    rfl
  have hplace := @partitionPoint_append _ (fun other => compareRows [order] other row != .gt)
    others [] hall (by simp)
  rw [List.append_nil] at hplace
  rw [place, horder]
  exact hplace

/-- So it is in order there, under whatever keys, if none of the others comes
after it. -/
theorem inOrder_insertIdx_iff_of_nulls {keys : List SortKey} (horder : ctx.orderBy = [order])
    (hothers : InOrder keys others) (hrow : order.value row = .null)
    (hnulls : ∀ other ∈ others, order.value other = .null) :
    InOrder keys (others.insertIdx (ctx.place row others) row) ↔
      ∀ other ∈ others, compareRows keys other row ≠ .gt := by
  have hconcat := insertIdx_append others [] row
  rw [List.append_nil] at hconcat
  rw [PatchContext.place_of_nulls horder hrow hnulls, hconcat, InOrder, List.pairwise_append]
  constructor
  · exact fun hrows other hother => hrows.2.2 other hother row (List.mem_singleton_self row)
  · refine fun hlast => ⟨hothers, List.pairwise_singleton _ _, fun other hother last hmem => ?_⟩
    rw [List.mem_singleton.1 hmem]
    exact hlast other hother

end

/-- An upsert takes out the first row with the keys of the input and puts
the row that it enters at its place among the others. -/
theorem RowChange.applyRows_upsert {ctx : PatchContext} (htransform : ctx.transform = id)
    (merge : Option (Json → Json → Json)) (input : Json) (rows : List Json) :
    (upsert merge).applyRows ctx input rows =
      let others := rows.eraseP fun row => sharesKeys ctx.primaryKeys row input
      match (upsert merge).entered? ctx input rows with
      | some row => others.insertIdx (ctx.place row others) row
      | none => others := by
  obtain ⟨row, hmade, hrows⟩ : ∃ row, (upsert merge).made? ctx.primaryKeys input rows = some row ∧
      (upsert merge).applyRows ctx input rows =
        ctx.reinsert row (rows.eraseP fun row => sharesKeys ctx.primaryKeys row input) :=
    ⟨_, rfl, rfl⟩
  rw [hrows, PatchContext.reinsert, entered?, hmade, Option.filter_some, htransform]
  split <;> rfl

/-! ## 3. The row that an upsert enters -/

namespace QueryFilter

/-- The query is sorted by a column that it answers under an alias, and
nothing else than the column, if anything, under the column's own name.  So
do its rows. -/
structure SortsByAlias (filter : QueryFilter) (order : SortKey) (aliasName : Text)
    (rows : List Json) : Prop where
  table_eq : order.foreignTable = none
  selects : filter.Selects order.column aliasName
  alone : ∀ path ∈ filter.paths, Text.upTo '.' path.outputPath = order.column →
    path.path = order.column
  shown : filter.Selects order.column order.column →
    ∀ row ∈ rows, order.value row = (order.under aliasName).value row
  hidden : ¬ filter.Selects order.column order.column → ∀ row ∈ rows, order.value row = .null

/-- In every field that an upsert enters stands what the input has there in
the shape of the query, or what a row of the list has there. -/
theorem exists_fields_of_entered {filter : QueryFilter} {primaryKeys : List Text}
    {orderBy : List SortKey} {source : Fields Json} {rows : List Json} {row : Json}
    (h : (RowChange.upsert none).entered? (filter.context primaryKeys orderBy)
      (filter.denormalize (.obj source)) rows = some row) :
    ∃ fields, row = .obj fields ∧ ∀ name,
      Fields.get? name fields =
          Fields.get? name (Slot.reshapeFields (Slot.ofPaths filter.paths) source) ∨
        Fields.get? name (Slot.reshapeFields (Slot.ofPaths filter.paths) source) = none ∧
          ∃ lower, .obj lower ∈ rows ∧ Fields.get? name fields = Fields.get? name lower := by
  have hmade := Option.some.inj (RowChange.made_of_entered h).1
  rw [denormalize_obj] at hmade
  rw [← hmade]
  split
  · rename_i current hcurrent
    cases current with
    | obj lower =>
      refine ⟨_, rfl, fun name => ?_⟩
      rw [Fields.get?_overlay (Slot.ascending_reshapeFields _ source)]
      rcases Fields.get? name (Slot.reshapeFields (Slot.ofPaths filter.paths) source) with _ | value
      · exact Or.inr ⟨rfl, lower, List.mem_of_find?_eq_some hcurrent, rfl⟩
      · exact Or.inl rfl
    | _ => exact ⟨_, rfl, fun name => Or.inl rfl⟩
  · exact ⟨_, rfl, fun name => Or.inl rfl⟩

namespace SortsByAlias

variable {filter : QueryFilter} {order : SortKey} {aliasName : Text} {rows : List Json}
  (h : filter.SortsByAlias order aliasName rows)
  (haligned : ∀ path ∈ filter.paths, path.IsAligned)
include h haligned

theorem not_mem_alias : '.' ∉ aliasName := by
  obtain ⟨path, hpath, hcolumn, rfl⟩ := h.selects.selected
  rw [Path.dot_mem_outputPath_iff (haligned path hpath), hcolumn]
  exact Head.not_mem_of_isIdentifier h.selects.isIdentifier (by decide)

/-- A query that does not select the column under its own name has nothing
there in its rows. -/
theorem get?_eq_none (hwildcard : filter.hasWildcard = false)
    (hcolumn : ¬ filter.Selects order.column order.column) (source : Fields Json) :
    Fields.get? order.column (Slot.reshapeFields (Slot.ofPaths filter.paths) source) = none := by
  rw [Slot.get?_of_not_key, Slot.takenOver?_eq_none]
  · exact fun slot => segment_ne_star_of_slot haligned hwildcard
  · intro slot hslot hkey
    obtain ⟨⟨path, hpath, -, hpathKey⟩, -⟩ := exists_path_of_slot haligned hslot
    have hname := h.alone path hpath (hpathKey.trans hkey)
    -- The path would answer the column under its own name.
    have hdot : '.' ∉ path.outputPath := by
      rw [Path.dot_mem_outputPath_iff (haligned path hpath), hname]
      exact Head.not_mem_of_isIdentifier h.selects.isIdentifier (by decide)
    rw [Text.upTo_of_not_mem hdot] at hpathKey
    exact hcolumn ⟨h.selects.isIdentifier, ⟨path, hpath, hname, hpathKey.trans hkey⟩, h.alone⟩

section

variable {primaryKeys : List Text} {orderBy : List SortKey} {source : Fields Json}
  {row value : Json} (hvalue : Fields.get? order.column source = some value)
  (hentered : (RowChange.upsert none).entered? (filter.context primaryKeys orderBy)
    (filter.denormalize (.obj source)) rows = some row)
include hvalue hentered

/-- The row that an upsert enters has the column of the input under the
alias. -/
theorem value_under_of_entered : (order.under aliasName).value row = value := by
  obtain ⟨fields, rfl, hfields⟩ := exists_fields_of_entered hentered
  have hshape := get?_reshapeFields_of_selects haligned h.selects hvalue
  have hget := hfields aliasName
  simp only [hshape, reduceCtorEq, false_and, or_false] at hget
  rw [SortKey.value_obj rfl (h.not_mem_alias haligned)]
  exact congrArg (·.getD .null) hget

/-- Under its own name it has the column only if the query selects it
there. -/
theorem value_of_entered (hwildcard : filter.hasWildcard = false) :
    (filter.Selects order.column order.column → order.value row = value) ∧
      (¬ filter.Selects order.column order.column → order.value row = .null) := by
  have hdot : '.' ∉ order.column :=
    Head.not_mem_of_isIdentifier h.selects.isIdentifier (by decide)
  obtain ⟨fields, rfl, hfields⟩ := exists_fields_of_entered hentered
  have hget := hfields order.column
  rw [SortKey.value_obj h.table_eq hdot]
  constructor
  · intro hcolumn
    have hshape := get?_reshapeFields_of_selects haligned hcolumn hvalue
    simp only [hshape, reduceCtorEq, false_and, or_false] at hget
    exact congrArg (·.getD .null) hget
  · intro hcolumn
    rw [h.get?_eq_none haligned hwildcard hcolumn] at hget
    rcases hget with hget | ⟨-, lower, hlower, hget⟩
    · rw [hget]
      rfl
    · rw [hget, ← SortKey.value_obj h.table_eq hdot]
      exact h.hidden hcolumn _ hlower

end

end SortsByAlias

end QueryFilter

/-! ## 4. The list after an upsert -/

/-- The rows of the list are patched, the store takes the patch, and the
change enters the row. -/
def ItemMutation.Enters (mutation : ItemMutation) (faults : Faults) (text : Text) (key : CacheKey)
    (filter : QueryFilter) (orderBy : List SortKey) (rows : List Json) (row : Json) : Prop :=
  mutation.Patches key filter orderBy ∧ faults.write text = none ∧
    mutation.change.entered? (filter.context mutation.primaryKeys orderBy)
      (filter.denormalize mutation.input) rows = some row

section

variable {filter : QueryFilter} {order : SortKey} {aliasName : Text} {rows : List Json}
  {primaryKeys : List Text} {source : Fields Json} {value : Json}

/-- The rows after an upsert of a full row are in order under the alias if
the query selects the column under its own name, too, and otherwise if no
row comes after the one that is entered. -/
theorem inOrder_applyRows_alias_iff (h : filter.SortsByAlias order aliasName rows)
    (haligned : ∀ path ∈ filter.paths, path.IsAligned) (hwildcard : filter.hasWildcard = false)
    (hsorted : InOrder [order.under aliasName] rows)
    (hvalue : Fields.get? order.column source = some value) {kinds : SortKind → Prop}
    (hunmixed : SortKind.Unmixed kinds) (hkind : kinds value.sortKind)
    (hkinds : ∀ row ∈ rows, kinds ((order.under aliasName).value row).sortKind) :
    InOrder [order.under aliasName] ((RowChange.upsert none).applyRows
        (filter.context primaryKeys [order]) (filter.denormalize (.obj source)) rows) ↔
      (¬ filter.Selects order.column order.column → ∀ row,
        (RowChange.upsert none).entered? (filter.context primaryKeys [order])
          (filter.denormalize (.obj source)) rows = some row →
        ∀ other ∈ rows.eraseP fun row =>
            sharesKeys primaryKeys row (filter.denormalize (.obj source)),
          Comparison.sortOrder order.ascending order.nullsFirst
            ((order.under aliasName).value other) value ≠ .gt) := by
  have hmem : ∀ {other}, other ∈ rows.eraseP (fun row =>
      sharesKeys primaryKeys row (filter.denormalize (.obj source))) → other ∈ rows :=
    List.mem_of_mem_eraseP
  have hothers : InOrder [order.under aliasName] (rows.eraseP fun row =>
      sharesKeys primaryKeys row (filter.denormalize (.obj source))) :=
    hsorted.sublist List.eraseP_sublist
  rw [RowChange.applyRows_upsert rfl]
  rcases hentered : (RowChange.upsert none).entered? (filter.context primaryKeys [order])
      (filter.denormalize (.obj source)) rows with _ | row
  · exact ⟨fun _ _ row hrow => absurd hrow (by simp), fun _ => hothers⟩
  · have hunder := h.value_under_of_entered haligned hvalue hentered
    obtain ⟨hshown, hhidden⟩ := h.value_of_entered haligned hvalue hentered hwildcard
    by_cases hcolumn : filter.Selects order.column order.column
    · refine ⟨fun _ hnot => absurd hcolumn hnot, fun _ => ?_⟩
      refine inOrder_insertIdx_under rfl hothers ?_ hunmixed ?_
      · rintro other (rfl | hother)
        · rw [hshown hcolumn, hunder]
        · exact h.shown hcolumn other (hmem hother)
      · rintro other (rfl | hother)
        · rwa [hunder]
        · exact hkinds other (hmem hother)
    · have hplaced := @inOrder_insertIdx_iff_of_nulls (filter.context primaryKeys [order]) order row
        _ _ rfl hothers (hhidden hcolumn) fun other hother => h.hidden hcolumn other (hmem hother)
      simp only [hcolumn, not_false_eq_true, true_implies, Option.some.injEq, forall_eq']
      refine hplaced.trans (forall₂_congr fun other _ => ?_)
      rw [SortKey.compareRows_singleton, hunder]
      rfl

/-- An upsert of a full row into a list that is sorted by a column under its
alias leaves it sorted, if the query selects the column under its own name,
too, and otherwise if no other row comes after the row that is entered. -/
theorem mutateItem_inOrder_alias_iff {config : CacheConfig} {text : Text} {key : CacheKey}
    {store : Store} {mutation : ItemMutation} (hkey : CacheKey.decode config text = some key)
    (hfilter : QueryFilter.ofQueryKey key.queryKey = .ok filter)
    (hsort : ItemMutation.orderOf? key = some [order]) (hrows : store.listAt? text = some rows)
    (h : filter.SortsByAlias order aliasName rows) (hsorted : InOrder [order.under aliasName] rows)
    (hchange : mutation.change = .upsert none) (htransform : mutation.transform = id)
    (hinput : mutation.input = .obj source)
    (hvalue : Fields.get? order.column source = some value) {kinds : SortKind → Prop}
    (hunmixed : SortKind.Unmixed kinds) (hkind : kinds value.sortKind)
    (hkinds : ∀ row ∈ rows, kinds ((order.under aliasName).value row).sortKind) (faults : Faults) :
    ∃ next, (mutateItem config faults mutation store).1.listAt? text = some next ∧
      (InOrder [order.under aliasName] next ↔
        (¬ filter.Selects order.column order.column →
          ∀ row, mutation.Enters faults text key filter [order] rows row →
            ∀ other ∈ rows.eraseP fun row =>
                sharesKeys mutation.primaryKeys row (filter.denormalize mutation.input),
              Comparison.sortOrder order.ascending order.nullsFirst
                ((order.under aliasName).value other) value ≠ .gt)) := by
  by_cases hpatches : mutation.Patches key filter [order] ∧ faults.write text = none
  · obtain ⟨hpatch, hfaults⟩ := hpatches
    refine ⟨_, listAt?_mutateItem_of_patches hkey hrows hfaults htransform hpatch, ?_⟩
    rw [hchange, hinput, inOrder_applyRows_alias_iff h
      (QueryFilter.isAligned_of_ofQueryKey hfilter) hpatch.hasWildcard_eq hsorted hvalue hunmixed
      hkind hkinds]
    simp only [ItemMutation.Enters, hchange, hinput, hpatch, hfaults, true_and]
  · -- Without a patch the list stays, and the change enters no row.
    refine ⟨rows, ?_, iff_of_true hsorted fun _ row hrow => ?_⟩
    · obtain ⟨data, hdata, hflatten⟩ := Option.bind_eq_some_iff.1 hrows
      rw [Store.listAt?]
      rcases mutateItem_cases hkey hdata faults mutation with hsame | ⟨filter', orderBy, hpatch, -⟩
      · rw [hsame]
        exact hflatten
      · obtain rfl : filter = filter' := Except.ok.inj (hfilter.symm.trans hpatch.filter_eq)
        obtain rfl : [order] = orderBy := Option.some.inj (hsort.symm.trans hpatch.order_eq)
        have hrefused : (faults.write text).isSome = true :=
          Option.isSome_iff_ne_none.2 fun hnone => hpatches ⟨hpatch, hnone⟩
        rw [get?_mutateItem_of_refused hkey hdata hrefused]
        exact hflatten
    · exact absurd ⟨hrow.1, hrow.2.1⟩ hpatches

end

/-! ## 5. Contacts by rank -/

/-- The order by rank. -/
def byRank : SortKey :=
  .asc "rank".toList

/-- The query for the contacts by rank, which answers the rank as a position. -/
def rankedKey : CacheKey where
  schema := "public".toList
  table := "contact".toList
  queryKey := "select=id,position:rank".toList
  select := "id,position:rank".toList
  limit := none
  offset := none
  orderByKey := some "rank:asc.nullsLast".toList

/-- The written key of that query. -/
def rankedText : Text :=
  ("postgrest$public$contact$select=id,position:rank$null$count=null$head=false$" ++
    "rank:asc.nullsLast").toList

/-- Its selection. -/
def rankedFilter : QueryFilter :=
  ⟨[.ofText "id".toList, ⟨"position:rank".toList, "rank".toList, some "position".toList⟩], []⟩

theorem decode_rankedText : CacheKey.decode {} rankedText = some rankedKey := by
  decide

theorem orderOf?_rankedKey : ItemMutation.orderOf? rankedKey = some [byRank] := by
  decide

theorem ofQueryKey_rankedKey : QueryFilter.ofQueryKey rankedKey.queryKey = .ok rankedFilter := by
  have hparams : QueryParam.ofText rankedKey.queryKey =
      .ok [⟨"select".toList, rankedKey.select, 0⟩] := rfl
  have hnames : ∀ name ∈ ["id".toList, "position:rank".toList], Head.ReadsBack name := by
    have hnamed : ∀ name ∈ ["id".toList, "position:rank".toList],
        (Head.ofWritten name).IsNamed ∧ (Head.ofWritten name).spelled = name := by decide
    intro name hname
    have hback := Head.readsBack_named (hnamed name hname).1
    rwa [(hnamed name hname).2] at hback
  have hpaths := parseSelect_heads (by simp) hnames
  rw [QueryFilter.ofQueryKey, parseQueryKey_select hparams hpaths]
  rfl

/-- A contact in the shape of that query. -/
def rankedContact (id position : Int) : Json :=
  .obj [("id".toList, .num (.int id)), ("position".toList, .num (.int position))]

/-- A store that holds such contacts. -/
def rankedStore (rows : List Json) : Store :=
  (default : Store).insert rankedText (.response (.arr rows) (some rows.length))

theorem listAt?_rankedStore (rows : List Json) :
    (rankedStore rows).listAt? rankedText = some rows := by
  rw [Store.listAt?, rankedStore, Store.get?_insert_self]
  rfl

theorem sortsByAlias_ranked {rows : List Json} (h : ∀ row ∈ rows, byRank.value row = .null) :
    rankedFilter.SortsByAlias byRank "position".toList rows := by
  have hcolumn : ¬ rankedFilter.Selects byRank.column byRank.column := by
    rintro ⟨-, ⟨path, hpath, hname, hkey⟩, -⟩
    revert path
    decide
  constructor
  case table_eq => rfl
  case selects => exact ⟨by decide, by decide, by decide⟩
  case alone => decide
  case shown => exact fun h => absurd h hcolumn
  case hidden => exact fun _ => h

/-- The contact 3 is entered with its rank. -/
def enterRanked (rank : Int) : ItemMutation :=
  { enterContact with
    input := .obj [("id".toList, .num (.int 3)), ("rank".toList, .num (.int rank))] }

theorem denormalize_enterRanked (rank : Int) :
    rankedFilter.denormalize (enterRanked rank).input = rankedContact 3 rank := by
  rw [enterRanked, QueryFilter.denormalize_obj, Slot.reshapeFields_eq]
  rfl

theorem enterRanked_patches (rank : Int) :
    (enterRanked rank).Patches rankedKey rankedFilter [byRank] := by
  refine ⟨rfl, ofQueryKey_rankedKey, ?_, ?_, by decide, orderOf?_rankedKey⟩
  · rw [denormalize_enterRanked]
    rfl
  · rw [denormalize_enterRanked]
    rfl

/-- A contact of the highest rank enters the list at its end, in order. -/
theorem mutateItem_inOrder_lastRank :
    ∃ next, (mutateItem {} {} (enterRanked 3)
        (rankedStore [rankedContact 1 1, rankedContact 2 2])).1.listAt? rankedText = some next ∧
      InOrder [byRank.under "position".toList] next := by
  have hhidden : ∀ row ∈ [rankedContact 1 1, rankedContact 2 2], byRank.value row = .null := by
    decide
  have hsorted : InOrder [byRank.under "position".toList]
      [rankedContact 1 1, rankedContact 2 2] := by
    unfold InOrder
    decide +kernel
  have hunmixed : SortKind.Unmixed (· = .number) := ⟨by simp, by simp⟩
  obtain ⟨next, hnext, hiff⟩ := mutateItem_inOrder_alias_iff decode_rankedText
    ofQueryKey_rankedKey orderOf?_rankedKey (listAt?_rankedStore _) (sortsByAlias_ranked hhidden)
    hsorted (show (enterRanked 3).change = .upsert none from rfl) rfl rfl rfl hunmixed rfl
    (by decide) {}
  refine ⟨next, hnext, hiff.2 fun _ row _ other hother => ?_⟩
  have hlast : ∀ other ∈ [rankedContact 1 1, rankedContact 2 2],
      Comparison.sortOrder true false ((byRank.under "position".toList).value other)
        (.num (.int 3)) ≠ .gt := by decide +kernel
  exact hlast other (List.mem_of_mem_eraseP hother)

/-- A contact of the rank 2 enters behind the one of the rank 3. -/
theorem ranked_contact_misplaced :
    CacheKey.decode {} rankedText = some rankedKey ∧
      QueryFilter.ofQueryKey rankedKey.queryKey = .ok rankedFilter ∧
      ItemMutation.orderOf? rankedKey = some [byRank] ∧
      rankedFilter.SortsByAlias byRank "position".toList
        [rankedContact 1 1, rankedContact 2 3] ∧
      InOrder [byRank.under "position".toList] [rankedContact 1 1, rankedContact 2 3] ∧
      ∃ next, (mutateItem {} {} (enterRanked 2)
          (rankedStore [rankedContact 1 1, rankedContact 2 3])).1.listAt? rankedText =
            some next ∧
        ¬ InOrder [byRank.under "position".toList] next := by
  have hhidden : ∀ row ∈ [rankedContact 1 1, rankedContact 2 3], byRank.value row = .null := by
    decide
  refine ⟨decode_rankedText, ofQueryKey_rankedKey, orderOf?_rankedKey,
    sortsByAlias_ranked hhidden, ?_, [rankedContact 1 1, rankedContact 2 3, rankedContact 3 2],
    ?_, ?_⟩
  · unfold InOrder
    decide +kernel
  · rw [listAt?_mutateItem_of_patches decode_rankedText (listAt?_rankedStore _) rfl rfl
      (enterRanked_patches 2), denormalize_enterRanked]
    decide +kernel
  · unfold InOrder
    decide +kernel

end QueryCache
