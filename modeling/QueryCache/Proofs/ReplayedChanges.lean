/-
QueryCache.Proofs.ReplayedChanges — a change that is applied again.

After an upsert a row holds every field of the input (`Fields.Holds`).
Laying the input over such a row changes nothing, and the row belongs to a
query if the input alone does (`QueryFilter.accepts_of_holds`): so the row
that was entered is entered again at its place, and one that was dropped
stays out.  Only the keys of the input lead back to the row.  An input that
lacks one finds no row, and is entered anew each time
(`apply_replayed_iff`).
-/
import QueryCache.Proofs.ChangedRows
import QueryCache.Proofs.Filter.Tree
import QueryCache.Proofs.Text

namespace QueryCache

/-! ## 1. Objects that hold the fields of others -/

namespace Fields

variable {fields source : Fields Json}

/-- Every field of `source` is one of `fields`. -/
def Holds (fields source : Fields Json) : Prop :=
  ∀ name value, get? name source = some value → get? name fields = some value

theorem Holds.refl (fields : Fields Json) : fields.Holds fields :=
  fun _ _ h => h

theorem holds_overlay (h : Ascending source) (fields : Fields Json) :
    (overlay fields source).Holds source := by
  intro name value hvalue
  rw [get?_overlay h, hvalue]
  rfl

/-- Fields that are there already change nothing. -/
theorem Holds.overlay_eq_self (h : fields.Holds source) (hfields : Ascending fields)
    (hsource : Ascending source) : overlay fields source = fields := by
  refine ext_of_ascending (ascending_overlay hfields) hfields fun name => ?_
  rw [get?_overlay hsource]
  rcases hvalue : get? name source with _ | value
  · rfl
  · exact (h name value hvalue).symm

/-- The names ascend and have no dots. -/
structure IsPlain (fields : Fields Json) : Prop where
  ascending : Ascending fields
  dotless : ∀ field ∈ fields, '.' ∉ field.1

theorem IsPlain.get?_eq_none (h : fields.IsPlain) {name : Text} (hdot : '.' ∈ name) :
    get? name fields = none := by
  rcases hvalue : get? name fields with _ | value
  · rfl
  · exact absurd hdot (h.dotless _ (mem_of_get? hvalue))

theorem IsPlain.overlay (hfields : fields.IsPlain) (hsource : source.IsPlain) :
    (overlay fields source).IsPlain where
  ascending := ascending_overlay hfields.ascending
  dotless field hmem hdot := by
    have hvalue := get?_of_mem (ascending_overlay hfields.ascending) hmem
    rw [get?_overlay hsource.ascending, hsource.get?_eq_none hdot,
      hfields.get?_eq_none hdot] at hvalue
    contradiction

end Fields

/-! ## 2. Queries on such objects -/

section

variable {fields source : Fields Json}

/-- A path leads on where it does in fewer fields. -/
theorem RowPath.has_of_holds (hholds : fields.Holds source) {path : Text}
    (h : RowPath.has (.obj source) path = true) : RowPath.has (.obj fields) path = true := by
  obtain ⟨below, hsplit⟩ := Text.splitOn_eq_cons '.' path
  simp only [RowPath.has, hsplit, RowPath.leadsOn, Json.rows, List.all_cons, List.all_nil,
    Bool.and_true, Bool.or_eq_true, Bool.and_eq_true] at h ⊢
  rcases h with ⟨hbelow, hwhole⟩ | hfirst
  · obtain ⟨value, hvalue⟩ := Option.isSome_iff_exists.1 hwhole
    exact Or.inl ⟨hbelow, Option.isSome_iff_exists.2 ⟨value, hholds _ _ hvalue⟩⟩
  · right
    rcases hvalue : Fields.get? (Text.upTo '.' path) source with _ | value
    · rw [hvalue] at hfirst
      contradiction
    · rw [hvalue] at hfirst
      rw [hholds _ _ hvalue]
      exact hfirst

/-- Where no name has a dot a path is read from its first segment on. -/
theorem RowPath.values_of_isPlain (h : fields.IsPlain) {path : Text} {below : List Text}
    (hsplit : Text.splitOn '.' path = Text.upTo '.' path :: below) :
    RowPath.values (.obj fields) path =
      ((Fields.get? (Text.upTo '.' path) fields).map (RowPath.valuesAt below)).getD [] := by
  have hwhole : (if below.isEmpty then none
      else Fields.get? (Text.join '.' (Text.upTo '.' path :: below)) fields) = none := by
    split
    · rfl
    · rename_i hbelow
      rw [← hsplit, Text.join_splitOn]
      refine h.get?_eq_none ?_
      by_contra hdot
      rw [Text.splitOn_of_not_mem hdot, List.cons.injEq] at hsplit
      simp [← hsplit.2] at hbelow
  rw [RowPath.values, hsplit]
  simp only [RowPath.valuesAt, Json.rows, List.flatMap_cons, List.flatMap_nil, List.append_nil,
    hwhole]
  rcases Fields.get? (Text.upTo '.' path) fields with _ | found <;> rfl

theorem Condition.accepts_of_holds (hholds : fields.Holds source) (hfields : fields.IsPlain)
    (hsource : source.IsPlain) {c : Condition} (h : c.accepts (.obj source) = true) :
    c.accepts (.obj fields) = true := by
  obtain ⟨below, hsplit⟩ := Text.splitOn_eq_cons '.' c.lookupPath
  have hvalues : c.values (.obj source) = c.values (.obj fields) := by
    have hsourceValues := RowPath.values_of_isPlain hsource hsplit
    rw [values, values, RowPath.values_of_isPlain hfields hsplit, hsourceValues]
    rcases hfound : Fields.get? (Text.upTo '.' c.lookupPath) source with _ | found
    · -- A condition does not hold of a column that is missing.
      rw [hfound] at hsourceValues
      simp [accepts, values, hsourceValues] at h
    · rw [hholds _ _ hfound]
  rwa [accepts, found, ← hvalues, ← found, ← accepts]

/-- A row that belongs to a query belongs to it with more fields, too. -/
theorem QueryFilter.accepts_of_holds (hholds : fields.Holds source) (hfields : fields.IsPlain)
    (hsource : source.IsPlain) {filter : QueryFilter}
    (h : filter.accepts (.obj source) = true) : filter.accepts (.obj fields) = true := by
  rw [accepts, Bool.and_eq_true] at h ⊢
  refine ⟨?_, ?_⟩
  · rw [hasPaths, List.all_eq_true] at h ⊢
    exact fun path hpath => RowPath.has_of_holds hholds (h.1 path hpath)
  · rw [passes, List.all_eq_true] at h ⊢
    intro tree htree
    have hid := FilterTree.mapConditions_id tree
    refine @FilterTree.accepts_of_mapConditions id _ (.obj source) tree
      (fun c _ => Condition.accepts_of_holds hholds hfields hsource) ?_
    rw [hid]
    exact h.2 tree htree

end

/-! ## 3. The rows of a list -/

/-- The row is an object without dots in its names. -/
def Json.IsPlainRow (row : Json) : Prop :=
  ∃ fields : Fields Json, row = .obj fields ∧ fields.IsPlain

/-- A row that is accepted is accepted with more fields, too. -/
def PatchContext.AcceptsMore (ctx : PatchContext) : Prop :=
  ∀ fields source : Fields Json, fields.Holds source → fields.IsPlain → source.IsPlain →
    ctx.accepts (.obj source) = true → ctx.accepts (.obj fields) = true

namespace RowChange

/-- An upsert that finds no row with the keys of its input makes a row of
the input. -/
theorem made?_of_forall {merge : Option (Json → Json → Json)} {primaryKeys : List Text}
    {input : Json} {rows : List Json}
    (h : ∀ row ∈ rows, sharesKeys primaryKeys row input = false) :
    (upsert merge).made? primaryKeys input rows = some input := by
  have hnone : rows.find? (fun row => sharesKeys primaryKeys row input) = none :=
    List.find?_eq_none.2 fun row hrow => by simp [h row hrow]
  rw [made?, hnone]

/-- It enters the input as a row of its own. -/
theorem applyRows_upsert_of_forall {ctx : PatchContext} {input : Json} {rows : List Json}
    (merge : Option (Json → Json → Json))
    (h : ∀ row ∈ rows, sharesKeys ctx.primaryKeys row input = false) :
    (upsert merge).applyRows ctx input rows = ctx.reinsert input rows := by
  have hnone : rows.find? (fun row => sharesKeys ctx.primaryKeys row input) = none :=
    List.find?_eq_none.2 fun row hrow => by simp [h row hrow]
  have herased : rows.eraseP (fun row => sharesKeys ctx.primaryKeys row input) = rows :=
    List.eraseP_of_forall_not fun row hrow => by simp [h row hrow]
  rw [applyRows, PatchContext.upsertRows, hnone, herased]

/-- One that finds a row which holds the fields of the input makes it
again. -/
theorem made?_of_holds {primaryKeys : List Text} {fields source : Fields Json}
    {rows : List Json} (hholds : fields.Holds source) (hfields : fields.IsPlain)
    (hsource : source.IsPlain)
    (hfound : rows.find? (fun row => sharesKeys primaryKeys row (.obj source)) =
      some (.obj fields)) :
    (upsert none).made? primaryKeys (.obj source) rows = some (.obj fields) := by
  rw [made?, hfound]
  simp only [PatchContext.mergeRow]
  rw [hholds.overlay_eq_self hfields.ascending hsource.ascending]

/-- The row that an upsert makes holds the fields of the input. -/
theorem exists_made {primaryKeys : List Text} {source : Fields Json} {rows : List Json}
    (hsource : source.IsPlain) (hrows : ∀ row ∈ rows, row.IsPlainRow) :
    ∃ fields : Fields Json,
      (upsert none).made? primaryKeys (.obj source) rows = some (.obj fields) ∧
        fields.Holds source ∧ fields.IsPlain := by
  rw [made?]
  rcases hfound : rows.find? (fun row => sharesKeys primaryKeys row (.obj source))
    with _ | current
  · exact ⟨source, rfl, .refl source, hsource⟩
  · obtain ⟨fields, rfl, hfields⟩ := hrows current (List.mem_of_find?_eq_some hfound)
    exact ⟨Fields.overlay fields source, rfl, Fields.holds_overlay hsource.ascending fields,
      hfields.overlay hsource⟩

section

variable {ctx : PatchContext} {source : Fields Json} {rows : List Json}
  (htransform : ctx.transform = id) (hmore : ctx.AcceptsMore) (hsource : source.IsPlain)
  (hrows : ∀ row ∈ rows, row.IsPlainRow) (hdistinct : DistinctKeys ctx.primaryKeys rows)

include htransform hmore hsource hrows hdistinct

/-- An upsert that is applied again enters the row that it entered, or
again none. -/
theorem entered?_upsert_replayed
    (hkeyed : (upsert none).IsKeyed ctx.primaryKeys (.obj source)) :
    (upsert none).entered? ctx (.obj source) ((upsert none).applyRows ctx (.obj source) rows) =
      (upsert none).entered? ctx (.obj source) rows := by
  obtain ⟨fields, hmade, hholds, hfields⟩ := @exists_made ctx.primaryKeys source rows hsource hrows
  by_cases haccepts : ctx.accepts (.obj fields) = true
  · have hentered : (upsert none).entered? ctx (.obj source) rows = some (.obj fields) := by
      rw [entered?, hmade]
      exact Option.filter_some_eq_some.2 haccepts
    have hfound := find?_applyRows hkeyed htransform hdistinct hentered
    rw [hentered, entered?, made?_of_holds hholds hfields hsource hfound]
    exact Option.filter_some_eq_some.2 haccepts
  · -- What was dropped with more fields is not accepted with fewer.
    have hinput : ¬ ctx.accepts (.obj source) = true :=
      fun hinput => haccepts (hmore fields source hholds hfields hsource hinput)
    have hentered : (upsert none).entered? ctx (.obj source) rows = none := by
      rw [entered?, hmade]
      exact Option.filter_some_eq_none.2 haccepts
    have hothers : ∀ row ∈ (upsert none).applyRows ctx (.obj source) rows,
        sharesKeys ctx.primaryKeys row (.obj source) = false := by
      intro row hrow
      rcases (mem_applyRows htransform hdistinct).1 hrow with hrow | hrow
      · rw [hentered] at hrow
        contradiction
      · exact (mem_otherRows.1 hrow).2
    rw [hentered, entered?, made?_of_forall hothers]
    exact Option.filter_some_eq_none.2 hinput

theorem applyRows_replayed_of_isKeyed {change : RowChange}
    (hchange : change = upsert none ∨ change = delete)
    (hkeyed : change.IsKeyed ctx.primaryKeys (.obj source)) :
    change.applyRows ctx (.obj source) (change.applyRows ctx (.obj source) rows) =
      change.applyRows ctx (.obj source) rows := by
  have hentered : change.entered? ctx (.obj source) (change.applyRows ctx (.obj source) rows) =
      change.entered? ctx (.obj source) rows := by
    rcases hchange with rfl | rfl
    · exact entered?_upsert_replayed htransform hmore hsource hrows hdistinct hkeyed
    · rfl
  rw [applyRows_eq_entered htransform (distinctKeys_applyRows hkeyed htransform hdistinct),
    hentered, otherRows_applyRows hkeyed htransform hdistinct,
    ← applyRows_eq_entered htransform hdistinct]

end

/-! ## 4. Inputs without their keys -/

section

variable {ctx : PatchContext} {input : Json}
  (hlacks : ∃ key ∈ ctx.primaryKeys, input.get? key = none)
include hlacks

theorem sharesKeys_of_lacks (row : Json) : sharesKeys ctx.primaryKeys row input = false := by
  rw [Bool.eq_false_iff]
  intro hshared
  obtain ⟨key, hkey, hnone⟩ := hlacks
  have hcarried := isSome_get?_of_sharesKeys hshared key hkey
  rw [hnone] at hcarried
  contradiction

/-- An upsert enters such an input as a row of its own. -/
theorem applyRows_upsert_of_lacks (merge : Option (Json → Json → Json)) (rows : List Json) :
    (upsert merge).applyRows ctx input rows = ctx.reinsert input rows :=
  applyRows_upsert_of_forall merge fun row _ => sharesKeys_of_lacks hlacks row

theorem applyRows_delete_of_lacks (rows : List Json) :
    delete.applyRows ctx input rows = rows :=
  otherRows_eq_self fun row _ => sharesKeys_of_lacks hlacks row

end

/-- Each time the row is entered the list grows. -/
theorem length_reinsert {ctx : PatchContext} {row : Json} (haccepts : ctx.accepts row = true)
    (rows : List Json) :
    (ctx.reinsert row rows).length = rows.length + 1 := by
  rw [PatchContext.reinsert, if_pos haccepts]
  exact List.length_insertIdx_of_le_length (ctx.place_le row rows) _

/-- An upsert or a deletion of rows that is applied again changes nothing,
unless it enters an input that lacks a key. -/
theorem applyRows_replayed_iff {change : RowChange} {ctx : PatchContext}
    {source : Fields Json} {rows : List Json}
    (hchange : change = upsert none ∨ change = delete) (htransform : ctx.transform = id)
    (hmore : ctx.AcceptsMore) (hsource : source.IsPlain) (hrows : ∀ row ∈ rows, row.IsPlainRow)
    (hdistinct : DistinctKeys ctx.primaryKeys rows) :
    change.applyRows ctx (.obj source) (change.applyRows ctx (.obj source) rows) =
        change.applyRows ctx (.obj source) rows ↔
      ¬ (change = upsert none ∧ (∃ key ∈ ctx.primaryKeys, Fields.get? key source = none) ∧
        ctx.accepts (.obj source) = true) := by
  by_cases hlacks : ∃ key ∈ ctx.primaryKeys, Fields.get? key source = none
  · have hlacks' : ∃ key ∈ ctx.primaryKeys, (Json.obj source).get? key = none := hlacks
    rcases hchange with rfl | rfl
    · rw [applyRows_upsert_of_lacks hlacks', applyRows_upsert_of_lacks hlacks']
      by_cases haccepts : ctx.accepts (.obj source) = true
      · have hlonger : ctx.reinsert (.obj source) (ctx.reinsert (.obj source) rows) ≠
            ctx.reinsert (.obj source) rows := by
          intro heq
          have hlength := length_reinsert haccepts (ctx.reinsert (.obj source) rows)
          rw [heq] at hlength
          omega
        simp [hlonger, hlacks, haccepts]
      · simp [PatchContext.reinsert, haccepts]
    · rw [applyRows_delete_of_lacks hlacks', applyRows_delete_of_lacks hlacks']
      simp
  · have hkeyed : change.IsKeyed ctx.primaryKeys (.obj source) := by
      refine ⟨?_, fun key hkey => ?_, ?_⟩
      · rcases hchange with rfl | rfl <;> trivial
      · rw [Option.isSome_iff_ne_none]
        exact fun hnone => hlacks ⟨key, hkey, hnone⟩
      · rintro _ ⟨⟩
        exact hsource.ascending
    have hreplayed := applyRows_replayed_of_isKeyed htransform hmore hsource hrows hdistinct
      hchange hkeyed
    simp [hreplayed, hlacks]

/-! ## 5. Cached results -/

theorem apply_replayed_of_flatten {change : RowChange} {ctx : PatchContext} {input : Json}
    {limit : Nat} {data : CacheData} {rows : List Json} (hrows : data.flatten = some rows) :
    change.apply ctx input limit (change.apply ctx input limit data) =
        change.apply ctx input limit data ↔
      change.applyRows ctx input (change.applyRows ctx input rows) =
        change.applyRows ctx input rows := by
  rw [apply_of_flatten hrows, apply_of_flatten (CacheData.flatten_rechunk _ _ _)]
  constructor
  · intro hsame
    have hflatten := congrArg CacheData.flatten hsame
    rw [CacheData.flatten_rechunk, CacheData.flatten_rechunk] at hflatten
    exact Option.some.inj hflatten
  · intro hsame
    rw [hsame]
    exact CacheData.rechunk_rechunk (fun hnil => Or.inl hnil) limit

section

variable {change : RowChange} {ctx : PatchContext} {source : Fields Json} {single : Json}

theorem applySingle_of_isNull {input : Json} (h : single.isNull = true) :
    change.applySingle ctx input single = single := by
  unfold applySingle
  rw [if_pos h]

theorem applySingle_upsert {merge : Option (Json → Json → Json)} {input : Json}
    (h : single.isNull = false) :
    (upsert merge).applySingle ctx input single =
      if sharesKeys ctx.primaryKeys single input then
        ctx.orNull (PatchContext.mergeRow merge single input)
      else single := by
  simp [applySingle, h]

theorem applySingle_delete {input : Json} (h : single.isNull = false) :
    delete.applySingle ctx input single =
      if sharesKeys ctx.primaryKeys single input then .null else single := by
  simp [applySingle, h]

/-- What an upsert leaves of a single row is the row that it makes, which
holds the fields of the input, or null. -/
theorem applySingle_upsert_replayed (hsource : source.IsPlain) (hsingle : single.IsPlainRow) :
    (upsert none).applySingle ctx (.obj source)
        ((upsert none).applySingle ctx (.obj source) single) =
      (upsert none).applySingle ctx (.obj source) single := by
  obtain ⟨fields, rfl, hfields⟩ := hsingle
  rw [@applySingle_upsert ctx (.obj fields) none (.obj source) rfl]
  rcases hshared : sharesKeys ctx.primaryKeys (.obj fields) (.obj source) with _ | _
  · rw [if_neg Bool.false_ne_true, applySingle_upsert rfl, hshared, if_neg Bool.false_ne_true]
  · rw [if_pos rfl, PatchContext.mergeRow, PatchContext.orNull]
    by_cases haccepts : ctx.accepts (.obj (Fields.overlay fields source)) = true
    · have hmerged : sharesKeys ctx.primaryKeys (.obj (Fields.overlay fields source))
          (.obj source) = true :=
        @sharesKeys_mergeRow_none ctx.primaryKeys (.obj fields) (.obj source)
          (isSome_get?_of_sharesKeys hshared) (by rintro _ ⟨⟩; exact hsource.ascending)
      have hagain : Fields.overlay (Fields.overlay fields source) source =
          Fields.overlay fields source :=
        (Fields.holds_overlay hsource.ascending fields).overlay_eq_self
          (Fields.ascending_overlay hfields.ascending) hsource.ascending
      rw [if_pos haccepts, applySingle_upsert rfl, if_pos hmerged, PatchContext.mergeRow, hagain,
        PatchContext.orNull, if_pos haccepts]
    · rw [if_neg haccepts]
      exact applySingle_of_isNull rfl

theorem applySingle_replayed (hchange : change = upsert none ∨ change = delete)
    (hsource : source.IsPlain) (hsingle : single.isNull = false → single.IsPlainRow) :
    change.applySingle ctx (.obj source) (change.applySingle ctx (.obj source) single) =
      change.applySingle ctx (.obj source) single := by
  rcases hnull : single.isNull with _ | _
  · rcases hchange with rfl | rfl
    · exact applySingle_upsert_replayed hsource (hsingle hnull)
    · rw [applySingle_delete hnull]
      split
      · exact applySingle_of_isNull rfl
      · rename_i hother
        rw [applySingle_delete hnull, if_neg hother]
  · rw [applySingle_of_isNull hnull, applySingle_of_isNull hnull]

/-- A single row does not become a list. -/
theorem isArray_applySingle (hchange : change = upsert none ∨ change = delete)
    (hsingle : single.isNull = false → single.IsPlainRow) (harr : single.isArray = false) :
    (change.applySingle ctx (.obj source) single).isArray = false := by
  rcases hnull : single.isNull with _ | _
  · rcases hchange with rfl | rfl
    · obtain ⟨fields, rfl, -⟩ := hsingle hnull
      rw [applySingle_upsert hnull, PatchContext.mergeRow, PatchContext.orNull]
      split_ifs <;> rfl
    · rw [applySingle_delete hnull]
      split
      · rfl
      · exact harr
  · rwa [applySingle_of_isNull hnull]

theorem apply_of_not_isArray {input : Json} {limit : Nat} {count : Option Int}
    (harr : single.isArray = false) :
    change.apply ctx input limit (.response single count) =
      .response (change.applySingle ctx input single) count := by
  have hflatten : (CacheData.response single count).flatten = none := by
    cases single <;> first | rfl | simp [Json.isArray] at harr
  rw [apply, hflatten]

end

/-- The upsert enters its input into a list each time: no row has the keys
of an input that lacks one. -/
structure EntersAgain (change : RowChange) (filter : QueryFilter) (primaryKeys : List Text)
    (source : Fields Json) (data : CacheData) : Prop where
  upserts : change = upsert none
  isList : data.flatten.isSome = true
  lacks : ∃ key ∈ primaryKeys, Fields.get? key source = none
  accepted : filter.accepts (.obj source) = true

/-- An upsert or a deletion that is applied again to a cached result changes
nothing, exactly unless it enters its input into a list each time. -/
theorem apply_replayed_iff {change : RowChange}
    (hchange : change = upsert none ∨ change = delete) {filter : QueryFilter}
    {primaryKeys : List Text} {data : CacheData} {source : Fields Json}
    (hsource : source.IsPlain) (hrows : ∀ row ∈ data.rowList, row.IsPlainRow)
    (hdistinct : DistinctKeys primaryKeys data.rowList) (orderBy : List SortKey) (limit : Nat) :
    change.apply (filter.context primaryKeys orderBy) (.obj source) limit
        (change.apply (filter.context primaryKeys orderBy) (.obj source) limit data) =
      change.apply (filter.context primaryKeys orderBy) (.obj source) limit data ↔
    ¬ change.EntersAgain filter primaryKeys source data := by
  rcases hflatten : data.flatten with _ | rows
  · have hnever : ¬ change.EntersAgain filter primaryKeys source data := by
      intro hagain
      have hlist := hagain.isList
      rw [hflatten] at hlist
      contradiction
    obtain ⟨single, count, rfl, harr⟩ := CacheData.eq_response_of_flatten hflatten
    rw [CacheData.rowList_single harr] at hrows
    have hsingle : single.isNull = false → single.IsPlainRow := by
      intro hnull
      exact hrows single (by simp [hnull])
    rw [apply_of_not_isArray harr, apply_of_not_isArray (isArray_applySingle hchange hsingle harr),
      applySingle_replayed hchange hsource hsingle]
    simp [hnever]
  · have hlist : data.rowList = rows := CacheData.rowList_of_flatten hflatten
    rw [hlist] at hrows hdistinct
    have hmore : (filter.context primaryKeys orderBy).AcceptsMore :=
      fun fields source hholds hfields hsource =>
        QueryFilter.accepts_of_holds hholds hfields hsource
    rw [apply_replayed_of_flatten hflatten,
      applyRows_replayed_iff hchange rfl hmore hsource hrows hdistinct, not_iff_not]
    constructor
    · rintro ⟨hupsert, hlacks, haccepts⟩
      exact ⟨hupsert, by rw [hflatten]; rfl, hlacks, haccepts⟩
    · rintro ⟨hupsert, -, hlacks, haccepts⟩
      exact ⟨hupsert, hlacks, haccepts⟩

/-- The contact 2 goes to its place on the first page under another name,
and stays there when it is entered again. -/
theorem apply_replayed_contacts :
    let data := CacheData.hasMorePages [⟨[contact 1 ['a'], contact 3 ['c']], true⟩,
      ⟨[contact 2 ['d']], false⟩]
    let ctx := contactsFilter.context ["id".toList] [.asc "name".toList]
    (∀ row ∈ data.rowList, row.IsPlainRow) ∧ DistinctKeys ["id".toList] data.rowList ∧
      ¬ (upsert none).EntersAgain contactsFilter ["id".toList]
        [("id".toList, .num (.int 2)), ("name".toList, .str ['b'])] data ∧
      (upsert none).apply ctx (contact 2 ['b']) 2 ((upsert none).apply ctx (contact 2 ['b']) 2 data) =
        (upsert none).apply ctx (contact 2 ['b']) 2 data := by
  intro data ctx
  have hplain : ∀ (id : Int) (name : Text), Fields.IsPlain
      [("id".toList, .num (.int id)), ("name".toList, .str name)] := by
    intro id name
    refine ⟨ascending_contact _ rfl, fun field hfield => ?_⟩
    have hnames : ∀ text ∈ ["id".toList, "name".toList], '.' ∉ text := by decide
    rcases List.mem_pair.1 hfield with rfl | rfl <;> exact hnames _ (by simp)
  have hrows : ∀ row ∈ data.rowList, row.IsPlainRow := by
    intro row hrow
    have hlist : data.rowList = [contact 1 ['a'], contact 3 ['c'], contact 2 ['d']] := by
      decide +kernel
    rw [hlist] at hrow
    simp only [List.mem_cons, List.not_mem_nil, or_false] at hrow
    rcases hrow with rfl | rfl | rfl <;> exact ⟨_, rfl, hplain _ _⟩
  have hdistinct : DistinctKeys ["id".toList] data.rowList := by
    unfold DistinctKeys
    decide +kernel
  have hnever : ¬ (upsert none).EntersAgain contactsFilter ["id".toList]
      [("id".toList, .num (.int 2)), ("name".toList, .str ['b'])] data := by
    intro hagain
    have hlacks := hagain.lacks
    revert hlacks
    decide +kernel
  exact ⟨hrows, hdistinct, hnever,
    (apply_replayed_iff (.inl rfl) (hplain 2 ['b']) hrows hdistinct _ 2).2 hnever⟩

/-- An unnumbered contact is entered into the empty list a second time. -/
theorem unnumbered_entered_twice :
    let data := CacheData.response (.arr []) (some 0)
    let ctx := QueryFilter.context ⟨[Path.ofText "name".toList], []⟩ ["id".toList] []
    let source : Fields Json := [("name".toList, .str ['a'])]
    source.IsPlain ∧ data.rowList = [] ∧
      (upsert none).apply ctx (.obj source) 10 data = .response (.arr [.obj source]) (some 1) ∧
      (upsert none).apply ctx (.obj source) 10 ((upsert none).apply ctx (.obj source) 10 data) ≠
        (upsert none).apply ctx (.obj source) 10 data := by
  intro data ctx source
  refine ⟨⟨List.pairwise_singleton _ _, ?_⟩, ?_⟩
  · decide +kernel
  · decide +kernel

end RowChange
end QueryCache
