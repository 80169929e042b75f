/-
QueryCache.Proofs.RowFrame — what a change of one row leaves alone.

The other rows of a cached result are those that do not share the primary
keys of the input (`otherRows`).  In a list they outlive every change, in
their order: a row is taken out only when it shares the keys, and putting
one in takes none away.  A single row outlives an upsert and a deletion of
another row; a mutation is applied to it whatever its keys are.
`otherRows_survive_iff` says exactly when that loses it.
-/
import Mathlib.Data.List.InsertIdx
import QueryCache.Filter.QueryFilter
import QueryCache.Proofs.Sameness

namespace QueryCache

/-! ## 1. Rows and pages -/

namespace CacheData

theorem flatten_chunk (size : Nat) (rows : List Json) : (chunk size rows).flatten = rows := by
  induction rows using chunk.induct size with
  | case1 => simp [chunk]
  | case2 row rest ih =>
    rw [chunk, List.flatten_cons, ih, List.cons_append, List.take_append_drop]

theorem map_data_flagPages (lastHasMore : Bool) (found : List (List Json)) :
    (flagPages lastHasMore found).map (·.data) = found := by
  induction found using flagPages.induct with
  | case1 => rfl
  | case2 rows => rfl
  | case3 rows rest hrest ih => simp [flagPages, ih]

/-- Rows put into a shape come out of it again. -/
theorem flatten_rechunk (data : CacheData) (rows : List Json) (limit : Nat) :
    (data.rechunk rows limit).flatten = some rows := by
  cases data with
  | response found count => rfl
  | pages found => simp [rechunk, flatten, flatten_chunk]
  | hasMorePages found =>
    simp only [rechunk, flatten, List.flatMap_def, map_data_flagPages, flatten_chunk]

theorem hasMore_getLast?_flagPages (lastHasMore : Bool) {found : List (List Json)}
    (hne : found ≠ []) :
    (flagPages lastHasMore found).getLast?.map (·.hasMore) = some lastHasMore := by
  induction found using flagPages.induct with
  | case1 => exact absurd rfl hne
  | case2 rows => rfl
  | case3 rows rest hrest ih =>
    have hlast := ih hrest
    obtain ⟨page, hpage, hmore⟩ := Option.map_eq_some_iff.1 hlast
    simp [flagPages, List.getLast?_cons, hpage, hmore]

/-- A shape keeps nothing of the rows that were in it.  Flagged pages
without rows have lost their flag, too. -/
theorem rechunk_rechunk {data : CacheData} {rows others : List Json}
    (h : rows = [] → others = [] ∨ ∀ found, data ≠ hasMorePages found) (limit : Nat) :
    (data.rechunk rows limit).rechunk others limit = data.rechunk others limit := by
  cases data with
  | response found count => rfl
  | pages found => rfl
  | hasMorePages found =>
    by_cases hrows : rows = []
    · obtain rfl := (h hrows).resolve_right fun hne => hne found rfl
      simp [rechunk, chunk, flagPages]
    · have hne : chunk limit rows ≠ [] := by
        obtain ⟨row, rest, rfl⟩ := List.exists_cons_of_ne_nil hrows
        simp [chunk]
      rw [rechunk, rechunk, hasMore_getLast?_flagPages _ hne]
      rfl

/-- The rows of a cached result: those of a list, or the single row, if
there is one. -/
def rowList (data : CacheData) : List Json :=
  match data.flatten with
  | some rows => rows
  | none =>
    match data with
    | response single _ => if single.isNull then [] else [single]
    | _ => []

theorem rowList_of_flatten {data : CacheData} {rows : List Json} (h : data.flatten = some rows) :
    data.rowList = rows := by
  simp [rowList, h]

theorem rowList_single {single : Json} {count : Option Int} (h : single.isArray = false) :
    (response single count).rowList = if single.isNull then [] else [single] := by
  cases single <;> simp_all [rowList, flatten, Json.isArray]

/-- A result that is no list is a single row or null. -/
theorem eq_response_of_flatten {data : CacheData} (h : data.flatten = none) :
    ∃ single count, data = response single count ∧ single.isArray = false := by
  cases data with
  | response single count =>
    refine ⟨single, count, rfl, ?_⟩
    cases single <;> simp_all [flatten, Json.isArray]
  | pages found => simp [flatten] at h
  | hasMorePages found => simp [flatten] at h

end CacheData

/-! ## 2. Other rows of a list -/

/-- The rows that do not share the keys of the input. -/
def otherRows (primaryKeys : List Text) (input : Json) (rows : List Json) : List Json :=
  rows.filter fun row => !sharesKeys primaryKeys row input

theorem filter_eraseP {α : Type} (p : α → Bool) (rows : List α) :
    (rows.eraseP p).filter (fun a => !p a) = rows.filter fun a => !p a := by
  induction rows with
  | nil => rfl
  | cons a rest ih =>
    by_cases ha : p a = true
    · simp [ha]
    · simp [ha, ih]

theorem filter_insertIdx_of_neg {α : Type} {p : α → Bool} {a : α} (ha : p a = false) (k : Nat)
    (rows : List α) : (rows.insertIdx k a).filter p = rows.filter p := by
  induction rows generalizing k with
  | nil => cases k <;> simp [ha]
  | cons b rest ih =>
    cases k with
    | zero => simp [ha]
    | succ k => simp [List.filter_cons, ih k]

namespace PatchContext

variable (ctx : PatchContext)

theorem sublist_reinsert (row : Json) (rows : List Json) :
    rows.Sublist (ctx.reinsert row rows) := by
  unfold reinsert
  split
  · exact List.sublist_insertIdx rows _ _
  · exact List.Sublist.refl rows

/-- The other rows are still there when the first row with the keys is
taken out and something is put in. -/
theorem otherRows_sublist_reinsert (input row : Json) (rows : List Json) :
    (otherRows ctx.primaryKeys input rows).Sublist
      (ctx.reinsert row (rows.eraseP fun r => sharesKeys ctx.primaryKeys r input)) := by
  unfold otherRows
  rw [← filter_eraseP fun r => sharesKeys ctx.primaryKeys r input]
  exact List.filter_sublist.trans (ctx.sublist_reinsert row _)

end PatchContext

/-- Every change of a list of rows leaves the other rows, in their order. -/
theorem RowChange.otherRows_sublist_applyRows (change : RowChange) (ctx : PatchContext)
    (input : Json) (rows : List Json) :
    (otherRows ctx.primaryKeys input rows).Sublist (change.applyRows ctx input rows) := by
  cases change with
  | mutate f =>
    simp only [applyRows, PatchContext.mutateRows]
    split
    · exact ctx.otherRows_sublist_reinsert input _ rows
    · exact List.filter_sublist
  | upsert merge => exact ctx.otherRows_sublist_reinsert input _ rows
  | delete => exact List.Sublist.refl _

/-! ## 3. A single row -/

namespace RowChange

/-- The change spares a single row of other keys: a mutation of such a row
leaves it as it is, or in a list, and the query accepts what it makes. -/
def Spares (change : RowChange) (ctx : PatchContext) (input : Json) (data : CacheData) : Prop :=
  ∀ f single count, change = mutate f → data = .response single count →
    single.isArray = false → single.isNull = false →
    sharesKeys ctx.primaryKeys single input = false →
    ctx.accepts (f single) = true ∧
      (f single = single ∨ ∃ items, f single = .arr items ∧ single ∈ items)

/-- A single row is among the rows of a response exactly when it is the
response, or the response lists it. -/
theorem singleton_sublist_rowList_iff {single found : Json} (hnull : single.isNull = false)
    (harr : single.isArray = false) (count : Option Int) :
    [single].Sublist (CacheData.response found count).rowList ↔
      found = single ∨ ∃ items, found = .arr items ∧ single ∈ items := by
  rw [List.singleton_sublist]
  rcases hfound : found.isArray with _ | _
  · rw [CacheData.rowList_single hfound]
    constructor
    · intro h
      split at h
      · simp at h
      · exact Or.inl (List.mem_singleton.1 h).symm
    · rintro (rfl | ⟨items, rfl, _⟩)
      · simp [hnull]
      · simp [Json.isArray] at hfound
  · obtain ⟨items, rfl⟩ : ∃ items, found = .arr items := by
      cases found <;> simp [Json.isArray] at hfound
      exact ⟨_, rfl⟩
    have hrows : (CacheData.response (.arr items) count).rowList = items :=
      CacheData.rowList_of_flatten rfl
    rw [hrows]
    constructor
    · exact fun h => Or.inr ⟨items, rfl, h⟩
    · rintro (rfl | ⟨others, heq, hmem⟩)
      · simp [Json.isArray] at harr
      · rw [Json.arr.injEq] at heq
        exact heq ▸ hmem

/-- A single row of other keys outlives exactly the changes that spare it. -/
theorem single_survives_iff (change : RowChange) (ctx : PatchContext) {input single : Json}
    (harr : single.isArray = false) (hnull : single.isNull = false)
    (hkeys : sharesKeys ctx.primaryKeys single input = false) (count : Option Int) :
    [single].Sublist (CacheData.response (change.applySingle ctx input single) count).rowList ↔
      change.Spares ctx input (.response single count) := by
  rw [singleton_sublist_rowList_iff hnull harr]
  cases change with
  | mutate f =>
    have hspares : (mutate f).Spares ctx input (.response single count) ↔
        ctx.accepts (f single) = true ∧
          (f single = single ∨ ∃ items, f single = .arr items ∧ single ∈ items) := by
      constructor
      · exact fun h => h f single count rfl rfl harr hnull hkeys
      · rintro h g other n hg hdata - - -
        rw [RowChange.mutate.injEq] at hg
        rw [CacheData.response.injEq] at hdata
        exact hg ▸ hdata.1 ▸ h
    rw [hspares]
    simp only [applySingle, hnull, PatchContext.orNull, Bool.false_eq_true, if_false]
    split
    · rename_i haccepts
      simp [haccepts]
    · rename_i haccepts
      have hne : Json.null ≠ single := by
        rintro rfl
        simp [Json.isNull] at hnull
      simp [haccepts, hne]
  | upsert merge =>
    simp only [applySingle, hnull, hkeys, Bool.false_eq_true, if_false, true_or, true_iff]
    intro f _ _ h
    simp at h
  | delete =>
    simp only [applySingle, hnull, hkeys, Bool.false_eq_true, if_false, true_or, true_iff]
    intro f _ _ h
    simp at h

/-! ## 4. Other rows of a cached result -/

theorem apply_of_flatten {change : RowChange} {ctx : PatchContext} {input : Json} {limit : Nat}
    {data : CacheData} {rows : List Json} (h : data.flatten = some rows) :
    change.apply ctx input limit data = data.rechunk (change.applyRows ctx input rows) limit := by
  simp [apply, h]

/-- The other rows of a cached result are still in it after a change, in
their order, exactly when the change spares them: a mutation does not ask
for the keys of a single row. -/
theorem otherRows_survive_iff (change : RowChange) (ctx : PatchContext) (input : Json)
    (limit : Nat) (data : CacheData) :
    (otherRows ctx.primaryKeys input data.rowList).Sublist
        (change.apply ctx input limit data).rowList ↔
      change.Spares ctx input data := by
  rcases hrows : data.flatten with _ | rows
  · obtain ⟨single, count, rfl, harr⟩ := CacheData.eq_response_of_flatten hrows
    have happly : change.apply ctx input limit (.response single count) =
        .response (change.applySingle ctx input single) count := by
      simp [apply, hrows]
    rw [happly, CacheData.rowList_single harr]
    rcases hnull : single.isNull with _ | _
    · rcases hkeys : sharesKeys ctx.primaryKeys single input with _ | _
      · simpa [otherRows, hkeys] using change.single_survives_iff ctx harr hnull hkeys count
      · simp only [otherRows, Bool.false_eq_true, if_false, List.filter_cons, hkeys, Bool.not_true,
          List.filter_nil, List.nil_sublist, true_iff]
        rintro f other n - hdata - - hother
        rw [CacheData.response.injEq] at hdata
        rw [← hdata.1, hkeys] at hother
        contradiction
    · simp only [otherRows, if_true, List.filter_nil, List.nil_sublist, true_iff]
      rintro f other n - hdata - hother -
      rw [CacheData.response.injEq] at hdata
      rw [← hdata.1, hnull] at hother
      contradiction
  · have happly : (change.apply ctx input limit data).flatten =
        some (change.applyRows ctx input rows) := by
      rw [apply_of_flatten hrows, CacheData.flatten_rechunk]
    rw [CacheData.rowList_of_flatten hrows, CacheData.rowList_of_flatten happly]
    simp only [change.otherRows_sublist_applyRows ctx input rows, true_iff]
    rintro f single n - rfl harr - -
    cases single <;> simp_all [CacheData.flatten, Json.isArray]

end RowChange

/-- A row of a table of contacts. -/
def contact (id : Int) (name : Text) : Json :=
  .obj [("id".toList, .num (.int id)), ("name".toList, .str name)]

/-- What a query for contacts says about rows. -/
def contactsFilter : QueryFilter :=
  ⟨["id".toList, "name".toList].map Path.ofText, []⟩

/-- Gives a row another name. -/
def rename (name : Text) : Json → Json
  | .obj fields => .obj (Fields.overlay fields [("name".toList, .str name)])
  | other => other

/-- A mutation of contact 2 is applied to contact 1, cached alone. -/
theorem RowChange.other_contact_lost :
    ¬ (otherRows ["id".toList] (contact 2 ['b'])
        (CacheData.response (contact 1 ['a']) none).rowList).Sublist
      ((RowChange.mutate (rename ['z'])).apply
        { primaryKeys := ["id".toList], accepts := contactsFilter.accepts } (contact 2 ['b']) 1000
        (.response (contact 1 ['a']) none)).rowList := by
  have hbefore : otherRows ["id".toList] (contact 2 ['b'])
      (CacheData.response (contact 1 ['a']) none).rowList = [contact 1 ['a']] := by
    decide +kernel
  have hafter : ((RowChange.mutate (rename ['z'])).apply
      { primaryKeys := ["id".toList], accepts := contactsFilter.accepts } (contact 2 ['b']) 1000
      (.response (contact 1 ['a']) none)).rowList = [contact 1 ['z']] := by
    decide +kernel
  rw [hbefore, hafter]
  decide +kernel

end QueryCache
