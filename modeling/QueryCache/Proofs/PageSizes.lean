/-
QueryCache.Proofs.PageSizes — how many rows a patched list holds.

Pages are built anew after every change and hold as many rows as the key
asks for, whatever the change does.  A response is not cut: a change that
finds its row leaves it no longer than it was, and an upsert that finds
none makes it longer by one row (`RowChange.length_applyRows_le`).  So a
response outgrows the limit of its key exactly when an upsert enters a new
row while the response is full (`mutateItems_fits`).
-/
import QueryCache.Proofs.PatchedLists
import QueryCache.Proofs.ReplayedChanges

namespace QueryCache

/-! ## 1. Rows after one change -/

theorem PatchContext.length_reinsert_le (ctx : PatchContext) (row : Json) (rows : List Json) :
    (ctx.reinsert row rows).length ≤ rows.length + 1 := by
  unfold reinsert
  split
  · exact (List.length_insertIdx_of_le_length (ctx.place_le row rows) _).le
  · exact Nat.le_succ _

namespace RowChange

/-- An upsert enters its input as a new row: no row has its keys, and the
query accepts it. -/
structure EntersNew (change : RowChange) (ctx : PatchContext) (input : Json)
    (rows : List Json) : Prop where
  upserts : ∃ merge, change = upsert merge
  isNew : ∀ row ∈ rows, sharesKeys ctx.primaryKeys row input = false
  accepted : ctx.accepts input = true

section

variable {change : RowChange} {ctx : PatchContext} {input : Json} {rows : List Json}

theorem length_applyRows_of_entersNew (h : change.EntersNew ctx input rows) :
    (change.applyRows ctx input rows).length = rows.length + 1 := by
  obtain ⟨merge, rfl⟩ := h.upserts
  rw [applyRows_upsert_of_forall merge h.isNew, length_reinsert h.accepted]

/-- Where a row is taken out at most one is put in. -/
theorem length_reinsert_eraseP_le {current : Json}
    (hfound : rows.find? (fun row => sharesKeys ctx.primaryKeys row input) = some current)
    (row : Json) :
    (ctx.reinsert row (rows.eraseP fun row => sharesKeys ctx.primaryKeys row input)).length ≤
      rows.length := by
  have hlength := List.length_eraseP_of_mem (List.mem_of_find?_eq_some hfound)
    (List.find?_some hfound)
  have hpos := List.length_pos_of_mem (List.mem_of_find?_eq_some hfound)
  have hle := ctx.length_reinsert_le row
    (rows.eraseP fun row => sharesKeys ctx.primaryKeys row input)
  omega

/-- No other change makes a list longer. -/
theorem length_applyRows_le (h : ¬ change.EntersNew ctx input rows) :
    (change.applyRows ctx input rows).length ≤ rows.length := by
  cases change with
  | mutate f =>
    simp only [applyRows, PatchContext.mutateRows]
    split
    · rename_i current hfound
      exact length_reinsert_eraseP_le hfound (f current)
    · exact Nat.le_refl _
  | upsert merge =>
    rcases hfound : rows.find? (fun row => sharesKeys ctx.primaryKeys row input) with _ | current
    · have hnew : ∀ row ∈ rows, sharesKeys ctx.primaryKeys row input = false := by
        simpa using hfound
      have hrejected : ¬ ctx.accepts input = true :=
        fun haccepts => h ⟨⟨merge, rfl⟩, hnew, haccepts⟩
      rw [applyRows_upsert_of_forall merge hnew, PatchContext.reinsert, if_neg hrejected]
    · exact length_reinsert_eraseP_le hfound _
  | delete => exact List.length_filter_le _ _

end

end RowChange

/-! ## 2. Pages -/

namespace CacheData

/-- The result is a list in pages. -/
def IsPaged : CacheData → Prop
  | response _ _ => False
  | pages _ => True
  | hasMorePages _ => True

/-- The result is a list, with at most `size` rows in a response or on each
page. -/
def Fits (size : Nat) : CacheData → Prop
  | response (.arr rows) _ => rows.length ≤ size
  | response _ _ => False
  | pages found => ∀ page ∈ found, page.length ≤ size
  | hasMorePages found => ∀ page ∈ found, page.data.length ≤ size

theorem Fits.exists_rows {size : Nat} {data : CacheData} (h : data.Fits size) :
    ∃ rows, data.flatten = some rows := by
  cases data with
  | response single count =>
    cases single with
    | arr rows => exact ⟨rows, rfl⟩
    | _ => exact h.elim
  | pages found => exact ⟨_, rfl⟩
  | hasMorePages found => exact ⟨_, rfl⟩

theorem length_le_of_mem_chunk {size : Nat} (hsize : 1 ≤ size) {rows page : List Json}
    (h : page ∈ chunk size rows) : page.length ≤ size := by
  induction rows using chunk.induct size with
  | case1 => simp [chunk] at h
  | case2 row rest ih =>
    rw [chunk, List.mem_cons] at h
    rcases h with rfl | h
    · rw [List.length_cons, List.length_take]
      omega
    · exact ih h

theorem isPaged_rechunk {data : CacheData} {rows : List Json} {limit : Nat} :
    (data.rechunk rows limit).IsPaged ↔ data.IsPaged := by
  cases data <;> rfl

/-- Rows put into pages fit, and so do those of a response if they are not
too many. -/
theorem fits_rechunk_iff {size : Nat} (hsize : 1 ≤ size) {data : CacheData} {rows : List Json} :
    (data.rechunk rows size).Fits size ↔ data.IsPaged ∨ rows.length ≤ size := by
  cases data with
  | response single count => simp [rechunk, Fits, IsPaged]
  | pages found =>
    refine iff_of_true (fun page hpage => ?_) (Or.inl trivial)
    exact length_le_of_mem_chunk hsize hpage
  | hasMorePages found =>
    refine iff_of_true (fun page hpage => ?_) (Or.inl trivial)
    have hdata : page.data ∈ chunk size rows := by
      rw [← map_data_flagPages _ (chunk size rows)]
      exact List.mem_map_of_mem hpage
    exact length_le_of_mem_chunk hsize hdata

end CacheData

/-! ## 3. One change of a store -/

/-- The entry under the key fits. -/
def Store.FitsAt (store : Store) (text : Text) (size : Nat) : Prop :=
  ∃ data, store.get? text = some data ∧ data.Fits size

/-- The change enters a new row into the response under a key, which holds
`size` rows already. -/
def ItemMutation.Overfills (faults : Faults) (mutation : ItemMutation) (store : Store)
    (text : Text) (key : CacheKey) (size : Nat) : Prop :=
  ∃ filter orderBy rows count, mutation.Patches key filter orderBy ∧
    faults.write text = none ∧
    store.get? text = some (.response (.arr rows) count) ∧ rows.length = size ∧
    mutation.change.EntersNew ⟨mutation.primaryKeys, filter.accepts, orderBy, mutation.transform⟩
      (filter.denormalize mutation.input) rows

section

variable {config : CacheConfig} {faults : Faults} {text : Text} {key : CacheKey} {size : Nat}
  {store : Store} {data : CacheData}

theorem ItemMutation.not_overfills_of_isPaged {mutation : ItemMutation}
    (hdata : store.get? text = some data) (hpaged : data.IsPaged) :
    ¬ mutation.Overfills faults store text key size := by
  rintro ⟨filter, orderBy, rows, count, -, -, hresponse, -⟩
  rw [hdata, Option.some.injEq] at hresponse
  rw [hresponse] at hpaged
  exact hpaged

/-- An overfilled response has one row more than it may have. -/
theorem ItemMutation.Overfills.not_fits {mutation : ItemMutation} {next : CacheData}
    (h : mutation.Overfills faults store text key size)
    (hkey : CacheKey.decode config text = some key)
    (hnext : (mutateItem config faults mutation store).1.get? text = some next) :
    ¬ next.Fits size := by
  obtain ⟨filter, orderBy, rows, count, hpatch, hfaults, hdata, hlength, hnew⟩ := h
  have hpatched : mutation.patchEntry config key filter orderBy (some (.response (.arr rows) count)) =
      some next := by
    rw [← get?_mutateItem_of_patches hkey hdata hfaults hpatch, hnext]
  rw [ItemMutation.patchEntry, Option.map_some, Option.some.injEq,
    RowChange.apply_of_flatten rfl] at hpatched
  have hlonger := RowChange.length_applyRows_of_entersNew hnew
  rw [← hpatched, CacheData.rechunk, CacheData.Fits, hlonger]
  omega

/-- A list that is patched fits unless it is overfilled. -/
theorem ItemMutation.Patches.fits_rechunk {mutation : ItemMutation} {filter : QueryFilter}
    {orderBy : List SortKey} {rows : List Json} (h : mutation.Patches key filter orderBy)
    (hsize : 1 ≤ size) (hfaults : faults.write text = none) (hdata : store.get? text = some data)
    (hrows : data.flatten = some rows) (hfits : data.Fits size)
    (hover : ¬ mutation.Overfills faults store text key size) :
    (data.rechunk (mutation.change.applyRows
      ⟨mutation.primaryKeys, filter.accepts, orderBy, mutation.transform⟩
      (filter.denormalize mutation.input) rows) size).Fits size := by
  rw [CacheData.fits_rechunk_iff hsize]
  cases data with
  | pages found => exact Or.inl trivial
  | hasMorePages found => exact Or.inl trivial
  | response single count =>
    obtain rfl : single = .arr rows := by
      cases single <;> simp_all [CacheData.flatten]
    have hle : rows.length ≤ size := hfits
    right
    by_cases hnew : mutation.change.EntersNew
        ⟨mutation.primaryKeys, filter.accepts, orderBy, mutation.transform⟩
        (filter.denormalize mutation.input) rows
    · have hroom : rows.length ≠ size := fun hfull =>
        hover ⟨filter, orderBy, rows, count, h, hfaults, hdata, hfull, hnew⟩
      rw [RowChange.length_applyRows_of_entersNew hnew]
      omega
    · exact (RowChange.length_applyRows_le hnew).trans hle

/-- A change of a store leaves a list in pages or in a response, and the
list fits unless the change overfills it. -/
theorem fits_mutateItem_iff (hkey : CacheKey.decode config text = some key)
    (hlimit : key.limit = some size) (hsize : 1 ≤ size) (hdata : store.get? text = some data)
    (hfits : data.Fits size) (mutation : ItemMutation) :
    ∃ next, (mutateItem config faults mutation store).1.get? text = some next ∧
      (next.IsPaged ↔ data.IsPaged) ∧
      (next.Fits size ↔ ¬ mutation.Overfills faults store text key size) := by
  have hstays : (mutateItem config faults mutation store).1.get? text = some data →
      ∃ next, (mutateItem config faults mutation store).1.get? text = some next ∧
        (next.IsPaged ↔ data.IsPaged) ∧
        (next.Fits size ↔ ¬ mutation.Overfills faults store text key size) := fun hsame =>
    ⟨data, hsame, Iff.rfl, iff_of_true hfits fun hover => hover.not_fits hkey hsame hfits⟩
  rcases hfaults : faults.write text with _ | message
  · rcases mutateItem_cases hkey hdata faults mutation with hsame | ⟨filter, orderBy, hpatch, heq⟩
    · exact hstays hsame
    · obtain ⟨rows, hrows⟩ := hfits.exists_rows
      rw [ItemMutation.patchEntry, Option.map_some, RowChange.apply_of_flatten hrows, hlimit] at heq
      refine ⟨_, heq, CacheData.isPaged_rechunk, ?_, ?_⟩
      · exact fun hnext hover => hover.not_fits hkey heq hnext
      · exact fun hover => hpatch.fits_rechunk hsize hfaults hdata hrows hfits hover
  · exact hstays (get?_mutateItem_of_refused hkey hdata (by rw [hfaults]; rfl) mutation)

end

/-! ## 4. Runs -/

section

variable {config : CacheConfig} {faults : Faults} {text : Text} {key : CacheKey} {size : Nat}
  {store : Store} {data : CacheData}

/-- A list in pages, and one in a response that no change overfills, fits
after every change of a run. -/
theorem fitsAt_mutateItems (hkey : CacheKey.decode config text = some key)
    (hlimit : key.limit = some size) (hsize : 1 ≤ size) (hdata : store.get? text = some data)
    (hfits : data.Fits size) {mutations : List ItemMutation}
    (hroom : data.IsPaged ∨ ∀ (n : Nat) (mutation : ItemMutation),
      mutations[n]? = some mutation → ¬ mutation.Overfills faults
        (mutateItems config faults store (mutations.take n)) text key size) (n : Nat) :
    (mutateItems config faults store (mutations.take n)).FitsAt text size := by
  let P (store : Store) : Prop := ∃ next, store.get? text = some next ∧
    (next.IsPaged ↔ data.IsPaged) ∧ next.Fits size
  have hstart : P store := ⟨data, hdata, Iff.rfl, hfits⟩
  have hrun : P (mutateItems config faults store (mutations.take n)) := by
    refine mutateItems_induction hstart ?_ n
    rintro n mutation hmutation ⟨current, hcurrent, hkind, hfits⟩
    rw [mutateItems_take_succ hmutation]
    obtain ⟨next, hnext, hkind', hiff⟩ :=
      fits_mutateItem_iff hkey hlimit hsize hcurrent hfits mutation
    refine ⟨next, hnext, hkind'.trans hkind, hiff.2 ?_⟩
    rcases hroom with hpaged | hroom
    · exact ItemMutation.not_overfills_of_isPaged hcurrent (hkind.2 hpaged)
    · exact hroom n mutation hmutation
  obtain ⟨next, hnext, -, hfitsNext⟩ := hrun
  exact ⟨next, hnext, hfitsNext⟩

/-- Under a key with a limit the pages of a list that fit fit after every
change of a run.  A list in a response fits after every change exactly if
no change enters a new row while the response is full. -/
theorem mutateItems_fits (hkey : CacheKey.decode config text = some key)
    (hlimit : key.limit = some size) (hsize : 1 ≤ size) (hdata : store.get? text = some data)
    (hfits : data.Fits size) (mutations : List ItemMutation) :
    (data.IsPaged → ∀ n, (mutateItems config faults store (mutations.take n)).FitsAt text size) ∧
    ((∀ n, (mutateItems config faults store (mutations.take n)).FitsAt text size) ↔
      ∀ (n : Nat) (mutation : ItemMutation), mutations[n]? = some mutation →
        ¬ mutation.Overfills faults (mutateItems config faults store (mutations.take n)) text key
          size) := by
  refine ⟨fun hpaged => ?_, fun hall n mutation hmutation hover => ?_, fun hroom => ?_⟩
  · exact fitsAt_mutateItems hkey hlimit hsize hdata hfits (Or.inl hpaged)
  · obtain ⟨next, hnext, hfitsNext⟩ := hall (n + 1)
    rw [mutateItems_take_succ hmutation] at hnext
    exact hover.not_fits hkey hnext hfitsNext
  · exact fitsAt_mutateItems hkey hlimit hsize hdata hfits (Or.inr hroom)

end

/-! ## 5. Contacts one by one -/

/-- The query for one contact. -/
def firstContactKey : CacheKey where
  schema := "public".toList
  table := "contact".toList
  queryKey := "select=id,name&limit=1".toList
  select := "id,name".toList
  limit := some 1
  offset := none

/-- Its written key. -/
def firstContactText : Text :=
  "postgrest$public$contact$select=id,name&limit=1$null$count=null$head=false$null".toList

theorem decode_firstContactText : CacheKey.decode {} firstContactText = some firstContactKey := by
  decide +kernel

theorem ofQueryKey_firstContactKey :
    QueryFilter.ofQueryKey firstContactKey.queryKey = .ok contactsFilter := by
  have hparams : QueryParam.ofText firstContactKey.queryKey =
      .ok [⟨"select".toList, "id,name".toList, 0⟩, ⟨"limit".toList, ['1'], 15⟩] := rfl
  rw [QueryFilter.ofQueryKey,
    parseQueryKey_of_params hparams (parseSelect_chains selectFields_contacts)]
  rfl

/-- A store that holds a result under that key. -/
def firstContactStore (data : CacheData) : Store :=
  (default : Store).insert firstContactText data

theorem enterContact_patches_first :
    enterContact.Patches firstContactKey contactsFilter [] where
  targets := by decide
  filter_eq := ofQueryKey_firstContactKey
  identifies := enterContact_patches.identifies
  not_excluded := enterContact_patches.not_excluded
  not_refetched := by decide +kernel
  order_eq := rfl

/-- One contact is entered and renamed.  An empty response has room for it,
and a page that is full leaves its own contact to a second page. -/
theorem mutateItems_fits_contacts :
    let mutations := [enterContact, renameContact]
    let room := firstContactStore (.response (.arr []) (some 0))
    let paged := firstContactStore (.pages [[contact 1 ['a']]])
    (∀ n, (mutateItems {} {} room (mutations.take n)).FitsAt firstContactText 1) ∧
      (∀ n, (mutateItems {} {} paged (mutations.take n)).FitsAt firstContactText 1) ∧
      (mutateItem {} {} enterContact paged).1.get? firstContactText =
        some (.pages [[contact 3 ['b']], [contact 1 ['a']]]) := by
  intro mutations room paged
  have hroom : room.get? firstContactText = some (.response (.arr []) (some 0)) :=
    Store.get?_insert_self _ _ _
  have hpaged : paged.get? firstContactText = some (.pages [[contact 1 ['a']]]) :=
    Store.get?_insert_self _ _ _
  refine ⟨?_, ?_, ?_⟩
  · refine (mutateItems_fits decode_firstContactText rfl (by decide) hroom
      (Nat.zero_le _) mutations).2.2 ?_
    rintro (_ | _ | n) mutation hmutation ⟨filter, orderBy, rows, count, -, -, hrows, hfull, hnew⟩
    · -- The response is empty, so it is not full.
      have hsame : room.get? firstContactText = some (.response (.arr rows) count) := hrows
      rw [hroom, Option.some.injEq, CacheData.response.injEq, Json.arr.injEq] at hsame
      rw [← hsame.1] at hfull
      contradiction
    · -- A new name enters no row.
      obtain ⟨merge, hmerge⟩ := hnew.upserts
      rw [← Option.some.inj hmutation] at hmerge
      simp [renameContact] at hmerge
    · simp [mutations] at hmutation
  · exact (mutateItems_fits decode_firstContactText rfl (by decide) hpaged
      (List.forall_mem_singleton.2 (Nat.le_refl 1)) mutations).1 trivial
  · rw [get?_mutateItem_of_patches decode_firstContactText hpaged rfl enterContact_patches_first,
      ItemMutation.patchEntry, denormalize_enterContact]
    decide +kernel

/-- A response that holds the one contact of its key holds two when another
one is entered. -/
theorem second_contact_exceeds_limit :
    let full := firstContactStore (.response (.arr [contact 1 ['a']]) (some 1))
    CacheKey.decode {} firstContactText = some firstContactKey ∧ firstContactKey.limit = some 1 ∧
      full.FitsAt firstContactText 1 ∧
      ¬ (mutateItem {} {} enterContact full).1.FitsAt firstContactText 1 := by
  intro full
  have hdata : full.get? firstContactText = some (.response (.arr [contact 1 ['a']]) (some 1)) :=
    Store.get?_insert_self _ _ _
  have hover : enterContact.Overfills {} full firstContactText firstContactKey 1 := by
    refine ⟨contactsFilter, [], _, _, enterContact_patches_first, rfl, hdata, rfl,
      ⟨none, rfl⟩, ?_, ?_⟩
    · rw [denormalize_enterContact]
      decide +kernel
    · rw [denormalize_enterContact]
      decide +kernel
  refine ⟨decode_firstContactText, rfl, ⟨_, hdata, Nat.le_refl 1⟩, ?_⟩
  rintro ⟨next, hnext, hfits⟩
  exact hover.not_fits decode_firstContactText hnext hfits

end QueryCache
