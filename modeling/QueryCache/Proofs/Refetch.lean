/-
QueryCache.Proofs.Refetch — a patched list is the list of a fresh fetch.

`fresh` is what a query answers on a table: its rows in the shape of the
query, filtered and sorted.  When the order of the query is strict on
these rows, a list is determined by its rows, so it is enough that the
patch puts in and takes out the right ones (`applyRows_fresh`).  Where the
filters on the primary keys keep the patch away, the change does not
concern the query: its fresh list is the same before and after
(`fresh_of_excluded`).
-/
import QueryCache.Proofs.PatchedLists
import QueryCache.Proofs.Projection
import QueryCache.Proofs.SortOrder

namespace QueryCache

/-! ## 1. Fresh lists -/

/-- What a query answers on a table. -/
def QueryFilter.fresh (filter : QueryFilter) (orderBy : List SortKey) (table : List Json) :
    List Json :=
  ((table.map filter.denormalize).filter filter.passes).mergeSort
    fun a b => compareRows orderBy a b != .gt

/-- The row says which row of a table it is. -/
def HoldsKeys (primaryKeys : List Text) (row : Json) : Prop :=
  ∃ source, row = .obj source ∧ ∀ name ∈ primaryKeys, (Fields.get? name source).isSome = true

/-- What a change makes of a table, up to the order of its rows: an upsert
enters a full row in the place of the one with its keys, a deletion drops
that one. -/
inductive ChangesTable (fields : List Field) (primaryKeys : List Text) (row : Json)
    (table : List Json) : RowChange → List Json → Prop where
  | upsert {table' : List Json} (hrow : IsFullRow fields row)
      (h : table'.Perm (row :: otherRows primaryKeys row table)) :
    ChangesTable fields primaryKeys row table (.upsert none) table'
  | delete {table' : List Json} (hrow : HoldsKeys primaryKeys row)
      (h : table'.Perm (otherRows primaryKeys row table)) :
    ChangesTable fields primaryKeys row table .delete table'

section

variable {filter : QueryFilter} {orderBy : List SortKey} {table : List Json}

theorem fresh_perm (filter : QueryFilter) (orderBy : List SortKey) (table : List Json) :
    (filter.fresh orderBy table).Perm
      ((table.map filter.denormalize).filter filter.passes) :=
  List.mergeSort_perm _ _

/-- Sorting puts rows in order, when the order is total on them. -/
theorem inOrder_mergeSort {rows : List Json}
    (h : TotalPreorderOn (compareRows orderBy) (· ∈ rows)) :
    InOrder orderBy (rows.mergeSort fun a b => compareRows orderBy a b != .gt) := by
  -- The order is total on these rows alone, so they are sorted as such.
  let le (a b : { row // row ∈ rows }) : Bool := compareRows orderBy a.1 b.1 != .gt
  have hsorted := @List.pairwise_mergeSort _ le
    (fun a b c hab hbc => by
      simp only [le, bne_iff_ne] at hab hbc ⊢
      exact h.trans a b c a.2 b.2 c.2 hab hbc)
    (fun a b => by
      simp only [le, Bool.or_eq_true, bne_iff_ne]
      exact h.total a b a.2 b.2)
    rows.attach
  have hmap := @List.map_mergeSort _ _ le (fun a b => compareRows orderBy a b != .gt)
    Subtype.val rows.attach fun _ _ _ _ => rfl
  rw [List.attach_map_subtype_val] at hmap
  rw [← hmap]
  refine List.pairwise_map.2 (hsorted.imp ?_)
  intro a b hab
  simpa [le] using hab

theorem mem_of_mem_fresh {row : Json} (h : row ∈ filter.fresh orderBy table) :
    row ∈ table.map filter.denormalize :=
  (List.mem_filter.1 ((fresh_perm _ _ _).mem_iff.1 h)).1

theorem inOrder_fresh (h : StrictOrderOn orderBy (· ∈ table.map filter.denormalize)) :
    InOrder orderBy (filter.fresh orderBy table) :=
  inOrder_mergeSort (h.totalPreorderOn.mono fun _ hrow => (List.mem_filter.1 hrow).1)

/-- The fresh list is the only ordered list of its rows. -/
theorem eq_fresh_of_perm (h : StrictOrderOn orderBy (· ∈ table.map filter.denormalize))
    {rows : List Json} (hrows : InOrder orderBy rows)
    (hperm : rows.Perm ((table.map filter.denormalize).filter filter.passes)) :
    rows = filter.fresh orderBy table :=
  h.eq_of_perm (hperm.trans (fresh_perm _ _ _).symm)
    (fun _ hrow => (List.mem_filter.1 (hperm.mem_iff.1 hrow)).1) hrows (inOrder_fresh h)

end

namespace ColumnQuery

variable {query : ParsedQuery} {fields : List Field} {primaryKeys : List Text} {text : Text}
  {orderBy : List SortKey} {table table' : List Json} {row : Json}

section

variable (h : ColumnQuery query fields primaryKeys)
include h

theorem holdsKeys_of_full (hrow : IsFullRow fields row) : HoldsKeys primaryKeys row := by
  obtain ⟨source, rfl, hsource⟩ := hrow
  refine ⟨source, rfl, fun name hname => ?_⟩
  obtain ⟨field, hmem, rfl, -⟩ := h.keys_selected name hname
  exact hsource field hmem

theorem holdsKeys_of_changes {change : RowChange}
    (hchange : ChangesTable fields primaryKeys row table change table') :
    HoldsKeys primaryKeys row := by
  cases hchange with
  | upsert hrow _ => exact h.holdsKeys_of_full hrow
  | delete hrow _ => exact hrow

variable (hquery : parseQueryKey text = .ok query)
include hquery

/-- Rows keep their keys in the shape of the query. -/
theorem sharesKeys_rows {a b : Json} (ha : HoldsKeys primaryKeys a)
    (hb : HoldsKeys primaryKeys b) :
    sharesKeys primaryKeys (query.rowFilter.denormalize a) (query.rowFilter.denormalize b) =
      sharesKeys primaryKeys a b := by
  obtain ⟨a, rfl, -⟩ := ha
  obtain ⟨b, rfl, -⟩ := hb
  exact h.sharesKeys_denormalize hquery a b

variable (htable : ∀ r ∈ table, IsFullRow fields r)
include htable

theorem distinct_fresh (hdistinct : DistinctKeys primaryKeys table) :
    DistinctKeys primaryKeys (query.rowFilter.fresh orderBy table) := by
  have hmapped : DistinctKeys primaryKeys (table.map query.rowFilter.denormalize) := by
    refine List.pairwise_map.2 (hdistinct.imp_of_mem ?_)
    intro a b ha hb hab
    rw [h.sharesKeys_rows hquery (h.holdsKeys_of_full (htable a ha))
      (h.holdsKeys_of_full (htable b hb))]
    exact hab
  have hfiltered : DistinctKeys primaryKeys
      ((table.map query.rowFilter.denormalize).filter query.rowFilter.passes) :=
    hmapped.sublist List.filter_sublist
  exact hfiltered.perm (fresh_perm _ _ _).symm

/-! ## 2. Patched lists -/

/-- The other rows of a fresh list are those of the other rows of the
table. -/
theorem otherRows_fresh_perm (hrow : HoldsKeys primaryKeys row) :
    (otherRows primaryKeys (query.rowFilter.denormalize row)
        (query.rowFilter.fresh orderBy table)).Perm
      (((otherRows primaryKeys row table).map query.rowFilter.denormalize).filter
        query.rowFilter.passes) := by
  have hsame : (table.map query.rowFilter.denormalize).filter
      (fun r => !sharesKeys primaryKeys r (query.rowFilter.denormalize row)) =
        (otherRows primaryKeys row table).map query.rowFilter.denormalize := by
    rw [otherRows, List.filter_map]
    congr 1
    refine List.filter_congr fun r hr => ?_
    show (!sharesKeys primaryKeys (query.rowFilter.denormalize r)
      (query.rowFilter.denormalize row)) = _
    rw [h.sharesKeys_rows hquery (h.holdsKeys_of_full (htable r hr)) hrow]
  refine ((fresh_perm _ _ _).filter _).trans ?_
  rw [← hsame, List.filter_filter, List.filter_filter]
  refine List.Perm.of_eq (List.filter_congr fun r _ => ?_)
  rw [Bool.and_comm]

/-- An upsert puts the row of its input into a fresh list, whatever row it
takes out. -/
theorem made_fresh (hrow : IsFullRow fields row) :
    (RowChange.upsert none).made? primaryKeys (query.rowFilter.denormalize row)
        (query.rowFilter.fresh orderBy table) =
      some (query.rowFilter.denormalize row) := by
  rw [RowChange.made?]
  rcases hfound : (query.rowFilter.fresh orderBy table).find? (fun r =>
      sharesKeys primaryKeys r (query.rowFilter.denormalize row)) with _ | current
  · rfl
  · obtain ⟨r, hr, rfl⟩ := List.mem_map.1 (mem_of_mem_fresh (List.mem_of_find?_eq_some hfound))
    obtain ⟨a, rfl, -⟩ := htable r hr
    have hfull := hrow
    obtain ⟨b, rfl, -⟩ := hrow
    exact congrArg some (h.mergeRow_denormalize hquery a hfull)

/-- A patched list is the fresh list of the changed table. -/
theorem applyRows_fresh (hdistinct : DistinctKeys primaryKeys table) {change : RowChange}
    (hchange : ChangesTable fields primaryKeys row table change table')
    (horder : StrictOrderOn orderBy (· ∈ table.map query.rowFilter.denormalize))
    (horder' : StrictOrderOn orderBy (· ∈ table'.map query.rowFilter.denormalize)) :
    change.applyRows (query.rowFilter.context primaryKeys orderBy)
        (query.rowFilter.denormalize row) (query.rowFilter.fresh orderBy table) =
      query.rowFilter.fresh orderBy table' := by
  have hfresh : DistinctKeys (query.rowFilter.context primaryKeys orderBy).primaryKeys
      (query.rowFilter.fresh orderBy table) := h.distinct_fresh hquery htable hdistinct
  have hothers := @otherRows_fresh_perm _ _ _ _ orderBy _ _ h hquery htable
    (h.holdsKeys_of_changes hchange)
  have hperm : (change.applyRows (query.rowFilter.context primaryKeys orderBy)
      (query.rowFilter.denormalize row) (query.rowFilter.fresh orderBy table)).Perm
        ((table'.map query.rowFilter.denormalize).filter query.rowFilter.passes) := by
    refine (RowChange.perm_applyRows rfl hfresh).trans ?_
    cases hchange with
    | delete hrow hperm => exact hothers.trans ((hperm.map _).filter _).symm
    | upsert hrow hperm =>
      have hmade := @made_fresh _ _ _ _ orderBy _ _ h hquery htable hrow
      have haccepts : (query.rowFilter.context primaryKeys orderBy).accepts
          (query.rowFilter.denormalize row) =
            query.rowFilter.passes (query.rowFilter.denormalize row) :=
        h.accepts_row hquery hrow
      refine ((hothers.append_left _).trans ?_).trans ((hperm.map _).filter _).symm
      have hctx : (query.rowFilter.context primaryKeys orderBy).primaryKeys = primaryKeys := rfl
      rw [RowChange.entered?, hctx, hmade, Option.filter_some, haccepts, List.map_cons,
        List.filter_cons]
      split <;> exact List.Perm.refl _
  refine eq_fresh_of_perm horder' (RowChange.inOrder_applyRows rfl hfresh (inOrder_fresh horder)
    (horder'.totalPreorderOn.mono fun other hother => ?_)) hperm
  exact (List.mem_filter.1 (hperm.mem_iff.1 hother)).1

/-! ## 3. Lists that are not patched -/

/-- Where the filters on the primary keys exclude the row of the input, the
fresh list has none of the rows with its keys. -/
theorem filter_passes_of_excluded {source : Fields Json}
    (hexcluded : query.rowFilter.passesOn (query.rowFilter.denormalize (.obj source))
      primaryKeys = false) :
    (table.map query.rowFilter.denormalize).filter query.rowFilter.passes =
      ((otherRows primaryKeys (.obj source) table).map query.rowFilter.denormalize).filter
        query.rowFilter.passes := by
  rw [otherRows, List.filter_map, List.filter_map, List.filter_filter]
  congr 1
  refine List.filter_congr fun r hr => ?_
  rcases hshared : sharesKeys primaryKeys r (.obj source) with _ | _
  · simp
  · obtain ⟨a, rfl, -⟩ := htable r hr
    simpa using h.not_passes_of_excluded hquery hshared hexcluded

/-- Such a change leaves the fresh list as it is. -/
theorem fresh_of_excluded {change : RowChange}
    (hchange : ChangesTable fields primaryKeys row table change table')
    (hexcluded : query.rowFilter.passesOn (query.rowFilter.denormalize row) primaryKeys = false)
    (horder : StrictOrderOn orderBy (· ∈ table.map query.rowFilter.denormalize))
    (horder' : StrictOrderOn orderBy (· ∈ table'.map query.rowFilter.denormalize)) :
    query.rowFilter.fresh orderBy table = query.rowFilter.fresh orderBy table' := by
  obtain ⟨source, rfl, hkeys⟩ := h.holdsKeys_of_changes hchange
  have hfresh := fresh_perm query.rowFilter orderBy table
  rw [h.filter_passes_of_excluded hquery htable hexcluded] at hfresh
  refine eq_fresh_of_perm horder' (inOrder_fresh horder) (hfresh.trans ?_)
  cases hchange with
  | delete hrow hperm => exact ((hperm.map _).filter _).symm
  | upsert hrow hperm =>
    have hself : sharesKeys primaryKeys (.obj source) (.obj source) = true :=
      sharesKeys_self hkeys
    have hpasses := h.not_passes_of_excluded hquery hself hexcluded
    have htable' := (hperm.map query.rowFilter.denormalize).filter query.rowFilter.passes
    rw [List.map_cons, List.filter_cons_of_neg (by simp [hpasses])] at htable'
    exact htable'.symm

end

end ColumnQuery

/-! ## 4. Changes of a store -/

/-- A change of one row of a table meets the entry of a query on it, which
holds the fresh list of the table. -/
structure MeetsFresh (config : CacheConfig) (mutation : ItemMutation) (store : Store)
    (text : Text) (key : CacheKey) (data : CacheData) (query : ParsedQuery)
    (fields : List Field) (orderBy : List SortKey) (table table' : List Json) : Prop where
  key_eq : CacheKey.decode config text = some key
  targets : mutation.targets key = true
  query_eq : parseQueryKey key.queryKey = .ok query
  columns : ColumnQuery query fields mutation.primaryKeys
  order_eq : ItemMutation.orderOf? key = some orderBy
  full : ∀ row ∈ table, IsFullRow fields row
  distinct : DistinctKeys mutation.primaryKeys table
  changes : ChangesTable fields mutation.primaryKeys mutation.input table mutation.change table'
  transform_eq : mutation.transform = id
  strict : StrictOrderOn orderBy (· ∈ table.map query.rowFilter.denormalize)
  strict' : StrictOrderOn orderBy (· ∈ table'.map query.rowFilter.denormalize)
  entry : store.get? text = some data
  fresh : data.rechunk (query.rowFilter.fresh orderBy table)
    (key.limit.getD config.defaultLimit) = data

section

variable {config : CacheConfig} {mutation : ItemMutation} {store : Store} {text : Text}
  {key : CacheKey} {data : CacheData} {query : ParsedQuery} {fields : List Field}
  {orderBy : List SortKey} {table table' : List Json}

/-- A change that meets the fresh list of a table leaves the fresh list of
the changed table, in the same shape. -/
theorem mutateItem_fresh {faults : Faults}
    (h : MeetsFresh config mutation store text key data query fields orderBy table table')
    (hhead : key.isHead = false) (hfaults : faults.write text = none) :
    (mutateItem config faults mutation store).1.get? text =
      some (data.rechunk (query.rowFilter.fresh orderBy table')
        (key.limit.getD config.defaultLimit)) := by
  have hfilter : QueryFilter.ofQueryKey key.queryKey = .ok query.rowFilter := by
    rw [QueryFilter.ofQueryKey, h.query_eq]
    rfl
  have hidentifies : mutation.identifies (query.rowFilter.denormalize mutation.input) = true := by
    obtain ⟨source, hinput, hkeys⟩ := h.columns.holdsKeys_of_changes h.changes
    rw [ItemMutation.identifies, List.all_eq_true, hinput, h.columns.denormalize_row h.query_eq]
    intro name hname
    rw [Json.get?, h.columns.get?_primaryKey source hname]
    exact hkeys name hname
  rcases hexcluded : mutation.excludedBy query.rowFilter
      (query.rowFilter.denormalize mutation.input) with _ | _
  · have hjudged := h.columns.not_wildcard_or_aggregate h.query_eq
    have hpatches : mutation.Patches key query.rowFilter orderBy :=
      { targets := h.targets
        filter_eq := hfilter
        identifies := hidentifies
        not_excluded := hexcluded
        not_refetched := by
          rw [ItemMutation.mustRefetch, hhead, hjudged.1, hjudged.2]
          rfl
        order_eq := h.order_eq }
    have hrows : data.flatten = some (query.rowFilter.fresh orderBy table) := by
      rw [← h.fresh]
      exact CacheData.flatten_rechunk _ _ _
    rw [get?_mutateItem_of_patches h.key_eq h.entry hfaults hpatches,
      patchEntry_of_flatten h.transform_eq hrows,
      h.columns.applyRows_fresh h.query_eq h.full h.distinct h.changes h.strict h.strict']
  · -- The plan leaves the entry alone, and its rows are still the fresh ones.
    have hnone : mutation.ownTask config key = none := by
      simp [ItemMutation.ownTask, ItemMutation.planOwn, h.targets, hfilter, hexcluded,
        Except.toOption]
    have hpassesOn : query.rowFilter.passesOn (query.rowFilter.denormalize mutation.input)
        mutation.primaryKeys = false := by
      simp only [ItemMutation.excludedBy, Bool.and_eq_true, Bool.not_eq_true'] at hexcluded
      exact hexcluded.2
    have hsame := h.columns.fresh_of_excluded h.query_eq h.full h.changes hpassesOn h.strict
      h.strict'
    rw [get?_mutateItem h.key_eq h.entry, hnone, ← hsame, h.fresh]
    rfl

end

/-! ## 5. A table of contacts -/

theorem columnQuery_contacts : ColumnQuery contactsQuery contactsFields ["id".toList] where
  select_eq := selectFields_contacts
  columns := by
    intro field hmem
    obtain ⟨name, hname, rfl⟩ := List.mem_map.1 hmem
    have hident : Head.isIdentifier name = true ∧ name ≠ "count".toList := by
      simp only [List.mem_cons, List.not_mem_nil, or_false] at hname
      rcases hname with rfl | rfl <;> decide
    exact ⟨rfl, ⟨by simp [Field.head], hident.1, by simp [Field.head]⟩, rfl, hident.2⟩
  distinct := by
    rw [contactsFields, List.pairwise_map]
    decide
  keys_selected := by
    intro name hname
    rw [List.mem_singleton] at hname
    subst hname
    exact ⟨_, List.mem_cons_self, rfl, rfl⟩
  filters_selected c hc := absurd hc List.not_mem_nil
  keys_outside_groups filter hfilter := absurd hfilter List.not_mem_nil

theorem isFullRow_contact (id : Int) (name : Text) :
    IsFullRow contactsFields (contact id name) := by
  refine ⟨_, rfl, ?_⟩
  intro field hmem
  obtain ⟨column, hcolumn, rfl⟩ := List.mem_map.1 hmem
  simp only [List.mem_cons, List.not_mem_nil, or_false] at hcolumn
  rcases hcolumn with rfl | rfl <;> rfl

/-- A table of contacts. -/
def contactTable (contacts : List (Int × Text)) : List Json :=
  contacts.map fun c => contact c.1 c.2

theorem isFullRow_contactTable {contacts : List (Int × Text)} :
    ∀ row ∈ contactTable contacts, IsFullRow contactsFields row := by
  intro row hrow
  obtain ⟨c, -, rfl⟩ := List.mem_map.1 hrow
  exact isFullRow_contact c.1 c.2

/-- Contacts have the shape of the query. -/
theorem map_denormalize_contactTable (contacts : List (Int × Text)) :
    (contactTable contacts).map contactsQuery.rowFilter.denormalize = contactTable contacts := by
  rw [contactTable, List.map_map]
  exact List.map_congr_left fun c _ => denormalize_contact c.1 c.2

theorem strictOrderOn_contacts :
    StrictOrderOn [.asc "name".toList]
      (· ∈ contactTable [(3, ['b']), (1, ['a']), (2, ['c'])]) := by
  constructor
  · have hconnected : ∀ a ∈ contactTable [(3, ['b']), (1, ['a']), (2, ['c'])],
        ∀ b ∈ contactTable [(3, ['b']), (1, ['a']), (2, ['c'])], a ≠ b →
        compareRows [.asc "name".toList] a b = .lt ∨
          compareRows [.asc "name".toList] b a = .lt := by decide +kernel
    exact fun a b ha hb => hconnected a ha b hb
  · have htrans : ∀ a ∈ contactTable [(3, ['b']), (1, ['a']), (2, ['c'])],
        ∀ b ∈ contactTable [(3, ['b']), (1, ['a']), (2, ['c'])],
        ∀ c ∈ contactTable [(3, ['b']), (1, ['a']), (2, ['c'])],
        compareRows [.asc "name".toList] a b = .lt →
        compareRows [.asc "name".toList] b c = .lt →
        compareRows [.asc "name".toList] a c = .lt := by decide +kernel
    exact fun a b c ha hb hc => htrans a ha b hb c hc

theorem fresh_contactTable {contacts : List (Int × Text)} {rows : List Json}
    (hstrict : StrictOrderOn [.asc "name".toList] (· ∈ contactTable contacts))
    (hrows : InOrder [.asc "name".toList] rows)
    (hperm : rows.Perm ((contactTable contacts).filter contactsFilter.passes)) :
    contactsQuery.rowFilter.fresh [.asc "name".toList] (contactTable contacts) = rows := by
  refine (eq_fresh_of_perm ?_ hrows ?_).symm
  · rw [map_denormalize_contactTable]
    exact hstrict
  · rw [map_denormalize_contactTable]
    exact hperm

/-- The change that enters the contact `b` meets the list of the contacts
`a` and `c`, for a head request as for any other. -/
theorem meetsFresh_contacts {text : Text} (isHead : Bool)
    (hkey : CacheKey.decode {} text = some { contactsKey with isHead }) :
    MeetsFresh {} enterContact (contactsStore text) text { contactsKey with isHead } contactsData
      contactsQuery contactsFields [.asc "name".toList] (contactTable [(1, ['a']), (2, ['c'])])
      (contactTable [(3, ['b']), (1, ['a']), (2, ['c'])]) where
  key_eq := hkey
  targets := rfl
  query_eq := parseQueryKey_contacts
  columns := columnQuery_contacts
  order_eq := orderOf?_contactsKey
  full := isFullRow_contactTable
  distinct := by
    unfold DistinctKeys
    decide +kernel
  changes := by
    refine .upsert (isFullRow_contact 3 ['b']) (List.Perm.of_eq ?_)
    decide +kernel
  transform_eq := rfl
  strict := by
    rw [map_denormalize_contactTable]
    exact strictOrderOn_contacts.mono fun _ h => List.mem_cons_of_mem _ h
  strict' := by
    rw [map_denormalize_contactTable]
    exact strictOrderOn_contacts
  entry := Store.get?_insert_self _ _ _
  fresh := by
    have hfresh : contactsQuery.rowFilter.fresh [.asc "name".toList]
        (contactTable [(1, ['a']), (2, ['c'])]) = [contact 1 ['a'], contact 2 ['c']] := by
      refine fresh_contactTable (strictOrderOn_contacts.mono fun _ h =>
        List.mem_cons_of_mem _ h) ?_ ?_
      · unfold InOrder
        decide +kernel
      · decide +kernel
    rw [hfresh]
    rfl

/-- Entering the contact `b` leaves the fresh list of the three contacts. -/
theorem mutateItem_fresh_contacts :
    MeetsFresh {} enterContact (contactsStore contactsText) contactsText contactsKey contactsData
        contactsQuery contactsFields [.asc "name".toList]
        (contactTable [(1, ['a']), (2, ['c'])])
        (contactTable [(3, ['b']), (1, ['a']), (2, ['c'])]) ∧
      (mutateItem {} {} enterContact (contactsStore contactsText)).1.get? contactsText =
        some (contactsData.rechunk
          (contactsQuery.rowFilter.fresh [.asc "name".toList]
            (contactTable [(3, ['b']), (1, ['a']), (2, ['c'])])) 1000) :=
  ⟨meetsFresh_contacts false decode_contactsText,
    mutateItem_fresh (meetsFresh_contacts false decode_contactsText) rfl rfl⟩

/-- The written key of the head request for the contacts. -/
def contactsHeadText : Text :=
  "postgrest$public$contact$select=id,name$null$count=null$head=true$name:asc".toList

/-- The entry of a head request is left for the next fetch. -/
theorem contactsHead_not_fresh :
    MeetsFresh {} enterContact (contactsStore contactsHeadText) contactsHeadText
        { contactsKey with isHead := true } contactsData contactsQuery contactsFields
        [.asc "name".toList] (contactTable [(1, ['a']), (2, ['c'])])
        (contactTable [(3, ['b']), (1, ['a']), (2, ['c'])]) ∧
      (mutateItem {} {} enterContact (contactsStore contactsHeadText)).1.get?
          contactsHeadText ≠
        some (contactsData.rechunk
          (contactsQuery.rowFilter.fresh [.asc "name".toList]
            (contactTable [(3, ['b']), (1, ['a']), (2, ['c'])])) 1000) := by
  have hkey : CacheKey.decode {} contactsHeadText = some { contactsKey with isHead := true } := by
    decide +kernel
  have hmeets := meetsFresh_contacts true hkey
  refine ⟨hmeets, ?_⟩
  rcases mutateItem_cases hmeets.key_eq hmeets.entry {} enterContact with
    hsame | ⟨filter, orderBy, hpatch, -⟩
  · -- The entry still has two rows, and the fresh list has three.
    have hlength : (contactsQuery.rowFilter.fresh [.asc "name".toList]
        (contactTable [(3, ['b']), (1, ['a']), (2, ['c'])])).length = 3 := by
      rw [(fresh_perm _ _ _).length_eq, map_denormalize_contactTable]
      decide +kernel
    rw [hsame, contactsData, CacheData.rechunk, hlength]
    simp
  · exact absurd hpatch.not_refetched (by simp [ItemMutation.mustRefetch])

end QueryCache
