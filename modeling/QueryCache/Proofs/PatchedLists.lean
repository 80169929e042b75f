/-
QueryCache.Proofs.PatchedLists — a cached list stays a list of its query.

The rows under a key are good when they belong to the query, stand in its
order, and have distinct keys.  One change keeps them good
(`GoodRows.applyRows`), whatever it does: it takes out the row with the
keys of the input, and the row that it puts back passes the filter.  So a
run of changes keeps them good, and each change of it leaves the other rows
(`mutateItems_good`).
-/
import QueryCache.Proofs.ChangedRows
import QueryCache.Proofs.Reshape.Built
import QueryCache.Proofs.Select.Chains
import QueryCache.Proofs.Select.Written
import QueryCache.Proofs.StoreRuns

namespace QueryCache

/-- Rows as a query answers them. -/
structure GoodRows (primaryKeys : List Text) (filter : QueryFilter) (orderBy : List SortKey)
    (rows : List Json) : Prop where
  accepted : ∀ row ∈ rows, filter.accepts row = true
  sorted : InOrder orderBy rows
  distinct : DistinctKeys primaryKeys rows

section

variable {primaryKeys : List Text} {filter : QueryFilter} {orderBy : List SortKey}
  {rows : List Json}

/-! ## 1. One change of good rows -/

/-- A change of good rows makes good rows, and the other rows stay. -/
theorem GoodRows.applyRows (h : GoodRows primaryKeys filter orderBy rows) {change : RowChange}
    {input : Json} (hkeeps : change.KeepsKeys primaryKeys)
    (hinput : ∀ key ∈ primaryKeys, (input.get? key).isSome = true)
    (hfields : ∀ fields, input = .obj fields → Fields.Ascending fields)
    (horder : TotalPreorderOn (compareRows orderBy) fun row =>
      row ∈ rows ∨ row ∈ change.applyRows (filter.context primaryKeys orderBy) input rows) :
    GoodRows primaryKeys filter orderBy
        (change.applyRows (filter.context primaryKeys orderBy) input rows) ∧
      QueryCache.otherRows primaryKeys input
          (change.applyRows (filter.context primaryKeys orderBy) input rows) =
        QueryCache.otherRows primaryKeys input rows := by
  have hdistinct : DistinctKeys (filter.context primaryKeys orderBy).primaryKeys rows := h.distinct
  have hkeyed : change.IsKeyed (filter.context primaryKeys orderBy).primaryKeys input :=
    ⟨hkeeps, hinput, hfields⟩
  refine ⟨⟨fun row hrow => ?_,
    RowChange.inOrder_applyRows rfl hdistinct h.sorted (horder.mono fun _ => Or.inr),
    RowChange.distinctKeys_applyRows hkeyed rfl hdistinct⟩,
    RowChange.otherRows_applyRows hkeyed rfl hdistinct⟩
  rcases (RowChange.mem_applyRows rfl hdistinct).1 hrow with hentered | hother
  · exact (RowChange.made_of_entered hentered).2
  · exact h.accepted row (mem_otherRows.1 hother).1

end

/-! ## 2. One change of a store -/

/-- The rows of the list under a key; none where there is no list. -/
def Store.listAt? (store : Store) (key : Text) : Option (List Json) :=
  (store.get? key).bind CacheData.flatten

section

variable {config : CacheConfig} {faults : Faults} {text : Text} {key : CacheKey}
  {filter : QueryFilter} {orderBy : List SortKey} {store : Store} {rows : List Json}
  {mutation : ItemMutation}

/-- A patch of a list changes its rows and nothing else. -/
theorem patchEntry_of_flatten {data : CacheData} (htransform : mutation.transform = id)
    (hrows : data.flatten = some rows) :
    mutation.patchEntry config key filter orderBy (some data) =
      some (data.rechunk (mutation.change.applyRows (filter.context mutation.primaryKeys orderBy)
        (filter.denormalize mutation.input) rows) (key.limit.getD config.defaultLimit)) := by
  simp only [ItemMutation.patchEntry, Option.map_some, RowChange.apply, hrows, htransform]
  rfl

/-- The rows of a patched list, each that enters transformed. -/
theorem flatten_patchEntry_eq {data : CacheData} (hrows : data.flatten = some rows) :
    (mutation.patchEntry config key filter orderBy (some data)).bind CacheData.flatten =
      some (mutation.change.applyRows
        ⟨mutation.primaryKeys, filter.accepts, orderBy, mutation.transform⟩
        (filter.denormalize mutation.input) rows) := by
  simp only [ItemMutation.patchEntry, Option.map_some, RowChange.apply, hrows]
  exact CacheData.flatten_rechunk _ _ _

theorem flatten_patchEntry {data : CacheData} (htransform : mutation.transform = id)
    (hrows : data.flatten = some rows) :
    (mutation.patchEntry config key filter orderBy (some data)).bind CacheData.flatten =
      some (mutation.change.applyRows (filter.context mutation.primaryKeys orderBy)
        (filter.denormalize mutation.input) rows) := by
  rw [flatten_patchEntry_eq hrows, htransform]
  rfl

/-- The list under a key after a change that patches it. -/
theorem listAt?_mutateItem_of_patches (hkey : CacheKey.decode config text = some key)
    (hrows : store.listAt? text = some rows) (hfaults : faults.write text = none)
    (htransform : mutation.transform = id) (h : mutation.Patches key filter orderBy) :
    (mutateItem config faults mutation store).1.listAt? text =
      some (mutation.change.applyRows (filter.context mutation.primaryKeys orderBy)
        (filter.denormalize mutation.input) rows) := by
  obtain ⟨data, hdata, hflatten⟩ := Option.bind_eq_some_iff.1 hrows
  rw [Store.listAt?, get?_mutateItem_of_patches hkey hdata hfaults h]
  exact flatten_patchEntry htransform hflatten

/-- A change of a store keeps the rows of a list good, and leaves the other
ones. -/
theorem mutateItem_good (hkey : CacheKey.decode config text = some key)
    (hfilter : QueryFilter.ofQueryKey key.queryKey = .ok filter)
    (hsort : ItemMutation.orderOf? key = some orderBy) (hrows : store.listAt? text = some rows)
    (hgood : GoodRows mutation.primaryKeys filter orderBy rows)
    (hkeeps : mutation.change.KeepsKeys mutation.primaryKeys)
    (htransform : mutation.transform = id)
    (horder : TotalPreorderOn (compareRows orderBy) fun row =>
      row ∈ rows ∨ row ∈ ((mutateItem config faults mutation store).1.listAt? text).getD []) :
    ∃ next, (mutateItem config faults mutation store).1.listAt? text = some next ∧
      GoodRows mutation.primaryKeys filter orderBy next ∧
      otherRows mutation.primaryKeys (filter.denormalize mutation.input) next =
        otherRows mutation.primaryKeys (filter.denormalize mutation.input) rows := by
  obtain ⟨data, hdata, hflatten⟩ := Option.bind_eq_some_iff.1 hrows
  rcases mutateItem_cases hkey hdata faults mutation with hsame | ⟨filter', orderBy', hpatch, heq⟩
  · refine ⟨rows, ?_, hgood, rfl⟩
    rw [Store.listAt?, hsame]
    exact hflatten
  · -- The filter and the order of the plan are those of the key.
    have hfilter' := hpatch.filter_eq
    rw [hfilter, Except.ok.injEq] at hfilter'
    have hsort' := hpatch.order_eq
    rw [hsort, Option.some.injEq] at hsort'
    subst hfilter' hsort'
    have hnext : (mutateItem config faults mutation store).1.listAt? text =
        some (mutation.change.applyRows (filter.context mutation.primaryKeys orderBy)
          (filter.denormalize mutation.input) rows) := by
      rw [Store.listAt?, heq]
      exact flatten_patchEntry htransform hflatten
    have hinput : ∀ name ∈ mutation.primaryKeys,
        ((filter.denormalize mutation.input).get? name).isSome = true := by
      simpa [ItemMutation.identifies] using hpatch.identifies
    rw [hnext] at horder
    obtain ⟨hgood', hothers⟩ := hgood.applyRows hkeeps hinput
      (fun fields h => ascending_of_denormalize h) horder
    exact ⟨_, hnext, hgood', hothers⟩

/-! ## 3. Runs -/

/-- The rows of a list that are good at the start are good after every
change of a run, and every change leaves the rows that do not have the
keys of its input, in their order. -/
theorem mutateItems_good {primaryKeys : List Text} {mutations : List ItemMutation}
    (hkey : CacheKey.decode config text = some key)
    (hfilter : QueryFilter.ofQueryKey key.queryKey = .ok filter)
    (hsort : ItemMutation.orderOf? key = some orderBy) (hrows : store.listAt? text = some rows)
    (hgood : GoodRows primaryKeys filter orderBy rows)
    (hmutations : ∀ mutation ∈ mutations, mutation.primaryKeys = primaryKeys ∧
      mutation.transform = id ∧ mutation.change.KeepsKeys primaryKeys)
    (horder : TotalPreorderOn (compareRows orderBy) fun row => ∃ n,
      row ∈ ((mutateItems config faults store (mutations.take n)).listAt? text).getD [])
    (n : Nat) :
    ∃ rows, (mutateItems config faults store (mutations.take n)).listAt? text = some rows ∧
      GoodRows primaryKeys filter orderBy rows ∧
      ∀ mutation, mutations[n]? = some mutation → ∃ next,
        (mutateItems config faults store (mutations.take (n + 1))).listAt? text = some next ∧
        otherRows primaryKeys (filter.denormalize mutation.input) next =
          otherRows primaryKeys (filter.denormalize mutation.input) rows := by
  have step : ∀ n rows mutation, mutations[n]? = some mutation →
      (mutateItems config faults store (mutations.take n)).listAt? text = some rows →
      GoodRows primaryKeys filter orderBy rows → ∃ next,
        (mutateItems config faults store (mutations.take (n + 1))).listAt? text = some next ∧
        GoodRows primaryKeys filter orderBy next ∧
        otherRows primaryKeys (filter.denormalize mutation.input) next =
          otherRows primaryKeys (filter.denormalize mutation.input) rows := by
    intro n rows mutation hmutation hrows hgood
    obtain ⟨hprimary, htransform, hkeeps⟩ :=
      hmutations mutation (List.mem_of_getElem? hmutation)
    subst hprimary
    have hnext := mutateItems_take_succ hmutation config faults store
    rw [hnext]
    refine mutateItem_good hkey hfilter hsort hrows hgood hkeeps htransform (horder.mono ?_)
    rintro row (hrow | hrow)
    · exact ⟨n, by simpa [hrows] using hrow⟩
    · exact ⟨n + 1, by rw [hnext]; exact hrow⟩
  have reached : ∃ rows,
      (mutateItems config faults store (mutations.take n)).listAt? text = some rows ∧
        GoodRows primaryKeys filter orderBy rows := by
    let P (store : Store) : Prop := ∃ rows, store.listAt? text = some rows ∧
      GoodRows primaryKeys filter orderBy rows
    have hstart : P store := ⟨rows, hrows, hgood⟩
    refine mutateItems_induction hstart ?_ n
    rintro n mutation hmutation ⟨rows, hrows, hgood⟩
    obtain ⟨next, hnext, hgood', -⟩ := step n rows mutation hmutation hrows hgood
    exact ⟨next, hnext, hgood'⟩
  obtain ⟨rows, hrows, hgood⟩ := reached
  refine ⟨rows, hrows, hgood, ?_⟩
  intro mutation hmutation
  obtain ⟨next, hnext, -, hothers⟩ := step n rows mutation hmutation hrows hgood
  exact ⟨next, hnext, hothers⟩

end

/-! ## 4. A list of contacts -/

/-- The query for the contacts by name. -/
def contactsKey : CacheKey where
  schema := "public".toList
  table := "contact".toList
  queryKey := "select=id,name".toList
  select := "id,name".toList
  limit := none
  offset := none
  orderByKey := some "name:asc".toList

/-- The written key of that query. -/
def contactsText : Text :=
  "postgrest$public$contact$select=id,name$null$count=null$head=false$name:asc".toList

theorem decode_contactsText : CacheKey.decode {} contactsText = some contactsKey := by
  decide

theorem orderOf?_contactsKey :
    ItemMutation.orderOf? contactsKey = some [.asc "name".toList] := by
  decide

/-- The columns of that query. -/
def contactsFields : List Field :=
  ["id".toList, "name".toList].map fun name => .mk ⟨name, none, name, []⟩ []

/-- That query, read. -/
def contactsQuery : ParsedQuery where
  select := "id,name".toList
  paths := ["id".toList, "name".toList].map Path.ofText

theorem selectFields_contacts : selectFields contactsQuery.select = .ok contactsFields :=
  @GroupedPath.selectFields_statement
    [.leaf ⟨"id".toList, "id".toList, none⟩, .leaf ⟨"name".toList, "name".toList, none⟩] (by simp)
    ⟨GroupedPath.isPlainEntry_segment (by decide), GroupedPath.isPlainEntry_segment (by decide),
      trivial⟩

theorem parseQueryKey_contacts : parseQueryKey contactsKey.queryKey = .ok contactsQuery := by
  have hparams : QueryParam.ofText contactsKey.queryKey =
      .ok [⟨"select".toList, "id,name".toList, 0⟩] := rfl
  rw [parseQueryKey_select hparams (parseSelect_chains selectFields_contacts)]
  rfl

theorem ofQueryKey_contactsKey :
    QueryFilter.ofQueryKey contactsKey.queryKey = .ok contactsFilter := by
  rw [QueryFilter.ofQueryKey, parseQueryKey_contacts]
  rfl

/-- The contacts `a` and `c`. -/
def contactsData : CacheData :=
  .response (.arr [contact 1 ['a'], contact 2 ['c']]) (some 2)

/-- A store that holds them under one key. -/
def contactsStore (text : Text) : Store :=
  (default : Store).insert text contactsData

/-- The contact `b` is entered. -/
def enterContact : ItemMutation where
  schema := "public".toList
  table := "contact".toList
  input := contact 3 ['b']
  primaryKeys := ["id".toList]
  change := .upsert none

theorem denormalize_contact (id : Int) (name : Text) :
    contactsFilter.denormalize (contact id name) = contact id name := by
  rw [QueryFilter.denormalize, denormalize, contact, Slot.reshape_obj, Slot.reshapeFields_eq]
  rfl

/-- The contact `b` is renamed. -/
def renameContact : ItemMutation :=
  { enterContact with change := .mutate (rename ['d']) }

theorem denormalize_enterContact :
    contactsFilter.denormalize enterContact.input = contact 3 ['b'] :=
  denormalize_contact 3 ['b']

theorem enterContact_patches :
    enterContact.Patches contactsKey contactsFilter [.asc "name".toList] where
  targets := by decide
  filter_eq := ofQueryKey_contactsKey
  identifies := by
    rw [denormalize_enterContact]
    decide
  not_excluded := by
    rw [denormalize_enterContact]
    decide
  not_refetched := by decide
  order_eq := orderOf?_contactsKey

/-- What is done to the contact does not matter to the plan. -/
theorem renameContact_patches :
    renameContact.Patches contactsKey contactsFilter [.asc "name".toList] where
  targets := enterContact_patches.targets
  filter_eq := enterContact_patches.filter_eq
  identifies := enterContact_patches.identifies
  not_excluded := enterContact_patches.not_excluded
  not_refetched := enterContact_patches.not_refetched
  order_eq := enterContact_patches.order_eq

/-- The rows that occur. -/
def contactsOccurring : List Json :=
  [contact 1 ['a'], contact 3 ['b'], contact 2 ['c'], contact 3 ['d']]

theorem totalPreorderOn_contacts :
    TotalPreorderOn (compareRows [.asc "name".toList]) (· ∈ contactsOccurring) := by
  constructor
  · have htotal : ∀ a ∈ contactsOccurring, ∀ b ∈ contactsOccurring,
        compareRows [.asc "name".toList] a b ≠ .gt ∨
          compareRows [.asc "name".toList] b a ≠ .gt := by decide
    exact fun a b ha hb => htotal a ha b hb
  · have htrans : ∀ a ∈ contactsOccurring, ∀ b ∈ contactsOccurring, ∀ c ∈ contactsOccurring,
        compareRows [.asc "name".toList] a b ≠ .gt →
        compareRows [.asc "name".toList] b c ≠ .gt →
        compareRows [.asc "name".toList] a c ≠ .gt := by decide
    exact fun a b c ha hb hc => htrans a ha b hb c hc

theorem listAt?_enterContact :
    (mutateItem {} {} enterContact (contactsStore contactsText)).1.listAt? contactsText =
      some [contact 1 ['a'], contact 3 ['b'], contact 2 ['c']] := by
  have hrows : (contactsStore contactsText).listAt? contactsText =
      some [contact 1 ['a'], contact 2 ['c']] := by decide
  rw [listAt?_mutateItem_of_patches decode_contactsText hrows rfl rfl enterContact_patches,
    denormalize_enterContact]
  decide +kernel

theorem listAt?_renameContact {store : Store} (hrows : store.listAt? contactsText =
      some [contact 1 ['a'], contact 3 ['b'], contact 2 ['c']]) :
    (mutateItem {} {} renameContact store).1.listAt? contactsText =
      some [contact 1 ['a'], contact 2 ['c'], contact 3 ['d']] := by
  have hinput : contactsFilter.denormalize renameContact.input = contact 3 ['b'] :=
    denormalize_enterContact
  rw [listAt?_mutateItem_of_patches decode_contactsText hrows rfl rfl renameContact_patches,
    hinput]
  decide +kernel

/-- The contact `b` goes to its place in the cached list, and to another one
when it is renamed. -/
theorem mutateItems_good_contacts :
    ∃ rows, (mutateItems {} {} (contactsStore contactsText)
        ([enterContact, renameContact].take 1)).listAt? contactsText = some rows ∧
      GoodRows ["id".toList] contactsFilter [.asc "name".toList] rows ∧
      ∀ mutation, [enterContact, renameContact][1]? = some mutation → ∃ next,
        (mutateItems {} {} (contactsStore contactsText)
          ([enterContact, renameContact].take 2)).listAt? contactsText = some next ∧
        otherRows ["id".toList] (contactsFilter.denormalize mutation.input) next =
          otherRows ["id".toList] (contactsFilter.denormalize mutation.input) rows := by
  have hrows : (contactsStore contactsText).listAt? contactsText =
      some [contact 1 ['a'], contact 2 ['c']] := by decide
  have hgood : GoodRows ["id".toList] contactsFilter [.asc "name".toList]
      [contact 1 ['a'], contact 2 ['c']] := by
    refine ⟨by decide, ?_, ?_⟩
    · unfold InOrder
      decide
    · unfold DistinctKeys
      decide
  -- The list at the start, after the first change and after the second.
  have hoccur : ∀ row, (∃ n, row ∈ ((mutateItems {} {} (contactsStore contactsText)
      ([enterContact, renameContact].take n)).listAt? contactsText).getD []) →
      row ∈ contactsOccurring := by
    rintro row ⟨n, hrow⟩
    rcases n with _ | _ | n
    · have hstart : (mutateItems {} {} (contactsStore contactsText)
          ([enterContact, renameContact].take 0)).listAt? contactsText =
            some [contact 1 ['a'], contact 2 ['c']] := hrows
      rw [hstart, Option.getD_some] at hrow
      exact List.Sublist.subset (by decide) hrow
    · have hfirst : (mutateItems {} {} (contactsStore contactsText)
          ([enterContact, renameContact].take 1)).listAt? contactsText =
            some [contact 1 ['a'], contact 3 ['b'], contact 2 ['c']] := listAt?_enterContact
      rw [hfirst, Option.getD_some] at hrow
      exact List.Sublist.subset (by decide) hrow
    · have hlast : (mutateItems {} {} (contactsStore contactsText)
          ([enterContact, renameContact].take (n + 2))).listAt? contactsText =
            some [contact 1 ['a'], contact 2 ['c'], contact 3 ['d']] := by
        rw [List.take_succ_cons, List.take_succ_cons, List.take_nil]
        exact listAt?_renameContact listAt?_enterContact
      rw [hlast, Option.getD_some] at hrow
      exact List.Sublist.subset (by decide) hrow
  refine mutateItems_good decode_contactsText ofQueryKey_contactsKey orderOf?_contactsKey hrows
    hgood ?_ (totalPreorderOn_contacts.mono hoccur) 1
  intro mutation hmutation
  simp only [List.mem_cons, List.not_mem_nil, or_false] at hmutation
  rcases hmutation with rfl | rfl
  · exact ⟨rfl, rfl, trivial⟩
  · exact ⟨rfl, rfl, keepsKeys_rename ['d']⟩

end QueryCache
