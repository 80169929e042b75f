/-
QueryCache.Proofs.UnpatchableKeys — queries whose rows cannot be judged one
by one.

A head request, a wildcard and an aggregate cannot be patched, so their
entries stay as they are and the key is to be revalidated.  A change first
asks whether the input, in the shape of the query, names its row, and
passes the key over when it does not, before it sees that the key cannot be
patched.  So the key is revalidated exactly when that shape has every primary
key, or a rule of the change names it (`mutateItem_unpatchable`).  A query that
keeps the primary keys under their names is always revalidated, and one that
leaves them out goes stale (`names_not_revalidated`).
-/
import QueryCache.Proofs.PatchedLists
import QueryCache.Proofs.Projection
import QueryCache.Proofs.SelectedColumns

namespace QueryCache

namespace ItemMutation

/-! ## 1. Scheduled tasks -/

theorem mem_plan_iff {config : CacheConfig} {mutation : ItemMutation} {keys : List Text}
    {text : Text} {task : KeyTask} :
    (text, task) ∈ mutation.plan config keys ↔
      text ∈ keys ∧ task ∈ mutation.planKey config text := by
  rw [plan, List.mem_flatMap]
  constructor
  · rintro ⟨key, hkey, hmem⟩
    obtain ⟨other, hother, heq⟩ := List.mem_map.1 hmem
    obtain ⟨rfl, rfl⟩ := Prod.mk.inj heq
    exact ⟨hkey, hother⟩
  · rintro ⟨hkey, hmem⟩
    exact ⟨text, hkey, List.mem_map_of_mem hmem⟩

/-- A key is revalidated for its own sake or because of a rule. -/
theorem revalidate_mem_planKey_iff {config : CacheConfig} {mutation : ItemMutation} {text : Text}
    {key : CacheKey} (hkey : CacheKey.decode config text = some key) :
    .revalidate ∈ mutation.planKey config text ↔
      mutation.ownTask config key = some .revalidate ∨
        mutation.isNamedByRule config key
          (QueryFilter.ofQueryKey key.queryKey).toOption = true := by
  rw [planKey_eq hkey, List.mem_append, Option.mem_toList]
  refine or_congr_right ?_
  split <;> simp_all

/-- A query that keeps the primary keys of the input has them in its
shape. -/
theorem identifies_denormalize {mutation : ItemMutation} {text : Text} {filter : QueryFilter}
    (hfilter : QueryFilter.ofQueryKey text = .ok filter)
    (hinput : mutation.identifies mutation.input = true)
    (hkeeps : ∀ name ∈ mutation.primaryKeys, filter.Keeps name) :
    mutation.identifies (filter.denormalize mutation.input) = true := by
  rw [identifies, List.all_eq_true] at hinput ⊢
  intro name hname
  obtain ⟨value, hvalue⟩ := Option.isSome_iff_exists.1 (hinput name hname)
  rw [QueryFilter.get?_denormalize_of_keeps (QueryFilter.isAligned_of_ofQueryKey hfilter)
    (hkeeps name hname) hvalue]
  rfl

/-- A change of the table meets an entry that cannot be patched, under a
key whose filters say nothing about the primary keys. -/
structure MeetsUnpatchable (config : CacheConfig) (mutation : ItemMutation) (store : Store)
    (text : Text) (key : CacheKey) (data : CacheData) : Prop where
  key_eq : CacheKey.decode config text = some key
  data_eq : store.get? text = some data
  targets : mutation.targets key = true
  not_judged : key.isHead = true ∨ ∃ filter, QueryFilter.ofQueryKey key.queryKey = .ok filter ∧
    (filter.hasWildcard = true ∨ filter.hasAggregate = true)
  keys_unfiltered : ∀ filter, QueryFilter.ofQueryKey key.queryKey = .ok filter →
    ∀ c ∈ filter.filters.flatMap FilterTree.conditions,
      c.targets mutation.primaryKeys = false

section

variable {config : CacheConfig} {mutation : ItemMutation} {store : Store} {text : Text}
  {key : CacheKey} {data : CacheData}
  (h : mutation.MeetsUnpatchable config store text key data)
include h

theorem MeetsUnpatchable.not_excluded {filter : QueryFilter}
    (hfilter : QueryFilter.ofQueryKey key.queryKey = .ok filter) (input : Json) :
    mutation.excludedBy filter input = false := by
  have hnone : filter.filtersOn mutation.primaryKeys = [] := by
    rw [QueryFilter.filtersOn, List.filterMap_eq_nil_iff]
    intro tree htree
    exact FilterTree.restrictTo?_eq_none tree fun c hc =>
      h.keys_unfiltered filter hfilter c (List.mem_flatMap.2 ⟨tree, htree, hc⟩)
  rw [excludedBy, QueryFilter.hasFiltersOn, hnone]
  rfl

theorem MeetsUnpatchable.mustRefetch {filter : QueryFilter}
    (hfilter : QueryFilter.ofQueryKey key.queryKey = .ok filter) :
    ItemMutation.mustRefetch key filter = true := by
  rw [ItemMutation.mustRefetch]
  rcases h.not_judged with hhead | ⟨other, hother, hpaths⟩
  · rw [hhead, Bool.true_or, Bool.true_or]
  · obtain rfl : other = filter := by
      rw [hfilter] at hother
      exact (Except.ok.inj hother).symm
    rw [Bool.or_assoc, Bool.or_eq_true, Bool.or_eq_true]
    exact Or.inr hpaths

/-- Such a key is revalidated if the input names its row in the shape of the
query, and left alone if it does not. -/
theorem MeetsUnpatchable.ownTask_eq :
    mutation.ownTask config key = some .revalidate ∧
        (∀ filter, QueryFilter.ofQueryKey key.queryKey = .ok filter →
          mutation.identifies (filter.denormalize mutation.input) = true) ∨
      mutation.ownTask config key = none ∧
        ∃ filter, QueryFilter.ofQueryKey key.queryKey = .ok filter ∧
          mutation.identifies (filter.denormalize mutation.input) = false := by
  rw [ownTask, if_pos h.targets]
  unfold planOwn
  rcases hfilter : QueryFilter.ofQueryKey key.queryKey with error | filter
  · exact Or.inl ⟨rfl, by simp⟩
  · simp only [Except.toOption, h.not_excluded hfilter, h.mustRefetch hfilter, Bool.or_false,
      Except.ok.injEq, exists_eq_left', forall_eq', Bool.not_eq_true', if_true]
    rcases hidentifies : mutation.identifies (filter.denormalize mutation.input) with _ | _
    · exact Or.inr ⟨rfl, rfl⟩
    · exact Or.inl ⟨rfl, rfl⟩

/-- It is revalidated exactly then, or when a rule names it. -/
theorem MeetsUnpatchable.revalidate_mem_plan_iff :
    (text, .revalidate) ∈ mutation.plan config store.keys ↔
      (∀ filter, QueryFilter.ofQueryKey key.queryKey = .ok filter →
        mutation.identifies (filter.denormalize mutation.input) = true) ∨
      mutation.isNamedByRule config key
        (QueryFilter.ofQueryKey key.queryKey).toOption = true := by
  rw [mem_plan_iff, revalidate_mem_planKey_iff h.key_eq]
  simp only [Store.mem_keys_of_get? h.data_eq, true_and]
  refine or_congr_left ?_
  rcases h.ownTask_eq with ⟨htask, hidentifies⟩ | ⟨htask, filter, hfilter, hnot⟩
  · simp only [htask, true_iff]
    exact hidentifies
  · simp only [htask, reduceCtorEq, false_iff]
    intro hidentifies
    rw [hidentifies filter hfilter] at hnot
    contradiction

end
end ItemMutation

/-! ## 2. What a change does to such keys -/

/-- An entry that cannot be patched stays as it is, and its key is
revalidated exactly when the input in the shape of the query has every
primary key, or a rule names the key.  A query that keeps the primary keys
of the input is revalidated. -/
theorem mutateItem_unpatchable {config : CacheConfig} {mutation : ItemMutation} {store : Store}
    {text : Text} {key : CacheKey} {data : CacheData}
    (h : mutation.MeetsUnpatchable config store text key data) (faults : Faults) :
    (mutateItem config faults mutation store).1.get? text = some data ∧
    ((text, .revalidate) ∈ mutation.plan config store.keys ↔
      (∀ filter, QueryFilter.ofQueryKey key.queryKey = .ok filter →
        mutation.identifies (filter.denormalize mutation.input) = true) ∨
      mutation.isNamedByRule config key
        (QueryFilter.ofQueryKey key.queryKey).toOption = true) ∧
    (mutation.identifies mutation.input = true →
      (∀ filter, QueryFilter.ofQueryKey key.queryKey = .ok filter →
        ∀ name ∈ mutation.primaryKeys, filter.Keeps name) →
      (text, .revalidate) ∈ mutation.plan config store.keys) := by
  refine ⟨?_, h.revalidate_mem_plan_iff, fun hinput hkeeps => ?_⟩
  · rw [get?_mutateItem h.key_eq h.data_eq]
    rcases h.ownTask_eq with ⟨htask, -⟩ | ⟨htask, -⟩
    · rw [htask]
      rfl
    · rw [htask]
      rfl
  · exact h.revalidate_mem_plan_iff.2 (Or.inl fun filter hfilter =>
      ItemMutation.identifies_denormalize hfilter hinput (hkeeps filter hfilter))

/-! ## 3. Heads of contacts -/

/-- The head request for a selection from the contacts. -/
def contactsHead (clause : Text) : CacheKey where
  schema := "public".toList
  table := "contact".toList
  queryKey := "select=".toList ++ clause
  select := clause
  isHead := true
  limit := none
  offset := none

/-- Its written key. -/
def headText (clause : Text) : Text :=
  "postgrest$public$contact$select=".toList ++ clause ++ "$null$count=null$head=true$null".toList

/-- Its result: no rows, and their number. -/
def contactsCount : CacheData :=
  .response .null (some 2)

theorem enterContact_meetsUnpatchable {clause : Text} {filter : QueryFilter}
    (hkey : CacheKey.decode {} (headText clause) = some (contactsHead clause))
    (hfilter : QueryFilter.ofQueryKey (contactsHead clause).queryKey = .ok filter)
    (hnone : filter.filters = []) :
    enterContact.MeetsUnpatchable {} ((default : Store).insert (headText clause) contactsCount)
      (headText clause) (contactsHead clause) contactsCount where
  key_eq := hkey
  data_eq := Store.get?_insert_self _ _ _
  targets := rfl
  not_judged := Or.inl rfl
  keys_unfiltered := by
    intro other hother
    rw [hfilter] at hother
    rw [← Except.ok.inj hother, hnone]
    simp

/-- The number of contacts is asked for again when a contact is entered, if
ids and names were selected. -/
theorem mutateItem_unpatchable_contacts :
    enterContact.MeetsUnpatchable {}
        ((default : Store).insert (headText "id,name") contactsCount) (headText "id,name")
        (contactsHead "id,name") contactsCount ∧
      (headText "id,name", .revalidate) ∈
        enterContact.plan {} ((default : Store).insert (headText "id,name") contactsCount).keys := by
  have hkey : CacheKey.decode {} (headText "id,name") = some (contactsHead "id,name") := by
    decide +kernel
  have hmeets := enterContact_meetsUnpatchable hkey ofQueryKey_contactsKey rfl
  refine ⟨hmeets, (mutateItem_unpatchable hmeets {}).2.2 (by decide +kernel) ?_⟩
  intro filter hfilter name hname
  obtain rfl := Except.ok.inj (ofQueryKey_contactsKey.symm.trans hfilter)
  exact Or.inl (QueryFilter.selects_of_columns ["id".toList, "name".toList] rfl (by decide)
    (by revert hname; revert name; decide))

/-- The names of contacts alone. -/
def namesFilter : QueryFilter :=
  ⟨[Path.ofText "name".toList], []⟩

theorem ofQueryKey_names :
    QueryFilter.ofQueryKey (contactsHead "name").queryKey = .ok namesFilter := by
  have hpaths := @parseSelect_columns ["name".toList] (by simp) (by decide)
  have hparams : QueryParam.ofText (contactsHead "name").queryKey =
      .ok [⟨"select".toList, "name".toList, 0⟩] := rfl
  rw [QueryFilter.ofQueryKey, parseQueryKey_select hparams hpaths]
  rfl

theorem denormalize_names (id : Int) (name : Text) :
    namesFilter.denormalize (contact id name) = .obj [("name".toList, .str name)] := by
  rw [contact, QueryFilter.denormalize_obj, Slot.reshapeFields_eq]
  rfl

/-- It is not asked for again if only names were selected, although the
input has the id. -/
theorem names_not_revalidated :
    enterContact.MeetsUnpatchable {}
        ((default : Store).insert (headText "name") contactsCount) (headText "name")
        (contactsHead "name") contactsCount ∧
      enterContact.identifies enterContact.input = true ∧
      (headText "name", .revalidate) ∉
        enterContact.plan {} ((default : Store).insert (headText "name") contactsCount).keys := by
  have hkey : CacheKey.decode {} (headText "name") = some (contactsHead "name") := by
    decide +kernel
  have hmeets := enterContact_meetsUnpatchable hkey ofQueryKey_names rfl
  have hshape : namesFilter.denormalize enterContact.input = _ := denormalize_names 3 ['b']
  refine ⟨hmeets, by decide +kernel, mt hmeets.revalidate_mem_plan_iff.1 ?_⟩
  rintro (hidentifies | hrule)
  · have hnamed := hidentifies namesFilter ofQueryKey_names
    rw [hshape] at hnamed
    exact absurd hnamed (by decide +kernel)
  · exact absurd hrule (by decide +kernel)

end QueryCache
