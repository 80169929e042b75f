/-
QueryCache.Proofs.StoreRuns — what a change does to the entry of one key.

A change is carried into a store by tasks, some of which fail, and a run
carries in many changes.  Seen from a single key only its own tasks count:
`get?_mutateItem` gives the entry after a change from the entry before it,
and `mutateItem_cases` says in words what can have happened.
-/
import QueryCache.Cache.Mutation

namespace QueryCache

/-! ## 1. Tasks of one key -/

/-- What performing a task leaves under its key: a refused write and a
revalidation leave the entry as it was. -/
def KeyTask.onEntry (faults : Faults) (key : Text) (entry : Option CacheData) :
    KeyTask → Option CacheData
  | patch f => if (faults.write key).isSome then entry else f entry
  | revalidate => entry

namespace Store

/-- The store after a task; a failed task leaves it. -/
def after (faults : Faults) (store : Store) (key : Text) (task : KeyTask) : Store :=
  match store.perform faults key task with
  | .ok next => next
  | .error _ => store

theorem get?_after_self (faults : Faults) (store : Store) (key : Text) (task : KeyTask) :
    (store.after faults key task).get? key = task.onEntry faults key (store.get? key) := by
  cases task with
  | patch f =>
    simp only [after, perform, write, KeyTask.onEntry]
    rcases faults.write key with _ | message
    · exact store.get?_alter_self key f
    · rfl
  | revalidate =>
    simp only [after, perform, Store.revalidate, KeyTask.onEntry]
    rcases faults.revalidate key with _ | message <;> rfl

theorem get?_after_of_ne {key other : Text} (h : other ≠ key) (faults : Faults) (store : Store)
    (task : KeyTask) : (store.after faults key task).get? other = store.get? other := by
  cases task with
  | patch f =>
    simp only [after, perform, write]
    rcases faults.write key with _ | message
    · exact get?_alter_of_ne h store f
    · rfl
  | revalidate =>
    simp only [after, perform, Store.revalidate]
    rcases faults.revalidate key with _ | message <;> rfl

theorem performAll_cons (faults : Faults) (store : Store) (key : Text) (task : KeyTask)
    (rest : List (Text × KeyTask)) :
    (store.performAll faults ((key, task) :: rest)).1 =
      ((store.after faults key task).performAll faults rest).1 := by
  rw [performAll, after]
  rcases store.perform faults key task with error | next <;> rfl

/-- The entry under a key after all tasks: its own tasks, in their order. -/
theorem get?_performAll (faults : Faults) (store : Store) (tasks : List (Text × KeyTask))
    (key : Text) :
    (store.performAll faults tasks).1.get? key =
      (tasks.filter fun task => task.1 == key).foldl
        (fun entry task => task.2.onEntry faults key entry) (store.get? key) := by
  induction tasks generalizing store with
  | nil => rfl
  | cons task rest ih =>
    obtain ⟨name, task⟩ := task
    rw [performAll_cons, ih]
    by_cases hname : name = key
    · subst hname
      rw [get?_after_self]
      simp
    · have hne : key ≠ name := fun h => hname h.symm
      rw [get?_after_of_ne hne]
      simp [hname]

/-- A key with an entry is among the keys. -/
theorem mem_keys_of_get? {store : Store} {key : Text} {data : CacheData}
    (h : store.get? key = some data) : key ∈ store.keys := by
  unfold get? at h
  unfold keys
  revert h
  induction store.entries with
  | nil => simp
  | cons entry rest ih =>
    obtain ⟨name, value⟩ := entry
    intro h
    by_cases hname : key = name
    · simp [hname]
    · rw [List.lookup_cons, beq_false_of_ne hname] at h
      exact List.mem_cons_of_mem _ (ih h)

end Store

/-! ## 2. The tasks of a plan -/

namespace ItemMutation

theorem filter_planned (config : CacheConfig) (mutation : ItemMutation) {keys : List Text}
    {key : Text} (hnodup : keys.Nodup) (hmem : key ∈ keys) :
    (mutation.plan config keys).filter (fun task => task.1 == key) =
      (mutation.planKey config key).map fun task => (key, task) := by
  have own : ∀ name, ((mutation.planKey config name).map fun task => (name, task)).filter
      (fun task => task.1 == key) =
        if name = key then (mutation.planKey config name).map fun task => (name, task) else [] := by
    intro name
    split
    · rename_i h
      exact List.filter_eq_self.2 (by simp [h])
    · rename_i h
      exact List.filter_eq_nil_iff.2 (by simp [h])
  unfold plan
  rw [List.filter_flatMap]
  simp only [own]
  induction keys with
  | nil => simp at hmem
  | cons name rest ih =>
    obtain ⟨hname, hrest⟩ := List.nodup_cons.1 hnodup
    rw [List.flatMap_cons]
    by_cases h : name = key
    · subst h
      have hnil : rest.flatMap (fun other =>
          if other = name then (mutation.planKey config other).map fun task => (other, task)
          else []) = [] := by
        rw [List.flatMap_eq_nil_iff]
        intro other hother
        refine if_neg ?_
        rintro rfl
        exact hname hother
      rw [if_pos rfl, hnil, List.append_nil]
    · rw [if_neg h, List.nil_append]
      exact ih hrest ((List.mem_cons.1 hmem).resolve_left fun heq => h heq.symm)

/-- What a change of the table does to the entry under one of its keys. -/
def ownTask (config : CacheConfig) (mutation : ItemMutation) (key : CacheKey) : Option KeyTask :=
  if mutation.targets key then
    mutation.planOwn config key (QueryFilter.ofQueryKey key.queryKey).toOption
  else none

/-- The tasks for one key are its own task and perhaps a revalidation. -/
theorem planKey_eq {config : CacheConfig} {text : Text} {key : CacheKey}
    (hkey : CacheKey.decode config text = some key) (mutation : ItemMutation) :
    mutation.planKey config text =
      (mutation.ownTask config key).toList ++
        if mutation.isNamedByRule config key (QueryFilter.ofQueryKey key.queryKey).toOption then
          [.revalidate]
        else [] := by
  simp only [planKey, hkey, ownTask]
  split <;> rfl

/-- To the entry only its own task counts. -/
theorem foldl_planKey {config : CacheConfig} {text : Text} {key : CacheKey}
    (hkey : CacheKey.decode config text = some key) (mutation : ItemMutation) (faults : Faults)
    (entry : Option CacheData) :
    (mutation.planKey config text).foldl (fun entry task => task.onEntry faults text entry) entry =
      ((mutation.ownTask config key).map (·.onEntry faults text entry)).getD entry := by
  have hrules : ∀ (p : Bool) (entry : Option CacheData),
      (if p then [KeyTask.revalidate] else []).foldl
        (fun entry task => task.onEntry faults text entry) entry = entry := by
    intro p entry
    cases p <;> rfl
  rw [planKey_eq hkey, List.foldl_append, hrules]
  rcases mutation.ownTask config key with _ | task <;> rfl

end ItemMutation

/-- A change leaves the store that its tasks leave, refused or not. -/
theorem fst_mutateItem (config : CacheConfig) (faults : Faults) (mutation : ItemMutation)
    (store : Store) :
    (mutateItem config faults mutation store).1 =
      (store.performAll faults (mutation.plan config store.keys)).1 := by
  unfold mutateItem
  rcases hall : store.performAll faults (mutation.plan config store.keys) with ⟨last, errors⟩
  cases errors <;> simp [hall]

/-- The entry under a key after a change. -/
theorem get?_mutateItem {config : CacheConfig} {text : Text} {key : CacheKey} {store : Store}
    {data : CacheData} (hkey : CacheKey.decode config text = some key)
    (hdata : store.get? text = some data) (faults : Faults) (mutation : ItemMutation) :
    (mutateItem config faults mutation store).1.get? text =
      ((mutation.ownTask config key).map (·.onEntry faults text (some data))).getD
        (some data) := by
  have hnodup : store.keys.Nodup := store.keys_nodup
  rw [fst_mutateItem, Store.get?_performAll,
    mutation.filter_planned config hnodup (Store.mem_keys_of_get? hdata), List.foldl_map, hdata]
  exact mutation.foldl_planKey hkey faults (some data)

/-- Why a query's entry is patched: the change is about its table, the query
can be read and judged row by row, and the input says which row it means,
which the query's filters on the primary keys do not exclude. -/
structure ItemMutation.Patches (mutation : ItemMutation) (key : CacheKey) (filter : QueryFilter)
    (orderBy : List SortKey) : Prop where
  targets : mutation.targets key = true
  filter_eq : QueryFilter.ofQueryKey key.queryKey = .ok filter
  identifies : mutation.identifies (filter.denormalize mutation.input) = true
  not_excluded : mutation.excludedBy filter (filter.denormalize mutation.input) = false
  not_refetched : ItemMutation.mustRefetch key filter = false
  order_eq : ItemMutation.orderOf? key = some orderBy

theorem ItemMutation.ownTask_of_patches {config : CacheConfig} {mutation : ItemMutation}
    {key : CacheKey} {filter : QueryFilter} {orderBy : List SortKey}
    (h : mutation.Patches key filter orderBy) :
    mutation.ownTask config key =
      some (.patch (mutation.patchEntry config key filter orderBy)) := by
  simp [ownTask, planOwn, h.targets, h.filter_eq, h.identifies, h.not_excluded, h.not_refetched,
    h.order_eq, Except.toOption]

/-- The task for the entry of a query is its patch, or it changes nothing. -/
theorem ItemMutation.ownTask_cases (config : CacheConfig) (mutation : ItemMutation)
    (key : CacheKey) :
    (mutation.ownTask config key = none ∨ mutation.ownTask config key = some .revalidate) ∨
      ∃ filter orderBy, mutation.Patches key filter orderBy := by
  unfold ownTask
  split
  · rename_i htargets
    unfold planOwn
    rcases hfilter : QueryFilter.ofQueryKey key.queryKey with error | filter
    · exact Or.inl (Or.inr rfl)
    · simp only [Except.toOption]
      split
      · exact Or.inl (Or.inl rfl)
      · rename_i hreach
        simp only [Bool.or_eq_true, Bool.not_eq_true', not_or, Bool.not_eq_false,
          Bool.not_eq_true] at hreach
        split
        · exact Or.inl (Or.inr rfl)
        · rename_i hjudge
          rcases horder : orderOf? key with _ | orderBy
          · exact Or.inl (Or.inr rfl)
          · exact Or.inr ⟨filter, orderBy, htargets, hfilter, hreach.1, hreach.2,
              by simpa using hjudge, horder⟩
  · exact Or.inl (Or.inl rfl)

/-- A change leaves an entry as it is or patches it. -/
theorem mutateItem_cases {config : CacheConfig} {text : Text} {key : CacheKey} {store : Store}
    {data : CacheData} (hkey : CacheKey.decode config text = some key)
    (hdata : store.get? text = some data) (faults : Faults) (mutation : ItemMutation) :
    (mutateItem config faults mutation store).1.get? text = some data ∨
      ∃ filter orderBy, mutation.Patches key filter orderBy ∧
        (mutateItem config faults mutation store).1.get? text =
          mutation.patchEntry config key filter orderBy (some data) := by
  rw [get?_mutateItem hkey hdata]
  rcases mutation.ownTask_cases config key with (h | h) | ⟨filter, orderBy, h⟩
  · exact Or.inl (by rw [h]; rfl)
  · exact Or.inl (by rw [h]; rfl)
  · rw [ItemMutation.ownTask_of_patches h]
    simp only [Option.map_some, Option.getD_some, KeyTask.onEntry]
    split
    · exact Or.inl rfl
    · exact Or.inr ⟨filter, orderBy, h, rfl⟩

/-- An entry that is to be patched is patched, where the store does not
refuse to write it. -/
theorem get?_mutateItem_of_patches {config : CacheConfig} {text : Text} {key : CacheKey}
    {store : Store} {data : CacheData} {faults : Faults} {mutation : ItemMutation}
    {filter : QueryFilter} {orderBy : List SortKey}
    (hkey : CacheKey.decode config text = some key) (hdata : store.get? text = some data)
    (hfaults : faults.write text = none) (h : mutation.Patches key filter orderBy) :
    (mutateItem config faults mutation store).1.get? text =
      mutation.patchEntry config key filter orderBy (some data) := by
  rw [get?_mutateItem hkey hdata, ItemMutation.ownTask_of_patches h]
  simp only [Option.map_some, Option.getD_some, KeyTask.onEntry, hfaults, Option.isSome_none,
    Bool.false_eq_true, if_false]

/-- An entry that the store refuses to write stays as it is. -/
theorem get?_mutateItem_of_refused {config : CacheConfig} {text : Text} {key : CacheKey}
    {store : Store} {data : CacheData} {faults : Faults}
    (hkey : CacheKey.decode config text = some key) (hdata : store.get? text = some data)
    (hfaults : (faults.write text).isSome = true) (mutation : ItemMutation) :
    (mutateItem config faults mutation store).1.get? text = some data := by
  rw [get?_mutateItem hkey hdata]
  rcases mutation.ownTask config key with _ | f | _
  · rfl
  · simp only [Option.map_some, Option.getD_some, KeyTask.onEntry, hfaults, if_true]
  · rfl

/-! ## 3. Runs -/

/-- The store after changes carried into it one after the other. -/
def mutateItems (config : CacheConfig) (faults : Faults) (store : Store)
    (mutations : List ItemMutation) : Store :=
  mutations.foldl (fun store mutation => (mutateItem config faults mutation store).1) store

theorem mutateItems_take_succ {mutations : List ItemMutation} {n : Nat} {mutation : ItemMutation}
    (h : mutations[n]? = some mutation) (config : CacheConfig) (faults : Faults) (store : Store) :
    mutateItems config faults store (mutations.take (n + 1)) =
      (mutateItem config faults mutation
        (mutateItems config faults store (mutations.take n))).1 := by
  unfold mutateItems
  rw [List.take_add_one, h, Option.toList_some, List.foldl_append]
  rfl

/-- What holds of a store and outlives every change of a run holds after
every part of the run. -/
theorem mutateItems_induction {P : Store → Prop} {config : CacheConfig} {faults : Faults}
    {store : Store} {mutations : List ItemMutation} (hstart : P store)
    (hstep : ∀ n mutation, mutations[n]? = some mutation →
      P (mutateItems config faults store (mutations.take n)) →
      P (mutateItems config faults store (mutations.take (n + 1)))) (n : Nat) :
    P (mutateItems config faults store (mutations.take n)) := by
  induction n with
  | zero => exact hstart
  | succ n ih =>
    rcases hmutation : mutations[n]? with _ | mutation
    · have hlength : mutations.length ≤ n := List.getElem?_eq_none_iff.1 hmutation
      rw [List.take_of_length_le hlength] at ih
      rw [List.take_of_length_le (Nat.le_succ_of_le hlength)]
      exact ih
    · exact hstep n mutation hmutation ih

end QueryCache
