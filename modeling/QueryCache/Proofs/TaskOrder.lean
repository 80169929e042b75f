/-
QueryCache.Proofs.TaskOrder — a change whose tasks run in any order.

The tasks of a change are calls of the store that may be performed in any
order and fail in any combination (`MutationRun`).  A plan patches a key once
at most (`countP_patch_plan`), and a patch makes an entry of an entry, so
every run leaves the same entries: those whose patch was not refused are
changed by the change, the others stay (`mutateItem_inAnyOrder`).
-/
import QueryCache.Proofs.StoreCalls
import QueryCache.Proofs.UnpatchableKeys

namespace QueryCache
namespace ItemMutation

/-! ## 1. Planned patches -/

section

variable {config : CacheConfig} {mutation : ItemMutation} {text : Text}

/-- A patch for a key is that of a query that is judged row by row. -/
theorem exists_patches_of_mem_planKey {f : Option CacheData → Option CacheData}
    (h : .patch f ∈ mutation.planKey config text) :
    ∃ key filter orderBy, CacheKey.decode config text = some key ∧
      mutation.Patches key filter orderBy ∧ f = mutation.patchEntry config key filter orderBy := by
  rcases hkey : CacheKey.decode config text with _ | key
  · simp [planKey, hkey] at h
  · have hown : mutation.ownTask config key = some (.patch f) := by
      rw [planKey_eq hkey, List.mem_append, Option.mem_toList] at h
      rcases h with h | h
      · exact h
      · split at h <;> simp at h
    rcases mutation.ownTask_cases config key with
      (hnone | hrevalidate) | ⟨filter, orderBy, hpatches⟩
    · rw [hnone] at hown
      contradiction
    · rw [hrevalidate] at hown
      simp at hown
    · rw [ownTask_of_patches hpatches] at hown
      exact ⟨key, filter, orderBy, rfl, hpatches, by simpa using hown.symm⟩

/-- A key is patched once at most; a rule only revalidates. -/
theorem countP_patch_planKey : (mutation.planKey config text).countP (·.isPatch) ≤ 1 := by
  rcases hkey : CacheKey.decode config text with _ | key
  · simp [planKey, hkey]
  · have hrule : ∀ p : Bool,
        (if p then [KeyTask.revalidate] else []).countP (·.isPatch) = 0 := by
      intro p
      cases p <;> rfl
    rw [planKey_eq hkey, List.countP_append, hrule]
    exact List.countP_le_length.trans Option.length_toList_le

/-- For a key that was not read nothing is planned. -/
theorem filter_plan_eq_nil {keys : List Text} (h : text ∉ keys) :
    (mutation.plan config keys).filter (fun task => task.1 == text) = [] := by
  rw [List.filter_eq_nil_iff]
  rintro ⟨name, task⟩ htask hname
  exact h (beq_iff_eq.1 hname ▸ (mem_plan_iff.1 htask).1)

/-- So is every key in a plan. -/
theorem countP_patch_plan {keys : List Text} (hnodup : keys.Nodup) :
    (mutation.plan config keys).countP (fun task => task.2.isPatch && task.1 == text) ≤ 1 := by
  rw [← List.countP_filter]
  by_cases hmem : text ∈ keys
  · rw [mutation.filter_planned config hnodup hmem, List.countP_map]
    exact countP_patch_planKey
  · rw [filter_plan_eq_nil hmem]
    exact Nat.zero_le 1

/-- Why nothing of a key's entry is patched: the key cannot be read, it is
about another table, or the rows of its query cannot be judged. -/
inductive IsUnpatchable (config : CacheConfig) (mutation : ItemMutation) (text : Text) : Prop where
  | unreadKey (hkey : CacheKey.decode config text = none)
  | otherTable {key : CacheKey} (hkey : CacheKey.decode config text = some key)
    (h : key.schema ≠ mutation.schema ∨ key.table ≠ mutation.table)
  | head {key : CacheKey} (hkey : CacheKey.decode config text = some key) (h : key.isHead = true)
  | unjudged {key : CacheKey} {filter : QueryFilter}
    (hkey : CacheKey.decode config text = some key)
    (hfilter : QueryFilter.ofQueryKey key.queryKey = .ok filter)
    (h : filter.hasWildcard = true ∨ filter.hasAggregate = true)
  | unreadFilter {key : CacheKey} {error : ParseError}
    (hkey : CacheKey.decode config text = some key)
    (h : QueryFilter.ofQueryKey key.queryKey = .error error)
  | unreadOrder {key : CacheKey} {order : Text} {error : ParseError}
    (hkey : CacheKey.decode config text = some key) (horder : key.orderByKey = some order)
    (h : parseOrderKey order = .error error)

/-- Such a key is not patched. -/
theorem IsUnpatchable.not_patches (h : mutation.IsUnpatchable config text) {key : CacheKey}
    (hkey : CacheKey.decode config text = some key) (filter : QueryFilter)
    (orderBy : List SortKey) : ¬ mutation.Patches key filter orderBy := by
  intro hpatches
  cases h with
  | unreadKey hnone =>
    rw [hnone] at hkey
    contradiction
  | otherTable hother h =>
    obtain rfl := Option.some.inj (hother.symm.trans hkey)
    have htargets := hpatches.targets
    rw [targets, Bool.and_eq_true, beq_iff_eq, beq_iff_eq] at htargets
    exact h.elim (absurd htargets.1) (absurd htargets.2)
  | head hother h =>
    obtain rfl := Option.some.inj (hother.symm.trans hkey)
    have hjudged := hpatches.not_refetched
    simp [mustRefetch, h] at hjudged
  | unjudged hother hfilter h =>
    obtain rfl := Option.some.inj (hother.symm.trans hkey)
    obtain rfl := Except.ok.inj (hfilter.symm.trans hpatches.filter_eq)
    have hjudged := hpatches.not_refetched
    rcases h with h | h <;> simp [mustRefetch, h] at hjudged
  | unreadFilter hother h =>
    obtain rfl := Option.some.inj (hother.symm.trans hkey)
    rw [hpatches.filter_eq] at h
    contradiction
  | unreadOrder hother horder h =>
    obtain rfl := Option.some.inj (hother.symm.trans hkey)
    have hread := hpatches.order_eq
    simp [orderOf?, horder, h, Except.toOption] at hread

end

end ItemMutation

/-! ## 2. Any order -/

/-- A patch makes an entry of an entry, and nothing of nothing. -/
def StoreCall.KeepsPresence (call : StoreCall) : Prop :=
  ∀ f, call.task = .patch f → ∀ entry, (f entry).isSome = entry.isSome

section

variable {config : CacheConfig} {mutation : ItemMutation} {keys : List Text}
  {calls : List StoreCall} (hplan : calls.map (·.planned) = mutation.plan config keys)
include hplan

/-- A call is for a task of its key. -/
theorem StoreCall.task_mem_planKey {call : StoreCall} (h : call ∈ calls) :
    call.key ∈ keys ∧ call.task ∈ mutation.planKey config call.key := by
  have hmem : call.planned ∈ mutation.plan config keys :=
    hplan ▸ List.mem_map_of_mem h
  exact ItemMutation.mem_plan_iff.1 hmem

theorem StoreCall.countP_patch_le_one (hnodup : keys.Nodup) (text : Text) :
    calls.countP (fun call => call.task.isPatch && call.key == text) ≤ 1 := by
  have hcount : (mutation.plan config keys).countP
      (fun task => task.2.isPatch && task.1 == text) ≤ 1 :=
    ItemMutation.countP_patch_plan hnodup
  rw [← hplan, List.countP_map] at hcount
  exact hcount

theorem StoreCall.length_patchesOf_le_one (hnodup : keys.Nodup) (text : Text) :
    (patchesOf calls text).length ≤ 1 := by
  rw [patchesOf, ← List.countP_eq_length_filter]
  refine Nat.le_trans (List.countP_mono_left fun call _ h => ?_)
    (StoreCall.countP_patch_le_one hplan hnodup text)
  rw [isPatched, Bool.and_eq_true, Bool.and_eq_true] at h
  rw [Bool.and_eq_true]
  exact ⟨h.2.1, h.1⟩

/-- A patch that is not refused is made of the entry of a query. -/
theorem StoreCall.exists_patches {call : StoreCall} (hcall : call ∈ calls)
    (hpatch : call.task.isPatch = true) :
    ∃ key filter orderBy, CacheKey.decode config call.key = some key ∧
      mutation.Patches key filter orderBy ∧
      call.task = .patch (mutation.patchEntry config key filter orderBy) := by
  have hmem := (StoreCall.task_mem_planKey hplan hcall).2
  rcases htask : call.task with f | _
  · rw [htask] at hmem
    obtain ⟨key, filter, orderBy, hkey, hpatches, rfl⟩ :=
      ItemMutation.exists_patches_of_mem_planKey hmem
    exact ⟨key, filter, orderBy, hkey, hpatches, rfl⟩
  · rw [htask] at hpatch
    contradiction

theorem StoreCall.keepsPresence {call : StoreCall} (hcall : call ∈ calls) :
    call.KeepsPresence := by
  intro f hf entry
  obtain ⟨key, filter, orderBy, -, -, htask⟩ := exists_patches hplan hcall (by rw [hf]; rfl)
  rw [hf] at htask
  rw [KeyTask.patch.inj htask]
  exact Option.isSome_map

end

/-- What a change has done to a store when all its calls were performed and
awaited. -/
structure MutationRun.IsCarriedOut (config : CacheConfig) (mutation : ItemMutation) (store : Store)
    (calls : List StoreCall) (run : MutationRun) : Prop where
  /-- A key is patched once at most. -/
  one_patch : ∀ text, calls.countP (fun call => call.task.isPatch && call.key == text) ≤ 1
  keys_eq : run.store.keys = store.keys
  /-- The order does not matter to the entries. -/
  entry_eq : ∀ text, run.store.get? text = (store.callAll calls).get? text
  /-- An entry whose key has no patch, or a refused one, stays. -/
  unpatched : ∀ text, (∀ call ∈ calls, call.key = text → call.isPatched = false) →
    run.store.get? text = store.get? text
  /-- The change is applied to the entry under a key with a patch, with the
  input in the shape of its query. -/
  patched : ∀ call ∈ calls, call.isPatched = true → ∃ key filter orderBy data,
    CacheKey.decode config call.key = some key ∧ mutation.Patches key filter orderBy ∧
    store.get? call.key = some data ∧
    run.store.get? call.key =
      some (mutation.change.apply
        ⟨mutation.primaryKeys, filter.accepts, orderBy, mutation.transform⟩
        (filter.denormalize mutation.input) (key.limit.getD config.defaultLimit) data)
  unpatchable : ∀ text, mutation.IsUnpatchable config text →
    run.store.get? text = store.get? text
  /-- The revalidations that were not refused are logged, in some order. -/
  recorded : ∃ logged, run.store.revalidated = store.revalidated ++ logged ∧
    logged.Perm ((calls.filter (·.isRecorded)).map (·.key))
  /-- It succeeds exactly if no call was refused, and answers how many calls
  were to patch and how many to revalidate. -/
  succeeds_iff : ∀ outcome : MutationOutcome,
    run.result (mutation.plan config store.keys) = .ok outcome ↔
      (∀ call ∈ calls, call.failure = none) ∧
        outcome.patched = calls.countP (fun call => call.task.isPatch) ∧
        outcome.revalidated = calls.countP (fun call => !call.task.isPatch)
  fails : (∃ call ∈ calls, call.failure ≠ none) → ∃ call ∈ calls, ∃ error,
    call.error? = some error ∧
      run.result (mutation.plan config store.keys) = .error error

namespace MutationRun

section

variable {config : CacheConfig} {mutation : ItemMutation} {store : Store} {calls : List StoreCall}
  {run : MutationRun} (hplan : calls.map (·.planned) = mutation.plan config store.keys)
  (hreaches : Reaches ⟨store, calls, [], none⟩ run) (hdone : run.IsDone)
include hplan hreaches hdone

/-- The order does not matter to an entry: its key has one patch at most. -/
theorem get?_eq_callAll (text : Text) :
    run.store.get? text = (store.callAll calls).get? text := by
  obtain ⟨order, -, horder, hstore, -, -⟩ := exists_order_of_reaches hreaches hdone
  rw [hstore]
  exact Store.get?_callAll_of_perm horder text
    (StoreCall.length_patchesOf_le_one hplan store.keys_nodup text) store

theorem get?_eq_of_unpatched {text : Text}
    (h : ∀ call ∈ calls, call.key = text → call.isPatched = false) :
    run.store.get? text = store.get? text :=
  (get?_eq_callAll hplan hreaches hdone text).trans (Store.get?_callAll_of_forall h store)

theorem exists_get?_of_isPatched {call : StoreCall} (hcall : call ∈ calls)
    (hpatched : call.isPatched = true) :
    ∃ key filter orderBy data, CacheKey.decode config call.key = some key ∧
      mutation.Patches key filter orderBy ∧ store.get? call.key = some data ∧
      run.store.get? call.key = mutation.patchEntry config key filter orderBy (some data) := by
  obtain ⟨key, filter, orderBy, hkey, hpatches, htask⟩ :=
    StoreCall.exists_patches hplan hcall (Bool.and_eq_true_iff.1 hpatched).1
  obtain ⟨data, hdata⟩ := Option.isSome_iff_exists.1
    (Store.mem_keys_iff.1 (StoreCall.task_mem_planKey hplan hcall).1)
  refine ⟨key, filter, orderBy, data, hkey, hpatches, hdata, ?_⟩
  rw [get?_eq_callAll hplan hreaches hdone, Store.get?_callAll_of_mem hcall hpatched
    (StoreCall.length_patchesOf_le_one hplan store.keys_nodup call.key), htask, hdata]
  rfl

theorem get?_eq_of_isUnpatchable {text : Text} (h : mutation.IsUnpatchable config text) :
    run.store.get? text = store.get? text := by
  refine get?_eq_of_unpatched hplan hreaches hdone fun call hcall hkey =>
    Bool.eq_false_iff.2 fun hpatched => ?_
  obtain ⟨key, filter, orderBy, hdecode, hpatches, -⟩ :=
    StoreCall.exists_patches hplan hcall (Bool.and_eq_true_iff.1 hpatched).1
  rw [hkey] at hdecode
  exact h.not_patches hdecode filter orderBy hpatches

/-- A patch leaves an entry where one was, and only there. -/
theorem keys_eq : run.store.keys = store.keys := by
  obtain ⟨order, -, horder, hstore, -, -⟩ := exists_order_of_reaches hreaches hdone
  rw [hstore]
  exact Store.keys_callAll store fun call hcall =>
    StoreCall.keepsPresence hplan (horder.mem_iff.1 hcall)

/-- A run that has ended has carried out its change. -/
theorem isCarriedOut : run.IsCarriedOut config mutation store calls where
  one_patch := StoreCall.countP_patch_le_one hplan store.keys_nodup
  keys_eq := keys_eq hplan hreaches hdone
  entry_eq := get?_eq_callAll hplan hreaches hdone
  unpatched _ := get?_eq_of_unpatched hplan hreaches hdone
  patched _ := exists_get?_of_isPatched hplan hreaches hdone
  unpatchable _ := get?_eq_of_isUnpatchable hplan hreaches hdone
  recorded := Store.exists_logged_of_reaches hreaches hdone
  succeeds_iff outcome := by
    rw [← hplan]
    exact result_eq_ok_iff hreaches hdone outcome
  fails := exists_result_eq_error hreaches hdone _

end
end MutationRun

/-- `mutateItem` is a run in which the calls are performed and awaited in
their order. -/
theorem exists_reaches_mutateItem (config : CacheConfig) (faults : Faults)
    (mutation : ItemMutation) (store : Store) :
    ∃ run, MutationRun.Reaches
        ⟨store, (mutation.plan config store.keys).map (.under faults), [], none⟩ run ∧
      run.IsDone ∧
      mutateItem config faults mutation store =
        (run.store, run.result (mutation.plan config store.keys)) := by
  refine ⟨_, MutationRun.reaches_inOrder store _, ⟨rfl, rfl⟩, ?_⟩
  have hfirst : ∀ calls : List StoreCall,
      (calls.map (·.error?)).findSome? id = (calls.filterMap (·.error?)).head? := by
    intro calls
    rw [List.findSome?_map, List.head?_filterMap]
    rfl
  rw [mutateItem, Store.performAll_eq, MutationRun.result, hfirst]
  generalize ((mutation.plan config store.keys).map (StoreCall.under faults)).filterMap
    (·.error?) = errors
  cases errors <;> rfl

/-- Whatever the order in which the calls for the tasks of a change are
performed and awaited, and whichever of them the store refuses: the change
comes to its end, and then it is carried out.  One of the orders is that of
`mutateItem`. -/
theorem mutateItem_inAnyOrder (config : CacheConfig) (mutation : ItemMutation) (store : Store) :
    (∀ calls : List StoreCall, calls.map (·.planned) = mutation.plan config store.keys →
      ∀ run, MutationRun.Reaches ⟨store, calls, [], none⟩ run →
        (∃ last, run.Reaches last ∧ last.IsDone) ∧
        (run.IsDone → run.IsCarriedOut config mutation store calls)) ∧
    ∀ faults, ∃ run,
      MutationRun.Reaches
        ⟨store, (mutation.plan config store.keys).map (.under faults), [], none⟩ run ∧
      run.IsDone ∧
      run.IsCarriedOut config mutation store
        ((mutation.plan config store.keys).map (.under faults)) ∧
      mutateItem config faults mutation store =
        (run.store, run.result (mutation.plan config store.keys)) := by
  refine ⟨fun calls hplan run hreaches => ⟨run.exists_reaches_done, fun hdone => ?_⟩,
    fun faults => ?_⟩
  · exact MutationRun.isCarriedOut hplan hreaches hdone
  · obtain ⟨run, hreaches, hdone, hresult⟩ :=
      exists_reaches_mutateItem config faults mutation store
    exact ⟨run, hreaches, hdone,
      MutationRun.isCarriedOut (StoreCall.map_planned_under faults _) hreaches hdone, hresult⟩

/-! ## 3. A list and its number -/

/-- The contacts and, under a head request, their number. -/
def countedStore : Store :=
  (contactsStore contactsText).insert (headText "id,name") contactsCount

/-- The calls to enter a contact: the list is patched, the number is to be
asked for again, which the store refuses. -/
def enterCalls : List StoreCall :=
  [⟨contactsText, .patch (enterContact.patchEntry {} contactsKey contactsFilter
      [.asc "name".toList]), none⟩,
    ⟨headText "id,name", .revalidate, some "offline".toList⟩]

theorem decode_headText :
    CacheKey.decode {} (headText "id,name") = some (contactsHead "id,name") :=
  rfl

theorem ownTask_contactsHead :
    enterContact.ownTask {} (contactsHead "id,name") = some .revalidate := by
  rcases (enterContact_meetsUnpatchable decode_headText ofQueryKey_contactsKey rfl).ownTask_eq with
    ⟨htask, -⟩ | ⟨-, filter, hfilter, hnot⟩
  · exact htask
  · obtain rfl := Except.ok.inj (ofQueryKey_contactsKey.symm.trans hfilter)
    rw [enterContact_patches.identifies] at hnot
    contradiction

theorem planned_enterCalls :
    enterCalls.map (·.planned) = enterContact.plan {} countedStore.keys := by
  have hkeys : countedStore.keys = [contactsText, headText "id,name"] := rfl
  rw [hkeys, ItemMutation.plan, List.flatMap_cons, List.flatMap_cons, List.flatMap_nil,
    ItemMutation.planKey_eq decode_contactsText, ItemMutation.planKey_eq decode_headText,
    ItemMutation.ownTask_of_patches enterContact_patches, ownTask_contactsHead]
  rfl

theorem reaches_enterCalls :
    MutationRun.Reaches ⟨countedStore, enterCalls, [], none⟩
      ⟨countedStore.alter contactsText (enterContact.patchEntry {} contactsKey contactsFilter
        [.asc "name".toList]), [], [],
        some (.revalidate (headText "id,name") "offline".toList)⟩ := by
  refine .head (@MutationRun.Step.fail _ [_] [] _ _ [] none rfl) ?_
  refine .head (@MutationRun.Step.succeed _ _ [] [] _ [_] none rfl) ?_
  refine .head (@MutationRun.Step.await _ [] [_] [] _ none) ?_
  exact .single (@MutationRun.Step.await _ [] [] [] _ none)

/-- The number is refused before the list is patched: the list is patched
all the same, and the answer is the refusal. -/
theorem mutateItem_inAnyOrder_contacts :
    ∃ run, MutationRun.Reaches ⟨countedStore, enterCalls, [], none⟩ run ∧ run.IsDone ∧
      run.IsCarriedOut {} enterContact countedStore enterCalls ∧
      run.store.listAt? contactsText = some [contact 1 ['a'], contact 3 ['b'], contact 2 ['c']] ∧
      run.result (enterContact.plan {} countedStore.keys) =
        .error (.revalidate (headText "id,name") "offline".toList) := by
  refine ⟨_, reaches_enterCalls, ⟨rfl, rfl⟩,
    (((mutateItem_inAnyOrder {} enterContact countedStore).1 enterCalls planned_enterCalls _
      reaches_enterCalls).2 ⟨rfl, rfl⟩), ?_, rfl⟩
  have hrows : countedStore.listAt? contactsText =
      some [contact 1 ['a'], contact 2 ['c']] := rfl
  obtain ⟨data, hdata, hflatten⟩ := Option.bind_eq_some_iff.1 hrows
  rw [Store.listAt?, Store.get?_alter_self, hdata, flatten_patchEntry rfl hflatten,
    denormalize_enterContact]
  decide +kernel

end QueryCache
