/-
QueryCache.Proofs.Remembered — filters that are remembered answer as if they
were read again.

Changes are planned with the filters of all query strings in the store, and
those read before are remembered.  A memo holds what reading answers, each
string once (`FilterMemo.IsRead`).  Asking it keeps this and gives what
reading gives, the error of an unreadable string included
(`FilterMemo.filterFor_eq`, `FilterMemo.IsRead.filterFor`).  So a memo can stand
for reading: in a plan (`ItemMutation.planBy_eq`), in a change
(`mutateItemBy_eq`), and in a run of changes that share it
(`mutateItemsBy_eq`).  A plan leaves it knowing the query strings of all keys
(`ItemMutation.mem_planBy_iff`).
-/
import QueryCache.Proofs.StoreRuns

namespace QueryCache

namespace FilterMemo

/-! ## 1. What a memo holds -/

/-- The memo holds filters as they are read, and each query string once. -/
structure IsRead (memo : FilterMemo) : Prop where
  read : ∀ entry ∈ memo, QueryFilter.ofQueryKey entry.1 = .ok entry.2
  once : (memo.map Prod.fst).Nodup

theorem isRead_nil : IsRead [] :=
  ⟨by simp, List.nodup_nil⟩

section

variable {memo : FilterMemo} (h : memo.IsRead)
include h

theorem IsRead.of_lookup {text : Text} {filter : QueryFilter}
    (hlookup : List.lookup text memo = some filter) : QueryFilter.ofQueryKey text = .ok filter := by
  obtain ⟨front, back, rfl, -⟩ := List.lookup_eq_some_iff.1 hlookup
  exact h.read (text, filter) (by simp)

/-- The memo answers what reading answers. -/
theorem filterFor_eq (text : Text) : (memo.filterFor text).1 = QueryFilter.ofQueryKey text := by
  rw [filterFor]
  split
  · rename_i filter hlookup
    exact (h.of_lookup hlookup).symm
  · split
    · rename_i filter hread
      exact hread.symm
    · rename_i error hread
      exact hread.symm

/-- A string that was not remembered is remembered once. -/
theorem IsRead.filterFor (text : Text) : (memo.filterFor text).2.IsRead := by
  rw [FilterMemo.filterFor]
  split
  · exact h
  · rename_i hlookup
    split
    · rename_i filter hread
      refine ⟨List.forall_mem_cons.2 ⟨hread, h.read⟩, List.nodup_cons.2 ⟨?_, h.once⟩⟩
      rw [List.lookup_eq_none_iff] at hlookup
      intro hmem
      obtain ⟨entry, hentry, heq⟩ := List.mem_map.1 hmem
      exact absurd heq.symm (by simpa using hlookup entry hentry)
    · exact h

end

/-- The memo knows what it knew and, if it can be read, the string that it was
asked for. -/
theorem mem_filterFor_iff {memo : FilterMemo} {text other : Text} :
    other ∈ (memo.filterFor text).2.map Prod.fst ↔
      other ∈ memo.map Prod.fst ∨
        other = text ∧ ∃ filter, QueryFilter.ofQueryKey text = .ok filter := by
  rw [FilterMemo.filterFor]
  split
  · rename_i filter hlookup
    obtain ⟨front, back, hmemo, -⟩ := List.lookup_eq_some_iff.1 hlookup
    refine (or_iff_left_of_imp ?_).symm
    rintro ⟨rfl, -⟩
    rw [hmemo]
    simp
  · split
    · rename_i filter hread
      rw [List.map_cons, List.mem_cons, or_comm]
      exact or_congr_right (and_iff_left ⟨filter, hread⟩).symm
    · rename_i error hread
      simp [hread]

end FilterMemo

namespace ItemMutation

/-! ## 2. Plans by a memo -/

variable (config : CacheConfig) (mutation : ItemMutation)

/-- The tasks for one key, with the filter that the memo answers, and the memo
behind it. -/
def planKeyBy (memo : FilterMemo) (text : Text) : List KeyTask × FilterMemo :=
  match CacheKey.decode config text with
  | none => ([], memo)
  | some key =>
    let filter := (memo.filterFor key.queryKey).1.toOption
    ((if mutation.targets key then (mutation.planOwn config key filter).toList else []) ++
        (if mutation.isNamedByRule config key filter then [.revalidate] else []),
      (memo.filterFor key.queryKey).2)

/-- The tasks for the keys of a store, each planned by the memo that the keys
before it leave. -/
def planBy : FilterMemo → List Text → List (Text × KeyTask) × FilterMemo
  | memo, [] => ([], memo)
  | memo, text :: rest =>
    let (tasks, memo) := mutation.planKeyBy config memo text
    let (others, memo) := planBy memo rest
    (tasks.map (fun task => (text, task)) ++ others, memo)

/-- The text is a key with that query string, which can be read. -/
def ReadsQuery (config : CacheConfig) (text queryKey : Text) : Prop :=
  ∃ key, CacheKey.decode config text = some key ∧ key.queryKey = queryKey ∧
    ∃ filter, QueryFilter.ofQueryKey queryKey = .ok filter

theorem mem_planKeyBy_iff {memo : FilterMemo} {text queryKey : Text} :
    queryKey ∈ (mutation.planKeyBy config memo text).2.map Prod.fst ↔
      queryKey ∈ memo.map Prod.fst ∨ ReadsQuery config text queryKey := by
  rcases hkey : CacheKey.decode config text with _ | key
  · simp [planKeyBy, ReadsQuery, hkey]
  · simp only [planKeyBy, ReadsQuery, hkey, FilterMemo.mem_filterFor_iff, Option.some.injEq,
      exists_eq_left']
    refine or_congr_right ⟨?_, ?_⟩
    · rintro ⟨rfl, hread⟩
      exact ⟨rfl, hread⟩
    · rintro ⟨rfl, hread⟩
      exact ⟨rfl, hread⟩

/-- A plan leaves a memo that knows the query strings of all its keys, but for
those that cannot be read. -/
theorem mem_planBy_iff {memo : FilterMemo} {keys : List Text} {queryKey : Text} :
    queryKey ∈ (mutation.planBy config memo keys).2.map Prod.fst ↔
      queryKey ∈ memo.map Prod.fst ∨ ∃ text ∈ keys, ReadsQuery config text queryKey := by
  induction keys generalizing memo with
  | nil => simp [planBy]
  | cons text rest ih =>
    rw [planBy]
    dsimp only
    rw [ih, mem_planKeyBy_iff, or_assoc]
    simp only [List.mem_cons, exists_eq_or_imp]

section

variable {memo : FilterMemo} (h : memo.IsRead)
include h

/-- One key is planned as if its filter were read. -/
theorem planKeyBy_eq (text : Text) :
    (mutation.planKeyBy config memo text).1 = mutation.planKey config text ∧
      (mutation.planKeyBy config memo text).2.IsRead := by
  rcases hkey : CacheKey.decode config text with _ | key
  · simp only [planKeyBy, planKey, hkey, true_and]
    exact h
  · simp only [planKeyBy, planKey, hkey, FilterMemo.filterFor_eq h, true_and]
    exact h.filterFor key.queryKey

/-- So are all keys. -/
theorem planBy_eq (keys : List Text) :
    (mutation.planBy config memo keys).1 = mutation.plan config keys ∧
      (mutation.planBy config memo keys).2.IsRead := by
  induction keys generalizing memo with
  | nil => exact ⟨rfl, h⟩
  | cons text rest ih =>
    obtain ⟨hkey, hread⟩ := planKeyBy_eq config mutation h text
    obtain ⟨hrest, hmemo⟩ := ih hread
    refine ⟨?_, hmemo⟩
    rw [planBy, plan, List.flatMap_cons, ← hkey, ← plan, ← hrest]

end

end ItemMutation

/-! ## 3. Changes by a memo -/

/-- Carries a change into the store with the filters of a memo: what
`mutateItem` gives, and the memo afterwards. -/
def mutateItemBy (config : CacheConfig) (faults : Faults) (mutation : ItemMutation)
    (store : Store) (memo : FilterMemo) :
    (Store × Except CacheError MutationOutcome) × FilterMemo :=
  let (tasks, memo) := mutation.planBy config memo store.keys
  let (store, errors) := store.performAll faults tasks
  match errors with
  | [] => ((store, .ok (.ofTasks tasks)), memo)
  | first :: _ => ((store, .error first), memo)

/-- Changes carried into a store one after the other, all by one memo. -/
def mutateItemsBy (config : CacheConfig) (faults : Faults) (store : Store) (memo : FilterMemo)
    (mutations : List ItemMutation) : Store × FilterMemo :=
  mutations.foldl (fun state mutation =>
    let changed := mutateItemBy config faults mutation state.1 state.2
    (changed.1.1, changed.2)) (store, memo)

section

variable (config : CacheConfig) (faults : Faults) {memo : FilterMemo} (h : memo.IsRead)
include h

/-- A change by a memo is the change. -/
theorem mutateItemBy_eq (mutation : ItemMutation) (store : Store) :
    (mutateItemBy config faults mutation store memo).1 =
        mutateItem config faults mutation store ∧
      (mutateItemBy config faults mutation store memo).2.IsRead := by
  obtain ⟨hplan, hread⟩ := ItemMutation.planBy_eq config mutation h store.keys
  rw [mutateItemBy, mutateItem, ← hplan]
  dsimp only
  rcases store.performAll faults (mutation.planBy config memo store.keys).1 with ⟨last, errors⟩
  cases errors with
  | nil => exact ⟨rfl, hread⟩
  | cons first rest => exact ⟨rfl, hread⟩

/-- However many changes share a memo, they leave the store that they leave
without it. -/
theorem mutateItemsBy_eq (mutations : List ItemMutation) (store : Store) :
    (mutateItemsBy config faults store memo mutations).1 =
        mutateItems config faults store mutations ∧
      (mutateItemsBy config faults store memo mutations).2.IsRead := by
  induction mutations generalizing store memo with
  | nil => exact ⟨rfl, h⟩
  | cons mutation rest ih =>
    obtain ⟨hchange, hread⟩ := mutateItemBy_eq config faults h mutation store
    rw [mutateItemsBy, mutateItems, List.foldl_cons, List.foldl_cons, ← hchange]
    exact ih hread _

end

/-- So do changes that start without anything remembered. -/
theorem mutateItemsBy_nil (config : CacheConfig) (faults : Faults) (store : Store)
    (mutations : List ItemMutation) :
    (mutateItemsBy config faults store [] mutations).1 =
      mutateItems config faults store mutations :=
  (mutateItemsBy_eq config faults FilterMemo.isRead_nil mutations store).1

end QueryCache
