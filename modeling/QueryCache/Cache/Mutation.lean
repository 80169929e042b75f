/-
QueryCache.Cache.Mutation — a change of one row of a table, carried into
every cached query that it concerns.

For every key a plan says what to do: patch the entry in place, when the
query can be judged row by row; revalidate it, when it cannot, or when a
rule of the change names it; or nothing.  All tasks of a plan are
performed, also when some of them fail; the first failure is reported.
-/
import QueryCache.Cache.Revalidation
import QueryCache.Cache.RowChange
import QueryCache.Cache.Store

namespace QueryCache

/-- A change of one row of a table. -/
structure ItemMutation where
  schema : Text
  table : Text
  /-- The row, or its primary keys and changed columns, by column. -/
  input : Json
  primaryKeys : List Text
  change : RowChange
  /-- What is done to a row that enters a cached list. -/
  transform : Json → Json := id
  rules : RevalidationRules := {}

/-- What is done to the entry under a key. -/
inductive KeyTask where
  /-- The entry is replaced by a function of itself. -/
  | patch (f : Option CacheData → Option CacheData)
  | revalidate

/-- The task patches its entry. -/
def KeyTask.isPatch : KeyTask → Bool
  | patch _ => true
  | revalidate => false

namespace ItemMutation

/-! ## 1. Planning -/

/-- The input says which row it means, as the query sees it: it holds every
primary key in the query's shape. -/
def identifies (mutation : ItemMutation) (input : Json) : Bool :=
  mutation.primaryKeys.all fun key => (input.get? key).isSome

/-- The query's filters on the primary keys exclude the row of the input. -/
def excludedBy (mutation : ItemMutation) (filter : QueryFilter) (input : Json) : Bool :=
  filter.hasFiltersOn mutation.primaryKeys && !filter.passesOn input mutation.primaryKeys

/-- The rows of a query cannot be judged one by one. -/
def mustRefetch (key : CacheKey) (filter : QueryFilter) : Bool :=
  key.isHead || filter.hasWildcard || filter.hasAggregate

/-- The patch of a query's entry. -/
def patchEntry (config : CacheConfig) (mutation : ItemMutation) (key : CacheKey)
    (filter : QueryFilter) (orderBy : List SortKey) (entry : Option CacheData) :
    Option CacheData :=
  let ctx : PatchContext :=
    ⟨mutation.primaryKeys, filter.accepts, orderBy, mutation.transform⟩
  entry.map (mutation.change.apply ctx (filter.denormalize mutation.input)
    (key.limit.getD config.defaultLimit))

/-- The sort keys of a query; none when they cannot be read. -/
def orderOf? (key : CacheKey) : Option (List SortKey) :=
  match key.orderByKey with
  | none => some []
  | some text => (parseOrderKey text).toOption

/-- What a change of the query's own table does to its entry: nothing if
the row is not in the query's reach. -/
def planOwn (config : CacheConfig) (mutation : ItemMutation) (key : CacheKey)
    (filter : Option QueryFilter) : Option KeyTask :=
  match filter with
  | none => some .revalidate
  | some filter =>
    let input := filter.denormalize mutation.input
    if !mutation.identifies input || mutation.excludedBy filter input then none
    else if mustRefetch key filter then some .revalidate
    else
      match orderOf? key with
      | none => some .revalidate
      | some orderBy => some (.patch (mutation.patchEntry config key filter orderBy))

/-- The change concerns the table of a key. -/
def targets (mutation : ItemMutation) (key : CacheKey) : Bool :=
  key.schema == mutation.schema && key.table == mutation.table

/-- A rule of the change names the queries under a key. -/
def isNamedByRule (config : CacheConfig) (mutation : ItemMutation) (key : CacheKey)
    (filter : Option QueryFilter) : Bool :=
  mutation.rules.tableConcerns config key ||
    mutation.rules.relationConcerns config mutation.input key filter

/-- The tasks for one key of the store; none for a key of another owner. -/
def planKey (config : CacheConfig) (mutation : ItemMutation) (text : Text) : List KeyTask :=
  match CacheKey.decode config text with
  | none => []
  | some key =>
    let filter := (QueryFilter.ofQueryKey key.queryKey).toOption
    (if mutation.targets key then (mutation.planOwn config key filter).toList else []) ++
      (if mutation.isNamedByRule config key filter then [.revalidate] else [])

/-- The tasks for the keys of a store, in their order. -/
def plan (config : CacheConfig) (mutation : ItemMutation) (keys : List Text) :
    List (Text × KeyTask) :=
  keys.flatMap fun key => (mutation.planKey config key).map fun task => (key, task)

end ItemMutation

/-! ## 2. Performing -/

namespace Store

/-- Performs one task. -/
def perform (faults : Faults) (store : Store) (key : Text) : KeyTask → Except CacheError Store
  | .patch f => store.write faults key f
  | .revalidate => store.revalidate faults key

/-- The store after all tasks, and what failed, in order; a failed task
leaves the store as it was. -/
def performAll (faults : Faults) (store : Store) :
    List (Text × KeyTask) → Store × List CacheError
  | [] => (store, [])
  | (key, task) :: rest =>
    match store.perform faults key task with
    | .ok next => next.performAll faults rest
    | .error error =>
      let (last, errors) := store.performAll faults rest
      (last, error :: errors)

end Store

/-- How many tasks a change led to. -/
structure MutationOutcome where
  patched : Nat
  revalidated : Nat
deriving DecidableEq, Repr

/-- The numbers of patches and revalidations among tasks. -/
def MutationOutcome.ofTasks (tasks : List (Text × KeyTask)) : MutationOutcome :=
  ⟨tasks.countP (·.2.isPatch), tasks.countP (!·.2.isPatch)⟩

/-- Carries a change into the store: the store afterwards, and the numbers
of tasks or the first failure. -/
def mutateItem (config : CacheConfig) (faults : Faults) (mutation : ItemMutation)
    (store : Store) : Store × Except CacheError MutationOutcome :=
  let tasks := mutation.plan config store.keys
  let (store, errors) := store.performAll faults tasks
  match errors with
  | [] => (store, .ok (.ofTasks tasks))
  | first :: _ => (store, .error first)

end QueryCache
