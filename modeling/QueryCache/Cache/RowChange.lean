/-
QueryCache.Cache.RowChange — changes of one row, carried into cached
results.

A change names its row by an input that holds the primary keys.  On a list
of rows the changed row is taken out and, if it still belongs to the query,
put back at its place in the order of the query, or in front when there is
no order.  `RowChange.apply` carries a change into every shape of cached
result.
-/
import QueryCache.Cache.Data
import QueryCache.Filter.Order

namespace QueryCache

/-- The row has the input's value at every primary key. -/
def sharesKeys (primaryKeys : List Text) (row input : Json) : Bool :=
  primaryKeys.all fun key =>
    match row.get? key, input.get? key with
    | some current, some expected => current.sameAs expected
    | _, _ => false

/-- What a cached query contributes to a change of one of its rows. -/
structure PatchContext where
  primaryKeys : List Text
  /-- The rows that belong to the query. -/
  accepts : Json → Bool
  orderBy : List SortKey := []
  /-- What is done to a row that enters a list. -/
  transform : Json → Json := id

namespace PatchContext

/-! ## 1. Rows of a list -/

/-- The place at which a row enters a list. -/
def place (ctx : PatchContext) (row : Json) (rows : List Json) : Nat :=
  if ctx.orderBy.isEmpty then 0 else orderedPlace ctx.orderBy row rows

/-- Puts a row at its place, if it belongs to the query. -/
def reinsert (ctx : PatchContext) (row : Json) (rows : List Json) : List Json :=
  if ctx.accepts row then rows.insertIdx (ctx.place row rows) (ctx.transform row) else rows

/-- Changes the first row that shares the input's keys; without one nothing
changes. -/
def mutateRows (ctx : PatchContext) (input : Json) (f : Json → Json) (rows : List Json) :
    List Json :=
  let isTarget (row : Json) : Bool := sharesKeys ctx.primaryKeys row input
  match rows.find? isTarget with
  | some current => ctx.reinsert (f current) (rows.eraseP isTarget)
  | none => rows

/-- The row that an input makes of a current one: what `merge` says, or the
input's fields laid over the current ones. -/
def mergeRow (merge : Option (Json → Json → Json)) (current input : Json) : Json :=
  match merge with
  | some merge => merge current input
  | none =>
    match current, input with
    | .obj fields, .obj upper => .obj (Fields.overlay fields upper)
    | _, _ => input

/-- Merges the input into the first row that shares its keys, or enters it
as a row of its own. -/
def upsertRows (ctx : PatchContext) (input : Json) (merge : Option (Json → Json → Json))
    (rows : List Json) : List Json :=
  let isTarget (row : Json) : Bool := sharesKeys ctx.primaryKeys row input
  let row := match rows.find? isTarget with
    | some current => mergeRow merge current input
    | none => input
  ctx.reinsert row (rows.eraseP isTarget)

/-- Drops every row that shares the input's keys. -/
def deleteRows (primaryKeys : List Text) (input : Json) (rows : List Json) : List Json :=
  rows.filter fun row => !sharesKeys primaryKeys row input

/-- The row, or null when it does not belong to the query. -/
def orNull (ctx : PatchContext) (row : Json) : Json :=
  if ctx.accepts row then row else .null

end PatchContext

/-! ## 2. Cached results -/

/-- What happens to a row. -/
inductive RowChange where
  /-- The row is replaced by a function of itself. -/
  | mutate (f : Json → Json)
  /-- The input is merged into the row, or becomes a row. -/
  | upsert (merge : Option (Json → Json → Json))
  | delete

namespace RowChange

/-- The change of a list of rows. -/
def applyRows (change : RowChange) (ctx : PatchContext) (input : Json) (rows : List Json) :
    List Json :=
  match change with
  | mutate f => ctx.mutateRows input f rows
  | upsert merge => ctx.upsertRows input merge rows
  | delete => PatchContext.deleteRows ctx.primaryKeys input rows

/-- The change of a result that is a single row.  Null stays null, a row
that leaves the query becomes null, and a row with other keys stays as it
is unless the change is a function of the row alone. -/
def applySingle (change : RowChange) (ctx : PatchContext) (input current : Json) : Json :=
  if current.isNull then current
  else
    match change with
    | mutate f => ctx.orNull (f current)
    | upsert merge =>
      if sharesKeys ctx.primaryKeys current input then
        ctx.orNull (PatchContext.mergeRow merge current input)
      else current
    | delete => if sharesKeys ctx.primaryKeys current input then .null else current

/-- The change of a cached result, lists paged by `limit` rows. -/
def apply (change : RowChange) (ctx : PatchContext) (input : Json) (limit : Nat)
    (data : CacheData) : CacheData :=
  match data.flatten with
  | some rows => data.rechunk (change.applyRows ctx input rows) limit
  | none =>
    match data with
    | .response single count => .response (change.applySingle ctx input single) count
    | other => other

end RowChange
end QueryCache
