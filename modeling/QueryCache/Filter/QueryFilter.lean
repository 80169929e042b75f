/-
QueryCache.Filter.QueryFilter — what a cached query says about rows.

The selection and the filters of a query decide whether a row belongs to
it, give the row its shape, and tell whether the query can be judged row
by row at all.  `FilterMemo` keeps the filters of query strings that were
read before.
-/
import QueryCache.Filter.QueryKey
import QueryCache.Reshape.Shape

namespace QueryCache

/-- The selection and the filters of one cached query. -/
structure QueryFilter where
  paths : List Path
  filters : List FilterTree

namespace QueryFilter

/-- The filter of a query string. -/
def ofQueryKey (text : Text) : Except ParseError QueryFilter :=
  (parseQueryKey text).map fun query => ⟨query.paths, query.filters⟩

/-- The row carries every selected path; wildcards and aggregates are not
asked for. -/
def hasPaths (filter : QueryFilter) (row : Json) : Bool :=
  (filter.paths.filter fun path => !path.isWildcard && !path.isAggregate).all fun path =>
    RowPath.has row path.outputPath

/-- The row passes every filter. -/
def passes (filter : QueryFilter) (row : Json) : Bool :=
  filter.filters.all (·.accepts row)

/-- The row belongs to the query. -/
def accepts (filter : QueryFilter) (row : Json) : Bool :=
  filter.hasPaths row && filter.passes row

/-- The rows that pass every filter, whatever they carry. -/
def select (filter : QueryFilter) (rows : List Json) : List Json :=
  rows.filter filter.passes

/-- The row in the shape of the selection. -/
def denormalize (filter : QueryFilter) (row : Json) : Json :=
  QueryCache.denormalize filter.paths row

/-- What the filters say about the paths alone. -/
def filtersOn (filter : QueryFilter) (paths : List Text) : List FilterTree :=
  filter.filters.filterMap (·.restrictTo? paths)

/-- Some condition is about one of the paths. -/
def hasFiltersOn (filter : QueryFilter) (paths : List Text) : Bool :=
  !(filter.filtersOn paths).isEmpty

/-- The row passes what the filters say about the paths. -/
def passesOn (filter : QueryFilter) (row : Json) (paths : List Text) : Bool :=
  (filter.filtersOn paths).all (·.accepts row)

/-- The selection asks for every column. -/
def hasWildcard (filter : QueryFilter) : Bool :=
  filter.paths.any Path.isWildcard

/-- The selection asks for an aggregate. -/
def hasAggregate (filter : QueryFilter) : Bool :=
  filter.paths.any Path.isAggregate

end QueryFilter

/-- The filters of the query strings read so far, the latest first. -/
abbrev FilterMemo := List (Text × QueryFilter)

namespace FilterMemo

/-- The filter of a query string, and the memo that knows it from then on.
A string that cannot be read is not kept. -/
def filterFor (memo : FilterMemo) (text : Text) : Except ParseError QueryFilter × FilterMemo :=
  match List.lookup text memo with
  | some filter => (.ok filter, memo)
  | none =>
    match QueryFilter.ofQueryKey text with
    | .ok filter => (.ok filter, (text, filter) :: memo)
    | .error error => (.error error, memo)

end FilterMemo
end QueryCache
