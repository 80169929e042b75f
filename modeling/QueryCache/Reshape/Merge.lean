/-
QueryCache.Reshape.Merge — one fetch for all queries on a table.

A selection is widened by every path that the live queries on the same
table need: the columns their filters read first, then their own
selections.  The merged statement answers all of them, and the response
can be reshaped into the form that the selection asked for.
-/
import QueryCache.Filter.QueryKey
import QueryCache.Reshape.Flat
import QueryCache.Reshape.Shape
import QueryCache.Statement.Build

namespace QueryCache

/-- The selection and the filters of a live query on a table. -/
structure TableQuery where
  paths : List Path
  filters : List FilterTree

/-- The live query that a query string asks for. -/
def TableQuery.ofQueryKey (text : Text) : Except ParseError TableQuery :=
  (parseQueryKey text).map fun query => ⟨query.paths, query.filters⟩

/-- The statement to fetch, and what is needed to reshape its response. -/
structure NormalizedQuery where
  selectQuery : Text
  /-- The leaves of the caller's own selection, aliases included. -/
  userPaths : Option (List Path)
  /-- The leaves folded into the statement, without aliases. -/
  paths : List Path
  grouped : List GroupedPath

namespace NormalizedQuery

/-- The response in the shape of the caller's selection, or of the merged
one when the caller has none. -/
def denormalizeResponse (query : NormalizedQuery) (response : Json) : Json :=
  denormalize (query.userPaths.getD query.paths) (normalizeResponse query.grouped response)

/-- The paths with one more, unless its declaration without aliases is
there already. -/
def pushUnique (paths : List Path) (path : Path) : List Path :=
  let plain (p : Path) : Text := Segment.stripPathAliases p.declaration
  if paths.any fun p => plain p == plain path then paths else paths ++ [path]

/-- The path that a filter column needs: the leaf that selects it, else
the column as it stands. -/
def filterPath (query : TableQuery) (column : FilterPath) : Path :=
  match query.paths.find? fun p => p.path == column.path && p.aliasChain == column.aliasChain with
  | some path => path.withoutAlias
  | none => Path.ofText column.path

/-- The paths with everything that a live query needs. -/
def addQuery (paths : List Path) (query : TableQuery) : List Path :=
  let needed := (FilterTree.paths query.filters).map (filterPath query) ++
    (query.paths.filter fun path => !path.isAggregate).map Path.withoutAlias
  needed.foldl pushUnique paths

/-- The caller's selection as it is; none when it is blank or absent. -/
def alone (select : Option Text) (userPaths : Option (List Path)) : Option NormalizedQuery :=
  match select with
  | none => none
  | some select =>
    if (Text.trim select).isEmpty then none
    else
      let paths := userPaths.getD []
      some ⟨select, userPaths, paths.map Path.withoutAlias, (buildStatement paths).grouped⟩

/-- The caller's leaves merged with everything that the live queries need;
none when there is nothing to select. -/
def merged (userPaths : Option (List Path)) (queries : List TableQuery) :
    Option NormalizedQuery :=
  let paths := queries.foldl addQuery ((userPaths.getD []).map Path.withoutAlias)
  let statement := buildStatement paths
  if statement.isEmpty then none
  else some ⟨statement.statement, userPaths, paths, statement.grouped⟩

end NormalizedQuery

/-- Widens a selection by what the live queries need, or, when that is
disabled, takes it as it is. -/
def normalizeQuery (select : Option Text) (disabled : Bool) (queries : List TableQuery) :
    Except ParseError (Option NormalizedQuery) := do
  let userPaths ← match select with
    | some select => (parseSelect select).map some
    | none => pure none
  pure (if disabled then NormalizedQuery.alone select userPaths
    else NormalizedQuery.merged userPaths queries)

end QueryCache
