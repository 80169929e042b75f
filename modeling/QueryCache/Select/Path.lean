/-
QueryCache.Select.Path — the selected leaves of a clause.

A leaf is known by three dotted chains: its declaration as written, the
same without aliases, and, if any segment carries an alias, the chain of
the names that the rows of the response use.
-/
import QueryCache.Json.Record
import QueryCache.Select.Segment

namespace QueryCache

/-- A selected leaf. -/
structure Path where
  /-- The heads as written, from the outermost one, joined by dots. -/
  declaration : Text
  /-- The declaration without aliases, hints kept. -/
  path : Text
  /-- The chain of effective names, if some segment carries an alias. -/
  aliasChain : Option Text
deriving DecidableEq

namespace Path

/-- A path referred to without any alias. -/
def ofText (path : Text) : Path :=
  ⟨path, path, none⟩

/-- The same leaf selected without aliases. -/
def withoutAlias (path : Path) : Path :=
  ⟨Segment.stripPathAliases path.declaration, path.path, none⟩

/-- The segments of the path. -/
def segments (path : Path) : List Text :=
  Text.splitOn '.' path.path

/-- The last segment of the path. -/
def terminal (path : Path) : Text :=
  path.segments.getLast?.getD []

/-- The path selects every column of its level. -/
def isWildcard (path : Path) : Bool :=
  path.terminal == ['*']

/-- The path selects an aggregate. -/
def isAggregate (path : Path) : Bool :=
  Segment.isAggregate path.terminal

/-- The chain of keys that lead to the value in a row of the clause. -/
def outputPath (path : Path) : Text :=
  path.aliasChain.getD (Segment.stripPathHints path.path)

/-! ## JSON form -/

/-- The fields of a leaf; an absent alias is left out. -/
def toJson (path : Path) : Json :=
  .ofEntries (("declaration".toList, .str path.declaration) :: ("path".toList, .str path.path) ::
    (path.aliasChain.map fun chain => ("alias".toList, Json.str chain)).toList)

/-- The leaf that a record holds. -/
def ofJson? (value : Json) : Option Path := do
  match ← value.record? ["declaration", "path", "alias"] with
  | [declaration, path, chain] =>
    some ⟨← declaration.bind Json.text?, ← path.bind Json.text?, ← Json.optional? Json.text? chain⟩
  | _ => none

end Path
end QueryCache
