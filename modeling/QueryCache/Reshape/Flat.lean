/-
QueryCache.Reshape.Flat — responses with every column under its dotted
canonical path.

A statement answers under aliases; flattening undoes them.  The columns
of a to-one relation move up under dotted names; a to-many relation stays
a list of rows, each flattened on its own, and a null relation stays
null.
-/
import QueryCache.Statement.Grouped

namespace QueryCache

namespace GroupedPath

/-- The response keys that explicit entries of a level read; a wildcard
leaves them alone. -/
def claimedKeys (paths : List GroupedPath) : List Text :=
  (paths.filter fun grouped => !grouped.isWildcard).map responseKey

/-- The columns of a row that no explicit entry claims, each with `start`
before its name. -/
def copyUnclaimed (claimed : List Text) (start : Text) (row out : Fields Json) : Fields Json :=
  row.foldl (fun out (name, value) =>
    if claimed.contains name then out else Fields.insert (start ++ name) value out) out

mutual

/-- Lays the columns that one entry reads into `out`, with `start` before
their names.  `claimed` are the keys claimed on this level. -/
def flattenOne (claimed : List Text) (row : Fields Json) (start : Text) (out : Fields Json) :
    GroupedPath → Fields Json
  | leaf entry =>
    if entry.path = ['*'] then copyUnclaimed claimed start row out
    else match Fields.get? (leaf entry).responseKey row with
      | none => out
      | some value => Fields.insert (start ++ entry.path) value out
  | nested entry paths =>
    if entry.path = ['*'] then copyUnclaimed claimed start row out
    else match Fields.get? (nested entry paths).responseKey row with
      | none => out
      | some (.obj related) =>
        flattenInto (claimedKeys paths) related (start ++ entry.path ++ ['.']) out paths
      | some (.arr items) =>
        Fields.insert (start ++ entry.path)
          ((Json.arr items).mapRows fun
            | .obj related => .obj (flattenInto (claimedKeys paths) related [] [] paths)
            | other => other) out
      | some other => Fields.insert (start ++ entry.path) other out

/-- Lays the columns that the entries read into `out`. -/
def flattenInto (claimed : List Text) (row : Fields Json) (start : Text) (out : Fields Json) :
    List GroupedPath → Fields Json
  | [] => out
  | grouped :: rest =>
    flattenInto claimed row start (flattenOne claimed row start out grouped) rest

end

/-- A row with every column under its dotted canonical path. -/
def flattenRow (paths : List GroupedPath) (row : Fields Json) : Fields Json :=
  flattenInto (claimedKeys paths) row [] [] paths

end GroupedPath

/-- The response to a statement with every column under its dotted
canonical path. -/
def normalizeResponse (paths : List GroupedPath) (response : Json) : Json :=
  response.mapRows fun
    | .obj row => .obj (GroupedPath.flattenRow paths row)
    | other => other

end QueryCache
