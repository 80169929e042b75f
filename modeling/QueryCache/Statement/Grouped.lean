/-
QueryCache.Statement.Grouped — a select statement as a tree of entries.

An entry describes its own level only: the segment as declared, the same
without alias, and the alias.  The text of a level lists its entries with
commas between them and nests what stands below a relation.
-/
import QueryCache.Json.Record
import QueryCache.Select.Path

namespace QueryCache

/-- One segment of a statement. -/
structure Entry where
  declaration : Text
  path : Text
  aliasName : Option Text
deriving DecidableEq

/-- A leaf, or a relation and everything selected below it. -/
inductive GroupedPath where
  | leaf (entry : Entry)
  | nested (entry : Entry) (paths : List GroupedPath)

namespace GroupedPath

/-- The segment itself. -/
def entry : GroupedPath → Entry
  | leaf entry => entry
  | nested entry _ => entry

/-- The key under which the response answers the entry. -/
def responseKey (grouped : GroupedPath) : Text :=
  grouped.entry.aliasName.getD (Segment.bareName grouped.entry.path)

/-- The entry selects every column of its level. -/
def isWildcard (grouped : GroupedPath) : Bool :=
  grouped.entry.path == ['*']

mutual

/-- The text of one entry with what stands below it. -/
def statementOf : GroupedPath → Text
  | leaf entry => entry.declaration
  | nested entry paths =>
    entry.declaration ++ '(' :: (Text.join ',' (statementParts paths) ++ [')'])

def statementParts : List GroupedPath → List Text
  | [] => []
  | grouped :: rest => statementOf grouped :: statementParts rest

end

/-- The text of a level. -/
def statement (paths : List GroupedPath) : Text :=
  Text.join ',' (statementParts paths)

end GroupedPath

/-! ## JSON form -/

/-- The fields of an entry; an absent alias is left out. -/
def Entry.jsonFields (entry : Entry) : List (Text × Json) :=
  ("declaration".toList, .str entry.declaration) :: ("path".toList, .str entry.path) ::
    (entry.aliasName.map fun name => ("alias".toList, Json.str name)).toList

/-- An entry from the values of its fields. -/
def Entry.ofValues? (declaration path aliasName : Option Json) : Option Entry := do
  some ⟨← declaration.bind Json.text?, ← path.bind Json.text?,
    ← Json.optional? Json.text? aliasName⟩

namespace GroupedPath

mutual

/-- A leaf as its entry, a relation as its entry with its paths. -/
def toJson : GroupedPath → Json
  | leaf entry => .ofEntries entry.jsonFields
  | nested entry paths =>
    .ofEntries (("paths".toList, .arr (listToJson paths)) :: entry.jsonFields)

def listToJson : List GroupedPath → List Json
  | [] => []
  | grouped :: rest => toJson grouped :: listToJson rest

end

/-- The leaf that a record holds. -/
def leafOfJson? (value : Json) : Option GroupedPath := do
  match ← value.record? ["declaration", "path", "alias"] with
  | [declaration, path, aliasName] => (Entry.ofValues? declaration path aliasName).map leaf
  | _ => none

mutual

/-- A relation if the value has well-formed paths, else a leaf. -/
def ofJson? : Json → Option GroupedPath
  | .obj fields =>
    match Entry.ofValues? (Fields.get? "declaration" fields) (Fields.get? "path" fields)
        (Fields.get? "alias" fields), pathsIn? fields with
    | some entry, some paths => some (nested entry paths)
    | _, _ => leafOfJson? (.obj fields)
  | .arr [declaration, path, aliasName, .arr items] =>
    match Entry.ofValues? (some declaration) (some path) (some aliasName), listOfJson? items with
    | some entry, some paths => some (nested entry paths)
    | _, _ => none
  | value => leafOfJson? value

/-- All the paths of a list. -/
def listOfJson? : List Json → Option (List GroupedPath)
  | [] => some []
  | value :: rest =>
    match ofJson? value, listOfJson? rest with
    | some grouped, some others => some (grouped :: others)
    | _, _ => none

/-- The paths in the field of that name. -/
def pathsIn? : List (Text × Json) → Option (List GroupedPath)
  | [] => none
  | (name, .arr items) :: rest =>
    if name = "paths".toList then listOfJson? items else pathsIn? rest
  | (_, _) :: rest => pathsIn? rest

end

end GroupedPath
end QueryCache
