/-
QueryCache.Filter.RowPath — the values at a dotted path of a row.

On an object, a field named by the whole remaining path wins over going
down its first segment.  Arrays are read item by item, so a path may lead
to any number of values.
-/
import QueryCache.Json.Basic

namespace QueryCache.RowPath

/-- The values at a chain of segments. -/
def valuesAt : List Text → Json → List Json
  | [], value => [value]
  | segment :: below, value => value.rows.flatMap fun row =>
    match row with
    | .obj fields =>
      match (if below.isEmpty then none else Fields.get? (Text.join '.' (segment :: below)) fields) with
      | some found => [found]
      | none =>
        match Fields.get? segment fields with
        | some found => valuesAt below found
        | none => []
    | _ => []

/-- The chain of segments leads somewhere in every row.  A null relation
and a relation without rows lead everywhere. -/
def leadsOn : List Text → Json → Bool
  | [], _ => true
  | segment :: below, value => value.rows.all fun row =>
    match row with
    | .null => true
    | .obj fields =>
      (!below.isEmpty && Fields.has (Text.join '.' (segment :: below)) fields) ||
        match Fields.get? segment fields with
        | some found => leadsOn below found
        | none => false
    | _ => false

/-- The values at a dotted path. -/
def values (row : Json) (path : Text) : List Json :=
  valuesAt (Text.splitOn '.' path) row

/-- The row carries a value, null included, for a dotted path. -/
def has (row : Json) (path : Text) : Bool :=
  leadsOn (Text.splitOn '.' path) row

end QueryCache.RowPath
