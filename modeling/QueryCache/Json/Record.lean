/-
QueryCache.Json.Record — records in JSON.

A record is an object with known field names, or a list of the values of
its fields in their order.  Unknown fields are ignored; a list may stop
early but not go on behind the last field.
-/
import QueryCache.Json.Basic

namespace QueryCache.Json

/-- The values of the named fields, each if it is there. -/
def record? (names : List Text) : Json → Option (List (Option Json))
  | obj fields => some (names.map fun name => Fields.get? name fields)
  | arr items =>
    if items.length ≤ names.length then
      some (items.map some ++ List.replicate (names.length - items.length) none)
    else none
  | _ => none

/-- A text. -/
def text? : Json → Option Text
  | str text => some text
  | _ => none

/-- A truth value. -/
def bool? : Json → Option Bool
  | bool b => some b
  | _ => none

/-- A list. -/
def items? : Json → Option (List Json)
  | arr items => some items
  | _ => none

/-- A value that may be null or absent. -/
def optional? {α : Type} (decode : Json → Option α) : Option Json → Option (Option α)
  | none => some none
  | some null => some none
  | some value => (decode value).map some

end QueryCache.Json
