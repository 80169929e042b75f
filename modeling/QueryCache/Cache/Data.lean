/-
QueryCache.Cache.Data — the shapes of cached results.

A cached value is a response, a list of pages, or a list of pages that
each say whether more follow.  The rows of a list shape can be taken out
and put back: `flatten` and `rechunk`.
-/
import QueryCache.Json.Basic

namespace QueryCache

/-- One page of a list that is loaded piece by piece. -/
structure HasMorePage where
  data : List Json
  hasMore : Bool
deriving DecidableEq

/-- A cached result. -/
inductive CacheData where
  /-- Rows, a single row or null, and the number of rows if it was asked
  for. -/
  | response (data : Json) (count : Option Int)
  | pages (pages : List (List Json))
  | hasMorePages (pages : List HasMorePage)
deriving DecidableEq

namespace CacheData

/-! ## 1. Cached values -/

/-- A page with its flag. -/
def page? (value : Json) : Option HasMorePage :=
  match value.get? "data", value.get? "hasMore" with
  | some (.arr rows), some (.bool hasMore) => some ⟨rows, hasMore⟩
  | _, _ => none

/-- A plain page. -/
def rows? : Json → Option (List Json)
  | .arr rows => some rows
  | _ => none

/-- A number that fits 64 bits with its sign. -/
def count? : Json → Option Int
  | .num (.int n) => if n < signedLimit then some n else none
  | _ => none

/-- The cached result that a value holds; none for an unknown shape.  The
empty list has no pages. -/
def ofJson? : Json → Option CacheData
  | .arr [] => some (pages [])
  | .arr items =>
    match items.mapM page? with
    | some found => some (hasMorePages found)
    | none => (items.mapM rows?).map pages
  | .obj fields =>
    (Fields.get? "data" fields).map fun data =>
      response data ((Fields.get? "count" fields).bind count?)
  | _ => none

/-- The value of a page. -/
def pageToJson (page : HasMorePage) : Json :=
  .ofEntries [("data".toList, .arr page.data), ("hasMore".toList, .bool page.hasMore)]

/-- The value that holds a cached result. -/
def toJson : CacheData → Json
  | response data count =>
    .ofEntries [("data".toList, data), ("count".toList, Json.ofOption (fun n => .num (.int n)) count)]
  | pages found => .arr (found.map .arr)
  | hasMorePages found => .arr (found.map pageToJson)

/-! ## 2. Rows -/

/-- All rows in order, when the shape holds a list. -/
def flatten : CacheData → Option (List Json)
  | response (.arr rows) _ => some rows
  | response _ _ => none
  | pages found => some found.flatten
  | hasMorePages found => some (found.flatMap (·.data))

/-- Pages of `size` rows each, at least one, the last one perhaps with
fewer; no page is empty. -/
def chunk (size : Nat) : List Json → List (List Json)
  | [] => []
  | row :: rest => (row :: rest.take (size - 1)) :: chunk size (rest.drop (size - 1))
termination_by rows => rows.length
decreasing_by simp only [List.length_drop, List.length_cons]; omega

/-- The pages with their flags: more follow every page but the last, which
has the given flag. -/
def flagPages (lastHasMore : Bool) : List (List Json) → List HasMorePage
  | [] => []
  | [rows] => [⟨rows, lastHasMore⟩]
  | rows :: rest => ⟨rows, true⟩ :: flagPages lastHasMore rest

/-- The shape around other rows, pages holding `limit` rows, at least one.
A response counts its rows; of flagged pages the last one keeps the flag
that the last one had. -/
def rechunk (data : CacheData) (rows : List Json) (limit : Nat) : CacheData :=
  match data with
  | response _ _ => response (.arr rows) (some rows.length)
  | pages _ => pages (chunk limit rows)
  | hasMorePages previous =>
    let lastHasMore := (previous.getLast?.map (·.hasMore)).getD false
    hasMorePages (flagPages lastHasMore (chunk limit rows))

end CacheData
end QueryCache
