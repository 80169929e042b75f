/-
QueryCache.Cache.Key — the keys of cached queries.

A key names the table, the query string and how the query was made, in
segments joined by a separator:
`[page] mark schema table query body count=… head=… order`.
The query string may itself hold the separator; it takes all segments
between the table and the last four.
-/
import QueryCache.Config
import QueryCache.Filter.QueryKey

namespace QueryCache

/-- What a cache key says. -/
structure CacheKey where
  schema : Text
  table : Text
  queryKey : Text
  /-- The selection in the query string. -/
  select : Text
  bodyKey : Option Text := none
  count : Option Text := none
  isHead : Bool := false
  /-- The window in the query string. -/
  limit : Option Nat
  offset : Option Nat
  orderByKey : Option Text := none
  isInfinite : Bool := false
deriving DecidableEq

namespace CacheKey

/-! ## 1. The query string -/

/-- The selection and the window that a query string names. -/
structure Window where
  select : Text := ['*']
  limit : Option Nat := none
  offset : Option Nat := none
deriving DecidableEq

/-- The window with one more parameter read. -/
def Window.addParam (window : Window) (param : Text) : Window :=
  match Text.splitOnce '=' param with
  | none => window
  | some (key, value) =>
    if key = "select".toList then
      { window with select := (Percent.decode value).getD (Percent.plusAsSpace value) }
    else if key = "limit".toList then { window with limit := parseCount? value }
    else if key = "offset".toList then { window with offset := parseCount? value }
    else window

/-- The window of a query string; of parameters with one name the last one
counts. -/
def Window.ofQueryKey (queryKey : Text) : Window :=
  (Text.splitOn '&' queryKey).foldl Window.addParam {}

/-- The key of a query string on a table. -/
def ofQuery (schema table queryKey : Text) : CacheKey :=
  let window := Window.ofQueryKey queryKey
  { schema, table, queryKey, select := window.select, limit := window.limit,
    offset := window.offset }

/-- The key of the query in another order. -/
def withOrderByKey (key : CacheKey) (orderByKey : Text) : CacheKey :=
  { key with orderByKey := some orderByKey }

/-- The key of the query that also counts its rows. -/
def withCount (key : CacheKey) (count : Text) : CacheKey :=
  { key with count := some count }

/-- The key of the query for the head of its response alone. -/
def head (key : CacheKey) : CacheKey :=
  { key with isHead := true }

/-- The key of the query page by page. -/
def infinite (key : CacheKey) : CacheKey :=
  { key with isInfinite := true }

/-! ## 2. Written keys -/

/-- The segment that marks paged queries. -/
def pageMarker : Text := "page"

/-- The segment of something absent. -/
def absent : Text := "null"

/-- The segments of a key. -/
def segments (config : CacheConfig) (key : CacheKey) : List Text :=
  (if key.isInfinite then [pageMarker] else []) ++
    [config.keyPrefix, key.schema, key.table, key.queryKey, key.bodyKey.getD absent,
      "count=".toList ++ key.count.getD absent,
      "head=".toList ++ (if key.isHead then "true".toList else "false".toList),
      key.orderByKey.getD absent]

/-- The written key. -/
def encode (config : CacheConfig) (key : CacheKey) : Text :=
  Text.joinText config.keySeparator (key.segments config)

/-- A segment that may stand for something absent. -/
def present? (segment : Text) : Option Text :=
  if segment = absent ∨ segment.isEmpty then none else some segment

/-- The key of segments behind the page marker. -/
def ofSegments? (config : CacheConfig) (isInfinite : Bool) (segments : List Text) :
    Option CacheKey :=
  if segments.length < 8 then none
  else
    match segments, segments.drop (segments.length - 4) with
    | mark :: schema :: table :: rest, [body, count, head, order] => do
      guard (mark == config.keyPrefix)
      let count ← Text.stripStart "count=" count
      let head ← Text.stripStart "head=" head
      let isHead ←
        if head = "true".toList then some true
        else if head = "false".toList then some false
        else none
      let queryKey := Text.joinText config.keySeparator (rest.take (rest.length - 4))
      some { ofQuery schema table queryKey with
        bodyKey := present? body
        count := present? count
        isHead
        orderByKey := present? order
        isInfinite }
    | _, _ => none

/-- What a written key says; none for a key of another owner. -/
def decode (config : CacheConfig) (text : Text) : Option CacheKey :=
  match Text.splitOnText config.keySeparator text with
  | [] => none
  | first :: rest =>
    if first = pageMarker then ofSegments? config true rest
    else ofSegments? config false (first :: rest)

/-! ## 3. JSON form -/

/-- The fields of a key; what is absent is null. -/
def toJson (key : CacheKey) : Json :=
  .ofEntries [("schema".toList, .str key.schema), ("table".toList, .str key.table),
    ("query_key".toList, .str key.queryKey), ("select".toList, .str key.select),
    ("body_key".toList, Json.ofOption .str key.bodyKey),
    ("count".toList, Json.ofOption .str key.count), ("is_head".toList, .bool key.isHead),
    ("limit".toList, Json.ofOption .ofNat key.limit),
    ("offset".toList, Json.ofOption .ofNat key.offset),
    ("order_by_key".toList, Json.ofOption .str key.orderByKey),
    ("is_infinite".toList, .bool key.isInfinite)]

end CacheKey
end QueryCache
