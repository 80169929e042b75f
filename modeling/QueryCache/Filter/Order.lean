/-
QueryCache.Filter.Order — the order of the rows of a query.

A list of sort keys compares two rows; later keys break the ties of
earlier ones.  Sort keys are written in two ways: in a cache key as
`table.column:desc.nullsFirst|…`, in a query string as
`column.desc.nullsfirst,…`.
-/
import QueryCache.Comparison
import QueryCache.Filter.RowPath
import QueryCache.Json.Record
import QueryCache.Select.ParseError

namespace QueryCache

/-- One sort key. -/
structure SortKey where
  column : Text
  foreignTable : Option Text := none
  ascending : Bool
  nullsFirst : Bool
deriving DecidableEq

namespace SortKey

/-- Ascending, nulls last. -/
def asc (column : Text) : SortKey :=
  { column, ascending := true, nullsFirst := false }

/-- Descending, nulls first. -/
def desc (column : Text) : SortKey :=
  { column, ascending := false, nullsFirst := true }

/-- The dotted path of the column in a row. -/
def path (key : SortKey) : Text :=
  match key.foreignTable with
  | some table => table ++ '.' :: key.column
  | none => key.column

/-- The value by which a row is sorted: the first one at the path, null
when there is none. -/
def value (key : SortKey) (row : Json) : Json :=
  (RowPath.values row key.path).head?.getD .null

/-- The order by this key alone. -/
def compareRows (key : SortKey) (a b : Json) : Ordering :=
  Comparison.sortOrder key.ascending key.nullsFirst (key.value a) (key.value b)

end SortKey

/-- The order by a list of keys. -/
def compareRows (keys : List SortKey) (a b : Json) : Ordering :=
  match keys with
  | [] => .eq
  | key :: rest => (key.compareRows a b).then (compareRows rest a b)

@[simp] theorem compareRows_nil (a b : Json) : compareRows [] a b = .eq := rfl

theorem compareRows_cons (key : SortKey) (rest : List SortKey) (a b : Json) :
    compareRows (key :: rest) a b = (key.compareRows a b).then (compareRows rest a b) := rfl

/-! ## 1. Place in an ordered list -/

/-- The place found by halving `size` places from `base` on, when the places
that satisfy `p` come first.  The part kept holds the place at its start or
behind it. -/
def halve (p : Nat → Bool) (base size : Nat) : Nat :=
  if size ≤ 1 then if p base then base + 1 else base
  else if p (base + size / 2) then halve p (base + size / 2) (size - size / 2)
  else halve p base (size - size / 2)
termination_by size

/-- The place behind the rows that satisfy `p`, in a list that begins with
all of these. -/
def partitionPoint {α : Type} (p : α → Bool) (rows : List α) : Nat :=
  if rows.isEmpty then 0 else halve (fun i => rows[i]?.any p) 0 rows.length

theorem halve_eq {p : Nat → Bool} {base size k : Nat} (hsize : 0 < size)
    (hp : ∀ i, i < base + size → p i = decide (i < k)) (hlo : base ≤ k)
    (hhi : k ≤ base + size) : halve p base size = k := by
  fun_induction halve p base size with
  | case1 base size hle hbase =>
    rw [hp base (by omega), decide_eq_true_eq] at hbase
    omega
  | case2 base size hle hbase =>
    rw [hp base (by omega), decide_eq_true_eq] at hbase
    omega
  | case3 base size hle hmid ih =>
    rw [hp _ (by omega), decide_eq_true_eq] at hmid
    exact ih (by omega) (fun i hi => hp i (by omega)) (by omega) (by omega)
  | case4 base size hle hmid ih =>
    rw [hp _ (by omega), decide_eq_true_eq] at hmid
    exact ih (by omega) (fun i hi => hp i (by omega)) (by omega) (by omega)

theorem halve_le {p : Nat → Bool} {base size : Nat} (hsize : 0 < size) :
    halve p base size ≤ base + size := by
  fun_induction halve p base size with
  | case1 base size hle hbase => omega
  | case2 base size hle hbase => omega
  | case3 base size hle hmid ih =>
    have := ih (by omega)
    omega
  | case4 base size hle hmid ih =>
    have := ih (by omega)
    omega

/-- Behind the rows that satisfy `p` is the place between them and the
others. -/
theorem partitionPoint_append {α : Type} {p : α → Bool} {front back : List α}
    (hfront : ∀ a ∈ front, p a) (hback : ∀ a ∈ back, ¬ p a) :
    partitionPoint p (front ++ back) = front.length := by
  unfold partitionPoint
  split
  · rename_i h
    simp only [List.isEmpty_iff, List.append_eq_nil_iff] at h
    simp [h.1]
  · rename_i h
    apply halve_eq
    · rw [List.isEmpty_iff] at h
      exact List.length_pos_iff.2 h
    · intro i hi
      by_cases hif : i < front.length
      · simp [List.getElem?_append_left hif, hif, hfront]
      · have hib : i - front.length < back.length := by
          simp only [Nat.zero_add, List.length_append] at hi
          omega
        rw [List.getElem?_append_right (by omega), List.getElem?_eq_getElem hib]
        simp [hif, hback]
    · omega
    · simp

theorem partitionPoint_le {α : Type} (p : α → Bool) (rows : List α) :
    partitionPoint p rows ≤ rows.length := by
  unfold partitionPoint
  split
  · omega
  · rename_i h
    rw [List.isEmpty_iff] at h
    simpa using @halve_le (fun i => rows[i]?.any p) 0 _ (List.length_pos_iff.2 h)

/-- The place at which a row keeps ordered rows in order, behind those
that compare equal. -/
def orderedPlace (keys : List SortKey) (row : Json) (rows : List Json) : Nat :=
  partitionPoint (fun current => compareRows keys current row != .gt) rows

/-! ## 2. Sort keys in a cache key -/

namespace SortKey

/-- The sort key that a part of a cache key writes; `start` is its place. -/
def ofKeyPart (start : Nat) (part : Text) : Except ParseError SortKey := do
  let refuse {α : Type} (cause : ParseError.Cause) : Except ParseError α :=
    .error (.inText cause part start)
  let (place, order) ← match Text.splitOnce ':' part with
    | some found => pure found
    | none => refuse .invalidOrderKey
  let (foreignTable, column) := match Text.splitOnce '.' place with
    | some (table, column) => (some table, column)
    | none => (none, place)
  let (direction, nulls) := (Text.splitOnce '.' order).getD (order, "nullsLast".toList)
  let ascending ←
    if direction = "asc".toList then pure true
    else if direction = "desc".toList then pure false
    else refuse .invalidDirection
  let nullsFirst ←
    if nulls = "nullsFirst".toList then pure true
    else if nulls = "nullsLast".toList then pure false
    else refuse .invalidNullPlacement
  if column.isEmpty then refuse .missingOrderColumn
  else pure { column, foreignTable, ascending, nullsFirst }

/-! ## 3. Sort keys in a query string -/

/-- Takes the words for direction and null placement off the end of the
parts of a column, given last part first; the word furthest to the left
decides.  At least one part stays. -/
def takeOrderWords (ascending : Bool) (nulls : Option Bool) :
    List Text → Bool × Option Bool × List Text
  | [] => (ascending, nulls, [])
  | [part] => (ascending, nulls, [part])
  | word :: rest =>
    if word = "asc".toList then takeOrderWords true nulls rest
    else if word = "desc".toList then takeOrderWords false nulls rest
    else if word = "nullsfirst".toList then takeOrderWords ascending (some true) rest
    else if word = "nullslast".toList then takeOrderWords ascending (some false) rest
    else (ascending, nulls, word :: rest)

/-- The sort key that an item of a query string writes; `start` is its
place.  Without a word for them nulls come last in ascending and first in
descending order. -/
def ofParamItem (start : Nat) (item : Text) : Except ParseError SortKey :=
  let parts := (Text.splitOn '.' (Text.trim item)).reverse
  let (ascending, nulls, parts) := takeOrderWords true none parts
  let column := Text.join '.' parts.reverse
  if column.isEmpty then .error (.inText .missingOrderColumn item start)
  else .ok { column, ascending, nullsFirst := nulls.getD (!ascending) }

/-- Reads parts that stand one after the other with a character between
them; `start` is the place of the first. -/
def ofParts (read : Nat → Text → Except ParseError SortKey) (start : Nat) :
    List Text → Except ParseError (List SortKey)
  | [] => .ok []
  | part :: rest => do
    let key ← read start part
    let keys ← ofParts read (start + part.length + 1) rest
    pure (key :: keys)

/-! ## 4. JSON form -/

/-- The fields of a sort key; an absent table is left out. -/
def toJson (key : SortKey) : Json :=
  .ofEntries ([("column".toList, .str key.column), ("ascending".toList, .bool key.ascending),
    ("nulls_first".toList, .bool key.nullsFirst)] ++
    (key.foreignTable.map fun table => ("foreign_table".toList, Json.str table)).toList)

/-- The sort key that a record holds. -/
def ofJson? (value : Json) : Option SortKey := do
  match ← value.record? ["column", "foreign_table", "ascending", "nulls_first"] with
  | [column, table, ascending, nullsFirst] =>
    some {
      column := ← column.bind Json.text?
      foreignTable := ← Json.optional? Json.text? table
      ascending := ← ascending.bind Json.bool?
      nullsFirst := ← nullsFirst.bind Json.bool? }
  | _ => none

end SortKey

/-- The sort keys in a cache key. -/
def parseOrderKey (text : Text) : Except ParseError (List SortKey) :=
  SortKey.ofParts SortKey.ofKeyPart 0 (Text.splitOn '|' text)

/-- The sort keys in a query string. -/
def parseOrderParam (text : Text) : Except ParseError (List SortKey) :=
  SortKey.ofParts SortKey.ofParamItem 0 (Text.splitOn ',' text)

end QueryCache
