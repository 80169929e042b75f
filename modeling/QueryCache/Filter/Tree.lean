/-
QueryCache.Filter.Tree — conditions and groups of conditions.

A condition reads a column of a row and compares it with an operand; a
column without any value fails the condition, negated or not.  A group
holds when any, or all, of its members hold; the empty group always
holds.
-/
import QueryCache.Filter.Operator
import QueryCache.Filter.RowPath
import QueryCache.Json.Record
import QueryCache.Select.Segment

namespace QueryCache

/-! ## 1. Conditions -/

/-- One predicate of a query. -/
structure Condition where
  /-- The column, without aliases. -/
  path : Text
  /-- The chain of keys under which the query's own rows hold the column,
  when it differs. -/
  aliasChain : Option Text := none
  operator : FilterOperator
  negated : Bool := false
  operand : Json
deriving DecidableEq

namespace Condition

/-- The condition that holds where the other fails. -/
def negate (c : Condition) : Condition :=
  { c with negated := !c.negated }

/-- The condition read under another chain of keys. -/
def withAlias (c : Condition) (chain : Text) : Condition :=
  { c with aliasChain := some chain }

/-- The chain of keys under which a row holds the column. -/
def lookupPath (c : Condition) : Text :=
  c.aliasChain.getD (Segment.stripPathHints c.path)

/-- The condition is about one of the paths. -/
def targets (c : Condition) (paths : List Text) : Bool :=
  paths.any fun path => path == c.path || some path == c.aliasChain

/-- The values that the condition reads in a row. -/
def values (c : Condition) (row : Json) : List Json :=
  RowPath.values row c.lookupPath

/-- Some value of the column stands in the relation to the operand. -/
def found (c : Condition) (row : Json) : Bool :=
  (c.values row).any fun value => c.operator.accepts value c.operand

/-- The row satisfies the condition. -/
def accepts (c : Condition) (row : Json) : Bool :=
  !(c.values row).isEmpty && c.found row != c.negated

@[simp] theorem negate_negate (c : Condition) : c.negate.negate = c := by
  simp [negate]

end Condition

/-! ## 2. Trees -/

/-- A condition, or a group of which any or all members must hold. -/
inductive FilterTree where
  | condition (c : Condition)
  | anyOf (group : List FilterTree)
  | allOf (group : List FilterTree)

/-- A column that a filter reads. -/
structure FilterPath where
  path : Text
  aliasChain : Option Text
deriving DecidableEq

namespace FilterTree

/-- Equality with an operand. -/
def equality (path : Text) (operand : Json) : FilterTree :=
  condition { path, operator := .eq, operand }

mutual

/-- The row satisfies the filter. -/
def accepts (row : Json) : FilterTree → Bool
  | condition c => c.accepts row
  | anyOf group => group.isEmpty || anyAccepts row group
  | allOf group => allAccept row group

def anyAccepts (row : Json) : List FilterTree → Bool
  | [] => false
  | filter :: rest => accepts row filter || anyAccepts row rest

def allAccept (row : Json) : List FilterTree → Bool
  | [] => true
  | filter :: rest => accepts row filter && allAccept row rest

end

theorem anyAccepts_eq_any (row : Json) (group : List FilterTree) :
    anyAccepts row group = group.any (accepts row) := by
  induction group with
  | nil => rfl
  | cons filter rest ih => simp [anyAccepts, ih]

theorem allAccept_eq_all (row : Json) (group : List FilterTree) :
    allAccept row group = group.all (accepts row) := by
  induction group with
  | nil => rfl
  | cons filter rest ih => simp [allAccept, ih]

@[simp] theorem accepts_condition (row : Json) (c : Condition) :
    (condition c).accepts row = c.accepts row := rfl

@[simp] theorem accepts_anyOf (row : Json) (group : List FilterTree) :
    (anyOf group).accepts row = (group.isEmpty || group.any (accepts row)) := by
  simp [accepts, anyAccepts_eq_any]

@[simp] theorem accepts_allOf (row : Json) (group : List FilterTree) :
    (allOf group).accepts row = group.all (accepts row) := by
  simp [accepts, allAccept_eq_all]

mutual

/-- The negation, carried down to the conditions. -/
def negate : FilterTree → FilterTree
  | condition c => condition c.negate
  | anyOf group => allOf (negateAll group)
  | allOf group => anyOf (negateAll group)

def negateAll : List FilterTree → List FilterTree
  | [] => []
  | filter :: rest => negate filter :: negateAll rest

end

theorem negateAll_eq_map (group : List FilterTree) : negateAll group = group.map negate := by
  induction group with
  | nil => rfl
  | cons filter rest ih => simp [negateAll, ih]

mutual

/-- Only the conditions about the paths; a group left without members goes
too. -/
def restrictTo? (paths : List Text) : FilterTree → Option FilterTree
  | condition c => if c.targets paths then some (condition c) else none
  | anyOf group => nonempty anyOf (restrictAll paths group)
  | allOf group => nonempty allOf (restrictAll paths group)

def restrictAll (paths : List Text) : List FilterTree → List FilterTree
  | [] => []
  | filter :: rest =>
    match restrictTo? paths filter with
    | some filter => filter :: restrictAll paths rest
    | none => restrictAll paths rest

/-- A group, if it has members. -/
def nonempty (wrap : List FilterTree → FilterTree) (group : List FilterTree) :
    Option FilterTree :=
  if group.isEmpty then none else some (wrap group)

end

theorem restrictAll_eq_filterMap (paths : List Text) (group : List FilterTree) :
    restrictAll paths group = group.filterMap (restrictTo? paths) := by
  induction group with
  | nil => rfl
  | cons filter rest ih =>
    simp only [restrictAll, List.filterMap_cons]
    cases restrictTo? paths filter <;> simp [ih]

mutual

/-- The conditions, from left to right. -/
def conditions : FilterTree → List Condition
  | condition c => [c]
  | anyOf group => conditionsOfAll group
  | allOf group => conditionsOfAll group

def conditionsOfAll : List FilterTree → List Condition
  | [] => []
  | filter :: rest => conditions filter ++ conditionsOfAll rest

end

mutual

/-- Every condition replaced. -/
def mapConditions (f : Condition → Condition) : FilterTree → FilterTree
  | condition c => condition (f c)
  | anyOf group => anyOf (mapAllConditions f group)
  | allOf group => allOf (mapAllConditions f group)

def mapAllConditions (f : Condition → Condition) : List FilterTree → List FilterTree
  | [] => []
  | filter :: rest => mapConditions f filter :: mapAllConditions f rest

end

/-- The columns that the filters read, each once, in the order of their
first use. -/
def paths (filters : List FilterTree) : List FilterPath :=
  (filters.flatMap conditions).foldl (fun seen c =>
    let path : FilterPath := ⟨c.path, c.aliasChain⟩
    if seen.contains path then seen else seen ++ [path]) []

end FilterTree

/-! ## 3. JSON form -/

namespace Condition

/-- The fields of a condition; an absent alias is left out. -/
def toJson (c : Condition) : Json :=
  .ofEntries ([("path".toList, .str c.path), ("operator".toList, .str c.operator.name),
    ("negate".toList, .bool c.negated), ("value".toList, c.operand)] ++
    (c.aliasChain.map fun chain => ("alias".toList, Json.str chain)).toList)

/-- The condition that a record holds. -/
def ofJson? (value : Json) : Option Condition := do
  match ← value.record? ["path", "alias", "operator", "negate", "value"] with
  | [path, chain, operator, negated, operand] =>
    some {
      path := ← path.bind Json.text?
      aliasChain := ← Json.optional? Json.text? chain
      operator := ← operator.bind FilterOperator.ofJson?
      negated := ← (match negated with
        | some negated => negated.bool?
        | none => some false)
      operand := ← operand }
  | _ => none

end Condition

namespace FilterTree

mutual

/-- An object with one field that names the kind of the node. -/
def toJson : FilterTree → Json
  | condition c => .obj [("filter".toList, c.toJson)]
  | anyOf group => .obj [("or".toList, .arr (listToJson group))]
  | allOf group => .obj [("and".toList, .arr (listToJson group))]

def listToJson : List FilterTree → List Json
  | [] => []
  | filter :: rest => toJson filter :: listToJson rest

end

mutual

/-- The tree that a value holds. -/
def ofJson? : Json → Option FilterTree
  | .obj [(kind, .arr items)] =>
    if kind = "or".toList then (listOfJson? items).map anyOf
    else if kind = "and".toList then (listOfJson? items).map allOf
    else if kind = "filter".toList then (Condition.ofJson? (.arr items)).map condition
    else none
  | .obj [(kind, value)] =>
    if kind = "filter".toList then (Condition.ofJson? value).map condition else none
  | _ => none

/-- All the trees of a list. -/
def listOfJson? : List Json → Option (List FilterTree)
  | [] => some []
  | value :: rest =>
    match ofJson? value, listOfJson? rest with
    | some filter, some others => some (filter :: others)
    | _, _ => none

end

end FilterTree
end QueryCache
