/-
QueryCache.Cache.Revalidation — which cached queries a change makes stale
beyond those that it patches.

A table rule names a table whose queries all go stale.  A relation rule
names a relation and a foreign key of the changed row: queries on the
relation go stale unless their own filters exclude the row that the key
points to.
-/
import QueryCache.Cache.Key
import QueryCache.Filter.QueryFilter

namespace QueryCache

/-- Every query on the table goes stale. -/
structure TableRule where
  schema : Option Text := none
  table : Text
deriving DecidableEq

/-- The queries on the relation go stale that accept, in the column
`idColumn`, what the changed row holds in `foreignKey`. -/
structure RelationRule where
  schema : Option Text := none
  relation : Text
  idColumn : Text
  foreignKey : Text
deriving DecidableEq

/-- A schema that a rule names, or the default one, is that of the key. -/
def CacheKey.hasSchema (config : CacheConfig) (key : CacheKey) (schema : Option Text) : Bool :=
  schema.getD config.defaultSchema == key.schema

/-- The rule concerns the queries under a key. -/
def TableRule.concerns (config : CacheConfig) (rule : TableRule) (key : CacheKey) : Bool :=
  rule.table == key.table && key.hasSchema config rule.schema

/-- The rule concerns the queries under a key, whose own filter is given if
it is known. -/
def RelationRule.concerns (config : CacheConfig) (rule : RelationRule) (input : Json)
    (key : CacheKey) (filter : Option QueryFilter) : Bool :=
  if rule.relation != key.table || !key.hasSchema config rule.schema then false
  else
    match input.get? rule.foreignKey with
    | none => false
    | some .null => false
    | some value =>
      match filter with
      | none => true
      | some filter => filter.passesOn (.obj [(rule.idColumn, value)]) [rule.idColumn]

/-- The rules of a change. -/
structure RevalidationRules where
  tables : List TableRule := []
  relations : List RelationRule := []
deriving DecidableEq

namespace RevalidationRules

/-! ## 1. Rules -/

/-- There are no rules. -/
def isEmpty (rules : RevalidationRules) : Bool :=
  rules.tables.isEmpty && rules.relations.isEmpty

/-- The rules with one more for a table. -/
def addTable (rules : RevalidationRules) (rule : TableRule) : RevalidationRules :=
  { rules with tables := rules.tables ++ [rule] }

/-- The rules with one more for a relation. -/
def addRelation (rules : RevalidationRules) (rule : RelationRule) : RevalidationRules :=
  { rules with relations := rules.relations ++ [rule] }

/-- Some table rule concerns the queries under a key. -/
def tableConcerns (config : CacheConfig) (rules : RevalidationRules) (key : CacheKey) : Bool :=
  rules.tables.any fun rule => rule.concerns config key

/-- Some relation rule concerns the queries under a key. -/
def relationConcerns (config : CacheConfig) (rules : RevalidationRules) (input : Json)
    (key : CacheKey) (filter : Option QueryFilter) : Bool :=
  rules.relations.any fun rule => rule.concerns config input key filter

end RevalidationRules

/-! ## 2. JSON form -/

/-- The fields of a table rule. -/
def TableRule.toJson (rule : TableRule) : Json :=
  .ofEntries [("schema".toList, Json.ofOption .str rule.schema), ("table".toList, .str rule.table)]

/-- The table rule that a record holds. -/
def TableRule.ofJson? (value : Json) : Option TableRule := do
  match ← value.record? ["schema", "table"] with
  | [schema, table] =>
    some { schema := ← Json.optional? Json.text? schema, table := ← table.bind Json.text? }
  | _ => none

/-- The fields of a relation rule. -/
def RelationRule.toJson (rule : RelationRule) : Json :=
  .ofEntries [("schema".toList, Json.ofOption .str rule.schema),
    ("relation".toList, .str rule.relation),
    ("relation_id_column".toList, .str rule.idColumn),
    ("fkey_column".toList, .str rule.foreignKey)]

/-- The relation rule that a record holds. -/
def RelationRule.ofJson? (value : Json) : Option RelationRule := do
  match ← value.record? ["schema", "relation", "relation_id_column", "fkey_column"] with
  | [schema, relation, idColumn, foreignKey] =>
    some {
      schema := ← Json.optional? Json.text? schema
      relation := ← relation.bind Json.text?
      idColumn := ← idColumn.bind Json.text?
      foreignKey := ← foreignKey.bind Json.text? }
  | _ => none

namespace RevalidationRules

/-- The two lists of rules. -/
def toJson (rules : RevalidationRules) : Json :=
  .ofEntries [("tables".toList, .arr (rules.tables.map TableRule.toJson)),
    ("relations".toList, .arr (rules.relations.map RelationRule.toJson))]

/-- A list of rules, empty when it is absent. -/
def listOf? {α : Type} (decode : Json → Option α) : Option Json → Option (List α)
  | none => some []
  | some value => value.items?.bind (·.mapM decode)

/-- The rules that a record holds. -/
def ofJson? (value : Json) : Option RevalidationRules := do
  match ← value.record? ["tables", "relations"] with
  | [tables, relations] =>
    some {
      tables := ← listOf? TableRule.ofJson? tables
      relations := ← listOf? RelationRule.ofJson? relations }
  | _ => none

end RevalidationRules
end QueryCache
