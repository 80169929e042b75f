/-
QueryCache.Filter.Operator — the operators of filter conditions.

An operator decides whether the value of a row stands in its relation to
the operand.  A null value satisfies `is` at most.
-/
import QueryCache.Comparison
import QueryCache.Pattern.Like
import QueryCache.Pattern.Reader

namespace QueryCache

/-- A filter operator. -/
inductive FilterOperator where
  | eq | neq | gt | gte | lt | lte | like | ilike | is | in_ | cs | cd | match_ | imatch
deriving DecidableEq, Repr

namespace FilterOperator

/-- Every operator. -/
def all : List FilterOperator :=
  [eq, neq, gt, gte, lt, lte, like, ilike, is, in_, cs, cd, match_, imatch]

/-- The name in a query string. -/
def name : FilterOperator → Text
  | eq => "eq"
  | neq => "neq"
  | gt => "gt"
  | gte => "gte"
  | lt => "lt"
  | lte => "lte"
  | like => "like"
  | ilike => "ilike"
  | is => "is"
  | in_ => "in"
  | cs => "cs"
  | cd => "cd"
  | match_ => "match"
  | imatch => "imatch"

/-- The operator with a name. -/
def ofName? (name : Text) : Option FilterOperator :=
  all.find? fun op => op.name == name

theorem ofName?_name (op : FilterOperator) : ofName? op.name = some op := by
  cases op <;> decide

theorem name_of_ofName? {text : Text} {op : FilterOperator} (h : ofName? text = some op) :
    op.name = text := by
  simpa using List.find?_some h

/-- The value of a row stands in the relation to the operand. -/
def accepts (op : FilterOperator) (value operand : Json) : Bool :=
  if value.isNull && op != is then false
  else match op with
    | eq => Comparison.equals value operand
    | neq => !Comparison.equals value operand
    | gt => Comparison.compare? value operand == some .gt
    | gte => Comparison.compare? value operand == some .gt ||
        Comparison.compare? value operand == some .eq
    | lt => Comparison.compare? value operand == some .lt
    | lte => Comparison.compare? value operand == some .lt ||
        Comparison.compare? value operand == some .eq
    | like => onTexts (Pattern.like false) value operand
    | ilike => onTexts (Pattern.like true) value operand
    | match_ => onTexts (Pattern.occurs false) value operand
    | imatch => onTexts (Pattern.occurs true) value operand
    | is =>
      match operand with
      | .bool b => value == .bool b
      | _ => value.isNull
    | in_ =>
      match operand with
      | .arr items => items.any fun item => Comparison.equals value item
      | _ => false
    | cs => Comparison.contains value operand
    | cd => Comparison.contains operand value
where
  /-- A pattern and the text it is held against. -/
  onTexts (matcher : (pattern value : Text) → Bool) : (value operand : Json) → Bool
    | .str value, .str pattern => matcher pattern value
    | _, _ => false

/-- The operator that a JSON value names. -/
def ofJson? : Json → Option FilterOperator
  | .str name => ofName? name
  | .obj [(name, .null)] => ofName? name
  | _ => none

end FilterOperator
end QueryCache
