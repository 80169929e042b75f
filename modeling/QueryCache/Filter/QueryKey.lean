/-
QueryCache.Filter.QueryKey — query strings and what they ask for.

A query string names the selection, the filters, the order and the window
of a query.  Filters are parameters `column=[not.]op.operand`, or groups
`or=(…)` and `and=(…)` whose members are written `column.op.operand` and
may be groups again.  Columns that are written against aliases of the
selection are resolved to the columns behind them.

Positions of errors count bytes from the start of the query string.
-/
import QueryCache.Filter.Order
import QueryCache.Filter.TopLevel
import QueryCache.Filter.Tree
import QueryCache.Select.Field
import QueryCache.Text.Percent

namespace QueryCache

/-! ## 1. Parameters -/

/-- A parameter of a query string and its byte position. -/
structure QueryParam where
  key : Text
  value : Text
  offset : Nat

/-- The parameters of the parts between `&`; `offset` is the place of the
first part.  Empty parts are skipped, and a part without `=` has an empty
value. -/
def QueryParam.ofParts (offset : Nat) : List Text → Except ParseError (List QueryParam)
  | [] => .ok []
  | part :: rest =>
    let after := offset + Text.byteSize part + 1
    if part.isEmpty then ofParts after rest
    else do
      let (key, value) := (Text.splitOnce '=' part).getD (part, [])
      let decode (text : Text) : Except ParseError Text :=
        match Percent.decode text with
        | some text => .ok text
        | none => .error (.inText .invalidPercentEncoding part offset)
      let key ← decode key
      let value ← decode value
      let others ← ofParts after rest
      pure (⟨key, value, offset⟩ :: others)

/-- The parameters of a query string. -/
def QueryParam.ofText (text : Text) : Except ParseError (List QueryParam) :=
  ofParts 0 (Text.splitOn '&' text)

/-- A count of 64 bits: decimal digits, a plus sign before them allowed. -/
def parseCount? (text : Text) : Option Nat :=
  let digits := match text with
    | '+' :: rest => rest
    | _ => text
  let value := Text.digitsValue digits
  if digits.isEmpty || !digits.all Text.isDigit || maxWord < value then none else some value

/-- The count that a parameter holds. -/
def QueryParam.count (param : QueryParam) : Except ParseError Nat :=
  match parseCount? (Text.trim param.value) with
  | some n => .ok n
  | none => .error (.inText (.invalidCount param.key) param.value param.offset)

/-! ## 2. Conditions -/

/-- The letters whose lower case is an ASCII letter, in lower case. -/
def lowerLatin (text : Text) : Text :=
  text.map fun c => if c = '\u212a' then 'k' else c.toLower

/-- The items of a list of operands. -/
def parseItems (inner : Text) (offset : Nat) : Except ParseError (List Json) := do
  let items ← TopLevel.split inner offset
  pure (((items.map fun item => Text.trim item.2).filter fun item => !item.isEmpty).map typedValue)

/-- The operand of an operator. -/
def parseOperand (operator : FilterOperator) (operand : Text) (offset : Nat) :
    Except ParseError Json :=
  match operator with
  | .in_ =>
    match Text.between '(' ')' operand with
    | some inner => (parseItems inner offset).map .arr
    | none => .error (.inText .listExpected operand offset)
  | .cs | .cd =>
    match Json.read operand with
    | some value => .ok value
    | none =>
      match Text.between '\x7b' '\x7d' operand with
      | some inner => (parseItems inner offset).map .arr
      | none => .error (.inText .invalidContainment operand offset)
  | .is =>
    let word := lowerLatin operand
    if word = "null".toList || word = "unknown".toList then .ok .null
    else if word = "true".toList then .ok (.bool true)
    else if word = "false".toList then .ok (.bool false)
    else .error (.inText .invalidTruthValue operand offset)
  | .like | .ilike | .match_ | .imatch => .ok (.str operand)
  | _ => .ok (typedValue operand)

/-- A column of a relation, or of the table itself. -/
def columnOf (relation : Option Text) (column : Text) : Text :=
  match relation with
  | some relation => relation ++ '.' :: column
  | none => column

/-- The condition of a column and an expression `[not.]op.operand`. -/
def parseCondition (column expression : Text) (relation : Option Text) (offset : Nat) :
    Except ParseError Condition := do
  let (negated, expression) := match Text.stripStart "not." expression with
    | some rest => (true, rest)
    | none => (false, expression)
  match Text.splitOnce '.' expression with
  | none => .error (.inText .missingValue expression offset)
  | some (name, operand) =>
    match FilterOperator.ofName? name with
    | none => .error (.inText (.invalidOperator name) expression offset)
    | some operator =>
      let operand ← parseOperand operator operand offset
      pure { path := columnOf relation column, operator, negated, operand }

/-! ## 3. Groups -/

/-- How the members of a group are joined. -/
inductive Logic where
  | anyOf
  | allOf
deriving DecidableEq

/-- A group of filters. -/
def Logic.wrap : Logic → List FilterTree → FilterTree
  | anyOf => .anyOf
  | allOf => .allOf

/-- A filter, or its negation. -/
def FilterTree.negateIf (negated : Bool) (filter : FilterTree) : FilterTree :=
  if negated then filter.negate else filter

/-- What the name of a parameter says of the group in its value: the
relation it is about, whether it is negated, and how it is joined.
`or`, `not.and`, `relation.or` and `relation.not.and` name groups. -/
def logicGroup? (key : Text) : Option (Option Text × Bool × Logic) := do
  let (rest, logic) ←
    if key = "or".toList then some ([], Logic.anyOf)
    else if key = "and".toList then some ([], Logic.allOf)
    else match Text.stripEnd ".or" key with
      | some rest => some (rest, Logic.anyOf)
      | none => (Text.stripEnd ".and" key).map fun rest => (rest, Logic.allOf)
  let (relation, negated) :=
    if rest = "not".toList then ([], true)
    else match Text.stripEnd ".not" rest with
      | some relation => (relation, true)
      | none => (rest, false)
  some (if relation.isEmpty then none else some relation, negated, logic)

/-- A group that a member spells: whether it is negated, how it is joined,
and its parenthesized members. -/
def groupMember? (item : Text) : Option (Bool × Logic × Text) :=
  match Text.stripStart "not." item with
  | some rest => ((named rest).map fun (logic, body) => (true, logic, body)).orElse fun _ => plain
  | none => plain
where
  plain : Option (Bool × Logic × Text) :=
    (named item).map fun (logic, body) => (false, logic, body)
  named (text : Text) : Option (Logic × Text) :=
    match Text.stripStart "or" text with
    | some ('(' :: rest) => some (.anyOf, '(' :: rest)
    | _ =>
      match Text.stripStart "and" text with
      | some ('(' :: rest) => some (.allOf, '(' :: rest)
      | _ => none

/-- The name of an operator. -/
def isOperator (word : Text) : Bool :=
  (FilterOperator.ofName? word).isSome

/-- The segments before and from the operator of a condition; the operator
is not the first segment. -/
def splitAtOperator (segments : List Text) : Option (List Text × List Text) :=
  match segments with
  | [] => none
  | first :: rest => (go rest).map fun (before, after) => (first :: before, after)
where
  go : List Text → Option (List Text × List Text)
  | [] => none
  | segment :: rest =>
    if isOperator segment || (segment == "not".toList && rest.head?.any isOperator) then
      some ([], segment :: rest)
    else (go rest).map fun (before, after) => (segment :: before, after)

/-- The condition that a member of a group spells. -/
def parseMember (item : Text) (relation : Option Text) (offset : Nat) :
    Except ParseError FilterTree :=
  match splitAtOperator (Text.splitOn '.' item) with
  | none => .error (.inText .missingOperator item offset)
  | some (column, expression) =>
    (parseCondition (Text.join '.' column) (Text.join '.' expression) relation offset).map
      .condition

/-- The group in a text with at most `nesting` groups inside each other.
A group needs two parentheses, so the length of its text is enough. -/
def parseGroupWithin (relation : Option Text) :
    (nesting : Nat) → Logic → (body : Text) → (offset : Nat) → Except ParseError FilterTree
  | 0, _, body, offset => .error (.inText .groupExpected body offset)
  | nesting + 1, logic, body, offset =>
    match Text.between '(' ')' (Text.trim body) with
    | none => .error (.inText .groupExpected body offset)
    | some inner => do
      let items ← TopLevel.split inner (offset + 1)
      let group ← items.mapM fun (position, text) =>
        let item := Text.trim text
        let place := offset + 1 + position
        if item.isEmpty then .error (.inText .emptyFilter inner place)
        else
          match groupMember? item with
          | some (negated, logic, body) =>
            (parseGroupWithin relation nesting logic body
              (place + Text.byteSize item - Text.byteSize body)).map (.negateIf negated)
          | none => parseMember item relation place
      pure (logic.wrap group)

/-- The group in the value of a parameter. -/
def parseGroup (logic : Logic) (body : Text) (relation : Option Text) (offset : Nat) :
    Except ParseError FilterTree :=
  parseGroupWithin relation body.length logic body offset

/-! ## 4. Columns behind aliases -/

/-- The mapping of a column through one leaf: the longest shared start of
the column and the leaf's alias chain, leaving at least one segment of the
column, is replaced by the leaf's own segments. -/
def mapThrough? (column : List Text) (path : Path) : Option Text := do
  let chain ← path.aliasChain
  let names := Text.splitOn '.' chain
  let segments := path.segments
  let longest := min (min (column.length - 1) names.length) segments.length
  (List.range longest).reverse.findSome? fun k =>
    let count := k + 1
    if column.take count = names.take count then
      let mapped := Text.join '.' (segments.take count ++ column.drop count)
      if mapped = Text.join '.' column then none else some mapped
    else none

/-- The mapping of a column through the first leaf that has one. -/
def mapAliasStart? (paths : List Path) (column : Text) : Option Text :=
  paths.findSome? (mapThrough? (Text.splitOn '.' column))

/-- The leaf that a column names, by its alias chain or else by its path. -/
def leafNamed? (paths : List Path) (column : Text) : Option Path :=
  (paths.find? fun path => path.aliasChain == some column).orElse fun _ =>
    paths.find? fun path => path.path == column || path.outputPath == column

/-- The condition on the column behind an alias of the selection. -/
def Condition.resolve (paths : List Path) (c : Condition) : Condition :=
  match leafNamed? paths c.path with
  | some path => { c with path := path.path, aliasChain := path.aliasChain }
  | none =>
    match mapAliasStart? paths c.path with
    | some path => { c with path, aliasChain := some c.path }
    | none => c

/-! ## 5. The whole query -/

/-- What a query string asks for. -/
structure ParsedQuery where
  select : Text
  paths : List Path
  filters : List FilterTree := []
  orderBy : List SortKey := []
  limit : Option Nat := none
  offset : Option Nat := none

namespace ParsedQuery

/-- Parameters that ask for nothing the cache cares about. -/
def isIgnored (key : Text) : Bool :=
  key == "columns".toList || key == "on_conflict".toList ||
    [".limit", ".offset", ".order"].any fun (stop : String) =>
      (Text.stripEnd stop.toList key).isSome

/-- The filter that a parameter spells. -/
def parseFilter (param : QueryParam) : Except ParseError FilterTree :=
  let place := param.offset + Text.byteSize param.key + 1
  match logicGroup? param.key with
  | some (relation, negated, logic) =>
    (parseGroup logic param.value relation place).map (.negateIf negated)
  | none => (parseCondition param.key param.value none place).map .condition

/-- The query with one more parameter read. -/
def addParam (query : ParsedQuery) (param : QueryParam) : Except ParseError ParsedQuery :=
  if param.key = "select".toList then .ok query
  else if param.key = "order".toList then
    (parseOrderParam param.value).map fun orderBy => { query with orderBy }
  else if param.key = "limit".toList then
    param.count.map fun n => { query with limit := some n }
  else if param.key = "offset".toList then
    param.count.map fun n => { query with offset := some n }
  else if isIgnored param.key then .ok query
  else
    (parseFilter param).map fun filter =>
      { query with filters := query.filters ++ [filter.mapConditions (·.resolve query.paths)] }

end ParsedQuery

/-- What a query string asks for; without a selection it asks for every
column. -/
def parseQueryKey (text : Text) : Except ParseError ParsedQuery := do
  let params ← QueryParam.ofText text
  let select := match params.find? fun param => param.key == "select".toList with
    | some param => param.value
    | none => ['*']
  let paths ← parseSelect select
  params.foldlM ParsedQuery.addParam { select, paths }

end QueryCache
