/-
QueryCache.Select.ParseError — what can be wrong with a clause or a key.

An error names its cause, the text at fault and where that text stands.
The wording of every cause is in `ParseError.Cause.message`.
-/
import QueryCache.Text.Basic

namespace QueryCache

/-- Why a clause or a key was refused. -/
inductive ParseError.Cause where
  | emptyField
  | invalidField
  | missingClosingParenthesis
  | unbalancedParentheses
  | invalidPercentEncoding
  /-- A parameter that takes a count does not hold one. -/
  | invalidCount (parameter : Text)
  | groupExpected
  | emptyFilter
  | missingOperator
  | missingValue
  | invalidOperator (name : Text)
  | listExpected
  | invalidContainment
  | invalidTruthValue
  | invalidOrderKey
  | invalidDirection
  | invalidNullPlacement
  | missingOrderColumn
  | other (message : Text)
deriving DecidableEq

/-- The wording of an unknown filter operator. -/
def invalidOperatorMessage (name : Text) : Text :=
  "Invalid filter operator: '".toList ++ name ++ ['\'']

/-- The wording of a cause. -/
def ParseError.Cause.message : ParseError.Cause → Text
  | emptyField => "Empty field"
  | invalidField => "Invalid field"
  | missingClosingParenthesis => "Missing closing parenthesis"
  | unbalancedParentheses => "Unbalanced parentheses"
  | invalidPercentEncoding => "Invalid percent-encoding"
  | invalidCount parameter => "Invalid ".toList ++ parameter
  | groupExpected => "Expected a parenthesized filter group"
  | emptyFilter => "Empty filter"
  | missingOperator => "Missing filter operator"
  | missingValue => "Missing filter value"
  | invalidOperator name => invalidOperatorMessage name
  | listExpected => "Expected a parenthesized list"
  | invalidContainment => "Invalid containment operand"
  | invalidTruthValue => "Invalid operand for is"
  | invalidOrderKey => "Invalid order by key"
  | invalidDirection => "Invalid order direction"
  | invalidNullPlacement => "Invalid null placement"
  | missingOrderColumn => "Missing order column"
  | other message => message

/-- A refusal: its cause, the text at fault and its place. -/
structure ParseError where
  cause : ParseError.Cause
  text : Text
  start : Nat
  stop : Nat
deriving DecidableEq

namespace ParseError

/-- An error about a text that begins at `start`. -/
def inText (cause : Cause) (text : Text) (start : Nat) : ParseError :=
  ⟨cause, text, start, start + text.length⟩

/-- The error in words. -/
def message (error : ParseError) : Text :=
  "ParseError: ".toList ++ error.cause.message ++ "\n  at [".toList ++ Text.ofNat error.start ++
    ':' :: Text.ofNat error.stop ++ "] -> '".toList ++ error.text ++ ['\'']

end ParseError
end QueryCache
