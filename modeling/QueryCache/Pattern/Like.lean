/-
QueryCache.Pattern.Like — patterns of the `like` operator.

`%` and `*` stand for any run of characters, `_` for any one character,
every other character for itself; a run and a single character do not
cross the end of a line.  The pattern covers the whole value.
-/
import QueryCache.Pattern.Search

namespace QueryCache.Pattern

/-- What one character of a `like` pattern stands for. -/
def ofLikeChar (ignoreCase : Bool) (c : Char) : Pattern :=
  if c = '%' ∨ c = '*' then many notLineFeed
  else if c = '_' then chars notLineFeed false
  else char ignoreCase c

/-- The pattern that covers the whole value. -/
def ofLike (ignoreCase : Bool) (pattern : Text) : Pattern :=
  concat (assert .textStart :: pattern.map (ofLikeChar ignoreCase) ++ [assert .textEnd])

/-- The value is like the pattern; a pattern that cannot be searched for is
like nothing. -/
def like (ignoreCase : Bool) (pattern value : Text) : Bool :=
  let whole := ofLike ignoreCase pattern
  whole.isSearchable && whole.occursIn value

end QueryCache.Pattern
