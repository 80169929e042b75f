/-
QueryCache.Select.Segment — the segments of dotted paths.

A segment is written `alias:name!hint!hint`, and the name may carry a
cast, `name::type`.  A colon separates the alias only when no other colon
stands next to it.
-/
import QueryCache.Text.Basic

namespace QueryCache.Segment

/-- The text before and after the first lone colon; `afterColon` tells
whether a colon precedes the text. -/
def splitAtLoneColon (afterColon : Bool) : Text → Option (Text × Text)
  | [] => none
  | c :: rest =>
    if c = ':' ∧ afterColon = false ∧ rest.head? ≠ some ':' then some ([], rest)
    else (splitAtLoneColon (c = ':') rest).map fun (before, after) => (c :: before, after)

/-- The alias of a segment and the rest of it. -/
def splitAlias (segment : Text) : Option Text × Text :=
  match splitAtLoneColon false segment with
  | some (aliasName, rest) => (some aliasName, rest)
  | none => (none, segment)

/-- The segment without its alias. -/
def withoutAlias (segment : Text) : Text :=
  (splitAlias segment).2

/-- The segment up to its first hint. -/
def stripHints (segment : Text) : Text :=
  Text.upTo '!' segment

/-- The name that a segment without alias refers to: no hints, no cast. -/
def bareName (segment : Text) : Text :=
  Text.upToCast (stripHints segment)

/-- The segment carries a hint. -/
def isHinted (segment : Text) : Bool :=
  segment.any (· == '!')

/-- The name of an aggregate. -/
def isAggregate (name : Text) : Bool :=
  name == "count".toList || name == "count()".toList

/-- Applies `f` to every segment of a dotted path. -/
def mapSegments (f : Text → Text) (path : Text) : Text :=
  Text.join '.' ((Text.splitOn '.' path).map f)

/-- A dotted path without hints. -/
def stripPathHints (path : Text) : Text :=
  mapSegments stripHints path

/-- A dotted declaration without aliases. -/
def stripPathAliases (declaration : Text) : Text :=
  mapSegments withoutAlias declaration

theorem append_of_splitAtLoneColon {b : Bool} {segment before after : Text}
    (h : splitAtLoneColon b segment = some (before, after)) :
    segment = before ++ ':' :: after := by
  induction segment generalizing b before after with
  | nil => simp [splitAtLoneColon] at h
  | cons c rest ih =>
    simp only [splitAtLoneColon] at h
    split at h
    · rename_i hc
      simp only [Option.some.injEq, Prod.mk.injEq] at h
      rw [← h.1, ← h.2, hc.1]; rfl
    · obtain ⟨⟨x, y⟩, hxy, heq⟩ := Option.map_eq_some_iff.1 h
      simp only [Prod.mk.injEq] at heq
      rw [← heq.1, ← heq.2, ih hxy]; rfl

end QueryCache.Segment
