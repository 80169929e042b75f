/-
QueryCache.Statement.Dedupe — siblings that would answer under one name.

Siblings without alias that refer to one name collide.  A policy says
which of them keeps the plain name; all others need an alias.
-/
import QueryCache.Statement.Tree

namespace QueryCache

/-- What a policy knows of a colliding sibling. -/
structure CollisionMember where
  declaration : Text
  hinted : Bool
  relation : Bool
deriving DecidableEq

/-- Picks the member of a collision that keeps its plain name, by its
place; with no pick every member gets an alias.  Members come in the order
of insertion. -/
abbrev DedupePolicy := List CollisionMember → Option Nat

/-- Only a member without a hint keeps its plain name: the first relation
among them, else the first of them. -/
def preferUnhintedRelation : DedupePolicy := fun members =>
  (members.findIdx? fun member => !member.hinted && member.relation).orElse fun _ =>
    members.findIdx? fun member => !member.hinted

/-- The first member keeps its plain name. -/
def firstSeen : DedupePolicy := fun members =>
  if members.isEmpty then none else some 0

namespace SelectNode

/-- The node as a policy sees it. -/
def toMember (node : SelectNode) : CollisionMember :=
  ⟨node.declaration, node.isHinted, node.isRelation⟩

/-- The emitted siblings without alias that refer to a name. -/
def group (name : Text) (siblings : List SelectNode) : List SelectNode :=
  siblings.filter fun node => !node.isSuppressed && node.aliasName.isNone && node.name == name

/-- The node needs an alias among its siblings: it shares its name with
another emitted sibling, and the policy did not pick it. -/
def needsAlias (policy : DedupePolicy) (siblings : List SelectNode) (node : SelectNode) : Bool :=
  let members := group node.name siblings
  node.aliasName.isNone && 1 < members.length &&
    members.findIdx? (·.index == node.index) != policy (members.map toMember)

end SelectNode
end QueryCache
