/-
QueryCache.Proofs.ChangedRows — one change of ordered rows with distinct
keys.

A change enters at most one row, the one that it makes if the query accepts
it (`RowChange.entered?`).  The changed rows are this row and the other
rows, in some order (`perm_applyRows`); so they have distinct keys again,
and they are in order because the row goes to its place.
-/
import Mathlib.Data.List.Pairwise
import QueryCache.Proofs.DistinctRows
import QueryCache.Proofs.OrderedRows

namespace QueryCache

/-- What a query contributes to a change that does nothing else to the rows
that enter its list. -/
def QueryFilter.context (filter : QueryFilter) (primaryKeys : List Text)
    (orderBy : List SortKey) : PatchContext :=
  { primaryKeys, accepts := filter.accepts, orderBy }

theorem PatchContext.place_le (ctx : PatchContext) (row : Json) (rows : List Json) :
    ctx.place row rows ≤ rows.length := by
  unfold place
  split
  · exact Nat.zero_le _
  · exact partitionPoint_le _ rows

section

variable {primaryKeys : List Text} {rows : List Json}

instance : Std.Symm fun a b => sharesKeys primaryKeys a b = false where
  symm a b h := by rwa [sharesKeys_comm]

theorem DistinctKeys.perm {others : List Json} (h : DistinctKeys primaryKeys rows)
    (hperm : rows.Perm others) : DistinctKeys primaryKeys others :=
  hperm.pairwise h fun {a b} hab => by rwa [sharesKeys_comm]

/-- Different rows among those with distinct keys do not share theirs. -/
theorem DistinctKeys.of_ne (h : DistinctKeys primaryKeys rows) {a b : Json} (ha : a ∈ rows)
    (hb : b ∈ rows) (hne : a ≠ b) : sharesKeys primaryKeys a b = false :=
  List.Pairwise.forall h ha hb hne

end

namespace RowChange

/-- The input has every key, and the functions of the change keep them. -/
structure IsKeyed (change : RowChange) (primaryKeys : List Text) (input : Json) : Prop where
  keeps : change.KeepsKeys primaryKeys
  carried : ∀ key ∈ primaryKeys, (input.get? key).isSome = true
  ascending : ∀ fields, input = .obj fields → Fields.Ascending fields

/-- The row that a change enters: the one that it makes, if the query
accepts it. -/
def entered? (change : RowChange) (ctx : PatchContext) (input : Json) (rows : List Json) :
    Option Json :=
  (change.made? ctx.primaryKeys input rows).filter ctx.accepts

section

variable {change : RowChange} {ctx : PatchContext} {input : Json} {rows : List Json}

/-- Every change leaves the other rows, and puts the row that it enters at
its place. -/
theorem applyRows_eq_entered (htransform : ctx.transform = id)
    (h : DistinctKeys ctx.primaryKeys rows) :
    change.applyRows ctx input rows =
      match change.entered? ctx input rows with
      | some row => (otherRows ctx.primaryKeys input rows).insertIdx
          (ctx.place row (otherRows ctx.primaryKeys input rows)) row
      | none => otherRows ctx.primaryKeys input rows := by
  rw [change.applyRows_eq ctx input h, entered?]
  rcases change.made? ctx.primaryKeys input rows with _ | row
  · rfl
  · by_cases haccepts : ctx.accepts row = true
    · simp [PatchContext.reinsert, haccepts, htransform, Option.filter_some]
    · simp [PatchContext.reinsert, haccepts, Option.filter_some]

theorem perm_applyRows (htransform : ctx.transform = id)
    (h : DistinctKeys ctx.primaryKeys rows) :
    (change.applyRows ctx input rows).Perm
      ((change.entered? ctx input rows).toList ++ otherRows ctx.primaryKeys input rows) := by
  rw [applyRows_eq_entered htransform h]
  rcases change.entered? ctx input rows with _ | row
  · exact List.Perm.refl _
  · exact List.perm_insertIdx _ _ (ctx.place_le row _)

theorem mem_applyRows (htransform : ctx.transform = id) (h : DistinctKeys ctx.primaryKeys rows)
    {row : Json} :
    row ∈ change.applyRows ctx input rows ↔
      change.entered? ctx input rows = some row ∨ row ∈ otherRows ctx.primaryKeys input rows := by
  rw [(perm_applyRows htransform h).mem_iff, List.mem_append, Option.mem_toList]

theorem made_of_entered {row : Json} (h : change.entered? ctx input rows = some row) :
    change.made? ctx.primaryKeys input rows = some row ∧ ctx.accepts row = true :=
  Option.filter_eq_some_iff.1 h

theorem sharesKeys_entered (hkeyed : change.IsKeyed ctx.primaryKeys input) {row : Json}
    (h : change.entered? ctx input rows = some row) :
    sharesKeys ctx.primaryKeys row input = true :=
  sharesKeys_made hkeyed.keeps hkeyed.carried hkeyed.ascending (made_of_entered h).1

theorem distinctKeys_applyRows (hkeyed : change.IsKeyed ctx.primaryKeys input)
    (htransform : ctx.transform = id) (h : DistinctKeys ctx.primaryKeys rows) :
    DistinctKeys ctx.primaryKeys (change.applyRows ctx input rows) := by
  refine DistinctKeys.perm ?_ (perm_applyRows htransform h).symm
  rcases hentered : change.entered? ctx input rows with _ | row
  · exact h.otherRows
  · -- A row with the keys of the input shares them with none of the others.
    refine List.pairwise_cons.2 ⟨fun other hother => ?_, h.otherRows⟩
    rw [sharesKeys_congr_of_shared (sharesKeys_entered hkeyed hentered),
      sharesKeys_comm]
    exact (mem_otherRows.1 hother).2

/-- The rows that do not share the keys of the input stay as they are. -/
theorem otherRows_applyRows (hkeyed : change.IsKeyed ctx.primaryKeys input)
    (htransform : ctx.transform = id) (h : DistinctKeys ctx.primaryKeys rows) :
    otherRows ctx.primaryKeys input (change.applyRows ctx input rows) =
      otherRows ctx.primaryKeys input rows := by
  rw [applyRows_eq_entered htransform h]
  rcases hentered : change.entered? ctx input rows with _ | row
  · exact otherRows_otherRows
  · exact (otherRows_insertIdx (sharesKeys_entered hkeyed hentered) _).trans
      otherRows_otherRows

theorem inOrder_applyRows (htransform : ctx.transform = id)
    (h : DistinctKeys ctx.primaryKeys rows) (hsorted : InOrder ctx.orderBy rows)
    (horder : TotalPreorderOn (compareRows ctx.orderBy) (· ∈ change.applyRows ctx input rows)) :
    InOrder ctx.orderBy (change.applyRows ctx input rows) := by
  have hothers : InOrder ctx.orderBy (otherRows ctx.primaryKeys input rows) :=
    hsorted.sublist List.filter_sublist
  have hmem := @mem_applyRows change ctx input rows htransform h
  have hform := @applyRows_eq_entered change ctx input rows htransform h
  rcases hentered : change.entered? ctx input rows with _ | row
  · rw [hentered] at hform
    rw [hform]
    exact hothers
  · rw [hentered] at hform
    rw [hform]
    refine inOrder_insertIdx_place hothers (horder.mono ?_)
    rintro other (rfl | hother)
    · exact hmem.2 (Or.inl hentered)
    · exact hmem.2 (Or.inr hother)

/-- The row that a change entered is the one with the keys of its input. -/
theorem find?_applyRows (hkeyed : change.IsKeyed ctx.primaryKeys input)
    (htransform : ctx.transform = id) (h : DistinctKeys ctx.primaryKeys rows) {row : Json}
    (hentered : change.entered? ctx input rows = some row) :
    (change.applyRows ctx input rows).find? (fun r => sharesKeys ctx.primaryKeys r input) =
      some row := by
  have hmem := @mem_applyRows change ctx input rows htransform h
  rcases hfound : (change.applyRows ctx input rows).find?
      (fun r => sharesKeys ctx.primaryKeys r input) with _ | found
  · have hnone := List.find?_eq_none.1 hfound row (hmem.2 (Or.inl hentered))
    exact absurd (sharesKeys_entered hkeyed hentered) hnone
  · rcases hmem.1 (List.mem_of_find?_eq_some hfound) with hfoundEntered | hother
    · rw [← hfoundEntered, hentered]
    · have hshared := List.find?_some hfound
      rw [(mem_otherRows.1 hother).2] at hshared
      contradiction

end

end RowChange
end QueryCache
