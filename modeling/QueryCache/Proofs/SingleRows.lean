/-
QueryCache.Proofs.SingleRows — a row cached alone and the same row cached
as a list of one.

Both entries enter the same row, the one that the change makes if the
query accepts it (`RowChange.entered?`).  They part on what they do with
it: a list transforms a row that enters (`applyRows_singleton`), a single
row is not transformed (`applySingle_eq`); and of a null that the query
accepts a list makes a row, a single row does not.  So they agree exactly
when the transformer leaves the entered row as it is and the row is not
null (`apply_single_iff`).
-/
import QueryCache.Proofs.ChangedRows

namespace QueryCache

/-! ## 1. The row that a change enters -/

/-- A single row says what a list of at most one row says: it is the row of
the list, or null if the list is empty. -/
def IsOnlyRow (single : Json) (rows : List Json) : Prop :=
  (single = .null ∧ rows = []) ∨ (single ≠ .null ∧ rows = [single])

/-- What a change enters, as a single row and as a list, given what is done
to a row that enters the list. -/
theorem isOnlyRow_iff {entered : Option Json} {transform : Json → Json} :
    IsOnlyRow (entered.getD .null) (entered.map transform).toList ↔
      ∀ row ∈ entered, transform row = row ∧ row ≠ .null := by
  rcases entered with _ | row
  · simp [IsOnlyRow]
  · simp only [IsOnlyRow, Option.getD_some, Option.map_some, Option.toList_some,
      List.cons_ne_nil, and_false, false_or, List.cons.injEq, and_true, Option.mem_some_iff]
    constructor
    · rintro ⟨hnull, htransform⟩ row rfl
      exact ⟨htransform, hnull⟩
    · intro h
      exact ⟨(h row rfl).2, (h row rfl).1⟩

namespace RowChange

variable {change : RowChange} {ctx : PatchContext} {input row : Json}

theorem made?_singleton (hkeys : sharesKeys ctx.primaryKeys row input = true) :
    change.made? ctx.primaryKeys input [row] =
      match change with
      | mutate f => some (f row)
      | upsert merge => some (PatchContext.mergeRow merge row input)
      | delete => none := by
  have hfound : [row].find? (fun r => sharesKeys ctx.primaryKeys r input) = some row :=
    List.find?_cons_of_pos hkeys
  cases change <;> simp only [made?, hfound, Option.map_some]

/-- A row that the query does not accept is null alone. -/
theorem orNull_eq (made : Json) :
    ctx.orNull made = ((some made).filter ctx.accepts).getD .null := by
  by_cases haccepts : ctx.accepts made = true
  · simp [PatchContext.orNull, haccepts, Option.filter_some]
  · simp [PatchContext.orNull, haccepts, Option.filter_some]

/-- A single row becomes the row that the change enters, or null. -/
theorem applySingle_eq (hkeys : sharesKeys ctx.primaryKeys row input = true)
    (hnull : row.isNull = false) :
    change.applySingle ctx input row = (change.entered? ctx input [row]).getD .null := by
  rw [entered?, made?_singleton hkeys]
  cases change with
  | mutate f =>
    rw [← orNull_eq]
    simp [applySingle, hnull]
  | upsert merge =>
    rw [← orNull_eq]
    simp [applySingle, hnull, hkeys]
  | delete => simp [applySingle, hnull, hkeys]

/-- A list of one row becomes the list of the row that the change enters,
transformed. -/
theorem applyRows_singleton (hkeys : sharesKeys ctx.primaryKeys row input = true) :
    change.applyRows ctx input [row] =
      ((change.entered? ctx input [row]).map ctx.transform).toList := by
  have hothers : otherRows ctx.primaryKeys input [row] = [] := by simp [otherRows, hkeys]
  have hplace (made : Json) : ctx.place made [] = 0 := Nat.le_zero.1 (ctx.place_le made [])
  rw [change.applyRows_eq ctx input (List.pairwise_singleton _ row), hothers, entered?]
  rcases change.made? ctx.primaryKeys input [row] with _ | made
  · rfl
  · by_cases haccepts : ctx.accepts made = true
    · simp [PatchContext.reinsert, haccepts, hplace, Option.filter_some]
    · simp [PatchContext.reinsert, haccepts, Option.filter_some]

/-! ## 2. Both entries -/

/-- Of a row cached alone and of the list of just this row a change leaves
the row that it enters, and the list of this row transformed.  They agree
exactly when the transformer leaves the row as it is and the row is not
null. -/
theorem apply_single_iff (change : RowChange) (ctx : PatchContext) {input row : Json}
    (hnull : row.isNull = false) (harr : row.isArray = false)
    (hkeys : sharesKeys ctx.primaryKeys row input = true) (limit : Nat)
    (count counted : Option Int) :
    ∃ single rows,
      change.apply ctx input limit (.response row count) = .response single count ∧
      change.apply ctx input limit (.response (.arr [row]) counted) =
        .response (.arr rows) (some rows.length) ∧
      (IsOnlyRow single rows ↔
        ∀ entered ∈ change.entered? ctx input [row],
          ctx.transform entered = entered ∧ entered ≠ .null) := by
  have hflat : (CacheData.response row count).flatten = none := by
    cases row <;> simp_all [CacheData.flatten, Json.isArray]
  have hsingle : change.apply ctx input limit (.response row count) =
      .response ((change.entered? ctx input [row]).getD .null) count := by
    rw [← applySingle_eq hkeys hnull]
    simp [apply, hflat]
  have hlist : change.apply ctx input limit (.response (.arr [row]) counted) =
      (CacheData.response (.arr [row]) counted).rechunk
        ((change.entered? ctx input [row]).map ctx.transform).toList limit := by
    rw [← applyRows_singleton hkeys]
    exact apply_of_flatten rfl
  exact ⟨_, _, hsingle, hlist, isOnlyRow_iff⟩

/-- A contact with a new name, cached alone and as the only one of a list,
for a query that transforms nothing. -/
theorem apply_single_contact :
    ∃ single rows,
      (mutate (rename ['z'])).apply
          { primaryKeys := ["id".toList], accepts := contactsFilter.accepts } (contact 1 ['b'])
          1000 (.response (contact 1 ['a']) none) = .response single none ∧
      (mutate (rename ['z'])).apply
          { primaryKeys := ["id".toList], accepts := contactsFilter.accepts } (contact 1 ['b'])
          1000 (.response (.arr [contact 1 ['a']]) (some 1)) =
        .response (.arr rows) (some rows.length) ∧
      IsOnlyRow single rows := by
  have hnull : (contact 1 ['a']).isNull = false := rfl
  have hkeys : sharesKeys ["id".toList] (contact 1 ['a']) (contact 1 ['b']) = true := by
    decide +kernel
  obtain ⟨single, rows, hsingle, hlist, hiff⟩ := apply_single_iff (mutate (rename ['z']))
    { primaryKeys := ["id".toList], accepts := contactsFilter.accepts } hnull rfl hkeys
    1000 none (some 1)
  have hentered : (mutate (rename ['z'])).entered?
      { primaryKeys := ["id".toList], accepts := contactsFilter.accepts } (contact 1 ['b'])
      [contact 1 ['a']] = some (contact 1 ['z']) := by decide +kernel
  refine ⟨single, rows, hsingle, hlist, hiff.2 fun entered hmem => ?_⟩
  obtain rfl : contact 1 ['z'] = entered := Option.some.inj (hentered.symm.trans hmem)
  exact ⟨rfl, by decide +kernel⟩

end RowChange

/-- Marks a row as seen. -/
def markSeen : Json → Json
  | .obj fields => .obj (Fields.overlay fields [("seen".toList, .bool true)])
  | other => other

/-- A transformer that marks what enters a list: the contact is marked in
the list, and not marked alone. -/
theorem RowChange.seen_in_list_only :
    ∃ single rows,
      (mutate (rename ['z'])).apply
          { primaryKeys := ["id".toList], accepts := contactsFilter.accepts,
            transform := markSeen } (contact 1 ['b'])
          1000 (.response (contact 1 ['a']) none) = .response single none ∧
      (mutate (rename ['z'])).apply
          { primaryKeys := ["id".toList], accepts := contactsFilter.accepts,
            transform := markSeen } (contact 1 ['b'])
          1000 (.response (.arr [contact 1 ['a']]) (some 1)) =
        .response (.arr rows) (some rows.length) ∧
      ¬ IsOnlyRow single rows := by
  refine ⟨contact 1 ['z'], [markSeen (contact 1 ['z'])], by decide +kernel, by decide +kernel, ?_⟩
  have hmarked : [markSeen (contact 1 ['z'])] ≠ [contact 1 ['z']] := by decide +kernel
  rintro (⟨-, hempty⟩ | ⟨-, hrows⟩)
  · exact absurd hempty (List.cons_ne_nil _ _)
  · exact hmarked hrows

end QueryCache
