/-
QueryCache.Proofs.DistinctRows — changes of rows that have distinct keys.

Among rows of which no two share their keys the input means at most one.
Taking it out then leaves the other rows (`eraseP_eq_otherRows`), and every
change is of one form: the other rows, and perhaps a row of the change's
own making put in among them (`RowChange.applyRows_eq`).
-/
import QueryCache.Proofs.Fields
import QueryCache.Proofs.RowFrame

namespace QueryCache

/-- No two rows share their keys. -/
def DistinctKeys (primaryKeys : List Text) (rows : List Json) : Prop :=
  rows.Pairwise fun a b => sharesKeys primaryKeys a b = false

section

variable {primaryKeys : List Text} {input : Json} {rows : List Json}

/-! ## 1. The other rows -/

theorem mem_otherRows {row : Json} :
    row ∈ otherRows primaryKeys input rows ↔
      row ∈ rows ∧ sharesKeys primaryKeys row input = false := by
  simp [otherRows]

theorem otherRows_eq_self (h : ∀ row ∈ rows, sharesKeys primaryKeys row input = false) :
    otherRows primaryKeys input rows = rows :=
  List.filter_eq_self.2 fun row hrow => by simp [h row hrow]

theorem otherRows_otherRows :
    otherRows primaryKeys input (otherRows primaryKeys input rows) =
      otherRows primaryKeys input rows :=
  otherRows_eq_self fun _ hrow => (mem_otherRows.1 hrow).2

/-- A row that shares the keys of the input is not among the other rows,
wherever it stands. -/
theorem otherRows_insertIdx {row : Json} (h : sharesKeys primaryKeys row input = true) (k : Nat) :
    otherRows primaryKeys input (rows.insertIdx k row) = otherRows primaryKeys input rows :=
  filter_insertIdx_of_neg (by simp [h]) k rows

/-- Taking out the row with the keys of the input leaves the other rows. -/
theorem eraseP_eq_otherRows (h : DistinctKeys primaryKeys rows) :
    rows.eraseP (fun row => sharesKeys primaryKeys row input) =
      otherRows primaryKeys input rows := by
  induction rows with
  | nil => rfl
  | cons row rest ih =>
    obtain ⟨hrow, hrest⟩ := List.pairwise_cons.1 h
    rcases hshared : sharesKeys primaryKeys row input with _ | _
    · rw [List.eraseP_cons_of_neg (by simp [hshared]), ih hrest]
      simp [otherRows, hshared]
    · rw [List.eraseP_cons_of_pos (by simpa using hshared)]
      have hothers : ∀ other ∈ rest, sharesKeys primaryKeys other input = false := by
        intro other hmem
        rw [sharesKeys_comm, ← sharesKeys_congr_of_shared hshared]
        exact hrow other hmem
      have hrest : otherRows primaryKeys input (row :: rest) =
          otherRows primaryKeys input rest := by
        simp [otherRows, hshared]
      rw [hrest, otherRows_eq_self hothers]

theorem DistinctKeys.otherRows (h : DistinctKeys primaryKeys rows) :
    DistinctKeys primaryKeys (otherRows primaryKeys input rows) :=
  h.sublist List.filter_sublist

end

/-! ## 2. One form for all changes -/

namespace RowChange

/-- The row that a change makes; none when it makes no row. -/
def made? (change : RowChange) (primaryKeys : List Text) (input : Json) (rows : List Json) :
    Option Json :=
  let current? := rows.find? fun row => sharesKeys primaryKeys row input
  match change with
  | mutate f => current?.map f
  | upsert merge =>
    some (match current? with
      | some current => PatchContext.mergeRow merge current input
      | none => input)
  | delete => none

/-- Every change of rows with distinct keys leaves the other rows and puts
in the row that it makes. -/
theorem applyRows_eq (change : RowChange) (ctx : PatchContext) (input : Json) {rows : List Json}
    (h : DistinctKeys ctx.primaryKeys rows) :
    change.applyRows ctx input rows =
      match change.made? ctx.primaryKeys input rows with
      | some row => ctx.reinsert row (otherRows ctx.primaryKeys input rows)
      | none => otherRows ctx.primaryKeys input rows := by
  cases change with
  | mutate f =>
    simp only [applyRows, PatchContext.mutateRows, made?]
    rcases hfound : rows.find? (fun row => sharesKeys ctx.primaryKeys row input) with _ | current
    · have hnone : ∀ row ∈ rows, sharesKeys ctx.primaryKeys row input = false := by
        simpa using hfound
      simp only [Option.map_none]
      exact (otherRows_eq_self hnone).symm
    · simp only [Option.map_some, eraseP_eq_otherRows h]
  | upsert merge => exact congrArg (ctx.reinsert _) (eraseP_eq_otherRows h)
  | delete => rfl

/-- The functions of a change keep the keys: from a row with the keys of
the input they make a row with the keys of the input. -/
def KeepsKeys (change : RowChange) (primaryKeys : List Text) : Prop :=
  match change with
  | mutate f => ∀ row input, sharesKeys primaryKeys row input = true →
      sharesKeys primaryKeys (f row) input = true
  | upsert (some merge) => ∀ row input, sharesKeys primaryKeys row input = true →
      sharesKeys primaryKeys (merge row input) input = true
  | upsert none => True
  | delete => True

/-- A function that leaves the value under every key keeps the keys. -/
theorem keepsKeys_mutate {primaryKeys : List Text} {f : Json → Json}
    (h : ∀ row, ∀ key ∈ primaryKeys, (f row).get? key = row.get? key) :
    (mutate f).KeepsKeys primaryKeys := by
  intro row input hshared
  rw [sharesKeys_congr (h row)]
  exact hshared

/-- The input laid over a row has the keys of the input. -/
theorem sharesKeys_mergeRow_none {primaryKeys : List Text} {current input : Json}
    (hkeys : ∀ key ∈ primaryKeys, (input.get? key).isSome = true)
    (hfields : ∀ fields, input = .obj fields → Fields.Ascending fields) :
    sharesKeys primaryKeys (PatchContext.mergeRow none current input) input = true := by
  have hsame : ∀ key ∈ primaryKeys,
      (PatchContext.mergeRow none current input).get? key = input.get? key := by
    intro key hkey
    obtain ⟨value, hvalue⟩ := Option.isSome_iff_exists.1 (hkeys key hkey)
    cases current with
    | obj fields =>
      cases input with
      | obj upper =>
        have hupper : Fields.get? key upper = some value := hvalue
        simp only [PatchContext.mergeRow, Json.get?, Fields.get?_overlay (hfields upper rfl),
          hupper, Option.orElse_some]
      | _ => rfl
    | _ => rfl
  rw [sharesKeys_congr hsame]
  exact sharesKeys_self hkeys

/-- The row that a change makes has the keys of the input. -/
theorem sharesKeys_made {change : RowChange} {primaryKeys : List Text} {input row : Json}
    {rows : List Json} (hkeeps : change.KeepsKeys primaryKeys)
    (hkeys : ∀ key ∈ primaryKeys, (input.get? key).isSome = true)
    (hfields : ∀ fields, input = .obj fields → Fields.Ascending fields)
    (hmade : change.made? primaryKeys input rows = some row) :
    sharesKeys primaryKeys row input = true := by
  cases change with
  | mutate f =>
    obtain ⟨current, hcurrent, rfl⟩ := Option.map_eq_some_iff.1 hmade
    have hshared : sharesKeys primaryKeys current input = true := by
      simpa using List.find?_some hcurrent
    exact hkeeps current input hshared
  | upsert merge =>
    simp only [made?, Option.some.injEq] at hmade
    subst hmade
    split
    · rename_i current hcurrent
      have hshared : sharesKeys primaryKeys current input = true := by
        simpa using List.find?_some hcurrent
      cases merge with
      | none => exact sharesKeys_mergeRow_none hkeys hfields
      | some merge => exact hkeeps current input hshared
    · exact sharesKeys_self hkeys
  | delete => simp [made?] at hmade

end RowChange

theorem ascending_contact {id : Int} {name : Text} (fields : Fields Json)
    (h : contact id name = .obj fields) : Fields.Ascending fields := by
  rw [contact, Json.obj.injEq] at h
  rw [← h]
  have hlt : compare "id".toList "name".toList = .lt := by decide
  exact List.pairwise_pair.2 hlt

/-- A new name leaves the number. -/
theorem keepsKeys_rename (name : Text) :
    (RowChange.mutate (rename name)).KeepsKeys ["id".toList] := by
  refine RowChange.keepsKeys_mutate fun row key hkey => ?_
  rw [List.mem_singleton] at hkey
  subst hkey
  cases row with
  | obj fields =>
    have hupper : Fields.Ascending [("name".toList, Json.str name)] := List.pairwise_singleton _ _
    rw [rename, Json.get?, Json.get?, Fields.get?_overlay hupper]
    rfl
  | _ => rfl

end QueryCache
