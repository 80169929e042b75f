/-
QueryCache.Proofs.Filter.Negation — a filter and its negation.

Negation is carried down to the conditions, and a condition without any
value to read fails whether it is negated or not.  So a filter and its
negation may both reject a row, but where every condition reads a value they
are opposites (`accepts_negate`); and no row is accepted by both
(`not_accepts_both`).  Both need a member in every group: the empty group
accepts every row, and so does its negation.
-/
import QueryCache.Proofs.Filter.ThreeValued

namespace QueryCache

/-! ## 1. Conditions -/

namespace Condition

theorem values_negate (c : Condition) (row : Json) : c.negate.values row = c.values row := rfl

theorem found_negate (c : Condition) (row : Json) : c.negate.found row = c.found row := rfl

theorem accepts_of_values_eq_nil {c : Condition} {row : Json} (h : c.values row = []) :
    c.accepts row = false := by
  simp [accepts, h]

/-- Where there is a value, the negated condition is the opposite. -/
theorem accepts_negate_of_values {c : Condition} {row : Json} (h : c.values row ≠ []) :
    c.negate.accepts row = !c.accepts row := by
  have hread : (c.values row).isEmpty = false := by simpa using h
  rw [accepts, accepts, values_negate, found_negate, hread, negate]
  cases c.found row <;> cases c.negated <;> rfl

end Condition

/-! ## 2. Groups -/

namespace FilterTree

mutual

/-- Every group has a member. -/
def isFilled : FilterTree → Bool
  | condition _ => true
  | anyOf group => !group.isEmpty && areFilled group
  | allOf group => !group.isEmpty && areFilled group

def areFilled : List FilterTree → Bool
  | [] => true
  | filter :: rest => isFilled filter && areFilled rest

end

theorem areFilled_eq_all (group : List FilterTree) : areFilled group = group.all isFilled := by
  induction group with
  | nil => rfl
  | cons filter rest ih => rw [areFilled, ih, List.all_cons]

theorem isFilled_anyOf {group : List FilterTree} :
    (anyOf group).isFilled = true ↔ group ≠ [] ∧ ∀ filter ∈ group, filter.isFilled = true := by
  rw [isFilled, areFilled_eq_all]
  simp

theorem isFilled_allOf {group : List FilterTree} :
    (allOf group).isFilled = true ↔ group ≠ [] ∧ ∀ filter ∈ group, filter.isFilled = true := by
  rw [isFilled, areFilled_eq_all]
  simp

section

variable {row : Json} {group : List FilterTree}

theorem accepts_anyOf_iff (hne : group ≠ []) :
    (anyOf group).accepts row = true ↔ ∃ filter ∈ group, filter.accepts row = true := by
  simp [hne]

theorem accepts_allOf_iff :
    (allOf group).accepts row = true ↔ ∀ filter ∈ group, filter.accepts row = true := by
  simp

theorem accepts_negate_anyOf_iff :
    (anyOf group).negate.accepts row = true ↔
      ∀ filter ∈ group, filter.negate.accepts row = true := by
  rw [negate_anyOf, accepts_allOf_iff, List.forall_mem_map]

theorem accepts_negate_allOf_iff (hne : group ≠ []) :
    (allOf group).negate.accepts row = true ↔
      ∃ filter ∈ group, filter.negate.accepts row = true := by
  rw [negate_allOf, accepts_anyOf_iff (by simpa using hne)]
  simp only [List.mem_map, exists_exists_and_eq_and]

end

/-! ## 3. Both sides -/

/-- No row is accepted by a filter and by its negation. -/
theorem not_accepts_both {filter : FilterTree} (hfilled : filter.isFilled = true) {row : Json}
    (haccepts : filter.accepts row = true) : filter.negate.accepts row = false := by
  rw [Bool.eq_false_iff]
  induction filter using memberInduction with
  | condition c =>
    rw [accepts_condition] at haccepts
    have hread : c.values row ≠ [] := by
      intro hnil
      rw [Condition.accepts_of_values_eq_nil hnil] at haccepts
      contradiction
    rw [negate_condition, accepts_condition, Condition.accepts_negate_of_values hread, haccepts]
    simp
  | anyOf group ih =>
    obtain ⟨hne, hmembers⟩ := isFilled_anyOf.1 hfilled
    obtain ⟨filter, hmem, hfilter⟩ := (accepts_anyOf_iff hne).1 haccepts
    intro hnegate
    exact ih filter hmem (hmembers filter hmem) hfilter
      (accepts_negate_anyOf_iff.1 hnegate filter hmem)
  | allOf group ih =>
    obtain ⟨hne, hmembers⟩ := isFilled_allOf.1 hfilled
    intro hnegate
    obtain ⟨filter, hmem, hfilter⟩ := (accepts_negate_allOf_iff hne).1 hnegate
    exact ih filter hmem (hmembers filter hmem) (accepts_allOf_iff.1 haccepts filter hmem) hfilter

/-- Where every condition reads a value, the negation accepts what the
filter rejects. -/
theorem accepts_negate_of_rejects {filter : FilterTree} (hfilled : filter.isFilled = true)
    {row : Json} (hvalues : ∀ c ∈ filter.conditions, c.values row ≠ [])
    (hrejects : filter.accepts row = false) : filter.negate.accepts row = true := by
  induction filter using memberInduction with
  | condition c =>
    rw [accepts_condition] at hrejects
    rw [negate_condition, accepts_condition,
      Condition.accepts_negate_of_values (hvalues c (by simp)), hrejects, Bool.not_false]
  | anyOf group ih =>
    obtain ⟨hne, hmembers⟩ := isFilled_anyOf.1 hfilled
    rw [Bool.eq_false_iff, ne_eq, accepts_anyOf_iff hne] at hrejects
    refine accepts_negate_anyOf_iff.2 fun filter hmem => ?_
    refine ih filter hmem (hmembers filter hmem)
      (fun c hc => hvalues c (mem_conditions_anyOf hmem hc)) ?_
    rw [Bool.eq_false_iff]
    exact fun hfilter => hrejects ⟨filter, hmem, hfilter⟩
  | allOf group ih =>
    obtain ⟨hne, hmembers⟩ := isFilled_allOf.1 hfilled
    rw [Bool.eq_false_iff, ne_eq, accepts_allOf_iff] at hrejects
    push Not at hrejects
    obtain ⟨filter, hmem, hfilter⟩ := hrejects
    refine (accepts_negate_allOf_iff hne).2 ⟨filter, hmem, ?_⟩
    exact ih filter hmem (hmembers filter hmem)
      (fun c hc => hvalues c (mem_conditions_allOf hmem hc)) (Bool.eq_false_iff.2 hfilter)

/-- Negating a filter twice gives it back, no row is accepted by a filter
and by its negation, and a row that has a value for every condition is
accepted by exactly one of them. -/
theorem accepts_negate {filter : FilterTree} (hfilled : filter.isFilled = true) (row : Json) :
    filter.negate.negate = filter ∧
      ¬ (filter.accepts row = true ∧ filter.negate.accepts row = true) ∧
      ((∀ c ∈ filter.conditions, c.values row ≠ []) →
        filter.negate.accepts row = !filter.accepts row) := by
  refine ⟨negate_negate filter, ?_, fun hvalues => ?_⟩
  · rintro ⟨haccepts, hnegate⟩
    rw [not_accepts_both hfilled haccepts] at hnegate
    contradiction
  · rcases haccepts : filter.accepts row with _ | _
    · exact accepts_negate_of_rejects hfilled hvalues haccepts
    · exact not_accepts_both hfilled haccepts

/-- Not open, and tagged `b` or ranked above 2. -/
def closedAndTagged : FilterTree :=
  .allOf [
    .condition { path := "status".toList, operator := .eq, negated := true,
                 operand := .str "open".toList },
    .anyOf [
      .condition { path := "tag.name".toList, operator := .eq, operand := .str ['b'] },
      .condition { path := "rank".toList, operator := .gt, operand := .ofNat 2 }]]

/-- A closed row with two tags and a rank is accepted through its second
tag and so rejected by the negation; one that has a status only is rejected
by both. -/
theorem accepts_negate_tagged :
    let tag (name : Text) : Json := .obj [("name".toList, .str name)]
    let tagged : Json := .obj [("rank".toList, .ofNat 1), ("status".toList, .str "done".toList),
      ("tag".toList, .arr [tag ['a'], tag ['b']])]
    let bare : Json := .obj [("status".toList, .str "done".toList)]
    closedAndTagged.isFilled = true ∧
      (∀ c ∈ closedAndTagged.conditions, c.values tagged ≠ []) ∧
      closedAndTagged.accepts tagged = true ∧ closedAndTagged.negate.accepts tagged = false ∧
      closedAndTagged.accepts bare = false ∧ closedAndTagged.negate.accepts bare = false := by
  intro tag tagged bare
  have hfilled : closedAndTagged.isFilled = true := by decide
  have hvalues : ∀ c ∈ closedAndTagged.conditions, c.values tagged ≠ [] := by decide +kernel
  have haccepts : closedAndTagged.accepts tagged = true := by decide +kernel
  refine ⟨hfilled, hvalues, haccepts, ?_, by decide +kernel, by decide +kernel⟩
  rw [(accepts_negate hfilled tagged).2.2 hvalues, haccepts]
  rfl

end FilterTree
end QueryCache
