/-
QueryCache.Proofs.Filter.Tree — filters by their members.

A property that holds of conditions, and of a group whenever it holds of
the members, holds of every filter (`memberInduction`).  The functions on
filters are described beside it by what they do to the members of a group.
-/
import Mathlib.Data.List.Basic
import QueryCache.Filter.Tree

namespace QueryCache.FilterTree

/-- A property of conditions that groups take over from their members. -/
@[elab_as_elim]
theorem memberInduction {motive : FilterTree → Prop}
    (condition : ∀ c, motive (.condition c))
    (anyOf : ∀ group, (∀ filter ∈ group, motive filter) → motive (.anyOf group))
    (allOf : ∀ group, (∀ filter ∈ group, motive filter) → motive (.allOf group)) :
    (filter : FilterTree) → motive filter
  | .condition c => condition c
  | .anyOf group => anyOf group fun filter _ => memberInduction condition anyOf allOf filter
  | .allOf group => allOf group fun filter _ => memberInduction condition anyOf allOf filter

/-! ## 1. Conditions of a group -/

theorem conditionsOfAll_eq_flatMap (group : List FilterTree) :
    conditionsOfAll group = group.flatMap conditions := by
  induction group with
  | nil => rfl
  | cons filter rest ih => simp [conditionsOfAll, ih]

@[simp] theorem conditions_condition (c : Condition) : (condition c).conditions = [c] := by
  rw [conditions]

@[simp] theorem conditions_anyOf (group : List FilterTree) :
    (anyOf group).conditions = group.flatMap conditions := by
  rw [conditions, conditionsOfAll_eq_flatMap]

@[simp] theorem conditions_allOf (group : List FilterTree) :
    (allOf group).conditions = group.flatMap conditions := by
  rw [conditions, conditionsOfAll_eq_flatMap]

theorem mem_conditions_anyOf {group : List FilterTree} {filter : FilterTree} {c : Condition}
    (hmem : filter ∈ group) (hc : c ∈ filter.conditions) : c ∈ (anyOf group).conditions := by
  rw [conditions_anyOf]
  exact List.mem_flatMap.2 ⟨filter, hmem, hc⟩

theorem mem_conditions_allOf {group : List FilterTree} {filter : FilterTree} {c : Condition}
    (hmem : filter ∈ group) (hc : c ∈ filter.conditions) : c ∈ (allOf group).conditions := by
  rw [conditions_allOf]
  exact List.mem_flatMap.2 ⟨filter, hmem, hc⟩

theorem mapAllConditions_eq_map (f : Condition → Condition) (group : List FilterTree) :
    mapAllConditions f group = group.map (mapConditions f) := by
  induction group with
  | nil => rfl
  | cons filter rest ih => simp [mapAllConditions, ih]

@[simp] theorem mapConditions_condition (f : Condition → Condition) (c : Condition) :
    (condition c).mapConditions f = condition (f c) := by
  rw [mapConditions]

@[simp] theorem mapConditions_anyOf (f : Condition → Condition) (group : List FilterTree) :
    (anyOf group).mapConditions f = anyOf (group.map (mapConditions f)) := by
  rw [mapConditions, mapAllConditions_eq_map]

@[simp] theorem mapConditions_allOf (f : Condition → Condition) (group : List FilterTree) :
    (allOf group).mapConditions f = allOf (group.map (mapConditions f)) := by
  rw [mapConditions, mapAllConditions_eq_map]

/-- Replacing conditions twice. -/
theorem mapConditions_mapConditions (f g : Condition → Condition) (filter : FilterTree) :
    (filter.mapConditions f).mapConditions g = filter.mapConditions (g ∘ f) := by
  induction filter using memberInduction with
  | condition c => simp
  | anyOf group ih => simpa using ih
  | allOf group ih => simpa using ih

theorem mapConditions_id (filter : FilterTree) : filter.mapConditions id = filter := by
  have hgroup : ∀ group : List FilterTree, (∀ filter ∈ group, filter.mapConditions id = filter) →
      group.map (mapConditions id) = group :=
    fun group ih => (List.map_congr_left ih).trans (List.map_id group)
  induction filter using memberInduction with
  | condition c => simp
  | anyOf group ih => rw [mapConditions_anyOf, hgroup group ih]
  | allOf group ih => rw [mapConditions_allOf, hgroup group ih]

/-- No condition is negated outside itself, so a filter accepts one row if
another is accepted under other conditions, each of which implies its
own. -/
theorem accepts_of_mapConditions {f : Condition → Condition} {row other : Json}
    (filter : FilterTree)
    (himplies : ∀ c ∈ filter.conditions, (f c).accepts other = true → c.accepts row = true)
    (haccepts : (filter.mapConditions f).accepts other = true) : filter.accepts row = true := by
  induction filter using memberInduction with
  | condition c => exact himplies c (by simp) (by simpa using haccepts)
  | anyOf group ih =>
    rw [mapConditions_anyOf, accepts_anyOf, Bool.or_eq_true, List.isEmpty_map, List.any_map,
      List.any_eq_true] at haccepts
    rw [accepts_anyOf, Bool.or_eq_true, List.any_eq_true]
    refine haccepts.imp_right fun ⟨member, hmem, hmember⟩ => ⟨member, hmem, ?_⟩
    exact ih member hmem (fun c hc => himplies c (mem_conditions_anyOf hmem hc)) hmember
  | allOf group ih =>
    rw [mapConditions_allOf, accepts_allOf, List.all_map, List.all_eq_true] at haccepts
    rw [accepts_allOf, List.all_eq_true]
    intro member hmem
    exact ih member hmem (fun c hc => himplies c (mem_conditions_allOf hmem hc))
      (haccepts member hmem)

/-! ## 2. What a restriction keeps -/

theorem nonempty_eq_some_iff {wrap : List FilterTree → FilterTree} {group : List FilterTree}
    {kept : FilterTree} : nonempty wrap group = some kept ↔ group ≠ [] ∧ wrap group = kept := by
  cases group <;> simp [nonempty]

@[simp] theorem restrictTo?_anyOf (paths : List Text) (group : List FilterTree) :
    (anyOf group).restrictTo? paths = nonempty anyOf (group.filterMap (restrictTo? paths)) := by
  rw [restrictTo?, restrictAll_eq_filterMap]

@[simp] theorem restrictTo?_allOf (paths : List Text) (group : List FilterTree) :
    (allOf group).restrictTo? paths = nonempty allOf (group.filterMap (restrictTo? paths)) := by
  rw [restrictTo?, restrictAll_eq_filterMap]

/-- Conditions replaced by conditions about the same paths are kept alike. -/
theorem restrictTo?_mapConditions {paths : List Text} {f : Condition → Condition}
    (hf : ∀ c, (f c).targets paths = c.targets paths) (filter : FilterTree) :
    (filter.mapConditions f).restrictTo? paths =
      (filter.restrictTo? paths).map (mapConditions f) := by
  have hnonempty : ∀ (wrap : List FilterTree → FilterTree) (group : List FilterTree),
      (∀ group, (wrap group).mapConditions f = wrap (group.map (mapConditions f))) →
      nonempty wrap (group.map (mapConditions f)) =
        (nonempty wrap group).map (mapConditions f) := by
    intro wrap group hwrap
    cases group <;> simp [nonempty, hwrap]
  have hgroup : ∀ group : List FilterTree,
      (∀ filter ∈ group, (filter.mapConditions f).restrictTo? paths =
        (filter.restrictTo? paths).map (mapConditions f)) →
      (group.map (mapConditions f)).filterMap (restrictTo? paths) =
        (group.filterMap (restrictTo? paths)).map (mapConditions f) := by
    intro group ih
    rw [List.filterMap_map, List.map_filterMap]
    exact List.filterMap_congr ih
  induction filter using memberInduction with
  | condition c =>
    rw [mapConditions_condition, restrictTo?, restrictTo?, hf]
    split <;> simp
  | anyOf group ih =>
    rw [mapConditions_anyOf, restrictTo?_anyOf, restrictTo?_anyOf, hgroup group ih,
      hnonempty _ _ (mapConditions_anyOf f)]
  | allOf group ih =>
    rw [mapConditions_allOf, restrictTo?_allOf, restrictTo?_allOf, hgroup group ih,
      hnonempty _ _ (mapConditions_allOf f)]

end QueryCache.FilterTree
