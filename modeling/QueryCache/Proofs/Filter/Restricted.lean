/-
QueryCache.Proofs.Filter.Restricted — when the filters on some paths may
speak for all filters.

Leaving conditions out of an `allOf` group makes it accept more, leaving
them out of an `anyOf` group makes it accept less.  So what the filters say
about some paths rules out only rows that the filters rule out themselves
exactly when no `anyOf` group keeps some members and loses others
(`keepsGroups`).  `passesOn_of_passes_iff` states this over all filters
with the same groups on the same columns.  Where a group is split,
operators and a row can be found that the restriction rules out wrongly
(`exists_ruled_out`).
-/
import QueryCache.Filter.QueryFilter
import QueryCache.Proofs.Fields
import QueryCache.Proofs.Filter.Tree

namespace QueryCache

/-- The column of a condition, without what is asked of it. -/
def Condition.column (c : Condition) : Condition :=
  { c with operator := .eq, negated := false, operand := .null }

theorem Condition.targets_column (c : Condition) (paths : List Text) :
    c.column.targets paths = c.targets paths := rfl

namespace FilterTree

/-- Some condition of the filter is about one of the paths. -/
def survives (paths : List Text) (filter : FilterTree) : Bool :=
  (filter.restrictTo? paths).isSome

mutual

/-- Every `anyOf` group keeps all of its members or none. -/
def isWhole (paths : List Text) : FilterTree → Bool
  | condition _ => true
  | anyOf group =>
    (group.all (survives paths) || group.all (!survives paths ·)) && areWhole paths group
  | allOf group => areWhole paths group

def areWhole (paths : List Text) : List FilterTree → Bool
  | [] => true
  | filter :: rest => isWhole paths filter && areWhole paths rest

end

/-- The groups and their columns. -/
def shape (filter : FilterTree) : FilterTree :=
  filter.mapConditions Condition.column

theorem areWhole_eq_all (paths : List Text) (group : List FilterTree) :
    areWhole paths group = group.all (isWhole paths) := by
  induction group with
  | nil => rfl
  | cons filter rest ih => simp [areWhole, ih]

@[simp] theorem isWhole_condition (paths : List Text) (c : Condition) :
    (condition c).isWhole paths = true := by
  rw [isWhole]

@[simp] theorem isWhole_anyOf (paths : List Text) (group : List FilterTree) :
    (anyOf group).isWhole paths =
      ((group.all (survives paths) || group.all (!survives paths ·)) &&
        group.all (isWhole paths)) := by
  rw [isWhole, areWhole_eq_all]

@[simp] theorem isWhole_allOf (paths : List Text) (group : List FilterTree) :
    (allOf group).isWhole paths = group.all (isWhole paths) := by
  rw [isWhole, areWhole_eq_all]

theorem survives_iff {paths : List Text} {filter : FilterTree} :
    filter.survives paths = true ↔ ∃ kept, filter.restrictTo? paths = some kept :=
  Option.isSome_iff_exists

theorem survives_group {paths : List Text} {group : List FilterTree}
    {wrap : List FilterTree → FilterTree} :
    (nonempty wrap (group.filterMap (restrictTo? paths))).isSome =
      group.any (survives paths) := by
  induction group with
  | nil => rfl
  | cons filter rest ih =>
    rw [List.any_cons, ← ih, survives, List.filterMap_cons]
    cases restrictTo? paths filter <;> simp [nonempty]

@[simp] theorem survives_anyOf (paths : List Text) (group : List FilterTree) :
    (anyOf group).survives paths = group.any (survives paths) := by
  rw [survives, restrictTo?_anyOf, survives_group]

@[simp] theorem survives_allOf (paths : List Text) (group : List FilterTree) :
    (allOf group).survives paths = group.any (survives paths) := by
  rw [survives, restrictTo?_allOf, survives_group]

/-! ## 1. Wholeness is a matter of shape -/

theorem survives_mapConditions {paths : List Text} {f : Condition → Condition}
    (hf : ∀ c, (f c).targets paths = c.targets paths) (filter : FilterTree) :
    (filter.mapConditions f).survives paths = filter.survives paths := by
  rw [survives, restrictTo?_mapConditions hf, Option.isSome_map, survives]

theorem isWhole_mapConditions {paths : List Text} {f : Condition → Condition}
    (hf : ∀ c, (f c).targets paths = c.targets paths) (filter : FilterTree) :
    (filter.mapConditions f).isWhole paths = filter.isWhole paths := by
  have hgroup : ∀ group : List FilterTree,
      (∀ filter ∈ group, (filter.mapConditions f).isWhole paths = filter.isWhole paths) →
      (group.map (mapConditions f)).all (isWhole paths) = group.all (isWhole paths) := by
    intro group ih
    rw [List.all_map, Bool.eq_iff_iff, List.all_eq_true, List.all_eq_true]
    refine forall₂_congr fun filter hmem => ?_
    rw [Function.comp_apply, ih filter hmem]
  induction filter using memberInduction with
  | condition c => simp
  | anyOf group ih =>
    rw [mapConditions_anyOf, isWhole_anyOf, isWhole_anyOf, hgroup group ih]
    simp [List.all_map, Function.comp_def, survives_mapConditions hf]
  | allOf group ih => rw [mapConditions_allOf, isWhole_allOf, isWhole_allOf, hgroup group ih]

theorem isWhole_shape (paths : List Text) (filter : FilterTree) :
    filter.shape.isWhole paths = filter.isWhole paths :=
  isWhole_mapConditions (fun c => c.targets_column paths) filter

/-! ## 2. Whole groups rule out nothing that they accept -/

/-- What remains of a filter with whole groups accepts what the filter
accepts. -/
theorem accepts_of_restrictTo? {paths : List Text} {row : Json} (filter : FilterTree)
    (hwhole : filter.isWhole paths = true) (haccepts : filter.accepts row = true)
    {kept : FilterTree} (hkept : filter.restrictTo? paths = some kept) :
    kept.accepts row = true := by
  induction filter using memberInduction generalizing kept with
  | condition c =>
    rw [restrictTo?] at hkept
    split at hkept
    · obtain rfl := Option.some.inj hkept
      exact haccepts
    · contradiction
  | anyOf group ih =>
    rw [restrictTo?_anyOf, nonempty_eq_some_iff] at hkept
    obtain ⟨hne, rfl⟩ := hkept
    rw [isWhole_anyOf, Bool.and_eq_true, Bool.or_eq_true, List.all_eq_true, List.all_eq_true,
      List.all_eq_true] at hwhole
    -- Some member is kept, so all of them are, the accepting one too.
    obtain ⟨some_kept, hmem⟩ := List.exists_mem_of_ne_nil _ hne
    obtain ⟨member, hmember, hrestricted⟩ := List.mem_filterMap.1 hmem
    have hall : ∀ filter ∈ group, filter.survives paths = true := by
      rcases hwhole.1 with hall | hnone
      · exact hall
      · have hlost := hnone member hmember
        simp [survives, hrestricted] at hlost
    have hnil : group ≠ [] := List.ne_nil_of_mem hmember
    rw [accepts_anyOf, Bool.or_eq_true, List.isEmpty_iff, List.any_eq_true] at haccepts
    obtain ⟨accepting, haccepting, hrow⟩ := haccepts.resolve_left hnil
    obtain ⟨rest, hrest⟩ := Option.isSome_iff_exists.1 (hall accepting haccepting)
    have := ih accepting haccepting (hwhole.2 accepting haccepting) hrow hrest
    rw [accepts_anyOf, Bool.or_eq_true, List.any_eq_true]
    exact Or.inr ⟨rest, List.mem_filterMap.2 ⟨accepting, haccepting, hrest⟩, this⟩
  | allOf group ih =>
    rw [restrictTo?_allOf, nonempty_eq_some_iff] at hkept
    obtain ⟨-, rfl⟩ := hkept
    rw [isWhole_allOf, List.all_eq_true] at hwhole
    rw [accepts_allOf, List.all_eq_true] at haccepts ⊢
    intro rest hrest
    obtain ⟨member, hmember, hrestricted⟩ := List.mem_filterMap.1 hrest
    exact ih member hmember (hwhole member hmember) (haccepts member hmember) hrestricted

end FilterTree

/-! ## 3. Null tests -/

/-- The condition on the same column that nulls satisfy, or that they do
not. -/
def Condition.nullTest (holds : Bool) (c : Condition) : Condition :=
  { c with operator := .is, negated := !holds, operand := .null }

theorem Condition.accepts_nullTest {c : Condition} {row : Json} (hrow : c.values row = [.null])
    (holds : Bool) : (c.nullTest holds).accepts row = holds := by
  have hvalues : (c.nullTest holds).values row = [.null] := hrow
  rw [Condition.accepts, Condition.found, hvalues]
  cases holds <;> rfl

theorem Condition.targets_nullTest (holds : Bool) (c : Condition) (paths : List Text) :
    (c.nullTest holds).targets paths = c.targets paths := rfl

namespace FilterTree

/-- Every condition of the filter reads one null. -/
def ReadsNulls (row : Json) (filter : FilterTree) : Prop :=
  ∀ c ∈ filter.conditions, c.values row = [.null]

theorem ReadsNulls.member_anyOf {row : Json} {group : List FilterTree}
    (h : (anyOf group).ReadsNulls row) {filter : FilterTree} (hmem : filter ∈ group) :
    filter.ReadsNulls row :=
  fun c hc => h c (mem_conditions_anyOf hmem hc)

theorem ReadsNulls.member_allOf {row : Json} {group : List FilterTree}
    (h : (allOf group).ReadsNulls row) {filter : FilterTree} (hmem : filter ∈ group) :
    filter.ReadsNulls row :=
  fun c hc => h c (mem_conditions_allOf hmem hc)

/-- The filter with null tests for its conditions, all of which hold or
none. -/
def nullTests (holds : Bool) (filter : FilterTree) : FilterTree :=
  filter.mapConditions (Condition.nullTest holds)

theorem shape_nullTests (holds : Bool) (filter : FilterTree) :
    (filter.nullTests holds).shape = filter.shape :=
  mapConditions_mapConditions _ _ _

theorem survives_nullTests (holds : Bool) (paths : List Text) (filter : FilterTree) :
    (filter.nullTests holds).survives paths = filter.survives paths :=
  survives_mapConditions (fun c => c.targets_nullTest holds paths) filter

theorem accepts_nullTests {row : Json} (filter : FilterTree) (h : filter.ReadsNulls row) :
    (filter.nullTests true).accepts row = true := by
  induction filter using memberInduction with
  | condition c => simpa [nullTests] using Condition.accepts_nullTest (h c (by simp)) true
  | anyOf group ih =>
    have hmembers : ∀ filter ∈ group, (filter.nullTests true).accepts row = true :=
      fun filter hmem => ih filter hmem (h.member_anyOf hmem)
    rw [nullTests, mapConditions_anyOf, accepts_anyOf]
    cases group with
    | nil => rfl
    | cons filter rest =>
      have := hmembers filter List.mem_cons_self
      rw [nullTests] at this
      simp [this]
  | allOf group ih =>
    rw [nullTests, mapConditions_allOf, accepts_allOf, List.all_map, List.all_eq_true]
    exact fun filter hmem => ih filter hmem (h.member_allOf hmem)

/-- What remains of the filter on the paths does not accept the row. -/
def FailsOn (paths : List Text) (row : Json) (filter : FilterTree) : Prop :=
  ∀ kept, filter.restrictTo? paths = some kept → kept.accepts row = false

section

variable {paths : List Text} {row : Json} {group : List FilterTree}

theorem FailsOn.anyOf (h : ∀ filter ∈ group, filter.FailsOn paths row) :
    (FilterTree.anyOf group).FailsOn paths row := by
  intro kept hkept
  rw [restrictTo?_anyOf, nonempty_eq_some_iff] at hkept
  obtain ⟨hne, rfl⟩ := hkept
  rw [accepts_anyOf, Bool.or_eq_false_iff, List.any_eq_false, List.isEmpty_eq_false_iff]
  refine ⟨hne, fun rest hrest => ?_⟩
  obtain ⟨filter, hmem, hrestricted⟩ := List.mem_filterMap.1 hrest
  simp [h filter hmem rest hrestricted]

theorem FailsOn.allOf {filter : FilterTree} (hmem : filter ∈ group)
    (hsurvives : filter.survives paths = true) (h : filter.FailsOn paths row) :
    (FilterTree.allOf group).FailsOn paths row := by
  intro kept hkept
  rw [restrictTo?_allOf, nonempty_eq_some_iff] at hkept
  obtain ⟨-, rfl⟩ := hkept
  obtain ⟨rest, hrest⟩ := survives_iff.1 hsurvives
  rw [accepts_allOf, List.all_eq_false]
  exact ⟨rest, List.mem_filterMap.2 ⟨filter, hmem, hrest⟩, by simp [h rest hrest]⟩

end

theorem failsOn_nullTests {row : Json} (paths : List Text) (filter : FilterTree)
    (h : filter.ReadsNulls row) : (filter.nullTests false).FailsOn paths row := by
  induction filter using memberInduction with
  | condition c =>
    intro kept hkept
    rw [nullTests, mapConditions_condition, restrictTo?] at hkept
    split at hkept
    · obtain rfl := Option.some.inj hkept
      exact Condition.accepts_nullTest (h c (by simp)) false
    · contradiction
  | anyOf group ih =>
    rw [nullTests, mapConditions_anyOf]
    refine FailsOn.anyOf fun tests htests => ?_
    obtain ⟨filter, hmem, rfl⟩ := List.mem_map.1 htests
    exact ih filter hmem (h.member_anyOf hmem)
  | allOf group ih =>
    intro kept hkept
    have hsurvives : (allOf group).survives paths = true := by
      rw [← survives_nullTests false, survives, hkept]
      rfl
    rw [survives_allOf, List.any_eq_true] at hsurvives
    obtain ⟨filter, hmem, hfilter⟩ := hsurvives
    rw [nullTests, mapConditions_allOf] at hkept
    refine FailsOn.allOf (List.mem_map_of_mem hmem) ?_ (ih filter hmem (h.member_allOf hmem))
      kept hkept
    exact (survives_nullTests false paths filter).trans hfilter

/-! ## 4. A split group is ruled out wrongly -/

/-- Conditions on the columns of the filter under which it accepts the row
while what remains of it on the paths does not. -/
def IsRuledOut (paths : List Text) (row : Json) (filter : FilterTree) : Prop :=
  ∃ tests : FilterTree, tests.shape = filter.shape ∧ tests.accepts row = true ∧
    tests.survives paths = true ∧ tests.FailsOn paths row

section

variable {paths : List Text} {row : Json} {group : List FilterTree}
  (pick : FilterTree → FilterTree)
  (hshape : ∀ filter ∈ group, (pick filter).shape = filter.shape)
include hshape

/-- Of the members of an `anyOf` group one accepts, and what remains of
them fails. -/
theorem isRuledOut_anyOf (haccepts : ∃ filter ∈ group, (pick filter).accepts row = true)
    (hsurvives : ∃ filter ∈ group, (pick filter).survives paths = true)
    (hfails : ∀ filter ∈ group, (pick filter).FailsOn paths row) :
    (anyOf group).IsRuledOut paths row := by
  refine ⟨anyOf (group.map pick), ?_, ?_, ?_, FailsOn.anyOf ?_⟩
  · rw [shape, mapConditions_anyOf, List.map_map, shape, mapConditions_anyOf, anyOf.injEq]
    exact List.map_congr_left hshape
  · rw [accepts_anyOf, Bool.or_eq_true, List.any_map, List.any_eq_true]
    exact Or.inr haccepts
  · rw [survives_anyOf, List.any_map, List.any_eq_true]
    exact hsurvives
  · rwa [List.forall_mem_map]

/-- The members of an `allOf` group accept, and what remains of one
fails. -/
theorem isRuledOut_allOf (haccepts : ∀ filter ∈ group, (pick filter).accepts row = true)
    {filter : FilterTree} (hmem : filter ∈ group)
    (hsurvives : (pick filter).survives paths = true)
    (hfails : (pick filter).FailsOn paths row) :
    (allOf group).IsRuledOut paths row := by
  have hmember : pick filter ∈ group.map pick := List.mem_map_of_mem hmem
  refine ⟨allOf (group.map pick), ?_, ?_, ?_, FailsOn.allOf hmember hsurvives hfails⟩
  · rw [shape, mapConditions_allOf, List.map_map, shape, mapConditions_allOf, allOf.injEq]
    exact List.map_congr_left hshape
  · rw [accepts_allOf, List.all_map, List.all_eq_true]
    exact haccepts
  · rw [survives_allOf, List.any_eq_true]
    exact ⟨_, hmember, hsurvives⟩

end

/-- A filter with a split group is ruled out wrongly by null tests. -/
theorem isRuledOut_of_split {paths : List Text} {row : Json} (filter : FilterTree)
    (hrow : filter.ReadsNulls row) (hsplit : filter.isWhole paths = false) :
    filter.IsRuledOut paths row := by
  induction filter using memberInduction with
  | condition c => simp at hsplit
  | anyOf group ih =>
    by_cases hwhole : group.all (isWhole paths) = true
    · -- The group itself is split: what is lost accepts, what survives fails.
      rw [isWhole_anyOf, hwhole, Bool.and_true, Bool.or_eq_false_iff, List.all_eq_false,
        List.all_eq_false] at hsplit
      obtain ⟨⟨lost, hlost, hnot⟩, survivor, hsurvivor, hsurvives⟩ := hsplit
      have hnot : lost.survives paths = false := by simpa using hnot
      have hsurvives : survivor.survives paths = true := by simpa using hsurvives
      refine isRuledOut_anyOf (fun filter => filter.nullTests !filter.survives paths)
        (fun filter _ => shape_nullTests _ filter) ⟨lost, hlost, ?_⟩ ⟨survivor, hsurvivor, ?_⟩
        fun filter hmem kept hkept => ?_
      · rw [hnot]
        exact accepts_nullTests lost (hrow.member_anyOf hlost)
      · rw [survives_nullTests, hsurvives]
      · have hfilter : filter.survives paths = true := by
          rw [← survives_nullTests (!filter.survives paths), survives_iff]
          exact ⟨kept, hkept⟩
        rw [hfilter] at hkept
        exact failsOn_nullTests paths filter (hrow.member_anyOf hmem) kept hkept
    · -- Some member is ruled out wrongly; the whole ones fail.
      have htests : ∀ filter, ∃ tests : FilterTree, filter ∈ group →
          tests.shape = filter.shape ∧ tests.FailsOn paths row ∧
          (filter.isWhole paths = false →
            tests.accepts row = true ∧ tests.survives paths = true) := by
        intro filter
        by_cases hfilter : filter ∈ group ∧ filter.isWhole paths = false
        · obtain ⟨tests, hshape, haccepts, hsurvives, hfails⟩ :=
            ih filter hfilter.1 (hrow.member_anyOf hfilter.1) hfilter.2
          exact ⟨tests, fun _ => ⟨hshape, hfails, fun _ => ⟨haccepts, hsurvives⟩⟩⟩
        · exact ⟨filter.nullTests false, fun hmem => ⟨shape_nullTests _ filter,
            failsOn_nullTests paths filter (hrow.member_anyOf hmem),
            fun hsplit => absurd ⟨hmem, hsplit⟩ hfilter⟩⟩
      choose pick hpick using htests
      rw [Bool.not_eq_true, List.all_eq_false] at hwhole
      obtain ⟨member, hmem, hmember⟩ := hwhole
      obtain ⟨-, -, htests⟩ := hpick member hmem
      rw [Bool.not_eq_true] at hmember
      exact isRuledOut_anyOf pick (fun filter hmem => (hpick filter hmem).1)
        ⟨member, hmem, (htests hmember).1⟩ ⟨member, hmem, (htests hmember).2⟩
        fun filter hmem => (hpick filter hmem).2.1
  | allOf group ih =>
    -- Some member is ruled out wrongly; the whole ones accept.
    have htests : ∀ filter, ∃ tests : FilterTree, filter ∈ group →
        tests.shape = filter.shape ∧ tests.accepts row = true ∧
        (filter.isWhole paths = false →
          tests.survives paths = true ∧ tests.FailsOn paths row) := by
      intro filter
      by_cases hfilter : filter ∈ group ∧ filter.isWhole paths = false
      · obtain ⟨tests, hshape, haccepts, hsurvives, hfails⟩ :=
          ih filter hfilter.1 (hrow.member_allOf hfilter.1) hfilter.2
        exact ⟨tests, fun _ => ⟨hshape, haccepts, fun _ => ⟨hsurvives, hfails⟩⟩⟩
      · exact ⟨filter.nullTests true, fun hmem => ⟨shape_nullTests _ filter,
          accepts_nullTests filter (hrow.member_allOf hmem),
          fun hsplit => absurd ⟨hmem, hsplit⟩ hfilter⟩⟩
    choose pick hpick using htests
    rw [isWhole_allOf, List.all_eq_false] at hsplit
    obtain ⟨member, hmem, hmember⟩ := hsplit
    obtain ⟨-, -, htests⟩ := hpick member hmem
    rw [Bool.not_eq_true] at hmember
    exact isRuledOut_allOf pick (fun filter hmem => (hpick filter hmem).1)
      (fun filter hmem => (hpick filter hmem).2.1) hmem (htests hmember).1 (htests hmember).2

end FilterTree

/-! ## 5. Rows of nulls -/

/-- A field named by the whole path is what the path leads to. -/
theorem RowPath.values_of_get? {path : Text} {fields : Fields Json} {value : Json}
    (h : Fields.get? path fields = some value) : RowPath.values (.obj fields) path = [value] := by
  have hjoin := Text.join_splitOn '.' path
  rw [RowPath.values]
  rcases hsplit : Text.splitOn '.' path with _ | ⟨segment, _ | ⟨next, rest⟩⟩
  · exact absurd hsplit (Text.splitOn_ne_nil _ _)
  · rw [hsplit, Text.join] at hjoin
    simp [RowPath.valuesAt, Json.rows, hjoin, h]
  · rw [hsplit] at hjoin
    simp [RowPath.valuesAt, Json.rows, hjoin, h]

/-- Some row reads nulls under every condition. -/
theorem FilterTree.exists_readsNulls (filter : FilterTree) : ∃ row, filter.ReadsNulls row := by
  refine ⟨.obj ((filter.conditions.map Condition.lookupPath).foldl
    (fun fields name => Fields.insert name .null fields) []), fun c hc => ?_⟩
  exact RowPath.values_of_get?
    (Fields.get?_foldl_insert_const Json.null (List.mem_map_of_mem hc) [])

/-! ## 6. The restricted filters of a query -/

namespace QueryFilter

/-- No `anyOf` group of the filters keeps some members and loses others
when only the conditions on the paths are kept. -/
def keepsGroups (filter : QueryFilter) (paths : List Text) : Bool :=
  filter.filters.all (·.isWhole paths)

theorem keepsGroups_eq (filter : QueryFilter) (paths : List Text) :
    filter.keepsGroups paths = (filter.filters.map FilterTree.shape).all (·.isWhole paths) := by
  rw [keepsGroups, List.all_map]
  simp only [Function.comp_def, FilterTree.isWhole_shape]

theorem passesOn_of_keepsGroups {filter : QueryFilter} {paths : List Text}
    (hwhole : filter.keepsGroups paths = true) {row : Json} (hpasses : filter.passes row = true) :
    filter.passesOn row paths = true := by
  rw [keepsGroups, List.all_eq_true] at hwhole
  rw [passes, List.all_eq_true] at hpasses
  rw [passesOn, List.all_eq_true]
  intro kept hkept
  obtain ⟨tree, htree, hrestricted⟩ := List.mem_filterMap.1 hkept
  exact FilterTree.accepts_of_restrictTo? tree (hwhole tree htree) (hpasses tree htree) hrestricted

/-- Filters of the same shape, and a row that they accept and that their
restriction to the paths rules out. -/
theorem exists_ruled_out {filter : QueryFilter} {paths : List Text}
    (hsplit : filter.keepsGroups paths = false) :
    ∃ (other : QueryFilter) (row : Json),
      other.filters.map FilterTree.shape = filter.filters.map FilterTree.shape ∧
        other.passes row = true ∧ other.passesOn row paths = false := by
  -- All filters of a query together are the members of one group.
  obtain ⟨row, hrow⟩ := FilterTree.exists_readsNulls (.allOf filter.filters)
  obtain ⟨tests, hshape, haccepts, hsurvives, hfails⟩ :=
    FilterTree.isRuledOut_of_split (.allOf filter.filters) hrow
      (by rwa [FilterTree.isWhole_allOf])
  cases tests with
  | condition c => simp [FilterTree.shape] at hshape
  | anyOf group => simp [FilterTree.shape] at hshape
  | allOf group =>
    refine ⟨⟨filter.paths, group⟩, row, ?_, ?_, ?_⟩
    · rw [FilterTree.shape, FilterTree.mapConditions_allOf, FilterTree.shape,
        FilterTree.mapConditions_allOf, FilterTree.allOf.injEq] at hshape
      exact hshape
    · rwa [FilterTree.accepts_allOf] at haccepts
    · obtain ⟨kept, hkept⟩ := FilterTree.survives_iff.1 hsurvives
      have hrejects := hfails kept hkept
      rw [FilterTree.restrictTo?_allOf, FilterTree.nonempty_eq_some_iff] at hkept
      rwa [← hkept.2, FilterTree.accepts_allOf] at hrejects

/-- What the filters say about the paths rules out no row that the filters
accept, whatever the groups ask of their columns, exactly when it splits
no group. -/
theorem passesOn_of_passes_iff (filter : QueryFilter) (paths : List Text) :
    filter.keepsGroups paths = true ↔
      ∀ other : QueryFilter, other.filters.map FilterTree.shape =
          filter.filters.map FilterTree.shape →
        ∀ row, other.passes row = true → other.passesOn row paths = true := by
  constructor
  · intro hwhole other hshape row hpasses
    rw [keepsGroups_eq, ← hshape, ← keepsGroups_eq] at hwhole
    exact passesOn_of_keepsGroups hwhole hpasses
  · intro hsound
    by_contra hsplit
    obtain ⟨other, row, hshape, hpasses, hruledOut⟩ :=
      exists_ruled_out (Bool.not_eq_true _ ▸ hsplit)
    rw [hsound other hshape row hpasses] at hruledOut
    contradiction

/-- The contacts with the id 1, and those that are open. -/
def firstOrOpen : QueryFilter where
  paths := ["id".toList, "status".toList].map Path.ofText
  filters := [.anyOf [.equality "id".toList (.ofNat 1),
    .equality "status".toList (.str "open".toList)]]

/-- An open contact with the id 2 is among them, and what they say about
ids alone rules it out. -/
theorem firstOrOpen_ruled_out :
    let row : Json := .obj [("id".toList, .ofNat 2), ("status".toList, .str "open".toList)]
    firstOrOpen.passes row = true ∧ firstOrOpen.passesOn row ["id".toList] = false := by
  decide +kernel

end QueryFilter
end QueryCache
