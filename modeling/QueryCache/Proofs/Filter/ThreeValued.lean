/-
QueryCache.Proofs.Filter.ThreeValued — filters in three-valued logic.

In SQL a comparison with a null is neither true nor false, and its negation
is not either.  A formula is a filter as it is written, with negations
where they stand; its tree has them carried down to the conditions.  The
tree and the formula agree on each condition but one kind: a negated
comparison holds of a null (`Condition.OverlooksNull`).  Groups take over
what their members have (`Judges.anyOf`, `Judges.allOf`), so both agree on
all formulas exactly where no such condition meets a null
(`accepts_tree_iff_truth`).
-/
import QueryCache.Proofs.Filter.Restricted

namespace QueryCache

/-! ## 1. Truth values -/

/-- The truth values of SQL. -/
inductive Truth where
  | no
  | unknown
  | yes
deriving DecidableEq

namespace Truth

def ofBool : Bool → Truth
  | true => yes
  | false => no

def not : Truth → Truth
  | no => yes
  | unknown => unknown
  | yes => no

def and : Truth → Truth → Truth
  | no, _ => no
  | yes, b => b
  | unknown, no => no
  | unknown, _ => unknown

def or : Truth → Truth → Truth
  | yes, _ => yes
  | no, b => b
  | unknown, yes => yes
  | unknown, _ => unknown

def any (truths : List Truth) : Truth :=
  truths.foldr or no

def all (truths : List Truth) : Truth :=
  truths.foldr and yes

@[simp] theorem not_not (a : Truth) : a.not.not = a := by
  cases a <;> rfl

theorem not_eq_yes_iff {a : Truth} : a.not = yes ↔ a = no := by
  cases a <;> decide

theorem not_or (a b : Truth) : (a.or b).not = a.not.and b.not := by
  cases a <;> cases b <;> rfl

theorem or_eq_no_iff {a b : Truth} : a.or b = no ↔ a = no ∧ b = no := by
  cases a <;> cases b <;> decide

theorem or_eq_yes_iff {a b : Truth} : a.or b = yes ↔ a = yes ∨ b = yes := by
  cases a <;> cases b <;> decide

theorem not_any (truths : List Truth) : (any truths).not = all (truths.map not) := by
  induction truths with
  | nil => rfl
  | cons a rest ih =>
    rw [List.map_cons, any, List.foldr_cons, not_or, ← any, ih]
    rfl

theorem not_all (truths : List Truth) : (all truths).not = any (truths.map not) := by
  rw [← not_not (any _), not_any]
  simp [List.map_map, Function.comp_def]

theorem any_eq_no_iff {truths : List Truth} : any truths = no ↔ ∀ a ∈ truths, a = no := by
  induction truths with
  | nil => simp [any]
  | cons a rest ih => rw [any, List.foldr_cons, or_eq_no_iff, ← any, ih, List.forall_mem_cons]

theorem any_eq_yes_iff {truths : List Truth} : any truths = yes ↔ yes ∈ truths := by
  induction truths with
  | nil => simp [any]
  | cons a rest ih =>
    rw [any, List.foldr_cons, or_eq_yes_iff, ← any, ih, List.mem_cons, eq_comm]

theorem all_eq_yes_iff {truths : List Truth} : all truths = yes ↔ ∀ a ∈ truths, a = yes := by
  rw [← not_not (all _), not_all, not_eq_yes_iff, any_eq_no_iff, List.forall_mem_map]
  refine forall₂_congr fun a _ => ?_
  cases a <;> decide

theorem all_eq_no_iff {truths : List Truth} : all truths = no ↔ no ∈ truths := by
  rw [← not_eq_yes_iff, not_all, any_eq_yes_iff, List.mem_map]
  constructor
  · rintro ⟨a, hmem, ha⟩
    rwa [not_eq_yes_iff.1 ha] at hmem
  · intro hmem
    exact ⟨no, hmem, rfl⟩

end Truth

/-! ## 2. Formulas -/

/-- What a condition says of a value: nothing of a null, unless it is an
`is`. -/
def FilterOperator.truth (op : FilterOperator) (value operand : Json) : Truth :=
  if value.isNull && op != is then .unknown else .ofBool (op.accepts value operand)

/-- What a condition says of a row. -/
def Condition.truth (fields : Fields Json) (c : Condition) : Truth :=
  let value := (Fields.get? c.lookupPath fields).getD .null
  if c.negated then (c.operator.truth value c.operand).not
  else c.operator.truth value c.operand

/-- A negated comparison meets a null. -/
def Condition.OverlooksNull (fields : Fields Json) (c : Condition) : Prop :=
  c.negated = true ∧ c.operator ≠ .is ∧ Fields.get? c.lookupPath fields = some .null

/-- A filter as it is written: conditions, negations, and groups with at
least one member. -/
inductive Formula where
  | condition (c : Condition)
  | not (formula : Formula)
  | anyOf (first : Formula) (rest : List Formula)
  | allOf (first : Formula) (rest : List Formula)

namespace Formula

mutual

/-- The filter with its negations carried down to the conditions. -/
def tree : Formula → FilterTree
  | condition c => .condition c
  | not formula => formula.tree.negate
  | anyOf first rest => .anyOf (first.tree :: treesOf rest)
  | allOf first rest => .allOf (first.tree :: treesOf rest)

def treesOf : List Formula → List FilterTree
  | [] => []
  | formula :: rest => formula.tree :: treesOf rest

end

mutual

/-- The three-valued evaluation on a row. -/
def truth (fields : Fields Json) : Formula → Truth
  | condition c => c.truth fields
  | not formula => (formula.truth fields).not
  | anyOf first rest => .any (first.truth fields :: truthsOf fields rest)
  | allOf first rest => .all (first.truth fields :: truthsOf fields rest)

def truthsOf (fields : Fields Json) : List Formula → List Truth
  | [] => []
  | formula :: rest => formula.truth fields :: truthsOf fields rest

end

theorem treesOf_eq_map (group : List Formula) : treesOf group = group.map tree := by
  induction group with
  | nil => rfl
  | cons formula rest ih => rw [treesOf, ih, List.map_cons]

theorem truthsOf_eq_map (fields : Fields Json) (group : List Formula) :
    truthsOf fields group = group.map (truth fields) := by
  induction group with
  | nil => rfl
  | cons formula rest ih => rw [truthsOf, ih, List.map_cons]

theorem tree_anyOf (first : Formula) (rest : List Formula) :
    (anyOf first rest).tree = .anyOf ((first :: rest).map tree) := by
  rw [tree, treesOf_eq_map, List.map_cons]

theorem tree_allOf (first : Formula) (rest : List Formula) :
    (allOf first rest).tree = .allOf ((first :: rest).map tree) := by
  rw [tree, treesOf_eq_map, List.map_cons]

theorem truth_anyOf (fields : Fields Json) (first : Formula) (rest : List Formula) :
    (anyOf first rest).truth fields = .any ((first :: rest).map (truth fields)) := by
  rw [truth, truthsOf_eq_map, List.map_cons]

theorem truth_allOf (fields : Fields Json) (first : Formula) (rest : List Formula) :
    (allOf first rest).truth fields = .all ((first :: rest).map (truth fields)) := by
  rw [truth, truthsOf_eq_map, List.map_cons]

/-- A property of conditions that negations and groups take over. -/
@[elab_as_elim]
theorem memberInduction {motive : Formula → Prop}
    (condition : ∀ c, motive (.condition c))
    (not : ∀ formula, motive formula → motive (.not formula))
    (anyOf : ∀ first rest, (∀ formula ∈ first :: rest, motive formula) →
      motive (.anyOf first rest))
    (allOf : ∀ first rest, (∀ formula ∈ first :: rest, motive formula) →
      motive (.allOf first rest)) :
    (formula : Formula) → motive formula
  | .condition c => condition c
  | .not formula => not formula (memberInduction condition not anyOf allOf formula)
  | .anyOf first rest => anyOf first rest (List.forall_mem_cons.2
      ⟨memberInduction condition not anyOf allOf first,
        fun formula _ => memberInduction condition not anyOf allOf formula⟩)
  | .allOf first rest => allOf first rest (List.forall_mem_cons.2
      ⟨memberInduction condition not anyOf allOf first,
        fun formula _ => memberInduction condition not anyOf allOf formula⟩)

end Formula

/-! ## 3. Trees beside truth values -/

namespace FilterTree

@[simp] theorem negate_condition (c : Condition) :
    (condition c).negate = condition c.negate := by
  rw [negate]

theorem negate_anyOf (group : List FilterTree) :
    (anyOf group).negate = allOf (group.map negate) := by
  rw [negate, negateAll_eq_map]

theorem negate_allOf (group : List FilterTree) :
    (allOf group).negate = anyOf (group.map negate) := by
  rw [negate, negateAll_eq_map]

@[simp] theorem negate_negate (filter : FilterTree) : filter.negate.negate = filter := by
  have hgroup : ∀ group : List FilterTree, (∀ filter ∈ group, filter.negate.negate = filter) →
      (group.map negate).map negate = group := by
    intro group ih
    rw [List.map_map]
    exact (List.map_congr_left ih).trans (List.map_id group)
  induction filter using memberInduction with
  | condition c => simp
  | anyOf group ih => rw [negate_anyOf, negate_allOf, hgroup group ih]
  | allOf group ih => rw [negate_allOf, negate_anyOf, hgroup group ih]

/-- The filter accepts a row of which the truth value says yes and rejects
one of which it says no.  It accepts no other, unless a condition overlooks
a null. -/
structure Judges (fields : Fields Json) (filter : FilterTree) (truth : Truth) : Prop where
  accepts_of_yes : truth = .yes → filter.accepts (.obj fields) = true
  rejects_of_no : truth = .no → filter.accepts (.obj fields) = false
  yes_of_accepts : filter.accepts (.obj fields) = true →
    truth = .yes ∨ ∃ c ∈ filter.conditions, c.OverlooksNull fields

section

variable {fields : Fields Json} {α : Type} {group : List α} {tree : α → FilterTree}
  {truth : α → Truth}

theorem Judges.anyOf (hne : group ≠ []) (h : ∀ a ∈ group, (tree a).Judges fields (truth a)) :
    (FilterTree.anyOf (group.map tree)).Judges fields (.any (group.map truth)) := by
  have haccepts : (FilterTree.anyOf (group.map tree)).accepts (.obj fields) = true ↔
      ∃ a ∈ group, (tree a).accepts (.obj fields) = true := by
    simp [hne]
  refine ⟨fun hyes => ?_, fun hno => ?_, fun hrow => ?_⟩
  · obtain ⟨a, hmem, ha⟩ := List.mem_map.1 (Truth.any_eq_yes_iff.1 hyes)
    exact haccepts.2 ⟨a, hmem, (h a hmem).accepts_of_yes ha⟩
  · rw [Bool.eq_false_iff, ne_eq, haccepts]
    rintro ⟨a, hmem, ha⟩
    have hno := Truth.any_eq_no_iff.1 hno (truth a) (List.mem_map_of_mem hmem)
    rw [(h a hmem).rejects_of_no hno] at ha
    contradiction
  · obtain ⟨a, hmem, ha⟩ := haccepts.1 hrow
    rcases (h a hmem).yes_of_accepts ha with hyes | ⟨c, hc, hnull⟩
    · exact Or.inl (Truth.any_eq_yes_iff.2 (List.mem_map.2 ⟨a, hmem, hyes⟩))
    · exact Or.inr ⟨c, mem_conditions_anyOf (List.mem_map_of_mem hmem) hc, hnull⟩

theorem Judges.allOf (h : ∀ a ∈ group, (tree a).Judges fields (truth a)) :
    (FilterTree.allOf (group.map tree)).Judges fields (.all (group.map truth)) := by
  have haccepts : (FilterTree.allOf (group.map tree)).accepts (.obj fields) = true ↔
      ∀ a ∈ group, (tree a).accepts (.obj fields) = true := by
    simp
  refine ⟨fun hyes => ?_, fun hno => ?_, fun hrow => ?_⟩
  · have hyes := Truth.all_eq_yes_iff.1 hyes
    exact haccepts.2 fun a hmem =>
      (h a hmem).accepts_of_yes (hyes (truth a) (List.mem_map_of_mem hmem))
  · obtain ⟨a, hmem, ha⟩ := List.mem_map.1 (Truth.all_eq_no_iff.1 hno)
    rw [Bool.eq_false_iff, ne_eq, haccepts]
    intro hall
    have hrejects := (h a hmem).rejects_of_no ha
    rw [hall a hmem] at hrejects
    contradiction
  · have hrow := haccepts.1 hrow
    by_cases hnull : ∃ a ∈ group, ∃ c ∈ (tree a).conditions, c.OverlooksNull fields
    · obtain ⟨a, hmem, c, hc, hnull⟩ := hnull
      exact Or.inr ⟨c, mem_conditions_allOf (List.mem_map_of_mem hmem) hc, hnull⟩
    · refine Or.inl (Truth.all_eq_yes_iff.2 (List.forall_mem_map.2 fun a hmem => ?_))
      exact ((h a hmem).yes_of_accepts (hrow a hmem)).resolve_right fun hc =>
        hnull ⟨a, hmem, hc⟩

end

end FilterTree

/-! ## 4. Conditions beside truth values -/

namespace FilterOperator

variable {op : FilterOperator}

theorem accepts_null (hop : op ≠ .is) (operand : Json) : op.accepts .null operand = false := by
  unfold accepts
  rw [if_pos (by simpa [Json.isNull] using hop)]

theorem truth_null (hop : op ≠ .is) (operand : Json) : op.truth .null operand = .unknown := by
  rw [truth, if_pos (by simpa [Json.isNull] using hop)]

theorem truth_eq_ofBool {value : Json} (h : value = .null → op = .is) (operand : Json) :
    op.truth value operand = .ofBool (op.accepts value operand) := by
  refine if_neg fun hnull => ?_
  rw [Bool.and_eq_true, bne_iff_ne] at hnull
  cases value <;> first | exact hnull.2 (h rfl) | exact absurd hnull.1 (by simp [Json.isNull])

end FilterOperator

namespace Condition

variable {c : Condition} {fields : Fields Json} {value : Json}

theorem accepts_of_get? (h : Fields.get? c.lookupPath fields = some value) :
    c.accepts (.obj fields) = (c.operator.accepts value c.operand != c.negated) := by
  rw [accepts, found, values, RowPath.values_of_get? h]
  simp

theorem truth_of_null (h : Fields.get? c.lookupPath fields = some .null)
    (hop : c.operator ≠ .is) : c.truth fields = .unknown := by
  rw [truth, h, Option.getD_some, FilterOperator.truth_null hop]
  split <;> rfl

theorem truth_of_get? (h : Fields.get? c.lookupPath fields = some value)
    (hnull : value = .null → c.operator = .is) :
    c.truth fields = .ofBool (c.accepts (.obj fields)) := by
  rw [truth, h, Option.getD_some, FilterOperator.truth_eq_ofBool hnull, accepts_of_get? h]
  cases c.negated <;> cases c.operator.accepts value c.operand <;> rfl

/-- A null that is overlooked is accepted although nothing is known of it. -/
theorem OverlooksNull.accepts (h : c.OverlooksNull fields) : c.accepts (.obj fields) = true := by
  obtain ⟨hnegated, hop, hget⟩ := h
  rw [accepts_of_get? hget, FilterOperator.accepts_null hop, hnegated]
  rfl

theorem OverlooksNull.truth (h : c.OverlooksNull fields) : c.truth fields = .unknown :=
  truth_of_null h.2.2 h.2.1

theorem judges (h : Fields.get? c.lookupPath fields = some value) :
    (FilterTree.condition c).Judges fields (c.truth fields) := by
  by_cases hnull : value = .null → c.operator = .is
  · have htruth := truth_of_get? h hnull
    rcases haccepts : c.accepts (.obj fields) with _ | _
    · rw [haccepts] at htruth
      exact ⟨by simp [htruth, Truth.ofBool], fun _ => haccepts, by simp [haccepts]⟩
    · rw [haccepts] at htruth
      exact ⟨fun _ => haccepts, by simp [htruth, Truth.ofBool], fun _ => Or.inl htruth⟩
  · rw [Classical.not_imp] at hnull
    obtain ⟨rfl, hop⟩ := hnull
    have htruth := truth_of_null h hop
    refine ⟨by simp [htruth], by simp [htruth], fun haccepts => Or.inr ⟨c, by simp, ?_, hop, h⟩⟩
    rw [FilterTree.accepts_condition, accepts_of_get? h, FilterOperator.accepts_null hop,
      Bool.false_bne] at haccepts
    exact haccepts

theorem truth_negate (c : Condition) (fields : Fields Json) :
    c.negate.truth fields = (c.truth fields).not := by
  have hpath : c.negate.lookupPath = c.lookupPath := rfl
  rw [truth, truth, hpath]
  cases hneg : c.negated <;> simp [negate, hneg]

end Condition

/-! ## 5. Formulas beside their trees -/

theorem FilterTree.conditions_negate (filter : FilterTree) :
    filter.negate.conditions = filter.conditions.map Condition.negate := by
  induction filter using memberInduction with
  | condition c => simp
  | anyOf group ih =>
    rw [negate_anyOf, conditions_allOf, conditions_anyOf, List.flatMap_map, List.map_flatMap]
    exact List.flatMap_congr ih
  | allOf group ih =>
    rw [negate_allOf, conditions_anyOf, conditions_allOf, List.flatMap_map, List.map_flatMap]
    exact List.flatMap_congr ih

/-- The row has the columns of all conditions. -/
def FilterTree.HasColumns (fields : Fields Json) (filter : FilterTree) : Prop :=
  ∀ c ∈ filter.conditions, ∃ value, Fields.get? c.lookupPath fields = some value

theorem FilterTree.HasColumns.of_negate {fields : Fields Json} {filter : FilterTree}
    (h : filter.negate.HasColumns fields) : filter.HasColumns fields := by
  intro c hc
  have hnegate : c.negate ∈ filter.negate.conditions := by
    rw [FilterTree.conditions_negate]
    exact List.mem_map_of_mem hc
  exact h c.negate hnegate

namespace Formula

/-- A formula and its negation agree with their trees, but for the nulls
that are overlooked. -/
theorem judges {fields : Fields Json} (formula : Formula)
    (hcolumns : formula.tree.HasColumns fields) :
    formula.tree.Judges fields (formula.truth fields) ∧
      formula.tree.negate.Judges fields (formula.truth fields).not := by
  induction formula using memberInduction with
  | condition c =>
    obtain ⟨value, hvalue⟩ := hcolumns c (by simp [tree])
    rw [tree, truth, FilterTree.negate_condition, ← Condition.truth_negate]
    have hnegate : Fields.get? c.negate.lookupPath fields = some value := hvalue
    exact ⟨Condition.judges hvalue, Condition.judges hnegate⟩
  | not formula ih =>
    rw [tree] at hcolumns
    rw [tree, truth, FilterTree.negate_negate, Truth.not_not]
    exact (ih hcolumns.of_negate).symm
  | anyOf first rest ih =>
    have hmember : ∀ formula ∈ first :: rest, formula.tree.HasColumns fields := by
      intro formula hmem c hc
      rw [tree_anyOf] at hcolumns
      exact hcolumns c (FilterTree.mem_conditions_anyOf (List.mem_map_of_mem hmem) hc)
    rw [tree_anyOf, truth_anyOf, FilterTree.negate_anyOf, Truth.not_any, List.map_map,
      List.map_map]
    exact ⟨FilterTree.Judges.anyOf (List.cons_ne_nil _ _) fun formula hmem =>
        (ih formula hmem (hmember formula hmem)).1,
      FilterTree.Judges.allOf fun formula hmem => (ih formula hmem (hmember formula hmem)).2⟩
  | allOf first rest ih =>
    have hmember : ∀ formula ∈ first :: rest, formula.tree.HasColumns fields := by
      intro formula hmem c hc
      rw [tree_allOf] at hcolumns
      exact hcolumns c (FilterTree.mem_conditions_allOf (List.mem_map_of_mem hmem) hc)
    rw [tree_allOf, truth_allOf, FilterTree.negate_allOf, Truth.not_all, List.map_map,
      List.map_map]
    exact ⟨FilterTree.Judges.allOf fun formula hmem =>
        (ih formula hmem (hmember formula hmem)).1,
      FilterTree.Judges.anyOf (List.cons_ne_nil _ _) fun formula hmem =>
        (ih formula hmem (hmember formula hmem)).2⟩

/-- The conditions of a formula's tree are of some kind. -/
def IsOver (kind : Condition → Prop) (formula : Formula) : Prop :=
  ∀ c ∈ formula.tree.conditions, kind c

/-- On a row that has the columns of some conditions, every formula over
these accepts what is true and accepts nothing that is false.  It accepts
just what is true, for all of the formulas, exactly when none of the
conditions is a negated comparison with a null. -/
theorem accepts_tree_iff_truth {fields : Fields Json} {kind : Condition → Prop}
    (hcolumns : ∀ c, kind c → ∃ value, Fields.get? c.lookupPath fields = some value) :
    (∀ formula : Formula, formula.IsOver kind →
      (formula.truth fields = .yes → formula.tree.accepts (.obj fields) = true) ∧
      (formula.truth fields = .no → formula.tree.accepts (.obj fields) = false)) ∧
    ((∀ formula : Formula, formula.IsOver kind →
        (formula.tree.accepts (.obj fields) = true ↔ formula.truth fields = .yes)) ↔
      ∀ c, kind c → ¬ c.OverlooksNull fields) := by
  have hjudges : ∀ formula : Formula, formula.IsOver kind →
      formula.tree.Judges fields (formula.truth fields) :=
    fun formula hover => (formula.judges fun c hc => hcolumns c (hover c hc)).1
  refine ⟨fun formula hover => ⟨(hjudges formula hover).accepts_of_yes,
    (hjudges formula hover).rejects_of_no⟩, fun hiff c hc hnull => ?_,
    fun hnone formula hover => ⟨fun haccepts => ?_, (hjudges formula hover).accepts_of_yes⟩⟩
  · have hover : (condition c).IsOver kind := by
      intro d hd
      rw [tree, FilterTree.conditions_condition, List.mem_singleton] at hd
      rwa [hd]
    have hyes := (hiff _ hover).1 (by rw [tree, FilterTree.accepts_condition, hnull.accepts])
    rw [truth, hnull.truth] at hyes
    contradiction
  · rcases (hjudges formula hover).yes_of_accepts haccepts with hyes | ⟨c, hc, hnull⟩
    · exact hyes
    · exact absurd hnull (hnone c (hover c hc))

/-- Open, or ranked. -/
def openOrRanked : Formula :=
  .anyOf (.condition { path := "status".toList, operator := .eq, operand := .str "open".toList })
    [.not (.condition { path := "rank".toList, operator := .is, operand := .null })]

/-- A row without a status is open or ranked by its rank. -/
theorem accepts_tree_openOrRanked :
    let fields : Fields Json := [("rank".toList, .ofNat 2), ("status".toList, .null)]
    let kind : Condition → Prop := fun c => c ∈ openOrRanked.tree.conditions
    (∀ c, kind c → ∃ value, Fields.get? c.lookupPath fields = some value) ∧
      (∀ c, kind c → ¬ c.OverlooksNull fields) ∧ openOrRanked.IsOver kind ∧
      (openOrRanked.tree.accepts (.obj fields) = true ↔ openOrRanked.truth fields = .yes) := by
  intro fields kind
  have hcolumns : ∀ c, kind c → ∃ value, Fields.get? c.lookupPath fields = some value := by
    have hall : ∀ c ∈ openOrRanked.tree.conditions,
        (Fields.get? c.lookupPath fields).isSome = true := by decide +kernel
    exact fun c hc => Option.isSome_iff_exists.1 (hall c hc)
  have hnone : ∀ c, kind c → ¬ c.OverlooksNull fields := by
    unfold Condition.OverlooksNull
    decide +kernel
  have hover : openOrRanked.IsOver kind := fun c hc => hc
  exact ⟨hcolumns, hnone, hover, (accepts_tree_iff_truth hcolumns).2.2 hnone openOrRanked hover⟩

/-- A row without a status is accepted as one that is not open. -/
theorem notOpen_accepts_null :
    let fields : Fields Json := [("status".toList, .null)]
    let notOpen : Formula := .not (.condition
      { path := "status".toList, operator := .eq, operand := .str "open".toList })
    notOpen.tree.accepts (.obj fields) = true ∧ notOpen.truth fields = .unknown := by
  decide +kernel

end Formula
end QueryCache
