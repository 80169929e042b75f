/-
QueryCache.Proofs.SortOrder — the order of rows read backwards.

Comparing two rows the other way round gives the opposite answer
(`compareRows_swap`), for any sort keys and any values.  An order that is
strict on some rows is therefore a total preorder on them, and rows that
are in order and compare equal to none of the others stand in one order
only.
-/
import QueryCache.Proofs.OrderedRows
import QueryCache.Proofs.SameComparison

namespace QueryCache

instance : Std.TransOrd Timestamp :=
  inferInstanceAs (Std.TransCmp
    (compareLex (compareOn Timestamp.seconds) (compareOn Timestamp.nanos)))

namespace Comparison

/-! ## 1. Values -/

theorem compareTexts_swap (s t : Text) : compareTexts s t = (compareTexts t s).swap := by
  unfold compareTexts
  rcases Timestamp.read s with _ | x <;> rcases Timestamp.read t with _ | y <;>
    exact Std.OrientedOrd.eq_swap

theorem compareNumbers_swap (a b : Json) :
    compareNumbers a b = (compareNumbers b a).map Ordering.swap := by
  unfold compareNumbers
  rcases float? a with _ | x <;> rcases float? b with _ | y
  · rfl
  · rfl
  · rfl
  · exact congrArg some Std.OrientedOrd.eq_swap

/-- A value that is no text and no boolean is compared as a number. -/
theorem compare?_text (text : Text) {b : Json} (h : ∀ t, b ≠ .str t) :
    compare? (.str text) b = compareNumbers (.str text) b ∧
      compare? b (.str text) = compareNumbers b (.str text) := by
  have hleft : ∀ c : Json, float? c = none →
      compareNumbers (.str text) c = none ∧ compareNumbers c (.str text) = none := by
    intro c hc
    constructor
    · unfold compareNumbers
      rw [hc]
      rcases float? (.str text) with _ | x <;> rfl
    · unfold compareNumbers
      rw [hc]
      rfl
  cases b with
  | str t => exact absurd rfl (h t)
  | num n =>
    refine ⟨?_, compare?_num n _⟩
    simp only [compare?, compareNumbers, float?]
    rcases numberForm? text with _ | form <;> rfl
  | null => exact ⟨((hleft .null rfl).1).symm, rfl⟩
  | bool x =>
    refine ⟨?_, rfl⟩
    rw [(hleft (.bool x) rfl).1]
    simp only [compare?, float?]
    rcases numberForm? text with _ | form <;> rfl
  | arr items =>
    refine ⟨?_, rfl⟩
    rw [(hleft (.arr items) rfl).1]
    simp only [compare?, float?]
    rcases numberForm? text with _ | form <;> rfl
  | obj fields =>
    refine ⟨?_, rfl⟩
    rw [(hleft (.obj fields) rfl).1]
    simp only [compare?, float?]
    rcases numberForm? text with _ | form <;> rfl

theorem compare?_swap (a b : Json) : compare? a b = (compare? b a).map Ordering.swap := by
  cases a with
  | bool x =>
    cases b with
    | bool y => exact congrArg some Std.OrientedOrd.eq_swap
    | str t =>
      rw [(compare?_text t (by simp)).1, (compare?_text t (by simp)).2]
      exact compareNumbers_swap _ _
    | num n =>
      rw [compare?_num]
      exact compareNumbers_swap (.bool x) (.num n)
    | _ => rfl
  | str s =>
    cases b with
    | str t => exact congrArg some (compareTexts_swap s t)
    | _ =>
      rw [(compare?_text s (by simp)).1, (compare?_text s (by simp)).2]
      exact compareNumbers_swap _ _
  | num m =>
    cases b with
    | str t =>
      rw [(compare?_text t (by simp)).1, (compare?_text t (by simp)).2]
      exact compareNumbers_swap _ _
    | num n =>
      rw [compare?_num, compare?_num]
      exact compareNumbers_swap _ _
    | _ => rfl
  | _ =>
    cases b with
    | str t =>
      rw [(compare?_text t (by simp)).1, (compare?_text t (by simp)).2]
      exact compareNumbers_swap _ _
    | _ => rfl

theorem compareKinds_swap (a b : Json) : compareKinds a b = (compareKinds b a).swap := by
  have hswap := compare?_swap a b
  unfold compareKinds
  rcases hba : compare? b a with _ | ordering
  · rw [hba] at hswap
    rw [hswap]
    cases a <;> cases b <;> exact Std.OrientedOrd.eq_swap
  · rw [hba] at hswap
    rw [hswap]
    rfl

theorem sortOrder_swap (ascending nullsFirst : Bool) (a b : Json) :
    sortOrder ascending nullsFirst a b = (sortOrder ascending nullsFirst b a).swap := by
  unfold sortOrder
  rcases a.isNull with _ | _ <;> rcases b.isNull with _ | _
  · cases ascending
    · exact congrArg Ordering.swap (compareKinds_swap a b)
    · exact compareKinds_swap a b
  · cases nullsFirst <;> rfl
  · cases nullsFirst <;> rfl
  · rfl

end Comparison

/-! ## 2. Rows -/

/-- Two rows compared the other way round. -/
theorem compareRows_swap (keys : List SortKey) (a b : Json) :
    compareRows keys a b = (compareRows keys b a).swap := by
  induction keys with
  | nil => rfl
  | cons key rest ih =>
    rw [compareRows_cons, compareRows_cons, Ordering.swap_then, ← ih]
    congr 1
    exact Comparison.sortOrder_swap _ _ _ _

/-- Any two different rows among those that satisfy `p` are ordered, and
chains of them are ordered from end to end. -/
structure StrictOrderOn (orderBy : List SortKey) (p : Json → Prop) : Prop where
  connected : ∀ a b, p a → p b → a ≠ b →
    compareRows orderBy a b = .lt ∨ compareRows orderBy b a = .lt
  trans : ∀ a b c, p a → p b → p c → compareRows orderBy a b = .lt →
    compareRows orderBy b c = .lt → compareRows orderBy a c = .lt

namespace StrictOrderOn

variable {orderBy : List SortKey} {p : Json → Prop} (h : StrictOrderOn orderBy p)
include h

theorem mono {q : Json → Prop} (hqp : ∀ a, q a → p a) : StrictOrderOn orderBy q where
  connected a b ha hb := h.connected a b (hqp a ha) (hqp b hb)
  trans a b c ha hb hc := h.trans a b c (hqp a ha) (hqp b hb) (hqp c hc)

/-- Rows that are not in strict order are equal or ordered the other way. -/
theorem eq_or_lt_of_ne_gt {a b : Json} (ha : p a) (hb : p b)
    (hab : compareRows orderBy a b ≠ .gt) : a = b ∨ compareRows orderBy a b = .lt := by
  by_cases heq : a = b
  · exact Or.inl heq
  · rcases h.connected a b ha hb heq with hlt | hgt
    · exact Or.inr hlt
    · rw [compareRows_swap, hgt] at hab
      exact absurd rfl hab

theorem totalPreorderOn : TotalPreorderOn (compareRows orderBy) p := by
  refine .of_swap (compareRows_swap _) fun a b c ha hb hc hab hbc => ?_
  rcases h.eq_or_lt_of_ne_gt ha hb hab with rfl | hlt
  · exact hbc
  · rcases h.eq_or_lt_of_ne_gt hb hc hbc with rfl | hlt'
    · exact hab
    · rw [h.trans a b c ha hb hc hlt hlt']
      decide

/-- Two ordered lists of the same rows are the same list. -/
theorem eq_of_perm {rows others : List Json} (hperm : rows.Perm others)
    (hp : ∀ row ∈ rows, p row) (hrows : InOrder orderBy rows) (hothers : InOrder orderBy others) :
    rows = others := by
  refine hperm.eq_of_pairwise ?_ hrows hothers
  intro a b ha hb hab hba
  rcases h.eq_or_lt_of_ne_gt (hp a ha) (hp b (hperm.mem_iff.2 hb)) hab with heq | hlt
  · exact heq
  · rw [compareRows_swap, hlt] at hba
    exact absurd rfl hba

end StrictOrderOn
end QueryCache
