/-
QueryCache.Proofs.TotalOrder — the columns that sorting puts in one order.

Two values are compared by a rule of their own: numbers by value, texts by
time or by their characters, values of other types by these types.  Where
the kinds of the values are unmixed the rules fit together: values of
different types are compared by their types, values of one type by one
rule (`compareKinds_eq`).  Where they are mixed, some three values turn in
a circle (`unmixed_of_total`).  Rows are compared key by key, so they are
in one order when every column by which they are sorted is unmixed, and
then the search for the place of a row finds it (`sortOrder_total_iff`).
-/
import QueryCache.Proofs.SortKinds
import QueryCache.Proofs.SortOrder

namespace QueryCache

theorem compare_ne_gt_trans {α : Type} [Ord α] [Std.TransOrd α] {a b c : α}
    (hab : compare a b ≠ .gt) (hbc : compare b c ≠ .gt) : compare a c ≠ .gt :=
  Ordering.isLE_iff_ne_gt.1 (Std.TransCmp.isLE_trans (Ordering.isLE_iff_ne_gt.2 hab)
    (Ordering.isLE_iff_ne_gt.2 hbc))

theorem then_ne_gt_iff {x y : Ordering} :
    x.then y ≠ .gt ↔ x = .lt ∨ (x = .eq ∧ y ≠ .gt) := by
  cases x <;> simp

/-- An order that breaks the ties of a total preorder is transitive where it
is on the ties. -/
theorem TotalPreorderOn.then_trans {α : Type} {order ties : α → α → Ordering} {p : α → Prop}
    (h : TotalPreorderOn order p) (hswap : ∀ a b, order a b = (order b a).swap) {a b c : α}
    (ha : p a) (hb : p b) (hc : p c)
    (hties : order a b = .eq → order b c = .eq → ties a b ≠ .gt → ties b c ≠ .gt →
      ties a c ≠ .gt)
    (hab : (order a b).then (ties a b) ≠ .gt) (hbc : (order b c).then (ties b c) ≠ .gt) :
    (order a c).then (ties a c) ≠ .gt := by
  rw [then_ne_gt_iff] at hab hbc ⊢
  have hab' : order a b ≠ .gt := by rcases hab with hab | hab <;> simp [hab]
  have hbc' : order b c ≠ .gt := by rcases hbc with hbc | hbc <;> simp [hbc]
  have hac := h.trans a b c ha hb hc hab' hbc'
  rcases htie : order a c with _ | _ | _
  · exact Or.inl rfl
  · -- A tie from end to end is a tie at both steps.
    have hca : order c a ≠ .gt := by simp [hswap c a, htie]
    have hba := h.trans b c a hb hc ha hbc' hca
    have hcb := h.trans c a b hc ha hb hca hab'
    have hab_ne : order a b ≠ .lt := by
      rw [hswap a b, ne_eq, Ordering.swap_eq_lt]
      exact hba
    have hbc_ne : order b c ≠ .lt := by
      rw [hswap b c, ne_eq, Ordering.swap_eq_lt]
      exact hcb
    obtain ⟨hab, htie_ab⟩ := hab.resolve_left hab_ne
    obtain ⟨hbc, htie_bc⟩ := hbc.resolve_left hbc_ne
    exact Or.inr ⟨rfl, hties hab hbc htie_ab htie_bc⟩
  · exact absurd htie hac

namespace Comparison

/-! ## 1. Values of one JSON type -/

/-- The order of two values of one JSON type. -/
def compareAlike : Json → Json → Ordering
  | .bool a, .bool b => compare a b
  | .num m, .num n => compareFloat m.toFloat n.toFloat
  | .str s, .str t => compareTexts s t
  | .arr a, .arr b => compare (Json.arr a).write (Json.arr b).write
  | .obj a, .obj b => compare (Json.obj a).write (Json.obj b).write
  | _, _ => .eq

section

variable {kinds : SortKind → Prop} (h : SortKind.Unmixed kinds)
include h

/-- Texts of unmixed kinds are all compared by time, or all by their
characters. -/
theorem compareTexts_trans {s t u : Text} (hs : kinds (.ofText s)) (ht : kinds (.ofText t))
    (hu : kinds (.ofText u)) (hst : compareTexts s t ≠ .gt) (htu : compareTexts t u ≠ .gt) :
    compareTexts s u ≠ .gt := by
  by_cases htime : kinds .time
  · have hread : ∀ text, kinds (.ofText text) → ∃ time, Timestamp.read text = some time := by
      intro text htext
      rcases hnone : Timestamp.read text with _ | time
      · rcases SortKind.ofText_of_not_read hnone with hkind | hkind <;> rw [hkind] at htext
        · exact absurd htext (h.times htime).1
        · exact absurd htext (h.times htime).2
      · exact ⟨time, rfl⟩
    obtain ⟨x, hx⟩ := hread s hs
    obtain ⟨y, hy⟩ := hread t ht
    obtain ⟨z, hz⟩ := hread u hu
    simp only [compareTexts, hx, hy, hz] at hst htu ⊢
    exact compare_ne_gt_trans hst htu
  · have hread : ∀ text, kinds (.ofText text) → Timestamp.read text = none := by
      intro text htext
      rcases hsome : Timestamp.read text with _ | time
      · rfl
      · rw [SortKind.ofText_of_read hsome] at htext
        exact absurd htext htime
    simp only [compareTexts, hread s hs, hread t ht, hread u hu] at hst htu ⊢
    exact compare_ne_gt_trans hst htu

theorem compareAlike_trans {a b c : Json} (ha : kinds a.sortKind) (hb : kinds b.sortKind)
    (hc : kinds c.sortKind) (hrank : kindRank a = kindRank b) (hrank' : kindRank b = kindRank c)
    (hab : compareAlike a b ≠ .gt) (hbc : compareAlike b c ≠ .gt) : compareAlike a c ≠ .gt := by
  cases a <;> cases b <;> simp only [kindRank, reduceCtorEq, Nat.reduceEqDiff] at hrank <;>
    cases c <;> simp only [kindRank, reduceCtorEq, Nat.reduceEqDiff] at hrank'
  case str.str.str s t u => exact compareTexts_trans h ha hb hc hab hbc
  case null.null.null => simp [compareAlike]
  all_goals exact compare_ne_gt_trans hab hbc

/-! ## 2. Values of any type -/

/-- Values of unmixed kinds are compared by their types first. -/
theorem compareKinds_eq {a b : Json} (ha : kinds a.sortKind) (hb : kinds b.sortKind) :
    compareKinds a b = (compare (kindRank a) (kindRank b)).then (compareAlike a b) := by
  have hnumber : ∀ {m text}, kinds (Json.num m).sortKind → kinds (Json.str text).sortKind →
      numberForm? text = none := by
    intro m text hm htext
    refine SortKind.numberForm?_of_ofText_ne fun hnumeral => ?_
    rw [Json.sortKind, hnumeral] at htext
    exact h.numbers hm htext
  unfold compareKinds
  cases a <;> cases b
  case num.str m text => simp only [compare?, float?, hnumber ha hb, kindRank, Option.map_none]; rfl
  case str.num text m => simp only [compare?, float?, hnumber hb ha, kindRank, Option.map_none]; rfl
  all_goals simp [compare?, float?, compareAlike, kindRank]

theorem compareKinds_trans {a b c : Json} (ha : kinds a.sortKind) (hb : kinds b.sortKind)
    (hc : kinds c.sortKind) (hab : compareKinds a b ≠ .gt) (hbc : compareKinds b c ≠ .gt) :
    compareKinds a c ≠ .gt := by
  rw [compareKinds_eq h ha hb] at hab
  rw [compareKinds_eq h hb hc] at hbc
  rw [compareKinds_eq h ha hc]
  have hranks : TotalPreorderOn (fun a b => compare (kindRank a) (kindRank b)) fun _ => True :=
    .of_swap (fun _ _ => Std.OrientedOrd.eq_swap) fun _ _ _ _ _ _ => compare_ne_gt_trans
  refine hranks.then_trans (fun _ _ => Std.OrientedOrd.eq_swap) trivial trivial trivial ?_ hab hbc
  intro hrank hrank'
  exact compareAlike_trans h ha hb hc (Std.LawfulEqOrd.eq_of_compare hrank)
    (Std.LawfulEqOrd.eq_of_compare hrank')

end

/-! ## 3. Sorting -/

/-- Nulls go to one end, the other values are compared as they are. -/
theorem totalPreorderOn_sortOrder {ascending nullsFirst : Bool} {p : Json → Prop}
    (h : ∀ a b c, p a → p b → p c → compareKinds a b ≠ .gt → compareKinds b c ≠ .gt →
      compareKinds a c ≠ .gt) :
    TotalPreorderOn (sortOrder ascending nullsFirst) p := by
  refine .of_swap (sortOrder_swap _ _) ?_
  intro a b c ha hb hc
  have hforward := h a b c ha hb hc
  have hbackward := h c b a hc hb ha
  rw [compareKinds_swap c b, compareKinds_swap b a, compareKinds_swap c a] at hbackward
  unfold sortOrder
  rcases a.isNull with _ | _ <;> rcases b.isNull with _ | _ <;> rcases c.isNull with _ | _ <;>
    cases ascending <;> cases nullsFirst <;> simp_all

/-- Values among which the order is total are ordered from end to end, in
either direction. -/
theorem compareKinds_ne_gt_of_total {ascending nullsFirst : Bool} {p : Json → Prop}
    (h : TotalPreorderOn (sortOrder ascending nullsFirst) p) {a b c : Json} (ha : p a) (hb : p b)
    (hc : p c) (hnull : a.isNull = false ∧ b.isNull = false ∧ c.isNull = false)
    (hab : compareKinds a b ≠ .gt) (hbc : compareKinds b c ≠ .gt) : compareKinds a c ≠ .gt := by
  cases ascending with
  | true => simpa [sortOrder, hnull, hab, hbc] using h.trans a b c ha hb hc
  | false =>
    rw [compareKinds_swap a b] at hab
    rw [compareKinds_swap b c] at hbc
    rw [compareKinds_swap a c]
    simpa [sortOrder, hnull, hab, hbc] using h.trans c b a hc hb ha

/-- Numbers and texts that write numbers turn in a circle, and so do points
in time and other texts. -/
theorem unmixed_of_total {ascending nullsFirst : Bool} {kinds : SortKind → Prop}
    (h : TotalPreorderOn (sortOrder ascending nullsFirst) fun value => kinds value.sortKind) :
    SortKind.Unmixed kinds := by
  have hcircle : ∀ a b c : Json, kinds a.sortKind → kinds b.sortKind → kinds c.sortKind →
      (a.isNull = false ∧ b.isNull = false ∧ c.isNull = false) ∧ compareKinds a b ≠ .gt ∧
        compareKinds b c ≠ .gt ∧ compareKinds a c = .gt → False := by
    rintro a b c ha hb hc ⟨hnull, hab, hbc, hac⟩
    exact compareKinds_ne_gt_of_total h ha hb hc hnull hab hbc hac
  have hkind : ∀ {value : Json} {kind : SortKind}, value.sortKind = kind → kinds kind →
      kinds value.sortKind := by
    rintro value kind rfl hkind
    exact hkind
  have htime : (Json.str "2024-01-01".toList).sortKind = .time ∧
      (Json.str "2023-12-31T23:00:00-05:00".toList).sortKind = .time := by decide +kernel
  constructor
  · intro hnumber hnumeral
    exact hcircle (.str "10".toList) (.str "9".toList) (.ofNat 9)
      (hkind (by decide +kernel) hnumeral) (hkind (by decide +kernel) hnumeral) hnumber
      (by decide +kernel)
  · intro hpoint
    constructor
    · intro hnumeral
      exact hcircle (.str "2023-12-31T23:00:00-05:00".toList) (.str "2024".toList)
        (.str "2024-01-01".toList) (hkind htime.2 hpoint) (hkind (by decide +kernel) hnumeral)
        (hkind htime.1 hpoint) (by decide +kernel)
    · intro htext
      exact hcircle (.str "2023-12-31T23:00:00-05:00".toList) (.str "2024 Q1".toList)
        (.str "2024-01-01".toList) (hkind htime.2 hpoint) (hkind (by decide +kernel) htext)
        (hkind htime.1 hpoint) (by decide +kernel)

end Comparison

/-! ## 4. Rows -/

theorem TotalPreorderOn.comap {α β : Type} {order : β → β → Ordering} {p : β → Prop}
    (h : TotalPreorderOn order p) (f : α → β) :
    TotalPreorderOn (fun a b => order (f a) (f b)) fun a => p (f a) where
  total a b := h.total (f a) (f b)
  trans a b c := h.trans (f a) (f b) (f c)

/-- Rows that every sort key orders are ordered by all keys together. -/
theorem totalPreorderOn_compareRows {keys : List SortKey} {p : Json → Prop}
    (h : ∀ key ∈ keys, TotalPreorderOn key.compareRows p) :
    TotalPreorderOn (compareRows keys) p := by
  induction keys with
  | nil => exact ⟨fun _ _ _ _ => Or.inl (by simp), fun _ _ _ _ _ _ _ _ => by simp⟩
  | cons key rest ih =>
    have hrest := ih fun other hother => h other (List.mem_cons_of_mem _ hother)
    refine .of_swap (compareRows_swap _) fun a b c ha hb hc => ?_
    exact (h key List.mem_cons_self).then_trans
      (fun _ _ => Comparison.sortOrder_swap _ _ _ _) ha hb hc
      fun _ _ => hrest.trans a b c ha hb hc

/-- The columns of the row by which it is sorted hold values of the kinds
that each may hold. -/
def HasSortKinds (kinds : SortKey → SortKind → Prop) (keys : List SortKey) (row : Json) : Prop :=
  ∀ key ∈ keys, kinds key (key.value row).sortKind

theorem totalPreorderOn_hasSortKinds {kinds : SortKey → SortKind → Prop} {keys : List SortKey}
    (h : ∀ key ∈ keys, SortKind.Unmixed (kinds key)) :
    TotalPreorderOn (compareRows keys) (HasSortKinds kinds keys) := by
  refine totalPreorderOn_compareRows fun key hkey => ?_
  have hvalues := @Comparison.totalPreorderOn_sortOrder key.ascending key.nullsFirst
    (fun value => kinds key value.sortKind) fun a b c =>
      Comparison.compareKinds_trans (h key hkey)
  exact (hvalues.comap key.value).mono fun row hrow => hrow key hkey

/-- Comparing values the other way round gives the opposite answer.  The
values that a column may hold are in one order exactly when their kinds are
unmixed.  Rows whose columns are unmixed are then in one order too, by any
sort keys, and a row has one place in every ordered list of them. -/
theorem sortOrder_total_iff (kinds : SortKey → SortKind → Prop) (keys : List SortKey) :
    (∀ ascending nullsFirst a b, Comparison.sortOrder ascending nullsFirst a b =
      (Comparison.sortOrder ascending nullsFirst b a).swap) ∧
    (∀ key ascending nullsFirst,
      TotalPreorderOn (Comparison.sortOrder ascending nullsFirst)
        (fun value => kinds key value.sortKind) ↔ SortKind.Unmixed (kinds key)) ∧
    ((∀ key ∈ keys, SortKind.Unmixed (kinds key)) →
      TotalPreorderOn (compareRows keys) (HasSortKinds kinds keys) ∧
      ∀ row rows, HasSortKinds kinds keys row → (∀ other ∈ rows, HasSortKinds kinds keys other) →
        InOrder keys rows →
        ∃ front back, rows = front ++ back ∧ orderedPlace keys row rows = front.length ∧
          (∀ other ∈ front, compareRows keys other row ≠ .gt) ∧
          ∀ other ∈ back, compareRows keys other row = .gt) := by
  refine ⟨Comparison.sortOrder_swap, fun key ascending nullsFirst => ?_, fun h => ?_⟩
  · exact ⟨Comparison.unmixed_of_total, fun h =>
      Comparison.totalPreorderOn_sortOrder fun a b c => Comparison.compareKinds_trans h⟩
  · have horder := totalPreorderOn_hasSortKinds h
    refine ⟨horder, fun row rows hrow hrows hsorted => ?_⟩
    exact exists_split_orderedPlace hsorted fun a ha b hb =>
      horder.trans a b row (hrows a ha) (hrows b hb) hrow

/-- A task with the time when it is due and a rank. -/
def task (due : Text) (rank : Int) : Json :=
  .obj [("due".toList, .str due), ("rank".toList, .num (.int rank))]

/-- Tasks by the time when they are due, of those the higher rank first. -/
def taskKeys : List SortKey :=
  [.asc "due".toList, .desc "rank".toList]

/-- Points in time in the one column, numbers in the other. -/
def taskKinds (key : SortKey) (kind : SortKind) : Prop :=
  kind = if key.column = "due".toList then .time else .number

theorem unmixed_taskKinds (key : SortKey) : SortKind.Unmixed (taskKinds key) := by
  unfold taskKinds
  constructor <;> split <;> simp

/-- A task has its place between those that are due at the same time. -/
theorem sortOrder_total_tasks :
    let tasks := [task "2024-01-01T10:00:00+01:00".toList 3, task "2024-01-01T09:00:00Z".toList 1]
    (∀ key ∈ taskKeys, SortKind.Unmixed (taskKinds key)) ∧
      HasSortKinds taskKinds taskKeys (task "2024-01-01 9:00:00".toList 2) ∧
      (∀ other ∈ tasks, HasSortKinds taskKinds taskKeys other) ∧ InOrder taskKeys tasks ∧
      ∃ front back, tasks = front ++ back ∧
        orderedPlace taskKeys (task "2024-01-01 9:00:00".toList 2) tasks = front.length ∧
        (∀ other ∈ front,
          compareRows taskKeys other (task "2024-01-01 9:00:00".toList 2) ≠ .gt) ∧
        ∀ other ∈ back,
          compareRows taskKeys other (task "2024-01-01 9:00:00".toList 2) = .gt := by
  intro tasks
  have hrow : HasSortKinds taskKinds taskKeys (task "2024-01-01 9:00:00".toList 2) := by
    unfold HasSortKinds taskKinds
    decide +kernel
  have hrows : ∀ other ∈ tasks, HasSortKinds taskKinds taskKeys other := by
    unfold HasSortKinds taskKinds
    decide +kernel
  have hsorted : InOrder taskKeys tasks := by
    unfold InOrder
    decide +kernel
  have hunmixed : ∀ key ∈ taskKeys, SortKind.Unmixed (taskKinds key) :=
    fun key _ => unmixed_taskKinds key
  exact ⟨hunmixed, hrow, hrows, hsorted,
    ((sortOrder_total_iff taskKinds taskKeys).2.2 hunmixed).2 _ tasks hrow hrows hsorted⟩

/-- The text 10 comes before the text 9, which is level with the number 9,
and comes after that number. -/
theorem numerals_in_circle :
    Comparison.sortOrder true false (.str "10".toList) (.str "9".toList) = .lt ∧
      Comparison.sortOrder true false (.str "9".toList) (.ofNat 9) = .eq ∧
      Comparison.sortOrder true false (.str "10".toList) (.ofNat 9) = .gt := by
  decide +kernel

end QueryCache
