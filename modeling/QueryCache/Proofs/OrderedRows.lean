/-
QueryCache.Proofs.OrderedRows — a row that enters an ordered list leaves
it ordered.

The halving search is right on a list that begins with all the rows that
do not come after the new one.  In an ordered list these do come first,
when the order is transitive; so the search cuts the list in two
(`exists_split_orderedPlace`), and the row stands between the parts in
order (`inOrder_insertIdx_place`).
-/
import Mathlib.Data.List.TakeWhile
import QueryCache.Cache.RowChange

namespace QueryCache

/-- No row comes before an earlier one. -/
def InOrder (keys : List SortKey) (rows : List Json) : Prop :=
  rows.Pairwise fun a b => compareRows keys a b ≠ .gt

/-- An order compares any two of the values that satisfy `p`, and chains of
comparisons among them hold from end to end. -/
structure TotalPreorderOn {α : Type} (order : α → α → Ordering) (p : α → Prop) : Prop where
  total : ∀ a b, p a → p b → order a b ≠ .gt ∨ order b a ≠ .gt
  trans : ∀ a b c, p a → p b → p c → order a b ≠ .gt → order b c ≠ .gt → order a c ≠ .gt

/-- An order that is turned by exchanging its sides is total. -/
theorem TotalPreorderOn.of_swap {α : Type} {order : α → α → Ordering} {p : α → Prop}
    (hswap : ∀ a b, order a b = (order b a).swap)
    (htrans : ∀ a b c, p a → p b → p c → order a b ≠ .gt → order b c ≠ .gt → order a c ≠ .gt) :
    TotalPreorderOn order p where
  total a b _ _ := by
    rw [hswap a b]
    cases order b a <;> simp
  trans := htrans

theorem TotalPreorderOn.mono {α : Type} {order : α → α → Ordering} {p q : α → Prop}
    (h : TotalPreorderOn order p) (hqp : ∀ a, q a → p a) : TotalPreorderOn order q where
  total a b ha hb := h.total a b (hqp a ha) (hqp b hb)
  trans a b c ha hb hc := h.trans a b c (hqp a ha) (hqp b hb) (hqp c hc)

/-! ## 1. Lists cut in two -/

theorem insertIdx_append {α : Type} (front back : List α) (a : α) :
    (front ++ back).insertIdx front.length a = front ++ a :: back := by
  induction front with
  | nil => rfl
  | cons b front ih => simp [ih]

/-- A list in which what satisfies `p` stands first, cut behind it. -/
theorem forall_not_mem_dropWhile {α : Type} {p : α → Bool} {rel : α → α → Prop} {rows : List α}
    (hrows : rows.Pairwise rel)
    (hback : ∀ a ∈ rows, ∀ b ∈ rows, rel a b → p b = true → p a = true) :
    ∀ b ∈ rows.dropWhile p, ¬ p b = true := by
  induction rows with
  | nil => simp
  | cons a rest ih =>
    obtain ⟨ha, hrest⟩ := List.pairwise_cons.1 hrows
    intro b hb
    by_cases hpa : p a = true
    · rw [List.dropWhile_cons_of_pos hpa] at hb
      exact ih hrest (fun x hx y hy => hback x (List.mem_cons_of_mem _ hx) y
        (List.mem_cons_of_mem _ hy)) b hb
    · rw [List.dropWhile_cons_of_neg hpa] at hb
      rcases List.mem_cons.1 hb with rfl | hb
      · exact hpa
      · exact fun hpb => hpa (hback a List.mem_cons_self b (List.mem_cons_of_mem _ hb)
          (ha b hb) hpb)

/-- The partition point cuts such a list into what satisfies `p` and what
does not. -/
theorem exists_split_partitionPoint {α : Type} {p : α → Bool} {rel : α → α → Prop}
    {rows : List α} (hrows : rows.Pairwise rel)
    (hback : ∀ a ∈ rows, ∀ b ∈ rows, rel a b → p b = true → p a = true) :
    ∃ front back, rows = front ++ back ∧ partitionPoint p rows = front.length ∧
      (∀ a ∈ front, p a = true) ∧ ∀ b ∈ back, ¬ p b = true := by
  have hfront : ∀ a ∈ rows.takeWhile p, p a = true := fun a ha => List.mem_takeWhile_imp ha
  have hrest := forall_not_mem_dropWhile hrows hback
  have hplace := partitionPoint_append hfront hrest
  rw [List.takeWhile_append_dropWhile] at hplace
  exact ⟨_, _, List.takeWhile_append_dropWhile.symm, hplace, hfront, hrest⟩

/-! ## 2. The place of a row -/

/-- The place of a row cuts an ordered list into the rows that do not come
after it and those that do. -/
theorem exists_split_orderedPlace {keys : List SortKey} {row : Json} {rows : List Json}
    (hrows : InOrder keys rows)
    (htrans : ∀ a ∈ rows, ∀ b ∈ rows, compareRows keys a b ≠ .gt →
      compareRows keys b row ≠ .gt → compareRows keys a row ≠ .gt) :
    ∃ front back, rows = front ++ back ∧ orderedPlace keys row rows = front.length ∧
      (∀ a ∈ front, compareRows keys a row ≠ .gt) ∧ ∀ b ∈ back, compareRows keys b row = .gt := by
  obtain ⟨front, back, hsplit, hplace, hfront, hback⟩ :=
    exists_split_partitionPoint (p := fun current => compareRows keys current row != .gt) hrows
      fun a ha b hb hab hbrow => by
        simp only [bne_iff_ne] at hbrow ⊢
        exact htrans a ha b hb hab hbrow
  exact ⟨front, back, hsplit, hplace, fun a ha => by simpa using hfront a ha,
    fun b hb => by simpa using hback b hb⟩

theorem inOrder_nil_keys (rows : List Json) : InOrder [] rows :=
  List.pairwise_of_forall fun _ _ => by simp

/-- A row put at its place leaves ordered rows in order. -/
theorem inOrder_insertIdx_place {ctx : PatchContext} {row : Json} {rows : List Json}
    (hrows : InOrder ctx.orderBy rows)
    (horder : TotalPreorderOn (compareRows ctx.orderBy) fun r => r = row ∨ r ∈ rows) :
    InOrder ctx.orderBy (rows.insertIdx (ctx.place row rows) row) := by
  unfold PatchContext.place
  split
  · rename_i hempty
    rw [List.isEmpty_iff] at hempty
    rw [hempty]
    exact inOrder_nil_keys _
  · obtain ⟨front, back, rfl, hplace, hfront, hback⟩ :=
      @exists_split_orderedPlace _ row _ hrows fun a ha b hb =>
        horder.trans a b row (Or.inr ha) (Or.inr hb) (Or.inl rfl)
    rw [hplace, insertIdx_append]
    obtain ⟨hf, hb, hfb⟩ := List.pairwise_append.1 hrows
    refine List.pairwise_append.2 ⟨hf, List.pairwise_cons.2 ⟨?_, hb⟩, ?_⟩
    · intro b hmem
      rcases horder.total row b (Or.inl rfl) (Or.inr (List.mem_append_right _ hmem)) with h | h
      · exact h
      · exact absurd (hback b hmem) h
    · intro a ha b hmem
      rcases List.mem_cons.1 hmem with rfl | hmem
      · exact hfront a ha
      · exact hfb a ha b hmem

end QueryCache
