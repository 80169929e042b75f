/-
QueryCache.Proofs.Pattern.Marks — marked positions as starts of a text.

A position of a text is known by the part of the text in front of it, so a list
of marks says which starts of the text a pattern has come to (`Reaches`).  For
each step of a pattern a lemma tells where it leads from the starts that are
reached: one character further (`reaches_advance`), over a run of characters
(`reaches_flood`), or nowhere else (`reaches_keep_textStart`,
`reaches_keep_textEnd`).
-/
import Mathlib.Data.List.Basic
import QueryCache.Pattern.Build

namespace QueryCache.Pattern

/-- The position behind this start of the text is marked. -/
def Reaches (marks : Marks) (front : Text) : Prop :=
  marks[front.length]? = some true

/-- There is a mark for every position of the text. -/
def Fits (text : Text) (marks : Marks) : Prop :=
  marks.length = text.length + 1

theorem fits_everywhere (text : Text) : Fits text (everywhere text) := by
  rw [Fits, everywhere, List.length_cons, List.length_map]

theorem reaches_everywhere {text front : Text} (h : front <+: text) :
    Reaches (everywhere text) front := by
  have hlength := h.length_le
  rw [Reaches, everywhere]
  cases hn : front.length with
  | zero => rfl
  | succ n =>
    rw [List.getElem?_cons_succ, List.getElem?_map, List.getElem?_eq_getElem (by omega)]
    rfl

/-- Some position is marked exactly if some start of the text is reached. -/
theorem any_iff_reaches {text : Text} {marks : Marks} (h : Fits text marks) :
    marks.any id = true ↔ ∃ front, front <+: text ∧ Reaches marks front := by
  rw [List.any_eq_true]
  constructor
  · rintro ⟨mark, hmem, hmark⟩
    obtain ⟨n, hn, rfl⟩ := List.mem_iff_getElem.1 hmem
    rw [h] at hn
    have hlength : (text.take n).length = n := by
      rw [List.length_take]
      omega
    refine ⟨text.take n, List.take_prefix n text, ?_⟩
    rw [Reaches, hlength, List.getElem?_eq_getElem (h ▸ hn)]
    exact congrArg some hmark
  · rintro ⟨front, -, hfront⟩
    exact ⟨true, List.mem_of_getElem? hfront, rfl⟩

/-! ## 1. One character -/

theorem fits_advance {admits : Char → Bool} {text : Text} {marks : Marks} (h : Fits text marks) :
    Fits text (advance admits text marks) := by
  rw [Fits] at h ⊢
  rw [advance, List.length_cons, List.length_zipWith, h]
  omega

theorem reaches_advance {admits : Char → Bool} {text front : Text} {marks : Marks}
    (h : Fits text marks) (hfront : front <+: text) :
    Reaches (advance admits text marks) front ↔
      ∃ before c, front = before ++ [c] ∧ Reaches marks before ∧ admits c = true := by
  rcases List.eq_nil_or_concat' front with rfl | ⟨before, c, rfl⟩
  · simp [Reaches, advance]
  · obtain ⟨rest, rfl⟩ := hfront
    have hchar : (before ++ [c] ++ rest)[before.length]? = some c := by simp
    have hmark : before.length < marks.length := by
      rw [h, List.length_append, List.length_append, List.length_singleton]
      omega
    rw [Reaches, advance, List.length_append, List.length_singleton, List.getElem?_cons_succ,
      List.getElem?_zipWith, hchar, List.getElem?_eq_getElem hmark]
    simp [Reaches, List.getElem?_eq_getElem hmark]

/-! ## 2. Runs of characters -/

theorem fits_flood {admits : Char → Bool} {reached : Bool} {text : Text} {marks : Marks}
    (h : Fits text marks) : Fits text (flood admits reached text marks) := by
  induction text generalizing reached marks with
  | nil =>
    obtain ⟨mark, rfl⟩ := List.length_eq_one_iff.1 h
    rfl
  | cons c text ih =>
    obtain ⟨mark, marks, rfl⟩ := List.exists_cons_of_length_eq_add_one h
    exact congrArg (· + 1) (ih (Nat.succ.inj h))

/-- Where a run is looked for, its beginning is found at the first character or
further back. -/
theorem exists_run_cons_iff {mark : Bool} {marks : Marks} {c : Char} {front : Text}
    {IsRun : Text → Prop} :
    (∃ before run, c :: front = before ++ run ∧ Reaches (mark :: marks) before ∧ IsRun run) ↔
      (mark = true ∧ IsRun (c :: front)) ∨
        ∃ before run, front = before ++ run ∧ Reaches marks before ∧ IsRun run := by
  constructor
  · rintro ⟨before, run, heq, hbefore, hrun⟩
    cases before with
    | nil =>
      obtain rfl : c :: front = run := heq
      exact Or.inl ⟨Option.some.inj hbefore, hrun⟩
    | cons d before =>
      obtain ⟨rfl, rfl⟩ := List.cons.inj heq
      exact Or.inr ⟨before, run, rfl, hbefore, hrun⟩
  · rintro (⟨rfl, hrun⟩ | ⟨before, run, rfl, hbefore, hrun⟩)
    · exact ⟨[], _, rfl, rfl, hrun⟩
    · exact ⟨c :: before, run, rfl, hbefore, hrun⟩

/-- A run begins where the pattern has come to, or in front of the text if one
led up to it. -/
theorem reaches_flood {admits : Char → Bool} {reached : Bool} {text front : Text} {marks : Marks}
    (h : Fits text marks) (hfront : front <+: text) :
    Reaches (flood admits reached text marks) front ↔
      (reached = true ∧ ∀ c ∈ front, admits c = true) ∨
        ∃ before run, front = before ++ run ∧ Reaches marks before ∧
          ∀ c ∈ run, admits c = true := by
  induction text generalizing reached front marks with
  | nil =>
    obtain rfl := List.prefix_nil.1 hfront
    obtain ⟨mark, rfl⟩ := List.length_eq_one_iff.1 h
    simp [Reaches, flood, or_comm]
  | cons c text ih =>
    obtain ⟨mark, marks, rfl⟩ := List.exists_cons_of_length_eq_add_one h
    cases front with
    | nil => simp [Reaches, flood, or_comm]
    | cons d front =>
      obtain ⟨rfl, hrest⟩ := List.cons_prefix_cons.1 hfront
      have hstep : Reaches (flood admits reached (d :: text) (mark :: marks)) (d :: front) ↔
          Reaches (flood admits ((mark || reached) && admits d) text marks) front := Iff.rfl
      rw [hstep, ih (Nat.succ.inj h) hrest, exists_run_cons_iff, List.forall_mem_cons,
        Bool.and_eq_true, Bool.or_eq_true, or_comm (a := mark = true), and_assoc, or_and_right,
        or_assoc]

/-! ## 3. The ends of the text -/

theorem fits_keep {condition : Assertion} {before : Option Char} {text : Text} {marks : Marks}
    (h : Fits text marks) : Fits text (keep condition before text marks) := by
  induction text generalizing before marks with
  | nil =>
    obtain ⟨mark, rfl⟩ := List.length_eq_one_iff.1 h
    rfl
  | cons c text ih =>
    obtain ⟨mark, marks, rfl⟩ := List.exists_cons_of_length_eq_add_one h
    exact congrArg (· + 1) (ih (Nat.succ.inj h))

/-- Of the beginning of the text only the empty start is kept. -/
theorem reaches_keep_textStart {before : Option Char} {text front : Text} {marks : Marks}
    (h : Fits text marks) (hfront : front <+: text) :
    Reaches (keep .textStart before text marks) front ↔
      before = none ∧ front = [] ∧ Reaches marks [] := by
  induction text generalizing before front marks with
  | nil =>
    obtain rfl := List.prefix_nil.1 hfront
    obtain ⟨mark, rfl⟩ := List.length_eq_one_iff.1 h
    simp [Reaches, keep, Assertion.holds, and_comm]
  | cons c text ih =>
    obtain ⟨mark, marks, rfl⟩ := List.exists_cons_of_length_eq_add_one h
    cases front with
    | nil => simp [Reaches, keep, Assertion.holds, and_comm]
    | cons d front =>
      obtain ⟨rfl, hrest⟩ := List.cons_prefix_cons.1 hfront
      have hstep : Reaches (keep .textStart before (d :: text) (mark :: marks)) (d :: front) ↔
          Reaches (keep .textStart (some d) text marks) front := Iff.rfl
      rw [hstep, ih (Nat.succ.inj h) hrest]
      simp

/-- Of its end, only the whole text. -/
theorem reaches_keep_textEnd {before : Option Char} {text front : Text} {marks : Marks}
    (h : Fits text marks) (hfront : front <+: text) :
    Reaches (keep .textEnd before text marks) front ↔ front = text ∧ Reaches marks text := by
  induction text generalizing before front marks with
  | nil =>
    obtain rfl := List.prefix_nil.1 hfront
    obtain ⟨mark, rfl⟩ := List.length_eq_one_iff.1 h
    simp [Reaches, keep, Assertion.holds]
  | cons c text ih =>
    obtain ⟨mark, marks, rfl⟩ := List.exists_cons_of_length_eq_add_one h
    cases front with
    | nil => simp [Reaches, keep, Assertion.holds]
    | cons d front =>
      obtain ⟨rfl, hrest⟩ := List.cons_prefix_cons.1 hfront
      have hstep : Reaches (keep .textEnd before (d :: text) (mark :: marks)) (d :: front) ↔
          Reaches (keep .textEnd (some d) text marks) front := Iff.rfl
      rw [hstep, ih (Nat.succ.inj h) hrest, List.cons.injEq]
      simp [Reaches]

end QueryCache.Pattern
