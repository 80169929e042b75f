/-
QueryCache.Unicode.CharSet — sets of characters.

A set is kept as ascending ranges of code points with a gap after each, so
equal sets have equal ranges.  Surrogates are no characters: no range that
is built here holds one.  The main statements say what `union`, `inter` and
`compl` contain.
-/
import QueryCache.Unicode.Ranges

namespace QueryCache.Unicode

/-! ## 1. Separated ranges -/

/-- Ranges in ascending order, none of them empty, with a gap after each. -/
def Separated : Ranges → Prop
  | [] => True
  | range :: rest => range.1 ≤ range.2 ∧ (∀ r ∈ rest, range.2 + 1 < r.1) ∧ Separated rest

/-- Adds a range; it grows together with those that it touches. -/
def insertRange (first last : Nat) : Ranges → Ranges
  | [] => [(first, last)]
  | (a, b) :: rest =>
    if last + 1 < a then (first, last) :: (a, b) :: rest
    else if b + 1 < first then (a, b) :: insertRange first last rest
    else insertRange (min first a) (max last b) rest

theorem lt_of_mem_insertRange {k : Nat} {ranges : Ranges} {first last : Nat} (hf : k < first)
    (hr : ∀ r ∈ ranges, k < r.1) : ∀ r ∈ insertRange first last ranges, k < r.1 := by
  induction ranges generalizing first last with
  | nil => simpa [insertRange] using hf
  | cons head rest ih =>
    obtain ⟨a, b⟩ := head
    have ha : k < a := hr (a, b) (by simp)
    have hrest : ∀ r ∈ rest, k < r.1 := fun r h => hr r (List.mem_cons_of_mem _ h)
    simp only [insertRange]
    split
    · intro r h
      rcases List.mem_cons.1 h with rfl | h
      · exact hf
      · exact hr r h
    · split
      · intro r h
        rcases List.mem_cons.1 h with rfl | h
        · exact ha
        · exact ih hf hrest r h
      · exact ih (by omega) hrest

theorem separated_insertRange {ranges : Ranges} {first last : Nat} (h : first ≤ last)
    (hs : Separated ranges) : Separated (insertRange first last ranges) := by
  induction ranges generalizing first last with
  | nil => exact ⟨h, by simp, trivial⟩
  | cons head rest ih =>
    obtain ⟨a, b⟩ := head
    obtain ⟨hab, hgap, hrest⟩ := hs
    simp only at hab hgap
    simp only [insertRange]
    split
    · refine ⟨h, ?_, hab, hgap, hrest⟩
      intro r hr
      rcases List.mem_cons.1 hr with rfl | hr
      · assumption
      · have := hgap r hr
        simp only
        omega
    · split
      · exact ⟨hab, lt_of_mem_insertRange (by omega) hgap, ih h hrest⟩
      · exact ih (by omega) hrest

theorem containsCode_eq_false {ranges : Ranges} {n : Nat} (h : ∀ r ∈ ranges, n < r.1) :
    ranges.containsCode n = false := by
  cases ranges with
  | nil => rfl
  | cons head rest =>
    have := h head (by simp)
    simp [Ranges.containsCode, this]

/-- The ranges hold what they held before and what lies in the new one. -/
theorem containsCode_insertRange {ranges : Ranges} {first last : Nat} (h : first ≤ last)
    (hs : Separated ranges) (n : Nat) :
    Ranges.containsCode (insertRange first last ranges) n =
      (decide (first ≤ n ∧ n ≤ last) || ranges.containsCode n) := by
  induction ranges generalizing first last with
  | nil =>
    simp only [insertRange, Ranges.containsCode]
    split
    · simp; omega
    · simp; omega
  | cons head rest ih =>
    obtain ⟨a, b⟩ := head
    obtain ⟨hab, hgap, hrest⟩ := hs
    simp only at hab hgap
    simp only [insertRange]
    split
    · simp only [Ranges.containsCode]
      by_cases hf : n < first
      · simp [hf, show n < a by omega, show ¬first ≤ n by omega]
      · by_cases hl : n ≤ last
        · simp [hf, hl, show first ≤ n by omega]
        · simp [hf, hl]
    · split
      · simp only [Ranges.containsCode, ih h hrest]
        by_cases ha : n < a
        · simp [ha]; omega
        · by_cases hb : n ≤ b <;> simp [ha, hb]
      · rw [ih (by omega) hrest]
        simp only [Ranges.containsCode]
        by_cases ha : n < a
        · have hn : Ranges.containsCode rest n = false :=
            containsCode_eq_false fun r hr => by have := hgap r hr; omega
          simp only [hn, ha, if_true, Bool.or_false]
          exact decide_eq_decide.2 (by omega)
        · by_cases hb : n ≤ b
          · simp only [ha, hb, if_false, if_true, Bool.or_true, Bool.or_eq_true,
              decide_eq_true_eq]
            omega
          · simp only [ha, hb, if_false]
            congr 1
            exact decide_eq_decide.2 (by omega)

/-! ## 2. Sets -/

/-- A set of characters. -/
structure CharSet where
  ranges : Ranges
  separated : Separated ranges
deriving DecidableEq

namespace CharSet

/-- The character belongs to the set. -/
def contains (set : CharSet) (c : Char) : Bool :=
  set.ranges.contains c

/-- The set without characters. -/
def empty : CharSet :=
  ⟨[], trivial⟩

/-- The set has no characters. -/
def isEmpty (set : CharSet) : Bool :=
  set.ranges.isEmpty

/-- Adds the code points from `first` to `last`. -/
def insertCodes (set : CharSet) (first last : Nat) : CharSet :=
  if h : first ≤ last then
    ⟨insertRange first last set.ranges, separated_insertRange h set.separated⟩
  else set

/-- Adds the characters from `first` to `last`: the code points below the
surrogates and those above. -/
def insert (set : CharSet) (first last : Nat) : CharSet :=
  (set.insertCodes (max first 0xE000) last).insertCodes first (min last 0xD7FF)

/-- The characters in any of the ranges. -/
def ofRanges (ranges : Ranges) : CharSet :=
  ranges.foldr (fun range set => set.insert range.1 range.2) empty

/-- The characters from `first` to `last`. -/
def range (first last : Char) : CharSet :=
  empty.insert first.toNat last.toNat

/-- One character. -/
def single (c : Char) : CharSet :=
  range c c

/-- The characters of both sets. -/
def union (a b : CharSet) : CharSet :=
  ofRanges (a.ranges.merge b.ranges fun r s => r.1 ≤ s.1)

/-- The ranges between those given, from `next` on. -/
def gaps (next : Nat) : Ranges → Ranges
  | [] => [(next, 0x10FFFF)]
  | (first, last) :: rest =>
    if next < first then (next, first - 1) :: gaps (last + 1) rest else gaps (last + 1) rest

/-- The characters outside the set. -/
def compl (set : CharSet) : CharSet :=
  ofRanges (gaps 0 set.ranges)

/-- The characters that the sets share. -/
def inter (a b : CharSet) : CharSet :=
  (a.compl.union b.compl).compl

/-- The characters of the first set that the second lacks. -/
def diff (a b : CharSet) : CharSet :=
  a.inter b.compl

/-- The characters in exactly one of the sets. -/
def symmDiff (a b : CharSet) : CharSet :=
  (a.diff b).union (b.diff a)

/-- The characters of any of the sets. -/
def unions (sets : List CharSet) : CharSet :=
  ofRanges ((sets.flatMap ranges).mergeSort fun r s => r.1 ≤ s.1)

/-- Every character. -/
def all : CharSet :=
  empty.compl

/-- The set has ASCII characters only. -/
def isAscii (set : CharSet) : Bool :=
  set.ranges.all fun range => range.2 ≤ 0x7F

/-- The only character of the set, if it has just one. -/
def only? (set : CharSet) : Option Char :=
  match set.ranges with
  | [(first, last)] => if first = last then some (Char.ofNat first) else none
  | _ => none

/-! ## 3. What the sets contain -/

@[simp] theorem contains_empty (c : Char) : empty.contains c = false := rfl

theorem contains_insertCodes (set : CharSet) (first last : Nat) (c : Char) :
    (set.insertCodes first last).contains c =
      (decide (first ≤ c.toNat ∧ c.toNat ≤ last) || set.contains c) := by
  unfold insertCodes
  split
  · rename_i h
    exact containsCode_insertRange h set.separated c.toNat
  · have : ¬(first ≤ c.toNat ∧ c.toNat ≤ last) := by omega
    simp [this]

theorem contains_insert (set : CharSet) (first last : Nat) (c : Char) :
    (set.insert first last).contains c =
      (decide (first ≤ c.toNat ∧ c.toNat ≤ last) || set.contains c) := by
  simp only [insert, contains_insertCodes, ← Bool.or_assoc]
  congr 1
  rw [← Bool.decide_or]
  apply decide_eq_decide.2
  have := c.valid
  simp only [UInt32.isValidChar, Nat.isValidChar] at this
  change c.toNat < _ ∨ _ < c.toNat ∧ c.toNat < _ at this
  omega

theorem contains_ofRanges (ranges : Ranges) (c : Char) :
    (ofRanges ranges).contains c =
      ranges.any fun range => decide (range.1 ≤ c.toNat ∧ c.toNat ≤ range.2) := by
  induction ranges with
  | nil => rfl
  | cons head rest ih =>
    have : ofRanges (head :: rest) = (ofRanges rest).insert head.1 head.2 := rfl
    rw [this, contains_insert, ih, List.any_cons]

/-- Membership is membership in one of the ranges. -/
theorem contains_eq_any (set : CharSet) (c : Char) :
    set.contains c =
      set.ranges.any fun range => decide (range.1 ≤ c.toNat ∧ c.toNat ≤ range.2) := by
  obtain ⟨ranges, hs⟩ := set
  unfold contains Ranges.contains
  simp only
  induction ranges with
  | nil => rfl
  | cons head rest ih =>
    obtain ⟨a, b⟩ := head
    obtain ⟨_, hgap, hrest⟩ := hs
    simp only at hgap
    simp only [Ranges.containsCode, List.any_cons]
    by_cases ha : c.toNat < a
    · have : Ranges.containsCode rest c.toNat = false :=
        containsCode_eq_false fun r hr => by have := hgap r hr; omega
      rw [← ih hrest, this]
      simp [ha, show ¬a ≤ c.toNat by omega]
    · by_cases hb : c.toNat ≤ b
      · simp [ha, hb, show a ≤ c.toNat by omega]
      · simp [ha, hb, ih hrest]

@[simp] theorem contains_range (first last c : Char) :
    (range first last).contains c = decide (first.toNat ≤ c.toNat ∧ c.toNat ≤ last.toNat) := by
  simp [range, contains_insert]

@[simp] theorem contains_single (c x : Char) : (single c).contains x = (x == c) := by
  rw [single, contains_range, Bool.eq_iff_iff, decide_eq_true_eq, beq_iff_eq]
  constructor
  · rintro ⟨h₁, h₂⟩
    exact Char.ext (UInt32.toNat_inj.1 (Nat.le_antisymm h₂ h₁))
  · rintro rfl
    exact ⟨Nat.le_refl _, Nat.le_refl _⟩

@[simp] theorem contains_union (a b : CharSet) (c : Char) :
    (a.union b).contains c = (a.contains c || b.contains c) := by
  rw [union, contains_ofRanges, contains_eq_any a, contains_eq_any b, Bool.eq_iff_iff]
  simp only [List.any_eq_true, Bool.or_eq_true, List.mem_merge]
  constructor
  · rintro ⟨r, hr | hr, h⟩
    · exact .inl ⟨r, hr, h⟩
    · exact .inr ⟨r, hr, h⟩
  · rintro (⟨r, hr, h⟩ | ⟨r, hr, h⟩)
    · exact ⟨r, .inl hr, h⟩
    · exact ⟨r, .inr hr, h⟩

@[simp] theorem contains_unions (sets : List CharSet) (c : Char) :
    (unions sets).contains c = sets.any (·.contains c) := by
  rw [unions, contains_ofRanges, Bool.eq_iff_iff]
  simp only [List.any_eq_true, List.mem_mergeSort, List.mem_flatMap, contains_eq_any]
  constructor
  · rintro ⟨r, ⟨set, hset, hr⟩, h⟩
    exact ⟨set, hset, r, hr, h⟩
  · rintro ⟨set, hset, r, hr, h⟩
    exact ⟨r, ⟨set, hset, hr⟩, h⟩

/-- Between separated ranges lies what they do not hold. -/
theorem any_gaps {ranges : Ranges} (hs : Separated ranges) (next n : Nat)
    (hr : ∀ r ∈ ranges, next ≤ r.1) (hn : n ≤ 0x10FFFF) :
    ((gaps next ranges).any fun range => decide (range.1 ≤ n ∧ n ≤ range.2)) =
      (decide (next ≤ n) && !ranges.containsCode n) := by
  induction ranges generalizing next with
  | nil => simp [gaps, Ranges.containsCode, hn]
  | cons head rest ih =>
    obtain ⟨a, b⟩ := head
    obtain ⟨hab, hgap, hrest⟩ := hs
    simp only at hab hgap
    have hnext : next ≤ a := hr (a, b) (by simp)
    have ih := ih hrest (b + 1) fun r h => by have := hgap r h; omega
    simp only [gaps, Ranges.containsCode]
    split
    · rw [List.any_cons, ih]
      by_cases ha : n < a
      · have : ¬b + 1 ≤ n := by omega
        simp [ha, this]
        omega
      · by_cases hb : n ≤ b
        · have : ¬b + 1 ≤ n := by omega
          simp [ha, hb, this]
          omega
        · have h₁ : b + 1 ≤ n := by omega
          have h₂ : next ≤ n := by omega
          have h₃ : ¬n ≤ a - 1 := by omega
          simp [ha, hb, h₁, h₂, h₃]
    · rw [ih]
      by_cases ha : n < a
      · have h₁ : ¬b + 1 ≤ n := by omega
        have h₂ : ¬next ≤ n := by omega
        simp [ha, h₁, h₂]
      · by_cases hb : n ≤ b
        · have : ¬b + 1 ≤ n := by omega
          simp [ha, hb, this]
        · have h₁ : b + 1 ≤ n := by omega
          have h₂ : next ≤ n := by omega
          simp [ha, hb, h₁, h₂]

@[simp] theorem contains_compl (set : CharSet) (c : Char) :
    set.compl.contains c = !set.contains c := by
  have hc : c.toNat ≤ 0x10FFFF := by
    have := c.valid
    simp only [UInt32.isValidChar, Nat.isValidChar] at this
    change c.toNat < _ ∨ _ < c.toNat ∧ c.toNat < _ at this
    omega
  rw [compl, contains_ofRanges, any_gaps set.separated 0 c.toNat (by simp) hc]
  simp [contains, Ranges.contains]

@[simp] theorem contains_inter (a b : CharSet) (c : Char) :
    (a.inter b).contains c = (a.contains c && b.contains c) := by
  simp [inter]

@[simp] theorem contains_diff (a b : CharSet) (c : Char) :
    (a.diff b).contains c = (a.contains c && !b.contains c) := by
  simp [diff]

@[simp] theorem mem_all (c : Char) : all.contains c = true := by
  simp [all]

end CharSet
end QueryCache.Unicode
