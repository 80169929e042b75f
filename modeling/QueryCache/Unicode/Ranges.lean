/-
QueryCache.Unicode.Ranges — sets of characters given by ranges of code
points.

A character property is tabulated as a list of ranges, both ends
included.  `Ranges.contains` scans the list; the tables are ascending,
so the scan stops at the first range that begins after the character.
-/

namespace QueryCache.Unicode

/-- Ranges of code points, both ends included, in ascending order. -/
abbrev Ranges := List (Nat × Nat)

/-- The code point lies in one of the ranges. -/
def Ranges.containsCode : Ranges → Nat → Bool
  | [], _ => false
  | (first, last) :: rest, n =>
    if n < first then false
    else if n ≤ last then true
    else Ranges.containsCode rest n

/-- The character lies in one of the ranges. -/
def Ranges.contains (ranges : Ranges) (c : Char) : Bool :=
  ranges.containsCode c.toNat

/-- Membership in an ascending table is membership in one of its rows. -/
theorem Ranges.exists_of_containsCode {ranges : Ranges} {n : Nat}
    (h : ranges.containsCode n = true) : ∃ r ∈ ranges, r.1 ≤ n ∧ n ≤ r.2 := by
  induction ranges with
  | nil => simp [containsCode] at h
  | cons r rest ih =>
    obtain ⟨first, last⟩ := r
    simp only [containsCode] at h
    split at h
    · simp at h
    · split at h
      · exact ⟨(first, last), by simp, by omega, by assumption⟩
      · obtain ⟨r, hr, hb⟩ := ih h
        exact ⟨r, List.mem_cons_of_mem _ hr, hb⟩

end QueryCache.Unicode
