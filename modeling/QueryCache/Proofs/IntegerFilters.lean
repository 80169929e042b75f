/-
QueryCache.Proofs.IntegerFilters — filters on integers.

Integers are compared as binary64 values, and two of them count as equal within
a tolerance that grows with the larger one.  So filters are exact on a column of
integers exactly if no two of its values are conflated (`filtersExactly_iff`).
Below `2 ^ 52` two integers are conflated if they are no further apart than a
thousand-millionth of the larger one (`conflated_iff`), hence never below a
thousand million; identifiers and points in time that are counted in seconds
may be larger.
-/
import QueryCache.Filter.Operator
import QueryCache.Proofs.Binary64.Arithmetic
import QueryCache.Proofs.Filter.Operands

namespace QueryCache

open Binary64

namespace Comparison

/-! ## 1. The tolerance -/

/-- The tolerance in units of `2 ^ -82`, a little more than a
thousand-millionth. -/
def toleranceUnits : Nat := 4835703278458517

theorem tolerance_eq_value : tolerance = value toleranceUnits (-82) := by
  decide +kernel

theorem isExact_tolerance : IsExact toleranceUnits (-82) :=
  ⟨by decide, by decide, by decide⟩

theorem isExact_max {x y e : Int} (hx : IsExact x e) (hy : IsExact y e) : IsExact (max x y) e := by
  rcases max_choice x y with h | h <;> rwa [h]

theorem larger_value {x y e : Int} (hx : IsExact x e) (hy : IsExact y e) :
    larger (value x e) (value y e) = value (max x y) e := by
  rw [larger, max_def_lt]
  split
  · rename_i h
    rw [if_pos ((value_lt_iff hx hy).1 h)]
  · rename_i h
    rw [if_neg fun hlt => h ((value_lt_iff hx hy).2 hlt)]

theorem isExact_product {n : Nat} (h : n ≤ 2 ^ 100) :
    IsExact (nearest (toleranceUnits * n)) (-82) := by
  have hlog : (toleranceUnits * n).log2 ≤ 153 := by
    refine log2_le_of_le ?_
    unfold toleranceUnits
    omega
  refine isExact_nearestInt (n := (toleranceUnits * n : Nat)) (by decide) ?_
  rw [Int.natAbs_natCast]
  omega

theorem tolerance_mul_abs {x : Int} (hx : IsExact x 0) :
    tolerance * (value x 0).abs = value (nearest (toleranceUnits * x.natAbs)) (-82) := by
  rw [tolerance_eq_value, value_abs hx, value_mul isExact_tolerance hx.natAbs (by decide),
    ← Nat.cast_mul, nearestInt_natCast]
  rfl

/-- The tolerance of the larger magnitude, one at least. -/
theorem max_tolerance {m n : Nat} (h : max m n ≠ 0) :
    max (max toleranceUnits (nearest (toleranceUnits * m))) (nearest (toleranceUnits * n)) =
      nearest (toleranceUnits * max m n) := by
  have hmono : Monotone fun k => nearest (toleranceUnits * k) :=
    fun _ _ hle => nearest_mono (Nat.mul_le_mul_left _ hle)
  have hone : toleranceUnits ≤ nearest (toleranceUnits * max m n) := by
    calc
      toleranceUnits = nearest (toleranceUnits * 1) := by decide
      _ ≤ nearest (toleranceUnits * max m n) := hmono (Nat.one_le_iff_ne_zero.2 h)
  have hboth : nearest (toleranceUnits * max m n) =
      max (nearest (toleranceUnits * m)) (nearest (toleranceUnits * n)) := hmono.map_max
  rw [max_assoc, ← hboth, max_eq_right hone]

section

variable {x y : Int} (hxsize : x.natAbs ≤ 2 ^ 100) (hysize : y.natAbs ≤ 2 ^ 100)
include hxsize hysize

theorem isExact_sub : IsExact (nearestInt (x - y)) 0 := by
  have hlog : (x - y).natAbs.log2 ≤ 101 := log2_le_of_le (by omega)
  exact isExact_nearestInt (by decide) (by omega)

variable (hx : IsExact x 0) (hy : IsExact y 0)
include hx hy

theorem abs_sub_value : (value x 0 - value y 0).abs =
    value ((nearestInt (x - y)).natAbs * 2 ^ 82) (-82) := by
  rw [value_sub hx hy, value_abs (isExact_sub hxsize hysize), value_mul_two_pow]
  rfl

/-- Two values are close within the tolerance of the larger one. -/
theorem close_value : close (value x 0) (value y 0) = true ↔
    nearest (x - y).natAbs * 2 ^ 82 ≤ nearest (toleranceUnits * max x.natAbs y.natAbs) := by
  have hxproduct := isExact_product hxsize
  have hyproduct := isExact_product hysize
  have hdifference : IsExact (((nearestInt (x - y)).natAbs : Int) * 2 ^ 82) (-82) :=
    (isExact_sub hxsize hysize).natAbs.mul_two_pow (by decide) (by decide)
  have hbound := isExact_max (isExact_max isExact_tolerance hxproduct) hyproduct
  rw [close, decide_eq_true_iff, abs_sub_value hxsize hysize hx hy, tolerance_mul_abs hx,
    tolerance_mul_abs hy, tolerance_eq_value, larger_value isExact_tolerance hxproduct,
    larger_value (isExact_max isExact_tolerance hxproduct) hyproduct,
    value_le_iff hdifference hbound, natAbs_nearestInt]
  rcases eq_or_ne (max x.natAbs y.natAbs) 0 with hzero | hne
  · obtain rfl : x = 0 := by omega
    obtain rfl : y = 0 := by omega
    simp [nearest_zero]
  · rw [← max_tolerance hne]
    exact_mod_cast Iff.rfl

end

/-! ## 2. Comparing integers -/

/-- Two integers that count as equal: the difference of their values is within
the tolerance of the larger value.  Both sides are in units of `2 ^ -82`. -/
def Conflated (a b : Int) : Prop :=
  nearest (nearestInt a - nearestInt b).natAbs * 2 ^ 82 ≤
    nearest (toleranceUnits * max (nearestInt a).natAbs (nearestInt b).natAbs)

instance (a b : Int) : Decidable (Conflated a b) :=
  inferInstanceAs (Decidable (_ ≤ _))

theorem log2_natAbs_le {n : Int} (h : IsSigned n) : n.natAbs.log2 ≤ 63 := by
  obtain ⟨hlow, hhigh⟩ := h
  have hlimit : signedLimit = 2 ^ 63 := rfl
  exact log2_le_of_le (by omega)

theorem natAbs_nearestInt_le {n : Int} (h : IsSigned n) : (nearestInt n).natAbs ≤ 2 ^ 64 := by
  have hlog := log2_natAbs_le h
  rw [natAbs_nearestInt]
  exact (nearest_le_two_pow _).trans (Nat.pow_le_pow_right (by decide) (by omega))

theorem ofInt_of_isSigned {n : Int} (h : IsSigned n) :
    Float.ofInt n = value (nearestInt n) 0 ∧ IsExact (nearestInt n) 0 := by
  have hlog := log2_natAbs_le h
  obtain ⟨hlow, hhigh⟩ := h
  have hlimit : signedLimit = 2 ^ 63 := rfl
  exact ⟨ofInt_eq_value (by omega), isExact_nearestInt (by decide) (by omega)⟩

section

variable {a b : Int} (ha : IsSigned a) (hb : IsSigned b)
include ha hb

theorem equals_int : equals (.num (.int a)) (.num (.int b)) = decide (Conflated a b) := by
  obtain ⟨havalue, haexact⟩ := ofInt_of_isSigned ha
  obtain ⟨hbvalue, hbexact⟩ := ofInt_of_isSigned hb
  have hasize := natAbs_nearestInt_le ha
  have hbsize := natAbs_nearestInt_le hb
  have hclose := close_value (by omega) (by omega) haexact hbexact
  rw [Bool.eq_iff_iff, decide_eq_true_iff]
  show close (Float.ofInt a) (Float.ofInt b) = true ↔ Conflated a b
  rw [havalue, hbvalue]
  exact hclose

theorem compare?_int : compare? (.num (.int a)) (.num (.int b)) =
    some (compare (nearestInt a) (nearestInt b)) := by
  obtain ⟨havalue, haexact⟩ := ofInt_of_isSigned ha
  obtain ⟨hbvalue, hbexact⟩ := ofInt_of_isSigned hb
  show some (compareFloat (Float.ofInt a) (Float.ofInt b)) = _
  rw [havalue, hbvalue, compareFloat_value haexact hbexact]

end

/-- Integers with one value are conflated. -/
theorem conflated_of_nearestInt_eq {a b : Int} (h : nearestInt a = nearestInt b) :
    Conflated a b := by
  rw [Conflated, h, sub_self, Int.natAbs_zero, nearest_zero, Nat.zero_mul]
  exact Nat.zero_le _

theorem conflated_self (a : Int) : Conflated a a :=
  conflated_of_nearestInt_eq rfl

/-- Where two integers are not conflated, their values stand in their order. -/
theorem compare_nearestInt {a b : Int} (h : Conflated a b → a = b) :
    compare (nearestInt a) (nearestInt b) = compare a b := by
  have hlt : ∀ {m n : Int}, (nearestInt m = nearestInt n → m = n) →
      (nearestInt m < nearestInt n ↔ m < n) := by
    intro m n hinj
    constructor
    · intro hvalue
      exact not_le.1 fun hle => (nearestInt_mono hle).not_gt hvalue
    · intro hmn
      exact (nearestInt_mono hmn.le).lt_of_ne fun hsame => hmn.ne (hinj hsame)
  exact compare_congr (hlt fun hsame => h (conflated_of_nearestInt_eq hsame))
    (hlt fun hsame => (h (conflated_of_nearestInt_eq hsame.symm)).symm)

/-- A distance is within the tolerance when a thousand million times as much is
at most the magnitude: the tolerance is a little more than a thousand-millionth,
but below `2 ^ 52` neither that nor rounding makes up for a whole unit. -/
theorem le_nearest_tolerance_iff {distance magnitude : Nat} (hdistance : distance < 2 ^ 53)
    (hmagnitude : magnitude < 2 ^ 52) :
    distance * 2 ^ 82 ≤ nearest (toleranceUnits * magnitude) ↔
      10 ^ 9 * distance ≤ magnitude := by
  have hunits : toleranceUnits = 4835703278458517 := rfl
  constructor
  · intro h
    have hround := nearest_mul_le (toleranceUnits * magnitude)
    by_contra hfar
    rw [hunits] at h hround
    omega
  · intro h
    calc
      distance * 2 ^ 82 = nearest (distance * 2 ^ 82) := by
        rw [nearest_mul_two_pow, nearest_of_lt hdistance]
      _ ≤ nearest (toleranceUnits * magnitude) := nearest_mono (by rw [hunits]; omega)

/-- Below `2 ^ 52` two integers are conflated when a thousand million times
their distance is at most the larger one. -/
theorem conflated_iff {a b : Int} (ha : a.natAbs < 2 ^ 52) (hb : b.natAbs < 2 ^ 52) :
    Conflated a b ↔ 10 ^ 9 * (a - b).natAbs ≤ max a.natAbs b.natAbs := by
  have hdistance : (a - b).natAbs < 2 ^ 53 := by omega
  rw [Conflated, nearestInt_of_lt (by omega), nearestInt_of_lt (by omega), nearest_of_lt hdistance]
  exact le_nearest_tolerance_iff hdistance (by omega)

end Comparison

/-! ## 3. Filters -/

/-- A list of integers. -/
def Json.ints (list : List Int) : Json :=
  .arr (list.map fun n => .num (.int n))

/-- On the integers of a column the comparison of values is that of the
integers, and so is what every operator that compares values accepts. -/
structure FiltersExactly (column : Set Int) : Prop where
  equals : ∀ a ∈ column, ∀ b ∈ column,
    Comparison.equals (.num (.int a)) (.num (.int b)) = decide (a = b)
  compare : ∀ a ∈ column, ∀ b ∈ column,
    Comparison.compare? (.num (.int a)) (.num (.int b)) = some (compare a b)
  eq : ∀ a ∈ column, ∀ b ∈ column,
    FilterOperator.eq.accepts (.num (.int a)) (.num (.int b)) = decide (a = b)
  neq : ∀ a ∈ column, ∀ b ∈ column,
    FilterOperator.neq.accepts (.num (.int a)) (.num (.int b)) = decide (a ≠ b)
  gt : ∀ a ∈ column, ∀ b ∈ column,
    FilterOperator.gt.accepts (.num (.int a)) (.num (.int b)) = decide (a > b)
  gte : ∀ a ∈ column, ∀ b ∈ column,
    FilterOperator.gte.accepts (.num (.int a)) (.num (.int b)) = decide (a ≥ b)
  lt : ∀ a ∈ column, ∀ b ∈ column,
    FilterOperator.lt.accepts (.num (.int a)) (.num (.int b)) = decide (a < b)
  lte : ∀ a ∈ column, ∀ b ∈ column,
    FilterOperator.lte.accepts (.num (.int a)) (.num (.int b)) = decide (a ≤ b)
  in_ : ∀ a ∈ column, ∀ list : List Int, (∀ b ∈ list, b ∈ column) →
    FilterOperator.in_.accepts (.num (.int a)) (.ints list) = decide (a ∈ list)
  cs : ∀ items needles : List Int, (∀ a ∈ items, a ∈ column) → (∀ b ∈ needles, b ∈ column) →
    FilterOperator.cs.accepts (.ints items) (.ints needles) = decide (needles ⊆ items)
  cd : ∀ items needles : List Int, (∀ a ∈ items, a ∈ column) → (∀ b ∈ needles, b ∈ column) →
    FilterOperator.cd.accepts (.ints needles) (.ints items) = decide (needles ⊆ items)

theorem any_ints {p : Json → Bool} {a : Int} {list : List Int}
    (hp : ∀ b ∈ list, p (.num (.int b)) = decide (a = b)) :
    (list.map fun n => Json.num (.int n)).any p = decide (a ∈ list) := by
  rw [List.any_map, Bool.eq_iff_iff, List.any_eq_true, decide_eq_true_iff]
  constructor
  · rintro ⟨b, hb, hsame⟩
    rw [Function.comp_apply, hp b hb, decide_eq_true_iff] at hsame
    exact hsame ▸ hb
  · intro hmem
    refine ⟨a, hmem, ?_⟩
    rw [Function.comp_apply, hp a hmem, decide_eq_true_iff]

theorem contains_ints {items needles : List Int}
    (hequals : ∀ a ∈ items, ∀ b ∈ needles,
      Comparison.equals (.num (.int a)) (.num (.int b)) = decide (a = b)) :
    Comparison.contains (.ints items) (.ints needles) = decide (needles ⊆ items) := by
  have hany : ∀ b ∈ needles, (items.map fun n => Json.num (.int n)).any
      (fun item => Comparison.equals item (.num (.int b))) = decide (b ∈ items) := by
    intro b hb
    refine any_ints fun a ha => ?_
    rw [hequals a ha b hb, decide_eq_decide]
    exact eq_comm
  show (needles.map fun n => Json.num (.int n)).all _ = _
  rw [List.all_map, Bool.eq_iff_iff, List.all_eq_true, decide_eq_true_iff]
  refine forall₂_congr fun b hb => ?_
  rw [Function.comp_apply, hany b hb, decide_eq_true_iff]

theorem filtersExactly_iff_conflated {column : Set Int} (h : ∀ n ∈ column, IsSigned n) :
    FiltersExactly column ↔
      ∀ a ∈ column, ∀ b ∈ column, Comparison.Conflated a b → a = b := by
  constructor
  · intro hexact a ha b hb hconflated
    have hequals := hexact.equals a ha b hb
    rw [Comparison.equals_int (h a ha) (h b hb)] at hequals
    simpa [hconflated] using hequals
  · intro hapart
    have hequals : ∀ a ∈ column, ∀ b ∈ column,
        Comparison.equals (.num (.int a)) (.num (.int b)) = decide (a = b) := by
      intro a ha b hb
      rw [Comparison.equals_int (h a ha) (h b hb), decide_eq_decide]
      exact ⟨hapart a ha b hb, fun hsame => hsame ▸ Comparison.conflated_self a⟩
    have hcompare : ∀ a ∈ column, ∀ b ∈ column,
        Comparison.compare? (.num (.int a)) (.num (.int b)) = some (compare a b) := by
      intro a ha b hb
      rw [Comparison.compare?_int (h a ha) (h b hb),
        Comparison.compare_nearestInt (hapart a ha b hb)]
    exact {
      equals := hequals
      compare := hcompare
      eq := hequals
      neq := by
        intro a ha b hb
        show (!Comparison.equals _ _) = _
        rw [hequals a ha b hb, decide_not]
      gt := by
        intro a ha b hb
        show (Comparison.compare? _ _ == some .gt) = _
        rw [hcompare a ha b hb, Bool.eq_iff_iff, beq_iff_eq, Option.some.injEq,
          compare_gt_iff_gt, decide_eq_true_iff]
      gte := by
        intro a ha b hb
        show (Comparison.compare? _ _ == some .gt || Comparison.compare? _ _ == some .eq) = _
        rw [hcompare a ha b hb, Bool.eq_iff_iff, Bool.or_eq_true, beq_iff_eq, beq_iff_eq,
          Option.some.injEq, Option.some.injEq, compare_gt_iff_gt, compare_eq_iff_eq,
          decide_eq_true_iff]
        omega
      lt := by
        intro a ha b hb
        show (Comparison.compare? _ _ == some .lt) = _
        rw [hcompare a ha b hb, Bool.eq_iff_iff, beq_iff_eq, Option.some.injEq,
          compare_lt_iff_lt, decide_eq_true_iff]
      lte := by
        intro a ha b hb
        show (Comparison.compare? _ _ == some .lt || Comparison.compare? _ _ == some .eq) = _
        rw [hcompare a ha b hb, Bool.eq_iff_iff, Bool.or_eq_true, beq_iff_eq, beq_iff_eq,
          Option.some.injEq, Option.some.injEq, compare_lt_iff_lt, compare_eq_iff_eq,
          decide_eq_true_iff]
        omega
      in_ := fun a ha list hlist => any_ints fun b hb => hequals a ha b (hlist b hb)
      cs := fun items needles hitems hneedles =>
        contains_ints fun a ha b hb => hequals a (hitems a ha) b (hneedles b hb)
      cd := fun items needles hitems hneedles =>
        contains_ints fun a ha b hb => hequals a (hitems a ha) b (hneedles b hb) }

/-- Filters on a column of integers are exact exactly if no two of them are
conflated.  Below `2 ^ 52` that is: no two of them are closer than a
thousand-millionth of the larger one. -/
theorem filtersExactly_iff {column : Set Int} (h : ∀ n ∈ column, IsSigned n) :
    (FiltersExactly column ↔
        ∀ a ∈ column, ∀ b ∈ column, Comparison.Conflated a b → a = b) ∧
      ((∀ n ∈ column, n.natAbs < 2 ^ 52) →
        (FiltersExactly column ↔ ∀ a ∈ column, ∀ b ∈ column,
          10 ^ 9 * (a - b).natAbs ≤ max a.natAbs b.natAbs → a = b)) := by
  have hiff := filtersExactly_iff_conflated h
  refine ⟨hiff, fun hsmall => hiff.trans ?_⟩
  refine forall₂_congr fun a ha => forall₂_congr fun b hb => ?_
  rw [Comparison.conflated_iff (hsmall a ha) (hsmall b hb)]

/-- Integers below a thousand million are filtered exactly. -/
theorem filtersExactly_below_thousandMillion :
    (∀ n ∈ {n : Int | n.natAbs < 10 ^ 9}, IsSigned n) ∧
      FiltersExactly {n : Int | n.natAbs < 10 ^ 9} := by
  have hsigned : ∀ n ∈ {n : Int | n.natAbs < 10 ^ 9}, IsSigned n := by
    intro n (hn : n.natAbs < 10 ^ 9)
    have hlimit : signedLimit = 2 ^ 63 := rfl
    unfold IsSigned
    omega
  refine ⟨hsigned, ((filtersExactly_iff hsigned).2 fun n (hn : n.natAbs < 10 ^ 9) => ?_).2 ?_⟩
  · omega
  · intro a (ha : a.natAbs < 10 ^ 9) b (hb : b.natAbs < 10 ^ 9) hnear
    omega

/-- A thousand million and the next integer count as equal, although the one is
less than the other; from `2 ^ 53` on the order takes neighbours for one, too. -/
theorem thousandMillion_equals_next :
    (IsSigned 1000000000 ∧ IsSigned 1000000001 ∧ IsSigned 9007199254740993) ∧
      Comparison.equals (.num (.int 1000000000)) (.num (.int 1000000001)) = true ∧
      FilterOperator.eq.accepts (.num (.int 1000000000)) (.num (.int 1000000001)) = true ∧
      FilterOperator.lt.accepts (.num (.int 1000000000)) (.num (.int 1000000001)) = true ∧
      Comparison.compare? (.num (.int 9007199254740992)) (.num (.int 9007199254740993)) =
        some .eq := by
  decide +kernel

end QueryCache
