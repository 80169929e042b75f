/-
QueryCache.Proofs.SameComparison — comparisons respect the equality of the
cache.

Two values that the cache takes for the same (`Json.sameAs`) differ at most
in the signs of zeros.  No comparison of filters tells them apart, on
either side, so every operator accepts both or neither
(`FilterOperator.accepts_congr`).
-/
import QueryCache.Filter.Operator
import QueryCache.Proofs.Sameness

namespace QueryCache

/-! ## 1. Zeros -/

theorem eq_of_toBits {x y : Float} (h : x.toBits = y.toBits) : x = y := by
  obtain ⟨⟨a, ha⟩⟩ := x
  obtain ⟨⟨b, hb⟩⟩ := y
  have hab : a = b := h
  subst hab
  rfl

/-- Binary64 values of one rank are equal or the two zeros. -/
theorem eq_or_zeros_of_floatRank {x y : Float} (h : floatRank x = floatRank y) :
    x = y ∨ (x = 0.0 ∧ y = -0.0) ∨ (x = -0.0 ∧ y = 0.0) := by
  have hpositive : ∀ x : Float, x.toBits.toNat = 0 → x = 0.0 := by
    intro x hx
    apply eq_of_toBits
    rw [← UInt64.toNat_inj, hx]
    rfl
  have hnegative : ∀ x : Float, x.toBits.toNat = signedLimit → x = -0.0 := by
    intro x hx
    apply eq_of_toBits
    rw [← UInt64.toNat_inj, hx]
    rfl
  unfold floatRank at h
  dsimp only at h
  split at h <;> split at h
  · exact Or.inl (eq_of_toBits (UInt64.toNat_inj.1 (by omega)))
  · exact Or.inr (Or.inl ⟨hpositive x (by omega), hnegative y (by omega)⟩)
  · exact Or.inr (Or.inr ⟨hnegative x (by omega), hpositive y (by omega)⟩)
  · exact Or.inl (eq_of_toBits (UInt64.toNat_inj.1 (by omega)))

theorem unpack_zero : (0.0 : Float).toModel.unpack = .zero .positive := by
  have hbits : (0.0 : Float).toModel.toBits = 0 := by rfl
  rw [Float.Model.unpack, hbits]
  rfl

theorem unpack_neg_zero : (-0.0 : Float).toModel.unpack = .zero .negative := by
  have hbits : (-0.0 : Float).toModel.toBits = 0x8000000000000000 := by rfl
  rw [Float.Model.unpack, hbits]
  rfl

theorem abs_zero_sub (z : Float) : ((0.0 : Float) - z).abs = ((-0.0 : Float) - z).abs := by
  show Float.ofModel (Float.Model.pack
      (.sub .binary64 (0.0 : Float).toModel.unpack z.toModel.unpack)).abs =
    Float.ofModel (Float.Model.pack
      (.sub .binary64 (-0.0 : Float).toModel.unpack z.toModel.unpack)).abs
  rw [unpack_zero, unpack_neg_zero]
  rcases z.toModel.unpack with s | _ | s | ⟨s, m, e, hm⟩
  · rfl
  · rfl
  · cases s <;> rfl
  · rfl

theorem abs_sub_zero (z : Float) : (z - (0.0 : Float)).abs = (z - (-0.0 : Float)).abs := by
  show Float.ofModel (Float.Model.pack
      (.sub .binary64 z.toModel.unpack (0.0 : Float).toModel.unpack)).abs =
    Float.ofModel (Float.Model.pack
      (.sub .binary64 z.toModel.unpack (-0.0 : Float).toModel.unpack)).abs
  rw [unpack_zero, unpack_neg_zero]
  rcases z.toModel.unpack with s | _ | s | ⟨s, m, e, hm⟩
  · rfl
  · rfl
  · cases s <;> rfl
  · rfl

namespace Comparison

/-- Both zeros are close to the same numbers. -/
theorem close_congr {x y : Float} (h : floatRank x = floatRank y) (z : Float) :
    close x z = close y z ∧ close z x = close z y := by
  have habs : (0.0 : Float).abs = (-0.0 : Float).abs := by rfl
  have hzero : close 0.0 z = close (-0.0) z ∧ close z 0.0 = close z (-0.0) := by
    constructor
    · simp only [close, habs, abs_zero_sub]
    · simp only [close, habs, abs_sub_zero]
  rcases eq_or_zeros_of_floatRank h with rfl | ⟨rfl, rfl⟩ | ⟨rfl, rfl⟩
  · exact ⟨rfl, rfl⟩
  · exact hzero
  · exact ⟨hzero.1.symm, hzero.2.symm⟩

/-! ## 2. Numbers -/

/-- What is the same writes numbers of one rank, or no number. -/
theorem float?_congr {a b : Json} (h : a.sameAs b = true) :
    (float? a = none ∧ float? b = none) ∨
      ∃ x y, float? a = some x ∧ float? b = some y ∧ floatRank x = floatRank y := by
  cases a <;> cases b <;> simp only [Json.sameAs, Bool.false_eq_true, beq_iff_eq] at h
  case num.num m n =>
    refine Or.inr ⟨_, _, rfl, rfl, ?_⟩
    cases m <;> cases n <;> simp only [Number.sameAs, Bool.false_eq_true, beq_iff_eq] at h
    · rw [h]
    · exact h
  case str.str s t =>
    subst h
    rcases hs : numberForm? s with _ | form
    · exact Or.inl ⟨by simp [float?, hs], by simp [float?, hs]⟩
    · exact Or.inr ⟨form.nearest, form.nearest, by simp [float?, hs], by simp [float?, hs], rfl⟩
  all_goals exact Or.inl ⟨rfl, rfl⟩

theorem closeNumbers_congr {a b : Json} (h : a.sameAs b = true) (c : Json) :
    closeNumbers a c = closeNumbers b c ∧ closeNumbers c a = closeNumbers c b := by
  unfold closeNumbers
  rcases float?_congr h with ⟨ha, hb⟩ | ⟨x, y, hx, hy, hxy⟩
  · rw [ha, hb]
    exact ⟨rfl, rfl⟩
  · rw [hx, hy]
    rcases float? c with _ | z
    · exact ⟨rfl, rfl⟩
    · exact close_congr hxy z

/-! ## 3. Comparisons -/

theorem sameAs_congr {a b : Json} (h : a.sameAs b = true) (c : Json) :
    a.sameAs c = b.sameAs c ∧ c.sameAs a = c.sameAs b := by
  have hleft : a.sameAs c = b.sameAs c := by
    rw [Bool.eq_iff_iff]
    exact ⟨Json.sameAs_trans b a c (Json.sameAs_comm a b ▸ h), Json.sameAs_trans a b c h⟩
  exact ⟨hleft, by rw [Json.sameAs_comm c a, Json.sameAs_comm c b, hleft]⟩

theorem equals_congr {a b : Json} (h : a.sameAs b = true) (c : Json) :
    equals a c = equals b c ∧ equals c a = equals c b := by
  have hsame := sameAs_congr h c
  have hclose := closeNumbers_congr h c
  cases a <;> cases b <;> simp only [Json.sameAs, Bool.false_eq_true, beq_iff_eq] at h
  case num.num m n => cases c <;> exact hclose
  case arr.arr items others => cases c <;> exact hsame
  case obj.obj fields others => cases c <;> exact hsame
  all_goals first | exact ⟨rfl, rfl⟩ | (subst h; exact ⟨rfl, rfl⟩)

/-- The order of the numbers that both values are or write. -/
def compareNumbers (a b : Json) : Option Ordering :=
  (float? a).bind fun x => (float? b).map fun y => compareFloat x y

/-- A number is compared as a number. -/
theorem compare?_num (m : Number) (c : Json) : compare? (.num m) c = compareNumbers (.num m) c := by
  cases c with
  | str text =>
    simp only [compare?, compareNumbers, float?]
    rcases numberForm? text with _ | form <;> rfl
  | _ => rfl

theorem compare?_congr {a b : Json} (h : a.sameAs b = true) (c : Json) :
    compare? a c = compare? b c := by
  have hfloat := float?_congr h
  cases a <;> cases b <;> simp only [Json.sameAs, Bool.false_eq_true, beq_iff_eq] at h
  case num.num m n =>
    rw [compare?_num, compare?_num, compareNumbers, compareNumbers]
    rcases hfloat with ⟨ha, hb⟩ | ⟨x, y, hx, hy, hxy⟩
    · rw [ha, hb]
    · simp only [hx, hy, Option.bind_some, compareFloat, hxy]
  case arr.arr items others => cases c <;> rfl
  case obj.obj fields others => cases c <;> rfl
  all_goals first | rfl | (subst h; rfl)

theorem any_equals_congr (needle : Json) : (items others : List Json) →
    Json.sameItems items others = true →
    (items.any fun item => equals item needle) = others.any fun item => equals item needle
  | [], others, h => by cases others <;> simp_all [Json.sameItems]
  | item :: items, others, h => by
    cases others with
    | nil => simp [Json.sameItems] at h
    | cons other others =>
      simp only [Json.sameItems, Bool.and_eq_true] at h
      rw [List.any_cons, List.any_cons, (equals_congr h.1 needle).1,
        any_equals_congr needle items others h.2]

theorem all_any_equals_congr (found : List Json) : (items others : List Json) →
    Json.sameItems items others = true →
    (items.all fun needle => found.any fun item => equals item needle) =
      others.all fun needle => found.any fun item => equals item needle
  | [], others, h => by cases others <;> simp_all [Json.sameItems]
  | item :: items, others, h => by
    cases others with
    | nil => simp [Json.sameItems] at h
    | cons other others =>
      simp only [Json.sameItems, Bool.and_eq_true] at h
      have hequals : ∀ value, equals value item = equals value other :=
        fun value => (equals_congr h.1 value).2
      simp only [List.all_cons, hequals, all_any_equals_congr found items others h.2]

theorem get?_any_congr (name : Text) (needle : Json) : (fields others : Fields Json) →
    Json.sameFields fields others = true →
    ((Fields.get? name fields).any fun value => equals value needle) =
      (Fields.get? name others).any fun value => equals value needle
  | [], others, h => by cases others <;> simp_all [Json.sameFields]
  | (n, value) :: fields, others, h => by
    rcases others with _ | ⟨⟨m, other⟩, others⟩
    · simp [Json.sameFields] at h
    · simp only [Json.sameFields, Bool.and_eq_true, beq_iff_eq] at h
      obtain ⟨⟨rfl, hvalue⟩, hrest⟩ := h
      simp only [Fields.get?, List.lookup_cons]
      by_cases hname : name = n
      · subst hname
        simpa using (equals_congr hvalue needle).1
      · have hrest := get?_any_congr name needle fields others hrest
        simp only [Fields.get?] at hrest
        simpa [beq_false_of_ne hname] using hrest

theorem all_get?_any_congr (found : Fields Json) : (fields others : Fields Json) →
    Json.sameFields fields others = true →
    (fields.all fun field =>
        (Fields.get? field.1 found).any fun value => equals value field.2) =
      others.all fun field => (Fields.get? field.1 found).any fun value => equals value field.2
  | [], others, h => by cases others <;> simp_all [Json.sameFields]
  | (n, value) :: fields, others, h => by
    rcases others with _ | ⟨⟨m, other⟩, others⟩
    · simp [Json.sameFields] at h
    · simp only [Json.sameFields, Bool.and_eq_true, beq_iff_eq] at h
      obtain ⟨⟨rfl, hvalue⟩, hrest⟩ := h
      have hequals : ∀ found, equals found value = equals found other :=
        fun found => (equals_congr hvalue found).2
      simp only [List.all_cons, hequals, all_get?_any_congr found fields others hrest]

theorem contains_congr {a b : Json} (h : a.sameAs b = true) (c : Json) :
    contains a c = contains b c ∧ contains c a = contains c b := by
  cases a <;> cases b <;> simp only [Json.sameAs, Bool.false_eq_true, beq_iff_eq] at h
  case num.num m n => cases c <;> exact ⟨rfl, rfl⟩
  case arr.arr items others =>
    cases c with
    | arr found =>
      simp only [contains]
      refine ⟨?_, all_any_equals_congr found items others h⟩
      congr 1
      funext needle
      exact any_equals_congr needle items others h
    | _ => exact ⟨rfl, rfl⟩
  case obj.obj fields others =>
    cases c with
    | obj found =>
      simp only [contains]
      refine ⟨?_, all_get?_any_congr found fields others h⟩
      congr 1
      funext needle
      exact get?_any_congr needle.1 needle.2 fields others h
    | _ => exact ⟨rfl, rfl⟩
  all_goals first | exact ⟨rfl, rfl⟩ | (subst h; exact ⟨rfl, rfl⟩)

end Comparison

/-! ## 4. Operators -/

/-- No operator tells values apart that the cache takes for the same. -/
theorem FilterOperator.accepts_congr {a b : Json} (h : a.sameAs b = true) (op : FilterOperator)
    (operand : Json) : op.accepts a operand = op.accepts b operand := by
  have hnull : a.isNull = b.isNull := by
    cases a <;> cases b <;> simp_all [Json.sameAs, Json.isNull]
  have htexts : ∀ matcher,
      accepts.onTexts matcher a operand = accepts.onTexts matcher b operand := by
    intro matcher
    cases a <;> cases b <;> simp only [Json.sameAs, Bool.false_eq_true, beq_iff_eq] at h
    case str.str s t => rw [h]
    all_goals rfl
  have hbool : ∀ x, (a == .bool x) = (b == .bool x) := by
    intro x
    rw [Bool.eq_iff_iff, beq_iff_eq, beq_iff_eq]
    cases a <;> cases b <;> simp_all [Json.sameAs]
  have hequals := fun c => (Comparison.equals_congr h c).1
  unfold accepts
  rw [hnull]
  split
  · rfl
  · cases op with
    | is => cases operand <;> simp only [hbool]
    | in_ => cases operand <;> simp only [hequals]
    | _ =>
      simp only [hequals, Comparison.compare?_congr h, htexts,
        (Comparison.contains_congr h operand).1, (Comparison.contains_congr h operand).2]

end QueryCache
