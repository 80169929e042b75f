/-
QueryCache.Proofs.Binary64.Encoding — binary64 values of whole units.

The value `n * 2 ^ e` is encoded by its sign, its exponent and the bits of its
mantissa below the leading one, and is read back from them (`unpack_value`).
Values of one unit stand in the order of their numbers, whether they are compared
as values (`value_le_iff`) or by the place of their encoding
(`compareFloat_value`).
-/
import QueryCache.Json.Number
import QueryCache.Proofs.Binary64.Rounding

namespace QueryCache.Binary64

open Float.Model Float.Model.UnpackedFloat

/-! ## 1. Encodings -/

/-- A mantissa and an exponent that an encoding has room for. -/
structure IsNormal (m : Nat) (e : Int) : Prop where
  mantissa_ge : 2 ^ 52 ≤ m
  mantissa_lt : m < 2 ^ 53
  exponent_ge : -1074 ≤ e
  exponent_le : e ≤ 971

theorem unpackSign_packComponents {spec : Format} (s : Sign) (e : BitVec spec.exponentBits)
    (m : BitVec spec.mantissaBitsWithoutImplicit) :
    unpackSign (packComponents spec s e m) = s.toBitVec := by
  ext i hi
  obtain rfl : i = 0 := by omega
  simp [unpackSign, packComponents, BitVec.getLsbD_append, BitVec.getElem_append]

theorem toNat_packComponents (s : Sign) (e : BitVec 11) (m : BitVec 52) :
    (packComponents Format.binary64 s e m).toNat =
      s.toBitVec.toNat * 2 ^ 63 + e.toNat * 2 ^ 52 + m.toNat := by
  have happend : ∀ {v w : Nat} (a : BitVec v) (b : BitVec w),
      (a ++ b).toNat = a.toNat * 2 ^ w + b.toNat := by
    intro v w a b
    rw [BitVec.toNat_append, ← Nat.shiftLeft_add_eq_or_of_lt b.isLt, Nat.shiftLeft_eq]
  rw [packComponents, happend, happend]
  ring

theorem toNat_implicit (m : BitVec 52) : (1#1 ++ m).toNat = 2 ^ 52 + m.toNat := by
  rw [BitVec.toNat_append, ← Nat.shiftLeft_add_eq_or_of_lt m.isLt]
  rfl

namespace IsNormal

variable {m : Nat} {e : Int} (h : IsNormal m e)
include h

theorem pack_eq (s : Sign) (hpos : 0 < m) :
    UnpackedFloat.pack Format.binary64 (.finite s m e hpos) =
      packComponents Format.binary64 s (BitVec.ofNat 11 (e + 1075).toNat) (BitVec.ofNat 52 m) := by
  have hlog : m.log2 = 52 := (Nat.log2_eq_iff hpos.ne').2 ⟨h.mantissa_ge, h.mantissa_lt⟩
  have hhigh := h.exponent_le
  have hbias : (e + (Format.binary64.exponentBias : Int) + 52).toNat = (e + 1075).toNat := by
    show (e + 1023 + 52).toNat = _
    rw [add_assoc]
    rfl
  have hroom : ¬2 ^ 11 ≤ (e + 1075).toNat + 1 := by omega
  show (if 2 ^ 11 ≤ (e + (Format.binary64.exponentBias : Int) + 52).toNat + 1 then _
    else if m.log2 + 1 = 53 then _ else _) = _
  rw [hbias, if_neg hroom, if_pos (by omega)]
  exact congrArg (fun biased => packComponents Format.binary64 s (BitVec.ofNat 11 biased) _) hbias

/-- The fields of an encoding give back the exponent and the mantissa. -/
theorem toNat_fields : (BitVec.ofNat 11 (e + 1075).toNat).toNat = (e + 1075).toNat ∧
    2 ^ 52 + (BitVec.ofNat 52 m).toNat = m := by
  have hge := h.mantissa_ge
  have hlt := h.mantissa_lt
  have hlow := h.exponent_ge
  have hhigh := h.exponent_le
  rw [BitVec.toNat_ofNat, BitVec.toNat_ofNat]
  omega

theorem unpack_pack (s : Sign) (hpos : 0 < m) :
    UnpackedFloat.unpack Format.binary64
        (UnpackedFloat.pack Format.binary64 (.finite s m e hpos)) = .finite s m e hpos := by
  obtain ⟨hexponent, hmantissa⟩ := h.toNat_fields
  have hlow := h.exponent_ge
  have hhigh := h.exponent_le
  have hnotInfinite : BitVec.ofNat 11 (e + 1075).toNat ≠ -1#11 := by
    intro hsame
    have hnat := congrArg BitVec.toNat hsame
    rw [hexponent] at hnat
    have hones : (-1#11).toNat = 2047 := rfl
    omega
  have hnotSmall : BitVec.ofNat 11 (e + 1075).toNat ≠ 0#11 := by
    intro hsame
    have hnat := congrArg BitVec.toNat hsame
    rw [hexponent] at hnat
    have hzero : (0#11).toNat = 0 := rfl
    omega
  have hsign : Sign.ofBitVec s.toBitVec = s := by cases s <;> rfl
  rw [h.pack_eq s hpos]
  simp only [UnpackedFloat.unpack, unpackExponent_packComponents, unpackMantissa_packComponents,
    unpackSign_packComponents, hsign, if_neg hnotInfinite, if_neg hnotSmall]
  refine finite_congr ((toNat_implicit _).trans hmantissa) ?_ _
  rw [hexponent]
  show ((e + 1075).toNat : Int) - (1023 + 52) = e
  omega

end IsNormal

/-! ## 2. Values of whole units -/

/-- The number fits 53 bits, and its value in this unit is a normal one. -/
structure IsExact (n e : Int) : Prop where
  fits : nearestInt n = n
  unit_ge : -900 ≤ e
  leading_le : e + n.natAbs.log2 ≤ 1000

/-- The binary64 value `n * 2 ^ e`. -/
def value (n e : Int) : Float :=
  .ofModel (Float.Model.pack (ofUnits n e))

theorem value_mul_two_pow (n e : Int) (j : Nat) : value (n * 2 ^ j) e = value n (e + j) := by
  rw [value, ofUnits_mul_two_pow, value]

theorem ofUnits_of_ne_zero {n : Int} (hn : n ≠ 0) (e : Int) : ofUnits n e =
    .finite (signOf n) (mantissa n.natAbs) (e + n.natAbs.log2 - 52)
      (mantissa_pos (Int.natAbs_ne_zero.2 hn)) :=
  ofMagnitude_eq (Int.natAbs_ne_zero.2 hn) _ _

section

variable {n e : Int} (h : IsExact n e)
include h

theorem isNormal_of_isExact (hn : n ≠ 0) :
    IsNormal (mantissa n.natAbs) (e + n.natAbs.log2 - 52) := by
  obtain ⟨hge, hlt⟩ := mantissa_bounds (Int.natAbs_ne_zero.2 hn)
  have hlow := h.unit_ge
  have hhigh := h.leading_le
  exact ⟨hge, hlt, by omega, by omega⟩

/-- A value is read back from its encoding. -/
theorem unpack_value : (value n e).toModel.unpack = ofUnits n e := by
  rcases eq_or_ne n 0 with rfl | hn
  · show UnpackedFloat.unpack Format.binary64
      (UnpackedFloat.pack Format.binary64 (ofUnits 0 e)) = ofUnits 0 e
    rw [ofUnits_zero]
    rfl
  · show UnpackedFloat.unpack Format.binary64
      (UnpackedFloat.pack Format.binary64 (ofUnits n e)) = ofUnits n e
    rw [ofUnits_of_ne_zero hn]
    exact (isNormal_of_isExact h hn).unpack_pack _ _

end

/-! ## 3. Order -/

/-- Of two numbers that fit, the larger one has the leading bit further up, or
the larger mantissa. -/
theorem log2_or_mantissa_lt {x y : Nat} (hx : nearest x = x) (hy : nearest y = y) (hne : x ≠ 0)
    (h : x < y) : x.log2 < y.log2 ∨ x.log2 = y.log2 ∧ mantissa x < mantissa y := by
  have hlog : x.log2 ≤ y.log2 := (Nat.le_log2 (by omega)).2 ((Nat.log2_self_le hne).trans h.le)
  rcases hlog.lt_or_eq with hlt | hsame
  · exact Or.inl hlt
  · refine Or.inr ⟨hsame, ?_⟩
    have hscaled : mantissa x * 2 ^ y.log2 < mantissa y * 2 ^ y.log2 := by
      rw [mantissa_mul_of_fits hy, ← hsame, mantissa_mul_of_fits hx]
      omega
    exact Nat.lt_of_mul_lt_mul_right hscaled

/-- The place of a positive value among all of them. -/
def place (n : Nat) (e : Int) : Int :=
  (e + n.log2 + 1022) * 2 ^ 52 + mantissa n

theorem place_lt {x y : Nat} (hx : nearest x = x) (hy : nearest y = y) (hne : x ≠ 0) (h : x < y)
    (e : Int) : place x e < place y e := by
  have hxm := (mantissa_bounds hne).2
  have hym := (mantissa_bounds (n := y) (by omega)).1
  have hcase := log2_or_mantissa_lt hx hy hne h
  unfold place
  omega

/-- Values of one sign are compared by their exponents, then by their
mantissas. -/
theorem compare_mantissas {x y : Nat} (hx : nearest x = x) (hy : nearest y = y) (hxne : x ≠ 0)
    (hyne : y ≠ 0) (e : Int) :
    (compare (e + x.log2 - 52) (e + y.log2 - 52)).then (compare (mantissa x) (mantissa y)) =
      compare x y := by
  rcases lt_trichotomy x y with h | rfl | h
  · have hcase := log2_or_mantissa_lt hx hy hxne h
    rw [compare_lt_iff_lt.2 h, Ordering.then_eq_lt, compare_lt_iff_lt, compare_eq_iff_eq,
      compare_lt_iff_lt]
    omega
  · have hsame : compare x x = .eq := compare_eq_iff_eq.2 rfl
    rw [hsame, Ordering.then_eq_eq, compare_eq_iff_eq, compare_eq_iff_eq]
    exact ⟨rfl, rfl⟩
  · have hcase := log2_or_mantissa_lt hy hx hyne h
    rw [compare_gt_iff_gt.2 h, Ordering.then_eq_gt, compare_gt_iff_gt, compare_eq_iff_eq,
      compare_gt_iff_gt]
    omega

theorem nearest_natAbs {n : Int} (h : nearestInt n = n) : nearest n.natAbs = n.natAbs := by
  rw [← natAbs_nearestInt, h]

theorem compare_congr {α β : Type} [LinearOrder α] [LinearOrder β] {a b : α} {c d : β}
    (hlt : a < b ↔ c < d) (hgt : b < a ↔ d < c) : compare a b = compare c d := by
  rcases lt_trichotomy c d with h | h | h
  · rw [compare_lt_iff_lt.2 h, compare_lt_iff_lt, hlt]
    exact h
  · rw [compare_eq_iff_eq.2 h, compare_eq_iff_eq]
    refine le_antisymm (not_lt.1 fun h' => ?_) (not_lt.1 fun h' => ?_)
    · exact (hgt.1 h').ne' h
    · exact (hlt.1 h').ne h
  · rw [compare_gt_iff_gt.2 h, compare_gt_iff_gt]
    exact hgt.2 h

/-- Values of one unit are compared as their numbers are. -/
theorem compare_ofUnits {x y : Int} (hx : nearestInt x = x) (hy : nearestInt y = y) (e : Int) :
    (ofUnits x e).compare (ofUnits y e) = some (compare x y) := by
  -- Values on both sides of zero are told apart by their signs.
  have hmagnitudes := compare_mantissas (nearest_natAbs hx) (nearest_natAbs hy) (e := e)
  rcases lt_trichotomy x 0 with hxneg | rfl | hxpos <;>
    rcases lt_trichotomy y 0 with hyneg | rfl | hypos
  · rw [ofUnits_of_ne_zero hxneg.ne, ofUnits_of_ne_zero hyneg.ne, signOf_of_neg hxneg,
      signOf_of_neg hyneg]
    have hnatAbs : (compare x.natAbs y.natAbs).swap = compare x y := by
      have hturned : compare x.natAbs y.natAbs = compare y x :=
        compare_congr (by omega) (by omega)
      rw [hturned, ← Std.OrientedCmp.eq_swap]
    rw [← hnatAbs, ← hmagnitudes (by omega) (by omega)]
    rfl
  · rw [ofUnits_of_ne_zero hxneg.ne, signOf_of_neg hxneg, compare_lt_iff_lt.2 hxneg]
    rfl
  · rw [ofUnits_of_ne_zero hxneg.ne, ofUnits_of_ne_zero hypos.ne', signOf_of_neg hxneg,
      signOf_of_nonneg hypos.le, compare_lt_iff_lt.2 (hxneg.trans hypos)]
    rfl
  · rw [ofUnits_of_ne_zero hyneg.ne, signOf_of_neg hyneg, compare_gt_iff_gt.2 hyneg]
    rfl
  · rfl
  · rw [ofUnits_of_ne_zero hypos.ne', signOf_of_nonneg hypos.le, compare_lt_iff_lt.2 hypos]
    rfl
  · rw [ofUnits_of_ne_zero hxpos.ne', ofUnits_of_ne_zero hyneg.ne, signOf_of_neg hyneg,
      signOf_of_nonneg hxpos.le, compare_gt_iff_gt.2 (hyneg.trans hxpos)]
    rfl
  · rw [ofUnits_of_ne_zero hxpos.ne', signOf_of_nonneg hxpos.le, compare_gt_iff_gt.2 hxpos]
    rfl
  · rw [ofUnits_of_ne_zero hxpos.ne', ofUnits_of_ne_zero hypos.ne', signOf_of_nonneg hxpos.le,
      signOf_of_nonneg hypos.le]
    have hnatAbs : compare x.natAbs y.natAbs = compare x y := compare_congr (by omega) (by omega)
    rw [← hnatAbs, ← hmagnitudes (by omega) (by omega)]
    rfl

section

variable {x y e : Int} (hx : IsExact x e) (hy : IsExact y e)
include hx hy

theorem compare_value :
    (value x e).toModel.unpack.compare (value y e).toModel.unpack = some (compare x y) := by
  rw [unpack_value hx, unpack_value hy, compare_ofUnits hx.fits hy.fits]

theorem value_le_iff : value x e ≤ value y e ↔ x ≤ y := by
  have hle : value x e ≤ value y e ↔
      ((value x e).toModel.unpack.compare (value y e).toModel.unpack).any (·.isLE) = true :=
    decide_eq_true_iff
  rw [hle, compare_value hx hy, Option.any_some, Std.isLE_compare]

theorem value_lt_iff : value x e < value y e ↔ x < y := by
  have hlt : value x e < value y e ↔
      ((value x e).toModel.unpack.compare (value y e).toModel.unpack == some .lt) = true :=
    decide_eq_true_iff
  rw [hlt, compare_value hx hy, beq_iff_eq, Option.some.injEq, compare_lt_iff_lt]

end

theorem toNat_toBits_value {n e : Int} (h : IsExact n e) (hn : n ≠ 0) :
    (value n e).toBits.toNat =
      (signOf n).toBitVec.toNat * 2 ^ 63 + (e + n.natAbs.log2 + 1023).toNat * 2 ^ 52 +
        (BitVec.ofNat 52 (mantissa n.natAbs)).toNat := by
  have hnormal := isNormal_of_isExact h hn
  have hbiased : e + n.natAbs.log2 - 52 + 1075 = e + n.natAbs.log2 + 1023 := by ring
  show (UnpackedFloat.pack Format.binary64 (ofUnits n e)).toNat = _
  rw [ofUnits_of_ne_zero hn, hnormal.pack_eq, toNat_packComponents, hnormal.toNat_fields.1,
    hbiased]

/-- The place of a value is that of its magnitude, on the side of its sign. -/
theorem floatRank_value {n e : Int} (h : IsExact n e) :
    floatRank (value n e) = n.sign * place n.natAbs e := by
  rcases eq_or_ne n 0 with rfl | hn
  · show floatRank (.ofModel (Float.Model.pack (ofUnits 0 e))) = 0 * _
    rw [ofUnits_zero, zero_mul]
    rfl
  have hbits := toNat_toBits_value h hn
  have hmantissa := (isNormal_of_isExact h hn).toNat_fields.2
  have hlt := (mantissa_bounds (Int.natAbs_ne_zero.2 hn)).2
  have hlow := h.unit_ge
  have hhigh := h.leading_le
  have hlimit : signedLimit = 2 ^ 63 := rfl
  rw [floatRank, place, hlimit]
  rcases hn.lt_or_gt with hneg | hpos
  · have hsign : (signOf n).toBitVec.toNat = 1 := by
      rw [signOf_of_neg hneg]
      rfl
    rw [hsign] at hbits
    rw [if_neg (by omega), Int.sign_eq_neg_one_of_neg hneg]
    omega
  · have hsign : (signOf n).toBitVec.toNat = 0 := by
      rw [signOf_of_nonneg hpos.le]
      rfl
    rw [hsign] at hbits
    rw [if_pos (by omega), Int.sign_eq_one_of_pos hpos]
    omega

theorem place_pos {n : Nat} {e : Int} (he : -900 ≤ e) : 0 < place n e := by
  unfold place
  omega

theorem sign_mul_place_lt {x y e : Int} (hx : IsExact x e) (hy : IsExact y e) (h : x < y) :
    x.sign * place x.natAbs e < y.sign * place y.natAbs e := by
  have hplace : ∀ n : Nat, 0 < place n e := fun n => place_pos hx.unit_ge
  have hxplace := hplace x.natAbs
  have hyplace := hplace y.natAbs
  rcases lt_trichotomy x 0 with hxneg | rfl | hxpos
  · rw [Int.sign_eq_neg_one_of_neg hxneg]
    rcases lt_trichotomy y 0 with hyneg | rfl | hypos
    · have hlt := place_lt (nearest_natAbs hy.fits) (nearest_natAbs hx.fits) (by omega)
        (by omega : y.natAbs < x.natAbs) e
      rw [Int.sign_eq_neg_one_of_neg hyneg]
      omega
    · rw [Int.sign_zero]
      omega
    · rw [Int.sign_eq_one_of_pos hypos]
      omega
  · rw [Int.sign_zero, Int.sign_eq_one_of_pos h]
    omega
  · have hlt := place_lt (nearest_natAbs hx.fits) (nearest_natAbs hy.fits) (by omega)
      (by omega : x.natAbs < y.natAbs) e
    rw [Int.sign_eq_one_of_pos hxpos, Int.sign_eq_one_of_pos (hxpos.trans h)]
    omega

theorem compareFloat_value {x y e : Int} (hx : IsExact x e) (hy : IsExact y e) :
    compareFloat (value x e) (value y e) = compare x y := by
  have hmono : StrictMonoOn (fun n : Int => n.sign * place n.natAbs e) {n | IsExact n e} :=
    fun _ hm _ hn hlt => sign_mul_place_lt hm hn hlt
  rw [compareFloat, floatRank_value hx, floatRank_value hy]
  exact compare_congr (hmono.lt_iff_lt hx hy) (hmono.lt_iff_lt hy hx)

end QueryCache.Binary64
