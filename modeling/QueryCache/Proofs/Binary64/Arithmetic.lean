/-
QueryCache.Proofs.Binary64.Arithmetic — arithmetic on values of whole units.

Integers become values of the unit one (`ofInt_eq_value`).  Differences and
products of values are those of their numbers, rounded (`value_sub`,
`value_mul`).
-/
import QueryCache.Proofs.Binary64.Encoding

namespace QueryCache.Binary64

open Float.Model Float.Model.UnpackedFloat

/-! ## 1. Exact numbers -/

/-- Rounded numbers that are not too large are exact. -/
theorem isExact_nearestInt {n e : Int} (hlow : -900 ≤ e) (hhigh : e + n.natAbs.log2 ≤ 999) :
    IsExact (nearestInt n) e := by
  refine ⟨nearestInt_nearestInt n, hlow, ?_⟩
  have hle : (nearest n.natAbs).log2 ≤ n.natAbs.log2 + 1 := log2_le_of_le (nearest_le_two_pow _)
  rw [natAbs_nearestInt]
  omega

theorem IsExact.neg {n e : Int} (h : IsExact n e) : IsExact (-n) e :=
  ⟨by rw [nearestInt_neg, h.fits], h.unit_ge, by rw [Int.natAbs_neg]; exact h.leading_le⟩

theorem IsExact.natAbs {n e : Int} (h : IsExact n e) : IsExact n.natAbs e := by
  refine ⟨?_, h.unit_ge, by rw [Int.natAbs_natCast]; exact h.leading_le⟩
  rw [nearestInt_natCast, nearest_natAbs h.fits]

/-- A value is exact in every smaller unit. -/
theorem IsExact.mul_two_pow {n e : Int} {j : Nat} (h : IsExact n (e + j)) (hlow : -900 ≤ e)
    (hhigh : e ≤ 1000) : IsExact (n * 2 ^ j) e := by
  refine ⟨by rw [nearestInt_mul_two_pow, h.fits], hlow, ?_⟩
  rw [Int.natAbs_mul, Int.natAbs_pow]
  rcases eq_or_ne n.natAbs 0 with hn | hn
  · rw [hn, Nat.zero_mul]
    simpa using hhigh
  · have hlog := log2_mul_two_pow hn j
    have hle := h.leading_le
    show e + ((n.natAbs * 2 ^ j).log2 : Nat) ≤ 1000
    omega

/-- Numbers with the same value, each in its unit, round to the same value. -/
theorem ofUnits_nearestInt_congr {x y e f : Int} {i j : Nat} (h : x * 2 ^ i = y * 2 ^ j)
    (hunit : e - i = f - j) : ofUnits (nearestInt x) e = ofUnits (nearestInt y) f := by
  rw [← sub_add_cancel e (i : Int), ← sub_add_cancel f (j : Int), hunit, ← ofUnits_mul_two_pow,
    ← ofUnits_mul_two_pow, ← nearestInt_mul_two_pow, ← nearestInt_mul_two_pow, h]

/-! ## 2. Signs -/

theorem neg_ofUnits {n : Int} (hn : n ≠ 0) (e : Int) : (ofUnits n e).neg = ofUnits (-n) e := by
  have hsign : -signOf n = signOf (-n) := by
    rcases hn.lt_or_gt with hneg | hpos
    · rw [signOf_of_neg hneg, signOf_of_nonneg (by omega)]
      rfl
    · rw [signOf_of_nonneg hpos.le, signOf_of_neg (by omega)]
      rfl
  rw [ofUnits_of_ne_zero hn, ofUnits, Int.natAbs_neg, ← hsign,
    ofMagnitude_eq (Int.natAbs_ne_zero.2 hn)]
  rfl

section

variable {n e : Int} (h : IsExact n e)
include h

theorem value_neg (hn : n ≠ 0) : -value n e = value (-n) e := by
  have hunpack : -value n e = .ofModel (Float.Model.pack (value n e).toModel.unpack.neg) := rfl
  rw [hunpack, unpack_value h, neg_ofUnits hn]
  rfl

theorem value_abs : (value n e).abs = value n.natAbs e := by
  have hunpack : (value n e).abs = .ofModel (Float.Model.pack (value n e).toModel.unpack.abs) :=
    rfl
  rw [hunpack, unpack_value h]
  rcases eq_or_ne n 0 with rfl | hn
  · rfl
  · rw [ofUnits_of_ne_zero hn, value, ofUnits, signOf_of_nonneg (Int.natCast_nonneg _),
      Int.natAbs_natCast, ofMagnitude_eq (Int.natAbs_ne_zero.2 hn)]
    rfl

end

/-! ## 3. Differences -/

/-- A mantissa that is moved down to an exponent below its own. -/
theorem apply_decreaseExponent {n e : Int} (h : nearestInt n = n) {l : Nat}
    (hl : l ≤ n.natAbs.log2) :
    (signOf n).apply
        (decreaseExponent (mantissa n.natAbs) (e + n.natAbs.log2 - 52) (e + l - 52)).1 * 2 ^ l =
      n * 2 ^ 52 := by
  have hshift : (e + n.natAbs.log2 - 52 - (e + l - 52)).toNat = n.natAbs.log2 - l := by omega
  have hmagnitude : mantissa n.natAbs * 2 ^ (n.natAbs.log2 - l) * 2 ^ l = n.natAbs * 2 ^ 52 := by
    rw [Nat.mul_assoc, ← pow_add, Nat.sub_add_cancel hl,
      mantissa_mul_of_fits (nearest_natAbs h)]
  have hcast : ((mantissa n.natAbs * 2 ^ (n.natAbs.log2 - l) : Nat) : Int) * 2 ^ l =
      n.natAbs * 2 ^ 52 := by
    exact_mod_cast hmagnitude
  rw [decreaseExponent, hshift, Nat.shiftLeft_eq]
  rcases lt_or_ge n 0 with hneg | hnonneg
  · rw [signOf_of_neg hneg, Sign.apply, neg_mul, hcast]
    omega
  · rw [signOf_of_nonneg hnonneg, Sign.apply, hcast]
    omega

/-- Both numbers are aligned to the smaller exponent, then subtracted. -/
theorem sub_ofUnits {x y e : Int} (hx : IsExact x e) (hy : IsExact y e) :
    UnpackedFloat.sub Format.binary64 (ofUnits x e) (ofUnits y e) =
      ofUnits (nearestInt (x - y)) e := by
  rcases eq_or_ne x 0 with rfl | hxne
  · rcases eq_or_ne y 0 with rfl | hyne
    · rfl
    · rw [zero_sub, hy.neg.fits, ← neg_ofUnits hyne, ofUnits_of_ne_zero hyne]
      rfl
  rcases eq_or_ne y 0 with rfl | hyne
  · rw [sub_zero, hx.fits, ofUnits_zero, ofUnits_of_ne_zero hxne]
    rfl
  obtain ⟨l, hl⟩ : ∃ l : Nat, l = min x.natAbs.log2 y.natAbs.log2 := ⟨_, rfl⟩
  have hmin : min (e + x.natAbs.log2 - 52) (e + y.natAbs.log2 - 52) = e + l - 52 := by omega
  have hxshift := apply_decreaseExponent (e := e) hx.fits (l := l) (by omega)
  have hyshift := apply_decreaseExponent (e := e) hy.fits (l := l) (by omega)
  have hlow := hx.unit_ge
  rw [ofUnits_of_ne_zero hxne, ofUnits_of_ne_zero hyne, UnpackedFloat.sub]
  dsimp only
  rw [hmin, normalize_eq (by omega)]
  refine ofUnits_nearestInt_congr (i := l) (j := 52) ?_ (by omega)
  rw [sub_mul, sub_mul, hxshift, hyshift]

theorem value_sub {x y e : Int} (hx : IsExact x e) (hy : IsExact y e) :
    value x e - value y e = value (nearestInt (x - y)) e := by
  have hunpack : value x e - value y e = .ofModel (Float.Model.pack
      (UnpackedFloat.sub Format.binary64 (value x e).toModel.unpack (value y e).toModel.unpack)) :=
    rfl
  rw [hunpack, unpack_value hx, unpack_value hy, sub_ofUnits hx hy]
  rfl

/-! ## 4. Products -/

theorem ofUnits_natCast (n : Nat) (e : Int) : ofUnits n e = ofMagnitude .positive n e := by
  rw [ofUnits, signOf_of_nonneg (Int.natCast_nonneg n), Int.natAbs_natCast]

section

variable {x y : Nat} {e f : Int} (hx : IsExact x e) (hy : IsExact y f) (hunit : -900 ≤ e + f)
include hx hy hunit

/-- The mantissas are multiplied; a product of two is always long. -/
theorem mul_ofUnits : UnpackedFloat.mul Format.binary64 (ofUnits x e) (ofUnits y f) =
    ofUnits (nearestInt (x * y)) (e + f) := by
  have hxfits : nearest x = x := Nat.cast_injective hx.fits
  have hyfits : nearest y = y := Nat.cast_injective hy.fits
  rw [ofUnits_natCast, ofUnits_natCast]
  rcases eq_or_ne x 0 with rfl | hxne
  · rcases eq_or_ne y 0 with rfl | hyne
    · rfl
    · rw [ofMagnitude_eq hyne, Nat.cast_zero, zero_mul]
      rfl
  rcases eq_or_ne y 0 with rfl | hyne
  · rw [ofMagnitude_eq hxne, Nat.cast_zero, mul_zero]
    rfl
  have hproduct : mantissa x * mantissa y * 2 ^ (x.log2 + y.log2) = x * y * 2 ^ 104 := by
    rw [pow_add, mul_mul_mul_comm, mantissa_mul_of_fits hxfits, mantissa_mul_of_fits hyfits,
      mul_mul_mul_comm, ← pow_add]
  have hlong : 52 ≤ (mantissa x * mantissa y).log2 := by
    refine (Nat.le_log2 (Nat.mul_ne_zero (mantissa_pos hxne).ne' (mantissa_pos hyne).ne')).2 ?_
    exact (mantissa_bounds hxne).1.trans (Nat.le_mul_of_pos_right _ (mantissa_pos hyne))
  rw [ofMagnitude_eq hxne, ofMagnitude_eq hyne, UnpackedFloat.mul,
    roundWithAccuracy_eq hlong (by omega)]
  refine (ofUnits_natCast _ _).symm.trans ?_
  rw [← nearestInt_natCast]
  refine ofUnits_nearestInt_congr (i := x.log2 + y.log2) (j := 104) ?_ ?_
  · exact_mod_cast hproduct
  · push_cast
    ring

theorem value_mul : value x e * value y f = value (nearestInt (x * y)) (e + f) := by
  have hunpack : value x e * value y f = .ofModel (Float.Model.pack
      (UnpackedFloat.mul Format.binary64 (value x e).toModel.unpack (value y f).toModel.unpack)) :=
    rfl
  rw [hunpack, unpack_value hx, unpack_value hy, mul_ofUnits hx hy hunit]
  rfl

end

/-! ## 5. Integers -/

theorem value_one : value 1 0 = Float.ofBits 0x3FF0000000000000 := by
  decide +kernel

/-- A number of 64 bits becomes the nearest value. -/
theorem toFloat_toUInt64 {n : Nat} (h : n < 2 ^ 64) : n.toUInt64.toFloat = value (nearest n) 0 := by
  have hmodel : n.toUInt64.toFloat = .ofModel (Float.Model.pack
      (UnpackedFloat.normalize Format.binary64 n.toUInt64.toNat 0 .positive)) := rfl
  have hnat : n.toUInt64.toNat = n := by
    rw [Nat.toUInt64, UInt64.toNat_ofNat', Nat.mod_eq_of_lt h]
  rw [hmodel, hnat, normalize_eq (by decide)]
  rfl

theorem isExact_nearest {n : Nat} (h : n < 2 ^ 100) : IsExact (nearest n) 0 := by
  have hlog : n.log2 ≤ 100 := log2_le_of_le h.le
  exact isExact_nearestInt (n := n) (by decide) (by rw [Int.natAbs_natCast]; omega)

/-- A number of more than 53 bits is read from its decimal digits. -/
theorem ofScientific_eq {n : Nat} (h : 2 ^ 53 ≤ n) :
    UnpackedFloat.ofScientific Format.binary64 n 0 = ofUnits (nearest n) 0 := by
  have hn : n ≠ 0 := by omega
  have hlog : 53 ≤ n.log2 := (Nat.le_log2 hn).2 h
  have hshifted := log2_mul_two_pow hn 53
  have hbits : (0 : Int) < 2 ^ Format.binary64.exponentBits := by decide
  rw [UnpackedFloat.ofScientific, dif_neg hn, if_neg (by decide), if_neg (by omega),
    if_pos le_rfl]
  show roundWithAccuracy Format.binary64 .positive (n <<< 53 * 1) (-53) .exact = _
  rw [Nat.mul_one, Nat.shiftLeft_eq, roundWithAccuracy_eq (by omega) (by omega),
    nearest_mul_two_pow, ofMagnitude_mul_two_pow, ofUnits_natCast]
  rfl

theorem ofNat_eq_value {n : Nat} (h : n < 2 ^ 100) : Float.ofNat n = value (nearest n) 0 := by
  rcases Nat.lt_or_ge n (2 ^ 53) with hshort | hlong
  · have hmodel : Float.ofNat n = n.toUInt64.toFloat * Float.ofBits 0x3FF0000000000000 :=
      dif_pos ⟨hshort, by decide⟩
    have hone : IsExact (1 : Nat) 0 := ⟨by decide, by decide, by decide⟩
    rw [hmodel, toFloat_toUInt64 (by omega), ← value_one, ← Nat.cast_one,
      value_mul (isExact_nearest h) hone (by decide), Nat.cast_one, mul_one,
      (isExact_nearest h).fits, add_zero]
  · have hmodel : Float.ofNat n = .ofModel (Float.Model.pack
        (UnpackedFloat.ofScientific Format.binary64 n 0)) :=
      dif_neg fun hfast => absurd hfast.1 (Nat.not_lt.2 hlong)
    rw [hmodel, ofScientific_eq hlong]
    rfl

/-- An integer becomes the nearest value. -/
theorem ofInt_eq_value {n : Int} (h : n.natAbs < 2 ^ 100) :
    Float.ofInt n = value (nearestInt n) 0 := by
  rcases n with n | n
  · exact ofNat_eq_value h
  · have hlt : n + 1 < 2 ^ 100 := h
    have hpos : (nearest (n + 1) : Int) ≠ 0 := by
      rw [Nat.cast_ne_zero, Ne, nearest_eq_zero_iff]
      exact Nat.succ_ne_zero n
    show -Float.ofNat (n + 1) = value (-nearest (n + 1)) 0
    rw [ofNat_eq_value hlt, value_neg (isExact_nearest hlt) hpos]

end QueryCache.Binary64
