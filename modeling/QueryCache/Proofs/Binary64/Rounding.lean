/-
QueryCache.Proofs.Binary64.Rounding — how a result of arithmetic is rounded.

A result of arithmetic is a mantissa of any length with an exponent.  It is
brought to 53 bits: short mantissas are shifted up, long ones are shifted down
bit by bit, with two bits that remember what was dropped.  Within the range of
the normal numbers that is `nearest`, and the rounded number is written with the
mantissa of exactly 53 bits (`normalize_eq`).
-/
import Mathlib
import QueryCache.Proofs.Binary64.Nearest

namespace QueryCache.Binary64

open Float.Model Float.Model.UnpackedFloat

/-! ## 1. The bits dropped -/

/-- The round bit is the last bit dropped, the sticky bit stands for those
below. -/
theorem shiftRight_exact (n k : Nat) :
    ExtendedMantissa.ofMantissaAndAccuracy n .exact >>> (k + 1) =
      ⟨n / 2 ^ (k + 1), n / 2 ^ k % 2 != 0, n % 2 ^ k != 0⟩ := by
  induction k with
  | zero =>
    show ExtendedMantissa.shiftRightOne ⟨n, false, false⟩ = _
    rw [ExtendedMantissa.shiftRightOne, pow_zero, Nat.div_one, Nat.mod_one, zero_add, pow_one]
    rfl
  | succ k ih =>
    show ExtendedMantissa.shiftRightOne
      (ExtendedMantissa.ofMantissaAndAccuracy n .exact >>> (k + 1)) = _
    have hquotient : n / 2 ^ (k + 1) / 2 = n / 2 ^ (k + 1 + 1) := by
      rw [Nat.div_div_eq_div_mul, ← pow_succ]
    have hsticky : (n / 2 ^ k % 2 != 0 || n % 2 ^ k != 0) = (n % 2 ^ (k + 1) != 0) := by
      have hpos := Nat.two_pow_pos k
      rw [Nat.mod_pow_succ, Bool.eq_iff_iff, Bool.or_eq_true, bne_iff_ne, bne_iff_ne, bne_iff_ne]
      rcases Nat.mod_two_eq_zero_or_one (n / 2 ^ k) with hbit | hbit <;> rw [hbit] <;> omega
    rw [ih, ExtendedMantissa.shiftRightOne, hquotient, hsticky]

/-- Those two bits are all that rounding needs. -/
theorem roundedMantissa_shiftRight (n k : Nat) :
    (ExtendedMantissa.ofMantissaAndAccuracy n .exact >>> k).roundedMantissa = halfEven n k := by
  obtain _ | k := k
  · rw [halfEven_zero]
    rfl
  have hpos := Nat.two_pow_pos k
  have hlow : n % 2 ^ k < 2 ^ k := Nat.mod_lt n hpos
  rw [shiftRight_exact, halfEven, Nat.mod_pow_succ, pow_succ]
  rcases Nat.mod_two_eq_zero_or_one (n / 2 ^ k) with hbit | hbit <;>
    rcases Nat.eq_zero_or_pos (n % 2 ^ k) with hrest | hrest <;> rw [hbit]
  · rw [hrest, if_neg (by omega)]
    rfl
  · rw [bne_iff_ne.2 hrest.ne', if_neg (by omega)]
    rfl
  · rw [hrest]
    show n / (2 ^ k * 2) + n / (2 ^ k * 2) % 2 = _
    split <;> omega
  · rw [bne_iff_ne.2 hrest.ne', if_pos (by omega)]
    rfl

/-! ## 2. Mantissas of 53 bits -/

/-- The leading 53 bits of a number. -/
def mantissa (n : Nat) : Nat :=
  n * 2 ^ 52 / 2 ^ n.log2

theorem mantissa_bounds {n : Nat} (h : n ≠ 0) : 2 ^ 52 ≤ mantissa n ∧ mantissa n < 2 ^ 53 := by
  have hpos := Nat.two_pow_pos n.log2
  constructor
  · rw [mantissa, Nat.le_div_iff_mul_le hpos, Nat.mul_comm]
    exact Nat.mul_le_mul_right _ (Nat.log2_self_le h)
  · have hlt : n < 2 ^ (n.log2 + 1) := Nat.lt_log2_self
    rw [pow_succ] at hlt
    rw [mantissa, Nat.div_lt_iff_lt_mul hpos]
    omega

theorem mantissa_pos {n : Nat} (h : n ≠ 0) : 0 < mantissa n :=
  (by decide : 0 < 2 ^ 52).trans_le (mantissa_bounds h).1

theorem mantissa_mul_two_pow (n j : Nat) : mantissa (n * 2 ^ j) = mantissa n := by
  rcases eq_or_ne n 0 with rfl | hn
  · rw [Nat.zero_mul]
  · rw [mantissa, mantissa, log2_mul_two_pow hn, pow_add, Nat.mul_right_comm,
      Nat.mul_div_mul_right _ _ (Nat.two_pow_pos j)]

theorem log2_of_le {n : Nat} (h : 52 ≤ n.log2) : n.log2 = excess n + 52 := by
  unfold excess
  omega

/-- Long numbers lose the bits that are too many. -/
theorem mantissa_of_le {n : Nat} (h : 52 ≤ n.log2) : mantissa n = n / 2 ^ excess n := by
  rw [mantissa, log2_of_le h, pow_add, Nat.mul_div_mul_right _ _ (Nat.two_pow_pos 52)]

/-- A number that fits is its mantissa, moved to where its leading bit is. -/
theorem mantissa_mul_of_fits {n : Nat} (h : nearest n = n) :
    mantissa n * 2 ^ n.log2 = n * 2 ^ 52 := by
  refine Nat.div_mul_cancel ?_
  rcases Nat.lt_or_ge n.log2 52 with hlow | hhigh
  · exact Dvd.dvd.mul_left (pow_dvd_pow 2 hlow.le) n
  · rw [log2_of_le hhigh, pow_add]
    exact Nat.mul_dvd_mul_right (Dvd.intro_left (halfEven n (excess n)) h) _

/-- The binary64 value `n * 2 ^ e` with a sign, its mantissa of 53 bits. -/
def ofMagnitude (s : Sign) (n : Nat) (e : Int) : UnpackedFloat :=
  if h : n = 0 then .zero s else .finite s (mantissa n) (e + n.log2 - 52) (mantissa_pos h)

theorem ofMagnitude_eq {n : Nat} (h : n ≠ 0) (s : Sign) (e : Int) :
    ofMagnitude s n e = .finite s (mantissa n) (e + n.log2 - 52) (mantissa_pos h) :=
  dif_neg h

theorem finite_congr {s : Sign} {m m' : Nat} {e e' : Int} (hm : m = m') (he : e = e')
    (hpos : 0 < m) : UnpackedFloat.finite s m e hpos = .finite s m' e' (hm ▸ hpos) := by
  subst hm he
  rfl

theorem ofMagnitude_mul_two_pow (s : Sign) (n : Nat) (e : Int) (j : Nat) :
    ofMagnitude s (n * 2 ^ j) e = ofMagnitude s n (e + j) := by
  rcases eq_or_ne n 0 with rfl | hn
  · rw [Nat.zero_mul]
    rfl
  · rw [ofMagnitude_eq (Nat.mul_ne_zero hn (Nat.two_pow_pos j).ne'), ofMagnitude_eq hn]
    refine finite_congr (mantissa_mul_two_pow n j) ?_ _
    rw [log2_mul_two_pow hn]
    push_cast
    ring

/-! ## 3. Rounding -/

/-- Where numbers are normal, all 53 bits are kept. -/
theorem targetExponent_eq {n : Nat} {e : Int} (h : -1022 ≤ e + n.log2) :
    Format.binary64.targetExponent (totalExponent n e) = e + n.log2 - 52 := by
  simp only [Format.targetExponent, totalExponent, Format.mantissaBits, Format.minExponent]
  norm_num
  omega

theorem shiftToTargetExponent_eq {n : Nat} {e : Int} (h : -1022 ≤ e + n.log2) :
    shiftToTargetExponent Format.binary64 n e .exact =
      (ExtendedMantissa.ofMantissaAndAccuracy n .exact >>> excess n, e + excess n) := by
  have hshift : (e + n.log2 - 52 - e).toNat = excess n := by
    unfold excess
    omega
  rw [shiftToTargetExponent, targetExponent_eq h, shiftToExponent, hshift]

theorem mantissa_shiftRight (n k : Nat) :
    (ExtendedMantissa.ofMantissaAndAccuracy n .exact >>> k).mantissa = n / 2 ^ k := by
  obtain _ | k := k
  · rw [pow_zero, Nat.div_one]
    rfl
  · rw [shiftRight_exact]

/-- A long mantissa is rounded; if the carry makes it too long, one more bit is
dropped, which is a zero. -/
theorem roundWithAccuracy_eq {n : Nat} {e : Int} (hlong : 52 ≤ n.log2) (h : -1022 ≤ e + n.log2)
    (s : Sign) :
    roundWithAccuracy Format.binary64 s n e .exact = ofMagnitude s (nearest n) e := by
  have hn : n ≠ 0 := by
    rintro rfl
    exact absurd hlong (by decide)
  have hrounded : 52 ≤ (halfEven n (excess n)).log2 := by
    have hle : 2 ^ 52 ≤ halfEven n (excess n) :=
      (mantissa_bounds hn).1.trans (mantissa_of_le hlong ▸ le_halfEven n (excess n))
    exact (Nat.le_log2 (by omega)).2 hle
  have hne : halfEven n (excess n) ≠ 0 := by
    intro hzero
    rw [hzero] at hrounded
    exact absurd hrounded (by decide)
  have hlog := log2_of_le hlong
  have hlogRounded := log2_of_le hrounded
  have hpos : halfEven n (excess n) / 2 ^ excess (halfEven n (excess n)) ≠ 0 := by
    rw [← mantissa_of_le hrounded]
    exact (mantissa_pos hne).ne'
  rw [roundWithAccuracy, shiftToTargetExponent_eq h, nearest, ofMagnitude_mul_two_pow,
    ofMagnitude_eq hne]
  dsimp only
  rw [roundedMantissa_shiftRight, shiftToTargetExponent_eq (by omega)]
  dsimp only
  rw [mantissa_shiftRight, dif_neg hpos]
  exact finite_congr (mantissa_of_le hrounded).symm (by omega) _

/-- A short mantissa is shifted up first. -/
theorem round_eq {n : Nat} {e : Int} (hn : n ≠ 0) (h : -1022 ≤ e + n.log2) (s : Sign) :
    UnpackedFloat.round Format.binary64 s n e = ofMagnitude s (nearest n) e := by
  obtain ⟨j, hj⟩ : ∃ j : Nat, j = 52 - n.log2 := ⟨_, rfl⟩
  have hshift : (e - (e + n.log2 - 52)).toNat = j := by omega
  have hlog := log2_mul_two_pow hn j
  rw [UnpackedFloat.round, targetExponent_eq h, decreaseExponent, hshift]
  dsimp only
  rw [Nat.shiftLeft_eq, roundWithAccuracy_eq (by omega) (by omega), nearest_mul_two_pow,
    ofMagnitude_mul_two_pow, sub_add_cancel]

/-! ## 4. Signed numbers -/

/-- The sign of a number; zero counts as positive. -/
def signOf (n : Int) : Sign :=
  if n < 0 then .negative else .positive

/-- The binary64 value `n * 2 ^ e`. -/
def ofUnits (n e : Int) : UnpackedFloat :=
  ofMagnitude (signOf n) n.natAbs e

theorem signOf_of_neg {n : Int} (h : n < 0) : signOf n = .negative :=
  if_pos h

theorem signOf_of_nonneg {n : Int} (h : 0 ≤ n) : signOf n = .positive :=
  if_neg (Int.not_lt.2 h)

theorem ofUnits_zero (e : Int) : ofUnits 0 e = .zero .positive := rfl

theorem ofUnits_mul_two_pow (n e : Int) (j : Nat) : ofUnits (n * 2 ^ j) e = ofUnits n (e + j) := by
  have hpos : (0 : Int) < 2 ^ j := by positivity
  have hsign : signOf (n * 2 ^ j) = signOf n := by
    have hneg : n * 2 ^ j < 0 ↔ n < 0 := by
      simpa using mul_lt_mul_iff_left₀ hpos (b := n) (c := 0)
    simp only [signOf, hneg]
  have habs : (n * 2 ^ j).natAbs = n.natAbs * 2 ^ j := by
    rw [Int.natAbs_mul, Int.natAbs_pow]
    rfl
  rw [ofUnits, hsign, habs, ofMagnitude_mul_two_pow]
  rfl

/-- Numbers are rounded alike on either side of zero. -/
def nearestInt : Int → Int
  | .ofNat n => nearest n
  | .negSucc n => -nearest (n + 1)

theorem nearestInt_natCast (n : Nat) : nearestInt n = nearest n := rfl

theorem nearestInt_neg (n : Int) : nearestInt (-n) = -nearestInt n := by
  rcases n with (_ | n) | n
  · show (nearest 0 : Int) = -nearest 0
    rw [nearest_zero]
    rfl
  · rfl
  · exact (neg_neg _).symm

theorem nearestInt_of_lt {n : Int} (h : n.natAbs < 2 ^ 53) : nearestInt n = n := by
  rcases n with n | n
  · exact congrArg Nat.cast (nearest_of_lt h)
  · have hkept : nearest (n + 1) = n + 1 := nearest_of_lt h
    show -(nearest (n + 1) : Int) = _
    rw [hkept]
    rfl

theorem natAbs_nearestInt (n : Int) : (nearestInt n).natAbs = nearest n.natAbs := by
  rcases n with n | n
  · exact Int.natAbs_natCast _
  · show (-(nearest (n + 1) : Int)).natAbs = nearest (n + 1)
    rw [Int.natAbs_neg, Int.natAbs_natCast]

theorem signOf_nearestInt (n : Int) : signOf (nearestInt n) = signOf n := by
  rcases n with n | n
  · exact (signOf_of_nonneg (Int.natCast_nonneg _)).trans
      (signOf_of_nonneg (Int.natCast_nonneg n)).symm
  · have hpos : 0 < nearest (n + 1) := Nat.pos_of_ne_zero fun h => by
      simpa using nearest_eq_zero_iff.1 h
    exact (signOf_of_neg (by simpa [nearestInt] using hpos)).trans
      (signOf_of_neg (Int.negSucc_lt_zero n)).symm

theorem nearestInt_nearestInt (n : Int) : nearestInt (nearestInt n) = nearestInt n := by
  rcases n with n | n
  · exact congrArg Nat.cast (nearest_nearest n)
  · show nearestInt (-nearest (n + 1)) = _
    rw [nearestInt_neg, nearestInt_natCast, nearest_nearest]
    rfl

theorem nearestInt_mul_two_pow (n : Int) (j : Nat) :
    nearestInt (n * 2 ^ j) = nearestInt n * 2 ^ j := by
  have hnat : ∀ m : Nat, nearestInt ((m : Int) * 2 ^ j) = nearestInt m * 2 ^ j := by
    intro m
    rw [nearestInt_natCast, ← Nat.cast_ofNat, ← Nat.cast_pow, ← Nat.cast_mul, nearestInt_natCast,
      nearest_mul_two_pow, Nat.cast_mul]
  obtain ⟨m, rfl | rfl⟩ := Int.eq_nat_or_neg n
  · exact hnat m
  · rw [neg_mul, nearestInt_neg, nearestInt_neg, hnat, neg_mul]

theorem nearestInt_mono {m n : Int} (h : m ≤ n) : nearestInt m ≤ nearestInt n := by
  rcases m with m | m <;> rcases n with n | n
  · exact Int.ofNat_le.2 (nearest_mono (Int.ofNat_le.1 h))
  · exact absurd h (Int.not_le.2 ((Int.negSucc_lt_zero n).trans_le (Int.natCast_nonneg m)))
  · exact (neg_nonpos.2 (Int.natCast_nonneg _)).trans (Int.natCast_nonneg _)
  · have hle : n + 1 ≤ m + 1 := by omega
    exact neg_le_neg (Int.ofNat_le.2 (nearest_mono hle))

/-- A signed mantissa is rounded to the nearest number with the sign. -/
theorem normalize_eq {n e : Int} (h : -1022 ≤ e) :
    UnpackedFloat.normalize Format.binary64 n e .positive = ofUnits (nearestInt n) e := by
  have hround : ∀ s, n ≠ 0 →
      UnpackedFloat.round Format.binary64 s n.natAbs e = ofMagnitude s (nearest n.natAbs) e :=
    fun s hn => round_eq (Int.natAbs_ne_zero.2 hn) (by omega) s
  rw [ofUnits, natAbs_nearestInt, signOf_nearestInt, UnpackedFloat.normalize]
  rcases lt_trichotomy n 0 with hn | rfl | hn
  · have habs : (-n).toNat = n.natAbs := by omega
    rw [Int.compare_eq_lt.2 hn, signOf_of_neg hn, ← hround _ hn.ne]
    exact congrArg (UnpackedFloat.round Format.binary64 .negative · e) habs
  · rw [Int.natAbs_zero, nearest_zero]
    rfl
  · have habs : n.toNat = n.natAbs := by omega
    rw [Int.compare_eq_gt.2 hn, signOf_of_nonneg hn.le, ← hround _ hn.ne']
    exact congrArg (UnpackedFloat.round Format.binary64 .positive · e) habs

end QueryCache.Binary64
