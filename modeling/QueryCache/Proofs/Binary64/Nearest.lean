/-
QueryCache.Proofs.Binary64.Nearest — rounding to 53 significant bits.

A binary64 value holds 53 significant bits, so a number with more of them is
rounded: to the nearest number that fits, and to the one with the even last bit
when two are equally near.  Here that is done on the natural numbers
(`nearest`), where it commutes with doubling (`nearest_mul_two_pow`), keeps the
order (`nearest_mono`) and is off by at most half of the last bit
(`nearest_le`).
-/
import Mathlib.Algebra.Order.Ring.Nat
import Mathlib.Tactic.Linarith
import Mathlib.Tactic.Ring

namespace QueryCache.Binary64

/-! ## 1. Dropping bits -/

/-- The quotient by `2 ^ k` as the nearest number, of two the even one. -/
def halfEven (n k : Nat) : Nat :=
  if 2 ^ k < 2 * (n % 2 ^ k) ∨ 2 ^ k = 2 * (n % 2 ^ k) ∧ n / 2 ^ k % 2 = 1 then n / 2 ^ k + 1
  else n / 2 ^ k

theorem le_halfEven (n k : Nat) : n / 2 ^ k ≤ halfEven n k := by
  unfold halfEven
  split <;> omega

theorem halfEven_le (n k : Nat) : halfEven n k ≤ n / 2 ^ k + 1 := by
  unfold halfEven
  split <;> omega

theorem halfEven_of_dvd {n k : Nat} (h : 2 ^ k ∣ n) : halfEven n k = n / 2 ^ k := by
  have hpos := Nat.two_pow_pos k
  rw [halfEven, Nat.mod_eq_zero_of_dvd h, if_neg (by omega)]

theorem halfEven_zero (n : Nat) : halfEven n 0 = n := by
  rw [halfEven_of_dvd (one_dvd n), pow_zero, Nat.div_one]

theorem halfEven_mul_two_pow (n k j : Nat) : halfEven (n * 2 ^ j) (k + j) = halfEven n k := by
  have hpos := Nat.two_pow_pos j
  have hquotient : n * 2 ^ j / 2 ^ (k + j) = n / 2 ^ k := by
    rw [pow_add, Nat.mul_div_mul_right _ _ hpos]
  have hremainder : n * 2 ^ j % 2 ^ (k + j) = n % 2 ^ k * 2 ^ j := by
    rw [pow_add, Nat.mul_mod_mul_right]
  have hbeyond : 2 ^ (k + j) < 2 * (n % 2 ^ k * 2 ^ j) ↔ 2 ^ k < 2 * (n % 2 ^ k) := by
    rw [pow_add, ← Nat.mul_assoc, Nat.mul_lt_mul_right hpos]
  have htie : 2 ^ (k + j) = 2 * (n % 2 ^ k * 2 ^ j) ↔ 2 ^ k = 2 * (n % 2 ^ k) := by
    rw [pow_add, ← Nat.mul_assoc, Nat.mul_right_cancel_iff hpos]
  simp only [halfEven, hquotient, hremainder, hbeyond, htie]

theorem halfEven_mono {m n : Nat} (h : m ≤ n) (k : Nat) : halfEven m k ≤ halfEven n k := by
  have hquotient : m / 2 ^ k ≤ n / 2 ^ k := Nat.div_le_div_right h
  rcases hquotient.lt_or_eq with hlt | hsame
  · calc
      halfEven m k ≤ m / 2 ^ k + 1 := halfEven_le m k
      _ ≤ n / 2 ^ k := hlt
      _ ≤ halfEven n k := le_halfEven n k
  · have hremainder : m % 2 ^ k ≤ n % 2 ^ k := by
      have hm := Nat.div_add_mod m (2 ^ k)
      have hn := Nat.div_add_mod n (2 ^ k)
      rw [hsame] at hm
      omega
    unfold halfEven
    rw [hsame]
    split <;> split <;> omega

/-- Half of the last bit kept is the most that is added. -/
theorem two_mul_halfEven_mul_le (n k : Nat) : 2 * (halfEven n k * 2 ^ k) ≤ 2 * n + 2 ^ k := by
  have hdiv := Nat.div_add_mod' n (2 ^ k)
  unfold halfEven
  split
  · rw [Nat.add_mul, Nat.one_mul]
    omega
  · omega

/-! ## 2. The nearest number of 53 bits -/

/-- How many bits of a number are too many. -/
def excess (n : Nat) : Nat :=
  n.log2 - 52

/-- The nearest number with at most 53 significant bits. -/
def nearest (n : Nat) : Nat :=
  halfEven n (excess n) * 2 ^ excess n

theorem excess_of_lt {n : Nat} (h : n < 2 ^ 53) : excess n = 0 := by
  rcases Nat.eq_zero_or_pos n with rfl | hpos
  · rfl
  · have hlog := (Nat.log2_lt hpos.ne').2 h
    unfold excess
    omega

theorem nearest_of_lt {n : Nat} (h : n < 2 ^ 53) : nearest n = n := by
  rw [nearest, excess_of_lt h, halfEven_zero, pow_zero, Nat.mul_one]

theorem nearest_zero : nearest 0 = 0 := nearest_of_lt (by decide)

theorem log2_le_of_le {n k : Nat} (h : n ≤ 2 ^ k) : n.log2 ≤ k := by
  rcases eq_or_ne n 0 with rfl | hn
  · exact Nat.zero_le k
  · rw [← Nat.lt_succ_iff, Nat.log2_lt hn]
    exact h.trans_lt (Nat.pow_lt_pow_right (by decide) (Nat.lt_succ_self k))

theorem log2_mul_two_pow {n : Nat} (h : n ≠ 0) (j : Nat) : (n * 2 ^ j).log2 = n.log2 + j := by
  have hpos := Nat.two_pow_pos j
  refine (Nat.log2_eq_iff (Nat.mul_ne_zero h hpos.ne')).2 ⟨?_, ?_⟩
  · rw [pow_add]
    exact Nat.mul_le_mul_right _ (Nat.log2_self_le h)
  · rw [Nat.add_right_comm, pow_add]
    exact (Nat.mul_lt_mul_right hpos).2 Nat.lt_log2_self

/-- Rounding does not look at where the point stands. -/
theorem nearest_mul_two_pow (n j : Nat) : nearest (n * 2 ^ j) = nearest n * 2 ^ j := by
  rcases eq_or_ne n 0 with rfl | hn
  · rw [Nat.zero_mul, nearest_zero, Nat.zero_mul]
  have hlog := log2_mul_two_pow hn j
  rcases Nat.lt_or_ge n.log2 52 with hlow | hhigh
  · -- What is dropped of the longer number are zeros.
    have hlt : n < 2 ^ 53 := (Nat.log2_lt hn).1 (by omega)
    have hle : excess (n * 2 ^ j) ≤ j := by
      unfold excess
      omega
    have hdvd : 2 ^ excess (n * 2 ^ j) ∣ n * 2 ^ j :=
      Dvd.dvd.mul_left (pow_dvd_pow 2 hle) n
    rw [nearest_of_lt hlt, nearest, halfEven_of_dvd hdvd, Nat.div_mul_cancel hdvd]
  · have hexcess : excess (n * 2 ^ j) = excess n + j := by
      unfold excess
      omega
    rw [nearest, hexcess, halfEven_mul_two_pow, pow_add, ← Nat.mul_assoc]
    rfl

theorem two_pow_log2_le_nearest {n : Nat} (h : n ≠ 0) : 2 ^ n.log2 ≤ nearest n := by
  have hle : excess n ≤ n.log2 := Nat.sub_le _ _
  have hsplit : 2 ^ (n.log2 - excess n) * 2 ^ excess n = 2 ^ n.log2 := by
    rw [← pow_add, Nat.sub_add_cancel hle]
  rw [nearest, ← hsplit]
  refine Nat.mul_le_mul_right _ (le_trans ?_ (le_halfEven n (excess n)))
  rw [Nat.le_div_iff_mul_le (Nat.two_pow_pos _), hsplit]
  exact Nat.log2_self_le h

theorem halfEven_excess_le (n : Nat) : halfEven n (excess n) ≤ 2 ^ (n.log2 + 1 - excess n) := by
  have hle : excess n ≤ n.log2 + 1 := Nat.le_succ_of_le (Nat.sub_le _ _)
  have hlt : n / 2 ^ excess n < 2 ^ (n.log2 + 1 - excess n) := by
    rw [Nat.div_lt_iff_lt_mul (Nat.two_pow_pos _), ← pow_add, Nat.sub_add_cancel hle]
    exact Nat.lt_log2_self
  exact (halfEven_le n (excess n)).trans hlt

theorem nearest_le_two_pow (n : Nat) : nearest n ≤ 2 ^ (n.log2 + 1) := by
  have hle : excess n ≤ n.log2 + 1 := Nat.le_succ_of_le (Nat.sub_le _ _)
  calc
    nearest n ≤ 2 ^ (n.log2 + 1 - excess n) * 2 ^ excess n :=
      Nat.mul_le_mul_right _ (halfEven_excess_le n)
    _ = 2 ^ (n.log2 + 1) := by rw [← pow_add, Nat.sub_add_cancel hle]

theorem nearest_mono {m n : Nat} (h : m ≤ n) : nearest m ≤ nearest n := by
  rcases eq_or_ne m 0 with rfl | hm
  · rw [nearest_zero]
    exact Nat.zero_le _
  have hn : n ≠ 0 := by omega
  have hlog : m.log2 ≤ n.log2 := (Nat.le_log2 hn).2 ((Nat.log2_self_le hm).trans h)
  rcases hlog.lt_or_eq with hlt | hsame
  · calc
      nearest m ≤ 2 ^ (m.log2 + 1) := nearest_le_two_pow m
      _ ≤ 2 ^ n.log2 := Nat.pow_le_pow_right (by decide) hlt
      _ ≤ nearest n := two_pow_log2_le_nearest hn
  · have hexcess : excess m = excess n := by rw [excess, excess, hsame]
    rw [nearest, nearest, hexcess]
    exact Nat.mul_le_mul_right _ (halfEven_mono h _)

theorem nearest_eq_zero_iff {n : Nat} : nearest n = 0 ↔ n = 0 := by
  constructor
  · intro h
    by_contra hn
    have hle := two_pow_log2_le_nearest hn
    have hpos := Nat.two_pow_pos n.log2
    omega
  · rintro rfl
    exact nearest_zero

/-- What fits stays. -/
theorem nearest_nearest (n : Nat) : nearest (nearest n) = nearest n := by
  have hle : halfEven n (excess n) ≤ 2 ^ 53 := by
    rcases Nat.lt_or_ge n.log2 52 with hlow | hhigh
    · have hexcess : excess n = 0 := by
        unfold excess
        omega
      refine (halfEven_excess_le n).trans (Nat.pow_le_pow_right (by decide) ?_)
      omega
    · have hexcess : n.log2 + 1 - excess n = 53 := by
        unfold excess
        omega
      exact hexcess ▸ halfEven_excess_le n
  have hkept : nearest (halfEven n (excess n)) = halfEven n (excess n) := by
    rcases hle.lt_or_eq with hlt | heq
    · exact nearest_of_lt hlt
    · rw [heq]
      decide
  conv_lhs => rw [nearest.eq_def n, nearest_mul_two_pow, hkept]
  rfl

/-- At most half of the last of 53 bits is added. -/
theorem nearest_mul_le (n : Nat) : nearest n * 2 ^ 53 ≤ n * (2 ^ 53 + 1) := by
  rcases Nat.lt_or_ge n (2 ^ 53) with hlt | hge
  · rw [nearest_of_lt hlt, Nat.mul_add]
    exact Nat.le_add_right _ _
  · have hn : n ≠ 0 := by omega
    have hlog : 53 ≤ n.log2 := (Nat.le_log2 hn).2 hge
    have hlast : 2 ^ 52 * 2 ^ excess n ≤ n := by
      rw [← pow_add, excess, Nat.add_sub_cancel' (by omega)]
      exact Nat.log2_self_le hn
    have hadded := two_mul_halfEven_mul_le n (excess n)
    rw [nearest]
    linarith

end QueryCache.Binary64
