import Mathlib.Algebra.Order.Field.Power
import Mathlib.Data.Int.Log
import Mathlib.Data.Rat.Floor
import Mathlib.Tactic.FieldSimp
import Mathlib.Tactic.Linarith
import Mathlib.Tactic.Positivity
import StoredRoutines.Number.Double

/-!
Rounding to binary numbers of 53 bits. The exponent of a quotient is the one at which its whole part
has 53 bits, as far as the least exponent allows. So a quotient that is a binary number already is
rounded to itself, and all the digits of a magnitude spell it.
-/

namespace StoredRoutines.Number

/-- The value of a binary number. -/
def Binary64.value (x : Binary64) : ℚ := x.mantissa * (2 : ℚ) ^ x.exponent

/-- The number is finite, and its mantissa has 53 bits unless its exponent is the least. -/
structure Binary64.Normal (x : Binary64) : Prop where
  least : -1074 ≤ x.exponent
  greatest : x.exponent ≤ 971
  bits : x.mantissa < 2 ^ 53
  filled : 2 ^ 52 ≤ x.mantissa ∨ x.exponent = -1074

theorem scaled_positive {p q : Nat} (h : 0 < q) (e : Int) : 0 < (scaled p q e).2 := by
  unfold scaled
  split
  · exact Nat.mul_pos h (Nat.pow_pos (by omega))
  · exact h

theorem scaled_ratio (p : Nat) {q : Nat} (h : 0 < q) (e : Int) :
    ((scaled p q e).1 : ℚ) = (p / q : ℚ) * 2 ^ (-e) * (scaled p q e).2 := by
  have nonzero : (q : ℚ) ≠ 0 := by exact_mod_cast h.ne'
  unfold scaled
  split
  · rename_i up
    obtain ⟨n, rfl⟩ := Int.eq_ofNat_of_zero_le up
    simp only [Int.toNat_natCast, Nat.pow_eq, Nat.cast_mul, Nat.cast_pow, Nat.cast_ofNat, zpow_neg,
      zpow_natCast]
    field_simp
  · obtain ⟨n, rfl⟩ : ∃ n : Nat, e = -n := ⟨(-e).toNat, by omega⟩
    simp only [neg_neg, Int.toNat_natCast, Nat.pow_eq, Nat.cast_mul, Nat.cast_pow, Nat.cast_ofNat,
      zpow_natCast]
    field_simp

theorem log_bounds {n : Nat} (positive : 0 < n) :
    (2 : ℚ) ^ (n.log2 : Int) ≤ n ∧ (n : ℚ) < 2 ^ ((n.log2 : Int) + 1) := by
  have low : 2 ^ n.log2 ≤ n := Nat.log2_self_le positive.ne'
  have high : n < 2 ^ (n.log2 + 1) := Nat.lt_log2_self
  exact ⟨by exact_mod_cast low, by exact_mod_cast high⟩

/-- The logarithms of numerator and denominator tell the one of their quotient up to one. -/
theorem log_div {p q : Nat} (hp : 0 < p) (hq : 0 < q) :
    Int.log 2 (p / q : ℚ) = p.log2 - q.log2 ∨ Int.log 2 (p / q : ℚ) = p.log2 - q.log2 - 1 := by
  obtain ⟨lowP, highP⟩ := log_bounds hp
  obtain ⟨lowQ, highQ⟩ := log_bounds hq
  have posQ : (0 : ℚ) < q := by exact_mod_cast hq
  have pos : (0 : ℚ) < p / q := div_pos (by exact_mod_cast hp) posQ
  have above : (p / q : ℚ) < 2 ^ ((p.log2 : Int) - q.log2 + 1) := by
    rw [div_lt_iff₀ posQ]
    calc (p : ℚ) < 2 ^ ((p.log2 : Int) + 1) := highP
      _ = 2 ^ ((p.log2 : Int) - q.log2 + 1) * 2 ^ (q.log2 : Int) := by
        rw [← zpow_add₀ (by norm_num)]
        congr 1
        omega
      _ ≤ 2 ^ ((p.log2 : Int) - q.log2 + 1) * q := by gcongr
  have below : (2 : ℚ) ^ ((p.log2 : Int) - q.log2 - 1) ≤ p / q := by
    rw [le_div_iff₀ posQ]
    calc (2 : ℚ) ^ ((p.log2 : Int) - q.log2 - 1) * q
        ≤ 2 ^ ((p.log2 : Int) - q.log2 - 1) * 2 ^ ((q.log2 : Int) + 1) := by gcongr
      _ = 2 ^ (p.log2 : Int) := by
        rw [← zpow_add₀ (by norm_num)]
        congr 1
        omega
      _ ≤ p := lowP
  have upper : Int.log 2 (p / q : ℚ) < p.log2 - q.log2 + 1 :=
    (Int.lt_zpow_iff_log_lt (by omega) pos).1 above
  have lower : (p.log2 : Int) - q.log2 - 1 ≤ Int.log 2 (p / q : ℚ) :=
    (Int.zpow_le_iff_le_log (by omega) pos).1 below
  omega

/-- At its exponent the whole part of a quotient has 53 bits. -/
theorem exponentFor_eq {p q : Nat} (hp : 0 < p) (hq : 0 < q) :
    exponentFor p q = max (-1074) (Int.log 2 (p / q : ℚ) - 52) := by
  have pos : (0 : ℚ) < p / q := div_pos (by exact_mod_cast hp) (by exact_mod_cast hq)
  have small (e : Int) : (scaled p q e).1 < Nat.pow 2 52 * (scaled p q e).2 ↔
      Int.log 2 (p / q : ℚ) < 52 + e := by
    have posB : (0 : ℚ) < (scaled p q e).2 := by exact_mod_cast scaled_positive hq e
    have power : (0 : ℚ) < 2 ^ e := by positivity
    rw [← Int.lt_zpow_iff_log_lt (by omega) pos, ← Nat.cast_lt (α := ℚ), scaled_ratio p hq]
    simp only [Nat.pow_eq, Nat.cast_mul, Nat.cast_pow, Nat.cast_ofNat]
    rw [mul_lt_mul_iff_left₀ posB, zpow_neg, ← div_eq_mul_inv, div_lt_iff₀ power,
      zpow_add₀ (by norm_num)]
    norm_num
  unfold exponentFor
  simp only [small]
  rcases log_div hp hq with same | less
  · rw [if_neg (by omega), same]
  · rw [if_pos (by omega), less]
    congr 1
    omega

theorem nearestEven_mul (m : Nat) {q : Nat} (h : 0 < q) : nearestEven (m * q) q = m := by
  simp [nearestEven, Nat.mul_div_cancel m h, h]

theorem log_value {x : Binary64} (nonzero : x.mantissa ≠ 0) :
    Int.log 2 x.value = x.mantissa.log2 + x.exponent := by
  obtain ⟨low, high⟩ := log_bounds (Nat.pos_of_ne_zero nonzero)
  have mantissa : (0 : ℚ) < x.mantissa := by exact_mod_cast Nat.pos_of_ne_zero nonzero
  have pos : 0 < x.value := mul_pos mantissa (by positivity)
  have lower : (x.mantissa.log2 : Int) + x.exponent ≤ Int.log 2 x.value := by
    rw [← Int.zpow_le_iff_le_log (by omega) pos, Binary64.value, Nat.cast_ofNat,
      zpow_add₀ (by norm_num)]
    gcongr
  have upper : Int.log 2 x.value < x.mantissa.log2 + 1 + x.exponent := by
    rw [← Int.lt_zpow_iff_log_lt (by omega) pos, Binary64.value, Nat.cast_ofNat,
      zpow_add₀ (by norm_num)]
    gcongr
  omega

/-- A binary number of 53 bits already stands at the exponent that is chosen for it. -/
theorem exponentFor_of_normal {p q : Nat} {x : Binary64} (hp : 0 < p) (hq : 0 < q)
    (normal : x.Normal) (nonzero : x.mantissa ≠ 0) (same : (p / q : ℚ) = x.value) :
    exponentFor p q = x.exponent := by
  rw [exponentFor_eq hp hq, same, log_value nonzero]
  have bits : x.mantissa.log2 < 53 := (Nat.log2_lt nonzero).2 normal.bits
  rcases normal.filled with full | least
  · have : 52 ≤ x.mantissa.log2 := (Nat.le_log2 nonzero).2 full
    have := normal.least
    omega
  · omega

theorem scaled_of_value {p q : Nat} {x : Binary64} (hq : 0 < q) (same : (p / q : ℚ) = x.value) :
    (scaled p q x.exponent).1 = x.mantissa * (scaled p q x.exponent).2 := by
  have ratio := scaled_ratio p hq x.exponent
  rw [same, Binary64.value, mul_assoc (x.mantissa : ℚ), ← zpow_add₀ (by norm_num),
    add_neg_cancel, zpow_zero, mul_one] at ratio
  exact_mod_cast ratio

/-- A quotient that is a binary number is rounded to itself. -/
theorem ofRatio_eq {p q : Nat} {x : Binary64} (hq : 0 < q) (normal : x.Normal)
    (nonzero : x.mantissa ≠ 0) (same : (p / q : ℚ) = x.value) : Binary64.ofRatio p q = some x := by
  have hp : 0 < p := by
    refine Nat.pos_of_ne_zero fun none => nonzero ?_
    rw [none, Nat.cast_zero, zero_div, Binary64.value, eq_comm, mul_eq_zero, Nat.cast_eq_zero] at same
    exact same.resolve_right (zpow_ne_zero _ (by norm_num))
  have nearest : nearestEven (scaled p q x.exponent).1 (scaled p q x.exponent).2 = x.mantissa := by
    rw [scaled_of_value hq same, nearestEven_mul _ (scaled_positive hq _)]
  have bits : x.mantissa < Nat.pow 2 53 := normal.bits
  have fits := normal.greatest
  rw [Binary64.ofRatio, if_neg hp.ne']
  simp only [exponentFor_of_normal hp hq normal nonzero same, nearest]
  rw [if_neg]
  simp only [Bool.or_eq_true, decide_eq_true_eq, Bool.and_eq_true]
  omega

theorem place_ofPlace (place : Nat) : (Binary64.ofPlace place).place = place := by
  simp only [Binary64.ofPlace, Binary64.place, Nat.pow_eq]
  split
  · dsimp only
    split
    · rename_i zero
      exact zero.symm
    · simp
  · dsimp only
    rw [if_neg (by omega)]
    omega

theorem normal_ofPlace {place : Nat} (finite : place < magnitudes) :
    (Binary64.ofPlace place).Normal := by
  have bound : place / 2 ^ 52 < 2047 := Nat.div_lt_of_lt_mul (by rwa [Nat.mul_comm])
  simp only [Binary64.ofPlace, Nat.pow_eq]
  split
  · exact ⟨by simp, by simp, by simp only; omega, .inr rfl⟩
  · exact ⟨by simp only; omega, by simp only; omega, by simp only; omega, .inl (by simp only; omega)⟩

theorem mantissa_ofPlace {place : Nat} (positive : place ≠ 0) :
    (Binary64.ofPlace place).mantissa ≠ 0 := by
  simp only [Binary64.ofPlace, Nat.pow_eq]
  split
  · exact positive
  · simp only
    omega

theorem le_log2_mul_pow {n : Nat} (h : n ≠ 0) (k : Nat) : 2 * k ≤ Nat.log2 (n * Nat.pow 5 k) := by
  have some : n * Nat.pow 5 k ≠ 0 := Nat.mul_ne_zero h (Nat.pow_pos (by omega)).ne'
  refine (Nat.le_log2 some).2 ?_
  calc 2 ^ (2 * k) = 4 ^ k := Nat.pow_mul 2 2 k
    _ ≤ 5 ^ k := Nat.pow_le_pow_left (by omega) k
    _ ≤ n * 5 ^ k := Nat.le_mul_of_pos_left _ (Nat.pos_of_ne_zero h)

/-- All digits of a magnitude spell that magnitude. -/
theorem nearest_exactly {x : Binary64} (normal : x.Normal) (nonzero : x.mantissa ≠ 0) :
    x.exactly.nearest = some x := by
  unfold Binary64.exactly
  split
  · rename_i up
    obtain ⟨k, exponent⟩ := Int.eq_ofNat_of_zero_le up
    have some : x.mantissa * Nat.pow 2 k * 10 ≠ 0 :=
      Nat.mul_ne_zero (Nat.mul_ne_zero nonzero (Nat.pow_pos (by omega)).ne') (by omega)
    simp only [Spelled.nearest, exponent, Int.toNat_natCast, if_neg some]
    rw [if_neg (by omega), if_neg, if_neg (by omega)]
    · refine ofRatio_eq (by decide) normal nonzero ?_
      have ten : Nat.pow 10 (- -1 : Int).toNat = 10 := rfl
      rw [ten, Binary64.value, exponent, zpow_natCast, Nat.pow_eq]
      push_cast
      field_simp
    · simp only [Bool.and_eq_true, decide_eq_true_eq]
      omega
  · obtain ⟨k, exponent⟩ : ∃ k : Nat, x.exponent = -k := ⟨(-x.exponent).toNat, by omega⟩
    have some : x.mantissa * Nat.pow 5 k ≠ 0 := Nat.mul_ne_zero nonzero (Nat.pow_pos (by omega)).ne'
    have long := le_log2_mul_pow nonzero k
    simp only [Spelled.nearest, exponent, neg_neg, Int.toNat_natCast, if_neg some]
    rw [if_neg (by omega), if_neg, if_neg (by omega)]
    · refine ofRatio_eq (Nat.pow_pos (by omega)) normal nonzero ?_
      have ten : Nat.pow 10 k = Nat.pow 2 k * Nat.pow 5 k := Nat.mul_pow 2 5 k
      rw [ten, Binary64.value, exponent, zpow_neg, zpow_natCast, Nat.pow_eq, Nat.pow_eq]
      push_cast
      field_simp
    · simp only [Bool.and_eq_true, decide_eq_true_eq]
      omega

end StoredRoutines.Number
