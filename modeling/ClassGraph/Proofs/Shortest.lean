import ClassGraph.Decimal.Shortest
import Mathlib.Algebra.Order.Field.Basic
import Mathlib.Algebra.Order.Field.Power
import Mathlib.Algebra.Order.Field.Rat
import Mathlib.Data.Nat.Cast.Order.Field

/-!
# The digits of a double are not all zero

The search for the fewest digits starts at the first digit of the value and goes to finer grids from
there. Each grid is no coarser than the value, so the digits it gives are at least one
(`shortest_digits_pos`), and written out they start with a digit that is not zero.

The first digit is looked for in at most 400 steps, which is enough: the smallest double is
`2 ^ -1074`, and `10 ^ 400` times that is more than one.
-/

set_option autoImplicit false

namespace ClassGraph.Decimal

/-! ## Fractions as numbers -/

/-- The number that a fraction stands for. -/
def Fraction.toRat (a : Fraction) : ℚ := a.num / a.den

theorem Fraction.toRat_scaled (m base : Nat) (e : Int) :
    (scaled m base e).toRat = m * (base : ℚ) ^ e := by
  unfold scaled
  split
  · next h =>
    obtain ⟨n, rfl⟩ := Int.eq_ofNat_of_zero_le h
    simp [toRat]
  · next h =>
    obtain ⟨n, rfl⟩ : ∃ n : Nat, e = -n := ⟨e.natAbs, by omega⟩
    simp [toRat, div_eq_mul_inv]

theorem Fraction.den_scaled_pos (m : Nat) {base : Nat} (hbase : 0 < base) (e : Int) :
    0 < (scaled m base e).den := by
  unfold scaled
  split
  · exact Nat.one_pos
  · exact Nat.pow_pos hbase

theorem Fraction.num_scaled_pos {m base : Nat} (hm : 0 < m) (hbase : 0 < base) (e : Int) :
    0 < (scaled m base e).num := by
  unfold scaled
  split
  · exact Nat.mul_pos hm (Nat.pow_pos hbase)
  · exact hm

theorem Fraction.toRat_le_iff {a b : Fraction} (ha : 0 < a.den) (hb : 0 < b.den) :
    a.toRat ≤ b.toRat ↔ a.num * b.den ≤ b.num * a.den := by
  have ha' : (0 : ℚ) < a.den := Nat.cast_pos.mpr ha
  have hb' : (0 : ℚ) < b.den := Nat.cast_pos.mpr hb
  rw [toRat, toRat, div_le_div_iff₀ ha' hb']
  exact_mod_cast Iff.rfl

/-! ## The first digit -/

theorem le_num_mul_pow_tensToOne (fuel : Nat) (v : Fraction) (h : v.den ≤ v.num * 10 ^ fuel) :
    v.den ≤ v.num * 10 ^ tensToOne v fuel := by
  induction fuel generalizing v with
  | zero => exact h
  | succ fuel ih =>
    rw [tensToOne]
    split
    · next hone => simpa using hone
    · have hnext := ih ⟨v.num * 10, v.den⟩ (by rw [Nat.pow_succ'] at h; simpa [Nat.mul_assoc] using h)
      rw [Nat.pow_succ', ← Nat.mul_assoc]
      exact hnext

/-- The first digit of a value does not stand above it, if it can be reached. -/
theorem zpow_leadingExponent_le {v : Fraction} (hden : 0 < v.den) (h : v.den ≤ v.num * 10 ^ 400) :
    (10 : ℚ) ^ leadingExponent v ≤ v.toRat := by
  have hden' : (0 : ℚ) < v.den := Nat.cast_pos.mpr hden
  rw [Fraction.toRat, le_div_iff₀ hden', leadingExponent]
  split
  · next hone =>
    -- A number of `n + 1` digits is at least `10 ^ n`.
    have hquotient : 0 < v.num / v.den := Nat.div_pos hone hden
    obtain ⟨n, hn⟩ : ∃ n, (Nat.toDigits 10 (v.num / v.den)).length = n + 1 :=
      Nat.exists_eq_succ_of_ne_zero (Nat.ne_of_gt Nat.length_toDigits_pos)
    have hpow : 10 ^ n ≤ v.num / v.den := by
      cases n with
      | zero => exact hquotient
      | succ n =>
        by_contra hlt
        have hlength := (Nat.length_toDigits_le_iff (by decide) (Nat.succ_pos n)).mpr
          (Nat.lt_of_not_le hlt)
        omega
    have hle : 10 ^ n * v.den ≤ v.num := (Nat.le_div_iff_mul_le hden).mp hpow
    rw [hn, Nat.cast_succ, add_sub_cancel_right, zpow_natCast]
    exact_mod_cast hle
  · have hle := le_num_mul_pow_tensToOne 400 v h
    have hpow : (0 : ℚ) < 10 ^ tensToOne v 400 := pow_pos (by norm_num) _
    rw [zpow_neg, zpow_natCast, inv_mul_le_iff₀ hpow, mul_comm]
    exact_mod_cast hle

/-! ## The grids -/

section

variable {r : Rounding} (hden : 0 < r.value.den)
include hden

/-- A value is at least one step of a grid that is not above it. -/
theorem steps_pos {e : Int} (h : (10 : ℚ) ^ e ≤ r.value.toRat) :
    0 < (r.value.num * (Fraction.scaled 1 10 e).den)
      / (r.value.den * (Fraction.scaled 1 10 e).num) := by
  have hunit : (Fraction.scaled 1 10 e).toRat ≤ r.value.toRat := by
    rw [Fraction.toRat_scaled, Nat.cast_one, one_mul]
    exact h
  rw [Fraction.toRat_le_iff (Fraction.den_scaled_pos 1 (by decide) e) hden, Nat.mul_comm] at hunit
  have hnum : 0 < (Fraction.scaled 1 10 e).num := Fraction.num_scaled_pos (by decide) (by decide) e
  exact Nat.div_pos hunit (Nat.mul_pos hden hnum)

theorem pos_of_onGrid? {e : Int} (h : (10 : ℚ) ^ e ≤ r.value.toRat) {n : Nat}
    (hn : r.onGrid? e = some n) : 0 < n := by
  have hlow := steps_pos hden h
  rw [Rounding.onGrid?] at hn
  dsimp only at hn
  split at hn
  · split at hn
    · cases hn
      exact hlow
    · split at hn
      · cases hn
        exact Nat.succ_pos _
      · cases hn
        exact Nat.add_pos_left hlow _
  · cases hn
    exact hlow
  · cases hn
    exact Nat.succ_pos _
  · cases hn

theorem searchGrids_digits_pos {leading : Int} (h : (10 : ℚ) ^ leading ≤ r.value.toRat)
    (fuel count : Nat) (hcount : 0 < count) : 0 < (searchGrids r leading fuel count).digits := by
  induction fuel generalizing count with
  | zero =>
    have hlow := steps_pos hden (e := leading - ((count : Int) - 1))
      ((zpow_le_zpow_right₀ (by norm_num) (by omega)).trans h)
    rw [searchGrids, Fraction.round]
    dsimp only
    split
    · exact hlow
    · split
      · exact Nat.succ_pos _
      · exact Nat.add_pos_left hlow _
  | succ fuel ih =>
    rw [searchGrids]
    split
    · next n hn =>
      exact pos_of_onGrid? hden ((zpow_le_zpow_right₀ (by norm_num) (by omega)).trans h) hn
    · exact ih (count + 1) (Nat.succ_pos count)

end

theorem strip_digits_pos (fuel : Nat) {d : Digits} (h : 0 < d.digits) :
    0 < (d.strip fuel).digits := by
  induction fuel generalizing d with
  | zero => exact h
  | succ fuel ih =>
    rw [Digits.strip]
    split
    · next hzero => exact ih (show 0 < d.digits / 10 by omega)
    · exact h

/-! ## Doubles -/

theorem Binary.toRat_value_rounding (b : Binary) : b.rounding.value.toRat = b.magnitude.toRat := by
  have hquarter : (2 : ℚ) ^ (b.exponent - 2) = 2 ^ b.exponent / 4 := by
    rw [zpow_sub₀ (by norm_num), zpow_two]
    norm_num
  rw [rounding, magnitude, Fraction.toRat_scaled, Fraction.toRat_scaled, Nat.cast_mul,
    Nat.cast_ofNat, Nat.cast_ofNat, hquarter, mul_comm 4 _, mul_assoc, mul_div_cancel₀ _ (by norm_num)]

theorem Binary.exponent_ofFloat (x : Float) : -1074 ≤ (ofFloat x).exponent := by
  rw [ofFloat]
  dsimp only
  split <;> omega

theorem two_pow_le_ten_pow {n k : Nat} (h : n ≤ 3 * k) : 2 ^ n ≤ 10 ^ k :=
  calc 2 ^ n ≤ 2 ^ (3 * k) := Nat.pow_le_pow_right (by decide) h
    _ = (2 ^ 3) ^ k := Nat.pow_mul 2 3 k
    _ ≤ 10 ^ k := Nat.pow_le_pow_left (by decide) k

/-- Three powers of two are made up for by one of ten. -/
theorem Binary.den_magnitude_le {b : Binary} (hm : 0 < b.mantissa) {k : Nat}
    (he : -b.exponent ≤ 3 * k) : b.magnitude.den ≤ b.magnitude.num * 10 ^ k := by
  have hnum : 0 < b.magnitude.num := Fraction.num_scaled_pos hm (by decide) _
  have hden : b.magnitude.den ≤ 10 ^ k := by
    rw [magnitude, Fraction.scaled]
    split
    · exact Nat.one_le_pow k 10 (by decide)
    · exact two_pow_le_ten_pow (by omega)
  exact hden.trans (Nat.le_mul_of_pos_left _ hnum)

/-- **The digits that are found for a double that is not zero are not zero.** -/
theorem shortest_digits_pos {b : Binary} (hm : 0 < b.mantissa) (he : -1074 ≤ b.exponent) :
    0 < (shortest b).digits := by
  have hleading : (10 : ℚ) ^ leadingExponent b.magnitude ≤ b.rounding.value.toRat := by
    rw [Binary.toRat_value_rounding]
    exact zpow_leadingExponent_le (Fraction.den_scaled_pos _ (by decide) _)
      (Binary.den_magnitude_le hm (by omega))
  have hden : 0 < b.rounding.value.den := Fraction.den_scaled_pos _ (by decide) _
  exact strip_digits_pos 20 (searchGrids_digits_pos hden hleading 17 1 Nat.one_pos)

end ClassGraph.Decimal
