import Mathlib.Algebra.Order.Field.Rat
import Mathlib.Algebra.Order.Field.Basic
import TableFilter.Proofs.Decimal.ReadBack

/-!
# The values of decimals

A decimal stands for a fraction, and decimals are ordered as their fractions are, whatever their
scales. So a comparison of decimals says what it says of the fractions. No decimal lies below the
least or above the greatest one, although a decimal may have up to twenty-eight places.
-/

namespace TableFilter

namespace Decimal

theorem natAbs_signed (d : Decimal) : d.signed.natAbs = d.coefficient := by
  unfold signed
  split
  · rw [Int.natAbs_neg, Int.natAbs_natCast]
  · exact Int.natAbs_natCast _

def value (d : Decimal) : Rat := d.signed / pow10 d.scale

theorem cast_pow10_pos (n : Nat) : (0 : Rat) < (pow10 n : Rat) := Nat.cast_pos.mpr (pow10_pos n)

section Order

variable (a b : Decimal)

theorem value_lt_iff : a.value < b.value ↔ a.signed * pow10 b.scale < b.signed * pow10 a.scale := by
  rw [value, value, div_lt_div_iff₀ (cast_pow10_pos _) (cast_pow10_pos _)]
  exact_mod_cast Iff.rfl

theorem value_eq_iff : a.value = b.value ↔ a.signed * pow10 b.scale = b.signed * pow10 a.scale := by
  rw [value, value, div_eq_div_iff (cast_pow10_pos _).ne' (cast_pow10_pos _).ne']
  exact_mod_cast Iff.rfl

/-- Decimals are ordered as their values are, whatever their scales. -/
theorem order_eq_compare : a.order b = compare a.value b.value := by
  cases h : a.order b with
  | lt => exact (compare_lt_iff_lt.mpr ((value_lt_iff a b).mpr (Int.compare_eq_lt.mp h))).symm
  | eq => exact (compare_eq_iff_eq.mpr ((value_eq_iff a b).mpr (Int.compare_eq_eq.mp h))).symm
  | gt => exact (compare_gt_iff_gt.mpr ((value_lt_iff b a).mpr (Int.compare_eq_gt.mp h))).symm

end Order

theorem signed_restored (d : Decimal) : d.restored.signed = d.signed := by
  by_cases hzero : d.coefficient = 0
  · simp [signed, restored, hzero]
  · rw [d.restored_eq (.inr hzero)]

/-- Only the sign of a zero is lost when a decimal is read back, which does not matter here. -/
theorem value_restored (d : Decimal) : d.restored.value = d.value := by
  rw [value, value, signed_restored, restored]

theorem two_le_pow10 {n : Nat} (h : n ≠ 0) : 2 ≤ pow10 n := by
  obtain ⟨m, rfl⟩ := Nat.exists_eq_succ_of_ne_zero h
  have hm := pow10_pos m
  rw [pow10_succ]
  omega

theorem eq_of_signed_eq {d b : Decimal} (hs : d.signed = b.signed) (hscale : d.scale = b.scale)
    (hb : b.coefficient ≠ 0) : d = b := by
  have hcoefficient : d.coefficient = b.coefficient := by
    rw [← natAbs_signed, hs, natAbs_signed]
  have hnegative : d.negative = b.negative := by
    unfold signed at hs
    cases hd : d.negative <;> cases hn : b.negative <;> simp [hd, hn] at hs ⊢ <;> omega
  cases d
  cases b
  simp only at hnegative hcoefficient hscale
  subst hnegative hcoefficient hscale
  rfl

/-- A decimal that is equal to the greatest one or to its opposite is written without places. -/
theorem eq_of_sameValue_bound {d b : Decimal} (hb : b.coefficient = pow2 96 - 1)
    (hscale : b.scale = 0) (h : d.sameValue b) : d = b := by
  have hsigned : d.signed = b.signed * pow10 d.scale := by
    have heq := Std.LawfulEqOrd.compare_eq_iff_eq.mp (beq_iff_eq.mp h)
    rwa [hscale, pow10_zero, Int.natCast_one, Int.mul_one] at heq
  have hcoefficient : d.coefficient = (pow2 96 - 1) * pow10 d.scale := by
    rw [← natAbs_signed, hsigned, Int.natAbs_mul, natAbs_signed, hb, Int.natAbs_natCast]
  have hlt := d.coefficient_lt
  have hbig : 1 < pow2 96 - 1 := by decide
  -- With any places the coefficient would need more digits than it may have.
  have hplaces : d.scale = 0 := by
    by_contra hne
    have hmul := Nat.mul_le_mul_left (pow2 96 - 1) (two_le_pow10 hne)
    omega
  rw [hplaces, pow10_zero, Int.natCast_one, Int.mul_one] at hsigned
  exact eq_of_signed_eq hsigned (hplaces.trans hscale.symm) (by omega)

theorem abs_signed (d : Decimal) : |d.signed| = d.coefficient := by
  rw [Int.abs_eq_natAbs, natAbs_signed]

theorem abs_value_le (d : Decimal) : |d.value| ≤ ((pow2 96 - 1 : Nat) : Rat) := by
  have hcoefficient : (d.coefficient : Rat) ≤ ((pow2 96 - 1 : Nat) : Rat) :=
    Nat.cast_le.mpr (Nat.le_sub_one_of_lt d.coefficient_lt)
  have hplaces : (1 : Rat) ≤ (pow10 d.scale : Rat) := Nat.one_le_cast.mpr (pow10_pos d.scale)
  calc |d.value| = (d.coefficient : Rat) / pow10 d.scale := by
        rw [value, abs_div, Nat.abs_cast, ← Int.cast_abs, abs_signed, Int.cast_natCast]
    _ ≤ d.coefficient := div_le_self (Nat.cast_nonneg _) hplaces
    _ ≤ ((pow2 96 - 1 : Nat) : Rat) := hcoefficient

theorem value_greatest : greatest.value = ((pow2 96 - 1 : Nat) : Rat) := by
  simp [value, signed, greatest, pow10_zero]

theorem value_least : least.value = -((pow2 96 - 1 : Nat) : Rat) := by
  simp [value, signed, least, pow10_zero]

theorem value_le_greatest (d : Decimal) : d.value ≤ greatest.value := by
  rw [value_greatest]
  exact (le_abs_self d.value).trans d.abs_value_le

theorem least_le_value (d : Decimal) : least.value ≤ d.value := by
  rw [value_least]
  exact neg_le.mp ((neg_le_abs d.value).trans d.abs_value_le)

end Decimal

end TableFilter
