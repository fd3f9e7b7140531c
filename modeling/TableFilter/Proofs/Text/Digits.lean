import Mathlib.Algebra.Group.Nat.Defs
import TableFilter.Text.Blank
import TableFilter.Text.Digits

/-!
# Digits that are written are read back

The digits of a number, padded or not, denote the number, and the value of a longer list of digits
is built from the value of its front. Digits are neither blank nor marks of any kind.
-/

namespace TableFilter.Text

theorem natOfDigits_eq_ofDigitChars (cs : List Char) : natOfDigits cs = Nat.ofDigitChars 10 cs 0 :=
  Nat.ofDigitChars_eq_foldl.symm

theorem natOfDigits_digitsOfNat (n : Nat) : natOfDigits (digitsOfNat n) = n := by
  rw [natOfDigits_eq_ofDigitChars, digitsOfNat, Nat.ofDigitChars_ten_toDigits]

theorem natOfDigits_paddedDigits (width n : Nat) : natOfDigits (paddedDigits width n) = n := by
  have hz : Nat.ofDigitChars 10 (List.replicate (width - (digitsOfNat n).length) '0') 0 = 0 := by
    rw [Nat.ofDigitChars_replicate_zero, Nat.mul_zero]
  rw [paddedDigits, natOfDigits_eq_ofDigitChars, Nat.ofDigitChars_append, hz,
    ← natOfDigits_eq_ofDigitChars, natOfDigits_digitsOfNat]

theorem isDigit_of_mem_paddedDigits {width n : Nat} {c : Char} (h : c ∈ paddedDigits width n) :
    c.isDigit := by
  rw [paddedDigits, List.mem_append] at h
  rcases h with h | h
  · rw [(List.mem_replicate.mp h).2]
    rfl
  · exact Nat.isDigit_of_mem_toDigits (by decide) (by decide) h

theorem length_paddedDigits (width n : Nat) :
    (paddedDigits width n).length = max width (digitsOfNat n).length := by
  rw [paddedDigits, List.length_append, List.length_replicate]
  omega

theorem length_digitsOfNat_le {n width : Nat} (hw : 0 < width) (h : n < 10 ^ width) :
    (digitsOfNat n).length ≤ width :=
  (Nat.length_toDigits_le_iff (by decide) hw).mpr h

theorem length_paddedDigits_of_lt {width n : Nat} (hw : 0 < width) (h : n < 10 ^ width) :
    (paddedDigits width n).length = width := by
  have hl := length_digitsOfNat_le hw h
  rw [length_paddedDigits]
  omega

theorem paddedDigits_ne_nil (width n : Nat) : paddedDigits width n ≠ [] := by
  have hn : digitsOfNat n ≠ [] := Nat.toDigits_ne_nil
  intro h
  rw [paddedDigits, List.append_eq_nil_iff] at h
  exact hn h.2

theorem toNat_of_isDigit {c : Char} (h : c.isDigit) : 48 ≤ c.toNat ∧ c.toNat ≤ 57 := by
  rw [Char.isDigit, Bool.and_eq_true, decide_eq_true_eq, decide_eq_true_eq] at h
  exact ⟨UInt32.le_iff_toNat_le.mp h.1, UInt32.le_iff_toNat_le.mp h.2⟩

theorem isBlank_of_isDigit {c : Char} (h : c.isDigit) : isBlank c = false := by
  obtain ⟨hl, hu⟩ := toNat_of_isDigit h
  rw [isBlank, blankRanges, inRanges, if_neg (by omega), if_neg (by omega), inRanges,
    if_neg (by omega), if_neg (by omega)]
  exact inRanges_of_lt_first _ _ _ _ (by omega)

theorem foldl_digits_mono {cs : List Char} {m n : Nat} (h : m ≤ n) :
    m ≤ cs.foldl (fun n c => 10 * n + digitValue c) n := by
  induction cs generalizing n with
  | nil => exact h
  | cons c cs ih =>
    have hc : m ≤ 10 * n + digitValue c := by omega
    exact ih hc

end TableFilter.Text
