import Mathlib.Order.Compare
import Mathlib.Order.Lattice
import TableFilter.Calendar.Date

/-!
# The order of dates

Dates that are compared by year, month and day are in the order of the days that they name: counting
days, every month begins where the month before it ends, and so does every year. So a date has a day
number that no other date has, and the order of dates is that of their day numbers.
-/

namespace TableFilter

namespace Calendar

theorem daysBeforeYear_succ (year : Int) :
    daysBeforeYear (year + 1) = daysBeforeYear year + daysInYear year := by
  unfold daysBeforeYear daysInYear isLeap
  split <;> simp_all <;> omega

theorem daysBeforeYear_mono {y z : Int} (h : y ≤ z) : daysBeforeYear y ≤ daysBeforeYear z := by
  unfold daysBeforeYear
  omega

section Months

variable (year : Int) {m n : Nat}

theorem daysBeforeMonth_succ (h : 1 ≤ m) :
    daysBeforeMonth year (m + 1) = daysBeforeMonth year m + daysInMonth year m := by
  obtain ⟨k, rfl⟩ := Nat.exists_eq_add_of_le' h
  simp only [daysBeforeMonth, Nat.add_sub_cancel, List.range_succ, List.foldl_append,
    List.foldl_cons, List.foldl_nil]

theorem daysBeforeMonth_mono (h : 1 ≤ m) (hmn : m ≤ n) :
    daysBeforeMonth year m ≤ daysBeforeMonth year n := by
  induction n, hmn using Nat.le_induction with
  | base => exact le_rfl
  | succ n hmn ih =>
    rw [daysBeforeMonth_succ year (h.trans hmn)]
    exact ih.trans (Nat.le_add_right _ _)

/-- The year is over after its twelfth month. -/
theorem daysBeforeMonth_thirteen : daysBeforeMonth year 13 = daysInYear year := by
  unfold daysInYear
  simp only [daysBeforeMonth, List.range_succ, daysInMonth]
  split <;> rfl

end Months

end Calendar

namespace Date

open Calendar

variable {d e : Date}

theorem one_le_dayOfYear (d : Date) : 1 ≤ d.dayOfYear :=
  d.isDate.2.2.2.2.1.trans (Nat.le_add_left _ _)

/-- The day is within its month. -/
theorem dayOfYear_le_succ_month (d : Date) :
    d.dayOfYear ≤ daysBeforeMonth d.year (d.month + 1) := by
  obtain ⟨-, -, hm, -, -, hd⟩ := d.isDate
  rw [daysBeforeMonth_succ _ hm, dayOfYear]
  omega

theorem dayOfYear_le (d : Date) : d.dayOfYear ≤ daysInYear d.year := by
  obtain ⟨-, -, -, hm, -⟩ := d.isDate
  rw [← daysBeforeMonth_thirteen]
  exact d.dayOfYear_le_succ_month.trans (daysBeforeMonth_mono _ (by omega) (by omega))

theorem dayNumber_lt_of_year_lt (h : d.year < e.year) : d.dayNumber < e.dayNumber := by
  have hpos := d.one_le_dayOfYear
  have hd := d.dayOfYear_le
  have hmono := daysBeforeYear_mono (Int.add_one_le_of_lt h)
  rw [daysBeforeYear_succ] at hmono
  unfold dayNumber
  omega

theorem dayNumber_lt_of_dayOfYear_lt (hy : d.year = e.year) (h : d.dayOfYear < e.dayOfYear) :
    d.dayNumber < e.dayNumber := by
  have hd := d.one_le_dayOfYear
  rw [dayNumber, dayNumber, hy]
  omega

theorem dayOfYear_lt_of_month_lt (hy : d.year = e.year) (h : d.month < e.month) :
    d.dayOfYear < e.dayOfYear := by
  obtain ⟨-, -, -, -, he, -⟩ := e.isDate
  have hd := d.dayOfYear_le_succ_month
  have hmono := daysBeforeMonth_mono d.year (show 1 ≤ d.month + 1 by omega) h
  rw [hy] at hd hmono
  rw [dayOfYear] at hd ⊢
  rw [dayOfYear]
  omega

/-- A date that comes before another one by year, month and day lies some days before it. -/
theorem dayNumber_lt_of_order (h : d.order e = .lt) : d.dayNumber < e.dayNumber := by
  simp only [order, Ordering.then_eq_lt, compare_lt_iff_lt, compare_eq_iff_eq] at h
  rcases h with hy | ⟨hy, hm | ⟨hm, hd⟩⟩
  · exact dayNumber_lt_of_year_lt hy
  · exact dayNumber_lt_of_dayOfYear_lt hy (dayOfYear_lt_of_month_lt hy hm)
  · refine dayNumber_lt_of_dayOfYear_lt hy ?_
    rw [dayOfYear, dayOfYear, hy, hm]
    exact Nat.add_lt_add_left hd _

theorem eq_of_order (h : d.order e = .eq) : d = e := by
  simp only [order, Ordering.then_eq_eq, compare_eq_iff_eq] at h
  obtain ⟨hy, hm, hd⟩ := h
  cases d
  cases e
  simp_all

theorem order_swap (d e : Date) : (d.order e).swap = e.order d := by
  simp only [order, Ordering.swap_then, ← Std.OrientedOrd.eq_swap]

theorem dayNumber_injective : Function.Injective dayNumber := by
  intro d e h
  cases ho : d.order e with
  | lt => exact absurd h (dayNumber_lt_of_order ho).ne
  | eq => exact eq_of_order ho
  | gt =>
    have hs : e.order d = .lt := by rw [← order_swap, ho]; rfl
    exact absurd h (dayNumber_lt_of_order hs).ne'

instance : LinearOrder Date := LinearOrder.lift' dayNumber dayNumber_injective

theorem order_eq_compare (d e : Date) : d.order e = compare d e := by
  cases ho : d.order e with
  | lt => exact (compare_lt_iff_lt.mpr (dayNumber_lt_of_order ho)).symm
  | eq => exact (compare_eq_iff_eq.mpr (eq_of_order ho)).symm
  | gt =>
    have hs : e.order d = .lt := by rw [← order_swap, ho]; rfl
    exact (compare_gt_iff_gt.mpr (dayNumber_lt_of_order hs)).symm

end Date
end TableFilter
