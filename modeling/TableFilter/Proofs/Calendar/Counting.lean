import TableFilter.Proofs.Calendar.Order

/-!
# Counting days

A date can be found again by its day number: the year in which a day falls is off by at most one
from the estimate that all years are equally long, and the months of that year are left behind one
by one. So day numbers and dates determine each other, and every day from the first date to the
last one has a date.
-/

namespace TableFilter

namespace Calendar

theorem daysBeforeYear_yearOfDay_le (n : Int) : daysBeforeYear (yearOfDay n) ≤ n := by
  simp only [yearOfDay]
  split
  case isTrue h =>
    unfold daysBeforeYear at h ⊢
    omega
  case isFalse h =>
    split
    case isTrue h' => exact h'
    case isFalse => omega

theorem lt_daysBeforeYear_succ_yearOfDay (n : Int) : n < daysBeforeYear (yearOfDay n + 1) := by
  simp only [yearOfDay]
  split
  case isTrue h => rwa [Int.sub_add_cancel]
  case isFalse =>
    split
    case isTrue h' =>
      unfold daysBeforeYear at h' ⊢
      omega
    case isFalse h' => omega

/-- A day falls in no other year. -/
theorem yearOfDay_eq {year n : Int} (h : daysBeforeYear year ≤ n)
    (h' : n < daysBeforeYear (year + 1)) : yearOfDay n = year := by
  have hle := daysBeforeYear_yearOfDay_le n
  have hlt := lt_daysBeforeYear_succ_yearOfDay n
  apply le_antisymm
  · by_contra hgt
    have hmono := daysBeforeYear_mono (show year + 1 ≤ yearOfDay n by omega)
    omega
  · by_contra hgt
    have hmono := daysBeforeYear_mono (show yearOfDay n + 1 ≤ year by omega)
    omega

/-- The walk ends on the day that lies as many days after the first month as it was sent for, and no
later than in the last month it may reach. -/
theorem walkMonths_spec (year : Int) {months days month : Nat} (hm : 1 ≤ month)
    (h : daysBeforeMonth year month + days < daysBeforeMonth year (month + months + 1)) :
    ∃ m d, walkMonths year months days month = (m, d) ∧ month ≤ m ∧ m ≤ month + months ∧
      1 ≤ d ∧ d ≤ daysInMonth year m ∧
      daysBeforeMonth year m + d = daysBeforeMonth year month + days + 1 := by
  have hnext := daysBeforeMonth_succ year hm
  induction months generalizing days month with
  | zero =>
    rw [Nat.add_zero, hnext] at h
    exact ⟨month, days + 1, rfl, le_rfl, le_rfl, by omega, by omega, by omega⟩
  | succ months ih =>
    rw [walkMonths]
    by_cases hdays : days < daysInMonth year month
    · rw [if_pos hdays]
      exact ⟨month, days + 1, rfl, le_rfl, by omega, by omega, by omega, by omega⟩
    · rw [if_neg hdays]
      have hrest : daysBeforeMonth year (month + 1) + (days - daysInMonth year month) <
          daysBeforeMonth year (month + 1 + months + 1) := by
        rw [show month + 1 + months + 1 = month + (months + 1) + 1 by omega, hnext]
        omega
      obtain ⟨m, d, hwalk, hle, hle', hd⟩ :=
        ih (by omega) hrest (daysBeforeMonth_succ year (by omega))
      exact ⟨m, d, hwalk, by omega, by omega, hd.1, hd.2.1, by omega⟩

theorem daysBeforeMonth_one (year : Int) : daysBeforeMonth year 1 = 0 := rfl

/-- A day within a year lies in one of the twelve months. -/
theorem walkMonths_of_lt_daysInYear {year : Int} {days : Nat} (h : days < daysInYear year) :
    ∃ m d, walkMonths year 11 days 1 = (m, d) ∧ 1 ≤ m ∧ m ≤ 12 ∧ 1 ≤ d ∧
      d ≤ daysInMonth year m ∧ daysBeforeMonth year m + d = days + 1 := by
  have hwithin : daysBeforeMonth year 1 + days < daysBeforeMonth year (1 + 11 + 1) := by
    rwa [daysBeforeMonth_one, Nat.zero_add, daysBeforeMonth_thirteen]
  obtain ⟨m, d, hwalk, hm⟩ := walkMonths_spec year le_rfl hwithin
  rw [daysBeforeMonth_one, Nat.zero_add] at hm
  exact ⟨m, d, hwalk, hm⟩

end Calendar

namespace Date

open Calendar

variable {n : Int} {d : Date}

theorem yearOfDay_dayNumber (d : Date) : yearOfDay (d.dayNumber - epoch) = d.year := by
  have hpos := d.one_le_dayOfYear
  have hle := d.dayOfYear_le
  have hnext := daysBeforeYear_succ d.year
  apply yearOfDay_eq
  · rw [dayNumber]
    omega
  · rw [dayNumber]
    omega

/-- Every day has a date, unless its year is out of range. -/
theorem exists_ofDayNumber? (h : -262143 ≤ yearOfDay (n - epoch))
    (h' : yearOfDay (n - epoch) ≤ 262142) : ∃ d, ofDayNumber? n = some d ∧ d.dayNumber = n := by
  have hle := daysBeforeYear_yearOfDay_le (n - epoch)
  have hlt := lt_daysBeforeYear_succ_yearOfDay (n - epoch)
  rw [daysBeforeYear_succ] at hlt
  obtain ⟨m, d, hwalk, hm, hm', hd, hd', hdays⟩ := walkMonths_of_lt_daysInYear
    (show (n - epoch - daysBeforeYear (yearOfDay (n - epoch))).toNat <
      daysInYear (yearOfDay (n - epoch)) by omega)
  have hdate : IsDate (yearOfDay (n - epoch)) m d := ⟨h, h', hm, hm', hd, hd'⟩
  refine ⟨⟨_, m, d, hdate⟩, ?_, ?_⟩
  · simp only [ofDayNumber?, hwalk]
    exact dif_pos hdate
  · simp only [dayNumber, dayOfYear]
    omega

theorem year_of_ofDayNumber? (h : ofDayNumber? n = some d) : d.year = yearOfDay (n - epoch) := by
  simp only [ofDayNumber?, ofYmd?] at h
  split at h
  · rw [← Option.some.inj h]
  · cases h

/-- A date is found by its day number and by no other. -/
theorem ofDayNumber?_eq_some_iff : ofDayNumber? n = some d ↔ d.dayNumber = n := by
  constructor
  · intro h
    have hyear := year_of_ofDayNumber? h
    obtain ⟨hy, hy', -⟩ := d.isDate
    obtain ⟨e, he, hday⟩ := exists_ofDayNumber? (n := n) (by omega) (by omega)
    rw [he] at h
    rwa [← Option.some.inj h]
  · rintro rfl
    obtain ⟨hy, hy', -⟩ := d.isDate
    rw [← d.yearOfDay_dayNumber] at hy hy'
    obtain ⟨e, he, hday⟩ := exists_ofDayNumber? hy hy'
    rw [he, dayNumber_injective hday]

def earliest : Date := ⟨-262143, 1, 1, by decide⟩

def latest : Date := ⟨262142, 12, 31, by decide⟩

theorem dayNumber_earliest : earliest.dayNumber = -96465292 := by decide

theorem dayNumber_latest : latest.dayNumber = 95026236 := by decide

theorem exists_dayNumber_iff :
    (∃ d : Date, d.dayNumber = n) ↔ earliest.dayNumber ≤ n ∧ n ≤ latest.dayNumber := by
  have hfirst : earliest.dayNumber = epoch + daysBeforeYear (-262143) := by decide
  have hlast : latest.dayNumber + 1 = epoch + daysBeforeYear (262142 + 1) := by decide
  rw [hfirst]
  constructor
  · rintro ⟨d, rfl⟩
    obtain ⟨hy, hy', -⟩ := d.isDate
    have hpos := d.one_le_dayOfYear
    have hle := d.dayOfYear_le
    have hnext := daysBeforeYear_succ d.year
    have hlow := daysBeforeYear_mono hy
    have hhigh := daysBeforeYear_mono (show d.year + 1 ≤ 262142 + 1 by omega)
    rw [dayNumber]
    omega
  · rintro ⟨h, h'⟩
    have hle := daysBeforeYear_yearOfDay_le (n - epoch)
    have hlt := lt_daysBeforeYear_succ_yearOfDay (n - epoch)
    have hyear : -262143 ≤ yearOfDay (n - epoch) := by
      by_contra hlow
      have hmono := daysBeforeYear_mono (show yearOfDay (n - epoch) + 1 ≤ -262143 by omega)
      omega
    have hyear' : yearOfDay (n - epoch) ≤ 262142 := by
      by_contra hhigh
      have hmono := daysBeforeYear_mono (show 262142 + 1 ≤ yearOfDay (n - epoch) by omega)
      omega
    obtain ⟨d, -, hd⟩ := exists_ofDayNumber? hyear hyear'
    exact ⟨d, hd⟩

theorem ofDayNumber?_eq_none_iff :
    ofDayNumber? n = none ↔ n < earliest.dayNumber ∨ latest.dayNumber < n := by
  have hnone : ofDayNumber? n = none ↔ ¬ ∃ d : Date, d.dayNumber = n := by
    simp only [Option.eq_none_iff_forall_ne_some, ne_eq, ofDayNumber?_eq_some_iff, not_exists]
  rw [hnone, exists_dayNumber_iff]
  omega

end Date
end TableFilter
