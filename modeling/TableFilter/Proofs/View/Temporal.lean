import TableFilter.Proofs.Calendar.Counting
import TableFilter.View.Datum

/-!
# The days of temporal data

A day of a data frame becomes the date of that day, and an instant the date of the day in which it
lies, or null where the calendar has no such date. Numbers at the limits of their bits are cut down
or start over, but only far outside the calendar. An instant in nanoseconds before 1970-01-01 is a
day late in the last microsecond of its day: what is cut off toward zero there leads over midnight.
-/

namespace TableFilter

/-- The value is the date of a day, or null if the calendar does not reach to that day. -/
def Value.IsDay (n : Int) : Value → Prop
  | date d => d.dayNumber = n
  | null => n < Date.earliest.dayNumber ∨ Date.latest.dayNumber < n
  | _ => False

theorem Value.isDay_of_ofDayNumber? (n : Int) : ((Date.ofDayNumber? n).elim null date).IsDay n := by
  cases h : Date.ofDayNumber? n with
  | none => exact Date.ofDayNumber?_eq_none_iff.mp h
  | some d => exact Date.ofDayNumber?_eq_some_iff.mp h

/-- Days that the calendar does not reach to are alike. -/
theorem Value.isDay_of_beyond {m n : Int}
    (hm : m < Date.earliest.dayNumber ∨ Date.latest.dayNumber < m)
    (hn : n < Date.earliest.dayNumber ∨ Date.latest.dayNumber < n) :
    (Date.ofDayNumber? m).elim null date = null ∧
      ((Date.ofDayNumber? m).elim null date).IsDay n := by
  rw [Date.ofDayNumber?_eq_none_iff.mpr hm]
  exact ⟨rfl, hn⟩

namespace Datum

theorem pow2_31 : (pow2 31 : Int) = 2147483648 := by decide

theorem pow2_32 : (pow2 32 : Int) = 4294967296 := by decide

theorem pow2_63 : (pow2 63 : Int) = 9223372036854775808 := by decide

theorem fits64_iff {n : Int} :
    fits64 n ↔ -9223372036854775808 ≤ n ∧ n < 9223372036854775808 := by
  simp only [fits64, pow2_63, Bool.and_eq_true, decide_eq_true_eq]

def unitsPerDay : TimeUnit → Int
  | .milliseconds => 86400000
  | .microseconds => 86400000000
  | .nanoseconds => 86400000000000

theorem fdiv_unitsPerDay (unit : TimeUnit) (n : Int) :
    n.fdiv (unitsPerDay unit) = n / unitsPerDay unit := by
  apply Int.fdiv_eq_ediv_of_nonneg
  cases unit <;> decide

/-- The instant lies in the last microsecond of a day before 1970-01-01, and not at its beginning.
-/
def IsCutOver (unit : TimeUnit) (n : Int) : Prop :=
  unit = .nanoseconds ∧ n < 0 ∧ unitsPerDay unit - 1000 < n % unitsPerDay unit

instance (unit : TimeUnit) (n : Int) : Decidable (IsCutOver unit n) :=
  inferInstanceAs (Decidable (_ ∧ _ ∧ _))

theorem value_instant (unit : TimeUnit) (n : Int) : (instant unit n).value =
    (Date.ofDayNumber? (microseconds unit n / microsecondsPerDay)).elim .null .date := by
  rw [value, dateOfInstant?, Int.fdiv_eq_ediv_of_nonneg _ (by decide)]

/-- Milliseconds that have to be cut down to be counted as microseconds are beyond all dates. -/
theorem isDay_milliseconds (n : Int) :
    (instant .milliseconds n).value.IsDay (n / unitsPerDay .milliseconds) := by
  simp only [value_instant, microseconds, clamp, pow2_63, microsecondsPerDay, unitsPerDay]
  by_cases hfit : -9223372036854775808 ≤ n * 1000 ∧ n * 1000 < 9223372036854775808
  · have hday : max (-9223372036854775808) (min (n * 1000) (9223372036854775808 - 1)) /
        86400000000 = n / 86400000 := by omega
    rw [hday]
    exact Value.isDay_of_ofDayNumber? _
  · refine (Value.isDay_of_beyond ?_ ?_).2
    all_goals
      rw [Date.dayNumber_earliest, Date.dayNumber_latest]
      omega

theorem isDay_microseconds (n : Int) :
    (instant .microseconds n).value.IsDay (n / unitsPerDay .microseconds) := by
  rw [value_instant]
  exact Value.isDay_of_ofDayNumber? _

/-- What is cut off of nanoseconds leads over midnight in the last microsecond before it, if the
time is counted backwards. -/
theorem tdiv_nanoseconds (n : Int) : n.tdiv 1000 / microsecondsPerDay =
    if IsCutOver .nanoseconds n then n / unitsPerDay .nanoseconds + 1
    else n / unitsPerDay .nanoseconds := by
  have hcut : n.tdiv 1000 = n / 1000 + if 0 ≤ n ∨ 1000 ∣ n then 0 else 1 := Int.tdiv_eq_ediv
  have hover : IsCutOver .nanoseconds n ↔ n < 0 ∧ 86400000000000 - 1000 < n % 86400000000000 :=
    and_iff_right rfl
  simp only [hover, hcut, microsecondsPerDay, unitsPerDay]
  split
  case isTrue h =>
    -- The instant is past the last whole microsecond of its day.
    rw [if_neg (by omega)]
    omega
  case isFalse h =>
    split <;> omega

theorem isDay_instant {unit : TimeUnit} {n : Int} (hover : ¬ IsCutOver unit n) :
    (instant unit n).value.IsDay (n / unitsPerDay unit) := by
  cases unit with
  | milliseconds => exact isDay_milliseconds n
  | microseconds => exact isDay_microseconds n
  | nanoseconds =>
    rw [value_instant, microseconds, tdiv_nanoseconds, if_neg hover]
    exact Value.isDay_of_ofDayNumber? _

/-- Nanoseconds of 64 bits stay within the calendar. -/
theorem value_of_isCutOver {unit : TimeUnit} {n : Int} (h : fits64 n) (hover : IsCutOver unit n) :
    ∃ d, (instant unit n).value = .date d ∧ d.dayNumber = n / unitsPerDay unit + 1 := by
  obtain ⟨rfl, hneg, -⟩ := id hover
  obtain ⟨hlow, -⟩ := fits64_iff.mp h
  have hreach : Date.earliest.dayNumber ≤ n / unitsPerDay .nanoseconds + 1 ∧
      n / unitsPerDay .nanoseconds + 1 ≤ Date.latest.dayNumber := by
    rw [Date.dayNumber_earliest, Date.dayNumber_latest, unitsPerDay]
    omega
  obtain ⟨d, hd⟩ := Date.exists_dayNumber_iff.mpr hreach
  rw [value_instant, microseconds, tdiv_nanoseconds, if_pos hover,
    Date.ofDayNumber?_eq_some_iff.mpr hd]
  exact ⟨d, rfl, hd⟩

theorem dayOfEra_eq {n : Int} (h : -(pow2 31 : Int) ≤ n) (h' : n < pow2 31) : dayOfEra n =
    if n + epochDay < pow2 31 then n + epochDay else n + epochDay - pow2 32 := by
  rw [pow2_31] at h h' ⊢
  rw [dayOfEra, Int.bmod_def, pow2_32, epochDay]
  split <;> split <;> omega

theorem value_day (n : Int) : (day n).value =
    (Date.ofDayNumber? (dayOfEra n - epochDay)).elim .null .date := rfl

/-- A day that starts over is beyond all dates, as it is if it is counted on. -/
theorem isDay_day {n : Int} (h : -(pow2 31 : Int) ≤ n) (h' : n < pow2 31) :
    (day n).value.IsDay n ∧ ((pow2 31 : Int) ≤ n + epochDay → (day n).value = .null) := by
  rw [value_day, dayOfEra_eq h h']
  by_cases hfit : n + epochDay < pow2 31
  · rw [if_pos hfit, Int.add_sub_cancel]
    exact ⟨Value.isDay_of_ofDayNumber? n, fun hover => absurd hover (not_le.mpr hfit)⟩
  · rw [if_neg hfit]
    rw [pow2_31] at h'
    rw [pow2_31, epochDay] at hfit
    have hback : n + epochDay - pow2 32 - epochDay < Date.earliest.dayNumber := by
      rw [Date.dayNumber_earliest, pow2_32]
      omega
    have hahead : Date.latest.dayNumber < n := by
      rw [Date.dayNumber_latest]
      omega
    obtain ⟨hnull, hday⟩ := Value.isDay_of_beyond (.inl hback) (.inr hahead)
    exact ⟨hday, fun _ => hnull⟩

/-- Instants of a data frame become the dates of their days, or null beyond the calendar, unless
they are cut over midnight and become the date of the next day. Days become their dates, or null.
The sum by which they are counted from another era overflows for the last days of 32 bits, which
are all null. -/
theorem temporal_data_keep_their_day (unit : TimeUnit) (n : Int) :
    (fits64 n →
      ((instant unit n).value.IsDay (n.fdiv (unitsPerDay unit)) ↔ ¬ IsCutOver unit n) ∧
      (IsCutOver unit n → ∃ d, (instant unit n).value = .date d ∧
        d.dayNumber = n.fdiv (unitsPerDay unit) + 1)) ∧
    (-(pow2 31 : Int) ≤ n → n < pow2 31 →
      (day n).value.IsDay n ∧
      (dayOfEra n = n + epochDay ↔ n + epochDay < pow2 31) ∧
      ((pow2 31 : Int) ≤ n + epochDay → (day n).value = .null)) := by
  refine ⟨fun hn => ?_, fun h h' => ?_⟩
  · rw [fdiv_unitsPerDay]
    by_cases hover : IsCutOver unit n
    · obtain ⟨d, hd, hday⟩ := value_of_isCutOver hn hover
      refine ⟨iff_of_false ?_ (not_not.mpr hover), fun _ => ⟨d, hd, hday⟩⟩
      rw [hd]
      change ¬ d.dayNumber = _
      omega
    · exact ⟨iff_of_true (isDay_instant hover) hover, fun h => absurd h hover⟩
  · obtain ⟨hday, hnull⟩ := isDay_day h h'
    have hpos : 0 < (pow2 32 : Int) := by decide
    refine ⟨hday, ?_, hnull⟩
    rw [dayOfEra_eq h h']
    split <;> omega

/-- Noon of the last day before the epoch belongs to that day, and the last nanosecond of that day
does not. The day before the epoch is found by its count. -/
theorem temporal_data_keep_their_day_noon :
    (instant .nanoseconds (-43200000000000)).value.IsDay (-1) ∧
    (∃ d, (instant .nanoseconds (-1)).value = .date d ∧ d.dayNumber = 0) ∧
    (day (-1)).value.IsDay (-1) := by
  refine ⟨?_, ?_, ?_⟩
  · exact ((temporal_data_keep_their_day .nanoseconds (-43200000000000)).1 (by decide)).1.mpr
      (by decide)
  · exact ((temporal_data_keep_their_day .nanoseconds (-1)).1 (by decide)).2 (by decide)
  · exact ((temporal_data_keep_their_day .nanoseconds (-1)).2 (by decide) (by decide)).1

/-- The last nanosecond before 1970-01-01 is taken for a part of that day. -/
theorem last_nanosecond_is_a_day_late : fits64 (-1) ∧
    ¬ (instant .nanoseconds (-1)).value.IsDay ((-1 : Int).fdiv (unitsPerDay .nanoseconds)) := by
  have hfits : fits64 (-1) := by decide
  obtain ⟨d, hd, hday⟩ := value_of_isCutOver hfits (show IsCutOver .nanoseconds (-1) by decide)
  refine ⟨hfits, ?_⟩
  rw [hd, fdiv_unitsPerDay]
  change ¬ d.dayNumber = _
  omega

end Datum
end TableFilter
