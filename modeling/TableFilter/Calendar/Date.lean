/-!
# Calendar dates

Dates of the proleptic Gregorian calendar, with a year zero, from January of the year -262143 to
December of the year 262142. A date carries the proof that it exists. Dates correspond to day
numbers counted from 1970-01-01: `dayNumber` counts, and `ofDayNumber?` finds the date again by
correcting a linear estimate of the year and then walking through the months.
-/

namespace TableFilter

namespace Calendar

def isLeap (year : Int) : Bool := year % 4 = 0 && (year % 100 != 0 || year % 400 = 0)

def daysInMonth (year : Int) : Nat → Nat
  | 2 => if isLeap year then 29 else 28
  | 4 | 6 | 9 | 11 => 30
  | _ => 31

def daysInYear (year : Int) : Nat := if isLeap year then 366 else 365

/-- Days from the first day of the year zero to the first day of `year`. -/
def daysBeforeYear (year : Int) : Int :=
  365 * year + (year + 3) / 4 - (year + 99) / 100 + (year + 399) / 400

def daysBeforeMonth (year : Int) (month : Nat) : Nat :=
  (List.range (month - 1)).foldl (fun days m => days + daysInMonth year (m + 1)) 0

/-- The day number of the first day of the year zero. -/
def epoch : Int := -719528

/-- The year in which a day falls, for days counted from the first day of the year zero. -/
def yearOfDay (n : Int) : Int :=
  let y := 400 * n / 146097
  if n < daysBeforeYear y then y - 1 else if daysBeforeYear (y + 1) ≤ n then y + 1 else y

/-- Month and day that lie `days` days after the first day of `month`. -/
def walkMonths (year : Int) : (months days month : Nat) → Nat × Nat
  | 0, days, month => (month, days + 1)
  | k + 1, days, month =>
    if days < daysInMonth year month then (month, days + 1)
    else walkMonths year k (days - daysInMonth year month) (month + 1)

def IsDate (year : Int) (month day : Nat) : Prop :=
  -262143 ≤ year ∧ year ≤ 262142 ∧ 1 ≤ month ∧ month ≤ 12 ∧ 1 ≤ day ∧ day ≤ daysInMonth year month

instance (year : Int) (month day : Nat) : Decidable (IsDate year month day) := by
  unfold IsDate; infer_instance

end Calendar

structure Date where
  year : Int
  month : Nat
  day : Nat
  isDate : Calendar.IsDate year month day
  deriving DecidableEq

namespace Date

open Calendar

def ofYmd? (year : Int) (month day : Nat) : Option Date :=
  if h : IsDate year month day then some ⟨year, month, day, h⟩ else none

def order (a b : Date) : Ordering :=
  (compare a.year b.year).then ((compare a.month b.month).then (compare a.day b.day))

/-- The place of the day in its year, counted from one. -/
def dayOfYear (d : Date) : Nat := daysBeforeMonth d.year d.month + d.day

/-- Days since 1970-01-01. -/
def dayNumber (d : Date) : Int := epoch + daysBeforeYear d.year + (d.dayOfYear - 1 : Nat)

/-- The date `n` days after 1970-01-01, if it is within the range of dates. -/
def ofDayNumber? (n : Int) : Option Date :=
  let year := yearOfDay (n - epoch)
  let (month, day) := walkMonths year 11 (n - epoch - daysBeforeYear year).toNat 1
  ofYmd? year month day

def ofDayOfYear? (year : Int) (n : Nat) : Option Date :=
  if 1 ≤ n ∧ n ≤ daysInYear year then
    let (month, day) := walkMonths year 11 (n - 1) 1
    ofYmd? year month day
  else none

/-- Days since the last Monday, for a day number. -/
def weekdayOf (n : Int) : Nat := ((n + 3) % 7).toNat

/-- Days since the last Monday. -/
def weekday (d : Date) : Nat := weekdayOf d.dayNumber

/-- The week of the year, where weeks begin on the weekday `first` and the days before the first
such weekday are in week zero. -/
def weekFrom (first : Nat) (d : Date) : Nat := (d.dayOfYear + 6 - (d.weekday + 7 - first) % 7) / 7

/-- Year and week by the rule that a week belongs to the year of its Thursday. -/
def isoWeek (d : Date) : Int × Nat :=
  let thursday := d.dayNumber - d.weekday + 3
  let year := yearOfDay (thursday - epoch)
  (year, ((thursday - epoch - daysBeforeYear year) / 7).toNat + 1)

/-- The date of a weekday in a week that belongs to the year of its Thursday. -/
def ofIsoWeek? (year : Int) (week weekday : Nat) : Option Date :=
  let fourth := epoch + daysBeforeYear year + 3
  let thursday := fourth - weekdayOf fourth + 7 * ((week : Int) - 1) + 3
  if 1 ≤ week ∧ yearOfDay (thursday - epoch) = year then
    ofDayNumber? (thursday - 3 + weekday)
  else none

/-- The date of a weekday in a week counted from the first weekday `first` of the year. -/
def ofWeek? (year : Int) (week weekday first : Nat) : Option Date :=
  let january := weekdayOf (epoch + daysBeforeYear year)
  let start := (first + 7 - january) % 7
  let n := start + 7 * week + (weekday + 7 - first) % 7
  if n < 7 then none else ofDayOfYear? year (n - 6)

end Date
end TableFilter
