import TableFilter.Calendar.Date
import TableFilter.Power

/-!
# What a text says about a date

Reading a date by a pattern yields findings: values of calendar and clock fields. A field may be
found twice, but then with the same value. The findings determine a date when they hold a year with
month and day, with a day of the year, or with a week and a weekday, or a week-based year with week
and weekday, tried in this order; every other finding on the calendar has to agree with the date.
Findings on the clock are checked for their range only.
-/

namespace TableFilter.Calendar

inductive Field where
  | year | century | yearOfCentury
  | isoYear | isoCentury | isoYearOfCentury
  | quarter | month | day | dayOfYear
  | weekFromSunday | weekFromMonday | isoWeek | weekday
  | halfDay | hourOfHalf | minute | second | nanosecond | timestamp | offset
  deriving DecidableEq

abbrev Findings := List (Field × Int)

namespace Findings

/-- Adds a finding, unless the field was found with another value. -/
def add (fs : Findings) (field : Field) (value : Int) : Option Findings :=
  match fs.lookup field with
  | none => some ((field, value) :: fs)
  | some old => if old = value then some fs else none

/-- Adds a finding that has to lie in a range. -/
def addWithin (fs : Findings) (field : Field) (least greatest value : Int) : Option Findings :=
  if least ≤ value ∧ value ≤ greatest then fs.add field value else none

def addYear (fs : Findings) (field : Field) (value : Int) : Option Findings :=
  fs.addWithin field (-(pow2 31 : Nat)) (pow2 31 - 1) value

def addHour (fs : Findings) (value : Int) : Option Findings :=
  if 0 ≤ value ∧ value ≤ 23 then
    (fs.add .halfDay (value / 12)).bind (·.add .hourOfHalf (value % 12))
  else none

def addHourOfHalf (fs : Findings) (value : Int) : Option Findings :=
  if 1 ≤ value ∧ value ≤ 12 then fs.add .hourOfHalf (value % 12) else none

/-- A full year out of a year, its century and its year of the century. A negative year cannot be
checked against the other two; two digits alone lie between 1970 and 2069. A century alone does not
determine a year, which is an error. -/
def fullYear (year century ofCentury : Option Int) : Option (Option Int) :=
  match year, century, ofCentury with
  | y, none, none => some y
  | some y, q, r =>
    if y < 0 then none
    else if q.getD (y / 100) = y / 100 ∧ r.getD (y % 100) = y % 100 then some (some y) else none
  | none, some q, some r => if 100 * q + r < pow2 31 then some (some (100 * q + r)) else none
  | none, none, some r => some (some (r + if r < 70 then 2000 else 1900))
  | none, some _, none => none

def agrees (fs : Findings) (field : Field) (value : Int) : Bool :=
  (fs.lookup field).getD value = value

/-- Agreement on a century or a year of the century, which a negative year does not have. -/
def agreesOnPart (fs : Findings) (field : Field) (year part : Int) : Bool :=
  match fs.lookup field with
  | none => true
  | some value => 0 ≤ year && part = value

/-- Whether every finding on the calendar fits the date. -/
def agreeWith (fs : Findings) (d : Date) : Bool :=
  let (isoYear, isoWeek) := d.isoWeek
  fs.agrees .year d.year && fs.agreesOnPart .century d.year (d.year / 100) &&
    fs.agreesOnPart .yearOfCentury d.year (d.year % 100) &&
    fs.agrees .month d.month && fs.agrees .day d.day &&
    fs.agrees .quarter ((d.month - 1) / 3 + 1) &&
    fs.agrees .isoYear isoYear && fs.agreesOnPart .isoCentury isoYear (isoYear / 100) &&
    fs.agreesOnPart .isoYearOfCentury isoYear (isoYear % 100) &&
    fs.agrees .isoWeek isoWeek && fs.agrees .weekday d.weekday &&
    fs.agrees .dayOfYear d.dayOfYear && fs.agrees .weekFromSunday (d.weekFrom 6) &&
    fs.agrees .weekFromMonday (d.weekFrom 0)

/-- The first of several ways to a date for which all fields were found; it counts even if those
fields name no date. -/
def candidate (fs : Findings) (year isoYear : Option Int) : Option Date :=
  let found (field : Field) : Option Nat := (fs.lookup field).map Int.toNat
  match year, found .month, found .day with
  | some y, some m, some d => Date.ofYmd? y m d
  | _, _, _ =>
  match year, found .dayOfYear with
  | some y, some n => Date.ofDayOfYear? y n
  | _, _ =>
  match year, found .weekFromSunday, found .weekday with
  | some y, some w, some d => Date.ofWeek? y w d 6
  | _, _, _ =>
  match year, found .weekFromMonday, found .weekday with
  | some y, some w, some d => Date.ofWeek? y w d 0
  | _, _, _ =>
  match isoYear, found .isoWeek, found .weekday with
  | some y, some w, some d => Date.ofIsoWeek? y w d
  | _, _, _ => none

def date? (fs : Findings) : Option Date := do
  let year ← fullYear (fs.lookup .year) (fs.lookup .century) (fs.lookup .yearOfCentury)
  let isoYear ← fullYear (fs.lookup .isoYear) (fs.lookup .isoCentury) (fs.lookup .isoYearOfCentury)
  (fs.candidate year isoYear).filter fs.agreeWith

end Findings
end TableFilter.Calendar
