import TableFilter.Calendar.Pattern

/-!
# Dates as text

A date is written year first when it is shown, and month first inside a predicate. Years of four
digits are written as they are; all others carry a sign and at least four digits. A text is read by
several patterns in turn, the first that fits being taken, and by the year-first pattern last.
-/

namespace TableFilter.Date

open Text

def yearChars (year : Int) : List Char :=
  if 0 ≤ year ∧ year ≤ 9999 then paddedDigits 4 year.toNat
  else (if year < 0 then '-' else '+') :: paddedDigits 4 year.natAbs

/-- Year, month and day with hyphens between them. -/
def toChars (d : Date) : List Char :=
  yearChars d.year ++ '-' :: paddedDigits 2 d.month ++ '-' :: paddedDigits 2 d.day

def text (d : Date) : String := String.ofList d.toChars

/-- Month, day and year with slashes between them. -/
def monthFirstChars (d : Date) : List Char :=
  paddedDigits 2 d.month ++ '/' :: paddedDigits 2 d.day ++ '/' :: yearChars d.year

/-- The pattern of `toChars`. -/
def yearFirst : String := "%Y-%m-%d"

/-- The pattern of `monthFirstChars`. -/
def monthFirst : String := "%m/%d/%Y"

def read? (formats : List String) (s : String) : Option Date :=
  (formats ++ [yearFirst]).findSome? fun format => ofPattern? format.toList (trimChars s.toList)

end TableFilter.Date
