import TableFilter.Decimal.Binary
import TableFilter.Value.Basic

/-!
# Data of data frames

The columns of a data frame have types of their own. A datum is turned into a cell value: whole
numbers and binary fractions into decimals, days and instants into dates. What has no form as a
cell value becomes null.
-/

namespace TableFilter

inductive TimeUnit where
  | milliseconds | microseconds | nanoseconds
  deriving DecidableEq, Repr

inductive Datum where
  | null
  | bool (b : Bool)
  | text (s : String)
  | whole (n : Int)
  | fraction (p : Precision) (f : Fraction)
  /-- Days since 1970-01-01. -/
  | day (n : Int)
  /-- Units of time since the start of 1970-01-01. -/
  | instant (unit : TimeUnit) (n : Int)

/-- The type of a column. -/
inductive DatumType where
  | bool | text | whole | fraction | day | instant | unknown
  deriving DecidableEq, Repr

namespace DatumType

/-- The kind of values that a column of this type is filtered as. -/
def kind : DatumType → ValueKind
  | bool => .boolean
  | whole | fraction => .number
  | day | instant => .date
  | text | unknown => .text

end DatumType

namespace Datum

/-! Instants are counted in 64 bits and days in 32. -/

/-- The number of 64 bits that is nearest to a number. -/
def clamp (n : Int) : Int := max (-(pow2 63 : Nat)) (min n (pow2 63 - 1))

def microsecondsPerDay : Int := 86400000000

/-- Microseconds of an instant. Part of a microsecond is cut off toward zero. -/
def microseconds : TimeUnit → Int → Int
  | .milliseconds, n => clamp (n * 1000)
  | .microseconds, n => n
  | .nanoseconds, n => n.tdiv 1000

def dateOfInstant? (unit : TimeUnit) (n : Int) : Option Date :=
  Date.ofDayNumber? ((microseconds unit n).fdiv microsecondsPerDay)

/-- The number of 1970-01-01 where 0001-01-01 is day one. -/
def epochDay : Int := 719163

/-- A day counted from 0001-01-01 as day one, given the days since 1970-01-01. A sum that needs more
than 32 bits starts over at the least number. -/
def dayOfEra (n : Int) : Int := (n + epochDay).bmod (pow2 32)

def dateOfDay? (n : Int) : Option Date := Date.ofDayNumber? (dayOfEra n - epochDay)

def value : Datum → Value
  | null => .null
  | bool b => .bool b
  | text s => .text s
  | whole n => (Decimal.ofInt? n).elim .null .number
  | fraction p f => (f.toDecimal? p).elim .null .number
  | day n => (dateOfDay? n).elim .null .date
  | instant unit n => (dateOfInstant? unit n).elim .null .date

end Datum
end TableFilter
