import TableFilter.Decimal.Basic
import TableFilter.Text.Digits

/-!
# Binary fractions and their decimals

A column of a data frame may hold binary fractions of single or double precision. Text is read to
the nearest fraction, a tie going to the even mantissa. A fraction becomes a decimal by moving the
powers of two into a coefficient of 96 bits, after which the places that the precision does not
vouch for are rounded away, half up, and zeros at the end are dropped. Infinities, numbers that are
not a number, and numbers too large for a coefficient have no decimal.
-/

namespace TableFilter

/-- A binary fraction: `mantissa * 2 ^ exponent`, or one of the values that are no number. -/
inductive Fraction where
  | finite (negative : Bool) (mantissa : Nat) (exponent : Int)
  | infinite (negative : Bool)
  | nan
  deriving DecidableEq

/-- Mantissas have `bits` bits and exponents lie between `lowest` and `highest`. A decimal made of
such a fraction keeps its coefficient below `2 ^ vouched` where it has places to give up. -/
structure Precision where
  bits : Nat
  lowest : Int
  highest : Int
  vouched : Nat

namespace Precision

def single : Precision := ⟨24, -149, 104, 24⟩

def double : Precision := ⟨53, -1074, 971, 52⟩

end Precision

namespace Fraction

open Text

/-- The natural number nearest to a quotient, an even one in a tie. -/
def nearest (num den : Nat) : Nat :=
  let q := num / den
  let r := num % den
  if 2 * r < den then q else if den < 2 * r then q + 1 else q + q % 2

/-- The quotient `num / (den * 2 ^ exponent)` as a numerator and a denominator. -/
def scaled (num den : Nat) (exponent : Int) : Nat × Nat :=
  (num * pow2 (-exponent).toNat, den * pow2 exponent.toNat)

/-- The fraction nearest to a quotient of natural numbers. -/
def ofRatio (p : Precision) (negative : Bool) (num den : Nat) : Fraction :=
  if num = 0 then .finite negative 0 p.lowest
  else
    let rough := max ((num.log2 : Int) - den.log2 - p.bits) p.lowest
    let (a, b) := scaled num den rough
    let exponent := if a / b < pow2 p.bits then rough else rough + 1
    let (a, b) := scaled num den exponent
    let mantissa := nearest a b
    let (mantissa, exponent) :=
      if mantissa < pow2 p.bits then (mantissa, exponent) else (mantissa / 2, exponent + 1)
    if exponent ≤ p.highest then .finite negative mantissa exponent else .infinite negative

/-- The fraction nearest to `digits * 10 ^ power`. Powers beyond every precision are cut short. -/
def ofDigits (p : Precision) (negative : Bool) (digits : List Char) (power : Int) : Fraction :=
  let n := natOfDigits digits
  if n = 0 then .finite negative 0 p.lowest
  else if 400 < power + digits.length then .infinite negative
  else if power + digits.length < -400 then .finite negative 0 p.lowest
  else ofRatio p negative (n * pow10 power.toNat) (pow10 (-power).toNat)

def readPower? : List Char → Option Int
  | [] => some 0
  | c :: rest => if c = 'e' ∨ c = 'E' then readInt? rest else none

def readUnsigned? (p : Precision) (negative : Bool) (cs : List Char) : Option Fraction :=
  let whole := cs.takeWhile Char.isDigit
  let rest := cs.dropWhile Char.isDigit
  let (places, rest) := match rest with
    | '.' :: more => (more.takeWhile Char.isDigit, more.dropWhile Char.isDigit)
    | _ => ([], rest)
  if (whole ++ places).isEmpty then
    match String.ofList (cs.map Char.toLower) with
    | "inf" | "infinity" => some (.infinite negative)
    | "nan" => some .nan
    | _ => none
  else (readPower? rest).map fun power =>
    ofDigits p negative (whole ++ places) (power - places.length)

/-- Reads positional or scientific notation, and the names of the values that are no number. -/
def read? (p : Precision) (s : String) : Option Fraction :=
  match s.toList with
  | '-' :: cs => readUnsigned? p true cs
  | '+' :: cs => readUnsigned? p false cs
  | cs => readUnsigned? p false cs

/-- Divides by two `steps` times. A division of an odd coefficient multiplies by five instead,
which leaves one more of the `places` in use, as long as the coefficient has room. -/
def divideByTwos : (steps coefficient places : Nat) → Nat × Nat
  | 0, c, places => (c, places)
  | n + 1, c, places =>
    if c % 2 = 1 ∧ 5 * c < pow2 96 then divideByTwos n (5 * c) places
    else divideByTwos n (c / 2) (places - 1)

/-- A coefficient with its last digit rounded away. -/
def dropDigit (c : Nat) : Nat := if c % 10 < 5 then c / 10 else c / 10 + 1

/-- Gives up `excess` places. A coefficient that has no digit left becomes zero without places. -/
def giveUp : (excess coefficient places : Nat) → Nat × Nat
  | 0, c, places => (c, places)
  | n + 1, c, places => if c < 10 then (0, 0) else giveUp n (dropDigit c) (places - 1)

/-- Gives up places until the coefficient is below `bound`. -/
def limit (bound : Nat) : (places coefficient : Nat) → Nat × Nat
  | 0, c => (c, 0)
  | places + 1, c => if c < bound then (c, places + 1) else limit bound places (dropDigit c)

def stripZeros : (places coefficient : Nat) → Nat × Nat
  | 0, c => (c, 0)
  | places + 1, c => if c % 10 = 0 then stripZeros places (c / 10) else (c, places + 1)

/-- Coefficient and places of the exact value of a magnitude, or of a value close to it. -/
def roughParts? (mantissa : Nat) (exponent : Int) : Option (Nat × Nat) :=
  if exponent < 0 then some (divideByTwos exponent.natAbs mantissa exponent.natAbs)
  else if mantissa * pow2 exponent.natAbs < pow2 96 then some (mantissa * pow2 exponent.natAbs, 0)
  else none

/-- The parts that remain of a coefficient and its places. -/
def keptParts (p : Precision) (coefficient places : Nat) : Nat × Nat :=
  let (c, places) := giveUp (places - 28) coefficient places
  let (c, places) := limit (pow2 p.vouched) places c
  stripZeros places c

/-- Coefficient and places of a finite fraction. -/
def parts? (p : Precision) (mantissa : Nat) (exponent : Int) : Option (Nat × Nat) :=
  if mantissa = 0 then some (0, 0)
  else (roughParts? mantissa exponent).map fun parts => keptParts p parts.1 parts.2

def toDecimal? (p : Precision) : Fraction → Option Decimal
  | finite negative mantissa exponent =>
    (parts? p mantissa exponent).bind fun parts => Decimal.withSign? negative parts.1 parts.2
  | _ => none

end Fraction
end TableFilter
