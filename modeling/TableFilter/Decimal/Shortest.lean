import TableFilter.Decimal.Binary

/-!
# The shortest decimal text of a fraction

A binary fraction is shown with the fewest digits that read back to it, and of several such texts
with the one whose value is nearest. The digits stand in positional notation, however many zeros
that takes. For every number of digits the two neighbours of the fraction on the grid of decimals
with that many digits are tried: if any point of the grid reads back, one of them does.
-/

namespace TableFilter.Fraction

open Text

/-- Digits and a power of ten that stand for `digits * 10 ^ power`. -/
structure Digits where
  digits : List Char
  power : Int
  deriving DecidableEq

/-- The numerator and the denominator of a magnitude. -/
def magnitude (mantissa : Nat) (exponent : Int) : Nat × Nat :=
  (mantissa * pow2 exponent.toNat, pow2 (-exponent).toNat)

/-- The number of digits before the point of a quotient, negative where zeros follow the point. An
`estimate` that is too low is raised by steps. -/
def lead (num den : Nat) : (steps : Nat) → (estimate : Int) → Int
  | 0, estimate => estimate
  | n + 1, estimate =>
    if num * pow10 (-estimate).toNat < den * pow10 estimate.toNat then estimate
    else lead num den n (estimate + 1)

/-- The neighbours of a quotient on the grid of the multiples of `10 ^ power`, the nearer one
first. -/
def neighbours (num den : Nat) (power : Int) : List Nat :=
  let a := num * pow10 (-power).toNat
  let b := den * pow10 power.toNat
  let q := a / b
  if a % b = 0 then [q] else if 2 * (a % b) < b then [q, q + 1] else [q + 1, q]

/-- Digits of a number, without the zeros at its end. -/
def strippedDigits (n : Nat) (power : Int) : Digits :=
  let cs := digitsOfNat n
  let kept := (cs.reverse.dropWhile (· = '0')).reverse
  ⟨kept, power + (cs.length - kept.length : Nat)⟩

/-- The digits of a positive fraction, `count` of them or up to `more` further ones. -/
def searchDigits (p : Precision) (mantissa : Nat) (exponent lead : Int) :
    (more count : Nat) → Option Digits
  | 0, _ => none
  | n + 1, count =>
    let (num, den) := magnitude mantissa exponent
    let power := lead - count
    let back := fun d => ofDigits p false (digitsOfNat d) power = .finite false mantissa exponent
    match (neighbours num den power).find? back with
    | some d => some (strippedDigits d power)
    | none => searchDigits p mantissa exponent lead n (count + 1)

/-- The fewest digits that read back to a positive fraction. Seventeen always do. -/
def shortest? (p : Precision) (mantissa : Nat) (exponent : Int) : Option Digits :=
  let (num, den) := magnitude mantissa exponent
  let low := ((num.log2 : Int) - den.log2 - 1) * 3 / 10 - 1
  searchDigits p mantissa exponent (lead num den (num.log2 + den.log2 + 4) low) 17 1

namespace Digits

/-- Positional notation, without a point where no places are needed. -/
def positional (d : Digits) : List Char :=
  if 0 ≤ d.power then d.digits ++ List.replicate d.power.toNat '0'
  else
    let places := d.power.natAbs
    let padded := List.replicate (places + 1 - d.digits.length) '0' ++ d.digits
    padded.take (padded.length - places) ++ '.' :: padded.drop (padded.length - places)

end Digits

/-- The text of a fraction of double precision. -/
def text : Fraction → String
  | nan => "NaN"
  | infinite negative => if negative then "-inf" else "inf"
  | finite negative mantissa exponent =>
    let sign := if negative then ['-'] else []
    let digits :=
      if mantissa = 0 then ['0']
      else (shortest? .double mantissa exponent).elim ['0'] Digits.positional
    String.ofList (sign ++ digits)

end TableFilter.Fraction
