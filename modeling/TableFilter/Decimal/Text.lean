import TableFilter.Decimal.Basic
import TableFilter.Text.Blank
import TableFilter.Text.Digits

/-!
# Decimal numbers as text

A decimal is written in positional notation with exactly `scale` digits after the point. Reading
accepts a sign, digits, one point and, once a digit has been seen, underscores anywhere. Digits
that no longer fit are dropped after rounding the last one kept, half up: this happens at the
twenty-ninth place after the point, or when a place after the point would make the coefficient too
large. The first dropped digit decides; the others have to be digits or underscores. Too many digits
before the point are an error. Where plain notation fails, scientific notation with an exponent of
at most 28 is tried, which rounds at the twenty-eighth place as well.
-/

namespace TableFilter.Decimal

open Text

def toChars (d : Decimal) : List Char :=
  let digits := paddedDigits (d.scale + 1) d.coefficient
  let whole := digits.take (digits.length - d.scale)
  let fraction := digits.drop (digits.length - d.scale)
  (if d.negative then ['-'] else []) ++ whole ++ (if d.scale = 0 then [] else '.' :: fraction)

def text (d : Decimal) : String := String.ofList d.toChars

def isDigitOrUnderscore (c : Char) : Bool := c.isDigit || c == '_'

/-- Ends a number before its first dropped character, which decides the rounding; an underscore
counts as a zero. A rounding that overflows the coefficient gives up one more place, if there is
one. -/
def roundAt (coefficient scale : Nat) (dropped : Char) (rest : List Char) : Option (Nat × Nat) :=
  if !(dropped :: rest).all isDigitOrUnderscore then none
  else if dropped = '_' ∨ digitValue dropped < 5 then some (coefficient, scale)
  else if coefficient + 1 < pow2 96 then some (coefficient + 1, scale)
  else if scale = 0 then none
  else some ((coefficient + 5) / 10, scale - 1)

/-- Whether a coefficient leaves room for one more digit in 64 bits, by a cautious estimate. -/
def isSmall (coefficient : Nat) : Bool := coefficient < (pow2 64 - 1) / 10 - 255

/-- Ends a number that has all its places. Underscores before the first dropped digit are passed
over if `pass` says so. -/
def roundFull (pass : Bool) (coefficient scale : Nat) : List Char → Option (Nat × Nat)
  | [] => some (coefficient, scale)
  | c :: rest =>
    if pass && c == '_' then roundFull pass coefficient scale rest
    else roundAt coefficient scale c rest

/-- Coefficient and scale of an unsigned number, of which `coefficient` and `scale` have been read.
`point` and `seen` tell whether a point and a digit have been met. An underscore after the last
place counts as a dropped zero as long as the coefficient was small before that place. -/
def readPlaces (point seen : Bool) (coefficient scale : Nat) : List Char → Option (Nat × Nat)
  | [] => if seen then some (coefficient, scale) else none
  | c :: rest =>
    if c.isDigit then
      let next := 10 * coefficient + digitValue c
      if next < pow2 96 then
        if !point then readPlaces point true next scale rest
        else if scale + 1 < 28 then readPlaces point true next (scale + 1) rest
        else roundFull (!isSmall coefficient) next (scale + 1) rest
      else if point then roundAt coefficient scale c rest
      else none
    else if c = '.' then if point then none else readPlaces true seen coefficient scale rest
    else if c = '_' then if seen then readPlaces point seen coefficient scale rest else none
    else none

/-- Reads plain notation. -/
def ofChars? (cs : List Char) : Option Decimal :=
  match cs with
  | '-' :: rest => (readPlaces false false 0 0 rest).bind fun (c, s) => ofParts? true c s
  | '+' :: rest => (readPlaces false false 0 0 rest).bind fun (c, s) => ofParts? false c s
  | _ => (readPlaces false false 0 0 cs).bind fun (c, s) => ofParts? false c s

def ofText? (s : String) : Option Decimal := ofChars? s.toList

def readExponent? (cs : List Char) : Option Nat :=
  (readUnsigned? cs).filter (· < pow2 32)

/-- The number without its last places, rounded half up. Zero keeps the sign. -/
def dropPlaces? (d : Decimal) (places : Nat) : Option Decimal :=
  withSign? d.negative ((2 * d.coefficient + pow10 places) / (2 * pow10 places)) (d.scale - places)

/-- The number with its point moved to the left by at most 28 places. Places beyond the
twenty-eighth are dropped. -/
def shiftLeft? (d : Decimal) (places : Nat) : Option Decimal := do
  let kept ← d.dropPlaces? (d.scale + places - 28)
  withSign? kept.negative kept.coefficient (kept.scale + places)

/-- The number with its point moved to the right. Past the last digit the number becomes a whole
one. -/
def shiftRight? (d : Decimal) (places : Nat) : Option Decimal :=
  if places ≤ d.scale then ofParts? d.negative d.coefficient (d.scale - places)
  else if places ≤ 28 then ofParts? d.negative (d.coefficient * pow10 (places - d.scale)) 0
  else none

def isExponentMark (c : Char) : Bool := c == 'e' || c == 'E'

def ofScientific? (cs : List Char) : Option Decimal := do
  let base ← ofChars? (cs.takeWhile (!isExponentMark ·))
  match cs.dropWhile (!isExponentMark ·) with
  | [] => none
  | _ :: '-' :: rest => do
    let places ← readExponent? rest
    if places ≤ 28 then base.shiftLeft? places else none
  | _ :: rest => do
    let places ← readExponent? rest
    base.shiftRight? places

/-- Reads what a user or a predicate may write for a number. -/
def read? (s : String) : Option Decimal :=
  match trimChars s.toList with
  | [] => none
  | '+' :: rest => ofChars? rest <|> ofScientific? rest
  | cs => ofChars? cs <|> ofScientific? cs

end TableFilter.Decimal
