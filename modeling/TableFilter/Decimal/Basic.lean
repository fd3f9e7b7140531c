import TableFilter.Power

/-!
# Decimal numbers

A number is a sign, a coefficient below `2 ^ 96` and a scale of at most 28 digits after the
point. The scale belongs to the number: `1.5` and `1.50` are written differently, yet they
compare as equal. A negative zero can arise from a binary fraction or by rounding, and equals zero
as well.
-/

namespace TableFilter

structure Decimal where
  negative : Bool
  coefficient : Nat
  scale : Nat
  coefficient_lt : coefficient < pow2 96
  scale_le : scale ≤ 28
  deriving DecidableEq

namespace Decimal

/-- The decimal with the given parts, if they are in range. -/
def withSign? (negative : Bool) (coefficient scale : Nat) : Option Decimal :=
  if h : coefficient < pow2 96 ∧ scale ≤ 28 then some ⟨negative, coefficient, scale, h.1, h.2⟩
  else none

/-- The decimal with the given parts, where zero takes no sign. -/
def ofParts? (negative : Bool) (coefficient scale : Nat) : Option Decimal :=
  withSign? (negative && coefficient != 0) coefficient scale

def ofInt? (n : Int) : Option Decimal := ofParts? (n < 0) n.natAbs 0

def zero : Decimal := ⟨false, 0, 0, by decide, by decide⟩

def one : Decimal := ⟨false, 1, 0, by decide, by decide⟩

/-- The largest decimal. -/
def greatest : Decimal := ⟨false, pow2 96 - 1, 0, by decide, by decide⟩

/-- The smallest decimal. -/
def least : Decimal := ⟨true, pow2 96 - 1, 0, by decide, by decide⟩

/-- The coefficient with its sign. -/
def signed (d : Decimal) : Int := if d.negative then -(d.coefficient : Int) else d.coefficient

/-- Order by value: both coefficients are brought to a common scale. -/
def order (a b : Decimal) : Ordering :=
  compare (a.signed * pow10 b.scale) (b.signed * pow10 a.scale)

/-- Equality by value, whatever the scales. -/
def sameValue (a b : Decimal) : Bool := a.order b == .eq

end Decimal
end TableFilter
