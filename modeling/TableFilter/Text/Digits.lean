/-!
# Decimal digits

Natural numbers are written with the digits `0` to `9`. Reading folds the digits from the left,
and writing gives the shortest digits, filled up with zeros where a format asks for a width.
-/

namespace TableFilter.Text

def digitValue (c : Char) : Nat := c.toNat - '0'.toNat

/-- The number that a list of digits denotes. -/
def natOfDigits (cs : List Char) : Nat := cs.foldl (fun n c => 10 * n + digitValue c) 0

def digitsOfNat (n : Nat) : List Char := Nat.toDigits 10 n

/-- The digits of `n` with zeros in front up to `width` of them. -/
def paddedDigits (width n : Nat) : List Char :=
  List.replicate (width - (digitsOfNat n).length) '0' ++ digitsOfNat n

/-- Reads a text that has digits only, and at least one. -/
def readNat? (cs : List Char) : Option Nat :=
  if !cs.isEmpty && cs.all Char.isDigit then some (natOfDigits cs) else none

/-- Reads digits with an optional plus sign in front. -/
def readUnsigned? : List Char → Option Nat
  | '+' :: cs => readNat? cs
  | cs => readNat? cs

/-- Reads digits with an optional sign in front. -/
def readInt? : List Char → Option Int
  | '-' :: cs => (readNat? cs).map fun n => -(n : Int)
  | cs => (readUnsigned? cs).map fun n => (n : Int)

theorem natOfDigits_append (cs ds : List Char) :
    natOfDigits (cs ++ ds) = ds.foldl (fun n c => 10 * n + digitValue c) (natOfDigits cs) := by
  simp [natOfDigits, List.foldl_append]

end TableFilter.Text
