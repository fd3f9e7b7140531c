/-!
# Powers of two and of ten

Bounds of numbers that are kept in a fixed number of bits, and the weights of decimal places.
-/

namespace TableFilter

/-- How many numbers have at most `bits` bits. -/
def pow2 (bits : Nat) : Nat := Nat.pow 2 bits

/-- The weight of the digit that has `places` digits after it. -/
def pow10 (places : Nat) : Nat := Nat.pow 10 places

theorem pow10_zero : pow10 0 = 1 := rfl

theorem pow10_succ (n : Nat) : pow10 (n + 1) = 10 * pow10 n := Nat.mul_comm _ _

theorem pow10_pos (n : Nat) : 0 < pow10 n := Nat.pow_pos (by decide)

/-- The whole numbers that are kept in 64 bits with their sign. -/
def fits64 (n : Int) : Bool := -(pow2 63 : Int) ≤ n && n < pow2 63

end TableFilter
