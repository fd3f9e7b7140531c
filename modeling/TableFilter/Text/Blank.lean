import TableFilter.Text.Ranges

/-!
# Blank characters and trimming

A character is blank when Unicode gives it the property `White_Space`. Criteria, predicates and
their parts are trimmed of blank characters at both ends before anything else looks at them.
-/

namespace TableFilter.Text

/-- The code points with the property `White_Space`. -/
def blankRanges : List (Nat × Nat) :=
  [(0x9, 0xD), (0x20, 0x20), (0x85, 0x85), (0xA0, 0xA0), (0x1680, 0x1680), (0x2000, 0x200A),
   (0x2028, 0x2029), (0x202F, 0x202F), (0x205F, 0x205F), (0x3000, 0x3000)]

def isBlank (c : Char) : Bool := inRanges c.toNat blankRanges

/-- Drops the blank characters at both ends. -/
def trimChars (cs : List Char) : List Char :=
  ((cs.dropWhile isBlank).reverse.dropWhile isBlank).reverse

def trim (s : String) : String := String.ofList (trimChars s.toList)

/-- A text that has nothing but blank characters. -/
def isBlankText (s : String) : Bool := s.toList.all isBlank

end TableFilter.Text
