import TableFilter.Text.Lowercase

/-!
# Simple case folding

Two characters are the same but for case when their simple case foldings agree. The folding of a
character is its lower-case character, with two exceptions: the lower-case variants listed here fold
to the ordinary letter they are a variant of, and the capital letters that came with version 17 of
the Unicode standard fold to themselves, since folding follows version 16. Folding never changes the
length of a text, so the sharp `ß` is unlike `ss`, and the dotted `İ` is unlike every other letter.
-/

namespace TableFilter.Text

/-- Lower-case variants and what they fold to. -/
def foldVariants : List (Nat × Nat) :=
  [(0xB5, 0x3BC), (0x17F, 0x73), (0x345, 0x3B9), (0x3C2, 0x3C3), (0x3D0, 0x3B2), (0x3D1, 0x3B8),
   (0x3D5, 0x3C6), (0x3D6, 0x3C0), (0x3F0, 0x3BA), (0x3F1, 0x3C1), (0x3F5, 0x3B5),
   (0x1C80, 0x432), (0x1C81, 0x434), (0x1C82, 0x43E), (0x1C83, 0x441), (0x1C84, 0x442),
   (0x1C85, 0x442), (0x1C86, 0x44A), (0x1C87, 0x463), (0x1C88, 0xA64B), (0x1E9B, 0x1E61),
   (0x1FBE, 0x3B9), (0x1FD3, 0x390), (0x1FE3, 0x3B0), (0xFB06, 0xFB05)]

/-- Capital letters without a folding. -/
def unfoldedRanges : List (Nat × Nat) :=
  [(0xA7CE, 0xA7CE), (0xA7D2, 0xA7D2), (0xA7D4, 0xA7D4), (0x16EA0, 0x16EB8)]

def foldChar (c : Char) : Char :=
  match foldVariants.lookup c.toNat with
  | some n => Char.ofNat n
  | none => if inRanges c.toNat unfoldedRanges then c else lowerChar c

/-- Equality of characters under a case policy. -/
def sameChar (caseSensitive : Bool) (a b : Char) : Bool :=
  if caseSensitive then a == b else foldChar a == foldChar b

end TableFilter.Text
