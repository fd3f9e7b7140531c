/-!
# Vocabularies

The operators, kinds and modes a user can name form small closed types. A vocabulary lists the
members of such a type, each with its one spelling, and says whether reading looks at the case of
the letters `a` to `z`.
-/

namespace TableFilter

class Vocabulary (α : Type) where
  members : List α
  spelling : α → String
  anyCase : Bool

namespace Vocabulary

variable {α : Type} [Vocabulary α]

/-- Equality of spellings, with or without regard to case. -/
def sameSpelling (anyCase : Bool) (s t : String) : Bool :=
  if anyCase then s.toList.map Char.toLower == t.toList.map Char.toLower else s == t

def read? (s : String) : Option α :=
  (members (α := α)).find? fun a => sameSpelling (anyCase α) (spelling a) s

end Vocabulary
end TableFilter
