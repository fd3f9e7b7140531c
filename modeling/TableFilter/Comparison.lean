import TableFilter.Vocabulary

/-!
# Comparisons and connectives

The six comparisons of a predicate as sets of orderings, and the two connectives that join
predicates.
-/

namespace TableFilter

inductive Comparison where
  | eq | ne | lt | le | gt | ge
  deriving DecidableEq, Repr

namespace Comparison

def symbol : Comparison → String
  | eq => "="
  | ne => "<>"
  | lt => "<"
  | le => "<="
  | gt => ">"
  | ge => ">="

instance : Vocabulary Comparison where
  members := [eq, ne, lt, le, gt, ge]
  spelling := symbol
  anyCase := false

/-- Whether the comparison is true of two values that are in the given order. -/
def holds : Comparison → Ordering → Bool
  | eq, o => o == .eq
  | ne, o => o != .eq
  | lt, o => o == .lt
  | le, o => o != .gt
  | gt, o => o == .gt
  | ge, o => o != .lt

/-- The comparison with its two sides exchanged. -/
def swap : Comparison → Comparison
  | lt => gt
  | le => ge
  | gt => lt
  | ge => le
  | c => c

theorem holds_swap (c : Comparison) (o : Ordering) : c.swap.holds o = c.holds o.swap := by
  cases c <;> cases o <;> rfl

end Comparison

inductive Connective where
  | and | or
  deriving DecidableEq, Repr

namespace Connective

def spelling : Connective → String
  | and => "AND"
  | or => "OR"

instance : Vocabulary Connective where
  members := [and, or]
  spelling := spelling
  anyCase := true

/-- The text between two predicates that are joined. -/
def joiner (c : Connective) : String := " " ++ c.spelling ++ " "

end Connective
end TableFilter
