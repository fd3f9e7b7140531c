import TableFilter.Predicate.Expr
import TableFilter.Predicate.Like
import TableFilter.Value.Order

/-!
# Evaluation of predicates

Truth has three values. A comparison with null or between values of unlike kinds is unknown, as is
the truth of a value that is no truth value. Conjunction and disjunction are known as soon as one
side decides them. A predicate used as an operand is a truth value, or null where it is unknown. A
row matches when the predicate is true of it.
-/

namespace TableFilter

/-- The cells of a row by the names of their columns. -/
abbrev Row := String → Value

/-- Conjunction or disjunction of truths that may be unknown. -/
def Connective.kleene : Connective → Option Bool → Option Bool → Option Bool
  | .and, some false, _ | .and, _, some false => some false
  | .and, some true, some true => some true
  | .or, some true, _ | .or, _, some true => some true
  | .or, some false, some false => some false
  | _, _, _ => none

def Value.truth : Value → Option Bool
  | .bool b => some b
  | _ => none

def Value.ofTruth : Option Bool → Value
  | some b => .bool b
  | none => .null

theorem Value.truth_ofTruth (t : Option Bool) : (Value.ofTruth t).truth = t := by
  cases t <;> rfl

namespace Expr

/-- The value of an expression in a row. -/
def eval (caseSensitive : Bool) (row : Row) : Expr → Value
  | literal v => v
  | column name => row name
  | convert e kind => ((e.eval caseSensitive row).convert kind).getD .null
  | ifNull e fallback =>
    match e.eval caseSensitive row with
    | .null => fallback.eval caseSensitive row
    | v => v
  | compare op left right =>
    .ofTruth (((left.eval caseSensitive row).order caseSensitive (right.eval caseSensitive row)).map
      op.holds)
  | like e pattern =>
    .ofTruth do
      let text ← (e.eval caseSensitive row).shown?
      let pattern ← (pattern.eval caseSensitive row).shown?
      Like.accepts? caseSensitive pattern text
  | join c left right =>
    .ofTruth (c.kleene (left.eval caseSensitive row).truth (right.eval caseSensitive row).truth)
  | not e => .ofTruth ((e.eval caseSensitive row).truth.map (!·))

def truth (caseSensitive : Bool) (row : Row) (e : Expr) : Option Bool :=
  (e.eval caseSensitive row).truth

def matchesRow (caseSensitive : Bool) (row : Row) (e : Expr) : Bool :=
  e.truth caseSensitive row == some true

end Expr
end TableFilter
