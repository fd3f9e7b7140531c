import TableFilter.Column
import TableFilter.Error
import TableFilter.Predicate.Eval
import TableFilter.Predicate.Parser

/-!
# Accepting predicates

A table accepts a blank predicate, which all rows satisfy, and a predicate that can be read and
names columns of the table only.
-/

namespace TableFilter

namespace Column

/-- The position of the first column of a name. -/
def indexOf? (columns : List Column) (name : String) : Option Nat :=
  columns.findIdx? fun c => c.name = name

end Column

/-- The expression of a predicate for a table with the given columns, none if it is blank. -/
def compile (predicate : String) (columns : List Column) : Except FilterError (Option Expr) :=
  if Text.isBlankText predicate then .ok none
  else match Expr.ofText predicate with
  | .error cause => .error (.malformed predicate cause)
  | .ok e =>
    match e.columns.find? fun name => (Column.indexOf? columns name).isNone with
    | some name => .error (.malformed predicate (.unknownColumn name))
    | none => .ok (some e)

/-- Whether a row is visible under an expression, if there is one. -/
def shows (caseSensitive : Bool) (e : Option Expr) (row : Row) : Bool :=
  e.all (·.matchesRow caseSensitive row)

/-- The members of a list whose marks are set. -/
def marked {α : Type} : List Bool → List α → List α
  | b :: marks, a :: as => if b then a :: marked marks as else marked marks as
  | _, _ => []

theorem marked_map {α : Type} (p : α → Bool) (as : List α) :
    marked (as.map p) as = as.filter p := by
  induction as with
  | nil => rfl
  | cons a as ih => cases h : p a <;> simp [marked, h, ih]

end TableFilter
