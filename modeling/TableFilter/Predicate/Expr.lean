import TableFilter.Comparison
import TableFilter.Value.Basic

/-!
# Predicate expressions

The tree of a predicate. Names of columns are kept without brackets.
-/

namespace TableFilter

inductive Expr where
  | literal (v : Value)
  | column (name : String)
  /-- The operand as another kind of value. -/
  | convert (e : Expr) (kind : ValueKind)
  /-- The operand, or the fallback when it is null. -/
  | ifNull (e fallback : Expr)
  | compare (op : Comparison) (left right : Expr)
  | like (e pattern : Expr)
  | join (c : Connective) (left right : Expr)
  | not (e : Expr)
  deriving DecidableEq

namespace Expr

/-- The names of the columns in the order in which they appear, with repetitions. -/
def mentions : Expr → List String
  | literal _ => []
  | column name => [name]
  | convert e _ | not e => e.mentions
  | ifNull e f | like e f | compare _ e f | join _ e f => e.mentions ++ f.mentions

/-- Inserts a name into a sorted list that has each name once. -/
def insertName (name : String) : List String → List String
  | [] => [name]
  | other :: rest =>
    match Ord.compare name other with
    | .lt => name :: other :: rest
    | .eq => other :: rest
    | .gt => other :: insertName name rest

/-- The names of the columns, sorted, each once. -/
def columns (e : Expr) : List String := e.mentions.foldr insertName []

end Expr
end TableFilter
