import TableFilter.Comparison
import TableFilter.Text.Blank

/-!
# Joining predicates

Predicates are joined as text. Blank parts are left out, a single part stays as it is, and several
parts are put in parentheses, so that what binds weakly inside a part cannot reach outside it.
-/

namespace TableFilter.Predicate

open Text

def inParentheses (s : String) : String := "(" ++ s ++ ")"

/-- The parts that are not blank, trimmed. -/
def present (parts : List String) : List String := (parts.map trim).filter (· != "")

def join (c : Connective) (parts : List String) : String :=
  match present parts with
  | [] => ""
  | [part] => part
  | many => c.joiner.intercalate (many.map inParentheses)

/-- Two predicates in one, of which either may be blank. -/
def merge (c : Connective) (left right : String) : String := join c [left, right]

/-- A predicate that is narrowed by another. -/
def narrow (result override : String) : String := join .and [result, override]

end TableFilter.Predicate
