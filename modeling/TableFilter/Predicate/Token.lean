import TableFilter.Comparison
import TableFilter.Value.Basic

/-!
# Tokens of predicates

The words and marks that a predicate consists of. Keywords are known in any case; every other word
names a column, a function or a type.
-/

namespace TableFilter

inductive Token where
  | column (name : String)
  | word (name : String)
  | text (s : String)
  | number (d : Decimal)
  | date (d : Date)
  | truth (b : Bool)
  | null
  | connective (c : Connective)
  | not
  | like
  | compare (op : Comparison)
  | openParen
  | closeParen
  | comma
  deriving DecidableEq

namespace Token

/-- The token as an error message shows it. -/
def shown : Token → String
  | column name => "[" ++ name ++ "]"
  | word name => name
  | text s => "'" ++ s ++ "'"
  | number d => d.text
  | date d => "#" ++ String.ofList d.monthFirstChars ++ "#"
  | truth b => Value.boolText b
  | null => "null"
  | connective c => c.spelling
  | not => "NOT"
  | like => "LIKE"
  | compare op => op.symbol
  | openParen => "("
  | closeParen => ")"
  | comma => ","

/-- The token of a word. -/
def ofWord (cs : List Char) : Token :=
  match String.ofList (cs.map Char.toUpper) with
  | "AND" => connective .and
  | "OR" => connective .or
  | "NOT" => not
  | "LIKE" => like
  | "TRUE" => truth true
  | "FALSE" => truth false
  | "NULL" => null
  | _ => word (String.ofList cs)

end Token
end TableFilter
