import TableFilter.Comparison
import TableFilter.Value.Basic

/-!
# The parts that predicates are written with

References to columns, literals, and the small predicates that filters are made of, as text.
-/

namespace TableFilter.Literal

open Text

def escapeInColumn (c : Char) : List Char := if c = ']' ∨ c = '\\' then ['\\', c] else [c]

/-- A name in brackets, with a backslash before each closing bracket and backslash. -/
def columnRef (name : String) : String :=
  String.ofList ('[' :: name.toList.flatMap escapeInColumn ++ [']'])

/-- Writes every quote twice. -/
def doubleQuotes (cs : List Char) : List Char :=
  cs.flatMap fun c => if c = '\'' then ['\'', '\''] else [c]

/-- Makes one quote of every pair. -/
def undoubleQuotes : List Char → List Char
  | '\'' :: '\'' :: rest => '\'' :: undoubleQuotes rest
  | c :: rest => c :: undoubleQuotes rest
  | [] => []

/-- A string literal. -/
def quote (s : String) : String := String.ofList ('\'' :: doubleQuotes s.toList ++ ['\''])

/-- The text of a string literal, given what stands between its quotes. -/
def unquote (body : String) : String := String.ofList (undoubleQuotes body.toList)

def number (d : Decimal) : String := d.text

def date (d : Date) : String := String.ofList ('#' :: d.monthFirstChars ++ ['#'])

def compare (left : String) (op : Comparison) (right : String) : String :=
  left ++ " " ++ op.symbol ++ " " ++ right

/-- The operand as text. -/
def asText (operand : String) : String := "Convert(" ++ operand ++ ", 'System.String')"

/-- Compares with a truth value, which no number, date or missing cell equals. -/
def never (ref : String) : String := ref ++ " = false"

/-- The text that stands in for null where a filter asks for missing cells. -/
def nullSentinel : String := "¤null¤7c3e¤"

/-- A regular expression for `date`, which names its groups for the parts of the date. -/
def datePattern (suffix : String) : String :=
  "#(?P<month" ++ suffix ++ ">[0-9]\x7b2\x7d)/(?P<day" ++ suffix ++ ">[0-9]\x7b2\x7d)/(?P<year" ++
    suffix ++ ">[0-9]\x7b4\x7d)#"

end TableFilter.Literal
