import TableFilter.Comparison
import TableFilter.Predicate.Literal

/-!
# Recognising what filters write

A filter restores its criteria from a predicate that has exactly the form it writes itself. The
functions below take a part of such a form off the front of a text, or recognise all of the text.
The name of the column in a form is not looked at.
-/

namespace TableFilter.Form

open Text

def dropText? (text : String) (cs : List Char) : Option (List Char) :=
  if text.toList.isPrefixOf cs then some (cs.drop text.length) else none

/-- Drops the rest of a reference to a column, of which at least one character must be left or have
been `seen`. A backslash cannot stand before a line feed. -/
def dropName? (seen : Bool) : List Char → Option (List Char)
  | [] | ['\\'] => none
  | ']' :: rest => if seen then some rest else none
  | '\\' :: c :: rest => if c = '\n' then none else dropName? true rest
  | _ :: rest => dropName? true rest

def dropColumnRef? : List Char → Option (List Char)
  | '[' :: rest => dropName? false rest
  | _ => none

/-- What may stand between the quotes of a string: every quote is written twice. -/
def isQuoted : List Char → Bool
  | [] => true
  | '\'' :: '\'' :: rest => isQuoted rest
  | '\'' :: _ => false
  | _ :: rest => isQuoted rest

/-- The text of a string literal up to the end of the text, given what follows its opening quote.
The text of the literal has to end with `ending`, which is left out. -/
def quotedUpTo? (ending : String) (cs : List Char) : Option String :=
  let tail := ending.toList ++ ['\'']
  let body := cs.take (cs.length - tail.length)
  if tail.length ≤ cs.length && cs.drop (cs.length - tail.length) == tail && isQuoted body then
    some (String.ofList (Literal.undoubleQuotes body))
  else none

/-- A number in plain notation. -/
def takeNumber? (cs : List Char) : Option (List Char × List Char) :=
  let (sign, rest) := match cs with
    | '+' :: rest => (['+'], rest)
    | '-' :: rest => (['-'], rest)
    | _ => ([], cs)
  let whole := rest.takeWhile Char.isDigit
  let (places, rest) := match rest.dropWhile Char.isDigit with
    | '.' :: rest => ('.' :: rest.takeWhile Char.isDigit, rest.dropWhile Char.isDigit)
    | rest => ([], rest)
  if whole.isEmpty then none else some (sign ++ whole ++ places, rest)

def takeDigits? (count : Nat) (cs : List Char) : Option (Nat × List Char) :=
  let digits := cs.take count
  if digits.length = count && digits.all Char.isDigit then some (natOfDigits digits, cs.drop count)
  else none

/-- A date literal with two digits for the month and the day and four for the year. A form with
numbers that name no date is recognised, but gives no date. -/
def takeDate? (cs : List Char) : Option (Option Date × List Char) := do
  let rest ← dropText? "#" cs
  let (month, rest) ← takeDigits? 2 rest
  let rest ← dropText? "/" rest
  let (day, rest) ← takeDigits? 2 rest
  let rest ← dropText? "/" rest
  let (year, rest) ← takeDigits? 4 rest
  let rest ← dropText? "#" rest
  return (Date.ofYmd? year month day, rest)

def takeComparison? : List Char → Option (Comparison × List Char)
  | '<' :: '=' :: rest => some (.le, rest)
  | '>' :: '=' :: rest => some (.ge, rest)
  | '<' :: '>' :: rest => some (.ne, rest)
  | '=' :: rest => some (.eq, rest)
  | '<' :: rest => some (.lt, rest)
  | '>' :: rest => some (.gt, rest)
  | _ => none

/-- What a form yields if it makes up the whole text. -/
def whole? {α : Type} : α × List Char → Option α
  | (a, []) => some a
  | _ => none

/-- Recognises `[c] op literal`. -/
def comparison? {α : Type} (literal : List Char → Option (α × List Char)) (s : String) :
    Option (Comparison × α) := do
  let rest ← dropColumnRef? s.toList
  let rest ← dropText? " " rest
  let (op, rest) ← takeComparison? rest
  let rest ← dropText? " " rest
  let (a, rest) ← literal rest
  whole? ((op, a), rest)

/-- Recognises `[c] >= literal AND [c] <= literal`. -/
def range? {α : Type} (literal : List Char → Option (α × List Char)) (s : String) :
    Option (α × α) := do
  let rest ← dropColumnRef? s.toList
  let rest ← dropText? " >= " rest
  let (low, rest) ← literal rest
  let rest ← dropText? " AND " rest
  let rest ← dropColumnRef? rest
  let rest ← dropText? " <= " rest
  let (high, rest) ← literal rest
  whole? ((low, high), rest)

/-- Drops a reference to a column that is converted to text. -/
def dropAsText? (cs : List Char) : Option (List Char) := do
  let rest ← dropText? "Convert(" cs
  let rest ← dropColumnRef? rest
  dropText? ", 'System.String')" rest

end TableFilter.Form
