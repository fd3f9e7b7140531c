import TableFilter.Filter.Form
import TableFilter.Filter.Input
import TableFilter.Filter.Operator

/-!
# Numeric filters

A numeric filter compares its column with a number, keeps the numbers whose text begins with the
first operand, or keeps a range that includes both bounds. A blank bound of a range stands for the
least or the greatest number there is. Operands that are needed but are no numbers make a filter
that compares with a truth value.
-/

namespace TableFilter.NumericFilter

open Text

def operator : Input → NumericOperator
  | .operands label _ _ => .ofLabel label
  | _ => .compare .eq

def first : Input → String
  | .operands _ s _ => s
  | _ => ""

def second : Input → String
  | .operands _ _ s => s
  | _ => ""

/-- An input with the given parts. A range that is not offered becomes equality. -/
def ofParts (between : Bool) (op : NumericOperator) (first second : String) : Input :=
  let op := if op = .between ∧ between = false then .compare .eq else op
  .operands op.label first second

def isActive (input : Input) : Bool :=
  match operator input with
  | .between => !isBlankText (first input) || !isBlankText (second input)
  | _ => !isBlankText (first input)

/-- A bound of a range. -/
def bound? (s : String) (blank : Decimal) : Option Decimal :=
  if isBlankText s then some blank else Decimal.read? s

def criterion? (input : Input) (ref : String) : Option String :=
  match operator input with
  | .wildcard => some (Literal.asText ref ++ " LIKE " ++ Literal.quote (trim (first input) ++ "*"))
  | .between => do
    let low ← bound? (first input) .least
    let high ← bound? (second input) .greatest
    return Literal.compare ref .ge (Literal.number low) ++ " AND " ++
      Literal.compare ref .le (Literal.number high)
  | .compare op =>
    (Decimal.read? (first input)).map fun d => Literal.compare ref op (Literal.number d)

def fragment (input : Input) (ref : String) : String :=
  if isActive input then (criterion? input ref).getD (Literal.never ref) else ""

def takeDecimal? (cs : List Char) : Option (Option Decimal × List Char) :=
  (Form.takeNumber? cs).map fun (digits, rest) => (Decimal.read? (String.ofList digits), rest)

/-- The text of a bound, blank for the number that a blank bound stands for. -/
def boundText (d blank : Decimal) : String := if d.sameValue blank then "" else d.text

def restoreRange? (between : Bool) (s : String) : Option Input := do
  let (low, high) ← if between then Form.range? takeDecimal? s else none
  return ofParts between .between (boundText (← low) .least) (boundText (← high) .greatest)

def restoreWildcard? (between : Bool) (s : String) : Option Input := do
  let rest ← Form.dropAsText? s.toList
  let rest ← Form.dropText? " LIKE '" rest
  return ofParts between .wildcard (← Form.quotedUpTo? "*" rest) ""

def restoreComparison? (between : Bool) (s : String) : Option Input := do
  let (op, d) ← Form.comparison? takeDecimal? s
  return ofParts between (.compare op) (← d).text ""

def restore? (between : Bool) (s : String) : Option Input :=
  restoreRange? between s <|> restoreWildcard? between s <|> restoreComparison? between s

def cleared : Input := .operands (NumericOperator.compare .eq).label "" ""

end TableFilter.NumericFilter
