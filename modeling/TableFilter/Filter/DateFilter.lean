import TableFilter.Filter.Form
import TableFilter.Filter.Input
import TableFilter.Filter.Operator

/-!
# Date filters

A date filter compares its column with a date or keeps a range that includes both bounds; a blank
operator is no filter. Operands are read by the formats of the filter. A blank bound of a range
stands for the first day of the year 1 or the last day of the year 9999. Operands that are needed
but are no dates make a filter that compares with a truth value.
-/

namespace TableFilter.DateFilter

open Text

def operator? : Input → Option DateOperator
  | .operands label _ _ => DateOperator.ofLabel? label
  | _ => none

def first : Input → String
  | .operands _ s _ => s
  | _ => ""

def second : Input → String
  | .operands _ _ s => s
  | _ => ""

/-- An input with the given parts. A range that is not offered becomes the blank operator. -/
def ofParts (between : Bool) (op : Option DateOperator) (first second : String) : Input :=
  let op := if op = some .between ∧ between = false then none else op
  .operands (DateOperator.labelOf? op) first second

def isActive (input : Input) : Bool :=
  match operator? input with
  | none => false
  | some .between => !isBlankText (first input) || !isBlankText (second input)
  | some (.compare _) => !isBlankText (first input)

def earliest : Date := ⟨1, 1, 1, by decide⟩

def latest : Date := ⟨9999, 12, 31, by decide⟩

/-- A bound of a range. -/
def bound? (formats : List String) (s : String) (blank : Date) : Option Date :=
  if isBlankText s then some blank else Date.read? formats s

def criterion? (formats : List String) (input : Input) (ref : String) : Option String :=
  match operator? input with
  | none => none
  | some .between => do
    let low ← bound? formats (first input) earliest
    let high ← bound? formats (second input) latest
    return Literal.compare ref .ge (Literal.date low) ++ " AND " ++
      Literal.compare ref .le (Literal.date high)
  | some (.compare op) =>
    (Date.read? formats (first input)).map fun d => Literal.compare ref op (Literal.date d)

def fragment (formats : List String) (input : Input) (ref : String) : String :=
  if isActive input then (criterion? formats input ref).getD (Literal.never ref) else ""

/-- The text of a bound, blank for the date that a blank bound stands for. -/
def boundText (d blank : Date) : String := if d = blank then "" else d.text

def restoreRange? (between : Bool) (s : String) : Option Input := do
  let (low, high) ← if between then Form.range? Form.takeDate? s else none
  return ofParts between (some .between) (boundText (← low) earliest) (boundText (← high) latest)

def restoreComparison? (between : Bool) (s : String) : Option Input := do
  let (op, d) ← Form.comparison? Form.takeDate? s
  return ofParts between (some (.compare op)) (← d).text ""

def restore? (between : Bool) (s : String) : Option Input :=
  restoreRange? between s <|> restoreComparison? between s

def cleared : Input := .operands "" "" ""

end TableFilter.DateFilter
