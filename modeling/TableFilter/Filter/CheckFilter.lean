import TableFilter.Filter.Form
import TableFilter.Filter.Input

/-!
# Filters with a check mark

A truth filter keeps the rows whose cell is true or those whose cell is false. A presence filter
keeps the rows that have a value when it is checked and the rows without one when it is not; it
compares the column with a sentinel that stands in for null, and so works for every kind of column.
-/

namespace TableFilter

/-- The state of a check mark. -/
def Input.mark : Input → TriState
  | .check state => state
  | _ => .unset

namespace TruthFilter

def fragment (input : Input) (ref : String) : String :=
  match input.mark.bool? with
  | some b => ref ++ " = " ++ Value.boolText b
  | none => ""

/-- Recognises `[c] = true` and `[c] = false`, the truth value in any case. -/
def restore? (s : String) : Option Input := do
  let rest ← Form.dropColumnRef? s.toList
  match (← Form.dropText? " = " rest).map Char.toLower with
  | ['t', 'r', 'u', 'e'] => some (.check .true)
  | ['f', 'a', 'l', 's', 'e'] => some (.check .false)
  | _ => none

end TruthFilter

namespace PresenceFilter

def sentinel : String := Literal.quote Literal.nullSentinel

/-- Asks for the cells that are null, or for those that are not. -/
def nullTest (ref : String) (isNull : Bool) : String :=
  Literal.asText ("IsNull(" ++ ref ++ ", " ++ sentinel ++ ")") ++
    (if isNull then " = " else " <> ") ++
    sentinel

/-- Recognises `nullTest`. -/
def nullTest? (s : String) : Option Bool := do
  let rest ← Form.dropText? "Convert(IsNull(" s.toList
  let rest ← Form.dropColumnRef? rest
  let rest ← Form.dropText? (", " ++ sentinel ++ "), 'System.String') ") rest
  if rest = ("= " ++ sentinel).toList then some true
  else if rest = ("<> " ++ sentinel).toList then some false
  else none

def fragment (input : Input) (ref : String) : String :=
  match input.mark.bool? with
  | some present => nullTest ref !present
  | none => ""

def restore? (s : String) : Option Input :=
  (nullTest? s).map fun isNull => .check (.ofBool !isNull)

end PresenceFilter
end TableFilter
