import TableFilter.Filter.Form
import TableFilter.Filter.Input

/-!
# Text filters

A text filter keeps the rows whose text begins with the input. No input keeps all rows.
-/

namespace TableFilter.TextFilter

def entered : Input → String
  | .text s => s
  | _ => ""

def isActive (input : Input) : Bool := entered input != ""

def fragment (input : Input) (ref : String) : String :=
  if isActive input then ref ++ " LIKE " ++ Literal.quote (entered input ++ "*") else ""

/-- Recognises `[c] LIKE 'text*'`. -/
def restore? (s : String) : Option Input := do
  let rest ← Form.dropColumnRef? s.toList
  let rest ← Form.dropText? " LIKE '" rest
  return .text (← Form.quotedUpTo? "*" rest)

def cleared : Input := .text ""

end TableFilter.TextFilter
