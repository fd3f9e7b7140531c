import TableFilter.Filter.CheckFilter

/-!
# Filters that choose a value

A choice filter offers the distinct values of its column, sorted, and null where the column has
missing cells. Values are compared as text.
-/

namespace TableFilter.ChoiceFilter

def chosen : Input → Choice
  | .choice c => c
  | _ => .all

def fragment (input : Input) (ref : String) : String :=
  match chosen input with
  | .all => ""
  | .null => PresenceFilter.nullTest ref true
  | .value s => Literal.asText ref ++ " = " ++ Literal.quote s

/-- Everything that can be chosen. -/
def choices (values : List String) (hasNull : Bool) : List Choice :=
  .all :: (if hasNull then [.null] else []) ++ values.map .value

def offers (values : List String) (hasNull : Bool) : Choice → Bool
  | .all => true
  | .null => hasNull
  | .value s => values.contains s

/-- Recognises `Convert([c], 'System.String') = 'value'`. -/
def restoreValue? (s : String) : Option Choice := do
  let rest ← Form.dropAsText? s.toList
  let rest ← Form.dropText? " = '" rest
  return .value (← Form.quotedUpTo? "" rest)

def restoreChoice? (s : String) : Option Choice :=
  if PresenceFilter.nullTest? s = some true then some .null else restoreValue? s

def restore? (values : List String) (hasNull : Bool) (s : String) : Option Input :=
  ((restoreChoice? s).filter (offers values hasNull)).map .choice

def isBefore (s t : String) : Bool := Ord.compare s t != .gt

def sorted (values : List String) : List String := values.mergeSort isBefore

end TableFilter.ChoiceFilter
