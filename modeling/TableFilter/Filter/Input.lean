import TableFilter.Vocabulary

/-!
# What an input holds

Every filter keeps its criteria in an input below the heading of its column: a text, an operator
with two operands, a check mark with three states, or a choice from a list.
-/

namespace TableFilter

inductive TriState where
  | unset | true | false
  deriving DecidableEq, Repr

namespace TriState

def isSet : TriState → Bool
  | unset => .false
  | _ => .true

def bool? : TriState → Option Bool
  | unset => none
  | true => some .true
  | false => some .false

def ofBool : Bool → TriState
  | .true => true
  | .false => false

def ofBool? : Option Bool → TriState
  | some b => ofBool b
  | none => unset

end TriState

/-- An entry of a list of values: all rows, the rows without a value, or the rows with one value. -/
inductive Choice where
  | all
  | null
  | value (s : String)
  deriving DecidableEq, Repr

def Choice.shown : Choice → String
  | all => "(*)"
  | null => "(null)"
  | value s => s

inductive Input where
  | empty
  | text (s : String)
  | operands (operator first second : String)
  | check (state : TriState)
  | choice (c : Choice)
  deriving DecidableEq, Repr

end TableFilter
