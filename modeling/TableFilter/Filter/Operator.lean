import TableFilter.Comparison

/-!
# Operators of filters

A numeric filter offers the comparisons, a wildcard, and perhaps a range; a date filter offers the
comparisons and perhaps a range, besides a blank entry that stands for no filter.
-/

namespace TableFilter

def rangeLabel : String := "<x<"

/-- The comparisons in the order in which filters offer them. -/
def Comparison.offered : List Comparison := [.eq, .ne, .gt, .lt, .ge, .le]

inductive NumericOperator where
  | compare (op : Comparison)
  | wildcard
  | between
  deriving DecidableEq, Repr

namespace NumericOperator

def label : NumericOperator → String
  | compare op => op.symbol
  | wildcard => "*"
  | between => rangeLabel

structure Error where
  text : String

def Error.message (e : Error) : String := "Unknown numeric operator: " ++ e.text

def read (s : String) : Except Error NumericOperator :=
  if s = "*" then .ok wildcard
  else if s = rangeLabel then .ok between
  else match Vocabulary.read? (α := Comparison) s with
  | some op => .ok (compare op)
  | none => .error ⟨s⟩

/-- The operator of a label, equality where the label is unknown. -/
def ofLabel (s : String) : NumericOperator := (read s).toOption.getD (compare .eq)

def offered (between : Bool) : List NumericOperator :=
  Comparison.offered.map compare ++ [wildcard] ++ if between then [.between] else []

end NumericOperator

inductive DateOperator where
  | compare (op : Comparison)
  | between
  deriving DecidableEq, Repr

namespace DateOperator

def label : DateOperator → String
  | compare op => op.symbol
  | between => rangeLabel

structure Error where
  text : String

def Error.message (e : Error) : String := "Unknown date operator: " ++ e.text

def read (s : String) : Except Error DateOperator :=
  if s = rangeLabel then .ok between
  else match Vocabulary.read? (α := Comparison) s with
  | some op => .ok (compare op)
  | none => .error ⟨s⟩

/-- The operator of a label, blank where the label is unknown. -/
def ofLabel? (s : String) : Option DateOperator := (read s).toOption

def labelOf? (op : Option DateOperator) : String := op.elim "" label

def offered (between : Bool) : List (Option DateOperator) :=
  none :: Comparison.offered.map (some ∘ compare) ++ if between then [some .between] else []

end DateOperator
end TableFilter
