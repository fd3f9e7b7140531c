import TableFilter.View.Basic

/-!
# Distinct values

The distinct shown texts of a column's values in the order of their first appearance, whatever
predicate is in force. Null is noted apart and does not count. A cap limits how many values there
may be; a column with more of them has no list.
-/

namespace TableFilter

structure DistinctValues where
  values : List String := []
  hasNull : Bool := false
  deriving DecidableEq, Repr

namespace DistinctValues

/-- Adds a value, unless its text is there already. -/
def add (d : DistinctValues) (v : Value) : DistinctValues :=
  match v.shown? with
  | none => { d with hasNull := true }
  | some s => if d.values.contains s then d else { d with values := d.values ++ [s] }

def exceeds (d : DistinctValues) (cap : Option Nat) : Bool := cap.any (· < d.values.length)

/-- Adds values until the cap is exceeded. -/
def addAll? (cap : Option Nat) (d : DistinctValues) : List Value → Option DistinctValues
  | [] => if d.exceeds cap then none else some d
  | v :: vs => if d.exceeds cap then none else addAll? cap (d.add v) vs

end DistinctValues

/-- The distinct values of a column, none if there are more than the cap allows. -/
def View.distinctValues (view : View) (cap : Option Nat) (column : String) :
    Except FilterError (Option DistinctValues) :=
  (view.columnValues column).map (DistinctValues.addAll? cap {})

end TableFilter
