import TableFilter.Filter.ChoiceFilter
import TableFilter.Filter.DateFilter
import TableFilter.Filter.NumericFilter
import TableFilter.Filter.TextFilter

/-!
# Strategies

A strategy is a kind of filter together with what was settled when the filter was made. It says
whether an input restricts the rows, which predicate it stands for, and which input a predicate of
its own form was written for.
-/

namespace TableFilter

inductive FilterKind where
  | text | numeric | date | boolean | presence | distinct | empty
  deriving DecidableEq, Repr

namespace FilterKind

def spelling : FilterKind → String
  | text => "text"
  | numeric => "numeric"
  | date => "date"
  | boolean => "boolean"
  | presence => "presence"
  | distinct => "distinct"
  | empty => "empty"

instance : Vocabulary FilterKind where
  members := [text, numeric, date, boolean, presence, distinct, empty]
  spelling := spelling
  anyCase := true

end FilterKind

inductive Strategy where
  | text
  /-- `between` says whether a range is offered. -/
  | numeric (between : Bool)
  | date (between : Bool) (formats : List String)
  | boolean
  | presence
  /-- The values on offer are sorted. -/
  | distinct (values : List String) (hasNull : Bool)
  | empty
  deriving DecidableEq, Repr

namespace Strategy

def kind : Strategy → FilterKind
  | text => .text
  | numeric _ => .numeric
  | date _ _ => .date
  | boolean => .boolean
  | presence => .presence
  | distinct _ _ => .distinct
  | empty => .empty

/-- The strategy that offers some values. -/
def ofValues (values : List String) (hasNull : Bool) : Strategy :=
  distinct (ChoiceFilter.sorted values) hasNull

/-- The input of a filter that has just been made. -/
def initial : Strategy → Input
  | text => TextFilter.cleared
  | numeric _ => NumericFilter.cleared
  | date _ _ => DateFilter.cleared
  | boolean | presence => .check .unset
  | distinct _ _ => .choice .all
  | empty => .empty

/-- Whether the input restricts the rows. -/
def isActive (input : Input) : Strategy → Bool
  | text => TextFilter.isActive input
  | numeric _ => NumericFilter.isActive input
  | date _ _ => DateFilter.isActive input
  | boolean | presence => input.mark.isSet
  | distinct _ _ => ChoiceFilter.chosen input != .all
  | empty => false

/-- The predicate on the column `ref` that the input stands for. -/
def fragment (input : Input) (ref : String) : Strategy → String
  | text => TextFilter.fragment input ref
  | numeric _ => NumericFilter.fragment input ref
  | date _ formats => DateFilter.fragment formats input ref
  | boolean => TruthFilter.fragment input ref
  | presence => PresenceFilter.fragment input ref
  | distinct _ _ => ChoiceFilter.fragment input ref
  | empty => ""

/-- The input that a predicate of the strategy's form stands for. -/
def restore? (s : String) : Strategy → Option Input
  | text => TextFilter.restore? s
  | numeric between => NumericFilter.restore? between s
  | date between _ => DateFilter.restore? between s
  | boolean => TruthFilter.restore? s
  | presence => PresenceFilter.restore? s
  | distinct values hasNull => ChoiceFilter.restore? values hasNull s
  | empty => none

/-- The input without criteria. A filter that cannot be used has none to give up. -/
def cleared? : Strategy → Option Input
  | empty => none
  | strategy => some strategy.initial

end Strategy
end TableFilter
