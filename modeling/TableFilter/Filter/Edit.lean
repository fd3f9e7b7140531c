import TableFilter.Filter.Strategy
import TableFilter.Filter.Widget

/-!
# Filters and their edits

A filter is a strategy with a widget. An edit that belongs to the kind of filter yields the filter
after it and the events that the widget's listener receives; an edit of another kind is refused.
-/

namespace TableFilter

structure Filter where
  strategy : Strategy
  widget : Widget
  deriving DecidableEq, Repr

/-- What can be done to a filter. Parts that an edit of operands does not name are kept. -/
inductive Edit where
  /-- Restores the criteria of a predicate; one of another form is ignored. -/
  | setFilter (predicate : String)
  | clear
  | put (input : Input)
  | commit
  | leave
  | subscribe (column : Nat)
  | unsubscribe
  | dispose
  | setText (s : String)
  | setNumeric (op : Option NumericOperator) (first second : Option String)
  | setDate (op : Option (Option DateOperator)) (first second : Option String)
  /-- Offers the range or takes it away; a range that is chosen is then given up. -/
  | offerRange (between : Bool)
  | mark (state : TriState)
  /-- Asks for the cells with a value or for those without one. -/
  | markPresent (present : Bool)
  /-- Chooses a value; one that is not offered is ignored. -/
  | choose (c : Choice)
  deriving DecidableEq, Repr

namespace Filter

def ofStrategy (strategy : Strategy) : Filter := ⟨strategy, { input := strategy.initial }⟩

def input (f : Filter) : Input := f.widget.input

def isActive (f : Filter) : Bool := f.strategy.isActive f.input

def fragment (f : Filter) (ref : String) : String := f.strategy.fragment f.input ref

/-- Puts an input into the widget. -/
def put (f : Filter) (input : Input) : Filter × List WidgetEvent :=
  ({ f with widget := f.widget.put input }, f.widget.tellPut input)

theorem input_put {f : Filter} (h : f.widget.disposed = false) (input : Input) :
    (f.put input).1.input = input :=
  f.widget.input_put input h

/-- Puts an input into the widget if there is one. -/
def putSome (f : Filter) (input : Option Input) : Filter × List WidgetEvent :=
  input.elim (f, []) f.put

def setFilter (f : Filter) (predicate : String) : Filter × List WidgetEvent :=
  f.putSome (f.strategy.restore? predicate)

def clear (f : Filter) : Filter × List WidgetEvent := f.putSome f.strategy.cleared?

def dispose (f : Filter) : Filter := { f with widget := f.widget.dispose }

/-- Whether a choice is on offer. -/
def offers (f : Filter) (c : Choice) : Bool :=
  match f.strategy with
  | .distinct values hasNull => ChoiceFilter.offers values hasNull c
  | _ => false

/-- The input after an edit of the criteria of one kind of filter. -/
def edited? (f : Filter) : Edit → Option Input
  | .setText s => if f.strategy = .text then some (.text s) else none
  | .setNumeric op first second =>
    match f.strategy with
    | .numeric between => some <| NumericFilter.ofParts between
        (op.getD (NumericFilter.operator f.input)) (first.getD (NumericFilter.first f.input))
        (second.getD (NumericFilter.second f.input))
    | _ => none
  | .setDate op first second =>
    match f.strategy with
    | .date between _ => some <| DateFilter.ofParts between
        (op.getD (DateFilter.operator? f.input)) (first.getD (DateFilter.first f.input))
        (second.getD (DateFilter.second f.input))
    | _ => none
  | .mark state =>
    if f.strategy = .boolean ∨ f.strategy = .presence then some (.check state) else none
  | .markPresent present =>
    if f.strategy = .presence then some (.check (.ofBool present)) else none
  | .choose c =>
    match f.strategy with
    | .distinct _ _ => some (if f.offers c then .choice c else f.input)
    | _ => none
  | _ => none

/-- The filter with the range offered or taken away. -/
def offerRange? (f : Filter) (between : Bool) : Option (Filter × List WidgetEvent) :=
  match f.strategy with
  | .numeric _ =>
    let f := { f with strategy := .numeric between }
    if between = false ∧ NumericFilter.operator f.input = .between then
      some (f.put (NumericFilter.ofParts between (.compare .eq) (NumericFilter.first f.input)
        (NumericFilter.second f.input)))
    else some (f, [])
  | .date _ formats =>
    let f := { f with strategy := .date between formats }
    if between = false ∧ DateFilter.operator? f.input = some .between then
      some (f.put (DateFilter.ofParts between none (DateFilter.first f.input)
        (DateFilter.second f.input)))
    else some (f, [])
  | _ => none

/-- The filter after an edit and the events that the edit sends. -/
def edit? (f : Filter) : Edit → Option (Filter × List WidgetEvent)
  | .setFilter predicate => some (f.setFilter predicate)
  | .clear => some f.clear
  | .put input => some (f.put input)
  | .commit => some (f, f.widget.tell .committed)
  | .leave => some (f, f.widget.tell .left)
  | .subscribe column => some ({ f with widget := f.widget.subscribe column }, [])
  | .unsubscribe => some ({ f with widget := f.widget.unsubscribe }, [])
  | .dispose => some (f.dispose, [])
  | .offerRange between => f.offerRange? between
  | e => (f.edited? e).map f.put

end Filter
end TableFilter
