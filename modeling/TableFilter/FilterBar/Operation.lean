import TableFilter.FilterBar.Basic

/-!
# What can be done to a filter bar

Users edit filters, press the enter key and leave inputs; programs change settings, tables and
columns. Each of these is an operation on the bar. An operation that names a column without a
filter is refused and changes nothing.
-/

namespace TableFilter

namespace Filter

/-- Applies edits one after the other, leaving out those that belong to another kind of filter. -/
def editAll (f : Filter) : List Edit → Filter × List WidgetEvent
  | [] => (f, [])
  | e :: es =>
    let (f, events) := (f.edit? e).getD (f, [])
    let (f, more) := editAll f es
    (f, events ++ more)

end Filter

namespace FilterBar

/-- The first filter that is bound to a column of the given name. -/
def filter? (bar : FilterBar) (column : String) : Option Filter :=
  (bar.bindings.find? (·.column = column)).map (·.filter)

def filterByDisplayName? (bar : FilterBar) (name : String) : Option Filter :=
  (bar.bindings.find? (·.displayName = name)).map (·.filter)

/-- The names of the columns that have a filter of a kind. -/
def columnsOfKind (bar : FilterBar) (kind : FilterKind) : List String :=
  (bar.bindings.filter (·.kind = kind)).map (·.column)

/-- Replaces the first filter that is bound to a column of the given name. -/
def replaceFilter (column : String) (f : Filter) : List Binding → List Binding
  | [] => []
  | b :: bs =>
    if b.column = column then { b with filter := f } :: bs else b :: replaceFilter column f bs

/-- Edits a filter; the events that this sends wait to be handled. -/
def editDirectly (bar : FilterBar) (column : String) (edits : List Edit) :
    Except FilterError FilterBar :=
  match bar.filter? column with
  | none => .error (.unknownColumn column)
  | some f =>
    let (f, events) := f.editAll edits
    .ok { bar with bindings := replaceFilter column f bar.bindings, queue := bar.queue ++ events }

def handle (bar : FilterBar) (e : WidgetEvent) : FilterBar :=
  match bar.refreshMode.decide e.kind with
  | .ignore => bar
  | .recompute => bar.recompute
  | .force => bar.refresh

/-- Handles all waiting events. -/
def process (bar : FilterBar) : FilterBar := bar.queue.foldl handle { bar with queue := [] }

/-- Edits a filter and handles the events. -/
def edit (bar : FilterBar) (column : String) (edits : List Edit) : Except FilterError FilterBar :=
  (bar.editDirectly column edits).map process

def setCustomFilter (bar : FilterBar) (predicate : String) : FilterBar :=
  { bar with customFilter := predicate }.recompute

def setOperator (bar : FilterBar) (operator : Connective) : FilterBar :=
  { bar with operator }.recompute

/-- Sets the base filter of a table; a blank one is removed. -/
def setBaseFilterFor (bar : FilterBar) (table : TableId) (predicate : String) : FilterBar :=
  let others := bar.baseFilters.filter (·.1 ≠ table)
  let baseFilters := if Text.isBlankText predicate then others else (table, predicate) :: others
  { bar with baseFilters }.recompute

def setBaseFilter (bar : FilterBar) (predicate : String) : FilterBar :=
  bar.setBaseFilterFor bar.view.table predicate

def setBaseEnabled (bar : FilterBar) (baseEnabled : Bool) : FilterBar :=
  { bar with baseEnabled }.recompute

def setBaseOperator (bar : FilterBar) (baseOperator : Connective) : FilterBar :=
  { bar with baseOperator }.recompute

def setRefreshMode (bar : FilterBar) (refreshMode : RefreshMode) : FilterBar :=
  { bar with refreshMode }

def setKeepFilters (bar : FilterBar) (keep : Bool) : FilterBar :=
  { bar with memory := bar.memory.setEnabled keep }

def setFilters (bar : FilterBar) (predicates : List String) : FilterBar :=
  (bar.restore predicates).recompute

def clearFilters (bar : FilterBar) : FilterBar :=
  (bar.changeFilters (List.map Binding.clear)).recompute

def beginUpdate (bar : FilterBar) : FilterBar := { bar with suspended := bar.suspended + 1 }

/-- Ends an update. The last one drops the waiting events and recomputes. -/
def endUpdate (bar : FilterBar) : FilterBar :=
  let bar := { bar with suspended := bar.suspended - 1 }
  if bar.suspended = 0 then { bar with queue := [] }.recompute else bar

/-- Whether the filters are bound to columns with the names that the columns of the table have. -/
def isInStep (bar : FilterBar) : Bool :=
  bar.bindings.map (·.column) == bar.view.columns.map (·.name)

/-- Follows a change of the columns: other names lead to new filters, while shown names are taken
over. -/
def syncColumns (bar : FilterBar) : FilterBar :=
  if bar.isInStep then
    { bar with bindings := List.zipWith Binding.rename bar.bindings bar.view.columns }.recompute
  else bar.rebuild

/-- The table shows other data, which are taken to be without a predicate. -/
def dataSourceChanged (bar : FilterBar) : FilterBar := { bar with lastApplied := some "" }.rebuild

def setView (bar : FilterBar) (view : View) : FilterBar := { bar with view }.dataSourceChanged

/-- Gives the bar up for its table. All filters are disposed of, of which the trace tells. -/
def release (bar : FilterBar) : View × List Notice := (bar.unbind.view, bar.unbind.trace)

end FilterBar

inductive Operation where
  | edit (column : String) (edits : List Edit)
  | editDirectly (column : String) (edits : List Edit)
  | process
  | handle (e : WidgetEvent)
  | commit (column : String)
  | leave (column : String)
  | setCustomFilter (predicate : String)
  | setBaseFilter (predicate : String)
  | setBaseFilterFor (table : TableId) (predicate : String)
  | setBaseEnabled (enabled : Bool)
  | setOperator (operator : Connective)
  | setBaseOperator (operator : Connective)
  | setRefreshMode (mode : RefreshMode)
  | setKeepFilters (keep : Bool)
  | setFilters (predicates : List String)
  | clearFilters
  | beginUpdate
  | endUpdate
  | refresh
  | rebuild
  | syncColumns
  | dataSourceChanged
  | setView (view : View)

namespace FilterBar

def perform (bar : FilterBar) : Operation → Except FilterError FilterBar
  | .edit column edits => bar.edit column edits
  | .editDirectly column edits => bar.editDirectly column edits
  | .process => .ok bar.process
  | .handle e => .ok (bar.handle e)
  | .commit column => bar.edit column [.commit]
  | .leave column => bar.edit column [.leave]
  | .setCustomFilter predicate => .ok (bar.setCustomFilter predicate)
  | .setBaseFilter predicate => .ok (bar.setBaseFilter predicate)
  | .setBaseFilterFor table predicate => .ok (bar.setBaseFilterFor table predicate)
  | .setBaseEnabled enabled => .ok (bar.setBaseEnabled enabled)
  | .setOperator operator => .ok (bar.setOperator operator)
  | .setBaseOperator operator => .ok (bar.setBaseOperator operator)
  | .setRefreshMode mode => .ok (bar.setRefreshMode mode)
  | .setKeepFilters keep => .ok (bar.setKeepFilters keep)
  | .setFilters predicates => .ok (bar.setFilters predicates)
  | .clearFilters => .ok bar.clearFilters
  | .beginUpdate => .ok bar.beginUpdate
  | .endUpdate => .ok bar.endUpdate
  | .refresh => .ok bar.refresh
  | .rebuild => .ok bar.rebuild
  | .syncColumns => .ok bar.syncColumns
  | .dataSourceChanged => .ok bar.dataSourceChanged
  | .setView view => .ok (bar.setView view)

end FilterBar
end TableFilter
