import TableFilter.FilterBar.Factory
import TableFilter.Memory
import TableFilter.Predicate.Compose
import TableFilter.Report

/-!
# Filter bars

A filter bar stands above a table and binds a filter to each of its columns. It composes one
predicate out of the filters of the visible columns, in the order in which they are shown, the base
filter of the table, and a custom filter that narrows the result. The predicate is handed to the
table when it differs from the one handed over last. What listeners, the log and the user are told
is kept in a trace.
-/

namespace TableFilter

/-- A filter that is bound to a column. -/
structure Binding where
  column : String
  displayName : String
  filter : Filter
  deriving DecidableEq, Repr

namespace Binding

def ref (b : Binding) : String := Literal.columnRef b.column

/-- The predicate of the filter, blank if it restricts no rows. -/
def fragment (b : Binding) : String := if b.filter.isActive then b.filter.fragment b.ref else ""

def kind (b : Binding) : FilterKind := b.filter.strategy.kind

def clear (b : Binding) : Binding := { b with filter := b.filter.clear.1 }

/-- Restores the criteria of a predicate, and clears the filter if it is empty. -/
def restore (b : Binding) (predicate : String) : Binding :=
  if predicate = "" then b.clear else { b with filter := (b.filter.setFilter predicate).1 }

/-- Takes over the shown name of a column. -/
def rename (b : Binding) (c : Column) : Binding := { b with displayName := c.displayName }

end Binding

inductive Notice where
  /-- A predicate is about to be handed to the table. -/
  | before (predicate : String)
  /-- The table has accepted a predicate. -/
  | after (predicate : String)
  | bound (column : String) (kind : FilterKind)
  | unbound (column : String) (kind : FilterKind)
  | logged (text : String)
  | notified (text : String)
  deriving DecidableEq, Repr

structure FilterBar where
  view : View
  bindings : List Binding := []
  factory : FilterFactory
  baseFilters : List (TableId × String) := []
  baseEnabled : Bool
  baseOperator : Connective
  operator : Connective
  customFilter : String := ""
  /-- The predicate handed over last, or none if the next one is to be handed over in any case. -/
  lastApplied : Option String := some ""
  refreshMode : RefreshMode
  /-- How many updates are under way. -/
  suspended : Nat := 0
  memory : TableMemory
  reporter : Reporter
  /-- Events of the inputs that have not been handled. -/
  queue : List WidgetEvent := []
  trace : List Notice := []

namespace FilterBar

def emit (bar : FilterBar) (notices : List Notice) : FilterBar :=
  { bar with trace := bar.trace ++ notices }

/-- The base filter of the table, blank if it has none. -/
def baseFilter (bar : FilterBar) : String := (bar.baseFilters.lookup bar.view.table).getD ""

/-- Display index and predicate of every active filter whose column is visible. -/
def active (bar : FilterBar) : List (Nat × String) :=
  bar.bindings.filterMap fun b => do
    let c ← bar.view.column? b.column
    if c.visible && b.filter.isActive then some (c.displayIndex, b.fragment) else none

/-- The predicates of the active filters in the order in which their columns are shown. Columns
with the same display index stay in the order of the table. -/
def fragments (bar : FilterBar) : List String :=
  (bar.active.mergeSort fun a b => a.1 ≤ b.1).map (·.2)

def compose (bar : FilterBar) : String :=
  let base := if bar.baseEnabled then bar.baseFilter else ""
  let merged := Predicate.merge bar.baseOperator (Predicate.join bar.operator bar.fragments) base
  Predicate.narrow merged bar.customFilter

/-- The predicates of all filters in the order of the columns. -/
def filters (bar : FilterBar) : List String := bar.bindings.map Binding.fragment

/-- The reports of an error that the modes select. -/
def report (bar : FilterBar) (e : FilterError) : List Notice :=
  (bar.reporter.log.report? e).toList.map Notice.logged ++
    (bar.reporter.notify.report? e).toList.map Notice.notified

/-- Hands a predicate to the table. -/
def push (bar : FilterBar) (predicate : String) : FilterBar :=
  let bar := { bar with lastApplied := some predicate }.emit [.before predicate]
  match bar.view.setPredicate predicate with
  | .ok view => { bar with view }.emit [.after predicate]
  | .error e => bar.emit (bar.report e)

/-- Remembers the filters if the table has their predicate. -/
def remember (bar : FilterBar) : FilterBar :=
  if bar.view.predicate = bar.compose then
    { bar with memory := bar.memory.record bar.view.table bar.filters }
  else bar

/-- Whether there is nothing to compose a predicate of. -/
def isIdle (bar : FilterBar) : Bool := bar.bindings.isEmpty && Text.isBlankText bar.customFilter

/-- Composes the predicate and hands it over if it is a new one, unless updates are under way. -/
def renew (bar : FilterBar) : FilterBar :=
  if bar.suspended > 0 || bar.isIdle then bar
  else if bar.lastApplied = some bar.compose then bar.remember
  else (bar.push bar.compose).remember

/-- Renews the predicate, unless only explicit refreshes do. -/
def recompute (bar : FilterBar) : FilterBar := if bar.refreshMode = .off then bar else bar.renew

/-- Hands the predicate over, whether it is a new one or not and whatever the refresh mode. -/
def refresh (bar : FilterBar) : FilterBar := { bar with lastApplied := none }.renew

/-- Disposes of all filters. -/
def unbind (bar : FilterBar) : FilterBar :=
  { bar with bindings := [] }.emit
    (bar.bindings.map fun (b : Binding) => Notice.unbound b.column b.kind)

/-- The filter of a column at a position of the table. -/
def bindColumn (bar : FilterBar) (c : Column) (position : Nat) : Binding :=
  let f := Filter.ofStrategy (bar.factory.create c bar.view).1
  ⟨c.name, c.displayName, { f with widget := f.widget.subscribe position }⟩

/-- Binds new filters to the columns of the table. -/
def bind (bar : FilterBar) : FilterBar :=
  let bindings := bar.view.columns.zipIdx.map fun (c, position) => bar.bindColumn c position
  let warnings := bar.view.columns.filterMap fun c => (bar.factory.create c bar.view).2
  { bar with bindings, queue := [] }.emit
    (warnings.map Notice.logged ++ bindings.map fun (b : Binding) => Notice.bound b.column b.kind)

/-- Changes all filters as one update, which is under way until the last of them has changed. The
events of the inputs are dropped. -/
def changeFilters (bar : FilterBar) (change : List Binding → List Binding) : FilterBar :=
  let bar := { bar with suspended := bar.suspended + 1 }
  let bar := { bar with bindings := change bar.bindings }
  { bar with suspended := bar.suspended - 1, queue := [] }

/-- Restores the filters from predicates in the order of the columns. -/
def restore (bar : FilterBar) (predicates : List String) : FilterBar :=
  bar.changeFilters fun bindings =>
    List.zipWith Binding.restore bindings predicates ++ bindings.drop predicates.length

theorem bindings_restore (bar : FilterBar) (predicates : List String) :
    (bar.restore predicates).bindings = List.zipWith Binding.restore bar.bindings predicates ++
      bar.bindings.drop predicates.length :=
  rfl

/-- Restores the filters that are remembered of the table. -/
def reinstate (bar : FilterBar) : FilterBar :=
  match bar.memory.snapshot? bar.view.table with
  | some s => bar.restore s.filters
  | none => bar

/-- Binds all columns anew, restores what is remembered of the table, and recomputes. -/
def rebuild (bar : FilterBar) : FilterBar := bar.unbind.bind.reinstate.recompute

def ofSettings (view : View) (s : FilterSettings) (overrides : List (String × FilterKind) := []) :
    FilterBar :=
  rebuild {
    view
    factory := .ofSettings s overrides
    baseEnabled := s.baseEnabled
    baseOperator := s.baseOperator
    operator := s.operator
    refreshMode := s.refreshMode
    memory := { enabled := s.keepFilters }
    reporter := ⟨s.logErrors, s.notifyErrors⟩ }

end FilterBar
end TableFilter
