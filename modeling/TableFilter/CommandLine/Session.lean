import TableFilter.CommandLine.Arguments
import TableFilter.Config.Basic
import TableFilter.Csv.Frame
import TableFilter.FilterBar.Operation
import TableFilter.Scan
import TableFilter.Stored

/-!
# Sessions of the command line

A session binds a filter bar to the table of a file, recalls what was remembered of the table,
applies the filters of the arguments in one update, and refreshes. Whatever the refresh mode is, the
table then has the predicate that the bar composes, unless the table refuses it. The answers are
read off the table: distinct values, the predicate in force, and the rows that it shows.
-/

namespace TableFilter

/-- Why a run of the program fails. -/
inductive RunError where
  | usage (cause : Arguments.UsageError)
  | config (cause : Config.Error)
  /-- A file that does not exist or is no table. -/
  | table (file : String)
  /-- An argument that should have been a column and a value. -/
  | assignment (argument : String)
  | filterKind (name : String)
  | filter (cause : FilterError)

namespace RunError

def message : RunError → String
  | usage cause => cause.message
  | config _ => "Failed to load configuration"
  | table file => "Failed to read " ++ file
  | assignment argument => "Expected COLUMN=VALUE, got '" ++ argument ++ "'"
  | filterKind name => "Unknown strategy kind '" ++ name ++ "'"
  | filter cause => cause.message

/-- The status with which the program ends. -/
def status : RunError → Nat
  | usage _ => 2
  | _ => 1

end RunError

structure Session where
  bar : FilterBar
  /-- What the user has been told. -/
  told : List String := []

namespace Session

/-- The column and the value on the two sides of the first equals sign. -/
def assignment? (argument : String) : Option (String × String) :=
  let cs := argument.toList
  let column := Text.trim (String.ofList (cs.takeWhile (· ≠ '=')))
  match cs.dropWhile (· ≠ '=') with
  | [] => none
  | _ :: value => if column.isEmpty then none else some (column, Text.trim (String.ofList value))

def readAssignment (argument : String) : Except RunError (String × String) :=
  (assignment? argument).elim (.error (.assignment argument)) .ok

/-- The kind of filter that a column is to have. -/
def readOverride (argument : String) : Except RunError (String × FilterKind) := do
  let (column, name) ← readAssignment argument
  match Vocabulary.read? name with
  | some kind => return (column, kind)
  | none => .error (.filterKind name)

/-- The kinds of filter by column, the last one for a column first. -/
def readOverrides (arguments : List String) : Except RunError (List (String × FilterKind)) :=
  (arguments.mapM readOverride).map List.reverse

/-- The texts that reach the user. -/
def toldBy (trace : List Notice) : List String :=
  trace.filterMap fun
    | .notified text => some text
    | _ => none

/-- A session whose bar has just done something. -/
def after (s : Session) (bar : FilterBar) : Session :=
  ⟨{ bar with trace := [] }, s.told ++ toldBy bar.trace⟩

def perform (s : Session) (operation : Operation) : Except RunError Session :=
  match s.bar.perform operation with
  | .ok bar => .ok (s.after bar)
  | .error e => .error (.filter e)

/-- Binds a filter bar to a table. -/
def start (settings : FilterSettings) (overrides : List (String × FilterKind)) (view : View) :
    Session :=
  let bar := FilterBar.ofSettings view settings overrides
  ⟨{ bar with trace := [] }, toldBy bar.trace⟩

/-- Recalls the filters from a saved text, if there is one. -/
def reinstate (s : Session) : Option String → Except RunError Session
  | none => .ok s
  | some text =>
    match s.bar.memory.load? text with
    | some memory => perform { s with bar := { s.bar with memory } } .dataSourceChanged
    | none => .error (.filter (.format "no object of lists of predicates"))

/-- Restores the filter of a column, and tells the user if that leaves it without criteria. -/
def addFilter (s : Session) (argument : String) : Except RunError Session := do
  let (column, predicate) ← readAssignment argument
  let s ← s.perform (.edit column [.setFilter predicate])
  if (s.bar.filter? column).any Filter.isActive then return s
  else return { s with
    told := s.told ++ ["Ignoring filter for '" ++ column ++ "': " ++ predicate] }

/-- Performs an operation if there is one. -/
def performSome (s : Session) : Option Operation → Except RunError Session
  | none => .ok s
  | some operation => s.perform operation

/-- The session of some arguments. Filters are remembered if the settings or the arguments ask for
it, and recalled from a saved text. -/
def ofArguments (a : Arguments) (settings : FilterSettings) (view : View) (saved : Option String) :
    Except RunError Session := do
  let overrides ← readOverrides a.strategies
  let settings := if a.keep then { settings with keepFilters := true } else settings
  let s ← (start settings overrides view).reinstate saved
  let s ← s.perform .beginUpdate
  let s ← s.performSome (a.operator.map .setOperator)
  let s ← a.filters.foldlM addFilter s
  let s ← s.performSome (a.base.map .setBaseFilter)
  let s ← s.performSome (a.custom.map .setCustomFilter)
  let s ← s.perform .endUpdate
  s.perform .refresh

/-- The lines that list the distinct values of a column. -/
def distinctLines (s : Session) (cap : Option Nat) (column : String) :
    Except FilterError (List String) :=
  (s.bar.view.distinctValues cap column).map fun
    | none => [column ++ " has more distinct values than the configured cap"]
    | some d =>
      ("Distinct values of " ++ column ++ ":") :: d.values.map ("  " ++ ·) ++
        if d.hasNull then ["  (null)"] else []

/-- The lists of several columns, up to the first column that does not exist. -/
def distinctLists (s : Session) (cap : Option Nat) : List String → List String × Option FilterError
  | [] => ([], none)
  | column :: columns =>
    match s.distinctLines cap column with
    | .error e => ([], some e)
    | .ok lines =>
      let (more, error) := distinctLists s cap columns
      (lines ++ more, error)

/-- The predicate in force and the number of rows that it shows. -/
def summary (s : Session) : List String :=
  let predicate := s.bar.view.predicate
  ["Filter: " ++ (if predicate.isEmpty then "(none)" else predicate),
   "Matching rows: " ++ toString s.bar.view.rowCount]

/-- The first rows that are shown, with the names of the columns above them. -/
def firstRows (s : Session) (count : Nat) : List String :=
  match s.bar.view with
  | .memory _ => []
  | .frame v =>
    let names := v.frame.columns.map (·.name)
    let columns := v.visibleColumns.map fun cells => cells.map fun c => c.shown?.getD "null"
    let line := fun i => "\t".intercalate (columns.map fun cells => cells[i]?.getD "")
    "\t".intercalate names :: (List.range (min count s.bar.view.rowCount)).map line

end Session
end TableFilter
