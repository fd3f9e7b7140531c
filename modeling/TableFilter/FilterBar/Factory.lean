import TableFilter.Filter.Edit
import TableFilter.Scan
import TableFilter.Settings

/-!
# Making filters

A factory makes the filter of a column. The kind of the filter follows from the kind of the
column's values, unless an override names another one. A list of values is filled from the column;
where it cannot be filled, or would be too long, the column gets a filter that does nothing.
-/

namespace TableFilter

structure FilterFactory where
  offerRange : Bool
  dateFormats : List String
  distinctCap : Option Nat
  /-- The kinds of filter that some columns get by name. -/
  overrides : List (String × FilterKind) := []

namespace FilterFactory

def ofSettings (s : FilterSettings) (overrides : List (String × FilterKind) := []) :
    FilterFactory where
  offerRange := s.offerRange
  dateFormats := s.dateFormats
  distinctCap := s.distinctCap
  overrides := overrides

def usualKind : ValueKind → FilterKind
  | .text => .text
  | .number => .numeric
  | .date => .date
  | .boolean => .boolean
  | .enumerable => .distinct

def kindFor (f : FilterFactory) (c : Column) : FilterKind :=
  (f.overrides.lookup c.name).getD (usualKind c.kind)

/-- The strategy that offers the values of a column, and what the log is told. -/
def distinct (f : FilterFactory) (c : Column) (view : View) : Strategy × Option String :=
  match view.distinctValues f.distinctCap c.name with
  | .ok (some d) => (.ofValues d.values d.hasNull, none)
  | .ok none => (.empty, none)
  | .error e =>
    (.empty, some ("Could not scan distinct values of '" ++ c.name ++ "': " ++ e.message))

/-- The strategy for a column of a table, and what the log is told. -/
def create (f : FilterFactory) (c : Column) (view : View) : Strategy × Option String :=
  match f.kindFor c with
  | .text => (.text, none)
  | .numeric => (.numeric f.offerRange, none)
  | .date => (.date f.offerRange f.dateFormats, none)
  | .boolean => (.boolean, none)
  | .presence => (.presence, none)
  | .distinct => f.distinct c view
  | .empty => (.empty, none)

end FilterFactory
end TableFilter
