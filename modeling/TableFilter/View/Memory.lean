import TableFilter.View.Compile

/-!
# Tables in memory

A table of rows of values. It marks the rows that its predicate shows and marks them anew whenever
the rows, the predicate or the case policy changes. A row may be shorter than the list of columns;
its missing cells are null. A name that several columns share belongs to the first of them.
-/

namespace TableFilter

structure MemoryView where
  table : TableId
  columns : List Column
  rows : List (List Value) := []
  predicate : String := ""
  expr : Option Expr := none
  marks : List Bool := []
  caseSensitive : Bool := false
  /-- How many predicates have been accepted. -/
  applied : Nat := 0

namespace MemoryView

/-- The cell of a row in the column of a name. -/
def cell (columns : List Column) (cells : List Value) : Row := fun name =>
  ((Column.indexOf? columns name).bind (cells[·]?)).getD .null

/-- The table with its rows marked. -/
def refilter (v : MemoryView) : MemoryView :=
  { v with marks := v.rows.map fun cells => shows v.caseSensitive v.expr (cell v.columns cells) }

def withRows (v : MemoryView) (rows : List (List Value)) : MemoryView :=
  { v with rows := v.rows ++ rows }.refilter

def withCase (v : MemoryView) (caseSensitive : Bool) : MemoryView :=
  { v with caseSensitive }.refilter

def pushRow (v : MemoryView) (cells : List Value) : MemoryView := v.withRows [cells]

/-- Another table in the same place, without a predicate. -/
def setTable (v : MemoryView) (table : TableId) (columns : List Column) (rows : List (List Value)) :
    MemoryView :=
  { v with table, columns, rows, predicate := "", expr := none }.refilter

def visibleRows (v : MemoryView) : List (List Value) := marked v.marks v.rows

def rowCount (v : MemoryView) : Nat := v.marks.count true

def setPredicate (v : MemoryView) (predicate : String) : Except FilterError MemoryView := do
  let expr ← compile predicate v.columns
  return { v with predicate, expr, applied := v.applied + 1 }.refilter

/-- The cells of a column in all rows. -/
def columnValues (v : MemoryView) (name : String) : Except FilterError (List Value) :=
  match Column.indexOf? v.columns name with
  | some i => .ok (v.rows.map fun cells => cells[i]?.getD .null)
  | none => .error (.unknownColumn name)

end MemoryView
end TableFilter
