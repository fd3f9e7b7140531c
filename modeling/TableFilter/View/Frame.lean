import TableFilter.View.Compile
import TableFilter.View.Datum

/-!
# Data frames as tables

A data frame has named columns of one length. The table over it describes the columns to the user,
and these descriptions can be changed without touching the frame: predicates are checked against
the descriptions and evaluated on those columns of the frame that they name. The rows are marked
when a predicate is accepted and at no other time.
-/

namespace TableFilter

structure FrameColumn where
  name : String
  type : DatumType
  cells : List Datum

/-- The cells of a row by the names of some columns. -/
def FrameColumn.row (columns : List FrameColumn) (i : Nat) : Row := fun name =>
  ((columns.find? (·.name = name)).bind (·.cells[i]?)).elim .null Datum.value

structure Frame where
  height : Nat
  columns : List FrameColumn
  length_cells : ∀ c ∈ columns, c.cells.length = height
  nodup_names : (columns.map (·.name)).Nodup

namespace Frame

/-- The frame of some columns, if they have one length and names of their own. -/
def ofColumns? (columns : List FrameColumn) : Option Frame :=
  let height := columns.head?.elim 0 (·.cells.length)
  if h : (∀ c ∈ columns, c.cells.length = height) ∧ (columns.map (·.name)).Nodup then
    some ⟨height, columns, h.1, h.2⟩
  else none

def column? (f : Frame) (name : String) : Option FrameColumn := f.columns.find? (·.name = name)

/-- The cells of a row by the names of the columns in the frame. -/
def row (f : Frame) (i : Nat) : Row := FrameColumn.row f.columns i

/-- The columns of the given names, which have to be in the frame. -/
def select (f : Frame) : List String → Except FilterError (List FrameColumn)
  | [] => .ok []
  | name :: names =>
    match f.column? name with
    | some c => (f.select names).map (c :: ·)
    | none => .error (.frame ("not found: " ++ name))

/-- The descriptions of the columns as they are in the frame. -/
def describe (f : Frame) : List Column :=
  f.columns.zipIdx.map fun (c, i) => { Column.ofName c.name c.type.kind with displayIndex := i }

end Frame

structure FrameView where
  table : TableId
  frame : Frame
  columns : List Column
  predicate : String := ""
  expr : Option Expr := none
  marks : List Bool
  caseSensitive : Bool := false

namespace FrameView

def ofFrame (table : TableId) (frame : Frame) : FrameView :=
  { table, frame, columns := frame.describe, marks := List.replicate frame.height true }

def withCase (v : FrameView) (caseSensitive : Bool) : FrameView := { v with caseSensitive }

/-- The marks of the rows under an expression, which is evaluated on the columns that it names. -/
def evaluate (v : FrameView) (e : Option Expr) : Except FilterError (List Bool) := do
  let columns ← v.frame.select (e.elim [] Expr.columns)
  return (List.range v.frame.height).map fun i =>
    shows v.caseSensitive e (FrameColumn.row columns i)

def setPredicate (v : FrameView) (predicate : String) : Except FilterError FrameView := do
  let expr ← compile predicate v.columns
  let marks ← v.evaluate expr
  return { v with predicate, expr, marks }

def rowCount (v : FrameView) : Nat := v.marks.count true

/-- The values of a column in all rows. -/
def columnValues (v : FrameView) (name : String) : Except FilterError (List Value) :=
  match v.frame.column? name with
  | some c => .ok (c.cells.map Datum.value)
  | none => .error (.unknownColumn name)

/-- The columns of the frame with the cells of the visible rows. -/
def visibleColumns (v : FrameView) : List (List Value) :=
  v.frame.columns.map fun c => marked v.marks (c.cells.map Datum.value)

end FrameView
end TableFilter
