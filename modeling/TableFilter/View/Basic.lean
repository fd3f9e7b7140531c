import TableFilter.View.Frame
import TableFilter.View.Memory

/-!
# Tables

What filters need of a table: its identity and columns, the predicate in force, the cells of a
column in all rows, and a way to hand it a new predicate. A predicate that is refused leaves the
table as it was.
-/

namespace TableFilter

inductive View where
  | memory (v : MemoryView)
  | frame (v : FrameView)

namespace View

def table : View → TableId
  | memory v => v.table
  | frame v => v.table

def columns : View → List Column
  | memory v => v.columns
  | frame v => v.columns

def predicate : View → String
  | memory v => v.predicate
  | frame v => v.predicate

def rowCount : View → Nat
  | memory v => v.rowCount
  | frame v => v.rowCount

def setPredicate (predicate : String) : View → Except FilterError View
  | memory v => (v.setPredicate predicate).map memory
  | frame v => (v.setPredicate predicate).map frame

def columnValues (name : String) : View → Except FilterError (List Value)
  | memory v => v.columnValues name
  | frame v => v.columnValues name

/-- Changes the descriptions of the columns, which marks no rows anew. -/
def setColumns (columns : List Column) : View → View
  | memory v => memory { v with columns }
  | frame v => frame { v with columns }

def withCase (caseSensitive : Bool) : View → View
  | memory v => memory (v.withCase caseSensitive)
  | frame v => frame (v.withCase caseSensitive)

def column? (v : View) (name : String) : Option Column := v.columns.find? (·.name = name)

end View
end TableFilter
