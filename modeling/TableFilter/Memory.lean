import TableFilter.Column

/-!
# Remembered filters

For every table the predicates of its column filters, in the order of the columns. Tables are kept
sorted by name. A memory that is switched off records nothing and tells nothing.
-/

namespace TableFilter

/-- What is remembered of one table. -/
structure TableSnapshot where
  table : TableId
  filters : List String
  deriving DecidableEq, Repr

structure TableMemory where
  enabled : Bool := false
  snapshots : List TableSnapshot := []
  deriving DecidableEq, Repr

namespace TableMemory

/-- Puts a snapshot at its place, instead of an older one of the same table. -/
def insert (s : TableSnapshot) : List TableSnapshot → List TableSnapshot
  | [] => [s]
  | t :: rest =>
    match compare s.table.name t.table.name with
    | .lt => s :: t :: rest
    | .eq => s :: rest
    | .gt => t :: insert s rest

/-- Switching off forgets everything. -/
def setEnabled (m : TableMemory) (enabled : Bool) : TableMemory :=
  { enabled, snapshots := if enabled then m.snapshots else [] }

def record (m : TableMemory) (table : TableId) (filters : List String) : TableMemory :=
  if m.enabled then { m with snapshots := insert ⟨table, filters⟩ m.snapshots } else m

def find? (m : TableMemory) (table : TableId) : Option TableSnapshot :=
  m.snapshots.find? (·.table = table)

def snapshot? (m : TableMemory) (table : TableId) : Option TableSnapshot :=
  if m.enabled then m.find? table else none

def forget (m : TableMemory) (table : TableId) : TableMemory :=
  { m with snapshots := m.snapshots.filter (·.table ≠ table) }

/-- A memory with other contents, of which later ones replace earlier ones of the same table. -/
def replace (m : TableMemory) (snapshots : List TableSnapshot) : TableMemory :=
  { m with snapshots := snapshots.foldl (fun kept s => insert s kept) [] }

end TableMemory
end TableFilter
