import TableFilter.Value.Basic

/-!
# Tables and columns

A table is known by its name. A column has a name that predicates use and a name to be shown, a
kind of values, and a place and width on the screen.
-/

namespace TableFilter

structure TableId where
  name : String
  deriving DecidableEq, Repr

namespace TableId

inductive Error where
  | empty
  deriving DecidableEq

def Error.message : Error → String
  | empty => "Table identity cannot be empty"

/-- Reads the name of a table, which must not be blank. It is kept as it is. -/
def read (s : String) : Except Error TableId :=
  if Text.isBlankText s then .error .empty else .ok ⟨s⟩

end TableId

structure Column where
  name : String
  displayName : String
  kind : ValueKind
  visible : Bool := true
  displayIndex : Nat := 0
  width : Nat := 100
  deriving DecidableEq, Repr

namespace Column

/-- A visible column that is shown under its own name. -/
def ofName (name : String) (kind : ValueKind) : Column := { name, displayName := name, kind }

end Column
end TableFilter
