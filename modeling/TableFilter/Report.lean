import TableFilter.Error

/-!
# Reports of refused predicates

A refused predicate is reported to the log and to the user. Each of the two receives the parts that
its modes select, a line for each: a general notice, the message of the error, and a trace of the
calls in progress. No calls are traced here, so that the line of the trace is empty.
-/

namespace TableFilter

structure ErrorModes where
  general : Bool := false
  message : Bool := false
  trace : Bool := false
  deriving DecidableEq, Repr

namespace ErrorModes

def off : ErrorModes := {}

def generalOnly : ErrorModes := { general := true }

def isOff (m : ErrorModes) : Bool := !(m.general || m.message || m.trace)

def notice : String := "Invalid filter specified."

/-- The lines that the modes select. -/
def lines (m : ErrorModes) (e : FilterError) : List String :=
  (if m.general then [notice] else []) ++ (if m.message then [e.message] else []) ++
    if m.trace then [""] else []

def format (m : ErrorModes) (e : FilterError) : String := "\n".intercalate (m.lines e)

/-- The report, unless nothing is selected. -/
def report? (m : ErrorModes) (e : FilterError) : Option String :=
  if m.isOff then none else some (m.format e)

end ErrorModes

/-- What the log and the user are told. -/
structure Reporter where
  log : ErrorModes := .off
  notify : ErrorModes := .generalOnly
  deriving DecidableEq, Repr

end TableFilter
