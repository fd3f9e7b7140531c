import TableFilter.Comparison
import TableFilter.Refresh
import TableFilter.Report

/-!
# Settings of a filter bar

How the filters of the columns are joined with each other and with the base filter of the table,
when edits take effect, which filters are made for the columns, and what is reported.
-/

namespace TableFilter

structure FilterSettings where
  refreshMode : RefreshMode := .onInput
  /-- Joins the filters of the columns. -/
  operator : Connective := .and
  /-- Joins the filters of the columns with the base filter. -/
  baseOperator : Connective := .and
  baseEnabled : Bool := true
  /-- Whether the filters of a table are remembered. -/
  keepFilters : Bool := false
  /-- The greatest number of values a column may offer for choosing. -/
  distinctCap : Option Nat := some 100
  /-- Whether numeric and date filters offer a range. -/
  offerRange : Bool := true
  dateFormats : List String := ["%Y-%m-%d", "%m/%d/%Y", "%d.%m.%Y"]
  caseSensitive : Bool := false
  logErrors : ErrorModes := .off
  notifyErrors : ErrorModes := .generalOnly
  deriving DecidableEq, Repr

end TableFilter
