import TableFilter.Predicate.Error

/-!
# Errors of tables and their filters

Why a table refuses a predicate or cannot answer a question, and why a file of remembered filters
cannot be used.
-/

namespace TableFilter

inductive FilterError where
  /-- A predicate that cannot be read, or names a column the table does not have. -/
  | malformed (predicate : String) (cause : PredicateError)
  | unknownColumn (name : String)
  | frame (reason : String)
  | file (reason : String)
  | format (reason : String)
  deriving DecidableEq, Repr

namespace FilterError

def message : FilterError → String
  | malformed predicate cause =>
    "malformed filter expression '" ++ predicate ++ "': " ++ cause.message
  | unknownColumn name => "unknown column: " ++ name
  | frame reason => "data frame error: " ++ reason
  | file reason => "snapshot I/O error: " ++ reason
  | format reason => "snapshot format error: " ++ reason

def isMalformed : FilterError → Bool
  | malformed _ _ => true
  | _ => false

end FilterError
end TableFilter
