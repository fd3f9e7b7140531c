import TableFilter.Comparison
import TableFilter.Power
import TableFilter.Text.Digits

/-!
# Arguments of the command line

The file to be filtered stands among the arguments, and options say what is done with it. An option
and its value are two arguments or one with an equals sign; a value of its own does not begin with
a dash. Two dashes end the options. Arguments are read from the left, and the first fault or request
for help decides.
-/

namespace TableFilter

/-- How much the log file is told. -/
inductive LogLevel where
  | error | warn | info | debug | trace
  deriving DecidableEq, Repr

instance : Vocabulary LogLevel where
  members := [.error, .warn, .info, .debug, .trace]
  spelling
    | .error => "error"
    | .warn => "warn"
    | .info => "info"
    | .debug => "debug"
    | .trace => "trace"
  anyCase := false

structure Arguments where
  csv : String
  /-- Column filters to restore, each after the name of its column and an equals sign. -/
  filters : List String := []
  base : Option String := none
  custom : Option String := none
  operator : Option Connective := none
  /-- Columns of which the distinct values are listed. -/
  distinct : List String := []
  /-- Kinds of filter, each after the name of its column and an equals sign. -/
  strategies : List String := []
  rows : Nat := 10
  keep : Bool := false
  logging : Option LogLevel := none
  config : Option String := none
  deriving DecidableEq, Repr

namespace Arguments

/-- The options that take a value. -/
inductive OptionName where
  | filter | base | custom | operator | distinct | strategy | rows | logging | config
  deriving DecidableEq, Repr

def OptionName.spelling : OptionName → String
  | filter => "where"
  | base => "base"
  | custom => "custom"
  | operator => "operator"
  | distinct => "distinct"
  | strategy => "strategy"
  | rows => "rows"
  | logging => "logging"
  | config => "config"

def OptionName.all : List OptionName :=
  [filter, base, custom, operator, distinct, strategy, rows, logging, config]

/-- The options that take none. -/
inductive FlagName where
  | keep | help | version
  deriving DecidableEq, Repr

def FlagName.spelling : FlagName → String
  | keep => "keep"
  | help => "help"
  | version => "version"

def FlagName.all : List FlagName := [keep, help, version]

inductive UsageError where
  | unknown (argument : String)
  | needsValue (option : OptionName)
  | takesNoValue (flag : FlagName)
  | repeated (name : String)
  | unsuitable (name : String) (value : String)
  | noFile
  deriving DecidableEq, Repr

def UsageError.message : UsageError → String
  | unknown argument => "unexpected argument '" ++ argument ++ "' found"
  | needsValue option =>
    "a value is required for '--" ++ option.spelling ++ "' but none was supplied"
  | takesNoValue flag => "unexpected value for '--" ++ flag.spelling ++ "' found"
  | repeated name => "the argument '" ++ name ++ "' cannot be used multiple times"
  | unsuitable name value => "invalid value '" ++ value ++ "' for '" ++ name ++ "'"
  | noFile => "the following required arguments were not provided: <CSV>"

/-- What an argument is on its own. -/
inductive Word where
  | plain (s : String)
  | option (name : OptionName) (value : Option String)
  | flag (name : FlagName)
  | endOfOptions
  deriving DecidableEq, Repr

/-- An argument after its two dashes. -/
def longWord (argument : String) (cs : List Char) : Except UsageError Word :=
  let name := String.ofList (cs.takeWhile (· ≠ '='))
  let value := match cs.dropWhile (· ≠ '=') with
    | _ :: value => some (String.ofList value)
    | [] => none
  match OptionName.all.find? (·.spelling = name), FlagName.all.find? (·.spelling = name) with
  | some option, _ => .ok (.option option value)
  | none, some flag => if value.isSome then .error (.takesNoValue flag) else .ok (.flag flag)
  | none, none => .error (.unknown argument)

def word (argument : String) : Except UsageError Word :=
  match argument.toList with
  | ['-', '-'] => .ok .endOfOptions
  | '-' :: '-' :: cs => longWord argument cs
  | '-' :: 'h' :: _ => .ok (.flag .help)
  | '-' :: 'V' :: _ => .ok (.flag .version)
  | '-' :: _ :: _ => .error (.unknown argument)
  | _ => .ok (.plain argument)

/-- A lone dash is no option. -/
def looksLikeOption (argument : String) : Bool :=
  match argument.toList with
  | '-' :: _ :: _ => true
  | _ => false

/-- The arguments as far as they have been read. -/
structure Draft where
  csv : Option String := none
  filters : List String := []
  base : Option String := none
  custom : Option String := none
  operator : Option Connective := none
  distinct : List String := []
  strategies : List String := []
  rows : Option Nat := none
  keep : Bool := false
  logging : Option LogLevel := none
  config : Option String := none

/-- What the arguments ask for. -/
inductive Request where
  | run (arguments : Arguments)
  | help
  | version
  deriving DecidableEq, Repr

/-- A value that may be given once. -/
def once {α : Type} (name : String) (old : Option α) (value : String) (new : Option α) :
    Except UsageError (Option α) :=
  match old, new with
  | some _, _ => .error (.repeated name)
  | none, none => .error (.unsuitable name value)
  | none, some a => .ok (some a)

/-- A place of the file system, which is not empty. -/
def place? (s : String) : Option String := if s.isEmpty then none else some s

def count? (s : String) : Option Nat := (Text.readUnsigned? s.toList).filter (· < pow2 64)

namespace Draft

def addPlain (d : Draft) (s : String) : Except UsageError Draft :=
  match d.csv with
  | some _ => .error (.unknown s)
  | none => match place? s with
    | some csv => .ok { d with csv := some csv }
    | none => .error (.unsuitable "<CSV>" s)

def set (d : Draft) (option : OptionName) (value : String) : Except UsageError Draft :=
  let name := "--" ++ option.spelling
  match option with
  | .filter => .ok { d with filters := d.filters ++ [value] }
  | .distinct => .ok { d with distinct := d.distinct ++ [value] }
  | .strategy => .ok { d with strategies := d.strategies ++ [value] }
  | .base => return { d with base := ← once name d.base value (some value) }
  | .custom => return { d with custom := ← once name d.custom value (some value) }
  | .operator => return { d with operator := ← once name d.operator value (Vocabulary.read? value) }
  | .rows => return { d with rows := ← once name d.rows value (count? value) }
  | .logging => return { d with logging := ← once name d.logging value (Vocabulary.read? value) }
  | .config => return { d with config := ← once name d.config value (place? value) }

def finish (d : Draft) : Except UsageError Request :=
  match d.csv with
  | none => .error .noFile
  | some csv => .ok <| .run {
      csv
      filters := d.filters
      base := d.base
      custom := d.custom
      operator := d.operator
      distinct := d.distinct
      strategies := d.strategies
      rows := d.rows.getD 10
      keep := d.keep
      logging := d.logging
      config := d.config }

/-- Reads arguments none of which is an option. -/
def readPlain (d : Draft) (arguments : List String) : Except UsageError Request := do
  finish (← arguments.foldlM addPlain d)

def read (d : Draft) : List String → Except UsageError Request
  | [] => d.finish
  | argument :: rest => do
    match ← word argument with
    | .endOfOptions => d.readPlain rest
    | .plain s => read (← d.addPlain s) rest
    | .flag .help => return .help
    | .flag .version => return .version
    | .flag .keep =>
      if d.keep then .error (.repeated "--keep") else read { d with keep := true } rest
    | .option option (some value) => read (← d.set option value) rest
    | .option option none =>
      match rest with
      | [] => .error (.needsValue option)
      | value :: rest =>
        if looksLikeOption value then .error (.needsValue option)
        else read (← d.set option value) rest

end Draft

def read (arguments : List String) : Except UsageError Request := Draft.read {} arguments

def version : String := "gridfilter 0.1.0"

def help : List String :=
  ["gridfilter: typed per-column filter predicates for tabular views.",
   "",
   "Usage: gridfilter [OPTIONS] <CSV>",
   "",
   "Arguments:",
   "  <CSV>  CSV file with a header row",
   "",
   "Options:",
   "      --where <COLUMN=PREDICATE>  Column filter fragment, restored through the column's strategy.",
   "                                  Repeatable. Example: --where \"size=[size] > 10\"",
   "      --base <PREDICATE>          Base filter of the table",
   "      --custom <PREDICATE>        Override filter ANDed on top of everything else",
   "      --operator <OPERATOR>       Operator joining the column fragments (and, or)",
   "      --distinct <COLUMN>         Print the distinct values of a column. Repeatable",
   "      --strategy <COLUMN=KIND>    Force a strategy for a column, e.g. --strategy kind=distinct.",
   "                                  Repeatable",
   "      --rows <ROWS>               Number of matching rows to print [default: 10]",
   "      --keep                      Remember the column filters of this table between runs",
   "      --logging <LOGGING>         Enable file logging at the given level (overrides RUST_LOG)",
   "                                  [possible values: error, warn, info, debug, trace]",
   "      --config <PATH>             Path to a config file (layered over the default config discovery)",
   "  -h, --help                      Print help",
   "  -V, --version                   Print version"]

end Arguments
end TableFilter
