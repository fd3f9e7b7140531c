import TableFilter.CommandLine.Session

/-!
# Runs of the program

A run reads its arguments, the configuration and the files these name, and ends with a status, the
lines it prints and, if filters are kept, the text it saves. How all of this is read is left open:
a run is a function of its readers. The readers of the program are those of this library over the
texts of files.
-/

namespace TableFilter

/-- How a run ends. -/
structure Outcome where
  status : Nat := 0
  output : List String := []
  /-- What the user is told beside the output. -/
  told : List String := []
  /-- The place and the text of what is saved. -/
  saved : Option (String × String) := none
  deriving DecidableEq, Repr

namespace Outcome

/-- A run that fails, perhaps after it has printed something. -/
def ofError (e : RunError) (output told : List String) : Outcome :=
  { status := e.status, output, told := told ++ ["Error: " ++ e.message] }

/-- A session that has answered. -/
def ofSession (a : Arguments) (config : Config) (s : Session) : Outcome :=
  match s.distinctLists config.filters.distinctCap a.distinct with
  | (lines, some e) => ofError (.filter e) lines s.told
  | (lines, none) => {
      output := lines ++ s.summary ++ s.firstRows a.rows
      told := s.told
      saved := if a.keep then some (config.snapshotPath, s.bar.memory.text) else none }

/-- The outcome for a table and the text of what was saved, as far as they exist. -/
def ofTable (a : Arguments) (config : Config) (table : Option Frame) (saved : Option String) :
    Outcome :=
  match table with
  | none => ofError (.table a.csv) [] []
  | some f =>
    let v := FrameView.ofFrame ⟨Csv.stem a.csv⟩ f
    let view := View.frame (v.withCase config.filters.caseSensitive)
    match Session.ofArguments a config.filters view saved with
    | .error e => ofError e [] []
    | .ok s => ofSession a config s

end Outcome

/-- How a run reads what it is about. -/
structure Readers (m : Type → Type) where
  request : List String → Except Arguments.UsageError Arguments.Request
  /-- The configuration, with the file that the arguments name. -/
  config : Option String → m (Except Config.Error Config)
  /-- The text of a file, if it exists. -/
  text : String → m (Option String)
  /-- The table in a file of separated values, if it is one. -/
  table : String → m (Option Frame)

variable {m : Type → Type} [Monad m]

namespace Readers

/-- The readers over the texts of the files that exist. -/
def ofFiles (read : String → m (Option String)) (home : String) (environment : Config.Environment) :
    Readers m where
  request := Arguments.read
  config := Config.load read home environment
  text := read
  table path := do return (← read (Folder.belowHome home path)).bind Csv.frame?

/-- Runs the program on arguments that ask for a table. -/
def runArguments (r : Readers m) (a : Arguments) : m Outcome := do
  match ← r.config a.config with
  | .error e => return .ofError (.config e) [] []
  | .ok config =>
    let table ← r.table a.csv
    let saved ← if a.keep then r.text config.snapshotPath else pure none
    return .ofTable a config table saved

def run (r : Readers m) (arguments : List String) : m Outcome :=
  match r.request arguments with
  | .error e => return .ofError (.usage e) [] []
  | .ok .help => return { output := Arguments.help }
  | .ok .version => return { output := [Arguments.version] }
  | .ok (.run a) => r.runArguments a

end Readers

/-- Runs the program. `read` gives the texts of the files that exist. -/
def run (read : String → m (Option String)) (home : String) (environment : Config.Environment)
    (arguments : List String) : m Outcome :=
  (Readers.ofFiles read home environment).run arguments

end TableFilter
