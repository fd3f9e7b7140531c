import TableFilter.Config.Json5
import TableFilter.Config.Key
import TableFilter.Folder

/-!
# Configuration

The configuration is put together from several sources, of which later ones win: the built-in
settings, a file in the home folder, a file that the user names, and variables of the environment.
The file in the home folder may be missing; the one that is named may not. A variable states the
setting after `GRIDFILTER_`, with two underscores between the parts of a nested key and without
regard to case.
-/

namespace TableFilter

structure Config where
  filters : FilterSettings
  dataDir : String
  configDir : String
  /-- Where data are kept if `dataDir` is empty. -/
  usualDataDir : String

namespace Config

inductive Error where
  /-- The file that the user names does not exist. -/
  | missing
  /-- A file that is not a table of settings. -/
  | malformed
  /-- A setting that cannot be what it is used for. -/
  | unsuitable (key : String)
  deriving DecidableEq, Repr

abbrev Environment := List (String × String)

def appName : String := "gridfilter"

def snapshotFile : String := "filters.json"

/-- The file in the home folder. -/
def homeFile : String := "." ++ appName ++ "-config.json5"

def modesSetting (m : ErrorModes) : Setting :=
  .table [("general", .bool m.general), ("message", .bool m.message), ("trace", .bool m.trace)]

/-- The built-in settings, which are the usual ones. -/
def builtIn : List (String × Setting) :=
  let usual : FilterSettings := {}
  [("filters", .table
    [("refresh_mode", .text (RefreshMode.names.name usual.refreshMode)),
     ("operator", .text (Connective.names.name usual.operator)),
     ("base_filter_operator", .text (Connective.names.name usual.baseOperator)),
     ("base_filter_enabled", .bool usual.baseEnabled),
     ("keep_filters", .bool usual.keepFilters),
     ("distinct_value_cap", usual.distinctCap.elim .null fun n => .whole n),
     ("between_operator", .bool usual.offerRange),
     ("date_formats", .list (usual.dateFormats.map .text)),
     ("case_sensitive", .bool usual.caseSensitive),
     ("log_errors", modesSetting usual.logErrors),
     ("notify_errors", modesSetting usual.notifyErrors)])]

/-- The members of a file. -/
def readFile (text : String) : Except Error (List (String × Setting)) :=
  match Json5.ofText? text with
  | some (.table members) => .ok members
  | _ => .error .malformed

/-- The setting that the value of a variable states: a truth value, a number or a text. -/
def settingOfVariable (value : String) : Setting :=
  let truth := Text.lower value
  if truth = "true" then .bool true
  else if truth = "false" then .bool false
  else match (Text.readInt? value.toList).filter fits64 with
    | some n => .whole n
    | none => match Fraction.read? .double value with
      | some x => .fraction x
      | none => .text value

/-- Two underscores become a point. -/
def withPoints : List Char → List Char
  | '_' :: '_' :: rest => '.' :: withPoints rest
  | c :: rest => c :: withPoints rest
  | [] => []

/-- The key that a variable sets, if it belongs to the program. -/
def keyOfVariable? (name : String) : Option String :=
  let start := (appName ++ "_").toList
  let name := (Text.lower name).toList
  if start.isPrefixOf name then some (String.ofList (withPoints (name.drop start.length)))
  else none

def environmentSource (environment : Environment) : List (String × Setting) :=
  environment.filterMap fun (name, value) =>
    (keyOfVariable? name).map fun key => (key, settingOfVariable value)

/-- The texts of the files, as far as they are there and asked for. -/
structure Files where
  home : Option String
  /-- The file that the user names, if any, and its text if it exists. -/
  named : Option (Option String)

/-- Where data are kept unless the settings say otherwise. -/
def dataDirOf (environment : Environment) : String :=
  (environment.lookup "GRIDFILTER_DATA").getD "./.data"

def configDirOf (environment : Environment) : String :=
  (environment.lookup "GRIDFILTER_CONFIG").getD "./.config"

/-- A place of the file system among the settings. -/
def place (root : Setting) (key : String) : Except Error String :=
  match (root.members.lookup key).elim (some "") Setting.literal? with
  | some s => .ok s
  | none => .error (.unsuitable key)

/-- The configuration that the merged settings state. -/
def ofSettings (environment : Environment) (root : Setting) : Except Error Config := do
  let dataDir ← place root "data_dir"
  let configDir ← place root "config_dir"
  match (root.members.lookup "filters").elim (some {}) Setting.filterSettings? with
  | some filters => return { filters, dataDir, configDir, usualDataDir := dataDirOf environment }
  | none => .error (.unsuitable "filters")

def homeSource (files : Files) : Except Error (List (String × Setting)) :=
  files.home.elim (.ok []) readFile

def namedSource (files : Files) : Except Error (List (String × Setting)) :=
  match files.named with
  | none => .ok []
  | some none => .error .missing
  | some (some text) => readFile text

def ofSources (files : Files) (environment : Environment) : Except Error Config := do
  let defaults := [("data_dir", Setting.text (dataDirOf environment)),
    ("config_dir", Setting.text (configDirOf environment))]
  let sources := [defaults, builtIn, ← homeSource files, ← namedSource files,
    environmentSource environment]
  ofSettings environment (sources.foldl Setting.overlay (.table []))

/-- Where the remembered filters are kept. -/
def snapshotPath (c : Config) : String :=
  Folder.child (if c.dataDir.isEmpty then c.usualDataDir else c.dataDir) snapshotFile

/-- The first of some files that exists. -/
def firstText {m : Type → Type} [Monad m] (read : String → m (Option String)) :
    List String → m (Option String)
  | [] => return none
  | file :: files => do
    match ← read file with
    | some text => return some text
    | none => firstText read files

/-- The text of a settings file, whose ending may be left out. -/
def readSettings {m : Type → Type} [Monad m] (read : String → m (Option String)) (file : String) :
    m (Option String) := firstText read [file, file ++ ".json5"]

/-- Loads the configuration, with `read` giving the texts of the files that exist. -/
def load {m : Type → Type} [Monad m] (read : String → m (Option String)) (home : String)
    (environment : Environment) (named : Option String) : m (Except Error Config) := do
  let homeText ← readSettings read (Folder.child home homeFile)
  let namedText ← match named with
    | some file => some <$> readSettings read (Folder.expandTilde home file)
    | none => pure none
  return ofSources ⟨homeText, namedText⟩ environment

end Config
end TableFilter
