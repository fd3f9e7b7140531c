import TableFilter.CommandLine.Run

/-!
# The program

Files are read from and written to the file system; variables are the ones that the system lists
for the process.
-/

open TableFilter

/-- The text of a file, if it exists. -/
def readText (place : String) : IO (Option String) := do
  try return some (← IO.FS.readFile place)
  catch _ => return none

/-- A variable and its value, on the two sides of an equals sign. -/
def variableOfLine (line : String) : String × String :=
  let cs := line.toList
  (String.ofList (cs.takeWhile (· ≠ '=')), String.ofList ((cs.dropWhile (· ≠ '=')).drop 1))

def readVariables : IO Config.Environment := do
  let listing := (← readText "/proc/self/environ").getD ""
  return (listing.splitOn "\x00").map variableOfLine

/-- Writes a text to a place whose folder need not exist. -/
def saveText (place text : String) : IO Unit := do
  if let some folder := Folder.parent? place then IO.FS.createDirAll folder
  IO.FS.writeFile place text

def main (arguments : List String) : IO UInt32 := do
  let home := (← IO.getEnv "HOME").getD "."
  let outcome ← run readText home (← readVariables) arguments
  for line in outcome.output do IO.println line
  for text in outcome.told do IO.eprintln text
  if let some (place, text) := outcome.saved then saveText place text
  return outcome.status.toUInt32
