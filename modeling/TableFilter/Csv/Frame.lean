import TableFilter.Csv.Record
import TableFilter.Power
import TableFilter.View.Frame

/-!
# Data frames from separated values

The first record names the columns. The type of a column is found from the fields of the first
hundred rows: truth values, whole numbers, numbers, or dates with the year first; a column with
fields of other or several types is one of text, except that whole numbers and numbers together are
numbers. Fields that hold nothing are null and say nothing about the type. A field that does not
fit the type of its column is an error. Dates in other orders and times of day stay texts. This is
one reader among those that a run may use, and what holds of runs does not depend on it.
-/

namespace TableFilter.Csv

open Text

def isSign (c : Char) : Bool := c == '+' || c == '-'

def isWhole (cs : List Char) : Bool :=
  let digits := match cs with
    | '-' :: rest => rest
    | _ => cs
  !digits.isEmpty && digits.all Char.isDigit

/-- A mark and an exponent. -/
def isExponent : List Char → Bool
  | e :: rest =>
    let digits := match rest with
      | c :: more => if isSign c then more else rest
      | [] => []
    (e == 'e' || e == 'E') && !digits.isEmpty && digits.all Char.isDigit
  | [] => false

/-- A number with a point or an exponent, or a name of a value that is no number. -/
def isFraction (cs : List Char) : Bool :=
  let unsigned := match cs with
    | c :: rest => if isSign c then rest else cs
    | [] => []
  let whole := unsigned.takeWhile Char.isDigit
  match unsigned.dropWhile Char.isDigit with
  | '.' :: rest =>
    let places := rest.takeWhile Char.isDigit
    let ending := rest.dropWhile Char.isDigit
    if places.isEmpty then !whole.isEmpty && ending.isEmpty else ending.isEmpty || isExponent ending
  | [] => false
  | rest => if whole.isEmpty then rest == "inf".toList || rest == "NaN".toList else isExponent rest

def bool? (s : String) : Option Bool :=
  match String.ofList (s.toList.map Char.toLower) with
  | "true" => some true
  | "false" => some false
  | _ => none

def date? (s : String) : Option Date := Date.ofPattern? Date.yearFirst.toList s.toList

/-- The type that a field on its own has. -/
def typeOf (s : String) : DatumType :=
  if (bool? s).isSome then .bool
  else if isWhole s.toList then .whole
  else if isFraction s.toList then .fraction
  else if (date? s).isSome then .day
  else .text

/-- The type of fields of two types. -/
def common (a b : DatumType) : DatumType :=
  if a = b then a
  else match a, b with
  | .whole, .fraction | .fraction, .whole => .fraction
  | _, _ => .text

/-- The type of a column with the given fields. -/
def columnType (fields : List Field) : DatumType :=
  match (fields.filter (!·.isMissing)).map fun f => typeOf f.text with
  | [] => .text
  | type :: types => types.foldl common type

def datum? (type : DatumType) (f : Field) : Option Datum :=
  if f.isMissing then some .null
  else match type with
  | .bool => (bool? f.text).map .bool
  | .whole => do
    let n ← if isWhole f.text.toList then readInt? f.text.toList else none
    if fits64 n then some (.whole n) else none
  | .fraction => (Fraction.read? .double f.text).map (.fraction .double)
  | .day => (date? f.text).map fun d => .day d.dayNumber
  | _ => some (.text f.text)

/-- The names of the columns. A name that came before is marked with a number. -/
def columnNames (header : List Field) : List String :=
  header.zipIdx.map fun (f, i) =>
    match ((header.take i).filter (·.text = f.text)).length with
    | 0 => f.text
    | n + 1 => f.text ++ "_duplicated_" ++ toString n

/-- A column of the rows at position `i`. -/
def column? (name : String) (rows : List (List Field)) (i : Nat) : Option FrameColumn := do
  let fields := rows.map fun row => row[i]?.getD ⟨"", false⟩
  let type := columnType (fields.take 100)
  return ⟨name, type, ← fields.mapM (datum? type)⟩

/-- Lines that hold nothing are no rows where there are several columns. -/
def isBlankRow : List Field → Bool
  | [f] => f.isMissing
  | _ => false

def frame? (s : String) : Option Frame := do
  let header :: rows ← some (records s) | none
  let rows := if header.length = 1 then rows else rows.filter (!isBlankRow ·)
  if rows.any fun row => header.length < row.length then none
  let columns ← (columnNames header).zipIdx.mapM fun (name, i) => column? name rows i
  Frame.ofColumns? columns

/-- The name of a file without its folder and its ending. -/
def stem (path : String) : String :=
  let name := (path.toList.reverse.takeWhile (· != '/')).reverse
  match name.reverse.dropWhile (· != '.') with
  | '.' :: before => if before.isEmpty then String.ofList name else String.ofList before.reverse
  | _ => String.ofList name

/-- The table in a file, which is known by the stem of its name. -/
def view? (path text : String) : Option FrameView :=
  (frame? text).map (FrameView.ofFrame ⟨stem path⟩)

end TableFilter.Csv
