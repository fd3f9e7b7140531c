import TableFilter.Calendar.Text
import TableFilter.Decimal.Text
import TableFilter.Vocabulary

/-!
# Cell values

A cell is empty or holds a truth value, a number, a text or a date. The shown text of a value is
what a user sees and chooses from; an empty cell shows nothing, which is not the empty text.
-/

namespace TableFilter

inductive ValueKind where
  | text | number | date | boolean | enumerable
  deriving DecidableEq, Repr

namespace ValueKind

def spelling : ValueKind → String
  | text => "text"
  | number => "number"
  | date => "date"
  | boolean => "boolean"
  | enumerable => "enumerable"

instance : Vocabulary ValueKind where
  members := [text, number, date, boolean, enumerable]
  spelling := spelling
  anyCase := true

end ValueKind

inductive Value where
  | null
  | bool (b : Bool)
  | number (d : Decimal)
  | text (s : String)
  | date (d : Date)
  deriving DecidableEq

namespace Value

instance : Inhabited Value := ⟨null⟩

def isNull : Value → Bool
  | null => true
  | _ => false

/-- The kind of a value that is not null. -/
def kind? : Value → Option ValueKind
  | null => none
  | bool _ => some .boolean
  | number _ => some .number
  | text _ => some .text
  | date _ => some .date

def boolText (b : Bool) : String := if b then "true" else "false"

/-- The shown text of a value that is not null. -/
def shown? : Value → Option String
  | null => none
  | bool b => some (boolText b)
  | number d => some d.text
  | text s => some s
  | date d => some d.text

/-- The shown text, empty for null. -/
def shown (v : Value) : String := v.shown?.getD ""

theorem shown?_eq_none (v : Value) : v.shown? = none ↔ v = null := by
  cases v <;> simp [shown?]

/-- Equality of cells. Numbers are equal by value, whatever their scales. -/
def same : Value → Value → Bool
  | number a, number b => a.sameValue b
  | a, b => a == b

end Value

/-- Reads `true` or `false` in any case. -/
def readBool? (s : String) : Option Bool :=
  match String.ofList ((Text.trimChars s.toList).map Char.toLower) with
  | "true" => some true
  | "false" => some false
  | _ => none

end TableFilter
