import TableFilter.Decimal.Shortest
import TableFilter.Stored
import TableFilter.Text.Lowercase

/-!
# Trees of settings

A file or an environment states settings as a tree, whose tables are merged one over the other: a
table is merged key by key into what stands under its key, and anything else replaces it. Keys do
not depend on case.

A setting is then decoded into what is asked for, which is lenient: truth values and counts may be
written as text, numbers stand for truth values, and any plain value is a text.
-/

namespace TableFilter

inductive Setting where
  | null
  | bool (b : Bool)
  | whole (n : Int)
  | fraction (x : Fraction)
  | text (s : String)
  | list (items : List Setting)
  | table (members : List (String × Setting))

namespace Setting

/-- The members of a table. Anything else has none. -/
def members : Setting → List (String × Setting)
  | table members => members
  | _ => []

/-- Puts a value under a name, at the place of an older one. -/
def setMember (name : String) (value : Setting) : List (String × Setting) → List (String × Setting)
  | [] => [(name, value)]
  | m :: rest => if m.1 = name then (name, value) :: rest else m :: setMember name value rest

/-- A table with a value under a key. What was no table becomes one. -/
def withMember (root : Setting) (key : String) (value : Setting) : Setting :=
  table (setMember (Text.lower key) value root.members)

/-- What stands under a key, an empty table if nothing does. -/
def under (root : Setting) (key : String) : Setting :=
  (root.members.lookup (Text.lower key)).getD (table [])

mutual

/-- Merges a setting into what stands under a key. -/
def put (root : Setting) (key : String) : Setting → Setting
  | table members => root.withMember key (putAll (root.under key) members)
  | null => root.withMember key null
  | bool b => root.withMember key (bool b)
  | whole n => root.withMember key (whole n)
  | fraction x => root.withMember key (fraction x)
  | text s => root.withMember key (text s)
  | list items => root.withMember key (list items)

/-- Merges the members of a table one after the other. -/
def putAll (root : Setting) : List (String × Setting) → Setting
  | [] => root
  | (key, value) :: rest => putAll (root.put key value) rest

end

def truthOfText? (s : String) : Option Bool :=
  match Text.lower s with
  | "1" | "true" | "on" | "yes" => some true
  | "0" | "false" | "off" | "no" => some false
  | _ => none

def bool? : Setting → Option Bool
  | bool b => some b
  | whole n => some (n ≠ 0)
  | fraction (.finite _ mantissa _) => some (mantissa ≠ 0)
  | fraction _ => some true
  | text s => truthOfText? s
  | _ => none

/-- The count nearest to a fraction, half away from zero. Negative fractions and those that are not
a number count zero. -/
def roundedCount : Fraction → Nat
  | .finite false mantissa exponent =>
    let den := pow2 (-exponent).toNat
    min ((2 * mantissa * pow2 exponent.toNat + den) / (2 * den)) greatestCount
  | .infinite false => greatestCount
  | _ => 0

def count? : Setting → Option Nat
  | bool b => some b.toNat
  | whole n => if 0 ≤ n then some n.toNat else none
  | fraction x => some (roundedCount x)
  | text s =>
    match Text.lower s with
    | "true" | "on" | "yes" => some 1
    | "false" | "off" | "no" => some 0
    | _ => (Text.readUnsigned? s.toList).filter (· ≤ greatestCount)
  | _ => none

def text? : Setting → Option String
  | bool b => some (if b then "true" else "false")
  | whole n => some (toString n)
  | fraction x => some x.text
  | text s => some s
  | _ => none

/-- A text that stands for itself alone. -/
def literal? : Setting → Option String
  | text s => some s
  | _ => none

def texts? : Setting → Option (List String)
  | list items => items.mapM text?
  | _ => none

/-- Null or a value. -/
def optional? {α : Type} (decode : Setting → Option α) : Setting → Option (Option α)
  | null => some none
  | s => (decode s).map some

/-- A member of a small closed type, by its name in any case or by a table whose only key is the
name. -/
def choice? {α : Type} (names : Names α) : Setting → Option α
  | text s | table [(s, _)] => names.members.find? fun a => Text.lower (names.name a) = Text.lower s
  | _ => none

/-- The fields of a record, by name or in order. -/
def fields? (names : List String) : Setting → Option (List (Option Setting))
  | table members => some (names.map fun name => members.lookup name)
  | list items => some (names.zipIdx.map fun (_, i) => items[i]?)
  | _ => none

/-- A field with a default. -/
def fieldOr? {α : Type} (default : α) (decode : Setting → Option α) : Option Setting → Option α
  | none => some default
  | some s => decode s

def errorModes? (s : Setting) : Option ErrorModes := do
  let [general, message, trace] ← s.fields? ["general", "message", "trace"] | none
  return {
    general := ← fieldOr? false bool? general
    message := ← fieldOr? false bool? message
    trace := ← fieldOr? false bool? trace }

def filterSettings? (s : Setting) : Option FilterSettings := do
  let [mode, operator, baseOperator, baseEnabled, keep, cap, range, formats, case, log, notify] ←
    s.fields? FilterSettings.fieldNames | none
  let usual : FilterSettings := {}
  return {
    refreshMode := ← fieldOr? usual.refreshMode (choice? RefreshMode.names) mode
    operator := ← fieldOr? usual.operator (choice? Connective.names) operator
    baseOperator := ← fieldOr? usual.baseOperator (choice? Connective.names) baseOperator
    baseEnabled := ← fieldOr? usual.baseEnabled bool? baseEnabled
    keepFilters := ← fieldOr? usual.keepFilters bool? keep
    distinctCap := ← fieldOr? usual.distinctCap (optional? count?) cap
    offerRange := ← fieldOr? usual.offerRange bool? range
    dateFormats := ← fieldOr? usual.dateFormats texts? formats
    caseSensitive := ← fieldOr? usual.caseSensitive bool? case
    logErrors := ← fieldOr? usual.logErrors errorModes? log
    notifyErrors := ← fieldOr? usual.notifyErrors errorModes? notify }

end Setting
end TableFilter
