import TableFilter.Column
import TableFilter.Comparison
import TableFilter.Filter.Strategy
import TableFilter.Json.Text
import TableFilter.Memory
import TableFilter.Power
import TableFilter.Settings

/-!
# Stored forms

The JSON in which settings, columns, inputs and remembered filters are stored. Members of small
closed types are stored under names of their own, which are read exactly.
-/

namespace TableFilter

/-- A type with a stored form. -/
class Stored (α : Type) where
  toJson : α → Json
  ofJson? : Json → Option α

/-- A small closed type whose members are stored by name. -/
structure Names (α : Type) where
  members : List α
  name : α → String

namespace Names

variable {α : Type}

def toJson (names : Names α) (a : α) : Json := .string (names.name a)

def find? (names : Names α) (s : String) : Option α := names.members.find? fun a => names.name a = s

def ofJson? (names : Names α) (json : Json) : Option α := json.name?.bind names.find?

end Names

def ValueKind.names : Names ValueKind :=
  ⟨[.text, .number, .date, .boolean, .enumerable], ValueKind.spelling⟩

def Connective.names : Names Connective :=
  ⟨[.and, .or], fun | .and => "and" | .or => "or"⟩

def TriState.names : Names TriState :=
  ⟨[.unset, .true, .false], fun | .unset => "Unset" | .true => "True" | .false => "False"⟩

def Comparison.names : Names Comparison where
  members := [.eq, .ne, .lt, .le, .gt, .ge]
  name
    | .eq => "Eq"
    | .ne => "Ne"
    | .lt => "Lt"
    | .le => "Le"
    | .gt => "Gt"
    | .ge => "Ge"

def FilterKind.names : Names FilterKind :=
  ⟨[.text, .numeric, .date, .boolean, .presence, .distinct, .empty], FilterKind.spelling⟩

def RefreshMode.names : Names RefreshMode :=
  ⟨[.onInput, .onEnter, .onLeave, .onEnterOrLeave, .off], RefreshMode.spelling⟩

instance : Stored ValueKind := ⟨ValueKind.names.toJson, ValueKind.names.ofJson?⟩
instance : Stored Connective := ⟨Connective.names.toJson, Connective.names.ofJson?⟩
instance : Stored TriState := ⟨TriState.names.toJson, TriState.names.ofJson?⟩
instance : Stored Comparison := ⟨Comparison.names.toJson, Comparison.names.ofJson?⟩
instance : Stored FilterKind := ⟨FilterKind.names.toJson, FilterKind.names.ofJson?⟩
instance : Stored RefreshMode := ⟨RefreshMode.names.toJson, RefreshMode.names.ofJson?⟩

instance : Stored Bool := ⟨.bool, Json.bool?⟩
instance : Stored String := ⟨.string, Json.text?⟩

instance {α : Type} [Stored α] : Stored (List α) :=
  ⟨Json.ofList Stored.toJson, Json.list? Stored.ofJson?⟩

/-- Counts are stored in 64 bits. -/
def greatestCount : Nat := pow2 64 - 1

/-- Widths are stored in 16 bits. -/
def greatestWidth : Nat := pow2 16 - 1

/-- A field that has to be present. -/
def field? {α : Type} [Stored α] (json : Option Json) : Option α := json.bind Stored.ofJson?

/-- A field with a default. -/
def fieldOr? {α : Type} [Stored α] (default : α) : Option Json → Option α
  | none => some default
  | some json => Stored.ofJson? json

instance : Stored TableId := ⟨fun t => .string t.name, fun json => json.text?.map TableId.mk⟩

namespace Column

def fieldNames : List String :=
  ["name", "display_name", "kind", "visible", "display_index", "width"]

instance : Stored Column where
  toJson c := .object
    [("name", .string c.name), ("display_name", .string c.displayName),
     ("kind", Stored.toJson c.kind), ("visible", .bool c.visible),
     ("display_index", .ofNat c.displayIndex), ("width", .ofNat c.width)]
  ofJson? json := do
    let [name, displayName, kind, visible, displayIndex, width] ← json.fields? fieldNames | none
    return {
      name := ← field? name
      displayName := ← field? displayName
      kind := ← field? kind
      visible := ← field? visible
      displayIndex := ← (← displayIndex).nat? greatestCount
      width := ← (← width).nat? greatestWidth }

end Column

instance : Stored Choice where
  toJson
    | .all => .string "NoFilter"
    | .null => .string "Null"
    | .value s => .object [("Value", .string s)]
  ofJson? json := do
    match ← json.alternative? with
    | ("NoFilter", none) | ("NoFilter", some .null) => some .all
    | ("Null", none) | ("Null", some .null) => some .null
    | ("Value", some content) => content.text?.map .value
    | _ => none

instance : Stored Input where
  toJson
    | .empty => .string "Empty"
    | .text s => .object [("Text", .string s)]
    | .operands operator first second => .object [("Operands", .object
        [("operator", .string operator), ("first", .string first), ("second", .string second)])]
    | .check state => .object [("Check", Stored.toJson state)]
    | .choice c => .object [("Choice", Stored.toJson c)]
  ofJson? json := do
    match ← json.alternative? with
    | ("Empty", none) | ("Empty", some .null) => some .empty
    | ("Text", some content) => content.text?.map .text
    | ("Operands", some content) =>
      let [operator, first, second] ← content.fields? ["operator", "first", "second"] | none
      return .operands (← field? operator) (← field? first) (← field? second)
    | ("Check", some content) => (Stored.ofJson? content).map .check
    | ("Choice", some content) => (Stored.ofJson? content).map .choice
    | _ => none

instance : Stored ErrorModes where
  toJson m := .object
    [("general", .bool m.general), ("message", .bool m.message), ("trace", .bool m.trace)]
  ofJson? json := do
    let [general, message, trace] ← json.fields? ["general", "message", "trace"] | none
    return {
      general := ← fieldOr? false general
      message := ← fieldOr? false message
      trace := ← fieldOr? false trace }

namespace FilterSettings

def fieldNames : List String :=
  ["refresh_mode", "operator", "base_filter_operator", "base_filter_enabled", "keep_filters",
   "distinct_value_cap", "between_operator", "date_formats", "case_sensitive", "log_errors",
   "notify_errors"]

instance : Stored FilterSettings where
  toJson s := .object
    [("refresh_mode", Stored.toJson s.refreshMode), ("operator", Stored.toJson s.operator),
     ("base_filter_operator", Stored.toJson s.baseOperator),
     ("base_filter_enabled", .bool s.baseEnabled), ("keep_filters", .bool s.keepFilters),
     ("distinct_value_cap", .ofOption .ofNat s.distinctCap),
     ("between_operator", .bool s.offerRange), ("date_formats", Stored.toJson s.dateFormats),
     ("case_sensitive", .bool s.caseSensitive), ("log_errors", Stored.toJson s.logErrors),
     ("notify_errors", Stored.toJson s.notifyErrors)]
  ofJson? json := do
    let [mode, operator, baseOperator, baseEnabled, keep, cap, range, formats, case, log, notify] ←
      json.fields? fieldNames | none
    let usual : FilterSettings := {}
    return {
      refreshMode := ← fieldOr? usual.refreshMode mode
      operator := ← fieldOr? usual.operator operator
      baseOperator := ← fieldOr? usual.baseOperator baseOperator
      baseEnabled := ← fieldOr? usual.baseEnabled baseEnabled
      keepFilters := ← fieldOr? usual.keepFilters keep
      distinctCap := ← cap.elim (some usual.distinctCap) (Json.optional? (Json.nat? greatestCount))
      offerRange := ← fieldOr? usual.offerRange range
      dateFormats := ← fieldOr? usual.dateFormats formats
      caseSensitive := ← fieldOr? usual.caseSensitive case
      logErrors := ← fieldOr? usual.logErrors log
      notifyErrors := ← fieldOr? usual.notifyErrors notify }

end FilterSettings

instance : Stored TableSnapshot where
  toJson s := .object [("table", Stored.toJson s.table), ("filters", Stored.toJson s.filters)]
  ofJson? json := do
    let [table, filters] ← json.fields? ["table", "filters"] | none
    return ⟨← field? table, ← field? filters⟩

namespace TableMemory

/-- The text in which a memory is saved: an object of the predicates by the names of the tables. -/
def text (m : TableMemory) : String :=
  (Json.object (m.snapshots.map fun s => (s.table.name, Stored.toJson s.filters))).pretty

/-- Replaces the contents by those of a saved text. -/
def load? (m : TableMemory) (text : String) : Option TableMemory := do
  let .object members ← Json.ofText? text | none
  let snapshots ← members.mapM fun (name, json) => do
    return ⟨⟨name⟩, ← Stored.ofJson? json⟩
  return m.replace snapshots

end TableMemory
end TableFilter
