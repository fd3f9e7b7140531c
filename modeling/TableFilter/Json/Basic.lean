/-!
# JSON values

Numbers keep their text, so that reading decides nothing about their range, and objects keep their
members in the order of the text, repeated names included. A record is read from an object, where
members with other names are ignored, or from an array that lists its fields in order; an
alternative is read from its name alone or from an object whose only member has that name.
-/

namespace TableFilter

inductive Json where
  | null
  | bool (b : Bool)
  | number (text : String)
  | string (s : String)
  /-- A string with half of a surrogate pair, which is no text. -/
  | brokenString
  | array (items : List Json)
  | object (members : List (String × Json))
  deriving Inhabited

namespace Json

def ofNat (n : Nat) : Json := number (toString n)

def ofInt (n : Int) : Json := number (toString n)

def ofOption {α : Type} (encode : α → Json) : Option α → Json
  | some a => encode a
  | none => null

def ofList {α : Type} (encode : α → Json) (as : List α) : Json := array (as.map encode)

def text? : Json → Option String
  | string s => some s
  | _ => none

def bool? : Json → Option Bool
  | bool b => some b
  | _ => none

/-- A natural number of at most `greatest`, written with digits alone. -/
def nat? (greatest : Nat) : Json → Option Nat
  | number text => text.toNat?.filter (· ≤ greatest)
  | _ => none

def list? {α : Type} (decode : Json → Option α) : Json → Option (List α)
  | array items => items.mapM decode
  | _ => none

/-- Null or a value. -/
def optional? {α : Type} (decode : Json → Option α) : Json → Option (Option α)
  | null => some none
  | json => (decode json).map some

/-- The values of the members with a name. -/
def valuesOf (name : String) (members : List (String × Json)) : List Json :=
  members.filterMap fun (n, v) => if n = name then some v else none

def atMostOne {α : Type} : List α → Option (Option α)
  | [] => some none
  | [a] => some (some a)
  | _ => none

/-- The fields of a record, as far as they are present. -/
def fields? (names : List String) : Json → Option (List (Option Json))
  | object members => names.mapM fun name => atMostOne (valuesOf name members)
  | array items =>
    if items.length ≤ names.length then
      some (items.map some ++ List.replicate (names.length - items.length) none)
    else none
  | _ => none

/-- The name and the content of an alternative. -/
def alternative? : Json → Option (String × Option Json)
  | string s => some (s, none)
  | object [(name, content)] => some (name, some content)
  | _ => none

/-- The name of an alternative that has no content. -/
def name? (json : Json) : Option String :=
  match json.alternative? with
  | some (name, none) | some (name, some null) => some name
  | _ => none

end Json
end TableFilter
