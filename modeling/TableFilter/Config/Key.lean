import TableFilter.Config.Setting
import TableFilter.Text.Digits

/-!
# Keys that lead into a tree of settings

A key at the top of a source may name a place further down: names of members after points, and
positions of items in brackets, which count from the end if they are negative. What is missing on
the way is created, and what is of another form is replaced. A key that is not of this form is the
name of a member as it stands.
-/

namespace TableFilter

/-- A step further down. -/
inductive KeyStep where
  | member (name : String)
  | item (position : Int)

structure Key where
  root : String
  steps : List KeyStep := []

namespace Key

open Text

def isNamePart (c : Char) : Bool :=
  c.isAlphanum || c == ' ' || c == '_' || c == '-'

/-- Reads a name that has at least one character. -/
def readName? (cs : List Char) : Option (String × List Char) :=
  let name := cs.takeWhile isNamePart
  if name.isEmpty then none else some (String.ofList name, cs.drop name.length)

/-- Reads a position without a plus sign. -/
def readPosition? (cs : List Char) : Option Int := do
  let n ← if cs.head? = some '+' then none else readInt? cs
  if fits64 n then some n else none

/-- Reads the steps after the name. -/
def readSteps? : Nat → List Char → Option (List KeyStep)
  | _, [] => some []
  | n + 1, '.' :: rest => do
    let (name, rest) ← readName? rest
    return .member name :: (← readSteps? n rest)
  | n + 1, '[' :: rest => do
    let position ← readPosition? (rest.takeWhile (· ≠ ']'))
    match rest.dropWhile (· ≠ ']') with
    | _ :: rest => return .item position :: (← readSteps? n rest)
    | [] => none
  | _, _ => none

def ofPath? (s : String) : Option Key := do
  let (root, rest) ← readName? s.toList
  return ⟨root, ← readSteps? rest.length rest⟩

def read (s : String) : Key := (ofPath? s).getD ⟨s, []⟩

end Key

namespace Setting

/-- The items of a list. Anything else has none. -/
def items : Setting → List Setting
  | list items => items
  | _ => []

/-- A list with a change at a position, filled up with null as far as needed. -/
def modifyItem (s : Setting) (position : Int) (f : Setting → Setting) : Setting :=
  let i := if 0 ≤ position then position.toNat else s.items.length - position.natAbs
  let filled := s.items ++ List.replicate (i + 1 - s.items.length) null
  list (filled.modify i f)

/-- What stands under a key, null if nothing does. -/
def underOrNull (root : Setting) (key : String) : Setting :=
  (root.members.lookup (Text.lower key)).getD null

/-- Puts a value at the end of some steps. -/
def putAfter (value : Setting) : List KeyStep → Setting → Setting
  | [], _ => value
  | [.member name], root => root.put name value
  | .member name :: steps, root =>
    root.withMember name (putAfter value steps (root.underOrNull name))
  | .item position :: steps, root => root.modifyItem position (putAfter value steps)

/-- Puts a value at the place that a key names. -/
def putAt (root : Setting) (key : Key) (value : Setting) : Setting :=
  putAfter value (.member key.root :: key.steps) root

/-- Puts the members of a source over what is there. -/
def overlay (root : Setting) (source : List (String × Setting)) : Setting :=
  source.foldl (fun root m => root.putAt (.read m.1) m.2) root

end Setting
end TableFilter
