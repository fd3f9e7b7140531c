import TableFilter.Text.CaseFold

/-!
# Regular expressions

The regular expressions without groups, alternatives, classes and counts: flags, anchors, single
characters, points, and stars behind characters and points. A text is read into its items; a text
with any other operator is not read. Matching goes through the items from the last one and keeps,
for every suffix of the text, whether the items match some run at its front. The text is searched,
so that only anchors tie a match to the ends of the text.
-/

namespace TableFilter

open Text

namespace Regex

structure Flags where
  ignoreCase : Bool := false
  /-- A point stands for line feeds, too. -/
  dotAll : Bool := false
  deriving DecidableEq, Repr

/-- What a single character of a text is held against. -/
inductive Single where
  | any
  | only (c : Char)
  deriving DecidableEq, Repr

inductive Item where
  | start
  | finish
  | one (s : Single)
  | many (s : Single)
  deriving DecidableEq, Repr

end Regex

structure Regex where
  flags : Regex.Flags
  items : List Regex.Item
  deriving DecidableEq, Repr

namespace Regex

/-- The characters that are operators outside of classes. -/
def operators : List Char := ['\\', '.', '+', '*', '?', '(', ')', '|', '[', '{', '^', '$']

/-- The characters that stand for themselves behind a backslash. -/
def metas : List Char := operators ++ [']', '}', '#', '&', '-', '~']

/-- A text for a regular expression that matches just the given characters. -/
def escape (cs : List Char) : List Char :=
  cs.flatMap fun c => if c ∈ metas then ['\\', c] else [c]

/-- Reads items. `last` is the single character or point that was read last, if a star may follow
it. -/
def readItems (last : Option Single) : List Char → Option (List Item)
  | [] => some (last.map .one).toList
  | '*' :: cs => last.bind fun s => (readItems none cs).map (.many s :: ·)
  | '^' :: cs => (readItems none cs).map ((last.map .one).toList ++ .start :: ·)
  | '$' :: cs => (readItems none cs).map ((last.map .one).toList ++ .finish :: ·)
  | '.' :: cs => (readItems (some .any) cs).map ((last.map .one).toList ++ ·)
  | '\\' :: c :: cs =>
    if c ∈ metas then (readItems (some (.only c)) cs).map ((last.map .one).toList ++ ·) else none
  | c :: cs =>
    if c ∈ operators then none
    else (readItems (some (.only c)) cs).map ((last.map .one).toList ++ ·)

/-- Reads the flags up to the parenthesis that closes them. -/
def readFlags (flags : Flags) : List Char → Option (Flags × List Char)
  | 'i' :: cs => readFlags { flags with ignoreCase := true } cs
  | 's' :: cs => readFlags { flags with dotAll := true } cs
  | ')' :: cs => some (flags, cs)
  | _ => none

def ofText? (text : String) : Option Regex :=
  match text.toList with
  | '(' :: '?' :: cs => do
    let (flags, rest) ← readFlags {} cs
    return ⟨flags, ← readItems none rest⟩
  | cs => do return ⟨{}, ← readItems none cs⟩

def Single.admits (flags : Flags) : Single → Char → Bool
  | any, c => flags.dotAll || c != '\n'
  | only p, c => sameChar (!flags.ignoreCase) p c

/-- For each suffix whether a run of admitted characters leads from it to a marked one. -/
def reach (admits : Char → Bool) : List Char → List Bool → List Bool
  | c :: text, b :: marks =>
    let later := reach admits text marks
    (b || admits c && later.head?.getD false) :: later
  | _, marks => marks

/-- For each suffix of the text whether the items match a run at its front. The text is all of it
or, if it is not `whole`, comes behind other characters. -/
def marks (flags : Flags) (whole : Bool) (text : List Char) : List Item → List Bool
  | [] => text.map (fun _ => true) ++ [true]
  | .start :: items =>
    match marks flags whole text items with
    | [] => []
    | b :: later => (whole && b) :: later.map fun _ => false
  | .finish :: items =>
    text.map (fun _ => false) ++ [(marks flags whole text items).getLast?.getD false]
  | .one s :: items =>
    text.zipWith (fun c b => s.admits flags c && b) (marks flags whole text items).tail ++ [false]
  | .many s :: items => reach (s.admits flags) text (marks flags whole text items)

/-- Whether the regular expression matches somewhere in a text. -/
def isMatch (r : Regex) (text : String) : Bool :=
  (marks r.flags true text.toList r.items).contains true

end Regex
end TableFilter
