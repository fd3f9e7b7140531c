import TableFilter.Json.Basic
import TableFilter.Text.Digits

/-!
# JSON as text

Reading is strict: no comments, no commas at the end, nothing after the value. Writing is compact,
or puts every member and item on a line of its own, with two blanks for each level.
-/

namespace TableFilter.Json

open Text

def isSpace (c : Char) : Bool := c == ' ' || c == '\t' || c == '\n' || c == '\r'

def skipSpaces (cs : List Char) : List Char := cs.dropWhile isSpace

def hexValue? (c : Char) : Option Nat :=
  if c.isDigit then some (digitValue c)
  else if 'a' ≤ c ∧ c ≤ 'f' then some (c.toNat - 'a'.toNat + 10)
  else if 'A' ≤ c ∧ c ≤ 'F' then some (c.toNat - 'A'.toNat + 10)
  else none

def hexValue4? (a b c d : Char) : Option Nat := do
  return ((16 * (← hexValue? a) + (← hexValue? b)) * 16 + (← hexValue? c)) * 16 + (← hexValue? d)

def isHighSurrogate (n : Nat) : Bool := 0xD800 ≤ n && n < 0xDC00

def isLowSurrogate (n : Nat) : Bool := 0xDC00 ≤ n && n < 0xE000

def ofSurrogates (high low : Nat) : Char :=
  Char.ofNat (0x10000 + (high - 0xD800) * 0x400 + (low - 0xDC00))

def escaped? : Char → Option Char
  | '"' => some '"'
  | '\\' => some '\\'
  | '/' => some '/'
  | 'b' => some '\x08'
  | 'f' => some '\x0c'
  | 'n' => some '\n'
  | 'r' => some '\r'
  | 't' => some '\t'
  | _ => none

/-- Reads the code units of a string after its opening quote. -/
def readUnits : List Char → Option (List Nat × List Char)
  | [] => none
  | '"' :: rest => some ([], rest)
  | '\\' :: 'u' :: a :: b :: c :: d :: rest => do
    let unit ← hexValue4? a b c d
    let (units, rest) ← readUnits rest
    return (unit :: units, rest)
  | '\\' :: c :: rest => do
    let c ← escaped? c
    let (units, rest) ← readUnits rest
    return (c.toNat :: units, rest)
  | c :: rest => do
    if c.toNat < 0x20 then none
    let (units, rest) ← readUnits rest
    return (c.toNat :: units, rest)

/-- The text of code units, unless half of a surrogate pair stands alone. -/
def textOfUnits : List Nat → Option (List Char)
  | [] => some []
  | [unit] => if isHighSurrogate unit || isLowSurrogate unit then none else some [Char.ofNat unit]
  | unit :: next :: rest =>
    if isHighSurrogate unit && isLowSurrogate next then
      (textOfUnits rest).map (ofSurrogates unit next :: ·)
    else if isHighSurrogate unit || isLowSurrogate unit then none
    else (textOfUnits (next :: rest)).map (Char.ofNat unit :: ·)

/-- Reads a string after its opening quote. A broken string has no text. -/
def readString (cs : List Char) : Option (Option String × List Char) := do
  let (units, rest) ← readUnits cs
  return ((textOfUnits units).map String.ofList, rest)

def digitsThen (cs : List Char) : Option (List Char × List Char) :=
  let digits := cs.takeWhile Char.isDigit
  if digits.isEmpty then none else some (digits, cs.drop digits.length)

def readWhole : List Char → Option (List Char × List Char)
  | '0' :: rest => some (['0'], rest)
  | cs => digitsThen cs

def readPlaces : List Char → Option (List Char × List Char)
  | '.' :: rest => (digitsThen rest).map fun (digits, rest) => ('.' :: digits, rest)
  | cs => some ([], cs)

def readExponent : List Char → Option (List Char × List Char)
  | e :: sign :: rest =>
    if e = 'e' ∨ e = 'E' then
      if sign = '+' ∨ sign = '-' then
        (digitsThen rest).map fun (digits, rest) => (e :: sign :: digits, rest)
      else (digitsThen (sign :: rest)).map fun (digits, rest) => (e :: digits, rest)
    else some ([], e :: sign :: rest)
  | [e] => if e = 'e' ∨ e = 'E' then none else some ([], [e])
  | [] => some ([], [])

def readNumber (cs : List Char) : Option (Json × List Char) := do
  let (sign, rest) := match cs with
    | '-' :: rest => (['-'], rest)
    | _ => ([], cs)
  let (whole, rest) ← readWhole rest
  let (places, rest) ← readPlaces rest
  let (exponent, rest) ← readExponent rest
  return (number (String.ofList (sign ++ whole ++ places ++ exponent)), rest)

def dropWord? (word : String) (cs : List Char) : Option (List Char) :=
  if word.toList.isPrefixOf cs then some (cs.drop word.length) else none

mutual

def readValue : Nat → List Char → Option (Json × List Char)
  | 0, _ => none
  | n + 1, cs => match skipSpaces cs with
    | '{' :: rest => match skipSpaces rest with
      | '}' :: rest => some (object [], rest)
      | rest => (readMembers n rest).map fun (members, rest) => (object members, rest)
    | '[' :: rest => match skipSpaces rest with
      | ']' :: rest => some (array [], rest)
      | rest => (readItems n rest).map fun (items, rest) => (array items, rest)
    | '"' :: rest => (readString rest).map fun (s, rest) =>
      (s.elim brokenString string, rest)
    | 'n' :: rest => (dropWord? "ull" rest).map fun rest => (null, rest)
    | 't' :: rest => (dropWord? "rue" rest).map fun rest => (bool true, rest)
    | 'f' :: rest => (dropWord? "alse" rest).map fun rest => (bool false, rest)
    | cs => readNumber cs

def readItems : Nat → List Char → Option (List Json × List Char)
  | 0, _ => none
  | n + 1, cs => do
    let (item, rest) ← readValue n cs
    match skipSpaces rest with
    | ',' :: rest => do
      let (items, rest) ← readItems n rest
      return (item :: items, rest)
    | ']' :: rest => return ([item], rest)
    | _ => none

def readMembers : Nat → List Char → Option (List (String × Json) × List Char)
  | 0, _ => none
  | n + 1, cs => match skipSpaces cs with
    | '"' :: rest => do
      let (name, rest) ← readString rest
      let name ← name
      match skipSpaces rest with
      | ':' :: rest => do
        let (value, rest) ← readValue n rest
        match skipSpaces rest with
        | ',' :: rest => do
          let (members, rest) ← readMembers n rest
          return ((name, value) :: members, rest)
        | '}' :: rest => return ([(name, value)], rest)
        | _ => none
      | _ => none
    | _ => none

end

/-- Reads a text that is one value. Every step of the reader uses up a character or goes from a
container to its first item. -/
def ofText? (s : String) : Option Json := do
  let (json, rest) ← readValue (2 * s.length + 2) s.toList
  if (skipSpaces rest).isEmpty then some json else none

def hexDigit (n : Nat) : Char := Nat.digitChar (n % 16)

def escapeChar (c : Char) : List Char :=
  match c with
  | '"' => ['\\', '"']
  | '\\' => ['\\', '\\']
  | '\x08' => ['\\', 'b']
  | '\x0c' => ['\\', 'f']
  | '\n' => ['\\', 'n']
  | '\r' => ['\\', 'r']
  | '\t' => ['\\', 't']
  | c => if c.toNat < 0x20 then ['\\', 'u', '0', '0', hexDigit (c.toNat / 16), hexDigit c.toNat]
      else [c]

def quoted (s : String) : String := "\"" ++ String.ofList (s.toList.flatMap escapeChar) ++ "\""

/-- The start of a new line, or nothing in compact text. -/
def newLine : Option Nat → String
  | none => ""
  | some level => "\n" ++ String.ofList (List.replicate (2 * level) ' ')

/-- Items between brackets. `level` is the level of the items, if they are put on lines. -/
def between (opening closing : String) (level : Option Nat) (items : List String) : String :=
  match items with
  | [] => opening ++ closing
  | items => opening ++ newLine level ++ ("," ++ newLine level).intercalate items ++
      newLine (level.map (· - 1)) ++ closing

mutual

def write (level : Option Nat) : Json → String
  | null => "null"
  | bool b => if b then "true" else "false"
  | number text => text
  | string s => quoted s
  | brokenString => quoted "\ufffd"
  | array items => between "[" "]" (level.map (· + 1)) (writeItems (level.map (· + 1)) items)
  | object members =>
    between "\x7b" "\x7d" (level.map (· + 1)) (writeMembers (level.map (· + 1)) members)

def writeItems (level : Option Nat) : List Json → List String
  | [] => []
  | item :: items => write level item :: writeItems level items

def writeMembers (level : Option Nat) : List (String × Json) → List String
  | [] => []
  | (name, value) :: members =>
    (quoted name ++ (if level.isSome then ": " else ":") ++ write level value) ::
      writeMembers level members

end

def compact (json : Json) : String := json.write none

def pretty (json : Json) : String := json.write (some 0)

end TableFilter.Json
