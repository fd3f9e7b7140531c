import TableFilter.Config.Setting
import TableFilter.Json.Text
import TableFilter.Text.Letters

/-!
# Settings in relaxed JSON

Settings files are JSON5: there may be comments, a comma at the end of a list or a table, names
without quotes, single quotes, numbers in hexadecimal, and points at either end of a number.
Numbers with neither point nor exponent are whole and have 64 bits, hexadecimal ones 32. If a name
is repeated in a table, its last value counts.
-/

namespace TableFilter.Json5

open Text

def isLineEnd (c : Char) : Bool := c == '\n' || c == '\r' || c == '\u2028' || c == '\u2029'

def isGap (c : Char) : Bool := c == '\ufeff' || (isBlank c && c != '\u0085')

/-- What a gap consists of at some place. -/
inductive Gap where
  | blanks
  | line
  | block

/-- Skips blanks and comments. A comment that is not closed is an error. -/
def skip? : Gap → List Char → Option (List Char)
  | .blanks, '/' :: '/' :: rest => skip? .line rest
  | .blanks, '/' :: '*' :: rest => skip? .block rest
  | .blanks, c :: rest => if isGap c then skip? .blanks rest else some (c :: rest)
  | .blanks, [] => some []
  | .line, c :: rest => if isLineEnd c then skip? .blanks rest else skip? .line rest
  | .line, [] => some []
  | .block, '*' :: '/' :: rest => skip? .blanks rest
  | .block, _ :: rest => skip? .block rest
  | .block, [] => none

/-- The character that a letter stands for after a backslash, which is most often itself. Digits
but zero stand for nothing. -/
def escaped? : Char → Option Char
  | 'b' => some '\x08'
  | 'f' => some '\x0c'
  | 'n' => some '\n'
  | 'r' => some '\r'
  | 't' => some '\t'
  | 'v' => some '\x0b'
  | '0' => some '\x00'
  | c => if c.isDigit || c == 'x' || c == 'u' then none else some c

/-- Reads the code units of a text after its opening quote. A backslash at the end of a line
continues the text on the next one. -/
def readUnits (quote : Char) : List Char → Option (List Nat × List Char)
  | [] => none
  | '\\' :: '\r' :: '\n' :: rest => readUnits quote rest
  | '\\' :: 'x' :: a :: b :: rest => do
    let unit := 16 * (← Json.hexValue? a) + (← Json.hexValue? b)
    let (units, rest) ← readUnits quote rest
    return (unit :: units, rest)
  | '\\' :: 'u' :: a :: b :: c :: d :: rest => do
    let unit ← Json.hexValue4? a b c d
    let (units, rest) ← readUnits quote rest
    return (unit :: units, rest)
  | '\\' :: c :: rest => do
    if isLineEnd c then readUnits quote rest
    else
      let c ← escaped? c
      let (units, rest) ← readUnits quote rest
      return (c.toNat :: units, rest)
  | c :: rest => do
    if c = quote then return ([], rest)
    if isLineEnd c || c == '\\' then none
    let (units, rest) ← readUnits quote rest
    return (c.toNat :: units, rest)

def textOf? (units : List Nat) : Option String := (Json.textOfUnits units).map String.ofList

def isNameStart (c : Char) : Bool := isAlphabetic c || c == '$' || c == '_'

def isNamePart (c : Char) : Bool :=
  isNameStart c || isNumeral c || c == '\u200c' || c == '\u200d'

/-- Reads the code units of a name. -/
def readName : List Char → Option (List Nat × List Char)
  | '\\' :: 'u' :: a :: b :: c :: d :: rest => do
    let unit ← Json.hexValue4? a b c d
    let (units, rest) ← readName rest
    return (unit :: units, rest)
  | c :: rest =>
    if isNamePart c then (readName rest).map fun (units, rest) => (c.toNat :: units, rest)
    else some ([], c :: rest)
  | [] => some ([], [])

def readKey : List Char → Option (String × List Char)
  | [] => none
  | c :: rest => do
    let (units, rest) ←
      if c = '"' ∨ c = '\'' then readUnits c rest
      else if isNameStart c || c == '\\' then readName (c :: rest)
      else none
    return (← textOf? units, rest)

def natOfHex (cs : List Char) : Nat :=
  cs.foldl (fun n c => 16 * n + (Json.hexValue? c).getD 0) 0

/-- Reads digits after the mark of hexadecimal notation. -/
def readHex (cs : List Char) : Option (Setting × List Char) :=
  let digits := cs.takeWhile fun c => (Json.hexValue? c).isSome
  if digits.isEmpty || pow2 32 ≤ natOfHex digits then none
  else some (.whole (natOfHex digits), cs.drop digits.length)

/-- The digits before the point, which do not begin with a zero unless it stands alone. -/
def readWhole : List Char → List Char × List Char
  | '0' :: rest => (['0'], rest)
  | cs => (cs.takeWhile Char.isDigit, cs.dropWhile Char.isDigit)

/-- A point with the digits after it. -/
def readPlaces : List Char → List Char × List Char
  | '.' :: rest => ('.' :: rest.takeWhile Char.isDigit, rest.dropWhile Char.isDigit)
  | cs => ([], cs)

/-- Reads a number without its sign. -/
def readUnsigned (sign : List Char) (cs : List Char) : Option (Setting × List Char) :=
  if let some rest := Json.dropWord? "Infinity" cs then
    some (.fraction (.infinite (sign = ['-'])), rest)
  else if let some rest := Json.dropWord? "NaN" cs then some (.fraction .nan, rest)
  else do
    let (whole, rest) := readWhole cs
    let (places, rest) := readPlaces rest
    let (exponent, rest) := (Json.readExponent rest).getD ([], rest)
    if whole.isEmpty && places.length ≤ 1 then none
    let written := sign ++ whole ++ places ++ exponent
    if places.isEmpty && exponent.isEmpty then
      let n ← readInt? written
      if fits64 n then some (.whole n, rest) else none
    else
      let x ← Fraction.read? .double (String.ofList written)
      return (.fraction x, rest)

def readNumber : List Char → Option (Setting × List Char)
  | '0' :: 'x' :: rest | '0' :: 'X' :: rest => readHex rest
  | '-' :: rest => readUnsigned ['-'] rest
  | '+' :: rest => readUnsigned ['+'] rest
  | cs => readUnsigned [] cs

mutual

def readValue : Nat → List Char → Option (Setting × List Char)
  | 0, _ => none
  | n + 1, cs => do
    match ← skip? .blanks cs with
    | '{' :: rest => do
      let (members, rest) ← readMembers n rest
      return (.table (members.foldl (fun kept m => Setting.setMember m.1 m.2 kept) []), rest)
    | '[' :: rest => do
      let (items, rest) ← readItems n rest
      return (.list items, rest)
    | '"' :: rest => do
      let (units, rest) ← readUnits '"' rest
      return (.text (← textOf? units), rest)
    | '\'' :: rest => do
      let (units, rest) ← readUnits '\'' rest
      return (.text (← textOf? units), rest)
    | 'n' :: rest => return (.null, ← Json.dropWord? "ull" rest)
    | 't' :: rest => return (.bool true, ← Json.dropWord? "rue" rest)
    | 'f' :: rest => return (.bool false, ← Json.dropWord? "alse" rest)
    | cs => readNumber cs

/-- Reads the items of a list up to its end. -/
def readItems : Nat → List Char → Option (List Setting × List Char)
  | 0, _ => none
  | n + 1, cs => do
    match ← skip? .blanks cs with
    | ']' :: rest => return ([], rest)
    | cs => do
      let (item, rest) ← readValue n cs
      match ← skip? .blanks rest with
      | ',' :: rest => do
        let (items, rest) ← readItems n rest
        return (item :: items, rest)
      | ']' :: rest => return ([item], rest)
      | _ => none

/-- Reads the members of a table up to its end. -/
def readMembers : Nat → List Char → Option (List (String × Setting) × List Char)
  | 0, _ => none
  | n + 1, cs => do
    match ← skip? .blanks cs with
    | '}' :: rest => return ([], rest)
    | cs => do
      let (name, rest) ← readKey cs
      match ← skip? .blanks rest with
      | ':' :: rest => do
        let (value, rest) ← readValue n rest
        match ← skip? .blanks rest with
        | ',' :: rest => do
          let (members, rest) ← readMembers n rest
          return ((name, value) :: members, rest)
        | '}' :: rest => return ([(name, value)], rest)
        | _ => none
      | _ => none

end

/-- Reads a text that is one value. Every step of the reader uses up a character or goes from a
container to its first item. -/
def ofText? (s : String) : Option Setting := do
  let (value, rest) ← readValue (2 * s.length + 2) s.toList
  if (← skip? .blanks rest).isEmpty then some value else none

end TableFilter.Json5
