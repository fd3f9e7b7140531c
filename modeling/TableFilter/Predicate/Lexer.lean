import TableFilter.Predicate.Error
import TableFilter.Predicate.Token
import TableFilter.Text.Letters

/-!
# Reading tokens

A machine reads the text of a predicate character by character. Its pending state says which token
has been begun and holds what was read of it, the last character first. A character either belongs
to the token that is pending, or ends it and begins the next one. Numbers and words end before the
first character that cannot belong to them, strings at a quote that is not doubled, columns at a
bracket that no backslash precedes, and dates at the next number sign.
-/

namespace TableFilter

namespace Lexer

open Text

inductive Pending where
  | ready
  | less
  | greater
  | column (start : Nat) (name : List Char)
  /-- A backslash was read inside a column reference. -/
  | escape (start : Nat) (name : List Char)
  | string (start : Nat) (text : List Char)
  /-- A quote was read inside a string, which ends it unless another follows. -/
  | quote (start : Nat) (text : List Char)
  | date (start : Nat) (body : List Char)
  | number (start : Nat) (digits : List Char)
  | word (letters : List Char)

abbrev Step := Except PredicateError (List Token × Pending)

def isNumberStart (c : Char) : Bool := c.isDigit || c == '-' || c == '+' || c == '.'

def isNumberPart (c : Char) : Bool := c.isDigit || c == '.'

def isWordStart (c : Char) : Bool := isAlphabetic c || c == '_'

def isWordPart (c : Char) : Bool := isAlphanumeric c || c == '_' || c == '.'

/-- A text that was collected last character first. -/
def collected (cs : List Char) : String := String.ofList cs.reverse

def columnToken (name : List Char) : Except PredicateError Token :=
  if name.isEmpty then .error (.unexpectedToken "[]") else .ok (.column (collected name))

def dateToken (body : List Char) : Except PredicateError Token :=
  match Date.ofPattern? Date.monthFirst.toList (trimChars body.reverse) with
  | some d => .ok (.date d)
  | none => .error (.invalidDate (collected body))

def numberToken (digits : List Char) : Except PredicateError Token :=
  match Decimal.read? (collected digits) with
  | some d => .ok (.number d)
  | none => .error (.invalidNumber (collected digits))

/-- What the character `c` at `position` begins. -/
def begin (position : Nat) (c : Char) : Step :=
  if isBlank c then .ok ([], .ready)
  else match c with
  | '(' => .ok ([.openParen], .ready)
  | ')' => .ok ([.closeParen], .ready)
  | ',' => .ok ([.comma], .ready)
  | '=' => .ok ([.compare .eq], .ready)
  | '<' => .ok ([], .less)
  | '>' => .ok ([], .greater)
  | '[' => .ok ([], .column position [])
  | '\'' => .ok ([], .string position [])
  | '#' => .ok ([], .date position [])
  | _ =>
    if isNumberStart c then .ok ([], .number position [c])
    else if isWordStart c then .ok ([], .word [c])
    else .error (.unexpectedCharacter c position)

/-- The tokens of what is pending when nothing more belongs to it. -/
def close : Pending → Except PredicateError (List Token)
  | .ready => .ok []
  | .less => .ok [.compare .lt]
  | .greater => .ok [.compare .gt]
  | .column start _ | .escape start _ => .error (.unterminatedColumn start)
  | .string start _ => .error (.unterminatedString start)
  | .quote _ text => .ok [.text (collected text)]
  | .date start _ => .error (.unterminatedDate start)
  | .number _ digits => (numberToken digits).map ([·])
  | .word letters => .ok [Token.ofWord letters.reverse]

/-- The state after a character that belongs to what is pending. -/
def absorb? (c : Char) : Pending → Option Step
  | .ready => none
  | .less =>
    if c = '=' then some (.ok ([.compare .le], .ready))
    else if c = '>' then some (.ok ([.compare .ne], .ready))
    else none
  | .greater => if c = '=' then some (.ok ([.compare .ge], .ready)) else none
  | .column start name =>
    if c = '\\' then some (.ok ([], .escape start name))
    else if c = ']' then some ((columnToken name).map fun t => ([t], .ready))
    else some (.ok ([], .column start (c :: name)))
  | .escape start name => some (.ok ([], .column start (c :: name)))
  | .string start text =>
    if c = '\'' then some (.ok ([], .quote start text))
    else some (.ok ([], .string start (c :: text)))
  | .quote start text => if c = '\'' then some (.ok ([], .string start (c :: text))) else none
  | .date start body =>
    if c = '#' then some ((dateToken body).map fun t => ([t], .ready))
    else some (.ok ([], .date start (c :: body)))
  | .number start digits =>
    if isNumberPart c then some (.ok ([], .number start (c :: digits))) else none
  | .word letters => if isWordPart c then some (.ok ([], .word (c :: letters))) else none

def advance (position : Nat) (c : Char) (pending : Pending) : Step :=
  match absorb? c pending with
  | some step => step
  | none => do
    let ended ← close pending
    let (begun, pending) ← begin position c
    return (ended ++ begun, pending)

/-- Reads the rest of a text. The tokens read before are in `tokens`, the last one first. -/
def run (position : Nat) (tokens : List Token) (pending : Pending) :
    List Char → Except PredicateError (List Token)
  | [] => do
    let ended ← close pending
    return (ended.reverse ++ tokens).reverse
  | c :: rest => do
    let (ended, pending) ← advance position c pending
    run (position + c.utf8Size) (ended.reverse ++ tokens) pending rest

end Lexer

/-- The tokens of a text. -/
def Token.ofChars (cs : List Char) : Except PredicateError (List Token) := Lexer.run 0 [] .ready cs

end TableFilter
