import TableFilter.Predicate.Expr
import TableFilter.Predicate.Lexer

/-!
# Reading predicates

The grammar of predicates, from the weakest binding to the strongest:

    disjunction ::= conjunction (OR conjunction)*
    conjunction ::= negation (AND negation)*
    negation    ::= NOT negation | comparison
    comparison  ::= operand ((= | <> | < | <= | > | >= | LIKE) operand)?
    operand     ::= literal | column | call | ( disjunction )
    call        ::= Convert ( disjunction , type ) | IsNull ( disjunction , disjunction )

Each rule is a function from the tokens that are left to an expression and the tokens that are left
then. Every function hands a smaller number on to those it calls; `Expr.ofTokens` begins with a
number that six calls for each token cannot use up.
-/

namespace TableFilter

namespace Parser

abbrev Result := Except PredicateError (Expr × List Token)

def expect (token : Token) : List Token → Except PredicateError (List Token)
  | [] => .error .unexpectedEnd
  | t :: rest => if t = token then .ok rest else .error (.unexpectedToken t.shown)

/-- The end of a group, where anything else leaves the group unclosed. -/
def closing : List Token → Except PredicateError (List Token)
  | .closeParen :: rest => .ok rest
  | _ => .error .unclosedParenthesis

/-- The kind that a type name stands for. -/
def kindOfTypeName? (name : String) : Option ValueKind :=
  let dropped := ["System.", "system."].find? fun space => space.toList.isPrefixOf name.toList
  let short := name.toList.drop (dropped.elim 0 String.length)
  match String.ofList (short.map Char.toLower) with
  | "string" => some .text
  | "decimal" | "double" | "single" | "int16" | "int32" | "int64" => some .number
  | "boolean" => some .boolean
  | "datetime" => some .date
  | _ => none

def typeName : List Token → Except PredicateError (ValueKind × List Token)
  | [] => .error .unexpectedEnd
  | .text name :: rest | .word name :: rest =>
    match kindOfTypeName? name with
    | some kind => .ok (kind, rest)
    | none => .error (.unknownType name)
  | t :: _ => .error (.unexpectedToken t.shown)

inductive Call where
  | convert | ifNull
  deriving DecidableEq

def callOfName? (name : String) : Option Call :=
  match String.ofList (name.toList.map Char.toLower) with
  | "convert" => some .convert
  | "isnull" => some .ifNull
  | _ => none

/-- The value of a token that is a literal. -/
def literal? : Token → Option Value
  | .text s => some (.text s)
  | .number d => some (.number d)
  | .date d => some (.date d)
  | .truth b => some (.bool b)
  | .null => some .null
  | _ => none

mutual

def disjunction : Nat → List Token → Result
  | 0, _ => .error .unexpectedEnd
  | n + 1, ts => do
    let (left, rest) ← conjunction n ts
    disjunctionRest n left rest

def disjunctionRest : Nat → Expr → List Token → Result
  | 0, _, _ => .error .unexpectedEnd
  | n + 1, left, .connective .or :: rest => do
    let (right, rest) ← conjunction n rest
    disjunctionRest n (.join .or left right) rest
  | _ + 1, left, ts => .ok (left, ts)

def conjunction : Nat → List Token → Result
  | 0, _ => .error .unexpectedEnd
  | n + 1, ts => do
    let (left, rest) ← negation n ts
    conjunctionRest n left rest

def conjunctionRest : Nat → Expr → List Token → Result
  | 0, _, _ => .error .unexpectedEnd
  | n + 1, left, .connective .and :: rest => do
    let (right, rest) ← negation n rest
    conjunctionRest n (.join .and left right) rest
  | _ + 1, left, ts => .ok (left, ts)

def negation : Nat → List Token → Result
  | 0, _ => .error .unexpectedEnd
  | n + 1, .not :: rest => do
    let (e, rest) ← negation n rest
    return (.not e, rest)
  | n + 1, ts => comparison n ts

def comparison : Nat → List Token → Result
  | 0, _ => .error .unexpectedEnd
  | n + 1, ts => do
    let (left, rest) ← operand n ts
    match rest with
    | .compare op :: rest => do
      let (right, rest) ← operand n rest
      return (.compare op left right, rest)
    | .like :: rest => do
      let (pattern, rest) ← operand n rest
      return (.like left pattern, rest)
    | _ => return (left, rest)

def operand : Nat → List Token → Result
  | 0, _ | _, [] => .error .unexpectedEnd
  | n + 1, .openParen :: rest => do
    let (e, rest) ← disjunction n rest
    return (e, ← closing rest)
  | n + 1, .word name :: .openParen :: rest =>
    match callOfName? name with
    | some .convert => do
      let (e, rest) ← disjunction n rest
      let (kind, rest) ← typeName (← expect .comma rest)
      return (.convert e kind, ← closing rest)
    | some .ifNull => do
      let (e, rest) ← disjunction n rest
      let (fallback, rest) ← disjunction n (← expect .comma rest)
      return (.ifNull e fallback, ← closing rest)
    | none => .error (.unknownFunction name)
  | _ + 1, .column name :: rest | _ + 1, .word name :: rest => .ok (.column name, rest)
  | _ + 1, t :: rest =>
    match literal? t with
    | some v => .ok (.literal v, rest)
    | none => .error (.unexpectedToken t.shown)

end

end Parser

namespace Expr

/-- The expression that a list of tokens forms as a whole. -/
def ofTokens (ts : List Token) : Except PredicateError Expr := do
  match ← Parser.disjunction (6 * ts.length + 6) ts with
  | (e, []) => .ok e
  | (_, t :: _) => .error (.unexpectedToken t.shown)

/-- Reads a predicate. -/
def ofText (s : String) : Except PredicateError Expr := do
  match Text.trimChars s.toList with
  | [] => .error .emptyExpression
  | cs => ofTokens (← Token.ofChars cs)

end Expr
end TableFilter
