/-!
# Errors of predicates

What can be wrong with the text of a predicate. Positions count the bytes of the text before the
place of the error.
-/

namespace TableFilter

inductive PredicateError where
  | emptyExpression
  | unexpectedCharacter (c : Char) (position : Nat)
  | unterminatedString (position : Nat)
  | unterminatedColumn (position : Nat)
  | unterminatedDate (position : Nat)
  | invalidNumber (text : String)
  | invalidDate (text : String)
  | unexpectedToken (token : String)
  | unexpectedEnd
  | unclosedParenthesis
  | unknownFunction (name : String)
  | unknownType (name : String)
  | unknownColumn (name : String)
  deriving DecidableEq, Repr

namespace PredicateError

def message : PredicateError → String
  | emptyExpression => "predicate is empty"
  | unexpectedCharacter c position =>
    "unexpected character '" ++ c.toString ++ "' at position " ++ toString position
  | unterminatedString position =>
    "unterminated string literal starting at position " ++ toString position
  | unterminatedColumn position =>
    "unterminated column reference starting at position " ++ toString position
  | unterminatedDate position =>
    "unterminated date literal starting at position " ++ toString position
  | invalidNumber text => "invalid number: " ++ text
  | invalidDate text => "invalid date literal: #" ++ text ++ "#"
  | unexpectedToken token => "unexpected token: " ++ token
  | unexpectedEnd => "unexpected end of expression"
  | unclosedParenthesis => "unclosed parenthesis"
  | unknownFunction name => "unknown function: " ++ name
  | unknownType name => "unknown type name: " ++ name
  | unknownColumn name => "unknown column: " ++ name

end PredicateError
end TableFilter
