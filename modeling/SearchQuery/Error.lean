import SearchQuery.Operator
import SearchQuery.Value.Kind

/-!
# Search errors

What can be wrong with a search. An error is kept as its cause; the wording is a function of the
cause, so that a caller can tell causes apart without reading text.
-/

set_option autoImplicit false

namespace SearchQuery

inductive ParseFault where
  | tooLong (limit : Nat)
  | literalWithoutAttribute
  | missingName
  | missingCode (word : String)
  | unexpectedCharacter (character : Char)
  | invalidNameCharacter
  | missingCodeFor (name : String)
  | missingColon (name code : String)
  | unquotedValue (name : String)
  | unterminatedLiteral
  | trailingInput
  | missingJoin
  | overfullGroup
  | tooDeep (limit : Nat)
  | joinOutsideGroup (join : Join)
  | missingBefore (join : Join)
  | missingAfter (join : Join)
  | unknownJoin (word : String)
  | unexpectedWord (word : String)
  | unbalancedClose
  | unbalancedOpen
  | danglingNot
  | groupWithoutJoin
  | emptyGroup
  | emptyQuery
  /-- A fault that a caller words itself. -/
  | other (reason : String)
deriving DecidableEq, Repr

def ParseFault.reason : ParseFault → String
  | .tooLong limit => "query is longer than " ++ limit.repr ++ " characters"
  | .literalWithoutAttribute => "quoted value without an attribute"
  | .missingName => "missing attribute name"
  | .missingCode word => "missing operator code, expected '" ++ word ++ "|<code>:'"
  | .unexpectedCharacter character => "unexpected character '" ++ character.toString ++ "'"
  | .invalidNameCharacter => "invalid character in attribute name"
  | .missingCodeFor name => "missing operator code for '" ++ name ++ "'"
  | .missingColon name code => "expected ':' after '" ++ name ++ "|" ++ code ++ "'"
  | .unquotedValue name => "value of '" ++ name ++ "' must be enclosed in double quotes"
  | .unterminatedLiteral => "unterminated quoted value"
  | .trailingInput =>
      "unexpected input after a complete expression; join with (… AND …) or (… OR …)"
  | .missingJoin => "missing AND or OR between expressions"
  | .overfullGroup => "a group holds exactly two expressions; add parentheses"
  | .tooDeep limit => "nesting is deeper than " ++ limit.repr ++ " levels"
  | .joinOutsideGroup join => "'" ++ join.keyword ++ "' must be enclosed in parentheses"
  | .missingBefore join => "missing expression before '" ++ join.keyword ++ "'"
  | .missingAfter join => "missing expression after '" ++ join.keyword ++ "'"
  | .unknownJoin word => "unknown join keyword '" ++ word ++ "'"
  | .unexpectedWord word => "unexpected token '" ++ word ++ "'"
  | .unbalancedClose => "unbalanced ')'"
  | .unbalancedOpen => "unbalanced '(' is never closed"
  | .danglingNot => "'!' must be followed by an expression"
  | .groupWithoutJoin => "a group must join two expressions with AND or OR"
  | .emptyGroup => "empty group"
  | .emptyQuery => "empty query"
  | .other reason => reason

inductive PredicateFault where
  | emptyName
  | reservedCharacter (name : String) (character : Char)
  | wrongArity (name : String) (operator : Operator) (given : Arity)
  | noValues (name : String) (operator : Operator)
  | blankValue (name : String)
  | takesNoValue (name : String) (operator : Operator)
  | requiresValue (name : String) (operator : Operator)
  | unsupportedForm (name : String) (operator : Operator)
  | emptyMembership (name : String)
  | emptyParameterCode (parameter : String)
  | malformedParameter (parameter : String)
  | invalidParameterField (field : String)
  | invalidParameterCode (parameter code : String)
deriving DecidableEq, Repr

def PredicateFault.reason : PredicateFault → String
  | .emptyName => "attribute name is empty"
  | .reservedCharacter name character =>
      "attribute name '" ++ name ++ "' contains reserved character '" ++ character.toString ++ "'"
  | .wrongArity name operator given =>
      "operator '" ++ operator.code ++ "' on '" ++ name ++ "' takes " ++ operator.arity.phrase ++
        " but " ++ given.phrase ++ " given"
  | .noValues name operator =>
      "operator '" ++ operator.code ++ "' on '" ++ name ++ "' needs at least one value"
  | .blankValue name => "blank value for attribute '" ++ name ++ "'"
  | .takesNoValue name operator =>
      "operator '" ++ operator.code ++ "' on '" ++ name ++ "' takes no value"
  | .requiresValue name operator =>
      "operator '" ++ operator.code ++ "' on '" ++ name ++ "' requires a value"
  | .unsupportedForm name operator =>
      "operator '" ++ operator.code ++ "' cannot be applied to '" ++ name ++ "' in this form"
  | .emptyMembership name => "membership test on '" ++ name ++ "' has no values"
  | .emptyParameterCode parameter =>
      "parameter '" ++ parameter ++ "' has an empty operator code"
  | .malformedParameter parameter =>
      "malformed search parameter '" ++ parameter ++ "', expected 'field' or 'field[code]'"
  | .invalidParameterField field =>
      "search parameter '" ++ field ++ "' is not a valid attribute name"
  | .invalidParameterCode parameter code =>
      "search parameter '" ++ parameter ++ "' has an invalid operator code '" ++ code ++ "'"

inductive SearchError where
  /-- The text is not a query. The fragment is the piece of the text at the fault. -/
  | parse (position : Nat) (fragment : String) (fault : ParseFault)
  | unknownOperator (code : String)
  | invalidPredicate (fault : PredicateFault)
  | valueCoercion (name literal : String) (target : AttributeType)
deriving DecidableEq, Repr

namespace SearchError

def fragmentLength : Nat := 16

/-- The error for a fault at a position of the text, counted in characters. -/
def located (text : List Char) (position : Nat) (fault : ParseFault) : SearchError :=
  .parse position (String.ofList ((text.drop position).take fragmentLength)) fault

def message : SearchError → String
  | .parse position fragment fault =>
      let place := "Parse error at position " ++ position.repr ++ ": " ++ fault.reason
      if fragment.isEmpty then place else place ++ " (near '" ++ fragment ++ "')"
  | .unknownOperator code => "Unknown operator: '" ++ code ++ "'"
  | .invalidPredicate fault => "Invalid predicate: " ++ fault.reason
  | .valueCoercion name literal target =>
      "Cannot convert value '" ++ literal ++ "' of attribute '" ++ name ++ "' to " ++
        target.describe

end SearchError

end SearchQuery
