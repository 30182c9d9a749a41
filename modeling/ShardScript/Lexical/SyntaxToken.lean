import Mathlib.Data.List.GetD

/-! The tokens of source texts. -/
namespace ShardScript.Lexical

inductive TokenType where
  | unknown | endOfFile | trivia | newKeyword | identifier
  | assignOperator | declareAssignOperator | arrowOperator | lambdaOperator | nullCoalescingOperator
  | rangeOperator | rangeInclusiveOperator
  | addOperator | subOperator | multOperator | divOperator | modOperator | powOperator
  | addAssignOperator | subAssignOperator | multAssignOperator | divAssignOperator | modAssignOperator
  | powAssignOperator
  | incrementOperator | decrementOperator
  | orOperator | andOperator | rightShiftOperator | leftShiftOperator
  | orAssignOperator | andAssignOperator
  | equalsOperator | notEqualsOperator | greaterOperator | greaterOrEqualsOperator | lessOperator
  | lessOrEqualsOperator
  | isOperator | asOperator
  | notOperator
  | nullLiteral | charLiteral | stringLiteral | booleanLiteral | numberLiteral | doubleLiteral | nativeLiteral
  | byteLiteral
  | colon | semicolon | openBrace | closeBrace | openCurl | closeCurl | openSquare | closeSquare | delimeter
  | comma | question
  | publicKeyword | privateKeyword | protectedKeyword | internalKeyword | staticKeyword | asyncKeyword
  | externKeyword | exportKeyword
  | getKeyword | setKeyword | fieldKeyword | indexerKeyword
  | voidKeyword | varKeyword | integerKeyword | doubleKeyword | shortKeyword | longKeyword | byteKeyword
  | nativeIntegerKeyword | charKeyword | stringKeyword | booleanKeyword | delegateKeyword | lambdaKeyword
  | usingKeyword | fromKeyword | importKeyword | constKeyword | valueKeyword
  | methodKeyword | classKeyword | structKeyword | interfaceKeyword | namespaceKeyword | functionKeyword
  | initKeyword | operatorKeyword | enumKeyword
  | forKeyword | whileKeyword | untilKeyword | doKeyword | foreachKeyword | inKeyword
  | ifKeyword | unlessKeyword | elseKeyword | switchKeyword | caseKeyword | defaultKeyword
  | returnKeyword | throwKeyword | breakKeyword | continueKeyword | tryKeyword | catchKeyword | deferKeyword
  | whereKeyword | awaitKeyword
  | fakeSemicolon
  deriving DecidableEq

structure TextLocation where
  fileName : String := ""
  line : Int := 0
  offset : Int := 0
  length : Int := 0
  deriving DecidableEq

/-- A token apart from its number in the order of creation, which only diagnostics print. -/
structure SyntaxToken where
  isMissing : Bool
  type : TokenType
  word : List Char
  location : TextLocation
  deriving DecidableEq

namespace SyntaxToken

def of (type : TokenType) (word : List Char) (location : TextLocation) : SyntaxToken := ⟨false,type,word,location⟩

def endOfFile : SyntaxToken := of .endOfFile [] {}

end SyntaxToken

end ShardScript.Lexical
