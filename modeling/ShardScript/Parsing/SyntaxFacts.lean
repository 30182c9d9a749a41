import ShardScript.Lexical.SyntaxToken

/-! What `SyntaxFacts` tells of the kinds of tokens. -/
namespace ShardScript.Parsing

open Lexical (TokenType)

def getOperatorPrecendence : TokenType → Nat
  | .openCurl => 12
  | .incrementOperator | .decrementOperator | .awaitKeyword => 11
  | .powOperator => 10
  | .multOperator | .divOperator | .modOperator => 9
  | .addOperator | .subOperator => 8
  | .leftShiftOperator | .rightShiftOperator => 7
  | .rangeOperator | .rangeInclusiveOperator => 7
  | .lessOperator | .lessOrEqualsOperator | .greaterOperator | .greaterOrEqualsOperator => 6
  | .equalsOperator | .notEqualsOperator | .isOperator | .asOperator => 5
  | .andOperator => 4
  | .orOperator => 3
  | .nullCoalescingOperator => 2
  | .question => 2
  | .assignOperator | .addAssignOperator | .subAssignOperator | .multAssignOperator | .divAssignOperator | .modAssignOperator
  | .powAssignOperator | .orAssignOperator | .andAssignOperator => 1
  | _ => 0

def isBinaryArithmeticOperator : TokenType → Bool
  | .addOperator | .subOperator | .multOperator | .divOperator | .modOperator | .powOperator | .addAssignOperator
  | .subAssignOperator | .multAssignOperator | .divAssignOperator | .modAssignOperator | .powAssignOperator => true
  | _ => false

def isBinaryBooleanOperator : TokenType → Bool
  | .lessOperator | .lessOrEqualsOperator | .greaterOperator | .greaterOrEqualsOperator | .equalsOperator | .notEqualsOperator
  | .andOperator | .orOperator => true
  | _ => false

def isBinaryBitOperator : TokenType → Bool
  | .leftShiftOperator | .rightShiftOperator => true
  | _ => false

variable (type : TokenType)

def isBinaryOperator : Bool :=
  isBinaryArithmeticOperator type || isBinaryBooleanOperator type || isBinaryBitOperator type ||
    type == .nullCoalescingOperator || type == .rangeOperator || type == .rangeInclusiveOperator || type == .isOperator ||
    type == .asOperator

def isRightUnaryArithmeticOperator : TokenType → Bool
  | .incrementOperator | .decrementOperator => true
  | _ => false

def isRightUnaryBooleanOperator : TokenType → Bool
  | .notOperator => true
  | _ => false

def isRightUnaryOperator : Bool :=
  isRightUnaryArithmeticOperator type || isRightUnaryBooleanOperator type

def isLeftUnaryArithmeticOperator : TokenType → Bool
  | .subOperator | .addOperator | .incrementOperator | .decrementOperator => true
  | _ => false

def isLeftUnaryBooleanOperator (_ : TokenType) : Bool := false

def isLeftUnaryOperator : Bool := isLeftUnaryArithmeticOperator type || isLeftUnaryBooleanOperator type

def isUnaryOperator : Bool := isLeftUnaryOperator type || isRightUnaryOperator type

def isOperator : Bool := type == .assignOperator || isUnaryOperator type || isBinaryOperator type

def isPredefinedType : TokenType → Bool
  | .voidKeyword | .varKeyword | .integerKeyword | .doubleKeyword | .byteKeyword | .nativeIntegerKeyword | .charKeyword
  | .stringKeyword | .booleanKeyword => true
  | _ => false

def isPunctuation : TokenType → Bool
  | .openBrace | .closeBrace | .openCurl | .closeCurl | .openSquare | .closeSquare | .question | .delimeter | .comma | .colon
  | .semicolon => true
  | _ => false

def isSynchronizationToken : TokenType → Bool
  | .semicolon | .openBrace | .closeBrace | .openCurl | .closeCurl | .namespaceKeyword | .classKeyword | .structKeyword
  | .endOfFile => true
  | _ => false

theorem isBinaryOperator_table {type : TokenType} (binary : isBinaryOperator type = true) :
    getOperatorPrecendence type ≠ 0 ∧ isOperator type = true := by
  refine ⟨?_,by simp [isOperator,binary]⟩
  revert binary
  cases type <;> decide

end ShardScript.Parsing
