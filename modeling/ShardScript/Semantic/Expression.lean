import ShardScript.Syntax.Statement

/-! Bound expressions: what a name was resolved to is part of the tree. -/
namespace ShardScript.Semantic
open Syntax

abbrev SyntaxToken := Nat

inductive TokenType where
  | assignOperator | addAssignOperator | subAssignOperator | multAssignOperator | divAssignOperator
  | modAssignOperator | powAssignOperator | orAssignOperator | andAssignOperator
  | incrementOperator | decrementOperator | notOperator
  | addOperator | subOperator | multOperator | divOperator | modOperator | powOperator
  | orOperator | andOperator | rightShiftOperator | leftShiftOperator
  | equalsOperator | notEqualsOperator | greaterOperator | greaterOrEqualsOperator
  | lessOperator | lessOrEqualsOperator | nullCoalescingOperator
  deriving DecidableEq

namespace TokenType

def isAssignmentOperator : TokenType → Bool
  | assignOperator | addAssignOperator | subAssignOperator | multAssignOperator | divAssignOperator
  | modAssignOperator | powAssignOperator | orAssignOperator | andAssignOperator => true
  | _ => false

def isIncrementDecrementOperator : TokenType → Bool
  | incrementOperator | decrementOperator => true
  | _ => false

end TokenType

structure MethodSymbol where
  identifier : Nat
  isAsync : Bool := false
  deriving DecidableEq

structure FieldSymbol where
  identifier : Nat
  isStatic : Bool := false
  deriving DecidableEq

structure PropertySymbol where
  getter : Option MethodSymbol
  setter : Option MethodSymbol
  deriving DecidableEq

inductive Member where
  | type
  | localVariable
  | parameter (isThis : Bool)
  | field (field : FieldSymbol)
  | backingField (field : FieldSymbol)
  | property (property : PropertySymbol)
  | method
  deriving DecidableEq

/-- The flag that the binder leaves on the node. It is cleared for every field that is found by its
name, static or not, and for every property. -/
def Member.isStaticContext : Member → Bool
  | type => true
  | backingField own => own.isStatic
  | _ => false

inductive ExpressionKind where
  | expression | optional | arguments | arms

inductive Expression (Lambda : Type) : ExpressionKind → Type where
  | literalExpression : Expression Lambda .expression
  | binaryExpression (operator : TokenType) (left right : Expression Lambda .expression) :
      Expression Lambda .expression
  | unaryExpression (operator : TokenType) (operand : Expression Lambda .expression) :
      Expression Lambda .expression
  | awaitExpression (operand : Expression Lambda .expression) : Expression Lambda .expression
  | memberAccessExpression (identifierToken : SyntaxToken) (previous : Expression Lambda .optional)
      (member : Member) : Expression Lambda .expression
  /-- A delegate is invoked if there is no callee. -/
  | invocationExpression (identifierToken : SyntaxToken) (previous : Expression Lambda .optional)
      (callee : Option MethodSymbol) (arguments : Expression Lambda .arguments) :
      Expression Lambda .expression
  | indexatorExpression (identifierToken : SyntaxToken) (previous : Expression Lambda .optional)
      (property : PropertySymbol) (arguments : Expression Lambda .arguments) :
      Expression Lambda .expression
  | objectExpression (newToken : SyntaxToken) (constructor : Option MethodSymbol)
      (arraySize : Expression Lambda .optional) (arguments : Expression Lambda .arguments) :
      Expression Lambda .expression
  | collectionExpression (values : Expression Lambda .arguments) : Expression Lambda .expression
  | rangeExpression (left right : Expression Lambda .optional) : Expression Lambda .expression
  | lambdaExpression (lambda : Lambda) : Expression Lambda .expression
  | ternaryExpression (condition left right : Expression Lambda .expression) :
      Expression Lambda .expression
  | switchExpression (scrutinee : Expression Lambda .expression) (arms : Expression Lambda .arms) :
      Expression Lambda .expression
  | castExpression (operand : Expression Lambda .expression) : Expression Lambda .expression
  | absent : Expression Lambda .optional
  | present (expression : Expression Lambda .expression) : Expression Lambda .optional
  | noArgument : Expression Lambda .arguments
  | argument (first : Expression Lambda .expression) (rest : Expression Lambda .arguments) :
      Expression Lambda .arguments
  | noArm : Expression Lambda .arms
  | arm (pattern : Expression Lambda .optional) (value : Expression Lambda .expression)
      (rest : Expression Lambda .arms) : Expression Lambda .arms

namespace Expression

variable {Lambda : Type}

def isThisExpression : Expression Lambda .optional → Bool
  | present (memberAccessExpression _ absent (.parameter isThis)) => isThis
  | _ => false

def isThisReceiver : Expression Lambda .optional → Bool
  | absent => true
  | previous => previous.isThisExpression

end Expression

structure LambdaExpression (Expression TypeSymbol : Type) where
  symbol : MethodSymbol
  body : Statement Expression TypeSymbol .block

def Lambda (TypeSymbol : Type) : Nat → Type
  | 0 => Empty
  | level + 1 => LambdaExpression (Expression (Lambda TypeSymbol level) .expression) TypeSymbol

abbrev Code (TypeSymbol : Type) (level : Nat) (kind : StatementKind) :=
  Statement (Expression (Lambda TypeSymbol level) .expression) TypeSymbol kind

end ShardScript.Semantic
