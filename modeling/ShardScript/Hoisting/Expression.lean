import ShardScript.Semantic.Expression

/-! The expressions that awaits are hoisted out of, and the variables that the hoisting declares. -/
namespace ShardScript.Hoisting
open Semantic

inductive TypeSymbol where
  | void | any | boolean
  | other (fullName : String)
  deriving DecidableEq

structure VariableSymbol where
  name : String
  type : TypeSymbol
  slotIndex : UInt16
  deriving DecidableEq

inductive Literal where
  | boolean (value : Bool)
  | other (token : SyntaxToken)
  deriving DecidableEq

inductive Expression : ExpressionKind → Type where
  | literalExpression (literal : Literal) : Expression .expression
  | typeExpression (token : SyntaxToken) : Expression .expression
  | lambdaExpression (token : SyntaxToken) : Expression .expression
  | patternExpression (token : SyntaxToken) : Expression .expression
  | variableReference (temporary : VariableSymbol) : Expression .expression
  | awaitExpression (awaitKeywordToken : SyntaxToken) (getResult : Option TypeSymbol)
      (operand : Expression .expression) : Expression .expression
  | binaryExpression (operator : TokenType) (left right : Expression .expression) : Expression .expression
  | unaryExpression (operator : TokenType) (isRightDetermined : Bool) (operand : Expression .expression) :
      Expression .expression
  | ternaryExpression (condition left right : Expression .expression) : Expression .expression
  | castExpression (token : SyntaxToken) (operand : Expression .expression) : Expression .expression
  | rangeExpression (left right : Expression .optional) : Expression .expression
  | collectionExpression (values : Expression .arguments) : Expression .expression
  | objectExpression (newToken : SyntaxToken) (arraySize : Expression .optional)
      (arguments : Expression .arguments) : Expression .expression
  | switchExpression (scrutinee : Expression .expression) (arms : Expression .arms) : Expression .expression
  | memberAccessExpression (identifierToken : SyntaxToken) (previous : Expression .optional) :
      Expression .expression
  | invocationExpression (identifierToken : SyntaxToken) (previous : Expression .optional)
      (arguments : Expression .arguments) : Expression .expression
  | indexatorExpression (identifierToken : SyntaxToken) (previous : Expression .optional)
      (arguments : Expression .arguments) : Expression .expression
  | absent : Expression .optional
  | present (expression : Expression .expression) : Expression .optional
  | noArgument : Expression .arguments
  | argument (first : Expression .expression) (rest : Expression .arguments) : Expression .arguments
  | noArm : Expression .arms
  | arm (pattern : Expression .optional) (value : Expression .expression) (rest : Expression .arms) :
      Expression .arms

def isShortCircuitOrConditionalOperator : TokenType → Bool
  | .andOperator | .orOperator | .nullCoalescingOperator => true
  | _ => false

/-- What `AwaitContainsVisitor` finds: it does not go into receivers. -/
def containsAwait : {kind : ExpressionKind} → Expression kind → Bool
  | _,.literalExpression _ | _,.typeExpression _ | _,.lambdaExpression _ | _,.patternExpression _
  | _,.variableReference _ | _,.memberAccessExpression _ _ | _,.absent | _,.noArgument | _,.noArm => false
  | _,.awaitExpression _ _ _ => true
  | _,.binaryExpression _ left right => containsAwait left || containsAwait right
  | _,.unaryExpression _ _ operand | _,.castExpression _ operand | _,.present operand => containsAwait operand
  | _,.ternaryExpression condition left right => containsAwait condition || (containsAwait left || containsAwait right)
  | _,.rangeExpression left right => containsAwait left || containsAwait right
  | _,.collectionExpression values => containsAwait values
  | _,.objectExpression _ arraySize arguments => containsAwait arraySize || containsAwait arguments
  | _,.switchExpression scrutinee arms => containsAwait scrutinee || containsAwait arms
  | _,.invocationExpression _ _ arguments | _,.indexatorExpression _ _ arguments => containsAwait arguments
  | _,.argument first rest => containsAwait first || containsAwait rest
  | _,.arm pattern value rest => containsAwait pattern || (containsAwait value || containsAwait rest)

/-- Statements that the hoisting makes, in the order of their execution. A branch without an `else` clause has no
other statements. -/
inductive Prefix where
  | nil
  | declare (temporary : VariableSymbol) (value : Expression .expression) (rest : Prefix)
  | assign (temporary : VariableSymbol) (value : Expression .expression) (rest : Prefix)
  | branch (negated : Bool) (condition : VariableSymbol) (taken other : Prefix) (rest : Prefix)

namespace Prefix

def append : Prefix → Prefix → Prefix
  | nil,behind => behind
  | declare temporary value rest,behind => .declare temporary value (rest.append behind)
  | assign temporary value rest,behind => .assign temporary value (rest.append behind)
  | branch negated condition taken other rest,behind => .branch negated condition taken other (rest.append behind)

instance : Append Prefix := ⟨append⟩

end Prefix

end ShardScript.Hoisting
