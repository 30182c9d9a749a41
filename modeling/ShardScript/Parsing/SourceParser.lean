import ShardScript.Parsing.SyntaxFacts

/-! How `SourceParser` reads types and expressions. -/
namespace ShardScript.Parsing

open Lexical (SyntaxToken TokenType)

section Trees

inductive TypeSyntax where
  | null
  | predefined (token : SyntaxToken)
  | identifierName (identifier : SyntaxToken)
  | nullable (underlayingType : TypeSyntax)
  | array (underlayingType : TypeSyntax)
  | generic (underlayingType : TypeSyntax) (arguments : List TypeSyntax)
  | qualifiedName (previous : TypeSyntax) (identifier : SyntaxToken)
  | delegate (number : Nat)

inductive ExpressionSyntax where
  | null
  | literal (token : SyntaxToken)
  | unary (operatorToken : SyntaxToken) (isRight : Bool) (expression : ExpressionSyntax)
  | awaited (awaitToken : SyntaxToken) (expression : ExpressionSyntax)
  | binary (operatorToken : SyntaxToken) (left right : ExpressionSyntax)
  | range (operatorToken : SyntaxToken) (isInclusive : Bool) (left right : ExpressionSyntax)
  | cast (operatorToken : SyntaxToken) (expression : ExpressionSyntax) (targetType : TypeSyntax)
  | isType (operatorToken : SyntaxToken) (expression : ExpressionSyntax) (targetType : TypeSyntax)
  | memberAccess (identifier : SyntaxToken) (previous : ExpressionSyntax)
  | invokation (identifier : SyntaxToken) (previous : ExpressionSyntax) (typeArguments : Option (List TypeSyntax))
      (arguments : Option (List ExpressionSyntax))
  | indexator (previous : ExpressionSyntax) (arguments : List ExpressionSyntax)
  | type (type : TypeSyntax)
  | collection (values : List ExpressionSyntax)
  | object (type : TypeSyntax) (arguments : List ExpressionSyntax)
  | arrayCreation (type : TypeSyntax) (size : ExpressionSyntax)
  | ifExpression (condition thenExpression elseExpression : ExpressionSyntax)
  | other (number : Nat)

def ExpressionSyntax.isLinked : ExpressionSyntax → Bool
  | .memberAccess _ _ | .invokation _ _ _ _ | .indexator _ _ => true
  | _ => false

end Trees

def maxExpressionDepth : Nat := 64

def maxExpressionOperators : Nat := 64

def maxLinkedExpressionDepth : Nat := 64

structure SourceParser where
  tokens : List SyntaxToken
  diagnostics : List (SyntaxToken × String) := []
  expressionDepth : Nat := 0
  operatorsInExpression : Nat := 0
  linkedExpressionDepth : Nat := 0
  deriving DecidableEq

namespace SourceParser

section Reader

variable (parser : SourceParser)

def canConsume : Bool := !parser.tokens.isEmpty

def current : SyntaxToken := parser.tokens.headD .endOfFile

def kind : TokenType := parser.current.type

def consume : SourceParser := { parser with tokens := parser.tokens.tail }

def peek (index : Nat) (parser : SourceParser) : SyntaxToken := parser.tokens.getD (index + 1) .endOfFile

def putBackToken (token : SyntaxToken) (parser : SourceParser) : SourceParser :=
  { parser with tokens := token :: parser.tokens }

def report (token : SyntaxToken) (message : String) (parser : SourceParser) : SourceParser :=
  { parser with diagnostics := parser.diagnostics ++ [(token,message)] }

def trySynchronize (expectedTokens : List TokenType) : (maxSkips : Nat) → SourceParser → Bool × SourceParser
  | 0,parser => (false,parser)
  | maxSkips + 1,parser =>
      if !parser.canConsume then (false,parser)
      else if parser.kind ∈ expectedTokens then (true,parser)
      else if isSynchronizationToken parser.kind then (false,parser)
      else trySynchronize expectedTokens maxSkips parser.consume

def expect (kind : TokenType) (message : String) (parser : SourceParser) : SyntaxToken × SourceParser :=
  if !parser.canConsume then (⟨true,kind,[],{}⟩,parser.report .endOfFile message)
  else
    let current := parser.current
    if current.type = kind then (current,parser.consume)
    else
      match trySynchronize [kind] 5 (parser.report current message) with
      | (true,parser) => (parser.current,parser.consume)
      | (false,parser) => (⟨true,kind,[],current.location⟩,parser)

def tryMatch (types : List TokenType) (errorMessage : String) (maxSkips : Nat) (parser : SourceParser) : Bool × SourceParser :=
  if !parser.canConsume then (false,parser)
  else if parser.kind ∈ types then (true,parser)
  else trySynchronize types maxSkips (parser.report parser.current errorMessage)

end Reader

section Types

-- `ReadDelegateType`, which also reads parameters
variable (readDelegateType : Bool → SourceParser → TypeSyntax × SourceParser)

def splitRightShift (parser : SourceParser) : SourceParser :=
  parser.consume.putBackToken (.of .greaterOperator ['>'] parser.current.location)

mutual

def readType : Nat → Bool → SourceParser → Option (TypeSyntax × SourceParser)
  | 0,_,_ => none
  | fuel + 1,allowArraySyntax,parser =>
      let current := parser.current
      if isPredefinedType current.type then readModifiedType fuel (.predefined current) allowArraySyntax parser.consume
      else if current.type = .delegateKeyword then some (readDelegateType allowArraySyntax parser)
      else if current.type = .identifier then
        let (identifier,parser) := parser.expect .identifier "Expected identifier"
        readModifiedType fuel (.identifierName identifier) allowArraySyntax parser
      else some (.null,parser.report current "Unexpected token in type syntax")

@[grind] def readModifiedType : Nat → TypeSyntax → Bool → SourceParser → Option (TypeSyntax × SourceParser)
  | 0,_,_,_ => none
  | fuel + 1,type,allowArraySyntax,parser =>
      match parser.kind with
      | .question => some (.nullable type,parser.consume)
      | .openSquare =>
          if allowArraySyntax then
            let (_,parser) := parser.expect .openSquare "Expected '['"
            let (_,parser) := parser.expect .closeSquare "Expected ']'"
            readModifiedType fuel (.array type) allowArraySyntax parser
          else some (type,parser)
      | .lessOperator =>
          (readTypeArgumentsList fuel parser).bind fun (arguments,parser) =>
            readModifiedType fuel (.generic type arguments) allowArraySyntax parser
      | .delimeter =>
          let (identifier,parser) := parser.consume.expect .identifier "Expected identifier"
          readModifiedType fuel (.qualifiedName type identifier) allowArraySyntax parser
      | _ => some (type,parser)

def readTypeArgumentsList : Nat → SourceParser → Option (List TypeSyntax × SourceParser)
  | 0,_ => none
  | fuel + 1,parser =>
      let (_,parser) := parser.expect .lessOperator "Expected '<' token"
      if parser.kind = .greaterOperator then
        some ([],(parser.report parser.current "Generic list cannot be empty").consume)
      else if parser.kind = .rightShiftOperator then some ([],parser.splitRightShift)
      else readTypeArguments fuel parser

@[grind] def readTypeArguments : Nat → SourceParser → Option (List TypeSyntax × SourceParser)
  | 0,_ => none
  | fuel + 1,parser =>
      if !parser.canConsume then some ([],parser)
      else
        (readType fuel true parser).bind fun (type,parser) =>
          if parser.kind = .rightShiftOperator then some ([type],parser.splitRightShift)
          else
            match parser.tryMatch [.comma,.greaterOperator] "Expected ',' or '>'" 3 with
            | (false,parser) => some ([type],parser)
            | (true,parser) =>
                if parser.kind = .greaterOperator then some ([type],parser.consume)
                else (readTypeArguments fuel parser.consume).map fun (types,parser) => (type :: types,parser)

end

end Types

section LookAhead

@[grind] def isGenericInvocation : (depth : Int) → List SyntaxToken → Bool
  | _,[] => false
  | depth,token :: tokens =>
      let closed := (tokens.headD .endOfFile).type = .openCurl
      match token.type with
      | .endOfFile | .unknown => false
      | .lessOperator => isGenericInvocation (depth + 1) tokens
      | .greaterOperator => if depth - 1 = 0 then closed else isGenericInvocation (depth - 1) tokens
      | .rightShiftOperator => if depth - 2 = 0 then closed else isGenericInvocation (depth - 2) tokens
      | _ => isGenericInvocation depth tokens

@[grind] def isGenericTypeReceiver : (depth : Int) → List SyntaxToken → Bool
  | _,[] => false
  | depth,token :: tokens =>
      match token.type with
      | .endOfFile | .unknown => false
      | .lessOperator => isGenericTypeReceiver (depth + 1) tokens
      | .greaterOperator =>
          if depth - 1 = 0 then (tokens.headD .endOfFile).type = .delimeter else isGenericTypeReceiver (depth - 1) tokens
      | _ => isGenericTypeReceiver depth tokens

end LookAhead

section Expressions

/-- The readers of what an expression holds besides expressions: the parameters and statements of lambdas, the patterns of
switches, and the parameters of delegate types. -/
structure Readers where
  readLambdaExpression : (asyncModifier : Option SyntaxToken) → SourceParser → ExpressionSyntax × SourceParser
  readSwitchExpression : SourceParser → ExpressionSyntax × SourceParser
  readDelegateType : (allowArraySyntax : Bool) → SourceParser → TypeSyntax × SourceParser

def fallback (type : TokenType) (parser : SourceParser) : ExpressionSyntax :=
  .literal ⟨true,type,['n','u','l','l'],parser.current.location⟩

def skipRest (parser : SourceParser) : SourceParser :=
  { parser with tokens := parser.tokens.dropWhile fun token =>
      token.type ∉ [.semicolon,.closeBrace,.closeCurl,.closeSquare,.comma] }

def readIdentifier (isFirst : Bool) (parser : SourceParser) : SyntaxToken × SourceParser :=
  if isFirst then
    let names : List TokenType := [.fieldKeyword,.identifier,.valueKeyword,.stringKeyword,.charKeyword,.nativeIntegerKeyword,
      .integerKeyword,.booleanKeyword,.byteKeyword,.doubleKeyword]
    (parser.current,(if parser.kind ∈ names then parser
      else parser.report parser.current "Expected identifier, primitive name or 'field' keyword").consume)
  else (parser.expect .delimeter "Expected '.' token").2.expect .identifier "Expected identifier"

variable (readers : Readers)

mutual

@[grind] def readExpression : Nat → (bindingPower : Nat) → (resetOperatorCount : Bool) → SourceParser →
    Option (ExpressionSyntax × SourceParser)
  | 0,_,_,_ => none
  | fuel + 1,bindingPower,resetOperatorCount,parser =>
      let outer := parser.expressionDepth
      let operators := if resetOperatorCount then 0 else parser.operatorsInExpression
      let parser := { parser with expressionDepth := outer + 1,operatorsInExpression := operators }
      if outer + 1 > maxExpressionDepth then
        some (parser.fallback .nullLiteral,{ (parser.report parser.current "Expression is too deeply nested").consume with
          expressionDepth := outer })
      else
        ( readNullDenotation fuel parser).bind fun (left,parser) =>
          (readOperators fuel bindingPower left parser).map fun (expression,parser) =>
            (expression,{ parser with expressionDepth := outer })

@[grind]
def readOperators : Nat → (bindingPower : Nat) → ExpressionSyntax → SourceParser → Option (ExpressionSyntax × SourceParser)
  | 0,_,_,_ => none
  | fuel + 1,bindingPower,left,parser =>
      let precedence := getOperatorPrecendence parser.kind
      if !parser.canConsume || precedence == 0 || decide (precedence ≤ bindingPower) then some (left,parser)
      else
        let parser := { parser with operatorsInExpression := parser.operatorsInExpression + 1 }
        if parser.operatorsInExpression > maxExpressionOperators then
          some (left,(parser.report parser.current
            "Expression contains too many operators; reduce the number of operators or split it into multiple statements").skipRest)
        else
          ( readLeftDenotation fuel left parser).bind fun (left,parser) => readOperators fuel bindingPower left parser

@[grind] def readNullDenotation : Nat → SourceParser → Option (ExpressionSyntax × SourceParser)
  | 0,_ => none
  | fuel + 1,parser =>
      let current := parser.current
      match current.type with
      | .subOperator | .addOperator | .notOperator | .incrementOperator | .decrementOperator | .throwKeyword =>
          ( readNullDenotation fuel parser.consume).map fun (expression,parser) => (.unary current false expression,parser)
      | .nullLiteral | .booleanLiteral | .numberLiteral | .doubleLiteral | .stringLiteral | .charLiteral =>
          some (.literal current,parser.consume)
      | .openCurl =>
          (readExpression fuel 0 false parser.consume).bind fun (expression,parser) =>
            let (_,parser) := parser.expect .closeCurl "Expected ')' token"
            if parser.kind = .delimeter then readLinkedExpressionNode fuel expression false parser
            else some (expression,parser)
      | .openSquare => readCollectionExpression fuel parser
      | .stringKeyword | .charKeyword | .nativeIntegerKeyword | .integerKeyword | .booleanKeyword | .byteKeyword
      | .doubleKeyword | .identifier | .fieldKeyword | .valueKeyword => readLinkedExpressionNode fuel .null true parser
      | .asyncKeyword =>
          if (parser.peek 0).type = .lambdaKeyword then some (readers.readLambdaExpression (some current) parser.consume)
          else some (parser.fallback .nullLiteral,(parser.report current "Unexpected 'async' keyword").consume)
      | .lambdaKeyword => some (readers.readLambdaExpression none parser)
      | .newKeyword => readObjectExpression fuel parser
      | .awaitKeyword =>
          ( readNullDenotation fuel parser.consume).map fun (expression,parser) => (.awaited current expression,parser)
      | .ifKeyword => readIfExpression fuel parser
      | .switchKeyword => some (readers.readSwitchExpression parser)
      | .endOfFile => some (parser.fallback .nullLiteral,parser.report current "Unexpected file end in expression")
      | _ => some (parser.fallback .unknown,(parser.report current "Unknown expression token").consume)

@[grind] def readLeftDenotation : Nat → ExpressionSyntax → SourceParser → Option (ExpressionSyntax × SourceParser)
  | 0,_,_ => none
  | fuel + 1,left,parser =>
      let current := parser.current
      let precedence := getOperatorPrecendence current.type
      if !parser.canConsume then some (left,parser)
      else
        match current.type with
        | .openCurl =>
            (readArgumentsList fuel parser).map fun (arguments,parser) =>
              (.invokation (.of .unknown [] {}) left none (some arguments),parser)
        | .delimeter => readLinkedExpressionNode fuel left false parser
        | .rangeOperator | .rangeInclusiveOperator =>
            (readExpression fuel precedence false parser.consume).map fun (right,parser) =>
              (.range current (current.type == .rangeInclusiveOperator) left right,parser)
        | .asOperator =>
            (readType readers.readDelegateType fuel true parser.consume).map fun (targetType,parser) =>
              (.cast current left targetType,parser)
        | .isOperator =>
            (readType readers.readDelegateType fuel true parser.consume).map fun (targetType,parser) =>
              (.isType current left targetType,parser)
        | type =>
            if isRightUnaryOperator type then
              if precedence = 0 then some (left,parser) else some (.unary current true left,parser.consume)
            else if isBinaryOperator type || type == .assignOperator then
              (readExpression fuel precedence false parser.consume).map fun (right,parser) =>
                (.binary current left right,parser)
            else some (left,(parser.report current "Unknown token in expression's left denotation").consume)

@[grind] def readLinkedExpressionNode : Nat → (previous : ExpressionSyntax) → (isFirst : Bool) → SourceParser →
    Option (ExpressionSyntax × SourceParser)
  | 0,_,_,_ => none
  | fuel + 1,previous,isFirst,parser =>
      let outer := parser.linkedExpressionDepth
      (if outer + 1 > maxLinkedExpressionDepth then
        some (if previous.isLinked then previous else .null,parser.report parser.current "Member access chain is too long")
      else if !parser.canConsume then some (.null,parser)
      else
        let (identifier,parser) := readIdentifier isFirst { parser with linkedExpressionDepth := outer + 1 }
        readBehindIdentifier fuel identifier previous parser).map fun (node,parser) =>
          (node,{ parser with linkedExpressionDepth := outer })

@[grind] def readBehindIdentifier : Nat → (identifier : SyntaxToken) → (previous : ExpressionSyntax) → SourceParser →
    Option (ExpressionSyntax × SourceParser)
  | 0,_,_,_ => none
  | fuel + 1,identifier,previous,parser =>
      if !parser.canConsume then some (.memberAccess identifier previous,parser)
      else
        match parser.kind with
        | .openCurl =>
            (readArgumentsList fuel parser).bind fun (arguments,parser) =>
              readLinks fuel (.invokation identifier previous none (some arguments)) parser
        | .lessOperator =>
            if isGenericInvocation 1 parser.tokens.tail then
              (readTypeArgumentsList readers.readDelegateType fuel parser).bind fun (typeArguments,parser) =>
                if parser.kind = .openCurl then
                  (readArgumentsList fuel parser).bind fun (arguments,parser) =>
                    readLinks fuel (.invokation identifier previous (some typeArguments) (some arguments)) parser
                else readLinks fuel (.invokation identifier previous (some typeArguments) none) parser
            else if isGenericTypeReceiver 1 parser.tokens.tail then
              (readTypeArgumentsList readers.readDelegateType fuel parser).bind fun (typeArguments,parser) =>
                readLinkedExpressionNode fuel (.type (.generic (.identifierName identifier) typeArguments)) false parser
            else some (.memberAccess identifier previous,parser)
        | .delimeter => readLinkedExpressionNode fuel (.memberAccess identifier previous) false parser
        | .openSquare =>
            (readIndexatorExpressionNode fuel (.memberAccess identifier previous) parser).bind fun (node,parser) =>
              readLinks fuel node parser
        | type =>
            if isOperator type || isPunctuation type then some (.memberAccess identifier previous,parser)
            else readLinks fuel .null parser

def readLinks : Nat → ExpressionSyntax → SourceParser → Option (ExpressionSyntax × SourceParser)
  | 0,_,_ => none
  | fuel + 1,node,parser =>
      if !parser.canConsume then some (node,parser)
      else
        (if parser.kind = .openSquare then readIndexatorExpressionNode fuel node parser else some (node,parser)).bind
          fun (node,parser) =>
            if parser.kind = .delimeter then readLinkedExpressionNode fuel node false parser else some (node,parser)

def readIndexatorExpressionNode : Nat → ExpressionSyntax → SourceParser → Option (ExpressionSyntax × SourceParser)
  | 0,_,_ => none
  | fuel + 1,lastNode,parser =>
      (readIndexatorList fuel parser).bind fun (arguments,parser) =>
        if parser.canConsume && parser.kind == .openSquare then
          readIndexatorExpressionNode fuel (.indexator lastNode arguments) parser
        else some (.indexator lastNode arguments,parser)

def readArgumentsList : Nat → SourceParser → Option (List ExpressionSyntax × SourceParser)
  | 0,_ => none
  | fuel + 1,parser =>
      let (_,parser) := parser.expect .openCurl "Expected '(' token"
      if parser.kind = .closeCurl then some ([],parser.consume) else readArguments fuel .closeCurl "Expected ',' or ')'" parser

def readIndexatorList : Nat → SourceParser → Option (List ExpressionSyntax × SourceParser)
  | 0,_ => none
  | fuel + 1,parser =>
      let (_,parser) := parser.expect .openSquare "Exprected '[' token"
      if parser.kind = .closeSquare then some ([],parser.consume)
      else readArguments fuel .closeSquare "Expected ',' or ']'" parser

/-- The loop of `ReadArgumentsList`, of `ReadIndexatorList` and of `ReadCollectionExpression` -/
def readArguments : Nat → (closer : TokenType) → (message : String) → SourceParser →
    Option (List ExpressionSyntax × SourceParser)
  | 0,_,_,_ => none
  | fuel + 1,closer,message,parser =>
      if !parser.canConsume then some ([],parser)
      else
        (readExpression fuel 0 true parser).bind fun (expression,parser) =>
          match parser.tryMatch [.comma,closer] message 3 with
          | (false,parser) => some ([expression],parser)
          | (true,parser) =>
              if parser.kind = closer then some ([expression],parser.consume)
              else
                (readArguments fuel closer message parser.consume).map fun (expressions,parser) =>
                  (expression :: expressions,parser)

def readCollectionExpression : Nat → SourceParser → Option (ExpressionSyntax × SourceParser)
  | 0,_ => none
  | fuel + 1,parser =>
      let (_,parser) := parser.expect .openSquare "Expected '[' token"
      if parser.kind = .closeSquare then some (.collection [],parser.consume)
      else
        (readArguments fuel .closeSquare "Expected ',' or ']'" parser).map fun (values,parser) =>
          match values with
          | [.range operatorToken isInclusive left right] => (.range operatorToken isInclusive left right,parser)
          | values => (.collection values,parser)

def readObjectExpression : Nat → SourceParser → Option (ExpressionSyntax × SourceParser)
  | 0,_ => none
  | fuel + 1,parser =>
      let (_,parser) := parser.expect .newKeyword "Expected 'new' keyword"
      (readType readers.readDelegateType fuel false parser).bind fun (type,parser) =>
        if parser.canConsume && parser.kind == .openSquare then
          let (_,parser) := parser.expect .openSquare "Expected '['"
          (readExpression fuel 0 true parser).map fun (size,parser) =>
            (.arrayCreation type size,(parser.expect .closeSquare "Expected ']'").2)
        else (readArgumentsList fuel parser).map fun (arguments,parser) => (.object type arguments,parser)

def readIfExpression : Nat → SourceParser → Option (ExpressionSyntax × SourceParser)
  | 0,_ => none
  | fuel + 1,parser =>
      let (_,parser) := parser.expect .ifKeyword "Expected 'if' keyword"
      (readExpression fuel 0 true parser).bind fun (condition,parser) =>
        (readExpression fuel 0 true parser).bind fun (thenExpression,parser) =>
          if parser.kind = .elseKeyword then
            (readExpression fuel 0 true parser.consume).map fun (elseExpression,parser) =>
              (.ifExpression condition thenExpression elseExpression,parser)
          else some (.ifExpression condition thenExpression .null,parser)

end

end Expressions

end SourceParser

end ShardScript.Parsing
