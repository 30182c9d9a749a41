import ShardScript.Hoisting.Expression
import ShardScript.Library.Attempt

/-! Hoisting the awaits out of expressions, and spilling conditions into statements. -/
namespace ShardScript.Hoisting
open Library Semantic

structure Report where
  token : Option SyntaxToken
  message : String
  deriving DecidableEq

structure HoistState where
  counter : Nat
  locals : Nat
  reports : List Report

abbrev Hoist (α : Type) := Attempt HoistState α

structure HoistResult (kind : ExpressionKind) where
  expression : Expression kind
  before : Prefix := .nil

def report (token : Option SyntaxToken) (message : String) {α : Type} : Hoist α :=
  fun state => (none,{ state with reports := state.reports ++ [⟨token,message⟩] })

def addVariable (name : String) (type : TypeSymbol) : Hoist VariableSymbol := fun state =>
  (some ⟨name,type,state.locals.toUInt16⟩,{ state with locals := state.locals + 1 })

def declareTemporaryVariable (baseName : String) (type : TypeSymbol) : Hoist VariableSymbol := fun state =>
  addVariable (baseName ++ toString state.counter) type { state with counter := state.counter + 1 }

def condTmp : String := "<a>__condTmp" ++ toString 0

def resultType (getResult : Option TypeSymbol) : TypeSymbol := getResult.getD .any

@[grind] def hoistExpression : {kind : ExpressionKind} → Expression kind → (allowTopLevelAwait conditional : Bool) →
    Hoist (HoistResult kind)
  | _,.literalExpression literal,_,_ => pure ⟨.literalExpression literal,.nil⟩
  | _,.typeExpression token,_,_ => pure ⟨.typeExpression token,.nil⟩
  | _,.lambdaExpression token,_,_ => pure ⟨.lambdaExpression token,.nil⟩
  | _,.patternExpression _,_,_ =>
      report none "Await expression inside this expression form is not yet supported in async methods"
  | _,.variableReference temporary,_,_ => pure ⟨.variableReference temporary,.nil⟩
  | _,.awaitExpression token getResult operand,allowTopLevelAwait,conditional => do
      let awaitable ← hoistExpression operand false false
      if allowTopLevelAwait then
        pure ⟨.awaitExpression token getResult awaitable.expression,awaitable.before⟩
      else if conditional then
        report token "Await expression inside a conditional branch is not yet supported in async methods"
      else if resultType getResult = .void then
        report token "A void await cannot be used as a sub-expression"
      else
        let temporary ← addVariable condTmp (resultType getResult)
        -- The declaration comes in front of what was hoisted out of its own operand.
        pure ⟨.variableReference temporary,
          .declare temporary (.awaitExpression token getResult awaitable.expression) .nil ++ awaitable.before⟩
  | _,.binaryExpression operator left right,_,conditional => do
      let left ← hoistExpression left false conditional
      let right ← hoistExpression right false (conditional || isShortCircuitOrConditionalOperator operator)
      pure ⟨.binaryExpression operator left.expression right.expression,left.before ++ right.before⟩
  | _,.unaryExpression operator isRightDetermined operand,_,conditional => do
      let inner ← hoistExpression operand false conditional
      pure ⟨.unaryExpression operator isRightDetermined inner.expression,inner.before⟩
  | _,.ternaryExpression condition left right,_,conditional => do
      let condition ← hoistExpression condition false conditional
      let left ← hoistExpression left false true
      let right ← hoistExpression right false true
      pure ⟨.ternaryExpression condition.expression left.expression right.expression,
        condition.before ++ left.before ++ right.before⟩
  | _,.castExpression token operand,_,conditional => do
      let inner ← hoistExpression operand false conditional
      pure ⟨.castExpression token inner.expression,inner.before⟩
  | _,.rangeExpression left right,_,conditional => do
      let left ← hoistExpression left false conditional
      let right ← hoistExpression right false conditional
      pure ⟨.rangeExpression left.expression right.expression,left.before ++ right.before⟩
  | _,.collectionExpression values,_,conditional => do
      let values ← hoistExpression values false conditional
      pure ⟨.collectionExpression values.expression,values.before⟩
  | _,.objectExpression token arraySize arguments,_,conditional => do
      let arraySize ← hoistExpression arraySize false conditional
      let arguments ← hoistExpression arguments false conditional
      pure ⟨.objectExpression token arraySize.expression arguments.expression,arraySize.before ++ arguments.before⟩
  | _,.switchExpression scrutinee arms,_,conditional => do
      let switchValue ← hoistExpression scrutinee false conditional
      let arms ← hoistExpression arms false true
      pure ⟨.switchExpression switchValue.expression arms.expression,switchValue.before ++ arms.before⟩
  | _,.memberAccessExpression token previous,_,conditional => do
      let previous ← hoistExpression previous false conditional
      pure ⟨.memberAccessExpression token previous.expression,previous.before⟩
  | _,.invocationExpression token previous arguments,_,conditional => do
      let previous ← hoistExpression previous false conditional
      let arguments ← hoistExpression arguments false conditional
      pure ⟨.invocationExpression token previous.expression arguments.expression,previous.before ++ arguments.before⟩
  | _,.indexatorExpression token previous arguments,_,conditional => do
      let previous ← hoistExpression previous false conditional
      let arguments ← hoistExpression arguments false conditional
      pure ⟨.indexatorExpression token previous.expression arguments.expression,previous.before ++ arguments.before⟩
  | _,.absent,_,_ => pure ⟨.absent,.nil⟩
  | _,.present expression,_,conditional => do
      let inner ← hoistExpression expression false conditional
      pure ⟨.present inner.expression,inner.before⟩
  | _,.noArgument,_,_ => pure ⟨.noArgument,.nil⟩
  | _,.argument first rest,_,conditional => do
      let item ← hoistExpression first false conditional
      let rest ← hoistExpression rest false conditional
      pure ⟨.argument item.expression rest.expression,item.before ++ rest.before⟩
  | _,.noArm,_,_ => pure ⟨.noArm,.nil⟩
  | _,.arm pattern value rest,_,conditional => do
      let pattern ← hoistExpression pattern false true
      let value ← hoistExpression value false true
      let rest ← hoistExpression rest false conditional
      pure ⟨.arm pattern.expression value.expression rest.expression,pattern.before ++ value.before ++ rest.before⟩

def hoistSubExpression (expression : Expression .expression) (conditional : Bool) : Hoist (HoistResult .expression) :=
  hoistExpression expression true conditional

def spillExpressionInto : Expression .expression → VariableSymbol → Hoist Prefix
  | .awaitExpression token getResult operand,destination => do
      let awaitable ← hoistExpression operand false false
      let temporary ← declareTemporaryVariable "<a>__awaitTmp" (resultType getResult)
      pure (awaitable.before ++ .declare temporary (.awaitExpression token getResult awaitable.expression)
        (.assign destination (.variableReference temporary) .nil))
  | .binaryExpression operator left right,destination =>
      if operator = .andOperator ∨ operator = .orOperator then do
        let first ← spillExpressionInto left destination
        let second ← spillExpressionInto right destination
        pure (first ++ .branch (operator = .orOperator) destination second .nil .nil)
      else do
        let left ← hoistExpression left false false
        let right ← hoistExpression right false false
        pure (left.before ++ right.before ++
          .assign destination (.binaryExpression operator left.expression right.expression) .nil)
  | .unaryExpression operator isRightDetermined operand,destination => do
      let inner ← spillExpressionInto operand destination
      pure (inner ++ .assign destination (.unaryExpression operator isRightDetermined (.variableReference destination)) .nil)
  | .ternaryExpression condition left right,destination => do
      let conditionVariable ← declareTemporaryVariable "<a>__cond" .boolean
      let tested ← spillExpressionInto condition conditionVariable
      let whenTrue ← spillExpressionInto left destination
      let whenFalse ← spillExpressionInto right destination
      pure (.declare conditionVariable (.literalExpression (.boolean false)) tested ++
        .branch false conditionVariable whenTrue whenFalse .nil)
  | expression,destination => do
      let result ← hoistExpression expression false false
      pure (result.before ++ .assign destination result.expression .nil)

def spillCondition (condition : Expression .expression) : Hoist (Prefix × VariableSymbol) := do
  let destination ← declareTemporaryVariable "<a>__cond" .boolean
  let statements ← spillExpressionInto condition destination
  pure (.declare destination (.literalExpression (.boolean false)) statements,destination)

end ShardScript.Hoisting
