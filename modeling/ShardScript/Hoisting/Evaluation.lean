import ShardScript.Hoisting.Lifting
import ShardScript.Library.Scratch

/-! What expressions do, from left to right, in any monad, and what the statements do that are made for them. -/
namespace ShardScript.Hoisting
open Library Scratch Semantic

inductive Operation where
  | load
  | assign (operator : TokenType)
  | binary (operator : TokenType)
  | unary (operator : TokenType) (isRightDetermined : Bool)
  | increment (operator : TokenType) (isRightDetermined : Bool)
  | cast (token : SyntaxToken)
  | range | collection
  | object (newToken : SyntaxToken)
  | member (identifierToken : SyntaxToken)
  | call (identifierToken : SyntaxToken)
  | index (identifierToken : SyntaxToken)
  | pattern (token : SyntaxToken)
  | noArm

structure Host (Value : Type) (m : Type → Type) where
  boolean : Bool → Value
  literal : SyntaxToken → Value
  typeValue : SyntaxToken → Value
  lambda : SyntaxToken → Value
  place : Operation → List Value → Value
  truth : Value → Bool
  truth_boolean : ∀ value, truth (boolean value) = value
  isNull : Value → Bool
  takes : Value → Option Value → Bool
  read : VariableSymbol → m Value
  write : VariableSymbol → Value → m Unit
  await : SyntaxToken → Value → m Value
  operate : Operation → List Value → m Value

section Evaluation

variable {Value : Type} {m : Type → Type} [Monad m]

variable (m Value) in
def Denotation : ExpressionKind → Type
  | .expression => (asPlace : Bool) → m Value
  | .optional => m (Option Value)
  | .arguments => m (List Value)
  | .arms => (scrutinee : Value) → m Value

def Host.locate (host : Host Value m) (operation : Operation) (parts : List Value) (asPlace : Bool) : m Value :=
  if asPlace then pure (host.place operation parts) else host.operate operation parts

@[grind] def evaluate (host : Host Value m) : {kind : ExpressionKind} → Expression kind → Denotation Value m kind
  | _,.literalExpression (.boolean value) => fun _ => pure (host.boolean value)
  | _,.literalExpression (.other token) => fun _ => pure (host.literal token)
  | _,.typeExpression token => fun _ => pure (host.typeValue token)
  | _,.lambdaExpression token => fun _ => pure (host.lambda token)
  | _,.patternExpression token => fun _ => host.operate (.pattern token) []
  | _,.variableReference temporary => fun _ => host.read temporary
  | _,.awaitExpression token _ operand => fun _ => do
      let awaitable ← evaluate host operand false
      host.await token awaitable
  | _,.binaryExpression operator left right => fun _ =>
      if operator = .assignOperator then do
        let place ← evaluate host left true
        let value ← evaluate host right false
        host.operate (.assign operator) [place,value]
      else if operator.isAssignmentOperator then do
        let place ← evaluate host left true
        let old ← host.operate .load [place]
        let value ← evaluate host right false
        host.operate (.assign operator) [place,old,value]
      else if operator = .andOperator then do
        let value ← evaluate host left false
        if host.truth value then evaluate host right false else pure value
      else if operator = .orOperator then do
        let value ← evaluate host left false
        if host.truth value then pure value else evaluate host right false
      else if operator = .nullCoalescingOperator then do
        let value ← evaluate host left false
        if host.isNull value then evaluate host right false else pure value
      else do
        let left ← evaluate host left false
        let right ← evaluate host right false
        host.operate (.binary operator) [left,right]
  | _,.unaryExpression operator isRightDetermined operand => fun _ =>
      if operator.isIncrementDecrementOperator then do
        let place ← evaluate host operand true
        host.operate (.increment operator isRightDetermined) [place]
      else do
        let value ← evaluate host operand false
        host.operate (.unary operator isRightDetermined) [value]
  | _,.ternaryExpression condition left right => fun _ => do
      let value ← evaluate host condition false
      if host.truth value then evaluate host left false else evaluate host right false
  | _,.castExpression token operand => fun _ => do
      let value ← evaluate host operand false
      host.operate (.cast token) [value]
  | _,.rangeExpression left right => fun _ => do
      let left ← evaluate host left
      let right ← evaluate host right
      host.operate .range (left.toList ++ right.toList)
  | _,.collectionExpression values => fun _ => do
      let values ← evaluate host values
      host.operate .collection values
  | _,.objectExpression token arraySize arguments => fun _ => do
      let arraySize ← evaluate host arraySize
      let arguments ← evaluate host arguments
      host.operate (.object token) (arraySize.toList ++ arguments)
  | _,.switchExpression scrutinee arms => fun _ => do
      let value ← evaluate host scrutinee false
      evaluate host arms value
  | _,.memberAccessExpression token previous => fun asPlace => do
      let previous ← evaluate host previous
      host.locate (.member token) previous.toList asPlace
  | _,.invocationExpression token previous arguments => fun _ => do
      let previous ← evaluate host previous
      let arguments ← evaluate host arguments
      host.operate (.call token) (previous.toList ++ arguments)
  | _,.indexatorExpression token previous arguments => fun asPlace => do
      let previous ← evaluate host previous
      let arguments ← evaluate host arguments
      host.locate (.index token) (previous.toList ++ arguments) asPlace
  | _,.absent => pure none
  | _,.present expression => do
      let value ← evaluate host expression false
      pure (some value)
  | _,.noArgument => pure []
  | _,.argument first rest => do
      let value ← evaluate host first false
      let values ← evaluate host rest
      pure (value :: values)
  | _,.noArm => fun scrutinee => host.operate .noArm [scrutinee]
  | _,.arm pattern value rest => fun scrutinee => do
      let pattern ← evaluate host pattern
      if host.takes scrutinee pattern then evaluate host value false else evaluate host rest scrutinee

@[grind] def Prefix.run (host : Host Value m) : Prefix → m Unit
  | nil => pure ()
  | declare temporary value rest | assign temporary value rest => do
      let value ← evaluate host value false
      host.write temporary value
      rest.run host
  | branch negated condition taken other rest => do
      let value ← host.read condition
      if host.truth value = negated then other.run host else taken.run host
      rest.run host

theorem Prefix.run_append [LawfulMonad m] (host : Host Value m) (statements behind : Prefix) :
    (statements ++ behind).run host = statements.run host >>= fun _ => behind.run host := by
  induction statements with
  | nil => rw [nil_append,run,pure_bind]
  | declare temporary value rest ih | assign temporary value rest ih =>
    simp only [declare_append,assign_append,run,ih,bind_assoc]
  | branch negated condition taken other rest _ _ ih =>
    simp only [branch_append,run,ih,bind_assoc]
    refine bind_congr fun value => ?_
    split
    · rw [bind_assoc]
    · rw [bind_assoc]

theorem Prefix.run_append_append [LawfulMonad m] (host : Host Value m) (first second third : Prefix) :
    (first ++ second ++ third).run host =
      first.run host >>= fun _ => second.run host >>= fun _ => third.run host := by
  rw [run_append,run_append,bind_assoc]

end Evaluation

section Rewriting

variable {Value Exception : Type} {M : Type → Type} [Monad M] (host : Host Value (ExceptT Exception M))

def Host.onScratch : Host Value (Scratch VariableSymbol Value Exception M) where
  boolean := host.boolean
  literal := host.literal
  typeValue := host.typeValue
  lambda := host.lambda
  place := host.place
  truth := host.truth
  truth_boolean := host.truth_boolean
  isNull := host.isNull
  takes := host.takes
  read := fetch
  write := store
  await := fun token value => lift (host.await token value)
  operate := fun operation values => lift (host.operate operation values)

@[simp] theorem Host.onScratch_read (name : VariableSymbol) :
    host.onScratch.read name = fetch name := rfl

@[simp] theorem Host.onScratch_write (name : VariableSymbol) (value : Value) :
    host.onScratch.write name value = store name value := rfl

@[simp] theorem Host.onScratch_await (token : SyntaxToken) (value : Value) :
    host.onScratch.await token value = lift (host.await token value) := rfl

@[simp] theorem Host.onScratch_operate (operation : Operation)
    (values : List Value) : host.onScratch.operate operation values = lift (host.operate operation values) := rfl

@[simp] theorem Host.onScratch_boolean (value : Bool) :
    host.onScratch.boolean value = host.boolean value := rfl

@[simp] theorem Host.onScratch_truth (value : Value) :
    host.onScratch.truth value = host.truth value := rfl

theorem evaluate_connective {operator : TokenType} {left right : Expression .expression}
    (connective : operator = .andOperator ∨ operator = .orOperator) (asPlace : Bool) :
    evaluate host (.binaryExpression operator left right) asPlace = evaluate host left false >>= fun value =>
      if host.truth value = decide (operator = .orOperator) then pure value else evaluate host right false := by
  rcases connective with rfl | rfl
  · refine bind_congr fun value => ?_
    cases host.truth value <;> rfl
  · refine bind_congr fun value => ?_
    cases host.truth value <;> rfl

variable [LawfulMonad M]

theorem Prefix.run_branch {α : Type} (value : Value) (negated : Bool)
    (condition : VariableSymbol) (taken other : Prefix) (continuation : Scratch VariableSymbol Value Exception M α) :
    (store condition value >>= fun _ =>
        (branch negated condition taken other nil).run host.onScratch >>= fun _ => continuation) =
      store condition value >>= fun _ =>
        (if host.truth value = negated then other.run host.onScratch else taken.run host.onScratch) >>= fun _ =>
          continuation := by
  simp only [run,bind_assoc,bind_pure_unit,Host.onScratch_read,Host.onScratch_truth]
  rw [store_fetch]

end Rewriting

end ShardScript.Hoisting
