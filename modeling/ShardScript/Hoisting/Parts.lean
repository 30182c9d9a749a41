import ShardScript.Hoisting.Contents
import ShardScript.Hoisting.Execution
import ShardScript.Hoisting.Order

/-! What the parts of statements do after the hoisting. -/
namespace ShardScript.Hoisting
open Library Scratch Semantic Syntax Attempt

section Conditions

def valueInOrder : Expression .expression → Bool
  | .awaitExpression _ _ operand => inOrder operand true
  | expression => inOrder expression false

def simpleInOrder : Simple (Expression .expression) → Bool := Simple.all valueInOrder

def conditionInOrder : Simple (Expression .expression) → Bool
  | .expressionStatement condition => !containsAwait condition || spillsInOrder condition
  | .variableStatement _ _ => true

def rangeInOrder : Expression .expression → Bool
  | .awaitExpression _ _ operand => inOrder operand false
  | range => !containsAwait range || inOrder range false

def liftsValue : Expression .expression → Nat
  | .awaitExpression _ _ operand => lifts operand true
  | expression => lifts expression false

def liftsOption (value : Option (Expression .expression)) : Nat := (value.map liftsValue).getD 0

def liftsSimple : Simple (Expression .expression) → Nat
  | .expressionStatement expression => liftsValue expression
  | .variableStatement _ value => liftsOption value

def liftsOptional (statement : Option (Simple (Expression .expression))) : Nat := (statement.map liftsSimple).getD 0

end Conditions

section Parts

variable {Value Exception : Type} {M : Type → Type} [Monad M]

def Surroundings.onScratch (surroundings : Surroundings Value Exception (ExceptT Exception M)) :
    Surroundings Value Exception (Scratch VariableSymbol Value Exception M) where
  toHost := surroundings.toHost.onScratch
  define := fun name value => lift (surroundings.define name value)
  exception := fun value => lift (surroundings.exception value)
  enumerator := fun isForEach range => lift (surroundings.enumerator isForEach range)
  moveNext := fun enumerator => lift (surroundings.moveNext enumerator)
  current := fun enumerator name => lift (surroundings.current enumerator name)
  accepts := surroundings.accepts
  caught := fun name exception => lift (surroundings.caught name exception)
  dispose := fun statement => lift (surroundings.dispose statement)

@[simp] theorem Surroundings.onScratch_toHost (surroundings : Surroundings Value Exception (ExceptT Exception M)) :
    surroundings.onScratch.toHost = surroundings.toHost.onScratch := rfl

variable [LawfulMonad M] (surroundings : Surroundings Value Exception (ExceptT Exception M))

theorem hoistValue_stands (value : Expression .expression) (source : isSource value = true) :
    Yields (hoistValue value) fun result =>
      Stands (result.before.run surroundings.onScratch.toHost)
        (evaluate surroundings.onScratch.toHost result.expression false)
        (evaluate surroundings.onScratch.toHost value false) (evaluate surroundings.toHost value false)
        (liftsValue value) false (valueInOrder value) := by
  cases value with
  | awaitExpression token getResult operand =>
    refine (hoistExpression_stands surroundings.toHost operand source true false).map fun inner stands => ?_
    exact (stands false).followed fun awaitable => .lift (surroundings.await token awaitable)
  | literalExpression | typeExpression | lambdaExpression | patternExpression | variableReference | binaryExpression
  | unaryExpression | ternaryExpression | castExpression | rangeExpression | collectionExpression | objectExpression
  | switchExpression | memberAccessExpression | invocationExpression | indexatorExpression =>
    exact (hoistExpression_stands surroundings.toHost _ source false false).mono fun _ stands =>
      (stands false).mono rfl (by simp) id

theorem hoistOption_stands (value : Option (Expression .expression)) (source : value.all isSource = true) :
    Yields (hoistOption value) fun result =>
      Stands (result.2.run surroundings.onScratch.toHost) (evaluateOption surroundings.onScratch result.1)
        (evaluateOption surroundings.onScratch value) (evaluateOption surroundings value) (liftsOption value) false
        (value.all valueInOrder) := by
  cases value with
  | none => exact .pure ((Stands.pure none).mono rfl (by simp) (by simp))
  | some value => exact (hoistValue_stands surroundings value source).map fun _ stands => stands.mapped some

theorem hoistThrown_stands (exception : Option (Expression .expression)) (source : exception.all isSource = true) :
    Yields (hoistThrown exception) fun result =>
      Stands (result.2.run surroundings.onScratch.toHost) (evaluateOption surroundings.onScratch result.1)
        (evaluateOption surroundings.onScratch exception) (evaluateOption surroundings exception)
        ((exception.map fun exception => lifts exception false).getD 0) false
        (exception.all fun exception => inOrder exception false) := by
  cases exception with
  | none => exact .pure ((Stands.pure none).mono rfl (by simp) (by simp))
  | some exception =>
    exact (hoistExpression_stands surroundings.toHost exception source false false).map fun _ stands =>
      ((stands false).mapped some).mono rfl (by simp) id

theorem hoistSimple_stands (statement : Simple (Expression .expression)) (source : statement.all isSource = true) :
    Yields (hoistSimple statement) fun result =>
      Stands (result.2.run surroundings.onScratch.toHost) (executeSimple surroundings.onScratch result.1)
        (executeSimple surroundings.onScratch statement) (executeSimple surroundings statement) (liftsSimple statement)
        false (simpleInOrder statement) := by
  cases statement with
  | expressionStatement expression =>
    exact (hoistValue_stands surroundings expression source).map fun _ stands => stands.followed fun _ => .pure _
  | variableStatement name value =>
    exact (hoistOption_stands surroundings value source).map fun _ stands => stands.followed fun _ => .lift _

theorem hoistOptionalSimple_stands (statement : Option (Simple (Expression .expression)))
    (source : statement.all (Simple.all isSource) = true) :
    Yields (hoistOptionalSimple statement) fun result =>
      Stands (result.2.run surroundings.onScratch.toHost) (executeOptional surroundings.onScratch result.1)
        (executeOptional surroundings.onScratch statement) (executeOptional surroundings statement)
        (liftsOptional statement) false (statement.all simpleInOrder) := by
  cases statement with
  | none => exact .pure ((Stands.pure ()).mono rfl (by simp) (by simp))
  | some statement => exact (hoistSimple_stands surroundings statement source).map fun _ => id

theorem evaluateOption_agrees (value : Option (Expression .expression)) (source : value.all isSource = true) :
    Agrees (evaluateOption surroundings.onScratch value) (evaluateOption surroundings value) := by
  cases value with
  | none => exact .pure _
  | some value => exact (evaluate_agrees surroundings.toHost value source false).bind fun _ => .pure _

theorem executeSimple_agrees (statement : Simple (Expression .expression)) (source : statement.all isSource = true) :
    Agrees (executeSimple surroundings.onScratch statement) (executeSimple surroundings statement) := by
  cases statement with
  | expressionStatement expression =>
    exact (evaluate_agrees surroundings.toHost expression source false).bind fun _ => .pure _
  | variableStatement name value => exact (evaluateOption_agrees surroundings value source).bind fun _ => .lift _

theorem executeOptional_agrees (statement : Option (Simple (Expression .expression)))
    (source : statement.all (Simple.all isSource) = true) :
    Agrees (executeOptional surroundings.onScratch statement) (executeOptional surroundings statement) := by
  cases statement with
  | none => exact .pure _
  | some statement => exact executeSimple_agrees surroundings statement source

theorem test_agrees (condition : Expression .expression) (source : isSource condition = true) :
    Agrees (test surroundings.onScratch condition) (test surroundings condition) :=
  (evaluate_agrees surroundings.toHost condition source false).bind fun _ => .pure _

theorem testSimple_agrees (condition : Simple (Expression .expression)) (source : condition.all isSource = true) :
    Agrees (testSimple surroundings.onScratch condition) (testSimple surroundings condition) := by
  cases condition with
  | expressionStatement condition => exact test_agrees surroundings condition source
  | variableStatement name value =>
    exact (evaluateOption_agrees surroundings value source).bind fun _ => (Agrees.lift _).bind fun _ => .pure _

theorem spillCondition_delivers (condition : Expression .expression) (source : isSource condition = true)
    (order : spillsInOrder condition = true) :
    Yields (spillCondition condition) fun result =>
      Delivers (result.1.run surroundings.onScratch.toHost) result.2 (evaluate surroundings.toHost condition false) := by
  have yields : Yields (declareTemporaryVariable "<a>__cond" .boolean) fun _ => True := fun _ _ _ _ => trivial
  refine yields.bind fun destination _ =>
    (spillExpressionInto_delivers surroundings.toHost condition source order destination).map fun statements delivers => ?_
  intro β continuation continuation' known
  have whole := (delivers _ _ _ known).stored destination (surroundings.boolean false)
  simpa only [Prefix.run,evaluate,pure_bind,bind_assoc,Surroundings.onScratch_toHost,Host.onScratch_boolean,
    Host.onScratch_write] using whole

theorem hoistCondition_prepared (condition : Simple (Expression .expression)) (source : condition.all isSource = true) :
    Yields (hoistCondition condition) fun result => (awaitsIn condition = false → result.2 = .nil) ∧
      (conditionInOrder condition = true → Prepared (result.2.run surroundings.onScratch.toHost)
        (testSimple surroundings.onScratch result.1) (testSimple surroundings condition)) := by
  cases condition with
  | variableStatement name value =>
    exact .pure ⟨fun _ => rfl,fun _ => .of_agrees (testSimple_agrees surroundings (.variableStatement name value) source)⟩
  | expressionStatement condition =>
    rw [hoistCondition,awaitsIn,conditionInOrder]
    cases containsAwait condition with
    | false =>
      exact .pure ⟨fun _ => rfl,fun _ => .of_agrees (test_agrees surroundings condition source)⟩
    | true =>
      cases order : spillsInOrder condition with
      | false => exact fun _ _ _ _ => ⟨by simp,by simp⟩
      | true =>
        exact (spillCondition_delivers surroundings condition source order).map fun spilled delivers =>
          ⟨by simp,fun _ => delivers.prepared.followed fun _ => .pure _⟩

theorem hoistRange_prepared (range : Expression .expression) (source : isSource range = true)
    (order : rangeInOrder range = true) :
    Yields (hoistRange range) fun result =>
      Prepared (result.2.run surroundings.onScratch.toHost) (evaluate surroundings.onScratch.toHost result.1 false)
        (evaluate surroundings.toHost range false) := by
  unfold hoistRange
  split
  · rename_i awaits
    split
    · rename_i token getResult operand
      refine (hoistExpression_stands surroundings.toHost operand source false false).bind fun awaitable stands => ?_
      have yields : Yields (declareTemporaryVariable "<a>__range" (resultType getResult)) fun _ => True :=
        fun _ _ _ _ => trivial
      refine yields.map fun temporary _ => ?_
      have awaited := ((stands false).followed fun value =>
        Agrees.lift (surroundings.await token value)).prepared order
      have whole := (Delivers.of_prepared temporary awaited).prepared
      simpa only [Prefix.run_append,Prefix.run,evaluate,bind_assoc,bind_pure_unit,Surroundings.onScratch_toHost,
        Host.onScratch_await,Host.onScratch_read,Host.onScratch_write] using whole
    · rename_i other
      refine (hoistExpression_stands surroundings.toHost range source false false).map fun result stands => ?_
      refine (stands false).prepared ?_
      rw [rangeInOrder] at order
      · simpa [awaits] using order
      · exact other
  · exact .pure (.of_agrees (evaluate_agrees surroundings.toHost range source false))

end Parts

end ShardScript.Hoisting
