import ShardScript.Hoisting.Lifting
import ShardScript.Hoisting.Statements

/-! What is left of a body by the hoisting: when it is all there, and when it is refused. -/
namespace ShardScript.Hoisting
open Library Semantic Syntax Attempt

section Parts

theorem hoistValue_plain {value : Expression .expression} (plain : isPlainValue value = true) :
    hoistValue value = pure ⟨value,.nil⟩ := by
  cases value with
  | awaitExpression token getResult operand =>
    rw [hoistValue,hoistSubExpression,hoistExpression_plain plain]
    rfl
  | literalExpression | typeExpression | lambdaExpression | patternExpression | variableReference | binaryExpression
  | unaryExpression | ternaryExpression | castExpression | rangeExpression | collectionExpression | objectExpression
  | switchExpression | memberAccessExpression | invocationExpression | indexatorExpression =>
    exact hoistExpression_plain plain false false

theorem rehoist_settled {statements : Prefix} (settled : statements.isSettled = true) :
    rehoist statements = pure statements := by
  induction statements with
  | nil => rfl
  | declare temporary value rest ih =>
    rw [Prefix.isSettled,Bool.and_eq_true] at settled
    rw [rehoist,hoistValue_plain settled.1,ih settled.2]
    rfl
  | assign temporary value rest ih =>
    rw [Prefix.isSettled,Bool.and_eq_true] at settled
    rw [rehoist,hoistExpression_plain settled.1,ih settled.2]
    rfl
  | branch negated condition taken other rest ihTaken ihOther ihRest =>
    simp only [Prefix.isSettled,Bool.and_eq_true,Bool.not_eq_true'] at settled
    have recursive : rehoist (.branch negated condition taken other rest) = (do
        let taken ← rehoist taken
        let other ← rehoist other
        let rest ← rehoist rest
        pure (.branch negated condition taken other rest)) := by
      cases taken with
      | nil => cases settled.1
      | declare | assign | branch => rfl
    rw [recursive,ihTaken settled.2.1,ihOther settled.2.2.1,ihRest settled.2.2.2]
    rfl

def refusesValue : Expression .expression → Bool
  | .awaitExpression _ _ operand => refuses operand true false
  | expression => refuses expression false false

def refusesOption : Option (Expression .expression) → Bool
  | none => false
  | some value => refusesValue value

def refusesThrown : Option (Expression .expression) → Bool
  | none => false
  | some exception => refuses exception false false

def refusesSimple : Simple (Expression .expression) → Bool
  | .expressionStatement expression => refusesValue expression
  | .variableStatement _ value => refusesOption value

def refusesOptionalSimple : Option (Simple (Expression .expression)) → Bool
  | none => false
  | some statement => refusesSimple statement

def awaitsIn : Simple (Expression .expression) → Bool
  | .expressionStatement condition => containsAwait condition
  | .variableStatement _ _ => false

def refusesCondition : Simple (Expression .expression) → Bool
  | .expressionStatement condition => containsAwait condition && spillRefuses condition
  | .variableStatement _ _ => false

def refusesLoopCondition : Option (Expression .expression) → Bool
  | none => false
  | some condition => refuses condition true true

def refusesRange : Expression .expression → Bool
  | .awaitExpression _ _ operand => refuses operand false false
  | range => containsAwait range && refuses range false false

def Alike (expression other : Expression .expression) : Prop := blanked other = blanked expression

def AlikeOption : Option (Expression .expression) → Option (Expression .expression) → Prop
  | none,none => True
  | some expression,some other => Alike expression other
  | _,_ => False

def AlikeSimple : Simple (Expression .expression) → Simple (Expression .expression) → Prop
  | .expressionStatement expression,.expressionStatement other => Alike expression other
  | .variableStatement name value,.variableStatement name' other => name' = name ∧ AlikeOption value other
  | _,_ => False

def AlikeOptionalSimple : Option (Simple (Expression .expression)) → Option (Simple (Expression .expression)) → Prop
  | none,none => True
  | some statement,some other => AlikeSimple statement other
  | _,_ => False

def AlikeCondition (condition other : Simple (Expression .expression)) : Prop :=
  if awaitsIn condition then ∃ temporary, other = .expressionStatement (.variableReference temporary)
  else other = condition

theorem hoistValue_alike (value : Expression .expression) :
    Gives (hoistValue value) (refusesValue value) fun _ result _ => Alike value result.expression := by
  cases value with
  | awaitExpression token getResult operand =>
    exact (hoistExpression_lifted operand true false).map fun _ _ _ _ => rfl
  | literalExpression | typeExpression | lambdaExpression | patternExpression | variableReference | binaryExpression
  | unaryExpression | ternaryExpression | castExpression | rangeExpression | collectionExpression | objectExpression
  | switchExpression | memberAccessExpression | invocationExpression | indexatorExpression =>
    exact (hoistExpression_lifted _ false false).mono rfl fun _ _ _ lifted => lifted.blanked

theorem hoistOption_alike (value : Option (Expression .expression)) :
    Gives (hoistOption value) (refusesOption value) fun _ result _ => AlikeOption value result.1 := by
  cases value with
  | none => exact .pure fun _ => trivial
  | some value => exact (hoistValue_alike value).map fun _ _ _ => id

theorem hoistThrown_alike (exception : Option (Expression .expression)) :
    Gives (hoistThrown exception) (refusesThrown exception) fun _ result _ => AlikeOption exception result.1 := by
  cases exception with
  | none => exact .pure fun _ => trivial
  | some exception => exact (hoistExpression_lifted exception false false).map fun _ _ _ lifted => lifted.blanked

theorem hoistSimple_alike (statement : Simple (Expression .expression)) :
    Gives (hoistSimple statement) (refusesSimple statement) fun _ result _ => AlikeSimple statement result.1 := by
  cases statement with
  | expressionStatement expression => exact (hoistValue_alike expression).map fun _ _ _ => id
  | variableStatement name value => exact (hoistOption_alike value).map fun _ _ _ alike => ⟨rfl,alike⟩

theorem hoistOptionalSimple_alike (statement : Option (Simple (Expression .expression))) :
    Gives (hoistOptionalSimple statement) (refusesOptionalSimple statement) fun _ result _ =>
      AlikeOptionalSimple statement result.1 := by
  cases statement with
  | none => exact .pure fun _ => trivial
  | some statement => exact (hoistSimple_alike statement).map fun _ _ _ => id

theorem spillCondition_settled (condition : Expression .expression) :
    Gives (spillCondition condition) (spillRefuses condition) fun _ spilled _ =>
      spilled.1.isSettled = true ∧ spilled.1.isNil = false :=
  (declareTemporaryVariable_gives _ _).bind fun destination =>
    (spillExpressionInto_settled condition destination).map fun _ _ _ settled _ _ => ⟨settled.1,rfl⟩

theorem hoistCondition_alike (condition : Simple (Expression .expression)) :
    Gives (hoistCondition condition) (refusesCondition condition) fun _ result _ =>
      AlikeCondition condition result.1 ∧ result.2.isNil = !awaitsIn condition := by
  cases condition with
  | variableStatement name value => exact .pure fun _ => ⟨rfl,rfl⟩
  | expressionStatement condition =>
    unfold AlikeCondition
    rw [hoistCondition,refusesCondition,awaitsIn]
    cases containsAwait condition with
    | false => exact .pure fun _ => ⟨rfl,rfl⟩
    | true => exact (spillCondition_settled condition).map fun _ spilled _ settled => ⟨⟨_,rfl⟩,settled.2⟩

theorem hoistLoopCondition_alike (condition : Option (Expression .expression)) :
    Gives (hoistLoopCondition condition) (refusesLoopCondition condition) fun _ result _ =>
      AlikeOption condition result.1 := by
  cases condition with
  | none => exact .pure fun _ => trivial
  | some condition => exact (hoistExpression_lifted condition true true).map fun _ _ _ lifted => lifted.blanked

theorem hoistRange_alike (range : Expression .expression) :
    Gives (hoistRange range) (refusesRange range) fun _ result _ => Alike range result.1 := by
  unfold hoistRange
  cases range with
  | awaitExpression token getResult operand =>
    exact (hoistExpression_lifted operand false false).followed fun awaitable =>
      (declareTemporaryVariable_gives _ _).map fun _ _ _ _ _ _ => rfl
  | literalExpression | typeExpression | lambdaExpression | patternExpression | variableReference | binaryExpression
  | unaryExpression | ternaryExpression | castExpression | rangeExpression | collectionExpression | objectExpression
  | switchExpression | memberAccessExpression | invocationExpression | indexatorExpression =>
    rw [refusesRange]
    · split
      · rename_i awaits
        rw [awaits]
        exact (hoistExpression_lifted _ false false).map fun _ _ _ lifted => lifted.blanked
      · rename_i none
        rw [Bool.eq_false_iff.2 none]
        exact .pure fun _ => rfl
    · intro _ _ _ same
      cases same

theorem spillLoopCondition_gives (isUntil : Bool) (condition : Expression .expression) :
    Gives (spillLoopCondition isUntil condition) (spillRefuses condition) fun _ tested _ =>
      ∃ statements temporary, tested = .tested statements isUntil temporary := by
  rw [spillLoopCondition,← Bool.or_false (spillRefuses condition)]
  refine (spillCondition_settled condition).bindKnown fun spilled known => ?_
  rcases known with ⟨_,_,settled,_⟩
  rw [rehoist_settled settled]
  have unchanged : Gives (pure spilled.1 : Hoist Prefix) false fun _ _ _ => True := .pure fun _ => trivial
  exact unchanged.map fun _ statements _ _ _ _ => ⟨statements,spilled.2,rfl⟩

end Parts

end ShardScript.Hoisting
