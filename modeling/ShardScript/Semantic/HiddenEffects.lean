import ShardScript.Semantic.EffectScan
import ShardScript.Semantic.FallThrough

/-! The effects of a text that the scan passes over, read off the text. -/
namespace ShardScript.Semantic
open Syntax

section Expressions

variable {Lambda : Type}

def Site.only (hidden : Bool) (site : Site) : List Site := if hidden then [site] else []

/-- A field is heard of by its name if it is a field of `this`, and by the keyword `field`. -/
def Member.hidesWrite (isThisReceiver : Bool) : Member → Bool
  | field named => named.isStatic || !isThisReceiver
  | backingField own => !own.isStatic && !isThisReceiver
  | _ => false

def Member.isWritten : Member → Bool
  | field _ | backingField _ | property _ => true
  | _ => false

variable (silenced : Bool)

def Expression.hiddenWrite : Expression Lambda .expression → List Site
  | .memberAccessExpression token previous member =>
      if member.isWritten then
        Site.only silenced (.write token) ++ Site.only (member.hidesWrite previous.isThisReceiver) (.write token)
      else []
  | .indexatorExpression token _ _ _ => Site.only silenced (.write token)
  | _ => []

def PropertySymbol.hiddenGetter (token : SyntaxToken) (property : PropertySymbol) : List Site :=
  Site.only property.getter.isSome (.read token)

/-- What is hidden of an expression: everything in a receiver, and the getters and the calls of asynchronous
methods anywhere. -/
@[grind] def Expression.hidden : {kind : ExpressionKind} → Expression Lambda kind → (silenced : Bool) → List Site
  | _,.literalExpression,_ | _,.lambdaExpression _,_ | _,.absent,_ | _,.noArgument,_ | _,.noArm,_ => []
  | _,.binaryExpression operator left right,silenced =>
      (if operator.isAssignmentOperator then left.hiddenWrite silenced else []) ++
        (left.hidden silenced ++ right.hidden silenced)
  | _,.unaryExpression operator operand,silenced =>
      (if operator.isIncrementDecrementOperator then operand.hiddenWrite silenced else []) ++ operand.hidden silenced
  | _,.awaitExpression operand,silenced | _,.castExpression operand,silenced => operand.hidden silenced
  | _,.memberAccessExpression token previous member,_ =>
      previous.hidden true ++
        match member with
        | .property property => property.hiddenGetter token
        | _ => []
  | _,.invocationExpression token previous callee arguments,silenced =>
      (match callee with
        | none => []
        | some callee => Site.only (silenced || callee.isAsync) (.call token)) ++
        (previous.hidden true ++ arguments.hidden silenced)
  | _,.indexatorExpression token previous property arguments,silenced =>
      previous.hidden true ++ (arguments.hidden silenced ++ property.hiddenGetter token)
  | _,.objectExpression token constructor arraySize arguments,silenced =>
      Site.only (silenced && constructor.isSome) (.call token) ++
        (arraySize.hidden silenced ++ arguments.hidden silenced)
  | _,.collectionExpression values,silenced => values.hidden silenced
  | _,.present expression,silenced => expression.hidden silenced
  | _,.rangeExpression left right,silenced => left.hidden silenced ++ right.hidden silenced
  | _,.switchExpression scrutinee arms,silenced => scrutinee.hidden silenced ++ arms.hidden silenced
  | _,.argument first rest,silenced => first.hidden silenced ++ rest.hidden silenced
  | _,.ternaryExpression condition left right,silenced =>
      condition.hidden silenced ++ (left.hidden silenced ++ right.hidden silenced)
  | _,.arm pattern value rest,silenced =>
      pattern.hidden silenced ++ (value.hidden silenced ++ rest.hidden silenced)

variable {TypeSymbol : Type} (types : TypeModel TypeSymbol)
  (typeOf : Expression Lambda .expression → Option TypeSymbol) {context : Context TypeSymbol}
  {current : Option MethodSymbol}

def Hides (walker : Walker TypeSymbol Lambda) (hidden : Bool → List Site) : Prop :=
  ∀ current, (walker current).unheard = hidden current.isNone

namespace Hides

variable {first second : Walker TypeSymbol Lambda} {hidden hidden' : Bool → List Site}

theorem skip : Hides (.skip : Walker TypeSymbol Lambda) fun _ => [] := fun _ => rfl

theorem seq (one : Hides first hidden) (two : Hides second hidden') :
    Hides (.seq first second) fun silenced => hidden silenced ++ hidden' silenced := by
  intro current
  rw [Walker.seq,one current,two current]

theorem passedBy (one : Hides first hidden) : Hides (.passedBy first) fun _ => hidden true :=
  fun _ => one none

theorem note (entries : List (Record TypeSymbol)) :
    Hides (.note entries : Walker TypeSymbol Lambda) fun _ => [] := by
  intro current
  cases current <;> rfl

theorem record (site : Site) (entries : List (Record TypeSymbol)) :
    Hides (.record site entries : Walker TypeSymbol Lambda) fun silenced => site.only silenced := by
  intro current
  cases current <;> rfl

theorem congr (one : Hides first hidden) (same : ∀ silenced, hidden silenced = hidden' silenced) :
    Hides first hidden' :=
  fun current => (one current).trans (same _)

theorem recordFieldWrite (token : SyntaxToken) (isStaticContext isThisReceiver : Bool) (field : FieldSymbol)
    {heard : Bool} (same : isHeard isStaticContext isThisReceiver field = !heard) :
    Hides (Semantic.recordFieldWrite token isStaticContext isThisReceiver field : Walker TypeSymbol Lambda)
      fun silenced => Site.only silenced (.write token) ++ Site.only heard (.write token) := by
  unfold Semantic.recordFieldWrite
  rw [same]
  have rest : Hides (if (!heard) = true then .skip else .unheard (.write token) : Walker TypeSymbol Lambda)
      fun _ => Site.only heard (.write token) := by
    cases heard <;> exact fun _ => rfl
  exact (record (.write token) _).seq rest

theorem recordWrite (target : Expression Lambda .expression) :
    Hides (Semantic.recordWrite context target) target.hiddenWrite := by
  cases target with
  | memberAccessExpression token previous member =>
    cases member with
    | field named =>
      apply recordFieldWrite
      simp [isHeard,Member.isStaticContext,Member.hidesWrite,Bool.and_comm]
    | backingField own =>
      apply recordFieldWrite
      cases known : own.isStatic <;> simp [isHeard,Member.isStaticContext,Member.hidesWrite,known]
    | property property => exact (record (.write token) _).congr fun silenced => (List.append_nil _).symm
    | type | localVariable | parameter isThis | method => exact skip
  | indexatorExpression token previous property arguments => exact record (.write token) _
  | literalExpression | binaryExpression | unaryExpression | awaitExpression | invocationExpression
  | objectExpression | collectionExpression | rangeExpression | lambdaExpression | ternaryExpression
  | switchExpression | castExpression => exact skip

theorem getter (token : SyntaxToken) (property : PropertySymbol) :
    Hides (unheardGetter token property : Walker TypeSymbol Lambda) fun _ => property.hiddenGetter token := by
  unfold unheardGetter PropertySymbol.hiddenGetter
  cases property.getter <;> exact fun _ => rfl

theorem recordAwait (awaited : Expression Lambda .expression) :
    Hides (Semantic.recordAwait types typeOf context awaited) fun _ => [] := by
  unfold Semantic.recordAwait
  repeat' split
  all_goals first | exact skip | exact note _

theorem orSkip {condition : Bool} (one : Hides first hidden) :
    Hides (if condition then first else .skip) fun silenced => if condition then hidden silenced else [] := by
  cases condition
  · exact skip
  · exact one

theorem last (one : Hides first hidden) : Hides (.all [first]) hidden :=
  (one.seq skip).congr fun _ => List.append_nil _

end Hides

theorem hides_visitExpression {kind : ExpressionKind} (expression : Expression Lambda kind) :
    Hides (visitExpression types typeOf context expression) expression.hidden := by
  induction expression with
  | literalExpression | absent | noArgument | noArm => exact .skip
  | lambdaExpression lambda => exact fun _ => rfl
  | binaryExpression operator left right ihLeft ihRight =>
    exact (Hides.orSkip (.recordWrite left)).seq (ihLeft.seq ihRight.last)
  | unaryExpression operator operand ih => exact (Hides.orSkip (.recordWrite operand)).seq ih
  | awaitExpression operand ih => exact (Hides.recordAwait types typeOf operand).seq ih
  | castExpression operand ih | collectionExpression operand ih | present operand ih => exact ih
  | memberAccessExpression token previous member ih =>
    cases member with
    | property property => exact ih.passedBy.seq (.getter token property)
    | type | localVariable | parameter isThis | field named | backingField own | method =>
      exact ih.passedBy.seq .skip
  | invocationExpression token previous callee arguments ihPrevious ihArguments =>
    have rest := ihPrevious.passedBy.seq ihArguments.last
    cases callee with
    | none => exact (Hides.note _).seq rest
    | some callee =>
      have called : Hides (if callee.isAsync then .unheard (.call token)
          else .record (.call token) [.calls (callEdge context callee token false)] : Walker TypeSymbol Lambda)
          fun silenced => Site.only (silenced || callee.isAsync) (.call token) := by
        cases callee.isAsync
        · exact (Hides.record (.call token) _).congr fun silenced => by rw [Bool.or_false]
        · intro current
          simp [Walker.unheard,Site.only]
      exact called.seq rest
  | indexatorExpression token previous property arguments ihPrevious ihArguments =>
    exact ihPrevious.passedBy.seq (ihArguments.seq (Hides.last (.getter token property)))
  | objectExpression token constructor arraySize arguments ihSize ihArguments =>
    have rest := ihSize.seq ihArguments.last
    cases constructor with
    | none => exact (Hides.skip.seq rest).congr fun silenced => by simp [Expression.hidden,Site.only]
    | some constructor =>
      exact ((Hides.record (.call token) _).seq rest).congr fun silenced => by simp [Expression.hidden]
  | rangeExpression left right ihLeft ihRight | switchExpression left right ihLeft ihRight
  | argument left right ihLeft ihRight => exact ihLeft.seq ihRight
  | ternaryExpression first second third ihFirst ihSecond ihThird
  | arm first second third ihFirst ihSecond ihThird =>
    exact ihFirst.seq (ihSecond.seq ihThird.last)

def hiddenOfOption : Option (Expression Lambda .expression) → List Site
  | none => []
  | some expression => expression.hidden silenced

def hiddenOfSimple : Simple (Expression Lambda .expression) → List Site
  | .expressionStatement expression => expression.hidden silenced
  | .variableStatement _ value => hiddenOfOption silenced value

def hiddenOfOptionalSimple : Option (Simple (Expression Lambda .expression)) → List Site
  | none => []
  | some statement => hiddenOfSimple silenced statement

def hiddenOfCondition : Simple (Expression Lambda .expression) → List Site
  | .expressionStatement expression => expression.hidden silenced
  | .variableStatement _ value => hiddenOfOption true value

theorem hides_visitOptional (value : Option (Expression Lambda .expression)) :
    Hides (visitOptional types typeOf context value) fun silenced =>
      hiddenOfOption silenced value := by
  cases value with
  | none => exact .skip
  | some expression => exact hides_visitExpression types typeOf expression

theorem hides_visitSimple (statement : Simple (Expression Lambda .expression)) :
    Hides (visitSimple types typeOf context statement) fun silenced =>
      hiddenOfSimple silenced statement := by
  cases statement with
  | expressionStatement expression => exact hides_visitExpression types typeOf expression
  | variableStatement name value => exact hides_visitOptional types typeOf value

theorem hides_visitOptionalSimple (statement : Option (Simple (Expression Lambda .expression))) :
    Hides (visitOptionalSimple types typeOf context statement)
      fun silenced => hiddenOfOptionalSimple silenced statement := by
  cases statement with
  | none => exact .skip
  | some statement => exact hides_visitSimple types typeOf statement

theorem hides_scanStatement (statement : Simple (Expression Lambda .expression)) :
    Hides (scanStatement types typeOf context statement) fun silenced =>
      hiddenOfCondition silenced statement := by
  cases statement with
  | expressionStatement expression => exact hides_visitExpression types typeOf expression
  | variableStatement name value => exact (hides_visitOptional types typeOf value).passedBy

end Expressions

section Statements

variable {TypeSymbol Lambda : Type} (types : TypeModel TypeSymbol)
  (typeOf : Expression Lambda .expression → Option TypeSymbol) {current : Option MethodSymbol}

/-- What is hidden of a statement: also what is behind a statement that is left by a jump in any case. -/
def hiddenEffects : {kind : StatementKind} → Statement (Expression Lambda .expression) TypeSymbol kind →
    Path → (silenced : Bool) → List Site
  | _,.simple statement,_,silenced | _,.deferStatement _ statement,_,silenced => hiddenOfSimple silenced statement
  | _,.returnStatement value,_,silenced => hiddenOfOption silenced value
  | _,.throwStatement exception,path,silenced =>
      hiddenOfOption silenced exception ++ Site.only silenced (.throwing path)
  | _,.breakStatement,_,_ | _,.continueStatement,_,_ | _,.empty,_,_ | _,.noNext,_,_ | _,.noCase,_,_
  | _,.noCatch,_,_ => []
  | _,.whileStatement condition body,path,silenced | _,.untilStatement condition body,path,silenced =>
      condition.hidden silenced ++ hiddenEffects body (0 :: path) silenced
  | _,.forStatement initializer condition afterRepeat body,path,silenced =>
      hiddenOfOptionalSimple silenced initializer ++ (hiddenOfOption silenced condition ++
        (hiddenEffects body (0 :: path) silenced ++ hiddenOfOptionalSimple silenced afterRepeat))
  | _,.forEachStatement _ range body,path,silenced | _,.forInStatement _ range body,path,silenced =>
      range.hidden silenced ++ hiddenEffects body (0 :: path) silenced
  | _,.conditional first,path,silenced => hiddenEffects first (0 :: path) silenced
  | _,.switchStatement scrutinee cases,path,silenced =>
      scrutinee.hidden silenced ++ hiddenEffects cases (0 :: path) silenced
  | _,.tryStatement body catches,path,silenced =>
      hiddenEffects body (0 :: path) silenced ++ hiddenEffects catches (1 :: path) silenced
  | _,.cons first rest,path,silenced =>
      hiddenEffects first (0 :: path) silenced ++
        hiddenEffects rest (1 :: path) (closesBy first anyJump || silenced)
  | _,.ifClause _ condition body next,path,silenced =>
      hiddenOfCondition silenced condition ++
        (hiddenEffects body (0 :: path) silenced ++ hiddenEffects next (1 :: path) silenced)
  | _,.elseClause body,path,silenced => hiddenEffects body (0 :: path) silenced
  | _,.elseIf clause,path,silenced => hiddenEffects clause (0 :: path) silenced
  | _,.defaultClause body rest,path,silenced =>
      hiddenEffects body (0 :: path) silenced ++ hiddenEffects rest (1 :: path) silenced
  | _,.caseClause pattern body rest,path,silenced =>
      pattern.hidden silenced ++
        (hiddenEffects body (0 :: path) silenced ++ hiddenEffects rest (1 :: path) silenced)
  | _,.catchClause _ _ body rest,path,silenced =>
      hiddenEffects body (0 :: path) silenced ++ hiddenEffects rest (1 :: path) silenced

theorem hides_analyzeStatement {kind : StatementKind}
    (statement : Statement (Expression Lambda .expression) TypeSymbol kind) (context : Context TypeSymbol)
    (path : Path) :
    Hides (analyzeStatement types typeOf statement context path) (hiddenEffects statement path) := by
  induction statement generalizing context path with
  | simple statement | deferStatement isResource statement => exact hides_visitSimple types typeOf statement
  | returnStatement value => exact hides_visitOptional types typeOf value
  | throwStatement exception =>
    have raised : Hides (recordThrow types typeOf context exception path) fun silenced =>
        Site.only silenced (.throwing path) := .record _ _
    exact (hides_visitOptional types typeOf exception).seq raised
  | breakStatement | continueStatement | empty | noNext | noCase | noCatch => exact .skip
  | whileStatement condition body ih | untilStatement condition body ih | forEachStatement name condition body ih
  | forInStatement name condition body ih | switchStatement condition body ih =>
    exact (hides_visitExpression types typeOf condition).seq (ih context (0 :: path))
  | forStatement initializer condition afterRepeat body ih =>
    exact (hides_visitOptionalSimple types typeOf initializer).seq ((hides_visitOptional types typeOf condition).seq
      ((ih context (0 :: path)).seq (hides_visitOptionalSimple types typeOf afterRepeat).last))
  | conditional first ih | elseClause first ih | elseIf first ih => exact ih context (0 :: path)
  | tryStatement body catches ihBody ihCatches => exact (ihBody _ (0 :: path)).seq (ihCatches context (1 :: path))
  | cons first rest ihFirst ihRest =>
    have closes := closesBy_analyze context.isAsync first anyJump 0 0 []
    rw [FlowState.within_anyJump] at closes
    have behind : Hides (if closesBy first anyJump then .passedBy (analyzeStatement types typeOf rest context (1 :: path))
        else analyzeStatement types typeOf rest context (1 :: path))
        fun silenced => hiddenEffects rest (1 :: path) (closesBy first anyJump || silenced) := by
      cases closesBy first anyJump
      · exact ihRest context (1 :: path)
      · exact (ihRest context (1 :: path)).passedBy
    rw [analyzeStatement,← closes]
    exact (ihFirst context (0 :: path)).seq behind
  | ifClause negated condition body next ihBody ihNext =>
    exact (hides_scanStatement types typeOf condition).seq
      ((ihBody context (0 :: path)).seq (ihNext context (1 :: path)).last)
  | defaultClause body rest ihBody ihRest => exact (ihBody context (0 :: path)).seq (ihRest context (1 :: path))
  | caseClause pattern body rest ihBody ihRest =>
    exact (hides_visitExpression types typeOf pattern).seq
      ((ihBody context (0 :: path)).seq (ihRest context (1 :: path)).last)
  | catchClause type name body rest ihBody ihRest =>
    exact (ihBody (context.pushCatchException types type) (0 :: path)).seq (ihRest context (1 :: path))

end Statements

end ShardScript.Semantic
