import ShardScript.Semantic.Expression
import ShardScript.Semantic.FlowState

/-! The side-effect scan of member bodies: what the walk over a body records for its method. -/
namespace ShardScript.Semantic
open Syntax

structure TypeModel (TypeSymbol : Type) where
  any : TypeSymbol
  isAssignableTo : TypeSymbol → TypeSymbol → Bool
  isTaskOrTaskLike : TypeSymbol → Bool
  isAssignableTo_any : ∀ source, isAssignableTo any source = true

/-- Types that are not generic: each is assignable to itself, to its interfaces, and to `any`. -/
def TypeModel.nominal {TypeSymbol : Type} [DecidableEq TypeSymbol] (any : TypeSymbol)
    (allInterfaces : TypeSymbol → List TypeSymbol) (isTaskOrTaskLike : TypeSymbol → Bool) :
    TypeModel TypeSymbol where
  any := any
  isAssignableTo := fun target source => target = source || target = any || (allInterfaces source).contains target
  isTaskOrTaskLike := isTaskOrTaskLike
  isAssignableTo_any := by simp

theorem TypeModel.nominal_trans {TypeSymbol : Type} [DecidableEq TypeSymbol] {any : TypeSymbol}
    {allInterfaces : TypeSymbol → List TypeSymbol} {isTaskOrTaskLike : TypeSymbol → Bool}
    (none : allInterfaces any = [])
    (closed : ∀ source, ∀ middle ∈ allInterfaces source, allInterfaces middle ⊆ allInterfaces source)
    (target middle source : TypeSymbol)
    (one : (nominal any allInterfaces isTaskOrTaskLike).isAssignableTo target middle = true)
    (two : (nominal any allInterfaces isTaskOrTaskLike).isAssignableTo middle source = true) :
    (nominal any allInterfaces isTaskOrTaskLike).isAssignableTo target source = true := by
  simp only [nominal,Bool.or_eq_true,decide_eq_true_eq,List.contains_iff_mem] at one two ⊢
  rcases two with (rfl | rfl) | inherits
  · exact one
  · rcases one with (rfl | rfl) | inherited
    · exact .inl (.inr rfl)
    · exact .inl (.inr rfl)
    · rw [none] at inherited
      cases inherited
  · rcases one with (rfl | rfl) | inherited
    · exact .inr inherits
    · exact .inl (.inr rfl)
    · exact .inr (closed source middle inherits inherited)

structure TryCatchFrame (TypeSymbol : Type) where
  caughtTypes : List TypeSymbol := []
  catchesAll : Bool := false

structure CallEdge (TypeSymbol : Type) where
  callee : MethodSymbol
  callSite : SyntaxToken
  caughtTypes : List TypeSymbol
  catchesAll : Bool
  isAwaited : Bool

/-- What is written to the summary of the current method, or to its edges. -/
inductive Record (TypeSymbol : Type) where
  | throws (thrownType : TypeSymbol) (isCaught isAsync : Bool)
  | mayThrow
  | calls (edge : CallEdge TypeSymbol)
  | hasUnknownSideEffects
  | mutatesInstance | mutatesStatic
  | assignsInstanceField (field : FieldSymbol)
  | assignsStaticField (field : FieldSymbol)

section Catching

variable {TypeSymbol : Type}

/-- The frame of a `try`; the clauses behind one without a type are not looked at. -/
def TryCatchFrame.ofClauses {Expression : Type} :
    Statement Expression TypeSymbol .catches → TryCatchFrame TypeSymbol
  | .noCatch => {}
  | .catchClause none _ _ _ => { catchesAll := true }
  | .catchClause (some type) _ _ rest =>
      { ofClauses rest with caughtTypes := type :: (ofClauses rest).caughtTypes }

/-- The frames of the `try` statements around a place, and the types of the catch clauses. -/
structure Context (TypeSymbol : Type) where
  tryCatchStack : List (TryCatchFrame TypeSymbol) := []
  catchExceptionStack : List TypeSymbol := []
  isAsync : Bool := false

variable (types : TypeModel TypeSymbol) (stack : List (TryCatchFrame TypeSymbol))

def effectiveCaughtTypes : List TypeSymbol :=
  stack.flatMap fun frame => if frame.catchesAll then [] else frame.caughtTypes

def catchAllDepth : Nat :=
  (stack.filter TryCatchFrame.catchesAll).length

def isCaughtBy (thrownType : TypeSymbol) : Bool :=
  decide (0 < catchAllDepth stack) || (effectiveCaughtTypes stack).any (types.isAssignableTo · thrownType)

def CallEdge.catches (edge : CallEdge TypeSymbol) (thrownType : TypeSymbol) : Bool :=
  edge.catchesAll || edge.caughtTypes.any (types.isAssignableTo · thrownType)

namespace Context

variable (context : Context TypeSymbol)

def pushTryCatch (frame : TryCatchFrame TypeSymbol) : Context TypeSymbol :=
  { context with tryCatchStack := frame :: context.tryCatchStack }

def pushCatchException (type : Option TypeSymbol) : Context TypeSymbol :=
  { context with catchExceptionStack := type.getD types.any :: context.catchExceptionStack }

def currentCatchExceptionType : Option TypeSymbol := context.catchExceptionStack.head?

def isCaughtByActiveTry (thrownType : TypeSymbol) : Bool := isCaughtBy types context.tryCatchStack thrownType

end Context

end Catching

inductive Site where
  | throwing (statement : Path)
  | call (token : SyntaxToken)
  | read (token : SyntaxToken)
  | write (token : SyntaxToken)
  deriving DecidableEq

abbrev Records (TypeSymbol : Type) := List (MethodSymbol × Record TypeSymbol)

structure Walk (TypeSymbol Lambda : Type) where
  records : Records TypeSymbol := []
  lambdas : List Lambda := []
  unheard : List Site := []

abbrev Walker (TypeSymbol Lambda : Type) := Option MethodSymbol → Walk TypeSymbol Lambda

namespace Walker

variable {TypeSymbol Lambda : Type}

def skip : Walker TypeSymbol Lambda := fun _ => {}

def seq (first second : Walker TypeSymbol Lambda) : Walker TypeSymbol Lambda := fun current =>
  let one := first current
  let two := second current
  ⟨one.records ++ two.records,one.lambdas ++ two.lambdas,one.unheard ++ two.unheard⟩

def all : List (Walker TypeSymbol Lambda) → Walker TypeSymbol Lambda
  | [] => skip
  | first :: rest => seq first (all rest)

def note (records : List (Record TypeSymbol)) : Walker TypeSymbol Lambda
  | none => {}
  | some method => { records := records.map (method,·) }

def record (site : Site) (records : List (Record TypeSymbol)) : Walker TypeSymbol Lambda
  | none => { unheard := [site] }
  | some method => { records := records.map (method,·) }

def unheard (site : Site) : Walker TypeSymbol Lambda := fun _ => { unheard := [site] }

def passedBy (part : Walker TypeSymbol Lambda) : Walker TypeSymbol Lambda :=
  fun _ => { lambdas := (part none).lambdas, unheard := (part none).unheard }

/-- The method of a lambda is looked up by the node of the lambda, to which no symbol is ever bound, and so
`VisitLambdaExpression` returns at once. -/
def lambda (lambda : Lambda) : Walker TypeSymbol Lambda := fun _ => { lambdas := [lambda] }

end Walker

section Walk

variable {TypeSymbol Lambda : Type} (types : TypeModel TypeSymbol)
  (typeOf : Expression Lambda .expression → Option TypeSymbol)

def callEdge (context : Context TypeSymbol) (callee : MethodSymbol) (callSite : SyntaxToken)
    (isAwaited : Bool) : CallEdge TypeSymbol where
  callee := callee
  callSite := callSite
  caughtTypes := effectiveCaughtTypes context.tryCatchStack
  catchesAll := decide (0 < catchAllDepth context.tryCatchStack)
  isAwaited := isAwaited

def mutates (isStaticContext isThisReceiver : Bool) : List (Record TypeSymbol) :=
  if isStaticContext then [.mutatesStatic] else if isThisReceiver then [.mutatesInstance] else []

def recordSetter (context : Context TypeSymbol) (token : SyntaxToken) (property : PropertySymbol) :
    List (Record TypeSymbol) :=
  match property.setter with
  | none => []
  | some setter => [.calls (callEdge context setter token false)]

def assigns (isStaticContext isThisReceiver : Bool) (field : FieldSymbol) : List (Record TypeSymbol) :=
  if isStaticContext then [.mutatesStatic,.assignsStaticField field]
  else if isThisReceiver then [.mutatesInstance,.assignsInstanceField field] else []

def isHeard (isStaticContext isThisReceiver : Bool) (field : FieldSymbol) : Bool :=
  isStaticContext && field.isStatic || !isStaticContext && isThisReceiver && !field.isStatic

def recordFieldWrite (token : SyntaxToken) (isStaticContext isThisReceiver : Bool) (field : FieldSymbol) :
    Walker TypeSymbol Lambda :=
  .seq (.record (.write token) (assigns isStaticContext isThisReceiver field))
    (if isHeard isStaticContext isThisReceiver field then .skip else .unheard (.write token))

def recordFieldOrPropertyWrite (context : Context TypeSymbol) (token : SyntaxToken)
    (previous : Expression Lambda .optional) (member : Member) : Walker TypeSymbol Lambda :=
  match member with
  | .field field | .backingField field =>
      recordFieldWrite token member.isStaticContext previous.isThisReceiver field
  | .property property =>
      .record (.write token) (mutates member.isStaticContext previous.isThisReceiver ++
        recordSetter context token property)
  | _ => .skip

def recordIndexatorWrite (context : Context TypeSymbol) (token : SyntaxToken)
    (previous : Expression Lambda .optional) (property : PropertySymbol) : Walker TypeSymbol Lambda :=
  .record (.write token) (mutates false previous.isThisReceiver ++ recordSetter context token property)

def recordWrite (context : Context TypeSymbol) : Expression Lambda .expression → Walker TypeSymbol Lambda
  | .memberAccessExpression token previous member => recordFieldOrPropertyWrite context token previous member
  | .indexatorExpression token previous property _ => recordIndexatorWrite context token previous property
  | _ => .skip

def unheardGetter (token : SyntaxToken) (property : PropertySymbol) : Walker TypeSymbol Lambda :=
  match property.getter with
  | none => .skip
  | some _ => .unheard (.read token)

def recordAwait (context : Context TypeSymbol) (awaited : Expression Lambda .expression) :
    Walker TypeSymbol Lambda :=
  match awaited with
  | .invocationExpression token _ (some callee) _ =>
      if callee.isAsync then .note [.calls (callEdge context callee token true)] else .skip
  | .invocationExpression _ _ none _ => .skip
  | _ =>
      match typeOf awaited with
      | none => .skip
      | some type => if types.isTaskOrTaskLike type then .note [.mayThrow] else .skip

def visitExpression (context : Context TypeSymbol) : {kind : ExpressionKind} →
    Expression Lambda kind → Walker TypeSymbol Lambda
  | _,.literalExpression | _,.absent | _,.noArgument | _,.noArm => .skip
  | _,.binaryExpression operator left right =>
      .all [if operator.isAssignmentOperator then recordWrite context left else .skip,
        visitExpression context left,visitExpression context right]
  | _,.unaryExpression operator operand =>
      .seq (if operator.isIncrementDecrementOperator then recordWrite context operand else .skip)
        (visitExpression context operand)
  | _,.awaitExpression operand =>
      .seq (recordAwait types typeOf context operand) (visitExpression context operand)
  | _,.memberAccessExpression token previous member =>
      .seq (.passedBy (visitExpression context previous))
        (match member with
          | .property property => unheardGetter token property
          | _ => .skip)
  | _,.invocationExpression token previous callee arguments =>
      .all [match callee with
          | none => .note [.hasUnknownSideEffects]
          | some callee =>
              if callee.isAsync then .unheard (.call token)
              else .record (.call token) [.calls (callEdge context callee token false)],
        .passedBy (visitExpression context previous),visitExpression context arguments]
  | _,.indexatorExpression token previous property arguments =>
      .all [.passedBy (visitExpression context previous),visitExpression context arguments,
        unheardGetter token property]
  | _,.objectExpression token constructor arraySize arguments =>
      .all [match constructor with
          | none => .skip
          | some constructor => .record (.call token) [.calls (callEdge context constructor token false)],
        visitExpression context arraySize,visitExpression context arguments]
  | _,.collectionExpression values => visitExpression context values
  | _,.rangeExpression left right =>
      .seq (visitExpression context left) (visitExpression context right)
  | _,.lambdaExpression lambda => .lambda lambda
  | _,.ternaryExpression condition left right =>
      .all [visitExpression context condition,visitExpression context left,visitExpression context right]
  | _,.switchExpression scrutinee arms =>
      .seq (visitExpression context scrutinee) (visitExpression context arms)
  | _,.castExpression operand => visitExpression context operand
  | _,.present expression => visitExpression context expression
  | _,.argument first rest => .seq (visitExpression context first) (visitExpression context rest)
  | _,.arm pattern value rest =>
      .all [visitExpression context pattern,visitExpression context value,visitExpression context rest]

def visitOptional (context : Context TypeSymbol) : Option (Expression Lambda .expression) →
    Walker TypeSymbol Lambda
  | none => .skip
  | some expression => visitExpression types typeOf context expression

def visitSimple (context : Context TypeSymbol) : Simple (Expression Lambda .expression) →
    Walker TypeSymbol Lambda
  | .expressionStatement expression => visitExpression types typeOf context expression
  | .variableStatement _ value => visitOptional types typeOf context value

def visitOptionalSimple (context : Context TypeSymbol) :
    Option (Simple (Expression Lambda .expression)) → Walker TypeSymbol Lambda
  | none => .skip
  | some statement => visitSimple types typeOf context statement

/-- Through `ScanStatement` the initializer of a variable is not reached. -/
def scanStatement (context : Context TypeSymbol) : Simple (Expression Lambda .expression) →
    Walker TypeSymbol Lambda
  | .expressionStatement expression => visitExpression types typeOf context expression
  | .variableStatement _ value => .passedBy (visitOptional types typeOf context value)

def thrownType (context : Context TypeSymbol) : Option (Expression Lambda .expression) → TypeSymbol
  | none => context.currentCatchExceptionType.getD types.any
  | some exception => (typeOf exception).getD types.any

def recordThrow (context : Context TypeSymbol) (exception : Option (Expression Lambda .expression))
    (path : Path) : Walker TypeSymbol Lambda :=
  let thrown := thrownType types typeOf context exception
  .record (.throwing path) [.throws thrown (context.isCaughtByActiveTry types thrown) context.isAsync]

@[grind] def analyzeStatement : {kind : StatementKind} → Statement (Expression Lambda .expression) TypeSymbol kind →
    Context TypeSymbol → Path → Walker TypeSymbol Lambda
  | _,.simple statement,context,_ => visitSimple types typeOf context statement
  | _,.returnStatement value,context,_ => visitOptional types typeOf context value
  | _,.throwStatement exception,context,path =>
      .seq (visitOptional types typeOf context exception) (recordThrow types typeOf context exception path)
  | _,.breakStatement,_,_ | _,.continueStatement,_,_ | _,.empty,_,_ | _,.noNext,_,_ | _,.noCase,_,_
  | _,.noCatch,_,_ => .skip
  | _,.whileStatement condition body,context,path | _,.untilStatement condition body,context,path =>
      .seq (visitExpression types typeOf context condition) (analyzeStatement body context (0 :: path))
  | _,.forStatement initializer condition afterRepeat body,context,path =>
      .all [visitOptionalSimple types typeOf context initializer,
        visitOptional types typeOf context condition,analyzeStatement body context (0 :: path),
        visitOptionalSimple types typeOf context afterRepeat]
  | _,.forEachStatement _ range body,context,path | _,.forInStatement _ range body,context,path =>
      .seq (visitExpression types typeOf context range) (analyzeStatement body context (0 :: path))
  | _,.conditional first,context,path => analyzeStatement first context (0 :: path)
  | _,.switchStatement scrutinee cases,context,path =>
      .seq (visitExpression types typeOf context scrutinee) (analyzeStatement cases context (0 :: path))
  | _,.tryStatement body catches,context,path =>
      .seq (analyzeStatement body
          (if catches.isNoCatch then context else context.pushTryCatch (.ofClauses catches)) (0 :: path))
        (analyzeStatement catches context (1 :: path))
  | _,.deferStatement _ statement,context,_ => visitSimple types typeOf context statement
  | _,.cons first rest,context,path =>
      .seq (analyzeStatement first context (0 :: path))
        (if (analyze context.isAsync first 0 0 []).state.isTerminal
          then .passedBy (analyzeStatement rest context (1 :: path))
          else analyzeStatement rest context (1 :: path))
  | _,.ifClause _ condition body next,context,path =>
      .all [scanStatement types typeOf context condition,analyzeStatement body context (0 :: path),
        analyzeStatement next context (1 :: path)]
  | _,.elseClause body,context,path => analyzeStatement body context (0 :: path)
  | _,.elseIf clause,context,path => analyzeStatement clause context (0 :: path)
  | _,.defaultClause body rest,context,path =>
      .seq (analyzeStatement body context (0 :: path)) (analyzeStatement rest context (1 :: path))
  | _,.caseClause pattern body rest,context,path =>
      .all [visitExpression types typeOf context pattern,analyzeStatement body context (0 :: path),
        analyzeStatement rest context (1 :: path)]
  | _,.catchClause type _ body rest,context,path =>
      .seq (analyzeStatement body (context.pushCatchException types type) (0 :: path))
        (analyzeStatement rest context (1 :: path))

end Walk

end ShardScript.Semantic
