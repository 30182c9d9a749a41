import ShardScript.Semantic.EffectSummary
import ShardScript.Syntax.Runs

/-! Programs, what the analyzer makes of them, and the runs of their methods: which fields they write
to and which exceptions they let escape. -/
namespace ShardScript.Semantic
open Library Behaviour Syntax

/-- A call that is written out, or the call of an accessor or of a constructor. -/
structure Call where
  site : Site
  callee : MethodSymbol
  isAccessor : Bool := false
  onThis : Bool := false
  deriving DecidableEq

inductive Happening (TypeSymbol : Type) where
  | reached (statement : Path)
  | leavesSwitch
  | awaits
  | indirectCall
  | nativeRaises
  | writes (site : Site) (field : FieldSymbol) (onThis : Bool)
  | passes (site : Site) (exception : TypeSymbol)
  | within (call : Call) (happening : Happening TypeSymbol)

abbrev Raised (TypeSymbol : Type) := Option TypeSymbol

section Runs

variable {TypeSymbol Lambda : Type} (execute : MethodSymbol → Behaviour (Happening TypeSymbol) (Raised TypeSymbol))

def escape (site : Site) : Raised TypeSymbol → Behaviour (Happening TypeSymbol) (Raised TypeSymbol)
  | none => leave none
  | some exception => seq (perform (.passes site exception)) (leave (some exception))

def invoke (call : Call) : Behaviour (Happening TypeSymbol) (Raised TypeSymbol) :=
  rescue (through (.within call) id (execute call.callee)) fun raised =>
    if call.callee.isAsync then done else escape call.site raised

/-- Through a receiver that is not written as `this` it can still be `this`. -/
def invokeAccessor (site : Site) (previous : Expression Lambda .optional) :
    Option MethodSymbol → Behaviour (Happening TypeSymbol) (Raised TypeSymbol)
  | none => done
  | some accessor =>
      pick (fun onThis => previous.isThisReceiver = true → onThis = true) fun onThis =>
        invoke execute ⟨site,accessor,true,onThis⟩

def writeField (site : Site) (previous : Expression Lambda .optional) (field : FieldSymbol) :
    Behaviour (Happening TypeSymbol) (Raised TypeSymbol) :=
  pick (fun onThis => if field.isStatic then onThis = false else previous.isThisReceiver = true → onThis = true)
    fun onThis => perform (.writes site field onThis)

def fetch : Expression Lambda .expression → Behaviour (Happening TypeSymbol) (Raised TypeSymbol)
  | .memberAccessExpression token previous (.property property)
  | .indexatorExpression token previous property _ =>
      invokeAccessor execute (.read token) previous property.getter
  | _ => done

def store : Expression Lambda .expression → Behaviour (Happening TypeSymbol) (Raised TypeSymbol)
  | .memberAccessExpression token previous (.field field)
  | .memberAccessExpression token previous (.backingField field) => writeField (.write token) previous field
  | .memberAccessExpression token previous (.property property)
  | .indexatorExpression token previous property _ =>
      invokeAccessor execute (.write token) previous property.setter
  | _ => done

def TokenType.isConditional : TokenType → Bool
  | orOperator | andOperator | nullCoalescingOperator => true
  | _ => false

/-- The runs of an expression; of a target only the receiver and the indices are evaluated. -/
@[grind] def Expression.runs : {kind : ExpressionKind} → Expression Lambda kind → (isTarget : Bool) →
    Behaviour (Happening TypeSymbol) (Raised TypeSymbol)
  | _,.literalExpression,_ | _,.lambdaExpression _,_ | _,.absent,_ | _,.noArgument,_ | _,.noArm,_ => done
  | _,.binaryExpression operator left right,_ =>
      if operator.isAssignmentOperator then
        seq (left.runs true) (seq (if operator = .assignOperator then done else fetch execute left)
          (seq (right.runs false) (store execute left)))
      else seq (left.runs false)
        (if operator.isConditional then either done (right.runs false) else right.runs false)
  | _,.unaryExpression operator operand,_ =>
      if operator.isIncrementDecrementOperator then
        seq (operand.runs true) (seq (fetch execute operand) (store execute operand))
      else operand.runs false
  | _,.awaitExpression operand,_ =>
      seq (operand.runs false) (seq (perform .awaits) (either done (pick (fun _ => True) leave)))
  | _,.memberAccessExpression token previous member,isTarget =>
      seq (previous.runs false)
        (if isTarget then done else fetch execute (.memberAccessExpression token previous member))
  | _,.invocationExpression token previous callee arguments,_ =>
      seq (previous.runs false) (seq (arguments.runs false)
        (match callee with
          | none => perform .indirectCall
          | some callee => invoke execute ⟨.call token,callee,false,false⟩))
  | _,.indexatorExpression token previous property arguments,isTarget =>
      seq (previous.runs false) (seq (arguments.runs false)
        (if isTarget then done else fetch execute (.indexatorExpression token previous property arguments)))
  | _,.objectExpression token constructor arraySize arguments,_ =>
      seq (arraySize.runs false) (seq (arguments.runs false)
        (match constructor with
          | none => done
          | some constructor => invoke execute ⟨.call token,constructor,false,false⟩))
  | _,.collectionExpression values,_ => values.runs false
  | _,.rangeExpression left right,_ => seq (left.runs false) (right.runs false)
  | _,.ternaryExpression condition left right,_ =>
      seq (condition.runs false) (either (left.runs false) (right.runs false))
  | _,.switchExpression scrutinee arms,_ => seq (scrutinee.runs false) (arms.runs false)
  | _,.castExpression operand,_ => operand.runs false
  | _,.present expression,_ => expression.runs false
  | _,.argument first rest,_ => seq (first.runs false) (rest.runs false)
  | _,.arm pattern value rest,_ => seq (pattern.runs false) (either (value.runs false) (rest.runs false))

variable (types : TypeModel TypeSymbol) (typeOf : Expression Lambda .expression → Option TypeSymbol)

def effectMeaning :
    Meaning (Expression Lambda .expression) TypeSymbol (Happening TypeSymbol) (Raised TypeSymbol) where
  evaluate := fun expression => expression.runs execute false
  advance := fun _ => either done (perform .indirectCall)
  dispose := fun _ => perform .indirectCall
  denotes := fun expression raised => ∀ exception, raised = some exception →
    types.isAssignableTo ((typeOf expression).getD types.any) exception = true
  catches := fun type raised => ∃ exception, raised = some exception ∧ types.isAssignableTo type exception = true

def Happening.ofEvent : Event (Expression Lambda .expression) TypeSymbol (Happening TypeSymbol) →
    Happening TypeSymbol
  | .reached statement => .reached statement
  | .leavesSwitch _ => .leavesSwitch
  | .effect happening => happening

def endBody : Ending (Jump (Raised TypeSymbol)) → Ending (Raised TypeSymbol)
  | .jump (.throws raised) => .jump raised
  | .ongoing => .ongoing
  | _ => .normal

def bodyRuns (body : Statement (Expression Lambda .expression) TypeSymbol .block) :
    Behaviour (Happening TypeSymbol) (Raised TypeSymbol) :=
  through Happening.ofEvent endBody (body.runs (effectMeaning execute types typeOf) none [])

end Runs

structure Program (TypeSymbol : Type) where
  types : TypeModel TypeSymbol
  level : Nat
  members : List (MethodSymbol × Code TypeSymbol level .block)
  /-- `GetExpressionType` of the semantic model. -/
  typeOf : {level : Nat} → Expression (Lambda TypeSymbol level) .expression → Option TypeSymbol
  native : Summaries TypeSymbol

namespace Program

variable {TypeSymbol : Type} (program : Program TypeSymbol)

def memberContext (method : MethodSymbol) : Context TypeSymbol := { isAsync := method.isAsync }

def walk {level : Nat} (current : Option MethodSymbol) (method : MethodSymbol)
    (body : Code TypeSymbol level .block) : Walk TypeSymbol (Lambda TypeSymbol level) :=
  analyzeStatement program.types program.typeOf body (memberContext method) [] current

def records : Records TypeSymbol :=
  program.members.flatMap fun member => (program.walk (some member.1) member.1 member.2).records

/-- The bodies of the members, each walked over with its method as the current one, and those of the lambdas
in them, which the analyzer passes by. -/
inductive HasBody : {level : Nat} → Option MethodSymbol → MethodSymbol → Code TypeSymbol level .block → Prop
  | member {method body} : (method,body) ∈ program.members → HasBody (some method) method body
  | lambda {level current method} {body : Code TypeSymbol (level + 1) .block}
      {lambda : LambdaExpression (Expression (Lambda TypeSymbol level) .expression) TypeSymbol} :
      HasBody current method body → lambda ∈ (program.walk current method body).lambdas →
        HasBody none lambda.symbol lambda.body

theorem HasBody.current_eq {level : Nat} {current : Option MethodSymbol} {method : MethodSymbol}
    {body : Code TypeSymbol level .block} (has : program.HasBody current method body) :
    current = none ∨ current = some method := by
  cases has with
  | member => exact .inr rfl
  | lambda => exact .inl rfl

theorem HasBody.records {level : Nat} {current : Option MethodSymbol} {method : MethodSymbol}
    {body : Code TypeSymbol level .block} (has : program.HasBody current method body)
    (known : current = some method) {entry : MethodSymbol × Record TypeSymbol}
    (recorded : entry ∈ (program.walk current method body).records) : entry ∈ program.records := by
  cases has with
  | member member => exact List.mem_flatMap.2 ⟨_,member,recorded⟩
  | lambda => cases known

/-- The summaries that `Analyze` leaves; the callers come in the order of the call graph. -/
def analyze [DecidableEq TypeSymbol] (callers : List MethodSymbol) (fuel : Nat) : Option (Summaries TypeSymbol) :=
  propagateEffects program.types program.records callers fuel (scanned program.native program.records)

def body (method : MethodSymbol) : Option (Code TypeSymbol program.level .block) :=
  (program.members.find? fun member => member.1 = method).map Prod.snd

/-- A callback of the host may raise anything. -/
def nativeRuns : Behaviour (Happening TypeSymbol) (Raised TypeSymbol) :=
  either done (seq (perform .nativeRaises) (pick (fun _ => True) fun exception => leave (some exception)))

def execute : Nat → MethodSymbol → Behaviour (Happening TypeSymbol) (Raised TypeSymbol)
  | 0,_ => fun _ _ => False
  | depth + 1,method =>
      match program.body method with
      | none => nativeRuns
      | some body => bodyRuns (execute depth) program.types program.typeOf body

end Program

end ShardScript.Semantic
