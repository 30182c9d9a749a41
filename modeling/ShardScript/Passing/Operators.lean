import ShardScript.Passing.Machine
import ShardScript.Primitive.Machine

/-! The operands of a user's operator, as its method has them in its parameters. -/
namespace ShardScript.Passing
open Library
open Semantic (TokenType)
open Primitive (Instance FloatingPoint Failure)

structure OperatorSymbol where
  name : String
  parameterTypes : List (Option Primitive.TypeSymbol)
  returnsVoid : Bool
  deriving DecidableEq

namespace OperatorSymbol

def method (operator : OperatorSymbol) : MethodSymbol where
  name := operator.name
  isInstance := false
  parameters := (List.range operator.parameterTypes.length).map .declared
  returnsVoid := operator.returnsVoid

def isBinary (operator : OperatorSymbol) : Bool := operator.parameterTypes.length == 2

theorem count_method {operator : OperatorSymbol} (binary : operator.isBinary = true) :
    operator.method.getEvalStackArgumentsCount = 2 := by
  have length : operator.method.parameters.length = 2 := by
    rw [method,List.length_map,List.length_range]
    exact beq_iff_eq.1 binary
  rw [MethodSymbol.getEvalStackArgumentsCount,length]
  rfl

end OperatorSymbol

section Lookup

variable (isAssignableTo : Primitive.TypeSymbol → Primitive.TypeSymbol → Bool)

def paramPredicate : Option Primitive.TypeSymbol → Primitive.TypeSymbol → Bool
  | none,_ => true
  | some left,right => isAssignableTo left right

def findOperator (operators : List OperatorSymbol) (token : TokenType) (parameterTypes : List Primitive.TypeSymbol) :
    Option OperatorSymbol :=
  (Primitive.operatorMethodName token).bind fun name => operators.find? fun symbol =>
    symbol.name == name && symbol.parameterTypes.length == parameterTypes.length &&
      (symbol.parameterTypes.zip parameterTypes).all fun pair => paramPredicate isAssignableTo pair.1 pair.2

theorem isBinary_of_findOperator {operators : List OperatorSymbol} {token : TokenType}
    {left right : Primitive.TypeSymbol} {operator : OperatorSymbol}
    (found : findOperator isAssignableTo operators token [left,right] = some operator) : operator.isBinary = true := by
  obtain ⟨name,_,found⟩ := Option.bind_eq_some_iff.1 found
  have known := List.find?_some found
  rw [Bool.and_eq_true,Bool.and_eq_true] at known
  exact known.1.2

end Lookup

variable {Double World : Type} [FloatingPoint Double]

def lift {Result : Type} : Except Failure Result → Evaluation (Instance Double) World Result
  | .ok result => pure result
  | .error _ => fail

variable (body : MethodSymbol → List (Instance Double) → Attempt World (Instance Double))
  (isAssignableTo : Primitive.TypeSymbol → Primitive.TypeSymbol → Bool)
  -- The operators that are declared in a type.
  (operators : Primitive.TypeSymbol → List OperatorSymbol)

def invokeOperatorMethod (leftInstance : Instance Double) (opToken : TokenType) (rightInstance : Instance Double) :
    Evaluation (Instance Double) World (Instance Double) :=
  match findOperator isAssignableTo (operators leftInstance.type) opToken [leftInstance.type,rightInstance.type] with
  | none => fail
  | some method => do
      invokeMethod body method.method [rightInstance,leftInstance]
      pop

def executeBinary (token : TokenType) : Evaluation (Instance Double) World Unit := do
  let right ← pop
  let left ← pop
  if right.isNullInstance || left.isNullInstance then push (.boolean false)
  else
    lift (Primitive.Machine.checkDivisor token right)
    let result ← lift (Primitive.executeBinary token left right)
    match result with
    | some result => push result
    | none => do
        let result ← invokeOperatorMethod body isAssignableTo operators left token right
        push result

def visitBinaryExpression (token : TokenType) (toOperator : Option OperatorSymbol) (left right : Instance Double) :
    Evaluation (Instance Double) World Unit :=
  match toOperator with
  | some operator => do
      visitExpression right
      visitExpression left
      callMethodSymbol body operator.method
  | none => do
      visitExpression left
      visitExpression right
      executeBinary body isAssignableTo operators token

def visitCaseClause (switchSlot : Nat) (equalityOperator : Option OperatorSymbol) (pattern : Instance Double) :
    Evaluation (Instance Double) World Unit :=
  match equalityOperator with
  | some operator => do
      visitExpression pattern
      loadLocal switchSlot
      callMethodSymbol body operator.method
  | none => do
      loadLocal switchSlot
      visitExpression pattern
      executeBinary body isAssignableTo operators .equalsOperator

inductive OperatorSite where
  | binaryExpression (token : TokenType)
  | switchCase (switchSlot : Nat)

namespace OperatorSite

def token : OperatorSite → TokenType
  | binaryExpression token => token
  | switchCase _ => .equalsOperator

def visit (site : OperatorSite) (bound : Option OperatorSymbol) (left right : Instance Double) :
    Evaluation (Instance Double) World Unit :=
  match site with
  | binaryExpression token => visitBinaryExpression body isAssignableTo operators token bound left right
  | switchCase switchSlot => do
      visitExpression left
      storeLocal switchSlot
      visitCaseClause body isAssignableTo operators switchSlot bound right

end OperatorSite

/-- The operator is called for the operands: it was bound by the compiler, or nothing was, the operands are declined by
the operations on primitive values, and it is found for their types. -/
inductive Dispatched (token : TokenType) (left right : Instance Double) (operator : OperatorSymbol) :
    Option OperatorSymbol → Prop where
  | compileTime (binary : operator.isBinary = true) : Dispatched token left right operator (some operator)
  | runTime (present : left.isNullInstance = false) (present' : right.isNullInstance = false)
      (divisor : Primitive.Machine.checkDivisor token right = .ok ())
      (declined : Primitive.executeBinary token left right = .ok none)
      (found : findOperator isAssignableTo (operators left.type) token [left.type,right.type] = some operator) :
      Dispatched token left right operator none

variable {isAssignableTo operators} {left right : Instance Double}

theorem executeBinary_dispatched {token : TokenType} {operator : OperatorSymbol}
    (dispatched : Dispatched isAssignableTo operators token left right operator none)
    (machine : Machine (Instance Double) World) {stack : List (Instance Double)} :
    executeBinary body isAssignableTo operators token { machine with stack := right :: left :: stack } =
      ((invokeMethod body operator.method [right,left] >>= fun _ => pop) >>= push) { machine with stack := stack } := by
  cases dispatched with
  | runTime present present' divisor declined found =>
    have method : invokeOperatorMethod body isAssignableTo operators left token right =
        (invokeMethod body operator.method [right,left] >>= fun _ => pop) := by
      rw [invokeOperatorMethod,found]
    rw [executeBinary,← method]
    change (if (right.isNullInstance || left.isNullInstance) = true then _ else _ : Evaluation _ _ Unit) _ = _
    rw [present,present',Bool.or_self,if_neg Bool.false_ne_true,divisor,declined]
    rfl

variable {bound : Option OperatorSymbol}

theorem visitBinaryExpression_frames {token : TokenType}
    {operator : OperatorSymbol} (dispatched : Dispatched isAssignableTo operators token left right operator bound)
    (machine : Machine (Instance Double) World) :
    (visitBinaryExpression body isAssignableTo operators token bound left right machine).2.frames = machine.frames ++
      [⟨operator.method,if bound.isSome then [left,right] else [right,left]⟩] := by
  cases bound with
  | some bound =>
    cases dispatched with
    | compileTime binary =>
      have count : operator.method.getEvalStackArgumentsCount = [left,right].length := operator.count_method binary
      change (callMethodSymbol body operator.method { machine with stack := left :: right :: machine.stack }).2.frames = _
      rw [callMethodSymbol_run body machine.stack _ count rfl,invokeMethod_frames body count]
      rfl
  | none =>
    have binary : operator.isBinary = true := by
      cases dispatched with
      | runTime _ _ _ _ found => exact isBinary_of_findOperator isAssignableTo found
    have count : operator.method.getEvalStackArgumentsCount = [right,left].length := operator.count_method binary
    change (executeBinary body isAssignableTo operators token
      { machine with stack := right :: left :: machine.stack }).2.frames = _
    rw [executeBinary_dispatched body dispatched machine,frames_bind _ fun _ _ => rfl,
      frames_bind _ fun _ machine => pop_frames machine,invokeMethod_frames body count]
    rfl

theorem visitCaseClause_run {switchSlot : Nat}
    {machine : Machine (Instance Double) World} (known : machine.locals switchSlot = some left) :
    visitCaseClause body isAssignableTo operators switchSlot bound right machine =
      visitBinaryExpression body isAssignableTo operators .equalsOperator bound left right machine := by
  cases bound with
  | some operator =>
    have loaded : loadLocal switchSlot { machine with stack := right :: machine.stack } =
        push left { machine with stack := right :: machine.stack } := loadLocal_run known
    change ((loadLocal switchSlot >>= fun _ => callMethodSymbol body operator.method) :
      Evaluation (Instance Double) World Unit) { machine with stack := right :: machine.stack } = _
    rw [Attempt.run_bind,loaded]
    rfl
  | none =>
    rw [visitCaseClause,Attempt.run_bind,loadLocal_run known]
    rfl

variable (isAssignableTo operators)

/-- The left operand of a dispatched operator is in its first parameter, and the right one in its second, if and only if
the compiler has bound it, or the two are the same. -/
theorem operands_in_order_iff (site : OperatorSite) (bound : Option OperatorSymbol) (left right : Instance Double)
    (operator : OperatorSymbol) (dispatched : Dispatched isAssignableTo operators site.token left right operator bound)
    (machine : Machine (Instance Double) World) :
    (site.visit body isAssignableTo operators bound left right machine).2.frames =
        machine.frames ++ [⟨operator.method,[left,right]⟩] ↔ bound.isSome = true ∨ left = right := by
  have frames : (site.visit body isAssignableTo operators bound left right machine).2.frames = machine.frames ++
      [⟨operator.method,if bound.isSome then [left,right] else [right,left]⟩] := by
    cases site with
    | binaryExpression token => exact visitBinaryExpression_frames body dispatched machine
    | switchCase switchSlot =>
      change (visitCaseClause body isAssignableTo operators switchSlot bound right
        (machine.setLocal switchSlot left)).2.frames = _
      rw [visitCaseClause_run body (setLocal_locals machine switchSlot left)]
      exact visitBinaryExpression_frames body dispatched (machine.setLocal switchSlot left)
  rw [frames,List.append_right_inj,List.singleton_inj,Frame.mk.injEq,and_iff_right rfl]
  cases bound with
  | some bound => exact iff_of_true rfl (.inl rfl)
  | none => simp [eq_comm]

section Instances

def subtraction : OperatorSymbol := ⟨"op_SubOperator",[some (.classType 0),some (.classType 0)],false⟩

theorem subtraction_dispatched :
    Dispatched (fun left right => left == right) (fun _ => [subtraction]) (OperatorSite.binaryExpression .subOperator).token
      (.object 0 1 : Instance Int64) (.object 0 2) subtraction none :=
  .runTime rfl rfl rfl rfl (by decide)

/-- Then it is the first one that is subtracted from the second. -/
theorem operands_exchanged :
    (OperatorSite.visit (fun _ slots => (pure (slots.headD .null) : Attempt Unit (Instance Int64)))
        (fun left right => left == right) (fun _ => [subtraction]) (.binaryExpression .subOperator) none (.object 0 1)
        (.object 0 2) ⟨[],fun _ => none,[],()⟩).2.frames ≠ [⟨subtraction.method,[.object 0 1,.object 0 2]⟩] := by
  intro same
  have frames := visitBinaryExpression_frames (fun _ slots => (pure (slots.headD .null) : Attempt Unit (Instance Int64)))
    subtraction_dispatched ⟨[],fun _ => none,[],()⟩
  have slots := congrArg (List.map fun frame => frame.slots) (frames.symm.trans same)
  simp at slots

theorem operands_in_order_subtraction :
    (OperatorSite.visit (fun _ slots => (pure (slots.headD .null) : Attempt Unit (Instance Int64)))
        (fun left right => left == right) (fun _ => [subtraction]) (.binaryExpression .subOperator) none (.object 0 1)
        (.object 0 2) ⟨[],fun _ => none,[],()⟩).2.frames = [] ++ [⟨subtraction.method,[.object 0 1,.object 0 2]⟩] ↔
      (none : Option OperatorSymbol).isSome = true ∨ (.object 0 1 : Instance Int64) = .object 0 2 :=
  operands_in_order_iff (fun _ slots => (pure (slots.headD .null) : Attempt Unit (Instance Int64)))
    (fun left right => left == right) (fun _ => [subtraction]) (.binaryExpression .subOperator) none (.object 0 1)
    (.object 0 2) subtraction subtraction_dispatched ⟨[],fun _ => none,[],()⟩

end Instances

end ShardScript.Passing
