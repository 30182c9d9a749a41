import ShardScript.Primitive.Binder

/-! The code of expressions over literals and locals, and what the virtual machine does with it. -/
namespace ShardScript.Primitive
open Semantic

inductive Instruction (Double : Type) where
  | loadConstNull
  | loadConstBoolean (value : Bool)
  | loadConstInteger64 (value : Int64)
  | loadConstRational64 (value : Double)
  | loadConstChar (value : UInt16)
  | loadConstString (text : List UInt16)
  | castPrimitive (targetType : TypeSymbol)
  | loadLocal (slot : Nat)
  | storeLocal (slot : Nat)
  | duplicate
  | mathBinary (operator : TokenType)
  | mathUnary (operator : TokenType)

section Emission

variable {Double : Type}

def isAssignExpression (operator : TokenType) : Bool :=
  operator.isAssignmentOperator || operator.isIncrementDecrementOperator

def binaryInstruction : TokenType → Option TokenType
  | .addOperator | .addAssignOperator => some .addOperator
  | .subOperator | .subAssignOperator => some .subOperator
  | .multOperator | .multAssignOperator => some .multOperator
  | .divOperator | .divAssignOperator => some .divOperator
  | .modOperator | .modAssignOperator => some .modOperator
  | .powOperator | .powAssignOperator => some .powOperator
  | .equalsOperator => some .equalsOperator
  | .notEqualsOperator => some .notEqualsOperator
  | .greaterOperator => some .greaterOperator
  | .greaterOrEqualsOperator => some .greaterOrEqualsOperator
  | .lessOperator => some .lessOperator
  | .lessOrEqualsOperator => some .lessOrEqualsOperator
  | .orOperator | .orAssignOperator => some .orOperator
  | .andOperator | .andAssignOperator => some .andOperator
  | .leftShiftOperator => some .leftShiftOperator
  | .rightShiftOperator => some .rightShiftOperator
  -- No instruction is known for the others.
  | .assignOperator | .incrementOperator | .decrementOperator | .notOperator | .nullCoalescingOperator => none

def emitBinaryOperation (operator : TokenType) : Option (List (Instruction Double)) :=
  (binaryInstruction operator).map fun operator => [.mathBinary operator]

/-- The steps of an increment or a decrement, before or behind the copy that is left as the value. -/
def emitStep (operator : TokenType) (isRightDetermined : Bool) : List (Instruction Double) :=
  if isRightDetermined then [.loadConstInteger64 1,.mathBinary operator,.duplicate]
  else [.duplicate,.loadConstInteger64 1,.mathBinary operator]

def emitUnaryOperation (operator : TokenType) (isRightDetermined : Bool) : Option (List (Instruction Double)) :=
  match operator with
  | .subOperator => some [.mathUnary .subOperator]
  -- A plus in front is nothing.
  | .addOperator => some []
  | .notOperator => some [.mathUnary .notOperator]
  | .incrementOperator => some (emitStep .addOperator isRightDetermined)
  | .decrementOperator => some (emitStep .subOperator isRightDetermined)
  | _ => none

def emitLiteral (expected : Option TypeSymbol) : Literal Double → List (Instruction Double)
  | .null => [.loadConstNull]
  | .boolean value => [.loadConstBoolean value]
  | .number value => .loadConstInteger64 value ::
      if numberType expected = .integer then [] else [.castPrimitive (numberType expected)]
  | .double value => [.loadConstRational64 value]
  | .char value => [.loadConstChar value]
  | .string text => [.loadConstString text]

def toVariable : Expression Double → Option Nat
  | .localVariable slotIndex => some slotIndex
  | _ => none

/-- The code of an expression where no operator of the user was selected. What is assigned to is taken for a member
access. -/
@[grind] def emit (declared : Nat → TypeSymbol) (expected : Option TypeSymbol) :
    Expression Double → Option (List (Instruction Double))
  | .literalExpression literal => some (emitLiteral expected literal)
  | .localVariable slotIndex => some [.loadLocal slotIndex]
  | .binaryExpression operator left right =>
      if isAssignExpression operator then
        match toVariable left with
        | some slotIndex => do
            let value ← emit declared (if operator = .assignOperator then some (declared slotIndex) else expected) right
            some (value ++ [.storeLocal slotIndex])
        | none => none
      else do
        let left ← emit declared expected left
        let right ← emit declared expected right
        let operation ← emitBinaryOperation operator
        some (left ++ right ++ operation)
  | .unaryExpression operator isRightDetermined operand =>
      if isAssignExpression operator then
        match toVariable operand with
        | some slotIndex => do
            let operation ← emitUnaryOperation operator isRightDetermined
            some (.loadLocal slotIndex :: operation ++ [.storeLocal slotIndex])
        | none => none
      else do
        let operand ← emit declared expected operand
        let operation ← emitUnaryOperation operator isRightDetermined
        some (operand ++ operation)

/-- There is an instruction for every operator, and what is assigned to or incremented is a variable. -/
def isEmittable : Expression Double → Bool
  | .literalExpression _ | .localVariable _ => true
  | .binaryExpression operator left right =>
      if isAssignExpression operator then (toVariable left).isSome && isEmittable right
      else (binaryInstruction operator).isSome && (isEmittable left && isEmittable right)
  | .unaryExpression operator isRightDetermined operand =>
      (emitUnaryOperation operator isRightDetermined : Option (List (Instruction Double))).isSome &&
        if isAssignExpression operator then (toVariable operand).isSome else isEmittable operand

variable {code : List (Instruction Double)} {expected : Option TypeSymbol} {declared : Nat → TypeSymbol} {operator : TokenType}

variable {left right : Expression Double}

theorem emit_assignment
    (assigns : isAssignExpression operator = true) :
    emit declared expected (.binaryExpression operator left right) = some code ↔ ∃ slotIndex value,
      toVariable left = some slotIndex ∧ emit declared
        (if operator = .assignOperator then some (declared slotIndex) else expected) right = some value ∧
      value ++ [.storeLocal slotIndex] = code := by
  rw [emit,if_pos assigns]
  cases toVariable left with
  | none => simp
  | some slotIndex => simp [Option.bind_eq_some_iff]

theorem emit_binary
    (plain : isAssignExpression operator = false) :
    emit declared expected (.binaryExpression operator left right) = some code ↔ ∃ first second instruction,
      emit declared expected left = some first ∧ emit declared expected right = some second ∧
        binaryInstruction operator = some instruction ∧ first ++ (second ++ [.mathBinary instruction]) = code := by
  rw [emit,if_neg (by simp [plain])]
  simp [Option.bind_eq_some_iff,emitBinaryOperation]

variable {operand : Expression Double}

theorem emit_unary
    {isRightDetermined : Bool} (plain : isAssignExpression operator = false)
    :
    emit declared expected (.unaryExpression operator isRightDetermined operand) = some code ↔ ∃ first second,
      emit declared expected operand = some first ∧ emitUnaryOperation operator isRightDetermined = some second ∧
        first ++ second = code := by
  rw [emit,if_neg (by simp [plain])]
  simp [Option.bind_eq_some_iff]

theorem emit_increment
    {isRightDetermined : Bool} (assigns : isAssignExpression operator = true)
    :
    emit declared expected (.unaryExpression operator isRightDetermined operand) = some code ↔ ∃ slotIndex operation,
      toVariable operand = some slotIndex ∧ emitUnaryOperation operator isRightDetermined = some operation ∧
        .loadLocal slotIndex :: operation ++ [.storeLocal slotIndex] = code := by
  rw [emit,if_pos assigns]
  cases toVariable operand with
  | none => simp
  | some slotIndex => simp [Option.bind_eq_some_iff]

theorem emit_isSome (declared : Nat → TypeSymbol) (expected : Option TypeSymbol) (expression : Expression Double) :
    (∃ code, emit declared expected expression = some code) ↔ isEmittable expression = true := by
  induction expression generalizing expected with
  | literalExpression literal => exact ⟨fun _ => rfl,fun _ => ⟨_,rfl⟩⟩
  | localVariable slotIndex => exact ⟨fun _ => rfl,fun _ => ⟨_,rfl⟩⟩
  | binaryExpression operator left right ihLeft ihRight =>
    cases plain : isAssignExpression operator with
    | true =>
      rw [isEmittable,if_pos plain,Bool.and_eq_true,Option.isSome_iff_exists]
      simp only [emit_assignment plain]
      constructor
      · intro whole
        obtain ⟨_,slotIndex,value,assigned,emitted,_⟩ := whole
        exact ⟨⟨slotIndex,assigned⟩,(ihRight _).1 ⟨value,emitted⟩⟩
      · intro whole
        obtain ⟨⟨slotIndex,assigned⟩,emittable⟩ := whole
        obtain ⟨value,emitted⟩ := (ihRight _).2 emittable
        exact ⟨_,slotIndex,value,assigned,emitted,rfl⟩
    | false =>
      rw [isEmittable,if_neg (by simp [plain]),Bool.and_eq_true,Bool.and_eq_true,Option.isSome_iff_exists,
        ← ihLeft expected,← ihRight expected]
      simp only [emit_binary plain]
      constructor
      · intro whole
        obtain ⟨_,first,second,instruction,one,two,known,_⟩ := whole
        exact ⟨⟨instruction,known⟩,⟨first,one⟩,⟨second,two⟩⟩
      · intro whole
        obtain ⟨⟨instruction,known⟩,⟨first,one⟩,⟨second,two⟩⟩ := whole
        exact ⟨_,first,second,instruction,one,two,known,rfl⟩
  | unaryExpression operator isRightDetermined operand ih =>
    rw [isEmittable,Bool.and_eq_true,Option.isSome_iff_exists]
    cases plain : isAssignExpression operator with
    | true =>
      rw [if_pos rfl,Option.isSome_iff_exists]
      simp only [emit_increment plain]
      constructor
      · intro whole
        obtain ⟨_,slotIndex,operation,assigned,known,_⟩ := whole
        exact ⟨⟨operation,known⟩,⟨slotIndex,assigned⟩⟩
      · intro whole
        obtain ⟨⟨operation,known⟩,⟨slotIndex,assigned⟩⟩ := whole
        exact ⟨_,slotIndex,operation,assigned,known,rfl⟩
    | false =>
      rw [if_neg Bool.false_ne_true,← ih expected]
      simp only [emit_unary plain]
      constructor
      · intro whole
        obtain ⟨_,first,second,one,known,_⟩ := whole
        exact ⟨⟨second,known⟩,⟨first,one⟩⟩
      · intro whole
        obtain ⟨⟨second,known⟩,⟨first,one⟩⟩ := whole
        exact ⟨_,first,second,one,known,rfl⟩

end Emission

section Machine

variable {Double : Type} [FloatingPoint Double]

structure Machine (Double : Type) where
  stack : List (Instance Double)
  locals : Nat → Instance Double

-- What comes of looking for a user's operator for some operands, and of invoking it.
variable (invokeOperatorMethod : TokenType → List (Instance Double) → Except Failure (Instance Double))

namespace Machine

def push (machine : Machine Double) (value : Instance Double) : Machine Double :=
  { machine with stack := value :: machine.stack }

def setLocal (machine : Machine Double) (slot : Nat) (value : Instance Double) : Machine Double :=
  { machine with locals := fun other => if other = slot then value else machine.locals other }

/-- On the right of a division a zero is looked for before the operands are computed with. -/
def isDivision (operator : TokenType) : Bool := operator == .divOperator || operator == .modOperator

/-- The divisor is taken for an integer, which it is only if it is of `int` or of an enumeration. -/
def checkDivisor (operator : TokenType) (right : Instance Double) : Except Failure Unit :=
  if !isDivision operator then pure ()
  else match right with
  | .integer value | .enumeration _ value => if value = 0 then throw .divideByZero else pure ()
  | .char _ | .byte _ | .nativeInteger _ => throw .cannotInterpret
  | _ => pure ()

def executeBinary (operator : TokenType) (left right : Instance Double) : Except Failure (Instance Double) :=
  if right.isNullInstance || left.isNullInstance then pure (.boolean false)
  else do
    checkDivisor operator right
    let result ← Primitive.executeBinary operator left right
    match result with
    | some result => pure result
    | none => invokeOperatorMethod operator [left,right]

def executeUnary (operator : TokenType) (operand : Instance Double) : Except Failure (Instance Double) :=
  if operand.isNullInstance then throw .nullInstance
  else do
    let result ← Primitive.executeUnary operator operand
    match result with
    | some result => pure result
    | none => invokeOperatorMethod operator [operand]

def step (machine : Machine Double) : Instruction Double → Except Failure (Machine Double)
  | .loadConstNull => pure (machine.push .null)
  | .loadConstBoolean value => pure (machine.push (.boolean value))
  | .loadConstInteger64 value => pure (machine.push (.integer value))
  | .loadConstRational64 value => pure (machine.push (.double value))
  | .loadConstChar value => pure (machine.push (.char value))
  | .loadConstString text => pure (machine.push (.string text))
  | .loadLocal slot => pure (machine.push (machine.locals slot))
  | .castPrimitive targetType =>
      match machine.stack with
      | value :: stack =>
        match executeCast targetType value with
        | some result => pure { machine with stack := result :: stack }
        | none => throw .invalidCast
      | [] => throw .undefined
  | .storeLocal slot =>
      match machine.stack with
      | value :: stack => pure ({ machine with stack := stack }.setLocal slot value)
      | [] => throw .undefined
  | .duplicate =>
      match machine.stack with
      | value :: stack => pure { machine with stack := value :: value :: stack }
      | [] => throw .undefined
  | .mathBinary operator =>
      match machine.stack with
      | right :: left :: stack => do
          let result ← executeBinary invokeOperatorMethod operator left right
          pure { machine with stack := result :: stack }
      | _ => throw .undefined
  | .mathUnary operator =>
      match machine.stack with
      | operand :: stack => do
          let result ← executeUnary invokeOperatorMethod operator operand
          pure { machine with stack := result :: stack }
      | [] => throw .undefined

def run (machine : Machine Double) : List (Instruction Double) → Except Failure (Machine Double)
  | [] => pure machine
  | instruction :: code => do
      let after ← step invokeOperatorMethod machine instruction
      run after code

theorem run_append (machine : Machine Double) (code behind : List (Instruction Double)) :
    run invokeOperatorMethod machine (code ++ behind) =
      run invokeOperatorMethod machine code >>= fun after => run invokeOperatorMethod after behind := by
  induction code generalizing machine with
  | nil => rfl
  | cons instruction code ih =>
    rw [List.cons_append,run,run,bind_assoc]
    exact bind_congr fun after => ih after

end Machine

end Machine

def noOperatorMethod : TokenType → List (Instance Int64) → Except Failure (Instance Int64) :=
  fun _ _ => .error .operatorOverloadNotFound

end ShardScript.Primitive
