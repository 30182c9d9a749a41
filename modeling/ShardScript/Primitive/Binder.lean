import ShardScript.Primitive.Math

/-! The types that the binder gives to expressions over literals and locals. -/
namespace ShardScript.Primitive
open Semantic

inductive Literal (Double : Type) where
  | null
  | boolean (value : Bool)
  | number (value : Int64)
  | double (value : Double)
  | char (value : UInt16)
  | string (text : List UInt16)

inductive Expression (Double : Type) where
  | literalExpression (literal : Literal Double)
  | localVariable (slotIndex : Nat)
  | binaryExpression (operator : TokenType) (left right : Expression Double)
  | unaryExpression (operator : TokenType) (isRightDetermined : Bool) (operand : Expression Double)

def operatorMethodName : TokenType → Option String
  | .addOperator => some "op_AddOperator"
  | .subOperator => some "op_SubOperator"
  | .multOperator => some "op_MultOperator"
  | .divOperator => some "op_DivOperator"
  | .modOperator => some "op_ModOperator"
  | .powOperator => some "op_PowOperator"
  | .addAssignOperator => some "op_AddAssignOperator"
  | .subAssignOperator => some "op_SubAssignOperator"
  | .multAssignOperator => some "op_MultAssignOperator"
  | .divAssignOperator => some "op_DivAssignOperator"
  | .modAssignOperator => some "op_ModAssignOperator"
  | .powAssignOperator => some "op_PowAssignOperator"
  | .orOperator => some "op_OrOperator"
  | .andOperator => some "op_AndOperator"
  | .orAssignOperator => some "op_OrAssignOperator"
  | .andAssignOperator => some "op_AndAssignOperator"
  | .rightShiftOperator => some "op_RightShiftOperator"
  | .leftShiftOperator => some "op_LeftShiftOperator"
  | .equalsOperator => some "op_EqualsOperator"
  | .notEqualsOperator => some "op_NotEqualsOperator"
  | .greaterOperator => some "op_GreaterOperator"
  | .greaterOrEqualsOperator => some "op_GreaterOrEqualsOperator"
  | .lessOperator => some "op_LessOperator"
  | .lessOrEqualsOperator => some "op_LessOrEqualsOperator"
  | .incrementOperator => some "op_IncrementOperator"
  | .decrementOperator => some "op_DecrementOperator"
  | .notOperator => some "op_NotOperator"
  | .assignOperator | .nullCoalescingOperator => none

def isBinaryArithmeticOperator : TokenType → Bool
  | .addOperator | .subOperator | .multOperator | .divOperator | .modOperator | .powOperator | .addAssignOperator
  | .subAssignOperator | .multAssignOperator | .divAssignOperator | .modAssignOperator | .powAssignOperator => true
  | _ => false

def isBinaryBooleanOperator : TokenType → Bool
  | .lessOperator | .lessOrEqualsOperator | .greaterOperator | .greaterOrEqualsOperator | .equalsOperator
  | .notEqualsOperator | .andOperator | .orOperator => true
  | _ => false

def isBinaryBitOperator : TokenType → Bool
  | .leftShiftOperator | .rightShiftOperator => true
  | _ => false

namespace TypeSymbol

def isPrimitiveType : TypeSymbol → Bool
  | boolean | integer | double | char | string | array | nativeInteger => true
  | null | byte | enumeration _ | classType _ | structType _ => false

def isNumericPrimitive : TypeSymbol → Bool
  | integer | double | char | byte | nativeInteger => true
  | _ => false

def isIntegralPrimitive : TypeSymbol → Bool
  | integer | char | byte | nativeInteger => true
  | _ => false

def isAssignableTo (target source : TypeSymbol) : Bool :=
  target == source || source == null && target.isByReference

end TypeSymbol

open TypeSymbol

/-- What comes of visiting an expression: its type, what was reported, and whether an operator of the user was selected
in it. -/
@[ext] structure Analysis where
  type : Option TypeSymbol
  diagnostics : List String := []
  toOperator : Bool := false

def Analysis.behind (analysis before : Analysis) : Analysis :=
  ⟨analysis.type,before.diagnostics ++ analysis.diagnostics,before.toOperator || analysis.toOperator⟩

def undefinedFor (operator : TokenType) (type : TypeSymbol) : String :=
  "Operator '" ++ (operatorMethodName operator).getD "" ++ "' is not defined for type '" ++ type.name ++ "'"

def mismatch (text : String) (left right : TypeSymbol) : String :=
  "Type mismatch in " ++ text ++ ": '" ++ left.name ++ "' and '" ++ right.name ++ "'"

def numericType (text : String) (left right : TypeSymbol) : Analysis :=
  if !left.isNumericPrimitive || !right.isNumericPrimitive then ⟨none,[mismatch text left right],false⟩
  else if left = .double ∨ right = .double then ⟨some .double,[],false⟩
  else ⟨some .integer,[],false⟩

def isComparable (left right : TypeSymbol) : Bool :=
  left == .null && right.isByReference || right == .null && left.isByReference ||
    left == .string && right == .string || left.isNumericPrimitive && right.isNumericPrimitive ||
    left == .boolean && right == .boolean || left.isEnumeration && left == right

def analyzeOperator (operator : TokenType) (left right : TypeSymbol) : Analysis :=
  match operator with
  | .equalsOperator | .notEqualsOperator | .greaterOperator | .greaterOrEqualsOperator | .lessOperator
  | .lessOrEqualsOperator =>
      ⟨some .boolean,if isComparable left right then [] else [mismatch "comparison" left right],false⟩
  | .orOperator | .andOperator =>
      if left = .boolean ∧ right = .boolean then ⟨some .boolean,[],false⟩
      else if left.isIntegralPrimitive && right.isIntegralPrimitive then ⟨some .integer,[],false⟩
      else ⟨none,[undefinedFor operator left],false⟩
  | .leftShiftOperator | .rightShiftOperator =>
      if !left.isIntegralPrimitive || !right.isIntegralPrimitive then ⟨none,[undefinedFor operator left],false⟩
      else ⟨some .integer,[],false⟩
  | .addOperator =>
      if left = .string ∨ right = .string then ⟨some .string,[],false⟩ else numericType "addition" left right
  | .subOperator | .multOperator | .divOperator | .modOperator | .powOperator =>
      numericType "arithmetic operation" left right
  | .addAssignOperator =>
      if left = .string then ⟨some left,[],false⟩ else numericType "addition assignment" left right
  | .subAssignOperator | .multAssignOperator | .divAssignOperator | .modAssignOperator | .powAssignOperator =>
      numericType "arithmetic assignment" left right
  | _ => ⟨some left,[],false⟩

section Analysis

-- The return type of the operator that a type has for operands of some types.
variable (findOperator : TypeSymbol → TokenType → List TypeSymbol → Option TypeSymbol)

def resolveOperatorMethod (owner : TypeSymbol) (operator : TokenType) (parameters : List TypeSymbol) : Option TypeSymbol :=
  if (operatorMethodName operator).isSome then findOperator owner operator parameters else none

def analyzeOperands (operator : TokenType) (left right : TypeSymbol) : Analysis :=
  if left.isPrimitiveType && right.isPrimitiveType &&
      (isBinaryArithmeticOperator operator || isBinaryBooleanOperator operator || isBinaryBitOperator operator) then
    analyzeOperator operator left right
  else match resolveOperatorMethod findOperator left operator [left,right] with
  | some returnType => ⟨some returnType,[],true⟩
  | none =>
      if !left.isPrimitiveType && operator != .equalsOperator && operator != .notEqualsOperator then
        ⟨none,[undefinedFor operator left],false⟩
      else analyzeOperator operator left right

def analyzeAssignment (left right : TypeSymbol) : Analysis :=
  ⟨some left,if left.isAssignableTo right then []
    else ["Type mismatch in assignment: expected '" ++ left.name ++ "' but got '" ++ right.name ++ "'"],false⟩

def analyzeOperand (operator : TokenType) (operand : TypeSymbol) : Analysis :=
  let method := if !operand.isPrimitiveType && (operator != .incrementOperator && operator != .decrementOperator) then
    resolveOperatorMethod findOperator operand operator [operand] else none
  match method with
  | some returnType => ⟨some returnType,[],true⟩
  | none =>
    if !operand.isPrimitiveType then ⟨none,[undefinedFor operator operand],false⟩
    else match operator with
    | .notOperator =>
        if operand ≠ .boolean then
          ⟨none,["Logical NOT operator requires boolean type, got '" ++ operand.name ++ "'"],false⟩
        else ⟨some .boolean,[],false⟩
    | .subOperator | .addOperator | .incrementOperator | .decrementOperator =>
        if operand ≠ .integer ∧ operand ≠ .double then
          ⟨none,["Arithmetic unary operator requires numeric type, got '" ++ operand.name ++ "'"],false⟩
        else ⟨some operand,[],false⟩
    | _ => ⟨none,["Unknown unary operator"],false⟩

variable {Double : Type}

def numberType (expected : Option TypeSymbol) : TypeSymbol :=
  match expected with
  | some .byte => .byte
  | some .nativeInteger => .nativeInteger
  | _ => .integer

def literalType (expected : Option TypeSymbol) : Literal Double → TypeSymbol
  | .null => .null
  | .boolean _ => .boolean
  | .number _ => numberType expected
  | .double _ => .double
  | .char _ => .char
  | .string _ => .string

@[grind] def visitExpression (declared : Nat → TypeSymbol) (expected : Option TypeSymbol) : Expression Double → Analysis
  | .literalExpression literal => ⟨some (literalType expected literal),[],false⟩
  | .localVariable slotIndex => ⟨some (declared slotIndex),[],false⟩
  | .binaryExpression operator left right =>
      let leftAnalysis := visitExpression declared expected left
      match leftAnalysis.type with
      | none => Analysis.behind ⟨none,["Left operand type could not be determined"],false⟩ leftAnalysis
      | some leftType =>
        let rightAnalysis :=
          visitExpression declared (if operator = .assignOperator then some leftType else expected) right
        let before := rightAnalysis.behind leftAnalysis
        match rightAnalysis.type with
        | none => Analysis.behind ⟨some leftType,["Right operand type could not be determined"],false⟩ before
        | some rightType =>
          if operator = .assignOperator then (analyzeAssignment leftType rightType).behind before
          else (analyzeOperands findOperator operator leftType rightType).behind before
  | .unaryExpression operator _ operand =>
      let operandAnalysis := visitExpression declared expected operand
      match operandAnalysis.type with
      | none => Analysis.behind ⟨none,["Operand type could not be determined"],false⟩ operandAnalysis
      | some operandType => (analyzeOperand findOperator operator operandType).behind operandAnalysis

def IsBound (declared : Nat → TypeSymbol) (expected : Option TypeSymbol) (expression : Expression Double)
    (type : TypeSymbol) : Prop :=
  visitExpression findOperator declared expected expression = ⟨some type,[],false⟩

end Analysis

end ShardScript.Primitive
