import ShardScript.Declarations.EnumValues
import ShardScript.Primitive.Text

/-! The operators and methods that every enum gets, and what comes of calling them. -/
namespace ShardScript.Declarations

open Primitive Semantic

section Helpers

structure EnumSymbol where
  identifier : Nat
  isFlags : Bool
  fields : List FieldSymbol

def EnumSymbol.type (symbol : EnumSymbol) : TypeSymbol := .enumeration symbol.identifier

variable {Double : Type}

def readInteger : Instance Double → Except String Int64
  | .integer value | .enumeration _ value => .ok value
  | _ => .error "Cannot interpret instance as Integer"

/-- A method whose body is a callback. It is given the arguments, and leaves what it passes to `PlaceReturned`. -/
structure MethodSymbol (Double : Type) where
  name : String
  returnType : TypeSymbol
  parameters : List TypeSymbol
  functionPointer : (Nat → Instance Double) → Except String (Instance Double)

def returnBoolean (result : Int64 → Int64 → Bool) (args : Nat → Instance Double) : Except String (Instance Double) := do
  let left ← readInteger (args 0)
  let right ← readInteger (args 1)
  pure (.boolean (result left right))

def enumOperatorOr : (Nat → Instance Double) → Except String (Instance Double) :=
  returnBoolean fun left right => left ||| right != 0

def enumOperatorAnd : (Nat → Instance Double) → Except String (Instance Double) :=
  returnBoolean fun left right => left &&& right != 0

def enumOperatorEquals : (Nat → Instance Double) → Except String (Instance Double) :=
  returnBoolean fun left right => left == right

def enumOperatorNotEquals : (Nat → Instance Double) → Except String (Instance Double) :=
  returnBoolean fun left right => left != right

def enumHasFlag : (Nat → Instance Double) → Except String (Instance Double) :=
  returnBoolean fun self flag => self &&& flag == flag

/-- The loop over the fields: what is written behind the result, and whether there is still nothing. -/
def listFields (value : Int64) : List FieldSymbol → String → Bool → String × Bool
  | [],result,first => (result,first)
  | field :: fields,result,first =>
      if field.enumValue = 0 then listFields value fields result first
      else if value &&& field.enumValue = field.enumValue then
        listFields value fields ((if first then result else result ++ " | ") ++ field.name) false
      else listFields value fields result first

def enumText (symbol : EnumSymbol) (value : Int64) : String :=
  if symbol.isFlags then
    if value = 0 then toString value
    else match listFields value symbol.fields "" true with
      | (_,true) => toString value
      | (result,false) => result
  else match symbol.fields.find? (·.enumValue == value) with
    | some field => field.name
    | none => toString value

def enumToString (symbol : EnumSymbol) (args : Nat → Instance Double) : Except String (Instance Double) := do
  let value ← readInteger (args 0)
  pure (.string (wide (enumText symbol value)))

variable (symbol : EnumSymbol)

def toStringMethod : MethodSymbol Double := ⟨"ToString",.string,[],enumToString symbol⟩

def hasFlagMethod : MethodSymbol Double := ⟨"HasFlag",.boolean,[symbol.type],enumHasFlag⟩

def enumOperators : List (MethodSymbol Double) :=
  [⟨"op_OrOperator",symbol.type,[symbol.type,symbol.type],enumOperatorOr⟩,
    ⟨"op_AndOperator",symbol.type,[symbol.type,symbol.type],enumOperatorAnd⟩,
    ⟨"op_EqualsOperator",.boolean,[symbol.type,symbol.type],enumOperatorEquals⟩,
    ⟨"op_NotEqualsOperator",.boolean,[symbol.type,symbol.type],enumOperatorNotEquals⟩]

def findOperator (operator : TokenType) (parameterTypes : List TypeSymbol) : Option (MethodSymbol Double) :=
  (operatorMethodName operator).bind fun opName =>
    (enumOperators symbol).find? fun method => method.name == opName && method.parameters == parameterTypes

def operatorType (owner : TypeSymbol) (operator : TokenType) (parameterTypes : List TypeSymbol) : Option TypeSymbol :=
  if owner = symbol.type then (@findOperator Double symbol operator parameterTypes).map MethodSymbol.returnType
  else none

end Helpers

section Invocation

variable {Double : Type}

def placeReturned (returnType : TypeSymbol) (value : Instance Double) : Except String (Instance Double) :=
  if value.type = returnType then .ok value else .error "PlaceReturned: shapes mismatched"

/-- `InvokeMethodInternal` of a callback: the value that is returned, or the message of the exception that is raised. -/
def invokeMethodInternal (method : MethodSymbol Double) (args : List (Instance Double)) : Except String (Instance Double) := do
  let value ← method.functionPointer fun place => args.getD place .null
  placeReturned method.returnType value

def evaluateOperator (symbol : EnumSymbol) (operator : TokenType) (left right : Instance Double) :
    Except String (Instance Double) :=
  match findOperator symbol operator [left.type,right.type] with
  | some method => invokeMethodInternal method [left,right]
  | none => .error (undefinedFor operator left.type)

end Invocation

section Laws

variable {Double : Type} (symbol : EnumSymbol)

def setNames (value : Int64) : List String :=
  (symbol.fields.filter fun field => field.enumValue != 0 && value &&& field.enumValue == field.enumValue).map FieldSymbol.name

/-- `|` and `&` are of the type of the enum and give the values that the bits give. -/
structure IsBitwise (Double : Type) (symbol : EnumSymbol) (a b : Int64) : Prop where
  orType : analyzeOperands (@operatorType Double symbol) .orOperator symbol.type symbol.type =
    ⟨some symbol.type,[],true⟩
  andType : analyzeOperands (@operatorType Double symbol) .andOperator symbol.type symbol.type =
    ⟨some symbol.type,[],true⟩
  or : @evaluateOperator Double symbol .orOperator (.enumeration symbol.identifier a)
    (.enumeration symbol.identifier b) = .ok (.enumeration symbol.identifier (a ||| b))
  and : @evaluateOperator Double symbol .andOperator (.enumeration symbol.identifier a)
    (.enumeration symbol.identifier b) = .ok (.enumeration symbol.identifier (a &&& b))

structure TellsFlags (Double : Type) (symbol : EnumSymbol) (a b : Int64) : Prop where
  hasFlag : @invokeMethodInternal Double (hasFlagMethod symbol) [.enumeration symbol.identifier a,
    .enumeration symbol.identifier b] = .ok (.boolean (decide (a &&& b = b)))
  text : @invokeMethodInternal Double (toStringMethod symbol) [.enumeration symbol.identifier a] =
    .ok (.string (wide (if setNames symbol a = [] then toString a else " | ".intercalate (setNames symbol a))))

structure FlagLaws (Double : Type) (symbol : EnumSymbol) (a b : Int64) : Prop where
  bitwise : IsBitwise Double symbol a b
  tells : TellsFlags Double symbol a b

variable {symbol}

theorem findOperator_or : @findOperator Double symbol .orOperator [symbol.type,symbol.type] =
    some ⟨"op_OrOperator",symbol.type,[symbol.type,symbol.type],enumOperatorOr⟩ := by
  simp [findOperator,operatorMethodName,enumOperators]

theorem findOperator_and : @findOperator Double symbol .andOperator [symbol.type,symbol.type] =
    some ⟨"op_AndOperator",symbol.type,[symbol.type,symbol.type],enumOperatorAnd⟩ := by
  simp [findOperator,operatorMethodName,enumOperators]

theorem invokeMethodInternal_bitwise {name : String} {parameters : List TypeSymbol} (result : Int64 → Int64 → Bool)
    (a b : Int64) : @invokeMethodInternal Double ⟨name,symbol.type,parameters,returnBoolean result⟩
      [.enumeration symbol.identifier a,.enumeration symbol.identifier b] = .error "PlaceReturned: shapes mismatched" := rfl

theorem evaluateOperator_or (a b : Int64) :
    @evaluateOperator Double symbol .orOperator (.enumeration symbol.identifier a)
      (.enumeration symbol.identifier b) = .error "PlaceReturned: shapes mismatched" := by
  have selected : @findOperator Double symbol .orOperator
      [.enumeration symbol.identifier,.enumeration symbol.identifier] = _ := findOperator_or
  simp only [evaluateOperator,Instance.type,selected]
  exact invokeMethodInternal_bitwise _ a b

theorem evaluateOperator_and (a b : Int64) :
    @evaluateOperator Double symbol .andOperator (.enumeration symbol.identifier a)
      (.enumeration symbol.identifier b) = .error "PlaceReturned: shapes mismatched" := by
  have selected : @findOperator Double symbol .andOperator
      [.enumeration symbol.identifier,.enumeration symbol.identifier] = _ := findOperator_and
  simp only [evaluateOperator,Instance.type,selected]
  exact invokeMethodInternal_bitwise _ a b

theorem bitwise_raises (a b : Int64) {operator : TokenType} (bitwise : operator = .orOperator ∨ operator = .andOperator) :
    analyzeOperands (@operatorType Double symbol) operator symbol.type symbol.type = ⟨some symbol.type,[],true⟩ ∧
      @evaluateOperator Double symbol operator (.enumeration symbol.identifier a)
        (.enumeration symbol.identifier b) = .error "PlaceReturned: shapes mismatched" := by
  have plain : symbol.type.isPrimitiveType = false := rfl
  rcases bitwise with rfl | rfl
  · refine ⟨?_,evaluateOperator_or a b⟩
    simp [analyzeOperands,plain,resolveOperatorMethod,operatorMethodName,operatorType,findOperator_or]
  · refine ⟨?_,evaluateOperator_and a b⟩
    simp [analyzeOperands,plain,resolveOperatorMethod,operatorMethodName,operatorType,findOperator_and]

/-- What `|` gives of two flags is not the value that their bits give. -/
theorem not_flagLaws (Double : Type) (symbol : EnumSymbol) (a b : Int64) : ¬FlagLaws Double symbol a b := by
  intro laws
  have given := laws.bitwise.or
  rw [(bitwise_raises a b (.inl rfl)).2] at given
  cases given

def permissions : EnumSymbol := ⟨0,true,[⟨"Read",1⟩,⟨"Write",2⟩]⟩

/-- `Permissions.Read | Permissions.Write` raises an exception. -/
theorem permissions_raise : ¬FlagLaws Int64 permissions 1 2 := fun laws => nomatch laws.bitwise.or

end Laws

end ShardScript.Declarations
