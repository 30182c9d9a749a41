import ShardScript.Library.Bytes
import ShardScript.Primitive.Concatenation
import ShardScript.Semantic.Expression

/-! The operators of the primitive types. -/
namespace ShardScript.Primitive
open Library Semantic

def TypeSymbol.isNumericType : TypeSymbol → Bool
  | .integer | .double | .char | .boolean | .byte | .nativeInteger => true
  | _ => false

def TypeSymbol.isIntegralType : TypeSymbol → Bool
  | .integer | .char | .byte | .nativeInteger => true
  | _ => false

section Math

variable {Double : Type} [FloatingPoint Double]

namespace Instance

def asInteger : Instance Double → Int64
  | integer value | nativeInteger value | enumeration _ value => value
  | double value => FloatingPoint.truncate value
  | boolean value => if value then 1 else 0
  | char value => value.toUInt64.toInt64
  | byte value => value.toUInt64.toInt64
  | _ => 0

def asDouble : Instance Double → Double
  | double value => value
  | value => FloatingPoint.ofInteger value.asInteger

def asBoolean : Instance Double → Bool
  | boolean value => value
  | double value => !FloatingPoint.equal value (FloatingPoint.ofInteger 0)
  | value => value.asInteger != 0

def asCharacter : Instance Double → UInt16
  | char value => value
  | boolean value => if value then 49 else 0
  | integer value | enumeration _ value => value.toUInt64.toUInt16
  | double value => (FloatingPoint.truncate value).toUInt64.toUInt16
  | _ => 0

end Instance

open Instance

/-- The result of an operation on signed numbers, which is not defined where it is not such a number. -/
def signed (exact : Int) : Except Failure Int64 :=
  if Fits exact then pure (Int64.ofInt exact) else throw .undefined

def arithmetic (inDouble : Double → Double → Except Failure Double) (inInteger : Int64 → Int64 → Except Failure Int64)
    (left right : Instance Double) : Except Failure (Option (Instance Double)) :=
  if !left.type.isNumericType || !right.type.isNumericType then pure none
  else if left.type = .double ∨ right.type = .double then do
    let result ← inDouble left.asDouble right.asDouble
    pure (some (.double result))
  else do
    let result ← inInteger left.asInteger right.asInteger
    pure (some (.integer result))

def executeMathAddition (left right : Instance Double) : Except Failure (Option (Instance Double)) :=
  if left.type = .string ∨ right.type = .string then do
    let filled ← concatenate {} left right
    pure (some (.string filled.1))
  else arithmetic (fun a b => pure (FloatingPoint.add a b)) (fun a b => signed (a.toInt + b.toInt)) left right

def executeMathSubtraction : Instance Double → Instance Double → Except Failure (Option (Instance Double)) :=
  arithmetic (fun a b => pure (FloatingPoint.sub a b)) (fun a b => signed (a.toInt - b.toInt))

def executeMathMultiplication : Instance Double → Instance Double → Except Failure (Option (Instance Double)) :=
  arithmetic (fun a b => pure (FloatingPoint.mult a b)) (fun a b => signed (a.toInt * b.toInt))

def divided (operation : Int64 → Int64 → Int64) (dividend divisor : Int64) : Except Failure Int64 :=
  if divisor = 0 then throw .divideByZero
  else if dividend = Int64.minValue ∧ divisor = -1 then throw .undefined
  else pure (operation dividend divisor)

def dividedDouble (operation : Double → Double → Double) (dividend divisor : Double) : Except Failure Double :=
  if FloatingPoint.equal divisor (FloatingPoint.ofInteger 0) then throw .divideByZero
  else pure (operation dividend divisor)

def executeMathDivision : Instance Double → Instance Double → Except Failure (Option (Instance Double)) :=
  arithmetic (dividedDouble FloatingPoint.div) (divided (· / ·))

def executeMathModulo : Instance Double → Instance Double → Except Failure (Option (Instance Double)) :=
  arithmetic (dividedDouble FloatingPoint.fmod) (divided (· % ·))

def executeMathPower (left right : Instance Double) : Except Failure (Option (Instance Double)) :=
  if !left.type.isNumericType || !right.type.isNumericType then pure none
  else
    let result := FloatingPoint.pow left.asDouble right.asDouble
    if left.type = .double ∨ right.type = .double then pure (some (.double result))
    else if FloatingPoint.fits result then pure (some (.integer (FloatingPoint.truncate result)))
    else throw .undefined

def bitwise (ofBooleans : Bool → Bool → Bool) (ofIntegers : Int64 → Int64 → Int64) (left right : Instance Double) :
    Except Failure (Option (Instance Double)) :=
  if left.type = .boolean ∧ right.type = .boolean then pure (some (.boolean (ofBooleans left.asBoolean right.asBoolean)))
  else if !left.type.isIntegralType || !right.type.isIntegralType then pure none
  else pure (some (.integer (ofIntegers left.asInteger right.asInteger)))

def executeBitwiseOr : Instance Double → Instance Double → Except Failure (Option (Instance Double)) :=
  bitwise (· || ·) (· ||| ·)

def executeBitwiseAnd : Instance Double → Instance Double → Except Failure (Option (Instance Double)) :=
  bitwise (· && ·) (· &&& ·)

def shift (operation : Int64 → Int64 → Int64) (left right : Instance Double) :
    Except Failure (Option (Instance Double)) :=
  if !left.type.isIntegralType || !right.type.isIntegralType then pure none
  else if 0 ≤ right.asInteger ∧ right.asInteger < 64 then
    pure (some (.integer (operation left.asInteger right.asInteger)))
  else throw .undefined

def executeShiftLeft : Instance Double → Instance Double → Except Failure (Option (Instance Double)) :=
  shift (· <<< ·)

def executeShiftRight : Instance Double → Instance Double → Except Failure (Option (Instance Double)) :=
  shift (· >>> ·)

def isSame : Instance Double → Instance Double → Bool
  | .array left,.array right => left == right
  | .object _ left,.object _ right => left == right
  | _,_ => false

def executeCompareEqual : Instance Double → Instance Double → Except Failure (Option (Instance Double))
  | .null,.null => pure (some (.boolean true))
  | .null,_ | _,.null => pure (some (.boolean false))
  | .string left,.string right => pure (some (.boolean (left == right)))
  | left,right =>
      if left.type.isByReference ∧ right.type.isByReference then pure (some (.boolean (isSame left right)))
      else if left.type.isEnumeration ∧ left.type = right.type then
        pure (some (.boolean (left.asInteger == right.asInteger)))
      else if !left.type.isNumericType || !right.type.isNumericType then pure none
      else if left.type = .double ∨ right.type = .double then
        pure (some (.boolean (FloatingPoint.equal left.asDouble right.asDouble)))
      else pure (some (.boolean (left.asInteger == right.asInteger)))

def executeCompareNotEqual (left right : Instance Double) : Except Failure (Option (Instance Double)) := do
  let result ← executeCompareEqual left right
  pure (result.map fun result => .boolean !result.asBoolean)

def lessText (left right : List UInt16) : Bool := decide (ofCString left < ofCString right)

def compared (texts : List UInt16 → List UInt16 → Bool) (doubles : Double → Double → Bool)
    (integers : Int64 → Int64 → Bool) : Instance Double → Instance Double → Except Failure (Option (Instance Double))
  | .null,_ | _,.null => pure none
  | .string left,.string right => pure (some (.boolean (texts left right)))
  | left,right =>
      if !left.type.isNumericType || !right.type.isNumericType then pure none
      else if left.type = .double ∨ right.type = .double then
        pure (some (.boolean (doubles left.asDouble right.asDouble)))
      else pure (some (.boolean (integers left.asInteger right.asInteger)))

def executeCompareLess : Instance Double → Instance Double → Except Failure (Option (Instance Double)) :=
  compared lessText FloatingPoint.less fun left right => decide (left < right)

def executeCompareGreater : Instance Double → Instance Double → Except Failure (Option (Instance Double)) :=
  compared (fun left right => lessText right left) (fun left right => FloatingPoint.less right left)
    fun left right => decide (right < left)

def orEqual (first : Instance Double → Instance Double → Except Failure (Option (Instance Double)))
    (left right : Instance Double) : Except Failure (Option (Instance Double)) := do
  let result ← first left right
  if result.any asBoolean then pure result else executeCompareEqual left right

def executeCompareLessOrEqual : Instance Double → Instance Double → Except Failure (Option (Instance Double)) :=
  orEqual executeCompareLess

def executeCompareGreaterOrEqual : Instance Double → Instance Double → Except Failure (Option (Instance Double)) :=
  orEqual executeCompareGreater

def executeLogicalNot (operand : Instance Double) : Option (Instance Double) :=
  if operand.type = .boolean then some (.boolean !operand.asBoolean) else none

def executeBinary (operator : TokenType) (left right : Instance Double) :
    Except Failure (Option (Instance Double)) :=
  match operator with
  | .addOperator => executeMathAddition left right
  | .subOperator => executeMathSubtraction left right
  | .multOperator => executeMathMultiplication left right
  | .divOperator => executeMathDivision left right
  | .modOperator => executeMathModulo left right
  | .powOperator => executeMathPower left right
  | .orOperator => executeBitwiseOr left right
  | .andOperator => executeBitwiseAnd left right
  | .leftShiftOperator => executeShiftLeft left right
  | .rightShiftOperator => executeShiftRight left right
  | .equalsOperator => executeCompareEqual left right
  | .notEqualsOperator => executeCompareNotEqual left right
  | .lessOperator => executeCompareLess left right
  | .lessOrEqualsOperator => executeCompareLessOrEqual left right
  | .greaterOperator => executeCompareGreater left right
  | .greaterOrEqualsOperator => executeCompareGreaterOrEqual left right
  | _ => pure none

def executeUnary (operator : TokenType) (operand : Instance Double) : Except Failure (Option (Instance Double)) :=
  match operator with
  | .notOperator => pure (executeLogicalNot operand)
  | .subOperator =>
      if !operand.type.isNumericType then pure none
      else if operand.type = .double then pure (some (.double (FloatingPoint.negative operand.asDouble)))
      else do
        let result ← signed (-operand.asInteger.toInt)
        pure (some (.integer result))
  | .addOperator =>
      if !operand.type.isNumericType then pure none
      else if operand.type = .double then pure (some (.double operand.asDouble))
      else pure (some (.integer operand.asInteger))
  | _ => pure none

def executeCast (targetType : TypeSymbol) (source : Instance Double) : Option (Instance Double) :=
  if source.isNullInstance || targetType.isByReference || source.type.isByReference then none
  else match targetType with
  | .integer => some (.integer source.asInteger)
  | .double => some (.double source.asDouble)
  | .boolean => some (.boolean source.asBoolean)
  | .char => some (.char source.asCharacter)
  | .byte => some (.byte source.asInteger.toUInt64.toUInt8)
  | .nativeInteger => some (.nativeInteger source.asInteger)
  | .enumeration identifier => some (.enumeration identifier source.asInteger)
  | _ => none

end Math

end ShardScript.Primitive
