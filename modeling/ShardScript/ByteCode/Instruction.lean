import Mathlib.Data.List.Basic
import ShardScript.Library.Bytes

/-! The operation codes of the virtual machine, in the order of the source enumeration. -/
namespace ShardScript.ByteCode

inductive OpCode where
  | nop | halt | pop
  | loadConstNull | loadConstBoolean | loadConstInteger8 | loadConstInteger64
  | loadConstNativeInteger | loadConstRational64 | loadConstChar | loadConstString
  | dup | storeLocal | storeArg | loadLocal | loadArg
  | jump | jumpTrue | jumpFalse | brNull | jumpTable
  | return | throw
  | mathAddition | mathSubtract | mathMultiply | mathDivision | mathModulo | mathPower
  | mathNegative | mathShl | mathShr
  | compareEqual | compareNotEqual | compareGreater | compareGreaterOrEqual
  | compareLess | compareLessOrEqual
  | logicalNot | logicalOr | logicalAnd
  | newObject | newDelegate | loadField | storeField
  | newArray | loadArrayElement | storeArrayElement | arrayLength | newArrayDynamic
  | loadStaticField | loadEnumField | storeStaticField
  | callMethodSymbol | callDelegate | loadTypeArgument | callInterface
  | isInstance | castAs | cast | castPrimitive
  | enterTry | leaveTry | rethrow | endCatch | loadCurrentException | storeCurrentException
  | defer | deferBreak | deferDrain | createRange
  deriving DecidableEq

namespace OpCode

def value (op : OpCode) : Nat := op.ctorIdx + 1

def all : List OpCode :=
  [nop,halt,pop,loadConstNull,loadConstBoolean,loadConstInteger8,loadConstInteger64,
    loadConstNativeInteger,loadConstRational64,loadConstChar,loadConstString,
    dup,storeLocal,storeArg,loadLocal,loadArg,jump,jumpTrue,jumpFalse,brNull,jumpTable,
    OpCode.return,throw,mathAddition,mathSubtract,mathMultiply,mathDivision,mathModulo,mathPower,
    mathNegative,mathShl,mathShr,compareEqual,compareNotEqual,compareGreater,
    compareGreaterOrEqual,compareLess,compareLessOrEqual,logicalNot,logicalOr,logicalAnd,
    newObject,newDelegate,loadField,storeField,newArray,loadArrayElement,storeArrayElement,
    arrayLength,newArrayDynamic,loadStaticField,loadEnumField,storeStaticField,
    callMethodSymbol,callDelegate,loadTypeArgument,callInterface,isInstance,castAs,cast,
    castPrimitive,enterTry,leaveTry,rethrow,endCatch,loadCurrentException,storeCurrentException,
    defer,deferBreak,deferDrain,createRange]

def ofValue : Nat → Option OpCode
  | 0 => none
  | index+1 => all[index]?

theorem value_lt (op : OpCode) : op.value < 65536 := by cases op <;> decide

@[simp] theorem ofValue_value (op : OpCode) : ofValue op.value = some op := by cases op <;> rfl

end OpCode
end ShardScript.ByteCode

/-! Instructions, one constructor for each `Emit*` function of the encoder, with the
operands that the function takes. Symbol operands are addresses; a `size_t` operand is a
natural number, `wchar_t` has four bytes, and a double is its bit pattern. -/
namespace ShardScript.ByteCode
open Library

abbrev Address := UInt64

abbrev WChar := UInt32

inductive Instruction where
  | nop | halt | pop
  | loadConstNull
  | loadConstBool (value : Bool)
  | loadConstInt8 (value : Int8)
  | loadConstInt64 (value : Int64)
  | loadConstNativeInt (value : Int64)
  | loadConstDouble64 (bits : UInt64)
  | loadConstChar16 (value : WChar)
  | loadConstString (value : List WChar)
  | duplicate
  | loadLocal (index : UInt16)
  | storeLocal (index : UInt16)
  | loadArg (index : UInt16)
  | storeArg (index : UInt16)
  | jump (target : Nat)
  | jumpTrue (target : Nat)
  | jumpFalse (target : Nat)
  | branchNull (target : Nat)
  | jumpTable (targets : List Nat)
  | return
  | throw
  | enterTry (handlerOffset : Nat)
  | leaveTry | rethrow | endCatch
  | loadCurrentException | storeCurrentException
  | defer (target : Nat)
  | deferBreak
  | deferDrain (count : Nat)
  | mathAdd | mathSub | mathMult | mathDiv | mathMod | mathPow | mathNegative | mathShl | mathShr
  | compareEqual | compareNotEqual | compareGreater | compareGreaterOrEqual
  | compareLess | compareLessOrEqual
  | logicalNot | logicalOr | logicalAnd
  | newObject (type ctor : Address)
  | newDelegate (type : Address)
  | loadField (slot : UInt32)
  | storeField (slot : UInt32)
  | newArray (type : Address)
  | newArrayDynamic (type : Address)
  | createRange (type : Address)
  | loadArrayElement | storeArrayElement | arrayLength
  | loadStaticField (field : Address)
  | storeStaticField (field : Address)
  | loadEnumField (field : Address)
  | loadTypeArgument (index : UInt16) (type : Address)
  | callMethodSymbol (method : Address)
  | callDelegate (type : Address)
  | callInterface (interfaceMethod : Address)
  | isInstance (type : Address)
  | castAs (type : Address)
  | cast (type : Address)
  | castPrimitive (type : Address)
  deriving DecidableEq

inductive Operand where
  | boolean (value : Bool)
  | integer (value : Int)
  | rational (bits : UInt64)
  | character (value : WChar)
  | text (value : List WChar)
  | slot (index : Nat)
  | count (value : Nat)
  | target (offset : Nat)
  | symbol (address : Address)
  deriving DecidableEq

def cString (value : List WChar) : List WChar := value.takeWhile (· ≠ 0)

namespace Instruction

def opCode : Instruction → OpCode
  | nop => .nop | halt => .halt | pop => .pop
  | loadConstNull => .loadConstNull
  | loadConstBool _ => .loadConstBoolean
  | loadConstInt8 _ => .loadConstInteger8
  | loadConstInt64 _ => .loadConstInteger64
  | loadConstNativeInt _ => .loadConstNativeInteger
  | loadConstDouble64 _ => .loadConstRational64
  | loadConstChar16 _ => .loadConstChar
  | loadConstString _ => .loadConstString
  | duplicate => .dup
  | loadLocal _ => .loadLocal | storeLocal _ => .storeLocal
  | loadArg _ => .loadArg | storeArg _ => .storeArg
  | jump _ => .jump | jumpTrue _ => .jumpTrue | jumpFalse _ => .jumpFalse
  | branchNull _ => .brNull | jumpTable _ => .jumpTable
  | «return» => .return | throw => .throw
  | enterTry _ => .enterTry | leaveTry => .leaveTry | rethrow => .rethrow | endCatch => .endCatch
  | loadCurrentException => .loadCurrentException
  | storeCurrentException => .storeCurrentException
  | defer _ => .defer | deferBreak => .deferBreak | deferDrain _ => .deferDrain
  | mathAdd => .mathAddition | mathSub => .mathSubtract | mathMult => .mathMultiply
  | mathDiv => .mathDivision | mathMod => .mathModulo | mathPow => .mathPower
  | mathNegative => .mathNegative | mathShl => .mathShl | mathShr => .mathShr
  | compareEqual => .compareEqual | compareNotEqual => .compareNotEqual
  | compareGreater => .compareGreater | compareGreaterOrEqual => .compareGreaterOrEqual
  | compareLess => .compareLess | compareLessOrEqual => .compareLessOrEqual
  | logicalNot => .logicalNot | logicalOr => .logicalOr | logicalAnd => .logicalAnd
  | newObject _ _ => .newObject | newDelegate _ => .newDelegate
  | loadField _ => .loadField | storeField _ => .storeField
  | newArray _ => .newArray | newArrayDynamic _ => .newArrayDynamic
  | createRange _ => .createRange
  | loadArrayElement => .loadArrayElement | storeArrayElement => .storeArrayElement
  | arrayLength => .arrayLength
  | loadStaticField _ => .loadStaticField | storeStaticField _ => .storeStaticField
  | loadEnumField _ => .loadEnumField
  | loadTypeArgument _ _ => .loadTypeArgument
  | callMethodSymbol _ => .callMethodSymbol | callDelegate _ => .callDelegate
  | callInterface _ => .callInterface
  | isInstance _ => .isInstance | castAs _ => .castAs | cast _ => .cast
  | castPrimitive _ => .castPrimitive

@[grind] def operands : Instruction → List Operand
  | loadConstBool value => [.boolean value]
  | loadConstInt8 value => [.integer value.toInt]
  | loadConstInt64 value | loadConstNativeInt value => [.integer value.toInt]
  | loadConstDouble64 bits => [.rational bits]
  | loadConstChar16 value => [.character value]
  | loadConstString value => [.text (cString value)]
  | loadLocal index | storeLocal index | loadArg index | storeArg index => [.slot index.toNat]
  | jump target | jumpTrue target | jumpFalse target | branchNull target => [.target target]
  | jumpTable targets => .count targets.length :: targets.map .target
  | enterTry target | defer target => [.target target]
  | deferDrain count => [.count count]
  | newObject type ctor => [.symbol type,.symbol ctor]
  | loadField slot | storeField slot => [.slot slot.toNat]
  | newDelegate symbol | newArray symbol | newArrayDynamic symbol | createRange symbol => [.symbol symbol]
  | loadStaticField symbol | storeStaticField symbol | loadEnumField symbol => [.symbol symbol]
  | loadTypeArgument index type => [.slot index.toNat,.symbol type]
  | callMethodSymbol symbol | callDelegate symbol | callInterface symbol => [.symbol symbol]
  | isInstance symbol | castAs symbol | cast symbol | castPrimitive symbol => [.symbol symbol]
  | _ => []

@[grind] def size : Instruction → Nat
  | loadConstBool _ | loadConstInt8 _ => 2 + 1
  | loadConstInt64 _ | loadConstNativeInt _ | loadConstDouble64 _ => 2 + 8
  | loadConstChar16 _ => 2 + 4
  | loadConstString _ => 2 + 8
  | loadLocal _ | storeLocal _ | loadArg _ | storeArg _ => 2 + 2
  | jump _ | jumpTrue _ | jumpFalse _ | branchNull _ => 2 + 8
  | jumpTable targets => 2 + 4 + 8 * targets.length
  | enterTry _ | defer _ | deferDrain _ => 2 + 8
  | newObject _ _ => 2 + 8 + 8
  | loadField _ | storeField _ => 2 + 4
  | newDelegate _ | newArray _ | newArrayDynamic _ | createRange _ => 2 + 8
  | loadStaticField _ | storeStaticField _ | loadEnumField _ => 2 + 8
  | loadTypeArgument _ _ => 2 + 2 + 8
  | callMethodSymbol _ | callDelegate _ | callInterface _ => 2 + 8
  | isInstance _ | castAs _ | cast _ | castPrimitive _ => 2 + 8
  | _ => 2

theorem size_pos (instruction : Instruction) : 0 < instruction.size := by
  cases instruction <;> simp [size]

def isData : Instruction → Bool
  | nop | halt | jump _ | jumpTrue _ | jumpFalse _ | branchNull _ | jumpTable _ => false
  | «return» | throw | rethrow | enterTry _ | leaveTry | endCatch => false
  | loadCurrentException | storeCurrentException | defer _ | deferBreak | deferDrain _ => false
  | _ => true

def targets : Instruction → List Nat
  | jump target | jumpTrue target | jumpFalse target | branchNull target => [target]
  | enterTry target | defer target => [target]
  | jumpTable targets => targets
  | _ => []

def targetSite : Instruction → Nat
  | jumpTable _ => 2 + 4
  | _ => 2

def withTarget (index value : Nat) : Instruction → Instruction
  | jump _ => jump value | jumpTrue _ => jumpTrue value | jumpFalse _ => jumpFalse value
  | branchNull _ => branchNull value | enterTry _ => enterTry value | defer _ => defer value
  | jumpTable targets => jumpTable (targets.set index value)
  | other => other

end Instruction
end ShardScript.ByteCode
