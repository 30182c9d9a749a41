import ShardScript.ByteCode.Instruction

/-! The byte-code encoder. Code and data are `std::vector<std::byte>`; an append that would
exceed `max_size` throws, which is `none` here. -/
namespace ShardScript.ByteCode
open Library

class TriviallyCopyable (T : Type) where
  byteSize : Nat
  image : T → Bytes
  ofImage : Bytes → T
  length_image : ∀ value, (image value).length = byteSize
  ofImage_image : ∀ value, ofImage (image value) = value

attribute [simp] TriviallyCopyable.length_image TriviallyCopyable.ofImage_image

instance : TriviallyCopyable Bool where
  byteSize := 1
  image value := littleEndian 1 value.toNat
  ofImage bytes := ofLittleEndian bytes != 0
  length_image _ := length_littleEndian _ _
  ofImage_image value := by cases value <;> decide

instance : TriviallyCopyable UInt8 where
  byteSize := 1
  image value := littleEndian 1 value.toNat
  ofImage bytes := UInt8.ofNat (ofLittleEndian bytes)
  length_image _ := length_littleEndian _ _
  ofImage_image value := by
    rw [ofLittleEndian_littleEndian_of_lt value.toNat_lt,UInt8.ofNat_toNat]

instance : TriviallyCopyable UInt16 where
  byteSize := 2
  image value := littleEndian 2 value.toNat
  ofImage bytes := UInt16.ofNat (ofLittleEndian bytes)
  length_image _ := length_littleEndian _ _
  ofImage_image value := by
    rw [ofLittleEndian_littleEndian_of_lt value.toNat_lt,UInt16.ofNat_toNat]

instance : TriviallyCopyable UInt32 where
  byteSize := 4
  image value := littleEndian 4 value.toNat
  ofImage bytes := UInt32.ofNat (ofLittleEndian bytes)
  length_image _ := length_littleEndian _ _
  ofImage_image value := by
    rw [ofLittleEndian_littleEndian_of_lt value.toNat_lt,UInt32.ofNat_toNat]

instance : TriviallyCopyable UInt64 where
  byteSize := 8
  image value := littleEndian 8 value.toNat
  ofImage bytes := UInt64.ofNat (ofLittleEndian bytes)
  length_image _ := length_littleEndian _ _
  ofImage_image value := by
    rw [ofLittleEndian_littleEndian_of_lt value.toNat_lt,UInt64.ofNat_toNat]

instance : TriviallyCopyable Int8 where
  byteSize := 1
  image value := TriviallyCopyable.image value.toUInt8
  ofImage bytes := (TriviallyCopyable.ofImage bytes : UInt8).toInt8
  length_image value := TriviallyCopyable.length_image value.toUInt8
  ofImage_image value := by rw [TriviallyCopyable.ofImage_image,Int8.toInt8_toUInt8]

instance : TriviallyCopyable Int64 where
  byteSize := 8
  image value := TriviallyCopyable.image value.toUInt64
  ofImage bytes := (TriviallyCopyable.ofImage bytes : UInt64).toInt64
  length_image value := TriviallyCopyable.length_image value.toUInt64
  ofImage_image value := by rw [TriviallyCopyable.ofImage_image,Int64.toInt64_toUInt64]

def OpCode.word (op : OpCode) : UInt16 := UInt16.ofNat op.value

def maxSize : Nat := 2^63 - 1

namespace Encoder
open TriviallyCopyable

def appendData (code data : Bytes) : Option Bytes :=
  if code.length + data.length ≤ maxSize then some (code ++ data) else none

/-- Overwrites the bytes from `start` on; an out-of-bounds write throws. -/
def pasteData (code : Bytes) (start : Nat) (data : Bytes) : Option Bytes :=
  if start + data.length > code.length then none
  else some (code.take start ++ data ++ code.drop (start + data.length))

def appendDataT {T : Type} [TriviallyCopyable T] (code : Bytes) (value : T) : Option Bytes :=
  appendData code (image value)

def appendDataS (data : Bytes) (string : List WChar) : Option Bytes :=
  appendData data ((cString string ++ [0]).flatMap image)

def emitOp (op : OpCode) (code : Bytes) : Option Bytes := appendDataT code op.word

def emitOpWith {T : Type} [TriviallyCopyable T] (op : OpCode) (value : T) (code : Bytes) :
    Option Bytes := do
  let code ← appendDataT code op.word
  appendDataT code value

def emitOpWithTwo {S T : Type} [TriviallyCopyable S] [TriviallyCopyable T] (op : OpCode)
    (first : S) (second : T) (code : Bytes) : Option Bytes := do
  let code ← appendDataT code op.word
  let code ← appendDataT code first
  appendDataT code second

def emitNop := emitOp .nop
def emitHalt := emitOp .halt
def emitPop := emitOp .pop
def emitLoadConstNull := emitOp .loadConstNull
def emitLoadConstBool (value : Bool) := emitOpWith .loadConstBoolean value
def emitLoadConstInt8 (value : Int8) := emitOpWith .loadConstInteger8 value
def emitLoadConstInt64 (value : Int64) := emitOpWith .loadConstInteger64 value
def emitLoadConstNativeInt (value : Int64) := emitOpWith .loadConstNativeInteger value
def emitLoadConstDouble64 (bits : UInt64) := emitOpWith .loadConstRational64 bits
def emitLoadConstChar16 (value : WChar) := emitOpWith .loadConstChar value

def emitLoadConstString (value : List WChar) (code data : Bytes) : Option (Bytes × Bytes) := do
  let dataOrigin : UInt64 := UInt64.ofNat data.length
  let data ← appendDataS data value
  let code ← emitOpWith .loadConstString dataOrigin code
  return (code,data)

def emitDuplicate := emitOp .dup
def emitLoadLocal (index : UInt16) := emitOpWith .loadLocal index
def emitStoreLocal (index : UInt16) := emitOpWith .storeLocal index
def emitLoadArg (index : UInt16) := emitOpWith .loadArg index
def emitStoreArg (index : UInt16) := emitOpWith .storeArg index
variable (target : UInt64)

def emitJump := emitOpWith .jump target
def emitJumpTrue := emitOpWith .jumpTrue target
def emitJumpFalse := emitOpWith .jumpFalse target
def emitBranchNull := emitOpWith .brNull target

def emitJumpTable (targets : List UInt64) (code : Bytes) : Option Bytes := do
  let code ← appendDataT code OpCode.jumpTable.word
  let code ← appendDataT code (UInt32.ofNat targets.length)
  targets.foldlM appendDataT code

def emitReturn := emitOp .return
def emitThrow := emitOp .throw
def emitEnterTry (handlerOffset : UInt64) := emitOpWith .enterTry handlerOffset
def emitLeaveTry := emitOp .leaveTry
def emitRethrow := emitOp .rethrow
def emitEndCatch := emitOp .endCatch
def emitLoadCurrentException := emitOp .loadCurrentException
def emitStoreCurrentException := emitOp .storeCurrentException
def emitDefer := emitOpWith .defer target
def emitDeferBreak := emitOp .deferBreak
def emitDeferDrain (count : UInt64) := emitOpWith .deferDrain count
def emitMathAdd := emitOp .mathAddition
def emitMathSub := emitOp .mathSubtract
def emitMathMult := emitOp .mathMultiply
def emitMathDiv := emitOp .mathDivision
def emitMathMod := emitOp .mathModulo
def emitMathPow := emitOp .mathPower
def emitMathNegative := emitOp .mathNegative
def emitMathShl := emitOp .mathShl
def emitMathShr := emitOp .mathShr
def emitCompareEqual := emitOp .compareEqual
def emitCompareNotEqual := emitOp .compareNotEqual
def emitCompareGreater := emitOp .compareGreater
def emitCompareGreaterOrEqual := emitOp .compareGreaterOrEqual
def emitCompareLess := emitOp .compareLess
def emitCompareLessOrEqual := emitOp .compareLessOrEqual
def emitLogicalNot := emitOp .logicalNot
def emitLogicalOr := emitOp .logicalOr
def emitLogicalAnd := emitOp .logicalAnd
def emitLoadTypeArgument (index : UInt16) (type : Address) :=
  emitOpWithTwo .loadTypeArgument index type
def emitNewObject (type ctor : Address) := emitOpWithTwo .newObject type ctor
variable (type : Address)

def emitNewDelegate := emitOpWith .newDelegate type
def emitLoadField (slot : UInt32) := emitOpWith .loadField slot
def emitStoreField (slot : UInt32) := emitOpWith .storeField slot
def emitNewArray := emitOpWith .newArray type
def emitNewArrayDynamic := emitOpWith .newArrayDynamic type
def emitCreateRange := emitOpWith .createRange type
def emitLoadArrayElement := emitOp .loadArrayElement
def emitStoreArrayElement := emitOp .storeArrayElement
def emitArrayLength := emitOp .arrayLength
def emitLoadStaticField (field : Address) := emitOpWith .loadStaticField field
def emitStoreStaticField (field : Address) := emitOpWith .storeStaticField field
def emitLoadEnumField (field : Address) := emitOpWith .loadEnumField field
def emitCallMethodSymbol (method : Address) := emitOpWith .callMethodSymbol method
def emitCallDelegate := emitOpWith .callDelegate type
def emitCallInterface (interfaceMethod : Address) := emitOpWith .callInterface interfaceMethod
def emitIsInstance := emitOpWith .isInstance type
def emitCastAs := emitOpWith .castAs type
def emitCast := emitOpWith .cast type
def emitCastPrimitive := emitOpWith .castPrimitive type

end Encoder

structure Buffers where
  code : Bytes
  data : Bytes

namespace Buffers
open Encoder

def onCode (buffers : Buffers) (emit : Bytes → Option Bytes) : Option Buffers := do
  let code ← emit buffers.code
  return ⟨code,buffers.data⟩

end Buffers

open Encoder in
def Instruction.emit (buffers : Buffers) : Instruction → Option Buffers
  | nop => buffers.onCode emitNop
  | halt => buffers.onCode emitHalt
  | pop => buffers.onCode emitPop
  | loadConstNull => buffers.onCode emitLoadConstNull
  | loadConstBool value => buffers.onCode (emitLoadConstBool value)
  | loadConstInt8 value => buffers.onCode (emitLoadConstInt8 value)
  | loadConstInt64 value => buffers.onCode (emitLoadConstInt64 value)
  | loadConstNativeInt value => buffers.onCode (emitLoadConstNativeInt value)
  | loadConstDouble64 bits => buffers.onCode (emitLoadConstDouble64 bits)
  | loadConstChar16 value => buffers.onCode (emitLoadConstChar16 value)
  | loadConstString value => do
      let (code,data) ← emitLoadConstString value buffers.code buffers.data
      return ⟨code,data⟩
  | duplicate => buffers.onCode emitDuplicate
  | loadLocal index => buffers.onCode (emitLoadLocal index)
  | storeLocal index => buffers.onCode (emitStoreLocal index)
  | loadArg index => buffers.onCode (emitLoadArg index)
  | storeArg index => buffers.onCode (emitStoreArg index)
  | jump target => buffers.onCode (emitJump (.ofNat target))
  | jumpTrue target => buffers.onCode (emitJumpTrue (.ofNat target))
  | jumpFalse target => buffers.onCode (emitJumpFalse (.ofNat target))
  | branchNull target => buffers.onCode (emitBranchNull (.ofNat target))
  | jumpTable targets => buffers.onCode (emitJumpTable (targets.map .ofNat))
  | «return» => buffers.onCode emitReturn
  | throw => buffers.onCode emitThrow
  | enterTry handlerOffset => buffers.onCode (emitEnterTry (.ofNat handlerOffset))
  | leaveTry => buffers.onCode emitLeaveTry
  | rethrow => buffers.onCode emitRethrow
  | endCatch => buffers.onCode emitEndCatch
  | loadCurrentException => buffers.onCode emitLoadCurrentException
  | storeCurrentException => buffers.onCode emitStoreCurrentException
  | defer target => buffers.onCode (emitDefer (.ofNat target))
  | deferBreak => buffers.onCode emitDeferBreak
  | deferDrain count => buffers.onCode (emitDeferDrain (.ofNat count))
  | mathAdd => buffers.onCode emitMathAdd
  | mathSub => buffers.onCode emitMathSub
  | mathMult => buffers.onCode emitMathMult
  | mathDiv => buffers.onCode emitMathDiv
  | mathMod => buffers.onCode emitMathMod
  | mathPow => buffers.onCode emitMathPow
  | mathNegative => buffers.onCode emitMathNegative
  | mathShl => buffers.onCode emitMathShl
  | mathShr => buffers.onCode emitMathShr
  | compareEqual => buffers.onCode emitCompareEqual
  | compareNotEqual => buffers.onCode emitCompareNotEqual
  | compareGreater => buffers.onCode emitCompareGreater
  | compareGreaterOrEqual => buffers.onCode emitCompareGreaterOrEqual
  | compareLess => buffers.onCode emitCompareLess
  | compareLessOrEqual => buffers.onCode emitCompareLessOrEqual
  | logicalNot => buffers.onCode emitLogicalNot
  | logicalOr => buffers.onCode emitLogicalOr
  | logicalAnd => buffers.onCode emitLogicalAnd
  | newObject type ctor => buffers.onCode (emitNewObject type ctor)
  | newDelegate type => buffers.onCode (emitNewDelegate type)
  | loadField slot => buffers.onCode (emitLoadField slot)
  | storeField slot => buffers.onCode (emitStoreField slot)
  | newArray type => buffers.onCode (emitNewArray type)
  | newArrayDynamic type => buffers.onCode (emitNewArrayDynamic type)
  | createRange type => buffers.onCode (emitCreateRange type)
  | loadArrayElement => buffers.onCode emitLoadArrayElement
  | storeArrayElement => buffers.onCode emitStoreArrayElement
  | arrayLength => buffers.onCode emitArrayLength
  | loadStaticField field => buffers.onCode (emitLoadStaticField field)
  | storeStaticField field => buffers.onCode (emitStoreStaticField field)
  | loadEnumField field => buffers.onCode (emitLoadEnumField field)
  | loadTypeArgument index type => buffers.onCode (emitLoadTypeArgument index type)
  | callMethodSymbol method => buffers.onCode (emitCallMethodSymbol method)
  | callDelegate type => buffers.onCode (emitCallDelegate type)
  | callInterface interfaceMethod => buffers.onCode (emitCallInterface interfaceMethod)
  | isInstance type => buffers.onCode (emitIsInstance type)
  | castAs type => buffers.onCode (emitCastAs type)
  | cast type => buffers.onCode (emitCast type)
  | castPrimitive type => buffers.onCode (emitCastPrimitive type)

end ShardScript.ByteCode
