import ShardScript.ByteCode.Encoder

/-! The byte-code decoder and the operand reads of the interpreter. -/
namespace ShardScript.ByteCode
open Library

structure Decoder where
  code : Bytes
  ip : Nat

namespace Decoder
open TriviallyCopyable

def isEOF (decoder : Decoder) : Bool := decoder.ip ≥ decoder.code.length

def setCursor (decoder : Decoder) (amount : Nat) : Option Decoder :=
  if amount > decoder.code.length then none else some { decoder with ip := amount }

def readUnaligned {T : Type} [TriviallyCopyable T] [Inhabited T] (decoder : Decoder) : T × Decoder :=
  if decoder.ip + byteSize T > decoder.code.length then (default,decoder)
  else (ofImage (window decoder.code decoder.ip (byteSize T)),
    { decoder with ip := decoder.ip + byteSize T })

def peekJumpAt (decoder : Decoder) (offset : Nat) : Option UInt64 :=
  if offset + byteSize UInt64 > decoder.code.length then none
  else some (ofImage (window decoder.code offset (byteSize UInt64)))

def absorbOpCode : Decoder → UInt16 × Decoder := readUnaligned
def absorbBoolean : Decoder → Bool × Decoder := readUnaligned
def absorbInt64 : Decoder → Int64 × Decoder := readUnaligned
def absorbIntPtr : Decoder → Int64 × Decoder := readUnaligned
def absorbDouble64 : Decoder → UInt64 × Decoder := readUnaligned
def absorbChar16 : Decoder → WChar × Decoder := readUnaligned
def absorbString : Decoder → UInt64 × Decoder := readUnaligned
def absorbUInt8 : Decoder → UInt8 × Decoder := readUnaligned
def absorbVariableSlot : Decoder → UInt16 × Decoder := readUnaligned
def absorbUInt16 : Decoder → UInt16 × Decoder := readUnaligned
def absorbUInt32 : Decoder → UInt32 × Decoder := readUnaligned
def absorbJump : Decoder → UInt64 × Decoder := readUnaligned
def absorbTypeSymbol : Decoder → Address × Decoder := readUnaligned
def absorbDelegateTypeSymbol : Decoder → Address × Decoder := readUnaligned
def absorbFieldSlot : Decoder → UInt32 × Decoder := readUnaligned
def absorbFieldSymbol : Decoder → Address × Decoder := readUnaligned
def absorbMethodSymbol : Decoder → Address × Decoder := readUnaligned
def absorbConstructorSymbol : Decoder → Address × Decoder := readUnaligned

end Decoder

/-- The NUL-terminated string at the start of a byte string; `none` when no NUL ends it. -/
@[grind] def wideString : Bytes → Option (List WChar)
  | b0 :: b1 :: b2 :: b3 :: rest =>
      let character : WChar := TriviallyCopyable.ofImage [b0,b1,b2,b3]
      if character = 0 then some [] else (character :: ·) <$> wideString rest
  | _ => none

def absorb {T : Type} (read : Decoder → T × Decoder) (operand : T → Operand) (decoder : Decoder) :
    Option (List Operand × Decoder) :=
  some ([operand (read decoder).1],(read decoder).2)

/-- The jump table: a count, and that many targets after the cursor. Not jumping moves the
cursor past the table. -/
def absorbJumpTable (decoder : Decoder) : Option (List Operand × Decoder) := do
  let (count,decoder) := decoder.absorbUInt32
  let base := decoder.ip
  let targets ← (List.range count.toNat).mapM fun index =>
    decoder.peekJumpAt (base + index * TriviallyCopyable.byteSize UInt64)
  let decoder ← decoder.setCursor (base + count.toNat * TriviallyCopyable.byteSize UInt64)
  return (.count count.toNat :: targets.map (fun target => .target target.toNat),decoder)

/-- The operand reads of one case of `ProcessCode`, on the path that takes no jump. -/
def absorbOperands (data : Bytes) (decoder : Decoder) : OpCode → Option (List Operand × Decoder)
  | .callMethodSymbol => absorb Decoder.absorbMethodSymbol .symbol decoder
  | .callDelegate => absorb Decoder.absorbDelegateTypeSymbol .symbol decoder
  | .callInterface => absorb Decoder.absorbMethodSymbol .symbol decoder
  | .isInstance => absorb Decoder.absorbTypeSymbol .symbol decoder
  | .castAs => absorb Decoder.absorbTypeSymbol .symbol decoder
  | .cast => absorb Decoder.absorbTypeSymbol .symbol decoder
  | .castPrimitive => absorb Decoder.absorbTypeSymbol .symbol decoder
  | .loadConstBoolean => absorb Decoder.absorbBoolean .boolean decoder
  | .loadConstInteger8 => absorb Decoder.absorbUInt8 (fun value => .integer value.toNat) decoder
  | .loadConstInteger64 => absorb Decoder.absorbInt64 (fun value => .integer value.toInt) decoder
  | .loadConstNativeInteger => absorb Decoder.absorbIntPtr (fun value => .integer value.toInt) decoder
  | .loadConstRational64 => absorb Decoder.absorbDouble64 .rational decoder
  | .loadConstChar => absorb Decoder.absorbChar16 .character decoder
  | .loadConstString => do
      let (origin,decoder) := decoder.absorbString
      let text ← wideString (data.drop origin.toNat)
      return ([.text text],decoder)
  | .loadLocal => absorb Decoder.absorbVariableSlot (fun slot => .slot slot.toNat) decoder
  | .storeLocal => absorb Decoder.absorbVariableSlot (fun slot => .slot slot.toNat) decoder
  | .loadArg => absorb Decoder.absorbVariableSlot (fun slot => .slot slot.toNat) decoder
  | .storeArg => absorb Decoder.absorbVariableSlot (fun slot => .slot slot.toNat) decoder
  | .newObject => do
      let (type,decoder) := decoder.absorbTypeSymbol
      let (ctor,decoder) := decoder.absorbConstructorSymbol
      return ([.symbol type,.symbol ctor],decoder)
  | .newDelegate => absorb Decoder.absorbDelegateTypeSymbol .symbol decoder
  | .loadTypeArgument => do
      let (index,decoder) := decoder.absorbUInt16
      let (type,decoder) := decoder.absorbTypeSymbol
      return ([.slot index.toNat,.symbol type],decoder)
  | .loadField => absorb Decoder.absorbFieldSlot (fun slot => .slot slot.toNat) decoder
  | .storeField => absorb Decoder.absorbFieldSlot (fun slot => .slot slot.toNat) decoder
  | .loadStaticField => absorb Decoder.absorbFieldSymbol .symbol decoder
  | .loadEnumField => absorb Decoder.absorbFieldSymbol .symbol decoder
  | .storeStaticField => absorb Decoder.absorbFieldSymbol .symbol decoder
  | .newArray => absorb Decoder.absorbTypeSymbol .symbol decoder
  | .newArrayDynamic => absorb Decoder.absorbTypeSymbol .symbol decoder
  | .createRange => absorb Decoder.absorbTypeSymbol .symbol decoder
  | .jump => absorb Decoder.absorbJump (fun target => .target target.toNat) decoder
  | .jumpFalse => absorb Decoder.absorbJump (fun target => .target target.toNat) decoder
  | .jumpTrue => absorb Decoder.absorbJump (fun target => .target target.toNat) decoder
  | .brNull => absorb Decoder.absorbJump (fun target => .target target.toNat) decoder
  | .jumpTable => absorbJumpTable decoder
  | .enterTry => absorb Decoder.absorbJump (fun target => .target target.toNat) decoder
  | .defer => absorb Decoder.absorbJump (fun target => .target target.toNat) decoder
  | .deferDrain => absorb Decoder.absorbJump (fun count => .count count.toNat) decoder
  | .nop | .halt | .pop | .loadConstNull | .dup | .return | .throw
  | .mathAddition | .mathSubtract | .mathMultiply | .mathDivision | .mathModulo | .mathPower
  | .mathNegative | .mathShl | .mathShr
  | .compareEqual | .compareNotEqual | .compareGreater | .compareGreaterOrEqual
  | .compareLess | .compareLessOrEqual | .logicalNot | .logicalOr | .logicalAnd
  | .loadArrayElement | .storeArrayElement | .arrayLength
  | .leaveTry | .rethrow | .endCatch | .loadCurrentException | .storeCurrentException
  | .deferBreak => some ([],decoder)

structure Visit where
  start : Nat
  opCode : OpCode
  operands : List Operand
  stop : Nat
  deriving DecidableEq

def visit (data : Bytes) (decoder : Decoder) : Option (Visit × Decoder) := do
  let (word,afterOpCode) := decoder.absorbOpCode
  let opCode ← OpCode.ofValue word.toNat
  let (operands,afterOperands) ← absorbOperands data afterOpCode opCode
  return (⟨decoder.ip,opCode,operands,afterOperands.ip⟩,afterOperands)

def walk (data : Bytes) : (fuel : Nat) → Decoder → Option (List Visit)
  | 0,decoder => if decoder.isEOF then some [] else none
  | fuel+1,decoder => if decoder.isEOF then some [] else do
      let (first,decoder) ← visit data decoder
      let rest ← walk data fuel decoder
      return first :: rest

/-- The instructions of a code from offset 0 on. Every instruction has a byte at least, so
the length of the code bounds their number. -/
def readAll (buffers : Buffers) : Option (List Visit) :=
  walk buffers.data buffers.code.length ⟨buffers.code,0⟩

end ShardScript.ByteCode
