import ShardScript.ByteCode.Decoder

/-! The bytes of one instruction: what the encoder appends, and what the interpreter reads
back from it. -/
namespace ShardScript.ByteCode
open Library TriviallyCopyable Encoder

theorem appendData_some {code data result : Bytes} (h : appendData code data = some result) :
    result = code ++ data ∧ result.length ≤ maxSize := by
  unfold appendData at h
  split at h
  · cases h
    simpa using by assumption
  · cases h

def Appends (emit : Bytes → Option Bytes) (bytes : Bytes) : Prop :=
  ∀ code result, emit code = some result → result = code ++ bytes ∧ result.length ≤ maxSize

theorem appendDataT_appends {T : Type} [TriviallyCopyable T] (value : T) :
    Appends (fun code => appendDataT code value) (image value) :=
  fun _ _ h => appendData_some h

theorem Appends.bind {first second : Bytes → Option Bytes} {left right : Bytes}
    (h : Appends first left) (k : Appends second right) :
    Appends (fun code => first code >>= second) (left ++ right) := by
  intro code result run
  obtain ⟨middle,one,two⟩ := Option.bind_eq_some_iff.mp run
  obtain ⟨rfl,_⟩ := h _ _ one
  simpa only [List.append_assoc] using k _ _ two

theorem emitOp_appends (op : OpCode) : Appends (emitOp op) (image op.word ++ []) := by
  rw [List.append_nil]
  exact appendDataT_appends op.word

theorem emitOpWith_appends {T : Type} [TriviallyCopyable T] (op : OpCode) (value : T) :
    Appends (emitOpWith op value) (image op.word ++ image value) :=
  (appendDataT_appends op.word).bind (appendDataT_appends value)

theorem emitOpWithTwo_appends {S T : Type} [TriviallyCopyable S] [TriviallyCopyable T]
    (op : OpCode) (first : S) (second : T) :
    Appends (emitOpWithTwo op first second) (image op.word ++ (image first ++ image second)) :=
  (appendDataT_appends op.word).bind ((appendDataT_appends first).bind (appendDataT_appends second))

theorem foldlM_appends {T : Type} [TriviallyCopyable T] (values : List T) (code result : Bytes)
    (small : code.length ≤ maxSize) (run : values.foldlM appendDataT code = some result) :
    result = code ++ values.flatMap image ∧ result.length ≤ maxSize := by
  induction values generalizing code with
  | nil =>
    cases run
    simpa using small
  | cons value values ih =>
    rw [List.foldlM_cons] at run
    obtain ⟨middle,one,rest⟩ := Option.bind_eq_some_iff.mp run
    obtain ⟨rfl,bound⟩ := appendData_some one
    simpa [List.append_assoc] using ih _ bound rest

theorem emitJumpTable_appends (targets : List UInt64) :
    Appends (emitJumpTable targets) (image OpCode.jumpTable.word ++
      (image (UInt32.ofNat targets.length) ++ targets.flatMap image)) := by
  intro code result run
  obtain ⟨afterOp,one,run⟩ := Option.bind_eq_some_iff.mp run
  obtain ⟨afterCount,two,run⟩ := Option.bind_eq_some_iff.mp run
  obtain ⟨rfl,_⟩ := appendData_some one
  obtain ⟨rfl,bound⟩ := appendData_some two
  simpa [List.append_assoc] using foldlM_appends _ _ _ bound run

namespace Instruction

@[grind] def operandImage (dataOrigin : Nat) : Instruction → Bytes
  | loadConstBool value => image value
  | loadConstInt8 value => image value
  | loadConstInt64 value | loadConstNativeInt value => image value
  | loadConstDouble64 bits => image bits
  | loadConstChar16 value => image value
  | loadConstString _ => image (UInt64.ofNat dataOrigin)
  | loadLocal index | storeLocal index | loadArg index | storeArg index => image index
  | jump target | jumpTrue target | jumpFalse target | branchNull target => image (UInt64.ofNat target)
  | jumpTable targets =>
      image (UInt32.ofNat targets.length) ++ targets.flatMap fun target => image (UInt64.ofNat target)
  | enterTry target | defer target => image (UInt64.ofNat target)
  | deferDrain count => image (UInt64.ofNat count)
  | newObject type ctor => image type ++ image ctor
  | loadField slot | storeField slot => image slot
  | newDelegate symbol | newArray symbol | newArrayDynamic symbol | createRange symbol => image symbol
  | loadStaticField symbol | storeStaticField symbol | loadEnumField symbol => image symbol
  | loadTypeArgument index type => image index ++ image type
  | callMethodSymbol symbol | callDelegate symbol | callInterface symbol => image symbol
  | isInstance symbol | castAs symbol | cast symbol | castPrimitive symbol => image symbol
  | _ => []

def image (dataOrigin : Nat) (instruction : Instruction) : Bytes :=
  TriviallyCopyable.image instruction.opCode.word ++ instruction.operandImage dataOrigin

def dataImage : Instruction → Bytes
  | loadConstString value => (cString value ++ [0]).flatMap TriviallyCopyable.image
  | _ => []

@[simp] theorem length_image (dataOrigin : Nat) (instruction : Instruction) :
    (instruction.image dataOrigin).length = instruction.size := by
  cases instruction <;> simp [image,operandImage,size,byteSize]
  case jumpTable targets => omega

private theorem onCode_image {emit : Bytes → Option Bytes} {instruction : Instruction}
    {buffers result : Buffers} (appends : Appends emit (instruction.image buffers.data.length))
    (run : buffers.onCode emit = some result) (noData : instruction.dataImage = []) :
    result.code = buffers.code ++ instruction.image buffers.data.length ∧
      result.data = buffers.data ++ instruction.dataImage ∧
      (buffers.data.length ≤ maxSize → result.data.length ≤ maxSize) := by
  obtain ⟨code,emitted,built⟩ := Option.bind_eq_some_iff.mp run
  cases built
  rw [noData,List.append_nil]
  exact ⟨(appends _ _ emitted).1,rfl,id⟩

theorem emit_image {buffers result : Buffers} {instruction : Instruction}
    (run : instruction.emit buffers = some result) :
    result.code = buffers.code ++ instruction.image buffers.data.length ∧
      result.data = buffers.data ++ instruction.dataImage ∧
      (buffers.data.length ≤ maxSize → result.data.length ≤ maxSize) := by
  cases instruction with
  | loadConstString value =>
    obtain ⟨buffered,emitted,built⟩ := Option.bind_eq_some_iff.mp run
    cases built
    obtain ⟨data,appended,emitted⟩ := Option.bind_eq_some_iff.mp emitted
    obtain ⟨code,coded,built⟩ := Option.bind_eq_some_iff.mp emitted
    cases built
    obtain ⟨dataEq,bound⟩ := appendData_some appended
    exact ⟨(emitOpWith_appends _ _ _ _ coded).1,dataEq,fun _ => bound⟩
  | jumpTable targets =>
    refine onCode_image ?_ run rfl
    simpa [image,operandImage,opCode,List.flatMap_map] using
      emitJumpTable_appends (targets.map .ofNat)
  | newObject type ctor => exact onCode_image (emitOpWithTwo_appends _ _ _) run rfl
  | loadTypeArgument index type => exact onCode_image (emitOpWithTwo_appends _ _ _) run rfl
  | _ =>
    first
    | exact onCode_image (emitOp_appends _) run rfl
    | exact onCode_image (emitOpWith_appends _ _) run rfl

end Instruction
end ShardScript.ByteCode
