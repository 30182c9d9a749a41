import ShardScript.ByteCode.Image
import Mathlib.Data.List.TakeWhile

/-! What the interpreter reads where the bytes of one instruction stand. -/
namespace ShardScript.ByteCode
open Library TriviallyCopyable Encoder

namespace Decoder

def At (decoder : Decoder) (bytes : Bytes) : Prop :=
  ∃ before after, decoder.code = before ++ (bytes ++ after) ∧ decoder.ip = before.length

def advance (decoder : Decoder) (width : Nat) : Decoder := { decoder with ip := decoder.ip + width }

theorem At.left {decoder : Decoder} {left right : Bytes} (h : decoder.At (left ++ right)) :
    decoder.At left := by
  obtain ⟨before,after,code,ip⟩ := h
  exact ⟨before,right ++ after,by simp [code],ip⟩

variable {decoder : Decoder}

theorem At.right {left right : Bytes} (h : decoder.At (left ++ right)) :
    (decoder.advance left.length).At right := by
  obtain ⟨before,after,code,ip⟩ := h
  exact ⟨before ++ left,after,by simp [advance,code],by simp [advance,ip]⟩

theorem At.length_le {bytes : Bytes} (h : decoder.At bytes) :
    decoder.ip + bytes.length ≤ decoder.code.length := by
  obtain ⟨before,after,code,ip⟩ := h
  simp only [code,ip,List.length_append]
  omega

theorem At.window_eq {bytes : Bytes} (h : decoder.At bytes) :
    window decoder.code decoder.ip bytes.length = bytes := by
  obtain ⟨before,after,code,ip⟩ := h
  rw [code,ip,window_append]

variable {T : Type} [TriviallyCopyable T]

theorem At.read [Inhabited T] {value : T} (h : decoder.At (image value)) :
    (readUnaligned decoder : T × Decoder) = (value,decoder.advance (byteSize T)) := by
  have inside := h.length_le
  have copied := h.window_eq
  rw [length_image] at inside copied
  simp only [readUnaligned,Nat.not_lt.mpr inside,if_false,copied,ofImage_image,advance]

theorem At.peek {value : UInt64} (h : decoder.At (image value)) :
    decoder.peekJumpAt decoder.ip = some value := by
  have inside := h.length_le
  have copied := h.window_eq
  rw [length_image] at inside copied
  simp only [peekJumpAt,Nat.not_lt.mpr inside,if_false,copied,ofImage_image]

theorem At.absorb [Inhabited T] {value : T} (h : decoder.At (image value))
    (operand : T → Operand) :
    ByteCode.absorb readUnaligned operand decoder =
      some ([operand value],decoder.advance (image value).length) := by
  rw [ByteCode.absorb,h.read,length_image]

end Decoder

theorem wideString_image (text : List WChar) (rest : Bytes) (noNul : ∀ c ∈ text, c ≠ 0) :
    wideString ((text ++ [0]).flatMap image ++ rest) = some text := by
  induction text with
  | nil => rfl
  | cons character text ih =>
    have spelled := ofImage_image character
    obtain ⟨b0,b1,b2,b3,bytes⟩ : ∃ b0 b1 b2 b3, image character = [b0,b1,b2,b3] := ⟨_,_,_,_,rfl⟩
    rw [bytes] at spelled
    have later := ih fun c member => noNul c (List.mem_cons_of_mem _ member)
    simp only [List.cons_append,List.flatMap_cons,bytes,List.nil_append,wideString,spelled,
      noNul character (List.mem_cons_self),if_false]
    rw [later]
    rfl

theorem wideString_append {bytes : Bytes} {text : List WChar} (extra : Bytes)
    (h : wideString bytes = some text) : wideString (bytes ++ extra) = some text := by
  induction bytes using wideString.induct generalizing text with
  | case1 b0 b1 b2 b3 rest character =>
    have nul : (ofImage [b0,b1,b2,b3] : WChar) = 0 := by assumption
    simp only [wideString,nul,if_true] at h
    simp only [List.cons_append,wideString,nul,if_true]
    exact h
  | case2 b0 b1 b2 b3 rest =>
    rename_i more ih
    have nonzero : ¬ (ofImage [b0,b1,b2,b3] : WChar) = 0 := more
    simp only [wideString,nonzero,if_false] at h
    obtain ⟨tail,spelled,rfl⟩ := Option.map_eq_some_iff.mp h
    simp only [List.cons_append,wideString,nonzero,if_false,ih spelled]
    rfl
  | case3 bytes short =>
    rw [wideString.eq_2 bytes short] at h
    cases h

private theorem mapM_some {α β : Type} (items : List α) (f : α → Option β) (g : α → β)
    (h : ∀ item ∈ items, f item = some (g item)) : items.mapM f = some (items.map g) := by
  induction items with
  | nil => rfl
  | cons item items ih =>
    rw [List.mapM_cons,h item (List.mem_cons_self),
      ih fun other member => h other (List.mem_cons_of_mem _ member)]
    rfl

private theorem At.target {decoder : Decoder} {targets : List UInt64}
    (h : decoder.At (targets.flatMap image)) (index : Nat) (inside : index < targets.length) :
    (decoder.advance (index * 8)).At (image targets[index]) := by
  induction targets generalizing decoder index with
  | nil => simp at inside
  | cons target targets ih =>
    rw [List.flatMap_cons] at h
    cases index with
    | zero => simpa [Decoder.advance] using h.left
    | succ index =>
      have later := ih h.right index (by simpa using inside)
      rw [length_image] at later
      have same : decoder.ip + byteSize UInt64 + index * 8 = decoder.ip + (index + 1) * 8 := by
        simp only [byteSize]
        omega
      simpa only [Decoder.advance,same,List.getElem_cons_succ] using later

theorem absorbJumpTable_image {decoder : Decoder} {targets : List Nat}
    (h : decoder.At ((Instruction.jumpTable targets).operandImage 0))
    (typed : ∀ target ∈ targets, target < 2^64) :
    absorbJumpTable decoder = some (.count (targets.length % 2^32) ::
        (targets.take (targets.length % 2^32)).map .target,
      decoder.advance (4 + 8 * (targets.length % 2^32))) := by
  have shape : decoder.At (image (UInt32.ofNat targets.length) ++ (targets.map UInt64.ofNat).flatMap image) := by
    simpa [Instruction.operandImage,List.flatMap_map] using h
  have counted := shape.left.read
  have table := shape.right
  have total := shape.length_le
  have small : targets.length % 2^32 ≤ targets.length := Nat.mod_le _ _
  have count : (UInt32.ofNat targets.length).toNat = targets.length % 2^32 := by simp
  have width : ((targets.map UInt64.ofNat).flatMap image).length = 8 * targets.length := by
    simp [byteSize,Function.comp_def,Nat.mul_comm]
  rw [length_image] at table
  rw [List.length_append,length_image,width] at total
  simp only [byteSize] at counted table total
  have peeked : (List.range (targets.length % 2^32)).mapM (fun index =>
      (decoder.advance 4).peekJumpAt ((decoder.advance 4).ip + index * 8)) =
      some ((targets.take (targets.length % 2^32)).map UInt64.ofNat) := by
    rw [mapM_some _ _ (fun index => UInt64.ofNat (targets[index]?.getD 0))]
    · congr 1
      apply List.ext_getElem
      · simpa using small
      · intro index left right
        have inside : index < targets.length % 2^32 := by simpa using left
        simp [List.getElem?_eq_getElem (Nat.lt_of_lt_of_le inside small)]
    · intro index member
      have inside : index < targets.length := Nat.lt_of_lt_of_le (List.mem_range.mp member) small
      have read := (At.target table index (by simpa using inside)).peek
      simpa [Decoder.advance,List.getElem?_eq_getElem inside,Decoder.peekJumpAt] using read
  have seek : (decoder.advance 4).setCursor ((decoder.advance 4).ip + targets.length % 2^32 * 8) =
      some (decoder.advance (4 + 8 * (targets.length % 2^32))) := by
    have inside : ¬ decoder.ip + 4 + targets.length % 2^32 * 8 > decoder.code.length := by omega
    simp only [Decoder.setCursor,Decoder.advance,inside,if_false]
    congr 2
    omega
  simp only [absorbJumpTable,Decoder.absorbUInt32,counted,count,byteSize,peeked,seek]
  simp only [Option.pure_def,Option.bind_eq_bind,Option.bind_some,List.map_map,Option.some.injEq,
    Prod.mk.injEq,List.cons.injEq,true_and,and_true]
  apply List.map_congr_left
  intro target member
  simpa using typed target (List.mem_of_mem_take member)

namespace Instruction

def Typed : Instruction → Prop
  | deferDrain count => count < 2^64
  | instruction => ∀ target ∈ instruction.targets, target < 2^64

/-- The two operands that the interpreter reads with another type than the encoder wrote:
an 8-bit constant is read unsigned, and a table has a 32-bit length. -/
def Decodable : Instruction → Prop
  | loadConstInt8 value => 0 ≤ value.toInt
  | jumpTable targets => targets.length < 2^32
  | _ => True

def readOperands : Instruction → List Operand
  | loadConstInt8 value => [.integer value.toUInt8.toNat]
  | jumpTable targets => .count (targets.length % 2^32) ::
      (targets.take (targets.length % 2^32)).map .target
  | instruction => instruction.operands

def readSize : Instruction → Nat
  | jumpTable targets => 2 + 4 + 8 * (targets.length % 2^32)
  | instruction => instruction.size

theorem readOperands_eq_iff (instruction : Instruction) :
    instruction.readOperands = instruction.operands ↔ instruction.Decodable := by
  cases instruction with
  | loadConstInt8 value =>
    have signed : value.toInt = _ := BitVec.toInt_eq_toNat_cond value.toBitVec
    have unsigned : value.toUInt8.toNat = value.toBitVec.toNat := rfl
    have small := value.toBitVec.isLt
    simp only [readOperands,operands,Decodable,List.cons.injEq,Operand.integer.injEq,and_true,unsigned]
    rw [signed]
    split <;> omega
  | jumpTable targets =>
    simp only [readOperands,operands,Decodable,List.cons.injEq,Operand.count.injEq]
    constructor
    · intro h
      omega
    · intro h
      rw [Nat.mod_eq_of_lt h,List.take_length]
      exact ⟨rfl,rfl⟩
  | _ => simp [readOperands,Decodable]

variable {instruction : Instruction}

theorem Decodable.readSize_eq (h : instruction.Decodable) :
    instruction.readSize = instruction.size := by
  cases instruction with
  | jumpTable targets => rw [readSize,size,Nat.mod_eq_of_lt h]
  | _ => rfl

def TextAt (data : Bytes) (dataOrigin : Nat) : Instruction → Prop
  | loadConstString value => dataOrigin < 2^64 ∧ wideString (data.drop dataOrigin) = some (cString value)
  | _ => True

theorem absorbOperands_image {data : Bytes} {decoder : Decoder}
    {dataOrigin : Nat} (h : decoder.At (instruction.operandImage dataOrigin))
    (typed : instruction.Typed) (text : instruction.TextAt data dataOrigin) :
    absorbOperands data decoder instruction.opCode =
      some (instruction.readOperands,decoder.advance (instruction.readSize - 2)) := by
  cases instruction with
  | jumpTable targets =>
    have read := absorbJumpTable_image h typed
    rw [opCode,absorbOperands,read,readOperands,readSize]
    congr 3
    omega
  | loadConstString value =>
    obtain ⟨small,spelled⟩ := text
    have origin := h.read
    have offset : (UInt64.ofNat dataOrigin).toNat = dataOrigin := by simpa using small
    simp only [opCode,absorbOperands,Decoder.absorbString,origin,offset,spelled]
    rfl
  | newObject type ctor =>
    have first := h.left.read
    have second := h.right.read
    rw [TriviallyCopyable.length_image] at second
    simp only [opCode,absorbOperands,Decoder.absorbTypeSymbol,Decoder.absorbConstructorSymbol,first,second]
    rfl
  | loadTypeArgument index type =>
    have first := h.left.read
    have second := h.right.read
    rw [TriviallyCopyable.length_image] at second
    simp only [opCode,absorbOperands,Decoder.absorbUInt16,Decoder.absorbTypeSymbol,first,second]
    rfl
  | jump target | jumpTrue target | jumpFalse target | branchNull target | enterTry target | defer target =>
    have small : target < 2^64 := typed target (List.mem_singleton.mpr rfl)
    have offset : (UInt64.ofNat target).toNat = target := by simpa using small
    have read := Decoder.At.absorb h fun target : UInt64 => .target target.toNat
    rw [offset] at read
    exact read
  | deferDrain count =>
    have value : (UInt64.ofNat count).toNat = count := by simpa using (show count < 2^64 from typed)
    have read := Decoder.At.absorb h fun count : UInt64 => .count count.toNat
    rw [value] at read
    exact read
  | loadConstInt8 value =>
    have bytes : decoder.At (TriviallyCopyable.image value.toUInt8) := h
    exact bytes.absorb fun value => .integer value.toNat
  | loadConstInt64 value | loadConstNativeInt value =>
    exact Decoder.At.absorb h fun value : Int64 => .integer value.toInt
  | loadLocal index | storeLocal index | loadArg index | storeArg index =>
    exact Decoder.At.absorb h fun slot : UInt16 => .slot slot.toNat
  | loadField slot | storeField slot => exact Decoder.At.absorb h fun slot : UInt32 => .slot slot.toNat
  | _ =>
    first
    | rfl
    | exact Decoder.At.absorb h _

theorem visit_image {data : Bytes} {decoder : Decoder}
    {dataOrigin : Nat} (h : decoder.At (instruction.image dataOrigin))
    (typed : instruction.Typed) (text : instruction.TextAt data dataOrigin) :
    visit data decoder = some (⟨decoder.ip,instruction.opCode,instruction.readOperands,
      decoder.ip + instruction.readSize⟩,decoder.advance instruction.readSize) := by
  have word := h.left.read
  have named : instruction.opCode.word.toNat = instruction.opCode.value := by
    simpa [OpCode.word] using instruction.opCode.value_lt
  have operands := h.right
  rw [TriviallyCopyable.length_image] at operands
  have absorbed := absorbOperands_image operands typed text
  have total : decoder.ip + byteSize UInt16 + (instruction.readSize - 2) =
      decoder.ip + instruction.readSize := by
    have : 2 ≤ instruction.readSize := by cases instruction <;> simp [readSize,size]; omega
    simp only [byteSize]
    omega
  simp only [visit,Decoder.absorbOpCode,word,named,OpCode.ofValue_value,Option.bind_eq_bind,
    Option.bind_some,absorbed]
  simp only [Decoder.advance,total,Option.pure_def]

end Instruction

end ShardScript.ByteCode
