import ShardScript.ByteCode.Boundaries

/-! The disassembler: the lines that it prints for a code, against the instructions that were emitted. -/
namespace ShardScript.ByteCode
open Library TriviallyCopyable

def OpCode.mnemonic : OpCode → Option String
  | .nop => some "nop" | .halt => some "halt" | .pop => some "pop"
  | .loadConstNull => some "ldnull" | .return => some "ret"
  | .mathAddition => some "add" | .mathSubtract => some "sub" | .mathMultiply => some "mul"
  | .mathDivision => some "div" | .mathModulo => some "mod" | .mathPower => some "pow"
  | .mathNegative => some "neg" | .mathShl => some "shl" | .mathShr => some "shr"
  | .compareEqual => some "cmp_eq" | .compareNotEqual => some "cmp_neq"
  | .compareLess => some "cmp_l" | .compareLessOrEqual => some "cmp_le"
  | .compareGreater => some "cmp_gt" | .compareGreaterOrEqual => some "cmp_ge"
  | .logicalNot => some "not" | .logicalAnd => some "and" | .logicalOr => some "or"
  | .loadArrayElement => some "ldelem" | .storeArrayElement => some "stelem"
  | .dup => some "dup"
  | .loadConstBoolean => some "ldc.bool" | .loadConstInteger64 => some "ldc.i8"
  | .loadConstRational64 => some "ldc.r8" | .loadConstChar => some "ldc.char"
  | .loadConstString => some "ldstr"
  | .loadLocal => some "ldloc" | .storeLocal => some "stloc"
  | .loadArg => some "ldarg" | .storeArg => some "starg"
  | .jump => some "jmp" | .jumpFalse => some "jmpf" | .jumpTrue => some "jmpt"
  | .brNull => some "brnull" | .jumpTable => some "jmptable"
  | .callMethodSymbol => some "call" | .callDelegate => some "calldelegate"
  | .newDelegate => some "newdelegate" | .newObject => some "newobj"
  | .loadField => some "ldfld" | .storeField => some "stfld"
  | .loadStaticField => some "ldsfld" | .loadEnumField => some "ldenum"
  | .storeStaticField => some "stsfld"
  | .newArray => some "newarr" | .newArrayDynamic => some "newdynarr"
  | .arrayLength => some "ldlen" | .createRange => some "newrange"
  | .loadTypeArgument => some "ldtypearg" | .callInterface => some "callinterface"
  | .isInstance => some "isinst" | .castAs => some "castinterface"
  | .throw => some "throw" | .enterTry => some "enter_try" | .leaveTry => some "leave_try"
  | .rethrow => some "rethrow" | .endCatch => some "end_catch"
  | .loadCurrentException => some "load_current_exception"
  | .storeCurrentException => some "store_current_exception"
  | .defer => some "defer" | .deferBreak => some "defer_break" | .deferDrain => some "defer_drain"
  | .loadConstInteger8 | .loadConstNativeInteger | .cast | .castPrimitive => none

namespace Disassembler

def absorbArraySymbol : Decoder → Address × Decoder := Decoder.readUnaligned

def print {T : Type} (read : Decoder → T × Decoder) (operand : T → Operand) (decoder : Decoder) :
    List Operand × Decoder := ([operand (read decoder).1],(read decoder).2)

def printJumps : Nat → Decoder → List Operand × Decoder
  | 0,decoder => ([],decoder)
  | count + 1,decoder =>
      let (target,decoder) := decoder.absorbJump
      let (targets,decoder) := printJumps count decoder
      (.target target.toNat :: targets,decoder)

@[grind] def printArguments (decoder : Decoder) : OpCode → List Operand × Decoder
  | .loadConstBoolean => print Decoder.absorbBoolean .boolean decoder
  | .loadConstInteger64 => print Decoder.absorbInt64 (fun value => .integer value.toInt) decoder
  | .loadConstRational64 => print Decoder.absorbDouble64 .rational decoder
  | .loadConstChar => print Decoder.absorbChar16 .character decoder
  | .loadConstString => print Decoder.absorbString (fun index => .count index.toNat) decoder
  | .loadLocal => print Decoder.absorbVariableSlot (fun slot => .slot slot.toNat) decoder
  | .storeLocal => print Decoder.absorbVariableSlot (fun slot => .slot slot.toNat) decoder
  | .loadArg => print Decoder.absorbVariableSlot (fun slot => .slot slot.toNat) decoder
  | .storeArg => print Decoder.absorbVariableSlot (fun slot => .slot slot.toNat) decoder
  | .jump => print Decoder.absorbJump (fun target => .target target.toNat) decoder
  | .jumpFalse => print Decoder.absorbJump (fun target => .target target.toNat) decoder
  | .jumpTrue => print Decoder.absorbJump (fun target => .target target.toNat) decoder
  | .brNull => print Decoder.absorbJump (fun target => .target target.toNat) decoder
  | .jumpTable =>
      let (count,decoder) := decoder.absorbUInt32
      let (targets,decoder) := printJumps count.toNat decoder
      (.count count.toNat :: targets,decoder)
  | .callMethodSymbol => print Decoder.absorbMethodSymbol .symbol decoder
  | .callDelegate => print Decoder.absorbDelegateTypeSymbol .symbol decoder
  | .newDelegate => print Decoder.absorbDelegateTypeSymbol .symbol decoder
  | .newObject =>
      let (type,decoder) := decoder.absorbTypeSymbol
      let (_,decoder) := decoder.absorbConstructorSymbol
      ([.symbol type],decoder)
  | .loadField => print Decoder.absorbFieldSlot (fun slot => .slot slot.toNat) decoder
  | .storeField => print Decoder.absorbFieldSlot (fun slot => .slot slot.toNat) decoder
  | .loadStaticField => print Decoder.absorbFieldSymbol .symbol decoder
  | .loadEnumField => print Decoder.absorbFieldSymbol .symbol decoder
  | .storeStaticField => print Decoder.absorbFieldSymbol .symbol decoder
  | .newArray => print absorbArraySymbol .symbol decoder
  | .newArrayDynamic => print Decoder.absorbTypeSymbol .symbol decoder
  | .createRange => print Decoder.absorbTypeSymbol .symbol decoder
  | .loadTypeArgument =>
      let (index,decoder) := decoder.absorbUInt16
      let (type,decoder) := decoder.absorbTypeSymbol
      ([.slot index.toNat,.symbol type],decoder)
  | .callInterface => print Decoder.absorbMethodSymbol .symbol decoder
  | .isInstance => print Decoder.absorbTypeSymbol .symbol decoder
  | .castAs => print Decoder.absorbTypeSymbol .symbol decoder
  | .enterTry => print Decoder.absorbJump (fun target => .target target.toNat) decoder
  | .defer => print Decoder.absorbJump (fun target => .target target.toNat) decoder
  | .deferDrain => print Decoder.absorbJump (fun count => .count count.toNat) decoder
  | _ => ([],decoder)

structure Entry where
  offset : Nat
  opcode : String
  arguments : List Operand
  deriving DecidableEq

def lineFeed : WChar := 10

/-- The line breaks that are printed inside of the arguments; the names of symbols hold none. -/
def breaks (arguments : List Operand) : Nat := arguments.count (.character lineFeed)

def Entry.lines (entry : Entry) : List (Option Nat) :=
  some entry.offset :: List.replicate (breaks entry.arguments) none

def disassembleNext (decoder : Decoder) : Entry × Decoder :=
  let (word,next) := decoder.absorbOpCode
  match (OpCode.ofValue word.toNat).bind fun op => op.mnemonic.map (op,·) with
  | some (op,opcode) => (⟨decoder.ip,opcode,(printArguments next op).1⟩,(printArguments next op).2)
  | none => (⟨decoder.ip,"unknown",[.integer word.toNat]⟩,next)

def disassemble : Nat → Decoder → Option (List Entry × Nat)
  | 0,_ => none
  | fuel + 1,decoder =>
      if decoder.isEOF then some ([],decoder.ip)
      else (disassemble fuel (disassembleNext decoder).2).map fun rest => ((disassembleNext decoder).1 :: rest.1,rest.2)

end Disassembler

open Disassembler

/-- One line is printed for every emission, with the offset where it started, and the end is the end of the code. -/
def Session.Lists (session : Session) : Prop :=
  ∃ fuel entries, disassemble fuel ⟨session.buffers.code,0⟩ = some (entries,session.buffers.code.length) ∧
    entries.flatMap Entry.lines = session.log.map fun written => some written.start

namespace Instruction

/-- The disassembler knows the operation code, counts all the targets of a table, and does not print a line feed. -/
def Listed : Instruction → Prop
  | loadConstInt8 _ | loadConstNativeInt _ | cast _ | castPrimitive _ => False
  | loadConstChar16 value => value ≠ lineFeed
  | jumpTable targets => targets.length < 2^32
  | _ => True

def listedSize : Instruction → Nat
  | loadConstInt8 _ | loadConstNativeInt _ | cast _ | castPrimitive _ => 2
  | instruction => instruction.readSize

def lineBreaks : Instruction → Nat
  | loadConstChar16 value => if value = lineFeed then 1 else 0
  | _ => 0

theorem listed_iff (instruction : Instruction) :
    instruction.Listed ↔ instruction.listedSize = instruction.size ∧ instruction.lineBreaks = 0 := by
  cases instruction with
  | jumpTable targets =>
    simp only [Listed,listedSize,readSize,size,lineBreaks,and_true]
    omega
  | loadConstChar16 value => simp [Listed,listedSize,readSize,size,lineBreaks]
  | _ => simp [Listed,listedSize,readSize,size,lineBreaks]

theorem listedSize_le (instruction : Instruction) : instruction.listedSize ≤ instruction.size := by
  cases instruction with
  | jumpTable targets =>
    have small := Nat.mod_le targets.length (2^32)
    simp only [listedSize,readSize,size]
    omega
  | _ => simp [listedSize,readSize,size]

end Instruction

namespace Disassembler

variable {decoder : Decoder}

theorem print_image {T : Type} [TriviallyCopyable T] [Inhabited T] {value : T}
    (h : decoder.At (image value)) (operand : T → Operand) :
    print Decoder.readUnaligned operand decoder = ([operand value],decoder.advance (image value).length) := by
  rw [print,h.read,length_image]

theorem printJumps_image {targets : List UInt64} (h : decoder.At (targets.flatMap image))
    {count : Nat} (inside : count ≤ targets.length) :
    ∃ arguments, printJumps count decoder = (arguments,decoder.advance (8 * count)) ∧ breaks arguments = 0 := by
  induction count generalizing decoder targets with
  | zero => exact ⟨[],rfl,rfl⟩
  | succ count ih =>
    obtain _ | ⟨target,targets⟩ := targets
    · cases inside
    · rw [List.flatMap_cons] at h
      have first := h.left.read
      have rest := h.right
      rw [length_image] at rest
      obtain ⟨arguments,read,none_⟩ := ih rest (Nat.le_of_succ_le_succ inside)
      refine ⟨.target target.toNat :: arguments,?_,?_⟩
      · simp only [printJumps,Decoder.absorbJump,first,read]
        simp only [Decoder.advance,byteSize]
        congr 2
        omega
      · rw [breaks,List.count_cons,← breaks,none_]
        rfl

theorem printArguments_image {instruction : Instruction} {dataOrigin : Nat} {opcode : String}
    (h : decoder.At (instruction.operandImage dataOrigin)) (known : instruction.opCode.mnemonic = some opcode) :
    ∃ arguments, printArguments decoder instruction.opCode =
        (arguments,decoder.advance (instruction.listedSize - 2)) ∧ breaks arguments = instruction.lineBreaks := by
  have single {T : Type} [TriviallyCopyable T] [Inhabited T] {value : T} (h : decoder.At (image value))
      (operand : T → Operand) (plain : operand value ≠ .character lineFeed) :
      ∃ arguments, print Decoder.readUnaligned operand decoder = (arguments,decoder.advance (byteSize T)) ∧
        breaks arguments = 0 := by
    refine ⟨_,(print_image h operand).trans (by rw [length_image]),?_⟩
    exact List.count_eq_zero.mpr fun member => plain (List.mem_singleton.mp member).symm
  cases instruction with
  | loadConstInt8 | loadConstNativeInt | cast | castPrimitive => cases known
  | loadConstChar16 value =>
    refine ⟨_,print_image h .character,?_⟩
    by_cases feed : value = lineFeed
    · simp [breaks,Instruction.lineBreaks,feed]
    · simp [breaks,Instruction.lineBreaks,feed]
  | jumpTable targets =>
    have shape : decoder.At (image (UInt32.ofNat targets.length) ++ (targets.map UInt64.ofNat).flatMap image) := by
      simpa [Instruction.operandImage,List.flatMap_map] using h
    have counted := shape.left.read
    have table := shape.right
    have count : (UInt32.ofNat targets.length).toNat = targets.length % 2^32 := by simp
    rw [length_image] at table
    obtain ⟨arguments,read,none_⟩ := printJumps_image table
      (show targets.length % 2^32 ≤ (targets.map UInt64.ofNat).length by
        rw [List.length_map]
        exact Nat.mod_le _ _)
    refine ⟨.count (targets.length % 2^32) :: arguments,?_,?_⟩
    · simp only [Instruction.opCode,printArguments,Decoder.absorbUInt32,counted,count,read]
      simp only [Decoder.advance,byteSize,Instruction.listedSize,Instruction.readSize]
      congr 2
      omega
    · rw [breaks,List.count_cons,← breaks,none_]
      rfl
  | newObject type ctor =>
    have first := h.left.read
    have second := h.right.read
    rw [length_image] at second
    refine ⟨[.symbol type],?_,rfl⟩
    simp only [Instruction.opCode,printArguments,Decoder.absorbTypeSymbol,Decoder.absorbConstructorSymbol,first,second]
    rfl
  | loadTypeArgument index type =>
    have first := h.left.read
    have second := h.right.read
    rw [length_image] at second
    refine ⟨[.slot index.toNat,.symbol type],?_,rfl⟩
    simp only [Instruction.opCode,printArguments,Decoder.absorbUInt16,Decoder.absorbTypeSymbol,first,second]
    rfl
  | loadConstBool value => exact single h .boolean (by simp)
  | loadConstInt64 value => exact single h (fun value : Int64 => .integer value.toInt) (by simp)
  | loadConstDouble64 bits => exact single h .rational (by simp)
  | loadConstString value => exact single h (fun index : UInt64 => .count index.toNat) (by simp)
  | loadLocal index | storeLocal index | loadArg index | storeArg index =>
    exact single h (fun slot : UInt16 => .slot slot.toNat) (by simp)
  | jump target | jumpTrue target | jumpFalse target | branchNull target | enterTry target | defer target =>
    exact single h (fun target : UInt64 => .target target.toNat) (by simp)
  | deferDrain count => exact single h (fun count : UInt64 => .count count.toNat) (by simp)
  | loadField slot | storeField slot => exact single h (fun slot : UInt32 => .slot slot.toNat) (by simp)
  | newDelegate | newArray | newArrayDynamic | createRange | loadStaticField | storeStaticField | loadEnumField
  | callMethodSymbol | callDelegate | callInterface | isInstance | castAs => exact single h .symbol (by simp)
  | _ => exact ⟨[],rfl,rfl⟩

theorem disassembleNext_image {instruction : Instruction} {dataOrigin : Nat}
    (h : decoder.At (instruction.image dataOrigin)) :
    ∃ entry, disassembleNext decoder = (entry,decoder.advance instruction.listedSize) ∧
      entry.lines = some decoder.ip :: List.replicate instruction.lineBreaks none := by
  have word := h.left.read
  have named : instruction.opCode.word.toNat = instruction.opCode.value := by
    simpa [OpCode.word] using instruction.opCode.value_lt
  have operands := h.right
  rw [length_image] at operands
  cases known : instruction.opCode.mnemonic with
  | none =>
    refine ⟨⟨decoder.ip,"unknown",[.integer instruction.opCode.word.toNat]⟩,?_,?_⟩
    · simp only [disassembleNext,Decoder.absorbOpCode,word,named,OpCode.ofValue_value,Option.bind_some,known,Option.map_none]
      cases instruction <;> first | rfl | cases known
    · cases instruction <;> first | rfl | cases known
  | some opcode =>
    obtain ⟨arguments,printed,same⟩ := printArguments_image operands known
    refine ⟨⟨decoder.ip,opcode,arguments⟩,?_,?_⟩
    · simp only [disassembleNext,Decoder.absorbOpCode,word,named,OpCode.ofValue_value,Option.bind_some,known,
        Option.map_some,printed]
      have total : decoder.ip + byteSize UInt16 + (instruction.listedSize - 2) = decoder.ip + instruction.listedSize := by
        have : 2 ≤ instruction.listedSize := by
          cases instruction <;> simp [Instruction.listedSize,Instruction.readSize,Instruction.size]; omega
        simp only [byteSize]
        omega
      simp only [Decoder.advance,total]
    · rw [Entry.lines,same]

end Disassembler

theorem disassemble_laid {before : Bytes} {log : List Written} {start stop : Nat} (starts : before.length = start)
    (laid : Laid start log stop) :
    (∃ fuel entries, disassemble fuel ⟨before ++ log.flatMap Written.image,start⟩ = some (entries,stop) ∧
      entries.flatMap Entry.lines = log.map fun written => some written.start) ↔
      ∀ written ∈ log, written.instruction.Listed := by
  induction log generalizing before start with
  | nil =>
    have eof : Decoder.isEOF ⟨before ++ List.flatMap Written.image [],start⟩ = true := by
      simp [Decoder.isEOF,starts]
    cases laid
    refine ⟨fun _ => List.forall_mem_nil _,fun _ => ⟨1,[],?_,rfl⟩⟩
    rw [disassemble,if_pos eof]
  | cons written log ih =>
    obtain ⟨atStart,atStop,rest⟩ := laid
    have positive := written.instruction.size_pos
    have cursor : Decoder.At ⟨before ++ (written :: log).flatMap Written.image,start⟩
        (written.instruction.image written.dataOrigin) := ⟨before,log.flatMap Written.image,rfl,starts.symm⟩
    have whole : before ++ (written :: log).flatMap Written.image = (before ++ written.image) ++ log.flatMap Written.image := by
      simp
    have ends : (before ++ written.image).length = written.stop := by simp [Written.image,starts,atStop]
    have length : (before ++ (written :: log).flatMap Written.image).length = stop := by
      rw [whole,List.length_append,ends]
      exact rest.length
    have more : Decoder.isEOF ⟨before ++ (written :: log).flatMap Written.image,start⟩ = false := by
      have inside := rest.length
      have before_end : ¬ start ≥ (before ++ (written :: log).flatMap Written.image).length := by
        rw [length]
        omega
      exact decide_eq_false before_end
    obtain ⟨entry,next,lines⟩ := disassembleNext_image cursor
    have turn (fuel : Nat) : disassemble (fuel + 1) ⟨before ++ (written :: log).flatMap Written.image,start⟩ =
        (disassemble fuel ⟨before ++ (written :: log).flatMap Written.image,start + written.instruction.listedSize⟩).map
          fun rest => (entry :: rest.1,rest.2) := by
      rw [disassemble,more,next]
      rfl
    rw [List.forall_mem_cons,← ih ends rest,written.instruction.listed_iff]
    constructor
    · intro printed
      obtain ⟨fuel,entries,printed,same⟩ := printed
      obtain _ | fuel := fuel
      · cases printed
      rw [turn] at printed
      obtain ⟨found,read,ended⟩ := Option.map_eq_some_iff.mp printed
      obtain ⟨rfl,rfl⟩ := Prod.mk.inj ended
      rw [List.flatMap_cons,lines,List.map_cons,List.cons_append] at same
      have tail := (List.cons.inj same).2
      have unbroken : written.instruction.lineBreaks = 0 := by
        cases broken : written.instruction.lineBreaks with
        | zero => rfl
        | succ count =>
          rw [broken,List.replicate_succ,List.cons_append] at tail
          cases log with
          | nil => cases tail
          | cons later log => cases (List.cons.inj tail).1
      rw [unbroken,List.replicate_zero,List.nil_append] at tail
      have size : written.instruction.listedSize = written.instruction.size := by
        have small := written.instruction.listedSize_le
        obtain _ | fuel := fuel
        · cases read
        rw [disassemble] at read
        split at read
        · rename_i eof
          have past : start + written.instruction.listedSize ≥
            (before ++ (written :: log).flatMap Written.image).length := of_decide_eq_true eof
          have inside := rest.length
          omega
        · obtain ⟨others,-,rfl⟩ := Option.map_eq_some_iff.mp read
          simp only [List.flatMap_cons] at tail
          cases log with
          | nil => cases tail
          | cons later log =>
            have first := Option.some.inj (List.cons.inj tail).1
            have offset (decoder : Decoder) : (disassembleNext decoder).1.offset = decoder.ip := by
              unfold disassembleNext
              dsimp only
              split <;> rfl
            have follows := rest.1
            rw [offset] at first
            change start + written.instruction.listedSize = later.start at first
            omega
      refine ⟨⟨size,unbroken⟩,fuel,found.1,?_,tail⟩
      rw [size,← atStop,whole] at read
      exact read
    · intro printed
      obtain ⟨⟨size,unbroken⟩,fuel,entries,printed,same⟩ := printed
      refine ⟨fuel + 1,entry :: entries,?_,?_⟩
      · rw [turn,size,← atStop,whole,printed]
        rfl
      · rw [List.flatMap_cons,lines,unbroken,same,List.map_cons,atStart]
        rfl

theorem Session.Coherent.lists_iff {session : Session} (coherent : session.Coherent) :
    session.Lists ↔ ∀ written ∈ session.log, written.instruction.Listed := by
  have printed := disassemble_laid (show ([] : Bytes).length = 0 from rfl) coherent.laid
  rw [List.nil_append,← coherent.code] at printed
  exact printed

/-- The disassembler prints one line for every emitted instruction, at its start, up to the end of the code, if and only
if the code has no 8-bit constant, no native integer constant and no cast, no character constant of it is a line feed,
and no jump table has 2^32 targets or more. -/
theorem lists_iff_listed {session : Session} (reached : session.Reached) :
    session.Lists ↔ ∀ written ∈ session.log, written.instruction.Listed := reached.coherent.lists_iff

theorem lists_backpatched_jump :
    Session.Lists ⟨⟨[1,0,17,0,12,0,0,0,0,0,0,0,10,0,65,0,0,0],[]⟩,
      [⟨0,0,.nop,2⟩,⟨2,0,.jump 12,12⟩,⟨12,0,.loadConstChar16 65,18⟩]⟩ := by
  have loaded : Session.Reached ⟨⟨[1,0,17,0,12,0,0,0,0,0,0,0,10,0,65,0,0,0],[]⟩,
      [⟨0,0,.nop,2⟩,⟨2,0,.jump 12,12⟩] ++ [⟨12,0,.loadConstChar16 65,18⟩]⟩ :=
    .emit reached_backpatched_jump (by intro target member; cases member) rfl
  exact (lists_iff_listed loaded).mpr (by simp [Instruction.Listed,lineFeed])

/-- The type of a cast is read as four operation codes. -/
theorem cast_not_listed : ∃ session : Session, session.Reached ∧ ¬ session.Lists := by
  have cast : Session.Reached ⟨⟨[60,0,1,0,0,0,0,0,0,0],[]⟩,[] ++ [⟨0,0,.cast 1,10⟩]⟩ :=
    .emit (.start [] (Nat.zero_le _)) (by intro target member; cases member) rfl
  refine ⟨_,cast,fun lists => ?_⟩
  exact cast.coherent.lists_iff.mp lists ⟨0,0,.cast 1,10⟩ (List.mem_singleton.mpr rfl)

end ShardScript.ByteCode
