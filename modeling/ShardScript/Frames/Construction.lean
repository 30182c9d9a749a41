import Mathlib.Tactic.SplitIfs
import ShardScript.Frames.EvalStack

/-! The construction of a struct in place, on the evaluation stack of the frame that asks for it. -/
namespace ShardScript.Frames.EvalStack.Construction
open Library

/-- A slot of a shape. There is no field where the slots have a gap. -/
structure SlotInfo where
  offset : Nat
  fieldShape : Option TypeShape

def SlotInfo.fieldSize (slot : SlotInfo) : Nat :=
  match slot.fieldShape with
  | some shape => if shape.inlining = .byReference then referencePayloadBytes else shape.size
  | none => referencePayloadBytes

structure StructShape (shapes : Shapes) where
  shape : KnownShape shapes .byValue
  slots : List SlotInfo
  inside : ∀ slot ∈ slots,slot.offset + slot.fieldSize ≤ shape.shape.size

variable {shapes : Shapes}

section Instances

def getShape : ObjectInstance shapes → Option TypeShape
  | .null => none
  | .reference shape _ => some shape.shape
  | .inline shape _ => some shape.shape

def seenFrom (memory : Storage UInt8) : ObjectInstance shapes → ObjectInstance shapes
  | .inline shape (.region offset) => .inline shape (.outside (memory.read offset shape.shape.size))
  | value => value

def payload : Value shapes → Bytes
  | .null => littleEndian 8 0
  | .reference _ memory => littleEndian 8 memory.toNat
  | .inline _ bytes _ => bytes

/-- What `SetField` writes. It throws for a gap and for a null of a value type. -/
def SlotInfo.stored (slot : SlotInfo) (memory : Storage UInt8) (value : ObjectInstance shapes) : Option Bytes :=
  match slot.fieldShape with
  | none => none
  | some field =>
      match value with
      | .null => if field.inlining = .byReference then some (littleEndian 8 0) else none
      | .reference _ address => if field.inlining = .byReference then some (littleEndian 8 address.toNat) else none
      | .inline _ (.region offset) => if field.inlining = .byReference then none else some (memory.read offset field.size)
      | .inline _ (.outside _) => none

def SlotInfo.Accepts (slot : SlotInfo) : Value shapes → Prop
  | .inline shape _ _ => ∃ field ∈ slot.fieldShape,field.inlining = .byValue ∧ field.size ≤ shape.shape.size
  | _ => ∃ field ∈ slot.fieldShape,field.inlining = .byReference

theorem fieldSize_le {slot : SlotInfo} {value : Value shapes} (accepts : slot.Accepts value) :
    slot.fieldSize ≤ (payload value).length := by
  cases value with
  | null | reference =>
    obtain ⟨field,known,reference⟩ := accepts
    rw [SlotInfo.fieldSize,Option.mem_def.1 known]
    simp [reference,payload,referencePayloadBytes]
  | inline shape bytes sized =>
    obtain ⟨field,known,inline,fits⟩ := accepts
    rw [SlotInfo.fieldSize,Option.mem_def.1 known]
    simp [inline,payload,sized,fits]

end Instances

structure Callee where
  localSlots : List LocalSlotDesc
  locals : Storage UInt8
  frame : EvalRegion

structure CallStack where
  caller : EvalRegion
  callee : Callee

namespace Callee

variable (callee : Callee)

def getLocal (shapes : Shapes) (slot : Nat) : Option (ObjectInstance shapes) :=
  match callee.localSlots[slot]? with
  | none => none
  | some desc =>
      match EvalRegion.entry ⟨callee.locals,0,0,[]⟩ shapes desc.offset with
      | some .null => none
      | found => found

def loadLocal (shapes : Shapes) (slot : Nat) : Option Callee := do
  let value ← callee.getLocal shapes slot
  let frame ← callee.frame.pushStack (seenFrom callee.locals value)
  some { callee with frame }

/-- `STOREFIELD`: the field is written to where the target was popped from. -/
def storeField (type : StructShape shapes) (index : Fin type.slots.length) : Option Callee := do
  let (fieldValue,frame) ← callee.frame.popStack shapes
  let (target,frame) ← frame.popStack shapes
  let bytes ← (type.slots.get index).stored frame.evalEntries fieldValue
  match target with
  | .inline _ (.region memory) =>
      some { callee with frame := { frame with
        evalEntries := frame.evalEntries.write ⟨memory + (type.slots.get index).offset,bytes⟩ } }
  | _ => none

def assignField (type : StructShape shapes) (index : Fin type.slots.length) (value : Value shapes) : Option Callee := do
  let loaded ← callee.loadLocal shapes 0
  let frame ← loaded.frame.pushStack value.elsewhere
  storeField { loaded with frame } type index

end Callee

structure Assignment (type : StructShape shapes) where
  index : Fin type.slots.length
  bytes : Bytes
  sized : bytes.length = (type.slots.get index).fieldSize

/-- What a constructor does when it is run. Whatever is not an assignment to a field of `this` changes its own frame,
and may decide how it goes on. -/
inductive Body (type : StructShape shapes) where
  | done
  | assign (index : Fin type.slots.length) (value : Value shapes) (accepts : (type.slots.get index).Accepts value)
      (next : Body type)
  | perform (effect : Callee → Option Callee) (next : Callee → Body type)

def Body.run {type : StructShape shapes} :
    Body type → CallStack → List (Assignment type) → Option (CallStack × List (Assignment type))
  | done,stack,assigned => some (stack,assigned)
  | assign index value accepts next,stack,assigned => do
      let callee ← stack.callee.assignField type index value
      let assignment : Assignment type := ⟨index,(payload value).take (type.slots.get index).fieldSize,
        List.length_take_of_le (fieldSize_le accepts)⟩
      next.run { stack with callee } (assignment :: assigned)
  | perform effect next,stack,assigned => do
      let callee ← effect stack.callee
      (next callee).run { stack with callee } assigned

structure ConstructorSymbol (type : StructShape shapes) where
  method : MethodSymbol
  isInstance : method.isInstance = true
  layout : EvalLayout
  body : Body type

/-- One turn of `CopyArgumentPayloads`: what it copies of an argument that was an entry of the caller. -/
def copyArgument (memory : Storage UInt8) (desc : LocalSlotDesc) (locals : Storage UInt8) :
    ObjectInstance shapes → Option (Storage UInt8)
  | .null =>
      match desc.shape with
      | none => some (locals.write ⟨desc.offset,littleEndian 8 0⟩)
      | some shape =>
          if shape.inlining = .byReference then
            some (locals.write ⟨desc.offset,littleEndian 8 shape.address ++ littleEndian 8 0⟩)
          else none
  | .reference shape address =>
      some (locals.write ⟨desc.offset,littleEndian 8 shape.shape.address ++ littleEndian 8 address.toNat⟩)
  | .inline shape (.region offset) =>
      some (locals.write ⟨desc.offset,littleEndian 8 shape.shape.address ++ memory.read offset (align shape.shape.size)⟩)
  | .inline _ (.outside _) => none

def copyArgumentPayloads (shapes : Shapes) : (argsCount slot : Nat) → CallStack → Option CallStack
  | 0,_,stack => some stack
  | argsCount + 1,slot,stack => do
      let (argument,caller) ← stack.caller.popStack shapes
      let desc ← stack.callee.localSlots[slot]?
      let locals ← copyArgument caller.evalEntries desc stack.callee.locals argument
      let localSlots := stack.callee.localSlots.set slot ⟨getShape argument <|> desc.shape,desc.offset⟩
      copyArgumentPayloads shapes argsCount (slot + 1) ⟨caller,{ stack.callee with localSlots,locals }⟩

def pushInlineUninitialized (frame : EvalRegion) (shape : KnownShape shapes .byValue) : Option EvalRegion :=
  frame.pushEntry (slotHeaderBytes + align shape.shape.size)
    (frame.evalEntries.write ⟨frame.evalCursorBytes,littleEndian 8 shape.shape.address⟩)

def clearFields (slots : List SlotInfo) (memory : Storage UInt8) (inlinePayload : Nat) : Storage UInt8 :=
  memory.writeAll (slots.map fun slot => ⟨inlinePayload + slot.offset,List.replicate slot.fieldSize 0⟩)

def memmove (memory : Storage UInt8) (target source size : Nat) : Storage UInt8 :=
  memory.write ⟨target,memory.read source size⟩

section Instantiate

variable (table : TypeTable) (typeArguments : List Calls.TypeSymbol) {type : StructShape shapes} (ctor : ConstructorSymbol type)

def enter (caller : EvalRegion) : Option CallStack :=
  copyArgumentPayloads shapes ctor.method.getEvalStackArgumentsCount 0
    ⟨caller,⟨localSlots table ctor.method typeArguments,fun _ => 0,EvalRegion.create ctor.layout⟩⟩

/-- `InstantiateObject` in place, with the assignments of the constructor. -/
def instantiateObject (caller : EvalRegion) : Option (EvalRegion × List (Assignment type)) := do
  let inlinePayload := caller.evalCursorBytes + slotHeaderBytes
  let pushed ← pushInlineUninitialized caller type.shape
  let cleared := { pushed with evalEntries := clearFields type.slots pushed.evalEntries inlinePayload }
  let entered ← enter table typeArguments ctor cleared
  let (left,assigned) ← ctor.body.run entered []
  let result ← pushInlineUninitialized left.caller type.shape
  let resultPayload := left.caller.evalCursorBytes + slotHeaderBytes
  some ({ result with
    evalEntries := memmove result.evalEntries resultPayload inlinePayload type.shape.shape.size },assigned)

def pushArguments : List (Value shapes) → EvalRegion → Option EvalRegion
  | [],frame => some frame
  | value :: values,frame => do
      let pushed ← frame.pushStack value.elsewhere
      pushArguments values pushed

def newObject (arguments : List (Value shapes)) (frame : EvalRegion) : Option (EvalRegion × List (Assignment type)) := do
  let caller ← pushArguments arguments frame
  instantiateObject table typeArguments ctor caller

end Instantiate

section Property

variable (type : StructShape shapes)

def topFields (frame : EvalRegion) : Option (List Bytes) :=
  match frame.peekStack shapes with
  | some (.inline shape (.region memory)) =>
      if shape.shape = type.shape.shape then
        some (type.slots.map fun slot => frame.evalEntries.read (memory + slot.offset) slot.fieldSize)
      else none
  | _ => none

def assignedField {type : StructShape shapes} (assigned : List (Assignment type)) (index : Fin type.slots.length) : Bytes :=
  match assigned.find? fun assignment => assignment.index = index with
  | some assignment => assignment.bytes
  | none => List.replicate (type.slots.get index).fieldSize 0

def assignedFields {type : StructShape shapes} (assigned : List (Assignment type)) : List Bytes :=
  (List.finRange type.slots.length).map (assignedField assigned)

def Constructs {type : StructShape shapes} (before after : EvalRegion) (assigned : List (Assignment type)) : Prop :=
  after.evalOffsets.length = before.evalOffsets.length + 1 ∧ topFields type after = some (assignedFields assigned)

end Property

section Offsets

variable {frame after before : EvalRegion} {stride : Nat} {memory : Storage UInt8}

theorem pushEntry_eq (pushed : frame.pushEntry stride memory = some after) :
    after = ⟨memory,frame.evalCapacityBytes,frame.evalCursorBytes + stride,frame.evalCursorBytes % 2 ^ 32 :: frame.evalOffsets⟩ := by
  rw [EvalRegion.pushEntry] at pushed
  split_ifs at pushed
  exact (Option.some.inj pushed).symm

variable {value : ObjectInstance shapes}

theorem pushStack_entry (pushed : frame.pushStack value = some after) :
    ∃ stride memory,frame.pushEntry stride memory = some after := by
  cases value with
  | null | reference => exact ⟨_,_,pushed⟩
  | inline shape source =>
    obtain ⟨copied,_,pushed⟩ := Option.bind_eq_some_iff.1 pushed
    exact ⟨_,_,pushed⟩

theorem popStack_eq (popped : frame.popStack shapes = some (value,after)) :
    frame.evalOffsets = after.evalCursorBytes :: after.evalOffsets ∧ after.evalEntries = frame.evalEntries ∧
      after.evalCapacityBytes = frame.evalCapacityBytes := by
  rw [EvalRegion.popStack] at popped
  split at popped
  · cases popped
  · rename_i offset offsets known
    obtain ⟨result,_,same⟩ := Option.bind_eq_some_iff.1 popped
    cases same
    exact ⟨known,rfl,rfl⟩

structure Above (before frame : EvalRegion) (count : Nat) : Prop where
  later : before.evalCursorBytes ≤ frame.evalCursorBytes
  offsets : ∃ above : List Nat,above.length = count ∧ frame.evalCursorBytes % 2 ^ 32 :: frame.evalOffsets =
    above ++ before.evalCursorBytes % 2 ^ 32 :: before.evalOffsets

theorem Above.refl (frame : EvalRegion) : Above frame frame 0 := ⟨Nat.le_refl _,[],rfl,rfl⟩

theorem Above.push {count : Nat} (above : Above before frame count) (pushed : frame.pushEntry stride memory = some after) :
    Above before after (count + 1) := by
  obtain ⟨later,offsets,counted,same⟩ := above
  obtain rfl := pushEntry_eq pushed
  constructor
  · exact Nat.le_trans later (Nat.le_add_right _ _)
  · refine ⟨(frame.evalCursorBytes + stride) % 2 ^ 32 :: offsets,?_,?_⟩
    · rw [List.length_cons,counted]
    · rw [same,List.cons_append]

theorem above_pushArguments {arguments : List (Value shapes)} {count : Nat} (above : Above before frame count)
    (pushed : pushArguments arguments frame = some after) : Above before after (count + arguments.length) := by
  induction arguments generalizing frame count with
  | nil =>
    cases pushed
    exact above
  | cons value values ih =>
    obtain ⟨next,first,rest⟩ := Option.bind_eq_some_iff.1 pushed
    obtain ⟨stride,memory,entry⟩ := pushStack_entry first
    have later := ih (above.push entry) rest
    rw [List.length_cons,Nat.add_comm values.length 1,← Nat.add_assoc]
    exact later

theorem copyArgumentPayloads_caller {argsCount slot : Nat} {stack entered : CallStack} {above behind : List Nat} {last : Nat}
    (offsets : stack.caller.evalOffsets = above ++ last :: behind) (counted : above.length + 1 = argsCount)
    (copied : copyArgumentPayloads shapes argsCount slot stack = some entered) :
    entered.caller.evalCursorBytes = last ∧ entered.caller.evalOffsets = behind ∧
      entered.caller.evalEntries = stack.caller.evalEntries ∧
      entered.caller.evalCapacityBytes = stack.caller.evalCapacityBytes := by
  induction above generalizing argsCount slot stack with
  | nil =>
    subst counted
    obtain ⟨⟨argument,caller⟩,popped,rest⟩ := Option.bind_eq_some_iff.1 copied
    obtain ⟨desc,_,rest⟩ := Option.bind_eq_some_iff.1 rest
    obtain ⟨locals,_,rest⟩ := Option.bind_eq_some_iff.1 rest
    cases rest
    obtain ⟨known,entries,capacity⟩ := popStack_eq popped
    rw [offsets] at known
    obtain ⟨cursor,below⟩ := List.cons.inj known
    exact ⟨cursor.symm,below.symm,entries,capacity⟩
  | cons offset above ih =>
    subst counted
    obtain ⟨⟨argument,caller⟩,popped,rest⟩ := Option.bind_eq_some_iff.1 copied
    obtain ⟨desc,_,rest⟩ := Option.bind_eq_some_iff.1 rest
    obtain ⟨locals,_,rest⟩ := Option.bind_eq_some_iff.1 rest
    obtain ⟨known,entries,capacity⟩ := popStack_eq popped
    rw [offsets] at known
    obtain ⟨cursor,below,same,room⟩ := ih (List.cons.inj known).2.symm rfl rest
    exact ⟨cursor,below,same.trans entries,room.trans capacity⟩

theorem run_caller {type : StructShape shapes} (body : Body type) {stack left : CallStack}
    {assigned assigned' : List (Assignment type)} (ran : body.run stack assigned = some (left,assigned')) :
    left.caller = stack.caller := by
  induction body generalizing stack assigned with
  | done =>
    cases ran
    rfl
  | assign index value accepts next ih =>
    obtain ⟨callee,_,rest⟩ := Option.bind_eq_some_iff.1 ran
    have same := ih rest
    exact same
  | perform effect next ih =>
    obtain ⟨callee,_,rest⟩ := Option.bind_eq_some_iff.1 ran
    have same := ih callee rest
    exact same

end Offsets

section Cleared

variable {memory : Storage UInt8}

theorem read_memmove {target source size offset count : Nat} (inside : offset + count ≤ size) :
    (memmove memory target source size).read (target + offset) count = memory.read (source + offset) count := by
  apply List.ext_getElem
  · rw [Storage.length_read,Storage.length_read]
  intro index there here
  rw [Storage.length_read] at there
  have moved : offset + index < (memory.read source size).length := by
    rw [Storage.length_read]
    omega
  rw [Storage.getElem_read,Storage.getElem_read,memmove,Nat.add_assoc,Nat.add_assoc]
  exact (Storage.write_inside memory ⟨target,memory.read source size⟩ moved).trans (Storage.getElem_read memory moved)

theorem writeAll_zero {blocks : List (Block UInt8)} (zeros : ∀ block ∈ blocks,∀ byte ∈ block.cells,byte = 0) {place : Nat}
    (covered : memory place = 0 ∨ ∃ block ∈ blocks,block.first ≤ place ∧ place < block.next) :
    memory.writeAll blocks place = 0 := by
  induction blocks generalizing memory with
  | nil =>
    obtain zero | ⟨_,none,_⟩ := covered
    · exact zero
    · cases none
  | cons block blocks ih =>
    rw [List.forall_mem_cons] at zeros
    apply ih zeros.2
    by_cases here : block.first ≤ place ∧ place < block.next
    · left
      obtain ⟨index,rfl⟩ := Nat.exists_eq_add_of_le here.1
      have inside : index < block.cells.length := by
        rw [Block.next] at here
        omega
      rw [Storage.write_inside _ _ inside]
      exact zeros.1 _ (List.getElem_mem inside)
    · obtain zero | ⟨other,member,inside⟩ := covered
      · left
        rw [Storage.write_outside _ (by omega)]
        exact zero
      · obtain rfl | member := List.mem_cons.1 member
        · exact absurd inside here
        · exact .inr ⟨other,member,inside⟩

theorem read_clearFields {slots : List SlotInfo} {inlinePayload : Nat} {slot : SlotInfo} (member : slot ∈ slots) :
    (clearFields slots memory inlinePayload).read (inlinePayload + slot.offset) slot.fieldSize =
      List.replicate slot.fieldSize 0 := by
  apply List.eq_replicate_iff.2
  refine ⟨Storage.length_read _ _ _,?_⟩
  intro byte read
  obtain ⟨index,inside,rfl⟩ := List.mem_iff_getElem.1 read
  rw [Storage.getElem_read]
  apply writeAll_zero
  · intro block mapped byte zero
    obtain ⟨_,_,rfl⟩ := List.mem_map.1 mapped
    exact List.eq_of_mem_replicate zero
  · rw [Storage.length_read] at inside
    refine .inr ⟨_,List.mem_map_of_mem member,Nat.le_add_right _ _,?_⟩
    rw [Block.next_mk,List.length_replicate]
    omega

end Cleared

section Left

variable {table : TypeTable} {typeArguments : List Calls.TypeSymbol} {type : StructShape shapes}
  {ctor : ConstructorSymbol type} {before caller after : EvalRegion} {assigned : List (Assignment type)}

theorem argumentsCount : ctor.method.getEvalStackArgumentsCount = ctor.method.parameters.length + 1 := by
  rw [MethodSymbol.getEvalStackArgumentsCount,ctor.isInstance,if_pos rfl]

theorem topFields_eq {frame : EvalRegion} {offset : Nat} {offsets : List Nat} (top : frame.evalOffsets = offset :: offsets)
    (header : frame.evalEntries.read offset 8 = littleEndian 8 type.shape.shape.address) :
    topFields type frame = some (type.slots.map fun slot =>
      frame.evalEntries.read (offset + slotHeaderBytes + slot.offset) slot.fieldSize) := by
  have entry := (entry_shaped frame type.shape header).2 type.shape.inlined
  rw [topFields,EvalRegion.peekStack,top]
  simp only [entry,if_true]

theorem instantiateObject_zero (above : Above before caller ctor.method.parameters.length)
    (ran : instantiateObject table typeArguments ctor caller = some (after,assigned)) :
    after.evalOffsets.length = before.evalOffsets.length + 1 ∧
      topFields type after = some (type.slots.map fun slot => List.replicate slot.fieldSize 0) := by
  obtain ⟨pushed,push,ran⟩ := Option.bind_eq_some_iff.1 ran
  obtain ⟨entered,enter,ran⟩ := Option.bind_eq_some_iff.1 ran
  obtain ⟨⟨left,record⟩,run,ran⟩ := Option.bind_eq_some_iff.1 ran
  obtain ⟨result,again,ran⟩ := Option.bind_eq_some_iff.1 ran
  cases ran
  obtain rfl := pushEntry_eq push
  obtain ⟨later,offsets,counted,same⟩ := above
  obtain ⟨cursor,behind,entries,-⟩ := copyArgumentPayloads_caller same (by rw [counted,argumentsCount]) enter
  rw [← run_caller _ run] at cursor behind entries
  obtain rfl := pushEntry_eq again
  have small : before.evalCursorBytes % 2 ^ 32 < 2 ^ 32 := Nat.mod_lt _ (Nat.two_pow_pos 32)
  have low : before.evalCursorBytes % 2 ^ 32 ≤ caller.evalCursorBytes := Nat.le_trans (Nat.mod_le ..) later
  constructor
  · rw [List.length_cons,behind]
  rw [topFields_eq rfl]
  · congr 1
    apply List.map_congr_left
    intro slot member
    rw [cursor,Nat.mod_eq_of_lt small,read_memmove (type.inside slot member),Storage.read_write_outside,entries]
    · exact read_clearFields member
    · right
      rw [Block.next_mk,length_littleEndian,slotHeaderBytes]
      omega
  · rw [cursor,Nat.mod_eq_of_lt small,memmove,Storage.read_write_outside]
    · have header := Storage.read_write left.caller.evalEntries
        ⟨before.evalCursorBytes % 2 ^ 32,littleEndian 8 type.shape.shape.address⟩
      rw [length_littleEndian] at header
      exact header
    · exact .inl (Nat.le_refl _)

theorem length_assignedField (index : Fin type.slots.length) :
    (assignedField assigned index).length = (type.slots.get index).fieldSize := by
  rw [assignedField]
  split
  · rename_i assignment found
    have same : assignment.index = index := by simpa using List.find?_some found
    rw [assignment.sized,same]
  · exact List.length_replicate

theorem assignedFields_zero_iff : (type.slots.map fun slot => List.replicate slot.fieldSize (0 : UInt8)) =
    assignedFields assigned ↔ ∀ field ∈ assignedFields assigned,∀ byte ∈ field,byte = 0 := by
  constructor
  · intro same field member byte inside
    rw [← same] at member
    obtain ⟨slot,_,rfl⟩ := List.mem_map.1 member
    exact List.eq_of_mem_replicate inside
  · intro zeros
    apply List.ext_getElem
    · rw [List.length_map,assignedFields,List.length_map,List.length_finRange]
    intro place here there
    rw [List.length_map] at here
    have zero := zeros _ (List.getElem_mem there)
    simp only [assignedFields,List.getElem_map,List.getElem_finRange,Fin.cast_mk] at zero ⊢
    symm
    apply List.eq_replicate_iff.2
    exact ⟨length_assignedField ⟨place,here⟩,zero⟩

end Left

section Returns

variable {capacity : Nat} {values : ValueStack shapes}

theorem copyArgument_some (memory : Storage UInt8) {desc : LocalSlotDesc} (locals : Storage UInt8) (offset : Nat)
    {value : Value shapes} (passes : value = .null → ∀ shape ∈ desc.shape,shape.inlining = .byReference) :
    ∃ copied,copyArgument memory desc locals (value.entryAt offset) = some copied := by
  cases value with
  | reference | inline => exact ⟨_,rfl⟩
  | null =>
    rw [Value.entryAt,copyArgument]
    split
    · exact ⟨_,rfl⟩
    · rename_i shape known
      rw [if_pos (passes rfl shape known)]
      exact ⟨_,rfl⟩

theorem copyArgumentPayloads_some {arguments stack popped : List (Value shapes)} {instances : List (ObjectInstance shapes)}
    {slot : Nat} {frames : CallStack}
    (represents : Represents capacity ⟨arguments ++ stack,popped⟩ ⟨frames.caller,instances⟩)
    (slots : slot + arguments.length ≤ frames.callee.localSlots.length)
    (passes : ∀ index desc,arguments[index]? = some .null → frames.callee.localSlots[slot + index]? = some desc →
      ∀ shape ∈ desc.shape,shape.inlining = .byReference) :
    ∃ entered,copyArgumentPayloads shapes arguments.length slot frames = some entered := by
  induction arguments generalizing slot frames popped instances with
  | nil => exact ⟨frames,rfl⟩
  | cons value arguments ih =>
    rw [List.length_cons] at slots
    have present : slot < frames.callee.localSlots.length := by omega
    have popping := popStack_top represents (List.cons_append ..)
    obtain ⟨locals,copied⟩ := copyArgument_some frames.caller.evalEntries frames.callee.locals
      ((evalArena shapes).total (arguments ++ stack)) fun null : value = .null =>
        passes 0 _ (congrArg some null) (List.getElem?_eq_getElem present)
    rw [List.length_cons,copyArgumentPayloads,popping,List.getElem?_eq_getElem present]
    simp only [Option.bind_eq_bind,Option.bind_some,copied]
    apply ih (represents_popped represents (List.cons_append ..))
    · rw [List.length_set]
      omega
    · intro index desc null found
      rw [List.getElem?_set_ne (by omega),Nat.add_assoc,Nat.add_comm 1 index] at found
      exact passes (index + 1) desc null found

theorem pushArguments_some {arguments : List (Value shapes)} {frame : EvalRegion} {instances : List (ObjectInstance shapes)}
    (represents : Represents capacity values ⟨frame,instances⟩)
    (room : (evalArena shapes).total (arguments.reverse ++ values.stack) ≤ capacity)
    (small : (evalArena shapes).total (arguments.reverse ++ values.stack) < 2 ^ 32) :
    ∃ caller popped instances',pushArguments arguments frame = some caller ∧
      Represents capacity ⟨arguments.reverse ++ values.stack,popped⟩ ⟨caller,instances'⟩ := by
  induction arguments generalizing values frame instances with
  | nil => exact ⟨frame,_,_,rfl,represents⟩
  | cons value arguments ih =>
    rw [List.reverse_cons,List.append_assoc,List.singleton_append] at room small ⊢
    rw [Arena.total_append,Arena.total_cons] at room small
    have fits : values.push capacity value = some (⟨value :: values.stack,[]⟩,none) := by
      rw [ValueStack.push,if_pos]
      rw [Arena.total_cons]
      omega
    obtain ⟨after,pushed,represents'⟩ := represents_push represents (pushes_elsewhere frame value) (by omega) fits
    obtain ⟨next,push,same⟩ := Option.map_eq_some_iff.1 pushed
    cases same
    obtain ⟨caller,popped,instances',rest,represents''⟩ := ih represents' (by
      rw [Arena.total_append,Arena.total_cons]
      omega) (by
      rw [Arena.total_append,Arena.total_cons]
      omega)
    refine ⟨caller,popped,instances',?_,represents''⟩
    rw [pushArguments,push]
    exact rest

variable {table : TypeTable} {typeArguments : List Calls.TypeSymbol} {type : StructShape shapes} {ctor : ConstructorSymbol type}

/-- What a construction needs: room for the arguments and for `this` in a region whose offsets have 32 bits, and no null for a
slot of a value type. -/
structure Callable (table : TypeTable) (typeArguments : List Calls.TypeSymbol) (ctor : ConstructorSymbol type) (capacity : Nat)
    (stack arguments : List (Value shapes)) : Prop where
  counted : arguments.length = ctor.method.parameters.length
  room : (evalArena shapes).total (arguments.reverse ++ stack) + (slotHeaderBytes + align type.shape.shape.size) ≤ capacity
  small : (evalArena shapes).total (arguments.reverse ++ stack) < 2 ^ 32
  passes : ∀ index desc,arguments.reverse[index]? = some .null → (localSlots table ctor.method typeArguments)[1 + index]? = some desc →
    ∀ shape ∈ desc.shape,shape.inlining = .byReference

variable {arguments stack popped : List (Value shapes)} {before caller : EvalRegion} {instances : List (ObjectInstance shapes)}

theorem represents_cleared (represents : Represents capacity ⟨arguments ++ stack,popped⟩ ⟨caller,instances⟩)
    {memory : Storage UInt8} (same : ∀ place,place < caller.evalCursorBytes → memory place = caller.evalEntries place) :
    Represents capacity ⟨arguments ++ stack,[]⟩ ⟨{ caller with evalEntries := memory },[]⟩ where
  capacity := represents.capacity
  cursor := represents.cursor
  offsets := represents.offsets
  laid := by
    rw [List.append_nil]
    apply Arena.laid_congr _ (Arena.laid_append.1 represents.laid).1
    intro place _ below
    rw [Arena.total_reverse,Nat.zero_add] at below
    apply same
    rw [represents.cursor]
    exact below
  popped := rfl

theorem clearFields_outside (memory : Storage UInt8) {inlinePayload place : Nat} (outside : place < inlinePayload) :
    clearFields type.slots memory inlinePayload place = memory place := by
  apply Storage.writeAll_outside (.inl outside : place < inlinePayload ∨ inlinePayload + type.shape.shape.size ≤ place)
  intro block mapped
  obtain ⟨slot,member,rfl⟩ := List.mem_map.1 mapped
  have inside := type.inside slot member
  constructor
  · exact Nat.le_add_right _ _
  · rw [Block.next_mk,List.length_replicate]
    omega

def cleared (type : StructShape shapes) (caller : EvalRegion) : EvalRegion where
  evalEntries := clearFields type.slots
    (caller.evalEntries.write ⟨caller.evalCursorBytes,littleEndian 8 type.shape.shape.address⟩)
    (caller.evalCursorBytes + slotHeaderBytes)
  evalCapacityBytes := caller.evalCapacityBytes
  evalCursorBytes := caller.evalCursorBytes + (slotHeaderBytes + align type.shape.shape.size)
  evalOffsets := caller.evalCursorBytes % 2 ^ 32 :: caller.evalOffsets

theorem cleared_header : (cleared type caller).evalEntries.read caller.evalCursorBytes 8 =
    littleEndian 8 type.shape.shape.address := by
  have written := Storage.read_write caller.evalEntries ⟨caller.evalCursorBytes,littleEndian 8 type.shape.shape.address⟩
  rw [length_littleEndian] at written
  apply Eq.trans _ written
  apply Storage.read_congr
  intro place _ inside
  exact clearFields_outside _ inside

theorem cleared_below {place : Nat} (below : place < caller.evalCursorBytes) :
    (cleared type caller).evalEntries place = caller.evalEntries place := by
  apply (clearFields_outside _ (Nat.lt_add_right _ below)).trans
  exact Storage.write_outside _ (.inl below)

theorem enter_some (callable : Callable table typeArguments ctor capacity stack arguments)
    (represents : Represents capacity ⟨arguments.reverse ++ stack,popped⟩ ⟨caller,instances⟩) :
    ∃ entered,enter table typeArguments ctor (cleared type caller) = some entered := by
  have small : caller.evalCursorBytes < 2 ^ 32 := represents.cursor ▸ callable.small
  have top : (cleared type caller).evalOffsets = caller.evalCursorBytes :: caller.evalOffsets := by
    rw [cleared,Nat.mod_eq_of_lt small]
  have entry := (entry_shaped (cleared type caller) type.shape cleared_header).2 type.shape.inlined
  have popping : (cleared type caller).popStack shapes =
      some (.inline type.shape (.region (caller.evalCursorBytes + slotHeaderBytes)),
        { caller with evalEntries := (cleared type caller).evalEntries }) := by
    rw [EvalRegion.popStack,EvalRegion.peekStack,top]
    simp only [entry]
    rfl
  have slots : ctor.method.parameters.length + 1 ≤ (localSlots table ctor.method typeArguments).length := by
    rw [length_localSlots,MethodSymbol.getEvalStackLocalsCount,argumentsCount]
    exact Nat.le_add_right _ _
  have present : 0 < (localSlots table ctor.method typeArguments).length := Nat.lt_of_lt_of_le (Nat.succ_pos _) slots
  rw [enter,argumentsCount,copyArgumentPayloads,popping,List.getElem?_eq_getElem present]
  simp only [Option.bind_eq_bind,Option.bind_some,copyArgument]
  rw [← callable.counted,← List.length_reverse] at slots ⊢
  apply copyArgumentPayloads_some (represents_cleared represents fun _ => cleared_below)
  · rw [List.length_set,Nat.zero_add,Nat.add_comm]
    exact slots
  · intro index desc null found
    rw [List.getElem?_set_ne (by omega)] at found
    exact callable.passes index desc null found

theorem goes_on {Value Result : Type} {first : Option Value} {rest : Value → Option Result} {value : Value}
    (known : first = some value) (done : ∃ result,rest value = some result) : ∃ result,first.bind rest = some result := by
  obtain ⟨result,done⟩ := done
  exact ⟨result,Option.bind_eq_some_iff.2 ⟨value,known,done⟩⟩

theorem instantiateObject_some (callable : Callable table typeArguments ctor capacity stack arguments)
    (represents : Represents capacity ⟨arguments.reverse ++ stack,popped⟩ ⟨caller,instances⟩)
    (above : Above before caller arguments.length)
    (ends : ∀ entered,enter table typeArguments ctor (cleared type caller) = some entered →
      ∃ left,ctor.body.run entered [] = some left) :
    ∃ result,instantiateObject table typeArguments ctor caller = some result := by
  have room : caller.evalCursorBytes + (slotHeaderBytes + align type.shape.shape.size) ≤ caller.evalCapacityBytes := by
    rw [represents.cursor,represents.capacity]
    exact callable.room
  obtain ⟨entered,entering⟩ := enter_some callable represents
  obtain ⟨⟨left,assigned⟩,ran⟩ := ends entered entering
  obtain ⟨later,offsets,counted,same⟩ := above
  obtain ⟨base,_,_,wide⟩ := copyArgumentPayloads_caller same (by rw [counted,callable.counted,argumentsCount]) entering
  rw [← run_caller _ ran] at base wide
  have low : left.caller.evalCursorBytes ≤ caller.evalCursorBytes := by
    rw [base]
    exact Nat.le_trans (Nat.mod_le ..) later
  have push : pushInlineUninitialized caller type.shape = some _ := if_pos room
  have again : pushInlineUninitialized left.caller type.shape = some _ :=
    if_pos (Nat.le_trans (Nat.add_le_add_right low _) (Nat.le_trans room (Nat.le_of_eq wide.symm)))
  apply goes_on push
  apply goes_on entering
  apply goes_on ran
  apply goes_on again
  exact ⟨_,rfl⟩

/-- Where the constructor ends, the construction does: in one new entry, and that is zero in each field. -/
theorem newObject_ends (callable : Callable table typeArguments ctor capacity values.stack arguments)
    (represents : Represents capacity values ⟨before,instances⟩)
    (ends : ∀ caller entered,pushArguments arguments before = some caller →
      enter table typeArguments ctor (cleared type caller) = some entered → ∃ left,ctor.body.run entered [] = some left) :
    ∃ after assigned,newObject table typeArguments ctor arguments before = some (after,assigned) ∧
      after.evalOffsets.length = before.evalOffsets.length + 1 ∧
      topFields type after = some (type.slots.map fun slot => List.replicate slot.fieldSize 0) := by
  obtain ⟨caller,_,_,pushed,represents'⟩ :=
    pushArguments_some represents (Nat.le_trans (Nat.le_add_right _ _) callable.room) callable.small
  have above := above_pushArguments (Above.refl before) pushed
  rw [Nat.zero_add] at above
  obtain ⟨⟨after,assigned⟩,ran⟩ :=
    instantiateObject_some callable represents' above fun entered => ends caller entered pushed
  rw [callable.counted] at above
  exact ⟨after,assigned,Option.bind_eq_some_iff.2 ⟨caller,pushed,ran⟩,instantiateObject_zero above ran⟩

end Returns

section Construct

variable {table : TypeTable} {typeArguments : List Calls.TypeSymbol} {type : StructShape shapes} {ctor : ConstructorSymbol type}
  {before after : EvalRegion} {assigned : List (Assignment type)}

/-- A struct that is constructed in place has what its constructor assigned, just if that is zero in each field: what the
constructor wrote was written to a copy. The caller has one entry more in any case. -/
theorem constructs_iff (arguments : List (Value shapes)) (counted : arguments.length = ctor.method.parameters.length)
    (ran : newObject table typeArguments ctor arguments before = some (after,assigned)) :
    Constructs before after assigned ↔ ∀ field ∈ assignedFields assigned,∀ byte ∈ field,byte = 0 := by
  obtain ⟨caller,pushed,ran⟩ := Option.bind_eq_some_iff.1 ran
  have above := above_pushArguments (Above.refl before) pushed
  rw [Nat.zero_add,counted] at above
  obtain ⟨grown,fields⟩ := instantiateObject_zero above ran
  rw [Constructs,fields,Option.some_inj,assignedFields_zero_iff]
  exact ⟨And.right,fun zeros => ⟨grown,zeros⟩⟩

theorem holder_inside : ∀ slot ∈ [(⟨0,some ⟨8,.byReference,16⟩⟩ : SlotInfo)],slot.offset + slot.fieldSize ≤ 24 := by
  intro slot member
  rw [List.mem_singleton.1 member]
  decide

def holder : StructShape pairShapes := ⟨largeShape,[⟨0,some ⟨8,.byReference,16⟩⟩],holder_inside⟩

def holderTable : TypeTable := ⟨fun _ => .byReference,fun _ _ => 8,fun _ _ => 8,fun _ _ => true⟩

theorem holderCtor_numbered : 2 < 2 ^ 16 := by decide

def holderCtor : ConstructorSymbol holder where
  method := ⟨.named "void",true,.named "Holder",[.named "Item"],[],[],holderCtor_numbered⟩
  isInstance := rfl
  layout := ⟨true,2,24⟩
  body := .perform some fun callee =>
    match callee.getLocal pairShapes 1 with
    | some (.reference shape memory) => .assign ⟨0,Nat.zero_lt_one⟩ (.reference shape memory)
        ⟨⟨8,.byReference,16⟩,rfl,rfl⟩ .done
    | _ => .done

def newHolder : Option (EvalRegion × List (Assignment holder)) :=
  newObject holderTable [] holderCtor [.reference ⟨⟨8,.byReference,16⟩,rfl,rfl⟩ 64] (EvalRegion.create ⟨true,2,24⟩)

theorem newHolder_eq : newHolder.map (fun result => (topFields holder result.1,assignedFields result.2)) =
    some (some [littleEndian 8 0],[littleEndian 8 64]) := rfl

theorem newHolder_some : ∃ after assigned,newHolder = some (after,assigned) :=
  ⟨_,_,rfl⟩

theorem newHolder_ends : ∃ after assigned,newHolder = some (after,assigned) ∧ after.evalOffsets.length = 1 ∧
    topFields holder after = some [List.replicate 8 0] := by
  have represents : Represents _ ({} : ValueStack pairShapes) _ := represents_create ⟨true,2,24⟩
  apply newObject_ends ⟨rfl,by decide,by decide,?_⟩ represents
  · intro caller entered pushed entering
    cases pushed
    cases entering
    exact ⟨_,rfl⟩
  · intro index desc null
    cases index with
    | zero => cases null
    | succ => cases null

theorem constructs_holder : ∃ after assigned,newHolder = some (after,assigned) ∧
    (Constructs (EvalRegion.create ⟨true,2,24⟩) after assigned ↔ ∀ field ∈ assignedFields assigned,∀ byte ∈ field,byte = 0) := by
  obtain ⟨after,assigned,made⟩ := newHolder_some
  exact ⟨after,assigned,made,constructs_iff [.reference ⟨⟨8,.byReference,16⟩,rfl,rfl⟩ 64] rfl made⟩

theorem not_constructs : ¬ ∀ (shapes : Shapes) (table : TypeTable) (typeArguments : List Calls.TypeSymbol)
    (type : StructShape shapes) (ctor : ConstructorSymbol type) (arguments : List (Value shapes)) (before after : EvalRegion)
    (assigned : List (Assignment type)),arguments.length = ctor.method.parameters.length →
      newObject table typeArguments ctor arguments before = some (after,assigned) → Constructs before after assigned := by
  intro constructs
  obtain ⟨after,assigned,made⟩ := newHolder_some
  have fields := (constructs pairShapes holderTable [] holder holderCtor [.reference ⟨⟨8,.byReference,16⟩,rfl,rfl⟩ 64] _ after
    assigned rfl made).2
  have computed := newHolder_eq
  rw [made,Option.map_some,fields,Option.some_inj,Prod.mk.injEq,Option.some_inj] at computed
  obtain ⟨zero,one⟩ := computed
  exact absurd (zero.symm.trans one) (by decide)

end Construct

end ShardScript.Frames.EvalStack.Construction
