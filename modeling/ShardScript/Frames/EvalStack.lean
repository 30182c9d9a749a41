import Mathlib.Algebra.Order.BigOperators.Group.List
import ShardScript.Frames.Layout
import ShardScript.Library.Arena
import ShardScript.Library.Bytes

/-! The evaluation stack of a frame: entries of any size in one region of bytes, as the stack of values that it stands
for. -/
namespace ShardScript.Frames.EvalStack
open Library

structure Shapes where
  find : Nat → Option TypeShape
  null : find 0 = none
  address : ∀ {address : Nat} {shape : TypeShape}, find address = some shape → shape.address = address
  bounded : ∀ {address : Nat} {shape : TypeShape}, find address = some shape → address < 2 ^ 64

theorem Shapes.find_address (shapes : Shapes) {address : Nat} {shape : TypeShape} (found : shapes.find address = some shape) :
    shapes.find shape.address = some shape := by
  rw [shapes.address found]
  exact found

structure KnownShape (shapes : Shapes) (inlining : TypeInlining) where
  shape : TypeShape
  found : shapes.find shape.address = some shape
  inlined : shape.inlining = inlining

/-- Where the payload of an inline value is: in the region, or elsewhere. -/
inductive Memory where
  | region (offset : Nat)
  | outside (bytes : Bytes)

inductive ObjectInstance (shapes : Shapes) where
  | null
  | reference (shape : KnownShape shapes .byReference) (memory : UInt64)
  | inline (shape : KnownShape shapes .byValue) (memory : Memory)

/-- `std::memcpy` of what has that size. It is not defined where the two ranges are apart only in part. -/
def memcpy (memory : Storage UInt8) (target : Nat) (source : Memory) (size : Nat) : Option (Storage UInt8) :=
  match source with
  | .outside bytes => if bytes.length = size then some (memory.write ⟨target,bytes⟩) else none
  | .region offset =>
      if offset = target ∨ size = 0 then some memory
      else if offset + size ≤ target ∨ target + size ≤ offset then some (memory.write ⟨target,memory.read offset size⟩)
      else none

structure EvalLayout where
  isComplete : Bool
  maxEvalDepth : UInt32
  evalSlotPayload : Nat

namespace EvalLayout

def evalMaxPayload (layout : EvalLayout) : Nat := max referencePayloadBytes layout.evalSlotPayload

def evalEntries (layout : EvalLayout) : Nat := if layout.isComplete then max layout.maxEvalDepth.toNat 8 else 64

def evalCapacityBytes (layout : EvalLayout) : Nat := layout.evalEntries * (slotHeaderBytes + align layout.evalMaxPayload)

end EvalLayout

structure EvalRegion where
  evalEntries : Storage UInt8
  evalCapacityBytes : Nat
  evalCursorBytes : Nat
  evalOffsets : List Nat

def boxedEntryStride : Nat := slotHeaderBytes + referencePayloadBytes

namespace EvalRegion

def create (layout : EvalLayout) : EvalRegion := ⟨fun _ => 0,layout.evalCapacityBytes,0,[]⟩

variable {shapes : Shapes} (frame : EvalRegion)

def pushEntry (stride : Nat) (evalEntries : Storage UInt8) : Option EvalRegion :=
  if frame.evalCursorBytes + stride ≤ frame.evalCapacityBytes then
    some { frame with
      evalEntries
      evalCursorBytes := frame.evalCursorBytes + stride
      evalOffsets := frame.evalCursorBytes % 2 ^ 32 :: frame.evalOffsets }
  else none

def pushInline (shape : KnownShape shapes .byValue) (memory : Memory) : Option EvalRegion := do
  let headed := frame.evalEntries.write ⟨frame.evalCursorBytes,littleEndian 8 shape.shape.address⟩
  let copied ← memcpy headed (frame.evalCursorBytes + slotHeaderBytes) memory shape.shape.size
  frame.pushEntry (slotHeaderBytes + align shape.shape.size) copied

def pushBoxed (header : Nat) (stored : UInt64) : Option EvalRegion :=
  let headed := frame.evalEntries.write ⟨frame.evalCursorBytes,littleEndian 8 header⟩
  frame.pushEntry boxedEntryStride
    (headed.write ⟨frame.evalCursorBytes + slotHeaderBytes,littleEndian 8 stored.toNat⟩)

def pushReference : ObjectInstance shapes → Option EvalRegion
  | .null => frame.pushBoxed 0 0
  | .reference shape memory => frame.pushBoxed shape.shape.address memory
  | .inline _ _ => none

def pushStack : ObjectInstance shapes → Option EvalRegion
  | .inline shape memory => frame.pushInline shape memory
  | value => frame.pushReference value

theorem byValue_of_not {shape : TypeShape} (inlined : ¬shape.inlining = .byReference) : shape.inlining = .byValue :=
  TypeInlining.eq_byValue inlined

def entry (shapes : Shapes) (offset : Nat) : Option (ObjectInstance shapes) :=
  let payload := offset + slotHeaderBytes
  let header := ofLittleEndian (frame.evalEntries.read offset 8)
  if header = 0 then some .null
  else match found : shapes.find header with
  | none => none
  | some shape =>
      if inlined : shape.inlining = .byReference then
        some (.reference ⟨shape,shapes.find_address found,inlined⟩ (UInt64.ofNat (ofLittleEndian (frame.evalEntries.read payload 8))))
      else some (.inline ⟨shape,shapes.find_address found,byValue_of_not inlined⟩ (.region payload))

def peekStack (shapes : Shapes) : Option (ObjectInstance shapes) :=
  match frame.evalOffsets with
  | [] => none
  | offset :: _ => frame.entry shapes offset

def popStack (shapes : Shapes) : Option (ObjectInstance shapes × EvalRegion) :=
  match frame.evalOffsets with
  | [] => none
  | offset :: evalOffsets => do
      let result ← frame.peekStack shapes
      some (result,{ frame with evalOffsets,evalCursorBytes := offset })

end EvalRegion

inductive Value (shapes : Shapes) where
  | null
  | reference (shape : KnownShape shapes .byReference) (memory : UInt64)
  | inline (shape : KnownShape shapes .byValue) (bytes : Bytes) (sized : bytes.length = shape.shape.size)

namespace Value

variable {shapes : Shapes}

def image : Value shapes → Bytes
  | null => littleEndian 8 0 ++ littleEndian 8 0
  | reference shape memory => littleEndian 8 shape.shape.address ++ littleEndian 8 memory.toNat
  | inline shape bytes _ => littleEndian 8 shape.shape.address ++ bytes

def stride : Value shapes → Nat
  | null | reference _ _ => boxedEntryStride
  | inline shape _ _ => slotHeaderBytes + align shape.shape.size

def copied : Value shapes → Nat
  | null | reference _ _ => 0
  | inline shape _ _ => shape.shape.size

theorem length_image_le (value : Value shapes) : value.image.length ≤ value.stride := by
  cases value with
  | null => exact Nat.le_refl _
  | reference => simp [image,stride,boxedEntryStride,slotHeaderBytes,referencePayloadBytes]
  | inline shape bytes sized =>
    rw [image,stride,List.length_append,length_littleEndian,sized,slotHeaderBytes,align]
    omega

def elsewhere : Value shapes → ObjectInstance shapes
  | null => .null
  | reference shape memory => .reference shape memory
  | inline shape bytes _ => .inline shape (.outside bytes)

def entryAt (offset : Nat) : Value shapes → ObjectInstance shapes
  | null => .null
  | reference shape memory => .reference shape memory
  | inline shape _ _ => .inline shape (.region (offset + slotHeaderBytes))

end Value

def ObjectInstance.value {shapes : Shapes} (memory : Storage UInt8) : ObjectInstance shapes → Option (Value shapes)
  | .null => some .null
  | .reference shape address => some (.reference shape address)
  | .inline shape (.region offset) => some (.inline shape (memory.read offset shape.shape.size) (memory.length_read _ _))
  | .inline shape (.outside bytes) =>
      if sized : bytes.length = shape.shape.size then some (.inline shape bytes sized) else none

def evalArena (shapes : Shapes) : Arena (Value shapes) UInt8 := ⟨Value.image,Value.stride,Value.length_image_le⟩

inductive Operation (shapes : Shapes) where
  | pushInline (shape : KnownShape shapes .byValue) (bytes : Bytes) (sized : bytes.length = shape.shape.size)
  | pushReference (value : Option (KnownShape shapes .byReference × UInt64))
  | pushStack (value : Value shapes)
  /-- `PushStack` of what was popped since the last push, the last one having the index 0. -/
  | pushPopped (index : Nat)
  | popStack
  | peekStack

namespace Operation

variable {shapes : Shapes}

def reference : Option (KnownShape shapes .byReference × UInt64) → Value shapes
  | some (shape,memory) => .reference shape memory
  | none => .null

end Operation

structure EvalMachine (shapes : Shapes) where
  frame : EvalRegion
  popped : List (ObjectInstance shapes)

namespace EvalMachine

variable {shapes : Shapes} (machine : EvalMachine shapes)

def pushed (frame : Option EvalRegion) : Option (EvalMachine shapes × Option (Value shapes)) :=
  frame.map fun frame => (⟨frame,[]⟩,none)

def step : Operation shapes → Option (EvalMachine shapes × Option (Value shapes))
  | .pushInline shape bytes _ => pushed (machine.frame.pushInline shape (.outside bytes))
  | .pushReference value => pushed (machine.frame.pushReference (Operation.reference value).elsewhere)
  | .pushStack value => pushed (machine.frame.pushStack value.elsewhere)
  | .pushPopped index => do
      let value ← machine.popped[index]?
      pushed (machine.frame.pushStack value)
  | .popStack => do
      let (result,frame) ← machine.frame.popStack shapes
      let value ← result.value frame.evalEntries
      some (⟨frame,result :: machine.popped⟩,some value)
  | .peekStack => do
      let result ← machine.frame.peekStack shapes
      let value ← result.value machine.frame.evalEntries
      some (machine,some value)

def run : List (Operation shapes) → EvalMachine shapes → Option (EvalMachine shapes × List (Value shapes))
  | [],machine => some (machine,[])
  | operation :: operations,machine => do
      let (next,returned) ← machine.step operation
      let (after,results) ← run operations next
      some (after,returned.toList ++ results)

end EvalMachine

structure ValueStack (shapes : Shapes) where
  stack : List (Value shapes) := []
  popped : List (Value shapes) := []

namespace ValueStack

variable {shapes : Shapes} (capacity : Nat) (values : ValueStack shapes)

def push (value : Value shapes) : Option (ValueStack shapes × Option (Value shapes)) :=
  if (evalArena shapes).total (value :: values.stack) ≤ capacity then some (⟨value :: values.stack,[]⟩,none) else none

def step : Operation shapes → Option (ValueStack shapes × Option (Value shapes))
  | .pushInline shape bytes sized => values.push capacity (.inline shape bytes sized)
  | .pushReference value => values.push capacity (Operation.reference value)
  | .pushStack value => values.push capacity value
  | .pushPopped index => do
      let value ← values.popped[index]?
      values.push capacity value
  | .popStack =>
      match values.stack with
      | [] => none
      | value :: stack => some (⟨stack,value :: values.popped⟩,some value)
  | .peekStack => values.stack.head?.map fun value => (values,some value)

def run : List (Operation shapes) → ValueStack shapes → Option (ValueStack shapes × List (Value shapes))
  | [],values => some (values,[])
  | operation :: operations,values => do
      let (next,returned) ← values.step capacity operation
      let (after,results) ← run operations next
      some (after,returned.toList ++ results)

/-- An offset has to be one of 32 bits, and what is copied from the region comes from the place it goes to or from one
that is as far off as the copy is long. -/
def Allows : Operation shapes → Prop
  | .pushPopped index => (evalArena shapes).total values.stack < 2 ^ 32 ∧ ∀ value ∈ values.popped[index]?,
      index = 0 ∨ value.copied ≤ (evalArena shapes).total (values.popped.take index)
  | .popStack | .peekStack => True
  | _ => (evalArena shapes).total values.stack < 2 ^ 32

def AllAllowed : List (Operation shapes) → ValueStack shapes → Prop
  | [],_ => True
  | operation :: operations,values => values.Allows operation ∧
      ∀ next ∈ values.step capacity operation,AllAllowed operations next.1

end ValueStack

section Entries

variable {shapes : Shapes} {memory : Storage UInt8} {value : Value shapes} {offset : Nat}

theorem read_parts {first : Nat} {before behind : Bytes}
    (known : memory.read first (before ++ behind).length = before ++ behind) :
    memory.read first before.length = before ∧ memory.read (first + before.length) behind.length = behind := by
  rw [List.length_append,Storage.read_add] at known
  exact List.append_inj known (memory.length_read _ _)

theorem word_of_read {first number : Nat} (known : memory.read first 8 = littleEndian 8 number) (fits : number < 2 ^ 64) :
    ofLittleEndian (memory.read first 8) = number := by
  rw [known]
  exact ofLittleEndian_littleEndian_of_lt fits

theorem KnownShape.address_ne {inlining : TypeInlining} (shape : KnownShape shapes inlining) : shape.shape.address ≠ 0 := by
  intro zero
  have found := shape.found
  rw [zero,shapes.null] at found
  cases found

theorem entry_shaped (frame : EvalRegion) {inlining : TypeInlining} (shape : KnownShape shapes inlining)
    (header : frame.evalEntries.read offset 8 = littleEndian 8 shape.shape.address) :
    (∀ reference : shape.shape.inlining = .byReference, frame.entry shapes offset = some (.reference ⟨shape.shape,shape.found,reference⟩
        (UInt64.ofNat (ofLittleEndian (frame.evalEntries.read (offset + slotHeaderBytes) 8))))) ∧
      ∀ inline : shape.shape.inlining = .byValue, frame.entry shapes offset =
        some (.inline ⟨shape.shape,shape.found,inline⟩ (.region (offset + slotHeaderBytes))) := by
  have address := word_of_read header (shapes.bounded shape.found)
  rw [EvalRegion.entry,if_neg (by rw [address]; exact shape.address_ne)]
  split
  · rename_i absent
    rw [address,shape.found] at absent
    cases absent
  · rename_i other found
    have same : shape.shape = other := by
      rw [address,shape.found] at found
      exact Option.some_inj.1 found
    subst same
    constructor
    · intro reference
      rw [dif_pos reference]
    · intro inline
      rw [dif_neg (by simp [inline])]

theorem entry_of_image (frame : EvalRegion) (known : frame.evalEntries.read offset value.image.length = value.image) :
    frame.entry shapes offset = some (value.entryAt offset) := by
  cases value with
  | null =>
    have header := (read_parts known).1
    rw [length_littleEndian] at header
    rw [EvalRegion.entry,if_pos (word_of_read header (by decide))]
    rfl
  | reference shape address =>
    obtain ⟨header,stored⟩ := read_parts known
    rw [length_littleEndian] at header stored
    rw [(entry_shaped frame shape header).1 shape.inlined]
    have word := word_of_read stored address.toNat_lt
    rw [slotHeaderBytes,word,UInt64.ofNat_toNat]
    rfl
  | inline shape bytes sized =>
    have header := (read_parts known).1
    rw [length_littleEndian] at header
    exact (entry_shaped frame shape header).2 shape.inlined

theorem value_entryAt (known : memory.read offset value.image.length = value.image) :
    (value.entryAt offset).value memory = some value := by
  cases value with
  | null | reference => rfl
  | inline shape bytes sized =>
    have payload := (read_parts known).2
    rw [length_littleEndian,sized] at payload
    simp only [Value.entryAt,ObjectInstance.value,slotHeaderBytes,payload]

structure Holds (memory written : Storage UInt8) (offset : Nat) (value : Value shapes) : Prop where
  image : written.read offset value.image.length = value.image
  below : ∀ place, place < offset → written place = memory place

theorem holds_written {before behind : Bytes} {written : Storage UInt8}
    (header : written.read offset before.length = before) (payload : written.read (offset + before.length) behind.length = behind)
    (image : value.image = before ++ behind) (below : ∀ place, place < offset → written place = memory place) :
    Holds memory written offset value := by
  constructor
  · rw [image,List.length_append,Storage.read_add,header,payload]
  · exact below

theorem write_header (offset : Nat) (memory : Storage UInt8) (header : Bytes) (block : Block UInt8) (behind : offset + header.length ≤ block.first) :
    ((memory.write ⟨offset,header⟩).write block).read offset header.length = header ∧
      ∀ place, place < offset → ((memory.write ⟨offset,header⟩).write block) place = memory place := by
  constructor
  · rw [Storage.read_write_outside _ (.inl behind)]
    exact Storage.read_write memory ⟨offset,header⟩
  · intro place below
    rw [Storage.write_outside _ (.inl (by omega)),Storage.write_outside _ (.inl below)]

def Pushes (frame : EvalRegion) (instance' : ObjectInstance shapes) (value : Value shapes) : Prop :=
  ∃ written, frame.pushStack instance' = frame.pushEntry value.stride written ∧
    Holds frame.evalEntries written frame.evalCursorBytes value

theorem pushes_boxed (frame : EvalRegion) (header : Nat) (stored : UInt64)
    (image : value.image = littleEndian 8 header ++ littleEndian 8 stored.toNat) : ∃ written,
    frame.pushBoxed header stored = frame.pushEntry boxedEntryStride written ∧
      Holds frame.evalEntries written frame.evalCursorBytes value := by
  refine ⟨_,rfl,?_⟩
  obtain ⟨headed,below⟩ := write_header frame.evalCursorBytes frame.evalEntries (littleEndian 8 header)
    ⟨frame.evalCursorBytes + slotHeaderBytes,littleEndian 8 stored.toNat⟩ (by rw [length_littleEndian]; exact Nat.le_refl _)
  apply holds_written headed _ image below
  rw [length_littleEndian]
  exact Storage.read_write _ ⟨frame.evalCursorBytes + slotHeaderBytes,_⟩

theorem pushes_inline (frame : EvalRegion) {shape : KnownShape shapes .byValue} {bytes : Bytes}
    (sized : bytes.length = shape.shape.size) {source : Memory} {copied : Storage UInt8}
    (copies : memcpy (frame.evalEntries.write ⟨frame.evalCursorBytes,littleEndian 8 shape.shape.address⟩)
      (frame.evalCursorBytes + slotHeaderBytes) source shape.shape.size = some copied)
    (holds : Holds frame.evalEntries copied frame.evalCursorBytes (.inline shape bytes sized)) :
    Pushes frame (.inline shape source) (.inline shape bytes sized) := by
  refine ⟨copied,?_,holds⟩
  rw [EvalRegion.pushStack,EvalRegion.pushInline,copies]
  rfl

theorem holds_inline (memory : Storage UInt8) (offset : Nat) (shape : KnownShape shapes .byValue) {bytes : Bytes}
    (sized : bytes.length = shape.shape.size) :
    Holds memory ((memory.write ⟨offset,littleEndian 8 shape.shape.address⟩).write ⟨offset + slotHeaderBytes,bytes⟩) offset
      (.inline shape bytes sized : Value shapes) := by
  obtain ⟨headed,below⟩ := write_header offset memory (littleEndian 8 shape.shape.address)
    ⟨offset + slotHeaderBytes,bytes⟩ (by rw [length_littleEndian]; exact Nat.le_refl _)
  apply holds_written headed _ rfl below
  rw [length_littleEndian]
  exact Storage.read_write _ ⟨offset + slotHeaderBytes,bytes⟩

theorem pushes_elsewhere (frame : EvalRegion) (value : Value shapes) : Pushes frame value.elsewhere value := by
  cases value with
  | null => exact pushes_boxed frame 0 0 rfl
  | reference shape memory => exact pushes_boxed frame shape.shape.address memory rfl
  | inline shape bytes sized =>
    exact pushes_inline frame sized (if_pos sized) (holds_inline frame.evalEntries frame.evalCursorBytes shape sized)

theorem pushes_entry (frame : EvalRegion) (known : frame.evalEntries.read offset value.image.length = value.image)
    (behind : frame.evalCursorBytes ≤ offset)
    (apart : offset = frame.evalCursorBytes ∨ value.copied ≤ offset - frame.evalCursorBytes) :
    Pushes frame (value.entryAt offset) value := by
  cases value with
  | null => exact pushes_boxed frame 0 0 rfl
  | reference shape memory => exact pushes_boxed frame shape.shape.address memory rfl
  | inline shape bytes sized =>
    obtain ⟨_,payload⟩ := read_parts known
    rw [length_littleEndian] at payload
    have headed : (frame.evalEntries.write ⟨frame.evalCursorBytes,littleEndian 8 shape.shape.address⟩).read
        (offset + slotHeaderBytes) shape.shape.size = bytes := by
      rw [← sized,Storage.read_write_outside]
      · exact payload
      · right
        rw [Block.next_mk,length_littleEndian,slotHeaderBytes]
        omega
    by_cases still : offset + slotHeaderBytes = frame.evalCursorBytes + slotHeaderBytes ∨ shape.shape.size = 0
    · have copies : memcpy (frame.evalEntries.write ⟨frame.evalCursorBytes,littleEndian 8 shape.shape.address⟩)
          (frame.evalCursorBytes + slotHeaderBytes) (.region (offset + slotHeaderBytes)) shape.shape.size = some _ :=
        if_pos still
      apply pushes_inline frame sized copies
      have header := Storage.read_write frame.evalEntries ⟨frame.evalCursorBytes,littleEndian 8 shape.shape.address⟩
      apply holds_written header _ rfl
      · intro place below
        exact Storage.write_outside _ (.inl below)
      · rw [length_littleEndian,sized]
        rcases still with same | empty
        · exact same ▸ headed
        · rw [empty] at sized ⊢
          exact (List.eq_nil_of_length_eq_zero sized).symm
    · have far : offset + slotHeaderBytes + shape.shape.size ≤ frame.evalCursorBytes + slotHeaderBytes ∨
          frame.evalCursorBytes + slotHeaderBytes + shape.shape.size ≤ offset + slotHeaderBytes := by
        change _ ∨ shape.shape.size ≤ _ at apart
        omega
      have copies : memcpy (frame.evalEntries.write ⟨frame.evalCursorBytes,littleEndian 8 shape.shape.address⟩)
          (frame.evalCursorBytes + slotHeaderBytes) (.region (offset + slotHeaderBytes)) shape.shape.size = some _ :=
        (if_neg still).trans (if_pos far)
      apply pushes_inline frame sized copies
      rw [headed]
      exact holds_inline frame.evalEntries frame.evalCursorBytes shape sized

end Entries

section Runs

variable {shapes : Shapes}

def offsetsOf : List (Value shapes) → List Nat
  | [] => []
  | _ :: stack => (evalArena shapes).total stack :: offsetsOf stack

def entriesFrom (offset : Nat) : List (Value shapes) → List (ObjectInstance shapes)
  | [] => []
  | value :: values => value.entryAt offset :: entriesFrom (offset + value.stride) values

theorem getElem?_entriesFrom (offset : Nat) (values : List (Value shapes)) (index : Nat) :
    (entriesFrom offset values)[index]? =
      values[index]?.map (Value.entryAt (offset + (evalArena shapes).total (values.take index))) := by
  induction values generalizing offset index with
  | nil => simp [entriesFrom]
  | cons value values ih =>
    cases index with
    | zero => simp [entriesFrom]
    | succ index =>
      rw [entriesFrom,List.getElem?_cons_succ,List.getElem?_cons_succ,ih,List.take_succ_cons,Arena.total_cons,
        Nat.add_assoc]
      rfl

structure Represents (capacity : Nat) (values : ValueStack shapes) (machine : EvalMachine shapes) : Prop where
  capacity : machine.frame.evalCapacityBytes = capacity
  cursor : machine.frame.evalCursorBytes = (evalArena shapes).total values.stack
  offsets : machine.frame.evalOffsets = offsetsOf values.stack
  laid : (evalArena shapes).Laid machine.frame.evalEntries 0 (values.stack.reverse ++ values.popped)
  popped : machine.popped = entriesFrom machine.frame.evalCursorBytes values.popped

theorem represents_create (layout : EvalLayout) :
    Represents layout.evalCapacityBytes ({} : ValueStack shapes) ⟨EvalRegion.create layout,[]⟩ where
  capacity := rfl
  cursor := rfl
  offsets := rfl
  laid := trivial
  popped := rfl

variable {capacity : Nat} {values next : ValueStack shapes} {machine : EvalMachine shapes}
  {returned : Option (Value shapes)}

theorem represents_push (represents : Represents capacity values machine) {instance' : ObjectInstance shapes}
    {value : Value shapes} (pushes : Pushes machine.frame instance' value)
    (small : (evalArena shapes).total values.stack < 2 ^ 32) (done : values.push capacity value = some (next,returned)) :
    ∃ after, EvalMachine.pushed (machine.frame.pushStack instance') = some (after,returned) ∧
      Represents capacity next after := by
  obtain ⟨written,pushed,holds⟩ := pushes
  rw [ValueStack.push] at done
  split_ifs at done with room
  cases done
  rw [Arena.total_cons] at room
  have fits : machine.frame.evalCursorBytes + value.stride ≤ machine.frame.evalCapacityBytes := by
    rw [represents.cursor,represents.capacity,Nat.add_comm]
    exact room
  rw [pushed,EvalRegion.pushEntry,if_pos fits]
  refine ⟨_,rfl,?_⟩
  constructor
  · exact represents.capacity
  · change machine.frame.evalCursorBytes + value.stride = _
    rw [represents.cursor,Arena.total_cons,Nat.add_comm]
    rfl
  · change machine.frame.evalCursorBytes % 2 ^ 32 :: machine.frame.evalOffsets = _
    rw [represents.cursor,Nat.mod_eq_of_lt small,represents.offsets]
    rfl
  · rw [List.append_nil,List.reverse_cons,Arena.laid_append]
    have below := (Arena.laid_append.1 represents.laid).1
    rw [represents.cursor] at holds
    constructor
    · apply Arena.laid_congr _ below
      intro place _ inside
      rw [Arena.total_reverse,Nat.zero_add] at inside
      exact holds.below place inside
    · rw [Arena.total_reverse,Nat.zero_add]
      exact ⟨holds.image,trivial⟩
  · rfl

variable {stack : List (Value shapes)}

theorem peek_top (represents : Represents capacity values machine) {value : Value shapes}
    (top : values.stack = value :: stack) :
    machine.frame.peekStack shapes = some (value.entryAt ((evalArena shapes).total stack)) ∧
      (value.entryAt ((evalArena shapes).total stack)).value machine.frame.evalEntries = some value := by
  have laid := represents.laid
  rw [top,List.reverse_cons,List.append_assoc] at laid
  have image := Arena.laid_entry laid
  rw [Nat.zero_add,Arena.total_reverse] at image
  rw [EvalRegion.peekStack,represents.offsets,top,offsetsOf]
  exact ⟨entry_of_image machine.frame image,value_entryAt image⟩

theorem popStack_top (represents : Represents capacity values machine) {value : Value shapes}
    (top : values.stack = value :: stack) :
    machine.frame.popStack shapes = some (value.entryAt ((evalArena shapes).total stack),
      { machine.frame with evalOffsets := offsetsOf stack,evalCursorBytes := (evalArena shapes).total stack }) := by
  have offsets : machine.frame.evalOffsets = (evalArena shapes).total stack :: offsetsOf stack := by
    rw [represents.offsets,top,offsetsOf]
  rw [EvalRegion.popStack,offsets,(peek_top represents top).1]
  rfl

theorem represents_popped (represents : Represents capacity values machine) {value : Value shapes}
    (top : values.stack = value :: stack) :
    Represents capacity ⟨stack,value :: values.popped⟩ ⟨{ machine.frame with
      evalOffsets := offsetsOf stack
      evalCursorBytes := (evalArena shapes).total stack },value.entryAt ((evalArena shapes).total stack) :: machine.popped⟩ where
  capacity := represents.capacity
  cursor := rfl
  offsets := rfl
  laid := by
    have laid := represents.laid
    rw [top,List.reverse_cons,List.append_assoc] at laid
    exact laid
  popped := by
    rw [entriesFrom,represents.popped,represents.cursor,top,Arena.total_cons,Nat.add_comm]
    rfl

theorem represents_pop (represents : Represents capacity values machine) {value : Value shapes}
    (top : values.stack = value :: stack) :
    ∃ after, machine.step .popStack = some (after,some value) ∧
      Represents capacity ⟨stack,value :: values.popped⟩ after := by
  obtain ⟨_,seen⟩ := peek_top represents top
  refine ⟨_,?_,represents_popped represents top⟩
  rw [EvalMachine.step,popStack_top represents top]
  simp only [Option.bind_eq_bind,Option.bind_some,seen]

theorem pushes_popped (represents : Represents capacity values machine) {index : Nat} {value : Value shapes}
    (known : values.popped[index]? = some value)
    (apart : index = 0 ∨ value.copied ≤ (evalArena shapes).total (values.popped.take index)) :
    ∃ instance', machine.popped[index]? = some instance' ∧ Pushes machine.frame instance' value := by
  let offset := machine.frame.evalCursorBytes + (evalArena shapes).total (values.popped.take index)
  refine ⟨value.entryAt offset,?_,?_⟩
  · rw [represents.popped,getElem?_entriesFrom,known]
    rfl
  · obtain ⟨inside,same⟩ := List.getElem?_eq_some_iff.1 known
    have split : values.popped = values.popped.take index ++ value :: values.popped.drop (index + 1) := by
      rw [← same,List.getElem_cons_drop,List.take_append_drop]
    have laid := represents.laid
    rw [split,← List.append_assoc] at laid
    have image := Arena.laid_entry laid
    rw [Nat.zero_add,Arena.total_append,Arena.total_reverse,← represents.cursor] at image
    apply pushes_entry machine.frame image (Nat.le_add_right ..)
    rcases apart with rfl | apart
    · exact .inl rfl
    · right
      rw [Nat.add_sub_cancel_left]
      exact apart

theorem represents_step (represents : Represents capacity values machine) {operation : Operation shapes}
    (allows : values.Allows operation) (done : values.step capacity operation = some (next,returned)) :
    ∃ after, machine.step operation = some (after,returned) ∧ Represents capacity next after := by
  cases operation with
  | pushInline shape bytes sized =>
    exact represents_push represents (pushes_elsewhere machine.frame (.inline shape bytes sized)) allows done
  | pushReference value =>
    cases value with
    | none => exact represents_push represents (pushes_elsewhere machine.frame .null) allows done
    | some value => exact represents_push represents (pushes_elsewhere machine.frame (.reference value.1 value.2)) allows done
  | pushStack value => exact represents_push represents (pushes_elsewhere machine.frame value) allows done
  | pushPopped index =>
    rw [ValueStack.step,Option.bind_eq_bind,Option.bind_eq_some_iff] at done
    obtain ⟨value,known,done⟩ := done
    obtain ⟨instance',held,pushes⟩ := pushes_popped represents known (allows.2 value known)
    obtain ⟨after,pushed,represents'⟩ := represents_push represents pushes allows.1 done
    refine ⟨after,?_,represents'⟩
    rw [EvalMachine.step,held]
    exact pushed
  | popStack =>
    rw [ValueStack.step] at done
    split at done
    · cases done
    · rename_i value stack top
      cases done
      exact represents_pop represents top
  | peekStack =>
    rw [ValueStack.step] at done
    cases top : values.stack with
    | nil =>
      rw [top] at done
      cases done
    | cons value stack =>
      rw [top] at done
      cases done
      obtain ⟨peeked,seen⟩ := peek_top represents top
      refine ⟨machine,?_,represents⟩
      rw [EvalMachine.step,peeked]
      simp only [Option.bind_eq_bind,Option.bind_some,seen]

theorem represents_run {operations : List (Operation shapes)} (represents : Represents capacity values machine)
    (allowed : values.AllAllowed capacity operations) {after : ValueStack shapes} {results : List (Value shapes)}
    (done : values.run capacity operations = some (after,results)) :
    ∃ machine', machine.run operations = some (machine',results) ∧ Represents capacity after machine' := by
  induction operations generalizing values machine results with
  | nil =>
    cases done
    exact ⟨machine,rfl,represents⟩
  | cons operation operations ih =>
    simp only [ValueStack.run,Option.bind_eq_bind,Option.bind_eq_some_iff] at done
    obtain ⟨⟨next,returned⟩,first,⟨after',results'⟩,rest,done⟩ := done
    cases done
    obtain ⟨middle,step,represents'⟩ := represents_step represents allowed.1 first
    obtain ⟨machine',ran,represents''⟩ := ih represents' (allowed.2 _ first) rest
    refine ⟨machine',?_,represents''⟩
    rw [EvalMachine.run,step]
    simp only [Option.bind_eq_bind,Option.bind_some,ran]

/-- A frame's evaluation stack is a stack, in every run that its capacity allows, as long as no entry begins behind the
32 bits of an offset and no copy overlaps what it is made from. -/
theorem evalStack_run (layout : EvalLayout) (operations : List (Operation shapes)) {after : ValueStack shapes}
    {results : List (Value shapes)} (allowed : ValueStack.AllAllowed layout.evalCapacityBytes operations {})
    (done : ValueStack.run layout.evalCapacityBytes operations {} = some (after,results)) :
    ∃ machine, EvalMachine.run operations ⟨EvalRegion.create layout,[]⟩ = some (machine,results) ∧
      Represents layout.evalCapacityBytes after machine :=
  represents_run (represents_create layout) allowed done

end Runs

def pairShapes : Shapes where
  find address := if address = 8 then some ⟨8,.byReference,16⟩ else if address = 16 then some ⟨16,.byValue,24⟩ else none
  null := rfl
  address := by
    intro address shape found
    split_ifs at found with first second
    · cases found
      exact first.symm
    · cases found
      exact second.symm
  bounded := by
    intro address shape found
    split_ifs at found with first second
    · omega
    · omega

def pairLayout : EvalLayout := ⟨true,2,24⟩

def largeShape : KnownShape pairShapes .byValue := ⟨⟨16,.byValue,24⟩,rfl,rfl⟩

def largeValue : Value pairShapes := .inline largeShape (List.replicate 24 7) rfl

def pushedAgain : List (Operation pairShapes) :=
  [.pushReference none,.pushStack largeValue,.popStack,.pushPopped 0,.peekStack]

theorem evalStack_run_again : ∃ machine, EvalMachine.run pushedAgain ⟨EvalRegion.create pairLayout,[]⟩ =
    some (machine,[largeValue,largeValue]) ∧ Represents pairLayout.evalCapacityBytes ⟨[largeValue,.null],[]⟩ machine := by
  apply evalStack_run pairLayout pushedAgain
  · refine ⟨Nat.two_pow_pos 32,?_⟩
    rintro _ ⟨⟩
    have small : (evalArena pairShapes).total [.null] < 2 ^ 32 := by decide
    refine ⟨small,?_⟩
    rintro _ ⟨⟩
    refine ⟨trivial,?_⟩
    rintro _ ⟨⟩
    refine ⟨⟨small,fun _ _ => .inl rfl⟩,?_⟩
    rintro _ ⟨⟩
    refine ⟨trivial,?_⟩
    rintro _ ⟨⟩
    trivial
  · rfl

/-- The structure is pushed again after what was below it was popped as well: the copy overlaps itself. -/
def pushedBelow : List (Operation pairShapes) :=
  [.pushReference none,.pushStack largeValue,.popStack,.popStack,.pushPopped 1]

theorem evalStack_overlaps : ¬ ∀ (shapes : Shapes) (layout : EvalLayout) (operations : List (Operation shapes))
    (after : ValueStack shapes) (results : List (Value shapes)),
    ValueStack.run layout.evalCapacityBytes operations {} = some (after,results) →
    ∃ machine, EvalMachine.run operations ⟨EvalRegion.create layout,[]⟩ = some (machine,results) ∧
      Represents layout.evalCapacityBytes after machine := by
  intro stack
  obtain ⟨machine,ran,_⟩ := stack pairShapes pairLayout pushedBelow ⟨[largeValue],[]⟩ [largeValue,.null] rfl
  have undefined : EvalMachine.run pushedBelow ⟨EvalRegion.create pairLayout,[]⟩ = none := rfl
  rw [undefined] at ran
  cases ran

end ShardScript.Frames.EvalStack
