import ShardScript.Frames.Layout
import ShardScript.Library.Storage

/-! The local slots of a frame in the bytes of its arena. -/
namespace ShardScript.Frames
open Library
open Calls (TypeSymbol)

inductive Cell where
  | byte (value : UInt8)
  | shape (shape : TypeShape) (part : Nat)
  | object (address : Nat) (part : Nat)
  deriving DecidableEq

def nullPointer : List Cell := List.replicate 8 (.byte 0)

def shapePointer : Option TypeShape → List Cell
  | none => nullPointer
  | some shape => (List.range 8).map (.shape shape)

def objectPointer : Option Nat → List Cell
  | none => nullPointer
  | some address => (List.range 8).map (.object address)

@[simp] theorem length_shapePointer (shape : Option TypeShape) : (shapePointer shape).length = 8 := by
  cases shape <;> rfl

@[simp] theorem length_objectPointer (address : Option Nat) : (objectPointer address).length = 8 := by
  cases address <;> rfl

inductive ObjectInstance where
  | null (shape : Option TypeShape) (byReference : ∀ known ∈ shape, known.inlining = .byReference)
  | reference (shape : TypeShape) (byReference : shape.inlining = .byReference) (address : Nat)
  | inline (shape : TypeShape) (byValue : shape.inlining = .byValue) (payload : List Cell)
      (size : payload.length = align shape.size)

namespace ObjectInstance

def getShape : ObjectInstance → Option TypeShape
  | null shape _ => shape
  | reference shape _ _ => some shape
  | inline shape _ _ _ => some shape

def payload : ObjectInstance → List Cell
  | null _ _ => objectPointer none
  | reference _ _ address => objectPointer (some address)
  | inline _ _ payload _ => payload

def isNullInstance : ObjectInstance → Bool
  | null _ _ => true
  | _ => false

def seenAs (known : Option TypeShape) : ObjectInstance → Option ObjectInstance
  | null none _ =>
      match known with
      | some shape =>
          if byReference : shape.inlining = .byReference then
            some (.null (some shape) fun _ same => Option.mem_some.1 same ▸ byReference)
          else none
      | none => none
  | value => some value

end ObjectInstance

def readShape (arena : Storage Cell) (place : Nat) : Option TypeShape :=
  match arena place with
  | .shape shape _ => if arena.read place 8 = shapePointer (some shape) then some shape else none
  | _ => none

def readObject (arena : Storage Cell) (place : Nat) : Option (Option Nat) :=
  match arena place with
  | .object address _ => if arena.read place 8 = objectPointer (some address) then some (some address) else none
  | _ => if arena.read place 8 = objectPointer none then some none else none

variable {arena : Storage Cell}

theorem first_of_read {place : Nat} {cells : List Cell} {cell : Cell}
    (read : arena.read place 8 = cell :: cells) : arena place = cell := by
  have known := congrArg List.head? read
  rw [Storage.read,List.range_succ_eq_map,List.map_cons,List.head?_cons,List.head?_cons,Nat.add_zero] at known
  exact Option.some.inj known

theorem readShape_eq {place : Nat} {shape : TypeShape}
    (read : arena.read place 8 = shapePointer (some shape)) : readShape arena place = some shape := by
  have first : arena place = .shape shape 0 := first_of_read read
  rw [readShape,first]
  exact if_pos read

theorem readObject_eq {place : Nat} {address : Option Nat}
    (read : arena.read place 8 = objectPointer address) : readObject arena place = some address := by
  cases address with
  | none =>
    have first : arena place = .byte 0 := first_of_read read
    rw [readObject,first]
    exact if_pos read
  | some address =>
    have first : arena place = .object address 0 := first_of_read read
    rw [readObject,first]
    exact if_pos read

structure CallStackFrame where
  arena : Storage Cell
  localSlots : List LocalSlotDesc

/-- `CallStackFrame::Create`; the block is zeroed. -/
def create (table : TypeTable) (method : MethodSymbol) (typeArguments : List TypeSymbol) : CallStackFrame :=
  ⟨fun _ => .byte 0,localSlots table method typeArguments⟩

namespace CallStackFrame

variable (frame : CallStackFrame)

def getLocal (slot : Nat) : Option ObjectInstance :=
  match frame.localSlots[slot]? with
  | none => none
  | some desc =>
      match readShape frame.arena desc.offset with
      | none => none
      | some shape =>
          if byReference : shape.inlining = .byReference then
            match readObject frame.arena (desc.offset + slotHeaderBytes) with
            | none => none
            | some none => some (.null (some shape) fun _ same => Option.mem_some.1 same ▸ byReference)
            | some (some address) => some (.reference shape byReference address)
          else
            some (.inline shape (TypeInlining.eq_byValue byReference)
              (frame.arena.read (desc.offset + slotHeaderBytes) (align shape.size)) (Storage.length_read _ _ _))

end CallStackFrame

def newShape (desc : LocalSlotDesc) (value : ObjectInstance) : Option TypeShape := value.getShape <|> desc.shape

def setLocalBlocks (desc : LocalSlotDesc) (value : ObjectInstance) : List (Block Cell) :=
  [⟨desc.offset,shapePointer (newShape desc value)⟩,⟨desc.offset + slotHeaderBytes,value.payload⟩]

/-- What a turn of `CopyArgumentPayloads` copies. Behind the header of a null without any shape it copies nothing, and
there are no bytes to copy of a null in a slot of a value type. -/
def copyArgumentBlocks (desc : LocalSlotDesc) (value : ObjectInstance) : Option (List (Block Cell)) :=
  match newShape desc value with
  | none => some [⟨desc.offset,shapePointer none⟩]
  | some shape =>
      if shape.inlining = .byValue ∧ value.isNullInstance = true then none
      else some (setLocalBlocks desc value)

/-- A store in one slot: a call of `SetLocal`, or a turn of `CopyArgumentPayloads`. -/
inductive Store where
  | setLocal (slot : Nat) (value : ObjectInstance)
  | copyArgument (slot : Nat) (value : ObjectInstance)

namespace Store

def slot : Store → Nat
  | setLocal slot _ | copyArgument slot _ => slot

def value : Store → ObjectInstance
  | setLocal _ value | copyArgument _ value => value

def blocks (desc : LocalSlotDesc) : Store → Option (List (Block Cell))
  | setLocal _ value => some (setLocalBlocks desc value)
  | copyArgument _ value => copyArgumentBlocks desc value

end Store

namespace CallStackFrame

variable (frame : CallStackFrame)

def blocks (store : Store) : Option (List (Block Cell)) := do
  store.blocks (← frame.localSlots[store.slot]?)

def perform (store : Store) : Option CallStackFrame := do
  let desc ← frame.localSlots[store.slot]?
  let blocks ← store.blocks desc
  return ⟨frame.arena.writeAll blocks,
    frame.localSlots.set store.slot { desc with shape := newShape desc store.value }⟩

def setLocal (slot : Nat) (value : ObjectInstance) : Option CallStackFrame := frame.perform (.setLocal slot value)

def copyArgumentPayloads (slot : Nat) : List ObjectInstance → CallStackFrame → Option CallStackFrame
  | [],frame => some frame
  | argument :: arguments,frame => do
      copyArgumentPayloads (slot + 1) arguments (← frame.perform (.copyArgument slot argument))

def Holds (slot : Nat) (value : ObjectInstance) : Prop :=
  ∃ desc, frame.localSlots[slot]? = some desc ∧ value.getShape.isSome = true ∧
    frame.arena.read desc.offset 8 = shapePointer value.getShape ∧
    frame.arena.read (desc.offset + slotHeaderBytes) value.payload.length = value.payload

theorem getLocal_of_holds {frame : CallStackFrame} {slot : Nat} {value : ObjectInstance} (holds : frame.Holds slot value) :
    frame.getLocal slot = some value := by
  obtain ⟨desc,found,known,header,payload⟩ := holds
  unfold getLocal
  rw [found]
  cases value with
  | null shape byReference =>
    obtain ⟨shape,rfl⟩ := Option.isSome_iff_exists.1 known
    have object : readObject frame.arena (desc.offset + slotHeaderBytes) = some none := readObject_eq payload
    simp only [readShape_eq header,byReference shape rfl,object,↓reduceDIte]
  | reference shape byReference address =>
    have object : readObject frame.arena (desc.offset + slotHeaderBytes) = some (some address) := readObject_eq payload
    simp only [readShape_eq header,byReference,object,↓reduceDIte]
  | inline shape byValue payload' size =>
    have other : ¬ shape.inlining = .byReference := by rw [byValue]; simp
    rw [ObjectInstance.payload,size] at payload
    simp only [readShape_eq header,other,payload,↓reduceDIte]

end CallStackFrame

end ShardScript.Frames
