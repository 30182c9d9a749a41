import ShardScript.Frames.Layout
import ShardScript.Library.Bytes
import ShardScript.Library.Storage

/-! Arrays in memory: a length, and elements behind it whose place depends on what is known of their type. -/
namespace ShardScript.Arrays
open Library
open Frames (TypeInlining)

def sizeT (number : Nat) : Nat := number % 2 ^ 64

theorem sizeT_lt (number : Nat) : sizeT number < 2 ^ 64 := Nat.mod_lt _ (Nat.two_pow_pos 64)

theorem sizeT_of_lt {number : Nat} (small : number < 2 ^ 64) : sizeT number = number := Nat.mod_eq_of_lt small

inductive Fault where
  | thrown
  | undefined
  deriving DecidableEq

structure TypeInfo where
  inlining : TypeInlining
  memoryBytesSize : UInt64
  shapeSize : UInt64
  deriving DecidableEq

def TypeInfo.getInlineSize (info : TypeInfo) : Nat :=
  if info.inlining = .byReference then 8 else info.memoryBytesSize.toNat

inductive TypeSymbol where
  | type (info : TypeInfo)
  | typeParameter (typeArgumentIndex : UInt16)

namespace TypeSymbol

def info : TypeSymbol → TypeInfo
  | type info => info
  | typeParameter _ => ⟨.byReference,0,0⟩

def resolve (typeArguments : List TypeSymbol) : TypeSymbol → TypeSymbol
  | type info => type info
  | typeParameter index => (typeArguments[index.toNat]?).getD (typeParameter index)

end TypeSymbol

def arrayBytesSize : Nat := 8

/-- The memory behind the payload pointer of an array. There is room for the length at least. -/
structure Block where
  underlayingType : TypeSymbol
  room : Nat
  header : arrayBytesSize ≤ room
  memory : Storage UInt8

inductive Value where
  | null
  | reference (address : UInt64)
  | inline (address : UInt64) (bytes : Bytes)

namespace Value

def isNullInstance : Value → Bool
  | null => true
  | _ => false

def address : Value → UInt64
  | null => 0
  | reference address | inline address _ => address

def bytes : Value → Bytes
  | inline _ bytes => bytes
  | _ => []

end Value

inductive Element where
  | stored (address : UInt64)
  | place (offset : Nat)
  deriving DecidableEq

namespace Block

variable (block : Block)

def getArrayLength : Nat := ofLittleEndian (block.memory.read 0 8)

def acceptsIndex (index : Int64) : Bool := !(decide (index < 0) || decide (block.getArrayLength ≤ index.toUInt64.toNat))

theorem lt_of_acceptsIndex {index : Int64} (accepted : block.acceptsIndex index = true) :
    index.toUInt64.toNat < block.getArrayLength := by
  simp only [acceptsIndex,Bool.not_eq_true',Bool.or_eq_false_iff,decide_eq_false_iff_not,Nat.not_le] at accepted
  exact accepted.2

def instanceSize : Nat := sizeT (arrayBytesSize + sizeT (block.underlayingType.info.getInlineSize * block.getArrayLength))

/-- The test that `OffsetMemory`, `ReadMemory` and `WriteMemory` make. -/
def checkMemory (offset size : Nat) : Except Fault Unit :=
  if size = 0 then .error .thrown
  else if block.instanceSize < sizeT (offset + size) then .error .thrown
  else .ok ()

def readMemory (offset size : Nat) : Except Fault Bytes := do
  block.checkMemory offset size
  if offset + size ≤ block.room then .ok (block.memory.read offset size) else .error .undefined

def writeMemory (offset size : Nat) (source : Bytes) : Except Fault Block := do
  block.checkMemory offset size
  if offset + size ≤ block.room ∧ size ≤ source.length then
    .ok { block with memory := block.memory.write ⟨offset,source.take size⟩ }
  else .error .undefined

def elementType (typeArguments : Option (List TypeSymbol)) : TypeInfo :=
  match typeArguments with
  | some typeArguments => (block.underlayingType.resolve typeArguments).info
  | none => block.underlayingType.info

def elementOffset (info : TypeInfo) (index : Nat) : Nat := sizeT (arrayBytesSize + sizeT (info.getInlineSize * index))

/-- Where the element is, or what it refers to. The result has a shape if there is a frame. -/
def getElement (index : Nat) (typeArguments : Option (List TypeSymbol)) : Except Fault Element :=
  if block.getArrayLength ≤ index then .error .thrown
  else
    let info := block.elementType typeArguments
    let memoryOffset := elementOffset info index
    if info.inlining = .byReference then do
      let stored ← block.readMemory memoryOffset 8
      .ok (.stored (UInt64.ofNat (ofLittleEndian stored)))
    else do
      block.checkMemory memoryOffset info.getInlineSize
      .ok (.place memoryOffset)

def setElement (index : Nat) (value : Value) (typeArguments : Option (List TypeSymbol)) : Except Fault Block :=
  if block.getArrayLength ≤ index then .error .thrown
  else
    let info := block.elementType typeArguments
    let memoryOffset := elementOffset info index
    if info.inlining = .byReference then do
      let _ ← block.getElement index typeArguments
      block.writeMemory memoryOffset 8 (littleEndian 8 value.address.toNat)
    else if value.isNullInstance then .error .thrown
    else block.writeMemory memoryOffset info.memoryBytesSize.toNat value.bytes

def image (info : TypeInfo) (value : Value) : Bytes :=
  if info.inlining = .byReference then littleEndian 8 value.address.toNat else value.bytes.take info.memoryBytesSize.toNat

def Storable (info : TypeInfo) (value : Value) : Prop :=
  info.inlining = .byReference ∨
    value.isNullInstance = false ∧ info.memoryBytesSize ≠ 0 ∧ info.memoryBytesSize.toNat ≤ value.bytes.length

def stride : Nat := block.underlayingType.info.getInlineSize

def element (index : Nat) : Bytes := block.memory.read (arrayBytesSize + block.stride * index) block.stride

def store (index : Nat) (cells : Bytes) : Block :=
  { block with memory := block.memory.write ⟨arrayBytesSize + block.stride * index,cells⟩ }

structure Covered : Prop where
  covers : arrayBytesSize + block.stride * block.getArrayLength ≤ block.room
  small : block.room < 2 ^ 64

end Block

section Covered

variable {block : Block} {index : Nat} {value : Value}

theorem length_image {info : TypeInfo} (storable : Block.Storable info value) :
    (Block.image info value).length = info.getInlineSize := by
  rw [Block.image,TypeInfo.getInlineSize]
  split_ifs with reference
  · exact length_littleEndian ..
  · rcases storable with other | ⟨_,_,enough⟩
    · exact absurd other reference
    · rw [List.length_take,Nat.min_eq_left enough]

theorem inlineSize_ne {info : TypeInfo} (storable : Block.Storable info value) : info.getInlineSize ≠ 0 := by
  rw [TypeInfo.getInlineSize]
  split_ifs with reference
  · exact Nat.succ_ne_zero 7
  · rcases storable with other | ⟨_,sized,_⟩
    · exact absurd other reference
    · intro zero
      exact sized (UInt64.toNat.inj zero)

theorem element_end_le (stride : Nat) {length : Nat} (inside : index < length) :
    arrayBytesSize + stride * index + stride ≤ arrayBytesSize + stride * length := by
  have step : stride * index + stride ≤ stride * length := by
    rw [← Nat.mul_succ]
    exact Nat.mul_le_mul_left stride inside
  omega

namespace Block.Covered

variable (covered : block.Covered)

include covered

theorem instanceSize_eq : block.instanceSize = arrayBytesSize + block.stride * block.getArrayLength := by
  obtain ⟨covers,small⟩ := covered
  rw [instanceSize,@sizeT_of_lt (_ * _),sizeT_of_lt]
  · rfl
  · exact Nat.lt_of_le_of_lt covers small
  · exact Nat.lt_of_le_of_lt (Nat.le_trans (Nat.le_add_left _ _) covers) small

theorem elementOffset_eq (inside : index < block.getArrayLength) :
    elementOffset block.underlayingType.info index = arrayBytesSize + block.stride * index := by
  have fits := Nat.lt_of_le_of_lt (Nat.le_trans (element_end_le block.stride inside) covered.covers) covered.small
  rw [elementOffset,@sizeT_of_lt (_ * _),sizeT_of_lt]
  · rfl
  · change arrayBytesSize + block.stride * index < 2 ^ 64
    omega
  · change block.stride * index < 2 ^ 64
    omega

theorem checkMemory_element (inside : index < block.getArrayLength) (sized : block.stride ≠ 0) :
    block.checkMemory (arrayBytesSize + block.stride * index) block.stride = .ok () := by
  have inner := element_end_le block.stride inside
  have fits := Nat.lt_of_le_of_lt (Nat.le_trans inner covered.covers) covered.small
  rw [checkMemory,if_neg sized,covered.instanceSize_eq,sizeT_of_lt fits,if_neg (Nat.not_lt.2 inner)]

theorem readMemory_element (inside : index < block.getArrayLength) (sized : block.stride ≠ 0) :
    block.readMemory (arrayBytesSize + block.stride * index) block.stride =
      .ok (block.memory.read (arrayBytesSize + block.stride * index) block.stride) := by
  have room := Nat.le_trans (element_end_le block.stride inside) covered.covers
  rw [readMemory,covered.checkMemory_element inside sized]
  exact if_pos room

theorem writeMemory_element (inside : index < block.getArrayLength) (sized : block.stride ≠ 0) (source : Bytes)
    (enough : block.stride ≤ source.length) :
    block.writeMemory (arrayBytesSize + block.stride * index) block.stride source = .ok { block with
      memory := block.memory.write ⟨arrayBytesSize + block.stride * index,source.take block.stride⟩ } := by
  have room := Nat.le_trans (element_end_le block.stride inside) covered.covers
  rw [writeMemory,covered.checkMemory_element inside sized]
  exact if_pos ⟨room,enough⟩

theorem setElement_eq (inside : index < block.getArrayLength) (storable : Storable block.underlayingType.info value) :
    block.setElement index value none = .ok (block.store index (image block.underlayingType.info value)) := by
  have sized : block.stride ≠ 0 := inlineSize_ne storable
  rw [setElement,if_neg (Nat.not_le.2 inside)]
  simp only [elementType,covered.elementOffset_eq inside]
  by_cases reference : block.underlayingType.info.inlining = .byReference
  · have eight : block.stride = 8 := if_pos reference
    have read := covered.readMemory_element inside sized
    have write := covered.writeMemory_element inside sized (littleEndian 8 value.address.toNat)
      (by rw [length_littleEndian,eight])
    rw [if_pos reference,image,if_pos reference]
    rw [List.take_of_length_le (by rw [length_littleEndian,eight])] at write
    rw [eight] at read write ⊢
    have got : block.getElement index none = .ok (.stored (UInt64.ofNat (ofLittleEndian
        (block.memory.read (arrayBytesSize + 8 * index) 8)))) := by
      rw [getElement,if_neg (Nat.not_le.2 inside)]
      simp only [elementType,covered.elementOffset_eq inside,if_pos reference,eight,read]
      rfl
    rw [got,store,eight]
    exact write
  · have inline : block.stride = block.underlayingType.info.memoryBytesSize.toNat := if_neg reference
    rcases storable with other | ⟨present,_,enough⟩
    · exact absurd other reference
    · have write := covered.writeMemory_element inside sized value.bytes (by rw [inline]; exact enough)
      rw [if_neg reference,present,if_neg Bool.false_ne_true,image,if_neg reference,store]
      rw [inline] at write ⊢
      exact write

end Block.Covered

section Stores

variable (block index) (cells : Bytes)

theorem getArrayLength_store : (block.store index cells).getArrayLength = block.getArrayLength := by
  rw [Block.getArrayLength,Block.getArrayLength,Block.store,Storage.read_write_outside]
  left
  change 8 ≤ arrayBytesSize + _
  exact Nat.le_add_right ..

variable {block} {cells}

theorem Block.Covered.store (covered : block.Covered) : (block.store index cells).Covered := by
  constructor
  · rw [getArrayLength_store]
    exact covered.covers
  · exact covered.small

theorem element_store (sized : cells.length = block.stride) : (block.store index cells).element index = cells := by
  have read := block.memory.read_write ⟨arrayBytesSize + block.stride * index,cells⟩
  rw [sized] at read
  exact read

theorem element_store_ne {other : Nat} (sized : cells.length = block.stride) (ne : other ≠ index) :
    (block.store index cells).element other = block.element other := by
  apply Storage.read_write_outside
  rw [Block.next_mk,sized]
  rcases Nat.lt_or_gt_of_ne ne with below | above
  · exact .inl (element_end_le block.stride below)
  · exact .inr (element_end_le block.stride above)

end Stores

variable {after : Block}

theorem writeMemory_ok {offset size : Nat} {source : Bytes}
    (written : block.writeMemory offset size source = .ok after) : size ≠ 0 ∧ size ≤ source.length := by
  rw [Block.writeMemory] at written
  cases checked : block.checkMemory offset size with
  | error fault =>
    rw [checked] at written
    cases written
  | ok =>
    rw [checked] at written
    constructor
    · rintro rfl
      cases checked
    · by_contra short
      have undefined := written.symm.trans (if_neg fun room => short room.2)
      cases undefined

theorem writeMemory_room {offset size : Nat} {source : Bytes}
    (written : block.writeMemory offset size source = .ok after) :
    after.room = block.room ∧ after.underlayingType = block.underlayingType := by
  rw [Block.writeMemory] at written
  cases checked : block.checkMemory offset size with
  | error fault =>
    rw [checked] at written
    cases written
  | ok =>
    rw [checked] at written
    by_cases room : offset + size ≤ block.room ∧ size ≤ source.length
    · have same := (if_pos room).symm.trans written
      cases same
      exact ⟨rfl,rfl⟩
    · have undefined := written.symm.trans (if_neg room)
      cases undefined

theorem setElement_room (stored : block.setElement index value none = .ok after) :
    after.room = block.room ∧ after.underlayingType = block.underlayingType := by
  rw [Block.setElement] at stored
  by_cases outside : block.getArrayLength ≤ index
  · rw [if_pos outside] at stored
    cases stored
  · rw [if_neg outside] at stored
    by_cases reference : block.underlayingType.info.inlining = .byReference
    · have written : (block.getElement index none >>= fun _ =>
          block.writeMemory (Block.elementOffset block.underlayingType.info index) 8
            (littleEndian 8 value.address.toNat)) = .ok after := (if_pos reference).symm.trans stored
      cases got : block.getElement index none with
      | error fault =>
        rw [got] at written
        cases written
      | ok element =>
        rw [got] at written
        exact writeMemory_room written
    · have written : (if value.isNullInstance then Except.error Fault.thrown else
          block.writeMemory (Block.elementOffset block.underlayingType.info index)
            block.underlayingType.info.memoryBytesSize.toNat value.bytes) = .ok after :=
        (if_neg reference).symm.trans stored
      split_ifs at written
      exact writeMemory_room written

theorem storable_of_setElement (stored : block.setElement index value none = .ok after) :
    Block.Storable block.underlayingType.info value := by
  rw [Block.setElement] at stored
  by_cases outside : block.getArrayLength ≤ index
  · rw [if_pos outside] at stored
    cases stored
  · rw [if_neg outside] at stored
    by_cases reference : block.underlayingType.info.inlining = .byReference
    · exact .inl reference
    · have written : (if value.isNullInstance then Except.error Fault.thrown else
          block.writeMemory (Block.elementOffset block.underlayingType.info index)
            block.underlayingType.info.memoryBytesSize.toNat value.bytes) = .ok after :=
        (if_neg reference).symm.trans stored
      split_ifs at written with null
      obtain ⟨sized,enough⟩ := writeMemory_ok written
      exact .inr ⟨by simpa using null,fun zero => sized (by rw [zero]; rfl),enough⟩

end Covered

end ShardScript.Arrays
