import ShardScript.Arrays.Ranges

/-! What the instructions that create arrays leave: a block with room for its elements, or nothing. -/
namespace ShardScript.Arrays
open Library

def setElements : Nat → List Value → Block → Except Fault Block
  | _,[],block => .ok block
  | index,value :: values,block =>
      match block.setElement index value none with
      | .error fault => .error fault
      | .ok block => setElements (index + 1) values block

/-- The size of the block that `AllocateInstance` makes for an array type, from the shape of the elements. -/
def shapeBytes (elementType : TypeSymbol) (length : Nat) : Nat :=
  sizeT (arrayBytesSize + sizeT (elementType.info.shapeSize.toNat * length))

def newArray (allocate : Allocate) (heap : Heap) (underlayingType : TypeSymbol) (elements : List Value) :
    Except Fault Block × Heap :=
  match allocateBlock allocate heap underlayingType (shapeBytes underlayingType elements.length) elements.length with
  | (.error fault,heap) => (.error fault,heap)
  | (.ok block,heap) => (setElements 0 elements block,heap)

/-- `NEWARRAY_DYNAMIC` in a frame with type arguments. The type of the array is not resolved, that of the elements is. -/
def newArrayDynamic (allocate : Allocate) (isReady : TypeSymbol → Bool) (heap : Heap) (underlayingType : TypeSymbol)
    (typeArguments : List TypeSymbol) (length : Int64) : Except Fault Block × Heap :=
  let elementType := underlayingType.resolve typeArguments
  if isReady elementType then allocateArray allocate heap underlayingType elementType length.toUInt64.toNat
  else (.error .thrown,heap)

inductive Creation where
  | newArray (underlayingType : TypeSymbol) (elements : List Value) (counted : elements.length < 2 ^ 64)
  | newArrayDynamic (underlayingType : TypeSymbol) (typeArguments : List TypeSymbol) (length : Int64)
  | createRange (lower upper : Int64) (inclusive : Bool)

namespace Creation

def run (allocate : Allocate) (isReady : TypeSymbol → Bool) (heap : Heap) : Creation → Except Fault Block × Heap
  | newArray underlayingType elements _ => Arrays.newArray allocate heap underlayingType elements
  | newArrayDynamic underlayingType typeArguments length =>
      Arrays.newArrayDynamic allocate isReady heap underlayingType typeArguments length
  | createRange lower upper inclusive => Arrays.createRange allocate heap lower upper inclusive

def length : Creation → Nat
  | newArray _ elements _ => elements.length
  | newArrayDynamic _ _ length => length.toUInt64.toNat
  | createRange lower upper inclusive => rangeCount lower upper inclusive

end Creation

/-- The length is in front, and wherever the instructions go with an index that they accept, there is an element. -/
structure Block.HoldsElements (block : Block) (length : Nat) : Prop where
  counts : block.getArrayLength = length
  covers : arrayBytesSize + block.stride * length ≤ block.room
  inside : ∀ index : Int64, block.acceptsIndex index = true →
    Block.elementOffset block.underlayingType.info index.toUInt64.toNat + block.stride ≤ block.room

def CreatedSoundly (heap : Heap) (length : Nat) : Except Fault Block × Heap → Prop
  | (.error fault,after) => fault = .thrown ∧ after = heap
  | (.ok block,_) => block.HoldsElements length

def Spacious (elementType : TypeSymbol) (length bytes : Nat) : Prop :=
  gcHeaderBytes + arrayBytesSize + elementType.info.getInlineSize * length ≤ bytes

def Creation.Allowed (allocate : Allocate) (isReady : TypeSymbol → Bool) (heap : Heap) : Creation → Prop
  | newArray underlayingType elements _ => ∀ address,
      allocate heap (sizeT (gcHeaderBytes + shapeBytes underlayingType elements.length)) = some address →
        Spacious underlayingType elements.length (sizeT (gcHeaderBytes + shapeBytes underlayingType elements.length)) ∧
          ∀ value ∈ elements, Block.Storable underlayingType.info value
  | newArrayDynamic underlayingType typeArguments length =>
      let elementType := underlayingType.resolve typeArguments
      let bytes := sizeT (gcHeaderBytes + arrayBytesSize + elementType.info.getInlineSize * length.toUInt64.toNat)
      isReady elementType = true → ∀ address, allocate heap bytes = some address →
        Spacious underlayingType length.toUInt64.toNat bytes
  | createRange lower upper inclusive => RangeAllowed allocate heap (rangeCount lower upper inclusive)

section Blocks

variable {block after : Block} {length : Nat}

theorem Block.Covered.holdsElements (covered : block.Covered) (length' : block.getArrayLength = length) :
    block.HoldsElements length := by
  subst length'
  refine ⟨rfl,covered.covers,?_⟩
  intro index accepted
  have inside := block.lt_of_acceptsIndex accepted
  rw [covered.elementOffset_eq inside]
  exact Nat.le_trans (element_end_le block.stride inside) covered.covers

variable {values : List Value}

theorem setElements_room {index : Nat} (stored : setElements index values block = .ok after) :
    after.room = block.room ∧ after.underlayingType = block.underlayingType := by
  induction values generalizing index block with
  | nil =>
    cases stored
    exact ⟨rfl,rfl⟩
  | cons value values ih =>
    rw [setElements] at stored
    split at stored
    · cases stored
    · rename_i next same
      obtain ⟨room,type⟩ := setElement_room same
      obtain ⟨room',type'⟩ := ih stored
      exact ⟨room'.trans room,type'.trans type⟩

theorem storable_of_setElements {index : Nat} (stored : setElements index values block = .ok after) :
    ∀ value ∈ values, Block.Storable block.underlayingType.info value := by
  induction values generalizing index block with
  | nil =>
    intro value member
    cases member
  | cons first values ih =>
    rw [setElements] at stored
    split at stored
    · cases stored
    · rename_i next same
      intro value member
      rcases List.mem_cons.1 member with rfl | member
      · exact storable_of_setElement same
      · have storable := ih stored value member
        rw [(setElement_room same).2] at storable
        exact storable

theorem setElements_covered {index : Nat} (covered : block.Covered)
    (inside : index + values.length ≤ block.getArrayLength)
    (storable : ∀ value ∈ values, Block.Storable block.underlayingType.info value) :
    ∃ after, setElements index values block = .ok after ∧ after.Covered ∧ after.getArrayLength = block.getArrayLength := by
  induction values generalizing index block with
  | nil => exact ⟨block,rfl,covered,rfl⟩
  | cons value values ih =>
    rw [List.length_cons] at inside
    have stored := covered.setElement_eq (show index < _ by omega) (storable value List.mem_cons_self)
    let cells := Block.image block.underlayingType.info value
    have same := getArrayLength_store block index cells
    obtain ⟨after,rest,covered',length'⟩ := @ih (block.store index cells) (index + 1) (covered.store index) (by omega)
      (fun value member => storable value (List.mem_cons_of_mem _ member))
    refine ⟨after,?_,covered',length'.trans same⟩
    rw [setElements]
    simp only [stored]
    exact rest

end Blocks

section Creations

variable {allocate : Allocate} {isReady : TypeSymbol → Bool} {heap : Heap} {underlayingType : TypeSymbol}

theorem allocateBlock_covered {totalSize length address : Nat}
    (granted : allocate heap (sizeT (gcHeaderBytes + totalSize)) = some address) (counted : length < 2 ^ 64)
    (spacious : Spacious underlayingType length (sizeT (gcHeaderBytes + totalSize))) :
    ∃ block, allocateBlock allocate heap underlayingType totalSize length = (.ok block,address :: heap) ∧
      block.underlayingType = underlayingType ∧ block.getArrayLength = length ∧ block.Covered := by
  obtain ⟨block,allocated,type,room,length'⟩ := allocateBlock_some underlayingType granted
    (Nat.le_trans (Nat.le_add_right _ _) spacious) counted
  have small := sizeT_lt (gcHeaderBytes + totalSize)
  rw [Spacious] at spacious
  refine ⟨block,allocated,type,length',?_,by omega⟩
  rw [length',Block.stride,type]
  omega

theorem spacious_of_allocateBlock {totalSize length : Nat} {block : Block} {heap' : Heap}
    (allocated : allocateBlock allocate heap underlayingType totalSize length = (.ok block,heap'))
    (covers : arrayBytesSize + block.stride * length ≤ block.room) :
    Spacious underlayingType length (sizeT (gcHeaderBytes + totalSize)) := by
  obtain ⟨room,type⟩ := room_of_allocateBlock allocated
  rw [Block.stride,type] at covers
  rw [Spacious]
  omega

theorem not_soundly_of_grown {length address : Nat} {outcome : Except Fault Block × Heap}
    (sound : CreatedSoundly heap length outcome) (grown : outcome.2 = address :: heap) :
    ∃ block, outcome.1 = .ok block ∧ block.HoldsElements length := by
  obtain ⟨result,after⟩ := outcome
  cases result with
  | error fault =>
    have unchanged : after = heap := sound.2
    rw [unchanged] at grown
    exact absurd grown.symm (List.cons_ne_self address heap)
  | ok block => exact ⟨block,rfl,sound⟩

theorem newArray_sound_iff (elements : List Value) (counted : elements.length < 2 ^ 64) :
    CreatedSoundly heap elements.length (newArray allocate heap underlayingType elements) ↔
      (Creation.newArray underlayingType elements counted).Allowed allocate isReady heap := by
  constructor
  · intro sound address granted
    have grown := allocateBlock_heap underlayingType elements.length granted
    have made : (newArray allocate heap underlayingType elements).2 = address :: heap := by
      rw [newArray,← grown]
      split
      · rename_i same
        rw [same]
      · rename_i same
        rw [same]
    obtain ⟨block,created,holds⟩ := not_soundly_of_grown sound made
    rw [newArray] at created
    split at created
    · cases created
    · rename_i array _ allocated
      obtain ⟨room,type⟩ := setElements_room created
      have covers := holds.covers
      rw [Block.stride,room,type] at covers
      have storable := storable_of_setElements created
      rw [(room_of_allocateBlock allocated).2] at storable
      exact ⟨spacious_of_allocateBlock allocated covers,storable⟩
  · intro allowed
    cases granted : allocate heap (sizeT (gcHeaderBytes + shapeBytes underlayingType elements.length)) with
    | none =>
      rw [newArray]
      simp only [allocateBlock_none underlayingType elements.length granted]
      exact ⟨rfl,rfl⟩
    | some address =>
      obtain ⟨spacious,storable⟩ := allowed address granted
      obtain ⟨block,allocated,type,length,covered⟩ := allocateBlock_covered granted counted spacious
      obtain ⟨after,stored,covered',length'⟩ := setElements_covered covered
        (show 0 + elements.length ≤ _ by omega) (type.symm ▸ storable)
      rw [newArray]
      simp only [allocated,stored]
      exact covered'.holdsElements (length'.trans length)

theorem newArrayDynamic_sound_iff (typeArguments : List TypeSymbol) (length : Int64) :
    CreatedSoundly heap length.toUInt64.toNat
        (newArrayDynamic allocate isReady heap underlayingType typeArguments length) ↔
      (Creation.newArrayDynamic underlayingType typeArguments length).Allowed allocate isReady heap := by
  have total := sizeT_total (underlayingType.resolve typeArguments).info.getInlineSize length.toUInt64.toNat
  rw [newArrayDynamic,Creation.Allowed]
  simp only [allocateArray]
  by_cases ready : isReady (underlayingType.resolve typeArguments) = true
  · rw [if_pos ready,← total]
    constructor
    · intro sound _ address granted
      obtain ⟨block,created,holds⟩ := not_soundly_of_grown sound (allocateBlock_heap underlayingType _ granted)
      exact spacious_of_allocateBlock (Prod.ext created rfl) holds.covers
    · intro allowed
      cases granted : allocate heap (sizeT (gcHeaderBytes + sizeT (arrayBytesSize +
          sizeT ((underlayingType.resolve typeArguments).info.getInlineSize * length.toUInt64.toNat)))) with
      | none =>
        rw [allocateBlock_none underlayingType _ granted]
        exact ⟨rfl,rfl⟩
      | some address =>
        obtain ⟨block,allocated,_,length',covered⟩ := allocateBlock_covered granted (UInt64.toNat_lt _)
          (allowed ready address granted)
        rw [allocated]
        exact covered.holdsElements length'
  · rw [if_neg ready]
    exact ⟨fun _ ready' => absurd ready' ready,fun _ => ⟨rfl,rfl⟩⟩

theorem createRange_sound_iff (lower upper : Int64) (inclusive : Bool) :
    CreatedSoundly heap (rangeCount lower upper inclusive) (createRange allocate heap lower upper inclusive) ↔
      RangeAllowed allocate heap (rangeCount lower upper inclusive) := by
  constructor
  · intro sound
    have counted : rangeCount lower upper inclusive < 2 ^ 63 := by
      by_contra large
      rw [createRange,rangeLength_eq,if_neg large] at sound
      cases sound.1
    refine ⟨counted,?_⟩
    intro address granted
    have grown := createRange_heap counted granted
    cases created : (createRange allocate heap lower upper inclusive).1 with
    | error fault =>
      rw [← Prod.mk.eta (p := createRange allocate heap lower upper inclusive),created] at sound
      rw [sound.2] at grown
      exact absurd grown (Nat.lt_irrefl _)
    | ok block =>
      rw [← Prod.mk.eta (p := createRange allocate heap lower upper inclusive),created] at sound
      have covers := sound.covers
      obtain ⟨room,type⟩ := createRange_room counted created
      have eight : block.stride = 8 := by
        rw [Block.stride,type]
        rfl
      rw [eight] at covers
      have spacious : gcHeaderBytes + arrayBytesSize + 8 * rangeCount lower upper inclusive ≤
          sizeT (gcHeaderBytes + arrayBytesSize + 8 * rangeCount lower upper inclusive) := by omega
      exact ⟨Nat.lt_of_le_of_lt spacious (sizeT_lt _),createRange_ok granted created⟩
  · rintro ⟨counted,allowed⟩
    cases granted : allocate heap (sizeT (gcHeaderBytes + arrayBytesSize + 8 * rangeCount lower upper inclusive)) with
    | none =>
      rw [createRange_refused counted granted]
      exact ⟨rfl,rfl⟩
    | some address =>
      obtain ⟨small,grants⟩ := allowed address granted
      obtain ⟨block,created,holds⟩ := createRange_granted counted granted small grants
      rw [← Prod.mk.eta (p := createRange allocate heap lower upper inclusive),created]
      exact holds.covered.holdsElements holds.length

/-- Arrays are created soundly if the memory that is asked for is spacious. -/
theorem creation_sound_iff (allocate : Allocate) (isReady : TypeSymbol → Bool) (heap : Heap) (creation : Creation) :
    CreatedSoundly heap creation.length (creation.run allocate isReady heap) ↔ creation.Allowed allocate isReady heap := by
  cases creation with
  | newArray underlayingType elements counted => exact newArray_sound_iff elements counted
  | newArrayDynamic underlayingType typeArguments length => exact newArrayDynamic_sound_iff typeArguments length
  | createRange lower upper inclusive => exact createRange_sound_iff lower upper inclusive

def emptyInstances : Creation := .newArray (.type ⟨.byReference,0,0⟩) [.reference 64,.reference 128] (by decide)

/-- There is room for their number only. -/
theorem creation_sound_fails :
    ¬ CreatedSoundly [] emptyInstances.length (emptyInstances.run (fun _ _ => some 256) (fun _ => true) []) := by
  intro sound
  have outcome : emptyInstances.run (fun _ _ => some 256) (fun _ => true) [] = (.error .undefined,[256]) := rfl
  rw [outcome] at sound
  cases sound.1

end Creations

end ShardScript.Arrays
