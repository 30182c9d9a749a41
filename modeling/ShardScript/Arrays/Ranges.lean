import ShardScript.Arrays.Blocks
import ShardScript.Library.Bytes

/-! The allocation of arrays, and the arrays that range expressions create. -/
namespace ShardScript.Arrays
open Library

def gcHeaderBytes : Nat := 32

abbrev Heap := List Nat

/-- `AllocateZeroedBytes`: an address, unless there is no memory of that size. -/
abbrev Allocate := Heap → Nat → Option Nat

theorem header_fits {bytes : Nat} (enough : gcHeaderBytes + arrayBytesSize ≤ bytes) : arrayBytesSize ≤ bytes - gcHeaderBytes :=
  Nat.le_sub_of_add_le' enough

/-- The block has room for what is asked for, which need not be as much as the header and the length take. -/
def allocateBlock (allocate : Allocate) (heap : Heap) (underlayingType : TypeSymbol) (totalSize length : Nat) :
    Except Fault Block × Heap :=
  let bytes := sizeT (gcHeaderBytes + totalSize)
  match allocate heap bytes with
  | none => (.error .thrown,heap)
  | some address =>
      if enough : gcHeaderBytes + arrayBytesSize ≤ bytes then
        (.ok ⟨underlayingType,bytes - gcHeaderBytes,header_fits enough,
          Storage.write (fun _ => 0) ⟨0,littleEndian 8 length⟩⟩,address :: heap)
      else (.error .undefined,address :: heap)

/-- `GarbageCollector::AllocateArray` for elements of a type that is ready. -/
def allocateArray (allocate : Allocate) (heap : Heap) (underlayingType elementType : TypeSymbol) (length : Nat) :
    Except Fault Block × Heap :=
  allocateBlock allocate heap underlayingType
    (sizeT (arrayBytesSize + sizeT (elementType.info.getInlineSize * length))) length

def integerType : TypeSymbol := .type ⟨.byValue,8,8⟩

def fromInteger (allocate : Allocate) (heap : Heap) (value : Int64) : Except Fault Value × Heap :=
  match allocate heap (sizeT (gcHeaderBytes + 8)) with
  | none => (.error .thrown,heap)
  | some address => (.ok (.inline (UInt64.ofNat address) (littleEndian 8 value.toUInt64.toNat)),address :: heap)

def signed (exact : Int) : Except Fault Int := if Fits exact then .ok exact else .error .undefined

def rangeLength (lower upper : Int64) (inclusive : Bool) : Except Fault (Int × Int) := do
  let last : Int := if inclusive then 1 else 0
  let diff ← signed (upper.toInt - lower.toInt)
  let ascending ← signed (diff + last)
  let length ← if diff < 0 then do
      let distance ← signed (-diff)
      signed (distance + last)
    else .ok ascending
  .ok (if length < 0 then 0 else length,if diff < 0 then -1 else 1)

@[grind] def fillRange (allocate : Allocate) (lower step : Int) : Nat → Nat → Block → Heap → Except Fault Block × Heap
  | 0,_,block,heap => (.ok block,heap)
  | left + 1,index,block,heap =>
      match signed (lower + step * index) with
      | .error fault => (.error fault,heap)
      | .ok value =>
        match fromInteger allocate heap (Int64.ofInt value) with
        | (.error fault,heap) => (.error fault,heap)
        | (.ok value,heap) =>
          match block.setElement index value none with
          | .error fault => (.error fault,heap)
          | .ok block => fillRange allocate lower step left (index + 1) block heap

@[grind]
def createRange (allocate : Allocate) (heap : Heap) (lower upper : Int64) (inclusive : Bool) : Except Fault Block × Heap :=
  match rangeLength lower upper inclusive with
  | .error fault => (.error fault,heap)
  | .ok (length,step) =>
    match allocateArray allocate heap integerType integerType length.toNat with
    | (.error fault,heap) => (.error fault,heap)
    | (.ok block,heap) => fillRange allocate lower.toInt step length.toNat 0 block heap

section Range

variable (lower upper : Int64) (inclusive : Bool)

def rangeCount : Nat := (upper.toInt - lower.toInt).natAbs + if inclusive then 1 else 0

def rangeNumber (index : Nat) : Int := lower.toInt + (if upper.toInt < lower.toInt then -1 else 1) * index

structure HoldsRange (block : Block) : Prop where
  covered : block.Covered
  type : block.underlayingType = integerType
  length : block.getArrayLength = rangeCount lower upper inclusive
  elements : ∀ index < rangeCount lower upper inclusive,
    block.element index = littleEndian 8 (Int64.ofInt (rangeNumber lower upper index)).toUInt64.toNat ∧
      Fits (rangeNumber lower upper index)

def CountFits (allocate : Allocate) (heap : Heap) (count : Nat) : Prop :=
  gcHeaderBytes + arrayBytesSize + 8 * count < 2 ^ 64 ∧
    (allocate heap (gcHeaderBytes + arrayBytesSize + 8 * count)).isSome = true

structure RangeExact (allocate : Allocate) (heap : Heap) (outcome : Except Fault Block × Heap) : Prop where
  created : CountFits allocate heap (rangeCount lower upper inclusive) →
    ∃ block, outcome.1 = .ok block ∧ HoldsRange lower upper inclusive block
  failed : ¬ CountFits allocate heap (rangeCount lower upper inclusive) → outcome = (.error .thrown,heap)

def Grants (allocate : Allocate) : Nat → Heap → Prop
  | 0,_ => True
  | count + 1,heap => ∃ address, allocate heap (gcHeaderBytes + 8) = some address ∧ Grants allocate count (address :: heap)

/-- The count is a signed number, and if the memory that is asked for is there, it was that of the array, and there is
memory for its integers. -/
def RangeAllowed (allocate : Allocate) (heap : Heap) (count : Nat) : Prop :=
  count < 2 ^ 63 ∧ ∀ address, allocate heap (sizeT (gcHeaderBytes + arrayBytesSize + 8 * count)) = some address →
    gcHeaderBytes + arrayBytesSize + 8 * count < 2 ^ 64 ∧ Grants allocate count (address :: heap)

variable {lower upper inclusive}

theorem signed_eq {exact' : Int} (fits : Fits exact') : signed exact' = .ok exact' := if_pos fits

theorem signed_bind {Result : Type} (exact' : Int) (next : Int → Except Fault Result) :
    (signed exact' >>= next) = if Fits exact' then next exact' else .error .undefined := by
  rw [signed]
  split_ifs <;> rfl

theorem fits_iff (number : Int) : Fits number ↔ -2 ^ 63 ≤ number ∧ number < 2 ^ 63 := by
  have least : Int64.minValue.toInt = -2 ^ 63 := rfl
  have greatest : Int64.maxValue.toInt = 2 ^ 63 - 1 := rfl
  rw [Fits,least,greatest]
  omega

theorem rangeLength_eq : rangeLength lower upper inclusive =
    if rangeCount lower upper inclusive < 2 ^ 63 then
      .ok ((rangeCount lower upper inclusive : Int),if upper.toInt < lower.toInt then -1 else 1)
    else .error .undefined := by
  have last : (if inclusive then (1 : Int) else 0) = ((if inclusive then 1 else 0 : Nat) : Int) := by
    cases inclusive <;> rfl
  have atMost : (if inclusive then 1 else 0 : Nat) ≤ 1 := by
    cases inclusive <;> decide
  rw [rangeLength,last,rangeCount]
  generalize (if inclusive then 1 else 0 : Nat) = last at atMost
  simp only [signed_bind,fits_iff]
  rcases Int.lt_or_le upper.toInt lower.toInt with descending | ascending
  · have negative : upper.toInt - lower.toInt < 0 := by omega
    rw [if_pos descending,if_pos negative]
    by_cases counted : (upper.toInt - lower.toInt).natAbs + last < 2 ^ 63
    · rw [if_pos counted,if_pos (by omega),if_pos (by omega),if_pos (by omega),if_pos (by omega)]
      change Except.ok (_,_) = Except.ok (_,_)
      rw [if_neg (by omega),if_pos negative]
      congr 2
      omega
    · rw [if_neg counted]
      by_cases fits : -2 ^ 63 ≤ upper.toInt - lower.toInt ∧ upper.toInt - lower.toInt < 2 ^ 63
      · rw [if_pos fits,if_pos (by omega)]
        by_cases negates : -2 ^ 63 ≤ -(upper.toInt - lower.toInt) ∧ -(upper.toInt - lower.toInt) < 2 ^ 63
        · rw [if_pos negates,if_neg (by omega)]
        · rw [if_neg negates]
      · rw [if_neg fits]
  · have positive : ¬ upper.toInt - lower.toInt < 0 := by omega
    rw [if_neg (Int.not_lt.2 ascending),if_neg positive]
    by_cases counted : (upper.toInt - lower.toInt).natAbs + last < 2 ^ 63
    · rw [if_pos counted,if_pos (by omega),if_pos (by omega)]
      change Except.ok (_,_) = Except.ok (_,_)
      rw [if_neg (by omega),if_neg positive]
      congr 2
      omega
    · rw [if_neg counted]
      by_cases fits : -2 ^ 63 ≤ upper.toInt - lower.toInt ∧ upper.toInt - lower.toInt < 2 ^ 63
      · rw [if_pos fits,if_neg (by omega)]
      · rw [if_neg fits]

theorem rangeNumber_fits {index : Nat} (inside : index < rangeCount lower upper inclusive) :
    Fits (rangeNumber lower upper index) := by
  have last : (if inclusive then 1 else 0 : Nat) ≤ 1 := by
    cases inclusive <;> decide
  have lowest := lower.le_toInt
  have highest := lower.toInt_lt
  have lowest' := upper.le_toInt
  have highest' := upper.toInt_lt
  rw [fits_iff,rangeNumber]
  rw [rangeCount] at inside
  split_ifs <;> omega

end Range

section Allocation

variable {allocate : Allocate} {heap : Heap}

theorem sizeT_total (stride length : Nat) :
    sizeT (gcHeaderBytes + sizeT (arrayBytesSize + sizeT (stride * length))) =
      sizeT (gcHeaderBytes + arrayBytesSize + stride * length) := by
  simp only [sizeT,gcHeaderBytes,arrayBytesSize]
  omega

theorem allocateBlock_some (underlayingType : TypeSymbol) {totalSize length address : Nat}
    (granted : allocate heap (sizeT (gcHeaderBytes + totalSize)) = some address)
    (enough : gcHeaderBytes + arrayBytesSize ≤ sizeT (gcHeaderBytes + totalSize)) (counted : length < 2 ^ 64) :
    ∃ block, allocateBlock allocate heap underlayingType totalSize length = (.ok block,address :: heap) ∧
      block.underlayingType = underlayingType ∧ block.room + gcHeaderBytes = sizeT (gcHeaderBytes + totalSize) ∧
      block.getArrayLength = length := by
  rw [allocateBlock]
  simp only [granted,dif_pos enough]
  refine ⟨_,rfl,rfl,Nat.sub_add_cancel (Nat.le_trans (Nat.le_add_right _ _) enough),?_⟩
  have read := Storage.read_write (fun _ => (0 : UInt8)) ⟨0,littleEndian 8 length⟩
  rw [length_littleEndian] at read
  rw [Block.getArrayLength]
  change ofLittleEndian (Storage.read _ 0 8) = _
  rw [read]
  exact ofLittleEndian_littleEndian_of_lt counted

theorem allocateBlock_none (underlayingType : TypeSymbol) {totalSize : Nat} (length : Nat)
    (refused : allocate heap (sizeT (gcHeaderBytes + totalSize)) = none) :
    allocateBlock allocate heap underlayingType totalSize length = (.error .thrown,heap) := by
  rw [allocateBlock]
  simp only [refused]

variable {heap' : Heap}

theorem room_of_allocateBlock {underlayingType : TypeSymbol} {totalSize length : Nat} {block : Block}
    (allocated : allocateBlock allocate heap underlayingType totalSize length = (.ok block,heap')) :
    block.room + gcHeaderBytes = sizeT (gcHeaderBytes + totalSize) ∧ block.underlayingType = underlayingType := by
  rw [allocateBlock] at allocated
  split at allocated
  · cases allocated
  · split at allocated
    · case isTrue enough =>
      cases allocated
      exact ⟨Nat.sub_add_cancel (Nat.le_trans (Nat.le_add_right _ _) enough),rfl⟩
    · cases allocated

theorem allocateBlock_heap (underlayingType : TypeSymbol) {totalSize address : Nat} (length : Nat)
    (granted : allocate heap (sizeT (gcHeaderBytes + totalSize)) = some address) :
    (allocateBlock allocate heap underlayingType totalSize length).2 = address :: heap := by
  rw [allocateBlock]
  simp only [granted]
  split <;> rfl

theorem fromInteger_heap (allocate : Allocate) (heap : Heap) (value : Int64) : heap.length ≤ (fromInteger allocate heap value).2.length := by
  rw [fromInteger]
  split
  · exact Nat.le_refl _
  · exact Nat.le_succ _

variable {left index : Nat}

theorem fillRange_room {lower step : Int} {block after : Block} {heap heap' : Heap}
    (filled : fillRange allocate lower step left index block heap = (.ok after,heap')) :
    after.room = block.room ∧ after.underlayingType = block.underlayingType := by
  induction left generalizing index block heap with
  | zero =>
    cases filled
    exact ⟨rfl,rfl⟩
  | succ left ih =>
    rw [fillRange] at filled
    split at filled
    · cases filled
    · split at filled
      · cases filled
      · split at filled
        · cases filled
        · rename_i same
          obtain ⟨room,type⟩ := setElement_room same
          obtain ⟨room',type'⟩ := ih filled
          exact ⟨room'.trans room,type'.trans type⟩

theorem fillRange_heap (lower step : Int) (left index : Nat) (block : Block) (heap : Heap) :
    heap.length ≤ (fillRange allocate lower step left index block heap).2.length := by
  induction left generalizing index block heap with
  | zero => exact Nat.le_refl _
  | succ left ih =>
    rw [fillRange]
    split
    · exact Nat.le_refl _
    · rename_i value _
      have grown := fromInteger_heap allocate heap (Int64.ofInt value)
      split
      · rename_i same
        rw [same] at grown
        exact grown
      · rename_i same
        rw [same] at grown
        split
        · exact grown
        · exact Nat.le_trans grown (ih ..)

theorem fromInteger_ok {value : Int64} {instance' : Value}
    (done : fromInteger allocate heap value = (.ok instance',heap')) : ∃ address,
      allocate heap (gcHeaderBytes + 8) = some address ∧ heap' = address :: heap ∧
      instance' = .inline (UInt64.ofNat address) (littleEndian 8 value.toUInt64.toNat) := by
  rw [fromInteger] at done
  cases granted : allocate heap (gcHeaderBytes + 8) with
  | none =>
    rw [show sizeT (gcHeaderBytes + 8) = gcHeaderBytes + 8 from rfl,granted] at done
    cases done
  | some address =>
    rw [show sizeT (gcHeaderBytes + 8) = gcHeaderBytes + 8 from rfl,granted] at done
    cases done
    exact ⟨address,rfl,rfl,rfl⟩

theorem grants_of_fillRange {lower step : Int} {block after : Block}
    (filled : fillRange allocate lower step left index block heap = (.ok after,heap')) : Grants allocate left heap := by
  induction left generalizing index block heap with
  | zero => trivial
  | succ left ih =>
    rw [fillRange] at filled
    split at filled
    · cases filled
    · split at filled
      · cases filled
      · rename_i same
        obtain ⟨address,granted,rfl,_⟩ := fromInteger_ok same
        split at filled
        · cases filled
        · exact ⟨address,granted,ih filled⟩

theorem storable_integer (address : UInt64) (number : Nat) :
    Block.Storable integerType.info (.inline address (littleEndian 8 number)) := by
  right
  refine ⟨rfl,by decide,?_⟩
  rw [Value.bytes,length_littleEndian]
  decide

theorem image_integer (address : UInt64) (number : Nat) :
    Block.image integerType.info (.inline address (littleEndian 8 number)) = littleEndian 8 number := by
  apply List.take_of_length_le
  rw [Value.bytes,length_littleEndian]
  decide

structure Filled (lower step : Int) (left index : Nat) (block after : Block) : Prop where
  covered : after.Covered
  type : after.underlayingType = block.underlayingType
  length : after.getArrayLength = block.getArrayLength
  filled : ∀ place, index ≤ place → place < index + left →
    after.element place = littleEndian 8 (Int64.ofInt (lower + step * place)).toUInt64.toNat
  before : ∀ place < index, after.element place = block.element place

theorem fillRange_filled {lower step : Int} {block : Block} (covered : block.Covered)
    (type : block.underlayingType = integerType) (inside : index + left ≤ block.getArrayLength)
    (fits : ∀ place, index ≤ place → place < index + left → Fits (lower + step * place)) (grants : Grants allocate left heap) :
    ∃ after heap', fillRange allocate lower step left index block heap = (.ok after,heap') ∧
      Filled lower step left index block after := by
  induction left generalizing index block heap with
  | zero =>
    refine ⟨block,heap,rfl,covered,rfl,rfl,?_,fun _ _ => rfl⟩
    intro place least below
    omega
  | succ left ih =>
    obtain ⟨address,granted,grants⟩ := grants
    have number := signed_eq (fits index (Nat.le_refl _) (by omega))
    let value : Value := .inline (UInt64.ofNat address)
      (littleEndian 8 (Int64.ofInt (lower + step * index)).toUInt64.toNat)
    have allocated : fromInteger allocate heap (Int64.ofInt (lower + step * index)) = (.ok value,address :: heap) := by
      rw [fromInteger,show sizeT (gcHeaderBytes + 8) = gcHeaderBytes + 8 from rfl,granted]
    have storable : Block.Storable block.underlayingType.info value := type ▸ storable_integer ..
    have stored := covered.setElement_eq (show index < _ by omega) storable
    have sized := length_image storable
    have image : Block.image block.underlayingType.info value =
        littleEndian 8 (Int64.ofInt (lower + step * index)).toUInt64.toNat := type ▸ image_integer ..
    let cells := Block.image block.underlayingType.info value
    have same := getArrayLength_store block index cells
    obtain ⟨after,heap',filled,rest⟩ := @ih (address :: heap) (index + 1) (block.store index cells) (covered.store index) type (by omega)
      (fun place least below => fits place (by omega) (by omega)) grants
    refine ⟨after,heap',?_,rest.covered,rest.type,?_,?_,?_⟩
    · rw [fillRange]
      simp only [number,allocated,stored]
      exact filled
    · exact rest.length.trans same
    · intro place least below
      by_cases same : place = index
      · subst same
        rw [rest.before place (by omega),element_store place sized,image]
      · exact rest.filled place (by omega) (by omega)
    · intro place below
      rw [rest.before place (by omega),element_store_ne index sized (by omega)]

end Allocation

section Exact

variable {lower upper : Int64} {inclusive : Bool} {allocate : Allocate} {heap : Heap}

theorem integer_total (count : Nat) :
    sizeT (gcHeaderBytes + sizeT (arrayBytesSize + sizeT (integerType.info.getInlineSize * count))) =
      sizeT (gcHeaderBytes + arrayBytesSize + 8 * count) :=
  sizeT_total 8 count

theorem createRange_refused (counted : rangeCount lower upper inclusive < 2 ^ 63)
    (refused : allocate heap (sizeT (gcHeaderBytes + arrayBytesSize + 8 * rangeCount lower upper inclusive)) = none) :
    createRange allocate heap lower upper inclusive = (.error .thrown,heap) := by
  have none := allocateBlock_none integerType (rangeCount lower upper inclusive)
    ((congrArg _ (integer_total _)).trans refused)
  rw [createRange,rangeLength_eq,if_pos counted]
  simp only [Int.toNat_natCast,allocateArray,none]

variable {address : Nat}

theorem createRange_granted (counted : rangeCount lower upper inclusive < 2 ^ 63)
    (granted : allocate heap (sizeT (gcHeaderBytes + arrayBytesSize + 8 * rangeCount lower upper inclusive)) = some address)
    (small : gcHeaderBytes + arrayBytesSize + 8 * rangeCount lower upper inclusive < 2 ^ 64)
    (grants : Grants allocate (rangeCount lower upper inclusive) (address :: heap)) :
    ∃ block, (createRange allocate heap lower upper inclusive).1 = .ok block ∧ HoldsRange lower upper inclusive block := by
  have bytes := (integer_total (rangeCount lower upper inclusive)).trans (sizeT_of_lt small)
  obtain ⟨block,allocated,type,room,length⟩ := allocateBlock_some integerType
    ((congrArg _ (integer_total _)).trans granted) (by rw [bytes]; omega) (show rangeCount lower upper inclusive < _ by omega)
  rw [bytes] at room
  have eight : block.stride = 8 := by
    rw [Block.stride,type]
    rfl
  have covered : block.Covered := by
    constructor
    · rw [eight,length]
      omega
    · omega
  have fits : ∀ place, 0 ≤ place → place < 0 + rangeCount lower upper inclusive →
      Fits (lower.toInt + (if upper.toInt < lower.toInt then -1 else 1) * place) := by
    intro place _ inside
    rw [Nat.zero_add] at inside
    exact rangeNumber_fits inside
  obtain ⟨after,heap',filled,rest⟩ := fillRange_filled covered type (by omega) fits grants
  refine ⟨after,?_,rest.covered,rest.type.trans type,rest.length.trans length,?_⟩
  · rw [createRange,rangeLength_eq,if_pos counted]
    simp only [Int.toNat_natCast,allocateArray,allocated,filled]
  · intro index inside
    have number := rest.filled index (Nat.zero_le _) ((Nat.zero_add _).symm ▸ inside)
    exact ⟨number,rangeNumber_fits inside⟩

theorem createRange_ok {block : Block}
    (granted : allocate heap (sizeT (gcHeaderBytes + arrayBytesSize + 8 * rangeCount lower upper inclusive)) = some address)
    (created : (createRange allocate heap lower upper inclusive).1 = .ok block) :
    Grants allocate (rangeCount lower upper inclusive) (address :: heap) := by
  have grown := allocateBlock_heap integerType (rangeCount lower upper inclusive)
    ((congrArg _ (integer_total _)).trans granted)
  rw [createRange,rangeLength_eq] at created
  by_cases counted : rangeCount lower upper inclusive < 2 ^ 63
  · rw [if_pos counted] at created
    simp only [Int.toNat_natCast,allocateArray] at created
    split at created
    · cases created
    · rename_i array after same
      rw [same] at grown
      subst grown
      exact grants_of_fillRange (Prod.ext created rfl)
  · rw [if_neg counted] at created
    cases created

theorem createRange_room {block : Block} (counted : rangeCount lower upper inclusive < 2 ^ 63)
    (created : (createRange allocate heap lower upper inclusive).1 = .ok block) :
    block.room + gcHeaderBytes = sizeT (gcHeaderBytes + arrayBytesSize + 8 * rangeCount lower upper inclusive) ∧
      block.underlayingType = integerType := by
  rw [createRange,rangeLength_eq,if_pos counted] at created
  simp only [Int.toNat_natCast,allocateArray] at created
  split at created
  · cases created
  · rename_i array after same
    obtain ⟨room,type⟩ := fillRange_room (Prod.ext created rfl)
    obtain ⟨room',type'⟩ := room_of_allocateBlock same
    rw [integer_total] at room'
    exact ⟨room ▸ room',type.trans type'⟩

theorem createRange_heap (counted : rangeCount lower upper inclusive < 2 ^ 63)
    (granted : allocate heap (sizeT (gcHeaderBytes + arrayBytesSize + 8 * rangeCount lower upper inclusive)) = some address) :
    heap.length < (createRange allocate heap lower upper inclusive).2.length := by
  have grown := allocateBlock_heap integerType (rangeCount lower upper inclusive)
    ((congrArg _ (integer_total _)).trans granted)
  rw [createRange,rangeLength_eq,if_pos counted]
  simp only [Int.toNat_natCast,allocateArray]
  split
  · rename_i same
    rw [same] at grown
    subst grown
    exact Nat.lt_succ_self _
  · rename_i same
    rw [same] at grown
    subst grown
    exact Nat.lt_of_lt_of_le (Nat.lt_succ_self heap.length) (fillRange_heap _ _ _ _ _ (address :: heap))

/-- A range expression makes the array of its numbers or nothing, in just these cases. -/
theorem createRange_exact_iff (lower upper : Int64) (inclusive : Bool) (allocate : Allocate) (heap : Heap) :
    RangeExact lower upper inclusive allocate heap (createRange allocate heap lower upper inclusive) ↔
      RangeAllowed allocate heap (rangeCount lower upper inclusive) := by
  constructor
  · intro exact'
    have counted : rangeCount lower upper inclusive < 2 ^ 63 := by
      by_contra large
      have outcome : createRange allocate heap lower upper inclusive = (.error .undefined,heap) := by
        rw [createRange,rangeLength_eq,if_neg large]
      have failed := exact'.failed (fun fits => large (by have small := fits.1; omega))
      rw [outcome] at failed
      cases failed
    refine ⟨counted,?_⟩
    intro address granted
    by_cases fits : CountFits allocate heap (rangeCount lower upper inclusive)
    · obtain ⟨block,created,_⟩ := exact'.created fits
      exact ⟨fits.1,createRange_ok granted created⟩
    · have grown := createRange_heap counted granted
      rw [exact'.failed fits] at grown
      exact absurd grown (Nat.lt_irrefl _)
  · rintro ⟨counted,allowed⟩
    constructor
    · rintro ⟨small,available⟩
      obtain ⟨address,granted⟩ := Option.isSome_iff_exists.1 available
      rw [← sizeT_of_lt small] at granted
      exact createRange_granted counted granted small (allowed address granted).2
    · intro unfit
      apply createRange_refused counted
      by_contra other
      obtain ⟨address,granted⟩ := Option.ne_none_iff_exists'.1 other
      have small := (allowed address granted).1
      apply unfit
      refine ⟨small,?_⟩
      rw [← sizeT_of_lt small,granted]
      rfl

/-- From the least number to the greatest, the difference is none of the numbers. -/
theorem createRange_exact_fails : ¬ RangeExact Int64.minValue Int64.maxValue false (fun _ _ => none) []
    (createRange (fun _ _ => none) [] Int64.minValue Int64.maxValue false) := by
  intro exact'
  have failed := exact'.failed (fun fits => Bool.false_ne_true fits.2)
  have undefined : createRange (fun _ _ => none) [] Int64.minValue Int64.maxValue false = (.error .undefined,[]) := rfl
  rw [undefined] at failed
  cases failed

end Exact

end ShardScript.Arrays
