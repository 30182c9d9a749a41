import ShardScript.Arrays.Blocks
import Mathlib.Logic.Function.Basic

/-! Accesses to the elements of an array, by the instructions and by the callbacks of its indexer. -/
namespace ShardScript.Arrays
open Library

def anyType : TypeSymbol := .type ⟨.byValue,0,0⟩

/-- The places of the shapes in the cache. A shape knows its type, so only that of `any` is at its place. -/
structure Shapes where
  getOrCreateShape : TypeSymbol → Nat
  any : ∀ type, getOrCreateShape type = getOrCreateShape anyType → type.info = anyType.info

inductive Path where
  | instruction
  | native (typeArguments : List TypeSymbol)

inductive Access where
  | load (index : Int64)
  | store (index : Int64) (value : Value)

def Access.index : Access → Int64
  | load index | store index _ => index

inductive Outcome where
  | raised
  | undefined
  | loaded (shape : Nat) (element : Element)
  | stored
  deriving DecidableEq

def Outcome.failed : Fault → Outcome
  | .thrown => raised
  | .undefined => undefined

section Accesses

variable (shapes : Shapes) (block : Block)

/-- `LOADARRAYELEMENT`. The element that is read without a frame has no shape, and is asked for its type. -/
def loadArrayElement (index : Int64) : Outcome :=
  if block.acceptsIndex index then
    match block.getElement index.toUInt64.toNat none with
    | .error fault => .failed fault
    | .ok _ => .undefined
  else .raised

def storeArrayElement (index : Int64) (value : Value) : Except Fault Block :=
  if block.acceptsIndex index then block.setElement index.toUInt64.toNat value none else .error .thrown

/-- `primitive_array_GetElement`, which returns `any`. An index is taken as it is. -/
def primitiveArrayGetElement (typeArguments : List TypeSymbol) (index : Int64) : Outcome :=
  match block.getElement index.toUInt64.toNat (some typeArguments) with
  | .error fault => .failed fault
  | .ok element =>
      let shape := shapes.getOrCreateShape (block.underlayingType.resolve typeArguments)
      if shapes.getOrCreateShape anyType = shape then .loaded shape element else .raised

def primitiveArraySetElement (typeArguments : List TypeSymbol) (index : Int64) (value : Value) : Except Fault Block :=
  block.setElement index.toUInt64.toNat value (some typeArguments)

def performStore : Path → Int64 → Value → Except Fault Block
  | .instruction => storeArrayElement block
  | .native typeArguments => primitiveArraySetElement block typeArguments

def perform : Path → Access → Outcome × Block
  | .instruction,.load index => (loadArrayElement block index,block)
  | .native typeArguments,.load index => (primitiveArrayGetElement shapes block typeArguments index,block)
  | path,.store index value =>
      match performStore block path index value with
      | .error fault => (.failed fault,block)
      | .ok after => (.stored,after)

end Accesses

abbrev Contents := Nat → Bytes

def Contents.after (contents : Contents) (info : TypeInfo) : Access → Outcome → Contents
  | .store index value,.stored => Function.update contents index.toUInt64.toNat (Block.image info value)
  | _,_ => contents

namespace Block

variable (block : Block)

def payload (info : TypeInfo) (index : Nat) : Bytes :=
  block.memory.read (arrayBytesSize + info.getInlineSize * index) info.getInlineSize

def shown (info : TypeInfo) : Element → Bytes
  | .stored address => littleEndian 8 address.toNat
  | .place offset => block.memory.read offset info.getInlineSize

def Represents (info : TypeInfo) (contents : Contents) : Prop :=
  ∀ index < block.getArrayLength, block.payload info index = contents index

end Block

section Right

variable (shapes : Shapes) (typeArguments : List TypeSymbol)

/-- What an access to an element has to do, where the type arguments are those of the running frame. -/
def AccessRight (block : Block) (contents : Contents) (access : Access) (outcome : Outcome) (after : Block) : Prop :=
  let elementType := block.underlayingType.resolve typeArguments
  match access with
  | .load index => ∃ element, outcome = .loaded (shapes.getOrCreateShape elementType) element ∧
      block.shown elementType.info element = contents index.toUInt64.toNat ∧ after = block
  | .store _ value => outcome = .stored ∧ after.underlayingType = block.underlayingType ∧
        after.getArrayLength = block.getArrayLength ∨
      ¬ Block.Storable elementType.info value ∧ outcome = .raised ∧ after = block

def RaisesUnread (block : Block) (path : Path) (access : Access) : Prop :=
  ∀ other : Block, other.underlayingType = block.underlayingType → other.getArrayLength = block.getArrayLength →
    perform shapes other path access = (.raised,other)

def RunRight : Block → Contents → List (Path × Access) → Prop
  | _,_,[] => True
  | block,contents,(path,access) :: accesses =>
      let performed := perform shapes block path access
      let info := (block.underlayingType.resolve typeArguments).info
      let contents' := contents.after info access performed.1
      (if block.acceptsIndex access.index then
          AccessRight shapes typeArguments block contents access performed.1 performed.2
        else RaisesUnread shapes block path access) ∧
        performed.2.Represents info contents' ∧ RunRight performed.2 contents' accesses

/-- In a frame the elements have the type that they have without one: only a type parameter may stand for another, and
only for a type that is by reference. -/
def Block.Agrees (block : Block) (typeArguments : List TypeSymbol) : Prop :=
  match block.underlayingType with
  | .type _ => True
  | .typeParameter _ => (block.underlayingType.resolve typeArguments).info.inlining = .byReference

def Path.Agrees (block : Block) : Path → Prop
  | instruction => True
  | native typeArguments => block.Agrees typeArguments

def Value.Fits (info : TypeInfo) (value : Value) : Prop :=
  info.inlining = .byReference ∨ value.isNullInstance = true ∨ info.memoryBytesSize.toNat ≤ value.bytes.length

def Access.LoadsInside (block : Block) : Access → Prop
  | load index => block.acceptsIndex index = true
  | store _ _ => False

def Access.Fits (block : Block) : Access → Prop
  | load _ => True
  | store _ value => value.Fits block.underlayingType.info

/-- The array covers as many elements as it says, its type is that of its elements, and no element is read. -/
structure AccessesAllowed (block : Block) (accesses : List (Path × Access)) : Prop where
  covered : block.Covered
  counted : block.getArrayLength < 2 ^ 63
  agrees : block.Agrees typeArguments
  allowed : ∀ path access, (path,access) ∈ accesses →
    path.Agrees block ∧ ¬ access.LoadsInside block ∧ access.Fits block

end Right

section Agreement

variable {block : Block} {typeArguments : List TypeSymbol}

theorem Block.Agrees.info_cases (agrees : block.Agrees typeArguments) :
    (block.underlayingType.resolve typeArguments).info = block.underlayingType.info ∨
      (block.underlayingType.resolve typeArguments).info.inlining = .byReference ∧
        block.underlayingType.info.inlining = .byReference := by
  rw [Block.Agrees] at agrees
  cases type : block.underlayingType with
  | type info => exact .inl rfl
  | typeParameter index =>
    rw [type] at agrees
    exact .inr ⟨agrees,rfl⟩

theorem getInlineSize_reference {info : TypeInfo} (reference : info.inlining = .byReference) : info.getInlineSize = 8 :=
  if_pos reference

theorem Block.Agrees.stride_eq (agrees : block.Agrees typeArguments) :
    (block.underlayingType.resolve typeArguments).info.getInlineSize = block.stride := by
  rcases agrees.info_cases with same | ⟨resolved,reference⟩
  · rw [same,Block.stride]
  · rw [getInlineSize_reference resolved,Block.stride,getInlineSize_reference reference]

theorem Block.Agrees.image_eq (agrees : block.Agrees typeArguments) (value : Value) :
    Block.image (block.underlayingType.resolve typeArguments).info value = Block.image block.underlayingType.info value := by
  rcases agrees.info_cases with same | ⟨resolved,reference⟩
  · rw [same]
  · rw [Block.image,Block.image,if_pos resolved,if_pos reference]

theorem Block.Agrees.storable_iff (agrees : block.Agrees typeArguments) (value : Value) :
    Block.Storable (block.underlayingType.resolve typeArguments).info value ↔
      Block.Storable block.underlayingType.info value := by
  rcases agrees.info_cases with same | ⟨resolved,reference⟩
  · rw [same]
  · exact ⟨fun _ => .inl reference,fun _ => .inl resolved⟩

theorem Block.Agrees.getElement_eq (agrees : block.Agrees typeArguments) (index : Nat) :
    block.getElement index (some typeArguments) = block.getElement index none := by
  have cases' := agrees.info_cases
  change (block.elementType (some typeArguments) = block.elementType none ∨ _ ∧
    (block.elementType none).inlining = _) at cases'
  rw [Block.getElement,Block.getElement]
  generalize block.elementType none = info at cases'
  rcases cases' with same | ⟨resolved,reference⟩
  · rw [same]
  · change (block.elementType (some typeArguments)).inlining = _ at resolved
    generalize block.elementType (some typeArguments) = resolvedInfo at resolved
    simp only [if_pos resolved,if_pos reference,Block.elementOffset,getInlineSize_reference resolved,
      getInlineSize_reference reference]

theorem Block.Agrees.setElement_eq (agrees : block.Agrees typeArguments) (index : Nat) (value : Value) :
    block.setElement index value (some typeArguments) = block.setElement index value none := by
  have cases' := agrees.info_cases
  change (block.elementType (some typeArguments) = block.elementType none ∨ _ ∧
    (block.elementType none).inlining = _) at cases'
  rw [Block.setElement,Block.setElement,agrees.getElement_eq]
  generalize block.elementType none = info at cases'
  rcases cases' with same | ⟨resolved,reference⟩
  · rw [same]
  · change (block.elementType (some typeArguments)).inlining = _ at resolved
    generalize block.elementType (some typeArguments) = resolvedInfo at resolved
    simp only [if_pos resolved,if_pos reference,Block.elementOffset,getInlineSize_reference resolved,
      getInlineSize_reference reference]

theorem Block.Agrees.payload_eq (agrees : block.Agrees typeArguments) (index : Nat) :
    block.payload (block.underlayingType.resolve typeArguments).info index = block.element index := by
  rw [Block.payload,agrees.stride_eq]
  rfl

end Agreement

section Steps

variable {shapes : Shapes} {block : Block} {typeArguments : List TypeSymbol} {index : Int64}

theorem le_of_not_acceptsIndex (counted : block.getArrayLength < 2 ^ 63)
    (outside : ¬ block.acceptsIndex index = true) : block.getArrayLength ≤ index.toUInt64.toNat := by
  simp only [Block.acceptsIndex,Bool.not_eq_true',Bool.not_eq_false,Bool.or_eq_true,decide_eq_true_eq] at outside
  rcases outside with negative | behind
  · have signed := Int64.lt_iff_toInt_lt.1 negative
    rw [← Int64.toInt_toBitVec,BitVec.toInt_eq_toNat_cond] at signed
    change _ < 0 at signed
    have same : index.toBitVec.toNat = index.toUInt64.toNat := rfl
    rw [same] at signed
    split_ifs at signed <;> omega
  · exact behind

theorem raisesUnread (shapes : Shapes) (counted : block.getArrayLength < 2 ^ 63) (path : Path) {access : Access}
    (outside : ¬ block.acceptsIndex access.index = true) : RaisesUnread shapes block path access := by
  intro other _ sized
  have behind := le_of_not_acceptsIndex counted outside
  rw [← sized] at behind
  have refused : ¬ other.acceptsIndex access.index = true := by
    rw [Block.acceptsIndex,sized]
    exact outside
  cases access with
  | load index =>
    rw [Access.index] at behind refused
    cases path with
    | instruction => exact congrArg (·,other) (if_neg refused)
    | native typeArguments =>
      rw [perform,primitiveArrayGetElement,Block.getElement,if_pos behind]
      rfl
  | store index value =>
    rw [Access.index] at behind refused
    rw [perform]
    cases path with
    | instruction =>
      rw [performStore,storeArrayElement,if_neg refused]
      rfl
    | native typeArguments =>
      rw [performStore,primitiveArraySetElement,Block.setElement,if_pos behind]
      rfl

theorem performStore_eq {path : Path} (agrees : path.Agrees block) (value : Value)
    (inside : block.acceptsIndex index = true) :
    performStore block path index value = block.setElement index.toUInt64.toNat value none := by
  cases path with
  | instruction => rw [performStore,storeArrayElement,if_pos inside]
  | native typeArguments =>
    rw [performStore,primitiveArraySetElement]
    exact Block.Agrees.setElement_eq agrees _ value

variable {value : Value}

theorem setElement_raises {index : Nat} (inside : index < block.getArrayLength)
    (fits : value.Fits block.underlayingType.info) (unstorable : ¬ Block.Storable block.underlayingType.info value) :
    block.setElement index value none = .error .thrown := by
  rw [Block.setElement,if_neg (Nat.not_le.2 inside)]
  rcases fits with reference | null | enough
  · exact absurd (.inl reference) unstorable
  · rw [Block.elementType]
    simp only [null]
    exact if_neg fun reference => unstorable (.inl reference)
  · by_cases null : value.isNullInstance = true
    · rw [Block.elementType]
      simp only [null]
      exact if_neg fun reference => unstorable (.inl reference)
    · have empty : block.underlayingType.info.memoryBytesSize = 0 := by
        by_contra sized
        exact unstorable (.inr ⟨by simpa using null,sized,enough⟩)
      rw [Block.elementType]
      simp only [empty,Block.writeMemory,Block.checkMemory,null]
      exact if_neg fun reference => unstorable (.inl reference)

theorem represents_store (agrees : block.Agrees typeArguments) {contents : Contents}
    (represents : block.Represents (block.underlayingType.resolve typeArguments).info contents) (index : Nat)
    (storable : Block.Storable block.underlayingType.info value) :
    (block.store index (Block.image block.underlayingType.info value)).Represents
      (block.underlayingType.resolve typeArguments).info
      (Function.update contents index (Block.image (block.underlayingType.resolve typeArguments).info value)) := by
  have sized := length_image storable
  have agrees' : (block.store index (Block.image block.underlayingType.info value)).Agrees typeArguments := agrees
  intro other inside
  rw [agrees.image_eq]
  refine (agrees'.payload_eq other).trans ?_
  by_cases same : other = index
  · subst same
    rw [Function.update_self,element_store other sized]
  · rw [Function.update_of_ne same,element_store_ne index sized same,← agrees.payload_eq]
    rw [getArrayLength_store] at inside
    exact represents other inside

theorem primitiveArrayGetElement_ne (index : Int64) (shape : Nat) (element : Element) :
    primitiveArrayGetElement shapes block typeArguments index ≠ .loaded shape element := by
  intro loaded
  rw [primitiveArrayGetElement] at loaded
  split at loaded
  · rename_i fault _
    cases fault <;> cases loaded
  · rename_i found got
    by_cases same : shapes.getOrCreateShape anyType = shapes.getOrCreateShape (block.underlayingType.resolve typeArguments)
    · have none := shapes.any _ same.symm
      have info : block.elementType (some typeArguments) = anyType.info := none
      rw [Block.getElement,info] at got
      split at got
      · cases got
      · cases got
    · have raised := (if_neg same).symm.trans loaded
      cases raised

theorem load_wrong {contents : Contents} {path : Path} (inside : block.acceptsIndex index = true) :
    ¬ AccessRight shapes typeArguments block contents (.load index) (perform shapes block path (.load index)).1
      (perform shapes block path (.load index)).2 := by
  rintro ⟨element,loaded,_⟩
  cases path with
  | instruction =>
    rw [perform,loadArrayElement,if_pos inside] at loaded
    split at loaded
    · rename_i fault _
      cases fault <;> cases loaded
    · cases loaded
  | native typeArguments' =>
    dsimp only [perform] at loaded
    exact primitiveArrayGetElement_ne index _ element loaded

theorem perform_store (shapes : Shapes) {path : Path} (covered : block.Covered)
    (agrees : path.Agrees block) (inside : block.acceptsIndex index = true)
    (fits : value.Fits block.underlayingType.info) :
    perform shapes block path (.store index value) =
        (.stored,block.store index.toUInt64.toNat (Block.image block.underlayingType.info value)) ∧
        Block.Storable block.underlayingType.info value ∨
      perform shapes block path (.store index value) = (.raised,block) ∧
        ¬ Block.Storable block.underlayingType.info value := by
  have below := block.lt_of_acceptsIndex inside
  rw [perform,performStore_eq agrees value inside]
  by_cases storable : Block.Storable block.underlayingType.info value
  · rw [covered.setElement_eq below storable]
    exact .inl ⟨rfl,storable⟩
  · rw [setElement_raises below fits storable]
    exact .inr ⟨rfl,storable⟩

end Steps

section Runs

variable {shapes : Shapes} {typeArguments : List TypeSymbol} {accesses : List (Path × Access)}

theorem AccessesAllowed.of_same {block after : Block} {first : Path × Access}
    (allowed : AccessesAllowed typeArguments block (first :: accesses)) (covered : after.Covered)
    (type : after.underlayingType = block.underlayingType) (length : after.getArrayLength = block.getArrayLength) :
    AccessesAllowed typeArguments after accesses where
  covered := covered
  counted := by
    rw [length]
    exact allowed.counted
  agrees := by
    have agrees := allowed.agrees
    rw [Block.Agrees] at agrees ⊢
    rw [type]
    exact agrees
  allowed := by
    intro path access member
    obtain ⟨agrees,outside,fits⟩ := allowed.allowed path access (List.mem_cons_of_mem _ member)
    refine ⟨?_,?_,?_⟩
    · cases path with
      | instruction => trivial
      | native typeArguments' =>
        rw [Path.Agrees,Block.Agrees] at agrees ⊢
        rw [type]
        exact agrees
    · cases access with
      | load index =>
        rw [Access.LoadsInside,Block.acceptsIndex] at outside ⊢
        rw [length]
        exact outside
      | store index value => exact outside
    · cases access with
      | load index => trivial
      | store index value =>
        rw [Access.Fits] at fits ⊢
        rw [type]
        exact fits

variable {contents : Contents}

theorem runRight_of_allowed {block : Block}
    (allowed : AccessesAllowed typeArguments block accesses)
    (represents : block.Represents (block.underlayingType.resolve typeArguments).info contents) :
    RunRight shapes typeArguments block contents accesses := by
  induction accesses generalizing block contents with
  | nil => trivial
  | cons first accesses ih =>
    obtain ⟨path,access⟩ := first
    obtain ⟨agrees,unloaded,fits⟩ := allowed.allowed path access List.mem_cons_self
    rw [RunRight]
    by_cases inside : block.acceptsIndex access.index = true
    · rw [if_pos inside]
      cases access with
      | load index => exact absurd inside unloaded
      | store index value =>
        rw [Access.index] at inside
        rcases perform_store shapes allowed.covered agrees inside fits with
          ⟨performed,storable⟩ | ⟨performed,unstorable⟩
        · rw [performed]
          have represents' := represents_store allowed.agrees represents index.toUInt64.toNat storable
          refine ⟨.inl ⟨rfl,rfl,getArrayLength_store ..⟩,represents',?_⟩
          exact ih (allowed.of_same (allowed.covered.store _) rfl (getArrayLength_store ..)) represents'
        · rw [performed]
          refine ⟨.inr ⟨?_,rfl,rfl⟩,represents,?_⟩
          · rw [allowed.agrees.storable_iff]
            exact unstorable
          · exact ih (allowed.of_same allowed.covered rfl rfl) represents
    · have unread := raisesUnread shapes allowed.counted path inside
      rw [if_neg inside,unread block rfl rfl]
      have same : contents.after (block.underlayingType.resolve typeArguments).info access .raised = contents := by
        cases access <;> rfl
      rw [same]
      exact ⟨unread,represents,ih (allowed.of_same allowed.covered rfl rfl) represents⟩

theorem RunRight.length {block : Block} {path : Path} {access : Access}
    (right : RunRight shapes typeArguments block contents ((path,access) :: accesses)) :
    (perform shapes block path access).2.getArrayLength = block.getArrayLength := by
  rw [RunRight] at right
  have step := right.1
  by_cases inside : block.acceptsIndex access.index = true
  · rw [if_pos inside] at step
    cases access with
    | load index =>
      obtain ⟨_,_,_,same⟩ := step
      rw [same]
    | store index value =>
      rcases step with ⟨_,_,same⟩ | ⟨_,_,same⟩
      · exact same
      · rw [same]
  · rw [if_neg inside] at step
    rw [step block rfl rfl]

theorem not_loadsInside_of_runRight {block : Block}
    (right : RunRight shapes typeArguments block contents accesses) :
    ∀ path access, (path,access) ∈ accesses → ¬ access.LoadsInside block := by
  induction accesses generalizing block contents with
  | nil =>
    intro path access member
    cases member
  | cons first accesses ih =>
    obtain ⟨path',first⟩ := first
    have length := right.length
    rw [RunRight] at right
    obtain ⟨step,_,rest⟩ := right
    intro path access member
    rcases List.mem_cons.1 member with same | member
    · cases same
      intro loads
      cases first with
      | store index value => exact loads
      | load index =>
        rw [Access.LoadsInside] at loads
        rw [Access.index,if_pos loads] at step
        exact load_wrong loads step
    · have outside := ih rest path access member
      cases access with
      | store index value => exact outside
      | load index =>
        rw [Access.LoadsInside,Block.acceptsIndex,length] at outside
        exact outside

/-- The accesses to an array do what they have to do if none of them is to read an element, and only then. -/
theorem accesses_right (shapes : Shapes) (typeArguments : List TypeSymbol) (block : Block)
    (accesses : List (Path × Access)) :
    let contents := block.payload (block.underlayingType.resolve typeArguments).info
    (AccessesAllowed typeArguments block accesses → RunRight shapes typeArguments block contents accesses) ∧
      (RunRight shapes typeArguments block contents accesses →
        ∀ path access, (path,access) ∈ accesses → ¬ access.LoadsInside block) :=
  ⟨fun allowed => runRight_of_allowed allowed fun _ _ => rfl,not_loadsInside_of_runRight⟩

def twoShapes : Shapes where
  getOrCreateShape type := if type.info = anyType.info then 0 else 1
  any := by
    intro type same
    rw [if_pos rfl] at same
    by_contra other
    rw [if_neg other] at same
    cases same

def integerPair : Block := ⟨.type ⟨.byValue,8,8⟩,24,by decide,Storage.write (fun _ => 0) ⟨0,littleEndian 8 2⟩⟩

theorem integerPair_covered : integerPair.Covered := ⟨by decide,by decide⟩

theorem accesses_right_stores :
    RunRight twoShapes [] integerPair (integerPair.payload ⟨.byValue,8,8⟩)
      [(.instruction,.store 1 (.inline 64 (littleEndian 8 7))),(.native [],.store 1 .null),(.native [],.load (-1))] := by
  apply (accesses_right twoShapes [] integerPair _).1
  refine ⟨integerPair_covered,by decide,trivial,?_⟩
  intro path access member
  simp only [List.mem_cons,Prod.mk.injEq,List.not_mem_nil,or_false] at member
  rcases member with ⟨rfl,rfl⟩ | ⟨rfl,rfl⟩ | ⟨rfl,rfl⟩
  · exact ⟨trivial,id,.inr (.inr (by decide))⟩
  · exact ⟨trivial,id,.inr (.inl rfl)⟩
  · refine ⟨trivial,?_,trivial⟩
    rw [Access.LoadsInside]
    decide

/-- The first element of an array is not loaded. -/
theorem accesses_right_fails : ¬ RunRight twoShapes [] integerPair (integerPair.payload ⟨.byValue,8,8⟩)
    [(.instruction,.load 0)] := by
  rintro ⟨step,_⟩
  rw [if_pos (by decide)] at step
  exact load_wrong (by decide) step

end Runs

end ShardScript.Arrays
