import Mathlib.Logic.Function.Basic

/-! The garbage collector: its heap, the tables beside it, and what is allocated and freed. -/
namespace ShardScript.Heap

abbrev Payload := Nat

structure TypeShape where
  isReferenceType : Bool
  size : Nat
  referenceSlots : Nat

/-- `mistyped` are elements of one kind in an array whose type has elements of the other kind. -/
inductive Elements where
  | none
  | references (elements : List (Option Payload))
  | values (length elementSize : Nat)
  | mistyped (length : Nat)

structure Object where
  isReferenceType : Bool
  size : Nat
  fields : List (Option Payload)
  elements : Elements
  referencesCounter : Nat
  terminated : Bool

namespace Elements

def references? : Elements → List (Option Payload)
  | references elements => elements
  | _ => []

def isReadable : Elements → Bool
  | values length elementSize => length == 0 || elementSize != 0
  | mistyped length => length == 0
  | _ => true

/-- The elements are as `elementType` says. What is done with them goes by the type that the array has for them. -/
def ofTypes (underlayingType elementType : TypeShape) (length : Nat) : Elements :=
  if elementType.isReferenceType ≠ underlayingType.isReferenceType then mistyped length
  else if underlayingType.isReferenceType then references (List.replicate length Option.none)
  else values length underlayingType.size

end Elements

inductive ObjectInstance where
  | null
  | heapBacked (payload : Payload)
  | inline (size : Nat) (fields : List (Option Payload))

structure FieldSymbol where
  name : String
  hasDefaultValue : Bool
  returnType : TypeShape

structure GarbageCollector where
  memory : Payload → Option Object
  heap : List Payload
  staticFields : List (String × Option Payload)
  internedStrings : List (String × Payload)
  asyncTable : List Payload

def setEntry {Value : Type} (table : List (String × Value)) (key : String) (value : Value) : List (String × Value) :=
  (key,value) :: table.eraseP fun entry => entry.1 == key

namespace GarbageCollector

def initial : GarbageCollector := ⟨fun _ => none,[],[],[],[]⟩

variable (collector : GarbageCollector) (payload : Payload)

def write (object : Object) : GarbageCollector :=
  { collector with memory := Function.update collector.memory payload (some object) }

def setReferences (change : Nat → Nat) : Option GarbageCollector :=
  (collector.memory payload).map fun object =>
    collector.write payload { object with referencesCounter := change object.referencesCounter }

def incrementReference : Option GarbageCollector := collector.setReferences payload (· + 1)

def decrementReference : Option GarbageCollector := collector.setReferences payload (· - 1)

def forget : GarbageCollector :=
  { collector with memory := Function.update collector.memory payload none }

def freeBytes : Option GarbageCollector :=
  (collector.memory payload).map fun _ => collector.forget payload

def eraseHeap : GarbageCollector := { collector with heap := collector.heap.erase payload }

def allocate (object : Object) : GarbageCollector :=
  { collector.write payload object with heap := collector.heap.insert payload }

def allocateInstance (shape : TypeShape) : GarbageCollector :=
  collector.allocate payload
    ⟨shape.isReferenceType,shape.size,List.replicate shape.referenceSlots none,.none,0,false⟩

def valueInstance (size : Nat) (fields : List (Option Payload)) : Object := ⟨false,size,fields,.none,0,false⟩

def arrayInstance (elements : Elements) : Object := ⟨true,0,[],elements,0,false⟩

def allocateArray (underlayingType elementType : TypeShape) (length : Nat) : GarbageCollector :=
  collector.allocate payload (arrayInstance (.ofTypes underlayingType elementType length))

def stringShape : TypeShape := ⟨true,16,0⟩

def fromString : GarbageCollector := collector.allocateInstance payload stringShape

def internString (value : String) : GarbageCollector :=
  match collector.internedStrings.lookup value with
  | some _ => collector
  | none =>
      { collector.allocateInstance payload stringShape with
        internedStrings := setEntry collector.internedStrings value payload }

/-- `TerminateInstance`. The shape of an element of an array is not known, and the kind of its type is read from it. What is
read for an element of the other kind is no instance. -/
def terminateInstance (destroy : Bool → Option Payload → GarbageCollector → Option GarbageCollector)
    (isTyped : Bool) (payload : Payload) (deleteInstance : Bool) (collector : GarbageCollector) :
    Option GarbageCollector := do
  let object ← collector.memory payload
  if object.terminated then
    return collector
  let marked := collector.write payload { object with terminated := true }
  let marked := { marked with asyncTable := marked.asyncTable.filter (· != payload) }
  if isTyped = false then
    failure
  let released ← object.fields.foldlM (fun collector field => destroy true field collector) marked
  if object.elements.isReadable = false then
    failure
  let released ← object.elements.references?.foldlM (fun collector element => destroy false element collector) released
  if deleteInstance then released.freeBytes payload else return released

/-- `DestroyInstance`, with a bound on the depth of the graph below. -/
def destroyWithin : (fuel : Nat) → (isTyped : Bool) → Option Payload → GarbageCollector → Option GarbageCollector
  | _,_,none,collector => some collector
  | 0,_,some _,_ => none
  | fuel + 1,isTyped,some payload,collector => do
      let object ← collector.memory payload
      if object.terminated then
        return collector
      let released ← collector.decrementReference payload
      if object.referencesCounter - 1 > 0 then
        return released
      terminateInstance (destroyWithin fuel) isTyped payload true (released.eraseHeap payload)

def destroyInstance : ObjectInstance → Option GarbageCollector
  | .heapBacked payload => destroyWithin collector.heap.length true (some payload) collector
  | _ => some collector

def collectInstance : ObjectInstance → Option GarbageCollector
  | .heapBacked payload => do
      let object ← collector.memory payload
      if object.referencesCounter > 0 then
        return collector
      terminateInstance (destroyWithin collector.heap.length) true payload true (collector.eraseHeap payload)
  | _ => some collector

def incrementAll (fields : List (Option Payload)) : Option GarbageCollector :=
  fields.reduceOption.foldlM incrementReference collector

/-- A copy of a value. Where it has no bytes there is nothing to write, and `WriteMemory` throws. -/
def copyValue (size : Nat) (fields : List (Option Payload)) :
    Option (GarbageCollector × Option Payload) := do
  let allocated := collector.allocate payload (valueInstance size (List.replicate fields.length none))
  if size = 0 then
    return (allocated,none)
  let copied := allocated.write payload (valueInstance size fields)
  return (← copied.incrementAll fields,some payload)

/-- `CopyInstance`, with what it returns; there is nothing where it throws. -/
def copyInstance : ObjectInstance → Option (GarbageCollector × Option Payload)
  | .null => some (collector,none)
  | .heapBacked source => do
      let object ← collector.memory source
      if object.isReferenceType then
        return (← collector.incrementReference source,some source)
      collector.copyValue payload object.size object.fields
  | .inline size fields => collector.copyValue payload size fields

def recorded (field : FieldSymbol) : Option Payload := (collector.staticFields.lookup field.name).join

def releaseRecorded (field : FieldSymbol) : Option GarbageCollector :=
  match collector.recorded field with
  | some old => collector.destroyInstance (.heapBacked old)
  | none => some collector

/-- The copy is counted and recorded; where there is none `CopyInstance` has thrown. -/
def record (field : FieldSymbol) : GarbageCollector × Option Payload → Option GarbageCollector
  | (copied,some stored) => do
      let counted ← copied.incrementReference stored
      return { counted with staticFields := setEntry counted.staticFields field.name (some stored) }
  | (copied,none) => some copied

def setStaticField (field : FieldSymbol) : ObjectInstance → Option GarbageCollector
  | .null => some collector
  | value => do
      let released ← collector.releaseRecorded field
      record field (← released.copyInstance payload value)

def getStaticField (field : FieldSymbol) : Option GarbageCollector :=
  match collector.staticFields.lookup field.name with
  | some _ => some collector
  | none =>
      if field.hasDefaultValue then some collector else
      if field.returnType.isReferenceType then
        some { collector with staticFields := setEntry collector.staticFields field.name none }
      else do
        let counted ← (collector.allocateInstance payload field.returnType).incrementReference payload
        return { counted with staticFields := setEntry counted.staticFields field.name (some payload) }

def markTerminated (collector : GarbageCollector) : Option GarbageCollector :=
  (collector.memory payload).map fun object => collector.write payload { object with terminated := true }

def terminate : Option GarbageCollector := do
  let snapshot := collector.heap
  let marked ← snapshot.foldlM (fun collector payload => markTerminated payload collector) collector
  let released ← (collector.staticFields.filterMap Prod.snd).foldlM (fun collector payload =>
    terminateInstance (destroyWithin 0) true payload true (collector.eraseHeap payload)) marked
  let released ← snapshot.foldlM (fun collector payload =>
    terminateInstance (destroyWithin 0) true payload false collector) released
  let freed ← snapshot.foldlM (fun collector payload => (collector.eraseHeap payload).freeBytes payload) released
  return { freed with heap := [], staticFields := [], asyncTable := [] }

/-- `SetField` of a field by reference; `null` is stored as well. -/
def setField (slot : Nat) (value : Option Payload) : Option GarbageCollector := do
  let object ← collector.memory payload
  let old ← object.fields[slot]?
  let collector ← old.elim (some collector) collector.decrementReference
  let collector ← value.elim (some collector) collector.incrementReference
  let object ← collector.memory payload
  return collector.write payload { object with fields := object.fields.set slot value }

def setElement (index : Nat) (value : Option Payload) : Option GarbageCollector := do
  let object ← collector.memory payload
  let old ← object.elements.references?[index]?
  let collector ← old.elim (some collector) collector.decrementReference
  let collector ← value.elim (some collector) collector.incrementReference
  let object ← collector.memory payload
  return collector.write payload
    { object with elements := .references (object.elements.references?.set index value) }

/-- `MarkTaskLike` and the other operations that make a record in the table. -/
def markTaskLike : GarbageCollector :=
  { collector with asyncTable := collector.asyncTable.insert payload }

end GarbageCollector

/-- A call of the garbage collector or of an instance. Where memory may be allocated, `payload` is what the allocator
returns. -/
inductive Operation where
  | allocateInstance (payload : Payload) (shape : TypeShape)
  | allocateArray (payload : Payload) (underlayingType elementType : TypeShape) (length : Nat)
  | fromString (payload : Payload)
  | internString (payload : Payload) (value : String)
  | copyInstance (payload : Payload) (value : ObjectInstance)
  | setStaticField (payload : Payload) (field : FieldSymbol) (value : ObjectInstance)
  | getStaticField (payload : Payload) (field : FieldSymbol)
  | collectInstance (value : ObjectInstance)
  | destroyInstance (value : ObjectInstance)
  | terminate
  | setField (object : Payload) (slot : Nat) (value : Option Payload)
  | setElement (object : Payload) (index : Nat) (value : Option Payload)
  | incrementReference (object : Payload)
  | decrementReference (object : Payload)
  | markTaskLike (object : Payload)

def Operation.perform (collector : GarbageCollector) : Operation → Option GarbageCollector
  | allocateInstance payload shape => some (collector.allocateInstance payload shape)
  | allocateArray payload underlayingType elementType length =>
      some (collector.allocateArray payload underlayingType elementType length)
  | fromString payload => some (collector.fromString payload)
  | internString payload value => some (collector.internString payload value)
  | copyInstance payload value => (collector.copyInstance payload value).map Prod.fst
  | setStaticField payload field value => collector.setStaticField payload field value
  | getStaticField payload field => collector.getStaticField payload field
  | collectInstance value => collector.collectInstance value
  | destroyInstance value => collector.destroyInstance value
  | terminate => collector.terminate
  | setField object slot value => collector.setField object slot value
  | setElement object index value => collector.setElement object index value
  | incrementReference object => collector.incrementReference object
  | decrementReference object => collector.decrementReference object
  | markTaskLike object => some (collector.markTaskLike object)

def performAll (operations : List Operation) (collector : GarbageCollector) : Option GarbageCollector :=
  operations.foldlM Operation.perform collector

end ShardScript.Heap
