import ShardScript.Types.Assignability
import ShardScript.Types.Substitution

/-! The shapes by which objects are laid out, and the cache that makes them. -/
namespace ShardScript.Types

structure Layouts where
  memoryBytesSize : TypeSymbol → Nat
  /-- Of a field by its place in the declaration. There is none as long as none has been assigned. -/
  slotIndex : Nat → Nat → Option Nat

structure Key where
  baseType : TypeSymbol
  genericArgs : List TypeSymbol := []
  deriving DecidableEq

namespace Shapes

def pointerSize : Nat := 8

structure SlotInfo where
  offset : Nat := 0
  fieldShape : Option Nat := none
  deriving DecidableEq

structure TypeShape where
  key : Key
  size : Nat := 0
  alignment : Nat := 1
  slots : List SlotInfo := []
  deriving DecidableEq

/-- `TypeShapeCache`. A shape is the same object as another one if it is at the same place. -/
structure Cache where
  shapes : List TypeShape := []
  factory : Factory := ⟨0,[]⟩

namespace Cache

def keys (cache : Cache) : List Key := cache.shapes.map TypeShape.key

def getShape (cache : Cache) (key : Key) : Option Nat := cache.keys.idxOf? key

def shape (cache : Cache) (place : Nat) : TypeShape := cache.shapes.getD place ⟨⟨.null,[]⟩,0,1,[]⟩

def emplace (cache : Cache) (key : Key) : Cache := { cache with shapes := cache.shapes ++ [{ key := key }] }

def fill (cache : Cache) (place size alignment : Nat) (slots : List SlotInfo) : Cache :=
  { cache with shapes := cache.shapes.modify place fun shape =>
      { shape with size := size, alignment := alignment, slots := slots } }

end Cache

inductive Failure where
  | outOfFuel
  | thrown (message : String)
  deriving DecidableEq

def alignUp (offset alignment : Nat) : Nat :=
  if alignment ≤ 1 then offset else (offset + alignment - 1) / alignment * alignment

section Build

variable (table : SymbolTable) (layouts : Layouts)

/-- The fields that have slots, each with its slot, in the order of their declaration. -/
def slottedFields : TypeSymbol → List (FieldSymbol × Nat)
  | .declared number =>
      (table.declaration number).fields.zipIdx.filterMap fun (field,place) =>
        if field.isStatic then none else (layouts.slotIndex number place).map (field,·)
  | _ => []

def typeParametersOf (key : Key) : List (Parent × Nat) :=
  match key.baseType with
  | .declared number =>
      if key.genericArgs = [] then [] else (List.range (table.arity number)).map fun index => (.type number,index)
  | _ => []

structure Progress where
  offset : Nat := 0
  alignment : Nat := 1
  slots : List SlotInfo

variable (getOrCreateShape : TypeSymbol → Cache → Except Failure (Nat × Cache)) (parameters : List (Parent × Nat))
  (arguments : List TypeSymbol)

def fieldLayout (type : TypeSymbol) (shape : TypeShape) : Nat × Nat :=
  match type with
  | .array _ _ _ => (shape.size,shape.alignment)
  | type => if inlining table type = .byReference then (pointerSize,pointerSize) else (shape.size,shape.alignment)

@[grind] def buildFields : List (FieldSymbol × Nat) → Progress → Cache → Except Failure (Progress × Cache)
  | [],progress,cache => .ok (progress,cache)
  | (field,slotIndex) :: fields,progress,cache =>
      if field.returnType = .null then buildFields fields progress cache
      else
        let (substituted,factory) := substituteTypeParameter parameters arguments field.returnType cache.factory
        let concreteFieldType := if substituted = .null then field.returnType else substituted
        match getOrCreateShape concreteFieldType { cache with factory := factory } with
        | .error failure => .error failure
        | .ok (fieldShape,cache) =>
            let (fieldSize,fieldAlign) := fieldLayout table concreteFieldType (cache.shape fieldShape)
            let offset := alignUp progress.offset fieldAlign
            buildFields fields
              ⟨offset + fieldSize,max progress.alignment fieldAlign,progress.slots.set slotIndex ⟨offset,some fieldShape⟩⟩ cache

end Build

section Cache

variable (table : SymbolTable) (layouts : Layouts)

def slotCount (fields : List (FieldSymbol × Nat)) : Nat := (fields.map (·.2 + 1)).foldl max 0

def buildShape (getOrCreateShape : TypeSymbol → Cache → Except Failure (Nat × Cache)) (key : Key) (place : Nat)
    (cache : Cache) : Except Failure Cache :=
  match key.baseType with
  | .null => .error (.thrown "Cannot build TypeShape for null base type")
  | .array _ underlayingType length =>
      match getOrCreateShape underlayingType cache with
      | .error failure => .error failure
      | .ok (elementShape,cache) =>
          let element := cache.shape elementShape
          let header := layouts.memoryBytesSize (.declared table.array)
          .ok (cache.fill place (header + element.size * length) element.alignment [])
  | baseType =>
      let fields := slottedFields table layouts baseType
      let slots := List.replicate (slotCount fields) {}
      match buildFields table getOrCreateShape (typeParametersOf table key) key.genericArgs fields { slots := slots } cache with
      | .error failure => .error failure
      | .ok (progress,cache) =>
          let size := layouts.memoryBytesSize baseType
          if progress.offset = 0 ∧ size > 0 then .ok (cache.fill place size (min (max size 1) pointerSize) progress.slots)
          else .ok (cache.fill place (alignUp progress.offset progress.alignment) progress.alignment progress.slots)

def getOrCreateShape : Nat → Key → Cache → Except Failure (Nat × Cache)
  | 0,_,_ => .error .outOfFuel
  | fuel + 1,key,cache =>
      match cache.getShape key with
      | some place => .ok (place,cache)
      | none =>
          let place := cache.shapes.length
          match buildShape table layouts (fun type => getOrCreateShape fuel ⟨type,[]⟩) key place (cache.emplace key) with
          | .error failure => .error failure
          | .ok cache => .ok (place,cache)

end Cache

end Shapes

end ShardScript.Types
