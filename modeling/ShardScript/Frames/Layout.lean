import Mathlib.Algebra.GroupWithZero.Nat
import Mathlib.Data.List.GetD
import ShardScript.Calls.Denotation

/-! The slots of a method, and the strides that `CallStackFrame::Create` gives them in a frame. -/
namespace ShardScript.Frames
open Calls (TypeSymbol denote)

inductive TypeInlining where
  | byReference | byValue
  deriving DecidableEq

theorem TypeInlining.eq_byValue {inlining : TypeInlining} (other : ¬ inlining = .byReference) : inlining = .byValue := by
  cases inlining with
  | byReference => exact absurd rfl other
  | byValue => rfl

/-- What a `TypeShape*` points to. The inlining is that of the base type. -/
structure TypeShape where
  address : Nat
  inlining : TypeInlining
  size : Nat
  deriving DecidableEq

/-- The types of a program. The cache gives a shape, with the size that `BuildShape` computes, to each of its keys. -/
structure TypeTable where
  inlining : String → TypeInlining
  address : TypeSymbol → List TypeSymbol → Nat
  size : TypeSymbol → List TypeSymbol → Nat
  isAssignableTo : TypeSymbol → TypeSymbol → Bool

def slotHeaderBytes : Nat := 8

def referencePayloadBytes : Nat := 8

def align (value : Nat) : Nat := (value + 7) / 8 * 8

def TypeShape.payloadBytes (shape : TypeShape) : Nat :=
  if shape.inlining = .byReference then referencePayloadBytes else align shape.size

namespace TypeTable

variable (table : TypeTable)

def inliningOf : TypeSymbol → TypeInlining
  | .named name => table.inlining name
  | .generic underlayingType _ => table.inlining underlayingType
  | .typeParameter _ => .byReference
  | .array _ => .byReference

def getOrCreateShape (baseType : TypeSymbol) (genericArgs : List TypeSymbol) : TypeShape :=
  ⟨table.address baseType genericArgs,table.inliningOf baseType,table.size baseType genericArgs⟩

def shape : TypeSymbol → TypeShape
  | .generic underlayingType arguments => table.getOrCreateShape (.named underlayingType) arguments
  | type => table.getOrCreateShape type []

def resolveObjectShape (type : Option TypeSymbol) : Option TypeShape := type.map table.shape

def slotPayload : Option TypeSymbol → Nat
  | some type => if table.inliningOf type = .byReference then referencePayloadBytes else align (table.shape type).size
  | none => referencePayloadBytes

def stride (type : Option TypeSymbol) : Nat := slotHeaderBytes + table.slotPayload type

end TypeTable

structure FrameSlotRecipe where
  concreteType : Option TypeSymbol
  typeParameterIndex : Option Nat

def FrameSlotRecipe.untyped : FrameSlotRecipe := ⟨none,none⟩

/-- A type parameter of the method is noted with its position, one of another symbol as it is. -/
def makeSlotRecipe (type : Option TypeSymbol) (typeParameters : List Nat) : FrameSlotRecipe :=
  match type with
  | some (.typeParameter index) =>
      match typeParameters.idxOf? index with
      | some position => ⟨none,some position⟩
      | none => ⟨type,none⟩
  | _ => ⟨type,none⟩

/-- A variable with the static type of what is stored there. Its slot is made for this type, or for none. -/
structure Variable (typeParameters : List Nat) where
  type : TypeSymbol
  recipe : FrameSlotRecipe
  described : recipe = .untyped ∨ recipe = makeSlotRecipe (some type) typeParameters

/-- Slots have numbers of 16 bits. -/
structure MethodSymbol where
  returnType : TypeSymbol
  isInstance : Bool
  parent : TypeSymbol
  parameters : List TypeSymbol
  typeParameters : List Nat
  variableSlots : List (Variable typeParameters)
  numbered : parameters.length + (if isInstance then 1 else 0) + variableSlots.length < 2 ^ 16

namespace MethodSymbol

variable (method : MethodSymbol)

def getEvalStackArgumentsCount : Nat := method.parameters.length + if method.isInstance then 1 else 0

def getEvalStackVariablesCount : Nat := method.variableSlots.length

def getEvalStackLocalsCount : Nat := method.getEvalStackArgumentsCount + method.getEvalStackVariablesCount

def resolveSlotType (slot : Nat) (typeArguments : List TypeSymbol) : Option TypeSymbol :=
  if slot < method.getEvalStackArgumentsCount then
    if method.isInstance then
      if slot = 0 then none else method.parameters[slot - 1]?
    else method.parameters[slot]?
  else
    match method.variableSlots[slot - method.getEvalStackArgumentsCount]? with
    | none => none
    | some found =>
        match found.recipe.typeParameterIndex with
        | some position => typeArguments[position]?
        | none => found.recipe.concreteType

def declaredType (slot : Nat) : Option TypeSymbol :=
  if slot < method.getEvalStackArgumentsCount then
    if method.isInstance then
      if slot = 0 then some method.parent else method.parameters[slot - 1]?
    else method.parameters[slot]?
  else method.variableSlots[slot - method.getEvalStackArgumentsCount]?.map Variable.type

end MethodSymbol

structure LocalSlotDesc where
  shape : Option TypeShape
  offset : Nat

section Create

variable (table : TypeTable)

/-- The offsets have 32 bits. -/
def slotDescs : List (Option TypeSymbol) → (offset : Nat) → List LocalSlotDesc
  | [],_ => []
  | type :: types,offset =>
      ⟨table.resolveObjectShape type,offset⟩ :: slotDescs types ((offset + table.stride type) % 2 ^ 32)

variable (types : List (Option TypeSymbol))

theorem length_slotDescs (offset : Nat) :
    (slotDescs table types offset).length = types.length := by
  induction types generalizing offset with
  | nil => rfl
  | cons type types ih => rw [slotDescs,List.length_cons,List.length_cons,ih]

def localsBytes : Nat := (types.map table.stride).sum

theorem localsBytes_cons (type : Option TypeSymbol) (types : List (Option TypeSymbol)) :
    localsBytes table (type :: types) = table.stride type + localsBytes table types := List.sum_cons

theorem le_offset_slotDescs (offset : Nat)
    (small : offset + localsBytes table types < 2 ^ 32) {desc : LocalSlotDesc}
    (found : desc ∈ slotDescs table types offset) : offset ≤ desc.offset := by
  induction types generalizing offset with
  | nil => cases found
  | cons type types ih =>
    rw [localsBytes_cons,← Nat.add_assoc] at small
    obtain rfl | found := List.mem_cons.1 found
    · exact Nat.le_refl _
    · rw [Nat.mod_eq_of_lt (by omega)] at found
      exact Nat.le_trans (Nat.le_add_right _ _) (ih _ small found)

theorem slotDescs_apart {types : List (Option TypeSymbol)} {offset slot other : Nat} {desc desc' : LocalSlotDesc}
    {type : Option TypeSymbol} (small : offset + localsBytes table types < 2 ^ 32) (known : types[slot]? = some type)
    (found : (slotDescs table types offset)[slot]? = some desc)
    (found' : (slotDescs table types offset)[other]? = some desc') (before : slot < other) :
    desc.offset + table.stride type ≤ desc'.offset := by
  induction types generalizing offset slot other with
  | nil => cases found
  | cons first types ih =>
    obtain _ | other := other
    · cases before
    rw [localsBytes_cons,← Nat.add_assoc] at small
    rw [slotDescs,Nat.mod_eq_of_lt (by omega)] at found found'
    rw [List.getElem?_cons_succ] at found'
    obtain _ | slot := slot
    · cases known
      cases found
      exact le_offset_slotDescs table types _ small (List.mem_of_getElem? found')
    · exact ih small known found found' (Nat.lt_of_succ_lt_succ before)

variable (method : MethodSymbol) (typeArguments : List TypeSymbol)

def slotTypes : List (Option TypeSymbol) :=
  (List.range method.getEvalStackLocalsCount).map fun slot => method.resolveSlotType slot typeArguments

/-- The descriptors that `CallStackFrame::Create` makes, behind the slot of the returned value. -/
def localSlots : List LocalSlotDesc :=
  slotDescs table (slotTypes method typeArguments) (table.stride (some method.returnType) % 2 ^ 32)

def localRegionEnd : Nat := table.stride (some method.returnType) + localsBytes table (slotTypes method typeArguments)

theorem length_localSlots : (localSlots table method typeArguments).length = method.getEvalStackLocalsCount := by
  rw [localSlots,length_slotDescs,slotTypes,List.length_map,List.length_range]

theorem slotTypes_eq {slot : Nat} (inside : slot < method.getEvalStackLocalsCount) :
    (slotTypes method typeArguments)[slot]? = some (method.resolveSlotType slot typeArguments) := by
  rw [slotTypes,List.getElem?_map,List.getElem?_range inside]
  rfl

end Create

end ShardScript.Frames
