import ShardScript.Frames.Layout
import ShardScript.Library.Verdicts

/-! The types of a compilation, and when `SemanticModel` takes two of them for the same. -/
namespace ShardScript.Types

open Frames (TypeInlining)
open Library (Verdict)

inductive TypeKind where
  | classDeclaration
  | structDeclaration
  | interfaceDeclaration
  | enumDeclaration
  | delegateType
  deriving DecidableEq

inductive Parent where
  | type (number : Nat)
  | method (number : Nat)
  deriving DecidableEq

/-- A pointer to a type. Each symbol of an array or of a constructed type has an address of its own. -/
inductive TypeSymbol where
  | null
  | declared (number : Nat)
  | typeParameter (parent : Parent) (index : Nat)
  | array (address : Nat) (underlayingType : TypeSymbol) (length : Nat)
  | generic (address : Nat) (underlayingType : Nat) (typeArguments : List TypeSymbol)

namespace TypeSymbol

section Decidability

mutual

@[grind] def same : TypeSymbol → TypeSymbol → Bool
  | .null,.null => true
  | .declared number,.declared number' => number == number'
  | .typeParameter parent index,.typeParameter parent' index' => parent == parent' && index == index'
  | .array address underlayingType length,.array address' underlayingType' length' =>
      address == address' && length == length' && same underlayingType underlayingType'
  | .generic address underlayingType typeArguments,.generic address' underlayingType' typeArguments' =>
      address == address' && underlayingType == underlayingType' && sameAll typeArguments typeArguments'
  | _,_ => false

@[grind] def sameAll : List TypeSymbol → List TypeSymbol → Bool
  | [],[] => true
  | type :: types,type' :: types' => same type type' && sameAll types types'
  | _,_ => false

end

mutual

theorem same_iff : ∀ left right : TypeSymbol,same left right = true ↔ left = right
  | .null,right => by cases right <;> simp [same]
  | .declared _,right => by cases right <;> simp [same]
  | .typeParameter _ _,right => by cases right <;> simp [same]
  | .array _ underlayingType _,right => by
      cases right <;> simp [same,same_iff underlayingType,and_assoc,and_comm]
  | .generic _ _ typeArguments,right => by
      cases right <;> simp [same,sameAll_iff typeArguments,and_assoc]

theorem sameAll_iff : ∀ left right : List TypeSymbol,sameAll left right = true ↔ left = right
  | [],right => by cases right <;> simp [sameAll]
  | type :: types,right => by cases right <;> simp [sameAll,same_iff type,sameAll_iff types]

end

instance : DecidableEq TypeSymbol := fun left right => decidable_of_iff _ (same_iff left right)

end Decidability

/-- `DefinitionIndex`, by which every symbol is told from the others. -/
inductive DefinitionIndex where
  | declared (number : Nat)
  | typeParameter (parent : Parent) (index : Nat)
  | made (address : Nat)
  deriving DecidableEq

def definitionIndex : TypeSymbol → Option DefinitionIndex
  | .null => none
  | .declared number => some (.declared number)
  | .typeParameter parent index => some (.typeParameter parent index)
  | .array address _ _ => some (.made address)
  | .generic address _ _ => some (.made address)

/-- `GenericTypeSymbol::SubstituteTypeParameters` of a type parameter. -/
def substituteTypeParameters (within : TypeSymbol) (parent : Parent) (index : Nat) : TypeSymbol :=
  match within with
  | .generic _ underlayingType typeArguments =>
      if parent = .type underlayingType then typeArguments.getD index .null else .null
  | _ => .null

end TypeSymbol

structure TypeParameterSymbol where
  name : String
  constraints : List TypeSymbol
  deriving DecidableEq

structure MethodSymbol where
  number : Nat
  name : String
  isInstance : Bool
  typeParameters : List TypeParameterSymbol
  parameters : List TypeSymbol
  deriving DecidableEq

structure IndexatorSymbol where
  number : Nat
  parameters : List TypeSymbol
  deriving DecidableEq

structure FieldSymbol where
  returnType : TypeSymbol
  isStatic : Bool := false
  deriving DecidableEq

structure TypeDeclaration where
  kind : TypeKind := .classDeclaration
  inlining : TypeInlining := .byReference
  typeParameters : List String := []
  interfaces : List TypeSymbol := []
  returnType : TypeSymbol := .null
  parameters : List TypeSymbol := []
  methods : List MethodSymbol := []
  indexators : List IndexatorSymbol := []
  fields : List FieldSymbol := []
  byReference : kind = .interfaceDeclaration ∨ kind = .delegateType → inlining = .byReference := by decide
  delegateOnly : kind = .delegateType → interfaces = [] := by decide

def TypeDeclaration.plainClass : TypeDeclaration := {}

def TypeDeclaration.plainStruct : TypeDeclaration := { kind := .structDeclaration,inlining := .byValue }

def TypeDeclaration.plainInterface : TypeDeclaration := { kind := .interfaceDeclaration }

def TypeDeclaration.isPrimitive (declaration : TypeDeclaration) : Prop :=
  declaration.kind ≠ .interfaceDeclaration ∧ declaration.kind ≠ .delegateType
  deriving Decidable

/-- A type parameter of a delegate in its place in the signature of that delegate, or no type parameter of a delegate. -/
def ownsParameter (declarations : List TypeDeclaration) (number : Nat) : TypeSymbol → Bool
  | .typeParameter (.type other) _ => (declarations.getD other .plainClass).kind != .delegateType || other == number
  | _ => true

mutual

/-- A constructed type has no more arguments than its underlaying type has type parameters. -/
def isTidy (declarations : List TypeDeclaration) : TypeSymbol → Bool
  | .null | .declared _ | .typeParameter _ _ => true
  | .array _ underlayingType _ => isTidy declarations underlayingType
  | .generic _ underlayingType typeArguments =>
      decide (typeArguments.length ≤ (declarations.getD underlayingType .plainClass).typeParameters.length) &&
        areTidy declarations typeArguments

def areTidy (declarations : List TypeDeclaration) : List TypeSymbol → Bool
  | [] => true
  | type :: types => isTidy declarations type && areTidy declarations types

end

structure SymbolTable where
  declarations : List TypeDeclaration
  /-- The numbers of `Primitives` and `StandardTypes` that types are compared with. -/
  any : Nat
  null : Nat
  array : Nat
  iEnumerable : Nat
  any_ne_null : any ≠ null := by decide
  primitives : ∀ number ∈ [any,null,array],(declarations.getD number .plainClass).isPrimitive := by decide
  roots : ∀ number ∈ [any,null,iEnumerable],(declarations.getD number .plainClass).interfaces = [] := by decide
  signatures : ∀ number < declarations.length,(declarations.getD number .plainClass).kind = .delegateType →
    ∀ type ∈ (declarations.getD number .plainClass).returnType :: (declarations.getD number .plainClass).parameters,
      ownsParameter declarations number type = true := by decide
  interfaces : ∀ declaration ∈ declarations,∀ iface ∈ declaration.interfaces,isTidy declarations iface = true := by decide

namespace SymbolTable

def declaration (table : SymbolTable) (number : Nat) : TypeDeclaration :=
  table.declarations.getD number .plainClass

def arity (table : SymbolTable) (number : Nat) : Nat := (table.declaration number).typeParameters.length

def isDelegate (table : SymbolTable) : TypeSymbol → Bool
  | .declared number => (table.declaration number).kind == .delegateType
  | _ => false

end SymbolTable

-- Two numbers for the types `Any` and `Null` of a table
theorem three_ne_four : 3 ≠ 4 := by decide

theorem four_ne_five : 4 ≠ 5 := by decide

def pairs (left right : List TypeSymbol) (size : Nat) : List (TypeSymbol × TypeSymbol) :=
  (List.range size).map fun index => (left.getD index .null,right.getD index .null)

/-- The fuel bounds how deep the types are taken apart. A null pointer has no definition index, and so equals nothing. -/
@[grind] def areTypesEqual (table : SymbolTable) : Nat → TypeSymbol → TypeSymbol → Verdict
  | 0,_,_ => none
  | _ + 1,.null,_ => some false
  | _ + 1,.typeParameter parent index,right =>
      some ((TypeSymbol.typeParameter parent index).definitionIndex == right.definitionIndex)
  | fuel + 1,.declared number,right =>
      if table.isDelegate (.declared number) then
        match right with
        | .declared number' =>
            if table.isDelegate (.declared number') then
              let parameters := (table.declaration number).parameters
              let parameters' := (table.declaration number').parameters
              Verdict.both
                (areTypesEqual table fuel (table.declaration number).returnType (table.declaration number').returnType)
                (if parameters'.length = parameters.length then
                  Verdict.every (fun pair => areTypesEqual table fuel pair.1 pair.2)
                    (pairs parameters parameters' parameters.length)
                else some false)
            else some false
        | _ => some false
      else some ((TypeSymbol.declared number).definitionIndex == right.definitionIndex)
  | fuel + 1,.array _ underlayingType _,right =>
      match right with
      | .array _ underlayingType' _ => areTypesEqual table fuel underlayingType underlayingType'
      | _ => some false
  | fuel + 1,.generic _ underlayingType typeArguments,right =>
      match right with
      | .generic _ underlayingType' typeArguments' =>
          let size := table.arity underlayingType
          Verdict.both (areTypesEqual table fuel (.declared underlayingType) (.declared underlayingType'))
            (if table.arity underlayingType' = size then
              Verdict.every (fun pair => areTypesEqual table fuel pair.1 pair.2)
                (pairs typeArguments typeArguments' size)
            else some false)
      | _ => some false

end ShardScript.Types
