import Mathlib.Data.Bool.Basic

/-! The types of operands, and their values as the virtual machine has them. -/
namespace ShardScript.Primitive

inductive Failure where
  | divideByZero
  | operatorOverloadNotFound
  | operatorIsNotOverloadable
  | nullInstance
  | invalidCast
  | cannotInterpret
  | allocationFailed
  | undefined
  deriving DecidableEq

inductive TypeSymbol where
  | null | boolean | integer | double | char | string | array | byte | nativeInteger
  | enumeration (identifier : Nat)
  | classType (identifier : Nat) | structType (identifier : Nat)
  deriving DecidableEq

namespace TypeSymbol

def name : TypeSymbol → String
  | null => "Null"
  | boolean => "Boolean"
  | integer => "Integer"
  | double => "Double"
  | char => "Char"
  | string => "String"
  | array => "Array"
  | byte => "Byte"
  | nativeInteger => "IntPtr"
  | enumeration identifier => "Enum" ++ toString identifier
  | classType identifier => "Class" ++ toString identifier
  | structType identifier => "Struct" ++ toString identifier

def isByReference : TypeSymbol → Bool
  | string | array | classType _ => true
  | _ => false

def isEnumeration : TypeSymbol → Bool
  | enumeration _ => true
  | _ => false

end TypeSymbol

class FloatingPoint (Double : Type) where
  ofInteger : Int64 → Double
  truncate : Double → Int64
  fits : Double → Bool
  add : Double → Double → Double
  sub : Double → Double → Double
  mult : Double → Double → Double
  div : Double → Double → Double
  fmod : Double → Double → Double
  pow : Double → Double → Double
  negative : Double → Double
  equal : Double → Double → Bool
  less : Double → Double → Bool
  format : Double → List UInt16
  equal_comm : ∀ left right, equal left right = equal right left

inductive Instance (Double : Type) where
  | null
  | boolean (value : Bool)
  | integer (value : Int64)
  | double (value : Double)
  | char (value : UInt16)
  | string (text : List UInt16)
  | array (reference : Nat)
  | byte (value : UInt8)
  | nativeInteger (value : Int64)
  | enumeration (identifier : Nat) (value : Int64)
  | object (identifier reference : Nat)
  | struct (identifier : Nat) (payload : List UInt8)

namespace Instance

variable {Double : Type}

def type : Instance Double → TypeSymbol
  | null => .null
  | boolean _ => .boolean
  | integer _ => .integer
  | double _ => .double
  | char _ => .char
  | string _ => .string
  | array _ => .array
  | byte _ => .byte
  | nativeInteger _ => .nativeInteger
  | enumeration identifier _ => .enumeration identifier
  | object identifier _ => .classType identifier
  | struct identifier _ => .structType identifier

def isNullInstance : Instance Double → Bool
  | null => true
  | _ => false

def HasType (value : Instance Double) (type : TypeSymbol) : Prop :=
  value.type = type ∨ value = null ∧ type.isByReference = true

theorem hasType_type (value : Instance Double) : value.HasType value.type := .inl rfl

theorem type_of_hasType {value : Instance Double} {type : TypeSymbol} (known : value.HasType type)
    (present : value.isNullInstance = false) : value.type = type := by
  rcases known with same | ⟨rfl,_⟩
  · exact same
  · cases present

theorem isNullInstance_of_hasType {value : Instance Double} {type : TypeSymbol} (known : value.HasType type)
    (byValue : type.isByReference = false) (other : type ≠ .null) : value.isNullInstance = false := by
  rcases known with rfl | ⟨_,byReference⟩
  · cases value with
    | null => exact absurd rfl other
    | _ => rfl
  · rw [byValue] at byReference
    cases byReference

end Instance

end ShardScript.Primitive
