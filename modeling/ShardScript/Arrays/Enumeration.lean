import ShardScript.Arrays.Elements
import ShardScript.Types.Canonical

/-! Enumeration loops, and what they make of arrays: none of the native methods gets its result through. -/
namespace ShardScript.Enumeration
open Arrays (Block Fault Element)
open ShardScript.Types (TypeSymbol Key SymbolTable)
open ShardScript.Types.Shapes (Request)

inductive Call (Result : Type) where
  | returned (result : Result)
  | raised
  | thrown
  | undefined

def Call.map {Result Other : Type} (f : Result → Other) : Call Result → Call Other
  | returned result => .returned (f result)
  | raised => .raised
  | thrown => .thrown
  | undefined => .undefined

inductive Ending where
  | left
  | raised
  | thrown
  | undefined
  | unfinished
  deriving DecidableEq

structure Protocol (Enumerable Enumerator Value : Type) where
  getEnumerator : Enumerable → Call Enumerator
  moveNext : Enumerator → Call Bool × Enumerator
  current : Enumerator → Call Value × Enumerator

section Loops

variable {Enumerable Enumerator Value : Type} (protocol : Protocol Enumerable Enumerator Value)

/-- The turns of an enumeration loop with the values that its body gets. A body neither breaks out of the loop nor gets
hold of the enumerator. -/
def enumerate : Nat → Enumerator → List Value × Ending
  | 0,_ => ([],.unfinished)
  | turns + 1,enumerator =>
      match protocol.moveNext enumerator with
      | (.raised,_) => ([],.raised)
      | (.thrown,_) => ([],.thrown)
      | (.undefined,_) => ([],.undefined)
      | (.returned false,_) => ([],.left)
      | (.returned true,enumerator) =>
          match protocol.current enumerator with
          | (.raised,_) => ([],.raised)
          | (.thrown,_) => ([],.thrown)
          | (.undefined,_) => ([],.undefined)
          | (.returned value,enumerator) =>
              let (values,ending) := enumerate turns enumerator
              (value :: values,ending)

def enumerationLoop (turns : Nat) (range : Enumerable) : List Value × Ending :=
  match protocol.getEnumerator range with
  | .raised => ([],.raised)
  | .thrown => ([],.thrown)
  | .undefined => ([],.undefined)
  | .returned enumerator => enumerate protocol turns enumerator

variable {protocol}

end Loops

structure Declarations where
  table : SymbolTable
  boolean : Nat
  integer : Nat
  iEnumerator : Nat
  arrayEnumerator : Nat
  apart : [boolean,integer,iEnumerator,arrayEnumerator].Nodup

abbrev TypeShape := Key

namespace Declarations

variable (declarations : Declarations)

def resolveObjectShape (type : TypeSymbol) : Option TypeShape :=
  if type = .null then none else some ((Request.object type).key declarations.table)

def resolveShape (type : TypeSymbol) : TypeShape := (Request.plain type).key declarations.table

/-- `IEnumerator<T>` with the type parameter of a type. Such symbols are made where they are declared. -/
def enumeratorOf (address parent : Nat) : TypeSymbol :=
  .generic address declarations.iEnumerator [.typeParameter (.type parent) 0]

end Declarations

/-- What the callback of an external method hands to `PlaceReturned`, if it gets there: a value with a shape, if any. -/
abbrev Callback (Result : Type) := Except Fault (Option TypeShape × Result)

/-- The invocation of an external method of that return type. A `std::exception` becomes one that is raised in the frame
of the caller. -/
def invokeExternal {Result : Type} (declarations : Declarations) (returnType : TypeSymbol) (callback : Callback Result) :
    Call Result :=
  match callback with
  | .error .thrown => .raised
  | .error .undefined => .undefined
  | .ok (shape,result) => if declarations.resolveObjectShape returnType = shape then .returned result else .raised

structure ArrayEnumerator where
  source : Block
  index : Int64
  length : Int64

structure ArrayInstance where
  block : Block
  elementType : TypeSymbol

section Arrays

variable (declarations : Declarations)

def primitiveArrayGetEnumerator (array : ArrayInstance) : Callback ArrayEnumerator :=
  let shape := (Request.constructed declarations.arrayEnumerator [array.elementType]).key declarations.table
  .ok (some shape,⟨array.block,-1,Int64.ofNat array.block.getArrayLength⟩)

def arrayEnumeratorMoveNext (self : ArrayEnumerator) : Callback Bool × ArrayEnumerator :=
  let self := { self with index := self.index + 1 }
  (.ok (some (declarations.resolveShape (.declared declarations.integer)),decide (self.index < self.length)),self)

def arrayEnumeratorCurrentGet (self : ArrayEnumerator) : Callback Element :=
  match self.source.getElement self.index.toUInt64.toNat none with
  | .error fault => .error fault
  | .ok element => .ok (none,element)

def arrayProtocol (address : Nat) : Protocol ArrayInstance ArrayEnumerator Element where
  getEnumerator array :=
    invokeExternal declarations (declarations.enumeratorOf address declarations.iEnumerator)
      (primitiveArrayGetEnumerator declarations array)
  moveNext self :=
    let (callback,self) := arrayEnumeratorMoveNext declarations self
    (invokeExternal declarations (.declared declarations.boolean) callback,self)
  current self :=
    (invokeExternal declarations (.typeParameter (.type declarations.arrayEnumerator) 0)
      (arrayEnumeratorCurrentGet self),self)

def EnumeratesExactly (array : ArrayInstance) (run : List Element × Ending) : Prop :=
  run.2 = .left ∧ run.1.length = array.block.getArrayLength ∧
    ∀ index element, run.1[index]? = some element →
      array.block.shown array.block.underlayingType.info element = array.block.element index

variable {declarations}

theorem constructed_ne_enumerator (address parent : Nat) (elementType : TypeSymbol) :
    declarations.resolveObjectShape (declarations.enumeratorOf address parent) ≠
      some ((Request.constructed declarations.arrayEnumerator [elementType]).key declarations.table) := by
  have apart := declarations.apart
  intro same
  rw [Declarations.resolveObjectShape,Declarations.enumeratorOf,if_neg nofun] at same
  have base := congrArg Key.baseType (Option.some.inj same)
  simp only [Request.key,TypeSymbol.declared.injEq] at base
  simp only [List.nodup_cons,List.mem_cons,List.not_mem_nil,or_false,not_or] at apart
  exact apart.2.2.1 base

/-- No link of the chain holds: the enumerator of an array is not the declared one, and it neither moves nor has a current
element. -/
theorem getEnumerator_raised (address : Nat) (array : ArrayInstance) :
    (arrayProtocol declarations address).getEnumerator array = .raised :=
  if_neg (constructed_ne_enumerator address declarations.iEnumerator array.elementType)

/-- No array is enumerated: an exception is raised before the first turn of the loop. -/
theorem not_enumeratesExactly (declarations : Declarations) (address : Nat) (array : ArrayInstance) (turns : Nat) :
    ¬ EnumeratesExactly array (enumerationLoop (arrayProtocol declarations address) turns array) := by
  rintro ⟨left,_⟩
  rw [enumerationLoop,getEnumerator_raised] at left
  cases left

/-- `struct Boolean`, `struct Integer`, `interface IEnumerator<T>` and `class ArrayEnumerator<T>`, with the types that all
tables have. -/
def builtIn : Declarations where
  table := {
    declarations := [.plainStruct,.plainStruct,{ Types.TypeDeclaration.plainInterface with typeParameters := ["T"] },
      { Types.TypeDeclaration.plainClass with typeParameters := ["T"] },.plainStruct,.plainStruct,.plainClass,
      { Types.TypeDeclaration.plainInterface with typeParameters := ["T"] }]
    any := 4
    null := 5
    array := 6
    iEnumerable := 7
    any_ne_null := Types.four_ne_five }
  boolean := 0
  integer := 1
  iEnumerator := 2
  arrayEnumerator := 3
  apart := by decide

/-- In a loop over two integers an exception is raised. -/
theorem not_enumeratesExactly_pair :
    ¬ ∃ turns, EnumeratesExactly ⟨Arrays.integerPair,.declared 1⟩
      (enumerationLoop (arrayProtocol builtIn 0) turns ⟨Arrays.integerPair,.declared 1⟩) := by
  rintro ⟨turns,left,_⟩
  rw [enumerationLoop,getEnumerator_raised] at left
  cases left

end Arrays

end ShardScript.Enumeration
