import ShardScript.Arrays.Enumeration
import ShardScript.Host.Invocation

/-! The adapter by which native code enumerates an object: it fails before it has an enumerator. -/
namespace ShardScript.Enumeration
open ShardScript.Types (TypeSymbol)
open Host (Outcome)

structure Implementation where
  returnType : TypeSymbol
  typeParameters : Nat

/-- The result of an invocation with the bytes of its buffer. The null pointer is no value. -/
structure InvokeResult (Value : Type) where
  isOk : Bool
  retSize : Nat
  value : Option Value

structure Objects (Enumerable Enumerator Value : Type) extends
    Protocol Enumerable Enumerator (Option Value) where
  isNullInstance : Enumerable → Bool
  sameInstance : Enumerator → Enumerator → Bool
  findGetEnumerator : Enumerable → Option Implementation
  findMoveNext : Enumerator → Option Implementation
  findCurrent : Enumerator → Option Implementation
  invokeGetEnumerator : Enumerable → Outcome (InvokeResult Enumerator)
  invokeMoveNext : Enumerator → Outcome (InvokeResult Bool) × Enumerator
  invokeCurrent : Enumerator → Outcome (InvokeResult Value) × Enumerator

section Adapter

variable {Enumerable Enumerator Value : Type} (declarations : Declarations)
  (objects : Objects Enumerable Enumerator Value)

/-- The tests of `TryInvokeMethodImpl` for a method without type arguments, whose result is expected to have the shape of
that type. -/
def tryInvokeImplementation {Result : Type} (expected : TypeSymbol) (implementation : Implementation)
    (invoke : Outcome Result) : Outcome Result :=
  if implementation.typeParameters ≠ 0 then .thrown
  else if declarations.resolveObjectShape implementation.returnType ≠ some (declarations.resolveShape expected) then .thrown
  else invoke

/-- `TryInvokeMethod` of `IEnumerable<T>.GetEnumerator`, which is abstract. -/
def tryGetEnumerator (address : Nat) (enumerable : Enumerable) : Outcome (InvokeResult Enumerator) :=
  if objects.isNullInstance enumerable then .thrown
  else
    match objects.findGetEnumerator enumerable with
    | none => .thrown
    | some implementation =>
        tryInvokeImplementation declarations (declarations.enumeratorOf address declarations.table.iEnumerable) implementation
          (objects.invokeGetEnumerator enumerable)

structure Iterator (Enumerator : Type) where
  hasContext : Bool
  enumerator : Enumerator
  moveNext : Implementation
  getCurrent : Implementation
  assigned : Option Nat

namespace Iterator

def create (hasContext : Bool) : Option Enumerator → Outcome (Iterator Enumerator)
  | none => .undefined
  | some enumerator =>
      match objects.findMoveNext enumerator,objects.findCurrent enumerator with
      | some moveNext,some getCurrent => .returned ⟨hasContext,enumerator,moveNext,getCurrent,none⟩
      | _,_ => .thrown

def invalid (iterator : Iterator Enumerator) : Iterator Enumerator := { iterator with hasContext := false }

def increment (iterator : Iterator Enumerator) : Outcome (Iterator Enumerator) :=
  let (moved,enumerator) := objects.invokeMoveNext iterator.enumerator
  match tryInvokeImplementation declarations iterator.moveNext.returnType iterator.moveNext moved with
  | .thrown => .thrown
  | .undefined => .undefined
  | .returned ⟨false,_,_⟩ | .returned ⟨true,_,some false⟩ => .returned { iterator with enumerator := enumerator }.invalid
  | .returned ⟨true,_,none⟩ => .undefined
  | .returned ⟨true,_,some true⟩ =>
      let (current,enumerator) := objects.invokeCurrent enumerator
      match tryInvokeImplementation declarations iterator.getCurrent.returnType iterator.getCurrent current with
      | .thrown => .thrown
      | .undefined => .undefined
      | .returned ⟨false,_,_⟩ => .returned { iterator with enumerator := enumerator }.invalid
      | .returned ⟨true,retSize,_⟩ => .returned { iterator with enumerator := enumerator,assigned := some retSize }

/-- `operator*`. Before the assignment the result has no type, and after it the buffer has been freed with the result that
it was moved from, if there was one. -/
def current (iterator : Iterator Enumerator) : Outcome (Option Value) :=
  match iterator.assigned with
  | some 0 => .returned none
  | none | some (_ + 1) => .undefined

def equals (iterator other : Iterator Enumerator) : Bool :=
  if !iterator.hasContext && !other.hasContext then true
  else if !iterator.hasContext || !other.hasContext then false
  else objects.sameInstance iterator.enumerator other.enumerator

end Iterator

def adapterEnd : Outcome (Iterator Enumerator) := Iterator.create objects false none

def adapterBegin (address : Nat) (enumerable : Enumerable) : Outcome (Iterator Enumerator) :=
  match tryGetEnumerator declarations objects address enumerable with
  | .thrown => .thrown
  | .undefined => .undefined
  | .returned ⟨false,_,_⟩ => .thrown
  | .returned ⟨true,_,none⟩ => adapterEnd objects
  | .returned ⟨true,_,some enumerator⟩ =>
      match Iterator.create objects true (some enumerator) with
      | .thrown => .thrown
      | .undefined => .undefined
      | .returned iterator =>
          match iterator.increment declarations objects with
          | .thrown => .thrown
          | .undefined => .undefined
          | .returned iterator =>
              match (iterator.current : Outcome (Option Value)) with
              | .thrown => .thrown
              | .undefined => .undefined
              | .returned none => adapterEnd objects
              | .returned (some _) => .returned iterator

inductive HostRun (Value : Type) where
  | finished (values : List (Option Value)) (beginEqualsEnd : Bool)
  | thrown
  | undefined
  | unfinished

def advance : Nat → Iterator Enumerator → Iterator Enumerator → List (Option Value) → Bool → HostRun Value
  | 0,_,_,_,_ => .unfinished
  | turns + 1,iterator,last,values,beginEqualsEnd =>
      if iterator.equals objects last then .finished values beginEqualsEnd
      else
        match (iterator.current : Outcome (Option Value)) with
        | .thrown => .thrown
        | .undefined => .undefined
        | .returned value =>
            match iterator.increment declarations objects with
            | .thrown => .thrown
            | .undefined => .undefined
            | .returned next => advance turns next last (values ++ [value]) beginEqualsEnd

def iterate (address turns : Nat) (enumerable : Enumerable) : HostRun Value :=
  match adapterBegin declarations objects address enumerable with
  | .thrown => .thrown
  | .undefined => .undefined
  | .returned first =>
      match adapterEnd objects with
      | .thrown => .thrown
      | .undefined => .undefined
      | .returned last => advance declarations objects turns first last [] (first.equals objects last)

/-- Native code gets the values that the loop visits, and is at the end at once if there are none. -/
def HostRun.Agrees (run : HostRun Value) (visited : List (Option Value)) : Prop :=
  ∃ beginEqualsEnd, run = .finished visited beginEqualsEnd ∧ (beginEqualsEnd = true ↔ visited = [])

variable {declarations objects}

theorem resolveObjectShape_ne_generic (type : TypeSymbol) (address number : Nat) (typeArguments : List TypeSymbol) :
    declarations.resolveObjectShape type ≠ some (declarations.resolveShape (.generic address number typeArguments)) := by
  intro same
  rw [Declarations.resolveObjectShape] at same
  split at same
  · cases same
  · have base := congrArg Types.Key.baseType (Option.some.inj same)
    cases type <;> cases base

theorem tryGetEnumerator_thrown (address : Nat) (enumerable : Enumerable) :
    tryGetEnumerator declarations objects address enumerable = .thrown := by
  rw [tryGetEnumerator]
  split
  · rfl
  · split
    · rfl
    · rw [tryInvokeImplementation]
      split
      · rfl
      · exact if_pos (resolveObjectShape_ne_generic _ _ _ _)

theorem iterate_thrown (address turns : Nat) (enumerable : Enumerable) :
    iterate declarations objects address turns enumerable = .thrown := by
  rw [iterate,adapterBegin,tryGetEnumerator_thrown]

/-- Whatever a loop over the object visits, native code does not get it. -/
theorem not_agrees (declarations : Declarations) (objects : Objects Enumerable Enumerator Value)
    (address loopTurns hostTurns : Nat) (enumerable : Enumerable) :
    ¬ (iterate declarations objects address hostTurns enumerable).Agrees
      (enumerationLoop objects.toProtocol loopTurns enumerable).1 := by
  rintro ⟨beginEqualsEnd,finished,_⟩
  rw [iterate_thrown] at finished
  cases finished

/-- The enumerator of an array. What native methods leave in a buffer after they have failed is not initialised. -/
def arrayObjects (declarations : Declarations) (address : Nat) : Objects ArrayInstance ArrayEnumerator Arrays.Element where
  getEnumerator := (arrayProtocol declarations address).getEnumerator
  moveNext := (arrayProtocol declarations address).moveNext
  current self :=
    let (call,self) := (arrayProtocol declarations address).current self
    (call.map some,self)
  isNullInstance _ := false
  sameInstance self other := decide (self.index = other.index)
  findGetEnumerator _ := some ⟨declarations.enumeratorOf address declarations.iEnumerator,0⟩
  findMoveNext _ := some ⟨.declared declarations.boolean,0⟩
  findCurrent _ := some ⟨.typeParameter (.type declarations.arrayEnumerator) 0,0⟩
  invokeGetEnumerator _ := .undefined
  invokeMoveNext self := (.undefined,self)
  invokeCurrent self := (.undefined,self)

theorem not_agrees_pair : ¬ ∃ loopTurns hostTurns,
    (iterate builtIn (arrayObjects builtIn 0) 1 hostTurns ⟨Arrays.integerPair,.declared 1⟩).Agrees
      (enumerationLoop (arrayObjects builtIn 0).toProtocol loopTurns ⟨Arrays.integerPair,.declared 1⟩).1 := by
  rintro ⟨loopTurns,hostTurns,beginEqualsEnd,finished,_⟩
  rw [iterate_thrown] at finished
  cases finished

end Adapter

end ShardScript.Enumeration
