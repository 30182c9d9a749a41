import ShardScript.Host.Invocation

/-! The creation of an object by native code, beside the instruction that creates one. -/
namespace ShardScript.Host

structure DeclaredType where
  name : String
  isReferenceType : Bool
  deriving DecidableEq

inductive ReturnType where
  | void
  | declared (type : DeclaredType)
  deriving DecidableEq

structure Shape where
  baseType : ReturnType
  genericArguments : List String
  deriving DecidableEq

structure ConstructorSymbol where
  parameters : Nat
  typeParameters : Nat
  evalStackVariablesCount : Nat
  deriving DecidableEq

namespace ConstructorSymbol

def argumentsCount (ctor : ConstructorSymbol) : Nat := (ctor.parameters % 2 ^ 16 + 1) % 2 ^ 16

def localsCount (ctor : ConstructorSymbol) : Nat := (ctor.argumentsCount + ctor.evalStackVariablesCount) % 2 ^ 16

def returnType (_ : ConstructorSymbol) : ReturnType := .void

end ConstructorSymbol

inductive Payload (Content : Type) where
  | reference (address : Nat)
  | inline (content : Content)

structure ObjectInstance (Content : Type) where
  shape : Shape
  payload : Payload Content

structure ConstructorRun (Content : Type) where
  ctor : ConstructorSymbol
  slots : List (Option (ObjectInstance Content))

structure ObjectMachine (Content : Type) where
  heap : List (Shape × Content)
  runs : List (ConstructorRun Content)

namespace ObjectMachine

variable {Content : Type}

def fields (machine : ObjectMachine Content) (value : ObjectInstance Content) : Option Content :=
  match value.payload with
  | .reference address => machine.heap[address]?.map Prod.snd
  | .inline content => some content

end ObjectMachine

section Creation

variable {Content : Type} (zeros : Shape → Content)
  -- What a constructor makes of the heap, if no C++ exception leaves it.
  (body : ConstructorRun Content → List (Shape × Content) → Option (List (Shape × Content)))

def allocate (shape : Shape) (machine : ObjectMachine Content) : ObjectInstance Content × ObjectMachine Content :=
  (⟨shape,.reference machine.heap.length⟩,{ machine with heap := machine.heap ++ [(shape,zeros shape)] })

def runConstructor (run : ConstructorRun Content) (machine : ObjectMachine Content) : Option (ObjectMachine Content) :=
  (body run machine.heap).map fun heap => ⟨heap,machine.runs ++ [run]⟩

def construct (ctor : ConstructorSymbol) (arguments : List (ObjectInstance Content))
    (created : ObjectInstance Content × ObjectMachine Content) : Option (ObjectInstance Content × ObjectMachine Content) :=
  (runConstructor body ⟨ctor,(created.1 :: arguments).map some⟩ created.2).map fun after => (created.1,after)

/-- `NEWOBJECT`, with the arguments on the stack. A structure is created there, and its constructor is given a copy. -/
def instantiateObject (type : DeclaredType) (typeArguments : List String) (ctor : ConstructorSymbol)
    (arguments : List (ObjectInstance Content)) (machine : ObjectMachine Content) :
    Option (ObjectInstance Content × ObjectMachine Content) :=
  if type.isReferenceType then
    construct body ctor arguments (allocate zeros ⟨.declared type,typeArguments⟩ machine)
  else
    construct body ctor arguments
      (⟨⟨.declared type,typeArguments⟩,.inline (zeros ⟨.declared type,typeArguments⟩)⟩,machine)

structure CreationResult (Content : Type) where
  returnType : Shape
  memory : Payload Content

def CreationResult.value (result : CreationResult Content) : ObjectInstance Content := ⟨result.returnType,result.memory⟩

def tryInvokeConstructor (memory : Payload Content) (ctor : ConstructorSymbol) (arguments : List (ObjectInstance Content))
    (typeArguments : List String) (machine : ObjectMachine Content) :
    Outcome (CreationResult Content × ObjectMachine Content) :=
  if ctor.typeParameters ≠ typeArguments.length then .thrown
  -- The return shape of the frame has no type arguments.
  else if (⟨ctor.returnType,[]⟩ : Shape) ≠ ⟨ctor.returnType,typeArguments⟩ then .thrown
  -- There is no slot for an argument.
  else if ctor.localsCount < arguments.length then .thrown
  else
    match runConstructor body
        ⟨ctor,arguments.map some ++ List.replicate (ctor.argumentsCount - arguments.length) none⟩ machine with
    | none => .thrown
    | some after => .returned (⟨⟨ctor.returnType,typeArguments⟩,memory⟩,after)

inductive CreationOverload where
  | plain
  | generic
  deriving DecidableEq

def newObject (overload : CreationOverload) (memory : Payload Content) (type : DeclaredType) (typeArguments : List String)
    (ctor : ConstructorSymbol) (arguments : List (ObjectInstance Content)) (machine : ObjectMachine Content) :
    Outcome (CreationResult Content × ObjectMachine Content) :=
  tryInvokeConstructor body memory ctor arguments (if overload = .generic then typeArguments else [])
    (allocate zeros ⟨.declared type,typeArguments⟩ machine).2

/-- The value of a result is a new instance of the type, with the fields that the instruction gives it, and the
constructor has run once, on that instance. -/
def CreatesAlike (overload : CreationOverload) (memory : Payload Content) (type : DeclaredType)
    (typeArguments : List String) (ctor : ConstructorSymbol) (arguments : List (ObjectInstance Content))
    (machine : ObjectMachine Content) : Prop :=
  ∃ result after other after',
    newObject zeros body overload memory type typeArguments ctor arguments machine = .returned (result,after) ∧
    instantiateObject zeros body type typeArguments ctor arguments machine = some (other,after') ∧
    result.value.shape = ⟨.declared type,typeArguments⟩ ∧ after.fields result.value = after'.fields other ∧
    after.runs = machine.runs ++ [⟨ctor,(result.value :: arguments).map some⟩]

variable {zeros body} {machine after : ObjectMachine Content}

theorem runs_of_runConstructor {run : ConstructorRun Content}
    (ran : runConstructor body run machine = some after) : after.runs = machine.runs ++ [run] := by
  obtain ⟨heap,-,rfl⟩ := Option.map_eq_some_iff.1 ran
  rfl

theorem tryInvokeConstructor_returned {memory : Payload Content} {ctor : ConstructorSymbol}
    {arguments : List (ObjectInstance Content)} {typeArguments : List String}
    {result : CreationResult Content}
    (invoked : tryInvokeConstructor body memory ctor arguments typeArguments machine = .returned (result,after)) :
    result.value.shape.baseType = .void ∧ ∃ count, after.runs = machine.runs ++
      [⟨ctor,arguments.map some ++ List.replicate count none⟩] := by
  unfold tryInvokeConstructor at invoked
  split_ifs at invoked
  split at invoked
  · cases invoked
  · rename_i ran
    cases invoked
    exact ⟨rfl,_,runs_of_runConstructor ran⟩

variable (zeros body)

/-- Native code never creates an object as the instruction does: the value that it is given is none of the type, and
the constructor has its first argument for the instance, if it has any. -/
theorem newObject_never_alike (overload : CreationOverload) (memory : Payload Content) (type : DeclaredType)
    (typeArguments : List String) (ctor : ConstructorSymbol) (arguments : List (ObjectInstance Content))
    (machine : ObjectMachine Content) :
    ¬ CreatesAlike zeros body overload memory type typeArguments ctor arguments machine ∧
      ∀ result after, newObject zeros body overload memory type typeArguments ctor arguments machine =
        .returned (result,after) → result.value.shape.baseType = .void ∧ ∃ count,
          after.runs = machine.runs ++ [⟨ctor,arguments.map some ++ List.replicate count none⟩] := by
  have returned : ∀ result after, newObject zeros body overload memory type typeArguments ctor arguments machine =
      .returned (result,after) → result.value.shape.baseType = .void ∧ ∃ count,
        after.runs = machine.runs ++ [⟨ctor,arguments.map some ++ List.replicate count none⟩] := by
    intro result after created
    obtain ⟨shape,count,runs⟩ := tryInvokeConstructor_returned created
    exact ⟨shape,count,runs⟩
  refine ⟨?_,returned⟩
  rintro ⟨result,after,other,after',created,-,shape,-⟩
  have void := (returned result after created).1
  rw [shape] at void
  cases void

/-- A point is created from a coordinate, which is then the instance of its constructor. -/
theorem point_not_created : ∃ result after,
    newObject (fun _ => (0 : Nat)) (fun _ heap => some heap) .plain (.inline 0) ⟨"Point",true⟩ [] ⟨1,0,0⟩
      [⟨⟨.declared ⟨"Int",false⟩,[]⟩,.inline 5⟩] ⟨[],[]⟩ = .returned (result,after) ∧
    result.value.shape ≠ ⟨.declared ⟨"Point",true⟩,[]⟩ ∧
    after.runs.map (fun run => run.slots.length) = [2] ∧
    (after.runs.head?.bind fun run => run.slots.head?.bind fun slot => slot.bind after.fields) = some 5 := by
  refine ⟨_,_,rfl,?_,rfl,rfl⟩
  intro same
  cases same

end Creation

end ShardScript.Host
