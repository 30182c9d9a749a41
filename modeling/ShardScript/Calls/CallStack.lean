import Mathlib.Data.List.Basic

/-! The call stack of the virtual machine, and the type arguments that are pending for its next frame. -/
namespace ShardScript.Calls

inductive TypeSymbol where
  | named (name : String)
  | typeParameter (typeArgumentIndex : Nat)
  | array (underlayingType : TypeSymbol)
  | generic (underlayingType : String) (arguments : List TypeSymbol)

structure MethodSymbol where
  name : String
  isExternal : Bool
  deriving DecidableEq

abbrev TypeArguments := List (Option TypeSymbol)

structure CallStackFrame where
  serial : Nat
  method : MethodSymbol
  typeArguments : TypeArguments

namespace CallStackFrame

def resolveParameter (frame : CallStackFrame) (index : Nat) : Option TypeSymbol :=
  if index < frame.typeArguments.length then frame.typeArguments.getD index none else some (.typeParameter index)

def resolveType (frame : CallStackFrame) : TypeSymbol → Option TypeSymbol
  | .typeParameter index => frame.resolveParameter index
  | type => some type

end CallStackFrame

def resolveRuntimeTypeArgument (resolve : Nat → Option TypeSymbol) : TypeSymbol → TypeSymbol
  | .typeParameter index => (resolve index).getD (.typeParameter index)
  | .array underlayingType => .array (resolveRuntimeTypeArgument resolve underlayingType)
  | type => type

/-- The arguments of a generic type, resolved. A type parameter is resolved again as long as something else comes of it;
where that does not come to an end there is no result. -/
def tryResolveGenericArguments (resolve : Nat → Option TypeSymbol) : (fuel : Nat) → TypeSymbol → Option (List TypeSymbol)
  | _,.generic _ arguments => some (arguments.map (resolveRuntimeTypeArgument resolve))
  | fuel + 1,.typeParameter index =>
      match resolve index with
      | some (.typeParameter other) =>
          if other = index then none else tryResolveGenericArguments resolve fuel (.typeParameter other)
      | some type => tryResolveGenericArguments resolve fuel type
      | none => none
  | _,_ => none

structure VirtualMachine where
  callStack : List CallStackFrame
  pendingTypeArguments : TypeArguments
  pushedFrames : Nat

namespace VirtualMachine

variable (machine : VirtualMachine)

def currentFrame : Option CallStackFrame := machine.callStack.head?

def resolver (index : Nat) : Option TypeSymbol :=
  machine.currentFrame.bind fun frame => frame.resolveParameter index

def rangeOfTypeArguments : Nat :=
  machine.currentFrame.elim 0 fun frame => frame.typeArguments.length

def pushFrame (method : MethodSymbol) (machine : VirtualMachine) : VirtualMachine where
  callStack := ⟨machine.pushedFrames,method,machine.pendingTypeArguments⟩ :: machine.callStack
  pendingTypeArguments := []
  pushedFrames := machine.pushedFrames + 1

def popFrame : VirtualMachine :=
  { machine with callStack := machine.callStack.tail }

def loadTypeArgument (index : Nat) (type : TypeSymbol) (machine : VirtualMachine) : VirtualMachine :=
  { machine with
    pendingTypeArguments := (machine.pendingTypeArguments ++
      List.replicate (index + 1 - machine.pendingTypeArguments.length) none).set index (some type) }

def setPendingTypeArguments (arguments : List TypeSymbol) (machine : VirtualMachine) : VirtualMachine :=
  { machine with pendingTypeArguments := arguments.map some }

def resolvePendingTypeArguments : VirtualMachine :=
  { machine with
    pendingTypeArguments := machine.pendingTypeArguments.map
      (Option.map (resolveRuntimeTypeArgument machine.resolver)) }

def adoptTypeArguments (arguments : List TypeSymbol) (machine : VirtualMachine) : VirtualMachine :=
  match machine.callStack with
  | frame :: frames =>
      if frame.typeArguments = [] then
        { machine with callStack := { frame with typeArguments := arguments.map some } :: frames }
      else machine
  | [] => machine

end VirtualMachine

inductive Entry where
  | invokeMethod
  | instantiateObject (type : TypeSymbol)
  | tryInvokeMethod (typeArguments : List TypeSymbol)

structure Call where
  entry : Entry
  method : MethodSymbol
  thisGenericArguments : List TypeSymbol

/-- Where an invocation itself fails: before its frame is pushed (the number of arguments, the resolution of the method
or of a type, an allocation), where the frame is created, before the body (an argument that cannot be stored, the shape
of the return value, the abort flag), behind the body in `InvokeMethodInternal`, or with its result. -/
inductive Failing where
  | beforeFrame | atFrame | beforeBody | behindBody | atResult
  deriving DecidableEq

inductive Outcome where
  | completed
  | thrown (isStandard : Bool)
  deriving DecidableEq

section Invocation

/-- `InvokeMethodInternal`. A standard exception of an external method becomes a script exception. -/
def invokeMethodInternal (call : Call) (fails : Option Failing) (body : VirtualMachine → Outcome × VirtualMachine)
    (machine : VirtualMachine) : Outcome × VirtualMachine :=
  if fails = some .beforeBody then (.thrown true,machine)
  else match body (machine.adoptTypeArguments call.thisGenericArguments) with
  | (.thrown isStandard,after) =>
      if call.method.isExternal && isStandard then
        if fails = some .behindBody then (.thrown true,after) else (.completed,after)
      else (.thrown isStandard,after)
  | (.completed,after) => if fails = some .behindBody then (.thrown true,after) else (.completed,after)

variable (call : Call)

def invokeMethod (fails : Option Failing) (body : VirtualMachine → Outcome × VirtualMachine)
    (machine : VirtualMachine) : Outcome × VirtualMachine :=
  if fails = some .beforeFrame ∨ fails = some .atFrame then (.thrown true,machine)
  else match invokeMethodInternal call fails body (machine.pushFrame call.method) with
  | (.thrown isStandard,after) => (.thrown isStandard,after)
  -- The result is pushed to the calling frame before the frame is popped.
  | (.completed,after) => if fails = some .atResult then (.thrown true,after) else (.completed,after.popFrame)

def instantiateObject (type : TypeSymbol) (fails : Option Failing)
    (body : VirtualMachine → Outcome × VirtualMachine) (machine : VirtualMachine) : Outcome × VirtualMachine :=
  if fails = some .beforeFrame then (.thrown true,machine)
  else
    let genericArguments := (tryResolveGenericArguments machine.resolver (machine.rangeOfTypeArguments + 1) type).getD []
    let prepared := machine.resolvePendingTypeArguments
    if fails = some .atFrame then (.thrown true,prepared)
    else match invokeMethodInternal call fails body
        ((prepared.pushFrame call.method).adoptTypeArguments genericArguments) with
    | (.thrown isStandard,after) => (.thrown isStandard,after)
    -- The frame is popped before the result is pushed.
    | (.completed,after) => (if fails = some .atResult then .thrown true else .completed,after.popFrame)

def tryInvokeMethod (typeArguments : List TypeSymbol) (fails : Option Failing)
    (body : VirtualMachine → Outcome × VirtualMachine) (machine : VirtualMachine) : Outcome × VirtualMachine :=
  if fails = some .beforeFrame then (.thrown true,machine)
  else
    let prepared := if typeArguments = [] then machine else machine.setPendingTypeArguments typeArguments
    if fails = some .atFrame then (.thrown true,prepared.popFrame)
    else match invokeMethodInternal call fails body (prepared.pushFrame call.method) with
    | (.thrown isStandard,after) => (.thrown isStandard,after.popFrame)
    | (.completed,after) => if fails = some .atResult then (.thrown true,after) else (.completed,after.popFrame)

def invoke (fails : Option Failing) (body : VirtualMachine → Outcome × VirtualMachine)
    (machine : VirtualMachine) : Outcome × VirtualMachine :=
  match call.entry with
  | .invokeMethod => invokeMethod call fails body machine
  | .instantiateObject type => instantiateObject call type fails body machine
  | .tryInvokeMethod typeArguments => tryInvokeMethod call typeArguments fails body machine

def entered (machine : VirtualMachine) : VirtualMachine :=
  VirtualMachine.adoptTypeArguments call.thisGenericArguments
    (match call.entry with
    | .invokeMethod => machine.pushFrame call.method
    | .instantiateObject type =>
        (machine.resolvePendingTypeArguments.pushFrame call.method).adoptTypeArguments
          ((tryResolveGenericArguments machine.resolver (machine.rangeOfTypeArguments + 1) type).getD [])
    | .tryInvokeMethod typeArguments =>
        (if typeArguments = [] then machine else machine.setPendingTypeArguments typeArguments).pushFrame call.method)

theorem VirtualMachine.tail_adoptTypeArguments (arguments : List TypeSymbol) (machine : VirtualMachine) :
    (machine.adoptTypeArguments arguments).callStack.tail = machine.callStack.tail := by
  unfold adoptTypeArguments
  split
  · rename_i frame frames stack
    split
    · rw [stack]
      rfl
    · rfl
  · rfl

@[simp] theorem VirtualMachine.pending_adoptTypeArguments (arguments : List TypeSymbol) (machine : VirtualMachine) :
    (machine.adoptTypeArguments arguments).pendingTypeArguments = machine.pendingTypeArguments := by
  unfold adoptTypeArguments
  split
  · split
    · rfl
    · rfl
  · rfl

theorem entered_pending (machine : VirtualMachine) : (entered call machine).pendingTypeArguments = [] := by
  rw [entered,VirtualMachine.pending_adoptTypeArguments]
  split
  · rfl
  · rw [VirtualMachine.pending_adoptTypeArguments]
    rfl
  · rfl

theorem entered_tail (machine : VirtualMachine) :
    (entered call machine).callStack.tail = machine.callStack := by
  rw [entered,VirtualMachine.tail_adoptTypeArguments]
  split
  · rfl
  · rw [VirtualMachine.tail_adoptTypeArguments]
    rfl
  · split
    · rfl
    · rfl

end Invocation

/-- What a body does, as far as the call stack is concerned. Only a native one catches C++ exceptions. -/
inductive Activity where
  | done
  | throws (isStandard : Bool)
  | loadTypeArgument (index : Nat) (type : TypeSymbol) (rest : Activity)
  | invoke (call : Call) (fails : Option Failing) (body rest : Activity)
  | attempt (body rest : Activity)

namespace Activity

@[grind] def perform : Activity → VirtualMachine → Outcome × VirtualMachine
  | done,machine => (.completed,machine)
  | throws isStandard,machine => (.thrown isStandard,machine)
  | loadTypeArgument index type rest,machine => rest.perform (machine.loadTypeArgument index type)
  | invoke call fails body rest,machine =>
      match Calls.invoke call fails body.perform machine with
      | (.completed,after) => rest.perform after
      | (.thrown isStandard,after) => (.thrown isStandard,after)
  | attempt body rest,machine => rest.perform (body.perform machine).2

end Activity

end ShardScript.Calls
