import ShardScript.Heap.PendingTasks

/-! Tasks, the continuations that are registered with them, and how the virtual machine resumes one. -/
namespace ShardScript.Tasks
open Heap (Payload Frame AsyncState)

structure MethodSymbol where
  number : Nat
  parameters : Nat
  isInstance : Bool
  deriving DecidableEq

def MethodSymbol.evalStackArgumentsCount (method : MethodSymbol) : UInt16 :=
  UInt16.ofNat method.parameters + if method.isInstance then 1 else 0

inductive TypeSymbol where
  | type (isInterface : Bool) (interfaceMethodMap : List (MethodSymbol × MethodSymbol)) (interfaces : List TypeSymbol)

mutual

def findInterfaceImplementation (interfaceMethod : MethodSymbol) : TypeSymbol → Option MethodSymbol
  | .type _ interfaceMethodMap interfaces =>
      match interfaceMethodMap.lookup interfaceMethod with
      | some implementation => some implementation
      | none => findAmong interfaceMethod interfaces

def findAmong (interfaceMethod : MethodSymbol) : List TypeSymbol → Option MethodSymbol
  | [] => none
  | .type isInterface interfaceMethodMap interfaces :: rest =>
      if isInterface then
        match findInterfaceImplementation interfaceMethod (.type isInterface interfaceMethodMap interfaces) with
        | some implementation => some implementation
        | none => findAmong interfaceMethod rest
      else findAmong interfaceMethod rest

end

def moveNext : MethodSymbol := ⟨0,0,true⟩

/-- `IAsyncState`, the type of the fields `_continuation`. It implements nothing itself. -/
def iAsyncState : TypeSymbol := .type true [] []

/-- How a call ends: normally, with an exception, or with the end of the process. -/
inductive Outcome where
  | returned
  | thrown
  | terminated
  deriving DecidableEq

/-- The class `Task`, or `ValueTask` of a type that is by reference or not. -/
inductive TaskKind where
  | task
  | valueTask (isReferenceType : Bool)
  deriving DecidableEq

structure Runtime where
  machine : Heap.Runtime
  references : Payload → Int
  result : Payload → Option Payload
  exception : Payload → Option Payload
  continuation : Payload → Option Payload
  completed : Payload → Bool
  rootedTasks : List Payload
  evalStack : Frame → List Payload
  executions : List (MethodSymbol × List Payload)

/-- What `InvokeMethodInternal` does with the method, its arguments and its frame. -/
abbrev Execute := MethodSymbol → List Payload → Frame → Runtime → Runtime × Outcome

namespace Runtime

variable (runtime : Runtime)

def incrementReference : Option Payload → Runtime
  | some payload =>
      { runtime with references := Function.update runtime.references payload (runtime.references payload + 1) }
  | none => runtime

def decrementReference : Option Payload → Runtime
  | some payload =>
      { runtime with references := Function.update runtime.references payload (runtime.references payload - 1) }
  | none => runtime

def exchange (old new : Option Payload) : Runtime := (runtime.decrementReference old).incrementReference new

variable (task : Payload)

def setContinuation (value : Option Payload) : Runtime :=
  { runtime.exchange (runtime.continuation task) value with
    continuation := Function.update runtime.continuation task value }

def setException (value : Option Payload) : Runtime :=
  { runtime.exchange (runtime.exception task) value with exception := Function.update runtime.exception task value }

def setResult (isReferenceType : Bool) (task : Payload) (value : Option Payload) : Option Runtime :=
  if isReferenceType then
    some { runtime.exchange (runtime.result task) value with result := Function.update runtime.result task value }
  else value.map fun stored => { runtime with result := Function.update runtime.result task (some stored) }

def setTaskState (state : AsyncState) : Runtime :=
  { runtime with machine := runtime.machine.setTaskState task (some state) }

def getTaskState : AsyncState := (runtime.machine.state task).getD .pending

def releaseFrameOwner : Runtime := { runtime with machine := runtime.machine.releaseFrameOwner task }

def unrootTask : Runtime :=
  if task ∈ runtime.rootedTasks then
    { runtime.decrementReference (some task) with rootedTasks := runtime.rootedTasks.erase task }
  else runtime

def pushFrame : Runtime :=
  { runtime with
    machine := runtime.machine.pushFrame
    evalStack := Function.update runtime.evalStack runtime.machine.created [] }

def popFrame : Runtime := { runtime with machine := runtime.machine.popFrame }

def pushStack (frame : Frame) (value : Payload) : Runtime :=
  { runtime with evalStack := Function.update runtime.evalStack frame (value :: runtime.evalStack frame) }

def unwind (root : Frame) : List Frame → Runtime → Runtime
  | [],runtime => runtime
  | frame :: callStack,runtime => if frame = root then runtime else unwind root callStack runtime.popFrame

/-- `InvokeMethod`. `SetLocal` counts the arguments. What leaves by an exception leaves its frame behind. -/
def invokeMethod (execute : Execute) (method : MethodSymbol) (arguments : List Payload) : Runtime × Outcome :=
  if method.evalStackArgumentsCount.toNat ≠ arguments.length then (runtime,.thrown) else
  let called := arguments.foldl (fun runtime argument => runtime.incrementReference (some argument)) runtime.pushFrame
  let executed := execute method arguments runtime.machine.created
    { called with executions := runtime.executions ++ [(method,arguments)] }
  if executed.2 = .returned then (executed.1.popFrame,.returned) else executed

/-- The continuation is counted and out of its field, and lies on the stack of the synthetic root frame. -/
def enter (task continuation : Payload) : Runtime :=
  (((runtime.incrementReference (some continuation)).setContinuation task none).pushFrame).pushStack
    runtime.machine.created continuation

def resumeWith (execute : Execute) (task continuation : Payload) (implementation : MethodSymbol) : Runtime × Outcome :=
  let rootFrame := runtime.machine.created
  let invoked := (runtime.enter task continuation).invokeMethod execute implementation []
  match invoked.2 with
  | .returned => (invoked.1.popFrame.decrementReference (some continuation),.returned)
  | .thrown =>
      (((unwind rootFrame invoked.1.machine.callStack invoked.1).popFrame).decrementReference (some continuation),.thrown)
  | .terminated => invoked

/-- Of a task whose field `_continuation` is declared with the type: it is the type that the value of the field is read
with. -/
def resumeContinuation (execute : Execute) (declared : TypeSymbol) (moveNextMethod : Option MethodSymbol) (task : Payload) :
    Runtime × Outcome :=
  match runtime.continuation task,moveNextMethod.bind fun method => findInterfaceImplementation method declared with
  | some continuation,some implementation => runtime.resumeWith execute task continuation implementation
  | _,_ => (runtime,.returned)

def resume (execute : Execute) (task : Payload) : Runtime × Outcome :=
  runtime.resumeContinuation execute iAsyncState (some moveNext) task

/-- The end of every completion: the frame that owns the task is released, its continuation resumed, and the task is not
rooted any more unless there was an exception. -/
def settle (execute : Execute) (task : Payload) : Runtime × Outcome :=
  let resumed := (runtime.releaseFrameOwner task).resume execute task
  if resumed.2 = .returned then (resumed.1.unrootTask task,.returned) else resumed

end Runtime

def noexcept (result : Runtime × Outcome) : Runtime × Outcome :=
  if result.2 = .thrown then (result.1,.terminated) else result

/-- The functions of `Task` and `ValueTask` that scripts call, and those of the native scopes. -/
inductive Attempt : TaskKind → Type where
  | complete : Attempt .task
  | setException {kind : TaskKind} (exception : Option Payload) : Attempt kind
  | setResult {isReferenceType : Bool} (result : Option Payload) : Attempt (.valueTask isReferenceType)
  | scopeComplete {kind : TaskKind} : Attempt kind
  | valueScopeComplete {isReferenceType : Bool} (value : Option Payload) : Attempt (.valueTask isReferenceType)
  | fail {kind : TaskKind} (exception : Option Payload) : Attempt kind
  | halt {kind : TaskKind} (exception : Payload) : Attempt kind

namespace Runtime

variable (runtime : Runtime) (execute : Execute)

def complete (task : Payload) : Runtime × Outcome :=
  noexcept ((runtime.setTaskState task .completed).settle execute task)

def setExceptionOf (task : Payload) (exception : Option Payload) : Runtime × Outcome :=
  noexcept (((runtime.setTaskState task .faulted).setException task exception).settle execute task)

def settleResult (isReferenceType : Bool) (task : Payload) (result : Option Payload) :
    Runtime × Outcome :=
  let stated := runtime.setTaskState task .completed
  match stated.setResult isReferenceType task result with
  | some stored => stored.settle execute task
  | none => (stated,.thrown)

def setResultOf (isReferenceType : Bool) (task : Payload) (result : Option Payload) :
    Runtime × Outcome :=
  noexcept (runtime.settleResult execute isReferenceType task result)

def ensureCompletedOnce (task : Payload) : Runtime :=
  if runtime.completed task then runtime else { runtime with completed := Function.update runtime.completed task true }

def completeTask (task : Payload) : Runtime × Outcome :=
  ((runtime.ensureCompletedOnce task).setTaskState task .completed).settle execute task

def failTask (task : Payload) (exception : Option Payload) : Runtime × Outcome :=
  (((runtime.ensureCompletedOnce task).setTaskState task .faulted).setException task exception).settle execute task

def setValueTaskResult (isReferenceType : Bool) (task : Payload) (result : Option Payload) :
    Runtime × Outcome :=
  (runtime.ensureCompletedOnce task).settleResult execute isReferenceType task result

def scopeComplete (kind : TaskKind) (task : Payload) : Runtime × Outcome :=
  if runtime.completed task then (runtime,.returned) else
  match kind with
  | .valueTask isReferenceType => runtime.setValueTaskResult execute isReferenceType task none
  | .task => runtime.completeTask execute task

def fail (task : Payload) (exception : Option Payload) : Runtime × Outcome :=
  if runtime.completed task then (runtime,.returned) else runtime.failTask execute task exception

def halt (task : Payload) (exception : Payload) : Runtime × Outcome :=
  if runtime.completed task then (runtime,.returned) else
  let faulted := ((runtime.ensureCompletedOnce task).setTaskState task .faulted).setException task (some exception)
  ((faulted.releaseFrameOwner task).unrootTask task,.returned)

def onCompleted (task : Payload) (continuation : Option Payload) : Runtime × Outcome :=
  let registered := runtime.setContinuation task continuation
  noexcept (if registered.getTaskState task ≠ .pending then registered.resume execute task else (registered,.returned))

end Runtime

def Attempt.perform (execute : Execute) (task : Payload) (runtime : Runtime) :
    {kind : TaskKind} → Attempt kind → Runtime × Outcome
  | _,complete => runtime.complete execute task
  | _,setException exception => runtime.setExceptionOf execute task exception
  | .valueTask isReferenceType,setResult result => runtime.setResultOf execute isReferenceType task result
  | kind,scopeComplete => runtime.scopeComplete execute kind task
  | .valueTask isReferenceType,valueScopeComplete value => runtime.setValueTaskResult execute isReferenceType task value
  | _,fail exception => runtime.fail execute task exception
  | _,halt exception => runtime.halt task exception

end ShardScript.Tasks
