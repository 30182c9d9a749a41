import Mathlib.Data.List.Perm.Basic
import ShardScript.Heap.Collector

/-! The records of tasks, the frames that own them, and how many pending tasks a frame has. -/
namespace ShardScript.Heap
open GarbageCollector

abbrev Frame := Nat

abbrev nullPayload : Payload := 0

inductive AsyncState where
  | pending
  | completed
  | faulted
  deriving DecidableEq

structure AsyncRecord where
  isTaskLike : Bool := false
  isFireAndForget : Bool := false
  frameOwner : Option Frame := none
  nativeState : Option Nat := none

structure Runtime where
  collector : GarbageCollector
  records : Payload → AsyncRecord
  /-- The field `State` of what is at the address, if the name of its type is `Task` or `ValueTask`. -/
  state : Payload → Option AsyncState
  callStack : List Frame
  previousFrame : Frame → Option Frame
  pendingTaskCount : Frame → Nat
  created : Frame

namespace Runtime

def initial : Runtime := ⟨.initial,fun _ => {},fun _ => none,[],fun _ => none,fun _ => 0,0⟩

variable (runtime : Runtime) (payload : Payload)

def find : Option AsyncRecord :=
  if payload ∈ runtime.collector.asyncTable then some (runtime.records payload) else none

def entry : AsyncRecord := (runtime.find payload).getD {}

def assign (record : AsyncRecord) : Runtime :=
  { runtime with
    collector := runtime.collector.markTaskLike payload
    records := Function.update runtime.records payload record }

def isTaskLike : Bool := (runtime.find payload).any AsyncRecord.isTaskLike

def markTaskLike : Runtime :=
  runtime.assign payload { runtime.entry payload with isTaskLike := true }

def markFireAndForget : Runtime :=
  runtime.assign payload { runtime.entry payload with isFireAndForget := true }

def setAsyncNativeState (nativeState : Option Nat) : Runtime :=
  runtime.assign payload { runtime.entry payload with nativeState }

def getFrameOwner : Option Frame := (runtime.find payload).bind AsyncRecord.frameOwner

def discount : Option Frame → Runtime
  | some frame =>
      { runtime with
        pendingTaskCount := Function.update runtime.pendingTaskCount frame (runtime.pendingTaskCount frame - 1) }
  | none => runtime

def releaseFrameOwner : Runtime :=
  match runtime.find payload with
  | some record => (runtime.discount record.frameOwner).assign payload { record with frameOwner := none }
  | none => runtime

def bindToFrame : Option Frame → Runtime
  | none => runtime
  | some frame =>
      if payload = nullPayload then runtime else
      let record := runtime.entry payload
      let made := runtime.assign payload record
      if record.frameOwner = some frame then made else
      let bound := (made.releaseFrameOwner payload).assign payload { record with frameOwner := some frame }
      { bound with
        pendingTaskCount := Function.update bound.pendingTaskCount frame (bound.pendingTaskCount frame + 1) }

def isPendingTask : Bool :=
  payload != nullPayload && runtime.isTaskLike payload && runtime.state payload == some .pending

def bindTaskToFrame : Option Frame → Runtime
  | none => runtime
  | some frame =>
      if payload = nullPayload ∨ runtime.isTaskLike payload = false then runtime else
      if runtime.getFrameOwner payload = some frame then runtime else
      let released := runtime.releaseFrameOwner payload
      if released.isPendingTask payload then released.bindToFrame payload (some frame) else released

def setTaskState (state : Option AsyncState) : Runtime :=
  { runtime with state := Function.update runtime.state payload state }

/-- The part that `CompleteTask`, `FailTask`, `SetValueTaskResult`, `FailValueTask` and the functions of scripts share
before they resume the continuation. -/
def complete (state : AsyncState) : Runtime :=
  (runtime.setTaskState payload (some state)).releaseFrameOwner payload

def haltTaskObject : Runtime :=
  if payload = nullPayload ∨ runtime.isTaskLike payload = false then runtime else
  (runtime.setTaskState payload ((runtime.state payload).map fun _ => .faulted)).releaseFrameOwner payload

def shoot : Runtime :=
  if payload = nullPayload then runtime else (runtime.markFireAndForget payload).releaseFrameOwner payload

def pushFrame : Runtime :=
  { runtime with
    callStack := runtime.created :: runtime.callStack
    previousFrame := Function.update runtime.previousFrame runtime.created runtime.callStack.head?
    pendingTaskCount := Function.update runtime.pendingTaskCount runtime.created 0
    created := runtime.created + 1 }

def popFrame : Runtime :=
  match runtime.callStack with
  | [] => runtime
  | frame :: callStack =>
      { runtime with
        callStack
        previousFrame := if runtime.pendingTaskCount frame > 0 then Function.update runtime.previousFrame frame none
          else runtime.previousFrame }

def isLive (frame : Frame) : Prop :=
  frame ∈ runtime.callStack ∨ ∃ payload ∈ runtime.collector.asyncTable, (runtime.records payload).frameOwner = some frame
  deriving Decidable

def owned (frame : Frame) : Nat :=
  runtime.collector.asyncTable.countP fun payload => (runtime.records payload).frameOwner == some frame

def Balanced : Prop := ∀ frame, runtime.isLive frame → runtime.pendingTaskCount frame = runtime.owned frame

end Runtime

inductive Step where
  | pushFrame
  | popFrame
  | heap (operation : Operation)
  /-- `SetTaskState`, also of a new task, or the memory is now that of something else. -/
  | setTaskState (payload : Payload) (state : Option AsyncState)
  | markTaskLike (payload : Payload)
  | markFireAndForget (payload : Payload)
  | setAsyncNativeState (payload : Payload) (nativeState : Option Nat)
  | bindToFrame (payload : Payload) (frame : Option Frame)
  | bindTaskToFrame (payload : Payload) (frame : Option Frame)
  | releaseFrameOwner (payload : Payload)
  | complete (payload : Payload) (state : AsyncState)
  | haltTaskObject (payload : Payload)
  | shoot (payload : Payload)

namespace Step

def perform (runtime : Runtime) : Step → Option Runtime
  | pushFrame => some runtime.pushFrame
  | popFrame => some runtime.popFrame
  | heap (.markTaskLike payload) => some (runtime.markTaskLike payload)
  | heap operation => (operation.perform runtime.collector).map fun collector => { runtime with collector }
  | setTaskState payload state => some (runtime.setTaskState payload state)
  | markTaskLike payload => some (runtime.markTaskLike payload)
  | markFireAndForget payload => some (runtime.markFireAndForget payload)
  | setAsyncNativeState payload nativeState => some (runtime.setAsyncNativeState payload nativeState)
  | bindToFrame payload frame =>
      if ∀ owner ∈ frame, runtime.isLive owner then some (runtime.bindToFrame payload frame) else none
  | bindTaskToFrame payload frame =>
      if ∀ owner ∈ frame, runtime.isLive owner then some (runtime.bindTaskToFrame payload frame) else none
  | releaseFrameOwner payload => some (runtime.releaseFrameOwner payload)
  | complete payload state => some (runtime.complete payload state)
  | haltTaskObject payload => some (runtime.haltTaskObject payload)
  | shoot payload => some (runtime.shoot payload)

def performAll (steps : List Step) (runtime : Runtime) : Option Runtime := steps.foldlM perform runtime

end Step

namespace GarbageCollector

def isActive (collector : GarbageCollector) (payload : Payload) : Bool :=
  (collector.memory payload).any fun object => !object.terminated

/-- What of the operation destroys instances. `SetStaticField` first releases the value that it replaces. -/
def release (collector : GarbageCollector) : Operation → Option GarbageCollector
  | .destroyInstance value => collector.destroyInstance value
  | .collectInstance value => collector.collectInstance value
  | .setStaticField _ _ .null => some collector
  | .setStaticField _ field _ => collector.releaseRecorded field
  | _ => some collector

def destroys (collector : GarbageCollector) (payload : Payload) : Operation → Bool
  | .terminate => true
  | operation => collector.isActive payload && (collector.release operation).any fun after => !after.isActive payload

end GarbageCollector

/-- An instance that the step destroys has no frame owner, or the frame is off the call stack and the step destroys all
that it owns, and so the frame too. -/
def Spares (runtime : Runtime) : Step → Prop
  | .heap operation =>
      ∀ payload ∈ runtime.collector.asyncTable, runtime.collector.destroys payload operation = true →
        ∀ frame ∈ (runtime.records payload).frameOwner, frame ∉ runtime.callStack ∧
          ∀ other ∈ runtime.collector.asyncTable, (runtime.records other).frameOwner = some frame →
            runtime.collector.destroys other operation = true
  | _ => True

def AllSpare : Runtime → List Step → Prop
  | _,[] => True
  | runtime,step :: steps => Spares runtime step ∧ ∀ after ∈ step.perform runtime, AllSpare after steps

end ShardScript.Heap
