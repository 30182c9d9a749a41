import ShardScript.Heap.PendingTasks
import ShardScript.Runtime.Delivery

/-! Faulted tasks that scripts observe. The native functions write to the frame that they pick themselves, and the virtual
machine looks at the frames when they have returned. -/
namespace ShardScript.Observation
open Library ByteCode ShardScript.Runtime
open Heap (AsyncState)

/-- The methods of `Task` and `ValueTask` that a script observes a task with, and the global `Wait`. -/
inductive ObservingMethod where
  | taskGetResult
  | taskWait
  | staticTaskWait
  | globalWait
  | valueTaskGetResult
  | valueTaskResult
  | valueTaskWait
  | staticValueTaskWait
  deriving DecidableEq

inductive Callback where
  | getResult
  | wait
  deriving DecidableEq

/-- What is set with `SetCallback`. The functions of the two classes differ only in the fields that they read. -/
def ObservingMethod.callback : ObservingMethod → Callback
  | taskGetResult | valueTaskGetResult | valueTaskResult => .getResult
  | taskWait | staticTaskWait | globalWait | valueTaskWait | staticValueTaskWait => .wait

/-- What a native function has written when it returns: to its own frame, and as an exception to its `PreviousFrame`, the
frame that was on top of the call stack at its call. Whether the caller hears of that is left to the call stack. -/
structure Written (Data Exception : Type) where
  data : Data
  interruptionReason : FrameInterruptionReason
  currentException : Option Exception
  previousException : Option Exception

variable {Data Native Exception : Type}

def NativeAction.ofWritten (written : Written Data Exception) : NativeAction Data Native Exception :=
  let reason : FrameInterruptionReason :=
    if written.interruptionReason = .valueReturned then .valueReturned else .endOfInstructions
  -- what is left of the switch over the reasons hands `CurrentException` on
  .returned (if reason = .exceptionRaised then written.currentException else written.previousException) written.data

/-- A machine with the observing methods among its native code. Its own `perform` says what they do with a task that is not
faulted, or has no exception: the result is placed, and the event loop runs as long as the task is pending. -/
structure TaskMachine (Data Native Exception : Type) extends CallMachine Data (ObservingMethod ⊕ Native) Exception where
  state : Data → AsyncState
  exception : Data → Option Exception

namespace TaskMachine

variable (machine : TaskMachine Data Native Exception)

/-- `shard_async_Task_GetResult` and `shard_async_ValueTask_GetResult` -/
def getResult (method : ObservingMethod) (data : Data) : NativeAction Data (ObservingMethod ⊕ Native) Exception :=
  match machine.state data,machine.exception data with
  | .faulted,some exception =>
      NativeAction.ofWritten ⟨machine.incrementReference exception data,.exceptionRaised,some exception,none⟩
  | _,_ => machine.perform (.inl method) data

/-- `shard_async_Task_Wait` and `shard_async_ValueTask_Wait`; an outermost frame has no `PreviousFrame`. -/
def wait (isOutermost : Bool) (method : ObservingMethod) (data : Data) :
    NativeAction Data (ObservingMethod ⊕ Native) Exception :=
  match machine.state data with
  | .pending => machine.perform (.inl method) data
  | .completed => NativeAction.ofWritten ⟨data,.none,none,none⟩
  | .faulted =>
      match machine.exception data with
      | some exception =>
          if isOutermost then .thrown data
          else NativeAction.ofWritten ⟨machine.incrementReference exception data,.none,none,some exception⟩
      | none => .thrown data

def observe (isOutermost : Bool) (method : ObservingMethod) (data : Data) :
    NativeAction Data (ObservingMethod ⊕ Native) Exception :=
  match method.callback with
  | .getResult => machine.getResult method data
  | .wait => machine.wait isOutermost method data

def virtual (isOutermost : Bool) : CallMachine Data (ObservingMethod ⊕ Native) Exception :=
  { machine.toCallMachine with
    perform := fun native data => match native with
      | .inl method => machine.observe isOutermost method data
      | .inr other => machine.perform (.inr other) data }

def run : Machine (StackedThread Data (ObservingMethod ⊕ Native) Exception) (RunResult Exception) Unit where
  step stacked := stacked.step (machine.virtual stacked.below.isEmpty)
  observe _ := []

theorem runs : StackedThread.Runs machine.run machine.toDataMachine :=
  fun stacked => ⟨machine.virtual stacked.below.isEmpty,rfl,rfl⟩

end TaskMachine

section Rethrowing
variable (machine : TaskMachine Data Native Exception)

/-- The frame is left with the exception for its caller. -/
def HandsOn (observer : Method) (raised : FrameState Data Exception)
    (below : List (Invocation Data (ObservingMethod ⊕ Native) Exception)) (left : List Nat) (exception : Exception) : Prop :=
  ∃ state last left', machine.run.Reaches (fun stacked => below.length ≤ stacked.below.length)
      ⟨⟨.bytecode observer raised,below,false⟩,left⟩ ⟨⟨.bytecode observer state,below,false⟩,left'⟩ ∧
    state.step (machine.within observer) observer.executableByteCode = .ended (.finished last) ∧
    last.raised = some exception

def IsDelivered (observer : Method) (raised : FrameState Data Exception)
    (below : List (Invocation Data (ObservingMethod ⊕ Native) Exception)) (left : List Nat) (exception : Exception) : Prop :=
  match raised.exceptionHandlers with
  | _ :: _ => StackedThread.Enters machine.run machine.toDataMachine observer raised below left exception
  | [] => HandsOn machine observer raised below left exception

/-- The observation that is on top ends with the exception, raised in the frame behind it and brought to the code of
its handler or to its caller. -/
def Rethrows (stacked : StackedThread Data (ObservingMethod ⊕ Native) Exception) (observer : Method)
    (state : FrameState Data Exception) (below : List (Invocation Data (ObservingMethod ⊕ Native) Exception))
    (exception : Exception) : Prop :=
  ∃ data left, machine.run.step stacked =
      .running ⟨⟨.bytecode observer ({ state with data := data }.raise exception),below,false⟩,left⟩ ∧
    IsDelivered machine observer ({ state with data := data }.raise exception) below left exception

variable {machine} {observer : Method} {below : List (Invocation Data (ObservingMethod ⊕ Native) Exception)} {exception : Exception}

theorem not_handsOn {raised : FrameState Data Exception} {left : List Nat} :
    ¬HandsOn machine observer raised below left exception := by
  rintro ⟨state,last,left',-,finished,hands⟩
  rw [FrameState.step_finished finished] at hands
  cases hands

theorem isDelivered_iff {state : FrameState Data Exception} {left : List Nat} :
    IsDelivered machine observer (state.raise exception) below left exception ↔
      state.exceptionHandlers ≠ [] ∧ StackedThread.Drains machine.run observer (state.raise exception) below left := by
  have same : (state.raise exception).exceptionHandlers = state.exceptionHandlers := rfl
  have enters : StackedThread.Enters machine.run machine.toDataMachine observer (state.raise exception) below left exception ↔
      StackedThread.Drains machine.run observer (state.raise exception) below left :=
    StackedThread.enters_iff machine.runs rfl rfl rfl
  rw [IsDelivered,same]
  cases handlers : state.exceptionHandlers with
  | nil => exact ⟨fun handed => absurd handed not_handsOn,fun handled => absurd rfl handled.1⟩
  | cons handler others => exact enters.trans ⟨fun drains => ⟨List.cons_ne_nil _ _,drains⟩,And.right⟩

/-- The observing frame as it goes on when `Wait` has raised the exception in it. -/
def TaskMachine.observed (machine : TaskMachine Data Native Exception) (data : Data) (exception : Exception)
    (state : FrameState Data Exception) : FrameState Data Exception :=
  { state with
    data := machine.complete (some exception) (machine.incrementReference exception data) state.data }.raise exception

def faulting : TaskMachine Unit Unit String where
  toDataMachine := .idle "e"
  invocation instruction data :=
    if instruction = .callMethodSymbol 1 then some (.external (.inl .globalWait) (),data)
    else if instruction = .callMethodSymbol 2 then some (.external (.inl .taskGetResult) (),data)
    else none
  perform _ data := .returned none data
  complete _ _ caller := caller
  abandon _ caller := caller
  createRuntimeException data := ("RuntimeException",data)
  state _ := .faulted
  exception _ := some "e"

def observing : FrameState Unit String := { FrameState.initial () with ip := 20, exceptionHandlers := [⟨32,0⟩] }

end Rethrowing

end ShardScript.Observation
