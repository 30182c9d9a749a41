import ShardScript.Runtime.Frame

/-! Nested invocations: interpreter loops on the bytecode of methods and calls of native code, with the script
exceptions and the C++ exceptions that leave them. -/
namespace ShardScript.Runtime
open Library ByteCode

structure Method where
  executableByteCode : Code
  returnsValue : Bool

inductive Callee (Data Native : Type) where
  | body (method : Method) (data : Data)
  | external (native : Native) (data : Data)

inductive NativeAction (Data Native Exception : Type) where
  | returned (raised : Option Exception) (data : Data)
  | thrown (data : Data)
  | invoked (callee : Callee Data Native) (native : Native) (data : Data)

structure CallMachine (Data Native Exception : Type) extends DataMachine Data Exception where
  invocation : Instruction → Data → Option (Callee Data Native × Data)
  perform : Native → Data → NativeAction Data Native Exception
  /-- The caller behind an invocation, with the returned value pushed. Native code is told what was raised. -/
  complete : Option Exception → (callee caller : Data) → Data
  abandon : (callee caller : Data) → Data
  createRuntimeException : Data → Exception × Data

variable {Data Native Exception : Type}

def CallMachine.within (machine : CallMachine Data Native Exception) (method : Method) : DataMachine Data Exception :=
  { machine.toDataMachine with returnsValue := method.returnsValue }

inductive Invocation (Data Native Exception : Type) where
  | bytecode (method : Method) (state : FrameState Data Exception)
  | external (native : Native) (data : Data)

namespace Invocation

def isBytecode : Invocation Data Native Exception → Bool
  | bytecode _ _ => true
  | external _ _ => false

def data : Invocation Data Native Exception → Data
  | bytecode _ state => state.data
  | external _ data => data

def withData (data : Data) : Invocation Data Native Exception → Invocation Data Native Exception
  | bytecode method state => bytecode method { state with data := data }
  | external native _ => external native data

def exceptionHandlers : Invocation Data Native Exception → List ExceptionHandlerFrame
  | bytecode _ state => state.exceptionHandlers
  | external _ _ => []

def deferStack : Invocation Data Native Exception → List Nat
  | bytecode _ state => state.deferStack
  | external _ _ => []

def currentlyRaises : Invocation Data Native Exception → Prop
  | bytecode _ state => state.interruptionReason = .exceptionRaised
  | external _ _ => False

def activations : Invocation Data Native Exception → List (Activation Exception)
  | bytecode _ state => state.activations
  | external _ _ => []

@[simp] theorem isBytecode_withData (data : Data) (invocation : Invocation Data Native Exception) :
    (invocation.withData data).isBytecode = invocation.isBytecode := by
  cases invocation with
  | bytecode method state => rfl
  | external native data => rfl

def raise (exception : Exception) : Invocation Data Native Exception → Invocation Data Native Exception
  | bytecode method state => bytecode method (state.raise exception)
  | external native data => external native data

end Invocation

def Callee.start : Callee Data Native → Invocation Data Native Exception
  | body method data => .bytecode method (.initial data)
  | external native data => .external native data

structure Thread (Data Native Exception : Type) where
  top : Invocation Data Native Exception
  below : List (Invocation Data Native Exception)
  isUnwinding : Bool

def Thread.invocations (thread : Thread Data Native Exception) : List (Invocation Data Native Exception) :=
  thread.top :: thread.below

inductive RunResult (Exception : Type) where
  | finished (unhandledException : Option Exception)
  | thrown
  | crashed

def FrameState.raised (state : FrameState Data Exception) : Option Exception :=
  if state.interruptionReason = .exceptionRaised then state.currentException else none

namespace Thread

abbrev Config (Data Native Exception : Type) := Library.Config (Thread Data Native Exception) (RunResult Exception)

section Step
variable (machine : CallMachine Data Native Exception)

/-- The end of `InvokeMethodInternal` and of `InvokeMethod`, or of `Run`. -/
def completed (raised : Option Exception) (data : Data) :
    List (Invocation Data Native Exception) → Config Data Native Exception
  | [] => .ended (.finished raised)
  | caller :: below =>
    let completed := caller.withData (machine.complete raised data caller.data)
    .running ⟨match raised with
      | some exception => completed.raise exception
      | none => completed,below,false⟩

def nextInvocation (method : Method) (state : FrameState Data Exception) :
    Option (Callee Data Native × FrameState Data Exception) :=
  if state.interruptionReason = .exceptionRaised then none
  else
    match method.executableByteCode.fetch state.ip with
    | some instruction =>
      if instruction.isData then
        (machine.invocation instruction state.data).map fun invoked =>
          (invoked.1,{ state with ip := state.ip + instruction.size, data := invoked.2 })
      else none
    | none => none

def bytecodeStep (method : Method) (state : FrameState Data Exception)
    (below : List (Invocation Data Native Exception)) : Config Data Native Exception :=
  match nextInvocation machine method state with
  | some (callee,state) => .running ⟨callee.start,.bytecode method state :: below,false⟩
  | none =>
    match state.step (machine.within method) method.executableByteCode with
    | .running next => .running ⟨.bytecode method next,below,false⟩
    | .ended (.finished last) => completed machine last.raised last.data below
    | .ended .fault => .running ⟨.bytecode method state,below,true⟩
    | .ended .crashed => .ended .crashed

def externalStep (native : Native) (data : Data) (below : List (Invocation Data Native Exception)) :
    Config Data Native Exception :=
  match machine.perform native data with
  | .returned raised data => completed machine raised data below
  | .thrown data => .running ⟨.external native data,below,true⟩
  | .invoked callee native data => .running ⟨callee.start,.external native data :: below,false⟩

def unwindStep (top : Invocation Data Native Exception) (below : List (Invocation Data Native Exception)) :
    Config Data Native Exception :=
  match top,below with
  | .external _ data,below =>
    completed machine (some (machine.createRuntimeException data).1) (machine.createRuntimeException data).2 below
  | .bytecode _ _,[] => .ended .thrown
  | .bytecode _ state,caller :: below =>
    .running ⟨caller.withData (machine.abandon state.data caller.data),below,true⟩

def step (thread : Thread Data Native Exception) : Config Data Native Exception :=
  if thread.isUnwinding then unwindStep machine thread.top thread.below
  else
    match thread.top with
    | .bytecode method state => bytecodeStep machine method state thread.below
    | .external native data => externalStep machine native data thread.below

end Step
end Thread

def virtualMachine (machine : CallMachine Data Native Exception) :
    Machine (Thread Data Native Exception) (RunResult Exception) Unit where
  step := Thread.step machine
  observe _ := []

/-- A thread beside `CallStack`, where the frames that C++ exceptions have passed by are left: `left` counts, for each
invocation, those above its own frame. -/
structure StackedThread (Data Native Exception : Type) extends Thread Data Native Exception where
  left : List Nat

namespace StackedThread

abbrev Config (Data Native Exception : Type) :=
  Library.Config (StackedThread Data Native Exception) (RunResult Exception)

variable (machine : CallMachine Data Native Exception) (stacked : StackedThread Data Native Exception)

/-- The frame that was on top when the invocation was made, its `PreviousFrame`, is the frame of its caller. -/
def isHeard : Bool := stacked.left.tail.headD 0 = 0

/-- The result is pushed to a frame that nobody executes. -/
def unheard : CallMachine Data Native Exception :=
  { machine with complete := fun _ callee caller => machine.abandon callee caller }

/-- The call stack behind a step. `PopFrame` takes the frame on top, whichever it is. -/
def settle (next : Thread Data Native Exception) : StackedThread Data Native Exception :=
  let frames := stacked.left.headD 0 + stacked.left.tail.headD 0
  if stacked.below.length < next.below.length then ⟨next,0 :: stacked.left⟩
  else if next.below.length = stacked.below.length then ⟨next,stacked.left⟩
  else if next.isUnwinding then ⟨next,(frames + 1) :: stacked.left.drop 2⟩
  else if stacked.isHeard then ⟨next,frames :: stacked.left.drop 2⟩
  else ⟨⟨(stacked.below.headD stacked.top).withData next.top.data,next.below,false⟩,frames :: stacked.left.drop 2⟩

def step : Config Data Native Exception :=
  match stacked.toThread.step (if stacked.isHeard then machine else unheard machine) with
  | .running next => .running (stacked.settle next)
  | .ended result => .ended result

variable {machine stacked} {next : StackedThread Data Native Exception}

theorem step_eq_running (step : stacked.step machine = .running next) : ∃ settled,
    stacked.toThread.step (if stacked.isHeard then machine else unheard machine) = .running settled ∧
      next = stacked.settle settled := by
  unfold StackedThread.step at step
  split at step
  · rename_i settled found
    exact ⟨settled,found,(Config.running.inj step).symm⟩
  · cases step

theorem settle_below (settled : Thread Data Native Exception) : (stacked.settle settled).below = settled.below := by
  dsimp only [settle]
  split_ifs
  all_goals rfl

theorem settle_deeper {settled : Thread Data Native Exception}
    (deeper : stacked.below.length ≤ settled.below.length) : (stacked.settle settled).toThread = settled := by
  dsimp only [settle]
  split_ifs with calls stays
  · rfl
  · rfl
  all_goals omega

end StackedThread

def stackedMachine (machine : CallMachine Data Native Exception) :
    Machine (StackedThread Data Native Exception) (RunResult Exception) Unit where
  step := StackedThread.step machine
  observe _ := []

end ShardScript.Runtime
