import ShardScript.Library.Machine
import ShardScript.ByteCode.Code

/-! One frame of the virtual machine executing its bytecode: jumps, exception handlers and
deferred expressions. What an instruction does to values is left to a data machine. -/
namespace ShardScript.Runtime
open Library ByteCode

/-- What a data instruction does: it may raise an exception in the frame, or a C++ exception
may leave the interpreter. -/
inductive Effect (Data Exception : Type) where
  | ok (data : Data)
  | raised (exception : Exception) (data : Data)
  | fault

structure DataMachine (Data Exception : Type) where
  execute : Instruction → Data → Effect Data Exception
  popTruth : Data → Option (Bool × Data)
  popNull : Data → Option (Bool × Data)
  popIndex : Data → Option (Int × Data)
  popThrown : Data → Option (Exception × Data)
  returnsValue : Bool
  placeReturned : Data → Option Data
  incrementReference : Exception → Data → Data
  collectInstance : Exception → Data → Data
  /-- A null literal is on the evaluation stack, without a shape. -/
  holdsNullLiteral : Data → Bool
  drainEvalReferences : Data → Data
  pushException : Exception → Data → Data
  pushCurrent : Option Exception → Data → Data
  popCurrent : Option Exception → Data → Option (Option Exception × Data)

/-- The instructions do nothing, and whatever is thrown is the same exception. -/
def DataMachine.idle {Data Exception : Type} (exception : Exception) : DataMachine Data Exception where
  execute _ data := .ok data
  popTruth data := some (false,data)
  popNull data := some (false,data)
  popIndex data := some (0,data)
  popThrown data := some (exception,data)
  returnsValue := false
  placeReturned := some
  incrementReference _ data := data
  collectInstance _ data := data
  holdsNullLiteral _ := false
  drainEvalReferences data := data
  pushException _ data := data
  pushCurrent _ data := data
  popCurrent _ data := some (none,data)

inductive FrameInterruptionReason where
  | none | endOfInstructions | valueReturned | exceptionRaised
  deriving DecidableEq

structure ExceptionHandlerFrame where
  handlerOffset : Nat
  deferStackBase : Nat
  deriving DecidableEq

/-- The interpreter inside a deferred expression: the rest of a `DEFER_DRAIN`, or of the
unwinding to a handler or out of the frame. -/
inductive Activation (Exception : Type) where
  | drain (remaining savedIP : Nat)
  | unwind (targetSize : Nat) (handlerOffset : Option Nat) (exception : Exception)

structure FrameState (Data Exception : Type) where
  ip : Nat
  data : Data
  exceptionHandlers : List ExceptionHandlerFrame
  deferStack : List Nat
  deferDrainDepth : Nat
  activations : List (Activation Exception)
  interruptionReason : FrameInterruptionReason
  currentException : Option Exception

inductive FrameResult (Data Exception : Type) where
  | finished (state : FrameState Data Exception)
  | fault
  | crashed

variable {Data Exception : Type}

namespace FrameState

abbrev Config (Data Exception : Type) := Library.Config (FrameState Data Exception) (FrameResult Data Exception)

def isUnwind : Activation Exception → Bool
  | .unwind _ _ _ => true
  | .drain _ _ => false

/-- An exception leaves the deferred expressions that are being evaluated. Only the unwinding
gives its drain depth back. -/
def raise (exception : Exception) (state : FrameState Data Exception) : FrameState Data Exception :=
  { state with
    interruptionReason := .exceptionRaised
    currentException := some exception
    deferDrainDepth := state.deferDrainDepth - state.activations.countP isUnwind
    activations := [] }

def resumeDrain (remaining savedIP : Nat) (state : FrameState Data Exception) : Config Data Exception :=
  match remaining with
  | 0 => .running { state with ip := savedIP, deferDrainDepth := state.deferDrainDepth - 1 }
  | remaining + 1 =>
    match state.deferStack with
    | [] => .ended .fault
    | target :: deferStack => .running { state with
        ip := target
        deferStack := deferStack
        activations := .drain remaining savedIP :: state.activations }

variable (machine : DataMachine Data Exception)

/-- `DrainDefersTo`, and what `HandleExceptionInFrame` does when it is through. -/
def resumeUnwind (targetSize : Nat) (handlerOffset : Option Nat)
    (exception : Exception) (state : FrameState Data Exception) : Config Data Exception :=
  match state.deferStack with
  | target :: deferStack =>
    if targetSize < state.deferStack.length then
      .running { state with
        ip := target
        deferStack := deferStack
        deferDrainDepth := state.deferDrainDepth + 1
        activations := .unwind targetSize handlerOffset exception :: state.activations }
    else deliver state
  | [] => deliver state
where
  deliver (state : FrameState Data Exception) : Config Data Exception :=
    match handlerOffset with
    | some offset => .running { state with
        ip := offset
        data := machine.incrementReference exception (machine.pushException exception state.data)
        interruptionReason := .none
        currentException := some exception }
    -- The interpreter loop overwrites the reason when it is left.
    | none => .ended (.finished { state with
        data := machine.incrementReference exception state.data
        interruptionReason := .endOfInstructions
        currentException := some exception })

def handleExceptionInFrame (state : FrameState Data Exception) :
    Config Data Exception :=
  match state.currentException with
  | none => .ended .fault
  | some exception =>
    -- `DrainEvalReferences` asks the missing shape for its type.
    if machine.holdsNullLiteral state.data then .ended .crashed
    else
      let drained := { state with
        data := machine.drainEvalReferences state.data
        interruptionReason := .none
        currentException := none }
      match state.exceptionHandlers with
      | handler :: handlers =>
        resumeUnwind machine handler.deferStackBase (some handler.handlerOffset) exception
          { drained with exceptionHandlers := handlers }
      | [] => resumeUnwind machine 0 none exception drained

@[grind] def processCode (code : Code) (instruction : Instruction)
    (state : FrameState Data Exception) : Config Data Exception :=
  match instruction with
  | .nop => .running state
  -- The abort flag makes the interpreter loop throw.
  | .halt => .ended .fault
  | .jump target => .running { state with ip := target }
  | .jumpFalse target =>
    match machine.popTruth state.data with
    | none => .ended .fault
    | some (truth,data) => .running { state with data := data, ip := if truth then state.ip else target }
  | .jumpTrue target =>
    match machine.popTruth state.data with
    | none => .ended .fault
    | some (truth,data) => .running { state with data := data, ip := if truth then target else state.ip }
  | .branchNull target =>
    match machine.popNull state.data with
    | none => .ended .fault
    | some (isNull,data) => .running { state with data := data, ip := if isNull then target else state.ip }
  | .jumpTable targets =>
    match machine.popIndex state.data with
    | none => .ended .fault
    | some (index,data) => .running { state with
        data := data
        ip := if 0 ≤ index then targets.getD index.toNat state.ip else state.ip }
  | .return =>
    if machine.returnsValue then
      match machine.placeReturned state.data with
      | none => .ended .fault
      | some data => .running { state with
          data := data
          ip := code.size
          interruptionReason := .valueReturned
          deferDrainDepth := state.deferDrainDepth - state.activations.countP isUnwind
          activations := [] }
    else .running { state with ip := code.size }
  | .throw =>
    match machine.popThrown state.data with
    | none => .ended .fault
    | some (exception,data) =>
      .running ({ state with data := machine.incrementReference exception data }.raise exception)
  | .rethrow =>
    match state.currentException with
    | none => .ended .fault
    | some exception =>
      .running ({ state with data := machine.incrementReference exception state.data }.raise exception)
  | .enterTry handlerOffset => .running { state with
      exceptionHandlers := ⟨handlerOffset,state.deferStack.length⟩ :: state.exceptionHandlers }
  | .leaveTry => .running { state with exceptionHandlers := state.exceptionHandlers.tail }
  | .endCatch =>
    match state.currentException with
    | none => .running state
    | some exception => .running { state with
        data := machine.collectInstance exception state.data
        currentException := none }
  | .loadCurrentException => .running { state with data := machine.pushCurrent state.currentException state.data }
  | .storeCurrentException =>
    match machine.popCurrent state.currentException state.data with
    | none => .ended .fault
    | some (exception,data) => .running { state with data := data, currentException := exception }
  | .defer target => .running { state with deferStack := target :: state.deferStack }
  | .deferBreak =>
    if state.deferDrainDepth = 0 then .ended .fault
    else
      match state.activations with
      | [] => .running state
      | .drain remaining savedIP :: activations =>
        resumeDrain remaining savedIP { state with activations := activations }
      | .unwind targetSize handlerOffset exception :: activations =>
        resumeUnwind machine targetSize handlerOffset exception { state with
          deferDrainDepth := state.deferDrainDepth - 1
          activations := activations }
  | .deferDrain count =>
    resumeDrain count state.ip { state with deferDrainDepth := state.deferDrainDepth + 1 }
  | instruction =>
    match machine.execute instruction state.data with
    | .ok data => .running { state with data := data }
    | .raised exception data => .running ({ state with data := data }.raise exception)
    | .fault => .ended .fault

/-- One turn of the interpreter loop, or of the loop that evaluates a deferred expression. -/
def step (machine : DataMachine Data Exception) (code : Code) (state : FrameState Data Exception) :
    Config Data Exception :=
  if state.interruptionReason = .exceptionRaised then state.handleExceptionInFrame machine
  else
    match code.fetch state.ip with
    | some instruction => { state with ip := state.ip + instruction.size }.processCode machine code instruction
    -- Past the end `SetCursor` has thrown, and a deferred expression may not reach it.
    | none =>
      if state.ip = code.size ∧ state.activations.isEmpty then
        .ended (.finished { state with interruptionReason := .endOfInstructions })
      else .ended .fault

def observe (code : Code) (state : FrameState Data Exception) : List Instruction :=
  if state.interruptionReason = .exceptionRaised then []
  else (code.fetch state.ip).toList.filter Instruction.isData

end FrameState

def interpreter (machine : DataMachine Data Exception) (code : Code) :
    Machine (FrameState Data Exception) (FrameResult Data Exception) Instruction where
  step := FrameState.step machine code
  observe := FrameState.observe code

def FrameState.initial (data : Data) : FrameState Data Exception where
  ip := 0
  data := data
  exceptionHandlers := []
  deferStack := []
  deferDrainDepth := 0
  activations := []
  interruptionReason := .none
  currentException := none

end ShardScript.Runtime
