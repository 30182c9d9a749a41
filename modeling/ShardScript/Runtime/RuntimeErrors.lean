import ShardScript.Runtime.Delivery

/-! C++ exceptions of instructions, which leave the frames that they pass by on the call stack. -/
namespace ShardScript.Runtime
open Library ByteCode

variable {Data Native Exception : Type} {machine : CallMachine Data Native Exception}

namespace Invocation

def IsPassable (invocation : Invocation Data Native Exception) : Prop :=
  invocation.exceptionHandlers = [] ∧ invocation.deferStack = []

end Invocation

namespace Thread

structure Fails (machine : CallMachine Data Native Exception) (method : Method) (state : FrameState Data Exception) :
    Prop where
  runs : state.interruptionReason ≠ .exceptionRaised
  fetches : ∃ instruction, method.executableByteCode.fetch state.ip = some instruction ∧ instruction ≠ .halt
  invokesNothing : nextInvocation machine method state = none
  faults : state.step (machine.within method) method.executableByteCode = .ended .fault

theorem step_fails {method : Method} {state : FrameState Data Exception}
    {below : List (Invocation Data Native Exception)} (fails : Fails machine method state) :
    Thread.step machine ⟨.bytecode method state,below,false⟩ =
      .running ⟨.bytecode method state,below,true⟩ := by
  change bytecodeStep machine method state below = _
  unfold bytecodeStep
  rw [fails.invokesNothing]
  simp only
  rw [fails.faults]

end Thread

namespace StackedThread

inductive Unwinds (machine : CallMachine Data Native Exception) :
    StackedThread Data Native Exception → StackedThread Data Native Exception → Prop
  | settled {stacked next : StackedThread Data Native Exception} (step : stacked.step machine = .running next)
      (settled : next.isUnwinding = false) : Unwinds machine stacked next
  | further {stacked next last : StackedThread Data Native Exception} (step : stacked.step machine = .running next)
      (unwinding : next.isUnwinding = true) (rest : Unwinds machine next last) : Unwinds machine stacked last

/-- The exception is raised in the innermost of the frames that have a handler, no deferred expression of the frames
above has been left out, and the call stack is as the frame has found it when it made its call. -/
def Delivered (machine : CallMachine Data Native Exception) (stacked : StackedThread Data Native Exception) : Prop :=
  ∃ above method state below data origin exception,
    stacked.invocations = above ++ .bytecode method state :: below ∧
    state.exceptionHandlers ≠ [] ∧ (∀ invocation ∈ above, invocation.IsPassable) ∧
    exception = (machine.createRuntimeException origin).1 ∧
    Unwinds machine stacked
      ⟨⟨.bytecode method ({ state with data := data }.raise exception),below,false⟩,stacked.left.drop above.length⟩

variable {state : FrameState Data Exception}

/-- What native code throws is delivered to a handler of the frame that has called it. -/
theorem thrown_delivered {native : Native} {data thrown : Data} {method : Method}
    (below : List (Invocation Data Native Exception)) (left : List Nat) (throws : machine.perform native data = .thrown thrown)
    (handler : state.exceptionHandlers ≠ []) :
    Delivered machine ⟨⟨.external native data,.bytecode method state :: below,false⟩,0 :: 0 :: left⟩ := by
  have raises : Thread.step machine ⟨.external native data,.bytecode method state :: below,false⟩ =
      .running ⟨.external native thrown,.bytecode method state :: below,true⟩ := by
    change Thread.externalStep machine native data _ = _
    rw [Thread.externalStep,throws]
  have first : StackedThread.step machine
      ⟨⟨.external native data,.bytecode method state :: below,false⟩,0 :: 0 :: left⟩ =
        .running ⟨⟨.external native thrown,.bytecode method state :: below,true⟩,0 :: 0 :: left⟩ := by
    unfold StackedThread.step
    rw [show isHeard _ = true from rfl,if_pos rfl,raises]
    simp [settle]
  have second : ∃ data, StackedThread.step machine
      ⟨⟨.external native thrown,.bytecode method state :: below,true⟩,0 :: 0 :: left⟩ =
        .running ⟨⟨.bytecode method ({ state with data := data }.raise (machine.createRuntimeException thrown).1),
          below,false⟩,0 :: left⟩ := by
    refine ⟨machine.complete (some (machine.createRuntimeException thrown).1)
      (machine.createRuntimeException thrown).2 state.data,?_⟩
    unfold StackedThread.step
    rw [show isHeard _ = true from rfl,if_pos rfl]
    dsimp only [Thread.step,Thread.unwindStep,Thread.completed,if_true]
    simp [settle,isHeard]
    rfl
  obtain ⟨received,second⟩ := second
  exact ⟨[.external native data],method,state,below,received,thrown,_,rfl,handler,
    List.forall_mem_singleton.mpr ⟨rfl,rfl⟩,rfl,.further first rfl (.settled second rfl)⟩

/-- There is a count for the frame of each invocation. -/
def IsAligned (stacked : StackedThread Data Native Exception) : Prop := stacked.left.length = stacked.below.length + 1

/-- The frames above the outermost one that are on the call stack. -/
def frames (stacked : StackedThread Data Native Exception) : Nat := stacked.left.sum + stacked.below.length

variable {stacked next last : StackedThread Data Native Exception} {settled : Thread Data Native Exception}

theorem settle_popped (aligned : stacked.IsAligned)
    (shorter : settled.below.length + 1 = stacked.below.length) : (stacked.settle settled).IsAligned ∧
      (stacked.settle settled).frames + 1 = stacked.frames + if settled.isUnwinding then 1 else 0 := by
  obtain ⟨thread,left⟩ := stacked
  dsimp only [IsAligned,frames] at *
  obtain _ | ⟨own,_ | ⟨between,left⟩⟩ := left
  · cases aligned
  · simp only [List.length_singleton] at aligned
    omega
  · dsimp only [settle]
    rw [if_neg (by omega),if_neg (by omega)]
    split_ifs
    all_goals
      simp only [List.length_cons,List.sum_cons,List.headD_cons,List.tail_cons,List.drop_succ_cons,List.drop_zero] at *
      omega

theorem settle_level (level : settled.below.length = stacked.below.length) :
    stacked.settle settled = ⟨settled,stacked.left⟩ := by
  dsimp only [settle]
  rw [if_neg (by omega),if_pos level]

theorem aligned_step (aligned : stacked.IsAligned) (step : stacked.step machine = .running next) : next.IsAligned := by
  obtain ⟨settled,found,rfl⟩ := step_eq_running step
  obtain more | level | shorter := (Thread.step_moves found).length
  · unfold IsAligned
    dsimp only [settle]
    rw [if_pos (by omega)]
    simp [more,show stacked.left.length = _ from aligned]
  · rw [settle_level level]
    unfold IsAligned
    rw [level]
    exact aligned
  · exact (settle_popped aligned shorter).1

theorem aligned_reached {entry : Invocation Data Native Exception}
    (reached : (stackedMachine machine).Reaches (fun _ => True) ⟨⟨entry,[],false⟩,[0]⟩ stacked) : stacked.IsAligned :=
  reached.invariant rfl fun _ _ aligned _ step => aligned_step aligned step

/-- A C++ exception takes no frame but that of the native code which catches it off the call stack. -/
theorem step_unwinding (aligned : stacked.IsAligned) (unwinding : stacked.isUnwinding = true)
    (step : stacked.step machine = .running next) : next.IsAligned ∧
      next.below.length + 1 = stacked.below.length ∧ next.isUnwinding = stacked.top.isBytecode ∧
      next.frames + 1 = stacked.frames + if next.isUnwinding then 1 else 0 := by
  obtain ⟨settled,found,rfl⟩ := step_eq_running step
  have popped : settled.below.length + 1 = stacked.below.length ∧ settled.isUnwinding = stacked.top.isBytecode := by
    obtain ⟨⟨top,below,isUnwinding⟩,left⟩ := stacked
    obtain rfl : isUnwinding = true := unwinding
    cases below with
    | nil => cases top <;> cases found
    | cons caller below =>
      cases top with
      | external native data =>
        obtain rfl := Config.running.inj found
        exact ⟨rfl,rfl⟩
      | bytecode method state =>
        obtain rfl := Config.running.inj found
        exact ⟨rfl,rfl⟩
  have same : (stacked.settle settled).isUnwinding = settled.isUnwinding := by
    dsimp only [settle]
    split_ifs with _ _ unwinds
    · rfl
    · rfl
    · rfl
    · rfl
    · exact (Bool.eq_false_of_not_eq_true unwinds).symm
  obtain ⟨aligned,frames⟩ := settle_popped aligned popped.1
  rw [same,settle_below]
  exact ⟨aligned,popped.1,popped.2,frames⟩

theorem Unwinds.frames (unwinds : Unwinds machine stacked last) (aligned : stacked.IsAligned)
    (unwinding : stacked.isUnwinding = true) :
    last.frames + 1 = stacked.frames ∧ last.below.length < stacked.below.length ∧
      (stacked.top.isBytecode = true → last.below.length + 1 < stacked.below.length) := by
  induction unwinds with
  | settled step settled =>
    obtain ⟨-,length,same,frames⟩ := step_unwinding aligned unwinding step
    rw [settled] at same frames
    refine ⟨frames,by omega,fun bytecode => ?_⟩
    rw [bytecode] at same
    cases same
  | further step unwinds rest ih =>
    obtain ⟨aligned,length,-,frames⟩ := step_unwinding aligned unwinding step
    obtain ⟨rests,shorter,-⟩ := ih aligned unwinds
    rw [unwinds,if_pos rfl] at frames
    refine ⟨by omega,by omega,fun _ => by omega⟩

theorem Unwinds.passes (unwinds : Unwinds machine stacked last) (step : stacked.step machine = .running next)
    (unwinding : next.isUnwinding = true) : Unwinds machine next last := by
  cases unwinds with
  | settled step' settled =>
    rw [← Config.running.inj (step.symm.trans step'),unwinding] at settled
    cases settled
  | further step' unwinding' rest => exact Config.running.inj (step.symm.trans step') ▸ rest

theorem step_fails {method : Method}
    (below : List (Invocation Data Native Exception)) (left : List Nat) (fails : Thread.Fails machine method state) :
    StackedThread.step machine ⟨⟨.bytecode method state,below,false⟩,left⟩ =
      .running ⟨⟨.bytecode method state,below,true⟩,left⟩ := by
  have either : Thread.step (if isHeard ⟨⟨.bytecode method state,below,false⟩,left⟩ then machine else unheard machine)
      ⟨.bytecode method state,below,false⟩ = .running ⟨.bytecode method state,below,true⟩ := by
    split
    · exact Thread.step_fails fails
    · exact Thread.step_fails ⟨fails.runs,fails.fetches,fails.invokesNothing,fails.faults⟩
  unfold StackedThread.step
  rw [either]
  exact congrArg Config.running (settle_level rfl)

def division : CallMachine (List Int) Unit String where
  toDataMachine := { DataMachine.idle "" with
    execute := fun instruction data =>
      match instruction,data with
      | .loadConstInt64 value,data => .ok (value.toInt :: data)
      | .mathDiv,right :: left :: data => if right = 0 then .fault else .ok (left.tdiv right :: data)
      | _,data => .ok data
    drainEvalReferences := fun _ => [] }
  invocation _ _ := none
  perform _ data := .returned none data
  complete _ callee caller := callee ++ caller
  abandon _ caller := caller
  createRuntimeException data := ("Division by zero",data)

def divisionByZero : Code := [.loadConstInt64 1,.loadConstInt64 0,.mathDiv]

def dividing : FrameState (List Int) String := { FrameState.initial [0,1] with ip := 20 }

def guardedCallback : Method := ⟨[.enterTry 32,.callMethodSymbol 1,.leaveTry,.jump 36,.pop,.endCatch],false⟩

/-- The native function calls the division back. -/
def calledBack : CallMachine (List Int) Unit String :=
  { division with
    invocation := fun instruction data =>
      if instruction = .callMethodSymbol 1 then some (.external () [],data) else none
    perform := fun native data => .invoked (.body ⟨divisionByZero,false⟩ []) native data }

def guardedDivision : Method where
  executableByteCode := .enterTry 46 :: divisionByZero ++ [.pop,.leaveTry,.jump 50,.pop,.endCatch]
  returnsValue := false

end StackedThread
end ShardScript.Runtime
