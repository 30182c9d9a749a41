import ShardScript.Runtime.Invocations

/-! How the steps of nested invocations change the frames: only native code hands an exception on. -/
namespace ShardScript.Runtime
open Library ByteCode

variable {Data Native Exception : Type} {machine : CallMachine Data Native Exception}

namespace FrameState
variable {dataMachine : DataMachine Data Exception} {state last : FrameState Data Exception}

theorem raised_endOfInstructions (ends : last.interruptionReason = .endOfInstructions) : last.raised = none := by
  rw [raised,ends]
  rfl

theorem resumeUnwind_finished {targetSize : Nat} {handlerOffset : Option Nat} {exception : Exception}
    (h : resumeUnwind dataMachine targetSize handlerOffset exception state = .ended (.finished last)) :
    last.interruptionReason = .endOfInstructions := by
  unfold resumeUnwind resumeUnwind.deliver at h
  split at h
  · split at h
    · cases h
    · split at h
      · cases h
      · cases h
        rfl
  · split at h
    · cases h
    · cases h
      rfl

theorem resumeDrain_finished {remaining savedIP : Nat} :
    resumeDrain remaining savedIP state ≠ .ended (.finished last) := by
  intro h
  unfold resumeDrain at h
  split at h
  · cases h
  · split at h
    · cases h
    · cases h

theorem handleExceptionInFrame_finished
    (h : state.handleExceptionInFrame dataMachine = .ended (.finished last)) :
    last.interruptionReason = .endOfInstructions := by
  unfold handleExceptionInFrame at h
  split at h
  · cases h
  · split at h
    · cases h
    · dsimp only at h
      split at h
      · exact resumeUnwind_finished h
      · exact resumeUnwind_finished h

theorem processCode_finished {code : Code} {instruction : Instruction}
    (h : state.processCode dataMachine code instruction = .ended (.finished last)) :
    last.interruptionReason = .endOfInstructions := by
  cases instruction with
  | «return» =>
    simp only [processCode] at h
    split at h
    · split at h
      · cases h
      · cases h
    · cases h
  | deferBreak =>
    simp only [processCode] at h
    split at h
    · cases h
    · split at h
      · cases h
      · exact absurd h resumeDrain_finished
      · exact resumeUnwind_finished h
  | deferDrain => exact absurd h resumeDrain_finished
  | nop | halt | jump | leaveTry | enterTry | «defer» | loadCurrentException => cases h
  | _ =>
    simp only [processCode] at h
    split at h
    all_goals cases h

theorem step_finished {code : Code} (h : state.step dataMachine code = .ended (.finished last)) :
    last.raised = none := by
  apply raised_endOfInstructions
  unfold step at h
  split at h
  · exact handleExceptionInFrame_finished h
  · split at h
    · exact processCode_finished h
    · split at h
      · cases h
        rfl
      · cases h

end FrameState

namespace Thread

/-- What one step makes of the invocations. Only native code hands an exception on. -/
inductive Moves (thread : Thread Data Native Exception) : Thread Data Native Exception → Prop
  | invokes (callee top : Invocation Data Native Exception) (same : top.isBytecode = thread.top.isBytecode)
      (calm : ¬ top.currentlyRaises) : Moves thread ⟨callee,top :: thread.below,false⟩
  | stays (top : Invocation Data Native Exception) (isUnwinding : Bool)
      (same : top.isBytecode = thread.top.isBytecode) : Moves thread ⟨top,thread.below,isUnwinding⟩
  | returns (caller : Invocation Data Native Exception) (below : List (Invocation Data Native Exception)) (data : Data)
      (callers : thread.below = caller :: below) : Moves thread ⟨caller.withData data,below,false⟩
  | raises (caller : Invocation Data Native Exception) (below : List (Invocation Data Native Exception)) (data : Data)
      (exception : Exception) (callers : thread.below = caller :: below) (native : thread.top.isBytecode = false) :
      Moves thread ⟨(caller.withData data).raise exception,below,false⟩
  | unwinds (caller : Invocation Data Native Exception) (below : List (Invocation Data Native Exception)) (data : Data)
      (callers : thread.below = caller :: below) : Moves thread ⟨caller.withData data,below,true⟩

variable {thread next : Thread Data Native Exception}

theorem completed_moves {raised : Option Exception} {data : Data}
    (native : raised = none ∨ thread.top.isBytecode = false)
    (step : completed machine raised data thread.below = .running next) : Moves thread next := by
  unfold completed at step
  split at step
  · cases step
  · rename_i caller below callers
    obtain rfl := Config.running.inj step
    split
    · exact .raises caller below _ _ callers (native.resolve_left (by simp))
    · exact .returns caller below _ callers

variable {below : List (Invocation Data Native Exception)} {top : Invocation Data Native Exception}

theorem unwindStep_moves
    {next : Thread Data Native Exception} (step : unwindStep machine top below = .running next) :
    Moves ⟨top,below,true⟩ next := by
  cases top with
  | external native data => exact completed_moves (.inr rfl) step
  | bytecode method state =>
    cases below with
    | nil => cases step
    | cons caller below =>
      obtain rfl := Config.running.inj step
      exact .unwinds _ _ _ rfl

theorem nextInvocation_calm {method : Method} {state continued : FrameState Data Exception}
    {callee : Callee Data Native} (invokes : nextInvocation machine method state = some (callee,continued)) :
    continued.interruptionReason ≠ .exceptionRaised := by
  unfold nextInvocation at invokes
  split at invokes
  · cases invokes
  · rename_i calm
    split at invokes
    · split at invokes
      · obtain ⟨invoked,-,same⟩ := Option.map_eq_some_iff.mp invokes
        obtain ⟨rfl,rfl⟩ := Prod.mk.inj same
        exact calm
      · cases invokes
    · cases invokes

theorem bytecodeStep_moves {method : Method} {state : FrameState Data Exception}
    {next : Thread Data Native Exception}
    (step : bytecodeStep machine method state below = .running next) :
    Moves ⟨.bytecode method state,below,false⟩ next := by
  unfold bytecodeStep at step
  split at step
  · rename_i callee continued invokes
    obtain rfl := Config.running.inj step
    exact .invokes _ _ rfl (nextInvocation_calm invokes)
  · split at step
    · obtain rfl := Config.running.inj step
      exact .stays _ _ rfl
    · rename_i last finished
      rw [FrameState.step_finished finished] at step
      exact completed_moves (.inl rfl) step
    · obtain rfl := Config.running.inj step
      exact .stays _ _ rfl
    · cases step

theorem externalStep_moves {native : Native} {data : Data}
    {next : Thread Data Native Exception} (step : externalStep machine native data below = .running next) :
    Moves ⟨.external native data,below,false⟩ next := by
  unfold externalStep at step
  split at step
  · exact completed_moves (.inr rfl) step
  · obtain rfl := Config.running.inj step
    exact .stays _ _ rfl
  · obtain rfl := Config.running.inj step
    exact .invokes _ _ rfl not_false

theorem step_moves (step : thread.step machine = .running next) :
    Moves thread next := by
  obtain ⟨top,below,isUnwinding⟩ := thread
  cases isUnwinding with
  | true => exact unwindStep_moves step
  | false =>
    cases top with
    | bytecode method state => exact bytecodeStep_moves step
    | external native data => exact externalStep_moves step

def IsAbove (base : List (Invocation Data Native Exception)) (thread : Thread Data Native Exception) : Prop :=
  ∃ above last, thread.invocations = above ++ last :: base ∧ last.isBytecode

variable {base : List (Invocation Data Native Exception)}

theorem IsAbove.replace
    {thread : Thread Data Native Exception} (above : IsAbove base thread)
    (same : top.isBytecode = thread.top.isBytecode) (isUnwinding : Bool) :
    IsAbove base ⟨top,thread.below,isUnwinding⟩ := by
  obtain ⟨front,last,stack,bytecode⟩ := above
  cases front with
  | nil =>
    obtain ⟨rfl,rfl⟩ := List.cons.inj stack
    exact ⟨[],top,rfl,same ▸ bytecode⟩
  | cons first front =>
    obtain ⟨-,below⟩ := List.cons.inj stack
    exact ⟨top :: front,last,congrArg (top :: ·) below,bytecode⟩

theorem IsAbove.pop {base below : List (Invocation Data Native Exception)} {thread : Thread Data Native Exception}
    {next : Invocation Data Native Exception} (above : IsAbove base thread) (callers : thread.below = next :: below) :
    (thread.top.isBytecode ∧ base = next :: below) ∨ ∀ isUnwinding, IsAbove base ⟨next,below,isUnwinding⟩ := by
  obtain ⟨front,last,stack,bytecode⟩ := above
  unfold invocations at stack
  rw [callers] at stack
  cases front with
  | nil =>
    obtain ⟨rfl,same⟩ := List.cons.inj stack
    exact .inl ⟨bytecode,same.symm⟩
  | cons first front => exact .inr fun isUnwinding => ⟨front,last,(List.cons.inj stack).2,bytecode⟩

@[simp] theorem isBytecode_raise (exception : Exception) (invocation : Invocation Data Native Exception) :
    (invocation.raise exception).isBytecode = invocation.isBytecode := by
  cases invocation with
  | bytecode method state => rfl
  | external native data => rfl

theorem Moves.above
    (above : IsAbove base thread) (moves : Moves thread next) :
    IsAbove base next ∨ ∃ caller below data isUnwinding,
      base = caller :: below ∧ next = ⟨caller.withData data,below,isUnwinding⟩ := by
  cases moves with
  | invokes callee top same calm =>
    obtain ⟨front,last,stack,bytecode⟩ := above.replace same false
    exact .inl ⟨callee :: front,last,congrArg (callee :: ·) stack,bytecode⟩
  | stays top isUnwinding same => exact .inl (above.replace same isUnwinding)
  | returns caller below data callers =>
    obtain ⟨-,rfl⟩ | further := above.pop callers
    · exact .inr ⟨caller,below,data,false,rfl,rfl⟩
    · exact .inl ((further false).replace (by simp) false)
  | raises caller below data exception callers native =>
    obtain ⟨bytecode,-⟩ | further := above.pop callers
    · exact absurd bytecode (by simp [native])
    · exact .inl ((further false).replace (by simp) false)
  | unwinds caller below data callers =>
    obtain ⟨-,rfl⟩ | further := above.pop callers
    · exact .inr ⟨caller,below,data,true,rfl,rfl⟩
    · exact .inl ((further true).replace (by simp) true)

theorem IsAbove.more {thread : Thread Data Native Exception}
    {caller : Invocation Data Native Exception} (above : IsAbove (caller :: base) thread) :
    base.length < thread.below.length := by
  obtain ⟨front,last,stack,-⟩ := above
  have lengths := congrArg List.length stack
  simp [invocations] at lengths
  omega

theorem completed_finished {raised unhandled : Option Exception} {data : Data}

    (ended : completed machine raised data below = .ended (.finished unhandled)) :
    below = [] ∧ unhandled = raised := by
  unfold completed at ended
  split at ended
  · cases ended
    exact ⟨rfl,rfl⟩
  · cases ended

theorem step_finished {thread : Thread Data Native Exception} {unhandled : Option Exception}
    (ended : thread.step machine = .ended (.finished unhandled)) (outermost : IsAbove [] thread) :
    unhandled = none := by
  obtain ⟨top,below,isUnwinding⟩ := thread
  obtain ⟨front,last,stack,bytecode⟩ := outermost
  have outermost : below = [] → top = last := by
    rintro rfl
    cases front with
    | nil => exact (List.cons.inj stack).1
    | cons first front => cases front <;> cases stack
  cases top with
  | external native data =>
    have native_top : ∃ raised data, completed machine raised data below = .ended (.finished unhandled) := by
      cases isUnwinding with
      | true => exact ⟨_,_,ended⟩
      | false =>
        change externalStep machine native data below = _ at ended
        unfold externalStep at ended
        split at ended
        · exact ⟨_,_,ended⟩
        · cases ended
        · cases ended
    obtain ⟨raised,data,ended⟩ := native_top
    rw [← outermost (completed_finished ended).1] at bytecode
    cases bytecode
  | bytecode method state =>
    cases isUnwinding with
    | true =>
      cases below with
      | nil => cases ended
      | cons caller below => cases ended
    | false =>
      change bytecodeStep machine method state below = _ at ended
      unfold bytecodeStep at ended
      split at ended
      · cases ended
      · split at ended
        · cases ended
        · rename_i last finished
          rw [FrameState.step_finished finished] at ended
          exact (completed_finished ended).2
        · cases ended
        · cases ended

/-- In the callers, which are in the middle of an instruction, no exception is raised. -/
def HasCalmCallers (thread : Thread Data Native Exception) : Prop :=
  ∀ caller ∈ thread.below, ¬ caller.currentlyRaises

theorem Moves.calm (calm : HasCalmCallers thread)
    (moves : Moves thread next) : HasCalmCallers next := by
  have passes : ∀ {caller below}, thread.below = caller :: below → ∀ caller ∈ below, ¬ caller.currentlyRaises :=
    fun callers invocation member => calm invocation (callers ▸ List.mem_cons_of_mem _ member)
  cases moves with
  | invokes callee top same top_calm => exact List.forall_mem_cons.mpr ⟨top_calm,calm⟩
  | stays top isUnwinding same => exact calm
  | returns caller below data callers => exact passes callers
  | raises caller below data exception callers native => exact passes callers
  | unwinds caller below data callers => exact passes callers

theorem Moves.length (moves : Moves thread next) :
    next.below.length = thread.below.length + 1 ∨ next.below.length = thread.below.length ∨
      next.below.length + 1 = thread.below.length := by
  cases moves with
  | invokes => exact .inl rfl
  | stays => exact .inr (.inl rfl)
  | returns caller below data callers => exact .inr (.inr (congrArg List.length callers).symm)
  | raises caller below data exception callers native => exact .inr (.inr (congrArg List.length callers).symm)
  | unwinds caller below data callers => exact .inr (.inr (congrArg List.length callers).symm)

theorem handled_or_free (callers : List (Invocation Data Native Exception)) :
    (∀ caller ∈ callers, caller.exceptionHandlers = []) ∨
      ∃ above receiver below, callers = above ++ receiver :: below ∧ receiver.exceptionHandlers ≠ [] ∧
        ∀ caller ∈ above, caller.exceptionHandlers = [] := by
  induction callers with
  | nil => exact .inl (by simp)
  | cons caller callers ih =>
    by_cases free : caller.exceptionHandlers = []
    · obtain free' | ⟨above,receiver,below,rfl,handler,free'⟩ := ih
      · exact .inl (List.forall_mem_cons.mpr ⟨free,free'⟩)
      · exact .inr ⟨caller :: above,receiver,below,rfl,handler,List.forall_mem_cons.mpr ⟨free,free'⟩⟩
    · exact .inr ⟨[],caller,callers,rfl,free,by simp⟩

theorem isAbove_of_bytecode {above : List (Invocation Data Native Exception)}
    (top_bytecode : top.isBytecode) (above_bytecode : ∀ invocation ∈ above, invocation.isBytecode)
    (base : List (Invocation Data Native Exception)) (isUnwinding : Bool) :
    IsAbove base ⟨top,above ++ base,isUnwinding⟩ := by
  have bytecode : ∀ invocation ∈ top :: above, invocation.isBytecode :=
    List.forall_mem_cons.mpr ⟨top_bytecode,above_bytecode⟩
  have nonempty : top :: above ≠ [] := List.cons_ne_nil _ _
  refine ⟨(top :: above).dropLast,(top :: above).getLast nonempty,?_,bytecode _ (List.getLast_mem nonempty)⟩
  change top :: above ++ base = _
  simp only [List.append_cons _ _ base,List.dropLast_append_getLast nonempty]

end Thread

end ShardScript.Runtime
