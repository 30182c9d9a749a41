import ShardScript.Runtime.Propagation
import ShardScript.Runtime.Turns

/-! Exceptions that are thrown in nested invocations, and the handlers whose code they bring control to. -/
namespace ShardScript.Runtime
open Library ByteCode

variable {Data Native Exception : Type} {machine : CallMachine Data Native Exception}

namespace StackedThread

open Thread (Moves IsAbove)

theorem step_moves {stacked next : StackedThread Data Native Exception} (step : stacked.step machine = .running next) :
    Moves stacked.toThread next.toThread := by
  obtain ⟨settled,found,rfl⟩ := step_eq_running step
  have moves := Thread.step_moves found
  dsimp only [settle]
  split_ifs with calls stays unwinding heard
  · exact moves
  · exact moves
  · exact moves
  · exact moves
  · cases moves with
    | invokes => exact absurd (Nat.lt_succ_self _) calls
    | stays => exact absurd rfl stays
    | returns caller below data callers =>
      rw [callers]
      exact .returns caller below _ callers
    | raises caller below data exception callers native =>
      rw [callers]
      exact .returns caller below _ callers
    | unwinds caller below data callers => exact absurd rfl unwinding

theorem step_finished {stacked : StackedThread Data Native Exception} {unhandled : Option Exception}
    (ended : stacked.step machine = .ended (.finished unhandled)) (outermost : IsAbove [] stacked.toThread) :
    unhandled = none := by
  unfold StackedThread.step at ended
  split at ended
  · cases ended
  · rename_i found
    cases ended
    exact Thread.step_finished found outermost

variable {caller : Invocation Data Native Exception}

/-- What native code leaves behind for its caller, which hears of it only if its own frame was on top at the call. -/
theorem returned_step {native : Native} {data after : Data}
    {below : List (Invocation Data Native Exception)} {own between : Nat} {left : List Nat} {raised : Option Exception}
    (performs : machine.perform native data = .returned raised after) :
    StackedThread.step machine ⟨⟨.external native data,caller :: below,false⟩,own :: between :: left⟩ =
      .running (if between = 0 then
          ⟨⟨raised.elim (caller.withData (machine.complete raised after caller.data)) fun exception =>
            (caller.withData (machine.complete raised after caller.data)).raise exception,below,false⟩,own :: left⟩
        else ⟨⟨caller.withData (machine.abandon after caller.data),below,false⟩,(own + between) :: left⟩) := by
  have returns : ∀ calls : CallMachine Data Native Exception, calls.perform = machine.perform →
      Thread.step calls ⟨.external native data,caller :: below,false⟩ =
        Thread.completed calls raised after (caller :: below) := by
    intro calls same
    change Thread.externalStep calls native data _ = _
    rw [Thread.externalStep,same,performs]
  unfold StackedThread.step
  by_cases heard : between = 0
  · subst heard
    rw [show isHeard _ = true from rfl,if_pos rfl,returns machine rfl,if_pos rfl]
    dsimp only [Thread.completed]
    cases raised with
    | none => simp [settle,isHeard]
    | some exception => simp [settle,isHeard]
  · have missed : isHeard (⟨⟨.external native data,caller :: below,false⟩,own :: between :: left⟩ :
        StackedThread Data Native Exception) = false := by
      simp [isHeard,heard]
    rw [missed,if_neg Bool.false_ne_true,returns (unheard machine) rfl,if_neg heard]
    dsimp only [Thread.completed]
    simp [settle,missed]
    cases raised with
    | none => cases caller <;> rfl
    | some exception => cases caller <;> rfl

inductive Descends (machine : CallMachine Data Native Exception) (callers : Nat) :
    StackedThread Data Native Exception → StackedThread Data Native Exception → Prop
  | here {stacked : StackedThread Data Native Exception} (down : stacked.below.length ≤ callers) :
      Descends machine callers stacked stacked
  | step {stacked next last : StackedThread Data Native Exception} (more : callers < stacked.below.length)
      (step : stacked.step machine = .running next) (rest : Descends machine callers next last) :
      Descends machine callers stacked last

theorem Descends.finds {stacked last : StackedThread Data Native Exception}
    {base : List (Invocation Data Native Exception)} (above : IsAbove (caller :: base) stacked.toThread)
    (descends : Descends machine base.length stacked last) :
    ∃ data isUnwinding, last.toThread = ⟨caller.withData data,base,isUnwinding⟩ := by
  induction descends with
  | here down =>
    have := above.more
    omega
  | @step stacked next last more step rest ih =>
    obtain further | ⟨caller,base,data,isUnwinding,same,found⟩ := (step_moves step).above above
    · exact ih further
    · obtain ⟨rfl,rfl⟩ := List.cons.inj same
      cases rest with
      | here down => exact ⟨data,isUnwinding,found⟩
      | step more' step' rest' =>
        rw [found] at more'
        exact absurd more' (Nat.lt_irrefl _)

inductive Ends (machine : CallMachine Data Native Exception) :
    StackedThread Data Native Exception → RunResult Exception → Prop
  | last {stacked : StackedThread Data Native Exception} {result : RunResult Exception}
      (step : stacked.step machine = .ended result) : Ends machine stacked result
  | step {stacked next : StackedThread Data Native Exception} {result : RunResult Exception}
      (step : stacked.step machine = .running next) (rest : Ends machine next result) : Ends machine stacked result

theorem Ends.unhandled {stacked : StackedThread Data Native Exception} {unhandled : Option Exception}
    (outermost : IsAbove [] stacked.toThread) (ends : Ends machine stacked (.finished unhandled)) : unhandled = none := by
  generalize same : RunResult.finished unhandled = result at ends
  induction ends with
  | last step =>
    subst same
    exact step_finished step outermost
  | step step rest ih =>
    obtain further | ⟨caller,below,data,isUnwinding,nothing,-⟩ := (step_moves step).above outermost
    · exact ih further same
    · cases nothing

/-! The way from the frame in which an exception is raised to the code of its handler. -/

/-- A handler has received the exception: the deferred expressions above its base are off the stack, and the
exception is on the evaluation stack. -/
structure AtHandler (machine : DataMachine Data Exception) (unwinding : Unwinding Exception)
    (state : FrameState Data Exception) : Prop where
  offset : unwinding.handlerOffset = some state.ip
  drained : state.deferStack.length ≤ unwinding.targetSize
  calm : state.interruptionReason = .none
  current : state.currentException = some unwinding.exception
  pushed : ∃ data, state.data = machine.incrementReference unwinding.exception
    (machine.pushException unwinding.exception data)

/-- Deferred expressions of the frame above so many callers are under evaluation. -/
def Evaluates (callers : Nat) (stacked : StackedThread Data Native Exception) : Prop :=
  callers < stacked.below.length ∨ (stacked.below.length = callers ∧ stacked.top.activations ≠ [])

section Entering
variable (run : Machine (StackedThread Data Native Exception) (RunResult Exception) Unit)

/-- The frame pops its handler and, as soon as no deferred expression is under evaluation any more, is in its code. -/
def Enters (machine : DataMachine Data Exception) (method : Method) (raised : FrameState Data Exception)
    (below : List (Invocation Data Native Exception)) (left : List Nat) (exception : Exception) : Prop :=
  ∃ next state left', run.step ⟨⟨.bytecode method raised,below,false⟩,left⟩ = .running next ∧
    next.top.exceptionHandlers = raised.exceptionHandlers.tail ∧
    run.Reaches (Evaluates below.length) next ⟨⟨.bytecode method state,below,false⟩,left'⟩ ∧
    state.activations = [] ∧ AtHandler machine (.start raised.exceptionHandlers exception) state

/-- The deferred expressions that the frame evaluates on the way to its handler come to an end, and none of them raises
an exception or returns a value. -/
def Drains (method : Method) (raised : FrameState Data Exception) (below : List (Invocation Data Native Exception))
    (left : List Nat) : Prop :=
  ∃ next state left', run.step ⟨⟨.bytecode method raised,below,false⟩,left⟩ = .running next ∧
    run.Reaches (Evaluates below.length) next ⟨⟨.bytecode method state,below,false⟩,left'⟩ ∧
    state.activations = [] ∧ state.interruptionReason = .none

/-- The steps of the run are those of the virtual machine, with the native code that there is in each state. -/
def Runs (machine : DataMachine Data Exception) : Prop :=
  ∀ stacked, ∃ calls : CallMachine Data Native Exception, calls.toDataMachine = machine ∧
    run.step stacked = stacked.step calls

end Entering

section Drain
variable {dataMachine : DataMachine Data Exception} {unwinding : Unwinding Exception} {code : Code}
  {state next : FrameState Data Exception}

/-- The unwinding is under way as the outermost activation of the frame, or the frame has left it. -/
def Underway (machine : DataMachine Data Exception) (unwinding : Unwinding Exception)
    (state : FrameState Data Exception) : Prop :=
  (state.activations.getLast? = some unwinding.activation ∧ state.interruptionReason ≠ .exceptionRaised) ∨
  (state.activations = [] ∧ (state.interruptionReason ≠ .none ∨ AtHandler machine unwinding state))

theorem underway_receives {received : Unwinding Exception} {handlerOffset : Nat}
    (handler : received.handlerOffset = some handlerOffset) (through : state.deferStack.length ≤ received.targetSize) :
    AtHandler dataMachine received { state.unwound dataMachine with
      ip := handlerOffset
      data := dataMachine.incrementReference received.exception
        (dataMachine.pushException received.exception (state.unwound dataMachine).data)
      interruptionReason := .none
      currentException := some received.exception } where
  offset := handler
  drained := by
    dsimp only
    rw [FrameState.unwound_deferStack]
    exact through
  calm := rfl
  current := rfl
  pushed := ⟨_,rfl⟩

theorem underway_turn (calm : state.interruptionReason ≠ .exceptionRaised)
    (last : state.activations.getLast? = some unwinding.activation)
    (turn : FrameState.Turn dataMachine code state next) : Underway dataMachine unwinding next := by
  have behind_drain {remaining savedIP : Nat} {activations : List (Activation Exception)}
      (active : state.activations = .drain remaining savedIP :: activations) :
      activations.getLast? = some unwinding.activation := by
    rw [active] at last
    cases activations with
    | nil => cases last
    | cons activation activations => exact last
  have found_break {other : Unwinding Exception} (found : state.unwinding code = some other) :
      state.activations = other.activation :: (state.unwound dataMachine).activations := by
    obtain ⟨raised,-⟩ | ⟨-,-,activations,active⟩ := FrameState.unwinding_cases found
    · exact absurd raised calm
    · rw [FrameState.unwound,if_neg calm,active]
      rfl
  cases turn with
  | moves | enters | leaves | ends | stores | registers => exact .inl ⟨last,calm⟩
  | raises => exact .inr ⟨rfl,.inl (by simp [FrameState.raise])⟩
  | returns => exact .inr ⟨rfl,.inl (by simp)⟩
  | drains => exact .inl ⟨by simp [List.getLast?_cons,last],calm⟩
  | drainsNext quiet fetched active =>
    exact .inl ⟨by simp [List.getLast?_cons,behind_drain active],calm⟩
  | drained quiet fetched active => exact .inl ⟨behind_drain active,calm⟩
  | unwinds found =>
    rw [found_break found] at last
    exact .inl ⟨last,FrameState.unwound_calm⟩
  | @receives received handlerOffset found handler through =>
    rw [found_break found] at last
    cases rest : (state.unwound dataMachine).activations with
    | nil =>
      rw [rest] at last
      obtain rfl := Unwinding.activation_injective (Option.some.inj last)
      exact .inr ⟨rest,.inr (underway_receives handler through)⟩
    | cons activation activations =>
      refine .inl ⟨?_,by simp⟩
      rw [rest] at last
      exact (congrArg List.getLast? rest).trans last

theorem underway_raised {exception : Exception} (raised : state.interruptionReason = .exceptionRaised)
    (current : state.currentException = some exception) (outside : state.activations = [])
    (turn : FrameState.Turn dataMachine code state next) :
    next.exceptionHandlers = state.exceptionHandlers.tail ∧
      Underway dataMachine (.start state.exceptionHandlers exception) next := by
  have start : state.unwinding code = some (.start state.exceptionHandlers exception) := by
    rw [FrameState.unwinding,if_pos raised,current]
    rfl
  have nothing : (state.unwound dataMachine).activations = [] := by
    rw [FrameState.unwound,if_pos raised]
    exact outside
  have handlers : (state.unwound dataMachine).exceptionHandlers = state.exceptionHandlers.tail := by
    rw [FrameState.unwound,if_pos raised]
  cases turn with
  | moves quiet | raises quiet | returns quiet | enters quiet | leaves quiet | ends quiet | stores quiet | registers quiet
  | drains quiet | drainsNext quiet | drained quiet => exact absurd raised quiet.calm
  | unwinds found =>
    obtain rfl := Option.some.inj (start.symm.trans found)
    refine ⟨handlers,.inl ⟨?_,FrameState.unwound_calm⟩⟩
    dsimp only
    rw [nothing]
    rfl
  | @receives received handlerOffset found handler through =>
    obtain rfl := Option.some.inj (start.symm.trans found)
    exact ⟨handlers,.inr ⟨nothing,.inr (underway_receives handler through)⟩⟩

end Drain

section Entered
variable {run : Machine (StackedThread Data Native Exception) (RunResult Exception) Unit}
  {dataMachine : DataMachine Data Exception} {method : Method} {below : List (Invocation Data Native Exception)}
  {unwinding : Unwinding Exception} {stacked next : StackedThread Data Native Exception}

theorem bytecode_step {state : FrameState Data Exception} {left : List Nat}
    (step : StackedThread.step machine ⟨⟨.bytecode method state,below,false⟩,left⟩ = .running next) :
    (∃ callee ip data, state.interruptionReason ≠ .exceptionRaised ∧
      next.toThread = ⟨callee,.bytecode method { state with ip := ip, data := data } :: below,false⟩) ∨
    (∃ stepped, state.step (machine.within method) method.executableByteCode = .running stepped ∧
      next.toThread = ⟨.bytecode method stepped,below,false⟩) ∨
    next.toThread = ⟨.bytecode method state,below,true⟩ ∨ next.below.length < below.length := by
  obtain ⟨settled,found,rfl⟩ := step_eq_running step
  by_cases deeper : below.length ≤ settled.below.length
  · rw [settle_deeper deeper]
    generalize heard : (if isHeard _ then machine else unheard machine) = calls at found
    obtain ⟨invocation,steps⟩ : Thread.nextInvocation calls method state = Thread.nextInvocation machine method state ∧
        calls.within method = machine.within method := by
      subst heard
      split
      · exact ⟨rfl,rfl⟩
      · exact ⟨rfl,rfl⟩
    change Thread.bytecodeStep _ method state below = _ at found
    unfold Thread.bytecodeStep at found
    rw [invocation,steps] at found
    split at found
    · rename_i callee continued invokes
      obtain rfl := Config.running.inj found
      have calm := Thread.nextInvocation_calm invokes
      obtain ⟨ip,data,rfl⟩ : ∃ ip data, continued = { state with ip := ip, data := data } := by
        unfold Thread.nextInvocation at invokes
        split at invokes
        · cases invokes
        · split at invokes
          · split at invokes
            · obtain ⟨invoked,-,same⟩ := Option.map_eq_some_iff.mp invokes
              exact ⟨_,_,(Prod.mk.inj same).2.symm⟩
            · cases invokes
          · cases invokes
      exact .inl ⟨_,ip,data,calm,rfl⟩
    · split at found
      · rename_i stepped
        obtain rfl := Config.running.inj found
        exact .inr (.inl ⟨_,stepped,rfl⟩)
      · rename_i last finished
        have shorter : settled.below.length < below.length := by
          unfold Thread.completed at found
          split at found
          · cases found
          · obtain rfl := Config.running.inj found
            exact Nat.lt_succ_self _
        omega
      · obtain rfl := Config.running.inj found
        exact .inr (.inr (.inl rfl))
      · cases found
  · refine .inr (.inr (.inr ?_))
    rw [settle_below]
    exact Nat.lt_of_not_le deeper

/-- The frame above so many callers is left, or a C++ exception is about to leave it. -/
def IsLost (callers : Nat) (thread : Thread Data Native Exception) : Prop :=
  thread.below.length < callers ∨ (thread.below.length = callers ∧ thread.isUnwinding = true)

theorem lost_step {callers : Nat} (lost : IsLost callers stacked.toThread) (evaluates : Evaluates callers stacked)
    (step : stacked.step machine = .running next) : IsLost callers next.toThread := by
  obtain gone | ⟨length,unwinding⟩ := lost
  · unfold Evaluates at evaluates
    omega
  · obtain more | ⟨-,active⟩ := evaluates
    · omega
    · obtain ⟨settled,found,rfl⟩ := step_eq_running step
      refine .inl ?_
      rw [settle_below]
      obtain ⟨⟨top,frames,isUnwinding⟩,left⟩ := stacked
      obtain rfl : isUnwinding = true := unwinding
      cases top with
      | external native data => exact absurd rfl active
      | bytecode method state =>
        cases frames with
        | nil => cases found
        | cons caller frames =>
          obtain rfl := Config.running.inj found
          exact Nat.lt_of_lt_of_eq (Nat.lt_succ_self _) length

/-- Where a thread is on the way from a raised exception to the code of its handler. -/
inductive Way (machine : DataMachine Data Exception) (unwinding : Unwinding Exception) (method : Method)
    (below : List (Invocation Data Native Exception)) : Thread Data Native Exception → Prop
  | within (state : FrameState Data Exception) (underway : Underway machine unwinding state) :
      Way machine unwinding method below ⟨.bytecode method state,below,false⟩
  | above (top : Invocation Data Native Exception) (frames : List (Invocation Data Native Exception))
      (state : FrameState Data Exception) (isUnwinding : Bool) (calm : state.interruptionReason ≠ .exceptionRaised)
      (last : state.activations.getLast? = some unwinding.activation) :
      Way machine unwinding method below ⟨top,frames ++ .bytecode method state :: below,isUnwinding⟩
  | lost (thread : Thread Data Native Exception) (lost : IsLost below.length thread) :
      Way machine unwinding method below thread

theorem moves_above {top : Invocation Data Native Exception} {frames : List (Invocation Data Native Exception)}
    {state : FrameState Data Exception} {isUnwinding : Bool} (calm : state.interruptionReason ≠ .exceptionRaised)
    (last : state.activations.getLast? = some unwinding.activation) {thread : Thread Data Native Exception}
    (moves : Moves ⟨top,frames ++ .bytecode method state :: below,isUnwinding⟩ thread) :
    Way dataMachine unwinding method below thread := by
  have pops {caller : Invocation Data Native Exception} {rest : List (Invocation Data Native Exception)}
      (callers : frames ++ .bytecode method state :: below = caller :: rest) :
      (caller = .bytecode method state ∧ rest = below) ∨ ∃ frames, rest = frames ++ .bytecode method state :: below := by
    cases frames with
    | nil =>
      obtain ⟨rfl,rfl⟩ := List.cons.inj callers
      exact .inl ⟨rfl,rfl⟩
    | cons frame frames => exact .inr ⟨frames,(List.cons.inj callers).2.symm⟩
  cases moves with
  | invokes callee top same quiet => exact .above callee (top :: frames) state false calm last
  | stays top isUnwinding same => exact .above top frames state isUnwinding calm last
  | returns caller rest data callers =>
    obtain ⟨rfl,rfl⟩ | ⟨frames,rfl⟩ := pops callers
    · exact .within { state with data := data } (.inl ⟨last,calm⟩)
    · exact .above _ frames state false calm last
  | raises caller rest data exception callers native =>
    obtain ⟨rfl,rfl⟩ | ⟨frames,rfl⟩ := pops callers
    · exact .within (({ state with data := data } : FrameState Data Exception).raise exception)
        (.inr ⟨rfl,.inl (by simp [FrameState.raise])⟩)
    · exact .above _ frames state false calm last
  | unwinds caller rest data callers =>
    obtain ⟨rfl,rfl⟩ | ⟨frames,rfl⟩ := pops callers
    · exact .lost _ (.inr ⟨rfl,rfl⟩)
    · exact .above _ frames state true calm last

theorem underway_within {state : FrameState Data Exception}
    (underway : Underway (machine.within method) unwinding state) : Underway machine.toDataMachine unwinding state :=
  underway.imp_right fun ended => ⟨ended.1,ended.2.imp_right fun handler =>
    ⟨handler.offset,handler.drained,handler.calm,handler.current,handler.pushed⟩⟩

theorem way_step (way : Way machine.toDataMachine unwinding method below stacked.toThread)
    (evaluates : Evaluates below.length stacked) (step : stacked.step machine = .running next) :
    Way machine.toDataMachine unwinding method below next.toThread := by
  obtain ⟨thread,left⟩ := stacked
  cases way with
  | within state underway =>
    obtain ⟨last,calm⟩ : state.activations.getLast? = some unwinding.activation ∧
        state.interruptionReason ≠ .exceptionRaised := by
      refine underway.resolve_right fun ended => ?_
      obtain more | ⟨-,active⟩ := evaluates
      · exact absurd more (Nat.lt_irrefl _)
      · exact active ended.1
    obtain ⟨callee,ip,data,-,same⟩ | ⟨stepped,steps,same⟩ | same | shorter := bytecode_step step
    · rw [same]
      exact .above callee [] { state with ip := ip, data := data } false calm last
    · rw [same]
      exact .within stepped (underway_within (underway_turn calm last (FrameState.step_turn steps)))
    · exact .lost _ (.inr (by simp [same]))
    · exact .lost _ (.inl shorter)
  | above top frames state isUnwinding calm last => exact moves_above calm last (step_moves step)
  | lost _ lost => exact .lost _ (lost_step lost evaluates step)

/-- The deferred expressions are all that can come between an exception and its handler. -/
theorem enters_iff (runs : Runs run dataMachine) {raised : FrameState Data Exception} {exception : Exception}
    {left : List Nat} (reason : raised.interruptionReason = .exceptionRaised)
    (current : raised.currentException = some exception) (outside : raised.activations = []) :
    Enters run dataMachine method raised below left exception ↔ Drains run method raised below left := by
  constructor
  · rintro ⟨next,state,left',step,-,reaches,ended,handler⟩
    exact ⟨next,state,left',step,reaches,ended,handler.calm⟩
  rintro ⟨next,state,left',step,reaches,ended,calm⟩
  have lost_never : ¬ IsLost below.length next.toThread := by
    intro lost
    have lost : IsLost below.length (⟨.bytecode method state,below,false⟩ : Thread Data Native Exception) := by
      refine @Machine.Reaches.invariant _ _ _ run _ (fun stacked => IsLost below.length stacked.toThread) _ _ reaches lost
        fun stacked next lost evaluates step => ?_
      obtain ⟨calls,-,same⟩ := runs stacked
      exact lost_step lost evaluates (same ▸ step)
    obtain gone | ⟨-,unwinding⟩ := lost
    · exact Nat.lt_irrefl _ gone
    · cases unwinding
  obtain ⟨handlers,way⟩ : next.top.exceptionHandlers = raised.exceptionHandlers.tail ∧
      Way dataMachine (.start raised.exceptionHandlers exception) method below next.toThread := by
    obtain ⟨calls,rfl,same⟩ := runs ⟨⟨.bytecode method raised,below,false⟩,left⟩
    obtain ⟨callee,ip,data,quiet,-⟩ | ⟨stepped,steps,found⟩ | found | shorter := bytecode_step (same ▸ step)
    · exact absurd reason quiet
    · obtain ⟨handlers,underway⟩ := underway_raised reason current outside (FrameState.step_turn steps)
      rw [found]
      exact ⟨handlers,.within stepped (underway_within underway)⟩
    · exact absurd (.inr (by simp [found])) lost_never
    · exact absurd (.inl shorter) lost_never
  have last : Way dataMachine (.start raised.exceptionHandlers exception) method below
      (⟨.bytecode method state,below,false⟩ : Thread Data Native Exception) := by
    refine @Machine.Reaches.invariant _ _ _ run _
      (fun stacked => Way dataMachine (.start raised.exceptionHandlers exception) method below stacked.toThread)
      _ _ reaches way fun stacked next way evaluates step => ?_
    obtain ⟨calls,rfl,same⟩ := runs stacked
    exact way_step way evaluates (same ▸ step)
  refine ⟨next,state,left',step,handlers,reaches,ended,?_⟩
  generalize arrived : (⟨.bytecode method state,below,false⟩ : Thread Data Native Exception) = thread at last
  cases last with
  | within other underway =>
    obtain rfl := (Invocation.bytecode.inj (Thread.mk.inj arrived).1).2
    obtain ⟨goes,-⟩ | ⟨-,left | handler⟩ := underway
    · rw [ended] at goes
      cases goes
    · exact absurd calm left
    · exact handler
  | above top frames other isUnwinding =>
    have lengths := congrArg List.length (Thread.mk.inj arrived).2.1
    simp at lengths
    omega
  | lost _ lost =>
    subst arrived
    obtain gone | ⟨-,unwinding⟩ := lost
    · exact absurd gone (Nat.lt_irrefl _)
    · cases unwinding

end Entered

/-- The exception that is raised on top reaches the innermost handler, or the end of the run where there is none,
and no caller that it passes by goes on. -/
structure Propagates (machine : CallMachine Data Native Exception) (stacked : StackedThread Data Native Exception)
    (exception : Exception) : Prop where
  delivered : ∀ above method state below, stacked.invocations = above ++ .bytecode method state :: below →
    state.exceptionHandlers ≠ [] → (∀ invocation ∈ above, invocation.exceptionHandlers = []) →
    ∃ data left, Descends machine below.length stacked
        ⟨⟨.bytecode method ({ state with data := data }.raise exception),below,false⟩,left⟩ ∧
      Enters (stackedMachine machine) machine.toDataMachine method ({ state with data := data }.raise exception) below left
        exception
  unhandled : (∀ invocation ∈ stacked.invocations, invocation.exceptionHandlers = []) →
    Ends machine stacked (.finished (some exception))
  stopped : ∀ above caller below, stacked.invocations = above ++ caller :: below → above ≠ [] →
    (∀ invocation ∈ above, invocation.exceptionHandlers = []) →
    ∀ last, Descends machine below.length stacked last → last.isUnwinding ∨ last.top.currentlyRaises

theorem runs_stackedMachine (machine : CallMachine Data Native Exception) :
    Runs (stackedMachine machine) machine.toDataMachine := fun _ => ⟨machine,rfl,rfl⟩

theorem callers_calm {entry : Invocation Data Native Exception} {stacked : StackedThread Data Native Exception}
    {run : Machine (StackedThread Data Native Exception) (RunResult Exception) Unit}
    {dataMachine : DataMachine Data Exception} (runs : Runs run dataMachine)
    (reached : run.Reaches (fun _ => True) ⟨⟨entry,[],false⟩,[0]⟩ stacked) : stacked.HasCalmCallers := by
  refine @Machine.Reaches.invariant _ _ _ run _ (fun stacked => stacked.HasCalmCallers) _ _ reached ?_ ?_
  · intro caller member
    cases member
  · intro stacked next calm _ step
    obtain ⟨calls,-,same⟩ := runs stacked
    exact (step_moves (same ▸ step)).calm calm

def thrower : Method := ⟨[.loadLocal 0,.throw],false⟩

/-- `try { defer cleanup(); throw e; } catch { }` -/
def guardedThrower : Method where
  executableByteCode := [.enterTry 54,.defer 30,.jump 36,.loadLocal 1,.deferBreak,.loadLocal 0,.throw,.leaveTry,.jump 58,
    .pop,.endCatch]
  returnsValue := false

def guardedCaller (address : Address) : Method :=
  ⟨[.enterTry 32,.callMethodSymbol address,.leaveTry,.jump 36,.pop,.endCatch],false⟩

def throwing : CallMachine Unit Unit String where
  toDataMachine := .idle "e"
  invocation instruction data :=
    if instruction = .callMethodSymbol 1 then some (.body thrower data,data)
    else if instruction = .callMethodSymbol 2 then some (.body guardedThrower data,data)
    else none
  perform _ data := .returned none data
  complete _ _ caller := caller
  abandon _ caller := caller
  createRuntimeException data := ("RuntimeException",data)

def calling : FrameState Unit String := { FrameState.initial () with ip := 20, exceptionHandlers := [⟨32,0⟩] }

def cleaning : FrameState Unit String :=
  { FrameState.initial () with ip := 42, exceptionHandlers := [⟨54,0⟩], deferStack := [30] }

end StackedThread
end ShardScript.Runtime
