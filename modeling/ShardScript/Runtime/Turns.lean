import ShardScript.Runtime.Frame

/-! What one turn of the interpreter loop of a frame does to its handlers, its deferred expressions and
the exception in it, whatever the data are. -/
namespace ShardScript.Runtime
open Library ByteCode

/-- A way to a handler, or out of the frame, on which deferred expressions are evaluated. -/
structure Unwinding (Exception : Type) where
  targetSize : Nat
  handlerOffset : Option Nat
  exception : Exception

namespace Unwinding

variable {Exception : Type}

def activation (unwinding : Unwinding Exception) : Activation Exception :=
  .unwind unwinding.targetSize unwinding.handlerOffset unwinding.exception

theorem activation_injective {one other : Unwinding Exception} (same : one.activation = other.activation) :
    one = other := by
  cases one
  cases other
  simpa [activation] using same

def start (exceptionHandlers : List ExceptionHandlerFrame) (exception : Exception) : Unwinding Exception :=
  match exceptionHandlers with
  | handler :: _ => ⟨handler.deferStackBase,some handler.handlerOffset,exception⟩
  | [] => ⟨0,none,exception⟩

end Unwinding

namespace FrameState

variable {Data Exception : Type} {machine : DataMachine Data Exception} {code : Code}
  {state next : FrameState Data Exception}

def unwinding (code : Code) (state : FrameState Data Exception) : Option (Unwinding Exception) :=
  if state.interruptionReason = .exceptionRaised then
    state.currentException.map (Unwinding.start state.exceptionHandlers)
  else
    match code.fetch state.ip,state.activations with
    | some .deferBreak,.unwind targetSize handlerOffset exception :: _ =>
        if state.deferDrainDepth = 0 then none else some ⟨targetSize,handlerOffset,exception⟩
    | _,_ => none

def unwound (machine : DataMachine Data Exception) (state : FrameState Data Exception) :
    FrameState Data Exception :=
  if state.interruptionReason = .exceptionRaised then
    { state with
      data := machine.drainEvalReferences state.data
      interruptionReason := .none
      currentException := none
      exceptionHandlers := state.exceptionHandlers.tail }
  else { state with
    ip := state.ip + Instruction.deferBreak.size
    deferDrainDepth := state.deferDrainDepth - 1
    activations := state.activations.tail }

/-- The next turn executes an instruction that ends no deferred expression of an unwinding. -/
structure Quiet (code : Code) (state : FrameState Data Exception) : Prop where
  calm : state.interruptionReason ≠ .exceptionRaised
  outside : state.unwinding code = none

def IsUndrainable (machine : DataMachine Data Exception) (state : FrameState Data Exception) : Prop :=
  state.interruptionReason = .exceptionRaised ∧ machine.holdsNullLiteral state.data = true

variable {unwinding : Unwinding Exception}

theorem step_unwinding (found : state.unwinding code = some unwinding)
    (drains : ¬state.IsUndrainable machine) :
    state.step machine code = resumeUnwind machine unwinding.targetSize unwinding.handlerOffset
      unwinding.exception (state.unwound machine) := by
  unfold FrameState.unwinding at found
  unfold step unwound
  split at found
  next raised =>
    obtain ⟨exception,current,rfl⟩ := Option.map_eq_some_iff.1 found
    rw [if_pos raised,if_pos raised]
    unfold handleExceptionInFrame
    rw [current]
    dsimp only
    rw [if_neg fun holds => drains ⟨raised,holds⟩]
    cases handlers : state.exceptionHandlers with
    | nil => rfl
    | cons handler handlers => rfl
  next calm =>
    rw [if_neg calm,if_neg calm]
    split at found
    next fetched active =>
      split at found
      next => cases found
      next deep =>
        obtain rfl := Option.some.inj found
        rw [fetched]
        simp only [processCode]
        rw [if_neg deep,active]
        rfl
    next => cases found

theorem step_undrainable (undrainable : state.IsUndrainable machine) : state.step machine code ≠ .running next := by
  intro step
  unfold FrameState.step handleExceptionInFrame at step
  rw [if_pos undrainable.1] at step
  split at step
  · cases step
  · rw [if_pos undrainable.2] at step
    cases step

theorem unwinding_cases (found : state.unwinding code = some unwinding) :
    (state.interruptionReason = .exceptionRaised ∧ ∃ exception, state.currentException = some exception ∧
      unwinding = .start state.exceptionHandlers exception) ∨
    (state.interruptionReason ≠ .exceptionRaised ∧ code.fetch state.ip = some .deferBreak ∧
      ∃ activations, state.activations = unwinding.activation :: activations) := by
  unfold FrameState.unwinding at found
  split at found
  next raised =>
    obtain ⟨exception,current,rfl⟩ := Option.map_eq_some_iff.1 found
    exact .inl ⟨raised,exception,current,rfl⟩
  next calm =>
    split at found
    next fetched active =>
      split at found
      next => cases found
      next =>
        obtain rfl := Option.some.inj found
        exact .inr ⟨calm,fetched,_,active⟩
    next => cases found

inductive Turn (machine : DataMachine Data Exception) (code : Code) (state : FrameState Data Exception) :
    FrameState Data Exception → Prop
  | moves {ip : Nat} {data : Data} (quiet : state.Quiet code)
      (idle : code.fetch state.ip = some .deferBreak → state.activations = []) :
      Turn machine code state { state with ip := ip, data := data }
  | raises {ip : Nat} {data : Data} {instruction : Instruction} {exception : Exception}
      (quiet : state.Quiet code) (fetched : code.fetch state.ip = some instruction)
      (again : instruction = .rethrow → state.currentException = some exception) :
      Turn machine code state ({ state with ip := ip, data := data }.raise exception)
  | returns {data : Data} (quiet : state.Quiet code) (fetched : code.fetch state.ip = some .return)
      (valued : machine.returnsValue = true) :
      Turn machine code state { state with
        ip := code.size
        data := data
        interruptionReason := .valueReturned
        deferDrainDepth := state.deferDrainDepth - state.activations.countP isUnwind
        activations := [] }
  | enters {ip handlerOffset : Nat} (quiet : state.Quiet code)
      (fetched : code.fetch state.ip = some (.enterTry handlerOffset)) :
      Turn machine code state { state with
        ip := ip
        exceptionHandlers := ⟨handlerOffset,state.deferStack.length⟩ :: state.exceptionHandlers }
  | leaves {ip : Nat} (quiet : state.Quiet code) (fetched : code.fetch state.ip = some .leaveTry) :
      Turn machine code state { state with ip := ip, exceptionHandlers := state.exceptionHandlers.tail }
  | ends {ip : Nat} {data : Data} (quiet : state.Quiet code)
      (fetched : code.fetch state.ip = some .endCatch) :
      Turn machine code state { state with ip := ip, data := data, currentException := none }
  | stores {ip : Nat} {data : Data} {exception : Option Exception} (quiet : state.Quiet code)
      (fetched : code.fetch state.ip = some .storeCurrentException) :
      Turn machine code state { state with ip := ip, data := data, currentException := exception }
  | registers {ip target : Nat} (quiet : state.Quiet code)
      (fetched : code.fetch state.ip = some (.defer target)) :
      Turn machine code state { state with ip := ip, deferStack := target :: state.deferStack }
  | drains {target remaining savedIP : Nat} {deferStack : List Nat} (quiet : state.Quiet code)
      (fetched : code.fetch state.ip ≠ some .deferBreak) (stack : state.deferStack = target :: deferStack) :
      Turn machine code state { state with
        ip := target
        deferStack := deferStack
        deferDrainDepth := state.deferDrainDepth + 1
        activations := .drain remaining savedIP :: state.activations }
  | drainsNext {target remaining savedIP : Nat} {deferStack : List Nat}
      {activations : List (Activation Exception)} (quiet : state.Quiet code)
      (fetched : code.fetch state.ip = some .deferBreak) (active : state.activations = .drain (remaining + 1) savedIP :: activations)
      (stack : state.deferStack = target :: deferStack) :
      Turn machine code state { state with
        ip := target
        deferStack := deferStack
        activations := .drain remaining savedIP :: activations }
  | drained {ip remaining savedIP : Nat} {activations : List (Activation Exception)}
      (quiet : state.Quiet code) (fetched : code.fetch state.ip = some .deferBreak)
      (active : state.activations = .drain remaining savedIP :: activations) (deep : state.deferDrainDepth ≠ 0) :
      Turn machine code state { state with
        ip := ip
        deferDrainDepth := state.deferDrainDepth - 1
        activations := activations }
  | unwinds {unwinding : Unwinding Exception} {target : Nat} {deferStack : List Nat}
      (found : state.unwinding code = some unwinding) (stack : state.deferStack = target :: deferStack)
      (above : unwinding.targetSize < state.deferStack.length) :
      Turn machine code state { state.unwound machine with
        ip := target
        deferStack := deferStack
        deferDrainDepth := (state.unwound machine).deferDrainDepth + 1
        activations := unwinding.activation :: (state.unwound machine).activations }
  | receives {unwinding : Unwinding Exception} {handlerOffset : Nat}
      (found : state.unwinding code = some unwinding) (handler : unwinding.handlerOffset = some handlerOffset)
      (through : state.deferStack.length ≤ unwinding.targetSize) :
      Turn machine code state { state.unwound machine with
        ip := handlerOffset
        data := machine.incrementReference unwinding.exception
          (machine.pushException unwinding.exception (state.unwound machine).data)
        interruptionReason := .none
        currentException := some unwinding.exception }

theorem unwound_deferStack : (state.unwound machine).deferStack = state.deferStack := by
  unfold unwound
  split
  · rfl
  · rfl

theorem unwound_calm : (state.unwound machine).interruptionReason ≠ .exceptionRaised := by
  unfold unwound
  split
  · simp
  · assumption

theorem unwound_activations {activation : Activation Exception}
    (member : activation ∈ (state.unwound machine).activations) : activation ∈ state.activations := by
  unfold unwound at member
  split at member
  · exact member
  · exact List.mem_of_mem_tail member

theorem Turn.activations (turn : Turn machine code state next)
    (member : unwinding.activation ∈ next.activations) :
    unwinding.activation ∈ state.activations ∨ state.unwinding code = some unwinding := by
  cases turn with
  | moves | enters | leaves | ends | stores | registers => exact .inl member
  | raises | returns => cases member
  | drains =>
    rcases List.mem_cons.1 member with same | member
    · cases same
    · exact .inl member
  | drainsNext _ _ active =>
    rw [active]
    rcases List.mem_cons.1 member with same | member
    · cases same
    · exact .inl (List.mem_cons_of_mem _ member)
  | drained _ _ active =>
    rw [active]
    exact .inl (List.mem_cons_of_mem _ member)
  | unwinds found =>
    rcases List.mem_cons.1 member with same | member
    · exact .inr (Unwinding.activation_injective same ▸ found)
    · exact .inl (unwound_activations member)
  | receives => exact .inl (unwound_activations member)

theorem resumeUnwind_turn (found : state.unwinding code = some unwinding)
    (step : resumeUnwind machine unwinding.targetSize unwinding.handlerOffset unwinding.exception
      (state.unwound machine) = .running next) : Turn machine code state next := by
  unfold resumeUnwind resumeUnwind.deliver at step
  split at step
  next target deferStack stack =>
    rw [unwound_deferStack] at stack
    split at step
    next above =>
      rw [unwound_deferStack] at above
      obtain rfl := Config.running.inj step
      exact .unwinds found stack above
    next below =>
      rw [unwound_deferStack] at below
      split at step
      next handler =>
        obtain rfl := Config.running.inj step
        exact .receives found handler (Nat.le_of_not_lt below)
      next => cases step
  next stack =>
    rw [unwound_deferStack] at stack
    split at step
    next handler =>
      obtain rfl := Config.running.inj step
      exact .receives found handler (by simp [stack])
    next => cases step

theorem deferBreak_turn (quiet : state.Quiet code)
    (fetched : code.fetch state.ip = some .deferBreak) {ip : Nat}
    (step : { state with ip := ip }.processCode machine code .deferBreak = .running next) :
    Turn machine code state next := by
  simp only [processCode] at step
  split at step
  next => cases step
  next deep =>
    cases active : state.activations with
    | nil =>
      simp only [active] at step
      obtain rfl := Config.running.inj step
      rw [← active]
      exact .moves quiet fun _ => active
    | cons activation activations =>
      cases activation with
      | drain remaining savedIP =>
        simp only [active] at step
        unfold resumeDrain at step
        split at step
        next =>
          obtain rfl := Config.running.inj step
          exact .drained quiet fetched active deep
        next =>
          split at step
          next => cases step
          next stack =>
            obtain rfl := Config.running.inj step
            exact .drainsNext quiet fetched active stack
      | unwind targetSize handlerOffset exception =>
        have outside := quiet.outside
        rw [unwinding,if_neg quiet.calm,fetched,active] at outside
        simp only [if_neg deep] at outside
        cases outside

theorem deferDrain_turn (quiet : state.Quiet code) {count ip : Nat}
    (fetched : code.fetch state.ip = some (.deferDrain count))
    (step : { state with ip := ip }.processCode machine code (.deferDrain count) = .running next) :
    Turn machine code state next := by
  simp only [processCode] at step
  have other : code.fetch state.ip ≠ some .deferBreak := by simp [fetched]
  unfold resumeDrain at step
  split at step
  next =>
    obtain rfl := Config.running.inj step
    exact .moves quiet fun same => absurd same other
  next =>
    split at step
    next => cases step
    next stack =>
      obtain rfl := Config.running.inj step
      exact .drains quiet other stack

theorem processCode_turn {instruction : Instruction} (quiet : state.Quiet code)
    (fetched : code.fetch state.ip = some instruction)
    {ip : Nat} (step : { state with ip := ip }.processCode machine code instruction = .running next) :
    Turn machine code state next := by
  cases instruction with
  | deferBreak => exact deferBreak_turn quiet fetched step
  | deferDrain count => exact deferDrain_turn quiet fetched step
  | halt => cases step
  | nop | jump | loadCurrentException =>
    obtain rfl := Config.running.inj step
    exact .moves quiet (by simp [fetched])
  | jumpFalse | jumpTrue | branchNull | jumpTable =>
    simp only [processCode] at step
    split at step
    · cases step
    · obtain rfl := Config.running.inj step
      exact .moves quiet (by simp [fetched])
  | «return» =>
    simp only [processCode] at step
    split at step
    · split at step
      · cases step
      · obtain rfl := Config.running.inj step
        exact .returns quiet fetched (by assumption)
    · obtain rfl := Config.running.inj step
      exact .moves quiet (by simp [fetched])
  | throw =>
    simp only [processCode] at step
    split at step
    · cases step
    · obtain rfl := Config.running.inj step
      exact .raises quiet fetched (by simp)
  | rethrow =>
    simp only [processCode] at step
    split at step
    · cases step
    · next current =>
      obtain rfl := Config.running.inj step
      exact .raises quiet fetched fun _ => current
  | enterTry handlerOffset =>
    obtain rfl := Config.running.inj step
    exact .enters quiet fetched
  | leaveTry =>
    obtain rfl := Config.running.inj step
    exact .leaves quiet fetched
  | endCatch =>
    simp only [processCode] at step
    split at step
    · obtain rfl := Config.running.inj step
      exact .moves quiet (by simp [fetched])
    · obtain rfl := Config.running.inj step
      exact .ends quiet fetched
  | storeCurrentException =>
    simp only [processCode] at step
    split at step
    · cases step
    · obtain rfl := Config.running.inj step
      exact .stores quiet fetched
  | «defer» target =>
    obtain rfl := Config.running.inj step
    exact .registers quiet fetched
  | _ =>
    simp only [processCode] at step
    split at step
    · obtain rfl := Config.running.inj step
      exact .moves quiet (by simp [fetched])
    · obtain rfl := Config.running.inj step
      exact .raises quiet fetched (by simp)
    · cases step

theorem step_turn (step : state.step machine code = .running next) : Turn machine code state next := by
  cases found : state.unwinding code with
  | some unwinding =>
    have drains : ¬state.IsUndrainable machine := fun undrainable => step_undrainable undrainable step
    exact resumeUnwind_turn found ((step_unwinding found drains).symm.trans step)
  | none =>
    unfold FrameState.step at step
    split at step
    next raised =>
      rw [unwinding,if_pos raised,Option.map_eq_none_iff] at found
      simp only [handleExceptionInFrame,found] at step
      cases step
    next calm =>
      split at step
      next fetched => exact processCode_turn ⟨calm,found⟩ fetched step
      next => split at step <;> cases step

end FrameState

end ShardScript.Runtime
