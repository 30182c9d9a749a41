import ShardScript.Emitter.StatementFlow
import ShardScript.Source.Loops

/-! The exception handlers of a frame are those of the try blocks around its instruction, as long
as no `break` and no `continue` leaves a try block, and deferred expressions are evaluated between
the try blocks that they are registered in. -/
namespace ShardScript.Source
open Library ByteCode Emitter ShardScript.Runtime FrameState

def handler? : Mark → Option Nat
  | .tryBody handlerOffset => some handlerOffset
  | .deferred => none

def enclosingTries (body : Statement .block) (offset : Nat) : List Nat :=
  (marksAt (bodyParts body) offset).filterMap handler?

variable {Data Exception : Type} {machine : DataMachine Data Exception} {body : Statement .block}

def EvaluatedIn (body : Statement .block) (around : List Nat) (deferStack : List Nat) : Prop :=
  ∀ target ∈ deferStack.head?, enclosingTries body target = around

/-- The next step is no `break` or `continue` that leaves a try block, and starts no deferred
expression where other try blocks are around than at its registration. -/
def StaysInTries (body : Statement .block) (state : FrameState Data Exception) : Prop :=
  if state.interruptionReason = .exceptionRaised then
    match state.exceptionHandlers with
    | handler :: _ => handler.deferStackBase < state.deferStack.length →
        EvaluatedIn body (enclosingTries body handler.handlerOffset) state.deferStack
    | [] => EvaluatedIn body [] state.deferStack
  else
    match (visitBody body).code.fetch state.ip,state.activations with
    | some (.jump target),_ => .exitJump state.ip ∈ bodyParts body →
        marksAt (bodyParts body) target = marksAt (bodyParts body) state.ip
    | some (.deferDrain (_ + 1)),_ => EvaluatedIn body (enclosingTries body state.ip) state.deferStack
    | some .deferBreak,.drain (_ + 1) savedIP :: _ =>
        EvaluatedIn body (enclosingTries body savedIP) state.deferStack
    | some .deferBreak,.unwind targetSize (some handlerOffset) _ :: _ => targetSize < state.deferStack.length →
        EvaluatedIn body (enclosingTries body handlerOffset) state.deferStack
    | some .deferBreak,.unwind targetSize none _ :: _ => targetSize < state.deferStack.length →
        EvaluatedIn body [] state.deferStack
    | _,_ => True

/-- Control may stand at an offset outside the deferred bodies, with these handlers. -/
def Regular (body : Statement .block) (handlers : List ExceptionHandlerFrame) (offset : Nat) : Prop :=
  handlers.map (·.handlerOffset) = enclosingTries body offset ∧ .deferred ∉ marksAt (bodyParts body) offset

def Chained (body : Statement .block) : List ExceptionHandlerFrame → Prop
  | [] => True
  | handler :: handlers => Regular body handlers handler.handlerOffset ∧ Chained body handlers

def Resumes (body : Statement .block) (handlers : List ExceptionHandlerFrame) : Activation Exception → Prop
  | .drain _ savedIP => Regular body handlers savedIP
  | .unwind _ (some handlerOffset) _ => Regular body handlers handlerOffset
  | .unwind _ none _ => handlers = []

structure Disciplined (body : Statement .block) (state : FrameState Data Exception) : Prop where
  enclosed : state.ip < (visitBody body).code.size →
    state.exceptionHandlers.map (·.handlerOffset) = enclosingTries body state.ip
  inside : state.interruptionReason ≠ .exceptionRaised → state.ip < (visitBody body).code.size →
    (state.activations = [] ↔ .deferred ∉ marksAt (bodyParts body) state.ip)
  chained : Chained body state.exceptionHandlers
  registered : ∀ target ∈ state.deferStack, .deferred ∈ marksAt (bodyParts body) target
  single : state.activations.tail = []
  raised : state.interruptionReason = .exceptionRaised → state.activations = []
  resumed : ∀ activation ∈ state.activations, Resumes body state.exceptionHandlers activation

namespace Disciplined

variable {state next : FrameState Data Exception}

theorem initial (data : Data) :
    Disciplined body (.initial data : FrameState Data Exception) := by
  have start : marksAt (bodyParts body) 0 = [] :=
    (body.parts_within bodyScopes 0).marksAt_eq_nil (.inl (Nat.le_refl 0))
  refine ⟨?_,?_,trivial,?_,rfl,fun _ => rfl,?_⟩
  · intro _
    simp [FrameState.initial,enclosingTries,start]
  · intro _ _
    simp [FrameState.initial,start]
  · intro target member
    cases member
  · intro activation member
    cases member

theorem regular {handlers : List ExceptionHandlerFrame} {offset : Nat} (at_ : Regular body handlers offset)
    (ip : next.ip = offset) (same : next.exceptionHandlers = handlers) (chained : Chained body handlers)
    (registered : ∀ target ∈ next.deferStack, .deferred ∈ marksAt (bodyParts body) target)
    (outside : next.activations = []) : Disciplined body next := by
  refine ⟨?_,?_,?_,registered,?_,fun _ => outside,?_⟩
  · intro _
    rw [same,ip]
    exact at_.1
  · intro _ _
    rw [outside,ip]
    exact ⟨fun _ => at_.2,fun _ => rfl⟩
  · rw [same]
    exact chained
  · rw [outside]
    rfl
  · rw [outside]
    exact fun activation member => nomatch member

theorem entered {activation : Activation Exception} {target : Nat} {deferStack : List Nat}
    (chained : Chained body state.exceptionHandlers)
    (registered : ∀ target ∈ state.deferStack, .deferred ∈ marksAt (bodyParts body) target)
    (stack : state.deferStack = target :: deferStack) (calm : next.interruptionReason ≠ .exceptionRaised)
    (resumes : Resumes body state.exceptionHandlers activation)
    (around : enclosingTries body target = state.exceptionHandlers.map (·.handlerOffset))
    (ip : next.ip = target) (same : next.exceptionHandlers = state.exceptionHandlers)
    (popped : next.deferStack = deferStack) (active : next.activations = [activation]) :
    Disciplined body next := by
  have deferred : .deferred ∈ marksAt (bodyParts body) target := registered target (by simp [stack])
  refine ⟨?_,?_,?_,?_,?_,?_,?_⟩
  · intro _
    rw [same,ip,around]
  · intro _ _
    rw [active,ip]
    simp [deferred]
  · rw [same]
    exact chained
  · intro other member
    rw [popped] at member
    exact registered other (by simp [stack,member])
  · rw [active]
    rfl
  · intro raised
    exact absurd raised calm
  · intro other member
    rw [active,List.mem_singleton] at member
    rw [member,same]
    exact resumes

theorem resumeDrain {remaining savedIP : Nat} (at_ : Regular body state.exceptionHandlers savedIP)
    (chained : Chained body state.exceptionHandlers)
    (registered : ∀ target ∈ state.deferStack, .deferred ∈ marksAt (bodyParts body) target)
    (outside : state.activations = []) (calm : state.interruptionReason ≠ .exceptionRaised)
    (evaluated : 0 < remaining → EvaluatedIn body (enclosingTries body savedIP) state.deferStack)
    (step : state.resumeDrain remaining savedIP = .running next) : Disciplined body next := by
  cases remaining with
  | zero =>
    obtain rfl := Config.running.inj step
    exact regular at_ rfl rfl chained registered outside
  | succ remaining =>
    cases stack : state.deferStack with
    | nil =>
      rw [FrameState.resumeDrain,stack] at step
      cases step
    | cons target deferStack =>
      rw [FrameState.resumeDrain,stack] at step
      obtain rfl := Config.running.inj step
      have around := evaluated (Nat.succ_pos _) target (by simp [stack])
      have resumes : Resumes body state.exceptionHandlers (.drain remaining savedIP : Activation Exception) := at_
      exact entered chained registered stack calm resumes (around.trans at_.1.symm) rfl rfl rfl
        (congrArg (_ :: ·) outside)

theorem resumeUnwind {targetSize : Nat} {handlerOffset : Option Nat} {exception : Exception}
    (chained : Chained body state.exceptionHandlers)
    (registered : ∀ target ∈ state.deferStack, .deferred ∈ marksAt (bodyParts body) target)
    (outside : state.activations = []) (calm : state.interruptionReason ≠ .exceptionRaised)
    (resumes : Resumes body state.exceptionHandlers (.unwind targetSize handlerOffset exception))
    (evaluated : targetSize < state.deferStack.length →
      EvaluatedIn body (state.exceptionHandlers.map (·.handlerOffset)) state.deferStack)
    (step : state.resumeUnwind machine targetSize handlerOffset exception = .running next) :
    Disciplined body next := by
  have delivered : FrameState.resumeUnwind.deliver machine handlerOffset exception state = .running next →
      Disciplined body next := by
    intro delivered
    cases handlerOffset with
    | none => cases delivered
    | some offset =>
      obtain rfl := Config.running.inj delivered
      exact regular resumes rfl rfl chained registered outside
  unfold FrameState.resumeUnwind at step
  cases stack : state.deferStack with
  | nil =>
    rw [stack] at step
    exact delivered step
  | cons target deferStack =>
    simp only [stack] at step
    split at step
    · rename_i pending
      obtain rfl := Config.running.inj step
      have around := evaluated (by rwa [stack]) target (by simp [stack])
      exact entered chained registered stack calm resumes around rfl rfl rfl
        (congrArg (_ :: ·) outside)
    · exact delivered step

theorem handleException (disciplined : Disciplined body state) (raised : state.interruptionReason = .exceptionRaised)
    (stays : StaysInTries body state) (step : state.handleExceptionInFrame machine = .running next) :
    Disciplined body next := by
  rw [StaysInTries,if_pos raised] at stays
  have chained := disciplined.chained
  have outside := disciplined.raised raised
  unfold FrameState.handleExceptionInFrame at step
  cases current : state.currentException with
  | none =>
    rw [current] at step
    cases step
  | some exception =>
    simp only [current] at step
    split at step
    · cases step
    cases handlers : state.exceptionHandlers with
    | nil =>
      simp only [handlers] at step stays chained
      refine resumeUnwind ?_ ?_ ?_ ?_ ?_ ?_ step
      · exact chained
      · exact disciplined.registered
      · exact outside
      · simp
      · rfl
      · intro _
        exact stays
    | cons handler rest =>
      simp only [handlers] at step stays chained
      refine resumeUnwind ?_ ?_ ?_ ?_ ?_ ?_ step
      · exact chained.2
      · exact disciplined.registered
      · exact outside
      · simp
      · exact chained.1
      · intro pending
        rw [chained.1.1]
        exact stays pending

theorem moved (disciplined : Disciplined body state) (before : state.ip < (visitBody body).code.size)
    (calm : state.interruptionReason ≠ .exceptionRaised)
    (marks : marksAt (bodyParts body) next.ip = marksAt (bodyParts body) state.ip)
    (handlers : next.exceptionHandlers = state.exceptionHandlers)
    (stack : ∀ target ∈ next.deferStack, .deferred ∈ marksAt (bodyParts body) target)
    (activations : next.activations = state.activations)
    (reason : next.interruptionReason = state.interruptionReason) : Disciplined body next := by
  refine ⟨?_,?_,?_,?_,?_,?_,?_⟩
  · intro _
    rw [handlers,enclosingTries,marks]
    exact disciplined.enclosed before
  · intro _ _
    rw [activations,marks]
    exact disciplined.inside calm before
  · rw [handlers]
    exact disciplined.chained
  · exact stack
  · rw [activations]
    exact disciplined.single
  · intro raised
    rw [reason] at raised
    exact absurd raised calm
  · rw [handlers,activations]
    exact disciplined.resumed

theorem raisedAt (disciplined : Disciplined body state) (before : state.ip < (visitBody body).code.size)
    (marks : marksAt (bodyParts body) next.ip = marksAt (bodyParts body) state.ip)
    (handlers : next.exceptionHandlers = state.exceptionHandlers) (stack : next.deferStack = state.deferStack)
    (activations : next.activations = []) (reason : next.interruptionReason = .exceptionRaised) :
    Disciplined body next := by
  refine ⟨?_,?_,?_,?_,?_,fun _ => activations,?_⟩
  · intro _
    rw [handlers,enclosingTries,marks]
    exact disciplined.enclosed before
  · intro calm
    exact absurd reason calm
  · rw [handlers]
    exact disciplined.chained
  · rw [stack]
    exact disciplined.registered
  · rw [activations]
    rfl
  · rw [activations]
    exact fun activation member => nomatch member

theorem left (disciplined : Disciplined body state) (calm : next.interruptionReason ≠ .exceptionRaised)
    (ip : next.ip = (visitBody body).code.size) (handlers : next.exceptionHandlers = state.exceptionHandlers)
    (stack : next.deferStack = state.deferStack)
    (activations : next.activations = [] ∨ next.activations = state.activations) : Disciplined body next := by
  refine ⟨?_,?_,?_,?_,?_,?_,?_⟩
  · intro before
    omega
  · intro _ before
    omega
  · rw [handlers]
    exact disciplined.chained
  · rw [stack]
    exact disciplined.registered
  · rcases activations with none_ | same
    · rw [none_]
      rfl
    · rw [same]
      exact disciplined.single
  · intro raised
    exact absurd raised calm
  · rcases activations with none_ | same
    · rw [none_]
      exact fun activation member => nomatch member
    · rw [handlers,same]
      exact disciplined.resumed

theorem processed {instruction : Instruction} (disciplined : Disciplined body state)
    (calm : state.interruptionReason ≠ .exceptionRaised)
    (found : (visitBody body).code.fetch state.ip = some instruction)
    (flows : (bodyChart body).Flows state.ip instruction) (stays : StaysInTries body state)
    (step : FrameState.processCode machine (visitBody body).code instruction
      { state with ip := state.ip + instruction.size } = .running next) : Disciplined body next := by
  have before := Code.lt_size_of_fetch found
  rw [StaysInTries,if_neg calm,found] at stays
  by_cases isData : instruction.isData = true
  · have same : marksAt (bodyParts body) (state.ip + instruction.size) = marksAt (bodyParts body) state.ip := by
      cases instruction <;> first | exact flows | cases isData
    rw [processCode_data isData] at step
    cases executed : machine.execute instruction state.data with
    | ok data =>
      simp only [executed] at step
      obtain rfl := Config.running.inj step
      exact disciplined.moved before calm same rfl disciplined.registered rfl rfl
    | raised exception data =>
      simp only [executed] at step
      obtain rfl := Config.running.inj step
      exact disciplined.raisedAt before same rfl rfl rfl rfl
    | fault =>
      simp only [executed] at step
      cases step
  have control : instruction.isData = false := by simpa using isData
  have registered := disciplined.registered
  have stay : ∀ {next : FrameState Data Exception}, marksAt (bodyParts body) next.ip =
      marksAt (bodyParts body) state.ip → next.exceptionHandlers = state.exceptionHandlers →
      next.deferStack = state.deferStack → next.activations = state.activations →
      next.interruptionReason = state.interruptionReason → Disciplined body next := by
    intro next marks handlers stack activations reason
    exact disciplined.moved before calm marks handlers (by rwa [stack]) activations reason
  cases instruction with
  | nop =>
    obtain rfl := Config.running.inj step
    exact stay flows rfl rfl rfl rfl
  | halt => cases step
  | jump target =>
    obtain rfl := Config.running.inj step
    rcases flows with exit | same
    · exact stay (stays exit) rfl rfl rfl rfl
    · exact stay same rfl rfl rfl rfl
  | jumpFalse target =>
    cases popped : machine.popTruth state.data with
    | none =>
      simp only [processCode,popped] at step
      cases step
    | some result =>
      obtain ⟨truth,data⟩ := result
      simp only [processCode,popped] at step
      obtain rfl := Config.running.inj step
      cases truth
      · exact stay flows.1 rfl rfl rfl rfl
      · exact stay flows.2 rfl rfl rfl rfl
  | jumpTrue target =>
    cases popped : machine.popTruth state.data with
    | none =>
      simp only [processCode,popped] at step
      cases step
    | some result =>
      obtain ⟨truth,data⟩ := result
      simp only [processCode,popped] at step
      obtain rfl := Config.running.inj step
      cases truth
      · exact stay flows.2 rfl rfl rfl rfl
      · exact stay flows.1 rfl rfl rfl rfl
  | branchNull | jumpTable => exact flows.elim
  | «return» =>
    simp only [processCode] at step
    split at step
    · split at step
      · cases step
      · obtain rfl := Config.running.inj step
        exact disciplined.left (by simp) rfl rfl rfl (.inl rfl)
    · obtain rfl := Config.running.inj step
      exact disciplined.left calm rfl rfl rfl (.inr rfl)
  | throw =>
    cases thrown : machine.popThrown state.data with
    | none =>
      simp only [processCode,thrown] at step
      cases step
    | some result =>
      simp only [processCode,thrown] at step
      obtain rfl := Config.running.inj step
      exact disciplined.raisedAt before flows rfl rfl rfl rfl
  | rethrow =>
    cases current : state.currentException with
    | none =>
      simp only [processCode,current] at step
      cases step
    | some exception =>
      simp only [processCode,current] at step
      obtain rfl := Config.running.inj step
      exact disciplined.raisedAt before flows rfl rfl rfl rfl
  | enterTry handlerOffset =>
    obtain rfl := Config.running.inj step
    obtain ⟨handler,entered,outside⟩ := flows
    have enclosed := disciplined.enclosed before
    have next_ : marksAt (bodyParts body) (state.ip + 10) =
      .tryBody handlerOffset :: marksAt (bodyParts body) state.ip := entered
    refine regular ⟨?_,?_⟩ rfl rfl ⟨⟨?_,?_⟩,disciplined.chained⟩ registered ((disciplined.inside calm before).mpr outside)
    · simp [enclosingTries,next_,handler?,enclosed,Instruction.size]
    · have outside : Mark.deferred ∉ marksAt (bodyParts body) state.ip := outside
      simpa [next_,Instruction.size] using outside
    · exact enclosed.trans (congrArg (List.filterMap handler?) handler).symm
    · exact fun member => outside (handler ▸ member)
  | leaveTry =>
    obtain rfl := Config.running.inj step
    obtain ⟨outside,handler,marks⟩ := flows
    have here : marksAt (bodyParts body) state.ip =
      .tryBody handler :: marksAt (bodyParts body) (state.ip + 2) := marks
    have outside : Mark.deferred ∉ marksAt (bodyParts body) state.ip := outside
    have enclosed := disciplined.enclosed before
    have chained := disciplined.chained
    rw [enclosingTries,here] at enclosed
    rw [here] at outside
    cases handlers : state.exceptionHandlers with
    | nil => simp [handlers,handler?] at enclosed
    | cons top rest =>
      rw [handlers] at enclosed chained
      have left := (List.cons.inj enclosed).2
      refine regular ⟨left,?_⟩ rfl (by simp) chained.2 registered ?_
      · exact fun member => outside (List.mem_cons_of_mem _ member)
      · exact (disciplined.inside calm before).mpr (by rwa [here])
  | endCatch =>
    simp only [processCode] at step
    split at step
    all_goals
      obtain rfl := Config.running.inj step
      exact stay flows rfl rfl rfl rfl
  | loadCurrentException =>
    obtain rfl := Config.running.inj step
    exact stay flows rfl rfl rfl rfl
  | storeCurrentException =>
    simp only [processCode] at step
    split at step
    · cases step
    · obtain rfl := Config.running.inj step
      exact stay flows rfl rfl rfl rfl
  | defer target =>
    obtain rfl := Config.running.inj step
    refine disciplined.moved before calm flows.2 rfl ?_ rfl rfl
    intro other member
    rcases List.mem_cons.mp member with rfl | member
    · rw [show marksAt (bodyParts body) other = _ from flows.1]
      exact List.mem_cons_self
    · exact registered other member
  | deferDrain count =>
    have outside := (disciplined.inside calm before).mpr flows.1
    have enclosed := disciplined.enclosed before
    have next_ : marksAt (bodyParts body) (state.ip + 10) = marksAt (bodyParts body) state.ip := flows.2
    have same : enclosingTries body (state.ip + 10) = enclosingTries body state.ip :=
      congrArg (List.filterMap handler?) next_
    refine resumeDrain ?_ ?_ ?_ ?_ ?_ ?_ step
    · refine ⟨enclosed.trans same.symm,?_⟩
      have outside : Mark.deferred ∉ marksAt (bodyParts body) state.ip := flows.1
      exact fun member => outside (next_ ▸ member)
    · exact disciplined.chained
    · exact registered
    · exact outside
    · exact calm
    · intro positive
      cases count with
      | zero => cases positive
      | succ count => exact same ▸ stays
  | deferBreak =>
    have resumed := disciplined.resumed
    simp only [processCode] at step
    split at step
    · cases step
    · cases activations : state.activations with
      | nil => exact absurd flows ((disciplined.inside calm before).mp activations)
      | cons activation rest =>
        obtain rfl : rest = [] := by
          have single := disciplined.single
          rwa [activations] at single
        have resumes := resumed activation (by simp [activations])
        simp only [activations] at step stays
        cases activation with
        | drain remaining savedIP =>
          refine resumeDrain ?_ ?_ ?_ ?_ ?_ ?_ step
          · exact resumes
          · exact disciplined.chained
          · exact registered
          · rfl
          · exact calm
          · intro positive
            cases remaining with
            | zero => cases positive
            | succ remaining => exact stays
        | unwind targetSize handlerOffset exception =>
          refine resumeUnwind ?_ ?_ ?_ ?_ ?_ ?_ step
          · exact disciplined.chained
          · exact registered
          · rfl
          · exact calm
          · exact resumes
          · intro pending
            cases handlerOffset with
            | none =>
              have none_ : state.exceptionHandlers = [] := resumes
              simpa [none_] using stays pending
            | some offset =>
              exact resumes.1 ▸ stays pending
  | _ => cases control

theorem kept (accepts : Accepts body) (disciplined : Disciplined body state) (stays : StaysInTries body state)
    (step : (interpreter machine (visitBody body).code).step state = .running next) : Disciplined body next := by
  change FrameState.step machine (visitBody body).code state = _ at step
  unfold FrameState.step at step
  by_cases raised : state.interruptionReason = .exceptionRaised
  · rw [if_pos raised] at step
    exact disciplined.handleException raised stays step
  · rw [if_neg raised] at step
    cases found : (visitBody body).code.fetch state.ip with
    | none =>
      simp only [found] at step
      split at step
      · cases step
      · cases step
    | some instruction =>
      simp only [found] at step
      have flows := visitBody_flows accepts state.ip instruction (Nat.zero_le _) (Code.lt_size_of_fetch found) found
      exact disciplined.processed raised found flows stays step

end Disciplined

/-- In a run that keeps to its try blocks the handlers are those of the try blocks around the
instruction, one for each, wherever the run has come to. -/
theorem handlers_disciplined {state : FrameState Data Exception} {data : Data} (accepts : Accepts body)
    (reached : (interpreter machine (visitBody body).code).Reaches (StaysInTries body) (.initial data) state)
    (inBody : state.ip < (visitBody body).code.size) :
    state.exceptionHandlers.map (·.handlerOffset) = enclosingTries body state.ip := by
  have disciplined := reached.invariant (Disciplined.initial data)
    (fun _ _ disciplined stays step => disciplined.kept accepts stays step)
  exact disciplined.enclosed inBody

def guarded : Statement .block :=
  .cons (.tryStatement (.cons (.simple (.op (.loadLocal 0))) .empty)
    (.catchClause none (.op .pop) .empty .noCatch)) .empty

theorem handlers_disciplined_guarded :
    ([⟨26,0⟩] : List ExceptionHandlerFrame).map (·.handlerOffset) = enclosingTries guarded 10 :=
  @handlers_disciplined _ _ countdown guarded
    { FrameState.initial 1 with ip := 10, exceptionHandlers := [⟨26,0⟩] } 1
    (by decide) (.step .refl trivial rfl) (by decide)

def guardedBreak : Statement .block :=
  .cons (.whileStatement (.op (.loadLocal 0)) (.cons (.tryStatement (.cons .breakStatement .empty)
    (.catchClause none (.op .pop) .empty .noCatch)) .empty)) (.cons (.simple (.op (.loadLocal 1))) .empty)

/-- The `break` leaves the handler of its try block behind. -/
theorem guardedBreak_keeps_handler : Accepts guardedBreak ∧ ∃ state : FrameState Nat Unit,
    (interpreter countdown (visitBody guardedBreak).code).Reaches (fun _ => True) (.initial 1) state ∧
      (visitBody guardedBreak).code.fetch state.ip = some (.loadLocal 1) ∧
      state.exceptionHandlers.length = 1 ∧ enclosingTries guardedBreak state.ip = [] := by
  refine ⟨by decide,?_⟩
  refine ⟨_,@Machine.reaches_after _ _ _ _ 4 _ _ rfl,?_,?_,?_⟩
  · decide
  · decide
  · decide

end ShardScript.Source
