import ShardScript.Emitter.TrySites
import ShardScript.Runtime.Registrations
import ShardScript.Source.Dispatch
import ShardScript.Source.HandlerStack

/-! Which catch clause an exception comes to, and which exception a bare `throw` in it raises. -/
namespace ShardScript.Source
open Library ByteCode Emitter ShardScript.Runtime FrameState

/-- A catch clause; one for any exception has no type. -/
structure CatchClause where
  exceptionType : Option Address
  symbol : Option UInt16
  body : Statement .block

namespace CatchClause

def typeTest (catchType : Address) : Emission :=
  .all [.op .duplicate,.evalPush EvalLayoutTracker.referencePayload,.op (.isInstance catchType),.evalPop 1,.evalPush 1]

def bind : Option UInt16 → Emission
  | some slot => .seq (.op (.storeLocal slot)) (.evalPop 1)
  | none => .seq (.op .pop) (.evalPop 1)

def catches : List CatchClause → Statement .catches
  | [] => .noCatch
  | clause :: rest => .catchClause (clause.exceptionType.map typeTest) (bind clause.symbol) clause.body (catches rest)

variable {Exception : Type}

def handles (isAssignable : Exception → Address → Bool) (exception : Exception) (clause : CatchClause) : Bool :=
  match clause.exceptionType with
  | none => true
  | some catchType => isAssignable exception catchType

end CatchClause

structure ExceptionInstance (Shape : Type) where
  shape : Shape
  memory : Nat
  notNull : memory ≠ 0

/-- The instructions that exceptions pass on their way, over types and a heap that are left open, as are the others. -/
structure Throwing (Shape Rest : Type) where
  isReferenceType : Shape → Bool
  isAssignableTo : Shape → Address → Bool
  boolean : Shape
  /-- `AllocateInstance`, with a copy of the payload. -/
  allocateInstance : Shape → Nat → Rest → { memory : Nat // memory ≠ 0 } × Rest
  setLocal : UInt16 → StackEntry Shape → Rest → Rest
  incrementReference : ExceptionInstance Shape → Rest → Rest
  others : DataMachine (EvalStack Shape Rest) (ExceptionInstance Shape)

namespace Throwing

variable {Shape Rest : Type} [DecidableEq Shape] (operations : Throwing Shape Rest)

def isInstance (catchType : Address) (shape : Shape) (payload : Nat) : Bool :=
  (!operations.isReferenceType shape || payload ≠ 0) && operations.isAssignableTo shape catchType

def execute (instruction : Instruction) (data : EvalStack Shape Rest) :
    Effect (EvalStack Shape Rest) (ExceptionInstance Shape) :=
  match instruction,data.entries with
  | .duplicate,top :: entries => .ok { data with entries := top :: top :: entries }
  | .isInstance catchType,⟨some shape,payload⟩ :: entries =>
    .ok { data with
      entries := ⟨some operations.boolean,if operations.isInstance catchType shape payload then 1 else 0⟩ :: entries }
  | .isInstance _,⟨none,_⟩ :: _ => .fault
  | .storeLocal slot,top :: entries => .ok ⟨entries,operations.setLocal slot top data.rest⟩
  | .pop,⟨some _,_⟩ :: entries => .ok { data with entries := entries }
  | .pop,⟨none,_⟩ :: _ => .fault
  | instruction,_ => operations.others.execute instruction data

/-- What is thrown by value goes to the heap. -/
def popThrown (data : EvalStack Shape Rest) : Option (ExceptionInstance Shape × EvalStack Shape Rest) :=
  match data.entries with
  | ⟨some shape,payload⟩ :: entries =>
    if operations.isReferenceType shape then
      if notNull : payload ≠ 0 then some (⟨shape,payload,notNull⟩,{ data with entries := entries }) else none
    else
      let (memory,rest) := operations.allocateInstance shape payload data.rest
      some (⟨shape,memory,memory.property⟩,⟨entries,rest⟩)
  | _ => none

def machine : DataMachine (EvalStack Shape Rest) (ExceptionInstance Shape) :=
  { operations.others with
    execute := operations.execute
    popTruth := fun data => match data.entries with
      | ⟨some shape,payload⟩ :: entries =>
        if shape = operations.boolean then some (decide (payload ≠ 0),{ data with entries := entries }) else none
      | _ => none
    popThrown := operations.popThrown
    incrementReference := fun exception data =>
      { data with rest := operations.incrementReference exception data.rest }
    holdsNullLiteral := fun data => data.entries.any fun entry => entry.shape.isNone
    drainEvalReferences := fun data => ⟨[],(operations.others.drainEvalReferences data).rest⟩
    -- `PushReference` writes the pointer, whatever the header says of it.
    pushException := fun exception data =>
      { data with entries := ⟨some exception.shape,exception.memory⟩ :: data.entries } }

def isAssignable (exception : ExceptionInstance Shape) (catchType : Address) : Bool :=
  operations.isAssignableTo exception.shape catchType

/-- The exception is by reference, and on top of the stack. -/
def OnTop (exception : ExceptionInstance Shape) (data : EvalStack Shape Rest) : Prop :=
  operations.isReferenceType exception.shape = true ∧
    ∃ entries, data.entries = ⟨some exception.shape,exception.memory⟩ :: entries

end Throwing

variable {Data Exception : Type}

/-- What the instructions of catch clauses do with the exception on top of the stack. -/
structure Throwable (machine : DataMachine Data Exception) (isAssignable : Exception → Address → Bool)
    (OnTop : Exception → Data → Prop) : Prop where
  tested : ∀ exception catchType data, OnTop exception data → ∃ duplicated tested rest,
    machine.execute .duplicate data = .ok duplicated ∧ machine.execute (.isInstance catchType) duplicated = .ok tested ∧
      machine.popTruth tested = some (isAssignable exception catchType,rest) ∧ OnTop exception rest
  stored : ∀ exception slot data, OnTop exception data → ∃ rest, machine.execute (.storeLocal slot) data = .ok rest
  popped : ∀ exception data, OnTop exception data → ∃ rest, machine.execute .pop data = .ok rest
  thrown : ∀ exception data, OnTop exception data → ∃ rest, machine.popThrown data = some (exception,rest)

theorem Throwing.throwable {Shape Rest : Type} [DecidableEq Shape] (operations : Throwing Shape Rest) :
    Throwable operations.machine operations.isAssignable operations.OnTop := by
  refine ⟨?_,?_,?_,?_⟩
  · rintro exception catchType ⟨_,rest⟩ ⟨reference,entries,rfl⟩
    refine ⟨_,_,⟨⟨some exception.shape,exception.memory⟩ :: entries,rest⟩,rfl,rfl,?_,reference,entries,rfl⟩
    have instance_ : operations.isInstance catchType exception.shape exception.memory =
        operations.isAssignable exception catchType := by
      simp [isInstance,isAssignable,exception.notNull]
    dsimp only [machine]
    rw [if_pos rfl,instance_]
    cases operations.isAssignable exception catchType with
    | true => rfl
    | false => rfl
  · rintro exception slot ⟨_,rest⟩ ⟨_,entries,rfl⟩
    exact ⟨_,rfl⟩
  · rintro exception ⟨_,rest⟩ ⟨_,entries,rfl⟩
    exact ⟨_,rfl⟩
  · rintro exception ⟨_,rest⟩ ⟨reference,entries,rfl⟩
    refine ⟨⟨entries,rest⟩,?_⟩
    dsimp only [machine,popThrown]
    rw [if_pos reference,dif_pos exception.notNull]

/-- The interpreter is at the block of the first clause that handles the exception, behind which control leaves the
clauses. Without one it has raised the exception again. -/
def Chosen (code : Code) (isAssignable : Exception → Address → Bool) (stop : Nat) (base : FrameState Data Exception)
    (stack : List Nat) (exception : Exception) (clauses : List CatchClause) (config : FrameState.Config Data Exception) :
    Prop :=
  match clauses.find? (CatchClause.handles isAssignable exception) with
  | some clause => ∃ target entry data, ArmPlaced code target stop (CatchClause.bind clause.symbol,clause.body) entry ∧
      config = .running (at_ base (entry + (CatchClause.bind clause.symbol).size) data stack)
  | none => ∃ ip data, config = .running ((at_ base ip data stack).raise exception)

namespace Throwable

variable {machine : DataMachine Data Exception} {isAssignable : Exception → Address → Bool}
  {OnTop : Exception → Data → Prop} {code : Code} {base : FrameState Data Exception} {stack : List Nat}

variable {exception : Exception}

theorem typeTest_eq (throwable : Throwable machine isAssignable OnTop) {data : Data}
    (catchType : Address) (top : OnTop exception data) : ∃ rest trace,
    execTest machine (CatchClause.typeTest catchType) data = .value (isAssignable exception catchType,rest) trace ∧
      OnTop exception rest := by
  obtain ⟨duplicated,tested,rest,first,second,truth,top⟩ := throwable.tested exception catchType data top
  refine ⟨rest,[.ran .duplicate,.ran (.isInstance catchType)],?_,top⟩
  simp [execTest,CatchClause.typeTest,Emission.all,execEmission,first,second,truth,Progress.bind,Progress.after]

theorem bind_eq (throwable : Throwable machine isAssignable OnTop) {data : Data}
    (symbol : Option UInt16) (top : OnTop exception data) : ∃ rest trace,
    execEmission machine (CatchClause.bind symbol) data = .value rest trace := by
  cases symbol with
  | none =>
    obtain ⟨rest,popped⟩ := throwable.popped exception data top
    exact ⟨rest,[.ran .pop],by simp [CatchClause.bind,execEmission,popped,Progress.bind,Progress.after]⟩
  | some slot =>
    obtain ⟨rest,stored⟩ := throwable.stored exception slot data top
    exact ⟨rest,[.ran (.storeLocal slot)],by simp [CatchClause.bind,execEmission,stored,Progress.bind,Progress.after]⟩

theorem emission_leads (calm : base.interruptionReason = .none) {emission : Emission} {start : Nat} {data rest : Data}
    {trace : List Event} (placed : emission.Placed code start)
    (value : execEmission machine emission data = .value rest trace) : ∃ steps events,
    Machine.Leads (interpreter machine code) steps (.running (at_ base start data stack)) events
      (.running (at_ base (start + emission.size) rest stack)) := by
  have realized := @execEmission_realizes _ _ machine code (fun _ => True) 0 base calm emission start data stack placed
  rw [value] at realized
  obtain ⟨steps,last,_,leads,rfl⟩ := realized fun _ _ => trivial
  exact ⟨steps,_,leads⟩

theorem test_leads (calm : base.interruptionReason = .none) {test : Emission} {start exit : Nat} {data rest : Data}
    {truth : Bool} {trace : List Event} (placed : test.Placed code start)
    (found : code.fetch (start + test.size) = some (.jumpFalse exit))
    (value : execTest machine test data = .value (truth,rest) trace) : ∃ steps events,
    Machine.Leads (interpreter machine code) steps (.running (at_ base start data stack)) events
      (.running (at_ base (if truth then start + test.size + 10 else exit) rest stack)) := by
  have realized := @execTest_realizes _ _ machine code (fun _ => True) 0 base calm test start exit false data stack
    placed found
  rw [value] at realized
  obtain ⟨steps,last,_,leads,rfl⟩ := realized fun _ _ => trivial
  cases truth with
  | true => exact ⟨steps,_,leads⟩
  | false => exact ⟨steps,_,leads⟩

theorem catches_lead (throwable : Throwable machine isAssignable OnTop) (calm : base.interruptionReason = .none)
    (clauses : List CatchClause) {target : Option Targets} {open_ : List DeferScope}
    {start stop : Nat} {data : Data} (placed : (CatchClause.catches clauses).Placed code target open_ start)
    (ends : start + (CatchClause.catches clauses).size open_ = stop) (top : OnTop exception data) :
    ∃ steps events config,
      Machine.Leads (interpreter machine code) steps (.running (at_ base start data stack)) events config ∧
        Chosen code isAssignable stop base stack exception clauses config := by
  induction clauses generalizing start open_ data with
  | nil =>
    obtain ⟨rest,thrown⟩ := throwable.thrown exception data top
    have step := @step_at _ _ machine code base start data stack _ placed calm
    have raised : (at_ base (start + 2) data stack).processCode machine code .throw =
        .running ((at_ base (start + 2) (machine.incrementReference exception rest) stack).raise exception) := by
      have popped : machine.popThrown (at_ base (start + 2) data stack).data = some (exception,rest) := thrown
      simp only [processCode,popped]
      rfl
    exact ⟨1,_,_,.one (step.trans raised) rfl,start + 2,_,rfl⟩
  | cons clause clauses ih =>
    have bound {entry : Nat} {rest : Data} (top : OnTop exception rest)
        (armed : ArmPlaced code target stop (CatchClause.bind clause.symbol,clause.body) entry)
        (chosen : CatchClause.handles isAssignable exception clause = true) : ∃ steps events config,
        Machine.Leads (interpreter machine code) steps (.running (at_ base entry rest stack)) events config ∧
          Chosen code isAssignable stop base stack exception (clause :: clauses) config := by
      obtain ⟨after,trace,value⟩ := throwable.bind_eq clause.symbol top
      have bindPlaced := armed.choose_spec.1
      obtain ⟨steps,events,leads⟩ := emission_leads calm bindPlaced value
      refine ⟨steps,events,_,leads,?_⟩
      rw [Chosen,List.find?_cons_of_pos chosen]
      exact ⟨target,entry,after,armed,rfl⟩
    obtain ⟨exceptionType,symbol,body⟩ := clause
    cases exceptionType with
    | none =>
      obtain ⟨bindPlaced,block,jump,_⟩ := placed
      have stops : start + (CatchClause.bind symbol).size + body.size (⟨0,false⟩ :: open_) +
          drainSize (headCount (body.scopes (⟨0,false⟩ :: open_))) + 10 +
          (CatchClause.catches clauses).size (body.scopes (⟨0,false⟩ :: open_)).tail = stop := by
        rw [← ends]
        simp only [CatchClause.catches,Option.map_none,Statement.size,← Nat.add_assoc,Nat.add_zero]
      exact bound top ⟨open_,bindPlaced,block,stops ▸ jump⟩ rfl
    | some catchType =>
      obtain ⟨testPlaced,exit,bindPlaced,block,jump,restPlaced⟩ := placed
      have stops : start + (CatchClause.typeTest catchType).size + 10 + (CatchClause.bind symbol).size +
          body.size (⟨0,false⟩ :: open_) + drainSize (headCount (body.scopes (⟨0,false⟩ :: open_))) + 10 +
          (CatchClause.catches clauses).size (body.scopes (⟨0,false⟩ :: open_)).tail = stop := by
        rw [← ends]
        simp only [CatchClause.catches,Option.map_some,Statement.size,← Nat.add_assoc]
      obtain ⟨rest,trace,value,top⟩ := throwable.typeTest_eq catchType top
      obtain ⟨steps,events,leads⟩ := @test_leads _ _ machine code base stack calm _ _ _ _ _ _ _ testPlaced exit value
      cases assignable : isAssignable exception catchType with
      | true =>
        rw [assignable] at leads
        obtain ⟨more,later,config,further,chosen⟩ := bound top ⟨open_,bindPlaced,block,stops ▸ jump⟩ assignable
        exact ⟨_,_,config,leads.trans further,chosen⟩
      | false =>
        rw [assignable] at leads
        obtain ⟨more,later,config,further,chosen⟩ := ih restPlaced stops top
        refine ⟨_,_,config,leads.trans further,?_⟩
        rw [Chosen,List.find?_cons_of_neg (by simpa [CatchClause.handles] using assignable)]
        exact chosen

end Throwable

/-- The exceptions that handlers have received, and the clause that control is in. -/
structure Handling (Exception : Type) where
  delivered : List (Nat × Exception) := []
  /-- The handler of the clause, as long as no try statement has ended in it and no clause inside it was left. -/
  settled : Option Nat := none

def delivery (code : Code) (state : FrameState Data Exception) : Option (Nat × Exception) :=
  (state.unwinding code).bind fun unwinding =>
    if state.deferStack.length ≤ unwinding.targetSize then
      unwinding.handlerOffset.map fun handlerOffset => (handlerOffset,unwinding.exception)
    else none

/-- A turn ends a try statement, raises an exception or brings control out of a clause, but for the time of a
deferred expression. -/
def Unsettles (body : Statement .block) (state next : FrameState Data Exception) (settled : Option Nat) : Prop :=
  state.executing (visitBody body).code = some .endCatch ∨
  state.executing (visitBody body).code = some .storeCurrentException ∨
  next.interruptionReason = .exceptionRaised ∨
  (next.activations.isEmpty = true ∧ catchAt body next.ip ≠ settled)

instance (body : Statement .block) (state next : FrameState Data Exception) (settled : Option Nat) :
    Decidable (Unsettles body state next settled) := by
  unfold Unsettles
  infer_instance

def Handling.record (body : Statement .block) (state next : FrameState Data Exception) (handling : Handling Exception) :
    Handling Exception :=
  match delivery (visitBody body).code state with
  | some (handler,exception) => ⟨(handler,exception) :: handling.delivered,some handler⟩
  | none => { handling with
      settled := if Unsettles body state next handling.settled then none else handling.settled }

/-- A bare `throw` in a clause is not executed any more when a try statement has ended in the clause or control has
left a clause inside it. -/
def RethrowsSettled (body : Statement .block) (state : FrameState Data Exception) (handling : Handling Exception) : Prop :=
  state.executing (visitBody body).code = some .rethrow → ∀ handler, catchAt body state.ip = some handler →
    handling.settled = some handler

/-- No handler receives an exception by value, and no null literal is on the stack that is drained for it. -/
structure Proper (machine : DataMachine Data Exception) (isReference : Exception → Bool) (body : Statement .block)
    (state : FrameState Data Exception) (handling : Handling Exception) : Prop where
  stays : StaysInTries body state
  rethrows : RethrowsSettled body state handling
  references : ∀ handler exception, delivery (visitBody body).code state = some (handler,exception) →
    isReference exception = true
  drains : ¬state.IsUndrainable machine

/-- The runs of a method whose turns are all proper, with what their handlers have received. -/
inductive Handles (machine : DataMachine Data Exception) (isReference : Exception → Bool) (body : Statement .block)
    (data : Data) : FrameState Data Exception → Handling Exception → Prop
  | initial : Handles machine isReference body data (.initial data) {}
  | turn {state next : FrameState Data Exception} {handling : Handling Exception}
      (run : Handles machine isReference body data state handling) (proper : Proper machine isReference body state handling)
      (step : state.step machine (visitBody body).code = .running next) :
      Handles machine isReference body data next (handling.record body state next)

variable {machine : DataMachine Data Exception} {body : Statement .block} {state next : FrameState Data Exception}
  {handling : Handling Exception} {data : Data} {isReference : Exception → Bool}

theorem Handles.reaches (run : Handles machine isReference body data state handling) :
    (interpreter machine (visitBody body).code).Reaches (StaysInTries body) (.initial data) state := by
  induction run with
  | initial => exact .refl
  | turn _ proper step ih => exact ih.step proper.stays step

/-- The handlers of the frame are those of the method's try statements. -/
structure Sited (body : Statement .block) (state : FrameState Data Exception) : Prop where
  handlers : ∀ handler ∈ state.exceptionHandlers, SiteAt (bodySites body) handler.handlerOffset
  unwindings : ∀ unwinding : Unwinding Exception, unwinding.activation ∈ state.activations →
    ∀ handler, unwinding.handlerOffset = some handler → SiteAt (bodySites body) handler

namespace Sited

theorem unwinding (sited : Sited body state) {unwinding : Unwinding Exception} {code : Code}
    (found : state.unwinding code = some unwinding) {handler : Nat} (some_ : unwinding.handlerOffset = some handler) :
    SiteAt (bodySites body) handler := by
  rcases unwinding_cases found with ⟨_,exception,_,rfl⟩ | ⟨_,_,activations,active⟩
  · cases handlers : state.exceptionHandlers with
    | nil =>
      rw [handlers] at some_
      cases some_
    | cons top rest =>
      rw [handlers] at some_
      obtain rfl := Option.some.inj some_
      exact sited.handlers top (by simp [handlers])
  · exact sited.unwindings unwinding (by simp [active]) handler some_

theorem turn (accepts : Accepts body) (sited : Sited body state) (turn : Turn machine (visitBody body).code state next) :
    Sited body next := by
  refine ⟨?_,?_⟩
  · rcases turn.exceptionHandlers with same | ⟨handlerOffset,executing,_,pushed⟩ | popped
    · rw [same]
      exact sited.handlers
    · rw [pushed]
      intro handler member
      rcases List.mem_cons.1 member with rfl | member
      · exact enterTry_site accepts (executing_eq_some executing).2
      · exact sited.handlers handler member
    · rw [popped]
      exact fun handler member => sited.handlers handler (List.mem_of_mem_tail member)
  · intro unwinding member handler some_
    rcases turn.activations member with active | found
    · exact sited.unwindings unwinding active handler some_
    · exact sited.unwinding found some_

end Sited

theorem Handles.sited (accepts : Accepts body) (run : Handles machine isReference body data state handling) : Sited body state := by
  induction run with
  | initial => exact ⟨fun _ member => (nomatch member),fun _ member => nomatch member⟩
  | turn _ _ step ih => exact ih.turn accepts (step_turn step)

/-- In a clause that is settled the exception of the frame is the one that its handler has received last. -/
structure Current (state : FrameState Data Exception) (handling : Handling Exception) : Prop where
  calm : handling.settled ≠ none → state.interruptionReason ≠ .exceptionRaised
  current : ∀ handler, handling.settled = some handler →
    ∃ exception, handling.delivered.lookup handler = some exception ∧ state.currentException = some exception

namespace Current

theorem delivery_eq_some {code : Code} {handler : Nat} {exception : Exception} :
    delivery code state = some (handler,exception) ↔ ∃ unwinding, state.unwinding code = some unwinding ∧
      state.deferStack.length ≤ unwinding.targetSize ∧ unwinding.handlerOffset = some handler ∧
      unwinding.exception = exception := by
  simp [delivery,Option.bind_eq_some_iff]

theorem kept (current : Current state handling) (nothing : delivery (visitBody body).code state = none)
    (calm : ¬ Unsettles body state next handling.settled → state.interruptionReason ≠ .exceptionRaised →
      next.currentException = state.currentException) : Current next (handling.record body state next) := by
  unfold Handling.record
  rw [nothing]
  by_cases unsettles : Unsettles body state next handling.settled
  · rw [if_pos unsettles]
    exact ⟨fun some_ => absurd rfl some_,fun _ some_ => nomatch some_⟩
  · rw [if_neg unsettles]
    refine ⟨fun _ raised => unsettles (.inr (.inr (.inl raised))),fun handler settled => ?_⟩
    have settled : handling.settled = some handler := settled
    have before := current.calm (by simp [settled])
    obtain ⟨exception,found,same⟩ := current.current handler settled
    exact ⟨exception,found,(calm unsettles before).trans same⟩

theorem turn (current : Current state handling) (turn : Turn machine (visitBody body).code state next) :
    Current next (handling.record body state next) := by
  have quietly (quiet : state.Quiet (visitBody body).code) : delivery (visitBody body).code state = none := by
    rw [delivery,quiet.outside]
    rfl
  cases turn with
  | raises quiet => exact current.kept (quietly quiet) fun settled _ => absurd (.inr (.inr (.inl rfl))) settled
  | moves quiet | returns quiet | enters quiet | leaves quiet | registers quiet | drains quiet
  | drainsNext quiet | drained quiet => exact current.kept (quietly quiet) fun _ _ => rfl
  | ends quiet fetched =>
    exact current.kept (quietly quiet) fun settled _ => absurd (.inl (quiet.executing_eq.trans fetched)) settled
  | stores quiet fetched =>
    exact current.kept (quietly quiet) fun settled _ => absurd (.inr (.inl (quiet.executing_eq.trans fetched))) settled
  | @unwinds unwinding target deferStack found stack above =>
    refine current.kept ?_ fun _ calm => ?_
    · rw [delivery,found]
      exact if_neg (Nat.not_le.2 above)
    · change (state.unwound machine).currentException = _
      rw [unwound,if_neg calm]
  | @receives unwinding handlerOffset found handler through =>
    have delivered : delivery (visitBody body).code state = some (handlerOffset,unwinding.exception) :=
      delivery_eq_some.2 ⟨unwinding,found,through,handler,rfl⟩
    unfold Handling.record
    rw [delivered]
    refine ⟨fun _ raised => (by cases raised),fun other settled => ?_⟩
    obtain rfl := Option.some.inj settled
    exact ⟨unwinding.exception,by simp,rfl⟩

end Current

theorem Handles.current (run : Handles machine isReference body data state handling) : Current state handling := by
  induction run with
  | initial => exact ⟨fun some_ => absurd rfl some_,fun _ settled => nomatch settled⟩
  | turn _ _ step ih => exact ih.turn (step_turn step)

def received (machine : DataMachine Data Exception) (handler : Nat) (exception : Exception)
    (state : FrameState Data Exception) : FrameState Data Exception :=
  let unwound := state.unwound machine
  { unwound with
    ip := handler
    data := machine.incrementReference exception (machine.pushException exception unwound.data)
    interruptionReason := .none
    currentException := some exception }

theorem step_received {code : Code} {unwinding : Unwinding Exception} {handler : Nat}
    (found : state.unwinding code = some unwinding) (through : state.deferStack.length ≤ unwinding.targetSize)
    (some_ : unwinding.handlerOffset = some handler) (drains : ¬state.IsUndrainable machine) :
    state.step machine code = .running (received machine handler unwinding.exception state) := by
  rw [step_through found drains through,some_]
  rfl

structure Catches (machine : DataMachine Data Exception) (isAssignable : Exception → Address → Bool)
    (body : Statement .block) (state : FrameState Data Exception) (handling : Handling Exception) : Prop where
  /-- An exception that is raised here comes to the try statements around, the innermost first. -/
  enclosed : state.ip < (visitBody body).code.size →
    state.exceptionHandlers.map (·.handlerOffset) = enclosingTries body state.ip
  /-- A handler that goes on comes to the first clause for its exception. -/
  selects : ∀ handler exception, delivery (visitBody body).code state = some (handler,exception) →
    ∃ site ∈ bodySites body, site.handler = handler ∧ (visitBody body).code.fetch site.stop = some .endCatch ∧
      ∃ next, state.step machine (visitBody body).code = .running next ∧ next.currentException = some exception ∧
        ∀ clauses, site.catches = CatchClause.catches clauses → ∃ steps events config,
          Machine.Leads (interpreter machine (visitBody body).code) steps (.running next) events config ∧
            Chosen (visitBody body).code isAssignable site.stop next next.deferStack exception clauses config
  /-- A bare `throw` in a clause raises what its handler has received last. -/
  rethrows : state.executing (visitBody body).code = some .rethrow → ∀ handler, catchAt body state.ip = some handler →
    ∃ exception next, handling.delivered.lookup handler = some exception ∧
      state.step machine (visitBody body).code = .running next ∧ next.interruptionReason = .exceptionRaised ∧
      next.currentException = some exception

/-- In a run whose turns are all proper, the exceptions come to the first clauses for them, and bare `throw`s raise
them again. -/
theorem exceptions_caught {Shape Rest : Type} [DecidableEq Shape] (operations : Throwing Shape Rest)
    {body : Statement .block} {data : EvalStack Shape Rest}
    {state : FrameState (EvalStack Shape Rest) (ExceptionInstance Shape)} {handling : Handling (ExceptionInstance Shape)}
    (accepts : Accepts body)
    (run : Handles operations.machine (fun exception => operations.isReferenceType exception.shape) body data state handling)
    (proper : Proper operations.machine (fun exception => operations.isReferenceType exception.shape) body state handling) :
    Catches operations.machine operations.isAssignable body state handling := by
  refine ⟨fun inBody => handlers_disciplined accepts run.reaches inBody,fun handler exception delivered => ?_,
    fun executing handler inside => ?_⟩
  · obtain ⟨unwinding,found,through,offset,rfl⟩ := Current.delivery_eq_some.1 delivered
    obtain ⟨site,member,same⟩ := (run.sited accepts).unwinding found offset
    obtain ⟨⟨target,placed⟩,endCatch⟩ := bodySites_placed accepts site member
    refine ⟨site,member,same,endCatch,_,step_received found through offset proper.drains,rfl,fun clauses shape => ?_⟩
    rw [shape,same] at placed
    have ends : handler + (CatchClause.catches clauses).size site.openScopes = site.stop := by
      rw [TrySite.stop,shape,same]
    have calm : (received operations.machine handler unwinding.exception state).interruptionReason = .none := rfl
    have top : operations.OnTop unwinding.exception
        (received operations.machine handler unwinding.exception state).data :=
      ⟨proper.references handler _ delivered,_,rfl⟩
    exact operations.throwable.catches_lead calm clauses placed ends top
  · obtain ⟨calm,fetched⟩ := executing_eq_some executing
    obtain ⟨exception,received,current⟩ := run.current.current handler (proper.rethrows executing handler inside)
    have step : state.step operations.machine (visitBody body).code = .running ({ state with
        ip := state.ip + Instruction.rethrow.size
        data := operations.machine.incrementReference exception state.data }.raise exception) := by
      rw [FrameState.step,if_neg calm,fetched]
      simp only [processCode,current]
    exact ⟨exception,_,received,step,rfl,rfl⟩

/-- Numbers stand for instances of one class, and `false` is the shape of the truth values. -/
def throwingNumbers : Throwing Bool Unit where
  isReferenceType := id
  isAssignableTo shape _ := shape
  boolean := false
  allocateInstance _ _ rest := (⟨1,one_ne_zero⟩,rest)
  setLocal _ _ rest := rest
  incrementReference _ rest := rest
  others :=
    { DataMachine.idle ⟨true,1,one_ne_zero⟩ with
      execute := fun instruction data => match instruction with
        | .loadConstInt64 value => .ok { data with entries := ⟨some true,value.toInt.toNat⟩ :: data.entries }
        | _ => .fault }

def seven : ExceptionInstance Bool := ⟨true,7,Nat.succ_ne_zero 6⟩

def rethrowing : Statement .block :=
  .cons (.tryStatement (.cons (.throwStatement (some (.op (.loadConstInt64 7)))) .empty)
    (CatchClause.catches [⟨none,none,.cons (.throwStatement none) .empty⟩])) .empty

theorem exceptions_caught_rethrowing : ∃ (state : FrameState (EvalStack Bool Unit) (ExceptionInstance Bool))
    (handling : Handling (ExceptionInstance Bool)),
    Catches throwingNumbers.machine throwingNumbers.isAssignable rethrowing state handling ∧
      state.executing (visitBody rethrowing).code = some .rethrow ∧ handling.delivered = [(34,seven)] := by
  have start : Handles throwingNumbers.machine (fun exception => throwingNumbers.isReferenceType exception.shape)
    rethrowing ⟨[],()⟩ (.initial ⟨[],()⟩) {} := .initial
  have quiet {state : FrameState (EvalStack Bool Unit) (ExceptionInstance Bool)}
      (calm : state.interruptionReason = .none) : ¬state.IsUndrainable throwingNumbers.machine := by
    rintro ⟨raised,-⟩
    cases calm.symm.trans raised
  have one := start.turn ⟨trivial,fun executing => (nomatch executing),fun _ _ found => (nomatch found),quiet rfl⟩ rfl
  have two := one.turn ⟨trivial,fun executing => (nomatch executing),fun _ _ found => (nomatch found),quiet rfl⟩ rfl
  have three := two.turn ⟨trivial,fun executing => (nomatch executing),fun _ _ found => (nomatch found),quiet rfl⟩ rfl
  have four := three.turn ⟨fun some_ => (nomatch some_),fun executing => (nomatch executing),
    fun _ _ found => by cases found; rfl,fun undrainable => (nomatch undrainable.2)⟩ rfl
  have five := four.turn ⟨trivial,fun executing => (nomatch executing),fun _ _ found => (nomatch found),quiet rfl⟩ rfl
  exact ⟨_,_,exceptions_caught throwingNumbers (by decide) five
    ⟨trivial,fun _ _ inside => inside,fun _ _ found => (nomatch found),quiet rfl⟩,rfl,rfl⟩

/-- `try { throw a; } catch { try { } catch { } throw; }` -/
def rethrowBehindTry : Statement .block :=
  .cons (.tryStatement (.cons (.throwStatement (some (.op (.loadConstInt64 7)))) .empty)
    (CatchClause.catches [⟨none,none,.cons (.tryStatement .empty (CatchClause.catches [⟨none,none,.empty⟩]))
      (.cons (.throwStatement none) .empty)⟩])) .empty

/-- The exception is lost with the end of the inner try statement, and the bare `throw` has none to raise. -/
theorem rethrowBehindTry_faults : Accepts rethrowBehindTry ∧ ∃ first state :
    FrameState (EvalStack Bool Unit) (ExceptionInstance Bool),
    (interpreter throwingNumbers.machine (visitBody rethrowBehindTry).code).Reaches (fun _ => True) (.initial ⟨[],()⟩) first ∧
      delivery (visitBody rethrowBehindTry).code first = some (34,seven) ∧
      (interpreter throwingNumbers.machine (visitBody rethrowBehindTry).code).Reaches (fun _ => True) first state ∧
      catchAt rethrowBehindTry state.ip = some 34 ∧
      (visitBody rethrowBehindTry).code.fetch state.ip = some .rethrow ∧
      state.step throwingNumbers.machine (visitBody rethrowBehindTry).code = .ended .fault := by
  refine ⟨by decide,_,_,@Machine.reaches_after _ _ _ _ 3 _ _ rfl,?_,@Machine.reaches_after _ _ _ _ 6 _ _ rfl,?_,?_,?_⟩
  · rfl
  · decide
  · decide
  · rfl

end ShardScript.Source
