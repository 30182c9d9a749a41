import ShardScript.ByteCode.Encoder
import ShardScript.Runtime.Slots

/-! What a call leaves on the evaluation stack of its caller: the return slot of the callee, in which no instruction
places the value that the callee has evaluated. -/
namespace ShardScript.Runtime
open Library ByteCode

variable {Rest Native Exception : Type} {operations : Operations Rest Native Exception}

namespace FrameData

def slot (data : FrameData Rest) : Bool × TypeShape × List UInt8 := (data.isVoid,data.returnShape,data.returnSlot)

theorem placeReturned_slot {data next : FrameData Rest} (placed : data.placeReturned data.returnView = some next) :
    next.slot = data.slot := by
  unfold placeReturned at placed
  split_ifs at placed
  cases placed
  rfl

theorem slot_map {Result : Type} {popped : Option (Result × Values Rest)} {data : FrameData Rest}
    {result : Result × FrameData Rest} (h : popped.map (Prod.map id data.withValues) = some result) :
    result.2.slot = data.slot := by
  obtain ⟨found,-,rfl⟩ := Option.map_eq_some_iff.mp h
  rfl

end FrameData

theorem Operations.keeps (operations : Operations Rest Native Exception) (method : Method) :
    (operations.machine.within method).Keeps FrameData.slot where
  execute instruction data := by
    dsimp only [CallMachine.within,Operations.machine]
    cases operations.instructions.execute instruction data.values with
    | ok values => rfl
    | raised exception values => rfl
    | fault => trivial
  popTruth _ _ popped := FrameData.slot_map popped
  popNull _ _ popped := FrameData.slot_map popped
  popIndex _ _ popped := FrameData.slot_map popped
  popThrown _ _ popped := FrameData.slot_map popped
  placeReturned _ _ placed := FrameData.placeReturned_slot placed
  incrementReference _ _ := rfl
  collectInstance _ _ := rfl
  drainEvalReferences _ := rfl
  pushException _ _ := rfl
  pushCurrent _ _ := rfl
  popCurrent _ _ _ popped := FrameData.slot_map popped

def Invocation.slot : Invocation (FrameData Rest) Native Exception → Option (Method × Bool × TypeShape × List UInt8)
  | bytecode method state => some (method,state.data.slot)
  | external _ _ => none

namespace Thread

def slots (thread : Thread (FrameData Rest) Native Exception) : List (Option (Method × Bool × TypeShape × List UInt8)) :=
  thread.invocations.map Invocation.slot

theorem slot_withData {invocation : Invocation (FrameData Rest) Native Exception} {data : FrameData Rest}
    (same : data.slot = invocation.data.slot) : (invocation.withData data).slot = invocation.slot := by
  cases invocation with
  | bytecode method state => exact congrArg (fun slot => some (method,slot)) same
  | external native data => rfl

@[simp] theorem slot_raise (exception : Exception) (invocation : Invocation (FrameData Rest) Native Exception) :
    (invocation.raise exception).slot = invocation.slot := by
  cases invocation with
  | bytecode method state => rfl
  | external native data => rfl

theorem completed_slots {raised : Option Exception} {data : FrameData Rest}
    {below : List (Invocation (FrameData Rest) Native Exception)} {next : Thread (FrameData Rest) Native Exception}
    (step : completed operations.machine raised data below = .running next) :
    next.slots = below.map Invocation.slot := by
  unfold completed at step
  split at step
  · cases step
  · rename_i caller below
    obtain rfl := Config.running.inj step
    have same : (caller.withData (operations.machine.complete raised data caller.data)).slot = caller.slot :=
      slot_withData rfl
    cases raised with
    | none => exact congrArg (· :: _) same
    | some exception => exact congrArg (· :: _) ((slot_raise _ _).trans same)

theorem nextInvocation_slot {method : Method} {state continued : FrameState (FrameData Rest) Exception}
    {callee : Callee (FrameData Rest) Native}
    (invokes : nextInvocation operations.machine method state = some (callee,continued)) :
    continued.data.slot = state.data.slot := by
  unfold nextInvocation at invokes
  split at invokes
  · cases invokes
  · split at invokes
    · split at invokes
      · obtain ⟨invoked,found,same⟩ := Option.map_eq_some_iff.mp invokes
        obtain ⟨target,-,rfl⟩ := Option.map_eq_some_iff.mp found
        obtain ⟨-,rfl⟩ := Prod.mk.inj same
        rfl
      · cases invokes
    · cases invokes

theorem step_slots {thread next : Thread (FrameData Rest) Native Exception}
    (step : thread.step operations.machine = .running next) :
    (∃ slot, next.slots = slot :: thread.slots) ∨ next.slots = thread.slots ∨ next.slots = thread.slots.tail := by
  obtain ⟨top,below,isUnwinding⟩ := thread
  cases isUnwinding with
  | true =>
    change unwindStep operations.machine top below = _ at step
    unfold unwindStep at step
    split at step
    · exact .inr (.inr (completed_slots step))
    · cases step
    · rename_i method state caller below
      obtain rfl := Config.running.inj step
      exact .inr (.inr (congrArg (· :: _) (slot_withData rfl)))
  | false =>
    cases top with
    | bytecode method state =>
      change bytecodeStep operations.machine method state below = _ at step
      unfold bytecodeStep at step
      split at step
      · rename_i callee continued invokes
        obtain rfl := Config.running.inj step
        exact .inl ⟨callee.start.slot,congrArg
          (fun slot => callee.start.slot :: some (method,slot) :: below.map Invocation.slot)
          (nextInvocation_slot invokes)⟩
      · have kept : FrameState.HasKey FrameData.slot state.data.slot _ :=
          FrameState.step_hasKey (operations.keeps method) method.executableByteCode
        split at step
        · rename_i stepped
          obtain rfl := Config.running.inj step
          rw [stepped] at kept
          exact .inr (.inl (congrArg (fun slot => some (method,slot) :: _) kept))
        · exact .inr (.inr (completed_slots step))
        · obtain rfl := Config.running.inj step
          exact .inr (.inl rfl)
        · cases step
    | external native data =>
      change externalStep operations.machine native data below = _ at step
      unfold externalStep at step
      split at step
      · exact .inr (.inr (completed_slots step))
      · obtain rfl := Config.running.inj step
        exact .inr (.inl rfl)
      · rename_i callee native data performed
        obtain rfl := Config.running.inj step
        exact .inl ⟨callee.start.slot,rfl⟩

variable {slot : Option (Method × Bool × TypeShape × List UInt8)}

theorem callee_kept {first thread : Thread (FrameData Rest) Native Exception}
    {base : List (Invocation (FrameData Rest) Native Exception)}
    (reached : (virtualMachine operations.machine).Reaches (fun thread => base.length ≤ thread.below.length) first thread)
    (above : IsAbove base first) (kept : slot :: base.map Invocation.slot <:+ first.slots)
    (inside : base.length ≤ thread.below.length) :
    IsAbove base thread ∧ slot :: base.map Invocation.slot <:+ thread.slots := by
  induction reached with
  | refl => exact ⟨above,kept⟩
  | step before allowed step ih =>
    rename_i thread next
    obtain ⟨above,kept⟩ := ih allowed
    constructor
    · obtain further | ⟨caller,below,data,isUnwinding,rfl,rfl⟩ := (step_moves step).above above
      · exact further
      · exact absurd inside (Nat.not_succ_le_self _)
    · obtain ⟨entered,same⟩ | same | same := step_slots step
      · rw [same]
        exact kept.trans (List.suffix_cons _ _)
      · rw [same]
        exact kept
      · rw [same]
        have lengths : (slot :: base.map Invocation.slot).length ≤ thread.slots.tail.length := by
          rw [← same]
          simpa [slots,invocations] using inside
        exact List.suffix_of_suffix_length_le kept (List.tail_suffix _) lengths

theorem callee_top {top : Invocation (FrameData Rest) Native Exception} {isUnwinding : Bool}
    {callers base : List (Invocation (FrameData Rest) Native Exception)}
    (above : IsAbove base ⟨top,callers,isUnwinding⟩)
    (kept : slot :: base.map Invocation.slot <:+ slots ⟨top,callers,isUnwinding⟩)
    (length : callers.length = base.length) : callers = base ∧ top.slot = slot := by
  have same : callers = base := by
    obtain ⟨front,last,stack,-⟩ := above
    have suffix : base <:+ top :: callers := ⟨front ++ [last],by rw [List.append_assoc]; exact stack.symm⟩
    exact ((List.suffix_of_suffix_length_le suffix (List.suffix_cons _ _) length.ge).eq_of_length length.symm).symm
  subst same
  have equal := kept.eq_of_length (by simp [slots,invocations])
  exact ⟨rfl,(List.cons.inj equal).1.symm⟩

end Thread

def FrameState.awaiting (calling : FrameState (FrameData Rest) Exception) (instruction : Instruction)
    (before : List ObjectInstance) : FrameState (FrameData Rest) Exception :=
  { calling with
    ip := calling.ip + instruction.size
    data := calling.data.withValues { calling.data.values with evalStack := before } }

/-- A frame is at an instruction that calls the method with these arguments. -/
structure IsCall (operations : Operations Rest Native Exception) (caller : Method)
    (calling : FrameState (FrameData Rest) Exception) (instruction : Instruction) (method : Method)
    (arguments before : List ObjectInstance) : Prop where
  calm : calling.interruptionReason ≠ .exceptionRaised
  fetched : caller.executableByteCode.fetch calling.ip = some instruction
  data : instruction.isData
  target : operations.target instruction calling.data.values = some (.inl method,arguments.length)
  stack : calling.data.values.evalStack = arguments ++ before

/-- Two steps, the `RETURN` and the end of the interpreter loop, lead the caller behind its call with just the value
on top of the callee's stack pushed in the place of the arguments. -/
def IsDelivered (operations : Operations Rest Native Exception) (caller : Method)
    (calling : FrameState (FrameData Rest) Exception) (instruction : Instruction) (before : List ObjectInstance)
    (below : List (Invocation (FrameData Rest) Native Exception)) (called : Method)
    (returning : FrameState (FrameData Rest) Exception) (callers : List (Invocation (FrameData Rest) Native Exception)) :
    Prop :=
  ∃ data value, (virtualMachine operations.machine).after 2 ⟨.bytecode called returning,callers,false⟩ =
      some ⟨.bytecode caller { calling with ip := calling.ip + instruction.size, data := data },below,false⟩ ∧
    returning.data.values.evalStack.head? = some value ∧ data.values.evalStack = value :: before

def Operations.defaultReturned (operations : Operations Rest Native Exception) (method : Method)
    (arguments : List ObjectInstance) (rest : Rest) : ObjectInstance :=
  let shape := operations.returnShape (.inl method) (operations.enter (.inl method) arguments rest)
  ⟨some shape,shape.zeros⟩

namespace IsCall
variable {caller method : Method} {calling : FrameState (FrameData Rest) Exception} {instruction : Instruction}
  {arguments before : List ObjectInstance} {below : List (Invocation (FrameData Rest) Native Exception)}

theorem enters (call : IsCall operations caller calling instruction method arguments before) :
    Thread.step operations.machine ⟨.bytecode caller calling,below,false⟩ =
      .running ⟨(operations.create (.inl method) arguments calling.data.values.rest).start,
        .bytecode caller (calling.awaiting instruction before) :: below,false⟩ := by
  have invokes : Thread.nextInvocation operations.machine caller calling = some
      (operations.create (.inl method) arguments calling.data.values.rest,calling.awaiting instruction before) := by
    unfold Thread.nextInvocation
    rw [if_neg call.calm,call.fetched]
    dsimp only
    rw [if_pos call.data]
    unfold Operations.machine
    dsimp only
    rw [call.target,call.stack]
    simp [FrameState.awaiting]
  change Thread.bytecodeStep operations.machine caller calling below = _
  unfold Thread.bytecodeStep
  rw [invokes]

end IsCall

section Return
variable {method caller : Method} {state calling : FrameState (FrameData Rest) Exception}
  {below : List (Invocation (FrameData Rest) Native Exception)}

theorem return_step (calm : state.interruptionReason ≠ .exceptionRaised)
    (fetched : method.executableByteCode.fetch state.ip = some .return) (returnsValue : method.returnsValue)
    (nonvoid : state.data.isVoid = false) (below : List (Invocation (FrameData Rest) Native Exception)) :
    ∃ returned : FrameState (FrameData Rest) Exception,
      Thread.step operations.machine ⟨.bytecode method state,below,false⟩ =
        .running ⟨.bytecode method returned,below,false⟩ ∧
      returned.data = state.data ∧ returned.ip = method.executableByteCode.size ∧
      returned.interruptionReason = .valueReturned ∧ returned.activations = [] := by
  have invokes : Thread.nextInvocation operations.machine method state = none := by
    unfold Thread.nextInvocation
    rw [if_neg calm,fetched]
    rfl
  have placed : (operations.machine.within method).placeReturned state.data = some state.data := by
    change state.data.placeReturned state.data.returnView = _
    unfold FrameData.placeReturned
    rw [if_neg (by simp [nonvoid])]
    exact if_pos rfl
  change ∃ returned, Thread.bytecodeStep operations.machine method state below = _ ∧ _
  unfold Thread.bytecodeStep FrameState.step
  rw [invokes,if_neg calm,fetched]
  dsimp only
  unfold FrameState.processCode
  dsimp only
  rw [if_pos (show (operations.machine.within method).returnsValue from returnsValue),placed]
  exact ⟨_,rfl,rfl,rfl,rfl,rfl⟩

theorem end_step (reason : state.interruptionReason = .valueReturned)
    (atEnd : state.ip = method.executableByteCode.size) (activations : state.activations = [])
    (nonvoid : state.data.isVoid = false) : ∃ data,
      Thread.step operations.machine ⟨.bytecode method state,.bytecode caller calling :: below,false⟩ =
        .running ⟨.bytecode caller { calling with data := data },below,false⟩ ∧
      data.values.evalStack = state.data.returnView :: calling.data.values.evalStack := by
  have calm : state.interruptionReason ≠ .exceptionRaised := by
    rw [reason]
    decide
  have invokes : Thread.nextInvocation operations.machine method state = none := by
    unfold Thread.nextInvocation
    rw [if_neg calm,atEnd,Code.fetch_size_none]
  change ∃ data, Thread.bytecodeStep operations.machine method state (.bytecode caller calling :: below) = _ ∧ _
  unfold Thread.bytecodeStep FrameState.step
  rw [invokes,if_neg calm,atEnd,Code.fetch_size_none,activations]
  dsimp only
  rw [if_pos ⟨rfl,rfl⟩]
  refine ⟨_,rfl,?_⟩
  change (if state.data.isVoid then _ else _) = _
  rw [nonvoid]
  rfl

end Return

/-- The value of a `return` reaches the caller just where it is what the return slot has been initialised with. -/
theorem return_delivered {operations : Operations Rest Native Exception} {caller method called : Method}
    {calling state : FrameState (FrameData Rest) Exception} {instruction : Instruction}
    {arguments before : List ObjectInstance} {below callers : List (Invocation (FrameData Rest) Native Exception)}
    {first : Thread (FrameData Rest) Native Exception}
    (call : IsCall operations caller calling instruction method arguments before) (returnsValue : method.returnsValue)
    (enters : Thread.step operations.machine ⟨.bytecode caller calling,below,false⟩ = .running first)
    (reached : (virtualMachine operations.machine).Reaches (fun thread => below.length < thread.below.length) first
      ⟨.bytecode called state,callers,false⟩)
    (own : callers.length = below.length + 1) (calm : state.interruptionReason ≠ .exceptionRaised)
    (fetched : called.executableByteCode.fetch state.ip = some .return) :
    IsDelivered operations caller calling instruction before below called state callers ↔
      state.data.values.evalStack.head? =
        some (operations.defaultReturned method arguments calling.data.values.rest) := by
  obtain rfl : _ = first := Config.running.inj (call.enters.symm.trans enters)
  have above : Thread.IsAbove (.bytecode caller (calling.awaiting instruction before) :: below)
      ⟨(operations.create (.inl method) arguments calling.data.values.rest).start,
        .bytecode caller (calling.awaiting instruction before) :: below,false⟩ := ⟨[],_,rfl,rfl⟩
  obtain ⟨above,kept⟩ := Thread.callee_kept reached above (List.suffix_refl _) own.ge
  obtain ⟨rfl,same⟩ := Thread.callee_top above kept own
  obtain ⟨rfl,slot⟩ : called = method ∧ state.data.slot = _ := Prod.mk.inj (Option.some.inj same)
  have nonvoid : state.data.isVoid = false :=
    (congrArg Prod.fst slot).trans (show (!called.returnsValue) = false by rw [returnsValue]; rfl)
  have returned : state.data.returnView = operations.defaultReturned called arguments calling.data.values.rest :=
    congrArg (fun slot : Bool × TypeShape × List UInt8 => (⟨some slot.2.1,slot.2.2⟩ : ObjectInstance)) slot
  obtain ⟨placed,steps,data,atEnd,reason,activations⟩ := return_step calm fetched returnsValue nonvoid
    (.bytecode caller (calling.awaiting instruction before) :: below)
  obtain ⟨behind,ends,pushed⟩ := end_step reason atEnd activations (by rw [data]; exact nonvoid)
  have twice : (virtualMachine operations.machine).after 2 ⟨.bytecode called state,
      .bytecode caller (calling.awaiting instruction before) :: below,false⟩ =
        some ⟨.bytecode caller { calling.awaiting instruction before with data := behind },below,false⟩ := by
    have one : (virtualMachine operations.machine).step ⟨.bytecode called state,_,false⟩ = _ := steps
    have two : (virtualMachine operations.machine).step ⟨.bytecode called placed,_,false⟩ = _ := ends
    unfold Machine.after Machine.after
    rw [one]
    dsimp only
    rw [two]
    rfl
  rw [data,returned] at pushed
  constructor
  · rintro ⟨data,value,after,top,stack⟩
    obtain ⟨same,-⟩ := Thread.mk.inj (Option.some.inj (twice.symm.trans after))
    obtain rfl : behind = data := congrArg Invocation.data same
    rw [top,(List.cons.inj (stack.symm.trans pushed)).1]
  · intro top
    exact ⟨behind,_,twice,top,pushed⟩

section Example

def integerShape : TypeShape := ⟨"int",false,8⟩

def integerOperations (method : Method) : Operations Unit Unit String where
  instructions := { DataMachine.idle "" with
    execute := fun instruction values =>
      match instruction with
      | .loadConstInt64 value =>
          .ok { values with evalStack := ⟨some integerShape,TriviallyCopyable.image value⟩ :: values.evalStack }
      | _ => .ok values
    drainEvalReferences := fun values => { values with evalStack := [] } }
  target := fun instruction _ =>
    match instruction with
    | .callMethodSymbol _ => some (.inl method,0)
    | _ => none
  enter := fun _ _ rest => rest
  returnShape := fun _ _ => integerShape
  nativeIsVoid := fun _ => true
  perform := fun _ data => .returned none data
  complete := fun _ _ rest => rest
  abandon := fun _ rest => rest
  createRuntimeException := fun values => ("",values)

def callingMethod : Method := ⟨[.callMethodSymbol 0,.pop],false⟩

def returningMethod (value : Int64) : Method := ⟨[.loadConstInt64 value,.return],true⟩

def callingState : FrameState (FrameData Unit) String := .initial ⟨⟨[],()⟩,true,integerShape,[]⟩

def returningState (value : Int64) : FrameState (FrameData Unit) String :=
  { FrameState.initial ⟨⟨[⟨some integerShape,TriviallyCopyable.image value⟩],()⟩,false,integerShape,integerShape.zeros⟩ with
    ip := 10 }

def returningCallers : List (Invocation (FrameData Unit) Unit String) :=
  [.bytecode callingMethod (callingState.awaiting (.callMethodSymbol 0) [])]

def ReturnReached (value : Int64) (first : Thread (FrameData Unit) Unit String) : Prop :=
  Thread.step (integerOperations (returningMethod value)).machine ⟨.bytecode callingMethod callingState,[],false⟩ =
      .running first ∧
    (virtualMachine (integerOperations (returningMethod value)).machine).Reaches (fun thread => 0 < thread.below.length)
      first ⟨.bytecode (returningMethod value) (returningState value),returningCallers,false⟩

theorem returnReached (value : Int64) : ∃ first, ReturnReached value first :=
  ⟨_,rfl,.step .refl (Nat.succ_pos 0) rfl⟩

theorem returnZero_delivered : IsDelivered (integerOperations (returningMethod 0)) callingMethod callingState
    (.callMethodSymbol 0) [] [] (returningMethod 0) (returningState 0) returningCallers := by
  obtain ⟨first,enters,reached⟩ := returnReached 0
  have call : IsCall (integerOperations (returningMethod 0)) callingMethod callingState (.callMethodSymbol 0)
      (returningMethod 0) [] [] := ⟨by decide,rfl,rfl,rfl,rfl⟩
  exact (return_delivered call rfl enters reached rfl (by decide) rfl).mpr rfl

/-- The caller gets the zero of the return slot. -/
theorem returnOne_not_delivered : ∃ first, ReturnReached 1 first ∧
    ¬ IsDelivered (integerOperations (returningMethod 1)) callingMethod callingState (.callMethodSymbol 0) [] []
      (returningMethod 1) (returningState 1) returningCallers := by
  obtain ⟨first,reached⟩ := returnReached 1
  refine ⟨first,reached,?_⟩
  rintro ⟨data,value,after,top,stack⟩
  obtain ⟨same,-⟩ := Thread.mk.inj (Option.some.inj after)
  obtain rfl := (congrArg Invocation.data same : _ = data)
  obtain rfl := Option.some.inj top
  exact absurd (List.cons.inj stack).1 (by decide)

end Example

end ShardScript.Runtime
