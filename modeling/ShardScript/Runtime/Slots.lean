import ShardScript.Runtime.Propagation

/-! The return slots of frames: what `RETURN` places in them, and what an invocation pushes to its caller. -/
namespace ShardScript.Runtime
open Library ByteCode

structure TypeShape where
  name : String
  isReferenceType : Bool
  size : Nat
  deriving DecidableEq

/-- The pointer of a reference, or the bytes of an inline value. The null literal has no shape. -/
structure ObjectInstance where
  shape : Option TypeShape
  payload : List UInt8
  deriving DecidableEq

def TypeShape.zeros (shape : TypeShape) : List UInt8 :=
  List.replicate (if shape.isReferenceType then 8 else shape.size) 0

structure Values (Rest : Type) where
  evalStack : List ObjectInstance
  rest : Rest

structure FrameData (Rest : Type) where
  values : Values Rest
  isVoid : Bool
  returnShape : TypeShape
  returnSlot : List UInt8

namespace FrameData
variable {Rest : Type}

def withValues (data : FrameData Rest) (values : Values Rest) : FrameData Rest := { data with values := values }

def returnView (data : FrameData Rest) : ObjectInstance := ⟨some data.returnShape,data.returnSlot⟩

def placeReturned (value : ObjectInstance) (data : FrameData Rest) : Option (FrameData Rest) :=
  if data.isVoid then none
  else if value.shape = some data.returnShape then some { data with returnSlot := value.payload }
  else none

def pushReturned (callee caller : FrameData Rest) (rest : Rest) : FrameData Rest :=
  caller.withValues {
    evalStack := if callee.isVoid then caller.values.evalStack else callee.returnView :: caller.values.evalStack
    rest := rest }

end FrameData

abbrev Target (Native : Type) := Method ⊕ Native

inductive NativeStep (Rest Native Exception : Type) where
  | returned (raised : Option Exception) (data : FrameData Rest)
  | thrown (data : FrameData Rest)
  | invoked (target : Target Native) (arguments : List ObjectInstance) (native : Native) (data : FrameData Rest)

/-- What instructions and native code do to the values of frames. No instruction but `RETURN` has to do with the return
slot of its frame. -/
structure Operations (Rest Native Exception : Type) where
  instructions : DataMachine (Values Rest) Exception
  target : Instruction → Values Rest → Option (Target Native × Nat)
  enter : Target Native → List ObjectInstance → Rest → Rest
  returnShape : Target Native → Rest → TypeShape
  nativeIsVoid : Native → Bool
  perform : Native → FrameData Rest → NativeStep Rest Native Exception
  complete : Option Exception → (callee caller : Rest) → Rest
  abandon : (callee caller : Rest) → Rest
  createRuntimeException : Values Rest → Exception × Values Rest

namespace Operations
variable {Rest Native Exception : Type} (operations : Operations Rest Native Exception)

def create (target : Target Native) (arguments : List ObjectInstance) (rest : Rest) : Callee (FrameData Rest) Native :=
  let entered := operations.enter target arguments rest
  let shape := operations.returnShape target entered
  match target with
  | .inl method => .body method ⟨⟨[],entered⟩,!method.returnsValue,shape,shape.zeros⟩
  | .inr native => .external native ⟨⟨[],entered⟩,operations.nativeIsVoid native,shape,shape.zeros⟩

def machine : CallMachine (FrameData Rest) Native Exception where
  execute instruction data :=
    match operations.instructions.execute instruction data.values with
    | .ok values => .ok (data.withValues values)
    | .raised exception values => .raised exception (data.withValues values)
    | .fault => .fault
  popTruth data := (operations.instructions.popTruth data.values).map (Prod.map id data.withValues)
  popNull data := (operations.instructions.popNull data.values).map (Prod.map id data.withValues)
  popIndex data := (operations.instructions.popIndex data.values).map (Prod.map id data.withValues)
  popThrown data := (operations.instructions.popThrown data.values).map (Prod.map id data.withValues)
  returnsValue := operations.instructions.returnsValue
  placeReturned data := data.placeReturned data.returnView
  incrementReference exception data :=
    data.withValues (operations.instructions.incrementReference exception data.values)
  collectInstance exception data := data.withValues (operations.instructions.collectInstance exception data.values)
  holdsNullLiteral data := operations.instructions.holdsNullLiteral data.values
  drainEvalReferences data := data.withValues (operations.instructions.drainEvalReferences data.values)
  pushException exception data := data.withValues (operations.instructions.pushException exception data.values)
  pushCurrent exception data := data.withValues (operations.instructions.pushCurrent exception data.values)
  popCurrent exception data :=
    (operations.instructions.popCurrent exception data.values).map (Prod.map id data.withValues)
  invocation instruction data :=
    (operations.target instruction data.values).map fun found =>
      (operations.create found.1 (data.values.evalStack.take found.2) data.values.rest,
        data.withValues { data.values with evalStack := data.values.evalStack.drop found.2 })
  perform native data :=
    match operations.perform native data with
    | .returned raised data => .returned raised data
    | .thrown data => .thrown data
    | .invoked target arguments native data =>
        .invoked (operations.create target arguments data.values.rest) native data
  complete raised callee caller := callee.pushReturned caller (operations.complete raised callee.values.rest caller.values.rest)
  abandon callee caller :=
    caller.withValues { caller.values with rest := operations.abandon callee.values.rest caller.values.rest }
  createRuntimeException data :=
    Prod.map id data.withValues (operations.createRuntimeException data.values)

end Operations

section Slot
variable {Data Exception Key : Type} {dataMachine : DataMachine Data Exception} {key : Data → Key}

structure DataMachine.Keeps (dataMachine : DataMachine Data Exception) (key : Data → Key) : Prop where
  execute : ∀ instruction data, match dataMachine.execute instruction data with
    | .ok next | .raised _ next => key next = key data
    | .fault => True
  popTruth : ∀ data result, dataMachine.popTruth data = some result → key result.2 = key data
  popNull : ∀ data result, dataMachine.popNull data = some result → key result.2 = key data
  popIndex : ∀ data result, dataMachine.popIndex data = some result → key result.2 = key data
  popThrown : ∀ data result, dataMachine.popThrown data = some result → key result.2 = key data
  placeReturned : ∀ data next, dataMachine.placeReturned data = some next → key next = key data
  incrementReference : ∀ exception data, key (dataMachine.incrementReference exception data) = key data
  collectInstance : ∀ exception data, key (dataMachine.collectInstance exception data) = key data
  drainEvalReferences : ∀ data, key (dataMachine.drainEvalReferences data) = key data
  pushException : ∀ exception data, key (dataMachine.pushException exception data) = key data
  pushCurrent : ∀ exception data, key (dataMachine.pushCurrent exception data) = key data
  popCurrent : ∀ exception data result, dataMachine.popCurrent exception data = some result → key result.2 = key data

def FrameState.HasKey (key : Data → Key) (value : Key) : FrameState.Config Data Exception → Prop
  | .running next | .ended (.finished next) => key next.data = value
  | .ended _ => True

namespace FrameState
variable {state : FrameState Data Exception}

theorem resumeDrain_hasKey (remaining savedIP : Nat) : HasKey key (key state.data) (resumeDrain remaining savedIP state) := by
  unfold resumeDrain
  split
  · rfl
  · split
    · trivial
    · rfl

theorem resumeUnwind_hasKey (keeps : dataMachine.Keeps key) (targetSize : Nat) (handlerOffset : Option Nat)
    (exception : Exception) :
    HasKey key (key state.data) (resumeUnwind dataMachine targetSize handlerOffset exception state) := by
  have delivered : HasKey key (key state.data) (resumeUnwind.deliver dataMachine handlerOffset exception state) := by
    unfold resumeUnwind.deliver
    split
    · exact (keeps.incrementReference _ _).trans (keeps.pushException _ _)
    · exact keeps.incrementReference _ _
  unfold resumeUnwind
  split
  · split
    · rfl
    · exact delivered
  · exact delivered

theorem handleExceptionInFrame_hasKey (keeps : dataMachine.Keeps key) :
    HasKey key (key state.data) (state.handleExceptionInFrame dataMachine) := by
  unfold handleExceptionInFrame
  split
  · trivial
  · rename_i exception raised
    split
    · trivial
    · rw [← keeps.drainEvalReferences state.data]
      dsimp only
      split
      · exact resumeUnwind_hasKey keeps _ _ _
      · exact resumeUnwind_hasKey keeps _ _ _

theorem execute_hasKey (keeps : dataMachine.Keeps key) {instruction : Instruction} {after : Data}
    (executed : dataMachine.execute instruction state.data = .ok after ∨
      ∃ exception, dataMachine.execute instruction state.data = .raised exception after) : key after = key state.data := by
  have kept := keeps.execute instruction state.data
  rcases executed with result | ⟨exception,result⟩ <;> rw [result] at kept <;> exact kept

theorem processCode_hasKey (keeps : dataMachine.Keeps key) (code : Code) (instruction : Instruction) :
    HasKey key (key state.data) (state.processCode dataMachine code instruction) := by
  cases instruction with
  | nop | halt | jump | leaveTry | enterTry | «defer» => first | rfl | trivial
  | jumpFalse | jumpTrue =>
    simp only [processCode]
    split
    · trivial
    · rename_i popped
      exact keeps.popTruth _ _ popped
  | branchNull =>
    simp only [processCode]
    split
    · trivial
    · rename_i popped
      exact keeps.popNull _ _ popped
  | jumpTable =>
    simp only [processCode]
    split
    · trivial
    · rename_i popped
      exact keeps.popIndex _ _ popped
  | «return» =>
    simp only [processCode]
    split
    · split
      · trivial
      · rename_i placed
        exact keeps.placeReturned _ _ placed
    · rfl
  | throw =>
    simp only [processCode]
    split
    · trivial
    · rename_i popped
      exact (keeps.incrementReference _ _).trans (keeps.popThrown _ _ popped)
  | rethrow =>
    simp only [processCode]
    split
    · trivial
    · exact keeps.incrementReference _ _
  | endCatch =>
    simp only [processCode]
    split
    · rfl
    · exact keeps.collectInstance _ _
  | loadCurrentException => exact keeps.pushCurrent _ _
  | storeCurrentException =>
    simp only [processCode]
    split
    · trivial
    · rename_i popped
      exact keeps.popCurrent _ _ _ popped
  | deferBreak =>
    simp only [processCode]
    split
    · trivial
    · split
      · rfl
      · exact resumeDrain_hasKey _ _
      · exact resumeUnwind_hasKey keeps _ _ _
  | deferDrain => exact resumeDrain_hasKey _ _
  | _ =>
    simp only [processCode]
    split
    · rename_i result
      exact execute_hasKey keeps (.inl result)
    · rename_i result
      exact execute_hasKey keeps (.inr ⟨_,result⟩)
    · trivial

theorem step_hasKey (keeps : dataMachine.Keeps key) (code : Code) :
    HasKey key (key state.data) (state.step dataMachine code) := by
  unfold step
  split
  · exact handleExceptionInFrame_hasKey keeps
  · split
    · exact processCode_hasKey keeps code _
    · split
      · rfl
      · trivial

end FrameState
end Slot
end ShardScript.Runtime
