import ShardScript.Async.MethodInfo

/-! The parts that `MoveNext` is emitted from around an await: saving the variables, suspending,
and the beginning of a segment that is resumed. -/
namespace ShardScript.Async
open Syntax ByteCode
open Emitter (Emission EvalLayoutTracker)

/-- A piece of `MoveNext`. The handler of a `try` is known by the statement until its address is. -/
inductive Part where
  | emission (emission : Emission)
  /-- The jump over the suspension, taken when the awaiter is completed. -/
  | jumpTrue
  | loadCurrentException | storeCurrentException
  | enterTry (statement : Path)
  | leaveTry
  | defer (body : Emission)

def reference : Nat := EvalLayoutTracker.referencePayload

def loadThis : Emission := .seq (.op (.loadLocal 0)) (.evalPush reference)

def loadLocal (slot : UInt16) (payload : Nat) : Emission := .seq (.op (.loadLocal slot)) (.evalPush payload)

def storeLocal (slot : UInt16) : Emission := .seq (.op (.storeLocal slot)) (.evalPop 1)

def loadOwnField (field : UInt32) (payload : Nat) : Emission :=
  .all [loadThis,.op (.loadField field),.evalPop 1,.evalPush payload]

def storeOwnField (field : UInt32) (value : Emission) : Emission :=
  .all [loadThis,value,.op (.storeField field),.evalPop 2]

def trackMethodCall (callee : Callee) : Emission :=
  .seq (.evalPop callee.argumentsCount)
    (match callee.returns with
      | none => .skip
      | some payload => .evalPush payload)

def emitMethodCall (callee : Callee) : Emission :=
  .seq (if callee.isInterfaceMember then .op (.callInterface callee.address)
    else .op (.callMethodSymbol callee.address)) (trackMethodCall callee)

def restoreVariable (lifted : Lifted) : Emission :=
  .seq (loadOwnField lifted.field lifted.payload) (storeLocal lifted.moveNextSlot)

def saveVariable (lifted : Lifted) : Emission :=
  storeOwnField lifted.field (loadLocal lifted.moveNextSlot lifted.payload)

def restoreLiftedParametersAndLocals (info : AsyncMethodInfo) : Emission :=
  .all (info.lifted.map restoreVariable)

def saveLiftedParametersAndLocals (info : AsyncMethodInfo) : Emission :=
  .all (info.lifted.map saveVariable)

structure AwaitSlots where
  awaiterField : UInt32
  tempAwaitable : UInt16
  tempAwaiter : UInt16
  resultVariable : Option UInt16
  enclosingCatch : Option (Option UInt16)

variable (info : AsyncMethodInfo) (expression : AwaitExpression) (slots : AwaitSlots)

def awaiterPayload : Nat := expression.awaiterType.getD reference

def getAwaiter : Emission :=
  match expression.getAwaiterMethod with
  | some method => .all [loadLocal slots.tempAwaitable reference,emitMethodCall method,
      storeLocal slots.tempAwaiter]
  | none => .all [loadLocal slots.tempAwaitable reference,storeLocal slots.tempAwaiter]

def askAwaiter : Emission :=
  .all [storeLocal slots.tempAwaitable,getAwaiter expression slots,
    .op .loadConstNull,.evalPush reference,storeLocal slots.tempAwaitable,
    storeOwnField slots.awaiterField (loadLocal slots.tempAwaiter reference),
    loadOwnField slots.awaiterField (awaiterPayload expression),
    emitMethodCall expression.isCompletedMethod]

def emitAwaiter : Emission := .seq expression.operand (askAwaiter expression slots)

def saveException : List Part :=
  match info.currentExceptionField,slots.enclosingCatch with
  | some field,some _ => [.emission loadThis,.loadCurrentException,
      .emission (.all [.evalPush reference,.op (.storeField field),.evalPop 2])]
  | _,_ => []

def storeState (index : Nat) : Emission :=
  storeOwnField info.stateField (.seq (.op (.loadConstInt64 (.ofNat (index + 1)))) (.evalPush reference))

/-- What runs from the saving of the variables to the call of `OnCompleted`. -/
def untilSuspended (index : Nat) : List Part :=
  [.emission (saveLiftedParametersAndLocals info),.emission (emitAwaiter expression slots),.jumpTrue] ++
    saveException info slots ++ [.emission (storeState info index)]

def consumePreviousAwaiter : Emission :=
  let loaded := loadOwnField slots.awaiterField (awaiterPayload expression)
  let got := match expression.getResultMethod with
    | some method => .seq (.op (.callMethodSymbol method.address)) (trackMethodCall method)
    | none => .seq (.op .pop) (.evalPop 1)
  let result := match slots.resultVariable with
    | some slot => storeLocal slot
    | none =>
      if (expression.getResultMethod.bind Callee.returns).isSome then .seq (.op .pop) (.evalPop 1) else .skip
  .all [loaded,got,result]

def restoreException : List Part :=
  match info.currentExceptionField,slots.enclosingCatch with
  | some field,some variable_ =>
    [.emission (loadOwnField field reference),
      .emission (match variable_ with
        | some slot => .all [storeLocal slot,loadLocal slot reference]
        | none => .skip),
      .storeCurrentException,.emission (.evalPop 1)]
  | _,_ => []

/-- `EmitResumeDefersAndEnterTries`: the `try` blocks from the outermost one on, each with the
defers that stand in it. -/
def emitResumeDefersAndEnterTries (activeTryStack : List Path) (outerDefers : List Emission)
    (defersByTry : Path → List Emission) : List Part :=
  outerDefers.map .defer ++
    activeTryStack.flatMap fun statement => .enterTry statement :: (defersByTry statement).map .defer

def resumed (activeTryStack : List Path) (outerDefers : List Emission)
    (defersByTry : Path → List Emission) (nextStatement : Option Path) : List Part :=
  .emission (restoreLiftedParametersAndLocals info) ::
    emitResumeDefersAndEnterTries activeTryStack outerDefers defersByTry ++
    .emission (consumePreviousAwaiter expression slots) :: restoreException info slots ++
    -- Without a next statement the innermost `try` is left for the code behind it.
    if nextStatement.isNone && !activeTryStack.isEmpty then [.leaveTry] else []

section Examples

def awaitOf (operand : Emission) : AwaitExpression :=
  ⟨operand,some 8,none,⟨1,true,1,some 1⟩,⟨2,true,2,none⟩,some ⟨3,false,1,none⟩⟩

end Examples

end ShardScript.Async
