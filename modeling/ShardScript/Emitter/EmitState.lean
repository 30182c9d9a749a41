import ShardScript.ByteCode.Code

/-! The state of the emitter while it generates one method: the code, the stacks of open loop
and defer scopes, and the evaluation-layout tracker. The tops of the stacks come first. -/
namespace ShardScript.Emitter
open ByteCode

structure LoopScope where
  loopStart : Nat := 0
  blockEnd : Nat := 0
  loopEnd : Nat := 0
  blockEndBacktracks : List Nat := []
  loopEndBacktracks : List Nat := []

structure DeferScope where
  count : Nat
  isLoop : Bool
  deriving DecidableEq

structure EvalLayoutTracker where
  currentDepth : Nat := 0
  maxDepth : Nat := 0
  maxPayload : Nat := 0
  deferBodyMax : Nat := 0
  poisoned : Bool := false
  deriving DecidableEq

namespace EvalLayoutTracker

/-- `sizeof(void*)`, the payload of a reference or of an unknown type. -/
def referencePayload : Nat := 8

def evalPush (payload : Nat) (tracker : EvalLayoutTracker) : EvalLayoutTracker :=
  { tracker with
    currentDepth := tracker.currentDepth + 1
    maxDepth := max tracker.maxDepth (tracker.currentDepth + 1)
    maxPayload := max tracker.maxPayload payload }

def evalPop (count : Nat) (tracker : EvalLayoutTracker) : EvalLayoutTracker :=
  if tracker.currentDepth < count then { tracker with poisoned := true, currentDepth := 0 }
  else { tracker with currentDepth := tracker.currentDepth - count }

def evalDrainDefers (tracker : EvalLayoutTracker) : EvalLayoutTracker :=
  { tracker with maxDepth := max tracker.maxDepth (tracker.currentDepth + tracker.deferBodyMax) }

def atDepth (depth : Nat) (tracker : EvalLayoutTracker) : EvalLayoutTracker :=
  { tracker with currentDepth := depth }

def expectDepth (depth : Nat) (tracker : EvalLayoutTracker) : EvalLayoutTracker :=
  if tracker.currentDepth ≠ depth then { tracker with poisoned := true } else tracker

def importDeferBody (body outer : EvalLayoutTracker) : EvalLayoutTracker :=
  { outer with
    deferBodyMax := if ¬ body.poisoned ∧ body.currentDepth = 0 then max outer.deferBodyMax body.maxDepth
      else outer.deferBodyMax
    poisoned := outer.poisoned || !(¬ body.poisoned ∧ body.currentDepth = 0)
    maxPayload := max outer.maxPayload body.maxPayload }

end EvalLayoutTracker

structure EmitState where
  code : Code := []
  loops : List LoopScope := []
  deferScopes : List DeferScope := []
  tracker : EvalLayoutTracker := {}
  diagnostics : List String := []

namespace EmitState

variable (state : EmitState)

def size : Nat := state.code.size

def emit (instruction : Instruction) (state : EmitState) : EmitState :=
  { state with code := state.code ++ [instruction] }

def track (update : EvalLayoutTracker → EvalLayoutTracker) (state : EmitState) : EmitState :=
  { state with tracker := update state.tracker }

def evalPush (payload : Nat) : EmitState → EmitState := track (.evalPush payload)
def evalPop (count : Nat) : EmitState → EmitState := track (.evalPop count)
def evalDrainDefers : EmitState → EmitState := track .evalDrainDefers

def paste (offset target : Nat) (state : EmitState) : EmitState :=
  { state with code := state.code.paste offset target }

def pasteAll (offsets : List Nat) (target : Nat) (state : EmitState) : EmitState :=
  { state with code := state.code.pasteAll offsets target }

def report (message : String) (state : EmitState) : EmitState :=
  { state with diagnostics := state.diagnostics ++ [message] }

def updateLoop (update : LoopScope → LoopScope) (state : EmitState) : EmitState :=
  { state with loops := state.loops.modifyHead update }

def updateDeferScope (update : DeferScope → DeferScope) (state : EmitState) : EmitState :=
  { state with deferScopes := state.deferScopes.modifyHead update }

def enterLoop : EmitState := { state with loops := {} :: state.loops }

def leaveLoop : EmitState := { state with loops := state.loops.tail }

def awaitLoopEnd : EmitState :=
  state.updateLoop fun scope => { scope with loopEndBacktracks := scope.loopEndBacktracks ++ [state.size] }

def awaitBlockEnd (state : EmitState) : EmitState :=
  state.updateLoop fun scope => { scope with blockEndBacktracks := scope.blockEndBacktracks ++ [state.size] }

def emitDrain (count : Nat) (state : EmitState) : EmitState :=
  if count > 0 then (state.emit (.deferDrain count)).evalDrainDefers else state

def emitCurrentScopeDefers : EmitState :=
  match state.deferScopes with
  | [] => state
  | scope :: scopes => { state.emitDrain scope.count with deferScopes := { scope with count := 0 } :: scopes }

end EmitState

def scopesUntilLoop : List DeferScope → List DeferScope × List DeferScope
  | [] => ([],[])
  | scope :: scopes =>
      if scope.isLoop then ([scope],scopes)
      else ((scope :: (scopesUntilLoop scopes).1),(scopesUntilLoop scopes).2)

def totalCount (scopes : List DeferScope) : Nat := (scopes.map DeferScope.count).sum

def clearCounts (scopes : List DeferScope) : List DeferScope := scopes.map ({ · with count := 0 })

namespace EmitState

def emitDefersUntilLoop (state : EmitState) : EmitState :=
  { state.emitDrain (totalCount (scopesUntilLoop state.deferScopes).1) with
    deferScopes := clearCounts (scopesUntilLoop state.deferScopes).1 ++ (scopesUntilLoop state.deferScopes).2 }

def emitAllDefers (state : EmitState) : EmitState :=
  { state.emitDrain (totalCount state.deferScopes) with deferScopes := clearCounts state.deferScopes }

end EmitState
end ShardScript.Emitter
