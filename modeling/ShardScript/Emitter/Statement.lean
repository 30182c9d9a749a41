import ShardScript.Emitter.Emission

/-! The statement visitors of the emitter. In a statement tree every expression has been
visited: it is given by its emission, with the slots it uses. -/
namespace ShardScript.Emitter
open ByteCode

inductive StatementKind where
  | statement | block | clause | next | cases | catches

inductive Statement : StatementKind → Type where
  | simple (emission : Emission) : Statement .statement
  | returnStatement (value : Option Emission) : Statement .statement
  | throwStatement (exception : Option Emission) : Statement .statement
  | breakStatement : Statement .statement
  | continueStatement : Statement .statement
  | whileStatement (condition : Emission) (body : Statement .block) : Statement .statement
  | untilStatement (condition : Emission) (body : Statement .block) : Statement .statement
  | forStatement (initializer condition afterRepeat : Emission) (body : Statement .block) :
      Statement .statement
  /-- A `foreach` or a `for`-`in`: storing the enumerator of the range, calling `MoveNext`, and
  binding the current element. -/
  | enumeration (forEach : Bool) (start moveNext current : Emission) (body : Statement .block) :
      Statement .statement
  | conditional (first : Statement .clause) : Statement .statement
  | switchStatement (scrutinee : Emission) (cases : Statement .cases) : Statement .statement
  | tryStatement (body : Statement .block) (catches : Statement .catches) : Statement .statement
  | deferStatement (resource body : Emission) : Statement .statement
  | empty : Statement .block
  | cons (first : Statement .statement) (rest : Statement .block) : Statement .block
  | ifClause (negated : Bool) (condition : Emission) (body : Statement .block)
      (next : Statement .next) : Statement .clause
  | noNext : Statement .next
  | elseClause (body : Statement .block) : Statement .next
  | elseIf (clause : Statement .clause) : Statement .next
  | noCase : Statement .cases
  | defaultClause (body : Statement .block) (rest : Statement .cases) : Statement .cases
  | caseClause (test bind : Emission) (body : Statement .block) (rest : Statement .cases) :
      Statement .cases
  | noCatch : Statement .catches
  | catchClause (filter : Option Emission) (bind : Emission) (body : Statement .block)
      (rest : Statement .catches) : Statement .catches

namespace EmitState

def runOption (emission : Option Emission) (state : EmitState) : EmitState :=
  match emission with
  | some emission => emission.run state
  | none => state

def enterBlock (isLoop : Bool) (state : EmitState) : EmitState :=
  { state with deferScopes := ⟨0,isLoop⟩ :: state.deferScopes }

def leaveBlock (state : EmitState) : EmitState :=
  let drained := state.emitCurrentScopeDefers
  { drained with deferScopes := drained.deferScopes.tail }

def closeLoop (loopStart : Nat) (state : EmitState) : EmitState :=
  let jumped := state.emit (.jump loopStart)
  let scope := state.loops.headD {}
  ((jumped.pasteAll scope.blockEndBacktracks state.size).pasteAll
    scope.loopEndBacktracks jumped.size).leaveLoop

def closeSwitch (state : EmitState) : EmitState :=
  (state.pasteAll (state.loops.headD {}).loopEndBacktracks state.size).leaveLoop

def emitDefer (body : Emission) (state : EmitState) : EmitState :=
  let deferOffset := state.size
  let registered := state.emit (.defer 0)
  let jumpOver := registered.size
  let jumped := registered.emit (.jump 0)
  let bodied := (body.run (jumped.track fun _ => {})).emit .deferBreak
  let imported := bodied.track (EvalLayoutTracker.importDeferBody · jumped.tracker)
  (imported.paste deferOffset jumped.size).paste jumpOver bodied.size

end EmitState

namespace Statement

def isNoNext : Statement .next → Bool
  | noNext => true
  | _ => false

def isNoCase : Statement .cases → Bool
  | noCase => true
  | _ => false

def isNoCatch : Statement .catches → Bool
  | noCatch => true
  | _ => false

/-- The jumps of a chain of clauses go to its end, where the chain's last clause ends: each is
patched as soon as the clauses after it are emitted. -/
@[grind] def visit : {kind : StatementKind} → Statement kind → EmitState → EmitState
  | _,simple emission,state => emission.run state
  | _,returnStatement value,state =>
      let drained := (state.runOption value).emitAllDefers
      ((drained.track (.expectDepth (if value.isSome then 1 else 0))).emit .return).track (.atDepth 0)
  | _,throwStatement (some exception),state =>
      (((exception.run state).emit .throw).evalPop 1).track (.atDepth 0)
  | _,throwStatement none,state => (state.emit .rethrow).track (.atDepth 0)
  | _,breakStatement,state =>
      if state.loops.isEmpty then state.report "'break' must be inside a loop or switch"
      else state.emitDefersUntilLoop.awaitLoopEnd.emit (.jump 0)
  | _,continueStatement,state =>
      if state.loops.isEmpty then state.report "'continue' must be inside a loop"
      else state.awaitBlockEnd.emit (.jump 0)
  | _,whileStatement condition body,state =>
      let entered := state.enterLoop
      let tested := ((condition.run entered).awaitLoopEnd.emit (.jumpFalse 0)).evalPop 1
      ((body.visit (tested.enterBlock true)).leaveBlock).closeLoop entered.size
  | _,untilStatement condition body,state =>
      let entered := state.enterLoop
      let tested := ((condition.run entered).awaitLoopEnd.emit (.jumpTrue 0)).evalPop 1
      ((body.visit (tested.enterBlock true)).leaveBlock).closeLoop entered.size
  | _,forStatement initializer condition afterRepeat body,state =>
      let initialized := initializer.run state.enterLoop
      let tested := ((condition.run initialized).awaitLoopEnd.emit (.jumpFalse 0)).evalPop 1
      let bodied := (body.visit (tested.enterBlock true)).leaveBlock
      -- The block end is taken after the after-repeat statement.
      (afterRepeat.run bodied).closeLoop initialized.size
  | _,enumeration forEach start moveNext current body,state =>
      let started := start.run state.enterLoop
      let tested := ((moveNext.run started).awaitLoopEnd.emit (.jumpFalse 0)).evalPop 1
      ((body.visit ((current.run tested).enterBlock forEach)).leaveBlock).closeLoop started.size
  | _,conditional first,state => first.visit state
  | _,switchStatement scrutinee cases,state =>
      if cases.isNoCase then state
      else
        let stored := scrutinee.run state
        ((cases.visit stored.enterLoop).track (.atDepth stored.tracker.currentDepth)).closeSwitch
  | _,tryStatement body catches,state =>
      if catches.isNoCatch then (body.visit (state.enterBlock false)).leaveBlock
      else
        let enterTry := state.size
        let bodied := (body.visit ((state.emit (.enterTry 0)).enterBlock false)).leaveBlock
        let left := bodied.emit .leaveTry
        let endJump := left.size
        let jumped := left.emit (.jump 0)
        let handled := catches.visit ((jumped.paste enterTry jumped.size).track (.atDepth 1))
        ((handled.emit .endCatch).track (.atDepth state.tracker.currentDepth)).paste endJump handled.size
  | _,deferStatement resource body,state =>
      if state.deferScopes.isEmpty then state.report "defer statement must be inside a block"
      else ((resource.run state).updateDeferScope
        fun scope => { scope with count := scope.count + 1 }).emitDefer body
  | _,empty,state => state
  | _,cons first rest,state => rest.visit (first.visit state)
  | _,ifClause negated condition body next,state =>
      let conditioned := condition.run state
      let tested := (conditioned.emit (if negated then .jumpTrue 0 else .jumpFalse 0)).evalPop 1
      let bodied := (body.visit (tested.enterBlock false)).leaveBlock
      if next.isNoNext then bodied.paste conditioned.size bodied.size
      else
        let jumped := bodied.emit (.jump 0)
        let chained := next.visit (jumped.paste conditioned.size jumped.size)
        chained.paste bodied.size chained.size
  | _,noNext,state => state
  | _,elseClause body,state => (body.visit (state.enterBlock false)).leaveBlock
  | _,elseIf clause,state => clause.visit state
  | _,noCase,state => state
  | _,defaultClause body rest,state =>
      let bodied := (body.visit (state.enterBlock false)).leaveBlock
      let rested := rest.visit ((bodied.emit (.jump 0)).track (.atDepth state.tracker.currentDepth))
      rested.paste bodied.size rested.size
  | _,caseClause test bind body rest,state =>
      let conditioned := test.run state
      let bound := bind.run ((conditioned.emit (.jumpFalse 0)).evalPop 1)
      let bodied := (body.visit (bound.enterBlock false)).leaveBlock
      let jumped := (bodied.emit (.jump 0)).track (.atDepth state.tracker.currentDepth)
      let rested := rest.visit (jumped.paste conditioned.size jumped.size)
      rested.paste bodied.size rested.size
  | _,noCatch,state => (state.emit .throw).evalPop 1
  | _,catchClause (some filter) bind body rest,state =>
      let conditioned := filter.run state
      let bound := bind.run ((conditioned.emit (.jumpFalse 0)).evalPop 1)
      let bodied := (body.visit (bound.enterBlock false)).leaveBlock
      let jumped := bodied.emit (.jump 0)
      let rested := rest.visit (jumped.paste conditioned.size jumped.size)
      rested.paste bodied.size rested.size
  | _,catchClause none bind body rest,state =>
      let bodied := (body.visit ((bind.run state).enterBlock false)).leaveBlock
      let rested := rest.visit (bodied.emit (.jump 0))
      rested.paste bodied.size rested.size

end Statement

def visitBody (body : Statement .block) : EmitState :=
  let bodied := (body.visit (EmitState.enterBlock false {})).leaveBlock
  (bodied.track (.expectDepth 0)).emit .return

end ShardScript.Emitter
