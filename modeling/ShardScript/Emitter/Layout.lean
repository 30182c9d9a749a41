import ShardScript.Emitter.Statement

/-! Where the pieces of an emitted statement stand: the sizes and the defer scopes that the
emitter computes on the way, and the instructions at each position of the final code. -/
namespace ShardScript.Emitter
open ByteCode

def drainSize (count : Nat) : Nat := if count > 0 then 10 else 0

def headCount (scopes : List DeferScope) : Nat := (scopes.headD ⟨0,false⟩).count

def optionSize : Option Emission → Nat
  | some emission => emission.size
  | none => 0

namespace Statement

@[grind] def scopes : {kind : StatementKind} → Statement kind → List DeferScope → List DeferScope
  | _,simple _,open_ | _,throwStatement _,open_ | _,continueStatement,open_ => open_
  | _,returnStatement _,open_ => clearCounts open_
  | _,breakStatement,open_ => clearCounts (scopesUntilLoop open_).1 ++ (scopesUntilLoop open_).2
  | _,whileStatement _ body,open_ | _,untilStatement _ body,open_ | _,forStatement _ _ _ body,open_ =>
      (body.scopes (⟨0,true⟩ :: open_)).tail
  | _,enumeration forEach _ _ _ body,open_ => (body.scopes (⟨0,forEach⟩ :: open_)).tail
  | _,conditional first,open_ => first.scopes open_
  | _,switchStatement _ cases,open_ => cases.scopes open_
  | _,tryStatement body catches,open_ => catches.scopes (body.scopes (⟨0,false⟩ :: open_)).tail
  | _,deferStatement _ _,open_ => open_.modifyHead fun scope => { scope with count := scope.count + 1 }
  | _,empty,open_ | _,noNext,open_ | _,noCase,open_ | _,noCatch,open_ => open_
  | _,cons first rest,open_ => rest.scopes (first.scopes open_)
  | _,ifClause _ _ body next,open_ => next.scopes (body.scopes (⟨0,false⟩ :: open_)).tail
  | _,elseClause body,open_ => (body.scopes (⟨0,false⟩ :: open_)).tail
  | _,elseIf clause,open_ => clause.scopes open_
  | _,defaultClause body rest,open_ => rest.scopes (body.scopes (⟨0,false⟩ :: open_)).tail
  | _,caseClause _ _ body rest,open_ => rest.scopes (body.scopes (⟨0,false⟩ :: open_)).tail
  | _,catchClause _ _ body rest,open_ => rest.scopes (body.scopes (⟨0,false⟩ :: open_)).tail

@[grind] def size : {kind : StatementKind} → Statement kind → List DeferScope → Nat
  | _,simple emission,_ => emission.size
  | _,returnStatement value,open_ => optionSize value + drainSize (totalCount open_) + 2
  | _,throwStatement exception,_ => optionSize exception + 2
  | _,breakStatement,open_ => drainSize (totalCount (scopesUntilLoop open_).1) + 10
  | _,continueStatement,_ => 10
  | _,whileStatement condition body,open_ | _,untilStatement condition body,open_ =>
      condition.size + 10 + body.size (⟨0,true⟩ :: open_) +
        drainSize (headCount (body.scopes (⟨0,true⟩ :: open_))) + 10
  | _,forStatement initializer condition afterRepeat body,open_ =>
      initializer.size + condition.size + 10 + body.size (⟨0,true⟩ :: open_) +
        drainSize (headCount (body.scopes (⟨0,true⟩ :: open_))) + afterRepeat.size + 10
  | _,enumeration forEach start moveNext current body,open_ =>
      start.size + moveNext.size + 10 + current.size + body.size (⟨0,forEach⟩ :: open_) +
        drainSize (headCount (body.scopes (⟨0,forEach⟩ :: open_))) + 10
  | _,conditional first,open_ => first.size open_
  | _,switchStatement scrutinee cases,open_ =>
      if cases.isNoCase then 0 else scrutinee.size + cases.size open_
  | _,tryStatement body catches,open_ =>
      let inner : List DeferScope := ⟨0,false⟩ :: open_
      let bodied := body.size inner + drainSize (headCount (body.scopes inner))
      if catches.isNoCatch then bodied
      else 10 + bodied + 2 + 10 + catches.size (body.scopes inner).tail + 2
  | _,deferStatement resource body,_ => resource.size + 10 + 10 + body.size + 2
  | _,empty,_ | _,noNext,_ | _,noCase,_ => 0
  | _,cons first rest,open_ => first.size open_ + rest.size (first.scopes open_)
  | _,ifClause _ condition body next,open_ =>
      let inner : List DeferScope := ⟨0,false⟩ :: open_
      condition.size + 10 + body.size inner + drainSize (headCount (body.scopes inner)) +
        if next.isNoNext then 0 else 10 + next.size (body.scopes inner).tail
  | _,elseClause body,open_ =>
      body.size (⟨0,false⟩ :: open_) + drainSize (headCount (body.scopes (⟨0,false⟩ :: open_)))
  | _,elseIf clause,open_ => clause.size open_
  | _,defaultClause body rest,open_ =>
      let inner : List DeferScope := ⟨0,false⟩ :: open_
      body.size inner + drainSize (headCount (body.scopes inner)) + 10 + rest.size (body.scopes inner).tail
  | _,caseClause test bind body rest,open_ =>
      let inner : List DeferScope := ⟨0,false⟩ :: open_
      test.size + 10 + bind.size + body.size inner + drainSize (headCount (body.scopes inner)) + 10 +
        rest.size (body.scopes inner).tail
  | _,noCatch,_ => 2
  | _,catchClause filter bind body rest,open_ =>
      let inner : List DeferScope := ⟨0,false⟩ :: open_
      (match filter with | some filter => filter.size + 10 | none => 0) + bind.size + body.size inner +
        drainSize (headCount (body.scopes inner)) + 10 + rest.size (body.scopes inner).tail

end Statement

@[simp] theorem length_clearCounts (scopes : List DeferScope) :
    (clearCounts scopes).length = scopes.length := by simp [clearCounts]

theorem scopesUntilLoop_append (scopes : List DeferScope) :
    (scopesUntilLoop scopes).1 ++ (scopesUntilLoop scopes).2 = scopes := by
  induction scopes with
  | nil => rfl
  | cons scope scopes ih =>
    rw [scopesUntilLoop]
    split
    · rfl
    · exact congrArg (scope :: ·) ih

theorem length_scopesUntilLoop (scopes : List DeferScope) :
    (scopesUntilLoop scopes).1.length + (scopesUntilLoop scopes).2.length = scopes.length := by
  rw [← List.length_append,scopesUntilLoop_append]

@[simp] theorem Statement.length_scopes {kind : StatementKind} (statement : Statement kind)
    (open_ : List DeferScope) : (statement.scopes open_).length = open_.length := by
  induction statement generalizing open_ with
  | breakStatement => simpa [scopes] using length_scopesUntilLoop open_
  | _ => simp_all [scopes]

namespace EmitState

@[simp] theorem deferScopes_emit (instruction : Instruction) (state : EmitState) :
    (state.emit instruction).deferScopes = state.deferScopes := rfl

@[simp] theorem deferScopes_track (update : EvalLayoutTracker → EvalLayoutTracker) (state : EmitState) :
    (state.track update).deferScopes = state.deferScopes := rfl

@[simp] theorem deferScopes_evalPop (count : Nat) (state : EmitState) :
    (state.evalPop count).deferScopes = state.deferScopes := rfl

@[simp] theorem deferScopes_paste (offset target : Nat) (state : EmitState) :
    (state.paste offset target).deferScopes = state.deferScopes := rfl

@[simp] theorem deferScopes_enterLoop (state : EmitState) :
    state.enterLoop.deferScopes = state.deferScopes := rfl

@[simp] theorem deferScopes_awaitLoopEnd (state : EmitState) :
    state.awaitLoopEnd.deferScopes = state.deferScopes := rfl

@[simp] theorem deferScopes_awaitBlockEnd (state : EmitState) :
    state.awaitBlockEnd.deferScopes = state.deferScopes := rfl

@[simp] theorem deferScopes_enterBlock (isLoop : Bool) (state : EmitState) :
    (state.enterBlock isLoop).deferScopes = ⟨0,isLoop⟩ :: state.deferScopes := rfl

@[simp] theorem deferScopes_closeLoop (loopStart : Nat) (state : EmitState) :
    (state.closeLoop loopStart).deferScopes = state.deferScopes := rfl

@[simp] theorem deferScopes_closeSwitch (state : EmitState) :
    state.closeSwitch.deferScopes = state.deferScopes := rfl

@[simp] theorem deferScopes_run (emission : Emission) (state : EmitState) :
    (emission.run state).deferScopes = state.deferScopes := by rw [Emission.run_frame]

@[simp] theorem deferScopes_runOption (emission : Option Emission) (state : EmitState) :
    (state.runOption emission).deferScopes = state.deferScopes := by
  cases emission <;> simp [runOption]

@[simp] theorem deferScopes_emitDefer (body : Emission) (state : EmitState) :
    (state.emitDefer body).deferScopes = state.deferScopes := by simp [emitDefer]

@[simp] theorem deferScopes_leaveBlock (state : EmitState) :
    state.leaveBlock.deferScopes = state.deferScopes.tail := by
  simp only [leaveBlock,emitCurrentScopeDefers]
  split <;> simp_all

end EmitState
end ShardScript.Emitter
