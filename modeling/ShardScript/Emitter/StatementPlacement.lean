import ShardScript.Emitter.Placement

/-! The statements in the final code: which instructions an emitted statement is made of, and
where its jumps go. -/
namespace ShardScript.Emitter
open ByteCode

def optionPlaced (code : Code) (emission : Option Emission) (start : Nat) : Prop :=
  ∀ value ∈ emission, value.Placed code start

namespace Statement

@[grind] def accepted : {kind : StatementKind} → Statement kind → (inLoop : Bool) → Bool
  | _,breakStatement,inLoop | _,continueStatement,inLoop => inLoop
  | _,whileStatement _ body,_ | _,untilStatement _ body,_ | _,forStatement _ _ _ body,_ => body.accepted true
  | _,enumeration _ _ _ _ body,_ => body.accepted true
  | _,conditional first,inLoop => first.accepted inLoop
  | _,switchStatement _ cases,_ => cases.accepted true
  | _,tryStatement body catches,inLoop => body.accepted inLoop && catches.accepted inLoop
  | _,cons first rest,inLoop => first.accepted inLoop && rest.accepted inLoop
  | _,ifClause _ _ body next,inLoop => body.accepted inLoop && next.accepted inLoop
  | _,elseClause body,inLoop => body.accepted inLoop
  | _,elseIf clause,inLoop => clause.accepted inLoop
  | _,defaultClause body rest,inLoop | _,caseClause _ _ body rest,inLoop
  | _,catchClause _ _ body rest,inLoop => body.accepted inLoop && rest.accepted inLoop
  | _,_,_ => true

/-- The code of the statement stands in a code at an offset, between the targets of the
innermost loop scope and under the open defer scopes. -/
@[grind] def Placed (code : Code) :
    {kind : StatementKind} → Statement kind → Option Targets → List DeferScope → Nat → Prop
  | _,simple emission,_,_,start => emission.Placed code start
  | _,returnStatement value,_,open_,start =>
      let drain := start + optionSize value
      optionPlaced code value start ∧ DrainPlaced code (totalCount open_) drain ∧
        code.fetch (drain + drainSize (totalCount open_)) = some .return
  | _,throwStatement (some exception),_,_,start =>
      exception.Placed code start ∧ code.fetch (start + exception.size) = some .throw
  | _,throwStatement none,_,_,start => code.fetch start = some .rethrow
  | _,breakStatement,target,open_,start =>
      let count := totalCount (scopesUntilLoop open_).1
      DrainPlaced code count start ∧
        ∃ scope, target = some scope ∧ code.fetch (start + drainSize count) = some (.jump scope.loopEnd)
  | _,continueStatement,target,_,start =>
      ∃ scope, target = some scope ∧ code.fetch start = some (.jump (scope.blockEnd.getD 0))
  | _,whileStatement condition body,_,open_,start =>
      let inner : List DeferScope := ⟨0,true⟩ :: open_
      let test := start + condition.size
      let drain := test + 10 + body.size inner
      let looping := drain + drainSize (headCount (body.scopes inner))
      condition.Placed code start ∧ code.fetch test = some (.jumpFalse (looping + 10)) ∧
        (body.Placed code (some ⟨looping + 10,some looping⟩) inner (test + 10) ∧
          DrainPlaced code (headCount (body.scopes inner)) drain) ∧
        code.fetch looping = some (.jump start)
  | _,untilStatement condition body,_,open_,start =>
      let inner : List DeferScope := ⟨0,true⟩ :: open_
      let test := start + condition.size
      let drain := test + 10 + body.size inner
      let looping := drain + drainSize (headCount (body.scopes inner))
      condition.Placed code start ∧ code.fetch test = some (.jumpTrue (looping + 10)) ∧
        (body.Placed code (some ⟨looping + 10,some looping⟩) inner (test + 10) ∧
          DrainPlaced code (headCount (body.scopes inner)) drain) ∧
        code.fetch looping = some (.jump start)
  | _,forStatement initializer condition afterRepeat body,_,open_,start =>
      let inner : List DeferScope := ⟨0,true⟩ :: open_
      let initialized := start + initializer.size
      let test := initialized + condition.size
      let drain := test + 10 + body.size inner
      let repeat_ := drain + drainSize (headCount (body.scopes inner))
      let looping := repeat_ + afterRepeat.size
      initializer.Placed code start ∧ condition.Placed code initialized ∧
        code.fetch test = some (.jumpFalse (looping + 10)) ∧
        (body.Placed code (some ⟨looping + 10,some looping⟩) inner (test + 10) ∧
          DrainPlaced code (headCount (body.scopes inner)) drain) ∧
        afterRepeat.Placed code repeat_ ∧ code.fetch looping = some (.jump initialized)
  | _,enumeration forEach enumerator moveNext current body,_,open_,start =>
      let inner : List DeferScope := ⟨0,forEach⟩ :: open_
      let started := start + enumerator.size
      let test := started + moveNext.size
      let entry := test + 10 + current.size
      let drain := entry + body.size inner
      let looping := drain + drainSize (headCount (body.scopes inner))
      enumerator.Placed code start ∧ moveNext.Placed code started ∧
        code.fetch test = some (.jumpFalse (looping + 10)) ∧ current.Placed code (test + 10) ∧
        (body.Placed code (some ⟨looping + 10,some looping⟩) inner entry ∧
          DrainPlaced code (headCount (body.scopes inner)) drain) ∧
        code.fetch looping = some (.jump started)
  | _,conditional first,target,open_,start => first.Placed code target open_ start
  | _,switchStatement scrutinee cases,_,open_,start =>
      if cases.isNoCase then True
      else
        let entry := start + scrutinee.size
        scrutinee.Placed code start ∧
          cases.Placed code (some ⟨entry + cases.size open_,none⟩) open_ entry
  | _,tryStatement body catches,target,open_,start =>
      let inner : List DeferScope := ⟨0,false⟩ :: open_
      let count := headCount (body.scopes inner)
      if catches.isNoCatch then
        body.Placed code target inner start ∧ DrainPlaced code count (start + body.size inner)
      else
        let drain := start + 10 + body.size inner
        let leave := drain + drainSize count
        let handler := leave + 2 + 10
        let outer := (body.scopes inner).tail
        code.fetch start = some (.enterTry handler) ∧
          (body.Placed code target inner (start + 10) ∧ DrainPlaced code count drain) ∧
          code.fetch leave = some .leaveTry ∧
          code.fetch (leave + 2) = some (.jump (handler + catches.size outer)) ∧
          catches.Placed code target outer handler ∧
          code.fetch (handler + catches.size outer) = some .endCatch
  | _,deferStatement resource body,_,_,start =>
      let registration := start + resource.size
      let entry := registration + 10 + 10
      resource.Placed code start ∧ code.fetch registration = some (.defer entry) ∧
        code.fetch (registration + 10) = some (.jump (entry + body.size + 2)) ∧
        body.Placed code entry ∧ code.fetch (entry + body.size) = some .deferBreak
  | _,empty,_,_,_ | _,noNext,_,_,_ | _,noCase,_,_,_ => True
  | _,cons first rest,target,open_,start =>
      first.Placed code target open_ start ∧
        rest.Placed code target (first.scopes open_) (start + first.size open_)
  | _,ifClause negated condition body next,target,open_,start =>
      let inner : List DeferScope := ⟨0,false⟩ :: open_
      let count := headCount (body.scopes inner)
      let test := start + condition.size
      let drain := test + 10 + body.size inner
      let bodied := drain + drainSize count
      let outer := (body.scopes inner).tail
      let passed := if next.isNoNext then bodied else bodied + 10
      condition.Placed code start ∧
        code.fetch test = some (if negated then .jumpTrue passed else .jumpFalse passed) ∧
        (body.Placed code target inner (test + 10) ∧ DrainPlaced code count drain) ∧
        (next.isNoNext = false → code.fetch bodied = some (.jump (passed + next.size outer)) ∧
          next.Placed code target outer passed)
  | _,elseClause body,target,open_,start =>
      body.Placed code target (⟨0,false⟩ :: open_) start ∧
        DrainPlaced code (headCount (body.scopes (⟨0,false⟩ :: open_))) (start + body.size (⟨0,false⟩ :: open_))
  | _,elseIf clause,target,open_,start => clause.Placed code target open_ start
  | _,defaultClause body rest,target,open_,start =>
      let inner : List DeferScope := ⟨0,false⟩ :: open_
      let drain := start + body.size inner
      let bodied := drain + drainSize (headCount (body.scopes inner))
      let outer := (body.scopes inner).tail
      (body.Placed code target inner start ∧ DrainPlaced code (headCount (body.scopes inner)) drain) ∧
        code.fetch bodied = some (.jump (bodied + 10 + rest.size outer)) ∧
        rest.Placed code target outer (bodied + 10)
  | _,caseClause test bind body rest,target,open_,start =>
      let inner : List DeferScope := ⟨0,false⟩ :: open_
      let tested := start + test.size
      let entry := tested + 10 + bind.size
      let drain := entry + body.size inner
      let bodied := drain + drainSize (headCount (body.scopes inner))
      let outer := (body.scopes inner).tail
      test.Placed code start ∧ code.fetch tested = some (.jumpFalse (bodied + 10)) ∧
        bind.Placed code (tested + 10) ∧
        (body.Placed code target inner entry ∧ DrainPlaced code (headCount (body.scopes inner)) drain) ∧
        code.fetch bodied = some (.jump (bodied + 10 + rest.size outer)) ∧
        rest.Placed code target outer (bodied + 10)
  | _,noCatch,_,_,start => code.fetch start = some .throw
  | _,catchClause (some filter) bind body rest,target,open_,start =>
      let inner : List DeferScope := ⟨0,false⟩ :: open_
      let tested := start + filter.size
      let entry := tested + 10 + bind.size
      let drain := entry + body.size inner
      let bodied := drain + drainSize (headCount (body.scopes inner))
      let outer := (body.scopes inner).tail
      filter.Placed code start ∧ code.fetch tested = some (.jumpFalse (bodied + 10)) ∧
        bind.Placed code (tested + 10) ∧
        (body.Placed code target inner entry ∧ DrainPlaced code (headCount (body.scopes inner)) drain) ∧
        code.fetch bodied = some (.jump (bodied + 10 + rest.size outer)) ∧
        rest.Placed code target outer (bodied + 10)
  | _,catchClause none bind body rest,target,open_,start =>
      let inner : List DeferScope := ⟨0,false⟩ :: open_
      let entry := start + bind.size
      let drain := entry + body.size inner
      let bodied := drain + drainSize (headCount (body.scopes inner))
      let outer := (body.scopes inner).tail
      bind.Placed code start ∧
        (body.Placed code target inner entry ∧ DrainPlaced code (headCount (body.scopes inner)) drain) ∧
        code.fetch bodied = some (.jump (bodied + 10 + rest.size outer)) ∧
        rest.Placed code target outer (bodied + 10)

end Statement

theorem Grows.length_eq {low high : Nat} {before after : List LoopScope} (h : Grows low high before after) :
    after.length = before.length := by cases h <;> rfl

namespace EmitState

theorem leaveBlock_code (state : EmitState) :
    state.leaveBlock.code = (state.emitDrain (headCount state.deferScopes)).code := by
  simp only [leaveBlock,emitCurrentScopeDefers]
  split <;> simp_all [headCount,emitDrain]

theorem leaveBlock_loops (state : EmitState) : state.leaveBlock.loops = state.loops := by
  simp only [leaveBlock,emitCurrentScopeDefers,emitDrain]
  split
  · rfl
  · split <;> rfl

theorem emitDrain_loops (count : Nat) (state : EmitState) : (state.emitDrain count).loops = state.loops := by
  unfold emitDrain
  split <;> rfl

end EmitState

structure Visited {kind : StatementKind} (statement : Statement kind) (targets : List Targets)
    (state : EmitState) : Prop where
  scopes : (statement.visit state).deferScopes = statement.scopes state.deferScopes
  lays : Lays targets state (statement.visit state) (statement.size state.deferScopes) fun code =>
    statement.Placed code targets.head? state.deferScopes state.size

structure Ready (targets : List Targets) (state : EmitState) : Prop where
  depth : state.loops.length = targets.length
  block : state.deferScopes ≠ []

namespace Lays

variable {targets : List Targets} {first second : EmitState} {m n : Nat} {placed : Code → Prop}

theorem ready (h : Lays targets first second m placed) (ready : Ready targets first)
    (block : second.deferScopes ≠ []) : Ready targets second :=
  ⟨h.loops.length_eq.trans ready.depth,block⟩

theorem finish {second' : EmitState} {other : Code → Prop} (h : Lays targets first second m placed)
    (code : second'.code = second.code) (loops : second'.loops = second.loops) (length : m = n)
    (imp : ∀ code, placed code → other code) : Lays targets first second' n other :=
  length ▸ (h.congr rfl rfl code loops).mono imp

variable {state : EmitState}

theorem block {start : Nat} {open_ : List DeferScope} {body : Statement .block}
    (isLoop : Bool) (at_ : state.size = start) (scopes : state.deferScopes = open_)
    (visited : Visited body targets (state.enterBlock isLoop)) :
    Lays targets state (body.visit (state.enterBlock isLoop)).leaveBlock
      (body.size (⟨0,isLoop⟩ :: open_) + drainSize (headCount (body.scopes (⟨0,isLoop⟩ :: open_)))) fun code =>
      body.Placed code targets.head? (⟨0,isLoop⟩ :: open_) start ∧
        DrainPlaced code (headCount (body.scopes (⟨0,isLoop⟩ :: open_)))
          (start + body.size (⟨0,isLoop⟩ :: open_)) := by
  subst at_ scopes
  have bodied : Lays targets state (body.visit (state.enterBlock isLoop)) _ _ :=
    visited.lays.congr rfl rfl rfl rfl
  have drained := emitDrain targets (headCount (body.visit (state.enterBlock isLoop)).deferScopes) bodied.size
  rw [visited.scopes] at drained
  exact bodied.trans (drained.congr rfl rfl
    ((EmitState.leaveBlock_code _).trans (by rw [visited.scopes]))
    ((EmitState.leaveBlock_loops _).trans (EmitState.emitDrain_loops _ _).symm))

theorem block_scopes {open_ : List DeferScope} {body : Statement .block} {isLoop : Bool}
    (scopes : state.deferScopes = open_) (visited : Visited body targets (state.enterBlock isLoop)) :
    (body.visit (state.enterBlock isLoop)).leaveBlock.deferScopes =
      (body.scopes (⟨0,isLoop⟩ :: open_)).tail := by
  subst scopes
  rw [EmitState.deferScopes_leaveBlock,visited.scopes]
  rfl

theorem runOption {start : Nat} (targets : List Targets) (emission : Option Emission)
    (at_ : state.size = start) : Lays targets state (state.runOption emission) (optionSize emission)
      fun code => optionPlaced code emission start := by
  cases emission with
  | none => exact (refl targets state).mono fun _ _ value member => by cases member
  | some emission =>
    refine (run targets emission at_).mono ?_
    intro code placed value member
    cases member
    exact placed

theorem tested {target : Targets} {state : EmitState} {start : Nat} (exit : Instruction)
    (at_ : state.size = start) (open_ : state.loops ≠ []) :
    Lays (target :: targets) state ((state.awaitLoopEnd.emit exit).evalPop 1) exit.size fun code =>
      code.fetch start = some (exit.withTarget 0 target.loopEnd) :=
  at_ ▸ (awaitLoopEnd exit open_).congr rfl rfl rfl rfl

theorem open_of_enter {target : Targets}
    (h : Lays (target :: targets) state.enterLoop second m placed) : second.loops ≠ [] := by
  have := h.loops.length_eq
  intro none_
  rw [none_] at this
  simp [EmitState.enterLoop] at this

end Lays

theorem Ready.enterLoop {targets : List Targets} {state : EmitState} (ready : Ready targets state)
    (target : Targets) : Ready (target :: targets) state.enterLoop :=
  ⟨congrArg (· + 1) ready.depth,ready.block⟩

theorem Ready.enterBlock {targets : List Targets} {state : EmitState} (ready : Ready targets state)
    (isLoop : Bool) : Ready targets (state.enterBlock isLoop) :=
  ⟨ready.depth,by simp⟩

theorem EmitState.size_enterLoop (state : EmitState) : state.enterLoop.size = state.size := rfl

theorem Ready.after {targets : List Targets} {first second : EmitState} {n : Nat} {placed : Code → Prop}
    (ready : Ready targets first) (h : Lays targets first second n placed)
    (scopes : second.deferScopes = first.deferScopes) : Ready targets second :=
  h.ready ready (scopes ▸ ready.block)

private theorem visited_tested {targets : List Targets} {state : EmitState} {condition : Emission}
    {body : Statement .block} (exit : Instruction) (exitSize : exit.size = 10) (ready : Ready targets state)
    (ih : ∀ {targets : List Targets} {state : EmitState}, Ready targets state →
      body.accepted (!targets.isEmpty) = true → Visited body targets state)
    (accepted : body.accepted true = true) :
    let inner : List DeferScope := ⟨0,true⟩ :: state.deferScopes
    let test := state.size + condition.size
    let drain := test + 10 + body.size inner
    let looping := drain + drainSize (headCount (body.scopes inner))
    let after := ((body.visit ((((condition.run state.enterLoop).awaitLoopEnd.emit exit).evalPop
      1).enterBlock true)).leaveBlock).closeLoop state.size
    after.deferScopes = (body.scopes inner).tail ∧
      Lays targets state after
        (condition.size + 10 + body.size inner + drainSize (headCount (body.scopes inner)) + 10) fun code =>
        condition.Placed code state.size ∧ code.fetch test = some (exit.withTarget 0 (looping + 10)) ∧
          (body.Placed code (some ⟨looping + 10,some looping⟩) inner (test + 10) ∧
            DrainPlaced code (headCount (body.scopes inner)) drain) ∧
          code.fetch looping = some (.jump state.size) := by
  intro inner test drain looping after
  let tested := ((condition.run state.enterLoop).awaitLoopEnd.emit exit).evalPop 1
  have conditioned := Lays.run (⟨looping + 10,some looping⟩ :: targets) condition state.size_enterLoop
  have testing := conditioned.trans (Lays.tested exit conditioned.size conditioned.open_of_enter)
  have scopes_ : tested.deferScopes = state.deferScopes := by simp [tested]
  have testedSize : tested.size = test + 10 := testing.size.trans (by
    simp only [test,exitSize,EmitState.size_enterLoop]
    omega)
  have visited := ih (((ready.enterLoop _).after testing scopes_).enterBlock true) accepted
  have looped := testing.trans (Lays.block true testedSize scopes_ visited)
  refine ⟨Lays.block_scopes scopes_ visited,?_⟩
  refine (looped.closeLoop state.size (looped.size.trans ?_)).finish rfl rfl ?_ ?_
  · simp only [looping,drain,test,inner,exitSize,EmitState.size_enterLoop]
    omega
  · simp only [inner,exitSize]
    omega
  · rintro code ⟨⟨⟨condition,exit⟩,block⟩,jump⟩
    exact ⟨condition,exit,block,jump⟩

theorem Ready.afterBlock {targets : List Targets} {state after : EmitState} {body : Statement .block}
    {isLoop : Bool} (ready : Ready targets state) (depth : after.loops.length = targets.length)
    (scopes : after.deferScopes = (body.scopes (⟨0,isLoop⟩ :: state.deferScopes)).tail) :
    Ready targets after := by
  refine ⟨depth,?_⟩
  rw [scopes]
  apply List.ne_nil_of_length_pos
  simpa using List.length_pos_of_ne_nil ready.block

private theorem visited_arm {kind : StatementKind} {targets : List Targets} {state : EmitState}
    {test bind : Emission} {body : Statement .block} {rest : Statement kind}
    (tracking : EmitState → EmitState) (neutral : ∀ state, tracking state =
      { state with tracker := (tracking state).tracker }) (ready : Ready targets state)
    (ihBody : ∀ {targets : List Targets} {state : EmitState}, Ready targets state →
      body.accepted (!targets.isEmpty) = true → Visited body targets state)
    (ihRest : ∀ {targets : List Targets} {state : EmitState}, Ready targets state →
      rest.accepted (!targets.isEmpty) = true → Visited rest targets state)
    (accepted : (body.accepted (!targets.isEmpty) && rest.accepted (!targets.isEmpty)) = true) :
    let inner : List DeferScope := ⟨0,false⟩ :: state.deferScopes
    let tested := state.size + test.size
    let entry := tested + 10 + bind.size
    let drain := entry + body.size inner
    let bodied := drain + drainSize (headCount (body.scopes inner))
    let outer := (body.scopes inner).tail
    let bound := bind.run (((test.run state).emit (.jumpFalse 0)).evalPop 1)
    let left := (body.visit (bound.enterBlock false)).leaveBlock
    let jumped := tracking (left.emit (.jump 0))
    let rested := rest.visit (jumped.paste (test.run state).size jumped.size)
    rested.deferScopes = rest.scopes outer ∧
      Lays targets state (rested.paste left.size rested.size)
        (test.size + 10 + bind.size + body.size inner + drainSize (headCount (body.scopes inner)) + 10 +
          rest.size outer) fun code =>
        test.Placed code state.size ∧ code.fetch tested = some (.jumpFalse (bodied + 10)) ∧
          bind.Placed code (tested + 10) ∧
          (body.Placed code targets.head? inner entry ∧
            DrainPlaced code (headCount (body.scopes inner)) drain) ∧
          code.fetch bodied = some (.jump (bodied + 10 + rest.size outer)) ∧
          rest.Placed code targets.head? outer (bodied + 10) := by
  intro inner tested entry drain bodied outer bound left jumped rested
  obtain ⟨bodyAccepted,restAccepted⟩ := Bool.and_eq_true_iff.mp accepted
  let armed := ((test.run state).emit (.jumpFalse 0)).evalPop 1
  have conditioned := Lays.run targets test (show state.size = state.size from rfl)
  have armedSize : armed.size = tested + 10 := by
    rw [show tested = (test.run state).size from conditioned.size.symm]
    exact (Lays.emit targets (.jumpFalse 0) rfl).size
  have armedReady : Ready targets armed :=
    ⟨(ready.after conditioned (by simp)).depth,by simpa [armed] using ready.block⟩
  have binding := Lays.run targets bind armedSize
  have scopes_ : bound.deferScopes = state.deferScopes := by simp [bound]
  have boundSize : bound.size = entry := binding.size.trans (by rw [armedSize])
  have boundReady : Ready targets bound := armedReady.after binding (by simp [bound,armed])
  have visited := ihBody (boundReady.enterBlock false) bodyAccepted
  have blocked := Lays.block false boundSize scopes_ visited
  have lefting := binding.trans blocked
  have leftSize : left.size = bodied := lefting.size.trans (by
    simp only [armedSize,bodied,drain,entry,inner]
    omega)
  have leftScopes : left.deferScopes = outer := Lays.block_scopes scopes_ visited
  have jumpedCode : jumped.code = (left.emit (.jump 0)).code := by
    simp only [jumped]
    rw [neutral]
  have jumpedSize : jumped.size = bodied + 10 := by
    rw [← leftSize]
    exact (congrArg Code.size jumpedCode).trans (Lays.emit targets (.jump 0) rfl).size
  have jumpedScopes : jumped.deferScopes = outer := by
    rw [← leftScopes]
    simp only [jumped]
    rw [neutral]
    rfl
  have jumpedLoops : jumped.loops = left.loops := by
    simp only [jumped]
    rw [neutral]
    rfl
  let pasted := jumped.paste (test.run state).size jumped.size
  have pastedSize : pasted.size = bodied + 10 := (Code.size_paste _ _ _).trans jumpedSize
  have pastedReady : Ready targets pasted := by
    refine ready.afterBlock ?_ jumpedScopes
    exact (congrArg List.length jumpedLoops).trans (lefting.loops.length_eq.trans armedReady.depth)
  have chained := ihRest pastedReady restAccepted
  have placed := chained.lays
  rw [show pasted.deferScopes = outer from jumpedScopes,pastedSize] at placed
  have crossed := @Lays.crossed _ _ _ _ _ (test.run state) left rested (.jumpFalse 0) (.jump 0) jumped.size
    rested.size (lefting.congr rfl rfl rfl rfl)
    (placed.congr (congrArg (Code.paste · _ _) jumpedCode.symm) jumpedLoops.symm rfl rfl)
  refine ⟨chained.scopes.trans (by rw [show pasted.deferScopes = outer from jumpedScopes]),?_⟩
  refine (conditioned.trans crossed).finish rfl rfl ?_ ?_
  · simp only [outer,inner,Instruction.size]
    omega
  · rintro code ⟨test_,⟨exit,bind_,block⟩,jump,rest_⟩
    rw [conditioned.size,jumpedSize] at exit
    rw [leftSize,show rested.size = _ from placed.size,pastedSize] at jump
    exact ⟨test_,exit,bind_,block,jump,rest_⟩

theorem Lays.switchClauses {targets : List Targets} {state : EmitState} {scrutinee : Emission}
    {cases : Statement .cases} (ready : Ready targets state)
    (ih : ∀ {target : Targets} {state : EmitState}, Ready (target :: targets) state →
      Visited cases (target :: targets) state) :
    let stored := scrutinee.run state
    let entry := state.size + scrutinee.size
    Lays targets state ((cases.visit stored.enterLoop).track (.atDepth stored.tracker.currentDepth)).closeSwitch
      (scrutinee.size + cases.size state.deferScopes) fun code =>
      scrutinee.Placed code state.size ∧
        cases.Placed code (some ⟨entry + cases.size state.deferScopes,none⟩) state.deferScopes entry := by
  intro stored_ entry
  have stored := Lays.run targets scrutinee (show state.size = state.size from rfl)
  have scopes_ : stored_.enterLoop.deferScopes = state.deferScopes := by simp [stored_]
  have visited := @ih ⟨entry + cases.size state.deferScopes,none⟩ _ ((ready.after stored scopes_).enterLoop _)
  have placed := visited.lays
  rw [scopes_,EmitState.size_enterLoop,stored.size] at placed
  have tracked : Lays (⟨entry + cases.size state.deferScopes,none⟩ :: targets) stored_.enterLoop
      ((cases.visit stored_.enterLoop).track (.atDepth stored_.tracker.currentDepth)) _ _ :=
    placed.congr rfl rfl rfl rfl
  have closed := tracked.closeSwitch (tracked.size.trans (by
    rw [EmitState.size_enterLoop,stored.size]))
  exact stored.trans closed

theorem Statement.visited {kind : StatementKind} (statement : Statement kind) {targets : List Targets}
    {state : EmitState} (ready : Ready targets state)
    (accepted : statement.accepted (!targets.isEmpty) = true) : Visited statement targets state := by
  induction statement generalizing targets state with
  | simple emission =>
    exact ⟨by simp [visit,scopes],Lays.run targets emission rfl⟩
  | returnStatement value =>
    refine ⟨by simp [visit,scopes,EmitState.emitAllDefers],?_⟩
    have valued := Lays.runOption targets value (show state.size = state.size from rfl)
    have drained : Lays targets (state.runOption value) (state.runOption value).emitAllDefers _ _ :=
      (Lays.emitDrain targets (totalCount state.deferScopes) valued.size).congr rfl rfl
        (by simp [EmitState.emitAllDefers]) (by simp [EmitState.emitAllDefers])
    have all := valued.trans drained
    refine (all.trans (Lays.emit targets .return all.size)).finish rfl rfl rfl ?_
    rintro code ⟨⟨value,drain⟩,ret⟩
    exact ⟨value,drain,Nat.add_assoc _ _ _ ▸ ret⟩
  | throwStatement exception =>
    cases exception with
    | none =>
      exact ⟨rfl,(Lays.emit targets .rethrow rfl).finish rfl rfl rfl fun _ found => found⟩
    | some exception =>
      have valued := Lays.run targets exception (show state.size = state.size from rfl)
      refine ⟨by simp [visit,scopes],?_⟩
      exact (valued.trans (Lays.emit targets .throw valued.size)).finish rfl rfl rfl fun _ placed => placed
  | breakStatement =>
    cases targets with
    | nil => cases accepted
    | cons target targets =>
      have open_ : state.loops ≠ [] := fun none_ => by
        have := ready.depth
        simp [none_] at this
      have nonempty : state.loops.isEmpty = false := by simpa using open_
      let drainedState := state.emitDefersUntilLoop
      have drained : Lays (target :: targets) state drainedState _ _ :=
        (Lays.emitDrain (target :: targets) (totalCount (scopesUntilLoop state.deferScopes).1) rfl).congr
          rfl rfl (by simp [drainedState,EmitState.emitDefersUntilLoop])
          (by simp [drainedState,EmitState.emitDefersUntilLoop])
      have sameLoops : drainedState.loops = state.loops := EmitState.emitDrain_loops _ _
      have jumped := @Lays.tested targets target drainedState _ (.jump 0) drained.size (sameLoops ▸ open_)
      refine ⟨?_,?_⟩
      · simp [visit,nonempty,scopes,EmitState.emitDefersUntilLoop]
      · rw [visit,nonempty]
        refine (drained.trans jumped).finish rfl rfl rfl ?_
        rintro code ⟨drain,jump⟩
        exact ⟨drain,target,rfl,jump⟩
  | continueStatement =>
    cases targets with
    | nil => cases accepted
    | cons target targets =>
      have open_ : state.loops ≠ [] := fun none_ => by
        have := ready.depth
        simp [none_] at this
      have nonempty : state.loops.isEmpty = false := by simpa using open_
      refine ⟨?_,?_⟩
      · simp [visit,nonempty,scopes]
      · rw [visit,nonempty]
        refine (@Lays.awaitBlockEnd target targets state (.jump 0) open_).finish rfl rfl rfl ?_
        intro code jump
        refine ⟨target,rfl,?_⟩
        rw [jump]
        cases target.blockEnd <;> rfl
  | whileStatement condition body ih =>
    obtain ⟨scopes_,lays⟩ := @visited_tested _ _ condition _ (.jumpFalse 0) rfl ready ih accepted
    exact ⟨scopes_,lays⟩
  | untilStatement condition body ih =>
    obtain ⟨scopes_,lays⟩ := @visited_tested _ _ condition _ (.jumpTrue 0) rfl ready ih accepted
    exact ⟨scopes_,lays⟩
  | forStatement initializer condition afterRepeat body ih =>
    let tested := ((condition.run (initializer.run state.enterLoop)).awaitLoopEnd.emit (.jumpFalse 0)).evalPop 1
    let inner : List DeferScope := ⟨0,true⟩ :: state.deferScopes
    let test := state.size + initializer.size + condition.size
    let repeat_ := test + 10 + body.size inner + drainSize (headCount (body.scopes inner))
    let looping := repeat_ + afterRepeat.size
    have initialized := Lays.run (⟨looping + 10,some looping⟩ :: targets) initializer state.size_enterLoop
    have conditioned := initialized.trans (Lays.run _ condition initialized.size)
    have testing := conditioned.trans (Lays.tested (.jumpFalse 0) (conditioned.size.trans
      (Nat.add_assoc _ _ _).symm) conditioned.open_of_enter)
    have scopes_ : tested.deferScopes = state.deferScopes := by simp [tested]
    have testedSize : tested.size = test + 10 := testing.size.trans (by
      simp only [test,Instruction.size,EmitState.size_enterLoop]
      omega)
    have visited := ih (((ready.enterLoop _).after testing scopes_).enterBlock true) accepted
    have bodied := testing.trans (Lays.block true testedSize scopes_ visited)
    have bodiedSize : (body.visit (tested.enterBlock true)).leaveBlock.size = repeat_ := bodied.size.trans (by
      simp only [repeat_,test,inner,Instruction.size,EmitState.size_enterLoop]
      omega)
    have repeated := bodied.trans (Lays.run _ afterRepeat bodiedSize)
    refine ⟨?_,?_⟩
    · rw [visit,EmitState.deferScopes_closeLoop,EmitState.deferScopes_run]
      exact Lays.block_scopes scopes_ visited
    · refine (repeated.closeLoop (state.size + initializer.size) (repeated.size.trans ?_)).finish
        (by rw [visit,initialized.size]; rfl) (by rw [visit,initialized.size]; rfl) ?_ ?_
      · simp only [looping,repeat_,test,inner,Instruction.size,EmitState.size_enterLoop]
        omega
      · simp only [size,Instruction.size]
        omega
      · rintro code ⟨⟨⟨⟨⟨initializer,condition⟩,exit⟩,block⟩,repeat_⟩,jump⟩
        exact ⟨initializer,condition,exit,block,repeat_,jump⟩
  | enumeration forEach start moveNext current body ih =>
    let exited := ((moveNext.run (start.run state.enterLoop)).awaitLoopEnd.emit (.jumpFalse 0)).evalPop 1
    let inner : List DeferScope := ⟨0,forEach⟩ :: state.deferScopes
    let test := state.size + start.size + moveNext.size
    let looping := test + 10 + current.size + body.size inner + drainSize (headCount (body.scopes inner))
    have started := Lays.run (⟨looping + 10,some looping⟩ :: targets) start state.size_enterLoop
    have moved := started.trans (Lays.run _ moveNext started.size)
    have testing := moved.trans (Lays.tested (.jumpFalse 0) (moved.size.trans
      (Nat.add_assoc _ _ _).symm) moved.open_of_enter)
    have testedSize : exited.size = test + 10 := testing.size.trans (by
      simp only [test,Instruction.size,EmitState.size_enterLoop]
      omega)
    have bound := testing.trans (Lays.run _ current testedSize)
    have scopes_ : (current.run exited).deferScopes = state.deferScopes := by simp [exited]
    have boundSize : (current.run exited).size = test + 10 + current.size := bound.size.trans (by
      simp only [test,Instruction.size,EmitState.size_enterLoop]
      omega)
    have visited := ih (((ready.enterLoop _).after bound scopes_).enterBlock forEach) accepted
    have bodied := bound.trans (Lays.block forEach boundSize scopes_ visited)
    refine ⟨Lays.block_scopes scopes_ visited,?_⟩
    refine (bodied.closeLoop (state.size + start.size) (bodied.size.trans ?_)).finish
      (by rw [visit,started.size]; rfl) (by rw [visit,started.size]; rfl) ?_ ?_
    · simp only [looping,test,inner,Instruction.size,EmitState.size_enterLoop]
      omega
    · simp only [size,Instruction.size]
      omega
    · rintro code ⟨⟨⟨⟨⟨start,moveNext⟩,exit⟩,current⟩,block⟩,jump⟩
      exact ⟨start,moveNext,exit,current,block,jump⟩
  | conditional first ih => exact ⟨(ih ready accepted).scopes,(ih ready accepted).lays⟩
  | switchStatement scrutinee cases ih =>
    by_cases none_ : cases.isNoCase = true
    · cases cases with
      | noCase => exact ⟨rfl,(Lays.refl targets state).mono fun _ _ => trivial⟩
      | _ => cases none_
    · have scopes_ : (scrutinee.run state).enterLoop.deferScopes = state.deferScopes := by simp
      have entered : Ready (⟨state.size + scrutinee.size,none⟩ :: targets) (scrutinee.run state).enterLoop :=
        (ready.after (Lays.run targets scrutinee rfl) scopes_).enterLoop _
      have visit_ : (switchStatement scrutinee cases).visit state = _ := if_neg none_
      refine ⟨?_,?_⟩
      · rw [visit_]
        exact (ih entered accepted).scopes.trans (by rw [scopes_,scopes])
      · rw [visit_]
        refine (Lays.switchClauses ready fun ready => ih ready accepted).finish rfl rfl (if_neg none_).symm ?_
        intro code placed
        rw [Placed,if_neg none_]
        exact placed
  | deferStatement resource body =>
    have nonempty : state.deferScopes.isEmpty = false := by simpa using ready.block
    have resourced := Lays.run targets resource (show state.size = state.size from rfl)
    let counted := (resource.run state).updateDeferScope fun scope => { scope with count := scope.count + 1 }
    let registered := counted.emit (.defer 0)
    let jumped := registered.emit (.jump 0)
    let bodied := (body.run (jumped.track fun _ => {})).emit .deferBreak
    have countedSize : counted.size = state.size + resource.size := resourced.size
    have registeredSize : registered.size = state.size + resource.size + 10 := by
      rw [← countedSize]
      exact (Lays.emit targets (.defer 0) rfl).size
    have jumpedSize : jumped.size = state.size + resource.size + 10 + 10 := by
      rw [← registeredSize]
      exact (Lays.emit targets (.jump 0) rfl).size
    have running := Lays.run targets body (show (jumped.track fun _ => {}).size = _ from jumpedSize)
    have broken : Lays targets jumped bodied _ _ :=
      (running.trans (Lays.emit targets .deferBreak (running.size.trans
        (congrArg (· + body.size) jumpedSize)))).congr rfl rfl rfl rfl
    have inner := @Lays.patched _ _ _ _ registered (.jump 0) bodied.size broken
    have outer := @Lays.patched _ _ _ _ counted (.defer 0) jumped.size inner
    have bodiedSize : bodied.size = state.size + resource.size + 10 + 10 + body.size + 2 := by
      rw [broken.size,jumpedSize]
      rfl
    refine ⟨by simp [visit,nonempty,scopes,EmitState.updateDeferScope],?_⟩
    rw [visit,nonempty]
    refine (resourced.trans (outer.congr rfl rfl rfl rfl)).finish ?_ ?_ ?_ ?_
    · exact Code.paste_comm _ (show counted.size ≠ registered.size by omega) _ _
    · rfl
    · simp only [size,Instruction.size]
      omega
    · rintro code ⟨resource_,registration,jump,body_,break_⟩
      rw [countedSize] at registration
      rw [registeredSize,bodiedSize] at jump
      rw [jumpedSize] at registration
      exact ⟨resource_,registration,jump,body_,break_⟩
  | tryStatement body catches ihBody ihCatches =>
    obtain ⟨bodyAccepted,catchesAccepted⟩ := Bool.and_eq_true_iff.mp accepted
    by_cases none_ : catches.isNoCatch = true
    · cases catches with
      | noCatch =>
        have visited := ihBody (ready.enterBlock false) bodyAccepted
        exact ⟨Lays.block_scopes rfl visited,(Lays.block false rfl rfl visited).finish rfl rfl rfl fun _ h => h⟩
      | catchClause => cases none_
    · let inner : List DeferScope := ⟨0,false⟩ :: state.deferScopes
      let entered := state.emit (.enterTry 0)
      let left := (body.visit (entered.enterBlock false)).leaveBlock.emit .leaveTry
      let leave := state.size + 10 + body.size inner + drainSize (headCount (body.scopes inner))
      let jumped := ((left.emit (.jump 0)).paste state.size (left.emit (.jump 0)).size).track (.atDepth 1)
      have enteredSize : entered.size = state.size + 10 := (Lays.emit targets (.enterTry 0) rfl).size
      have visited := ihBody (⟨ready.depth,by simp⟩ : Ready targets (entered.enterBlock false)) bodyAccepted
      have bodied := Lays.block false enteredSize (show entered.deferScopes = state.deferScopes from rfl) visited
      have leaving := bodied.trans (Lays.emit targets .leaveTry (show _ = leave from bodied.size.trans (by
        simp only [enteredSize,leave,inner]
        omega)))
      have leftSize : left.size = leave + 2 := leaving.size.trans (by
        simp only [enteredSize,leave,inner,Instruction.size]
        omega)
      have jumpedSize : (left.emit (.jump 0)).size = leave + 2 + 10 := by
        rw [← leftSize]
        exact (Lays.emit targets (.jump 0) rfl).size
      have scopes_ : jumped.deferScopes = (body.scopes inner).tail := Lays.block_scopes rfl visited
      have jumpedReady : Ready targets jumped := by
        refine ⟨leaving.loops.length_eq.trans ready.depth,?_⟩
        rw [scopes_]
        apply List.ne_nil_of_length_pos
        simpa [inner] using List.length_pos_of_ne_nil ready.block
      have handled := ihCatches jumpedReady catchesAccepted
      have placed := handled.lays
      have jumpedSize' : jumped.size = leave + 2 + 10 := by
        rw [← jumpedSize]
        exact Code.size_paste _ _ _
      rw [scopes_,jumpedSize'] at placed
      have ended := placed.trans (Lays.emit targets .endCatch (show _ = leave + 2 + 10 +
        catches.size (body.scopes inner).tail from placed.size.trans (by rw [jumpedSize'])))
      have all := @Lays.crossed _ _ _ _ _ state left _ (.enterTry 0) (.jump 0) (left.emit (.jump 0)).size
        (catches.visit jumped).size leaving (ended.congr rfl rfl rfl rfl)
      have visit_ : (tryStatement body catches).visit state = _ := if_neg none_
      refine ⟨?_,?_⟩
      · rw [visit_]
        exact handled.scopes.trans (by rw [scopes_,scopes])
      · rw [visit_]
        refine all.finish rfl rfl ?_ ?_
        · rw [size,if_neg none_]
          simp only [inner,Instruction.size]
          omega
        · rintro code ⟨⟨enter,block,leave_⟩,jump,catches_,end_⟩
          rw [Placed,if_neg none_]
          rw [jumpedSize] at enter
          rw [leftSize,placed.size,jumpedSize'] at jump
          exact ⟨enter,block,leave_,jump,catches_,end_⟩
  | empty => exact ⟨rfl,(Lays.refl targets state).mono fun _ _ => trivial⟩
  | noNext => exact ⟨rfl,(Lays.refl targets state).mono fun _ _ => trivial⟩
  | noCase => exact ⟨rfl,(Lays.refl targets state).mono fun _ _ => trivial⟩
  | noCatch => exact ⟨rfl,(Lays.emit targets .throw rfl).finish rfl rfl rfl fun _ found => found⟩
  | cons first rest ihFirst ihRest =>
    obtain ⟨firstAccepted,restAccepted⟩ := Bool.and_eq_true_iff.mp accepted
    have left := ihFirst ready firstAccepted
    have readyRest : Ready targets (first.visit state) := by
      refine left.lays.ready ready ?_
      rw [left.scopes]
      apply List.ne_nil_of_length_pos
      simpa using List.length_pos_of_ne_nil ready.block
    have right := ihRest readyRest restAccepted
    refine ⟨right.scopes.trans (by rw [left.scopes,scopes]),?_⟩
    have placed := right.lays
    rw [left.scopes,left.lays.size] at placed
    exact (left.lays.trans placed).finish rfl rfl rfl fun _ h => h
  | elseClause body ih =>
    have visited := ih (ready.enterBlock false) accepted
    exact ⟨Lays.block_scopes rfl visited,(Lays.block false rfl rfl visited).finish rfl rfl rfl fun _ h => h⟩
  | elseIf clause ih => exact ⟨(ih ready accepted).scopes,(ih ready accepted).lays⟩
  | ifClause negated condition body next ihBody ihNext =>
    obtain ⟨bodyAccepted,nextAccepted⟩ := Bool.and_eq_true_iff.mp accepted
    let inner : List DeferScope := ⟨0,false⟩ :: state.deferScopes
    let skip : Instruction := if negated then .jumpTrue 0 else .jumpFalse 0
    have skipSize : skip.size = 10 := by cases negated <;> rfl
    have skipTarget : ∀ target, skip.withTarget 0 target =
        if negated then .jumpTrue target else .jumpFalse target := by
      intro target
      cases negated <;> rfl
    let tested := ((condition.run state).emit skip).evalPop 1
    have conditioned := Lays.run targets condition (show state.size = state.size from rfl)
    have testedSize : tested.size = state.size + condition.size + 10 := by
      rw [← conditioned.size,← skipSize]
      exact (Lays.emit targets skip rfl).size
    have scopes_ : tested.deferScopes = state.deferScopes := by simp [tested]
    have readyTested : Ready targets tested := by
      have conditioned := ready.after conditioned (by simp)
      exact ⟨conditioned.depth,by rw [scopes_]; exact ready.block⟩
    have visited := ihBody (readyTested.enterBlock false) bodyAccepted
    have bodied := Lays.block false testedSize scopes_ visited
    have outer := Lays.block_scopes scopes_ visited
    let bodiedSize := state.size + condition.size + 10 + body.size inner + drainSize (headCount (body.scopes inner))
    have bodiedSize_ : (body.visit (tested.enterBlock false)).leaveBlock.size = bodiedSize := bodied.size.trans (by
      simp only [testedSize,bodiedSize,inner]
      omega)
    by_cases none_ : next.isNoNext = true
    · cases next with
      | noNext =>
        have patched := @Lays.patched _ _ _ _ (condition.run state) skip
          (body.visit (tested.enterBlock false)).leaveBlock.size (bodied.congr rfl rfl rfl rfl)
        refine ⟨outer,?_⟩
        refine (conditioned.trans patched).finish rfl rfl ?_ ?_
        · simp only [size,skipSize,isNoNext,if_true]
          omega
        · rintro code ⟨condition_,exit,block⟩
          rw [conditioned.size,bodiedSize_,skipTarget] at exit
          exact ⟨condition_,exit,block,fun other => by cases other⟩
      | _ => cases none_
    · let jumped := ((body.visit (tested.enterBlock false)).leaveBlock.emit (.jump 0)).paste
        (condition.run state).size ((body.visit (tested.enterBlock false)).leaveBlock.emit (.jump 0)).size
      have emittedSize : ((body.visit (tested.enterBlock false)).leaveBlock.emit (.jump 0)).size = bodiedSize + 10 := by
        rw [← bodiedSize_]
        exact (Lays.emit targets (.jump 0) rfl).size
      have jumpedSize : jumped.size = bodiedSize + 10 := by
        rw [← emittedSize]
        exact Code.size_paste _ _ _
      have jumpedReady : Ready targets jumped := by
        refine ⟨bodied.loops.length_eq.trans readyTested.depth,?_⟩
        rw [show jumped.deferScopes = _ from outer]
        apply List.ne_nil_of_length_pos
        simpa [inner] using List.length_pos_of_ne_nil ready.block
      have chained := ihNext jumpedReady nextAccepted
      have placed := chained.lays
      rw [show jumped.deferScopes = _ from outer,jumpedSize] at placed
      have crossed := @Lays.crossed _ _ _ _ _ (condition.run state) _ _ skip (.jump 0)
        ((body.visit (tested.enterBlock false)).leaveBlock.emit (.jump 0)).size (next.visit jumped).size
        (bodied.congr rfl rfl rfl rfl) (placed.congr rfl rfl rfl rfl)
      have visit_ : (ifClause negated condition body next).visit state = _ := if_neg none_
      refine ⟨?_,?_⟩
      · rw [visit_]
        exact chained.scopes.trans (by rw [show jumped.deferScopes = _ from outer,scopes])
      · rw [visit_]
        refine (conditioned.trans crossed).finish rfl rfl ?_ ?_
        · rw [skipSize,show (Instruction.jump 0).size = 10 from rfl]
          simp only [size,if_neg none_]
          omega
        · rintro code ⟨condition_,⟨exit,block⟩,jump,next_⟩
          rw [conditioned.size,emittedSize,skipTarget] at exit
          rw [bodiedSize_,placed.size,jumpedSize] at jump
          simp only [Placed,if_neg none_]
          exact ⟨condition_,exit,block,fun _ => ⟨jump,next_⟩⟩
  | defaultClause body rest ihBody ihRest =>
    obtain ⟨bodyAccepted,restAccepted⟩ := Bool.and_eq_true_iff.mp accepted
    have visited := ihBody (ready.enterBlock false) bodyAccepted
    have bodied := Lays.block false (show state.size = state.size from rfl) rfl visited
    let left := (body.visit (state.enterBlock false)).leaveBlock
    let jumped := (left.emit (.jump 0)).track (.atDepth state.tracker.currentDepth)
    have leftSize : left.size = _ := bodied.size.trans (Nat.add_assoc _ _ _).symm
    have outer : jumped.deferScopes = _ := Lays.block_scopes rfl visited
    have jumpedSize : jumped.size = left.size + 10 := (Lays.emit targets (.jump 0) rfl).size
    have chained := ihRest (ready.afterBlock (bodied.loops.length_eq.trans ready.depth) outer :
      Ready targets jumped) restAccepted
    have placed := chained.lays
    rw [outer,jumpedSize,leftSize] at placed
    have patched := @Lays.patched _ _ _ _ left (.jump 0) (rest.visit jumped).size
      (placed.congr rfl rfl rfl rfl)
    refine ⟨chained.scopes.trans (by rw [outer,scopes]),?_⟩
    refine (bodied.trans patched).finish rfl rfl ?_ ?_
    · simp only [size,Instruction.size]
      omega
    · rintro code ⟨block,jump,rest_⟩
      rw [placed.size,jumpedSize,leftSize] at jump
      exact ⟨block,jump,rest_⟩
  | caseClause test bind body rest ihBody ihRest =>
    obtain ⟨scopes_,lays⟩ := @visited_arm _ _ _ test bind _ _ (.track (.atDepth state.tracker.currentDepth))
      (fun _ => rfl) ready ihBody ihRest accepted
    exact ⟨scopes_,lays⟩
  | catchClause filter bind body rest ihBody ihRest =>
    cases filter with
    | some filter =>
      obtain ⟨scopes_,lays⟩ := @visited_arm _ _ _ filter bind _ _ id (fun _ => rfl) ready ihBody ihRest accepted
      exact ⟨scopes_,lays⟩
    | none =>
      obtain ⟨bodyAccepted,restAccepted⟩ := Bool.and_eq_true_iff.mp accepted
      have binding := Lays.run targets bind (show state.size = state.size from rfl)
      have boundReady := ready.after binding (by simp)
      have scopes_ : (bind.run state).deferScopes = state.deferScopes := by simp
      have visited := ihBody (boundReady.enterBlock false) bodyAccepted
      have bodied := binding.trans (Lays.block false binding.size scopes_ visited)
      let left := (body.visit ((bind.run state).enterBlock false)).leaveBlock
      let jumped := left.emit (.jump 0)
      have leftSize : left.size = _ := bodied.size
      have outer : jumped.deferScopes = _ := Lays.block_scopes scopes_ visited
      have jumpedSize : jumped.size = left.size + 10 := (Lays.emit targets (.jump 0) rfl).size
      have chained := ihRest (ready.afterBlock (bodied.loops.length_eq.trans ready.depth) outer :
        Ready targets jumped) restAccepted
      have placed := chained.lays
      rw [outer,jumpedSize,leftSize] at placed
      have patched := @Lays.patched _ _ _ _ left (.jump 0) (rest.visit jumped).size
        (placed.congr rfl rfl rfl rfl)
      refine ⟨chained.scopes.trans (by rw [outer,scopes]),?_⟩
      refine (bodied.trans patched).finish rfl rfl ?_ ?_
      · simp only [size,Instruction.size]
        omega
      · rintro code ⟨⟨bind_,block⟩,jump,rest_⟩
        rw [placed.size,jumpedSize,leftSize] at jump
        simp only [← Nat.add_assoc] at jump rest_
        exact ⟨bind_,block,jump,rest_⟩

end ShardScript.Emitter
