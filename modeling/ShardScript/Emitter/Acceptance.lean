import ShardScript.Emitter.StatementPlacement

/-! Bodies that the emitter accepts: it reports nothing, and the body stands in its own code. -/
namespace ShardScript.Emitter
open ByteCode

namespace EmitState

@[simp] theorem length_loops_run (emission : Emission) (state : EmitState) :
    (emission.run state).loops = state.loops := by rw [Emission.run_frame]

@[simp] theorem diagnostics_run (emission : Emission) (state : EmitState) :
    (emission.run state).diagnostics = state.diagnostics := by rw [Emission.run_frame]

@[simp] theorem loops_runOption (emission : Option Emission) (state : EmitState) :
    (state.runOption emission).loops = state.loops := by cases emission <;> simp [runOption]

@[simp] theorem diagnostics_runOption (emission : Option Emission) (state : EmitState) :
    (state.runOption emission).diagnostics = state.diagnostics := by cases emission <;> simp [runOption]

@[simp] theorem diagnostics_emitDrain (count : Nat) (state : EmitState) :
    (state.emitDrain count).diagnostics = state.diagnostics := by
  unfold emitDrain
  split <;> rfl

@[simp] theorem diagnostics_leaveBlock (state : EmitState) :
    state.leaveBlock.diagnostics = state.diagnostics := by
  simp only [leaveBlock,emitCurrentScopeDefers]
  split <;> simp

attribute [simp] leaveBlock_loops emitDrain_loops

@[simp] theorem loops_emit (instruction : Instruction) (state : EmitState) :
    (state.emit instruction).loops = state.loops := rfl

@[simp] theorem loops_track (update : EvalLayoutTracker → EvalLayoutTracker) (state : EmitState) :
    (state.track update).loops = state.loops := rfl

@[simp] theorem loops_evalPop (count : Nat) (state : EmitState) :
    (state.evalPop count).loops = state.loops := rfl

@[simp] theorem loops_paste (offset target : Nat) (state : EmitState) :
    (state.paste offset target).loops = state.loops := rfl

@[simp] theorem loops_enterBlock (isLoop : Bool) (state : EmitState) :
    (state.enterBlock isLoop).loops = state.loops := rfl

@[simp] theorem length_enterLoop (state : EmitState) :
    state.enterLoop.loops.length = state.loops.length + 1 := rfl

@[simp] theorem length_awaitLoopEnd (state : EmitState) :
    state.awaitLoopEnd.loops.length = state.loops.length := by simp [awaitLoopEnd,updateLoop]

@[simp] theorem length_awaitBlockEnd (state : EmitState) :
    state.awaitBlockEnd.loops.length = state.loops.length := by simp [awaitBlockEnd,updateLoop]

@[simp] theorem length_closeLoop (loopStart : Nat) (state : EmitState) :
    (state.closeLoop loopStart).loops.length = state.loops.length - 1 := by
  simp [closeLoop,leaveLoop,pasteAll]

@[simp] theorem length_closeSwitch (state : EmitState) :
    state.closeSwitch.loops.length = state.loops.length - 1 := by
  simp [closeSwitch,leaveLoop,pasteAll]

@[simp] theorem loops_emitDefer (body : Emission) (state : EmitState) :
    (state.emitDefer body).loops = state.loops := by simp [emitDefer]

@[simp] theorem diagnostics_emitDefer (body : Emission) (state : EmitState) :
    (state.emitDefer body).diagnostics = state.diagnostics := by
  simp [emitDefer,paste,track,emit]

end EmitState

variable {kind : StatementKind}

theorem Statement.length_loops (statement : Statement kind) (state : EmitState) :
    (statement.visit state).loops.length = state.loops.length := by
  induction statement generalizing state with
  | breakStatement =>
    simp only [visit]
    split <;> simp [EmitState.report,EmitState.emitDefersUntilLoop]
  | continueStatement =>
    simp only [visit]
    split <;> simp [EmitState.report]
  | returnStatement value => simp [visit,EmitState.emitAllDefers]
  | throwStatement exception => cases exception <;> simp [visit]
  | switchStatement scrutinee cases ih =>
    simp only [visit]
    split <;> simp [ih]
  | tryStatement body catches ihBody ihCatches =>
    simp only [visit]
    split <;> simp [ihBody,ihCatches]
  | deferStatement resource body =>
    simp only [visit]
    split <;> simp [EmitState.report,EmitState.updateDeferScope]
  | ifClause negated condition body next ihBody ihNext =>
    simp only [visit]
    split <;> simp [ihBody,ihNext]
  | catchClause filter bind body rest ihBody ihRest => cases filter <;> simp [visit,ihBody,ihRest]
  | _ => simp_all [visit]

theorem Statement.loops_isEmpty (statement : Statement kind) (state : EmitState) :
    (statement.visit state).loops.isEmpty = state.loops.isEmpty := by
  have length := statement.length_loops state
  rw [Bool.eq_iff_iff,List.isEmpty_iff_length_eq_zero,List.isEmpty_iff_length_eq_zero,length]

namespace EmitState

@[simp] theorem diagnostics_emit (instruction : Instruction) (state : EmitState) :
    (state.emit instruction).diagnostics = state.diagnostics := rfl

@[simp] theorem diagnostics_track (update : EvalLayoutTracker → EvalLayoutTracker) (state : EmitState) :
    (state.track update).diagnostics = state.diagnostics := rfl

@[simp] theorem diagnostics_evalPop (count : Nat) (state : EmitState) :
    (state.evalPop count).diagnostics = state.diagnostics := rfl

@[simp] theorem diagnostics_paste (offset target : Nat) (state : EmitState) :
    (state.paste offset target).diagnostics = state.diagnostics := rfl

@[simp] theorem diagnostics_enterBlock (isLoop : Bool) (state : EmitState) :
    (state.enterBlock isLoop).diagnostics = state.diagnostics := rfl

@[simp] theorem diagnostics_enterLoop (state : EmitState) : state.enterLoop.diagnostics = state.diagnostics := rfl

@[simp] theorem diagnostics_awaitLoopEnd (state : EmitState) :
    state.awaitLoopEnd.diagnostics = state.diagnostics := rfl

@[simp] theorem diagnostics_awaitBlockEnd (state : EmitState) :
    state.awaitBlockEnd.diagnostics = state.diagnostics := rfl

@[simp] theorem diagnostics_closeLoop (loopStart : Nat) (state : EmitState) :
    (state.closeLoop loopStart).diagnostics = state.diagnostics := rfl

@[simp] theorem diagnostics_closeSwitch (state : EmitState) :
    state.closeSwitch.diagnostics = state.diagnostics := rfl

@[simp] theorem isEmpty_enterLoop (state : EmitState) : state.enterLoop.loops.isEmpty = false := rfl

@[simp] theorem isEmpty_awaitLoopEnd (state : EmitState) :
    state.awaitLoopEnd.loops.isEmpty = state.loops.isEmpty := by
  cases loops : state.loops <;> simp [awaitLoopEnd,updateLoop,loops]

end EmitState

theorem Statement.accepted_of_visit (statement : Statement kind) {state : EmitState}
    (h : (statement.visit state).diagnostics = []) :
    state.diagnostics = [] ∧ statement.accepted (!state.loops.isEmpty) = true := by
  induction statement generalizing state with
  | simple emission => simpa [visit,accepted] using h
  | returnStatement value => simpa [visit,accepted,EmitState.emitAllDefers] using h
  | throwStatement exception => cases exception <;> simpa [visit,accepted] using h
  | breakStatement =>
    simp only [visit] at h
    split at h
    · simp [EmitState.report] at h
    · simp_all [accepted,EmitState.emitDefersUntilLoop]
  | continueStatement =>
    simp only [visit] at h
    split at h
    · simp [EmitState.report] at h
    · simp_all [accepted]
  | whileStatement condition body ih | untilStatement condition body ih
  | forStatement initializer condition afterRepeat body ih | enumeration forEach start moveNext current body ih =>
    simp only [visit,EmitState.diagnostics_closeLoop,EmitState.diagnostics_leaveBlock,
      EmitState.diagnostics_run] at h
    have := ih h
    simpa [accepted] using this
  | conditional first ih => exact ih h
  | switchStatement scrutinee cases ih =>
    simp only [visit] at h
    split at h
    · cases cases with
      | noCase => exact ⟨h,rfl⟩
      | _ => contradiction
    · have := ih h
      simpa [accepted] using this
  | tryStatement body catches ihBody ihCatches =>
    simp only [visit] at h
    split at h
    · have bodied := ihBody (by simpa using h)
      cases catches with
      | noCatch => simpa [accepted] using bodied
      | catchClause => contradiction
    · have caught := ihCatches (by simpa using h)
      have bodied := ihBody (by simpa using caught.1)
      have same := body.loops_isEmpty ((state.emit (.enterTry 0)).enterBlock false)
      simp_all [accepted]
  | deferStatement resource body =>
    simp only [visit] at h
    split at h
    · simp [EmitState.report] at h
    · simpa [accepted,EmitState.updateDeferScope] using h
  | empty | noNext | noCase => exact ⟨h,rfl⟩
  | noCatch => simpa [visit,accepted] using h
  | cons first rest ihFirst ihRest =>
    have right := ihRest h
    have left := ihFirst right.1
    rw [first.loops_isEmpty] at right
    exact ⟨left.1,by simp [accepted,left.2,right.2]⟩
  | ifClause negated condition body next ihBody ihNext =>
    simp only [visit] at h
    split at h
    · have bodied := ihBody (by simpa using h)
      cases next with
      | noNext => simpa [accepted] using bodied
      | _ => contradiction
    · have chained := ihNext (by simpa using h)
      have bodied := ihBody (by simpa using chained.1)
      simp_all [accepted,Statement.loops_isEmpty]
  | elseClause body ih =>
    have bodied := ih (show (body.visit (state.enterBlock false)).diagnostics = [] by simpa [visit] using h)
    exact bodied
  | elseIf clause ih => exact ih h
  | defaultClause body rest ihBody ihRest =>
    have rested := ihRest (by simpa [visit] using h)
    have bodied := ihBody (by simpa using rested.1)
    simp only [EmitState.loops_track,EmitState.loops_emit,EmitState.leaveBlock_loops,loops_isEmpty,
      EmitState.loops_enterBlock] at rested bodied
    exact ⟨by simpa using bodied.1,Bool.and_eq_true_iff.mpr ⟨bodied.2,rested.2⟩⟩
  | caseClause test bind body rest ihBody ihRest =>
    have rested := ihRest (by simpa [visit] using h)
    have bodied := ihBody (by simpa using rested.1)
    simp only [EmitState.loops_track,EmitState.loops_emit,EmitState.leaveBlock_loops,loops_isEmpty,
      EmitState.loops_enterBlock,EmitState.loops_paste,EmitState.length_loops_run,
      EmitState.loops_evalPop] at rested bodied
    exact ⟨by simpa using bodied.1,Bool.and_eq_true_iff.mpr ⟨bodied.2,rested.2⟩⟩
  | catchClause filter bind body rest ihBody ihRest =>
    cases filter <;>
    · have rested := ihRest (by simpa [visit] using h)
      have bodied := ihBody (by simpa using rested.1)
      simp only [EmitState.loops_emit,EmitState.leaveBlock_loops,loops_isEmpty,EmitState.loops_enterBlock,
        EmitState.loops_paste,EmitState.length_loops_run,EmitState.loops_evalPop] at rested bodied
      exact ⟨by simpa using bodied.1,Bool.and_eq_true_iff.mpr ⟨bodied.2,rested.2⟩⟩

def Accepts (body : Statement .block) : Prop := (visitBody body).diagnostics = []

instance (body : Statement .block) : Decidable (Accepts body) :=
  inferInstanceAs (Decidable ((visitBody body).diagnostics = []))

def bodyScopes : List DeferScope := [⟨0,false⟩]

def bodyDrain (body : Statement .block) : Nat := body.size bodyScopes

def bodyReturn (body : Statement .block) : Nat :=
  bodyDrain body + drainSize (headCount (body.scopes bodyScopes))

variable {body : Statement .block}

theorem visitBody_lays (accepts : Accepts body) :
    Lays [] (EmitState.enterBlock false {}) (visitBody body) (bodyReturn body + 2) fun code =>
      (body.Placed code none bodyScopes 0 ∧
        DrainPlaced code (headCount (body.scopes bodyScopes)) (bodyDrain body)) ∧
        code.fetch (bodyReturn body) = some .return := by
  have accepted : body.accepted (!([] : List Targets).isEmpty) = true :=
    (body.accepted_of_visit (show (body.visit (EmitState.enterBlock false {})).diagnostics = [] by
      simpa [Accepts,visitBody] using accepts)).2
  have visited := @Statement.visited _ body [] _ (⟨rfl,by simp⟩ :
    Ready [] (EmitState.enterBlock false {})) accepted
  have bodied := Lays.block false (show EmitState.size {} = 0 from rfl) rfl visited
  have returned := bodied.trans (Lays.emit [] .return bodied.size)
  simp only [Nat.zero_add,show EmitState.size {} = 0 from rfl] at returned
  exact returned.congr rfl rfl rfl rfl

theorem visitBody_placed (accepts : Accepts body) :
    (body.Placed (visitBody body).code none bodyScopes 0 ∧
      DrainPlaced (visitBody body).code (headCount (body.scopes bodyScopes)) (bodyDrain body)) ∧
      (visitBody body).code.fetch (bodyReturn body) = some .return := by
  have lays := visitBody_lays accepts
  have nothing : ∀ loops : List LoopScope, pendingOf loops [] = [] := fun loops => by cases loops <;> rfl
  refine (@Lays.backward _ _ _ _ _ lays (visitBody body).code [] (fun _ _ => rfl) ?_).1
  rw [nothing]
  exact Completes.self _

theorem size_visitBody (accepts : Accepts body) :
    (visitBody body).code.size = bodyReturn body + 2 := by
  have size := (visitBody_lays accepts).size
  change _ = 0 + _ at size
  rwa [Nat.zero_add] at size

end ShardScript.Emitter
