import ShardScript.Emitter.Acceptance

/-! The visitors of switch statements and switch expressions: a loop over the clauses, in which
at most one failing test waits for the clause behind it, and all the ends wait for the last one. -/
namespace ShardScript.Emitter
open ByteCode

structure OperatorSymbol where
  address : Address
  isInterfaceMember : Bool
  evalStackArguments : Nat
  returns : Option Nat

def emitMethodCall (method : OperatorSymbol) : Emission :=
  .all [if method.isInterfaceMember then .op (.callInterface method.address)
      else .op (.callMethodSymbol method.address),
    .evalPop method.evalStackArguments,
    match method.returns with
      | some payload => .evalPush payload
      | none => .skip]

inductive Pattern where
  | isPattern (targetType : Option Address) (symbol : Option UInt16)
  | expression (emission : Emission) (discards : Bool)

structure SwitchCaseClause where
  pattern : Option Pattern
  body : Option (Statement .block)
  equalityOperator : Option OperatorSymbol

structure SwitchStatement where
  expression : Option Emission
  clauses : List (Option SwitchCaseClause)

structure SwitchArm where
  pattern : Option Pattern
  expression : Option Emission

structure SwitchExpression where
  expression : Option Emission
  arms : List (Option SwitchArm)

structure SwitchSlot where
  switchSlot : UInt16
  slotPayload : Nat
  booleanPayload : Nat

inductive Section (Body : Type) where
  | skipped
  | reported (message : String)
  | untested (body : Body)
  | tested (test bind : Emission) (body : Body)

namespace SwitchSlot

variable (slot : SwitchSlot)

def store (scrutinee : Emission) : Emission :=
  .all [scrutinee,.op (.storeLocal slot.switchSlot),.evalPop 1]

def load : Emission := .all [.op (.loadLocal slot.switchSlot),.evalPush slot.slotPayload]

def typeTest (targetType : Address) : Emission :=
  .all [slot.load,.op (.isInstance targetType),.evalPop 1,.evalPush slot.booleanPayload]

def typeBind (symbol : Option UInt16) : Emission :=
  .all [slot.load,
    match symbol with
      | some patternSlot => .op (.storeLocal patternSlot)
      | none => .op .pop,
    .evalPop 1]

def valueTest (pattern : Emission) : Option OperatorSymbol → Emission
  | some equalityOperator =>
      .all [pattern,.op (.loadLocal slot.switchSlot),emitMethodCall equalityOperator]
  | none => .all [slot.load,pattern,.op .compareEqual,.evalPop 2,.evalPush slot.booleanPayload]

def clauseSection : Option SwitchCaseClause → Section (Statement .block)
  | none | some ⟨_,none,_⟩ | some ⟨some (.isPattern none _),_,_⟩ => .skipped
  | some ⟨none,some body,_⟩ => .untested body
  | some ⟨some (.isPattern (some targetType) symbol),some body,_⟩ =>
      .tested (slot.typeTest targetType) (slot.typeBind symbol) body
  | some ⟨some (.expression pattern _),some body,equalityOperator⟩ =>
      .tested (slot.valueTest pattern equalityOperator) .skip body

def armSection : Option SwitchArm → Section Emission
  | none | some ⟨none,_⟩ | some ⟨_,none⟩ | some ⟨some (.isPattern none _),_⟩ => .skipped
  | some ⟨some (.expression _ true),some expression⟩ => .untested expression
  | some ⟨some (.isPattern (some targetType) symbol),some expression⟩ =>
      .tested (slot.typeTest targetType) (slot.typeBind symbol) expression
  | some ⟨some (.expression _ false),some _⟩ =>
      .reported "Only 'is Type name' and '_' patterns are supported in switch expressions"

end SwitchSlot

structure Chaining where
  state : EmitState
  pendingTestFailBacktrack : Option Nat := none
  endBacktracks : List Nat := []

section Chaining

variable {Body : Type} (visitBody : Body → EmitState → EmitState) (clauseBaseDepth : Nat)

namespace Chaining

def resolve (chaining : Chaining) : EmitState :=
  (match chaining.pendingTestFailBacktrack with
    | some pending => chaining.state.paste pending chaining.state.size
    | none => chaining.state).track (.atDepth clauseBaseDepth)

def next (chaining : Chaining) (clause : Section Body) : Chaining :=
  let state := chaining.resolve clauseBaseDepth
  match clause with
  | .skipped => { chaining with state := state, pendingTestFailBacktrack := none }
  | .reported message =>
      { chaining with state := state.report message, pendingTestFailBacktrack := none }
  | .untested body =>
      let bodied := visitBody body state
      ⟨bodied.emit (.jump 0),none,chaining.endBacktracks ++ [bodied.size]⟩
  | .tested test bind body =>
      let conditioned := test.run state
      let bodied := visitBody body (bind.run ((conditioned.emit (.jumpFalse 0)).evalPop 1))
      ⟨bodied.emit (.jump 0),some conditioned.size,chaining.endBacktracks ++ [bodied.size]⟩

def finish (tail : Emission) (chaining : Chaining) : EmitState :=
  let started := chaining.state.track (.atDepth clauseBaseDepth)
  let tailed := tail.run started
  (match chaining.pendingTestFailBacktrack with
    | some pending => tailed.paste pending started.size
    | none => tailed).pasteAll chaining.endBacktracks tailed.size

end Chaining

/-- The clauses one in the other: every jump is patched as soon as its target is known. -/
@[grind] def chain (tail : Emission) : List (Section Body) → EmitState → EmitState
  | [],state => tail.run state
  | .skipped :: rest,state => chain tail rest state
  | .reported message :: rest,state => chain tail rest (state.report message)
  | .untested body :: rest,state =>
      let bodied := visitBody body state
      let rested := chain tail rest ((bodied.emit (.jump 0)).track (.atDepth clauseBaseDepth))
      rested.paste bodied.size rested.size
  | .tested test bind body :: rest,state =>
      let conditioned := test.run state
      let bodied := visitBody body (bind.run ((conditioned.emit (.jumpFalse 0)).evalPop 1))
      let jumped := (bodied.emit (.jump 0)).track (.atDepth clauseBaseDepth)
      let rested := chain tail rest (jumped.paste conditioned.size jumped.size)
      rested.paste bodied.size rested.size

end Chaining

def SwitchSlot.nullLoad : Emission :=
  .all [.op .loadConstNull,.evalPush EvalLayoutTracker.referencePayload]

def visitStatementsBlock (body : Statement .block) (state : EmitState) : EmitState :=
  (body.visit (state.enterBlock false)).leaveBlock

def visitSwitchStatement (slot : SwitchSlot) (node : SwitchStatement) (state : EmitState) : EmitState :=
  match node.expression with
  | none => state
  | some expression =>
    if node.clauses.isEmpty then state
    else
      let stored := (slot.store expression).run state
      let clauseBaseDepth := stored.tracker.currentDepth
      let chained := (node.clauses.map slot.clauseSection).foldl
        (Chaining.next visitStatementsBlock clauseBaseDepth) { state := stored.enterLoop }
      (chained.finish clauseBaseDepth .skip).closeSwitch

def visitSwitchExpression (slot : SwitchSlot) (node : SwitchExpression) (state : EmitState) : EmitState :=
  match node.expression with
  | none => SwitchSlot.nullLoad.run state
  | some expression =>
    if node.arms.isEmpty then SwitchSlot.nullLoad.run state
    else
      let stored := (slot.store expression).run state
      let armBaseDepth := stored.tracker.currentDepth
      let chained := (node.arms.map slot.armSection).foldl
        (Chaining.next Emission.run armBaseDepth) { state := stored }
      chained.finish armBaseDepth SwitchSlot.nullLoad

theorem paste_append {code : Code} {offset : Nat} (target : Nat) (right : Code) (lt : offset < code.size) :
    (code ++ right).paste offset target = code.paste offset target ++ right := by
  induction code generalizing offset with
  | nil => exact absurd lt (Nat.not_lt_zero offset)
  | cons first code ih =>
    cases offset with
    | zero => rfl
    | succ offset =>
      rw [List.cons_append,Code.paste,Code.paste]
      by_cases inside : first.size ≤ offset + 1
      · rw [if_pos inside,if_pos inside,ih (by rw [Code.size_cons] at lt; omega),List.cons_append]
      · rw [if_neg inside,if_neg inside,List.cons_append]

namespace EmitState

variable {state : EmitState} {offset : Nat}

theorem emit_paste (instruction : Instruction) (target : Nat) (lt : offset < state.size) :
    (state.paste offset target).emit instruction = (state.emit instruction).paste offset target :=
  congrArg (fun code => { state with code := code }) (paste_append target [instruction] lt).symm

@[simp] theorem size_paste (state : EmitState) (offset target : Nat) :
    (state.paste offset target).size = state.size := Code.size_paste _ _ _

theorem paste_comm {other : Nat} (ne : offset ≠ other) (target next : Nat) :
    (state.paste offset target).paste other next = (state.paste other next).paste offset target :=
  congrArg (fun code => { state with code := code }) (Code.paste_comm state.code ne target next)

theorem paste_comm_same (other target : Nat) :
    (state.paste offset target).paste other target = (state.paste other target).paste offset target := by
  by_cases same : offset = other
  · rw [same]
  · exact paste_comm same target target

theorem pasteAll_paste (offsets : List Nat) (state : EmitState) (offset target : Nat) :
    (state.paste offset target).pasteAll offsets target = (state.pasteAll offsets target).paste offset target := by
  induction offsets generalizing state with
  | nil => rfl
  | cons first offsets ih =>
    change ((state.paste offset target).paste first target).pasteAll offsets target = _
    rw [paste_comm_same,ih]
    rfl

theorem pasteAll_append (left right : List Nat) (state : EmitState) (target : Nat) :
    state.pasteAll (left ++ right) target = (state.pasteAll left target).pasteAll right target :=
  congrArg (fun code => { state with code := code }) List.foldl_append

end EmitState

@[simp] theorem EmitState.tracker_paste (state : EmitState) (offset target : Nat) :
    (state.paste offset target).tracker = state.tracker := rfl

namespace Emission

theorem size_le_run (emission : Emission) (state : EmitState) : state.size ≤ (emission.run state).size := by
  rw [EmitState.size,EmitState.size,size_run]
  exact Nat.le_add_right _ _

def armed (condition : Emission) (state : EmitState) : EmitState :=
  ((condition.run state).emit (.jumpFalse 0)).evalPop 1

def jumped (arm : Emission) (depth : Nat) (state : EmitState) : EmitState :=
  ((arm.run state).emit (.jump 0)).track (.atDepth depth)

theorem run_branch (condition whenTrue whenFalse : Emission) (state : EmitState) :
    (branch condition whenTrue whenFalse).run state =
      let left := condition.armed state
      let right := whenTrue.jumped left.tracker.currentDepth left
      ((whenFalse.run right).paste (condition.run state).size right.size).paste (whenTrue.run left).size
        (whenFalse.run right).size := rfl

theorem run_always (arm rest : Emission) (state : EmitState) :
    (always arm rest).run state =
      let right := arm.jumped state.tracker.currentDepth state
      (rest.run right).paste (arm.run state).size (rest.run right).size := rfl

theorem size_lt_armed (condition : Emission) (state : EmitState) :
    (condition.run state).size < (condition.armed state).size := by
  simp [armed,EmitState.size,EmitState.evalPop,EmitState.track,EmitState.emit,Instruction.size]

theorem size_lt_jumped (arm : Emission) (depth : Nat) (state : EmitState) :
    (arm.run state).size < (arm.jumped depth state).size := by
  simp [jumped,EmitState.size,EmitState.track,EmitState.emit,Instruction.size]

theorem run_paste (emission : Emission) {state : EmitState} {offset : Nat} (target : Nat)
    (lt : offset < state.size) :
    emission.run (state.paste offset target) = (emission.run state).paste offset target := by
  induction emission generalizing state with
  | skip | evalPush | evalPop => rfl
  | op instruction => exact EmitState.emit_paste instruction target lt
  | seq first second ihFirst ihSecond =>
    rw [run,ihFirst lt,ihSecond (Nat.lt_of_lt_of_le lt (first.size_le_run state)),run]
  | branch condition whenTrue whenFalse ihCondition ihTrue ihFalse =>
    let left := condition.armed state
    let right := whenTrue.jumped left.tracker.currentDepth left
    have conditionLt : offset < (condition.run state).size := Nat.lt_of_lt_of_le lt (condition.size_le_run state)
    have leftLt : offset < left.size := conditionLt.trans (condition.size_lt_armed state)
    have trueLt : offset < (whenTrue.run left).size := Nat.lt_of_lt_of_le leftLt (whenTrue.size_le_run left)
    have rightLt : offset < right.size := trueLt.trans (whenTrue.size_lt_jumped _ left)
    have left_ : condition.armed (state.paste offset target) = left.paste offset target := by
      rw [armed,ihCondition lt,EmitState.emit_paste _ target conditionLt]
      rfl
    have right_ : whenTrue.jumped left.tracker.currentDepth (left.paste offset target) =
        right.paste offset target := by
      rw [jumped,ihTrue leftLt,EmitState.emit_paste _ target trueLt]
      rfl
    rw [run_branch,run_branch,left_]
    dsimp only
    rw [EmitState.tracker_paste,right_,ihFalse rightLt,ihCondition lt,ihTrue leftLt]
    simp only [EmitState.size_paste]
    rw [EmitState.paste_comm (Nat.ne_of_lt conditionLt),EmitState.paste_comm (Nat.ne_of_lt trueLt)]
  | always arm rest ihArm ihRest =>
    let right := arm.jumped state.tracker.currentDepth state
    have armLt : offset < (arm.run state).size := Nat.lt_of_lt_of_le lt (arm.size_le_run state)
    have right_ : arm.jumped state.tracker.currentDepth (state.paste offset target) =
        right.paste offset target := by
      rw [jumped,ihArm lt,EmitState.emit_paste _ target armLt]
      rfl
    rw [run_always,run_always]
    dsimp only
    rw [EmitState.tracker_paste,right_,ihRest (armLt.trans (arm.size_lt_jumped _ state)),ihArm lt]
    simp only [EmitState.size_paste]
    rw [EmitState.paste_comm (Nat.ne_of_lt armLt)]

end Emission

namespace Chaining

variable {Body : Type} {visitBody : Body → EmitState → EmitState} {tail : Emission} {depth : Nat}

/-- A pending test is inside the code, unless nothing is emitted behind the last clause. -/
def Inside (tail : Emission) (chaining : Chaining) : Prop :=
  tail = .skip ∨ ∀ pending ∈ chaining.pendingTestFailBacktrack, pending < chaining.state.size

theorem Inside.next (grows : tail = .skip ∨ ∀ body state, state.size ≤ (visitBody body state).size)
    (chaining : Chaining) (clause : Section Body) : Inside tail (chaining.next visitBody depth clause) := by
  apply grows.imp_right
  intro grows pending member
  cases clause with
  | skipped | reported | untested => cases member
  | tested test bind body =>
    obtain rfl := Option.mem_some_iff.mp member
    let state := chaining.resolve depth
    let bound := bind.run (test.armed state)
    calc (test.run state).size
      _ < (test.armed state).size := test.size_lt_armed state
      _ ≤ bound.size := bind.size_le_run _
      _ ≤ (visitBody body bound).size := grows body bound
      _ ≤ ((visitBody body bound).emit (.jump 0)).size := by
        simp [EmitState.size,EmitState.emit]

theorem finish_foldl (grows : tail = .skip ∨ ∀ body state, state.size ≤ (visitBody body state).size)
    (sections : List (Section Body)) {chaining : Chaining} (inside : chaining.Inside tail) :
    let nested := chain visitBody depth tail sections (chaining.resolve depth)
    (sections.foldl (next visitBody depth) chaining).finish depth tail =
      nested.pasteAll chaining.endBacktracks nested.size := by
  induction sections generalizing chaining with
  | nil =>
    obtain ⟨state,pending,ends⟩ := chaining
    cases pending with
    | none => rfl
    | some pending =>
      have patched : tail.run ((state.track (.atDepth depth)).paste pending state.size) =
          (tail.run (state.track (.atDepth depth))).paste pending state.size := by
        rcases inside with rfl | inside
        · rfl
        · exact tail.run_paste state.size (inside pending rfl)
      change EmitState.pasteAll ends _ (EmitState.paste pending state.size _) = EmitState.pasteAll ends
        (tail.run ((state.track (.atDepth depth)).paste pending state.size)).size
        (tail.run ((state.track (.atDepth depth)).paste pending state.size))
      rw [patched,EmitState.size_paste]
      rfl
  | cons clause sections ih =>
    rw [List.foldl_cons,ih (Inside.next grows chaining clause)]
    cases clause with
    | skipped | reported => rfl
    | untested | tested =>
      simp only [chain,next,EmitState.pasteAll_append,EmitState.size_paste,EmitState.pasteAll_paste]
      rfl

end Chaining

theorem EmitState.track_atDepth {state : EmitState} {depth : Nat} (same : state.tracker.currentDepth = depth) :
    state.track (.atDepth depth) = state := by
  subst same
  rfl

namespace Section

variable {Body : Type}

def arm : Section Body → Option (Emission × Body)
  | .untested body => some (.skip,body)
  | .tested _ bind body => some (bind,body)
  | .skipped | .reported _ => none

def isReported : Section Body → Bool
  | .reported _ => true
  | _ => false

def Balanced : Section Body → Prop
  | .tested test _ _ => ∀ state, (test.armed state).tracker.currentDepth = state.tracker.currentDepth
  | _ => True

def cases : List (Section (Statement .block)) → Statement .cases
  | [] => .noCase
  | .skipped :: rest | .reported _ :: rest => cases rest
  | .untested body :: rest => .defaultClause body (cases rest)
  | .tested test bind body :: rest => .caseClause test bind body (cases rest)

def arms (tail : Emission) : List (Section Emission) → Emission
  | [] => tail
  | .skipped :: rest | .reported _ :: rest => arms tail rest
  | .untested arm :: rest => .always arm (arms tail rest)
  | .tested test bind arm :: rest => .branch test (.seq bind arm) (arms tail rest)

theorem chain_cases (sections : List (Section (Statement .block))) {state : EmitState} {depth : Nat}
    (silent : ∀ clause ∈ sections, clause.isReported = false) (same : state.tracker.currentDepth = depth) :
    chain visitStatementsBlock depth .skip sections state = (cases sections).visit state ∧
      ((cases sections).visit state).tracker.currentDepth = depth := by
  induction sections generalizing state with
  | nil => exact ⟨rfl,same⟩
  | cons clause sections ih =>
    obtain ⟨first,rest⟩ := List.forall_mem_cons.mp silent
    cases clause with
    | reported => cases first
    | skipped => exact ih rest same
    | untested body =>
      subst same
      let bodied := visitStatementsBlock body state
      obtain ⟨nested,after⟩ := @ih ((bodied.emit (.jump 0)).track (.atDepth state.tracker.currentDepth)) rest rfl
      refine ⟨?_,after⟩
      rw [chain,nested]
      rfl
    | tested test bind body =>
      subst same
      let bodied := visitStatementsBlock body (bind.run (test.armed state))
      let jumped := (bodied.emit (.jump 0)).track (.atDepth state.tracker.currentDepth)
      obtain ⟨nested,after⟩ := @ih (jumped.paste (test.run state).size jumped.size) rest rfl
      refine ⟨?_,after⟩
      rw [chain]
      exact congrArg (fun rested => EmitState.paste bodied.size rested.size rested) nested

theorem chain_arms (tail : Emission) (sections : List (Section Emission)) {state : EmitState} {depth : Nat}
    (silent : ∀ clause ∈ sections, clause.isReported = false) (balanced : ∀ clause ∈ sections, clause.Balanced)
    (same : state.tracker.currentDepth = depth) :
    chain Emission.run depth tail sections state = (arms tail sections).run state := by
  induction sections generalizing state with
  | nil => rfl
  | cons clause sections ih =>
    obtain ⟨first,rest⟩ := List.forall_mem_cons.mp silent
    obtain ⟨level,levels⟩ := List.forall_mem_cons.mp balanced
    cases clause with
    | reported => cases first
    | skipped => exact ih rest levels same
    | untested arm =>
      subst same
      exact congrArg (fun rested => EmitState.paste (arm.run state).size rested.size rested)
        (@ih (arm.jumped state.tracker.currentDepth state) rest levels rfl)
    | tested test bind arm =>
      subst same
      let armed := test.armed state
      let jumped := (Emission.seq bind arm).jumped state.tracker.currentDepth armed
      have inside : (test.run state).size < jumped.size := calc (test.run state).size
        _ < armed.size := test.size_lt_armed state
        _ ≤ ((Emission.seq bind arm).run armed).size := Emission.size_le_run _ armed
        _ < jumped.size := Emission.size_lt_jumped _ _ armed
      have nested := @ih (jumped.paste (test.run state).size jumped.size) rest levels rfl
      rw [(arms tail sections).run_paste _ inside] at nested
      rw [arms,Emission.run_branch]
      dsimp only
      rw [level state,← EmitState.size_paste ((arms tail sections).run jumped) (test.run state).size jumped.size]
      exact congrArg (fun rested => EmitState.paste ((Emission.seq bind arm).run armed).size rested.size rested) nested

theorem length_diagnostics (tail : Emission) (depth : Nat) (sections : List (Section Emission))
    (state : EmitState) : (chain Emission.run depth tail sections state).diagnostics.length =
      state.diagnostics.length + sections.countP isReported := by
  induction sections generalizing state with
  | nil => exact congrArg List.length (EmitState.diagnostics_run tail state)
  | cons clause sections ih =>
    cases clause with
    | skipped => exact ih state
    | reported message =>
      rw [chain,ih,List.countP_cons_of_pos (by rfl)]
      simp only [EmitState.report,List.length_append,List.length_singleton]
      omega
    | untested arm =>
      rw [List.countP_cons_of_neg (by simp [isReported]),chain]
      exact (ih _).trans (congrArg (List.length · + _) (EmitState.diagnostics_run arm state))
    | tested test bind arm =>
      rw [List.countP_cons_of_neg (by simp [isReported]),chain]
      have same : (arm.run (bind.run (test.armed state))).diagnostics = state.diagnostics := by
        rw [EmitState.diagnostics_run,EmitState.diagnostics_run]
        exact EmitState.diagnostics_run test state
      exact (ih _).trans (congrArg (List.length · + _) same)

end Section

theorem Chaining.finish_start {Body : Type} {visitBody : Body → EmitState → EmitState} {tail : Emission}
    (grows : tail = .skip ∨ ∀ body state, state.size ≤ (visitBody body state).size)
    (sections : List (Section Body)) (state : EmitState) :
    (sections.foldl (next visitBody state.tracker.currentDepth) { state := state }).finish
      state.tracker.currentDepth tail = chain visitBody state.tracker.currentDepth tail sections state :=
  finish_foldl grows sections (Or.inr fun _ member => nomatch member)

theorem Statement.accepted_inside {kind : StatementKind} (statement : Statement kind) :
    statement.accepted true = true := by
  induction statement with
  | catchClause filter => simp_all [accepted]
  | _ => simp_all [accepted]

namespace SwitchSlot

variable (slot : SwitchSlot)

theorem clauseSection_silent (clause : Option SwitchCaseClause) :
    (slot.clauseSection clause).isReported = false := by
  unfold clauseSection
  split <;> rfl

theorem armSection_balanced (arm : Option SwitchArm) : (slot.armSection arm).Balanced := by
  unfold armSection
  split
  any_goals trivial
  intro state
  simp [Emission.armed,typeTest,load,Emission.all,Emission.run,EmitState.evalPop,EmitState.evalPush,
    EmitState.track,EmitState.emit,EvalLayoutTracker.evalPop,EvalLayoutTracker.evalPush]

variable {expression : Emission}

theorem visitSwitchStatement_eq {node : SwitchStatement}
    (found : node.expression = some expression) (nonempty : node.clauses ≠ []) (state : EmitState) :
    let stored := (slot.store expression).run state
    visitSwitchStatement slot node state = (((Section.cases (node.clauses.map slot.clauseSection)).visit
      stored.enterLoop).track (.atDepth stored.tracker.currentDepth)).closeSwitch := by
  intro stored
  have silent : ∀ clause ∈ node.clauses.map slot.clauseSection, clause.isReported = false := by
    intro clause member
    obtain ⟨clause,_,rfl⟩ := List.mem_map.mp member
    exact slot.clauseSection_silent clause
  obtain ⟨nested,after⟩ := @Section.chain_cases _ stored.enterLoop stored.tracker.currentDepth silent rfl
  rw [EmitState.track_atDepth after,← nested,
    show stored.tracker.currentDepth = stored.enterLoop.tracker.currentDepth from rfl,
    ← Chaining.finish_start (Or.inl rfl) (node.clauses.map slot.clauseSection) stored.enterLoop]
  unfold visitSwitchStatement
  rw [found]
  exact if_neg (by simpa using nonempty)

theorem visitSwitchExpression_eq {node : SwitchExpression}
    (found : node.expression = some expression) (nonempty : node.arms ≠ [])
    (silent : ∀ arm ∈ node.arms, (slot.armSection arm).isReported = false) (state : EmitState) :
    visitSwitchExpression slot node state =
      (Emission.seq (slot.store expression) (Section.arms nullLoad (node.arms.map slot.armSection))).run state := by
  have balanced : ∀ arm ∈ node.arms.map slot.armSection, arm.Balanced := by
    intro arm member
    obtain ⟨arm,_,rfl⟩ := List.mem_map.mp member
    exact slot.armSection_balanced arm
  have silent : ∀ arm ∈ node.arms.map slot.armSection, arm.isReported = false := by
    simpa using silent
  rw [Emission.run,← @Section.chain_arms nullLoad _ ((slot.store expression).run state) _ silent balanced rfl,
    ← Chaining.finish_start (Or.inr Emission.size_le_run)]
  unfold visitSwitchExpression
  rw [found]
  exact if_neg (by simpa using nonempty)

theorem visitSwitchExpression_silent {node : SwitchExpression}
    (found : node.expression = some expression) {state : EmitState}
    (accepted : (visitSwitchExpression slot node state).diagnostics = state.diagnostics) :
    ∀ arm ∈ node.arms, (slot.armSection arm).isReported = false := by
  by_cases empty : node.arms = []
  · rw [empty]
    exact List.forall_mem_nil _
  have counted := Section.length_diagnostics nullLoad ((slot.store expression).run state).tracker.currentDepth
    (node.arms.map slot.armSection) ((slot.store expression).run state)
  rw [← Chaining.finish_start (Or.inr Emission.size_le_run)] at counted
  unfold visitSwitchExpression at accepted
  rw [found] at accepted
  rw [show _ = state.diagnostics from (congrArg EmitState.diagnostics (if_neg (by simpa using empty))).symm.trans
    accepted,EmitState.diagnostics_run] at counted
  have none_ : (node.arms.map slot.armSection).countP Section.isReported = 0 := by omega
  intro arm member
  have silent := List.countP_eq_zero.mp none_ _ (List.mem_map_of_mem member)
  simpa using silent

theorem lays_switchStatement {node : SwitchStatement}
    (found : node.expression = some expression) (nonempty : node.clauses ≠ []) {targets : List Targets}
    {state : EmitState} (ready : Ready targets state) :
    let store := slot.store expression
    let cases_ := Section.cases (node.clauses.map slot.clauseSection)
    let entry := state.size + store.size
    Lays targets state (visitSwitchStatement slot node state) (store.size + cases_.size state.deferScopes) fun code =>
      store.Placed code state.size ∧
        cases_.Placed code (some ⟨entry + cases_.size state.deferScopes,none⟩) state.deferScopes entry := by
  intro store cases_ entry
  rw [slot.visitSwitchStatement_eq found nonempty]
  exact Lays.switchClauses ready fun ready => cases_.visited ready cases_.accepted_inside

end SwitchSlot
end ShardScript.Emitter
