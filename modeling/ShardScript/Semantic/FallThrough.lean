import ShardScript.Semantic.FlowState
import ShardScript.Syntax.Runs

/-! What the flow analysis accepts does not fall off its end, and what it calls unreachable is not
reached, in every run that leaves no sealed switch. -/
namespace ShardScript.Semantic
open Library Behaviour Syntax

inductive Closing where
  | breaks | continues | returns | throws

section Closing

variable {Expression TypeSymbol : Type}

def anyJump : Closing → Bool := fun _ => true

def orBreaks (jumps : Closing → Bool) : Closing → Bool
  | .breaks | .continues => true
  | jump => jumps jump

def orThrows (jumps : Closing → Bool) : Closing → Bool
  | .throws => true
  | jump => jumps jump

/-- Every branch of the text ends in one of the jumps. A clause of a switch is read without its
breaks, unless it has nothing else, and so is a `try` without its throws. -/
@[grind] def closesBy : {kind : StatementKind} → Statement Expression TypeSymbol kind → (Closing → Bool) → Bool
  | _,.simple _,_ | _,.deferStatement _ _,_ | _,.whileStatement _ _,_ | _,.untilStatement _ _,_
  | _,.forStatement _ _ _ _,_ | _,.forEachStatement _ _ _,_ | _,.forInStatement _ _ _,_
  | _,.empty,_ | _,.noNext,_ => false
  | _,.returnStatement _,jumps => jumps .returns
  | _,.throwStatement _,jumps => jumps .throws
  | _,.breakStatement,jumps => jumps .breaks
  | _,.continueStatement,jumps => jumps .continues
  | _,.conditional first,jumps => closesBy first jumps
  | _,.switchStatement _ cases,jumps => !cases.isNoCase && closesBy cases jumps
  | _,.tryStatement body catches,jumps =>
      if catches.isNoCatch then closesBy body jumps
      else closesBy body (orThrows jumps) && !closesBy body (orThrows fun _ => false) &&
        closesBy catches jumps
  | _,.cons first rest,jumps => if closesBy first anyJump then closesBy first jumps else closesBy rest jumps
  | _,.ifClause _ _ body next,jumps => closesBy body jumps && closesBy next jumps
  | _,.elseClause body,jumps => closesBy body jumps
  | _,.elseIf clause,jumps => closesBy clause jumps
  | _,.noCase,_ | _,.noCatch,_ => true
  | _,.defaultClause body rest,jumps | _,.caseClause _ body rest,jumps =>
      closesBy body (orBreaks jumps) && !closesBy body (orBreaks fun _ => false) && closesBy rest jumps
  | _,.catchClause _ _ body rest,jumps => closesBy body jumps && closesBy rest jumps

/-- Every branch of every clause ends in a jump, and in each clause one of them in a return or a
throw. -/
def isSealed (cases : Statement Expression TypeSymbol .cases) : Bool :=
  !cases.isNoCase && closesBy cases anyJump

def FlowState.within (state : FlowState) (jumps : Closing → Bool) : Bool :=
  !state.normal && (!state.returns || jumps .returns) && (!state.breaks || jumps .breaks) &&
    (!state.continues || jumps .continues) && (!state.throws || jumps .throws)

namespace FlowState

variable (state : FlowState) (jumps : Closing → Bool)

theorem within_anyJump : state.within anyJump = state.isTerminal := by
  simp [within,anyJump,isTerminal]

theorem within_mergeBranches (other : FlowState) :
    (state.mergeBranches other).within jumps = (state.within jumps && other.within jumps) := by
  simp only [within,mergeBranches,Bool.not_or,Bool.or_and_distrib_right]
  ac_rfl

theorem within_withoutBreaksAndContinues :
    state.withoutBreaksAndContinues.within jumps =
      (state.within (orBreaks jumps) && !state.within (orBreaks fun _ => false)) := by
  rcases state with ⟨_ | _,_ | _,_ | _,_ | _,_ | _⟩ <;>
    simp [within,withoutBreaksAndContinues,orBreaks]

theorem within_withoutThrows :
    state.withoutThrows.within jumps =
      (state.within (orThrows jumps) && !state.within (orThrows fun _ => false)) := by
  rcases state with ⟨_ | _,_ | _,_ | _,_ | _,_ | _⟩ <;>
    simp [within,withoutThrows,orThrows]

theorem normal_mergeBranches (one two : FlowState) :
    (one.mergeBranches two).normal = (one.normal || two.normal) := rfl

theorem normal_withoutBreaksAndContinues (normal : state.normal = true) :
    state.withoutBreaksAndContinues.normal = true := by
  simp [withoutBreaksAndContinues,normal]

theorem normal_withoutThrows (normal : state.normal = true) : state.withoutThrows.normal = true := by
  simp [withoutThrows,normal]

end FlowState

theorem closesBy_analyze (isAsync : Bool) {kind : StatementKind}
    (statement : Statement Expression TypeSymbol kind) (jumps : Closing → Bool)
    (loopDepth switchDepth : Nat) (path : Path) :
    closesBy statement jumps = (analyze isAsync statement loopDepth switchDepth path).state.within jumps := by
  induction statement generalizing jumps loopDepth switchDepth path with
  | simple | deferStatement | whileStatement | untilStatement | forStatement | forEachStatement
  | forInStatement | empty | noNext | returnStatement | throwStatement | breakStatement
  | continueStatement | noCase | noCatch => simp [closesBy,analyze,FlowState.within]
  | conditional first ih => exact ih _ _ _ _
  | switchStatement scrutinee cases ih =>
    rw [closesBy,analyze,ih jumps loopDepth (switchDepth + 1) (0 :: path)]
    cases cases.isNoCase <;> simp [FlowState.within]
  | tryStatement body catches ihBody ihCatches =>
    simp only [closesBy,analyze]
    cases catches.isNoCatch with
    | true => exact ihBody _ _ _ _
    | false =>
      simp only [Bool.false_eq_true,if_false,FlowState.within_mergeBranches,
        FlowState.within_withoutThrows]
      rw [ihBody (orThrows jumps) loopDepth switchDepth (0 :: path),
        ihBody (orThrows fun _ => false) loopDepth switchDepth (0 :: path),
        ihCatches jumps loopDepth switchDepth (1 :: path)]
  | cons first rest ihFirst ihRest =>
    simp only [closesBy,analyze]
    rw [ihFirst anyJump loopDepth switchDepth (0 :: path),FlowState.within_anyJump,
      ihFirst jumps loopDepth switchDepth (0 :: path)]
    by_cases last : rest.isEmpty = true
    · have nothing : closesBy rest jumps = false := by
        cases rest with
        | empty => rfl
        | cons => simp [Statement.isEmpty] at last
      simp only [last,if_true,nothing,FlowState.isTerminal,FlowState.within]
      cases (analyze isAsync first loopDepth switchDepth (0 :: path)).state.normal <;> simp
    · simp only [last]
      cases (analyze isAsync first loopDepth switchDepth (0 :: path)).state.isTerminal with
      | true => simp
      | false => simpa using ihRest jumps loopDepth switchDepth (1 :: path)
  | ifClause negated condition body next ihBody ihNext =>
    simp only [closesBy,analyze,FlowState.within_mergeBranches]
    rw [ihBody jumps loopDepth switchDepth (0 :: path),ihNext jumps loopDepth switchDepth (1 :: path)]
  | elseClause body ih | elseIf clause ih => exact ih _ _ _ _
  | defaultClause body rest ihBody ihRest | caseClause pattern body rest ihBody ihRest =>
    simp only [closesBy,analyze,FlowState.within_mergeBranches,
      FlowState.within_withoutBreaksAndContinues]
    rw [ihBody (orBreaks jumps) loopDepth switchDepth (0 :: path),
      ihBody (orBreaks fun _ => false) loopDepth switchDepth (0 :: path),
      ihRest jumps loopDepth switchDepth (1 :: path)]
  | catchClause type name body rest ihBody ihRest =>
    simp only [closesBy,analyze,FlowState.within_mergeBranches]
    rw [ihBody jumps loopDepth switchDepth (0 :: path),ihRest jumps loopDepth switchDepth (1 :: path)]

theorem normal_of_not_isSealed (isAsync : Bool) (scrutinee : Expression)
    (cases : Statement Expression TypeSymbol .cases) (loopDepth switchDepth : Nat) (path : Path)
    (isOpen : isSealed cases = false) :
    (analyze isAsync (.switchStatement scrutinee cases) loopDepth switchDepth path).state.normal = true := by
  have closes := closesBy_analyze isAsync (.switchStatement scrutinee cases) anyJump loopDepth
    switchDepth path
  rw [FlowState.within_anyJump,closesBy] at closes
  rw [isSealed,closes] at isOpen
  simpa [FlowState.isTerminal] using isOpen

end Closing

section Soundness

variable {Expression TypeSymbol Effect Exception : Type}

def Flagged (reports : List Report) (statement : Path) : Prop :=
  Report.unreachableCode statement ∈ reports

theorem analyze_cons (isAsync : Bool) (first : Statement Expression TypeSymbol .statement)
    (rest : Statement Expression TypeSymbol .block) (loopDepth switchDepth : Nat) (path : Path)
    (normal : (analyze isAsync first loopDepth switchDepth (0 :: path)).state.normal = true)
    (more : rest.isEmpty = false) :
    analyze isAsync (.cons first rest) loopDepth switchDepth path =
      ⟨(analyze isAsync rest loopDepth switchDepth (1 :: path)).state,
        (analyze isAsync first loopDepth switchDepth (0 :: path)).reports ++
          (analyze isAsync rest loopDepth switchDepth (1 :: path)).reports⟩ := by
  simp [analyze,more,FlowState.isTerminal,normal]

theorem flagged_append {one two : List Report} {statement : Path} :
    Flagged (one ++ two) statement ↔ Flagged one statement ∨ Flagged two statement := by
  simp [Flagged]

theorem flagged_cons (isAsync : Bool) (first : Statement Expression TypeSymbol .statement)
    (rest : Statement Expression TypeSymbol .block) (loopDepth switchDepth : Nat) (path statement : Path)
    (flagged : Flagged (analyze isAsync (.cons first rest) loopDepth switchDepth path).reports statement) :
    Flagged (analyze isAsync first loopDepth switchDepth (0 :: path)).reports statement ∨
      statement = 0 :: 1 :: path ∨
      Flagged (analyze isAsync rest loopDepth switchDepth (1 :: path)).reports statement := by
  simp only [analyze] at flagged
  split at flagged
  · exact .inl flagged
  · split at flagged
    · refine (flagged_append.1 flagged).imp id fun flagged => .inl ?_
      cases isAsync with
      | true => simp [Flagged] at flagged
      | false => simpa [Flagged,Report.unreachableCode] using flagged
    · exact (flagged_append.1 flagged).imp id .inr

theorem flagged_inside (isAsync : Bool) {kind : StatementKind}
    (node : Statement Expression TypeSymbol kind) (loopDepth switchDepth : Nat) (path statement : Path)
    (flagged : Flagged (analyze isAsync node loopDepth switchDepth path).reports statement) :
    Path.Inside path statement := by
  induction node generalizing loopDepth switchDepth path with
  | simple | deferStatement | returnStatement | throwStatement | empty | noNext | noCase | noCatch =>
    simp [analyze,Flagged] at flagged
  | breakStatement =>
    simp only [analyze,Flagged] at flagged
    split at flagged <;> simp [Report.breakOutside,Report.unreachableCode] at flagged
  | continueStatement =>
    simp only [analyze,Flagged] at flagged
    split at flagged <;> simp [Report.continueOutside,Report.unreachableCode] at flagged
  | whileStatement condition body ih | untilStatement condition body ih
  | forStatement initializer condition afterRepeat body ih | forEachStatement name range body ih
  | forInStatement name range body ih => exact (ih _ _ _ flagged).child
  | conditional first ih => exact (ih _ _ _ flagged).child
  | switchStatement scrutinee cases ih => exact (ih _ _ _ flagged).child
  | elseClause body ih | elseIf clause ih => exact (ih _ _ _ flagged).child
  | tryStatement body catches ihBody ihRest | ifClause negated condition body catches ihBody ihRest
  | defaultClause body catches ihBody ihRest | caseClause pattern body catches ihBody ihRest
  | catchClause type name body catches ihBody ihRest =>
    rcases flagged_append.1 flagged with flagged | flagged
    · exact (ihBody _ _ _ flagged).child
    · exact (ihRest _ _ _ flagged).child
  | cons first rest ihFirst ihRest =>
    rcases flagged_cons isAsync first rest _ _ _ _ flagged with flagged | rfl | flagged
    · exact (ihFirst _ _ _ flagged).child
    · exact (Path.child_inside 0 (1 :: path)).child
    · exact (ihRest _ _ _ flagged).child

theorem flagged_cons_inside (isAsync : Bool) (first : Statement Expression TypeSymbol .statement)
    (rest : Statement Expression TypeSymbol .block) (loopDepth switchDepth : Nat) (path statement : Path)
    (flagged : Flagged (analyze isAsync (.cons first rest) loopDepth switchDepth path).reports statement) :
    Flagged (analyze isAsync first loopDepth switchDepth (0 :: path)).reports statement ∨
      Path.Inside (1 :: path) statement := by
  rcases flagged_cons isAsync first rest _ _ _ _ flagged with flagged | rfl | flagged
  · exact .inl flagged
  · exact .inr (Path.child_inside 0 (1 :: path))
  · exact .inr (flagged_inside isAsync rest _ _ _ _ flagged)

/-- The condition on a run: the switches it leaves otherwise than through a clause's end. -/
def LeavesOpen : Event Expression TypeSymbol Effect → Prop
  | .leavesSwitch cases => isSealed cases = false
  | _ => True

def Unflagged (path : Path) (reports : List Report) : Event Expression TypeSymbol Effect → Prop
  | .reached statement => Path.Inside path statement ∧ ¬ Flagged reports statement
  | _ => True

def FallsAs (state : FlowState) (ending : Ending (Jump Exception)) : Prop :=
  ending = .normal → state.normal = true

variable {meaning : Meaning Expression TypeSymbol Effect Exception} {path : Path}
  {one two : List Report}

abbrev Sound (behaviour : Behaviour (Event Expression TypeSymbol Effect) (Jump Exception))
    (path : Path) (analysis : Analysis) : Prop :=
  Ensures behaviour LeavesOpen (Unflagged path analysis.reports) (FallsAs analysis.state)

abbrev Silent (behaviour : Behaviour (Event Expression TypeSymbol Effect) (Jump Exception)) : Prop :=
  ∀ path reports, Ensures behaviour LeavesOpen (Unflagged path reports) fun _ => True

theorem unflagged_child {child : Nat} (event : Event Expression TypeSymbol Effect)
    (unflagged : Unflagged (child :: path) one event) : Unflagged path one event := by
  cases event with
  | reached statement => exact ⟨unflagged.1.child,unflagged.2⟩
  | leavesSwitch | effect => trivial

theorem unflagged_left (event : Event Expression TypeSymbol Effect)
    (inside : ∀ statement, Flagged two statement → Path.Inside (1 :: path) statement)
    (unflagged : Unflagged (0 :: path) one event) : Unflagged path (one ++ two) event := by
  cases event with
  | reached statement =>
    refine ⟨unflagged.1.child,?_⟩
    intro flagged
    rcases flagged_append.1 flagged with flagged | flagged
    · exact unflagged.2 flagged
    · exact unflagged.1.disjoint (by decide) (inside statement flagged)
  | leavesSwitch | effect => trivial

theorem unflagged_right (event : Event Expression TypeSymbol Effect)
    (inside : ∀ statement, Flagged one statement → Path.Inside (0 :: path) statement)
    (unflagged : Unflagged (1 :: path) two event) : Unflagged path (one ++ two) event := by
  cases event with
  | reached statement =>
    refine ⟨unflagged.1.child,?_⟩
    intro flagged
    rcases flagged_append.1 flagged with flagged | flagged
    · exact unflagged.1.disjoint (by decide) (inside statement flagged)
    · exact unflagged.2 flagged
  | leavesSwitch | effect => trivial

variable {first second : Behaviour (Event Expression TypeSymbol Effect) (Jump Exception)}

theorem inner_silent (meaning : Meaning Expression TypeSymbol Effect Exception)
    (behaviour : Behaviour Effect Exception) :
    Silent (meaning.inner behaviour) := by
  intro path reports events ending run _
  rcases run with ⟨before,first,rfl,_,_⟩
  refine ⟨?_,trivial⟩
  intro event member
  rcases List.mem_map.1 member with ⟨effect,_,rfl⟩
  trivial

theorem done_silent : Silent (done : meaning.Runs) := fun _ _ => .done trivial

theorem optional_silent (value : Option Expression) : Silent (meaning.optional value) := by
  cases value with
  | none => exact done_silent
  | some expression => exact inner_silent meaning _

theorem simple_silent (statement : Simple Expression) : Silent (meaning.simple statement) := by
  cases statement with
  | expressionStatement expression => exact inner_silent meaning _
  | variableStatement name value => exact optional_silent value

theorem optionalSimple_silent (statement : Option (Simple Expression)) :
    Silent (meaning.optionalSimple statement) := by
  cases statement with
  | none => exact done_silent
  | some statement => exact simple_silent statement

variable {analysis : Analysis}

theorem seq_sound (one : Silent first)
    (two : Sound second path analysis) : Sound (seq first second) path analysis :=
  .seq (one path analysis.reports) (fun _ abrupt _ same => absurd same abrupt) fun _ => two

variable {reports : List Report}

theorem loop_sound {again last turn : meaning.Runs} (again_ : Silent again)
    (last_ : Silent last) (turned : Ensures turn LeavesOpen (Unflagged path reports) fun _ => True) :
    Sound (meaning.loop again last turn) path ⟨{ normal := true },reports⟩ := by
  have turns := Ensures.many ((again_ path reports).seq (fun _ _ _ => trivial) fun _ => turned) trivial
  have looped : Ensures _ LeavesOpen (Unflagged path reports) fun _ => True :=
    turns.seq (fun _ _ _ => trivial) fun _ => last_ path reports
  refine looped.rescue (fun _ _ _ _ => rfl) ?_
  intro jump _
  cases jump with
  | breaks => exact .done fun _ => rfl
  | continues | returns | throws => exact .leave (by simp [FallsAs])

theorem turn_sound {body : meaning.Runs} {state : FlowState}
    (ran : Sound body (0 :: path) ⟨state,reports⟩) :
    Ensures (meaning.turn body) LeavesOpen (Unflagged path reports) fun _ => True := by
  have once : Ensures body LeavesOpen (Unflagged path reports) fun _ => True :=
    ran.mono (fun event => unflagged_child event) fun _ _ => trivial
  refine once.rescue (fun _ _ _ => trivial) ?_
  intro jump _
  cases jump with
  | continues => exact .done trivial
  | breaks | returns | throws => exact .leave trivial

theorem first_sound {state : FlowState}
    (ran : Sound first (0 :: path) analysis) (falls : analysis.state.normal = true → state.normal = true)
    (inside : ∀ statement, Flagged reports statement → Path.Inside (1 :: path) statement) :
    Sound first path ⟨state,analysis.reports ++ reports⟩ :=
  ran.mono (fun event => unflagged_left event inside) fun _ kept normal => falls (kept normal)

theorem second_sound {state : FlowState}
    (ran : Sound second (1 :: path) analysis) (falls : analysis.state.normal = true → state.normal = true)
    (inside : ∀ statement, Flagged reports statement → Path.Inside (0 :: path) statement) :
    Sound second path ⟨state,reports ++ analysis.reports⟩ :=
  ran.mono (fun event => unflagged_right event inside) fun _ kept normal => falls (kept normal)

theorem unwound_sound {rest : meaning.Runs}
    (statement : Statement Expression TypeSymbol .statement) (ran : Sound rest path analysis) :
    Sound (meaning.unwound statement rest) path analysis := by
  unfold Meaning.unwound
  split
  · exact ran.unwinding (inner_silent meaning _ path _) fun _ abrupt _ same => absurd same abrupt
  · exact ran.unwinding (simple_silent _ path _) fun _ abrupt _ same => absurd same abrupt
  · exact ran

/-- By cases on the statement: a child's runs are sound at the child's path, and what one child is
flagged for is not inside the other. -/
theorem analyze_sound (isAsync : Bool) {kind : StatementKind}
    (statement : Statement Expression TypeSymbol kind) (handled : Exception)
    (loopDepth switchDepth : Nat) (path : Path) :
    Sound (statement.runs meaning handled path) path
      (analyze isAsync statement loopDepth switchDepth path) := by
  induction statement generalizing handled loopDepth switchDepth path with
  | simple statement =>
    exact (simple_silent statement path []).mono (fun _ kept => kept) fun _ _ _ => rfl
  | deferStatement isResource statement =>
    cases isResource with
    | true => exact (simple_silent statement path []).mono (fun _ kept => kept) fun _ _ _ => rfl
    | false => exact .done fun _ => rfl
  | returnStatement value =>
    exact seq_sound (optional_silent value) (.leave (by simp [FallsAs]))
  | throwStatement exception =>
    cases exception with
    | none => exact .leave (by simp [FallsAs])
    | some exception =>
      refine seq_sound (inner_silent meaning _) ?_
      rintro events ending ⟨raised,_,rfl,rfl⟩ _
      exact ⟨by simp,by simp [FallsAs]⟩
  | breakStatement | continueStatement | noCase | noCatch => exact .leave (by simp [FallsAs])
  | empty | noNext => exact .done fun _ => rfl
  | whileStatement condition body ih | untilStatement condition body ih =>
    exact loop_sound (inner_silent meaning _) (inner_silent meaning _) (turn_sound (ih _ _ _ _))
  | forStatement initializer condition afterRepeat body ih =>
    refine seq_sound (optionalSimple_silent initializer) (loop_sound (optional_silent condition) ?_
      ((turn_sound (ih _ _ _ _)).seq (fun _ _ _ => trivial)
        fun _ => optionalSimple_silent afterRepeat _ _))
    cases condition with
    | none => exact fun _ _ => .stall trivial
    | some condition => exact inner_silent meaning _
  | forEachStatement name range body ih | forInStatement name range body ih =>
    exact seq_sound (inner_silent meaning _)
      (loop_sound (inner_silent meaning _) (inner_silent meaning _) (turn_sound (ih _ _ _ _)))
  | conditional first ih | elseClause body ih | elseIf clause ih =>
    exact (ih _ _ _ _).mono (fun event => unflagged_child event) fun _ falls => falls
  | switchStatement scrutinee cases ih =>
    refine seq_sound (inner_silent meaning _) ?_
    refine ((ih handled loopDepth (switchDepth + 1) (0 :: path)).mono
      (fun event => unflagged_child event) fun _ falls => falls).rescue ?_ ?_
    · intro ending _ falls normal
      simp only [analyze]
      split
      · rfl
      · exact falls normal
    · intro jump _
      cases jump with
      | breaks =>
        exact .perform (fun _ => trivial) fun isOpen _ =>
          normal_of_not_isSealed isAsync scrutinee cases loopDepth switchDepth path isOpen
      | continues | returns | throws => exact .leave (by simp [FallsAs])
  | tryStatement body catches ihBody ihCatches =>
    have tried : Sound (body.runs meaning handled (0 :: path)) path
        (analyze isAsync (.tryStatement body catches) loopDepth switchDepth path) := by
      refine first_sound (ihBody _ _ _ _) ?_ (flagged_inside isAsync catches loopDepth switchDepth _)
      intro normal
      split
      · exact normal
      · simp [FlowState.normal_mergeBranches,FlowState.normal_withoutThrows,normal]
    refine tried.rescue (fun _ _ falls => falls) ?_
    intro jump _
    cases jump with
    | throws exception =>
      refine second_sound (ihCatches exception _ _ _) ?_ (flagged_inside isAsync body loopDepth switchDepth _)
      cases catches with
      | noCatch => simp [analyze]
      | catchClause => simp +contextual [Statement.isNoCatch,FlowState.normal_mergeBranches]
    | breaks | continues | returns => exact .leave (by simp [FallsAs])
  | cons first rest ihFirst ihRest =>
    let whole := analyze isAsync (.cons first rest) loopDepth switchDepth path
    have entered : Ensures (perform (.reached (0 :: path)) : meaning.Runs) LeavesOpen
        (Unflagged path whole.reports) fun _ => True := by
      refine .perform (fun _ => ⟨Path.child_inside 0 path,?_⟩) fun _ => trivial
      intro flagged
      rcases flagged_cons_inside isAsync first rest _ _ _ _ flagged with flagged | flagged
      · exact (flagged_inside isAsync first _ _ _ _ flagged).ne rfl
      · exact Path.Inside.not_sibling flagged
    have ran : Ensures (first.runs meaning handled (0 :: path)) LeavesOpen (Unflagged path whole.reports)
        (FallsAs (analyze isAsync first loopDepth switchDepth (0 :: path)).state) := by
      refine (ihFirst _ _ _ _).mono ?_ fun _ falls => falls
      intro event unflagged
      cases event with
      | reached statement =>
        refine ⟨unflagged.1.child,?_⟩
        intro flagged
        rcases flagged_cons_inside isAsync first rest _ _ _ _ flagged with flagged | flagged
        · exact unflagged.2 flagged
        · exact unflagged.1.disjoint (by decide) flagged
      | leavesSwitch | effect => trivial
    refine entered.seq (fun _ abrupt _ same => absurd same abrupt) fun _ =>
      ran.seq (fun _ abrupt _ same => absurd same abrupt) fun falls => unwound_sound first ?_
    -- The first statement was run to its end, so the analysis goes on behind it.
    have normal := falls rfl
    cases rest with
    | empty => exact .done fun _ => normal
    | cons second others =>
      have goesOn := second_sound (ihRest handled loopDepth switchDepth (1 :: path)) id
        (flagged_inside isAsync first loopDepth switchDepth (0 :: path))
      rw [← analyze_cons isAsync first (.cons second others) loopDepth switchDepth path normal rfl] at goesOn
      exact goesOn
  | ifClause negated condition body next ihBody ihNext =>
    refine seq_sound (simple_silent condition) (.either ?_ ?_)
    · exact first_sound (ihBody _ _ _ _) (by simp +contextual [FlowState.normal_mergeBranches])
        (flagged_inside isAsync next loopDepth switchDepth (1 :: path))
    · exact second_sound (ihNext _ _ _ _) (by simp +contextual [FlowState.normal_mergeBranches])
        (flagged_inside isAsync body loopDepth switchDepth (0 :: path))
  | defaultClause body rest ihBody ihRest =>
    exact first_sound (ihBody _ _ _ _) (by simp +contextual [FlowState.normal_mergeBranches,
        FlowState.normal_withoutBreaksAndContinues])
      (flagged_inside isAsync rest loopDepth switchDepth (1 :: path))
  | caseClause pattern body rest ihBody ihRest =>
    refine seq_sound (inner_silent meaning _) (.either ?_ ?_)
    · exact first_sound (ihBody _ _ _ _) (by simp +contextual [FlowState.normal_mergeBranches,
        FlowState.normal_withoutBreaksAndContinues])
        (flagged_inside isAsync rest loopDepth switchDepth (1 :: path))
    · exact second_sound (ihRest _ _ _ _) (by simp +contextual [FlowState.normal_mergeBranches])
        (flagged_inside isAsync body loopDepth switchDepth (0 :: path))
  | catchClause type name body rest ihBody ihRest =>
    rintro events ending (⟨_,run⟩ | ⟨_,run⟩)
    · exact first_sound (ihBody _ _ _ _) (by simp +contextual [FlowState.normal_mergeBranches])
        (flagged_inside isAsync rest loopDepth switchDepth (1 :: path)) events ending run
    · exact second_sound (ihRest _ _ _ _) (by simp +contextual [FlowState.normal_mergeBranches])
        (flagged_inside isAsync body loopDepth switchDepth (0 :: path)) events ending run

/-- A body that no missing return is reported of is not run to its end, and a statement reported as
unreachable is not reached, in every run that leaves no sealed switch for want of a matching clause or
by a break. -/
theorem fallThrough_sound (meaning : Meaning Expression TypeSymbol Effect Exception)
    (body : Statement Expression TypeSymbol .block) (returnType : Option String)
    (loopDepth switchDepth : Nat) (handled : Exception)
    (events : List (Event Expression TypeSymbol Effect)) (ending : Ending (Jump Exception))
    (run : body.runs meaning handled [] events ending)
    (leavesOpen : ∀ cases, .leavesSwitch cases ∈ events → isSealed cases = false) :
    (∀ type, returnType = some type →
      Report.missingReturn type ∉ analyzeMemberBody false returnType body loopDepth switchDepth →
        ending ≠ .normal) ∧
    ∀ statement,
      Report.unreachableCode statement ∈ analyzeMemberBody false returnType body loopDepth switchDepth →
        .reached statement ∉ events := by
  have passes : ∀ event ∈ events, LeavesOpen event := by
    intro event member
    cases event with
    | leavesSwitch cases => exact leavesOpen cases member
    | reached | effect => trivial
  have sound := analyze_sound false body handled loopDepth switchDepth [] events ending run passes
  constructor
  · rintro type rfl unreported rfl
    exact unreported (by simp [analyzeMemberBody,sound.2 rfl])
  · intro statement reported reached
    refine (sound.1 _ reached).2 ?_
    rcases List.mem_append.1 reported with flagged | missing
    · exact flagged
    · cases returnType with
      | none => simp at missing
      | some type =>
        simp only at missing
        split at missing <;> simp [Report.missingReturn,Report.unreachableCode] at missing

end Soundness

section Examples

def immediate : Meaning Unit Unit Unit Unit := ⟨fun _ => done,fun _ => done,fun _ => done,
  fun _ _ => True,fun _ _ => True⟩

def switchOf (jump : Statement Unit Unit .statement) : Statement Unit Unit .cases :=
  .caseClause () (.cons jump .empty) .noCase

/-- A switch with one clause, which returns: no other value of the scrutinee is thought of. -/
def returningCase : Statement Unit Unit .block :=
  .cons (.switchStatement () (switchOf (.returnStatement (some ())))) (.cons (.simple (.expressionStatement ())) .empty)

/-- A switch with one clause, which is left by a `break`, and a `return` behind it. -/
def breakingCase : Statement Unit Unit .block :=
  .cons (.switchStatement () (switchOf .breakStatement)) (.cons (.returnStatement (some ())) .empty)

theorem immediate_expression : immediate.expression () [] .normal :=
  @map_run _ _ _ _ done [] .normal _ _ ⟨rfl,rfl⟩

theorem block_run {first : Statement Unit Unit .statement} {rest : Statement Unit Unit .block} {path : Path}
    {before behind : List (Event Unit Unit Unit)} {ending : Ending (Jump Unit)}
    (one : first.runs immediate () (0 :: path) before .normal)
    (two : immediate.unwound first (rest.runs immediate () (1 :: path)) behind ending) :
    (Statement.cons first rest).runs immediate () path (.reached (0 :: path) :: (before ++ behind)) ending :=
  seq_run (perform_run _) (seq_run one two)

theorem returningCase_run : returningCase.runs immediate () []
    [.reached [0],.leavesSwitch (switchOf (.returnStatement (some ()))),.reached [0,1]] .normal := by
  have left : (Statement.switchStatement () (switchOf (.returnStatement (some ())))).runs immediate () [0]
      [.leavesSwitch (switchOf (.returnStatement (some ())))] .normal := by
    have unmatched : (switchOf (.returnStatement (some ()))).runs immediate () [0,0] [] (.jump .breaks) :=
      seq_run immediate_expression (.inr ⟨rfl,rfl⟩)
    exact seq_run immediate_expression (rescue_run unmatched (perform_run _))
  have evaluated : (Statement.simple (.expressionStatement ())).runs immediate () [0,1] [] .normal :=
    immediate_expression
  have behind : (Statement.cons (.simple (.expressionStatement ())) .empty).runs immediate () [1]
      [.reached [0,1]] .normal := block_run evaluated ⟨rfl,rfl⟩
  exact block_run left behind

theorem returningCase_unsound :
    ¬ ∀ (body : Statement Unit Unit .block) (returnType : Option String)
      (events : List (Event Unit Unit Unit)) (ending : Ending (Jump Unit)),
      body.runs immediate () [] events ending →
      (∀ type, returnType = some type →
        Report.missingReturn type ∉ analyzeMemberBody false returnType body 0 0 → ending ≠ .normal) ∧
      ∀ statement,
        Report.unreachableCode statement ∈ analyzeMemberBody false returnType body 0 0 →
          .reached statement ∉ events := by
  intro sound
  have claimed := sound returningCase (some "int") _ _ returningCase_run
  exact claimed.1 "int" rfl (by decide) rfl

theorem breakingCase_run : breakingCase.runs immediate () []
    [.reached [0],.reached [0,0,0,0],.leavesSwitch (switchOf .breakStatement),.reached [0,1]]
    (.jump .returns) := by
  have left : (Statement.switchStatement () (switchOf .breakStatement)).runs immediate () [0]
      [.reached [0,0,0,0],.leavesSwitch (switchOf .breakStatement)] .normal := by
    have clause : (Statement.cons .breakStatement .empty).runs immediate () [0,0,0]
        [.reached [0,0,0,0]] (.jump .breaks) :=
      seq_run (perform_run _) (seq_abrupt ⟨rfl,rfl⟩ (by simp))
    have matched : (switchOf .breakStatement).runs immediate () [0,0] [.reached [0,0,0,0]]
        (.jump .breaks) := seq_run immediate_expression (.inl clause)
    exact seq_run immediate_expression (rescue_run matched (perform_run _))
  have returned : (Statement.cons (.returnStatement (some ())) .empty).runs immediate () [1]
      [.reached [0,1]] (.jump .returns) := by
    refine seq_run (perform_run _) (seq_abrupt ?_ (by simp))
    exact seq_run immediate_expression ⟨rfl,rfl⟩
  exact block_run left returned

theorem fallThrough_sound_break :
    (∀ type, some "int" = some type →
      Report.missingReturn type ∉ analyzeMemberBody false (some "int") breakingCase 0 0 →
        Ending.jump (Jump.returns : Jump Unit) ≠ .normal) ∧
    ∀ statement,
      Report.unreachableCode statement ∈ analyzeMemberBody false (some "int") breakingCase 0 0 →
        .reached statement ∉ ([.reached [0],.reached [0,0,0,0],.leavesSwitch (switchOf .breakStatement),
          .reached [0,1]] : List (Event Unit Unit Unit)) :=
  fallThrough_sound immediate breakingCase (some "int") 0 0 () _ _ breakingCase_run
    (by simp +contextual [isSealed,closesBy,switchOf,Statement.isNoCase,orBreaks])

end Examples

end ShardScript.Semantic
