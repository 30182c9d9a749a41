import ShardScript.Hoisting.Parts
import ShardScript.Hoisting.Verdict
import ShardScript.Library.Only

/-! The hoisting keeps what a body does where nothing is evaluated in front of an await that is lifted. -/
namespace ShardScript.Hoisting
open Library Scratch Semantic Syntax Attempt

section Conditions

@[grind] def continuesIn : {kind : StatementKind} → Tree kind → Bool
  | _,.continueStatement => true
  | _,.simple _ | _,.returnStatement _ | _,.throwStatement _ | _,.breakStatement | _,.deferStatement _ _ | _,.empty
  | _,.noNext | _,.noCase | _,.noCatch | _,.whileStatement _ _ | _,.untilStatement _ _ | _,.forStatement _ _ _ _
  | _,.forEachStatement _ _ _ | _,.forInStatement _ _ _ => false
  | _,.conditional first => continuesIn first
  | _,.switchStatement _ cases => continuesIn cases
  | _,.tryStatement body catches => continuesIn body || continuesIn catches
  | _,.cons first rest => continuesIn first || continuesIn rest
  | _,.ifClause _ _ body next => continuesIn body || continuesIn next
  | _,.elseClause body => continuesIn body
  | _,.elseIf clause => continuesIn clause
  | _,.defaultClause body rest | _,.caseClause _ body rest | _,.catchClause _ _ body rest =>
      continuesIn body || continuesIn rest

def registers : Hoisted .block → Bool
  | .empty => false
  | .cons _ first rest => (registration first).isSome || registers rest
  | .tested _ _ _ rest => registers rest

def isLost (body : Tree .block) : Bool := isUnsupported body || hasEmptyBlock body

/-- Nothing is evaluated in front of an await that is lifted, nothing is lifted out of a loop or out of a condition
behind an `else`, and a statement after each turn is moved into the body only if every turn comes to the body's end. -/
@[grind] def keepsOrder : {kind : StatementKind} → Tree kind → Bool
  | _,.simple statement => simpleInOrder statement
  | _,.returnStatement value => value.all valueInOrder
  | _,.throwStatement exception => exception.all fun exception => inOrder exception false
  | _,.breakStatement | _,.continueStatement | _,.deferStatement _ _ | _,.empty | _,.noNext | _,.noCase | _,.noCatch
  | _,.switchStatement _ _ | _,.defaultClause _ _ | _,.caseClause _ _ _ => true
  | _,.whileStatement condition body | _,.untilStatement condition body =>
      keepsOrder body && if containsAwait condition then spillsInOrder condition
        else lifts condition true == 0 && !isLost body
  | _,.forStatement initializer condition afterRepeat body =>
      initializer.all simpleInOrder && (keepsOrder body && if awaitsInLoop condition afterRepeat then
        condition.all (fun condition => !containsAwait condition || spillsInOrder condition) &&
          (!hasAwait afterRepeat ||
            afterRepeat.all simpleInOrder && (!continuesIn body && !registers (.ofStatement body)))
        else condition.all (fun condition => lifts condition true == 0) && (liftsOptional afterRepeat == 0 && !isLost body))
  | _,.forEachStatement _ range body | _,.forInStatement _ range body =>
      rangeInOrder range && (keepsOrder body && !isLost body)
  | _,.conditional first => keepsOrder first
  | _,.tryStatement body catches => keepsOrder body && keepsOrder catches
  | _,.cons first rest => keepsOrder first && keepsOrder rest
  | _,.ifClause _ condition body next => conditionInOrder condition && (keepsOrder body && keepsOrder next)
  | _,.elseClause body => keepsOrder body
  | _,.elseIf clause => !awaitsInChain clause && keepsOrder clause
  | _,.catchClause _ _ body rest => keepsOrder body && keepsOrder rest

theorem supported_of_found {body : Tree .block} (path : Path) (found : isLost body = false) :
    Yields (hoist body true path) fun outcome => outcome.supported = true := by
  have shape := verdict_of_isEmpty body true
  rw [if_pos rfl,Bool.or_false] at shape
  rw [isLost,← shape,Bool.not_eq_false'] at found
  exact (hoist_expected body true path).yields.mono fun _ expected => expected.verdict_eq.trans found

end Conditions

theorem execute_cons {Value Exception : Type} {m : Type → Type} [Monad m] [LawfulMonad m] [MonadExcept Exception m]
    (surroundings : Surroundings Value Exception m) (fuel : Nat) (first : Tree .statement) (rest : Tree .block) :
    execute surroundings fuel (.ofStatement (.cons first rest)) = precede surroundings (registration (.ofStatement first))
      (execute surroundings fuel (.ofStatement first)) (execute surroundings fuel (.ofStatement rest)) := by
  rw [Hoisted.ofStatement,execute,runAll,pure_bind]

section Rules

variable {Value Exception : Type} {M : Type → Type} [Monad M] [LawfulMonad M]
  (surroundings : Surroundings Value Exception (ExceptT Exception M))
  {body : Scratch VariableSymbol Value Exception M (Completion Value)} {body' : ExceptT Exception M (Completion Value)}

variable {next : Scratch VariableSymbol Value Exception M (Completion Value)} {next' : ExceptT Exception M (Completion Value)}

theorem followedBy_agrees
    (known : Agrees next next') (completion : Completion Value) :
    Agrees (completion.followedBy next) (completion.followedBy next') := by
  cases completion with
  | normal => exact known
  | breaks | continues | returns | ongoing => exact .pure _

theorem turned_agrees
    (known : Agrees next next') (completion : Completion Value) :
    Agrees (completion.turned next) (completion.turned next') := by
  cases completion with
  | normal | continues => exact known
  | breaks | returns | ongoing => exact .pure _

variable {afterRepeat : Scratch VariableSymbol Value Exception M Unit} {afterRepeat' : ExceptT Exception M Unit}

theorem iterate_agrees {test : Scratch VariableSymbol Value Exception M Bool} {test' : ExceptT Exception M Bool}

    (tested : Agrees test test') (turn : Agrees body body') (repeated : Agrees afterRepeat afterRepeat') (fuel : Nat) :
    Agrees (iterate test body afterRepeat fuel) (iterate test' body' afterRepeat' fuel) := by
  induction fuel with
  | zero => exact .pure _
  | succ fuel ih =>
    exact tested.bind fun holds => .choice holds (turn.bind (turned_agrees (repeated.bind fun _ => ih))) (.pure _)

theorem ensuring_agrees {last : Scratch VariableSymbol Value Exception M Unit} {last' : ExceptT Exception M Unit}
    (known : Agrees body body') (lastly : Agrees last last') : Agrees (ensuring body last) (ensuring body' last') :=
  (known.rescue fun exception => lastly.bind fun _ => .raise exception).bind fun _ => lastly.bind fun _ => .pure _

theorem enumerate_agrees {advance : Scratch VariableSymbol Value Exception M Unit} {range range' : Expression .expression}
    (ranges : Prepared advance (evaluate surroundings.onScratch.toHost range' false)
      (evaluate surroundings.toHost range false)) (turn : Agrees body body') (isForEach : Bool) (name : String) (fuel : Nat) :
    Agrees (advance >>= fun _ => enumerate surroundings.onScratch isForEach name range' body fuel)
      (enumerate surroundings isForEach name range body' fuel) :=
  ranges _ _ _ fun _ => (Agrees.lift _).bind fun _ =>
    iterate_agrees (.lift _) ((Agrees.lift _).bind fun _ => turn) (.pure _) fuel

theorem test_boolean {m : Type → Type} [Monad m] [LawfulMonad m] (surroundings : Surroundings Value Exception m) :
    test surroundings (.literalExpression (.boolean true)) = pure true := by
  rw [test,evaluate,pure_bind,surroundings.truth_boolean]

section Tested

variable {advance : Scratch VariableSymbol Value Exception M Unit} {temporary : VariableSymbol}
  {condition : Expression .expression}

theorem turn_tested_agrees

    (delivers : Delivers advance temporary (evaluate surroundings.toHost condition false))
    (turn : Agrees body body') (further : Agrees next next') (isUntil : Bool) :
    Agrees ((advance >>= fun _ => fetch temporary >>= fun value =>
        if surroundings.truth value = isUntil then pure .breaks else body) >>= Completion.turned next)
      (test surroundings condition >>= fun holds =>
        if holds != isUntil then body' >>= Completion.turned next' else pure .normal) := by
  simp only [test,bind_assoc,pure_bind]
  refine delivers.prepared _ _ _ fun value => ?_
  by_cases same : surroundings.truth value = isUntil
  · rw [if_pos same,pure_bind,if_neg (by simp [same])]
    exact .pure _
  · rw [if_neg same,if_pos (by simp [same])]
    exact turn.bind (turned_agrees further)

theorem iterate_tested_agrees

    (delivers : Delivers advance temporary (evaluate surroundings.toHost condition false))
    (turn : Agrees body body') (repeated : Agrees afterRepeat afterRepeat') (isUntil : Bool) (fuel : Nat) :
    Agrees (iterate (test surroundings.onScratch (.literalExpression (.boolean true))) (advance >>= fun _ =>
        fetch temporary >>= fun value => if surroundings.truth value = isUntil then pure .breaks else body) afterRepeat fuel)
      (iterate (test surroundings condition >>= fun holds => pure (holds != isUntil)) body' afterRepeat' fuel) := by
  induction fuel with
  | zero => exact .pure _
  | succ fuel ih =>
    have whole := turn_tested_agrees surroundings delivers turn (repeated.bind fun _ => ih) isUntil
    rw [iterate,iterate,test_boolean,pure_bind]
    rw [test_boolean] at whole
    simpa only [if_true,pure_bind,bind_assoc] using whole

end Tested

end Rules

section Moving

variable {Value Exception : Type} {m : Type → Type} [Monad m] [LawfulMonad m] [MonadExcept Exception m]

theorem execute_append (surroundings : Surroundings Value Exception m) (fuel : Nat) {block : Hoisted .block}
    (plain : registers block = false) (behind : Hoisted .block) :
    execute surroundings fuel (block.append behind) =
      execute surroundings fuel block >>= Completion.followedBy (execute surroundings fuel behind) := by
  cases block with
  | empty => rw [Hoisted.append,execute,pure_bind,Completion.followedBy]
  | cons before first rest =>
    rw [registers,Bool.or_eq_false_iff,Option.isSome_eq_false_iff,Option.isNone_iff_eq_none] at plain
    rw [Hoisted.append,execute,execute,plain.1,bind_assoc]
    refine bind_congr fun _ => ?_
    rw [precede,precede,bind_assoc]
    refine bind_congr fun completion => ?_
    cases completion with
    | normal => exact execute_append surroundings fuel plain.2 behind
    | breaks | continues | returns | ongoing => simp only [Completion.followedBy,pure_bind]
  | tested before isUntil condition rest =>
    rw [registers] at plain
    rw [Hoisted.append,execute,execute,bind_assoc]
    refine bind_congr fun _ => ?_
    rw [bind_assoc]
    refine bind_congr fun value => ?_
    split
    · simp only [Completion.followedBy,pure_bind]
    · exact execute_append surroundings fuel plain behind

end Moving

section Turns

variable {Value Exception : Type} {M : Type → Type} [Monad M] [LawfulMonad M]
  (surroundings : Surroundings Value Exception (ExceptT Exception M)) (fuel : Nat)

abbrev Ends (computation : ExceptT Exception M (Completion Value)) : Prop :=
  Only (fun completion => completion ≠ .continues) computation

theorem followedBy_ends {next : ExceptT Exception M (Completion Value)} (known : Ends next)
    (completion : Completion Value) (ends : completion ≠ .continues) : Ends (completion.followedBy next) := by
  cases completion with
  | normal => exact known
  | breaks | continues | returns | ongoing => exact .pure ends

theorem turned_ends {next : ExceptT Exception M (Completion Value)} (known : Ends next)
    (completion : Completion Value) : Ends (completion.turned next) := by
  cases completion with
  | normal | continues => exact known
  | breaks | returns | ongoing => exact .pure (by simp)

theorem iterate_ends (test : ExceptT Exception M Bool) (body : ExceptT Exception M (Completion Value))
    (afterRepeat : ExceptT Exception M Unit) : Ends (iterate test body afterRepeat fuel) := by
  induction fuel with
  | zero => exact .pure (by simp)
  | succ fuel ih =>
    exact .behind _ fun holds => .choice holds (.behind _ (turned_ends (.behind _ fun _ => ih))) (.pure (by simp))

theorem ensuring_ends {body : ExceptT Exception M (Completion Value)} (known : Ends body)
    (last : ExceptT Exception M Unit) : Ends (ensuring body last) :=
  (known.rescue fun exception => .behind _ fun _ => .raise exception).bind fun _ ends => .behind _ fun _ => .pure ends

def EndsOf : {kind : StatementKind} → Execution Value Exception (ExceptT Exception M) kind → Prop
  | .cases,execution => ∀ scrutinee, Ends (execution scrutinee)
  | .catches,execution => ∀ exception, Ends (execution exception)
  | .statement,execution | .block,execution | .clause,execution | .next,execution => Ends execution

theorem execute_ends {kind : StatementKind} (tree : Tree kind) (none : continuesIn tree = false) :
    EndsOf (execute surroundings fuel (.ofStatement tree)) := by
  induction tree with
  | simple statement => exact .behind _ fun _ => .pure (by simp)
  | returnStatement value => exact .behind _ fun _ => .pure (by simp)
  | throwStatement exception => exact .behind _ fun _ => .behind _ fun exception => .raise exception
  | breakStatement => exact .pure (by simp)
  | continueStatement => cases none
  | deferStatement isResource statement | empty | noNext => exact .pure (by simp)
  | whileStatement condition body | untilStatement condition body => exact iterate_ends fuel _ _ _
  | forStatement initializer condition afterRepeat body => exact .behind _ fun _ => iterate_ends fuel _ _ _
  | forEachStatement name range body | forInStatement name range body =>
    exact .behind _ fun _ => .behind _ fun _ => iterate_ends fuel _ _ _
  | conditional first ih | elseClause body ih | elseIf first ih => exact ih none
  | switchStatement scrutinee cases ih =>
    exact .behind _ fun value => (ih none value).bind fun completion ends => .pure (by cases completion <;> simp_all [Completion.endSwitch])
  | tryStatement body catches ihBody ihCatches =>
    rw [continuesIn,Bool.or_eq_false_iff] at none
    exact (ihBody none.1).rescue (ihCatches none.2)
  | cons first rest ihFirst ihRest =>
    rw [continuesIn,Bool.or_eq_false_iff] at none
    rw [execute_cons]
    have further := followedBy_ends (ihRest none.2)
    rcases registration (.ofStatement first) with _ | ⟨isResource,statement⟩
    · exact (ihFirst none.1).bind further
    · cases isResource with
      | true => exact .behind _ fun _ => ensuring_ends (ihRest none.2) _
      | false => exact ensuring_ends (ihRest none.2) _
  | ifClause negated condition body next ihBody ihNext =>
    rw [continuesIn,Bool.or_eq_false_iff] at none
    exact .behind _ fun holds => .choice (holds == negated) (ihNext none.2) (ihBody none.1)
  | noCase => exact fun _ => .pure (by simp)
  | defaultClause body rest ihBody =>
    rw [continuesIn,Bool.or_eq_false_iff] at none
    exact fun _ => ihBody none.1
  | caseClause pattern body rest ihBody ihRest =>
    rw [continuesIn,Bool.or_eq_false_iff] at none
    exact fun scrutinee => .behind _ fun pattern =>
      .choice (surroundings.takes scrutinee (some pattern)) (ihBody none.1) (ihRest none.2 scrutinee)
  | noCatch => exact fun exception => .raise exception
  | catchClause type name body rest ihBody ihRest =>
    rw [continuesIn,Bool.or_eq_false_iff] at none
    exact fun exception =>
      .choice (surroundings.accepts type exception) (.behind _ fun _ => ihBody none.1) (ihRest none.2 exception)

theorem iterate_moved {body : ExceptT Exception M (Completion Value)} (ends : Ends body)
    (test : ExceptT Exception M Bool) (afterRepeat : ExceptT Exception M Unit) :
    iterate test body afterRepeat fuel =
      iterate test (body >>= Completion.followedBy (afterRepeat >>= fun _ => pure .normal)) (pure ()) fuel := by
  induction fuel with
  | zero => rfl
  | succ fuel ih =>
    rw [iterate,iterate]
    refine bind_congr fun holds => ?_
    cases holds with
    | false => rfl
    | true =>
      simp only [if_true,bind_assoc,pure_bind]
      refine ends.congr fun completion other => ?_
      cases completion with
      | normal => simp [Completion.turned,Completion.followedBy,ih]
      | continues => exact absurd rfl other
      | breaks | returns | ongoing => simp [Completion.turned,Completion.followedBy]

end Turns

section Statements

variable {Value Exception : Type} {M : Type → Type} [Monad M] [LawfulMonad M]
  (surroundings : Surroundings Value Exception (ExceptT Exception M)) (fuel : Nat)

def Preserved : {kind : StatementKind} → Tree kind → Outcome kind → Prop
  | .statement,tree,outcome =>
      (registration outcome.tree = registration (.ofStatement tree) ∧
        ((registration outcome.tree).isSome = true → outcome.before = [])) ∧
      Agrees (runAll surroundings.onScratch outcome.before >>= fun _ => execute surroundings.onScratch fuel outcome.tree)
        (execute surroundings fuel (.ofStatement tree))
  | .block,tree,outcome => outcome.supported = true →
      registers outcome.tree = registers (.ofStatement tree) ∧
        Agrees (execute surroundings.onScratch fuel outcome.tree) (execute surroundings fuel (.ofStatement tree))
  | .clause,tree,outcome =>
      (awaitsInChain tree = false → runAll surroundings.onScratch outcome.before = pure ()) ∧
      Agrees (runAll surroundings.onScratch outcome.before >>= fun _ => execute surroundings.onScratch fuel outcome.tree)
        (execute surroundings fuel (.ofStatement tree))
  | .next,tree,outcome => runAll surroundings.onScratch outcome.before = pure () ∧
      Agrees (execute surroundings.onScratch fuel outcome.tree) (execute surroundings fuel (.ofStatement tree))
  | .catches,tree,outcome => ∀ exception,
      Agrees (execute surroundings.onScratch fuel outcome.tree exception)
        (execute surroundings fuel (.ofStatement tree) exception)
  | .cases,_,_ => True

theorem runAll_single {m : Type → Type} [Monad m] [LawfulMonad m] (surroundings : Surroundings Value Exception m)
    (path : Path) (statements : Prefix) : runAll surroundings [(path,statements)] = statements.run surroundings.toHost := by
  rw [runAll,runAll,bind_pure_unit]

omit [LawfulMonad M] in
theorem Preserved.demanded {body : Tree .block} {block : Hoist (Outcome .block)}
    (known : Yields block fun outcome => Preserved surroundings fuel body outcome) :
    Yields (demanded block) fun body' => registers body' = registers (.ofStatement body) ∧
      Agrees (execute surroundings.onScratch fuel body') (execute surroundings fuel (.ofStatement body)) := by
  refine known.bind fun outcome preserved => ?_
  cases supported : outcome.supported with
  | true => exact .pure (preserved supported)
  | false => exact .failing fun _ => rfl

variable {path : Path}

omit [LawfulMonad M] in
theorem Preserved.found {body : Tree .block} (found : isLost body = false)
    (known : Yields (hoist body true path) fun outcome => Preserved surroundings fuel body outcome) :
    Yields (hoist body true path) fun outcome =>
      Agrees (execute surroundings.onScratch fuel outcome.tree) (execute surroundings fuel (.ofStatement body)) :=
  ((supported_of_found path found).and known).mono fun _ both => (both.2 both.1).2

theorem spillLoopCondition_delivers (isUntil : Bool) (condition : Expression .expression)
    (source : isSource condition = true) (order : spillsInOrder condition = true) :
    Yields (spillLoopCondition isUntil condition) fun tested => ∃ statements temporary,
      tested = .tested statements isUntil temporary ∧
        Delivers (statements.run surroundings.onScratch.toHost) temporary (evaluate surroundings.toHost condition false) := by
  have settled := (spillCondition_settled condition).yields
  refine (settled.and (spillCondition_delivers surroundings condition source order)).bind fun spilled known => ?_
  rw [rehoist_settled known.1.1]
  exact .pure ⟨spilled.1,spilled.2,rfl,known.2⟩

theorem hoistLoopCondition_agrees (condition : Option (Expression .expression)) (source : condition.all isSource = true)
    (still : condition.all (fun condition => lifts condition true == 0) = true) :
    Yields (hoistLoopCondition condition) fun result => result.2.run surroundings.onScratch.toHost = pure () ∧
      Agrees (testOption surroundings.onScratch result.1) (testOption surroundings condition) := by
  cases condition with
  | none => exact .pure ⟨rfl,.pure _⟩
  | some condition =>
    refine (hoistExpression_stands surroundings.toHost condition source true true).map fun result stands => ?_
    rcases (stands false).unmoved (beq_iff_eq.1 still) with ⟨nothing,agrees⟩
    exact ⟨nothing,agrees.bind fun _ => .pure _⟩

def Tests (condition : Option (Expression .expression)) (tested : Hoisted .block → Hoisted .block) : Prop :=
  ∀ {body : Hoisted .block} {body' : ExceptT Exception M (Completion Value)}
    {afterRepeat : Scratch VariableSymbol Value Exception M Unit} {afterRepeat' : ExceptT Exception M Unit},
    Agrees (execute surroundings.onScratch fuel body) body' → Agrees afterRepeat afterRepeat' →
      Agrees (iterate (testOption surroundings.onScratch (if condition.any containsAwait
          then some (.literalExpression (.boolean true)) else condition))
          (execute surroundings.onScratch fuel (tested body)) afterRepeat fuel)
        (iterate (testOption surroundings condition) body' afterRepeat' fuel)

theorem spillForCondition_tests (condition : Option (Expression .expression)) (source : condition.all isSource = true)
    (order : condition.all (fun condition => !containsAwait condition || spillsInOrder condition) = true) :
    Yields (spillForCondition condition) (Tests surroundings fuel condition) := by
  cases condition with
  | none => exact .pure fun agrees repeated => iterate_agrees (.pure _) agrees repeated fuel
  | some condition =>
    rw [Option.all_some] at source order
    rw [spillForCondition]
    cases awaits : containsAwait condition with
    | false =>
      refine .pure fun agrees repeated => ?_
      rw [Option.any_some,awaits]
      exact iterate_agrees (test_agrees surroundings condition source) agrees repeated fuel
    | true =>
      rw [awaits,Bool.not_true,Bool.false_or] at order
      refine (spillLoopCondition_delivers surroundings false condition source order).mono fun tested spilled => ?_
      rcases spilled with ⟨statements,temporary,rfl,delivers⟩
      intro body body' afterRepeat afterRepeat' agrees repeated
      have whole := iterate_tested_agrees surroundings delivers agrees repeated false fuel
      simp only [Bool.bne_false,bind_pure] at whole
      rw [Option.any_some,awaits]
      exact whole

theorem appendAfterRepeat_agrees (path : Path) {body : Hoisted .block} {body' : ExceptT Exception M (Completion Value)}
    (plain : registers body = false) (agrees : Agrees (execute surroundings.onScratch fuel body) body')
    {afterRepeat : Simple (Expression .expression)} (source : afterRepeat.all isSource = true)
    (order : simpleInOrder afterRepeat = true) :
    Yields (appendAfterRepeat path body (some afterRepeat)) fun moved =>
      Agrees (execute surroundings.onScratch fuel moved)
        (body' >>= Completion.followedBy (executeSimple surroundings afterRepeat >>= fun _ => pure .normal)) := by
  refine (hoistSimple_stands surroundings afterRepeat source).map fun result stands => ?_
  have last : execute surroundings.onScratch fuel (.cons [(path,result.2)] (.simple result.1) .empty) =
      result.2.run surroundings.onScratch.toHost >>= fun _ => executeSimple surroundings.onScratch result.1 >>= fun _ =>
        (pure .normal : Scratch VariableSymbol Value Exception M (Completion Value)) := by
    rw [execute,runAll_single]
    simp only [registration,precede,execute,bind_assoc,pure_bind,Completion.followedBy]
  rw [execute_append surroundings.onScratch fuel plain,last]
  exact agrees.bind (followedBy_agrees ((stands.prepared order).followed fun _ => .pure _).agrees)

theorem hoist_cons_supported {first : Tree .statement} {rest : Tree .block} {supported : Bool}
    {state after : HoistState} {outcome : Outcome .block}
    (come : hoist (.cons first rest) supported path state = (some outcome,after)) (supports : outcome.supported = true) :
    ∃ first' middle rest', hoist first true (0 :: path) state = (some first',middle) ∧
      hoist rest true (1 :: path) middle = (some rest',after) ∧
      outcome = ⟨.cons first'.before first'.tree rest'.tree,[],rest'.supported⟩ := by
  simp only [hoist] at come
  split at come
  · cases come
    cases supports
  · rename_i first' middle ran
    split at come
    · cases come
    · rename_i rest' last ran'
      cases come
      exact ⟨first',middle,rest',ran,ran',rfl⟩

theorem precede_agrees {first : Tree .statement} {before : List (Path × Prefix)} {first' : Hoisted .statement}
    {rest : Scratch VariableSymbol Value Exception M (Completion Value)} {rest' : ExceptT Exception M (Completion Value)}
    (same : registration first' = registration (.ofStatement first) ∧
      ((registration first').isSome = true → before = []))
    (one : Agrees (runAll surroundings.onScratch before >>= fun _ => execute surroundings.onScratch fuel first')
      (execute surroundings fuel (.ofStatement first)))
    (two : Agrees rest rest') (source : first.all isSource = true) :
    Agrees (runAll surroundings.onScratch before >>= fun _ =>
        precede surroundings.onScratch (registration first') (execute surroundings.onScratch fuel first') rest)
      (precede surroundings (registration (.ofStatement first)) (execute surroundings fuel (.ofStatement first)) rest') := by
  rw [same.1]
  cases registered : registration (.ofStatement first) with
  | none =>
    have whole := one.bind (followedBy_agrees two)
    rwa [bind_assoc] at whole
  | some entry =>
    rw [same.2 (by rw [same.1,registered]; rfl)]
    rcases entry with ⟨isResource,statement⟩
    have sources : statement.all isSource = true := by
      cases first <;> cases registered
      exact source
    have executed := executeSimple_agrees surroundings statement sources
    cases isResource with
    | true => exact .started (executed.bind fun _ => ensuring_agrees two (.lift _))
    | false => exact .started (ensuring_agrees two executed)

theorem spilledWhile_preserves {condition : Expression .expression} {body : Tree .block}
    (awaits : containsAwait condition = true) (source : isSource condition = true)
    (order : spillsInOrder condition = true)
    (known : Yields (hoist body true (0 :: path)) fun outcome => Preserved surroundings fuel body outcome)
    (supported : Bool) : Yields (hoist (.whileStatement condition body) supported path) fun outcome =>
      Preserved surroundings fuel (.whileStatement condition body) outcome := by
  rw [hoist,if_pos awaits]
  refine (spillLoopCondition_delivers surroundings false condition source order).bind fun tested spilled =>
    (Preserved.demanded surroundings fuel known).map fun body' agrees => ?_
  rcases spilled with ⟨statements,temporary,rfl,delivers⟩
  have whole := iterate_tested_agrees surroundings delivers agrees.2 (.pure ()) false fuel
  simp only [Bool.bne_false,bind_pure] at whole
  exact ⟨⟨rfl,by simp [registration]⟩,.started whole⟩

theorem spilledUntil_preserves {condition : Expression .expression} {body : Tree .block}
    (awaits : containsAwait condition = true) (source : isSource condition = true)
    (order : spillsInOrder condition = true)
    (known : Yields (hoist body true (0 :: path)) fun outcome => Preserved surroundings fuel body outcome)
    (supported : Bool) : Yields (hoist (.untilStatement condition body) supported path) fun outcome =>
      Preserved surroundings fuel (.untilStatement condition body) outcome := by
  rw [hoist,if_pos awaits]
  refine (spillLoopCondition_delivers surroundings true condition source order).bind fun tested spilled =>
    (Preserved.demanded surroundings fuel known).map fun body' agrees => ?_
  rcases spilled with ⟨statements,temporary,rfl,delivers⟩
  have whole := iterate_tested_agrees surroundings delivers agrees.2 (.pure ()) true fuel
  simp only [Bool.bne_true] at whole
  exact ⟨⟨rfl,by simp [registration]⟩,.started whole⟩

theorem awaitedFor_preserves {initializer : Option (Simple (Expression .expression))}
    {condition : Option (Expression .expression)} {afterRepeat : Option (Simple (Expression .expression))}
    {body : Tree .block} (awaits : awaitsInLoop condition afterRepeat = true)
    (source : (Statement.forStatement initializer condition afterRepeat body).all isSource = true)
    (starts : initializer.all simpleInOrder = true)
    (order : condition.all (fun condition => !containsAwait condition || spillsInOrder condition) = true)
    (moves : hasAwait afterRepeat = true → afterRepeat.all simpleInOrder = true ∧
      Ends (execute surroundings fuel (.ofStatement body)) ∧ registers (.ofStatement body) = false)
    (known : Yields (hoist body true (0 :: path)) fun outcome => Preserved surroundings fuel body outcome)
    (supported : Bool) : Yields (hoist (.forStatement initializer condition afterRepeat body) supported path) fun outcome =>
      Preserved surroundings fuel (.forStatement initializer condition afterRepeat body) outcome := by
  simp only [Statement.all,Bool.and_eq_true] at source
  have either : (condition.any containsAwait || hasAwait afterRepeat) = true := awaits
  rw [hoist]
  refine (hoistOptionalSimple_stands surroundings initializer source.1).bind fun initializer' stands => ?_
  simp only [either,if_true]
  refine (spillForCondition_tests surroundings fuel condition source.2.1 order).bind fun tested tests =>
    (Preserved.demanded surroundings fuel known).bind fun body' agrees => ?_
  cases moved : hasAwait afterRepeat with
  | false =>
    refine .pure ⟨⟨rfl,by simp [registration]⟩,?_⟩
    rw [runAll_single]
    exact stands.prepared starts _ _ _ fun _ =>
      tests agrees.2 (executeOptional_agrees surroundings afterRepeat source.2.2.1)
  | true =>
    cases afterRepeat with
    | none => cases moved
    | some afterRepeat =>
      obtain ⟨repeats,ends,plain⟩ := moves moved
      refine (appendAfterRepeat_agrees surroundings fuel path (agrees.1.trans plain) agrees.2 source.2.2.1 repeats).map
        fun body'' agrees' => ⟨⟨rfl,by simp [registration]⟩,?_⟩
      rw [runAll_single]
      apply stands.prepared starts
      intro _
      have whole := tests agrees' (.pure ())
      rw [← iterate_moved fuel ends] at whole
      exact whole

theorem hoist_preserves {kind : StatementKind} (tree : Tree kind) (source : tree.all isSource = true)
    (order : keepsOrder tree = true) (supported : Bool) (path : Path) :
    Yields (hoist tree supported path) fun outcome => Preserved surroundings fuel tree outcome := by
  induction tree generalizing supported path with
  | simple statement =>
    refine (hoistSimple_stands surroundings statement source).map fun result stands => ⟨⟨rfl,by simp [registration]⟩,?_⟩
    rw [runAll_single]
    exact ((stands.prepared order).followed fun _ => .pure _).agrees
  | returnStatement value =>
    refine (hoistOption_stands surroundings value source).map fun result stands => ⟨⟨rfl,by simp [registration]⟩,?_⟩
    rw [runAll_single]
    exact ((stands.prepared order).followed fun _ => .pure _).agrees
  | throwStatement exception =>
    refine (hoistThrown_stands surroundings exception source).map fun result stands => ⟨⟨rfl,by simp [registration]⟩,?_⟩
    rw [runAll_single]
    exact ((stands.prepared order).followed fun _ => (Agrees.lift _).bind fun exception => .raise exception).agrees
  | breakStatement | continueStatement => exact .pure ⟨⟨rfl,by simp [registration]⟩,.started (.pure _)⟩
  | deferStatement isResource statement => exact .pure ⟨⟨rfl,fun _ => rfl⟩,.started (.pure _)⟩
  | switchStatement scrutinee cases => exact .failing fun _ => rfl
  | noCase => exact .failing fun _ => rfl
  | defaultClause body rest => exact .failing fun _ => rfl
  | caseClause pattern body rest => exact .failing fun _ => rfl
  | whileStatement condition body ih =>
    rw [Statement.all,Bool.and_eq_true] at source
    rw [keepsOrder,Bool.and_eq_true] at order
    have known := ih source.2 order.1 true (0 :: path)
    cases awaits : containsAwait condition with
    | true =>
      rw [if_pos awaits] at order
      exact spilledWhile_preserves surroundings fuel awaits source.1 order.2 known supported
    | false =>
      rw [if_neg (by simp [awaits]),Bool.and_eq_true,beq_iff_eq,Bool.not_eq_true'] at order
      rw [hoist,if_neg (by simp [awaits])]
      refine (hoistExpression_stands surroundings.toHost condition source.1 true true).bind fun condition' stands =>
        (Preserved.found surroundings fuel order.2.2 known).map fun body agrees => ⟨⟨rfl,by simp [registration]⟩,?_⟩
      obtain ⟨still,tested⟩ := (stands false).unmoved order.2.1
      rw [runAll_single,Surroundings.onScratch_toHost,still]
      exact .started (iterate_agrees (tested.bind fun _ => .pure _) agrees (.pure ()) fuel)
  | untilStatement condition body ih =>
    rw [Statement.all,Bool.and_eq_true] at source
    rw [keepsOrder,Bool.and_eq_true] at order
    have known := ih source.2 order.1 true (0 :: path)
    cases awaits : containsAwait condition with
    | true =>
      rw [if_pos awaits] at order
      exact spilledUntil_preserves surroundings fuel awaits source.1 order.2 known supported
    | false =>
      rw [if_neg (by simp [awaits]),Bool.and_eq_true,beq_iff_eq,Bool.not_eq_true'] at order
      rw [hoist,if_neg (by simp [awaits])]
      refine (hoistExpression_stands surroundings.toHost condition source.1 true true).bind fun condition' stands =>
        (Preserved.found surroundings fuel order.2.2 known).map fun body agrees => ⟨⟨rfl,by simp [registration]⟩,?_⟩
      obtain ⟨still,tested⟩ := (stands false).unmoved order.2.1
      rw [runAll_single,Surroundings.onScratch_toHost,still]
      exact .started (iterate_agrees ((tested.bind fun _ => .pure _).bind fun _ => .pure _) agrees (.pure ()) fuel)
  | forStatement initializer condition afterRepeat body ih =>
    rw [keepsOrder,Bool.and_eq_true,Bool.and_eq_true] at order
    have sources := source
    simp only [Statement.all,Bool.and_eq_true] at sources
    have known := ih sources.2.2.2 order.2.1 true (0 :: path)
    cases awaits : awaitsInLoop condition afterRepeat with
    | false =>
      have apart := Bool.or_eq_false_iff.1 awaits
      simp only [awaits,Bool.false_eq_true,if_false,Bool.and_eq_true,beq_iff_eq,Bool.not_eq_true'] at order
      rw [hoist]
      simp only [apart.1,apart.2,Bool.or_self,Bool.false_eq_true,if_false]
      refine (hoistOptionalSimple_stands surroundings initializer sources.1).bind fun initializer' stands =>
        (hoistLoopCondition_agrees surroundings condition sources.2.1 order.2.2.1).bind fun condition' tested =>
          (hoistOptionalSimple_stands surroundings afterRepeat sources.2.2.1).bind fun afterRepeat' stands' =>
            (Preserved.found surroundings fuel order.2.2.2.2 known).map fun body agrees =>
              ⟨⟨rfl,by simp [registration]⟩,?_⟩
      obtain ⟨still,repeated⟩ := stands'.unmoved order.2.2.2.1
      rw [runAll,runAll,runAll_single,still,tested.1,bind_pure_unit,bind_pure_unit]
      exact stands.prepared order.1 _ _ _ fun _ => iterate_agrees tested.2 agrees repeated fuel
    | true =>
      rw [if_pos awaits,Bool.and_eq_true] at order
      apply awaitedFor_preserves surroundings fuel awaits source order.1 order.2.2.1 _ known supported
      intro moved
      simp only [moved,Bool.not_true,Bool.false_or,Bool.and_eq_true,Bool.not_eq_true'] at order
      exact ⟨order.2.2.2.1,execute_ends surroundings fuel body order.2.2.2.2.1,order.2.2.2.2.2⟩
  | forEachStatement name range body ih =>
    rw [Statement.all,Bool.and_eq_true] at source
    simp only [keepsOrder,Bool.and_eq_true,Bool.not_eq_true'] at order
    rw [hoist]
    refine (hoistRange_prepared surroundings range source.1 order.1).bind fun range prepared =>
      (Preserved.found surroundings fuel order.2.2 (ih source.2 order.2.1 true (0 :: path))).map fun body agrees =>
        ⟨⟨rfl,by simp [registration]⟩,?_⟩
    rw [runAll_single]
    exact enumerate_agrees surroundings prepared agrees true name fuel
  | forInStatement name range body ih =>
    rw [Statement.all,Bool.and_eq_true] at source
    simp only [keepsOrder,Bool.and_eq_true,Bool.not_eq_true'] at order
    rw [hoist]
    refine (hoistRange_prepared surroundings range source.1 order.1).bind fun range prepared =>
      (Preserved.found surroundings fuel order.2.2 (ih source.2 order.2.1 true (0 :: path))).map fun body agrees =>
        ⟨⟨rfl,by simp [registration]⟩,?_⟩
    rw [runAll_single]
    exact enumerate_agrees surroundings prepared agrees false name fuel
  | conditional first ih =>
    rw [hoist]
    exact (ih source order true (0 :: path)).map fun first preserved => ⟨⟨rfl,by simp [registration]⟩,preserved.2⟩
  | tryStatement body catches ihBody ihCatches =>
    rw [Statement.all,Bool.and_eq_true] at source
    rw [keepsOrder,Bool.and_eq_true] at order
    rw [hoist]
    refine (Preserved.demanded surroundings fuel (ihBody source.1 order.1 false (0 :: path))).bind fun body agrees =>
      (ihCatches source.2 order.2 true (1 :: path)).map fun catches handled => ⟨⟨rfl,by simp [registration]⟩,?_⟩
    exact .started (agrees.2.rescue handled)
  | empty => exact .pure fun _ => ⟨rfl,.pure _⟩
  | cons first rest ihFirst ihRest =>
    rw [Statement.all,Bool.and_eq_true] at source
    rw [keepsOrder,Bool.and_eq_true] at order
    intro state outcome after come supported
    rcases hoist_cons_supported come supported with ⟨first',middle,rest',ran,ran',rfl⟩
    have one := ihFirst source.1 order.1 true (0 :: path) _ _ _ ran
    have two := ihRest source.2 order.2 true (1 :: path) _ _ _ ran' supported
    refine ⟨?_,?_⟩
    · simp only [Hoisted.ofStatement,registers,one.1.1,two.1]
    · rw [execute_cons]
      exact precede_agrees surroundings fuel one.1 one.2 two.2 source.1
  | ifClause negated condition body next ihBody ihNext =>
    simp only [Statement.all,Bool.and_eq_true] at source
    simp only [keepsOrder,Bool.and_eq_true] at order
    rw [hoist]
    refine (hoistCondition_prepared surroundings condition source.1).bind fun condition tested =>
      (Preserved.demanded surroundings fuel (ihBody source.2.1 order.2.1 false (0 :: path))).bind fun body agrees =>
        (ihNext source.2.2 order.2.2 true (1 :: path)).map fun next agrees' => ?_
    refine ⟨fun silent => ?_,?_⟩
    · rw [awaitsInChain,Bool.or_eq_false_iff] at silent
      rw [runAll,tested.1 silent.1,Prefix.run,pure_bind,agrees'.1]
    · rw [runAll,agrees'.1,bind_pure_unit]
      exact tested.2 order.1 _ _ _ fun holds => .choice (holds == negated) agrees'.2 agrees.2
  | noNext => exact .pure ⟨rfl,.pure _⟩
  | elseClause body ih =>
    rw [hoist]
    exact (Preserved.demanded surroundings fuel (ih source order false (0 :: path))).map fun body agrees => ⟨rfl,agrees.2⟩
  | elseIf clause ih =>
    rw [keepsOrder,Bool.and_eq_true,Bool.not_eq_true'] at order
    rw [hoist]
    refine (ih source order.2 true (0 :: path)).map fun clause preserved => ⟨preserved.1 order.1,?_⟩
    have agrees := preserved.2
    rwa [preserved.1 order.1,pure_bind] at agrees
  | noCatch => exact .pure fun exception => .raise exception
  | catchClause type name body rest ihBody ihRest =>
    rw [Statement.all,Bool.and_eq_true] at source
    rw [keepsOrder,Bool.and_eq_true] at order
    rw [hoist]
    refine (Preserved.demanded surroundings fuel (ihBody source.1 order.1 true (0 :: path))).bind fun body agrees =>
      (ihRest source.2 order.2 true (1 :: path)).map fun rest handled exception => ?_
    exact .choice (surroundings.accepts type exception) ((Agrees.lift _).bind fun _ => agrees.2) (handled exception)

end Statements

end ShardScript.Hoisting
