import ShardScript.Semantic.EffectSoundness

/-! The statements of a body, from the inside out, and the runs of whole methods. -/
namespace ShardScript.Semantic
open Library Behaviour Syntax

section Statements

variable {TypeSymbol Lambda : Type} {types : TypeModel TypeSymbol} {hiddenOf : MethodSymbol → List Site}
  {records : Records TypeSymbol} {final : Summaries TypeSymbol} {strict : Prop}
  {execute : MethodSymbol → Behaviour (Happening TypeSymbol) (Raised TypeSymbol)}
  {method : MethodSymbol} {sites : List Site} {context : Context TypeSymbol}
  {typeOf : Expression Lambda .expression → Option TypeSymbol} {current : Option MethodSymbol}

abbrev BodyRuns (TypeSymbol Lambda : Type) :=
  Behaviour (Event (Expression Lambda .expression) TypeSymbol (Happening TypeSymbol)) (Jump (Raised TypeSymbol))

variable (types hiddenOf final strict method sites context) in
abbrev SafeRuns (behaviour : BodyRuns TypeSymbol Lambda) : Prop :=
  Ensures behaviour (fun event => strict → Heard hiddenOf sites (.ofEvent event))
    (fun event => Summarized hiddenOf (final method) sites (.ofEvent event))
    (fun ending => strict → ∀ exception, ending = .jump (.throws (some exception)) →
      Accounted types (final method) context.tryCatchStack exception)

namespace SafeRuns

variable {first second : BodyRuns TypeSymbol Lambda}

theorem done : SafeRuns types hiddenOf final strict method sites context (.done : BodyRuns TypeSymbol Lambda) :=
  Ensures.done (by simp)

theorem seq (one : SafeRuns types hiddenOf final strict method sites context first)
    (two : SafeRuns types hiddenOf final strict method sites context second) :
    SafeRuns types hiddenOf final strict method sites context (.seq first second) :=
  Ensures.seq one (fun _ _ => id) fun _ => two

theorem either (one : SafeRuns types hiddenOf final strict method sites context first)
    (two : SafeRuns types hiddenOf final strict method sites context second) :
    SafeRuns types hiddenOf final strict method sites context (.either first second) :=
  Ensures.either one two

theorem unwinding (one : SafeRuns types hiddenOf final strict method sites context first)
    (two : SafeRuns types hiddenOf final strict method sites context second) :
    SafeRuns types hiddenOf final strict method sites context (.unwinding first second) :=
  Ensures.unwinding one two fun _ _ => id

theorem leave {jump : Jump (Raised TypeSymbol)} (plain : ∀ raised, jump ≠ .throws raised) :
    SafeRuns types hiddenOf final strict method sites context (.leave jump : BodyRuns TypeSymbol Lambda) := by
  refine Ensures.leave ?_
  intro _ exception same
  cases same
  exact absurd rfl (plain _)

theorem inner (meaning : Meaning (Expression Lambda .expression) TypeSymbol (Happening TypeSymbol) (Raised TypeSymbol))
    {behaviour : Behaviour (Happening TypeSymbol) (Raised TypeSymbol)}
    (safe : Safe types hiddenOf final strict method sites context behaviour) :
    SafeRuns types hiddenOf final strict method sites context (meaning.inner behaviour) := by
  refine Ensures.map safe ?_
  intro ending ends strictly exception same
  cases ending with
  | normal | ongoing => cases same
  | jump raised =>
    cases same
    exact ends strictly exception rfl

theorem turn (meaning : Meaning (Expression Lambda .expression) TypeSymbol (Happening TypeSymbol) (Raised TypeSymbol))
    (one : SafeRuns types hiddenOf final strict method sites context first) :
    SafeRuns types hiddenOf final strict method sites context (meaning.turn first) := by
  refine Ensures.rescue one (fun _ _ => id) ?_
  intro jump ends
  cases jump with
  | continues => exact done
  | breaks | returns | throws => exact Ensures.leave ends

theorem loop (meaning : Meaning (Expression Lambda .expression) TypeSymbol (Happening TypeSymbol) (Raised TypeSymbol))
    {again last turn : BodyRuns TypeSymbol Lambda}
    (one : SafeRuns types hiddenOf final strict method sites context again)
    (two : SafeRuns types hiddenOf final strict method sites context last)
    (three : SafeRuns types hiddenOf final strict method sites context turn) :
    SafeRuns types hiddenOf final strict method sites context (meaning.loop again last turn) := by
  refine Ensures.rescue (seq (Ensures.many (one.seq three) (by simp)) two) (fun _ _ => id) ?_
  intro jump ends
  cases jump with
  | breaks => exact done
  | continues | returns | throws => exact Ensures.leave ends

end SafeRuns

variable (callees : Callees types hiddenOf final strict execute)
  (settled : Settled types records final method) (sync : strict → method.isAsync = false)

include callees settled sync

theorem optional_safe (value : Option (Expression Lambda .expression))
    (covers : Covers records sites method (visitOptional types typeOf context value) current) :
    SafeRuns types hiddenOf final strict method sites context
      ((effectMeaning execute types typeOf).optional value) := by
  cases value with
  | none => exact .done
  | some expression => exact .inner (effectMeaning execute types typeOf) (expression_safe callees settled sync expression false covers)

theorem simple_safe (statement : Simple (Expression Lambda .expression))
    (covers : Covers records sites method (visitSimple types typeOf context statement) current) :
    SafeRuns types hiddenOf final strict method sites context
      ((effectMeaning execute types typeOf).simple statement) := by
  cases statement with
  | expressionStatement expression => exact .inner (effectMeaning execute types typeOf) (expression_safe callees settled sync expression false covers)
  | variableStatement name value => exact optional_safe callees settled sync value covers

theorem optionalSimple_safe (statement : Option (Simple (Expression Lambda .expression)))
    (covers : Covers records sites method (visitOptionalSimple types typeOf context statement) current) :
    SafeRuns types hiddenOf final strict method sites context
      ((effectMeaning execute types typeOf).optionalSimple statement) := by
  cases statement with
  | none => exact .done
  | some statement => exact simple_safe callees settled sync statement covers

theorem scanStatement_safe (statement : Simple (Expression Lambda .expression))
    (covers : Covers records sites method (scanStatement types typeOf context statement) current) :
    SafeRuns types hiddenOf final strict method sites context
      ((effectMeaning execute types typeOf).simple statement) := by
  cases statement with
  | expressionStatement expression => exact .inner (effectMeaning execute types typeOf) (expression_safe callees settled sync expression false covers)
  | variableStatement name value => exact optional_safe callees settled sync value covers.passedBy

theorem unwound_safe (first : Statement (Expression Lambda .expression) TypeSymbol .statement) (path : Path)
    (covers : Covers records sites method (analyzeStatement types typeOf first context path) current)
    {rest : BodyRuns TypeSymbol Lambda}
    (safe : SafeRuns types hiddenOf final strict method sites context rest) :
    SafeRuns types hiddenOf final strict method sites context
      ((effectMeaning execute types typeOf).unwound first rest) := by
  cases first with
  | deferStatement isResource statement =>
    cases isResource with
    | true => exact safe.unwinding (.inner (effectMeaning execute types typeOf) Safe.indirectCall)
    | false => exact safe.unwinding (simple_safe callees settled sync statement covers)
  | simple | returnStatement | throwStatement | breakStatement | continueStatement | whileStatement
  | untilStatement | forStatement | forEachStatement | forInStatement | conditional | switchStatement
  | tryStatement => exact safe

omit callees settled sync

/-- The exception that is being handled is one that the innermost catch clause takes. -/
def Handles (types : TypeModel TypeSymbol) (context : Context TypeSymbol) (handled : Raised TypeSymbol) : Prop :=
  ∀ exception, handled = some exception →
    types.isAssignableTo (context.currentCatchExceptionType.getD types.any) exception = true

/-- What is known where a part of the body is come to: a `throw` of a statement is heard, and the exception
that comes to the clauses of a `try` is accounted for by one of them, or around them. -/
def Ready (types : TypeModel TypeSymbol) (final : Summaries TypeSymbol) (strict : Prop) (method : MethodSymbol)
    (sites : List Site) (context : Context TypeSymbol) (handled : Raised TypeSymbol) (path : Path) :
    {kind : StatementKind} → Statement (Expression Lambda .expression) TypeSymbol kind → Prop
  | .statement,_ => (strict → Site.throwing path ∉ sites) ∧ Handles types context handled
  | .catches,chain => strict → ∀ exception, handled = some exception → ∃ thrownType,
      types.isAssignableTo thrownType exception = true ∧
        (isCaughtBy types [.ofClauses chain] thrownType = true ∨ isCaughtBy types context.tryCatchStack thrownType = true ∨
          thrownType ∈ (final method).thrownTypes)
  | _,_ => Handles types context handled

include settled in
theorem throw_safe (plain : strict → context.isAsync = false) {path : Path}
    (exception : Option (Expression Lambda .expression)) {raised : Raised TypeSymbol}
    (covers : Covers records sites method (recordThrow types typeOf context exception path) current)
    (heard : strict → Site.throwing path ∉ sites)
    (assignable : ∀ known, raised = some known →
      types.isAssignableTo (thrownType types typeOf context exception) known = true) :
    SafeRuns types hiddenOf final strict method sites context
      (.leave (.throws raised) : BodyRuns TypeSymbol Lambda) := by
  refine Ensures.leave ?_
  intro strictly known same
  cases same
  have recorded := covers.record (heard strictly) _ (List.mem_singleton.2 rfl)
  refine ⟨thrownType types typeOf context exception,assignable known rfl,?_⟩
  rw [Context.isCaughtByActiveTry,plain strictly] at recorded
  cases caught : isCaughtBy types context.tryCatchStack (thrownType types typeOf context exception) with
  | true => exact .inl rfl
  | false =>
    rw [caught] at recorded
    exact .inr (settled.throws _ recorded)

theorem ready_of_try (chain : Statement (Expression Lambda .expression) TypeSymbol .catches) {path : Path}
    {raised : Raised TypeSymbol}
    (accounted : strict → ∀ exception, raised = some exception → Accounted types (final method)
      (if chain.isNoCatch then context else context.pushTryCatch (.ofClauses chain)).tryCatchStack exception) :
    Ready types final strict method sites context raised path chain := by
  intro strictly exception known
  rcases accounted strictly exception known with ⟨thrownType,assignable,origin⟩
  refine ⟨thrownType,assignable,?_⟩
  split at origin
  · exact .inr origin
  · rw [Context.pushTryCatch,isCaughtBy_cons,Bool.or_eq_true,or_assoc] at origin
    exact origin

variable {handled : Raised TypeSymbol}

theorem ready_of_catchClause
    (transitive : strict → ∀ target middle source, types.isAssignableTo target middle = true →
      types.isAssignableTo middle source = true → types.isAssignableTo target source = true)
    {type : Option TypeSymbol} {name : Option String}
    {body : Statement (Expression Lambda .expression) TypeSymbol .block}
    {rest : Statement (Expression Lambda .expression) TypeSymbol .catches}
    {path path' : Path}
    (ready : Ready types final strict method sites context handled path (.catchClause type name body rest))
    (passed : ¬ (effectMeaning execute types typeOf).Takes type handled) :
    Ready types final strict method sites context handled path' rest := by
  intro strictly exception known
  cases type with
  | none => exact absurd trivial passed
  | some type =>
    rcases ready strictly exception known with ⟨thrownType,assignable,caught | origin⟩
    · refine ⟨thrownType,assignable,.inl ?_⟩
      rw [isCaughtBy_singleton,TryCatchFrame.ofClauses,List.any_cons,Bool.or_eq_true,Bool.or_eq_true] at caught
      rw [isCaughtBy_singleton,Bool.or_eq_true]
      rcases caught with all | takes | others
      · exact .inl all
      · exact absurd ⟨exception,known,transitive strictly _ _ _ takes assignable⟩ passed
      · exact .inr others
    · exact ⟨thrownType,assignable,.inr origin⟩

theorem handles_of_takes {type : Option TypeSymbol}
    (takes : (effectMeaning execute types typeOf).Takes type handled) :
    Handles types (context.pushCatchException types type) handled := by
  intro exception known
  cases type with
  | none => exact types.isAssignableTo_any exception
  | some type =>
    rcases takes with ⟨taken,same,assignable⟩
    rw [same] at known
    cases known
    exact assignable

include callees settled sync

theorem statement_safe {kind : StatementKind} (statement : Statement (Expression Lambda .expression) TypeSymbol kind)
    (plain : strict → context.isAsync = false) (handled : Raised TypeSymbol) (path : Path)
    (covers : Covers records sites method (analyzeStatement types typeOf statement context path) current)
    (ready : Ready types final strict method sites context handled path statement) :
    SafeRuns types hiddenOf final strict method sites context
      (statement.runs (effectMeaning execute types typeOf) handled path) := by
  induction statement generalizing context handled path current with
  | simple statement => exact simple_safe callees settled sync statement covers
  | returnStatement value =>
    exact (optional_safe callees settled sync value covers).seq (.leave (by simp))
  | throwStatement exception =>
    cases exception with
    | none => exact throw_safe settled plain none covers.right ready.1 ready.2
    | some exception =>
      refine SafeRuns.seq (optional_safe callees settled sync (some exception) covers.left) ?_
      intro events ending run
      rcases run with ⟨raised,denotes,run⟩
      exact throw_safe settled plain (some exception) covers.right ready.1 denotes events ending run
  | breakStatement | continueStatement | noCase => exact .leave (by simp)
  | whileStatement condition body ih | untilStatement condition body ih =>
    have tested := expression_safe callees settled sync condition false covers.left
    exact .loop _ (.inner _ tested) (.inner _ tested)
      (.turn (effectMeaning execute types typeOf) (ih plain handled _ covers.right ready.2))
  | forStatement initializer condition afterRepeat body ih =>
    refine (optionalSimple_safe callees settled sync initializer covers.left).seq ?_
    have tested := optional_safe callees settled sync condition covers.right.left
    refine .loop (effectMeaning execute types typeOf) tested ?_
      ((SafeRuns.turn (effectMeaning execute types typeOf)
        (ih plain handled _ covers.right.right.left ready.2)).seq
          (optionalSimple_safe callees settled sync afterRepeat covers.right.right.right.left))
    cases condition with
    | none => exact Ensures.stall (by simp)
    | some condition => exact tested
  | forEachStatement name range body ih | forInStatement name range body ih =>
    have ranged := expression_safe callees settled sync range false covers.left
    have advanced : SafeRuns types hiddenOf final strict method sites context
        ((effectMeaning execute types typeOf).inner ((effectMeaning execute types typeOf).advance range)) :=
      .inner (effectMeaning execute types typeOf) (Safe.done.either Safe.indirectCall)
    exact (SafeRuns.inner (effectMeaning execute types typeOf) ranged).seq
      (.loop (effectMeaning execute types typeOf) advanced advanced
        (.turn (effectMeaning execute types typeOf) (ih plain handled _ covers.right ready.2)))
  | conditional first ih => exact ih plain handled _ covers ready.2
  | switchStatement scrutinee cases ih =>
    have examined := expression_safe callees settled sync scrutinee false covers.left
    refine (SafeRuns.inner (effectMeaning execute types typeOf) examined).seq
      (Ensures.rescue (ih plain handled _ covers.right ready.2) (fun _ _ => id) ?_)
    intro jump ends
    cases jump with
    | breaks => exact .perform (fun _ => ⟨False.elim,False.elim,fun _ => False.elim⟩) (by simp)
    | continues | returns | throws => exact Ensures.leave ends
  | tryStatement body catches ihBody ihCatches =>
    have tried : Ensures (body.runs (effectMeaning execute types typeOf) handled (0 :: path))
        (fun event => strict → Heard hiddenOf sites (.ofEvent event))
        (fun event => Summarized hiddenOf (final method) sites (.ofEvent event))
        (fun ending => strict → ∀ exception, ending = .jump (.throws (some exception)) →
          Accounted types (final method)
            (if catches.isNoCatch then context else context.pushTryCatch (.ofClauses catches)).tryCatchStack exception) := by
      have first := covers.left
      cases known : catches.isNoCatch with
      | true =>
        rw [known,if_pos rfl] at first
        exact ihBody plain handled _ first ready.2
      | false =>
        rw [known,if_neg (by simp)] at first
        have plain : strict → (context.pushTryCatch (.ofClauses catches)).isAsync = false := plain
        have safe := ihBody plain handled _ first ready.2
        exact safe
    refine Ensures.rescue tried ?_ ?_
    · intro ending stays _ _ exception jumps
      exact absurd jumps (stays _)
    · intro jump ends
      cases jump with
      | throws raised =>
        refine ihCatches plain raised _ covers.right (ready_of_try catches ?_)
        intro strictly exception known
        exact ends strictly exception (by rw [known])
      | breaks | continues | returns => exact .leave (by simp)
  | deferStatement isResource statement =>
    cases isResource with
    | true => exact simple_safe callees settled sync statement covers
    | false => exact .done
  | empty | noNext => exact .done
  | cons first rest ihFirst ihRest =>
    have reached : Ensures (.perform (.reached (0 :: path)) : BodyRuns TypeSymbol Lambda)
        (fun event => strict → Heard hiddenOf sites (.ofEvent event))
        (fun event => Summarized hiddenOf (final method) sites (.ofEvent event))
        fun ending => ending = .normal ∧ (strict → Site.throwing (0 :: path) ∉ sites) :=
      .perform (fun _ => ⟨False.elim,False.elim,fun _ => False.elim⟩) fun heard => ⟨rfl,heard⟩
    refine Ensures.seq reached (fun _ abrupt ends => absurd ends.1 abrupt) fun ends => ?_
    refine (ihFirst plain handled _ covers.left ⟨ends.2,ready⟩).seq
      (unwound_safe callees settled sync first _ covers.left ?_)
    have behind := covers.right
    split at behind
    · exact ihRest plain handled _ behind.passedBy ready
    · exact ihRest plain handled _ behind ready
  | ifClause negated condition body next ihBody ihNext =>
    exact (scanStatement_safe callees settled sync condition covers.left).seq
      ((ihBody plain handled _ covers.right.left ready).either (ihNext plain handled _ covers.right.right.left ready))
  | elseClause body ih => exact ih plain handled _ covers ready
  | elseIf clause ih => exact ih plain handled _ covers ready
  | defaultClause body rest ihBody ihRest => exact ihBody plain handled _ covers.left ready
  | caseClause pattern body rest ihBody ihRest =>
    exact (SafeRuns.inner (effectMeaning execute types typeOf)
      (expression_safe callees settled sync pattern false covers.left)).seq
        ((ihBody plain handled _ covers.right.left ready).either
          (ihRest plain handled _ covers.right.right.left ready))
  | noCatch =>
    refine Ensures.leave ?_
    intro strictly exception same
    cases same
    rcases ready strictly exception rfl with ⟨thrownType,assignable,caught | origin⟩
    · simp [isCaughtBy_singleton,TryCatchFrame.ofClauses] at caught
    · exact ⟨thrownType,assignable,origin⟩
  | catchClause type name body rest ihBody ihRest =>
    intro events ending run
    rcases run with ⟨takes,run⟩ | ⟨passed,run⟩
    · have plain : strict → (context.pushCatchException types type).isAsync = false := plain
      have safe := ihBody plain handled _ covers.left (handles_of_takes takes)
      exact safe events ending run
    · exact ihRest plain handled _ covers.right (ready_of_catchClause callees.transitive ready passed) events ending run

end Statements

end ShardScript.Semantic
