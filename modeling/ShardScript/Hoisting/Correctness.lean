import ShardScript.Hoisting.Names

/-! The hoisting keeps what a body does, and the names of its variables apart. -/
namespace ShardScript.Hoisting
open Library Scratch Semantic Syntax Attempt

def isReserved (name : String) : Bool := name.toList.take 5 == "<a>__".toList

theorem isReserved_append {base : String} (known : base ∈ condTmp :: bases) (behind : String) :
    isReserved (base ++ behind) = true := by
  have long : 5 ≤ base.toList.length := by
    revert base
    decide
  have starts : isReserved base = true := by
    revert base
    decide
  rwa [isReserved,String.toList_append,List.take_append_of_le_length long]

theorem Numbered.isReserved {names : List String} {start after lifted : Nat} (known : Numbered names start after lifted)
    {name : String} (member : name ∈ names) : isReserved name = true := by
  rcases known.ranged name member with rfl | ⟨base,known,count,_,_,rfl⟩
  · decide
  · exact isReserved_append (List.mem_cons_of_mem _ known) _

/-- If nothing is evaluated in front of an await that is lifted, the rewritten body does the same as the source body,
whatever the variables of the hoisting hold at first, and these have names of their own exactly if no more than one
await of the body is lifted. -/
theorem hoisting_preserves (body : Tree .block) (source : body.all isSource = true) (order : keepsOrder body = true)
    {state after : HoistState} {outcome : Outcome .block} (come : rewrite body state = (some outcome,after))
    (supports : outcome.supported = true) :
    ((outcome.tree.names.Nodup ↔ liftsIn body ≤ 1) ∧ ∀ name ∈ outcome.tree.names, isReserved name = true) ∧
      ∀ {Value Exception : Type} {M : Type → Type} [Monad M] [LawfulMonad M]
        (surroundings : Surroundings Value Exception (ExceptT Exception M)) (fuel : Nat),
          Agrees (execute surroundings.onScratch fuel outcome.tree) (execute surroundings fuel (.ofStatement body)) := by
  have numbered := hoist_adds body order true [] [] _ _ _ come (fun _ => supports) state.counter 0 (.nil _)
  rw [Nat.zero_add] at numbered
  refine ⟨⟨numbered.nodup_iff,fun name member => numbered.isReserved member⟩,?_⟩
  intro Value Exception M _ _ surroundings fuel
  exact (hoist_preserves surroundings fuel body source order true [] _ _ _ come supports).2

section Examples

def call (token : SyntaxToken) (arguments : Expression .arguments) : Expression .expression :=
  .invocationExpression token .absent arguments

def nestedAwait : Tree .block :=
  .cons (.simple (.expressionStatement (.binaryExpression .addOperator (.literalExpression (.other 1))
    (.awaitExpression 5 none (call 3 (.argument (.awaitExpression 4 none (call 2 .noArgument)) .noArgument)))))) .empty

def tracing : Surroundings Bool Unit (ExceptT Unit (StateM (List SyntaxToken))) where
  boolean := id
  literal := fun _ => false
  typeValue := fun _ => false
  lambda := fun _ => false
  place := fun _ _ => false
  truth := id
  truth_boolean := fun _ => rfl
  isNull := fun _ => false
  takes := fun _ _ => true
  read := fun _ => pure false
  write := fun _ _ => pure ()
  await := fun token _ => do
    modify (· ++ [token])
    pure true
  operate := fun operation _ => do
    modify (· ++ (if let .call token := operation then [token] else []))
    pure true
  define := fun _ _ => pure ()
  exception := fun _ => pure ()
  enumerator := fun _ _ => pure false
  moveNext := fun _ => pure false
  current := fun _ _ => pure ()
  accepts := fun _ _ => true
  caught := fun _ _ => pure ()
  dispose := fun _ => pure ()

/-- The outer call is made first, with a variable that nothing has been assigned to yet. -/
theorem nestedAwait_reordered : ∃ outcome, (rewrite nestedAwait ⟨0,0,[]⟩).1 = some outcome ∧ outcome.supported = true ∧
    ¬ outcome.tree.names.Nodup ∧
    ¬ Agrees (execute tracing.onScratch 0 outcome.tree) (execute tracing 0 (.ofStatement nestedAwait)) := by
  refine ⟨_,rfl,rfl,by decide,fun agrees => ?_⟩
  have traces := congrArg Prod.snd (congrFun (agrees fun _ => false) [])
  have distinct : ([3,5,2,4] : List SyntaxToken) ≠ [2,4,3,5] := by decide
  exact distinct traces

def awaitedLoop : Tree .block :=
  .cons (.whileStatement (call 2 .noArgument)
    (.cons (.simple (.expressionStatement (.binaryExpression .assignOperator (.memberAccessExpression 7 .absent)
      (.awaitExpression 5 none (call 3 .noArgument))))) .empty)) .empty

theorem awaitedLoop_preserved : ∃ outcome, (rewrite awaitedLoop ⟨0,0,[]⟩).1 = some outcome ∧
    outcome.tree.names.Nodup ∧
    Agrees (execute tracing.onScratch 3 outcome.tree) (execute tracing 3 (.ofStatement awaitedLoop)) := by
  refine ⟨_,rfl,?_⟩
  have known := hoisting_preserves awaitedLoop rfl rfl (rfl : rewrite awaitedLoop ⟨0,0,[]⟩ = (some _,_)) rfl
  exact ⟨known.1.1.2 (by decide),known.2 tracing 3⟩

end Examples

end ShardScript.Hoisting

/-! The loops with awaits of their own, after the hoisting. -/
namespace ShardScript.Hoisting
open Library Scratch Semantic Syntax Attempt

def isAwaitingLoop : Tree .statement → Bool
  | .whileStatement condition _ | .untilStatement condition _ => containsAwait condition
  | .forStatement _ condition afterRepeat _ => awaitsInLoop condition afterRepeat
  | _ => false

section Turns

variable {Value Exception : Type} {M : Type → Type} [Monad M] [LawfulMonad M]
  (surroundings : Surroundings Value Exception (ExceptT Exception M)) (fuel : Nat)

/-- Nothing is evaluated in front of an await that is lifted and, if there is an await in what is done after each turn,
no turn ends with a `continue` or has something deferred to its end. -/
def KeepsTurns : Tree .statement → Prop
  | .whileStatement condition body | .untilStatement condition body =>
      spillsInOrder condition = true ∧ keepsOrder body = true
  | .forStatement initializer condition afterRepeat body =>
      (initializer.all simpleInOrder = true ∧
        condition.all (fun condition => !containsAwait condition || spillsInOrder condition) = true ∧
        keepsOrder body = true) ∧
      (hasAwait afterRepeat = true → afterRepeat.all simpleInOrder = true ∧
        Ends (execute surroundings fuel (.ofStatement body)) ∧ registers (.ofStatement body) = false)
  | _ => True

/-- The turns of a loop, and what is evaluated before and after each of them, are the same after the hoisting. -/
theorem hoisted_turns_agree {loop : Tree .statement} (awaits : isAwaitingLoop loop = true)
    (source : loop.all isSource = true) (keeps : KeepsTurns surroundings fuel loop) {supported : Bool} {path : Path}
    {state after : HoistState} {outcome : Outcome .statement}
    (come : hoist loop supported path state = (some outcome,after)) :
    Agrees (runAll surroundings.onScratch outcome.before >>= fun _ => execute surroundings.onScratch fuel outcome.tree)
      (execute surroundings fuel (.ofStatement loop)) := by
  cases loop with
  | whileStatement condition body =>
    rw [Statement.all,Bool.and_eq_true] at source
    obtain ⟨order,orderly⟩ := keeps
    have known := hoist_preserves surroundings fuel body source.2 orderly true (0 :: path)
    exact (spilledWhile_preserves surroundings fuel awaits source.1 order known supported _ _ _ come).2
  | untilStatement condition body =>
    rw [Statement.all,Bool.and_eq_true] at source
    obtain ⟨order,orderly⟩ := keeps
    have known := hoist_preserves surroundings fuel body source.2 orderly true (0 :: path)
    exact (spilledUntil_preserves surroundings fuel awaits source.1 order known supported _ _ _ come).2
  | forStatement initializer condition afterRepeat body =>
    have sources := source
    simp only [Statement.all,Bool.and_eq_true] at sources
    obtain ⟨⟨starts,order,orderly⟩,moves⟩ := keeps
    have known := hoist_preserves surroundings fuel body sources.2.2.2 orderly true (0 :: path)
    exact (awaitedFor_preserves surroundings fuel awaits source starts order moves known supported _ _ _ come).2
  | simple | returnStatement | throwStatement | breakStatement | continueStatement | forEachStatement | forInStatement
  | conditional | switchStatement | tryStatement | deferStatement => cases awaits

end Turns

section Examples

def repeating (body : Tree .block) : Tree .statement :=
  .forStatement none (some (call 2 .noArgument))
    (some (.expressionStatement (.awaitExpression 5 none (call 3 .noArgument)))) body

def leaving : Tree .block :=
  .cons (.conditional (.ifClause false (.expressionStatement (call 4 .noArgument)) (.cons .breakStatement .empty) .noNext))
    .empty

theorem hoisted_turns_agree_leaving : ∃ outcome, (hoist (repeating leaving) true [] ⟨0,0,[]⟩).1 = some outcome ∧
    Agrees (runAll tracing.onScratch outcome.before >>= fun _ => execute tracing.onScratch 2 outcome.tree)
      (execute tracing 2 (.ofStatement (repeating leaving))) := by
  have keeps : KeepsTurns tracing 2 (repeating leaving) :=
    ⟨⟨rfl,rfl,rfl⟩,fun _ => ⟨rfl,execute_ends tracing 2 leaving rfl,
      by simp [leaving,Hoisted.ofStatement,registers,registration]⟩⟩
  exact ⟨_,rfl,hoisted_turns_agree tracing 2 rfl rfl keeps
    (rfl : hoist (repeating leaving) true [] ⟨0,0,[]⟩ = (some _,_))⟩

def skipping : Outcome .statement where
  tree := .forStatement none (some (call 2 .noArgument)) none (.cons [] .continueStatement
    (.cons [([],.nil)] (.simple (.expressionStatement (.awaitExpression 5 none (call 3 .noArgument)))) .empty))
  before := [([],.nil)]

/-- What is to be done after each turn is not done once. -/
theorem continued_turns_differ :
    (hoist (repeating (.cons .continueStatement .empty)) true [] ⟨0,0,[]⟩).1 = some skipping ∧
    ¬ Agrees (runAll tracing.onScratch skipping.before >>= fun _ => execute tracing.onScratch 2 skipping.tree)
      (execute tracing 2 (.ofStatement (repeating (.cons .continueStatement .empty)))) := by
  constructor
  · have behind : ∀ last : Hoisted .block,
        (Hoisted.cons [] .continueStatement .empty).append last = .cons [] .continueStatement last := by
      intro last
      rw [Hoisted.append,Hoisted.append]
    rw [skipping,← behind]
    rfl
  · intro agrees
    have traces := congrArg Prod.snd (congrFun (agrees fun _ => false) [])
    have distinct : ([2,2] : List SyntaxToken) ≠ [2,3,5,2,3,5] := by decide
    exact distinct traces

end Examples

end ShardScript.Hoisting
