import ShardScript.Hoisting.Spill
import ShardScript.Syntax.Statement

/-! Hoisting the awaits of a method body to statements of their own. -/
namespace ShardScript.Hoisting
open Library Semantic Syntax

abbrev Tree (kind : StatementKind) := Statement (Expression .expression) TypeSymbol kind

/-- The statements that are left in a tree. Those of a block have the statements in front of them that were made for
them, by the place that they were made for. -/
inductive Hoisted : StatementKind → Type where
  | simple (statement : Simple (Expression .expression)) : Hoisted .statement
  | returnStatement (value : Option (Expression .expression)) : Hoisted .statement
  | throwStatement (exception : Option (Expression .expression)) : Hoisted .statement
  | breakStatement : Hoisted .statement
  | continueStatement : Hoisted .statement
  | whileStatement (condition : Expression .expression) (body : Hoisted .block) : Hoisted .statement
  | untilStatement (condition : Expression .expression) (body : Hoisted .block) : Hoisted .statement
  | forStatement (initializer : Option (Simple (Expression .expression))) (condition : Option (Expression .expression))
      (afterRepeat : Option (Simple (Expression .expression))) (body : Hoisted .block) : Hoisted .statement
  | forEachStatement (name : String) (range : Expression .expression) (body : Hoisted .block) : Hoisted .statement
  | forInStatement (name : String) (range : Expression .expression) (body : Hoisted .block) : Hoisted .statement
  | conditional (first : Hoisted .clause) : Hoisted .statement
  | switchStatement (scrutinee : Expression .expression) (cases : Hoisted .cases) : Hoisted .statement
  | tryStatement (body : Hoisted .block) (catches : Hoisted .catches) : Hoisted .statement
  | deferStatement (isResource : Bool) (statement : Simple (Expression .expression)) : Hoisted .statement
  | movedFrom : Hoisted .statement
  | empty : Hoisted .block
  | cons (before : List (Path × Prefix)) (first : Hoisted .statement) (rest : Hoisted .block) : Hoisted .block
  /-- A loop is left by a `break` if a condition that was spilled has not come out, or has. -/
  | tested (before : Prefix) (isUntil : Bool) (condition : VariableSymbol) (rest : Hoisted .block) : Hoisted .block
  | ifClause (negated : Bool) (condition : Simple (Expression .expression)) (body : Hoisted .block)
      (next : Hoisted .next) : Hoisted .clause
  | noNext : Hoisted .next
  | elseClause (body : Hoisted .block) : Hoisted .next
  | elseIf (clause : Hoisted .clause) : Hoisted .next
  | noCase : Hoisted .cases
  | defaultClause (body : Hoisted .block) (rest : Hoisted .cases) : Hoisted .cases
  | caseClause (pattern : Expression .expression) (body : Hoisted .block) (rest : Hoisted .cases) : Hoisted .cases
  | noCatch : Hoisted .catches
  | catchClause (type : Option TypeSymbol) (name : Option String) (body : Hoisted .block)
      (rest : Hoisted .catches) : Hoisted .catches

namespace Hoisted

@[grind] def ofStatement : {kind : StatementKind} → Tree kind → Hoisted kind
  | _,.simple statement => simple statement
  | _,.returnStatement value => returnStatement value
  | _,.throwStatement exception => throwStatement exception
  | _,.breakStatement => breakStatement
  | _,.continueStatement => continueStatement
  | _,.whileStatement condition body => whileStatement condition (ofStatement body)
  | _,.untilStatement condition body => untilStatement condition (ofStatement body)
  | _,.forStatement initializer condition afterRepeat body =>
      forStatement initializer condition afterRepeat (ofStatement body)
  | _,.forEachStatement name range body => forEachStatement name range (ofStatement body)
  | _,.forInStatement name range body => forInStatement name range (ofStatement body)
  | _,.conditional first => conditional (ofStatement first)
  | _,.switchStatement scrutinee cases => switchStatement scrutinee (ofStatement cases)
  | _,.tryStatement body catches => tryStatement (ofStatement body) (ofStatement catches)
  | _,.deferStatement isResource statement => deferStatement isResource statement
  | _,.empty => empty
  | _,.cons first rest => cons [] (ofStatement first) (ofStatement rest)
  | _,.ifClause negated condition body next => ifClause negated condition (ofStatement body) (ofStatement next)
  | _,.noNext => noNext
  | _,.elseClause body => elseClause (ofStatement body)
  | _,.elseIf clause => elseIf (ofStatement clause)
  | _,.noCase => noCase
  | _,.defaultClause body rest => defaultClause (ofStatement body) (ofStatement rest)
  | _,.caseClause pattern body rest => caseClause pattern (ofStatement body) (ofStatement rest)
  | _,.noCatch => noCatch
  | _,.catchClause type name body rest => catchClause type name (ofStatement body) (ofStatement rest)

def append : Hoisted .block → Hoisted .block → Hoisted .block
  | empty,behind => behind
  | cons before first rest,behind => cons before first (append rest behind)
  | tested before isUntil condition rest,behind => tested before isUntil condition (append rest behind)

end Hoisted

/-- What comes of a part of a tree. Only of a block there is something left if it is not supported. -/
structure Outcome (kind : StatementKind) where
  tree : Hoisted kind
  before : List (Path × Prefix) := []
  supported : Bool := true

def refuse {α : Type} : Hoist α := fun state => (none,state)

def demanded (block : Hoist (Outcome .block)) : Hoist (Hoisted .block) := do
  let outcome ← block
  if outcome.supported then pure outcome.tree else refuse

def hoistValue : Expression .expression → Hoist (HoistResult .expression)
  | .awaitExpression token getResult operand => do
      let inner ← hoistSubExpression operand false
      pure ⟨.awaitExpression token getResult inner.expression,inner.before⟩
  | expression => hoistExpression expression false false

def hoistOption : Option (Expression .expression) → Hoist (Option (Expression .expression) × Prefix)
  | none => pure (none,.nil)
  | some value => do
      let result ← hoistValue value
      pure (some result.expression,result.before)

def hoistThrown : Option (Expression .expression) → Hoist (Option (Expression .expression) × Prefix)
  | none => pure (none,.nil)
  | some exception => do
      let result ← hoistExpression exception false false
      pure (some result.expression,result.before)

def hoistSimple : Simple (Expression .expression) → Hoist (Simple (Expression .expression) × Prefix)
  | .expressionStatement expression => do
      let result ← hoistValue expression
      pure (.expressionStatement result.expression,result.before)
  | .variableStatement name value => do
      let result ← hoistOption value
      pure (.variableStatement name result.1,result.2)

def hoistOptionalSimple : Option (Simple (Expression .expression)) →
    Hoist (Option (Simple (Expression .expression)) × Prefix)
  | none => pure (none,.nil)
  | some statement => do
      let result ← hoistSimple statement
      pure (some result.1,result.2)

def hoistCondition : Simple (Expression .expression) → Hoist (Simple (Expression .expression) × Prefix)
  | .expressionStatement condition =>
      if containsAwait condition then do
        let spilled ← spillCondition condition
        pure (.expressionStatement (.variableReference spilled.2),spilled.1)
      else pure (.expressionStatement condition,.nil)
  | statement => pure (statement,.nil)

def hoistLoopCondition : Option (Expression .expression) → Hoist (Option (Expression .expression) × Prefix)
  | none => pure (none,.nil)
  | some condition => do
      let result ← hoistSubExpression condition true
      pure (some result.expression,result.before)

def hoistRange (range : Expression .expression) : Hoist (Expression .expression × Prefix) :=
  if containsAwait range then
    match range with
    | .awaitExpression token getResult operand => do
        let awaitable ← hoistExpression operand false false
        let temporary ← declareTemporaryVariable "<a>__range" (resultType getResult)
        pure (.variableReference temporary,
          awaitable.before ++ .declare temporary (.awaitExpression token getResult awaitable.expression) .nil)
    | _ => do
        let result ← hoistExpression range false false
        pure (result.expression,result.before)
  else pure (range,.nil)

/-- The statements that a condition was spilled into are hoisted once more, as part of the loop's new body. -/
@[grind] def rehoist : Prefix → Hoist Prefix
  | .nil => pure .nil
  | .declare temporary value rest => do
      let result ← hoistValue value
      let rest ← rehoist rest
      pure (result.before ++ .declare temporary result.expression rest)
  | .assign temporary value rest => do
      let result ← hoistExpression value false false
      let rest ← rehoist rest
      pure (result.before ++ .assign temporary result.expression rest)
  | .branch negated condition taken other rest =>
      match taken with
      | .nil => refuse
      | _ => do
        let taken ← rehoist taken
        let other ← rehoist other
        let rest ← rehoist rest
        pure (.branch negated condition taken other rest)

def hasAwait : Option (Simple (Expression .expression)) → Bool
  | none => false
  | some (.expressionStatement expression) => containsAwait expression
  | some (.variableStatement _ none) => false
  | some (.variableStatement _ (some value)) => containsAwait value

def spillLoopCondition (isUntil : Bool) (condition : Expression .expression) : Hoist (Hoisted .block → Hoisted .block) := do
  let spilled ← spillCondition condition
  let statements ← rehoist spilled.1
  pure (.tested statements isUntil spilled.2)

def spillForCondition (condition : Option (Expression .expression)) : Hoist (Hoisted .block → Hoisted .block) :=
  match condition with
  | none => pure id
  | some condition => if containsAwait condition then spillLoopCondition false condition else pure id

def appendAfterRepeat (path : Path) (body : Hoisted .block) : Option (Simple (Expression .expression)) →
    Hoist (Hoisted .block)
  | none => pure body
  | some afterRepeat => do
      let result ← hoistSimple afterRepeat
      pure (body.append (.cons [(path,result.2)] (.simple result.1) .empty))

@[grind] def hoist : {kind : StatementKind} → Tree kind → (supported : Bool) → Path → Hoist (Outcome kind)
  | _,.simple statement,_,path => do
      let result ← hoistSimple statement
      pure ⟨.simple result.1,[(path,result.2)],true⟩
  | _,.returnStatement value,_,path => do
      let result ← hoistOption value
      pure ⟨.returnStatement result.1,[(path,result.2)],true⟩
  | _,.throwStatement exception,_,path => do
      let result ← hoistThrown exception
      pure ⟨.throwStatement result.1,[(path,result.2)],true⟩
  | _,.breakStatement,_,_ => pure ⟨.breakStatement,[],true⟩
  | _,.continueStatement,_,_ => pure ⟨.continueStatement,[],true⟩
  | _,.whileStatement condition body,_,path =>
      if containsAwait condition then do
        let tested ← spillLoopCondition false condition
        let body ← demanded (hoist body true (0 :: path))
        pure ⟨.whileStatement (.literalExpression (.boolean true)) (tested body),[],true⟩
      else do
        let condition ← hoistSubExpression condition true
        let body ← hoist body true (0 :: path)
        -- Whether the body is supported is not asked.
        pure ⟨.whileStatement condition.expression body.tree,[(path,condition.before)],true⟩
  | _,.untilStatement condition body,_,path =>
      if containsAwait condition then do
        let tested ← spillLoopCondition true condition
        let body ← demanded (hoist body true (0 :: path))
        pure ⟨.whileStatement (.literalExpression (.boolean true)) (tested body),[],true⟩
      else do
        let condition ← hoistSubExpression condition true
        let body ← hoist body true (0 :: path)
        pure ⟨.untilStatement condition.expression body.tree,[(path,condition.before)],true⟩
  | _,.forStatement initializer condition afterRepeat body,_,path => do
      let initializer ← hoistOptionalSimple initializer
      let conditionHasAwait := condition.any containsAwait
      let afterHasAwait := hasAwait afterRepeat
      if conditionHasAwait || afterHasAwait then
        let tested ← spillForCondition condition
        let body ← demanded (hoist body true (0 :: path))
        let body ← appendAfterRepeat path body (if afterHasAwait then afterRepeat else none)
        pure ⟨.forStatement initializer.1
          (if conditionHasAwait then some (.literalExpression (.boolean true)) else condition)
          (if afterHasAwait then none else afterRepeat) (tested body),[(path,initializer.2)],true⟩
      else
        let condition ← hoistLoopCondition condition
        let afterRepeat ← hoistOptionalSimple afterRepeat
        let body ← hoist body true (0 :: path)
        pure ⟨.forStatement initializer.1 condition.1 afterRepeat.1 body.tree,
          [(path,initializer.2),(path,condition.2),(path,afterRepeat.2)],true⟩
  | _,.forEachStatement name range body,_,path => do
      let range ← hoistRange range
      let body ← hoist body true (0 :: path)
      pure ⟨.forEachStatement name range.1 body.tree,[(path,range.2)],true⟩
  | _,.forInStatement name range body,_,path => do
      let range ← hoistRange range
      let body ← hoist body true (0 :: path)
      pure ⟨.forInStatement name range.1 body.tree,[(path,range.2)],true⟩
  | _,.conditional first,_,path => do
      let first ← hoist first true (0 :: path)
      pure ⟨.conditional first.tree,first.before,true⟩
  | _,.switchStatement _ _,_,_ => refuse
  | _,.tryStatement body catches,_,path => do
      let body ← demanded (hoist body false (0 :: path))
      let catches ← hoist catches true (1 :: path)
      pure ⟨.tryStatement body catches.tree,[],true⟩
  | _,.deferStatement isResource statement,_,_ => pure ⟨.deferStatement isResource statement,[],true⟩
  | _,.empty,supported,_ => pure ⟨.empty,[],supported⟩
  | _,.cons first rest,_,path => fun state =>
      match hoist first true (0 :: path) state with
      | (none,state) => (some ⟨.cons [] .movedFrom (.ofStatement rest),[],false⟩,state)
      | (some first,state) =>
        match hoist rest true (1 :: path) state with
        | (none,state) => (none,state)
        | (some rest,state) => (some ⟨.cons first.before first.tree rest.tree,[],rest.supported⟩,state)
  | _,.ifClause negated condition body next,_,path => do
      let condition ← hoistCondition condition
      let body ← demanded (hoist body false (0 :: path))
      let next ← hoist next true (1 :: path)
      pure ⟨.ifClause negated condition.1 body next.tree,(path,condition.2) :: next.before,true⟩
  | _,.noNext,_,_ => pure ⟨.noNext,[],true⟩
  | _,.elseClause body,_,path => do
      let body ← demanded (hoist body false (0 :: path))
      pure ⟨.elseClause body,[],true⟩
  | _,.elseIf clause,_,path => do
      let clause ← hoist clause true (0 :: path)
      pure ⟨.elseIf clause.tree,clause.before,true⟩
  | _,.noCase,_,_ | _,.defaultClause _ _,_,_ | _,.caseClause _ _ _,_,_ => refuse
  | _,.noCatch,_,_ => pure ⟨.noCatch,[],true⟩
  | _,.catchClause type name body rest,_,path => do
      let body ← demanded (hoist body true (0 :: path))
      let rest ← hoist rest true (1 :: path)
      pure ⟨.catchClause type name body rest.tree,[],true⟩

def rewrite (body : Tree .block) : Hoist (Outcome .block) := hoist body true []

end ShardScript.Hoisting
