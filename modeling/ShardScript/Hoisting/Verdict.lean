import ShardScript.Hoisting.Contents

/-! The verdict of the hoisting on a body, and the body that it leaves. -/
namespace ShardScript.Hoisting
open Library Semantic Syntax Attempt

/-- Where the statements in front of a part of a tree come from, if any may stand there. -/
def front : {kind : StatementKind} → Path → Tree kind → Option Path
  | .statement,path,.conditional _ => some (0 :: path)
  | .next,_,_ => none
  | _,path,_ => some path

/-- Every statement is there, in its place, each with statements in front of it that were made for it: for a chain,
those of its first condition only. -/
inductive Keeps : {kind : StatementKind} → Path → Tree kind → Hoisted kind → Prop
  | simple {path statement other} : AlikeSimple statement other → Keeps path (.simple statement) (.simple other)
  | returnStatement {path value other} : AlikeOption value other →
      Keeps path (.returnStatement value) (.returnStatement other)
  | throwStatement {path exception other} : AlikeOption exception other →
      Keeps path (.throwStatement exception) (.throwStatement other)
  | breakStatement {path} : Keeps path .breakStatement .breakStatement
  | continueStatement {path} : Keeps path .continueStatement .continueStatement
  | whileStatement {path condition other body body'} : Alike condition other → Keeps (0 :: path) body body' →
      Keeps path (.whileStatement condition body) (.whileStatement other body')
  | testedWhile {path condition body statements temporary body'} : containsAwait condition = true →
      Keeps (0 :: path) body body' → Keeps path (.whileStatement condition body)
        (.whileStatement (.literalExpression (.boolean true)) (.tested statements false temporary body'))
  | untilStatement {path condition other body body'} : Alike condition other → Keeps (0 :: path) body body' →
      Keeps path (.untilStatement condition body) (.untilStatement other body')
  | testedUntil {path condition body statements temporary body'} : containsAwait condition = true →
      Keeps (0 :: path) body body' → Keeps path (.untilStatement condition body)
        (.whileStatement (.literalExpression (.boolean true)) (.tested statements true temporary body'))
  | forStatement {path initializer initializer' condition condition' afterRepeat afterRepeat' body body'} :
      AlikeOptionalSimple initializer initializer' → AlikeOption condition condition' →
      AlikeOptionalSimple afterRepeat afterRepeat' → Keeps (0 :: path) body body' →
      Keeps path (.forStatement initializer condition afterRepeat body)
        (.forStatement initializer' condition' afterRepeat' body')
  | testedFor {path initializer initializer' condition afterRepeat body statements temporary body'} :
      AlikeOptionalSimple initializer initializer' → containsAwait condition = true → Keeps (0 :: path) body body' →
      Keeps path (.forStatement initializer (some condition) afterRepeat body)
        (.forStatement initializer' (some (.literalExpression (.boolean true))) afterRepeat
          (.tested statements false temporary body'))
  | forEachStatement {path name range other body body'} : Alike range other → Keeps (0 :: path) body body' →
      Keeps path (.forEachStatement name range body) (.forEachStatement name other body')
  | forInStatement {path name range other body body'} : Alike range other → Keeps (0 :: path) body body' →
      Keeps path (.forInStatement name range body) (.forInStatement name other body')
  | conditional {path first first'} : Keeps (0 :: path) first first' → Keeps path (.conditional first) (.conditional first')
  | tryStatement {path body body' catches catches'} : Keeps (0 :: path) body body' → Keeps (1 :: path) catches catches' →
      Keeps path (.tryStatement body catches) (.tryStatement body' catches')
  | deferStatement {path isResource statement} :
      Keeps path (.deferStatement isResource statement) (.deferStatement isResource statement)
  | empty {path} : Keeps path .empty .empty
  | cons {path first first' rest rest' before} :
      (∀ group ∈ before, group.2 = .nil ∨ some group.1 = front (0 :: path) first) →
      Keeps (0 :: path) first first' → Keeps (1 :: path) rest rest' →
      Keeps path (.cons first rest) (.cons before first' rest')
  | ifClause {path negated condition condition' body body' next next'} : AlikeCondition condition condition' →
      Keeps (0 :: path) body body' → Keeps (1 :: path) next next' →
      Keeps path (.ifClause negated condition body next) (.ifClause negated condition' body' next')
  | noNext {path} : Keeps path .noNext .noNext
  | elseClause {path body body'} : Keeps (0 :: path) body body' → Keeps path (.elseClause body) (.elseClause body')
  | elseIf {path clause clause'} : Keeps (0 :: path) clause clause' → Keeps path (.elseIf clause) (.elseIf clause')
  | noCatch {path} : Keeps path .noCatch .noCatch
  | catchClause {path type name body body' rest rest'} : Keeps (0 :: path) body body' → Keeps (1 :: path) rest rest' →
      Keeps path (.catchClause type name body rest) (.catchClause type name body' rest')

def awaitsInLoop (condition : Option (Expression .expression)) (afterRepeat : Option (Simple (Expression .expression))) :
    Bool :=
  condition.any containsAwait || hasAwait afterRepeat

def refusesForCondition : Option (Expression .expression) → Bool
  | none => false
  | some condition => containsAwait condition && spillRefuses condition

/-- There is something that the hoisting refuses, whatever blocks are empty. Loops do not ask for their bodies, unless
their own conditions are spilled. -/
@[grind] def isUnsupported : {kind : StatementKind} → Tree kind → Bool
  | _,.simple statement => refusesSimple statement
  | _,.returnStatement value => refusesOption value
  | _,.throwStatement exception => refusesThrown exception
  | _,.breakStatement | _,.continueStatement | _,.deferStatement _ _ | _,.empty | _,.noNext | _,.noCatch => false
  | _,.whileStatement condition body | _,.untilStatement condition body =>
      if containsAwait condition then spillRefuses condition || isUnsupported body else refuses condition true true
  | _,.forStatement initializer condition afterRepeat body =>
      refusesOptionalSimple initializer ||
        if awaitsInLoop condition afterRepeat then
          refusesForCondition condition || (isUnsupported body || if hasAwait afterRepeat then refusesOptionalSimple afterRepeat else false)
        else refusesLoopCondition condition || refusesOptionalSimple afterRepeat
  | _,.forEachStatement _ range _ | _,.forInStatement _ range _ => refusesRange range
  | _,.conditional first => isUnsupported first
  | _,.switchStatement _ _ | _,.noCase | _,.defaultClause _ _ | _,.caseClause _ _ _ => true
  | _,.tryStatement body catches => isUnsupported body || isUnsupported catches
  | _,.cons first rest => isUnsupported first || isUnsupported rest
  | _,.ifClause _ condition body next => refusesCondition condition || (isUnsupported body || isUnsupported next)
  | _,.elseClause body => isUnsupported body
  | _,.elseIf clause => isUnsupported clause
  | _,.catchClause _ _ body rest => isUnsupported body || isUnsupported rest

/-- The block of an `if`, an `unless`, an `else` or a `try` is empty where the verdict depends on it. -/
@[grind] def hasEmptyBlock : {kind : StatementKind} → Tree kind → Bool
  | _,.simple _ | _,.returnStatement _ | _,.throwStatement _ | _,.breakStatement | _,.continueStatement
  | _,.deferStatement _ _ | _,.empty | _,.noNext | _,.noCatch | _,.forEachStatement _ _ _ | _,.forInStatement _ _ _
  | _,.switchStatement _ _ | _,.noCase | _,.defaultClause _ _ | _,.caseClause _ _ _ => false
  | _,.whileStatement condition body | _,.untilStatement condition body => containsAwait condition && hasEmptyBlock body
  | _,.forStatement _ condition afterRepeat body => awaitsInLoop condition afterRepeat && hasEmptyBlock body
  | _,.conditional first => hasEmptyBlock first
  | _,.tryStatement body catches => body.isEmpty || hasEmptyBlock body || hasEmptyBlock catches
  | _,.cons first rest => hasEmptyBlock first || hasEmptyBlock rest
  | _,.ifClause _ _ body next => body.isEmpty || hasEmptyBlock body || hasEmptyBlock next
  | _,.elseClause body => body.isEmpty || hasEmptyBlock body
  | _,.elseIf clause => hasEmptyBlock clause
  | _,.catchClause _ _ body rest => hasEmptyBlock body || hasEmptyBlock rest

@[grind] def awaitsBehindElse : {kind : StatementKind} → Tree kind → Bool
  | .statement,.conditional first => awaitsBehindElse first
  | .clause,.ifClause _ _ _ next => awaitsBehindElse next
  | .next,.elseIf (.ifClause _ condition _ next) => awaitsIn condition || awaitsBehindElse next
  | _,_ => false

def awaitsInChain : {kind : StatementKind} → Tree kind → Bool
  | .clause,.ifClause _ condition _ next => awaitsIn condition || awaitsBehindElse next
  | _,_ => false

/-- The body of a loop that does not ask for it is not supported, the statement after each turn of a `for` has an
await in it, or a condition behind an `else` has one. -/
@[grind] def losesCode : {kind : StatementKind} → Tree kind → Bool
  | _,.simple _ | _,.returnStatement _ | _,.throwStatement _ | _,.breakStatement | _,.continueStatement
  | _,.deferStatement _ _ | _,.empty | _,.noNext | _,.noCatch | _,.switchStatement _ _ | _,.noCase
  | _,.defaultClause _ _ | _,.caseClause _ _ _ => false
  | _,.whileStatement condition body | _,.untilStatement condition body =>
      !containsAwait condition && (isUnsupported body || hasEmptyBlock body) || losesCode body
  | _,.forStatement _ condition afterRepeat body =>
      hasAwait afterRepeat || (!awaitsInLoop condition afterRepeat && (isUnsupported body || hasEmptyBlock body) ||
        losesCode body)
  | _,.forEachStatement _ _ body | _,.forInStatement _ _ body =>
      isUnsupported body || hasEmptyBlock body || losesCode body
  | _,.conditional first => losesCode first
  | _,.tryStatement body catches => losesCode body || losesCode catches
  | _,.cons first rest => awaitsBehindElse first || (losesCode first || losesCode rest)
  | _,.ifClause _ _ body next => losesCode body || losesCode next
  | _,.elseClause body => losesCode body
  | _,.elseIf clause => losesCode clause
  | _,.catchClause _ _ body rest => losesCode body || losesCode rest

def fails : {kind : StatementKind} → Tree kind → Bool
  | .block,_ => false
  | _,tree => isUnsupported tree || hasEmptyBlock tree

@[grind] def verdict : {kind : StatementKind} → Tree kind → (supported : Bool) → Bool
  | .block,.empty,supported => supported
  | .block,.cons first rest,_ => !(isUnsupported (.cons first rest) || hasEmptyBlock (.cons first rest))
  | _,_,_ => true

structure Expected {kind : StatementKind} (path : Path) (tree : Tree kind) (supported : Bool)
    (outcome : Outcome kind) : Prop where
  verdict_eq : outcome.supported = verdict tree supported
  keeps : verdict tree supported = true → (Keeps path tree outcome.tree ↔ losesCode tree = false)
  lost : supported = true → verdict tree supported = false → ¬ Keeps path tree outcome.tree
  inside : ∀ group ∈ outcome.before, path.length ≤ group.1.length
  placed : (∀ group ∈ outcome.before, group.2 = .nil ∨ some group.1 = front path tree) ↔
    awaitsBehindElse tree = false
  silent : kind = .clause → ((∀ group ∈ outcome.before, group.2 = .nil) ↔ awaitsInChain tree = false)

section Statements

variable {path : Path}

theorem verdict_of_isEmpty (body : Tree .block) (supported : Bool) :
    (!verdict body supported) = (isUnsupported body || (if supported then false else body.isEmpty) || hasEmptyBlock body) := by
  cases body with
  | empty => cases supported <;> rfl
  | cons first rest => cases supported <;> simp [verdict,Statement.isEmpty]

theorem demanded_gives {body : Tree .block} {supported : Bool} {block : Hoist (Outcome .block)}
    (given : Gives block false fun _ outcome _ => Expected path body supported outcome) :
    Gives (demanded block) (!verdict body supported) fun _ tree _ => Keeps path body tree ↔ losesCode body = false := by
  rw [demanded,← Bool.false_or (!verdict body supported)]
  refine given.bindKnown fun outcome known => ?_
  rcases known with ⟨_,_,expected⟩
  rw [expected.verdict_eq]
  cases supports : verdict body supported with
  | false => exact fun _ => rfl
  | true => exact .pure fun _ _ _ => expected.keeps supports

theorem Expected.body {body : Tree .block} {outcome : Outcome .block} (expected : Expected path body true outcome) :
    Keeps path body outcome.tree ↔ (isUnsupported body || hasEmptyBlock body || losesCode body) = false := by
  have shape := verdict_of_isEmpty body true
  rw [if_pos rfl,Bool.or_false] at shape
  rw [← shape,Bool.or_eq_false_iff,Bool.not_eq_false']
  constructor
  · intro kept
    cases supports : verdict body true with
    | false => exact absurd kept (expected.lost rfl supports)
    | true => exact ⟨rfl,(expected.keeps supports).1 kept⟩
  · rintro ⟨supports,whole⟩
    exact (expected.keeps supports).2 whole

theorem verdict_cons (first : Tree .statement) (rest : Tree .block) (supported : Bool) :
    verdict (.cons first rest) supported = (!fails first && verdict rest true) := by
  have shape := verdict_of_isEmpty rest true
  rw [if_pos rfl,Bool.or_false] at shape
  have asked : fails first = (isUnsupported first || hasEmptyBlock first) := rfl
  rw [← Bool.not_not (verdict rest true),shape,verdict,asked,isUnsupported,hasEmptyBlock,← Bool.not_or]
  congr 1
  ac_rfl

theorem keeps_cons {first : Tree .statement} {rest : Tree .block} {first' : Hoisted .statement}
    {rest' : Hoisted .block} {before : List (Path × Prefix)} :
    Keeps path (.cons first rest) (.cons before first' rest') ↔
      (∀ group ∈ before, group.2 = .nil ∨ some group.1 = front (0 :: path) first) ∧
        Keeps (0 :: path) first first' ∧ Keeps (1 :: path) rest rest' := by
  constructor
  · intro kept
    cases kept with
    | cons own one two => exact ⟨own,one,two⟩
  · rintro ⟨own,one,two⟩
    exact .cons own one two

variable {body' : Hoisted .block}

theorem keeps_whileStatement {condition other : Expression .expression} {body : Tree .block}
    (plain : containsAwait condition = false) (alike : Alike condition other) :
    Keeps path (.whileStatement condition body) (.whileStatement other body') ↔ Keeps (0 :: path) body body' := by
  constructor
  · intro kept
    cases kept with
    | whileStatement _ inner => exact inner
    | testedWhile awaits _ => exact absurd awaits (by simp [plain])
  · exact .whileStatement alike

variable {temporary : VariableSymbol} {statements : Prefix}

theorem keeps_testedWhile {condition : Expression .expression} {body : Tree .block}
    (awaits : containsAwait condition = true) :
    Keeps path (.whileStatement condition body)
      (.whileStatement (.literalExpression (.boolean true)) (.tested statements false temporary body')) ↔
        Keeps (0 :: path) body body' := by
  constructor
  · intro kept
    cases kept with
    | whileStatement _ inner => cases inner
    | testedWhile _ inner => exact inner
  · exact .testedWhile awaits

theorem keeps_untilStatement {condition other : Expression .expression} {body : Tree .block}
    (alike : Alike condition other) :
    Keeps path (.untilStatement condition body) (.untilStatement other body') ↔ Keeps (0 :: path) body body' := by
  constructor
  · intro kept
    cases kept with
    | untilStatement _ inner => exact inner
  · exact .untilStatement alike

theorem keeps_testedUntil {condition : Expression .expression} {body : Tree .block}
    (awaits : containsAwait condition = true) :
    Keeps path (.untilStatement condition body)
      (.whileStatement (.literalExpression (.boolean true)) (.tested statements true temporary body')) ↔
        Keeps (0 :: path) body body' := by
  constructor
  · intro kept
    cases kept with
    | testedUntil _ inner => exact inner
  · exact .testedUntil awaits

variable {range other : Expression .expression}

theorem keeps_forEachStatement {name : String} {body : Tree .block}
    (alike : Alike range other) :
    Keeps path (.forEachStatement name range body) (.forEachStatement name other body') ↔
      Keeps (0 :: path) body body' := by
  constructor
  · intro kept
    cases kept with
    | forEachStatement _ inner => exact inner
  · exact .forEachStatement alike

theorem keeps_forInStatement {name : String} {body : Tree .block}
    (alike : Alike range other) :
    Keeps path (.forInStatement name range body) (.forInStatement name other body') ↔ Keeps (0 :: path) body body' := by
  constructor
  · intro kept
    cases kept with
    | forInStatement _ inner => exact inner
  · exact .forInStatement alike

variable {initializer initializer' : Option (Simple (Expression .expression))} {condition condition' : Option (Expression .expression)}

theorem keeps_forStatement
    {afterRepeat afterRepeat' : Option (Simple (Expression .expression))}
    {body : Tree .block} (plain : awaitsInLoop condition afterRepeat = false)
    (alike : AlikeOptionalSimple initializer initializer') (alike' : AlikeOption condition condition')
    (alike'' : AlikeOptionalSimple afterRepeat afterRepeat') :
    Keeps path (.forStatement initializer condition afterRepeat body)
      (.forStatement initializer' condition' afterRepeat' body') ↔ Keeps (0 :: path) body body' := by
  constructor
  · intro kept
    cases kept with
    | forStatement _ _ _ inner => exact inner
    | testedFor _ awaits _ =>
      rw [awaitsInLoop,Option.any_some,awaits] at plain
      cases plain
  · exact .forStatement alike alike' alike''

variable {afterRepeat : Option (Simple (Expression .expression))}

theorem keeps_testedFor
    {condition : Expression .expression}
    {body : Tree .block}
    (awaits : containsAwait condition = true) (alike : AlikeOptionalSimple initializer initializer') :
    Keeps path (.forStatement initializer (some condition) afterRepeat body)
      (.forStatement initializer' (some (.literalExpression (.boolean true))) afterRepeat
        (.tested statements false temporary body')) ↔ Keeps (0 :: path) body body' := by
  constructor
  · intro kept
    cases kept with
    | forStatement _ _ _ inner => cases inner
    | testedFor _ _ inner => exact inner
  · exact .testedFor alike awaits

theorem not_keeps_movedAfterRepeat

    {body : Tree .block} (awaits : hasAwait afterRepeat = true) :
    ¬ Keeps path (.forStatement initializer condition afterRepeat body)
      (.forStatement initializer' condition' none body') := by
  intro kept
  cases kept with
  | forStatement _ _ alike _ =>
    cases afterRepeat with
    | none => cases awaits
    | some statement => exact alike
  | testedFor _ _ _ => cases awaits

theorem spillForCondition_gives (condition : Option (Expression .expression)) :
    Gives (spillForCondition condition) (refusesForCondition condition) fun _ tested _ =>
      condition.any containsAwait = true → ∃ statements temporary, tested = .tested statements false temporary := by
  cases condition with
  | none => exact .pure fun _ => by simp
  | some condition =>
    rw [spillForCondition,refusesForCondition,Option.any_some]
    cases containsAwait condition with
    | false => exact .pure fun _ => by simp
    | true => exact (spillLoopCondition_gives false condition).mono rfl fun _ _ _ known _ => known

theorem appendAfterRepeat_gives (body : Hoisted .block) (afterRepeat : Option (Simple (Expression .expression))) :
    Gives (appendAfterRepeat path body (if hasAwait afterRepeat then afterRepeat else none))
      (if hasAwait afterRepeat then refusesOptionalSimple afterRepeat else false)
      fun _ body' _ => hasAwait afterRepeat = false → body' = body := by
  cases awaits : hasAwait afterRepeat with
  | false => exact .pure fun _ _ => rfl
  | true =>
    cases afterRepeat with
    | none => cases awaits
    | some statement => exact (hoistSimple_alike statement).map fun _ _ _ _ => by simp

theorem expected_own {tree : Tree .statement} {other : Hoisted .statement} {supported : Bool}
    (own : front path tree = some path) (straight : awaitsBehindElse tree = false)
    (keeps : Keeps path tree other ↔ losesCode tree = false) (groups : List Prefix) :
    Expected path tree supported ⟨other,groups.map fun statements => (path,statements),true⟩ where
  verdict_eq := rfl
  keeps := fun _ => keeps
  lost := by simp [verdict]
  inside := by simp
  placed := by simp [own,straight]
  silent := by simp

end Statements

variable {kind : StatementKind}

theorem hoist_expected (tree : Tree kind) (supported : Bool) (path : Path) :
    Gives (hoist tree supported path) (fails tree) fun _ outcome _ => Expected path tree supported outcome := by
  induction tree generalizing supported path with
  | simple statement =>
    have given : Gives _ (refusesSimple statement) fun _ outcome _ =>
        Expected path (.simple statement) supported outcome :=
      (hoistSimple_alike statement).map fun _ result _ alike =>
        expected_own rfl rfl (iff_of_true (.simple alike) rfl) [result.2]
    exact given.same (by simp [fails,isUnsupported,hasEmptyBlock])
  | returnStatement value =>
    have given : Gives _ (refusesOption value) fun _ outcome _ =>
        Expected path (.returnStatement value) supported outcome :=
      (hoistOption_alike value).map fun _ result _ alike =>
        expected_own rfl rfl (iff_of_true (.returnStatement alike) rfl) [result.2]
    exact given.same (by simp [fails,isUnsupported,hasEmptyBlock])
  | throwStatement exception =>
    have given : Gives _ (refusesThrown exception) fun _ outcome _ =>
        Expected path (.throwStatement exception) supported outcome :=
      (hoistThrown_alike exception).map fun _ result _ alike =>
        expected_own rfl rfl (iff_of_true (.throwStatement alike) rfl) [result.2]
    exact given.same (by simp [fails,isUnsupported,hasEmptyBlock])
  | breakStatement => exact .pure fun _ => expected_own rfl rfl (iff_of_true .breakStatement rfl) []
  | continueStatement => exact .pure fun _ => expected_own rfl rfl (iff_of_true .continueStatement rfl) []
  | deferStatement isResource statement =>
    exact .pure fun _ => expected_own rfl rfl (iff_of_true .deferStatement rfl) []
  | switchStatement scrutinee cases => exact fun _ => rfl
  | noCase => exact fun _ => rfl
  | defaultClause body rest => exact fun _ => rfl
  | caseClause pattern body rest => exact fun _ => rfl
  | whileStatement condition body ih =>
    have shape : fails (.whileStatement condition body) = if containsAwait condition
        then spillRefuses condition || !verdict body true else refuses condition true true := by
      rw [verdict_of_isEmpty]
      cases awaits : containsAwait condition <;> simp [fails,isUnsupported,hasEmptyBlock,awaits,Bool.or_assoc]
    rw [shape,hoist]
    split
    · rename_i awaits
      refine (spillLoopCondition_gives false condition).bindKnown fun tested known =>
        (demanded_gives (ih true (0 :: path))).map fun _ body' _ keeps _ _ => expected_own rfl rfl ?_ []
      rcases known with ⟨_,_,statements,temporary,rfl⟩
      rw [keeps_testedWhile awaits,keeps,losesCode,awaits,Bool.not_true,Bool.false_and,Bool.false_or]
    · rename_i awaits
      have plain : containsAwait condition = false := Bool.eq_false_iff.2 awaits
      refine (hoistExpression_lifted condition true true).followed fun condition' =>
        (ih true (0 :: path)).map fun _ outcome _ expected _ lifted => expected_own rfl rfl ?_ [condition'.before]
      rw [keeps_whileStatement plain lifted.blanked,expected.body,losesCode,plain,Bool.not_false,Bool.true_and]
  | untilStatement condition body ih =>
    have shape : fails (.untilStatement condition body) = if containsAwait condition
        then spillRefuses condition || !verdict body true else refuses condition true true := by
      rw [verdict_of_isEmpty]
      cases awaits : containsAwait condition <;> simp [fails,isUnsupported,hasEmptyBlock,awaits,Bool.or_assoc]
    rw [shape,hoist]
    split
    · rename_i awaits
      refine (spillLoopCondition_gives true condition).bindKnown fun tested known =>
        (demanded_gives (ih true (0 :: path))).map fun _ body' _ keeps _ _ => expected_own rfl rfl ?_ []
      rcases known with ⟨_,_,statements,temporary,rfl⟩
      rw [keeps_testedUntil awaits,keeps,losesCode,awaits,Bool.not_true,Bool.false_and,Bool.false_or]
    · rename_i awaits
      have plain : containsAwait condition = false := Bool.eq_false_iff.2 awaits
      refine (hoistExpression_lifted condition true true).followed fun condition' =>
        (ih true (0 :: path)).map fun _ outcome _ expected _ lifted => expected_own rfl rfl ?_ [condition'.before]
      rw [keeps_untilStatement lifted.blanked,expected.body,losesCode,plain,Bool.not_false,Bool.true_and]
  | forEachStatement name range body ih =>
    have shape : fails (.forEachStatement name range body) = refusesRange range := by
      simp [fails,isUnsupported,hasEmptyBlock]
    rw [shape,hoist]
    refine (hoistRange_alike range).followed fun range' => (ih true (0 :: path)).map fun _ outcome _ expected _ alike =>
      expected_own rfl rfl ?_ [range'.2]
    rw [keeps_forEachStatement alike,expected.body,losesCode]
  | forInStatement name range body ih =>
    have shape : fails (.forInStatement name range body) = refusesRange range := by
      simp [fails,isUnsupported,hasEmptyBlock]
    rw [shape,hoist]
    refine (hoistRange_alike range).followed fun range' => (ih true (0 :: path)).map fun _ outcome _ expected _ alike =>
      expected_own rfl rfl ?_ [range'.2]
    rw [keeps_forInStatement alike,expected.body,losesCode]
  | forStatement initializer condition afterRepeat body ih =>
    rw [hoist]
    cases awaits : awaitsInLoop condition afterRepeat with
    | false =>
      have shape : fails (.forStatement initializer condition afterRepeat body) = (refusesOptionalSimple initializer ||
          (refusesLoopCondition condition || refusesOptionalSimple afterRepeat)) := by
        simp [fails,isUnsupported,hasEmptyBlock,awaits]
      have apart := Bool.or_eq_false_iff.1 awaits
      rw [shape]
      refine (hoistOptionalSimple_alike initializer).bind fun initializer' => ?_
      simp only [apart.1,apart.2,Bool.or_self,Bool.false_eq_true,if_false]
      refine (hoistLoopCondition_alike condition).bind fun condition' =>
        (hoistOptionalSimple_alike afterRepeat).followed fun afterRepeat' =>
          (ih true (0 :: path)).map fun _ outcome _ expected _ alike'' _ alike' _ alike =>
            expected_own rfl rfl ?_ [initializer'.2,condition'.2,afterRepeat'.2]
      rw [keeps_forStatement awaits alike alike' alike'',expected.body,losesCode,awaits,apart.2,Bool.not_false,
        Bool.true_and,Bool.false_or]
    | true =>
      have shape : fails (.forStatement initializer condition afterRepeat body) = (refusesOptionalSimple initializer ||
          (refusesForCondition condition || (!verdict body true ||
            if hasAwait afterRepeat then refusesOptionalSimple afterRepeat else false))) := by
        simp only [verdict_of_isEmpty,fails,isUnsupported,hasEmptyBlock,awaits,if_true,Bool.true_and,Bool.or_false]
        ac_rfl
      rw [shape]
      refine (hoistOptionalSimple_alike initializer).bind fun initializer' => ?_
      have either : (condition.any containsAwait || hasAwait afterRepeat) = true := awaits
      simp only [either,if_true]
      refine (spillForCondition_gives condition).bind fun tested =>
        (demanded_gives (ih true (0 :: path))).bind fun body' =>
          (appendAfterRepeat_gives body' afterRepeat).map fun _ whole _ same _ keeps _ spilled _ alike =>
            expected_own rfl rfl ?_ [initializer'.2]
      cases moved : hasAwait afterRepeat with
      | true => exact iff_of_false (not_keeps_movedAfterRepeat moved) (by simp [losesCode,moved])
      | false =>
        have known : condition.any containsAwait = true := by rwa [moved,Bool.or_false] at either
        cases condition with
        | none => cases known
        | some condition =>
          rcases spilled known with ⟨statements,temporary,rfl⟩
          rw [if_pos known,if_neg (by simp),same moved,keeps_testedFor known alike,keeps,losesCode,moved,awaits,
            Bool.not_true,Bool.false_and,Bool.false_or,Bool.false_or]
  | conditional first ih =>
    refine Gives.map (ih true (0 :: path)) fun _ outcome _ expected =>
      ⟨rfl,fun _ => ?_,by simp [verdict],?_,expected.placed,by simp⟩
    · rw [losesCode,← expected.keeps rfl]
      exact ⟨fun kept => by cases kept; assumption,.conditional⟩
    · intro group member
      exact Nat.le_of_succ_le (expected.inside group member)
  | tryStatement body catches ihBody ihCatches =>
    have shape : fails (.tryStatement body catches) = (!verdict body false || fails catches) := by
      simp only [verdict_of_isEmpty,fails,isUnsupported,hasEmptyBlock,Bool.false_eq_true,if_false]
      ac_rfl
    rw [shape,hoist]
    refine (demanded_gives (ihBody false (0 :: path))).bind fun body' =>
      (ihCatches true (1 :: path)).map fun _ catches' _ expected _ keeps => expected_own rfl rfl ?_ []
    rw [losesCode,Bool.or_eq_false_iff,← keeps,← expected.keeps rfl]
    constructor
    · intro kept
      cases kept with
      | tryStatement one two => exact ⟨one,two⟩
    · rintro ⟨one,two⟩
      exact .tryStatement one two
  | ifClause negated condition body next ihBody ihNext =>
    have shape : fails (.ifClause negated condition body next) =
        (refusesCondition condition || (!verdict body false || fails next)) := by
      simp only [verdict_of_isEmpty,fails,isUnsupported,hasEmptyBlock,Bool.false_eq_true,if_false]
      ac_rfl
    rw [shape,hoist]
    refine (hoistCondition_alike condition).bind fun condition' => (demanded_gives (ihBody false (0 :: path))).bind
      fun body' => (ihNext true (1 :: path)).map fun _ next' _ expected _ keeps _ alike =>
        ⟨rfl,fun _ => ?_,by simp [verdict],?_,?_,fun _ => ?_⟩
    · rw [losesCode,Bool.or_eq_false_iff,← keeps,← expected.keeps rfl]
      constructor
      · intro kept
        cases kept with
        | ifClause _ one two => exact ⟨one,two⟩
      · rintro ⟨one,two⟩
        exact .ifClause alike.1 one two
    · rw [List.forall_mem_cons]
      exact ⟨Nat.le_refl _,fun group member => Nat.le_of_succ_le (expected.inside group member)⟩
    · rw [List.forall_mem_cons,and_iff_right (.inr rfl)]
      refine Iff.trans ?_ expected.placed
      refine forall₂_congr fun group member => or_congr_right ?_
      have long := expected.inside group member
      refine iff_of_false ?_ (by simp [front])
      intro same
      have same : group.1 = path := Option.some.inj same
      rw [same,List.length_cons] at long
      omega
    · rw [List.forall_mem_cons,awaitsInChain,Bool.or_eq_false_iff,← expected.placed,← Prefix.isNil_iff,alike.2,
        Bool.not_eq_true']
      simp [front]
  | noNext => exact .pure fun _ => ⟨rfl,fun _ => iff_of_true .noNext rfl,by simp [verdict],by simp,by simp [awaitsBehindElse],by simp⟩
  | elseClause body ih =>
    have shape : fails (.elseClause body) = !verdict body false := by
      simp only [verdict_of_isEmpty,fails,isUnsupported,hasEmptyBlock,Bool.false_eq_true,if_false]
      ac_rfl
    rw [shape,hoist]
    refine (demanded_gives (ih false (0 :: path))).map fun _ body' _ keeps =>
      ⟨rfl,fun _ => ?_,by simp [verdict],by simp,by simp [awaitsBehindElse],by simp⟩
    rw [losesCode,← keeps]
    exact ⟨fun kept => by cases kept; assumption,.elseClause⟩
  | elseIf clause ih =>
    refine Gives.map (ih true (0 :: path)) fun _ outcome _ expected =>
      ⟨rfl,fun _ => ?_,by simp [verdict],?_,?_,by simp⟩
    · rw [losesCode,← expected.keeps rfl]
      exact ⟨fun kept => by cases kept; assumption,.elseIf⟩
    · intro group member
      exact Nat.le_of_succ_le (expected.inside group member)
    · have silent := expected.silent rfl
      cases clause with
      | ifClause negated condition body next =>
        rw [awaitsInChain] at silent
        rw [awaitsBehindElse,← silent]
        simp [front]
  | empty =>
    exact .pure fun _ => ⟨rfl,fun _ => iff_of_true .empty rfl,fun given lost => by simp [verdict,given] at lost,by simp,
      by simp [awaitsBehindElse],by simp⟩
  | cons first rest ihFirst ihRest =>
    intro state
    rw [hoist]
    have one := ihFirst true (0 :: path) state
    cases ran : hoist first true (0 :: path) state with
    | mk outcome middle =>
      rw [ran] at one
      cases outcome with
      | none =>
        have refused : verdict (.cons first rest) supported = false := by
          rw [verdict_cons,show fails first = true from one]
          rfl
        simp only [ran]
        refine ⟨rfl,refused.symm,by simp [refused],fun _ _ kept => ?_,by simp,by simp [awaitsBehindElse],by simp⟩
        cases (keeps_cons.1 kept).2.1
      | some first' =>
        have two := ihRest true (1 :: path) middle
        cases ran' : hoist rest true (1 :: path) middle with
        | mk outcome' after =>
          rw [ran'] at two
          cases outcome' with
          | none => cases two
          | some rest' =>
            have asked : verdict (.cons first rest) supported = verdict rest true := by
              rw [verdict_cons,one.1]
              rfl
            simp only [ran,ran']
            refine ⟨rfl,two.2.verdict_eq.trans asked.symm,fun supports => ?_,fun _ refused kept => ?_,by simp,
              by simp [awaitsBehindElse],by simp⟩
            · rw [asked] at supports
              rw [keeps_cons,one.2.placed,one.2.keeps rfl,two.2.keeps supports,losesCode]
              simp
            · rw [asked] at refused
              exact two.2.lost rfl refused (keeps_cons.1 kept).2.2
  | noCatch =>
    exact .pure fun _ => ⟨rfl,fun _ => iff_of_true .noCatch rfl,by simp [verdict],by simp,by simp [awaitsBehindElse],by simp⟩
  | catchClause type name body rest ihBody ihRest =>
    have shape : fails (.catchClause type name body rest) = (!verdict body true || fails rest) := by
      simp only [verdict_of_isEmpty,fails,isUnsupported,hasEmptyBlock,if_true,Bool.or_false]
      ac_rfl
    rw [shape,hoist]
    refine (demanded_gives (ihBody true (0 :: path))).bind fun body' => (ihRest true (1 :: path)).map
      fun _ rest' _ expected _ keeps => ⟨rfl,fun _ => ?_,by simp [verdict],by simp,by simp [awaitsBehindElse],by simp⟩
    rw [losesCode,Bool.or_eq_false_iff,← keeps,← expected.keeps rfl]
    constructor
    · intro kept
      cases kept with
      | catchClause one two => exact ⟨one,two⟩
    · rintro ⟨one,two⟩
      exact .catchClause one two

section Verdicts

def isSupported (body : Tree .block) (state : HoistState) : Bool := (rewrite body state).1.any Outcome.supported

theorem isSupported_eq (body : Tree .block) (state : HoistState) :
    isSupported body state = !(isUnsupported body || hasEmptyBlock body) := by
  have shape := verdict_of_isEmpty body true
  rw [if_pos rfl,Bool.or_false] at shape
  have known := hoist_expected body true [] state
  rw [isSupported,rewrite,← shape,Bool.not_not]
  split at known
  · cases known
  · rename_i ran
    rw [ran]
    exact known.2.verdict_eq

def orFilled (filler : Tree .statement) : Tree .block → Tree .block
  | .empty => .cons filler .empty
  | block => block

@[grind] def filled (filler : Tree .statement) : {kind : StatementKind} → Tree kind → Tree kind
  | _,.simple statement => .simple statement
  | _,.returnStatement value => .returnStatement value
  | _,.throwStatement exception => .throwStatement exception
  | _,.breakStatement => .breakStatement
  | _,.continueStatement => .continueStatement
  | _,.whileStatement condition body => .whileStatement condition (orFilled filler (filled filler body))
  | _,.untilStatement condition body => .untilStatement condition (orFilled filler (filled filler body))
  | _,.forStatement initializer condition afterRepeat body =>
      .forStatement initializer condition afterRepeat (orFilled filler (filled filler body))
  | _,.forEachStatement name range body => .forEachStatement name range (orFilled filler (filled filler body))
  | _,.forInStatement name range body => .forInStatement name range (orFilled filler (filled filler body))
  | _,.conditional first => .conditional (filled filler first)
  | _,.switchStatement scrutinee cases => .switchStatement scrutinee (filled filler cases)
  | _,.tryStatement body catches => .tryStatement (orFilled filler (filled filler body)) (filled filler catches)
  | _,.deferStatement isResource statement => .deferStatement isResource statement
  | _,.empty => .empty
  | _,.cons first rest => .cons (filled filler first) (filled filler rest)
  | _,.ifClause negated condition body next =>
      .ifClause negated condition (orFilled filler (filled filler body)) (filled filler next)
  | _,.noNext => .noNext
  | _,.elseClause body => .elseClause (orFilled filler (filled filler body))
  | _,.elseIf clause => .elseIf (filled filler clause)
  | _,.noCase => .noCase
  | _,.defaultClause body rest => .defaultClause (orFilled filler (filled filler body)) (filled filler rest)
  | _,.caseClause pattern body rest => .caseClause pattern (orFilled filler (filled filler body)) (filled filler rest)
  | _,.noCatch => .noCatch
  | _,.catchClause type name body rest =>
      .catchClause type name (orFilled filler (filled filler body)) (filled filler rest)

def IsAccepted (statement : Tree .statement) : Prop :=
  ∀ path state, (hoist statement true path state).1.isSome = true

variable {filler : Tree .statement}

theorem IsAccepted.fails (accepted : IsAccepted filler) : fails filler = false := by
  have known := hoist_expected filler true [] ⟨0,0,[]⟩
  have given := accepted [] ⟨0,0,[]⟩
  split at known
  · rename_i ran
    rw [ran] at given
    cases given
  · exact known.1

theorem isUnsupported_orFilled (accepted : IsAccepted filler) (body : Tree .block) :
    isUnsupported (orFilled filler body) = isUnsupported body := by
  have plain := Bool.or_eq_false_iff.1 accepted.fails
  cases body with
  | empty => simp [orFilled,isUnsupported,plain.1]
  | cons first rest => rfl

theorem hasEmptyBlock_orFilled (accepted : IsAccepted filler) (body : Tree .block) :
    hasEmptyBlock (orFilled filler body) = hasEmptyBlock body := by
  have plain := Bool.or_eq_false_iff.1 accepted.fails
  cases body with
  | empty => simp [orFilled,hasEmptyBlock,plain.2]
  | cons first rest => rfl

theorem isEmpty_orFilled (body : Tree .block) : (orFilled filler body).isEmpty = false := by
  cases body <;> rfl

theorem isUnsupported_filled (accepted : IsAccepted filler) (tree : Tree kind) :
    isUnsupported (filled filler tree) = isUnsupported tree := by
  induction tree with
  | simple | returnStatement | throwStatement | breakStatement | continueStatement | deferStatement | switchStatement
  | empty | noNext | noCase | noCatch | defaultClause | caseClause | forEachStatement | forInStatement => rfl
  | whileStatement condition body ih | untilStatement condition body ih | elseClause body ih
  | forStatement initializer condition afterRepeat body ih =>
    simp only [filled,isUnsupported,isUnsupported_orFilled accepted,ih]
  | conditional first ih | elseIf first ih => exact ih
  | tryStatement first rest ihFirst ihRest | ifClause negated condition first rest ihFirst ihRest
  | catchClause type name first rest ihFirst ihRest =>
    simp only [filled,isUnsupported,isUnsupported_orFilled accepted,ihFirst,ihRest]
  | cons first rest ihFirst ihRest => rw [filled,isUnsupported,ihFirst,ihRest,isUnsupported]

theorem hasEmptyBlock_filled (accepted : IsAccepted filler) (tree : Tree kind) :
    hasEmptyBlock (filled filler tree) = false := by
  induction tree with
  | simple | returnStatement | throwStatement | breakStatement | continueStatement | deferStatement | switchStatement
  | empty | noNext | noCase | noCatch | defaultClause | caseClause | forEachStatement | forInStatement => rfl
  | whileStatement condition body ih | untilStatement condition body ih | elseClause body ih
  | forStatement initializer condition afterRepeat body ih =>
    simp only [filled,hasEmptyBlock,hasEmptyBlock_orFilled accepted,isEmpty_orFilled,ih,Bool.and_false,Bool.or_self]
  | conditional first ih | elseIf first ih => exact ih
  | tryStatement first rest ihFirst ihRest | ifClause negated condition first rest ihFirst ihRest
  | catchClause type name first rest ihFirst ihRest =>
    simp only [filled,hasEmptyBlock,hasEmptyBlock_orFilled accepted,isEmpty_orFilled,ihFirst,ihRest,Bool.or_self]
  | cons first rest ihFirst ihRest => rw [filled,hasEmptyBlock,ihFirst,ihRest,Bool.or_self]

/-- A body that is supported is all there, and its empty blocks make no difference, exactly if it is refused anyway,
or no block is empty that must not be and no code is lost. -/
theorem hoisting_keeps_iff (body : Tree .block) (state : HoistState) :
    ((∀ outcome, (rewrite body state).1 = some outcome → outcome.supported = true → Keeps [] body outcome.tree) ∧
      ∀ filler, IsAccepted filler → isSupported (filled filler body) state = isSupported body state) ↔
        (isUnsupported body || !hasEmptyBlock body && !losesCode body) = true := by
  have asked := verdict_of_isEmpty body true
  rw [if_pos rfl,Bool.or_false] at asked
  have whole : (∀ outcome, (rewrite body state).1 = some outcome → outcome.supported = true →
      Keeps [] body outcome.tree) ↔ (verdict body true = true → losesCode body = false) := by
    have known := hoist_expected body true [] state
    rw [rewrite]
    split at known
    · cases known
    · rename_i outcome _ ran
      rw [ran]
      simp only [Option.some.injEq,forall_eq',known.2.verdict_eq]
      exact forall_congr' fun supports => known.2.keeps supports
  have independent : (∀ filler, IsAccepted filler → isSupported (filled filler body) state = isSupported body state) ↔
      (hasEmptyBlock body = true → isUnsupported body = true) := by
    have always : IsAccepted .breakStatement := fun _ _ => rfl
    have same (filler : Tree .statement) (accepted : IsAccepted filler) :
        isSupported (filled filler body) state = !isUnsupported body := by
      rw [isSupported_eq,isUnsupported_filled accepted,hasEmptyBlock_filled accepted,Bool.or_false]
    constructor
    · intro equal empty
      have verdicts := equal .breakStatement always
      rw [same _ always,isSupported_eq,empty,Bool.or_true,Bool.not_true,Bool.not_eq_false'] at verdicts
      exact verdicts
    · intro refused filler accepted
      rw [same filler accepted,isSupported_eq]
      cases empty : hasEmptyBlock body with
      | false => rw [Bool.or_false]
      | true => rw [refused empty,Bool.true_or]
  rw [whole,independent,← Bool.not_eq_false',asked]
  cases isUnsupported body <;> cases hasEmptyBlock body <;> cases losesCode body <;> decide

section Examples

def condition : Expression .expression := .literalExpression (.other 1)

def emptyBranchInLoop : Tree .block :=
  .cons (.whileStatement condition (.cons (.conditional (.ifClause false (.expressionStatement condition) .empty .noNext))
    .empty)) .empty

/-- The loop is supported, and the `if` is gone from it. -/
theorem emptyBranchInLoop_lost : ∃ outcome, (rewrite emptyBranchInLoop ⟨0,0,[]⟩).1 = some outcome ∧
    outcome.supported = true ∧ ¬ Keeps [] emptyBranchInLoop outcome.tree := by
  refine ⟨_,rfl,rfl,?_⟩
  intro kept
  have inside := (keeps_whileStatement rfl rfl).1 (keeps_cons.1 kept).2.1
  cases (keeps_cons.1 inside).2.1

end Examples

end Verdicts

end ShardScript.Hoisting
