import Mathlib.Data.List.Nodup
import ShardScript.Hoisting.Preservation

/-! The names of the variables that the hoisting makes. -/
namespace ShardScript.Hoisting
open Library Semantic Syntax Attempt

section Names

def number (name : String) : Nat := Nat.ofDigitChars 10 (name.toList.filter Char.isDigit) 0

def bases : List String := ["<a>__awaitTmp","<a>__cond","<a>__range"]

variable {base : String}

theorem number_append (plain : base.toList.filter Char.isDigit = []) (count : Nat) :
    number (base ++ toString count) = count := by
  have digits : (Nat.toDigits 10 count).filter Char.isDigit = Nat.toDigits 10 count :=
    List.filter_eq_self.2 fun _ member => Nat.isDigit_of_mem_toDigits (by decide) (by decide) member
  rw [number,String.toList_append,List.filter_append,plain,List.nil_append,Nat.toString_eq_repr,Nat.toList_repr,digits]
  exact Nat.ofDigitChars_ten_toDigits

theorem number_of_base (known : base ∈ bases) (count : Nat) : number (base ++ toString count) = count := by
  refine number_append ?_ count
  revert base
  decide

theorem condTmp_ne (known : base ∈ bases) (count : Nat) : base ++ toString count ≠ condTmp := by
  intro same
  have zero := number_of_base known count
  rw [same] at zero
  have none : number condTmp = 0 := number_append (by decide) 0
  rw [none] at zero
  subst zero
  revert base
  decide

/-- Each name but that of the lifted awaits is there once, with a number in the range. -/
structure Numbered (names : List String) (start after lifted : Nat) : Prop where
  later : start ≤ after
  lifted : names.count condTmp = lifted
  apart : (names.filter (· != condTmp)).Nodup
  ranged : ∀ name ∈ names, name = condTmp ∨ ∃ base ∈ bases, ∃ count, start ≤ count ∧ count < after ∧
    name = base ++ toString count

namespace Numbered

variable {names names' : List String} {start after lifted : Nat}

theorem perm (known : Numbered names start after lifted) (same : names'.Perm names) :
    Numbered names' start after lifted where
  later := known.later
  lifted := (same.count_eq _).trans known.lifted
  apart := (same.filter _).nodup_iff.2 known.apart
  ranged := fun name member => known.ranged name (same.mem_iff.1 member)

theorem nil (start : Nat) : Numbered [] start start 0 := ⟨Nat.le_refl _,rfl,.nil,by simp⟩

theorem addVariable (known : Numbered names start after lifted) : Numbered (condTmp :: names) start after (lifted + 1) where
  later := known.later
  lifted := by rw [List.count_cons_self,known.lifted]
  apart := by simpa using known.apart
  ranged := by
    intro name member
    rcases List.mem_cons.1 member with rfl | member
    · exact .inl rfl
    · exact known.ranged name member

theorem declare (member : base ∈ bases) (known : Numbered names start after lifted) :
    Numbered ((base ++ toString after) :: names) start (after + 1) lifted where
  later := Nat.le_succ_of_le known.later
  lifted := by rw [List.count_cons_of_ne (condTmp_ne member after),known.lifted]
  apart := by
    rw [List.filter_cons_of_pos (by simpa using condTmp_ne member after),List.nodup_cons]
    refine ⟨fun inside => ?_,known.apart⟩
    rcases List.mem_filter.1 inside with ⟨there,other⟩
    rcases known.ranged _ there with same | ⟨base',member',count,_,less,same⟩
    · exact condTmp_ne member after same
    · have numbers := congrArg number same
      rw [number_of_base member,number_of_base member'] at numbers
      omega
  ranged := by
    intro name inside
    rcases List.mem_cons.1 inside with rfl | inside
    · exact .inr ⟨base,member,after,known.later,Nat.lt_succ_self after,rfl⟩
    · rcases known.ranged name inside with same | ⟨base',member',count,from_,less,same⟩
      · exact .inl same
      · exact .inr ⟨base',member',count,from_,Nat.lt_succ_of_lt less,same⟩

theorem nodup_iff (known : Numbered names start after lifted) : names.Nodup ↔ lifted ≤ 1 := by
  constructor
  · intro nodup
    rw [← known.lifted]
    exact List.nodup_iff_count_le_one.1 nodup condTmp
  · intro once
    refine List.nodup_iff_count_le_one.2 fun name => ?_
    by_cases same : name = condTmp
    · rw [same,known.lifted]
      exact once
    · have kept : (names.filter (· != condTmp)).count name = names.count name :=
        List.count_filter (by simpa using same)
      rw [← kept]
      exact List.nodup_iff_count_le_one.1 known.apart name

end Numbered

def Adds {α : Type} (attempt : Hoist α) (known : List String) (names : α → List String) (lifted : Nat) : Prop :=
  ∀ state result after, attempt state = (some result,after) → ∀ start count,
    Numbered known start state.counter count → Numbered (names result) start after.counter (count + lifted)

namespace Adds

variable {α β : Type} {attempt : Hoist α} {continuation : α → Hoist β} {known : List String} {names : α → List String}
  {names' : β → List String} {lifted lifted' : Nat}

theorem pure {result : α} (same : (names result).Perm known) : Adds (Pure.pure result) known names 0 := by
  rintro state _ _ ⟨⟩ start count numbered
  exact numbered.perm same

theorem bindKnown {holds : α → Prop} (first : Adds attempt known names lifted) (yields : Yields attempt holds)
    (second : ∀ result, holds result → Adds (continuation result) (names result) names' lifted') :
    Adds (attempt >>= continuation) known names' (lifted + lifted') := by
  intro state result after come start count numbered
  rw [run_bind] at come
  cases ran : attempt state with
  | mk outcome middle =>
    rw [ran] at come
    cases outcome with
    | none => cases come
    | some between =>
      rw [← Nat.add_assoc]
      exact second between (yields _ _ _ ran) _ _ _ come start _ (first _ _ _ ran start count numbered)

theorem bind (first : Adds attempt known names lifted)
    (second : ∀ result, Adds (continuation result) (names result) names' lifted') :
    Adds (attempt >>= continuation) known names' (lifted + lifted') :=
  have always : Yields attempt fun _ => True := fun _ _ _ _ => trivial
  first.bindKnown always fun result _ => second result

theorem map {change : α → β} (first : Adds attempt known names lifted)
    (same : ∀ result, (names' (change result)).Perm (names result)) :
    Adds (do let result ← attempt; Pure.pure (change result)) known names' lifted :=
  first.bind fun result => .pure (same result)

theorem fails (refused : ∀ state, (attempt state).1 = none) : Adds attempt known names lifted := by
  intro state result after come
  have none := refused state
  rw [come] at none
  cases none

theorem addVariable (type : TypeSymbol) :
    Adds (addVariable condTmp type) known (fun temporary => temporary.name :: known) 1 := by
  rintro state _ _ ⟨⟩ start count numbered
  exact numbered.addVariable

theorem declareTemporaryVariable (member : base ∈ bases) (type : TypeSymbol) :
    Adds (declareTemporaryVariable base type) known (fun temporary => temporary.name :: known) 0 := by
  rintro state _ _ ⟨⟩ start count numbered
  exact numbered.declare member

end Adds

namespace Prefix

def names : Prefix → List String
  | nil => []
  | declare temporary _ rest => temporary.name :: rest.names
  | assign _ _ rest => rest.names
  | branch _ _ taken other rest => taken.names ++ other.names ++ rest.names

@[simp] theorem names_append (statements behind : Prefix) :
    (statements ++ behind).names = statements.names ++ behind.names := by
  induction statements with
  | nil => rfl
  | declare temporary value rest ih => simp [names,ih]
  | assign temporary value rest ih => simp [names,ih]
  | branch negated condition taken other rest _ _ ih => simp [names,ih]

end Prefix

theorem hoistExpression_adds {kind : ExpressionKind} (expression : Expression kind)
    (allowTopLevelAwait conditional : Bool) (known : List String) :
    Adds (hoistExpression expression allowTopLevelAwait conditional) known
      (fun result => known ++ result.before.names) (lifts expression allowTopLevelAwait) := by
  induction expression generalizing allowTopLevelAwait conditional known with
  | literalExpression | typeExpression | lambdaExpression | variableReference | absent | noArgument | noArm =>
    exact .pure (by simp [Prefix.names])
  | patternExpression token => exact .fails fun _ => rfl
  | awaitExpression token getResult operand ih =>
    rw [hoistExpression,lifts]
    refine (ih false false known).bind fun awaitable => ?_
    cases allowTopLevelAwait with
    | true => exact .pure (.refl _)
    | false =>
      cases conditional with
      | true => exact .fails fun _ => rfl
      | false =>
        by_cases void : resultType getResult = .void
        · simp only [Bool.false_eq_true,if_false,if_pos void]
          exact .fails fun _ => rfl
        · simp only [Bool.false_eq_true,if_false,if_neg void]
          refine (Adds.addVariable _).map fun temporary => ?_
          simp [Prefix.names]
  | binaryExpression operator left right ihLeft ihRight | rangeExpression left right ihLeft ihRight
  | objectExpression token left right ihLeft ihRight | switchExpression left right ihLeft ihRight
  | invocationExpression token left right ihLeft ihRight
  | indexatorExpression token left right ihLeft ihRight | argument left right ihLeft ihRight =>
    exact (ihLeft false _ known).bind fun left => (ihRight false _ _).map fun right => by simp
  | unaryExpression operator isRightDetermined operand ih | castExpression token operand ih | present operand ih
  | collectionExpression operand ih | memberAccessExpression token operand ih =>
    exact (ih false _ known).map fun inner => .refl _
  | ternaryExpression first second third ihFirst ihSecond ihThird
  | arm first second third ihFirst ihSecond ihThird =>
    exact (ihFirst false _ known).bind fun first => (ihSecond false _ _).bind fun second =>
      (ihThird false _ _).map fun third => by simp


@[grind] def liftsSpilled : Expression .expression → Nat
  | .awaitExpression _ _ operand => lifts operand false
  | .binaryExpression operator left right =>
      if operator = .andOperator ∨ operator = .orOperator then liftsSpilled left + liftsSpilled right
      else lifts left false + lifts right false
  | .unaryExpression _ _ operand => liftsSpilled operand
  | .ternaryExpression condition left right => liftsSpilled condition + (liftsSpilled left + liftsSpilled right)
  | expression => lifts expression false

theorem spillExpressionInto_adds (expression : Expression .expression) (destination : VariableSymbol)
    (known : List String) :
    Adds (spillExpressionInto expression destination) known (fun statements => known ++ statements.names)
      (liftsSpilled expression) := by
  fun_induction liftsSpilled expression generalizing destination known with
  | case1 token getResult operand =>
    rw [spillExpressionInto]
    refine (hoistExpression_adds operand false false known).bind fun awaitable =>
      Adds.map (.declareTemporaryVariable (by decide) _) fun temporary => ?_
    simp only [Prefix.names_append,Prefix.names,← List.append_assoc]
    exact List.perm_append_singleton _ _
  | case2 operator left right connective ihLeft ihRight =>
    rw [spillExpressionInto,if_pos connective]
    exact (ihLeft destination known).bind fun first => (ihRight destination _).map fun second => by simp [Prefix.names]
  | case3 operator left right connective =>
    rw [spillExpressionInto,if_neg connective]
    exact (hoistExpression_adds left false false known).bind fun left =>
      (hoistExpression_adds right false false _).map fun right => by simp [Prefix.names]
  | case4 operator isRightDetermined operand ih =>
    rw [spillExpressionInto]
    exact (ih destination known).map fun inner => by simp [Prefix.names]
  | case5 condition left right ihCondition ihLeft ihRight =>
    rw [spillExpressionInto,← Nat.zero_add (liftsSpilled condition + _)]
    refine (Adds.declareTemporaryVariable (by decide) _).bind fun conditionVariable =>
      (ihCondition conditionVariable _).bind fun tested => (ihLeft destination _).bind fun whenTrue =>
        (ihRight destination _).map fun whenFalse => ?_
    simp [Prefix.names]
  | case6 expression noAwait noBinary noUnary noTernary =>
    rw [spillExpressionInto]
    · exact (hoistExpression_adds expression false false known).map fun result => by simp [Prefix.names]
    all_goals assumption

theorem hoistValue_adds (value : Expression .expression) (known : List String) :
    Adds (hoistValue value) known (fun result => known ++ result.before.names) (liftsValue value) := by
  cases value with
  | awaitExpression token getResult operand =>
    exact (hoistExpression_adds operand true false known).map fun inner => .refl _
  | literalExpression | typeExpression | lambdaExpression | patternExpression | variableReference | binaryExpression
  | unaryExpression | ternaryExpression | castExpression | rangeExpression | collectionExpression | objectExpression
  | switchExpression | memberAccessExpression | invocationExpression | indexatorExpression =>
    exact hoistExpression_adds _ false false known

theorem hoistOption_adds (value : Option (Expression .expression)) (known : List String) :
    Adds (hoistOption value) known (fun result => known ++ result.2.names) (liftsOption value) := by
  cases value with
  | none => exact .pure (by simp [Prefix.names])
  | some value => exact (hoistValue_adds value known).map fun result => .refl _

def liftsThrown (exception : Option (Expression .expression)) : Nat :=
  (exception.map fun exception => lifts exception false).getD 0

theorem hoistThrown_adds (exception : Option (Expression .expression)) (known : List String) :
    Adds (hoistThrown exception) known (fun result => known ++ result.2.names) (liftsThrown exception) := by
  cases exception with
  | none => exact .pure (by simp [Prefix.names])
  | some exception => exact (hoistExpression_adds exception false false known).map fun result => .refl _

theorem hoistSimple_adds (statement : Simple (Expression .expression)) (known : List String) :
    Adds (hoistSimple statement) known (fun result => known ++ result.2.names) (liftsSimple statement) := by
  cases statement with
  | expressionStatement expression => exact (hoistValue_adds expression known).map fun result => .refl _
  | variableStatement name value => exact (hoistOption_adds value known).map fun result => .refl _

theorem hoistOptionalSimple_adds (statement : Option (Simple (Expression .expression))) (known : List String) :
    Adds (hoistOptionalSimple statement) known (fun result => known ++ result.2.names) (liftsOptional statement) := by
  cases statement with
  | none => exact .pure (by simp [Prefix.names])
  | some statement => exact (hoistSimple_adds statement known).map fun result => .refl _

theorem spillCondition_adds (condition : Expression .expression) (known : List String) :
    Adds (spillCondition condition) known (fun spilled => known ++ spilled.1.names) (liftsSpilled condition) := by
  rw [spillCondition,← Nat.zero_add (liftsSpilled condition)]
  refine (Adds.declareTemporaryVariable (by decide) _).bind fun destination =>
    (spillExpressionInto_adds condition destination _).map fun statements => ?_
  simp [Prefix.names]

def liftsCondition : Simple (Expression .expression) → Nat
  | .expressionStatement condition => if containsAwait condition then liftsSpilled condition else 0
  | .variableStatement _ _ => 0

theorem hoistCondition_adds (condition : Simple (Expression .expression)) (known : List String) :
    Adds (hoistCondition condition) known (fun result => known ++ result.2.names) (liftsCondition condition) := by
  cases condition with
  | variableStatement name value => exact .pure (by simp [Prefix.names])
  | expressionStatement condition =>
    rw [hoistCondition,liftsCondition]
    split
    · exact (spillCondition_adds condition known).map fun spilled => .refl _
    · exact .pure (by simp [Prefix.names])

variable (condition : Option (Expression .expression))

def liftsLoopCondition : Nat :=
  (condition.map fun condition => lifts condition true).getD 0

theorem hoistLoopCondition_adds (known : List String) :
    Adds (hoistLoopCondition condition) known (fun result => known ++ result.2.names) (liftsLoopCondition condition) := by
  cases condition with
  | none => exact .pure (by simp [Prefix.names])
  | some condition => exact (hoistExpression_adds condition true true known).map fun result => .refl _

def liftsRange : Expression .expression → Nat
  | .awaitExpression _ _ operand => lifts operand false
  | range => if containsAwait range then lifts range false else 0

theorem hoistRange_adds (range : Expression .expression) (known : List String) :
    Adds (hoistRange range) known (fun result => known ++ result.2.names) (liftsRange range) := by
  unfold hoistRange
  split
  · rename_i awaits
    split
    · rename_i token getResult operand
      refine (hoistExpression_adds operand false false known).bind fun awaitable =>
        Adds.map (.declareTemporaryVariable (by decide) _) fun temporary => ?_
      simp only [Prefix.names_append,Prefix.names,← List.append_assoc]
      exact List.perm_append_singleton _ _
    · rename_i other
      rw [liftsRange,if_pos awaits]
      · exact (hoistExpression_adds range false false known).map fun result => .refl _
      · exact other
  · rename_i none
    rw [liftsRange,if_neg none]
    · exact .pure (by simp [Prefix.names])
    · rintro token getResult operand rfl
      exact none rfl

def groupNames (groups : List (Path × Prefix)) : List String := groups.flatMap fun group => group.2.names

@[grind] def Hoisted.names : {kind : StatementKind} → Hoisted kind → List String
  | _,.simple _ | _,.returnStatement _ | _,.throwStatement _ | _,.breakStatement | _,.continueStatement
  | _,.deferStatement _ _ | _,.movedFrom | _,.empty | _,.noNext | _,.noCase | _,.noCatch => []
  | _,.whileStatement _ body | _,.untilStatement _ body | _,.forStatement _ _ _ body | _,.forEachStatement _ _ body
  | _,.forInStatement _ _ body | _,.elseClause body => body.names
  | _,.conditional first | _,.elseIf first => first.names
  | _,.switchStatement _ cases => cases.names
  | _,.tryStatement body catches => body.names ++ catches.names
  | _,.cons before first rest => groupNames before ++ first.names ++ rest.names
  | _,.tested before _ _ rest => before.names ++ rest.names
  | _,.ifClause _ _ body next => body.names ++ next.names
  | _,.defaultClause body rest | _,.caseClause _ body rest | _,.catchClause _ _ body rest => body.names ++ rest.names

theorem Hoisted.names_append (block behind : Hoisted .block) : (block.append behind).names = block.names ++ behind.names := by
  cases block with
  | empty => simp [Hoisted.append,names]
  | cons before first rest => simp [Hoisted.append,names,names_append rest behind]
  | tested before isUntil condition rest => simp [Hoisted.append,names,names_append rest behind]

@[grind] def liftsIn : {kind : StatementKind} → Tree kind → Nat
  | _,.simple statement => liftsSimple statement
  | _,.returnStatement value => liftsOption value
  | _,.throwStatement exception => liftsThrown exception
  | _,.breakStatement | _,.continueStatement | _,.deferStatement _ _ | _,.empty | _,.noNext | _,.noCatch
  | _,.switchStatement _ _ | _,.noCase | _,.defaultClause _ _ | _,.caseClause _ _ _ => 0
  | _,.whileStatement condition body | _,.untilStatement condition body =>
      (if containsAwait condition then liftsSpilled condition else lifts condition true) + liftsIn body
  | _,.forStatement initializer condition afterRepeat body =>
      liftsOptional initializer + if awaitsInLoop condition afterRepeat then
        (if condition.any containsAwait then (condition.map liftsSpilled).getD 0 else 0) +
          (liftsIn body + if hasAwait afterRepeat then liftsOptional afterRepeat else 0)
      else liftsLoopCondition condition + (liftsOptional afterRepeat + liftsIn body)
  | _,.forEachStatement _ range body | _,.forInStatement _ range body => liftsRange range + liftsIn body
  | _,.conditional first => liftsIn first
  | _,.tryStatement body catches => liftsIn body + liftsIn catches
  | _,.cons first rest => liftsIn first + liftsIn rest
  | _,.ifClause _ condition body next => liftsCondition condition + (liftsIn body + liftsIn next)
  | _,.elseClause body => liftsIn body
  | _,.elseIf clause => liftsIn clause
  | _,.catchClause _ _ body rest => liftsIn body + liftsIn rest

/-- What the hoisting of a part of a tree adds to the names that are there, if the part is supported. -/
def Outcome.names : {kind : StatementKind} → Outcome kind → List String
  | .block,outcome | .catches,outcome => outcome.tree.names
  | _,outcome => groupNames outcome.before ++ outcome.tree.names

def AddsIn {kind : StatementKind} (attempt : Hoist (Outcome kind)) (known : List String) (lifted : Nat) : Prop :=
  ∀ state outcome after, attempt state = (some outcome,after) → (kind = .block → outcome.supported = true) →
    ∀ start count, Numbered known start state.counter count →
      Numbered (known ++ outcome.names) start after.counter (count + lifted)

variable {kind : StatementKind}

theorem Adds.within {attempt : Hoist (Outcome kind)} {known : List String} {lifted : Nat}
    (adds : Adds attempt known (fun outcome => known ++ outcome.names) lifted) : AddsIn attempt known lifted :=
  fun _ _ _ come _ => adds _ _ _ come

theorem AddsIn.adds {attempt : Hoist (Outcome kind)} {known : List String} {lifted : Nat}
    (within : AddsIn attempt known lifted) (supports : Yields attempt fun outcome => kind = .block → outcome.supported = true) :
    Adds attempt known (fun outcome => known ++ outcome.names) lifted :=
  fun _ _ _ come => within _ _ _ come (supports _ _ _ come)

theorem AddsIn.apart {attempt : Hoist (Outcome kind)} {known : List String} {lifted : Nat}
    (within : AddsIn attempt known lifted) (other : kind ≠ .block) :
    Adds attempt known (fun outcome => known ++ outcome.names) lifted :=
  within.adds fun _ _ _ _ block => absurd block other

theorem AddsIn.demanded {block : Hoist (Outcome .block)} {known : List String} {lifted : Nat}
    (within : AddsIn block known lifted) :
    Adds (demanded block) known (fun tree => known ++ tree.names) lifted := by
  intro state tree after come start count numbered
  rw [Hoisting.demanded,run_bind] at come
  cases ran : block state with
  | mk result middle =>
    rw [ran] at come
    cases result with
    | none => cases come
    | some outcome =>
      cases supported : outcome.supported with
      | false =>
        simp only [supported,Bool.false_eq_true,if_false] at come
        cases come
      | true =>
        simp only [supported,if_true] at come
        cases come
        exact within _ _ _ ran (fun _ => supported) start count numbered

theorem AddsIn.found {body : Tree .block} {path : Path} {known : List String} {lifted : Nat} (found : isLost body = false)
    (within : AddsIn (hoist body true path) known lifted) :
    Adds (hoist body true path) known (fun outcome => known ++ outcome.tree.names) lifted :=
  within.adds ((supported_of_found path found).mono fun _ supported _ => supported)

def Tested (tested : Hoisted .block → Hoisted .block) : Prop :=
  ∀ body, (tested body).names = (tested .empty).names ++ body.names

theorem spillLoopCondition_adds (isUntil : Bool) (condition : Expression .expression) (known : List String) :
    Adds (spillLoopCondition isUntil condition) known (fun tested => known ++ (tested .empty).names)
      (liftsSpilled condition) := by
  rw [spillLoopCondition,← Nat.add_zero (liftsSpilled condition)]
  refine (spillCondition_adds condition known).bindKnown (spillCondition_settled condition).yields fun spilled settled => ?_
  rw [rehoist_settled settled.1]
  exact .pure (by simp [Hoisted.names])

theorem spillLoopCondition_tested (isUntil : Bool) (condition : Expression .expression) :
    Yields (spillLoopCondition isUntil condition) Tested := by
  refine (spillLoopCondition_gives isUntil condition).yields.mono fun tested known body => ?_
  rcases known with ⟨statements,temporary,rfl⟩
  simp [Hoisted.names]

theorem spillForCondition_adds (known : List String) :
    Adds (spillForCondition condition) known (fun tested => known ++ (tested .empty).names)
      (if condition.any containsAwait then (condition.map liftsSpilled).getD 0 else 0) := by
  cases condition with
  | none => exact .pure (by simp [Hoisted.names])
  | some condition =>
    rw [spillForCondition,Option.any_some]
    cases containsAwait condition with
    | false => exact .pure (by simp [Hoisted.names])
    | true => exact spillLoopCondition_adds false condition known

theorem spillForCondition_tested :
    Yields (spillForCondition condition) Tested := by
  cases condition with
  | none => exact .pure fun body => by simp [Hoisted.names]
  | some condition =>
    rw [spillForCondition]
    split
    · exact spillLoopCondition_tested false condition
    · exact .pure fun body => by simp [Hoisted.names]

theorem appendAfterRepeat_adds (path : Path) (body : Hoisted .block)
    (afterRepeat : Option (Simple (Expression .expression))) (known : List String) :
    Adds (appendAfterRepeat path body afterRepeat) (known ++ body.names) (fun moved => known ++ moved.names)
      (liftsOptional afterRepeat) := by
  cases afterRepeat with
  | none => exact .pure (.refl _)
  | some afterRepeat =>
    refine (hoistSimple_adds afterRepeat _).map fun result => ?_
    simp [Hoisted.names_append,Hoisted.names,groupNames]

theorem hoist_adds (tree : Tree kind) (order : keepsOrder tree = true) (supported : Bool)
    (path : Path) (known : List String) : AddsIn (hoist tree supported path) known (liftsIn tree) := by
  induction tree generalizing supported path known with
  | simple statement =>
    refine Adds.within ((hoistSimple_adds statement known).map fun result => ?_)
    simp [Outcome.names,groupNames,Hoisted.names]
  | returnStatement value =>
    refine Adds.within ((hoistOption_adds value known).map fun result => ?_)
    simp [Outcome.names,groupNames,Hoisted.names]
  | throwStatement exception =>
    refine Adds.within ((hoistThrown_adds exception known).map fun result => ?_)
    simp [Outcome.names,groupNames,Hoisted.names]
  | breakStatement | continueStatement | deferStatement | empty | noNext | noCatch =>
    exact Adds.within (.pure (by simp [Outcome.names,groupNames,Hoisted.names]))
  | switchStatement scrutinee cases => exact Adds.within (.fails fun _ => rfl)
  | noCase => exact Adds.within (.fails fun _ => rfl)
  | defaultClause body rest => exact Adds.within (.fails fun _ => rfl)
  | caseClause pattern body rest => exact Adds.within (.fails fun _ => rfl)
  | whileStatement condition body ih | untilStatement condition body ih =>
    rw [keepsOrder,Bool.and_eq_true] at order
    rw [hoist,liftsIn]
    split
    · refine Adds.within ((spillLoopCondition_adds _ condition known).bindKnown (spillLoopCondition_tested _ condition)
        fun tested known => (AddsIn.demanded (ih order.1 true (0 :: path) _)).map fun body => ?_)
      simp [Outcome.names,groupNames,Hoisted.names,known body]
    · rename_i awaits
      rw [if_neg awaits,Bool.and_eq_true,Bool.not_eq_true'] at order
      refine Adds.within ((hoistExpression_adds condition true true known).bind fun condition =>
        (AddsIn.found order.2.2 (ih order.1 true (0 :: path) _)).map fun body => ?_)
      simp [Outcome.names,groupNames,Hoisted.names]
  | forStatement initializer condition afterRepeat body ih =>
    rw [keepsOrder,Bool.and_eq_true,Bool.and_eq_true] at order
    rw [hoist,liftsIn]
    refine Adds.within ((hoistOptionalSimple_adds initializer known).bind fun initializer => ?_)
    cases awaits : awaitsInLoop condition afterRepeat with
    | false =>
      have apart := Bool.or_eq_false_iff.1 awaits
      simp only [awaits,Bool.false_eq_true,if_false,Bool.and_eq_true,Bool.not_eq_true'] at order
      simp only [apart.1,apart.2,Bool.or_self,Bool.false_eq_true,if_false]
      refine (hoistLoopCondition_adds condition _).bind fun condition =>
        (hoistOptionalSimple_adds afterRepeat _).bind fun afterRepeat =>
          (AddsIn.found order.2.2.2.2 (ih order.2.1 true (0 :: path) _)).map fun body => ?_
      simp [Outcome.names,groupNames,Hoisted.names]
    | true =>
      have either : (condition.any containsAwait || hasAwait afterRepeat) = true := awaits
      simp only [either,if_true]
      refine (spillForCondition_adds condition _).bindKnown (spillForCondition_tested condition) fun tested known' =>
        (AddsIn.demanded (ih order.2.1 true (0 :: path) _)).bind fun body => ?_
      cases moved : hasAwait afterRepeat with
      | false =>
        refine .pure ?_
        simp [Outcome.names,groupNames,Hoisted.names,known' body]
      | true =>
        refine (appendAfterRepeat_adds path body afterRepeat _).map fun body => ?_
        simp [Outcome.names,groupNames,Hoisted.names,known' body]
  | forEachStatement name range body ih | forInStatement name range body ih =>
    simp only [keepsOrder,Bool.and_eq_true,Bool.not_eq_true'] at order
    rw [hoist]
    refine Adds.within ((hoistRange_adds range known).bind fun range =>
      (AddsIn.found order.2.2 (ih order.2.1 true (0 :: path) _)).map fun body => ?_)
    simp [Outcome.names,groupNames,Hoisted.names]
  | conditional first ih =>
    rw [hoist]
    exact Adds.within (((ih order true (0 :: path) known).apart (by simp)).map fun first => .refl _)
  | tryStatement body catches ihBody ihCatches =>
    rw [keepsOrder,Bool.and_eq_true] at order
    rw [hoist]
    refine Adds.within ((AddsIn.demanded (ihBody order.1 false (0 :: path) known)).bind fun body =>
      ((ihCatches order.2 true (1 :: path) _).apart (by simp)).map fun catches => ?_)
    simp [Outcome.names,groupNames,Hoisted.names]
  | cons first rest ihFirst ihRest =>
    rw [keepsOrder,Bool.and_eq_true] at order
    intro state outcome after come supports start count numbered
    rcases hoist_cons_supported come (supports rfl) with ⟨first',middle,rest',ran,ran',rfl⟩
    have one := ihFirst order.1 true (0 :: path) known _ _ _ ran (by simp) start count numbered
    have two := ihRest order.2 true (1 :: path) _ _ _ _ ran' (fun _ => supports rfl) start _ one
    rw [liftsIn,← Nat.add_assoc]
    simpa [Outcome.names,Hoisted.names] using two
  | ifClause negated condition body next ihBody ihNext =>
    simp only [keepsOrder,Bool.and_eq_true] at order
    rw [hoist]
    refine Adds.within ((hoistCondition_adds condition known).bind fun condition =>
      (AddsIn.demanded (ihBody order.2.1 false (0 :: path) _)).bind fun body =>
        ((ihNext order.2.2 true (1 :: path) _).apart (by simp)).map fun next => ?_)
    simp only [Outcome.names,groupNames,Hoisted.names,List.flatMap_cons,List.append_assoc,List.perm_append_left_iff]
    exact List.perm_append_comm_assoc _ _ _
  | elseClause body ih =>
    rw [hoist]
    refine Adds.within ((AddsIn.demanded (ih order false (0 :: path) known)).map fun body => ?_)
    simp [Outcome.names,groupNames,Hoisted.names]
  | elseIf clause ih =>
    rw [keepsOrder,Bool.and_eq_true] at order
    rw [hoist]
    exact Adds.within (((ih order.2 true (0 :: path) known).apart (by simp)).map fun clause => .refl _)
  | catchClause type name body rest ihBody ihRest =>
    rw [keepsOrder,Bool.and_eq_true] at order
    rw [hoist]
    refine Adds.within ((AddsIn.demanded (ihBody order.1 true (0 :: path) known)).bind fun body =>
      ((ihRest order.2 true (1 :: path) _).apart (by simp)).map fun rest => ?_)
    simp [Outcome.names,Hoisted.names]

end Names

end ShardScript.Hoisting
