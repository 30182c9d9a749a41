import ShardScript.Hoisting.Evaluation

/-! What an expression does after its awaits were hoisted, if what is hoisted comes first anyway. -/
namespace ShardScript.Hoisting
open Library Scratch Semantic Attempt

section Conditions

@[grind] def lifts : {kind : ExpressionKind} → Expression kind → (allowTopLevelAwait : Bool) → Nat
  | _,.literalExpression _,_ | _,.typeExpression _,_ | _,.lambdaExpression _,_ | _,.patternExpression _,_
  | _,.variableReference _,_ | _,.absent,_ | _,.noArgument,_ | _,.noArm,_ => 0
  | _,.awaitExpression _ _ operand,allowTopLevelAwait => lifts operand false + if allowTopLevelAwait then 0 else 1
  | _,.binaryExpression _ left right,_ => lifts left false + lifts right false
  | _,.unaryExpression _ _ operand,_ | _,.castExpression _ operand,_ | _,.present operand,_ => lifts operand false
  | _,.ternaryExpression condition left right,_ => lifts condition false + (lifts left false + lifts right false)
  | _,.rangeExpression left right,_ => lifts left false + lifts right false
  | _,.collectionExpression values,_ => lifts values false
  | _,.objectExpression _ arraySize arguments,_ => lifts arraySize false + lifts arguments false
  | _,.switchExpression scrutinee arms,_ => lifts scrutinee false + lifts arms false
  | _,.memberAccessExpression _ previous,_ => lifts previous false
  | _,.invocationExpression _ previous arguments,_ | _,.indexatorExpression _ previous arguments,_ =>
      lifts previous false + lifts arguments false
  | _,.argument first rest,_ => lifts first false + lifts rest false
  | _,.arm pattern value rest,_ => lifts pattern false + (lifts value false + lifts rest false)

@[grind] def isSource : {kind : ExpressionKind} → Expression kind → Bool
  | _,.literalExpression _ | _,.typeExpression _ | _,.lambdaExpression _ | _,.patternExpression _ | _,.absent
  | _,.noArgument | _,.noArm => true
  | _,.variableReference _ => false
  | _,.awaitExpression _ _ operand | _,.unaryExpression _ _ operand | _,.castExpression _ operand
  | _,.present operand => isSource operand
  | _,.binaryExpression _ left right => isSource left && isSource right
  | _,.ternaryExpression condition left right => isSource condition && (isSource left && isSource right)
  | _,.rangeExpression left right => isSource left && isSource right
  | _,.collectionExpression values => isSource values
  | _,.objectExpression _ arraySize arguments => isSource arraySize && isSource arguments
  | _,.switchExpression scrutinee arms => isSource scrutinee && isSource arms
  | _,.memberAccessExpression _ previous => isSource previous
  | _,.invocationExpression _ previous arguments | _,.indexatorExpression _ previous arguments =>
      isSource previous && isSource arguments
  | _,.argument first rest => isSource first && isSource rest
  | _,.arm pattern value rest => isSource pattern && (isSource value && isSource rest)

@[grind] def isSilent : {kind : ExpressionKind} → Expression kind → Bool
  | _,.literalExpression _ | _,.typeExpression _ | _,.lambdaExpression _ | _,.absent | _,.noArgument => true
  | _,.binaryExpression operator left right =>
      isShortCircuitOrConditionalOperator operator && (isSilent left && isSilent right)
  | _,.ternaryExpression condition left right => isSilent condition && (isSilent left && isSilent right)
  | _,.present expression => isSilent expression
  | _,.argument first rest => isSilent first && isSilent rest
  | _,_ => false

def isSilentAs : Expression .expression → (asPlace : Bool) → Bool
  | .memberAccessExpression _ previous,asPlace => asPlace && isSilent previous
  | .indexatorExpression _ previous arguments,asPlace => asPlace && (isSilent previous && isSilent arguments)
  | expression,_ => isSilent expression

@[grind] def inOrder : {kind : ExpressionKind} → Expression kind → (allowTopLevelAwait : Bool) → Bool
  | _,.literalExpression _,_ | _,.typeExpression _,_ | _,.lambdaExpression _,_ | _,.patternExpression _,_
  | _,.variableReference _,_ | _,.absent,_ | _,.noArgument,_ | _,.noArm,_ => true
  | _,.awaitExpression _ _ operand,allowTopLevelAwait =>
      if allowTopLevelAwait then inOrder operand false else lifts operand false == 0
  | _,.binaryExpression operator left right,_ =>
      lifts right false == 0 && inOrder left false ||
        (if operator = .assignOperator then isSilentAs left true
          else !operator.isAssignmentOperator && !isShortCircuitOrConditionalOperator operator && isSilent left) &&
          inOrder right false
  | _,.unaryExpression _ _ operand,_ | _,.castExpression _ operand,_ | _,.present operand,_ => inOrder operand false
  | _,.ternaryExpression condition left right,_ =>
      inOrder condition false && (lifts left false == 0 && lifts right false == 0)
  | _,.rangeExpression left right,_ =>
      lifts right false == 0 && inOrder left false || isSilent left && inOrder right false
  | _,.collectionExpression values,_ => inOrder values false
  | _,.objectExpression _ arraySize arguments,_ =>
      lifts arguments false == 0 && inOrder arraySize false || isSilent arraySize && inOrder arguments false
  | _,.switchExpression scrutinee arms,_ => inOrder scrutinee false && lifts arms false == 0
  | _,.memberAccessExpression _ previous,_ => inOrder previous false
  | _,.invocationExpression _ previous arguments,_ | _,.indexatorExpression _ previous arguments,_ =>
      lifts arguments false == 0 && inOrder previous false || isSilent previous && inOrder arguments false
  | _,.argument first rest,_ => lifts rest false == 0 && inOrder first false || isSilent first && inOrder rest false
  | _,.arm pattern value rest,_ => lifts pattern false == 0 && (lifts value false == 0 && lifts rest false == 0)

/-- The same where a condition is spilled. A variable that was made for it cannot be incremented in its place. -/
@[grind] def spillsInOrder : Expression .expression → Bool
  | .awaitExpression _ _ operand => inOrder operand false
  | .binaryExpression operator left right =>
      if operator = .andOperator ∨ operator = .orOperator then spillsInOrder left && spillsInOrder right
      else inOrder (.binaryExpression operator left right) false
  | .unaryExpression operator _ operand => !operator.isIncrementDecrementOperator && spillsInOrder operand
  | .ternaryExpression condition left right => spillsInOrder condition && (spillsInOrder left && spillsInOrder right)
  | expression => inOrder expression false

end Conditions

section Order

variable {Value Exception : Type} {M : Type → Type} [Monad M] [LawfulMonad M] (host : Host Value (ExceptT Exception M))

theorem locate_agrees (operation : Operation) (parts : List Value) (asPlace : Bool) :
    Agrees (host.onScratch.locate operation parts asPlace) (host.locate operation parts asPlace) := by
  cases asPlace
  · exact .lift _
  · exact .pure _

def AgreesOf : {kind : ExpressionKind} → Denotation Value (Scratch VariableSymbol Value Exception M) kind →
    Denotation Value (ExceptT Exception M) kind → Prop
  | .expression,meaning,plain => ∀ asPlace, Agrees (meaning asPlace) (plain asPlace)
  | .optional,meaning,plain | .arguments,meaning,plain => Agrees meaning plain
  | .arms,meaning,plain => ∀ scrutinee, Agrees (meaning scrutinee) (plain scrutinee)

theorem evaluate_agrees {kind : ExpressionKind} (expression : Expression kind) (source : isSource expression = true) :
    AgreesOf (evaluate host.onScratch expression) (evaluate host expression) := by
  induction expression with
  | literalExpression literal =>
    cases literal with
    | boolean value | other token => exact fun _ => .pure _
  | typeExpression token | lambdaExpression token => exact fun _ => .pure _
  | patternExpression token => exact fun _ => .lift _
  | variableReference temporary => cases source
  | awaitExpression token getResult operand ih | castExpression token operand ih =>
    exact fun _ => (ih source false).bind fun _ => .lift _
  | binaryExpression operator left right ihLeft ihRight =>
    rw [isSource,Bool.and_eq_true] at source
    have left := ihLeft source.1
    have right := ihRight source.2 false
    intro asPlace
    unfold evaluate
    split
    · exact (left true).bind fun _ => right.bind fun _ => .lift _
    split
    · exact (left true).bind fun _ => (Agrees.lift _).bind fun _ => right.bind fun _ => .lift _
    split
    · exact (left false).bind fun value => .choice (host.truth value) right (.pure _)
    split
    · exact (left false).bind fun value => .choice (host.truth value) (.pure _) right
    split
    · exact (left false).bind fun value => .choice (host.isNull value) right (.pure _)
    · exact (left false).bind fun _ => right.bind fun _ => .lift _
  | unaryExpression operator isRightDetermined operand ih =>
    intro asPlace
    unfold evaluate
    split
    · exact (ih source true).bind fun _ => .lift _
    · exact (ih source false).bind fun _ => .lift _
  | ternaryExpression condition left right ihCondition ihLeft ihRight =>
    simp only [isSource,Bool.and_eq_true] at source
    exact fun _ => (ihCondition source.1 false).bind fun value =>
      .choice (host.truth value) (ihLeft source.2.1 false) (ihRight source.2.2 false)
  | rangeExpression left right ihLeft ihRight | objectExpression token left right ihLeft ihRight
  | invocationExpression token left right ihLeft ihRight =>
    rw [isSource,Bool.and_eq_true] at source
    exact fun _ => (ihLeft source.1).bind fun _ => (ihRight source.2).bind fun _ => .lift _
  | collectionExpression values ih => exact fun _ => (ih source).bind fun _ => .lift _
  | switchExpression scrutinee arms ihScrutinee ihArms =>
    rw [isSource,Bool.and_eq_true] at source
    exact fun _ => (ihScrutinee source.1 false).bind (ihArms source.2)
  | memberAccessExpression token previous ih => exact fun _ => (ih source).bind fun _ => locate_agrees host _ _ _
  | indexatorExpression token previous arguments ihPrevious ihArguments =>
    rw [isSource,Bool.and_eq_true] at source
    exact fun _ => (ihPrevious source.1).bind fun _ => (ihArguments source.2).bind fun _ => locate_agrees host _ _ _
  | absent | noArgument => exact .pure _
  | present expression ih => exact (ih source false).bind fun _ => .pure _
  | argument first rest ihFirst ihRest =>
    rw [isSource,Bool.and_eq_true] at source
    exact (ihFirst source.1 false).bind fun _ => Agrees.bind (ihRest source.2) fun _ => .pure _
  | noArm => exact fun _ => .lift _
  | arm pattern value rest ihPattern ihValue ihRest =>
    simp only [isSource,Bool.and_eq_true] at source
    exact fun scrutinee => (ihPattern source.1).bind fun pattern =>
      .choice (host.takes scrutinee pattern) (ihValue source.2.1 false) (ihRest source.2.2 scrutinee)

/-- How a result of the hoisting stands for the expression of some kind that it comes from. -/
def StandsFor : {kind : ExpressionKind} → Expression kind → (allowTopLevelAwait : Bool) → HoistResult kind → Prop
  | .expression,expression,allowTopLevelAwait,result => ∀ asPlace,
      Stands (result.before.run host.onScratch) (evaluate host.onScratch result.expression asPlace)
        (evaluate host.onScratch expression asPlace) (evaluate host expression asPlace)
        (lifts expression allowTopLevelAwait) (isSilentAs expression asPlace) (inOrder expression allowTopLevelAwait)
  | .optional,expression,allowTopLevelAwait,result | .arguments,expression,allowTopLevelAwait,result =>
      Stands (result.before.run host.onScratch) (evaluate host.onScratch result.expression)
        (evaluate host.onScratch expression) (evaluate host expression) (lifts expression allowTopLevelAwait)
        (isSilent expression) (inOrder expression allowTopLevelAwait)
  | .arms,expression,allowTopLevelAwait,result =>
      Follows (result.before.run host.onScratch) (evaluate host.onScratch result.expression)
        (evaluate host.onScratch expression) (evaluate host expression) (lifts expression allowTopLevelAwait) false

@[simp] theorem isSilentAs_false (expression : Expression .expression) :
    isSilentAs expression false = isSilent expression := by
  cases expression <;> rfl

theorem shortCircuit_of {operator : TokenType} (short : isShortCircuitOrConditionalOperator operator = true) :
    operator = .andOperator ∨ operator = .orOperator ∨ operator = .nullCoalescingOperator := by
  unfold isShortCircuitOrConditionalOperator at short
  split at short
  · exact .inl rfl
  · exact .inr (.inl rfl)
  · exact .inr (.inr rfl)
  · cases short

theorem eager_of_assigns {operator : TokenType} (assigns : operator.isAssignmentOperator = true) :
    isShortCircuitOrConditionalOperator operator = false := by
  rw [← Bool.not_eq_true]
  intro short
  rcases shortCircuit_of short with rfl | rfl | rfl
  · cases assigns
  · cases assigns
  · cases assigns

theorem binaryExpression_stands (operator : TokenType) (allowTopLevelAwait : Bool) {left right : Expression .expression}
    {left' right' : HoistResult .expression} (stands : StandsFor host left false left')
    (stands' : StandsFor host right false right') :
    StandsFor host (.binaryExpression operator left right) allowTopLevelAwait
      ⟨.binaryExpression operator left'.expression right'.expression,left'.before ++ right'.before⟩ := by
  intro asPlace
  rw [Prefix.run_append]
  by_cases assigns : operator = .assignOperator
  · simp only [evaluate,if_pos assigns]
    refine ((stands true).both (stands' false) fun _ _ => .lift _).mono rfl ?_ (by simp [inOrder,assigns])
    simp [isSilentAs,isSilent,assigns,isShortCircuitOrConditionalOperator]
  by_cases compound : operator.isAssignmentOperator = true
  · simp only [evaluate,if_neg assigns,if_pos compound]
    have loaded := (stands' false).behind (fun place => Agrees.lift (host.operate .load [place]))
      fun place old value => Agrees.lift (host.operate (.assign operator) [place,old,value])
    refine ((stands true).sequel loaded).mono rfl ?_ (by simp +contextual [inOrder,assigns,compound])
    simp [isSilentAs,isSilent,eager_of_assigns compound]
  simp only [evaluate,if_neg assigns,if_neg compound]
  by_cases and : operator = .andOperator
  · subst and
    simp only [if_pos]
    have chosen := Follows.choice (fun value => host.truth value = true) (stands' false).anyway .pure
    rw [bind_pure_unit] at chosen
    refine ((stands false).sequel chosen).mono rfl ?_ (by simp +contextual [inOrder,isShortCircuitOrConditionalOperator])
    simp only [isSilentAs_false]
    simp [isSilentAs,isSilent]
  by_cases or : operator = .orOperator
  · subst or
    simp only [if_pos,if_neg and]
    have chosen := Follows.choice (fun value => host.truth value = true) .pure (stands' false).anyway
    rw [pure_bind,Nat.zero_add] at chosen
    refine ((stands false).sequel chosen).mono rfl ?_ (by simp +contextual [inOrder,isShortCircuitOrConditionalOperator])
    simp only [isSilentAs_false]
    simp [isSilentAs,isSilent]
  by_cases coalesces : operator = .nullCoalescingOperator
  · subst coalesces
    simp only [if_pos,if_neg and,if_neg or]
    have chosen := Follows.choice (fun value => host.isNull value = true) (stands' false).anyway .pure
    rw [bind_pure_unit] at chosen
    refine ((stands false).sequel chosen).mono rfl ?_ (by simp +contextual [inOrder,isShortCircuitOrConditionalOperator])
    simp only [isSilentAs_false]
    simp [isSilentAs,isSilent]
  simp only [if_neg and,if_neg or,if_neg coalesces]
  have eager : isShortCircuitOrConditionalOperator operator = false := by
    rw [← Bool.not_eq_true]
    intro short
    rcases shortCircuit_of short with same | same | same
    · exact and same
    · exact or same
    · exact coalesces same
  refine ((stands false).both (stands' false) fun _ _ => .lift _).mono rfl ?_ (by simp [inOrder,assigns,compound,eager])
  simp [isSilentAs,isSilent,eager]

theorem hoistExpression_stands {kind : ExpressionKind} (expression : Expression kind)
    (source : isSource expression = true) (allowTopLevelAwait conditional : Bool) :
    Yields (hoistExpression expression allowTopLevelAwait conditional) fun result =>
      StandsFor host expression allowTopLevelAwait result := by
  induction expression generalizing allowTopLevelAwait conditional with
  | literalExpression literal =>
    cases literal with
    | boolean value | other token => exact .pure fun asPlace => (Stands.pure _).mono rfl (by simp) (by simp)
  | typeExpression token | lambdaExpression token =>
    exact .pure fun asPlace => (Stands.pure _).mono rfl (by simp) (by simp)
  | patternExpression token => exact .failing fun _ => rfl
  | variableReference temporary => cases source
  | awaitExpression token getResult operand ih =>
    rw [hoistExpression]
    refine (ih source false false).bind fun awaitable stands => ?_
    have awaited := (stands false).followed fun value => Agrees.lift (host.await token value)
    cases allowTopLevelAwait with
    | true => exact .pure fun asPlace => awaited.mono rfl (by simp [isSilentAs,isSilent]) (by simp [inOrder])
    | false =>
      cases conditional with
      | true => exact .failing fun _ => rfl
      | false =>
        by_cases void : resultType getResult = .void
        · simp only [Bool.false_eq_true,if_false,if_pos void]
          exact .failing fun _ => rfl
        · simp only [Bool.false_eq_true,if_false,if_neg void]
          have yields : Yields (addVariable condTmp (resultType getResult)) fun _ => True := fun _ _ _ _ => trivial
          refine yields.map fun temporary _ asPlace => ?_
          exact ((stands false).lifted temporary fun value => Agrees.lift (host.await token value)).mono rfl
            (by simp [isSilentAs,isSilent]) (by simp [inOrder])
  | binaryExpression operator left right ihLeft ihRight =>
    rw [isSource,Bool.and_eq_true] at source
    exact (ihLeft source.1 false conditional).bind fun left' stands =>
      (ihRight source.2 false _).map fun right' stands' => binaryExpression_stands host operator _ stands stands'
  | unaryExpression operator isRightDetermined operand ih =>
    refine (ih source false conditional).map fun inner stands asPlace => ?_
    by_cases increments : operator.isIncrementDecrementOperator
    · simp only [evaluate,if_pos increments]
      exact ((stands true).followed fun _ => .lift _).mono rfl (by simp [isSilentAs,isSilent]) (by simp [inOrder])
    · simp only [evaluate,if_neg increments]
      exact ((stands false).followed fun _ => .lift _).mono rfl (by simp [isSilentAs,isSilent]) (by simp [inOrder])
  | ternaryExpression condition left right ihCondition ihLeft ihRight =>
    simp only [isSource,Bool.and_eq_true] at source
    refine (ihCondition source.1 false conditional).bind fun condition stands =>
      (ihLeft source.2.1 false true).bind fun left stands' =>
        (ihRight source.2.2 false true).map fun right stands'' asPlace => ?_
    rw [Prefix.run_append_append]
    have chosen := Follows.choice (fun value => host.truth value = true) (stands' false).anyway (stands'' false).anyway
    refine ((stands false).sequel chosen).mono rfl ?_ (by simp +contextual [inOrder])
    simp only [isSilentAs_false]
    simp [isSilentAs,isSilent]
  | castExpression token operand ih =>
    refine (ih source false conditional).map fun inner stands asPlace => ?_
    exact ((stands false).followed fun _ => .lift _).mono rfl (by simp [isSilentAs,isSilent]) (by simp [inOrder])
  | rangeExpression left right ihLeft ihRight =>
    rw [isSource,Bool.and_eq_true] at source
    refine (ihLeft source.1 false conditional).bind fun left stands =>
      (ihRight source.2 false conditional).map fun right stands' asPlace => ?_
    rw [Prefix.run_append]
    exact (stands.both stands' fun _ _ => .lift _).mono rfl (by simp [isSilentAs,isSilent]) (by simp [inOrder])
  | collectionExpression values ih =>
    refine (ih source false conditional).map fun inner stands asPlace => ?_
    exact (stands.followed fun _ => .lift _).mono rfl (by simp [isSilentAs,isSilent]) (by simp [inOrder])
  | objectExpression token arraySize arguments ihSize ihArguments =>
    rw [isSource,Bool.and_eq_true] at source
    refine (ihSize source.1 false conditional).bind fun arraySize stands =>
      (ihArguments source.2 false conditional).map fun arguments stands' asPlace => ?_
    rw [Prefix.run_append]
    exact (stands.both stands' fun _ _ => .lift _).mono rfl (by simp [isSilentAs,isSilent]) (by simp [inOrder])
  | switchExpression scrutinee arms ihScrutinee ihArms =>
    rw [isSource,Bool.and_eq_true] at source
    refine (ihScrutinee source.1 false conditional).bind fun scrutinee stands =>
      (ihArms source.2 false true).map fun arms follows asPlace => ?_
    rw [Prefix.run_append]
    exact ((stands false).sequel follows).mono rfl (by simp [isSilentAs,isSilent]) (by simp [inOrder,and_comm])
  | memberAccessExpression token previous ih =>
    refine (ih source false conditional).map fun inner stands asPlace => ?_
    cases asPlace with
    | true => exact (stands.mapped _).mono rfl (by simp [isSilentAs]) (by simp [inOrder])
    | false => exact (stands.followed fun _ => .lift _).mono rfl (by simp [isSilent]) (by simp [inOrder])
  | invocationExpression token previous arguments ihPrevious ihArguments =>
    rw [isSource,Bool.and_eq_true] at source
    refine (ihPrevious source.1 false conditional).bind fun previous stands =>
      (ihArguments source.2 false conditional).map fun arguments stands' asPlace => ?_
    rw [Prefix.run_append]
    exact (stands.both stands' fun _ _ => .lift _).mono rfl (by simp [isSilentAs,isSilent]) (by simp [inOrder])
  | indexatorExpression token previous arguments ihPrevious ihArguments =>
    rw [isSource,Bool.and_eq_true] at source
    refine (ihPrevious source.1 false conditional).bind fun previous stands =>
      (ihArguments source.2 false conditional).map fun arguments stands' asPlace => ?_
    rw [Prefix.run_append]
    cases asPlace with
    | true => exact (stands.both_mapped _ stands').mono rfl (by simp [isSilentAs]) (by simp [inOrder])
    | false => exact (stands.both stands' fun _ _ => .lift _).mono rfl (by simp [isSilent]) (by simp [inOrder])
  | absent => exact .pure (.pure _)
  | present expression ih =>
    refine (ih source false conditional).map fun inner stands => ?_
    exact ((stands false).mapped _).mono rfl (by simp [isSilent]) (by simp [inOrder])
  | noArgument => exact .pure (.pure _)
  | argument first rest ihFirst ihRest =>
    rw [isSource,Bool.and_eq_true] at source
    refine (ihFirst source.1 false conditional).bind fun first stands =>
      (ihRest source.2 false conditional).map fun rest stands' => ?_
    have whole := (stands false).both_mapped List.cons stands'
    rw [← Prefix.run_append] at whole
    exact whole.mono rfl (by simp [isSilent]) (by simp [inOrder])
  | noArm => exact .pure ⟨fun _ => ⟨rfl,rfl⟩,fun _ => .lift _,by simp⟩
  | arm pattern value rest ihPattern ihValue ihRest =>
    simp only [isSource,Bool.and_eq_true] at source
    refine (ihPattern source.1 false true).bind fun pattern stands =>
      (ihValue source.2.1 false true).bind fun value stands' =>
        (ihRest source.2.2 false conditional).map fun rest follows => ?_
    have whole := Follows.choosing (fun scrutinee pattern => host.takes scrutinee pattern = true) stands
      (stands' false).anyway follows
    rw [← Prefix.run_append_append] at whole
    exact whole

theorem spillExpressionInto_delivers (expression : Expression .expression) (source : isSource expression = true)
    (order : spillsInOrder expression = true) (destination : VariableSymbol) :
    Yields (spillExpressionInto expression destination) fun statements =>
      Delivers (statements.run host.onScratch) destination (evaluate host expression false) := by
  fun_induction spillsInOrder expression generalizing destination with
  | case1 token getResult operand =>
    rw [spillExpressionInto]
    refine (hoistExpression_stands host operand source false false).bind fun awaitable stands => ?_
    have yields : Yields (declareTemporaryVariable "<a>__awaitTmp" (resultType getResult)) fun _ => True :=
      fun _ _ _ _ => trivial
    refine yields.map fun temporary _ => ?_
    have awaited := ((stands false).followed fun value => Agrees.lift (host.await token value)).prepared order
    have stored := Delivers.of_prepared temporary awaited
    have whole := Delivers.of_prepared destination stored.prepared
    simpa only [Prefix.run_append,Prefix.run,evaluate,bind_assoc,bind_pure_unit,Host.onScratch_await,
      Host.onScratch_read,Host.onScratch_write] using whole
  | case2 operator left right connective ihLeft ihRight =>
    rw [isSource,Bool.and_eq_true] at source
    rw [Bool.and_eq_true] at order
    rw [spillExpressionInto,if_pos connective]
    refine (ihLeft source.1 order.1 destination).bind fun first delivers =>
      (ihRight source.2 order.2 destination).map fun second delivers' => ?_
    intro β continuation continuation' known
    rw [Prefix.run_append,bind_assoc,evaluate_connective host connective,bind_assoc]
    refine delivers _ _ _ fun value => ?_
    rw [Prefix.run_branch]
    split
    · rw [Prefix.run,pure_bind,pure_bind]
      exact known value
    · exact (delivers' _ _ _ known).stored destination value
  | case3 operator left right connective =>
    rw [isSource,Bool.and_eq_true] at source
    rw [spillExpressionInto,if_neg connective]
    refine (hoistExpression_stands host left source.1 false false).bind fun left' stands =>
      (hoistExpression_stands host right source.2 false false).map fun right' stands' => ?_
    have both := binaryExpression_stands host operator false stands stands'
    have whole := Delivers.of_prepared destination ((both false).prepared order)
    simpa only [Prefix.run_append,Prefix.run,bind_assoc,bind_pure_unit,Host.onScratch_write] using whole
  | case4 operator isRightDetermined operand ih =>
    rw [Bool.and_eq_true,Bool.not_eq_true'] at order
    rw [spillExpressionInto]
    refine (ih source order.2 destination).map fun inner delivers => ?_
    intro β continuation continuation' known
    have stored : ∀ value, (store destination value >>= fun _ =>
        fetch destination >>= fun value => lift (host.operate (.unary operator isRightDetermined) [value]) >>=
          fun value => store destination value >>= fun _ => continuation) =
        store destination value >>= fun _ => lift (host.operate (.unary operator isRightDetermined) [value]) >>=
          fun value => store destination value >>= fun _ => continuation := fun value => store_fetch _ _ _
    have whole := delivers _ _ _ fun value => (stored value).symm ▸
      ((Agrees.lift (host.operate (.unary operator isRightDetermined) [value])).bind known).stored destination value
    simpa only [Prefix.run_append,Prefix.run,evaluate,order.1,Bool.false_eq_true,if_false,bind_assoc,bind_pure_unit,
      Host.onScratch_read,Host.onScratch_write,Host.onScratch_operate] using whole
  | case5 condition left right ihCondition ihLeft ihRight =>
    simp only [isSource,Bool.and_eq_true] at source
    simp only [Bool.and_eq_true] at order
    rw [spillExpressionInto]
    have yields : Yields (declareTemporaryVariable "<a>__cond" .boolean) fun _ => True := fun _ _ _ _ => trivial
    refine yields.bind fun conditionVariable _ => (ihCondition source.1 order.1 conditionVariable).bind fun tested delivers =>
      (ihLeft source.2.1 order.2.1 destination).bind fun whenTrue delivers' =>
        (ihRight source.2.2 order.2.2 destination).map fun whenFalse delivers'' => ?_
    intro β continuation continuation' known
    have chosen := delivers _ (Prefix.run host.onScratch (.branch false conditionVariable whenTrue whenFalse .nil) >>=
      fun _ => continuation) (fun value => (if host.truth value then evaluate host left false
        else evaluate host right false) >>= continuation') fun value => by
        rw [Prefix.run_branch]
        refine Agrees.stored conditionVariable value ?_
        cases host.truth value
        · exact delivers'' _ _ _ known
        · exact delivers' _ _ _ known
    have whole := chosen.stored conditionVariable (host.boolean false)
    simpa only [Prefix.declare_append,Prefix.run_append,Prefix.run,evaluate,bind_assoc,pure_bind,Host.onScratch_boolean,
      Host.onScratch_write] using whole
  | case6 expression noAwait noBinary noUnary noTernary =>
    rw [spillExpressionInto]
    · refine (hoistExpression_stands host expression source false false).map fun result stands => ?_
      have whole := Delivers.of_prepared destination ((stands false).prepared order)
      simpa only [Prefix.run_append,Prefix.run,bind_assoc,bind_pure_unit,Host.onScratch_write] using whole
    all_goals assumption

end Order

end ShardScript.Hoisting
