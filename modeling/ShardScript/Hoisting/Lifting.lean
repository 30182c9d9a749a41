import ShardScript.Hoisting.Spill

/-! Which expressions the hoisting refuses, and what it leaves of the others. -/
namespace ShardScript.Hoisting
open Library Semantic Attempt

@[grind] def refuses : {kind : ExpressionKind} → Expression kind → (allowTopLevelAwait conditional : Bool) → Bool
  | _,.literalExpression _,_,_ | _,.typeExpression _,_,_ | _,.lambdaExpression _,_,_ | _,.variableReference _,_,_
  | _,.absent,_,_ | _,.noArgument,_,_ | _,.noArm,_,_ => false
  | _,.patternExpression _,_,_ => true
  | _,.awaitExpression _ getResult operand,allowTopLevelAwait,conditional =>
      refuses operand false false ||
        !allowTopLevelAwait && (conditional || resultType getResult == .void)
  | _,.binaryExpression operator left right,_,conditional =>
      refuses left false conditional ||
        refuses right false (conditional || isShortCircuitOrConditionalOperator operator)
  | _,.unaryExpression _ _ operand,_,conditional | _,.castExpression _ operand,_,conditional
  | _,.present operand,_,conditional => refuses operand false conditional
  | _,.ternaryExpression condition left right,_,conditional =>
      refuses condition false conditional || (refuses left false true || refuses right false true)
  | _,.rangeExpression left right,_,conditional => refuses left false conditional || refuses right false conditional
  | _,.collectionExpression values,_,conditional => refuses values false conditional
  | _,.objectExpression _ arraySize arguments,_,conditional =>
      refuses arraySize false conditional || refuses arguments false conditional
  | _,.switchExpression scrutinee arms,_,conditional => refuses scrutinee false conditional || refuses arms false true
  | _,.memberAccessExpression _ previous,_,conditional => refuses previous false conditional
  | _,.invocationExpression _ previous arguments,_,conditional
  | _,.indexatorExpression _ previous arguments,_,conditional =>
      refuses previous false conditional || refuses arguments false conditional
  | _,.argument first rest,_,conditional => refuses first false conditional || refuses rest false conditional
  | _,.arm pattern value rest,_,conditional =>
      refuses pattern false true || (refuses value false true || refuses rest false conditional)

@[grind] def isPlain : {kind : ExpressionKind} → Expression kind → Bool
  | _,.literalExpression _ | _,.typeExpression _ | _,.lambdaExpression _ | _,.variableReference _ | _,.absent
  | _,.noArgument | _,.noArm => true
  | _,.patternExpression _ | _,.awaitExpression _ _ _ => false
  | _,.binaryExpression _ left right => isPlain left && isPlain right
  | _,.unaryExpression _ _ operand | _,.castExpression _ operand | _,.present operand => isPlain operand
  | _,.ternaryExpression condition left right => isPlain condition && (isPlain left && isPlain right)
  | _,.rangeExpression left right => isPlain left && isPlain right
  | _,.collectionExpression values => isPlain values
  | _,.objectExpression _ arraySize arguments => isPlain arraySize && isPlain arguments
  | _,.switchExpression scrutinee arms => isPlain scrutinee && isPlain arms
  | _,.memberAccessExpression _ previous => isPlain previous
  | _,.invocationExpression _ previous arguments | _,.indexatorExpression _ previous arguments =>
      isPlain previous && isPlain arguments
  | _,.argument first rest => isPlain first && isPlain rest
  | _,.arm pattern value rest => isPlain pattern && (isPlain value && isPlain rest)

def hole : Expression .expression := .variableReference ⟨"",.any,0⟩

@[grind] def blanked : {kind : ExpressionKind} → Expression kind → Expression kind
  | _,.variableReference _ | _,.awaitExpression _ _ _ => hole
  | _,.literalExpression literal => .literalExpression literal
  | _,.typeExpression token => .typeExpression token
  | _,.lambdaExpression token => .lambdaExpression token
  | _,.patternExpression token => .patternExpression token
  | _,.binaryExpression operator left right => .binaryExpression operator (blanked left) (blanked right)
  | _,.unaryExpression operator isRightDetermined operand => .unaryExpression operator isRightDetermined (blanked operand)
  | _,.ternaryExpression condition left right => .ternaryExpression (blanked condition) (blanked left) (blanked right)
  | _,.castExpression token operand => .castExpression token (blanked operand)
  | _,.rangeExpression left right => .rangeExpression (blanked left) (blanked right)
  | _,.collectionExpression values => .collectionExpression (blanked values)
  | _,.objectExpression token arraySize arguments => .objectExpression token (blanked arraySize) (blanked arguments)
  | _,.switchExpression scrutinee arms => .switchExpression (blanked scrutinee) (blanked arms)
  | _,.memberAccessExpression token previous => .memberAccessExpression token (blanked previous)
  | _,.invocationExpression token previous arguments =>
      .invocationExpression token (blanked previous) (blanked arguments)
  | _,.indexatorExpression token previous arguments =>
      .indexatorExpression token (blanked previous) (blanked arguments)
  | _,.absent => .absent
  | _,.present expression => .present (blanked expression)
  | _,.noArgument => .noArgument
  | _,.argument first rest => .argument (blanked first) (blanked rest)
  | _,.noArm => .noArm
  | _,.arm pattern value rest => .arm (blanked pattern) (blanked value) (blanked rest)

def isPlainValue : Expression .expression → Bool
  | .awaitExpression _ _ operand => isPlain operand
  | expression => isPlain expression

def Prefix.isNil : Prefix → Bool
  | nil => true
  | _ => false

theorem Prefix.isNil_iff (statements : Prefix) : statements.isNil = true ↔ statements = nil := by
  cases statements <;> simp [isNil]

def Prefix.isSettled : Prefix → Bool
  | nil => true
  | declare _ value rest => isPlainValue value && rest.isSettled
  | assign _ value rest => isPlain value && rest.isSettled
  | branch _ _ taken other rest => !taken.isNil && (taken.isSettled && (other.isSettled && rest.isSettled))

@[simp] theorem Prefix.nil_append (statements : Prefix) : Prefix.nil ++ statements = statements := rfl

@[simp] theorem Prefix.declare_append (temporary : VariableSymbol) (value : Expression .expression)
    (rest behind : Prefix) : Prefix.declare temporary value rest ++ behind = .declare temporary value (rest ++ behind) :=
  rfl

@[simp] theorem Prefix.assign_append (temporary : VariableSymbol) (value : Expression .expression)
    (rest behind : Prefix) : Prefix.assign temporary value rest ++ behind = .assign temporary value (rest ++ behind) :=
  rfl

@[simp] theorem Prefix.branch_append (negated : Bool) (condition : VariableSymbol) (taken other rest behind : Prefix) :
    Prefix.branch negated condition taken other rest ++ behind = .branch negated condition taken other (rest ++ behind) :=
  rfl

@[simp] theorem Prefix.isSettled_append (statements behind : Prefix) :
    (statements ++ behind).isSettled = (statements.isSettled && behind.isSettled) := by
  induction statements with
  | nil => rfl
  | declare temporary value rest ih | assign temporary value rest ih => simp [isSettled,ih,Bool.and_assoc]
  | branch negated condition taken other rest _ _ ih => simp [isSettled,ih,Bool.and_assoc]

theorem Prefix.isNil_append (statements behind : Prefix) (some : behind.isNil = false) :
    (statements ++ behind).isNil = false := by
  cases statements with
  | nil => exact some
  | declare | assign | branch => rfl

structure Lifted {kind : ExpressionKind} (expression : Expression kind) (allowTopLevelAwait : Bool)
    (result : HoistResult kind) : Prop where
  blanked : blanked result.expression = blanked expression
  plain : allowTopLevelAwait = false → isPlain result.expression = true
  settled : result.before.isSettled = true

theorem report_gives {α : Type} (token : Option SyntaxToken) (message : String) {holds : HoistState → α → HoistState → Prop} :
    Gives (report token message) true holds := fun _ => rfl

theorem addVariable_gives (name : String) (type : TypeSymbol) :
    Gives (addVariable name type) false fun _ _ _ => True := fun _ => ⟨rfl,trivial⟩

theorem hoistExpression_lifted {kind : ExpressionKind} (expression : Expression kind)
    (allowTopLevelAwait conditional : Bool) :
    Gives (hoistExpression expression allowTopLevelAwait conditional)
      (refuses expression allowTopLevelAwait conditional) fun _ result _ =>
        Lifted expression allowTopLevelAwait result := by
  induction expression generalizing allowTopLevelAwait conditional with
  | literalExpression | typeExpression | lambdaExpression | variableReference | absent | noArgument | noArm =>
    exact .pure fun _ => ⟨rfl,fun _ => rfl,rfl⟩
  | patternExpression token => exact report_gives _ _
  | awaitExpression token getResult operand ih =>
    rw [hoistExpression,refuses]
    refine (ih false false).bind fun awaitable => ?_
    cases allowTopLevelAwait with
    | true => exact .pure fun _ _ lifted => ⟨rfl,by simp,lifted.settled⟩
    | false =>
      cases conditional with
      | true => exact report_gives _ _
      | false =>
        by_cases void : resultType getResult = .void
        · simp only [Bool.false_eq_true,if_false,void,beq_self_eq_true]
          exact report_gives _ _
        · simp only [Bool.false_eq_true,if_false,if_neg void,beq_eq_false_iff_ne.2 void]
          refine (addVariable_gives _ _).map fun _ temporary _ _ _ lifted => ⟨rfl,fun _ => rfl,?_⟩
          simp only [Prefix.declare_append,Prefix.nil_append,Prefix.isSettled,isPlainValue,lifted.plain,lifted.settled,
            Bool.and_self]
  | binaryExpression operator left right ihLeft ihRight | rangeExpression left right ihLeft ihRight
  | objectExpression token left right ihLeft ihRight | switchExpression left right ihLeft ihRight
  | invocationExpression token left right ihLeft ihRight
  | indexatorExpression token left right ihLeft ihRight | argument left right ihLeft ihRight =>
    refine (ihLeft false _).bind fun left => (ihRight false _).map fun _ right _ lifted' _ lifted => ⟨?_,fun _ => ?_,?_⟩
    · simp only [blanked,lifted.blanked,lifted'.blanked]
    · simp only [isPlain,lifted.plain,lifted'.plain,Bool.and_self]
    · simp only [Prefix.isSettled_append,lifted.settled,lifted'.settled,Bool.and_self]
  | unaryExpression operator isRightDetermined operand ih | castExpression token operand ih | present operand ih
  | collectionExpression operand ih | memberAccessExpression token operand ih =>
    refine (ih false _).map fun _ inner _ lifted => ⟨?_,fun _ => ?_,lifted.settled⟩
    · simp only [blanked,lifted.blanked]
    · simp only [isPlain,lifted.plain]
  | ternaryExpression first second third ihFirst ihSecond ihThird
  | arm first second third ihFirst ihSecond ihThird =>
    refine (ihFirst false _).bind fun first => (ihSecond false _).bind fun second =>
      (ihThird false _).map fun _ third _ lifted'' _ lifted' _ lifted => ⟨?_,fun _ => ?_,?_⟩
    · simp only [blanked,lifted.blanked,lifted'.blanked,lifted''.blanked]
    · simp only [isPlain,lifted.plain,lifted'.plain,lifted''.plain,Bool.and_self]
    · simp only [Prefix.isSettled_append,lifted.settled,lifted'.settled,lifted''.settled,Bool.and_self]


theorem hoistExpression_plain {kind : ExpressionKind} {expression : Expression kind}
    (plain : isPlain expression = true) (allowTopLevelAwait conditional : Bool) :
    hoistExpression expression allowTopLevelAwait conditional = pure ⟨expression,.nil⟩ := by
  induction expression generalizing allowTopLevelAwait conditional with
  | literalExpression | typeExpression | lambdaExpression | variableReference | absent | noArgument | noArm => rfl
  | patternExpression | awaitExpression => cases plain
  | unaryExpression operator isRightDetermined operand ih | castExpression token operand ih | present operand ih
  | collectionExpression operand ih | memberAccessExpression token operand ih =>
    rw [hoistExpression,ih plain]
    rfl
  | binaryExpression operator left right ihLeft ihRight | rangeExpression left right ihLeft ihRight
  | objectExpression token left right ihLeft ihRight | switchExpression left right ihLeft ihRight
  | invocationExpression token left right ihLeft ihRight | indexatorExpression token left right ihLeft ihRight
  | argument left right ihLeft ihRight =>
    rw [isPlain,Bool.and_eq_true] at plain
    rw [hoistExpression,ihLeft plain.1,ihRight plain.2]
    rfl
  | ternaryExpression first second third ihFirst ihSecond ihThird
  | arm first second third ihFirst ihSecond ihThird =>
    rw [isPlain,Bool.and_eq_true,Bool.and_eq_true] at plain
    rw [hoistExpression,ihFirst plain.1,ihSecond plain.2.1,ihThird plain.2.2]
    rfl

@[grind] def spillRefuses : Expression .expression → Bool
  | .awaitExpression _ _ operand => refuses operand false false
  | .binaryExpression operator left right =>
      if operator = .andOperator ∨ operator = .orOperator then spillRefuses left || spillRefuses right
      else refuses left false false || refuses right false false
  | .unaryExpression _ _ operand => spillRefuses operand
  | .ternaryExpression condition left right => spillRefuses condition || (spillRefuses left || spillRefuses right)
  | expression => refuses expression false false

theorem declareTemporaryVariable_gives (baseName : String) (type : TypeSymbol) :
    Gives (declareTemporaryVariable baseName type) false fun _ _ _ => True := fun _ => ⟨rfl,trivial⟩

theorem spillExpressionInto_settled (expression : Expression .expression) (destination : VariableSymbol) :
    Gives (spillExpressionInto expression destination) (spillRefuses expression) fun _ statements _ =>
      statements.isSettled = true ∧ statements.isNil = false := by
  fun_induction spillRefuses expression generalizing destination with
  | case1 token getResult operand =>
    rw [spillExpressionInto]
    refine (hoistExpression_lifted operand false false).followed fun awaitable =>
      (declareTemporaryVariable_gives _ _).map fun _ temporary _ _ _ lifted => ⟨?_,?_⟩
    · simp [Prefix.isSettled,isPlainValue,isPlain,lifted.plain,lifted.settled]
    · exact Prefix.isNil_append _ _ rfl
  | case2 operator left right connective ihLeft ihRight =>
    rw [spillExpressionInto,if_pos connective]
    refine (ihLeft destination).bind fun first =>
      (ihRight destination).map fun _ second _ settled' _ settled => ⟨?_,?_⟩
    · simp [Prefix.isSettled,settled.1,settled'.1,settled'.2]
    · exact Prefix.isNil_append _ _ rfl
  | case3 operator left right connective =>
    rw [spillExpressionInto,if_neg connective]
    refine (hoistExpression_lifted left false false).bind fun _ =>
      (hoistExpression_lifted right false false).map fun _ _ _ lifted' _ lifted => ⟨?_,?_⟩
    · simp [Prefix.isSettled,isPlain,lifted.plain,lifted.settled,lifted'.plain,lifted'.settled]
    · exact Prefix.isNil_append _ _ rfl
  | case4 operator isRightDetermined operand ih =>
    rw [spillExpressionInto]
    refine (ih destination).map fun _ _ _ settled => ⟨?_,Prefix.isNil_append _ _ rfl⟩
    simp [Prefix.isSettled,isPlain,settled.1]
  | case5 condition left right ihCondition ihLeft ihRight =>
    rw [spillExpressionInto]
    refine (declareTemporaryVariable_gives _ _).bind fun conditionVariable =>
      (ihCondition conditionVariable).bind fun tested => (ihLeft destination).bind fun whenTrue =>
        (ihRight destination).map fun _ whenFalse _ settled'' _ settled' _ settled _ _ => ⟨?_,rfl⟩
    simp [Prefix.isSettled,isPlainValue,isPlain,settled.1,settled'.1,settled'.2,settled''.1]
  | case6 expression noAwait noBinary noUnary noTernary =>
    rw [spillExpressionInto]
    · refine (hoistExpression_lifted expression false false).map fun _ _ _ lifted => ⟨?_,Prefix.isNil_append _ _ rfl⟩
      simp [Prefix.isSettled,lifted.plain,lifted.settled]
    all_goals assumption

end ShardScript.Hoisting
