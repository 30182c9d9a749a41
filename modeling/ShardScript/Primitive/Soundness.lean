import ShardScript.Primitive.Operators

/-! What is evaluated in an expression has the type that the binder has given to it. -/
namespace ShardScript.Primitive
open Library Semantic Instance

section Inversion

variable {Double : Type} {findOperator : TypeSymbol → TokenType → List TypeSymbol → Option TypeSymbol}
  {declared : Nat → TypeSymbol} {expected : Option TypeSymbol} {type : TypeSymbol}

theorem behind_eq {analysis before : Analysis} (bound : analysis.behind before = ⟨some type,[],false⟩) :
    analysis = ⟨some type,[],false⟩ ∧ before.diagnostics = [] ∧ before.toOperator = false := by
  rcases analysis with ⟨found,diagnostics,toOperator⟩
  rw [Analysis.behind,Analysis.mk.injEq,List.append_eq_nil_iff,Bool.or_eq_false_iff] at bound
  obtain ⟨rfl,⟨none,rfl⟩,⟨plain,rfl⟩⟩ := bound
  exact ⟨rfl,none,plain⟩

theorem isBound_binary {operator : TokenType} {left right : Expression Double}
    (bound : IsBound findOperator declared expected (.binaryExpression operator left right) type) :
    ∃ leftType rightType, IsBound findOperator declared expected left leftType ∧
      IsBound findOperator declared (if operator = .assignOperator then some leftType else expected) right rightType ∧
      (if operator = .assignOperator then analyzeAssignment leftType rightType
        else analyzeOperands findOperator operator leftType rightType) = ⟨some type,[],false⟩ := by
  simp only [IsBound,visitExpression] at bound
  split at bound
  · cases (behind_eq bound).1
  · rename_i leftType known
    split at bound
    · cases (behind_eq bound).1
    · rename_i rightType known'
      have same : ∀ before, (if operator = .assignOperator then (analyzeAssignment leftType rightType).behind before
          else (analyzeOperands findOperator operator leftType rightType).behind before) =
          (if operator = .assignOperator then analyzeAssignment leftType rightType
            else analyzeOperands findOperator operator leftType rightType).behind before :=
        fun before => (apply_ite (Analysis.behind · before) _ _ _).symm
      rw [same] at bound
      obtain ⟨found,diagnostics,plain⟩ := behind_eq bound
      rw [Analysis.behind,List.append_eq_nil_iff] at diagnostics
      rw [Analysis.behind,Bool.or_eq_false_iff] at plain
      exact ⟨leftType,rightType,Analysis.ext known diagnostics.1 plain.1,Analysis.ext known' diagnostics.2 plain.2,found⟩

theorem isBound_unary {operator : TokenType} {isRightDetermined : Bool} {operand : Expression Double}
    (bound : IsBound findOperator declared expected (.unaryExpression operator isRightDetermined operand) type) :
    ∃ operandType, IsBound findOperator declared expected operand operandType ∧
      analyzeOperand findOperator operator operandType = ⟨some type,[],false⟩ := by
  simp only [IsBound,visitExpression] at bound
  split at bound
  · cases (behind_eq bound).1
  · rename_i operandType known
    obtain ⟨found,diagnostics,plain⟩ := behind_eq bound
    exact ⟨operandType,Analysis.ext known diagnostics plain,found⟩

end Inversion

section Runs

variable {Double : Type} [FloatingPoint Double]
  (findOperator : TypeSymbol → TokenType → List TypeSymbol → Option TypeSymbol)
  (invokeOperatorMethod : TokenType → List (Instance Double) → Except Failure (Instance Double))
  (declared : Nat → TypeSymbol)

def Completes (expected : Option TypeSymbol) (machine : Machine Double) (expression : Expression Double)
    (after : Machine Double) : Prop :=
  ∃ code, emit declared expected expression = some code ∧ machine.run invokeOperatorMethod code = .ok after

/-- There is code for an expression, and it leaves a value of the type or raises a division by zero. -/
def Evaluates (expected : Option TypeSymbol) (machine : Machine Double) (expression : Expression Double)
    (type : TypeSymbol) : Prop :=
  ∃ code, emit declared expected expression = some code ∧
    (machine.run invokeOperatorMethod code = .error .divideByZero ∨
      ∃ value locals, machine.run invokeOperatorMethod code = .ok ⟨value :: machine.stack,locals⟩ ∧ value.HasType type)

def expectedRight (expected : Option TypeSymbol) (operator : TokenType) (slotIndex : Nat) : Option TypeSymbol :=
  if operator = .assignOperator then some (declared slotIndex) else expected

/-- Everything that is evaluated in the evaluation of an expression has the type that the binder gives to it. -/
@[grind] def IsSound (expected : Option TypeSymbol) (machine : Machine Double) : Expression Double → Prop
  | .literalExpression literal =>
      ∀ type, IsBound findOperator declared expected (.literalExpression literal) type →
        Evaluates invokeOperatorMethod declared expected machine (.literalExpression literal) type
  | .localVariable slotIndex =>
      ∀ type, IsBound findOperator declared expected (.localVariable slotIndex : Expression Double) type →
        Evaluates invokeOperatorMethod declared expected machine (.localVariable slotIndex) type
  | .binaryExpression operator left right =>
      (∀ type, IsBound findOperator declared expected (.binaryExpression operator left right) type →
        Evaluates invokeOperatorMethod declared expected machine (.binaryExpression operator left right) type) ∧
      if isAssignExpression operator then
        match toVariable left with
        | some slotIndex => IsSound (expectedRight declared expected operator slotIndex) machine right
        | none => True
      else IsSound expected machine left ∧
        ∀ middle, Completes invokeOperatorMethod declared expected machine left middle → IsSound expected middle right
  | .unaryExpression operator isRightDetermined operand =>
      (∀ type, IsBound findOperator declared expected (.unaryExpression operator isRightDetermined operand) type →
        Evaluates invokeOperatorMethod declared expected machine (.unaryExpression operator isRightDetermined operand)
          type) ∧
      if isAssignExpression operator then True else IsSound expected machine operand

variable (operator : TokenType)

def PerformsTop (machine : Machine Double) : Prop :=
  ∃ left right stack, machine.stack = right :: left :: stack ∧ Performs operator left right

def stepOperator : TokenType :=
  if operator = .decrementOperator then .subOperator else .addOperator

def PerformsUnary (operand : Instance Double) : Prop :=
  operator = .subOperator → operand.type = .integer → operand.asInteger ≠ Int64.minValue

def PerformsUnaryTop (machine : Machine Double) : Prop :=
  ∃ operand stack, machine.stack = operand :: stack ∧ PerformsUnary operator operand

/-- No assignment is completed, and every operator that is performed has the operands for it. -/
@[grind] def IsClean (expected : Option TypeSymbol) (machine : Machine Double) : Expression Double → Prop
  | .literalExpression _ | .localVariable _ => True
  | .binaryExpression operator left right =>
      if isAssignExpression operator then
        match toVariable left with
        | some slotIndex => IsClean (expectedRight declared expected operator slotIndex) machine right ∧
            ∀ after, ¬ Completes invokeOperatorMethod declared (expectedRight declared expected operator slotIndex) machine
              right after
        | none => True
      else IsClean expected machine left ∧
        ∀ middle, Completes invokeOperatorMethod declared expected machine left middle → IsClean expected middle right ∧
          ∀ after, Completes invokeOperatorMethod declared expected middle right after → PerformsTop operator after
  | .unaryExpression operator _ operand =>
      if isAssignExpression operator then
        match toVariable operand with
        | some slotIndex => Performs (stepOperator operator) (machine.locals slotIndex) (.integer 1)
        | none => True
      else IsClean expected machine operand ∧
        ∀ after, Completes invokeOperatorMethod declared expected machine operand after → PerformsUnaryTop operator after

def LocalsTyped (locals : Nat → Instance Double) : Prop := ∀ slot, (locals slot).HasType (declared slot)

def Finishes (machine : Machine Double) (code : List (Instruction Double)) (type : TypeSymbol) : Prop :=
  machine.run invokeOperatorMethod code = .error .divideByZero ∨
    ∃ value locals, machine.run invokeOperatorMethod code = .ok ⟨value :: machine.stack,locals⟩ ∧ value.HasType type ∧
      LocalsTyped declared locals

variable {findOperator invokeOperatorMethod declared} {expected : Option TypeSymbol} {machine : Machine Double}

theorem literal_finishes (literal : Literal Double) (typed : LocalsTyped declared machine.locals) :
    Finishes invokeOperatorMethod declared machine (emitLiteral expected literal) (literalType expected literal) := by
  cases literal with
  | number value =>
    rw [emitLiteral,literalType]
    unfold numberType
    split
    · exact .inr ⟨_,_,rfl,.inl rfl,typed⟩
    · exact .inr ⟨_,_,rfl,.inl rfl,typed⟩
    · exact .inr ⟨_,_,rfl,.inl rfl,typed⟩
  | null | boolean | double | char | string => exact .inr ⟨_,_,rfl,.inl rfl,typed⟩

variable (findOperator) in
theorem step_bound {operator : TokenType} (either : operator = .addOperator ∨ operator = .subOperator)
    {type : TypeSymbol} (numeric : type = .integer ∨ type = .double) :
    analyzeOperands findOperator operator type .integer = ⟨some type,[],false⟩ := by
  rcases numeric with rfl | rfl
  · rcases either with rfl | rfl
    · rfl
    · rfl
  · rcases either with rfl | rfl
    · rfl
    · rfl

omit [FloatingPoint Double] in
theorem LocalsTyped.setLocal {slot : Nat} {value : Instance Double} (typed : LocalsTyped declared machine.locals)
    (known : value.HasType (declared slot)) : LocalsTyped declared (machine.setLocal slot value).locals := by
  intro other
  by_cases same : other = slot
  · subst same
    simpa only [Machine.setLocal,if_true] using known
  · simpa only [Machine.setLocal,if_neg same] using typed other

theorem run_increment (machine : Machine Double) (operator : TokenType) (isRightDetermined : Bool) (slot : Nat) :
    machine.run invokeOperatorMethod (.loadLocal slot :: emitStep operator isRightDetermined ++ [.storeLocal slot]) =
      (Machine.executeBinary invokeOperatorMethod operator (machine.locals slot) (.integer 1)).map fun result =>
        ({ machine with
            stack := (if isRightDetermined then result else machine.locals slot) :: machine.stack }).setLocal slot
          result := by
  cases isRightDetermined with
  | true =>
    simp only [emitStep,if_true,List.cons_append,List.nil_append,Machine.run,Machine.step,Machine.push,pure_bind]
    cases Machine.executeBinary invokeOperatorMethod operator (machine.locals slot) (.integer 1) with
    | error failure => rfl
    | ok result => rfl
  | false =>
    simp only [emitStep,Bool.false_eq_true,if_false,List.cons_append,List.nil_append,Machine.run,Machine.step,
      Machine.push,pure_bind]
    cases Machine.executeBinary invokeOperatorMethod operator (machine.locals slot) (.integer 1) with
    | error failure => rfl
    | ok result => rfl

theorem increment_finishes {operator : TokenType} (isRightDetermined : Bool) {slot : Nat}
    (typed : LocalsTyped declared machine.locals)
    (given : Gives (declared slot)
      (Machine.executeBinary invokeOperatorMethod operator (machine.locals slot) (.integer 1))) :
    Finishes invokeOperatorMethod declared machine
      (.loadLocal slot :: emitStep operator isRightDetermined ++ [.storeLocal slot]) (declared slot) := by
  rw [Finishes,run_increment]
  rcases given with failed | ⟨result,known,resultType⟩
  · rw [failed]
    exact .inl rfl
  · rw [known]
    refine .inr ⟨_,_,rfl,?_,typed.setLocal resultType⟩
    split
    · exact resultType
    · exact typed slot

variable {code behind : List (Instruction Double)}

theorem run_append_of_error {failure : Failure}
    (failed : machine.run invokeOperatorMethod code = .error failure) :
    machine.run invokeOperatorMethod (code ++ behind) = .error failure := by
  rw [Machine.run_append,failed]
  rfl

theorem run_append_of_ok {after : Machine Double}
    (completed : machine.run invokeOperatorMethod code = .ok after) :
    machine.run invokeOperatorMethod (code ++ behind) = after.run invokeOperatorMethod behind := by
  rw [Machine.run_append,completed]
  rfl

theorem binaryInstruction_self {operator instruction : TokenType} (plain : isAssignExpression operator = false)
    (known : binaryInstruction operator = some instruction) : instruction = operator := by
  cases operator with
  | assignOperator | addAssignOperator | subAssignOperator | multAssignOperator | divAssignOperator | modAssignOperator
  | powAssignOperator | orAssignOperator | andAssignOperator | incrementOperator | decrementOperator => cases plain
  | notOperator | nullCoalescingOperator => cases known
  | _ => cases known; rfl

theorem ne_assign {operator : TokenType} (plain : isAssignExpression operator = false) : operator ≠ .assignOperator := by
  intro same
  rw [same] at plain
  cases plain

variable {stack : List (Instance Double)}

theorem run_mathBinary {left right : Instance Double}
    (top : machine.stack = right :: left :: stack) :
    machine.run invokeOperatorMethod [.mathBinary operator] =
      (Machine.executeBinary invokeOperatorMethod operator left right).map fun result =>
        { machine with stack := result :: stack } := by
  rw [Machine.run,Machine.step,top]
  cases outcome : Machine.executeBinary invokeOperatorMethod operator left right with
  | error failure =>
    simp only [outcome]
    rfl
  | ok value =>
    simp only [outcome]
    rfl

theorem mathBinary_finishes {left right : Instance Double}
    {locals : Nat → Instance Double} {type : TypeSymbol} (typed : LocalsTyped declared locals)
    (given : Gives type (Machine.executeBinary invokeOperatorMethod operator left right)) :
    (⟨right :: left :: stack,locals⟩ : Machine Double).run invokeOperatorMethod [.mathBinary operator] =
        .error .divideByZero ∨
      ∃ value locals', (⟨right :: left :: stack,locals⟩ : Machine Double).run invokeOperatorMethod
          [.mathBinary operator] = .ok ⟨value :: stack,locals'⟩ ∧ value.HasType type ∧ LocalsTyped declared locals' := by
  rcases given with failed | ⟨value,known,valueType⟩
  · refine .inl ?_
    rw [run_mathBinary operator rfl,failed]
    rfl
  · refine .inr ⟨value,locals,?_,valueType,typed⟩
    rw [run_mathBinary operator rfl,known]
    rfl

omit [FloatingPoint Double] in
theorem eq_of_toVariable {expression : Expression Double} {slotIndex : Nat}
    (known : toVariable expression = some slotIndex) : expression = .localVariable slotIndex := by
  cases expression with
  | localVariable => cases known; rfl
  | _ => cases known

theorem analyzeOperand_eq {operator : TokenType} {operandType type : TypeSymbol}
    (found : analyzeOperand findOperator operator operandType = ⟨some type,[],false⟩) :
    type = operandType ∧ ((operator = .notOperator ∧ operandType = .boolean) ∨
      (operator ≠ .notOperator ∧ (operandType = .integer ∨ operandType = .double))) := by
  unfold analyzeOperand at found
  extract_lets method at found
  clear_value method
  split at found
  · cases found
  split at found
  · cases found
  have numeric : ∀ text : String, (if operandType ≠ .integer ∧ operandType ≠ .double then (⟨none,[text],false⟩ : Analysis)
      else ⟨some operandType,[],false⟩) = ⟨some type,[],false⟩ →
      type = operandType ∧ (operandType = .integer ∨ operandType = .double) := by
    intro text found
    split at found
    · cases found
    · rename_i known
      cases found
      exact ⟨rfl,or_iff_not_and_not.2 known⟩
  cases operator with
  | notOperator =>
    simp only at found
    split at found
    · cases found
    · rename_i known
      cases found
      exact ⟨(not_not.1 known).symm,.inl ⟨rfl,not_not.1 known⟩⟩
  | subOperator | addOperator | incrementOperator | decrementOperator =>
    obtain ⟨same,known⟩ := numeric _ found
    exact ⟨same,.inr ⟨by decide,known⟩⟩
  | _ => cases found

theorem run_mathUnary (operand : Instance Double) (stack : List (Instance Double))
    (locals : Nat → Instance Double) :
    (⟨operand :: stack,locals⟩ : Machine Double).run invokeOperatorMethod [.mathUnary operator] =
      (Machine.executeUnary invokeOperatorMethod operator operand).map fun result => ⟨result :: stack,locals⟩ := by
  rw [Machine.run,Machine.step]
  simp only
  cases outcome : Machine.executeUnary invokeOperatorMethod operator operand with
  | error failure => rfl
  | ok value => rfl

variable (invokeOperatorMethod) in
theorem executeUnary_negative (value : Int64) :
    Machine.executeUnary invokeOperatorMethod .subOperator (.integer value : Instance Double) =
      (signed (-value.toInt)).map .integer := by
  rw [Machine.executeUnary,if_neg (by simp [isNullInstance]),executeUnary]
  simp only [Instance.type,TypeSymbol.isNumericType,Bool.not_true,Bool.false_eq_true,if_false,reduceCtorEq,asInteger]
  cases signed (-value.toInt) with
  | error failure => rfl
  | ok result => rfl

variable {operation : List (Instruction Double)}

theorem unary_finishes {operator : TokenType} {isRightDetermined : Bool} (plain : isAssignExpression operator = false)
    (known : emitUnaryOperation operator isRightDetermined = some operation)
    {operandType type : TypeSymbol} (found : analyzeOperand findOperator operator operandType = ⟨some type,[],false⟩)
    {value : Instance Double} {locals : Nat → Instance Double}
    (typed : LocalsTyped declared locals) (valueType : value.HasType operandType)
    (performs : PerformsUnary operator value) :
    (⟨value :: stack,locals⟩ : Machine Double).run invokeOperatorMethod operation = .error .divideByZero ∨
      ∃ value' locals', (⟨value :: stack,locals⟩ : Machine Double).run invokeOperatorMethod operation =
        .ok ⟨value' :: stack,locals'⟩ ∧ value'.HasType type ∧ LocalsTyped declared locals' := by
  obtain ⟨rfl,selected⟩ := analyzeOperand_eq found
  cases operator with
  | addOperator =>
    cases known
    exact .inr ⟨value,locals,rfl,valueType,typed⟩
  | notOperator =>
    cases known
    obtain ⟨_,rfl⟩ := selected.resolve_right fun other => other.1 rfl
    obtain ⟨same,_⟩ := present_of_byValue valueType rfl (by decide)
    cases value with
    | boolean value => exact .inr ⟨.boolean !value,locals,rfl,.inl rfl,typed⟩
    | _ => cases same
  | subOperator =>
    cases known
    obtain ⟨_,numeric⟩ := selected.resolve_left fun other => by cases other.1
    rcases numeric with rfl | rfl
    · obtain ⟨same,_⟩ := present_of_byValue valueType rfl (by decide)
      cases value with
      | integer value =>
        obtain ⟨result,given⟩ := signed_gives ((fits_neg_iff value).2 (performs rfl rfl))
        refine .inr ⟨.integer result,locals,?_,.inl rfl,typed⟩
        rw [run_mathUnary,executeUnary_negative,given]
        rfl
      | _ => cases same
    · obtain ⟨same,_⟩ := present_of_byValue valueType rfl (by decide)
      cases value with
      | double value => exact .inr ⟨.double (FloatingPoint.negative value),locals,rfl,.inl rfl,typed⟩
      | _ => cases same
  | incrementOperator | decrementOperator => cases plain
  | _ => cases known

omit [FloatingPoint Double] in
theorem emitUnaryOperation_increment {operator : TokenType} {isRightDetermined : Bool}
    (assigns : isAssignExpression operator = true)
    (known : emitUnaryOperation operator isRightDetermined = some operation) :
    operator ≠ .notOperator ∧ (stepOperator operator = .addOperator ∨ stepOperator operator = .subOperator) ∧
      operation = emitStep (stepOperator operator) isRightDetermined := by
  cases operator with
  | incrementOperator =>
    cases known
    exact ⟨by decide,.inl rfl,rfl⟩
  | decrementOperator =>
    cases known
    exact ⟨by decide,.inr rfl,rfl⟩
  | subOperator | addOperator | notOperator => cases assigns
  | _ => cases known

theorem clean_finishes (expression : Expression Double) {type : TypeSymbol} (typed : LocalsTyped declared machine.locals)
    (bound : IsBound findOperator declared expected expression type)
    (clean : IsClean invokeOperatorMethod declared expected machine expression) {code : List (Instruction Double)}
    (emitted : emit declared expected expression = some code) :
    Finishes invokeOperatorMethod declared machine code type := by
  induction expression generalizing expected machine type code with
  | literalExpression literal =>
    cases bound
    cases emitted
    exact literal_finishes literal typed
  | localVariable slotIndex =>
    cases bound
    cases emitted
    exact .inr ⟨_,_,rfl,typed slotIndex,typed⟩
  | binaryExpression operator left right ihLeft ihRight =>
    obtain ⟨leftType,rightType,leftBound,rightBound,found⟩ := isBound_binary bound
    rw [IsClean] at clean
    cases plain : isAssignExpression operator with
    | true =>
      obtain ⟨slotIndex,value,assigned,one,rfl⟩ := (emit_assignment plain).1 emitted
      rw [if_pos plain,assigned] at clean
      obtain ⟨clean,never⟩ := clean
      rw [eq_of_toVariable assigned] at leftBound
      cases leftBound
      rcases ihRight typed rightBound clean one with failed | ⟨value,locals,completed,_⟩
      · exact .inl (run_append_of_error failed)
      · exact absurd ⟨_,one,completed⟩ (never _)
    | false =>
      obtain ⟨first,second,instruction,one,two,known,rfl⟩ := (emit_binary plain).1 emitted
      obtain rfl := binaryInstruction_self plain known
      rw [if_neg (ne_assign plain)] at rightBound found
      rw [if_neg (by simp [plain])] at clean
      obtain ⟨leftClean,rightClean⟩ := clean
      rcases ihLeft typed leftBound leftClean one with failed | ⟨value,locals,completed,valueType,typed'⟩
      · exact .inl (run_append_of_error failed)
      obtain ⟨rightClean,performs⟩ := rightClean _ ⟨first,one,completed⟩
      rw [Finishes,run_append_of_ok completed]
      rcases ihRight typed' rightBound rightClean two with failed | ⟨value',locals',completed',valueType',typed''⟩
      · exact .inl (run_append_of_error failed)
      obtain ⟨_,_,_,same,performs⟩ := performs _ ⟨second,two,completed'⟩
      cases same
      rw [run_append_of_ok completed']
      exact mathBinary_finishes _ typed''
        (executeBinary_gives invokeOperatorMethod known found valueType valueType' performs)
  | unaryExpression operator isRightDetermined operand ih =>
    obtain ⟨operandType,operandBound,found⟩ := isBound_unary bound
    rw [IsClean] at clean
    cases plain : isAssignExpression operator with
    | true =>
      obtain ⟨slotIndex,operation,assigned,known,rfl⟩ := (emit_increment plain).1 emitted
      obtain ⟨other,either,rfl⟩ := emitUnaryOperation_increment plain known
      rw [if_pos plain,assigned] at clean
      rw [eq_of_toVariable assigned] at operandBound
      cases operandBound
      obtain ⟨rfl,selected⟩ := analyzeOperand_eq found
      obtain ⟨_,numeric⟩ := selected.resolve_left fun selected => other selected.1
      have instruction : binaryInstruction (stepOperator operator) = some (stepOperator operator) := by
        rcases either with step | step
        · rw [step]
          rfl
        · rw [step]
          rfl
      exact increment_finishes isRightDetermined typed (executeBinary_gives invokeOperatorMethod instruction
        (step_bound findOperator either numeric) (typed slotIndex) (hasType_type _) clean)
    | false =>
      obtain ⟨first,second,one,known,rfl⟩ := (emit_unary plain).1 emitted
      rw [if_neg (by simp [plain])] at clean
      obtain ⟨clean,performs⟩ := clean
      rcases ih typed operandBound clean one with failed | ⟨value,locals,completed,valueType,typed'⟩
      · exact .inl (run_append_of_error failed)
      obtain ⟨_,_,same,performs⟩ := performs _ ⟨first,one,completed⟩
      cases same
      rw [Finishes,run_append_of_ok completed]
      exact unary_finishes plain known found typed' valueType performs

theorem Finishes.evaluates {expression : Expression Double} {code : List (Instruction Double)} {type : TypeSymbol}
    (emitted : emit declared expected expression = some code)
    (finishes : Finishes invokeOperatorMethod declared machine code type) :
    Evaluates invokeOperatorMethod declared expected machine expression type := by
  refine ⟨code,emitted,?_⟩
  rcases finishes with failed | ⟨value,locals,completed,known,_⟩
  · exact .inl failed
  · exact .inr ⟨value,locals,completed,known⟩

theorem completes_finishes {expression : Expression Double} {type : TypeSymbol}
    (typed : LocalsTyped declared machine.locals) (bound : IsBound findOperator declared expected expression type)
    (clean : IsClean invokeOperatorMethod declared expected machine expression) {after : Machine Double}
    (completes : Completes invokeOperatorMethod declared expected machine expression after) :
    ∃ value, after.stack = value :: machine.stack ∧ value.HasType type ∧ LocalsTyped declared after.locals := by
  obtain ⟨code,emitted,completed⟩ := completes
  rcases clean_finishes expression typed bound clean emitted with failed | ⟨value,locals,same,known,typed⟩
  · rw [completed] at failed
    cases failed
  · rw [completed] at same
    cases same
    exact ⟨value,rfl,known,typed⟩

theorem clean_evaluates {expression : Expression Double} {type : TypeSymbol} (typed : LocalsTyped declared machine.locals)
    (emittable : isEmittable expression = true)
    (clean : IsClean invokeOperatorMethod declared expected machine expression)
    (bound : IsBound findOperator declared expected expression type) :
    Evaluates invokeOperatorMethod declared expected machine expression type := by
  obtain ⟨code,emitted⟩ := (emit_isSome declared expected expression).2 emittable
  exact (clean_finishes expression typed bound clean emitted).evaluates emitted

theorem sound_of_clean (expression : Expression Double) {type : TypeSymbol} (typed : LocalsTyped declared machine.locals)
    (bound : IsBound findOperator declared expected expression type) (emittable : isEmittable expression = true)
    (clean : IsClean invokeOperatorMethod declared expected machine expression) :
    IsSound findOperator invokeOperatorMethod declared expected machine expression := by
  induction expression generalizing expected machine type with
  | literalExpression literal => exact fun _ => clean_evaluates typed emittable clean
  | localVariable slotIndex => exact fun _ => clean_evaluates typed emittable clean
  | binaryExpression operator left right ihLeft ihRight =>
    obtain ⟨leftType,rightType,leftBound,rightBound,found⟩ := isBound_binary bound
    rw [IsSound]
    refine ⟨fun _ => clean_evaluates typed emittable clean,?_⟩
    rw [IsClean] at clean
    rw [isEmittable] at emittable
    cases plain : isAssignExpression operator with
    | true =>
      rw [if_pos plain,Bool.and_eq_true] at emittable
      rw [if_pos plain] at clean
      rw [if_pos rfl]
      cases assigned : toVariable left with
      | none => exact trivial
      | some slotIndex =>
        rw [assigned] at clean
        rw [eq_of_toVariable assigned] at leftBound
        cases leftBound
        exact ihRight typed rightBound emittable.2 clean.1
    | false =>
      rw [if_neg (by simp [plain]),Bool.and_eq_true,Bool.and_eq_true] at emittable
      rw [if_neg (by simp [plain])] at clean
      rw [if_neg (ne_assign plain)] at rightBound
      rw [if_neg Bool.false_ne_true]
      refine ⟨ihLeft typed leftBound emittable.2.1 clean.1,?_⟩
      intro middle completes
      obtain ⟨_,_,_,typed⟩ := completes_finishes typed leftBound clean.1 completes
      exact ihRight typed rightBound emittable.2.2 (clean.2 middle completes).1
  | unaryExpression operator isRightDetermined operand ih =>
    obtain ⟨operandType,operandBound,found⟩ := isBound_unary bound
    rw [IsSound]
    refine ⟨fun _ => clean_evaluates typed emittable clean,?_⟩
    rw [IsClean] at clean
    rw [isEmittable,Bool.and_eq_true] at emittable
    cases plain : isAssignExpression operator with
    | true =>
      rw [if_pos rfl]
      exact trivial
    | false =>
      rw [if_neg (by simp [plain])] at clean emittable
      rw [if_neg Bool.false_ne_true]
      exact ih typed operandBound emittable.2 clean.1

theorem IsSound.evaluates {expression : Expression Double} {type : TypeSymbol}
    (sound : IsSound findOperator invokeOperatorMethod declared expected machine expression)
    (bound : IsBound findOperator declared expected expression type) :
    Evaluates invokeOperatorMethod declared expected machine expression type := by
  cases expression with
  | literalExpression | localVariable => exact sound type bound
  | binaryExpression | unaryExpression =>
    rw [IsSound] at sound
    exact sound.1 type bound

theorem clean_of_sound (expression : Expression Double) {type : TypeSymbol} (typed : LocalsTyped declared machine.locals)
    (bound : IsBound findOperator declared expected expression type)
    (sound : IsSound findOperator invokeOperatorMethod declared expected machine expression) :
    IsClean invokeOperatorMethod declared expected machine expression := by
  induction expression generalizing expected machine type with
  | literalExpression | localVariable => exact trivial
  | binaryExpression operator left right ihLeft ihRight =>
    obtain ⟨leftType,rightType,leftBound,rightBound,found⟩ := isBound_binary bound
    obtain ⟨code,emitted,evaluated⟩ := sound.evaluates bound
    rw [IsSound] at sound
    rw [IsClean]
    cases plain : isAssignExpression operator with
    | true =>
      obtain ⟨slotIndex,value,assigned,one,rfl⟩ := (emit_assignment plain).1 emitted
      rw [eq_of_toVariable assigned] at leftBound
      cases leftBound
      rw [if_pos plain,assigned] at sound
      rw [if_pos rfl,assigned]
      have clean := ihRight typed rightBound sound.2
      refine ⟨clean,fun after completes => ?_⟩
      obtain ⟨result,stacked,_,_⟩ := completes_finishes typed rightBound clean completes
      obtain ⟨_,again,completed⟩ := completes
      rw [expectedRight,one,Option.some.injEq] at again
      subst again
      -- The value is stored, and nothing is left of it.
      have stored : machine.run invokeOperatorMethod (value ++ [.storeLocal slotIndex]) =
          .ok ({ after with stack := machine.stack }.setLocal slotIndex result) := by
        rw [run_append_of_ok completed,Machine.run,Machine.step,stacked]
        rfl
      rw [stored] at evaluated
      rcases evaluated with failed | ⟨_,_,same,_⟩
      · cases failed
      · injection same with same
        exact List.cons_ne_self _ _ (congrArg Machine.stack same).symm
    | false =>
      obtain ⟨first,second,instruction,one,two,known,rfl⟩ := (emit_binary plain).1 emitted
      obtain rfl := binaryInstruction_self plain known
      rw [if_neg (ne_assign plain)] at rightBound found
      rw [if_neg (by simp [plain])] at sound
      rw [if_neg Bool.false_ne_true]
      have leftClean := ihLeft typed leftBound sound.2.1
      refine ⟨leftClean,fun middle completes => ?_⟩
      obtain ⟨leftValue,leftStack,leftTyped,typed'⟩ := completes_finishes typed leftBound leftClean completes
      have rightClean := ihRight typed' rightBound (sound.2.2 middle completes)
      refine ⟨rightClean,fun after completes' => ?_⟩
      obtain ⟨rightValue,rightStack,rightTyped,_⟩ := completes_finishes typed' rightBound rightClean completes'
      rw [leftStack] at rightStack
      refine ⟨leftValue,rightValue,machine.stack,rightStack,?_⟩
      obtain ⟨_,again,completed⟩ := completes
      rw [one,Option.some.injEq] at again
      subst again
      obtain ⟨_,again,completed'⟩ := completes'
      rw [two,Option.some.injEq] at again
      subst again
      rw [run_append_of_ok completed,run_append_of_ok completed',run_mathBinary _ rightStack] at evaluated
      refine performs_of_gives invokeOperatorMethod found leftTyped rightTyped ?_
      cases outcome : Machine.executeBinary invokeOperatorMethod instruction leftValue rightValue with
      | error failure =>
        rw [outcome] at evaluated
        rcases evaluated with failed | ⟨_,_,same,_⟩
        · cases failed
          exact .inl rfl
        · cases same
      | ok value =>
        rw [outcome] at evaluated
        rcases evaluated with failed | ⟨_,_,same,known⟩
        · cases failed
        · cases same
          exact .inr ⟨value,rfl,known⟩
  | unaryExpression operator isRightDetermined operand ih =>
    obtain ⟨operandType,operandBound,found⟩ := isBound_unary bound
    obtain ⟨code,emitted,evaluated⟩ := sound.evaluates bound
    rw [IsSound] at sound
    rw [IsClean]
    cases plain : isAssignExpression operator with
    | true =>
      obtain ⟨slotIndex,operation,assigned,known,rfl⟩ := (emit_increment plain).1 emitted
      obtain ⟨other,either,rfl⟩ := emitUnaryOperation_increment plain known
      rw [eq_of_toVariable assigned] at operandBound
      cases operandBound
      obtain ⟨rfl,selected⟩ := analyzeOperand_eq found
      obtain ⟨_,numeric⟩ := selected.resolve_left fun selected => other selected.1
      rw [if_pos rfl,assigned]
      have present : (machine.locals slotIndex).isNullInstance = false := by
        rcases numeric with integer | double
        · exact isNullInstance_of_hasType (typed slotIndex) (by rw [integer]; rfl) (by rw [integer]; decide)
        · exact isNullInstance_of_hasType (typed slotIndex) (by rw [double]; rfl) (by rw [double]; decide)
      refine performs_of_raisesZero invokeOperatorMethod (step_bound findOperator either numeric)
        (typed slotIndex) (hasType_type _) (fun _ => ⟨present,rfl⟩) ?_
      intro failure failed
      rw [run_increment,failed] at evaluated
      rcases evaluated with zero | ⟨_,_,same,_⟩
      · cases zero
        rfl
      · cases same
    | false =>
      obtain ⟨first,second,one,known,rfl⟩ := (emit_unary plain).1 emitted
      rw [if_neg (by simp [plain])] at sound
      rw [if_neg Bool.false_ne_true]
      have clean := ih typed operandBound sound.2
      refine ⟨clean,fun after completes => ?_⟩
      obtain ⟨value,stacked,valueType,_⟩ := completes_finishes typed operandBound clean completes
      refine ⟨value,machine.stack,stacked,?_⟩
      rintro rfl integer least
      obtain ⟨_,again,completed⟩ := completes
      rw [one,Option.some.injEq] at again
      subst again
      cases known
      cases value with
      | integer value =>
        rcases after with ⟨stack,locals⟩
        cases stacked
        rw [run_append_of_ok completed,run_mathUnary,executeUnary_negative,
          signed_undefined fun fits => (fits_neg_iff value).1 fits least] at evaluated
        rcases evaluated with failed | ⟨_,_,same,_⟩
        · cases failed
        · cases same
      | _ => cases integer

variable (invokeOperatorMethod) in
/-- What is evaluated in an expression has the types of the binder, or a division by zero is raised, if and only if
there is an instruction for every operator and the evaluation is clean. -/
theorem evaluation_sound (expression : Expression Double) {type : TypeSymbol}
    (typed : LocalsTyped declared machine.locals) (bound : IsBound findOperator declared expected expression type) :
    (IsSound findOperator invokeOperatorMethod declared expected machine expression ↔
      isEmittable expression = true ∧ IsClean invokeOperatorMethod declared expected machine expression) ∧
    (isEmittable expression = true ∧ IsClean invokeOperatorMethod declared expected machine expression →
      Evaluates invokeOperatorMethod declared expected machine expression type) := by
  refine ⟨⟨fun sound => ?_,fun clean => sound_of_clean expression typed bound clean.1 clean.2⟩,
    fun clean => clean_evaluates typed clean.1 clean.2 bound⟩
  obtain ⟨code,emitted,_⟩ := sound.evaluates bound
  exact ⟨(emit_isSome declared expected expression).1 ⟨code,emitted⟩,clean_of_sound expression typed bound sound⟩

end Runs

def noOperator : TypeSymbol → TokenType → List TypeSymbol → Option TypeSymbol := fun _ _ _ => none

def increased : Expression Int64 :=
  .binaryExpression .addOperator (.localVariable 0) (.literalExpression (.number 1))

def twos : Machine Int64 := ⟨[],fun _ => .integer 2⟩

theorem increased_clean : IsClean noOperatorMethod (fun _ => .integer) none twos increased := by
  rw [increased,IsClean,if_neg (by decide)]
  refine ⟨trivial,fun middle completes => ⟨trivial,fun after completes' => ?_⟩⟩
  obtain ⟨_,emitted,completed⟩ := completes
  cases emitted
  cases completed
  obtain ⟨_,emitted,completed⟩ := completes'
  cases emitted
  cases completed
  refine ⟨.integer 2,.integer 1,[],rfl,fun _ => ⟨rfl,rfl⟩,?_,?_,?_⟩
  · intro _ text
    simp [Instance.type] at text
  · intro division
    cases division
  · intro _ _ _ _
    change Fits (2 + 1)
    decide

theorem evaluation_sound_increased :
    IsSound noOperator noOperatorMethod (fun _ => .integer) none twos increased ∧
      Evaluates noOperatorMethod (fun _ => .integer) none twos increased .integer := by
  have typed : LocalsTyped (fun _ => .integer) twos.locals := fun _ => .inl rfl
  have bound : IsBound noOperator (fun _ => .integer) none increased .integer := rfl
  have sound := evaluation_sound noOperatorMethod increased typed bound
  exact ⟨sound.1.2 ⟨rfl,increased_clean⟩,sound.2 ⟨rfl,increased_clean⟩⟩

def nullSum : Expression Int64 :=
  .binaryExpression .addOperator (.literalExpression (.string [97])) (.literalExpression .null)

/-- It is a string for the binder, and its value is `false`. -/
theorem nullSum_unsound :
    LocalsTyped (fun _ => .integer) twos.locals ∧ IsBound noOperator (fun _ => .integer) none nullSum .string ∧
      ¬ Evaluates noOperatorMethod (fun _ => .integer) none twos nullSum .string := by
  refine ⟨fun _ => .inl rfl,rfl,fun evaluates => ?_⟩
  obtain ⟨code,emitted,evaluated⟩ := evaluates
  cases emitted
  rcases evaluated with failed | ⟨value,locals,completed,known⟩
  · cases failed
  · cases completed
    rcases known with same | ⟨other,_⟩
    · cases same
    · cases other

end ShardScript.Primitive
