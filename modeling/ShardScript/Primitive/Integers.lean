import ShardScript.Primitive.Operators

/-! When the operators of the virtual machine have the results for integers that they are to have. -/
namespace ShardScript.Primitive
open Library Semantic Instance

variable {Double : Type} [FloatingPoint Double]

/-- The quotient and the remainder are truncated, a zero divides nothing, and any result is one of another operator. -/
def Computes (operator : TokenType) (left right : Instance Double) (outcome : Except Failure (Instance Double)) : Prop :=
  match operator with
  | .divOperator => outcome =
      if right.asInteger = 0 then .error .divideByZero
      else .ok (.integer (Int64.ofInt (left.asInteger.toInt.tdiv right.asInteger.toInt)))
  | .modOperator => outcome =
      if right.asInteger = 0 then .error .divideByZero
      else .ok (.integer (Int64.ofInt (left.asInteger.toInt.tmod right.asInteger.toInt)))
  | _ => ∃ result, outcome = .ok result

def isIntegerOperator : TokenType → Bool
  | .addOperator | .subOperator | .multOperator | .divOperator | .modOperator | .leftShiftOperator
  | .rightShiftOperator => true
  | _ => false

omit [FloatingPoint Double] in
theorem type_of_divisor {value : Instance Double} (integral : value.type.isIntegralType = true)
    (divisor : IsDivisor value) : value.type = .integer := by
  obtain ⟨char,byte,native⟩ := divisor
  cases value with
  | integer => rfl
  | char => exact absurd rfl char
  | byte => exact absurd rfl byte
  | nativeInteger => exact absurd rfl native
  | _ => cases integral

variable (invokeOperatorMethod : TokenType → List (Instance Double) → Except Failure (Instance Double)) {operator : TokenType}

variable {left right : Instance Double}

theorem executeBinary_defined
    (known : isIntegerOperator operator = true) (other : Machine.isDivision operator = false)
    (integral : left.type.isIntegralType = true) (integral' : right.type.isIntegralType = true)
    (defined : IsDefined operator left right) : ∃ result, executeBinary operator left right = .ok (some result) := by
  obtain ⟨numeric,double⟩ := integral_numeric integral
  obtain ⟨numeric',double'⟩ := integral_numeric integral'
  have exact : ∀ {sum : Int}, Fits sum → ∃ result : Instance Double,
      ((signed sum).map fun result => some (integer result)) = .ok (some result) := by
    intro sum fits
    obtain ⟨result,given⟩ := signed_gives fits
    exact ⟨.integer result,by rw [given]; rfl⟩
  have shifted : ∀ operation, 0 ≤ right.asInteger ∧ right.asInteger < 64 →
      ∃ result, shift operation left right = .ok (some result) := by
    intro operation counts
    rw [shift,integral,integral',Bool.not_true,Bool.or_self,if_neg Bool.false_ne_true,if_pos counts]
    exact ⟨_,rfl⟩
  cases operator with
  | addOperator =>
    rw [executeBinary,executeMathAddition,
      if_neg (not_or.2 ⟨(present_of_numeric numeric).2.1,(present_of_numeric numeric').2.1⟩),
      arithmetic_integers numeric numeric' double double']
    exact exact defined
  | subOperator =>
    rw [executeBinary,executeMathSubtraction,arithmetic_integers numeric numeric' double double']
    exact exact defined
  | multOperator =>
    rw [executeBinary,executeMathMultiplication,arithmetic_integers numeric numeric' double double']
    exact exact defined
  | leftShiftOperator => exact shifted _ defined
  | rightShiftOperator => exact shifted _ defined
  | divOperator | modOperator => cases other
  | _ => cases known

theorem computes_division (division : Machine.isDivision operator = true)
    {left : Instance Double} (integral : left.type.isIntegralType = true) (divisor : Int64)
    (defined : IsDefined operator left (.integer divisor)) :
    Computes operator left (.integer divisor)
      (Machine.executeBinary invokeOperatorMethod operator left (.integer divisor)) := by
  obtain ⟨numeric,double⟩ := integral_numeric integral
  have present := (present_of_numeric numeric).1
  have double' : (Instance.integer divisor : Instance Double).type ≠ .double := by simp [Instance.type]
  by_cases zero : divisor = 0
  · have check : Machine.checkDivisor operator (.integer divisor : Instance Double) = .error .divideByZero := by
      rw [Machine.checkDivisor,division,Bool.not_true,if_neg Bool.false_ne_true]
      simp only [if_pos zero]
      rfl
    rw [executeBinary_checked invokeOperatorMethod present rfl check]
    cases operator with
    | divOperator | modOperator => exact (if_pos zero).symm
    | _ => cases division
  · have check : Machine.checkDivisor operator (.integer divisor : Instance Double) = pure () := by
      rw [Machine.checkDivisor,division,Bool.not_true,if_neg Bool.false_ne_true]
      simp only [if_neg zero]
    have quotient : ∀ operation, ¬ (left.asInteger = Int64.minValue ∧ divisor = -1) →
        divided operation left.asInteger divisor = .ok (operation left.asInteger divisor) := by
      intro operation fits
      rw [divided,if_neg zero,if_neg fits]
      rfl
    cases operator with
    | divOperator =>
      have given : executeBinary .divOperator left (.integer divisor) = .ok (some (.integer (left.asInteger / divisor))) := by
        rw [executeBinary,executeMathDivision,arithmetic_integers numeric rfl double double']
        change (divided _ left.asInteger divisor).map _ = _
        rw [quotient _ defined]
        rfl
      rw [executeBinary_given invokeOperatorMethod present rfl check given,← ofInt_tdiv]
      exact (if_neg zero).symm
    | modOperator =>
      have given : executeBinary .modOperator left (.integer divisor) = .ok (some (.integer (left.asInteger % divisor))) := by
        rw [executeBinary,executeMathModulo,arithmetic_integers numeric rfl double double']
        change (divided _ left.asInteger divisor).map _ = _
        rw [quotient _ defined]
        rfl
      rw [executeBinary_given invokeOperatorMethod present rfl check given,← ofInt_tmod]
      exact (if_neg zero).symm
    | _ => cases division

theorem computes_iff (known : isIntegerOperator operator = true)
    (integral : left.type.isIntegralType = true) (integral' : right.type.isIntegralType = true) :
    Computes operator left right (Machine.executeBinary invokeOperatorMethod operator left right) ↔
      IsDefined operator left right ∧ (Machine.isDivision operator = true → right.type = .integer) := by
  obtain ⟨numeric,double⟩ := integral_numeric integral
  obtain ⟨numeric',double'⟩ := integral_numeric integral'
  have present := (present_of_numeric numeric).1
  have present' := (present_of_numeric numeric').1
  have undefined : Machine.checkDivisor operator right = pure () → ¬ IsDefined operator left right →
      Machine.executeBinary invokeOperatorMethod operator left right = .error .undefined := fun check undefined =>
    executeBinary_failed invokeOperatorMethod present present' check
      (executeBinary_undefined numeric numeric' double double' (fun _ => ⟨integral,integral'⟩) undefined)
  cases division : Machine.isDivision operator with
  | false =>
    have check := checkDivisor_plain right division
    have computes : Computes operator left right (Machine.executeBinary invokeOperatorMethod operator left right) ↔
        ∃ result, Machine.executeBinary invokeOperatorMethod operator left right = .ok result := by
      cases operator with
      | divOperator | modOperator => cases division
      | _ => exact Iff.rfl
    rw [computes]
    constructor
    · intro given
      obtain ⟨result,given⟩ := given
      refine ⟨?_,fun other => by cases other⟩
      by_contra other
      rw [undefined check other] at given
      cases given
    · intro holds
      obtain ⟨result,given⟩ := executeBinary_defined known division integral integral' holds.1
      exact ⟨result,executeBinary_given invokeOperatorMethod present present' check given⟩
  | true =>
    constructor
    · intro computes
      have raises : RaisesZero (Machine.executeBinary invokeOperatorMethod operator left right) := by
        intro failure failed
        rw [failed] at computes
        cases operator with
        | divOperator | modOperator =>
          rw [Computes] at computes
          split at computes
          · cases computes
            rfl
          · cases computes
        | _ => cases division
      obtain ⟨divisor,zero⟩ := raises.table invokeOperatorMethod present present'
      refine ⟨?_,fun _ => type_of_divisor integral' (divisor division)⟩
      by_contra other
      rcases zero with ⟨_,zero⟩ | raises
      · refine other ?_
        cases operator with
        | divOperator | modOperator =>
          rw [IsDefined,zero]
          exact fun overflow => by cases overflow.2
        | _ => cases division
      · cases raises _ (executeBinary_undefined numeric numeric' double double' (fun _ => ⟨integral,integral'⟩) other)
    · intro holds
      obtain ⟨defined,same⟩ := holds
      cases right with
      | integer divisor => exact computes_division invokeOperatorMethod division integral divisor defined
      | _ => cases same rfl

theorem executeUnary_integral {operand : Instance Double} (integral : operand.type.isIntegralType = true) :
    Machine.executeUnary invokeOperatorMethod .subOperator operand = (signed (-operand.asInteger.toInt)).map .integer := by
  obtain ⟨numeric,double⟩ := integral_numeric integral
  rw [Machine.executeUnary,(present_of_numeric numeric).1,if_neg Bool.false_ne_true,executeUnary,numeric,Bool.not_true,
    if_neg Bool.false_ne_true,if_neg double]
  cases signed (-operand.asInteger.toInt) with
  | error failure => rfl
  | ok result => rfl

theorem executeUnary_given_iff {operand : Instance Double} (integral : operand.type.isIntegralType = true) :
    (∃ result, Machine.executeUnary invokeOperatorMethod .subOperator operand = .ok result) ↔
      operand.asInteger ≠ Int64.minValue := by
  rw [executeUnary_integral invokeOperatorMethod integral,← fits_neg_iff]
  constructor
  · intro given
    by_contra outside
    obtain ⟨result,given⟩ := given
    rw [signed_undefined outside] at given
    cases given
  · intro fits
    obtain ⟨result,given⟩ := signed_gives fits
    exact ⟨.integer result,by rw [given]; rfl⟩

/-- For which integers the operators compute what they are to. -/
theorem arithmetic_of_integers (left right : Instance Double) (integral : left.type.isIntegralType = true)
    (integral' : right.type.isIntegralType = true) :
    (∀ operator, isIntegerOperator operator = true →
      (Computes operator left right (Machine.executeBinary invokeOperatorMethod operator left right) ↔
        IsDefined operator left right ∧ (Machine.isDivision operator = true → right.type = .integer))) ∧
    ((∃ result, Machine.executeUnary invokeOperatorMethod .subOperator left = .ok result) ↔
      left.asInteger ≠ Int64.minValue) :=
  ⟨fun _ known => computes_iff invokeOperatorMethod known integral integral',
    executeUnary_given_iff invokeOperatorMethod integral⟩

/-- The quotient of 7 and 2. -/
theorem arithmetic_of_integers_seven :
    Computes .divOperator (.integer 7) (.integer 2)
      (Machine.executeBinary noOperatorMethod .divOperator (.integer 7) (.integer 2)) :=
  ((arithmetic_of_integers noOperatorMethod (.integer 7) (.integer 2) rfl rfl).1 .divOperator rfl).2
    ⟨by change ¬ (7 = Int64.minValue ∧ (2 : Int64) = -1); decide,fun _ => rfl⟩

/-- A byte is taken for an integer when it divides, a quotient and a count are too large. -/
theorem integers_not_computed :
    ¬ Computes .divOperator (.integer 7) (.byte 2)
        (Machine.executeBinary noOperatorMethod .divOperator (.integer 7) (.byte 2)) ∧
      ¬ Computes .divOperator (.integer Int64.minValue) (.integer (-1))
        (Machine.executeBinary noOperatorMethod .divOperator (.integer Int64.minValue) (.integer (-1))) ∧
      ¬ Computes .leftShiftOperator (.integer 1) (.integer 64)
        (Machine.executeBinary noOperatorMethod .leftShiftOperator (.integer 1) (.integer 64)) := by
  refine ⟨fun computes => ?_,fun computes => ?_,fun computes => ?_⟩
  · cases computes
  · cases computes
  · obtain ⟨_,computes⟩ := computes
    cases computes

end ShardScript.Primitive
