import ShardScript.Primitive.Machine

/-! The operators of the virtual machine give values of the types that the binder has for them. -/
namespace ShardScript.Primitive
open Library Semantic Instance

section Operands

variable {Double : Type}

def Gives (type : TypeSymbol) (outcome : Except Failure (Instance Double)) : Prop :=
  outcome = .error .divideByZero ∨ ∃ value : Instance Double, outcome = .ok value ∧ value.HasType type

variable {value : Instance Double}

theorem Gives.ok {type : TypeSymbol} (same : value.type = type) :
    Gives type (.ok value) := .inr ⟨value,rfl,.inl same⟩

theorem present_of_byValue {type : TypeSymbol} (known : value.HasType type)
    (byValue : type.isByReference = false) (other : type ≠ .null) :
    value.type = type ∧ value.isNullInstance = false :=
  have present := isNullInstance_of_hasType known byValue other
  ⟨type_of_hasType known present,present⟩

theorem byValue_of_numericPrimitive {type : TypeSymbol} (numeric : type.isNumericPrimitive = true) :
    type.isByReference = false ∧ type ≠ .null := by
  cases type with
  | null | boolean | string | array | enumeration | classType | structType => cases numeric
  | integer | double | char | byte | nativeInteger => exact ⟨rfl,by decide⟩

theorem present_of_numericPrimitive {type : TypeSymbol} (known : value.HasType type)
    (numeric : type.isNumericPrimitive = true) : value.type = type ∧ value.isNullInstance = false := by
  obtain ⟨byValue,other⟩ := byValue_of_numericPrimitive numeric
  exact present_of_byValue known byValue other

theorem isNumericType_of_numericPrimitive {type : TypeSymbol} (numeric : type.isNumericPrimitive = true) :
    type.isNumericType = true := by
  cases type with
  | null | boolean | string | array | enumeration | classType | structType => cases numeric
  | integer | double | char | byte | nativeInteger => rfl

theorem numericPrimitive_of_integral {type : TypeSymbol} (integral : type.isIntegralPrimitive = true) :
    type.isNumericPrimitive = true := by
  cases type with
  | null | boolean | double | string | array | enumeration | classType | structType => cases integral
  | integer | char | byte | nativeInteger => rfl

theorem isIntegralType_eq (type : TypeSymbol) : type.isIntegralType = type.isIntegralPrimitive := by
  cases type <;> rfl

theorem string_of_type (known : value.type = .string) : ∃ text, value = .string text := by
  cases value with
  | string text => exact ⟨text,rfl⟩
  | _ => cases known

theorem null_of_type (known : value.HasType .null) : value.isNullInstance = true := by
  rcases known with known | ⟨rfl,_⟩
  · cases value with
    | null => rfl
    | _ => cases known
  · rfl

end Operands

section Binder

theorem numericType_eq {text : String} {left right type : TypeSymbol}
    (bound : numericType text left right = ⟨some type,[],false⟩) :
    left.isNumericPrimitive = true ∧ right.isNumericPrimitive = true ∧
      type = if left = .double ∨ right = .double then .double else .integer := by
  unfold numericType at bound
  split at bound
  · cases bound
  · rename_i numeric
    rw [Bool.or_eq_true,not_or,Bool.not_eq_true',Bool.not_eq_true',Bool.not_eq_false,Bool.not_eq_false] at numeric
    split at bound
    · rename_i double
      cases bound
      rw [if_pos double]
      exact ⟨numeric.1,numeric.2,rfl⟩
    · rename_i integer
      cases bound
      rw [if_neg integer]
      exact ⟨numeric.1,numeric.2,rfl⟩

theorem analyzeOperands_eq {findOperator : TypeSymbol → TokenType → List TypeSymbol → Option TypeSymbol}
    {operator : TokenType} {left right type : TypeSymbol}
    (bound : analyzeOperands findOperator operator left right = ⟨some type,[],false⟩) :
    analyzeOperator operator left right = ⟨some type,[],false⟩ ∧
      (left.isPrimitiveType = true ∨ operator = .equalsOperator ∨ operator = .notEqualsOperator) := by
  unfold analyzeOperands at bound
  split at bound
  · rename_i primitive
    simp only [Bool.and_eq_true] at primitive
    exact ⟨bound,.inl primitive.1.1⟩
  · split at bound
    · cases bound
    · split at bound
      · cases bound
      · rename_i other
        refine ⟨bound,?_⟩
        simpa [Bool.and_eq_true,not_and,or_iff_not_imp_left] using other

end Binder

section Operators

variable {Double : Type} [FloatingPoint Double]

def IsDefined (operator : TokenType) (left right : Instance Double) : Prop :=
  match operator with
  | .addOperator => Fits (left.asInteger.toInt + right.asInteger.toInt)
  | .subOperator => Fits (left.asInteger.toInt - right.asInteger.toInt)
  | .multOperator => Fits (left.asInteger.toInt * right.asInteger.toInt)
  | .divOperator | .modOperator => ¬ (left.asInteger = Int64.minValue ∧ right.asInteger = -1)
  | .powOperator => FloatingPoint.fits (FloatingPoint.pow left.asDouble right.asDouble) = true
  | .leftShiftOperator | .rightShiftOperator => 0 ≤ right.asInteger ∧ right.asInteger < 64
  | _ => True

def IsDivisor (right : Instance Double) : Prop := right.type ≠ .char ∧ right.type ≠ .byte ∧ right.type ≠ .nativeInteger

/-- The operands are there for an operator that is not for every value: nothing is added to null, texts are concatenated
in memory, and numbers have a result. -/
structure Performs (operator : TokenType) (left right : Instance Double) : Prop where
  present : operator = .addOperator → left.isNullInstance = false ∧ right.isNullInstance = false
  texts : operator = .addOperator → left.type = .string ∨ right.type = .string → IsConcatenable left right
  divisor : Machine.isDivision operator = true → IsDivisor right
  numbers : left.type.isNumericType = true → right.type.isNumericType = true → left.type ≠ .double →
    right.type ≠ .double → IsDefined operator left right

def GivesSome (type : TypeSymbol) (outcome : Except Failure (Option (Instance Double))) : Prop :=
  outcome = .error .divideByZero ∨ ∃ value, outcome = .ok (some value) ∧ value.type = type

variable {type : TypeSymbol}

omit [FloatingPoint Double] in
theorem GivesSome.ok {value : Instance Double} (same : value.type = type) :
    GivesSome type (.ok (some value)) := .inr ⟨value,rfl,same⟩

variable {left right : Instance Double}

theorem arithmetic_gives {text : String}
    (bound : numericType text left.type right.type = ⟨some type,[],false⟩)
    {inDouble : Double → Double → Except Failure Double} {inInteger : Int64 → Int64 → Except Failure Int64}
    (doubles : ∀ a b, inDouble a b = .error .divideByZero ∨ ∃ c, inDouble a b = .ok c)
    (integers : left.type ≠ .double → right.type ≠ .double →
      inInteger left.asInteger right.asInteger = .error .divideByZero ∨
        ∃ c, inInteger left.asInteger right.asInteger = .ok c) :
    GivesSome type (arithmetic inDouble inInteger left right) := by
  obtain ⟨numeric,numeric',rfl⟩ := numericType_eq bound
  unfold arithmetic
  rw [isNumericType_of_numericPrimitive numeric,isNumericType_of_numericPrimitive numeric',Bool.not_true,Bool.or_self,
    if_neg Bool.false_ne_true]
  split
  · rcases doubles left.asDouble right.asDouble with failed | ⟨result,known⟩
    · rw [failed]
      exact .inl rfl
    · rw [known]
      exact .ok rfl
  · rename_i integer
    rw [not_or] at integer
    rcases integers integer.1 integer.2 with failed | ⟨result,known⟩
    · rw [failed]
      exact .inl rfl
    · rw [known]
      exact .ok rfl

theorem dividedDouble_gives (operation : Double → Double → Double) (dividend divisor : Double) :
    dividedDouble operation dividend divisor = .error .divideByZero ∨
      ∃ result, dividedDouble operation dividend divisor = .ok result := by
  unfold dividedDouble
  split
  · exact .inl rfl
  · exact .inr ⟨_,rfl⟩

theorem divided_gives (operation : Int64 → Int64 → Int64) {dividend divisor : Int64}
    (fits : ¬ (dividend = Int64.minValue ∧ divisor = -1)) :
    divided operation dividend divisor = .error .divideByZero ∨
      ∃ result, divided operation dividend divisor = .ok result := by
  by_cases zero : divisor = 0
  · rw [divided,if_pos zero]
    exact .inl rfl
  · rw [divided,if_neg zero,if_neg fits]
    exact .inr ⟨_,rfl⟩

theorem power_gives {text : String}
    (bound : numericType text left.type right.type = ⟨some type,[],false⟩)
    (fits : left.type ≠ .double → right.type ≠ .double →
      FloatingPoint.fits (FloatingPoint.pow left.asDouble right.asDouble) = true) :
    GivesSome type (executeMathPower left right) := by
  obtain ⟨numeric,numeric',rfl⟩ := numericType_eq bound
  rw [executeMathPower,isNumericType_of_numericPrimitive numeric,isNumericType_of_numericPrimitive numeric',Bool.not_true,
    Bool.or_self,if_neg Bool.false_ne_true]
  split
  · exact .ok rfl
  · rename_i integer
    rw [not_or] at integer
    simp only [fits integer.1 integer.2,if_true]
    exact .ok rfl

variable {operator : TokenType}

theorem bitwise_gives (ofBooleans : Bool → Bool → Bool) (ofIntegers : Int64 → Int64 → Int64)
    (either : operator = .orOperator ∨ operator = .andOperator)
    (bound : analyzeOperator operator left.type right.type = ⟨some type,[],false⟩) :
    GivesSome type (bitwise ofBooleans ofIntegers left right) := by
  have bound : (if left.type = .boolean ∧ right.type = .boolean then ⟨some .boolean,[],false⟩
      else if left.type.isIntegralPrimitive && right.type.isIntegralPrimitive then ⟨some .integer,[],false⟩
      else ⟨none,[undefinedFor operator left.type],false⟩ : Analysis) = ⟨some type,[],false⟩ := by
    rcases either with rfl | rfl
    · exact bound
    · exact bound
  unfold bitwise
  split at bound
  · rename_i booleans
    cases bound
    rw [if_pos booleans]
    exact .ok rfl
  · rename_i other
    rw [if_neg other]
    split at bound
    · rename_i integral
      cases bound
      rw [Bool.and_eq_true] at integral
      rw [isIntegralType_eq,isIntegralType_eq,integral.1,integral.2,Bool.not_true,Bool.or_self,if_neg Bool.false_ne_true]
      exact .ok rfl
    · cases bound

theorem shift_gives (operation : Int64 → Int64 → Int64)
    (either : operator = .leftShiftOperator ∨ operator = .rightShiftOperator)
    (bound : analyzeOperator operator left.type right.type = ⟨some type,[],false⟩)
    (counts : 0 ≤ right.asInteger ∧ right.asInteger < 64) :
    GivesSome type (shift operation left right) := by
  have bound : (if !left.type.isIntegralPrimitive || !right.type.isIntegralPrimitive then
      ⟨none,[undefinedFor operator left.type],false⟩ else ⟨some .integer,[],false⟩ : Analysis) = ⟨some type,[],false⟩ := by
    rcases either with rfl | rfl
    · exact bound
    · exact bound
  unfold shift
  rw [isIntegralType_eq,isIntegralType_eq]
  split at bound
  · cases bound
  · rename_i integral
    cases bound
    rw [if_neg integral,if_pos counts]
    exact .ok rfl

def AreComparable (left right : Instance Double) : Prop :=
  (left.type = .string ∧ right.type = .string) ∨
    (left.type.isNumericType = true ∧ right.type.isNumericType = true) ∨
    (left.type.isEnumeration = true ∧ left.type = right.type)

omit [FloatingPoint Double] in
theorem areComparable_of_isComparable {leftType rightType : TypeSymbol}
    (comparable : isComparable leftType rightType = true) (known : left.HasType leftType) (known' : right.HasType rightType)
    (present : left.isNullInstance = false) (present' : right.isNullInstance = false) : AreComparable left right := by
  have same := type_of_hasType known present
  have same' := type_of_hasType known' present'
  simp only [isComparable,Bool.or_eq_true,Bool.and_eq_true,beq_iff_eq] at comparable
  rcases comparable with ((((null | null) | strings) | numbers) | booleans) | enumerations
  · rw [null.1] at known
    rw [null_of_type known] at present
    cases present
  · rw [null.1] at known'
    rw [null_of_type known'] at present'
    cases present'
  · exact .inl ⟨same.trans strings.1,same'.trans strings.2⟩
  · rw [← same,← same'] at numbers
    exact .inr (.inl ⟨isNumericType_of_numericPrimitive numbers.1,isNumericType_of_numericPrimitive numbers.2⟩)
  · rw [← same,← same'] at booleans
    refine .inr (.inl ?_)
    rw [booleans.1,booleans.2]
    exact ⟨rfl,rfl⟩
  · rw [← same,← same'] at enumerations
    exact .inr (.inr enumerations)

theorem executeCompareEqual_values (present : left.isNullInstance = false)
    (present' : right.isNullInstance = false) (other : ¬ (left.type = .string ∧ right.type = .string)) :
    executeCompareEqual left right =
      if left.type.isByReference ∧ right.type.isByReference then pure (some (.boolean (isSame left right)))
      else if left.type.isEnumeration ∧ left.type = right.type then
        pure (some (.boolean (left.asInteger == right.asInteger)))
      else if !left.type.isNumericType || !right.type.isNumericType then pure none
      else if left.type = .double ∨ right.type = .double then
        pure (some (.boolean (FloatingPoint.equal left.asDouble right.asDouble)))
      else pure (some (.boolean (left.asInteger == right.asInteger))) := by
  unfold executeCompareEqual
  split
  · cases present
  · cases present
  · cases present'
  · exact absurd ⟨rfl,rfl⟩ other
  · rfl

omit [FloatingPoint Double] in
theorem present_of_numeric {value : Instance Double} (numeric : value.type.isNumericType = true) :
    value.isNullInstance = false ∧ value.type ≠ .string ∧ value.type.isByReference = false ∧
      value.type.isEnumeration = false := by
  cases value with
  | null | string | array | enumeration | object | struct => cases numeric
  | boolean | integer | double | char | byte | nativeInteger => exact ⟨rfl,by simp [Instance.type],rfl,rfl⟩

theorem executeCompareEqual_numbers (numeric : left.type.isNumericType = true)
    (numeric' : right.type.isNumericType = true) :
    executeCompareEqual left right = .ok (some (.boolean
      (if left.type = .double ∨ right.type = .double then FloatingPoint.equal left.asDouble right.asDouble
        else left.asInteger == right.asInteger))) := by
  obtain ⟨present,other,byValue,plain⟩ := present_of_numeric numeric
  rw [executeCompareEqual_values present (present_of_numeric numeric').1 fun strings => other strings.1,byValue,plain,
    numeric,numeric',Bool.not_true,Bool.or_self,if_neg (by simp),if_neg (by simp),if_neg Bool.false_ne_true]
  split
  · rfl
  · rfl

theorem executeCompareEqual_enumerations (enumeration : left.type.isEnumeration = true)
    (same : left.type = right.type) :
    executeCompareEqual left right = .ok (some (.boolean (left.asInteger == right.asInteger))) := by
  cases left with
  | enumeration identifier value =>
    cases right with
    | enumeration identifier' value' =>
      have other : ¬ ((Instance.enumeration identifier value : Instance Double).type = .string ∧
          (Instance.enumeration identifier' value' : Instance Double).type = .string) := by simp [Instance.type]
      rw [executeCompareEqual_values rfl rfl other,if_neg (by simp [Instance.type,TypeSymbol.isByReference]),
        if_pos ⟨rfl,same⟩]
      rfl
    | _ => cases same
  | _ => cases enumeration

theorem compareEqual_gives (comparable : AreComparable left right) :
    ∃ result, executeCompareEqual left right = .ok (some (.boolean result)) := by
  rcases comparable with ⟨string,string'⟩ | ⟨numeric,numeric'⟩ | ⟨enumeration,same⟩
  · obtain ⟨text,rfl⟩ := string_of_type string
    obtain ⟨text',rfl⟩ := string_of_type string'
    exact ⟨_,rfl⟩
  · exact ⟨_,executeCompareEqual_numbers numeric numeric'⟩
  · exact ⟨_,executeCompareEqual_enumerations enumeration same⟩

theorem compared_gives (texts : List UInt16 → List UInt16 → Bool) (doubles : Double → Double → Bool)
    (integers : Int64 → Int64 → Bool) (comparable : AreComparable left right)
    (plain : left.type.isEnumeration = false) :
    ∃ result, compared texts doubles integers left right = .ok (some (.boolean result)) := by
  rcases comparable with ⟨string,string'⟩ | ⟨numeric,numeric'⟩ | ⟨enumeration,_⟩
  · obtain ⟨text,rfl⟩ := string_of_type string
    obtain ⟨text',rfl⟩ := string_of_type string'
    exact ⟨_,rfl⟩
  · unfold compared
    split
    · cases numeric
    · cases numeric'
    · exact ⟨_,rfl⟩
    · rw [numeric,numeric',Bool.not_true,Bool.or_self,if_neg Bool.false_ne_true]
      split
      · exact ⟨_,rfl⟩
      · exact ⟨_,rfl⟩
  · rw [plain] at enumeration
    cases enumeration

theorem orEqual_gives {first : Instance Double → Instance Double → Except Failure (Option (Instance Double))}
    (comparable : AreComparable left right)
    (known : ∃ result, first left right = .ok (some (.boolean result))) :
    ∃ result, orEqual first left right = .ok (some (.boolean result)) := by
  obtain ⟨result,known⟩ := known
  cases result with
  | true => exact ⟨true,by rw [orEqual,known]; rfl⟩
  | false =>
    obtain ⟨result,equal⟩ := compareEqual_gives comparable
    exact ⟨result,by rw [orEqual,known]; exact equal⟩

def isComparison : TokenType → Bool
  | .equalsOperator | .notEqualsOperator | .greaterOperator | .greaterOrEqualsOperator | .lessOperator
  | .lessOrEqualsOperator => true
  | _ => false

theorem comparison_eq {left right type : TypeSymbol} (comparison : isComparison operator = true)
    (bound : analyzeOperator operator left right = ⟨some type,[],false⟩) :
    type = .boolean ∧ isComparable left right = true := by
  have bound : (⟨some .boolean,if isComparable left right then [] else [mismatch "comparison" left right],false⟩ : Analysis) =
      ⟨some type,[],false⟩ := by
    cases operator with
    | equalsOperator | notEqualsOperator | greaterOperator | greaterOrEqualsOperator | lessOperator
    | lessOrEqualsOperator => exact bound
    | _ => cases comparison
  simp only [Analysis.mk.injEq,Option.some.injEq,ite_eq_left_iff,Bool.not_eq_true,and_true] at bound
  refine ⟨bound.1.symm,?_⟩
  by_contra other
  rw [Bool.not_eq_true] at other
  cases bound.2 other

theorem comparison_gives (comparison : isComparison operator = true)
    (comparable : AreComparable left right)
    (plain : left.type.isEnumeration = false ∨ operator = .equalsOperator ∨ operator = .notEqualsOperator) :
    GivesSome .boolean (executeBinary operator left right) := by
  have given : ∃ result, executeBinary operator left right = .ok (some (.boolean result)) := by
    cases operator with
    | equalsOperator => exact compareEqual_gives comparable
    | notEqualsOperator =>
      obtain ⟨result,equal⟩ := compareEqual_gives comparable
      exact ⟨!result,by rw [executeBinary,executeCompareNotEqual,equal]; rfl⟩
    | lessOperator =>
      simp only [reduceCtorEq,or_false] at plain
      rw [executeBinary,executeCompareLess]
      exact compared_gives _ _ _ comparable plain
    | greaterOperator =>
      simp only [reduceCtorEq,or_false] at plain
      rw [executeBinary,executeCompareGreater]
      exact compared_gives _ _ _ comparable plain
    | lessOrEqualsOperator =>
      simp only [reduceCtorEq,or_false] at plain
      exact orEqual_gives comparable (compared_gives _ _ _ comparable plain)
    | greaterOrEqualsOperator =>
      simp only [reduceCtorEq,or_false] at plain
      exact orEqual_gives comparable (compared_gives _ _ _ comparable plain)
    | _ => cases comparison
  obtain ⟨result,given⟩ := given
  rw [given]
  exact .ok rfl

theorem signed_gives {exact : Int} (fits : Fits exact) : ∃ result, signed exact = .ok result := by
  rw [signed,if_pos fits]
  exact ⟨_,rfl⟩

theorem addition_gives
    (bound : analyzeOperator .addOperator left.type right.type = ⟨some type,[],false⟩)
    (performs : Performs .addOperator left right) : GivesSome type (executeMathAddition left right) := by
  unfold executeMathAddition
  rw [analyzeOperator] at bound
  split at bound
  · rename_i text
    cases bound
    obtain ⟨result,given⟩ := (concatenated_isOk left right).2 (performs.texts rfl text)
    obtain ⟨after,given⟩ := (concatenate_ok {} left right result).2 given
    rw [if_pos text,given]
    exact .ok rfl
  · rename_i numbers
    rw [if_neg numbers]
    obtain ⟨numeric,numeric',_⟩ := numericType_eq bound
    exact arithmetic_gives bound (fun _ _ => .inr ⟨_,rfl⟩) fun one other => .inr (signed_gives (performs.numbers
      (isNumericType_of_numericPrimitive numeric) (isNumericType_of_numericPrimitive numeric') one other))

theorem shift_integral {left right type : TypeSymbol}
    (either : operator = .leftShiftOperator ∨ operator = .rightShiftOperator)
    (bound : analyzeOperator operator left right = ⟨some type,[],false⟩) :
    left.isIntegralPrimitive = true ∧ right.isIntegralPrimitive = true := by
  have bound : (if !left.isIntegralPrimitive || !right.isIntegralPrimitive then
      ⟨none,[undefinedFor operator left],false⟩ else ⟨some .integer,[],false⟩ : Analysis) = ⟨some type,[],false⟩ := by
    rcases either with rfl | rfl
    · exact bound
    · exact bound
  split at bound
  · cases bound
  · rename_i both
    rwa [Bool.or_eq_true,not_or,Bool.not_eq_true',Bool.not_eq_true',Bool.not_eq_false,Bool.not_eq_false] at both

theorem integral_ne_double (integral : type.isIntegralPrimitive = true) : type ≠ .double := by
  intro same
  rw [same] at integral
  cases integral

omit [FloatingPoint Double] in
theorem integral_numeric {value : Instance Double} (integral : value.type.isIntegralType = true) :
    value.type.isNumericType = true ∧ value.type ≠ .double := by
  rw [isIntegralType_eq] at integral
  exact ⟨isNumericType_of_numericPrimitive (numericPrimitive_of_integral integral),integral_ne_double integral⟩

theorem shift_counts
    (either : operator = .leftShiftOperator ∨ operator = .rightShiftOperator)
    (bound : analyzeOperator operator left.type right.type = ⟨some type,[],false⟩)
    (performs : Performs operator left right) : 0 ≤ right.asInteger ∧ right.asInteger < 64 := by
  obtain ⟨integral,integral'⟩ := shift_integral either bound
  have defined := performs.numbers (isNumericType_of_numericPrimitive (numericPrimitive_of_integral integral))
    (isNumericType_of_numericPrimitive (numericPrimitive_of_integral integral')) (integral_ne_double integral)
    (integral_ne_double integral')
  rcases either with rfl | rfl
  · exact defined
  · exact defined

theorem table_gives
    (known : binaryInstruction operator = some operator) (arithmetic : isComparison operator = false)
    (bound : analyzeOperator operator left.type right.type = ⟨some type,[],false⟩)
    (performs : Performs operator left right) : GivesSome type (executeBinary operator left right) := by
  have defined : ∀ {text : String}, numericType text left.type right.type = ⟨some type,[],false⟩ →
      left.type ≠ .double → right.type ≠ .double → IsDefined operator left right := by
    intro text bound
    obtain ⟨numeric,numeric',_⟩ := numericType_eq bound
    exact performs.numbers (isNumericType_of_numericPrimitive numeric) (isNumericType_of_numericPrimitive numeric')
  cases operator with
  | addOperator => exact addition_gives bound performs
  | subOperator =>
    rw [executeBinary,executeMathSubtraction]
    exact arithmetic_gives bound (fun _ _ => .inr ⟨_,rfl⟩) fun one other => .inr (signed_gives (defined bound one other))
  | multOperator =>
    rw [executeBinary,executeMathMultiplication]
    exact arithmetic_gives bound (fun _ _ => .inr ⟨_,rfl⟩) fun one other => .inr (signed_gives (defined bound one other))
  | divOperator =>
    exact arithmetic_gives bound (dividedDouble_gives _) fun one other => divided_gives _ (defined bound one other)
  | modOperator =>
    exact arithmetic_gives bound (dividedDouble_gives _) fun one other => divided_gives _ (defined bound one other)
  | powOperator => exact power_gives bound (defined bound)
  | orOperator => exact bitwise_gives _ _ (.inl rfl) bound
  | andOperator => exact bitwise_gives _ _ (.inr rfl) bound
  | leftShiftOperator => exact shift_gives _ (.inl rfl) bound (shift_counts (.inl rfl) bound performs)
  | rightShiftOperator => exact shift_gives _ (.inr rfl) bound (shift_counts (.inr rfl) bound performs)
  | equalsOperator | notEqualsOperator | greaterOperator | greaterOrEqualsOperator | lessOperator
  | lessOrEqualsOperator => cases arithmetic
  | assignOperator | addAssignOperator | subAssignOperator | multAssignOperator | divAssignOperator | modAssignOperator
  | powAssignOperator | orAssignOperator | andAssignOperator | incrementOperator | decrementOperator | notOperator
  | nullCoalescingOperator => cases known

theorem present_of_arithmetic {leftType rightType type : TypeSymbol}
    (known : binaryInstruction operator = some operator) (arithmetic : isComparison operator = false)
    (bound : analyzeOperator operator leftType rightType = ⟨some type,[],false⟩) (typed : left.HasType leftType)
    (typed' : right.HasType rightType) (performs : Performs operator left right) :
    left.isNullInstance = false ∧ right.isNullInstance = false := by
  have numeric : ∀ {text : String}, numericType text leftType rightType = ⟨some type,[],false⟩ →
      left.isNullInstance = false ∧ right.isNullInstance = false := by
    intro text bound
    obtain ⟨numeric,numeric',_⟩ := numericType_eq bound
    exact ⟨(present_of_numericPrimitive typed numeric).2,(present_of_numericPrimitive typed' numeric').2⟩
  have integral : leftType.isIntegralPrimitive = true → rightType.isIntegralPrimitive = true →
      left.isNullInstance = false ∧ right.isNullInstance = false := fun integral integral' =>
    ⟨(present_of_numericPrimitive typed (numericPrimitive_of_integral integral)).2,
      (present_of_numericPrimitive typed' (numericPrimitive_of_integral integral')).2⟩
  cases operator with
  | addOperator => exact performs.1 rfl
  | subOperator | multOperator | divOperator | modOperator | powOperator => exact numeric bound
  | orOperator | andOperator =>
    rw [analyzeOperator] at bound
    split at bound
    · rename_i booleans
      rw [booleans.1] at typed
      rw [booleans.2] at typed'
      exact ⟨(present_of_byValue typed rfl (by decide)).2,(present_of_byValue typed' rfl (by decide)).2⟩
    · split at bound
      · rename_i both
        rw [Bool.and_eq_true] at both
        exact integral both.1 both.2
      · cases bound
  | leftShiftOperator | rightShiftOperator =>
    rw [analyzeOperator] at bound
    split at bound
    · cases bound
    · rename_i both
      rw [Bool.or_eq_true,not_or,Bool.not_eq_true',Bool.not_eq_true',Bool.not_eq_false,Bool.not_eq_false] at both
      exact integral both.1 both.2
  | equalsOperator | notEqualsOperator | greaterOperator | greaterOrEqualsOperator | lessOperator
  | lessOrEqualsOperator => cases arithmetic
  | assignOperator | addAssignOperator | subAssignOperator | multAssignOperator | divAssignOperator | modAssignOperator
  | powAssignOperator | orAssignOperator | andAssignOperator | incrementOperator | decrementOperator | notOperator
  | nullCoalescingOperator => cases known

-- What comes of looking for a user's operator.
variable (invokeOperatorMethod : TokenType → List (Instance Double) → Except Failure (Instance Double))

theorem checkDivisor_cases (operator : TokenType) (right : Instance Double) :
    (Machine.checkDivisor operator right = pure () ∧ (Machine.isDivision operator = true → IsDivisor right)) ∨
    (Machine.checkDivisor operator right = .error .divideByZero ∧ Machine.isDivision operator = true ∧
      IsDivisor right ∧ right.asInteger = 0) ∨
    (Machine.checkDivisor operator right = .error .cannotInterpret ∧ Machine.isDivision operator = true ∧
      ¬ IsDivisor right) := by
  unfold Machine.checkDivisor
  cases division : Machine.isDivision operator with
  | false => exact .inl ⟨rfl,fun other => by cases other⟩
  | true =>
    rw [Bool.not_true,if_neg Bool.false_ne_true]
    cases right with
    | integer value | enumeration _ value =>
      simp only
      by_cases zero : value = 0
      · rw [if_pos zero]
        exact .inr (.inl ⟨rfl,trivial,by simp [IsDivisor,Instance.type],zero⟩)
      · rw [if_neg zero]
        exact .inl ⟨rfl,fun _ => by simp [IsDivisor,Instance.type]⟩
    | char | byte | nativeInteger => exact .inr (.inr ⟨rfl,rfl,by simp [IsDivisor,Instance.type]⟩)
    | _ => exact .inl ⟨rfl,fun _ => by simp [IsDivisor,Instance.type]⟩

omit [FloatingPoint Double] in
theorem checkDivisor_plain (right : Instance Double) (other : Machine.isDivision operator = false) :
    Machine.checkDivisor operator right = pure () := by
  unfold Machine.checkDivisor
  rw [other,Bool.not_false,if_pos rfl]

theorem executeBinary_checked
    (present : left.isNullInstance = false) (present' : right.isNullInstance = false) {failure : Failure}
    (check : Machine.checkDivisor operator right = .error failure) :
    Machine.executeBinary invokeOperatorMethod operator left right = .error failure := by
  rw [Machine.executeBinary,present,present',Bool.or_self,if_neg Bool.false_ne_true,check]
  rfl

theorem executeBinary_failed
    (present : left.isNullInstance = false) (present' : right.isNullInstance = false) {failure : Failure}
    (check : Machine.checkDivisor operator right = pure ()) (failed : executeBinary operator left right = .error failure) :
    Machine.executeBinary invokeOperatorMethod operator left right = .error failure := by
  rw [Machine.executeBinary,present,present',Bool.or_self,if_neg Bool.false_ne_true,check,pure_bind,failed]
  rfl

theorem executeBinary_given {left right result : Instance Double}
    (present : left.isNullInstance = false) (present' : right.isNullInstance = false)
    (check : Machine.checkDivisor operator right = pure ()) (given : executeBinary operator left right = .ok (some result)) :
    Machine.executeBinary invokeOperatorMethod operator left right = .ok result := by
  rw [Machine.executeBinary,present,present',Bool.or_self,if_neg Bool.false_ne_true,check,pure_bind,given]
  rfl

theorem GivesSome.gives
    (known : GivesSome type (executeBinary operator left right)) (present : left.isNullInstance = false)
    (present' : right.isNullInstance = false) (divisor : Machine.isDivision operator = true → IsDivisor right) :
    Gives type (Machine.executeBinary invokeOperatorMethod operator left right) := by
  rw [Machine.executeBinary,present,present',Bool.or_self,if_neg Bool.false_ne_true]
  rcases checkDivisor_cases operator right with ⟨passed,_⟩ | ⟨zero,_⟩ | ⟨_,division,other⟩
  · rw [passed,pure_bind]
    rcases known with failed | ⟨value,given,same⟩
    · rw [failed]
      exact .inl rfl
    · rw [given]
      exact .ok same
  · rw [zero]
    exact .inl rfl
  · exact absurd (divisor division) other

variable {findOperator : TypeSymbol → TokenType → List TypeSymbol → Option TypeSymbol}

theorem executeBinary_gives
    {leftType rightType type : TypeSymbol}
    (known : binaryInstruction operator = some operator)
    (bound : analyzeOperands findOperator operator leftType rightType = ⟨some type,[],false⟩)
    (typed : left.HasType leftType) (typed' : right.HasType rightType) (performs : Performs operator left right) :
    Gives type (Machine.executeBinary invokeOperatorMethod operator left right) := by
  obtain ⟨bound,primitive⟩ := analyzeOperands_eq bound
  cases comparison : isComparison operator with
  | false =>
    obtain ⟨present,present'⟩ := present_of_arithmetic known comparison bound typed typed' performs
    rw [← type_of_hasType typed present,← type_of_hasType typed' present'] at bound
    exact (table_gives known comparison bound performs).gives invokeOperatorMethod present present' performs.divisor
  | true =>
    obtain ⟨rfl,comparable⟩ := comparison_eq comparison bound
    cases present : left.isNullInstance with
    | true =>
      rw [Machine.executeBinary,present,Bool.or_true,if_pos rfl]
      exact .ok rfl
    | false =>
      cases present' : right.isNullInstance with
      | true =>
        rw [Machine.executeBinary,present',Bool.true_or,if_pos rfl]
        exact .ok rfl
      | false =>
        have both := areComparable_of_isComparable comparable typed typed' present present'
        refine (comparison_gives comparison both ?_).gives invokeOperatorMethod present present' performs.divisor
        refine primitive.imp_left fun primitive => ?_
        rw [type_of_hasType typed present]
        cases leftType with
        | enumeration => cases primitive
        | _ => rfl

theorem addition_type {left right type : TypeSymbol}
    (bound : analyzeOperator .addOperator left right = ⟨some type,[],false⟩) : type ≠ .boolean := by
  rw [analyzeOperator] at bound
  split at bound
  · cases bound
    decide
  · rw [(numericType_eq bound).2.2]
    split
    · decide
    · decide

theorem arithmetic_integers (numeric : left.type.isNumericType = true)
    (numeric' : right.type.isNumericType = true) (one : left.type ≠ .double) (other : right.type ≠ .double)
    (inDouble : Double → Double → Except Failure Double) (inInteger : Int64 → Int64 → Except Failure Int64) :
    arithmetic inDouble inInteger left right =
      (inInteger left.asInteger right.asInteger).map fun result => some (.integer result) := by
  rw [arithmetic,numeric,numeric',Bool.not_true,Bool.or_self,if_neg Bool.false_ne_true,if_neg (not_or.2 ⟨one,other⟩)]
  cases inInteger left.asInteger right.asInteger with
  | error failure => rfl
  | ok result => rfl

theorem signed_undefined {exact : Int} (outside : ¬ Fits exact) : signed exact = .error .undefined := by
  rw [signed,if_neg outside]
  rfl

theorem divided_undefined (operation : Int64 → Int64 → Int64) {dividend divisor : Int64}
    (overflow : dividend = Int64.minValue ∧ divisor = -1) : divided operation dividend divisor = .error .undefined := by
  rw [divided,if_neg (by rw [overflow.2]; decide),if_pos overflow]
  rfl

theorem executeBinary_undefined
    (numeric : left.type.isNumericType = true) (numeric' : right.type.isNumericType = true) (one : left.type ≠ .double)
    (other : right.type ≠ .double)
    (integral : operator = .leftShiftOperator ∨ operator = .rightShiftOperator →
      left.type.isIntegralType = true ∧ right.type.isIntegralType = true)
    (undefined : ¬ IsDefined operator left right) : executeBinary operator left right = .error .undefined := by
  have texts : ¬ (left.type = .string ∨ right.type = .string) :=
    not_or.2 ⟨(present_of_numeric numeric).2.1,(present_of_numeric numeric').2.1⟩
  cases operator with
  | addOperator =>
    rw [executeBinary,executeMathAddition,if_neg texts,arithmetic_integers numeric numeric' one other,
      signed_undefined undefined]
    rfl
  | subOperator =>
    rw [executeBinary,executeMathSubtraction,arithmetic_integers numeric numeric' one other,signed_undefined undefined]
    rfl
  | multOperator =>
    rw [executeBinary,executeMathMultiplication,arithmetic_integers numeric numeric' one other,signed_undefined undefined]
    rfl
  | divOperator =>
    rw [executeBinary,executeMathDivision,arithmetic_integers numeric numeric' one other,
      divided_undefined _ (not_not.1 undefined)]
    rfl
  | modOperator =>
    rw [executeBinary,executeMathModulo,arithmetic_integers numeric numeric' one other,
      divided_undefined _ (not_not.1 undefined)]
    rfl
  | powOperator =>
    rw [executeBinary,executeMathPower,numeric,numeric',Bool.not_true,Bool.or_self,if_neg Bool.false_ne_true]
    simp only [if_neg (not_or.2 ⟨one,other⟩)]
    change ¬ FloatingPoint.fits _ = true at undefined
    rw [if_neg undefined]
    rfl
  | leftShiftOperator =>
    obtain ⟨integral,integral'⟩ := integral (.inl rfl)
    change ¬ (0 ≤ right.asInteger ∧ right.asInteger < 64) at undefined
    rw [executeBinary,executeShiftLeft,shift,integral,integral',Bool.not_true,Bool.or_self,if_neg Bool.false_ne_true,
      if_neg undefined]
    rfl
  | rightShiftOperator =>
    obtain ⟨integral,integral'⟩ := integral (.inr rfl)
    change ¬ (0 ≤ right.asInteger ∧ right.asInteger < 64) at undefined
    rw [executeBinary,executeShiftRight,shift,integral,integral',Bool.not_true,Bool.or_self,if_neg Bool.false_ne_true,
      if_neg undefined]
    rfl
  | _ => exact absurd trivial undefined

def RaisesZero (outcome : Except Failure (Instance Double)) : Prop :=
  ∀ failure, outcome = .error failure → failure = .divideByZero

omit [FloatingPoint Double] in
theorem Gives.raisesZero {outcome : Except Failure (Instance Double)} (given : Gives type outcome) :
    RaisesZero outcome := by
  intro failure failed
  rcases given with zero | ⟨_,same,_⟩
  · rw [failed] at zero
    cases zero
    rfl
  · rw [failed] at same
    cases same

theorem RaisesZero.table
    (raises : RaisesZero (Machine.executeBinary invokeOperatorMethod operator left right))
    (present : left.isNullInstance = false) (present' : right.isNullInstance = false) :
    (Machine.isDivision operator = true → IsDivisor right) ∧
      (Machine.isDivision operator = true ∧ right.asInteger = 0 ∨ ∀ failure,
        executeBinary operator left right = .error failure → failure = .divideByZero) := by
  rw [Machine.executeBinary,present,present',Bool.or_self,if_neg Bool.false_ne_true] at raises
  rcases checkDivisor_cases operator right with ⟨passed,divisor⟩ | ⟨_,division,divisor,zero⟩ | ⟨failed,_⟩
  · refine ⟨divisor,.inr fun failure failed => raises failure ?_⟩
    rw [passed,pure_bind,failed]
    rfl
  · exact ⟨fun _ => divisor,.inl ⟨division,zero⟩⟩
  · rw [failed] at raises
    cases raises _ rfl

theorem present_of_gives
    {leftType rightType type : TypeSymbol}
    (bound : analyzeOperands findOperator .addOperator leftType rightType = ⟨some type,[],false⟩)
    (given : Gives type (Machine.executeBinary invokeOperatorMethod .addOperator left right)) :
    left.isNullInstance = false ∧ right.isNullInstance = false := by
  rw [← Bool.or_eq_false_iff,Bool.or_comm]
  by_contra null
  rw [Bool.not_eq_false] at null
  rw [Machine.executeBinary,if_pos null] at given
  rcases given with failed | ⟨value,same,known⟩
  · cases failed
  · cases same
    rcases known with same | ⟨other,_⟩
    · exact addition_type (analyzeOperands_eq bound).1 same.symm
    · cases other

theorem performs_of_raisesZero
    {leftType rightType type : TypeSymbol}
    (bound : analyzeOperands findOperator operator leftType rightType = ⟨some type,[],false⟩)
    (typed : left.HasType leftType) (typed' : right.HasType rightType)
    (present : operator = .addOperator → left.isNullInstance = false ∧ right.isNullInstance = false)
    (raises : RaisesZero (Machine.executeBinary invokeOperatorMethod operator left right)) :
    Performs operator left right := by
  replace bound := (analyzeOperands_eq bound).1
  constructor
  · exact present
  · intro addition text
    subst addition
    obtain ⟨present,present'⟩ := present rfl
    rcases (raises.table invokeOperatorMethod present present').2 with ⟨division,_⟩ | raises
    · cases division
    refine (concatenated_isOk left right).1 ?_
    cases outcome : concatenate {} left right with
    | error failure =>
      have zero := raises failure (by rw [executeBinary,executeMathAddition,if_pos text,outcome]; rfl)
      rcases concatenate_failure outcome with other | other
      · cases zero.symm.trans other
      · cases zero.symm.trans other
    | ok filled => exact ⟨filled.1,(concatenate_ok {} left right filled.1).1 ⟨filled.2,outcome⟩⟩
  · intro division
    have bound : ∃ text, numericType text leftType rightType = ⟨some type,[],false⟩ := by
      cases operator with
      | divOperator | modOperator => exact ⟨_,bound⟩
      | _ => cases division
    obtain ⟨text,bound⟩ := bound
    obtain ⟨numeric,numeric',_⟩ := numericType_eq bound
    exact (raises.table invokeOperatorMethod (present_of_numericPrimitive typed numeric).2
      (present_of_numericPrimitive typed' numeric').2).1 division
  · intro numeric numeric' one other
    by_contra undefined
    have integral : operator = .leftShiftOperator ∨ operator = .rightShiftOperator →
        left.type.isIntegralType = true ∧ right.type.isIntegralType = true := by
      intro either
      rw [isIntegralType_eq,isIntegralType_eq,type_of_hasType typed (present_of_numeric numeric).1,
        type_of_hasType typed' (present_of_numeric numeric').1]
      exact shift_integral either bound
    rcases (raises.table invokeOperatorMethod (present_of_numeric numeric).1 (present_of_numeric numeric').1).2 with
      ⟨division,zero⟩ | raises
    · refine undefined ?_
      cases operator with
      | divOperator | modOperator =>
        rw [IsDefined,zero]
        exact fun overflow => by cases overflow.2
      | _ => cases division
    · cases raises _ (executeBinary_undefined numeric numeric' one other integral undefined)

theorem performs_of_gives
    {leftType rightType type : TypeSymbol}
    (bound : analyzeOperands findOperator operator leftType rightType = ⟨some type,[],false⟩)
    (typed : left.HasType leftType) (typed' : right.HasType rightType)
    (given : Gives type (Machine.executeBinary invokeOperatorMethod operator left right)) :
    Performs operator left right := by
  refine performs_of_raisesZero invokeOperatorMethod bound typed typed' ?_ given.raisesZero
  intro addition
  subst addition
  exact present_of_gives invokeOperatorMethod bound given

end Operators

end ShardScript.Primitive
