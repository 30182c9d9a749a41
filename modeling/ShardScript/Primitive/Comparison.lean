import ShardScript.Primitive.Equality

/-! When the comparisons of two values agree on which of them comes first. -/
namespace ShardScript.Primitive
open Semantic Instance

variable {Double : Type} [FloatingPoint Double]

section Methods

def comparisonOf (operator : TokenType) (left right : Int64) : Option Bool :=
  match operator with
  | .equalsOperator => some (left == right)
  | .notEqualsOperator => some (left != right)
  | .lessOperator => some (decide (left < right))
  | .lessOrEqualsOperator => some (decide (left ≤ right))
  | .greaterOperator => some (decide (right < left))
  | .greaterOrEqualsOperator => some (decide (right ≤ left))
  | _ => none

/-- The comparisons that are registered for `byte` and for an enumeration. Those of other types are not looked for with
the operands that they are for. -/
def registeredComparison (operator : TokenType) (left right : Instance Double) : Option Bool :=
  match left,right with
  | .byte _,.byte _ => comparisonOf operator left.asInteger right.asInteger
  | .enumeration identifier _,.enumeration identifier' _ =>
      if identifier = identifier' ∧ (operator = .equalsOperator ∨ operator = .notEqualsOperator) then
        comparisonOf operator left.asInteger right.asInteger
      else none
  | _,_ => none

def findComparison (owner : TypeSymbol) (operator : TokenType) (parameters : List TypeSymbol) : Option TypeSymbol :=
  match owner with
  | .byte => if isComparison operator ∧ parameters = [.byte,.byte] then some .boolean else none
  | .enumeration identifier =>
      if (operator = .equalsOperator ∨ operator = .notEqualsOperator) ∧
          parameters = [.enumeration identifier,.enumeration identifier] then some .boolean
      else none
  | _ => none

-- The comparisons of classes and structures.
variable (userOperator : TokenType → List (Instance Double) → Except Failure (Instance Double))

def invokeComparison (operator : TokenType) (operands : List (Instance Double)) : Except Failure (Instance Double) :=
  match operands with
  | [left,right] =>
    match left.type with
    | .classType _ | .structType _ => userOperator operator operands
    | _ =>
      match registeredComparison operator right left with
      | some result => pure (.boolean result)
      | none => throw .operatorOverloadNotFound
  | _ => throw .undefined

/-- The operands of a comparison are of the types that are known for them, or both of the same type parameter. -/
inductive Typing where
  | known (left right : TypeSymbol)
  | typeParameter
  deriving DecidableEq

def Typing.analyze (operator : TokenType) : Typing → Analysis
  | known left right => analyzeOperands findComparison operator left right
  | typeParameter => ⟨some .boolean,[],false⟩

def Typing.Accepted (typing : Typing) : Prop :=
  ∀ operator, isComparison operator = true → (typing.analyze operator).diagnostics = []

def Typing.Holds (left right : Instance Double) : Typing → Prop
  | known leftType rightType => left.HasType leftType ∧ right.HasType rightType
  | typeParameter => True

/-- A comparison that was selected by the binder is called; the virtual machine does another one. -/
def evaluateComparison (typing : Typing) (operator : TokenType) (left right : Instance Double) :
    Except Failure (Instance Double) :=
  if (typing.analyze operator).toOperator then
    match registeredComparison operator left right with
    | some result => pure (.boolean result)
    | none => throw .operatorOverloadNotFound
  else Machine.executeBinary (invokeComparison userOperator) operator left right

end Methods

def OrderLaws (compare : TokenType → Except Failure (Instance Double)) : Prop :=
  ∃ less equal greater : Bool, compare .lessOperator = .ok (.boolean less) ∧
    compare .equalsOperator = .ok (.boolean equal) ∧ compare .greaterOperator = .ok (.boolean greater) ∧
    less.toNat + equal.toNat + greater.toNat = 1 ∧
    compare .lessOrEqualsOperator = .ok (.boolean (less || equal)) ∧
    compare .greaterOrEqualsOperator = .ok (.boolean (greater || equal))

def isComparand (value : Instance Double) : Bool :=
  value.type.isIntegralType || value.type.isEnumeration || value.type == .string || value.isNullInstance

/-- Numbers have an order, and so have texts that are the same if they are so up to the first zero. -/
def AreOrdered (left right : Instance Double) : Prop :=
  (left.type.isIntegralType = true ∧ right.type.isIntegralType = true) ∨
    ∃ text text', left = .string text ∧ right = .string text' ∧ (ofCString text = ofCString text' → text = text')

section Machine

variable {left right : Instance Double}

theorem orEqual_given {first : Instance Double → Instance Double → Except Failure (Option (Instance Double))}
    {before equal : Bool} (known : first left right = .ok (some (.boolean before)))
    (equals : executeCompareEqual left right = .ok (some (.boolean equal))) :
    orEqual first left right = .ok (some (.boolean (before || equal))) := by
  cases before with
  | true =>
    rw [orEqual,known]
    rfl
  | false =>
    rw [orEqual,known]
    exact equals

theorem toNat_order {less equal greater : Bool} (either : less = true ∨ equal = true ∨ greater = true)
    (one : less = true → equal = false ∧ greater = false) (other : equal = true → greater = false) :
    less.toNat + equal.toNat + greater.toNat = 1 := by
  cases less with
  | true =>
    obtain ⟨rfl,rfl⟩ := one rfl
    rfl
  | false =>
    cases equal with
    | true =>
      rw [other rfl]
      rfl
    | false =>
      rcases either with same | same | rfl
      · cases same
      · cases same
      · rfl

theorem integer_order (left right : Int64) :
    (decide (left < right)).toNat + (left == right).toNat + (decide (right < left)).toNat = 1 := by
  refine toNat_order ?_ ?_ ?_
  · rw [decide_eq_true_iff,decide_eq_true_iff,beq_iff_eq,Int64.lt_iff_toInt_lt,Int64.lt_iff_toInt_lt,← Int64.toInt_inj]
    omega
  · rw [decide_eq_true_iff,decide_eq_false_iff_not,beq_eq_false_iff_ne,ne_eq,Int64.lt_iff_toInt_lt,
      Int64.lt_iff_toInt_lt,← Int64.toInt_inj]
    omega
  · rw [decide_eq_false_iff_not,beq_iff_eq,Int64.lt_iff_toInt_lt,← Int64.toInt_inj]
    omega

theorem integer_le (left right : Int64) : decide (left ≤ right) = (decide (left < right) || left == right) := by
  rw [Bool.eq_iff_iff,Bool.or_eq_true,decide_eq_true_iff,decide_eq_true_iff,beq_iff_eq,Int64.le_iff_toInt_le,
    Int64.lt_iff_toInt_lt,← Int64.toInt_inj]
  omega

theorem text_order (left right : List UInt16) :
    (lessText left right).toNat + (left == right).toNat + (lessText right left).toNat = 1 ↔
      (ofCString left = ofCString right → left = right) := by
  constructor
  · intro order same
    rw [lessText,lessText,same,decide_eq_false (List.lt_irrefl _)] at order
    by_contra other
    rw [beq_eq_false_iff_ne.2 other] at order
    cases order
  · intro agrees
    refine toNat_order ?_ ?_ ?_
    · rw [lessText,lessText,decide_eq_true_iff,decide_eq_true_iff,beq_iff_eq]
      by_contra none
      rw [not_or,not_or] at none
      exact none.2.1 (agrees (List.le_antisymm (List.not_lt.1 none.2.2) (List.not_lt.1 none.1)))
    · rw [lessText,lessText,decide_eq_true_iff,decide_eq_false_iff_not,beq_eq_false_iff_ne]
      intro less
      refine ⟨?_,List.lt_asymm less⟩
      rintro rfl
      exact List.lt_irrefl _ less
    · rw [lessText,decide_eq_false_iff_not,beq_iff_eq]
      rintro rfl
      exact List.lt_irrefl _

theorem compared_integers (texts : List UInt16 → List UInt16 → Bool) (doubles : Double → Double → Bool)
    (integers : Int64 → Int64 → Bool) (integral : left.type.isIntegralType = true)
    (integral' : right.type.isIntegralType = true) :
    compared texts doubles integers left right = .ok (some (.boolean (integers left.asInteger right.asInteger))) := by
  obtain ⟨numeric,double⟩ := integral_numeric integral
  obtain ⟨numeric',double'⟩ := integral_numeric integral'
  unfold compared
  split
  · cases numeric
  · cases numeric'
  · cases numeric
  · rw [numeric,numeric',Bool.not_true,Bool.or_self,if_neg Bool.false_ne_true,if_neg (not_or.2 ⟨double,double'⟩)]
    rfl

theorem compared_declined (texts : List UInt16 → List UInt16 → Bool) (doubles : Double → Double → Bool)
    (integers : Int64 → Int64 → Bool)
    (strings : ¬ (left.type = .string ∧ right.type = .string))
    (numbers : ¬ (left.type.isNumericType = true ∧ right.type.isNumericType = true)) :
    compared texts doubles integers left right = .ok none := by
  unfold compared
  split
  · rfl
  · rfl
  · exact absurd ⟨rfl,rfl⟩ strings
  · rw [if_pos]
    · rfl
    · rwa [Bool.or_eq_true,Bool.not_eq_true',Bool.not_eq_true',← Bool.not_eq_true,← Bool.not_eq_true,← not_and_or]

variable (invokeOperatorMethod : TokenType → List (Instance Double) → Except Failure (Instance Double))

theorem orderLaws_primitive (present : left.isNullInstance = false)
    (present' : right.isNullInstance = false) {less equal greater : Bool}
    (lesser : executeCompareLess left right = .ok (some (.boolean less)))
    (equals : executeCompareEqual left right = .ok (some (.boolean equal)))
    (greaters : executeCompareGreater left right = .ok (some (.boolean greater))) :
    OrderLaws (fun operator => Machine.executeBinary invokeOperatorMethod operator left right) ↔
      less.toNat + equal.toNat + greater.toNat = 1 := by
  have given : ∀ (operator : TokenType) {result : Bool}, Machine.isDivision operator = false →
      executeBinary operator left right = .ok (some (.boolean result)) →
      Machine.executeBinary invokeOperatorMethod operator left right = .ok (.boolean result) :=
    fun operator _ other known => (executeBinary_comparison invokeOperatorMethod operator present present' other).1 _ known
  have first := given .lessOperator rfl lesser
  have second := given .equalsOperator rfl equals
  have third := given .greaterOperator rfl greaters
  constructor
  · intro laws
    obtain ⟨less',equal',greater',known,known',known'',one,_⟩ := laws
    cases first.symm.trans known
    cases second.symm.trans known'
    cases third.symm.trans known''
    exact one
  · intro one
    exact ⟨less,equal,greater,first,second,third,one,
      given .lessOrEqualsOperator rfl (orEqual_given lesser equals),
      given .greaterOrEqualsOperator rfl (orEqual_given greaters equals)⟩

theorem orderLaws_integers (integral : left.type.isIntegralType = true)
    (integral' : right.type.isIntegralType = true) :
    OrderLaws (fun operator => Machine.executeBinary invokeOperatorMethod operator left right) := by
  obtain ⟨numeric,double⟩ := integral_numeric integral
  obtain ⟨numeric',double'⟩ := integral_numeric integral'
  have equals := executeCompareEqual_numbers numeric numeric'
  rw [if_neg (not_or.2 ⟨double,double'⟩)] at equals
  exact (orderLaws_primitive invokeOperatorMethod (present_of_numeric numeric).1 (present_of_numeric numeric').1
    (compared_integers _ _ _ integral integral') equals (compared_integers _ _ _ integral integral')).2
    (integer_order left.asInteger right.asInteger)

theorem orderLaws_texts (text text' : List UInt16) :
    OrderLaws (fun operator => Machine.executeBinary invokeOperatorMethod operator (.string text) (.string text')) ↔
      (ofCString text = ofCString text' → text = text') := by
  rw [← text_order]
  exact orderLaws_primitive invokeOperatorMethod rfl rfl rfl rfl rfl

theorem present_of_orderLaws
    (laws : OrderLaws fun operator => Machine.executeBinary invokeOperatorMethod operator left right) :
    left.isNullInstance = false ∧ right.isNullInstance = false := by
  rw [← Bool.or_eq_false_iff,Bool.or_comm]
  by_contra null
  rw [Bool.not_eq_false] at null
  obtain ⟨less,equal,greater,lesser,equals,greaters,one,_⟩ := laws
  simp only [Machine.executeBinary,if_pos null] at lesser equals greaters
  cases lesser
  cases equals
  cases greaters
  cases one

omit [FloatingPoint Double] in
theorem isComparand_cases {value : Instance Double} (comparand : isComparand value = true)
    (present : value.isNullInstance = false) :
    value.type.isIntegralType = true ∨ value.type.isEnumeration = true ∨ value.type = .string := by
  simpa [isComparand,present,or_assoc] using comparand

omit [FloatingPoint Double] in
theorem integral_of_numeric {value : Instance Double} (comparand : isComparand value = true)
    (numeric : value.type.isNumericType = true) : value.type.isIntegralType = true := by
  obtain ⟨present,other,_,plain⟩ := present_of_numeric numeric
  rcases isComparand_cases comparand present with integral | enumeration | string
  · exact integral
  · rw [plain] at enumeration
    cases enumeration
  · exact absurd string other

variable (userOperator : TokenType → List (Instance Double) → Except Failure (Instance Double))

theorem invokeComparison_less (comparand : isComparand left = true)
    (present : left.isNullInstance = false)
    (numbers : ¬ (left.type.isNumericType = true ∧ right.type.isNumericType = true)) :
    invokeComparison userOperator .lessOperator [left,right] = .error .operatorOverloadNotFound := by
  have none : registeredComparison .lessOperator right left = none := by
    cases right with
    | byte => cases left with
      | byte => exact absurd ⟨rfl,rfl⟩ numbers
      | _ => rfl
    | enumeration identifier => cases left with
      | enumeration identifier' => rw [registeredComparison,if_neg (by simp)]
      | _ => rfl
    | _ => rfl
  rw [invokeComparison]
  rcases isComparand_cases comparand present with integral | enumeration | string
  · cases left with
    | integer | char | byte | nativeInteger =>
      simp only [Instance.type,none]
      rfl
    | _ => cases integral
  · cases left with
    | enumeration =>
      simp only [Instance.type,none]
      rfl
    | _ => cases enumeration
  · cases left with
    | string =>
      simp only [Instance.type,none]
      rfl
    | _ => cases string

theorem orderLaws_machine (comparand : isComparand left = true)
    (comparand' : isComparand right = true) :
    OrderLaws (fun operator => Machine.executeBinary (invokeComparison userOperator) operator left right) ↔
      AreOrdered left right := by
  constructor
  · intro laws
    obtain ⟨present,present'⟩ := present_of_orderLaws _ laws
    by_cases numbers : left.type.isNumericType = true ∧ right.type.isNumericType = true
    · exact .inl ⟨integral_of_numeric comparand numbers.1,integral_of_numeric comparand' numbers.2⟩
    by_cases strings : left.type = .string ∧ right.type = .string
    · obtain ⟨text,rfl⟩ := string_of_type strings.1
      obtain ⟨text',rfl⟩ := string_of_type strings.2
      exact .inr ⟨text,text',rfl,rfl,(orderLaws_texts _ text text').1 laws⟩
    · obtain ⟨less,_,_,lesser,_⟩ := laws
      have none : executeBinary .lessOperator left right = .ok none := by
        rw [executeBinary,executeCompareLess]
        exact compared_declined _ _ _ strings numbers
      have declined := (executeBinary_comparison (invokeComparison userOperator) _ present present' rfl).2 none
      rw [invokeComparison_less userOperator comparand present numbers] at declined
      cases declined.symm.trans lesser
  · intro ordered
    rcases ordered with ⟨integral,integral'⟩ | ⟨text,text',rfl,rfl,agrees⟩
    · exact orderLaws_integers _ integral integral'
    · exact (orderLaws_texts _ text text').2 agrees

end Machine

section Binder

variable {operator : TokenType}

theorem analyzeOperator_comparison (comparison : isComparison operator = true)
    (left right : TypeSymbol) : (analyzeOperator operator left right).toOperator = false := by
  cases operator with
  | equalsOperator | notEqualsOperator | greaterOperator | greaterOrEqualsOperator | lessOperator
  | lessOrEqualsOperator => rfl
  | _ => cases comparison

theorem bytes_of_selected {leftType rightType : TypeSymbol} (accepted : (Typing.known leftType rightType).Accepted)
    (comparison : isComparison operator = true)
    (selected : ((Typing.known leftType rightType).analyze operator).toOperator = true) :
    leftType = .byte ∧ rightType = .byte := by
  rw [Typing.analyze,analyzeOperands] at selected
  split at selected
  · rw [analyzeOperator_comparison comparison] at selected
    cases selected
  split at selected
  · rename_i returnType known
    rw [resolveOperatorMethod] at known
    split at known
    · cases leftType with
      | byte =>
        rw [findComparison] at known
        split at known
        · rename_i both
          injection both.2 with _ both
          injection both with same _
          exact ⟨rfl,same⟩
        · cases known
      | enumeration identifier =>
        -- Then there is no operator that tells which of them is less, and that is reported.
        have reported := accepted .lessOperator rfl
        cases reported
      | _ => cases known
    · cases known
  · split at selected
    · cases selected
    · rw [analyzeOperator_comparison comparison] at selected
      cases selected

theorem selected_of_bytes (comparison : isComparison operator = true) :
    ((Typing.known .byte .byte).analyze operator).toOperator = true := by
  cases operator with
  | equalsOperator | notEqualsOperator | greaterOperator | greaterOrEqualsOperator | lessOperator
  | lessOrEqualsOperator => rfl
  | _ => cases comparison

theorem orderLaws_registered (left right : UInt8) (compare : TokenType → Except Failure (Instance Double))
    (known : ∀ operator, isComparison operator = true → ∃ result,
      registeredComparison operator (.byte left : Instance Double) (.byte right) = some result ∧
        compare operator = .ok (.boolean result)) : OrderLaws compare := by
  obtain ⟨less,registered,lesser⟩ := known .lessOperator rfl
  obtain ⟨equal,registered',equals⟩ := known .equalsOperator rfl
  obtain ⟨greater,registered'',greaters⟩ := known .greaterOperator rfl
  obtain ⟨_,lessOrEqual,lessOrEquals⟩ := known .lessOrEqualsOperator rfl
  obtain ⟨_,greaterOrEqual,greaterOrEquals⟩ := known .greaterOrEqualsOperator rfl
  cases registered
  cases registered'
  cases registered''
  cases lessOrEqual
  cases greaterOrEqual
  refine ⟨_,_,_,lesser,equals,greaters,integer_order _ _,?_,?_⟩
  · rw [lessOrEquals,integer_le]
  · rw [greaterOrEquals,integer_le,Bool.beq_comm]

end Binder

variable (userOperator : TokenType → List (Instance Double) → Except Failure (Instance Double))

/-- Operands that are accepted in every comparison have an order if and only if they are numbers, or texts that do not
differ just behind a zero. -/
theorem order_lawful (typing : Typing) (left right : Instance Double) (comparand : isComparand left = true)
    (comparand' : isComparand right = true) (accepted : typing.Accepted) (holds : typing.Holds left right) :
    OrderLaws (fun operator => evaluateComparison userOperator typing operator left right) ↔ AreOrdered left right := by
  by_cases bytes : typing = .known .byte .byte
  · subst bytes
    obtain ⟨typed,typed'⟩ := holds
    obtain ⟨same,_⟩ := present_of_numericPrimitive typed rfl
    obtain ⟨same',_⟩ := present_of_numericPrimitive typed' rfl
    cases left with
    | byte left =>
      cases right with
      | byte right =>
        refine iff_of_true (orderLaws_registered left right _ fun operator comparison => ?_) (.inl ⟨rfl,rfl⟩)
        rw [evaluateComparison,if_pos (selected_of_bytes comparison)]
        cases operator with
        | equalsOperator | notEqualsOperator | greaterOperator | greaterOrEqualsOperator | lessOperator
        | lessOrEqualsOperator => exact ⟨_,rfl,rfl⟩
        | _ => cases comparison
      | _ => cases same'
    | _ => cases same
  · rw [← orderLaws_machine userOperator comparand comparand']
    have plain : ∀ operator, isComparison operator = true →
        evaluateComparison userOperator typing operator left right =
          Machine.executeBinary (invokeComparison userOperator) operator left right := by
      intro operator comparison
      rw [evaluateComparison,if_neg]
      intro selected
      cases typing with
      | known leftType rightType =>
        obtain ⟨rfl,rfl⟩ := bytes_of_selected accepted comparison selected
        exact bytes rfl
      | typeParameter => cases selected
    rw [OrderLaws,OrderLaws,plain _ rfl,plain _ rfl,plain _ rfl,plain _ rfl,plain _ rfl]

/-- The numbers 1 and 2. -/
theorem order_lawful_numbers :
    OrderLaws fun operator => evaluateComparison noOperatorMethod .typeParameter operator (.integer 1) (.integer 2) :=
  (order_lawful noOperatorMethod .typeParameter (.integer 1) (.integer 2) rfl rfl (fun _ _ => rfl) trivial).2
    (.inl ⟨rfl,rfl⟩)

/-- Two texts that differ behind a zero, and members of an enumeration that are compared in a generic method, are
accepted and have no order. -/
theorem accepted_without_order :
    (Typing.known .string .string).Accepted ∧
      (Typing.known .string .string).Holds (.string [0,97] : Instance Int64) (.string [0,98]) ∧
      ¬ OrderLaws (fun operator =>
        evaluateComparison noOperatorMethod (.known .string .string) operator (.string [0,97]) (.string [0,98])) ∧
      ¬ OrderLaws (fun operator =>
        evaluateComparison noOperatorMethod .typeParameter operator (.enumeration 0 1) (.enumeration 0 2)) := by
  refine ⟨fun operator comparison => ?_,⟨.inl rfl,.inl rfl⟩,fun laws => ?_,fun laws => ?_⟩
  · cases operator with
    | equalsOperator | notEqualsOperator | greaterOperator | greaterOrEqualsOperator | lessOperator
    | lessOrEqualsOperator => rfl
    | _ => cases comparison
  · have agrees := (orderLaws_texts (invokeComparison noOperatorMethod) [0,97] [0,98]).1 laws
    exact absurd (agrees rfl) (by decide)
  · obtain ⟨_,_,_,lesser,_⟩ := laws
    cases lesser

end ShardScript.Primitive
