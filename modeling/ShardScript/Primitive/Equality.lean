import ShardScript.Primitive.Operators

/-! When `==` and `!=` of the virtual machine are complementary, and `==` is symmetric and takes null for null. -/
namespace ShardScript.Primitive
open Semantic Instance

variable {Double : Type} [FloatingPoint Double]

structure EqualityLaws (compare : TokenType → Instance Double → Instance Double → Except Failure (Instance Double))
    (left right : Instance Double) : Prop where
  opposite : ∃ equal : Bool, compare .equalsOperator left right = .ok (.boolean equal) ∧
    compare .notEqualsOperator left right = .ok (.boolean !equal)
  nulls : left.isNullInstance = true → right.isNullInstance = true →
    compare .equalsOperator left right = .ok (.boolean true)
  null : left.isNullInstance ≠ right.isNullInstance → compare .equalsOperator left right = .ok (.boolean false)
  symmetric : compare .equalsOperator left right = compare .equalsOperator right left

def AreEquatable (left right : Instance Double) : Prop :=
  (left.type.isByReference = true ∧ right.type.isByReference = true) ∨
    (left.type.isNumericType = true ∧ right.type.isNumericType = true) ∨
    (left.type.isEnumeration = true ∧ left.type = right.type)

variable {left right : Instance Double}

omit [FloatingPoint Double] in
theorem AreEquatable.symm (equatable : AreEquatable left right) :
    AreEquatable right left := by
  rcases equatable with references | numbers | ⟨enumeration,same⟩
  · exact .inl references.symm
  · exact .inr (.inl numbers.symm)
  · exact .inr (.inr ⟨same ▸ enumeration,same.symm⟩)

omit [FloatingPoint Double] in
theorem isSame_comm (left right : Instance Double) : isSame left right = isSame right left := by
  cases left with
  | array => cases right with
    | array => exact Bool.beq_comm
    | _ => rfl
  | object => cases right with
    | object => exact Bool.beq_comm
    | _ => rfl
  | _ => cases right <;> rfl

theorem executeCompareEqual_references (present : left.isNullInstance = false)
    (present' : right.isNullInstance = false)
    (references : left.type.isByReference = true ∧ right.type.isByReference = true) :
    ∃ equal, executeCompareEqual left right = .ok (some (.boolean equal)) ∧
      executeCompareEqual right left = .ok (some (.boolean equal)) := by
  by_cases strings : left.type = .string ∧ right.type = .string
  · obtain ⟨text,rfl⟩ := string_of_type strings.1
    obtain ⟨text',rfl⟩ := string_of_type strings.2
    exact ⟨text == text',rfl,by rw [Bool.beq_comm]; rfl⟩
  · have strings' : ¬ (right.type = .string ∧ left.type = .string) := fun both => strings both.symm
    refine ⟨isSame left right,?_,?_⟩
    · rw [executeCompareEqual_values present present' strings,if_pos references]
      rfl
    · rw [executeCompareEqual_values present' present strings',if_pos references.symm,isSame_comm]
      rfl

theorem executeCompareEqual_equatable (present : left.isNullInstance = false)
    (present' : right.isNullInstance = false) (equatable : AreEquatable left right) :
    ∃ equal, executeCompareEqual left right = .ok (some (.boolean equal)) ∧
      executeCompareEqual right left = .ok (some (.boolean equal)) := by
  rcases equatable with references | ⟨numeric,numeric'⟩ | ⟨enumeration,same⟩
  · exact executeCompareEqual_references present present' references
  · refine ⟨_,executeCompareEqual_numbers numeric numeric',?_⟩
    have double : right.type = .double ∨ left.type = .double ↔ left.type = .double ∨ right.type = .double := or_comm
    rw [executeCompareEqual_numbers numeric' numeric,FloatingPoint.equal_comm,Bool.beq_comm]
    simp only [double]
  · refine ⟨_,executeCompareEqual_enumerations enumeration same,?_⟩
    rw [executeCompareEqual_enumerations (same ▸ enumeration) same.symm,Bool.beq_comm]

theorem executeCompareEqual_declined (present : left.isNullInstance = false)
    (present' : right.isNullInstance = false) (other : ¬ AreEquatable left right) :
    executeCompareEqual left right = .ok none := by
  rw [AreEquatable,not_or,not_or] at other
  obtain ⟨references,numbers,enumerations⟩ := other
  have strings : ¬ (left.type = .string ∧ right.type = .string) := by
    intro strings
    rw [strings.1,strings.2] at references
    exact references ⟨rfl,rfl⟩
  rw [executeCompareEqual_values present present' strings,if_neg references,if_neg enumerations,if_pos]
  · rfl
  · rwa [Bool.or_eq_true,Bool.not_eq_true',Bool.not_eq_true',← Bool.not_eq_true,← Bool.not_eq_true,← not_and_or]

variable (invokeOperatorMethod : TokenType → List (Instance Double) → Except Failure (Instance Double))

theorem executeBinary_comparison (operator : TokenType)
    (present : left.isNullInstance = false) (present' : right.isNullInstance = false)
    (other : Machine.isDivision operator = false) :
    (∀ result, executeBinary operator left right = .ok (some result) →
      Machine.executeBinary invokeOperatorMethod operator left right = .ok result) ∧
    (executeBinary operator left right = .ok none →
      Machine.executeBinary invokeOperatorMethod operator left right = invokeOperatorMethod operator [left,right]) := by
  have check := checkDivisor_plain right other
  refine ⟨fun result given => executeBinary_given invokeOperatorMethod present present' check given,fun declined => ?_⟩
  rw [Machine.executeBinary,present,present',Bool.or_self,if_neg Bool.false_ne_true,check,pure_bind,declined]
  rfl

theorem equalityLaws_primitive (present : left.isNullInstance = false)
    (present' : right.isNullInstance = false) (equatable : AreEquatable left right) :
    EqualityLaws (Machine.executeBinary invokeOperatorMethod) left right := by
  obtain ⟨equal,known,known'⟩ := executeCompareEqual_equatable present present' equatable
  have equals : Machine.executeBinary invokeOperatorMethod .equalsOperator left right = .ok (.boolean equal) :=
    (executeBinary_comparison invokeOperatorMethod _ present present' rfl).1 _ known
  have equals' : Machine.executeBinary invokeOperatorMethod .equalsOperator right left = .ok (.boolean equal) :=
    (executeBinary_comparison invokeOperatorMethod _ present' present rfl).1 _ known'
  have differs : executeBinary .notEqualsOperator left right = .ok (some (.boolean !equal)) := by
    rw [executeBinary,executeCompareNotEqual,known]
    rfl
  constructor
  · exact ⟨equal,equals,(executeBinary_comparison invokeOperatorMethod _ present present' rfl).1 _ differs⟩
  · intro null
    rw [present] at null
    cases null
  · intro other
    exact absurd (present.trans present'.symm) other
  · rw [equals,equals']

theorem equalityLaws_declined (present : left.isNullInstance = false)
    (present' : right.isNullInstance = false) (other : ¬ AreEquatable left right) :
    EqualityLaws (Machine.executeBinary invokeOperatorMethod) left right ↔
      EqualityLaws (fun operator left right => invokeOperatorMethod operator [left,right]) left right := by
  have declined := executeCompareEqual_declined present present' other
  have declined' := executeCompareEqual_declined present' present fun equatable => other equatable.symm
  have equals := (executeBinary_comparison invokeOperatorMethod .equalsOperator present present' rfl).2
    declined
  have equals' := (executeBinary_comparison invokeOperatorMethod .equalsOperator present' present rfl).2
    declined'
  have differs : Machine.executeBinary invokeOperatorMethod .notEqualsOperator left right =
      invokeOperatorMethod .notEqualsOperator [left,right] := by
    refine (executeBinary_comparison invokeOperatorMethod _ present present' rfl).2 ?_
    rw [executeBinary,executeCompareNotEqual,declined]
    rfl
  constructor
  · intro laws
    obtain ⟨opposite,nulls,null,symmetric⟩ := laws
    rw [equals,differs] at opposite
    rw [equals] at nulls null
    rw [equals,equals'] at symmetric
    exact ⟨opposite,nulls,null,symmetric⟩
  · intro laws
    obtain ⟨opposite,nulls,null,symmetric⟩ := laws
    constructor
    · rw [equals,differs]
      exact opposite
    · rw [equals]
      exact nulls
    · rw [equals]
      exact null
    · rw [equals,equals']
      exact symmetric

/-- `==` and `!=` are lawful if and only if both operands are there and a primitive operator compares them, or the
user's operators are lawful for them. -/
theorem equality_lawful (left right : Instance Double) :
    EqualityLaws (Machine.executeBinary invokeOperatorMethod) left right ↔
      left.isNullInstance = false ∧ right.isNullInstance = false ∧ (AreEquatable left right ∨
        EqualityLaws (fun operator left right => invokeOperatorMethod operator [left,right]) left right) := by
  constructor
  · intro laws
    have present : left.isNullInstance = false ∧ right.isNullInstance = false := by
      rw [← Bool.or_eq_false_iff,Bool.or_comm]
      by_contra null
      rw [Bool.not_eq_false] at null
      -- Both operators give `false` with a null operand.
      obtain ⟨equal,equals,differs⟩ := laws.opposite
      rw [Machine.executeBinary,if_pos null] at equals differs
      cases equals
      cases differs
    refine ⟨present.1,present.2,or_iff_not_imp_left.2 fun other => ?_⟩
    exact (equalityLaws_declined invokeOperatorMethod present.1 present.2 other).1 laws
  · intro known
    obtain ⟨present,present',equatable | laws⟩ := known
    · exact equalityLaws_primitive invokeOperatorMethod present present' equatable
    · by_cases equatable : AreEquatable left right
      · exact equalityLaws_primitive invokeOperatorMethod present present' equatable
      · exact (equalityLaws_declined invokeOperatorMethod present present' equatable).2 laws

/-- Two nulls are neither equal nor different. -/
theorem null_not_equal :
    ¬ EqualityLaws (Machine.executeBinary noOperatorMethod) (.null : Instance Int64) .null ∧
      Machine.executeBinary noOperatorMethod .equalsOperator .null .null = .ok (.boolean false) ∧
      Machine.executeBinary noOperatorMethod .notEqualsOperator (.integer 1) .null = .ok (.boolean false) := by
  refine ⟨fun laws => ?_,rfl,rfl⟩
  cases laws.nulls rfl rfl

end ShardScript.Primitive
