import ShardScript.Primitive.Math

/-! A cast that goes by way of `int`: where it gives what the direct one gives. -/
namespace ShardScript.Primitive
open Instance

def castTargets : List TypeSymbol := [.boolean,.byte,.char,.integer,.nativeInteger]

section Casts

variable {Double : Type} [FloatingPoint Double]

def isIntegral (value : Instance Double) : Bool := value.type.isIntegralType || value.type.isEnumeration

def castByInteger (targetType : TypeSymbol) (source : Instance Double) : Option (Instance Double) := do
  let number ← executeCast .integer source
  executeCast targetType number

/-- The two laws: a cast by way of `int` is the direct one, and there and back nothing is lost. -/
structure CastsCompose (targetType : TypeSymbol) (source : Instance Double) : Prop where
  direct : castByInteger targetType source = executeCast targetType source
  back : ∀ value : Instance Double, value.type = targetType → castByInteger targetType value = some value

def lacksCharacter : TypeSymbol → Bool
  | .byte | .nativeInteger => true
  | _ => false

variable {source : Instance Double}

omit [FloatingPoint Double] in
theorem isIntegral_present (integral : isIntegral source = true) :
    (source.isNullInstance || source.type.isByReference) = false := by
  cases source with
  | null | string | array | object => cases integral
  | _ => rfl

theorem executeCast_integral (integral : isIntegral source = true) :
    executeCast .integer source = some (.integer source.asInteger) := by
  have present := isIntegral_present integral
  rw [Bool.or_eq_false_iff] at present
  rw [executeCast,present.1,present.2]
  rfl

theorem castByInteger_integral (integral : isIntegral source = true)
    (targetType : TypeSymbol) :
    castByInteger targetType source = executeCast targetType (.integer source.asInteger) := by
  rw [castByInteger,executeCast_integral integral]
  rfl

theorem asBoolean_integral (integral : isIntegral source = true) :
    source.asBoolean = (source.asInteger != 0) := by
  cases source with
  | boolean | double => cases integral
  | _ => rfl

theorem character_of_number (unit : UInt16) : unit.toUInt64.toInt64.toUInt64.toUInt16 = unit := by simp

theorem byte_of_number (unit : UInt8) : unit.toUInt64.toInt64.toUInt64.toUInt8 = unit := by simp

theorem asCharacter_integral (integral : isIntegral source = true) :
    source.asCharacter = if lacksCharacter source.type then 0 else source.asInteger.toUInt64.toUInt16 := by
  cases source with
  | char unit => exact (character_of_number unit).symm
  | integer | byte | nativeInteger | enumeration => rfl
  | _ => cases integral

theorem direct_iff (integral : isIntegral source = true) {targetType : TypeSymbol}
    (target : targetType ∈ castTargets) :
    castByInteger targetType source = executeCast targetType source ↔
      ¬ (targetType = .char ∧ lacksCharacter source.type = true ∧ source.asInteger.toUInt64.toUInt16 ≠ 0) := by
  have present := isIntegral_present integral
  rw [Bool.or_eq_false_iff] at present
  rw [castByInteger_integral integral]
  have agrees : ∀ {other : TypeSymbol}, other ≠ .char →
      executeCast other (.integer source.asInteger) = executeCast other source →
      (executeCast other (.integer source.asInteger) = executeCast other source ↔
        ¬ (other = .char ∧ lacksCharacter source.type = true ∧ source.asInteger.toUInt64.toUInt16 ≠ 0)) := by
    intro other plain same
    constructor
    · intro _ fails
      exact plain fails.1
    · intro _
      exact same
  simp only [castTargets,List.mem_cons,List.not_mem_nil,or_false] at target
  rcases target with rfl | rfl | rfl | rfl | rfl
  · apply agrees (by decide)
    rw [executeCast,executeCast,present.1,present.2]
    change some (Instance.boolean _) = some (Instance.boolean _)
    rw [asBoolean_integral integral]
    rfl
  · apply agrees (by decide)
    rw [executeCast,executeCast,present.1,present.2]
    rfl
  · rw [executeCast,executeCast,present.1,present.2]
    change some (Instance.char _) = some (Instance.char _) ↔ _
    rw [asCharacter_integral integral,Option.some_inj,Instance.char.injEq]
    change source.asInteger.toUInt64.toUInt16 = _ ↔ _
    cases lacksCharacter source.type with
    | true => simp
    | false => simp
  · apply agrees (by decide)
    rw [executeCast,executeCast,present.1,present.2]
    rfl
  · apply agrees (by decide)
    rw [executeCast,executeCast,present.1,present.2]
    rfl

theorem cast_back {targetType : TypeSymbol} (target : targetType ∈ castTargets) {value : Instance Double}
    (typed : value.type = targetType) : castByInteger targetType value = some value := by
  subst typed
  cases value with
  | boolean value => cases value <;> rfl
  | byte unit => exact congrArg (fun unit => some (Instance.byte unit)) (byte_of_number unit)
  | char unit => exact congrArg (fun unit => some (Instance.char unit)) (character_of_number unit)
  | integer | nativeInteger => rfl
  | _ => simp [castTargets,Instance.type] at target

/-- The casts compose, but for those of a `byte` or of an `nint` to a character other than the one that is 0. -/
theorem castsCompose_iff {source : Instance Double} (integral : isIntegral source = true) {targetType : TypeSymbol}
    (target : targetType ∈ castTargets) :
    CastsCompose targetType source ↔
      ¬ (targetType = .char ∧ lacksCharacter source.type = true ∧ source.asInteger.toUInt64.toUInt16 ≠ 0) := by
  rw [← direct_iff integral target]
  constructor
  · intro compose
    exact compose.direct
  · intro direct
    exact ⟨direct,fun _ typed => cast_back target typed⟩

end Casts

theorem castsCompose_byte : CastsCompose .char (.byte 0 : Instance Int64) ∧ CastsCompose .boolean (.byte 65 : Instance Int64) := by
  constructor
  · apply (castsCompose_iff rfl (by decide)).2
    decide
  · apply (castsCompose_iff rfl (by decide)).2
    decide

/-- The byte 65 is no `'A'`, while the integer 65 is one. -/
theorem castsCompose_fails : ¬ ∀ (source : Instance Int64) (targetType : TypeSymbol), isIntegral source = true →
    targetType ∈ castTargets → CastsCompose targetType source := by
  intro compose
  have same := (compose (.byte 65) .char rfl (by decide)).direct
  have units : (some (.char 65) : Option (Instance Int64)) = some (.char 0) := same
  rw [Option.some_inj,Instance.char.injEq] at units
  exact absurd units (by decide)

end ShardScript.Primitive
