import Mathlib.Data.Fintype.Card
import ShardScript.Primitive.IntegerLiterals

/-! The values of enum fields, as they are collected and validated. -/
namespace ShardScript.Declarations

open Primitive

section Collection

structure NumberWord where
  word : List Char
  leading : word.head?.any (isDigit 10) = true := by decide

inductive InitializerExpression where
  | numberLiteral (literal : NumberWord)
  | other

structure EnumField where
  identifier : String
  initializer : Option InitializerExpression

structure EnumDeclaration where
  name : String
  isFlags : Bool
  fields : List EnumField

/-- What the operations give that are undefined: an increment of the largest number and a shift by 64 or more. -/
structure Undefined where
  successor : Int64
  shifted : Nat → Int64

structure FieldSymbol where
  name : String
  enumValue : Int64

/-- `ReadEnumFieldValue`, where `stoll` is called with the base 10 and what it leaves is not looked at. -/
def readEnumFieldValue : InitializerExpression → Option Int64
  | .numberLiteral literal =>
      match stoll literal.word 10 with
      | .converted raw _ => some raw
      | _ => none
  | .other => none

variable (undefined : Undefined)

def increment (previousValue : Int64) : Int64 :=
  if previousValue = Int64.maxValue then undefined.successor else previousValue + 1

def shiftOne (i : Nat) : Int64 := if i < 64 then 1 <<< Int64.ofNat i else undefined.shifted i

def fieldValue (isFlags : Bool) (i : Nat) (previousValue : Int64) (field : EnumField) : Except String Int64 :=
  match field.initializer with
  | some initializer =>
      if isFlags then .error "Flags enum fields cannot have initializers."
      else match readEnumFieldValue initializer with
        | some value => .ok value
        | none => .error "Enum field initializer must be a constant integer literal"
  | none =>
      if isFlags then .ok (shiftOne undefined i)
      else .ok (if i = 0 then 0 else increment undefined previousValue)

/-- The loop of `VisitEnumDeclaration`: the fields that are declared, and the diagnostics with the fields they are about. -/
@[grind] def collectFields (isFlags : Bool) : Nat → Int64 → List EnumField → List FieldSymbol × List (String × String)
  | _,_,[] => ([],[])
  | i,previousValue,field :: fields =>
      match fieldValue undefined isFlags i previousValue field with
      | .ok value =>
          let (symbols,diagnostics) := collectFields isFlags (i + 1) value fields
          (⟨field.identifier,value⟩ :: symbols,diagnostics)
      | .error message =>
          let (symbols,diagnostics) := collectFields isFlags (i + 1) previousValue fields
          (symbols,(field.identifier,message) :: diagnostics)

def visitEnumDeclaration (declaration : EnumDeclaration) : List FieldSymbol × List (String × String) :=
  collectFields undefined declaration.isFlags 0 0 declaration.fields

/-- What `ExpressionBinder` reports about the initializers. -/
def visitEnumFieldDeclaration (field : EnumField) : List String :=
  match field.initializer with
  | some (.numberLiteral literal) => (analyzeNumberLiteral {} literal.word none).2.2
  | _ => []

def IsReported (declaration : EnumDeclaration) : Prop :=
  (visitEnumDeclaration undefined declaration).2 ≠ [] ∨ declaration.fields.flatMap visitEnumFieldDeclaration ≠ []

def duplicateMessage (name : String) (first second : FieldSymbol) : String :=
  "Enum '" ++ name ++ "' has duplicate value " ++ toString second.enumValue ++ " on fields '" ++ first.name ++ "' and '" ++
    second.name ++ "'"

/-- The loop of `ValidateEnumValues`, with the fields that have been seen. -/
def validateFields (name : String) : List FieldSymbol → List FieldSymbol → List String
  | _,[] => []
  | seen,field :: fields =>
      match seen.find? (·.enumValue == field.enumValue) with
      | some first => duplicateMessage name first field :: validateFields name seen fields
      | none => validateFields name (seen ++ [field]) fields

def validateEnumValues (declaration : EnumDeclaration) (fields : List FieldSymbol) : List String :=
  if declaration.isFlags then [] else validateFields declaration.name [] fields

end Collection

section Meaning

/-- The values that are written: the number of a literal, and one more than the last value where there is none. -/
inductive Written : Int → List EnumField → List Int64 → Prop where
  | nil {next : Int} : Written next [] []
  | literal {next : Int} {identifier : String} {literal : NumberWord} {value : Int64} {fields : List EnumField}
      {values : List Int64} : parseIntegerLiteral literal.word = .ok value → Written (value.toInt + 1) fields values →
      Written next (⟨identifier,some (.numberLiteral literal)⟩ :: fields) (value :: values)
  | implicit {next : Int} {identifier : String} {value : Int64} {fields : List EnumField} {values : List Int64} :
      value.toInt = next → Written (next + 1) fields values → Written next (⟨identifier,none⟩ :: fields) (value :: values)

structure SingleBits (values : List Int64) : Prop where
  single : ∀ value ∈ values,∃ bit < 64,value.toBitVec = BitVec.twoPow 64 bit
  unused : values.Pairwise fun earlier later => earlier &&& later = 0

/-- The constants of an enum have the values that are written, or something is reported. -/
structure HasWrittenValues (undefined : Undefined) (declaration : EnumDeclaration) : Prop where
  written : declaration.isFlags = false → ¬IsReported undefined declaration →
    Written 0 declaration.fields ((visitEnumDeclaration undefined declaration).1.map FieldSymbol.enumValue)
  single : declaration.isFlags = true → ¬IsReported undefined declaration →
    declaration.fields.length = (visitEnumDeclaration undefined declaration).1.length ∧
      SingleBits ((visitEnumDeclaration undefined declaration).1.map FieldSymbol.enumValue)
  distinct : declaration.isFlags = false →
    validateEnumValues declaration (visitEnumDeclaration undefined declaration).1 = [] →
    ((visitEnumDeclaration undefined declaration).1.map FieldSymbol.enumValue).Nodup

def IsPlain (word : List Char) : Prop := (∀ symbol ∈ word,isDigit 10 symbol = true) ∨ Denotes word 0

def leadingNumber (word : List Char) : Nat := numeral 10 (word.takeWhile (isDigit 10))

def Rejected (isFlags : Bool) (field : EnumField) : Prop :=
  match field.initializer with
  | none => False
  | some (.numberLiteral literal) => isFlags = true ∨ 2 ^ 63 ≤ leadingNumber literal.word
  | some .other => True

def Malformed (field : EnumField) : Prop :=
  match field.initializer with
  | some (.numberLiteral literal) => ¬∃ value < 2 ^ 63,Denotes literal.word value
  | _ => False

@[grind] def CountsOn : Int → List EnumField → Prop
  | _,[] => True
  | next,field :: fields =>
      match field.initializer with
      | some (.numberLiteral literal) => CountsOn (leadingNumber literal.word + 1) fields
      | _ => next < 2 ^ 63 ∧ CountsOn (next + 1) fields

end Meaning

section Literals

theorem readEnumFieldValue_number (literal : NumberWord) : readEnumFieldValue (.numberLiteral literal) =
    if 2 ^ 63 ≤ leadingNumber literal.word then none else some (Int64.ofNat (leadingNumber literal.word)) := by
  obtain ⟨word,leading⟩ := literal
  have present : word.takeWhile (isDigit 10) ≠ [] := by
    cases word with
    | nil => cases leading
    | cons symbol rest =>
        have digit : isDigit 10 symbol = true := leading
        rw [List.takeWhile_cons_of_pos digit]
        exact List.cons_ne_nil _ _
  have bound : Int64.maxValue.toInt < ((leadingNumber word : Nat) : Int) ↔ 2 ^ 63 ≤ leadingNumber word := by
    change (2 ^ 63 - 1 : Int) < _ ↔ _
    omega
  rw [readEnumFieldValue,stoll,numeral_foldl,if_neg present]
  change (match if Int64.maxValue.toInt < ((leadingNumber word : Nat) : Int) then Conversion.outOfRange
    else .converted (Int64.ofNat (leadingNumber word)) _ with
    | .converted raw _ => some raw
    | _ => none) = _
  by_cases large : 2 ^ 63 ≤ leadingNumber word
  · rw [if_pos (bound.mpr large),if_pos large]
  · rw [if_neg (mt bound.mp large),if_neg large]

theorem takeWhile_digits {digits trail : List Char} {multiplier : Nat} (valid : ∀ symbol ∈ digits,isDigit 10 symbol = true)
    (known : VolumeSuffix trail multiplier) : (digits ++ trail).takeWhile (isDigit 10) = digits := by
  rw [List.takeWhile_append_of_pos valid]
  cases known with
  | none => rw [List.takeWhile_nil,List.append_nil]
  | bytes known _ =>
      rw [List.takeWhile_cons_of_neg (by rw [isDigit_letter known (by decide)]; decide),List.append_nil]

theorem leadingNumber_prefixed {letter : Char} (base : letter ∈ ['x','X','d','D','b','B']) (rest : List Char) :
    leadingNumber ('0' :: letter :: rest) = 0 := by
  rw [leadingNumber,List.takeWhile_cons_of_pos (by decide),
    List.takeWhile_cons_of_neg (by rw [baseLetter_not_digit base]; decide)]
  rfl

theorem denotes_digits {word : List Char} (present : word ≠ []) (valid : ∀ symbol ∈ word,isDigit 10 symbol = true) :
    Denotes word (leadingNumber word) := by
  refine ⟨[],word,[],10,1,⟨.none,.none,present,valid⟩,by simp,?_⟩
  rw [leadingNumber,List.takeWhile_eq_self_iff.mpr valid,Nat.mul_one]

theorem two_le_multiplier {trail : List Char} {multiplier : Nat} (known : VolumeSuffix trail multiplier)
    (present : trail ≠ []) : 2 ≤ multiplier := by
  cases known with
  | none => exact absurd rfl present
  | bytes known _ => exact Nat.le_self_pow (Nat.one_le_iff_ne_zero.mp (exponent_of_letter known).1) 2

theorem leadingNumber_denotes {word : List Char} {value : Nat} (denotes : Denotes word value) :
    leadingNumber word = value ↔ (∀ symbol ∈ word,isDigit 10 symbol = true) ∨ value = 0 := by
  obtain ⟨lead,digits,trail,base,multiplier,⟨known,suffix,present,valid⟩,rfl,rfl⟩ := denotes
  have prefixed {letter : Char} (base' : letter ∈ ['x','X','d','D','b','B']) (number : Nat) :
      leadingNumber (['0',letter] ++ (digits ++ trail)) = number ↔
        (∀ symbol ∈ ['0',letter] ++ (digits ++ trail),isDigit 10 symbol = true) ∨ number = 0 := by
    have zero : leadingNumber (['0',letter] ++ (digits ++ trail)) = 0 := leadingNumber_prefixed base' _
    have other : ¬∀ symbol ∈ ['0',letter] ++ (digits ++ trail),isDigit 10 symbol = true := by
      intro every
      have digit := every letter (by simp)
      rw [baseLetter_not_digit base'] at digit
      cases digit
    rw [zero,or_iff_right other]
    exact eq_comm
  cases known with
  | hexadecimal letter => exact prefixed (by rcases letter with rfl | rfl <;> decide) _
  | decimal letter => exact prefixed (by rcases letter with rfl | rfl <;> decide) _
  | binary letter => exact prefixed (by rcases letter with rfl | rfl <;> decide) _
  | none =>
      rw [List.nil_append,leadingNumber,takeWhile_digits valid suffix]
      cases suffix with
      | none =>
          rw [List.append_nil,Nat.mul_one]
          exact ⟨fun _ => .inl valid,fun _ => rfl⟩
      | @bytes letter last exponent known ends =>
          have two : 2 ≤ 2 ^ exponent := two_le_multiplier (.bytes known ends) (List.cons_ne_nil _ _)
          have other : ¬∀ symbol ∈ digits ++ [letter,last],isDigit 10 symbol = true := by
            intro every
            have digit := every letter (by simp)
            rw [isDigit_letter known (by decide)] at digit
            cases digit
          simp only [other,false_or]
          constructor
          · intro same
            have small : numeral 10 digits * 2 ≤ numeral 10 digits * 2 ^ exponent := Nat.mul_le_mul_left _ two
            omega
          · intro zero
            rcases Nat.mul_eq_zero.mp zero with none | none
            · rw [none,Nat.zero_mul]
            · exact absurd none (by positivity)

theorem parseIntegerLiteral_iff_plain {literal : NumberWord} (small : leadingNumber literal.word < 2 ^ 63) :
    parseIntegerLiteral literal.word = .ok (Int64.ofNat (leadingNumber literal.word)) ↔ IsPlain literal.word := by
  constructor
  · intro parsed
    obtain ⟨value,denotes,fits,same⟩ := parseIntegerLiteral_iff.mp parsed
    have numbers := congrArg Int64.toInt same
    rw [toInt_of_small small,toInt_of_small fits,Int.natCast_inj] at numbers
    rcases (leadingNumber_denotes denotes).mp numbers with every | rfl
    · exact .inl every
    · exact .inr denotes
  · rintro (every | zero)
    · have present : literal.word ≠ [] := by
        intro none
        have leading := literal.leading
        rw [none] at leading
        cases leading
      exact parseIntegerLiteral_small (denotes_digits present every) small
    · rw [(leadingNumber_denotes zero).mpr (.inr rfl)]
      exact parseIntegerLiteral_small zero (by decide)

end Literals

section Values

variable {undefined : Undefined}

theorem fieldValue_error {isFlags : Bool} {i : Nat} {previousValue : Int64} {field : EnumField} :
    (∃ message,fieldValue undefined isFlags i previousValue field = .error message) ↔ Rejected isFlags field := by
  obtain ⟨identifier,initializer⟩ := field
  cases initializer with
  | none => cases isFlags <;> simp [fieldValue,Rejected]
  | some initializer =>
      cases isFlags with
      | true => cases initializer <;> simp [fieldValue,Rejected]
      | false =>
          cases initializer with
          | other => simp [fieldValue,Rejected,readEnumFieldValue]
          | numberLiteral literal =>
              by_cases large : 2 ^ 63 ≤ leadingNumber literal.word
              · simp only [fieldValue,Rejected,readEnumFieldValue_number,if_pos large]
                simpa using large
              · simp only [fieldValue,Rejected,readEnumFieldValue_number,if_neg large]
                simpa using large

theorem visitEnumFieldDeclaration_eq_nil (field : EnumField) : visitEnumFieldDeclaration field = [] ↔ ¬Malformed field := by
  unfold visitEnumFieldDeclaration Malformed
  split
  · rw [analyzeNumberLiteral_reported,not_not]
    simp only [parseIntegerLiteral_iff]
    constructor
    · rintro ⟨number,value,denotes,small,-⟩
      exact ⟨value,small,denotes⟩
    · rintro ⟨value,small,denotes⟩
      exact ⟨_,value,denotes,small,rfl⟩
  · simp

theorem collectFields_diagnostics {isFlags : Bool} (fields : List EnumField) (i : Nat) (previousValue : Int64) :
    (collectFields undefined isFlags i previousValue fields).2 = [] ↔ ∀ field ∈ fields,¬Rejected isFlags field := by
  induction fields generalizing i previousValue with
  | nil => simp [collectFields]
  | cons field fields ih =>
      have rejected := @fieldValue_error undefined isFlags i previousValue field
      rw [collectFields,List.forall_mem_cons,← rejected]
      cases fieldValue undefined isFlags i previousValue field with
      | ok value => simpa using ih (i + 1) value
      | error message => simp

theorem written_implicit {next : Int} {identifier : String} {value : Int64} {fields : List EnumField} {values : List Int64} :
    Written next (⟨identifier,none⟩ :: fields) (value :: values) ↔ value.toInt = next ∧ Written (next + 1) fields values := by
  constructor
  · intro written
    cases written with
    | implicit same rest => exact ⟨same,rest⟩
  · rintro ⟨same,rest⟩
    exact .implicit same rest

theorem written_literal {next : Int} {identifier : String} {literal : NumberWord} {value : Int64} {fields : List EnumField}
    {values : List Int64} :
    Written next (⟨identifier,some (.numberLiteral literal)⟩ :: fields) (value :: values) ↔
      parseIntegerLiteral literal.word = .ok value ∧ Written (value.toInt + 1) fields values := by
  constructor
  · intro written
    cases written with
    | literal parsed rest => exact ⟨parsed,rest⟩
  · rintro ⟨parsed,rest⟩
    exact .literal parsed rest

theorem toInt_counted {i : Nat} {previousValue : Int64} {next : Int}
    (counted : next = if i = 0 then 0 else previousValue.toInt + 1) (fits : next < 2 ^ 63) :
    (if i = 0 then 0 else increment undefined previousValue).toInt = next := by
  subst counted
  split_ifs at fits ⊢ with first
  · rfl
  · have other : previousValue ≠ Int64.maxValue := by
      rintro rfl
      exact absurd fits (by decide)
    have bound := previousValue.le_toInt
    rw [increment,if_neg other,Int64.toInt_add,Int64.toInt_one]
    refine Int.bmod_eq_of_le ?_ ?_
    · omega
    · omega

theorem written_iff (fields : List EnumField) (i : Nat) (previousValue : Int64) (next : Int)
    (counted : next = if i = 0 then 0 else previousValue.toInt + 1) (accepted : ∀ field ∈ fields,¬Rejected false field) :
    Written next fields ((collectFields undefined false i previousValue fields).1.map FieldSymbol.enumValue) ↔
      (∀ identifier literal,⟨identifier,some (.numberLiteral literal)⟩ ∈ fields → IsPlain literal.word) ∧
        CountsOn next fields := by
  induction fields generalizing i previousValue next with
  | nil => simp [collectFields,CountsOn,Written.nil]
  | cons field fields ih =>
      obtain ⟨here,rest⟩ := List.forall_mem_cons.mp accepted
      obtain ⟨identifier,initializer⟩ := field
      cases initializer with
      | none =>
          -- where the count goes too far, no value at all is the next one
          have head : fieldValue undefined false i previousValue ⟨identifier,none⟩ =
              .ok (if i = 0 then 0 else increment undefined previousValue) := rfl
          rw [collectFields,head]
          simp only [List.map_cons,CountsOn,List.mem_cons,EnumField.mk.injEq,reduceCtorEq,and_false,false_or]
          by_cases fits : next < 2 ^ 63
          · have value := @toInt_counted undefined _ _ _ counted fits
            rw [written_implicit,ih (i + 1) _ (next + 1) (by rw [if_neg (Nat.succ_ne_zero i),value]) rest]
            simp only [value,fits,true_and]
          · rw [written_implicit]
            simp only [fits,false_and,and_false,iff_false,not_and]
            intro same
            exact absurd (same ▸ Int64.toInt_lt _) fits
      | some initializer =>
          cases initializer with
          | other => exact absurd trivial here
          | numberLiteral literal =>
              have small : leadingNumber literal.word < 2 ^ 63 := by
                simpa [Rejected] using here
              have head : fieldValue undefined false i previousValue ⟨identifier,some (.numberLiteral literal)⟩ =
                  .ok (Int64.ofNat (leadingNumber literal.word)) := by
                simp only [fieldValue,readEnumFieldValue_number,if_neg (Nat.not_le.mpr small)]
                rfl
              rw [collectFields,head]
              simp only [List.map_cons,CountsOn,List.mem_cons,EnumField.mk.injEq,Option.some.injEq,
                InitializerExpression.numberLiteral.injEq]
              rw [written_literal,toInt_of_small small,parseIntegerLiteral_iff_plain small,
                ih (i + 1) _ _ (by rw [if_neg (Nat.succ_ne_zero i),toInt_of_small small]) rest]
              constructor
              · rintro ⟨plain,every,counts⟩
                refine ⟨?_,counts⟩
                rintro identifier' literal' (⟨rfl,rfl⟩ | member)
                · exact plain
                · exact every identifier' literal' member
              · rintro ⟨every,counts⟩
                exact ⟨every identifier literal (.inl ⟨rfl,rfl⟩),
                  fun identifier' literal' member => every identifier' literal' (.inr member),counts⟩

theorem collectFields_flags (fields : List EnumField) (i : Nat) (previousValue : Int64)
    (accepted : ∀ field ∈ fields,¬Rejected true field) :
    (collectFields undefined true i previousValue fields).1.map FieldSymbol.enumValue =
      (List.range' i fields.length).map (shiftOne undefined) := by
  induction fields generalizing i previousValue with
  | nil => rfl
  | cons field fields ih =>
      obtain ⟨here,rest⟩ := List.forall_mem_cons.mp accepted
      obtain ⟨identifier,initializer⟩ := field
      cases initializer with
      | none =>
          have head : fieldValue undefined true i previousValue ⟨identifier,none⟩ = .ok (shiftOne undefined i) := rfl
          rw [collectFields,head,List.length_cons,List.range'_succ,List.map_cons]
          simp only [List.map_cons,ih (i + 1) (shiftOne undefined i) rest]
      | some initializer => cases initializer <;> simp [Rejected] at here

theorem length_collectFields {isFlags : Bool} (fields : List EnumField) (i : Nat) (previousValue : Int64)
    (accepted : ∀ field ∈ fields,¬Rejected isFlags field) :
    (collectFields undefined isFlags i previousValue fields).1.length = fields.length := by
  induction fields generalizing i previousValue with
  | nil => rfl
  | cons field fields ih =>
      obtain ⟨here,rest⟩ := List.forall_mem_cons.mp accepted
      rw [collectFields]
      cases known : fieldValue undefined isFlags i previousValue field with
      | ok value => rw [List.length_cons,List.length_cons,ih (i + 1) value rest]
      | error message => exact absurd (fieldValue_error.mp ⟨message,known⟩) here

end Values

section Flags

variable {undefined : Undefined}

theorem toBitVec_shiftOne {i : Nat} (small : i < 64) : (shiftOne undefined i).toBitVec = BitVec.twoPow 64 i := by
  have every : ∀ i < 64,((1 : Int64) <<< Int64.ofNat i).toBitVec = BitVec.twoPow 64 i := by decide
  rw [shiftOne,if_pos small]
  exact every i small

theorem twoPow_ne_zero {bit : Nat} (small : bit < 64) : BitVec.twoPow 64 bit ≠ 0 := by
  intro zero
  have off := congrArg (·.getLsbD bit) zero
  simp [small] at off

theorem twoPow_and {bit bit' : Nat} (different : bit ≠ bit') : BitVec.twoPow 64 bit &&& BitVec.twoPow 64 bit' = 0 := by
  ext index inside
  simp only [BitVec.getElem_and,BitVec.getElem_twoPow,BitVec.ofNat_eq_ofNat,BitVec.getElem_zero,Bool.and_eq_false_iff,
    decide_eq_false_iff_not]
  omega

theorem SingleBits.length_le {values : List Int64} (bits : SingleBits values) : values.length ≤ 64 := by
  have distinct : (values.map Int64.toBitVec).Nodup := by
    rw [List.Nodup,List.pairwise_map]
    refine bits.unused.imp_of_mem fun {earlier later} member _ apart same => ?_
    obtain ⟨bit,small,single⟩ := bits.single earlier member
    have itself := congrArg Int64.toBitVec apart
    rw [Int64.toBitVec_and,← same,BitVec.and_self,single] at itself
    exact twoPow_ne_zero small itself
  have within : values.map Int64.toBitVec ⊆ (List.range 64).map (BitVec.twoPow 64) := by
    intro pattern member
    obtain ⟨value,inside,rfl⟩ := List.mem_map.mp member
    obtain ⟨bit,small,single⟩ := bits.single value inside
    exact List.mem_map.mpr ⟨bit,List.mem_range.mpr small,single.symm⟩
  have length := (distinct.subperm within).length_le
  rwa [List.length_map,List.length_map,List.length_range] at length

theorem singleBits_iff (size : Nat) : SingleBits ((List.range' 0 size).map (shiftOne undefined)) ↔ size ≤ 64 := by
  constructor
  · intro bits
    have length := bits.length_le
    rwa [List.length_map,List.length_range'] at length
  · intro few
    constructor
    · intro value member
      obtain ⟨i,inside,rfl⟩ := List.mem_map.mp member
      have small : i < 64 := by
        rw [List.mem_range'_1] at inside
        omega
      exact ⟨i,small,toBitVec_shiftOne small⟩
    · rw [List.pairwise_map]
      refine List.Pairwise.imp_of_mem (fun {i j} member member' less => ?_) List.pairwise_lt_range'
      rw [List.mem_range'_1] at member member'
      apply Int64.toBitVec_inj.mp
      rw [Int64.toBitVec_and,toBitVec_shiftOne (by omega),toBitVec_shiftOne (by omega)]
      exact twoPow_and (Nat.ne_of_lt less)

end Flags

section Validation

theorem validateFields_eq (name : String) (fields : List FieldSymbol) {seen earlier : List FieldSymbol}
    (same : ∀ value : Int64,seen.find? (·.enumValue == value) = earlier.find? (·.enumValue == value)) :
    validateFields name seen fields = (fields.zipIdx earlier.length).filterMap fun (field,place) =>
      (((earlier ++ fields).take place).find? (·.enumValue == field.enumValue)).map (duplicateMessage name · field) := by
  induction fields generalizing seen earlier with
  | nil => rfl
  | cons field fields ih =>
      have later : earlier ++ field :: fields = earlier ++ [field] ++ fields := by simp
      have size : earlier.length + 1 = (earlier ++ [field]).length := by rw [List.length_append,List.length_singleton]
      rw [validateFields,List.zipIdx_cons,List.filterMap_cons]
      simp only [List.take_left,← same]
      cases found : seen.find? (·.enumValue == field.enumValue) with
      | some first =>
          simp only [Option.map_some,later,size]
          refine congrArg _ (ih fun value => ?_)
          rw [same,List.find?_append]
          cases known : earlier.find? (·.enumValue == value) with
          | some => rfl
          | none =>
              rw [Option.none_or,List.find?_singleton,if_neg]
              intro equal
              rw [same,beq_iff_eq.mp equal,known] at found
              cases found
      | none =>
          simp only [Option.map_none,later,size]
          refine ih fun value => ?_
          rw [List.find?_append,List.find?_append,same]

/-- Each field with a value that a field in front of it has is reported once, with the first of those, and no other field is. -/
theorem validateEnumValues_eq (declaration : EnumDeclaration) (fields : List FieldSymbol) :
    validateEnumValues declaration fields = if declaration.isFlags then [] else
      fields.zipIdx.filterMap fun (field,place) =>
        ((fields.take place).find? (·.enumValue == field.enumValue)).map (duplicateMessage declaration.name · field) := by
  rw [validateEnumValues]
  split
  · rfl
  · exact validateFields_eq declaration.name fields fun _ => rfl

theorem validateFields_eq_nil {name : String} (fields seen : List FieldSymbol) (quiet : validateFields name seen fields = [])
    (distinct : (seen.map FieldSymbol.enumValue).Nodup) : ((seen ++ fields).map FieldSymbol.enumValue).Nodup := by
  induction fields generalizing seen with
  | nil => rwa [List.append_nil]
  | cons field fields ih =>
      rw [validateFields] at quiet
      cases found : seen.find? (·.enumValue == field.enumValue) with
      | some first =>
          rw [found] at quiet
          cases quiet
      | none =>
          rw [found] at quiet
          rw [List.append_cons]
          apply ih _ quiet
          rw [List.map_append,List.nodup_append]
          refine ⟨distinct,List.nodup_singleton _,?_⟩
          intro value member value' single same
          obtain ⟨earlier,inside,rfl⟩ := List.mem_map.mp member
          rw [List.map_singleton,List.mem_singleton] at single
          have differs := List.find?_eq_none.mp found earlier inside
          rw [same,single] at differs
          exact differs (beq_self_eq_true _)

end Validation

section Verdict

def IsReadAsWritten (declaration : EnumDeclaration) : Prop :=
  (∃ field ∈ declaration.fields,Rejected declaration.isFlags field ∨ Malformed field) ∨
    if declaration.isFlags = true then declaration.fields.length ≤ 64
    else (∀ identifier literal,⟨identifier,some (.numberLiteral literal)⟩ ∈ declaration.fields → IsPlain literal.word) ∧
      CountsOn 0 declaration.fields

/-- The constants of an enum have the values that are written exactly if something is reported, or no literal has a base or a
volume and nothing goes beyond the 64 bits. -/
theorem hasWrittenValues_iff (undefined : Undefined) (declaration : EnumDeclaration) :
    HasWrittenValues undefined declaration ↔ IsReadAsWritten declaration := by
  have distinct : declaration.isFlags = false →
      validateEnumValues declaration (visitEnumDeclaration undefined declaration).1 = [] →
      ((visitEnumDeclaration undefined declaration).1.map FieldSymbol.enumValue).Nodup := by
    intro plain quiet
    rw [validateEnumValues,plain] at quiet
    exact validateFields_eq_nil _ [] quiet List.nodup_nil
  have reported : IsReported undefined declaration ↔
      ∃ field ∈ declaration.fields,Rejected declaration.isFlags field ∨ Malformed field := by
    rw [IsReported,visitEnumDeclaration,Ne,collectFields_diagnostics,Ne,List.flatMap_eq_nil_iff]
    simp only [visitEnumFieldDeclaration_eq_nil]
    push Not
    simp only [and_or_left,exists_or]
  by_cases rejected : ∃ field ∈ declaration.fields,Rejected declaration.isFlags field ∨ Malformed field
  · have loud := reported.mpr rejected
    exact ⟨fun _ => .inl rejected,fun _ =>
      ⟨fun _ quiet => absurd loud quiet,fun _ quiet => absurd loud quiet,distinct⟩⟩
  · have quiet := mt reported.mp rejected
    have accepted : ∀ field ∈ declaration.fields,¬Rejected declaration.isFlags field := fun field member here =>
      rejected ⟨field,member,.inl here⟩
    rw [IsReadAsWritten,or_iff_right rejected]
    obtain ⟨name,isFlags,fields⟩ := declaration
    cases isFlags with
    | false =>
        have written := @written_iff undefined fields 0 0 0 rfl accepted
        rw [if_neg Bool.false_ne_true,← written]
        exact ⟨fun values => values.written rfl quiet,fun written => ⟨fun _ _ => written,nofun,distinct⟩⟩
    | true =>
        have bits := @singleBits_iff undefined fields.length
        rw [if_pos rfl,← bits,← collectFields_flags fields 0 0 accepted]
        exact ⟨fun values => (values.single rfl quiet).2,fun single =>
          ⟨nofun,fun _ _ => ⟨(length_collectFields fields 0 0 accepted).symm,single⟩,distinct⟩⟩

def hexadecimalEnum : EnumDeclaration := ⟨"E",false,[⟨"A",some (.numberLiteral ⟨['0','x','1','0'],by decide⟩)⟩]⟩

/-- Its constant is zero. -/
theorem not_hasWrittenValues : ¬∀ undefined declaration,HasWrittenValues undefined declaration := by
  intro every
  have quiet : ¬IsReported ⟨0,fun _ => 0⟩ hexadecimalEnum := by
    rw [IsReported,not_or,not_not,not_not]
    exact ⟨rfl,by decide⟩
  have written := (every ⟨0,fun _ => 0⟩ hexadecimalEnum).written rfl quiet
  have parsed := (written_literal.mp written).1
  have sixteen : parseIntegerLiteral ['0','x','1','0'] = .ok 16 := by decide
  rw [sixteen,Except.ok.injEq] at parsed
  exact absurd parsed (by decide)

end Verdict

end ShardScript.Declarations
