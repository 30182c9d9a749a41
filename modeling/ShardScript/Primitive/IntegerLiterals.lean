import Mathlib.Data.Nat.Digits.Defs
import ShardScript.Primitive.Machine

/-! The words of numbers, from what the binder reads in them to what is on the stack. -/
namespace ShardScript.Primitive
open Library Semantic

def isValidIntegerDigit (symbol : Char) (base : Nat) : Bool :=
  if '0' ≤ symbol ∧ symbol ≤ '1' then decide (2 ≤ base)
  else if '2' ≤ symbol ∧ symbol ≤ '9' then decide (10 ≤ base)
  else if ('a' ≤ symbol ∧ symbol ≤ 'f') ∨ ('A' ≤ symbol ∧ symbol ≤ 'F') then decide (16 ≤ base)
  else false

def tryParseBasePrefix : List Char → Nat × Nat
  | '0' :: 'x' :: _ | '0' :: 'X' :: _ => (16,2)
  | '0' :: 'd' :: _ | '0' :: 'D' :: _ => (10,2)
  | '0' :: 'b' :: _ | '0' :: 'B' :: _ => (2,2)
  | _ => (10,0)

def volumeLetter : Char → Option Nat
  | 'k' | 'K' => some 10
  | 'm' | 'M' => some 20
  | 'g' | 'G' => some 30
  | 't' | 'T' => some 40
  | 'p' | 'P' => some 50
  | _ => none

def tryParseVolumeSuffix (word : List Char) : Nat × Nat :=
  match word.drop (word.length - 2) with
  | [first,second] =>
      if second ≠ 'B' ∧ second ≠ 'b' then (1,0)
      else match volumeLetter first with
      | some exponent => (2 ^ exponent,2)
      | none => (1,0)
  | _ => (1,0)

def digitValue (symbol : Char) : Option Nat :=
  if '0' ≤ symbol ∧ symbol ≤ '9' then some (symbol.toNat - 48)
  else if 'a' ≤ symbol ∧ symbol ≤ 'z' then some (symbol.toNat - 87)
  else if 'A' ≤ symbol ∧ symbol ≤ 'Z' then some (symbol.toNat - 55)
  else none

def isDigit (base : Nat) (symbol : Char) : Bool := (digitValue symbol).any (· < base)

inductive Conversion where
  | invalidArgument
  | outOfRange
  | converted (raw : Int64) (pos : Nat)

/-- A text that has neither a sign nor spaces in front, converted as far as it consists of digits. -/
def stoll (text : List Char) (base : Nat) : Conversion :=
  let digits := text.takeWhile (isDigit base)
  let value := digits.foldl (fun value symbol => value * base + (digitValue symbol).getD 0) 0
  if digits = [] then .invalidArgument
  else if Int64.maxValue.toInt < value then .outOfRange
  else .converted (Int64.ofNat value) digits.length

def parseNumPart (base multiplier : Nat) (numPart : List Char) : Except String Int64 :=
  if !numPart.all (isValidIntegerDigit · base) then .error "Invalid characters in number"
  else match stoll numPart base with
  | .invalidArgument => .error "Invalid number format"
  | .outOfRange => .error "Number out of range"
  | .converted raw pos =>
      if pos ≠ numPart.length then .error "Invalid number format"
      else if 1 < multiplier then
        if Int64.maxValue / Int64.ofNat multiplier < raw then .error "Multiplication overflow"
        else .ok (raw * Int64.ofNat multiplier)
      else .ok raw

def parseIntegerLiteral (word : List Char) : Except String Int64 :=
  let (base,prefixLength) := tryParseBasePrefix word
  let (multiplier,suffixLength) := tryParseVolumeSuffix (word.drop prefixLength)
  parseNumPart base multiplier ((word.drop prefixLength).take (word.length - prefixLength - suffixLength))

structure LiteralSymbol where
  asIntegerValue : Int64 := 0
  boundType : Option TypeSymbol := none

/-- The value is stored if the word is one of a number, and something is reported if it is not. -/
def storeValue (symbol : LiteralSymbol) (word : List Char) : LiteralSymbol × List String :=
  match parseIntegerLiteral word with
  | .ok value => ({ symbol with asIntegerValue := value },[])
  | .error error => (symbol,[error])

/-- What is known about a literal when it was looked at, the type of its expression, and what is reported. -/
@[grind] def analyzeNumberLiteral (symbol : LiteralSymbol) (word : List Char) (expectedType : Option TypeSymbol) :
    LiteralSymbol × TypeSymbol × List String :=
  let stored := storeValue symbol word
  match expectedType with
  | some .byte => ({ stored.1 with boundType := some .byte },.byte,stored.2)
  | some .nativeInteger => ({ stored.1 with boundType := some .nativeInteger },.nativeInteger,stored.2)
  | _ => (stored.1,.integer,stored.2)

def visitLiteralExpression {Double : Type} (symbol : LiteralSymbol) : List (Instruction Double) :=
  .loadConstInteger64 symbol.asIntegerValue ::
    match symbol.boundType with
    | some boundType => if boundType = .integer then [] else [.castPrimitive boundType]
    | none => []

/-- What an integer literal is to be: maybe a base in front, digits of it, and maybe a multiplier behind. -/
inductive BasePrefix : List Char → Nat → Prop where
  | none : BasePrefix [] 10
  | hexadecimal {letter : Char} (known : letter = 'x' ∨ letter = 'X') : BasePrefix ['0',letter] 16
  | decimal {letter : Char} (known : letter = 'd' ∨ letter = 'D') : BasePrefix ['0',letter] 10
  | binary {letter : Char} (known : letter = 'b' ∨ letter = 'B') : BasePrefix ['0',letter] 2

inductive VolumeSuffix : List Char → Nat → Prop where
  | none : VolumeSuffix [] 1
  | bytes {letter last : Char} {exponent : Nat} (known : volumeLetter letter = some exponent)
      (ends : last = 'B' ∨ last = 'b') : VolumeSuffix [letter,last] (2 ^ exponent)

def numeral (base : Nat) (digits : List Char) : Nat :=
  Nat.ofDigits base (digits.reverse.map fun symbol => (digitValue symbol).getD 0)

structure WellFormed (lead digits trail : List Char) (base multiplier : Nat) : Prop where
  lead : BasePrefix lead base
  trail : VolumeSuffix trail multiplier
  present : digits ≠ []
  digits : ∀ symbol ∈ digits, isDigit base symbol = true

def Denotes (word : List Char) (value : Nat) : Prop :=
  ∃ lead digits trail base multiplier, WellFormed lead digits trail base multiplier ∧
    word = lead ++ (digits ++ trail) ∧ value = numeral base digits * multiplier

theorem numeral_foldl (base : Nat) (digits : List Char) :
    digits.foldl (fun value symbol => value * base + (digitValue symbol).getD 0) 0 = numeral base digits := by
  rw [numeral,Nat.ofDigits_eq_foldr,List.foldl_eq_foldr_reverse,List.foldr_map]
  congr 1
  ext symbol value
  rw [Nat.mul_comm,Nat.add_comm]
  rfl

theorem base_of_prefix {lead : List Char} {base : Nat} (known : BasePrefix lead base) :
    base = 2 ∨ base = 10 ∨ base = 16 := by
  cases known with
  | none => exact .inr (.inl rfl)
  | hexadecimal => exact .inr (.inr rfl)
  | decimal => exact .inr (.inl rfl)
  | binary => exact .inl rfl

theorem isValidIntegerDigit_eq {lead : List Char} {base : Nat} (known : BasePrefix lead base) (symbol : Char) :
    isValidIntegerDigit symbol base = isDigit base symbol := by
  have bases := base_of_prefix known
  have number : symbol.toNat = symbol.val.toNat := rfl
  rw [Bool.eq_iff_iff]
  simp only [isValidIntegerDigit,isDigit,digitValue,Char.le_def,UInt32.le_iff_toNat_le]
  rw [number]
  simp only [Char.reduceVal,UInt32.reduceToNat]
  split_ifs
  all_goals simp only [Option.any_some,Option.any_none,decide_eq_true_eq,Bool.false_eq_true,false_iff,not_lt]
  all_goals omega

theorem isDigit_letter {letter : Char} {exponent : Nat} (known : volumeLetter letter = some exponent) {base : Nat}
    (bases : base ≤ 16) : isDigit base letter = false := by
  unfold volumeLetter at known
  split at known <;> cases known
  all_goals
    apply decide_eq_false
    intro less
    exact absurd (Nat.lt_of_lt_of_le less bases) (by decide)

variable {symbol : Char}

theorem volumeLetter_digit {base : Nat} (digit : isDigit base symbol = true) (bases : base ≤ 16) :
    volumeLetter symbol = none := by
  cases known : volumeLetter symbol with
  | none => rfl
  | some exponent =>
    rw [isDigit_letter known bases] at digit
    cases digit

theorem exponent_of_letter {letter : Char} {exponent : Nat} (known : volumeLetter letter = some exponent) :
    1 ≤ exponent ∧ exponent ≤ 50 := by
  unfold volumeLetter at known
  split at known <;> cases known <;> decide

variable {word : List Char}

theorem tryParseBasePrefix_plain (plain : ∀ first second rest, word = first :: second :: rest →
    second ∉ ['x','X','d','D','b','B']) : tryParseBasePrefix word = (10,0) := by
  unfold tryParseBasePrefix
  split
  all_goals first
    | rfl
    | exact absurd (by decide) (plain _ _ _ rfl)

theorem baseLetter_not_digit (base : symbol ∈ ['x','X','d','D','b','B']) : isDigit 10 symbol = false := by
  simp only [List.mem_cons,List.not_mem_nil,or_false] at base
  rcases base with rfl | rfl | rfl | rfl | rfl | rfl <;> decide

theorem baseLetter_no_volume (base : symbol ∈ ['x','X','d','D','b','B']) : volumeLetter symbol = none := by
  simp only [List.mem_cons,List.not_mem_nil,or_false] at base
  rcases base with rfl | rfl | rfl | rfl | rfl | rfl <;> rfl

namespace WellFormed

variable {lead digits trail : List Char} {base multiplier : Nat}

theorem tryParseBasePrefix_eq (wellFormed : WellFormed lead digits trail base multiplier) :
    tryParseBasePrefix (lead ++ (digits ++ trail)) = (base,lead.length) := by
  obtain ⟨known,suffix,present,valid⟩ := wellFormed
  cases known with
  | hexadecimal known => rcases known with rfl | rfl <;> rfl
  | decimal known => rcases known with rfl | rfl <;> rfl
  | binary known => rcases known with rfl | rfl <;> rfl
  | none =>
    apply tryParseBasePrefix_plain
    intro first second rest split letter
    cases digits with
    | nil => exact present rfl
    | cons symbol more =>
      rw [List.nil_append,List.cons_append,List.cons.injEq] at split
      obtain ⟨_,split⟩ := split
      cases more with
      | cons next more =>
        rw [List.cons_append,List.cons.injEq] at split
        have digit := valid next (by simp)
        rw [split.1,baseLetter_not_digit letter] at digit
        cases digit
      | nil =>
        rw [List.nil_append] at split
        cases suffix with
        | none => cases split
        | bytes known _ =>
          rw [List.cons.injEq] at split
          rw [split.1,baseLetter_no_volume letter] at known
          cases known

theorem tryParseVolumeSuffix_eq (wellFormed : WellFormed lead digits trail base multiplier) :
    tryParseVolumeSuffix (digits ++ trail) = (multiplier,trail.length) := by
  obtain ⟨prefix',known,present,valid⟩ := wellFormed
  have bases : base ≤ 16 := by
    have := base_of_prefix prefix'
    omega
  cases known with
  | @bytes letter last exponent known ends =>
    have last' : ¬ (last ≠ 'B' ∧ last ≠ 'b') := by
      rintro ⟨one,two⟩
      exact ends.elim one two
    have dropped : (digits ++ [letter,last]).drop ((digits ++ [letter,last]).length - 2) = [letter,last] := by simp
    rw [tryParseVolumeSuffix,dropped]
    simp only [if_neg last',known]
    rfl
  | none =>
    rw [List.append_nil,tryParseVolumeSuffix]
    split
    · rename_i first second dropped
      have member : first ∈ digits := List.mem_of_mem_drop (by rw [dropped]; exact List.mem_cons_self)
      rw [volumeLetter_digit (valid first member) bases]
      split_ifs <;> rfl
    · rfl

end WellFormed

theorem prefix_of_word (word : List Char) : ∃ lead rest base, BasePrefix lead base ∧ word = lead ++ rest ∧
    tryParseBasePrefix word = (base,lead.length) := by
  unfold tryParseBasePrefix
  split
  · exact ⟨['0','x'],_,16,.hexadecimal (by decide),rfl,rfl⟩
  · exact ⟨['0','X'],_,16,.hexadecimal (by decide),rfl,rfl⟩
  · exact ⟨['0','d'],_,10,.decimal (by decide),rfl,rfl⟩
  · exact ⟨['0','D'],_,10,.decimal (by decide),rfl,rfl⟩
  · exact ⟨['0','b'],_,2,.binary (by decide),rfl,rfl⟩
  · exact ⟨['0','B'],_,2,.binary (by decide),rfl,rfl⟩
  · exact ⟨[],_,10,.none,rfl,rfl⟩

theorem suffix_of_word (rest : List Char) : ∃ body trail multiplier, VolumeSuffix trail multiplier ∧
    rest = body ++ trail ∧ tryParseVolumeSuffix rest = (multiplier,trail.length) := by
  have whole : ∃ body trail multiplier, VolumeSuffix trail multiplier ∧ rest = body ++ trail ∧
      (1,0) = (multiplier,trail.length) := ⟨rest,[],1,.none,(List.append_nil _).symm,rfl⟩
  unfold tryParseVolumeSuffix
  split
  · rename_i first second dropped
    by_cases ends : second ≠ 'B' ∧ second ≠ 'b'
    · simp only [if_pos ends]
      exact whole
    · simp only [if_neg ends]
      cases known : volumeLetter first with
      | none => exact whole
      | some exponent =>
        have last : second = 'B' ∨ second = 'b' := by
          by_contra other
          exact ends (not_or.1 other)
        refine ⟨rest.take (rest.length - 2),[first,second],2 ^ exponent,.bytes known last,?_,rfl⟩
        rw [← dropped,List.take_append_drop]
  · exact whole

theorem parseIntegerLiteral_parts {lead body trail : List Char} {base multiplier : Nat}
    (lead' : tryParseBasePrefix (lead ++ (body ++ trail)) = (base,lead.length))
    (trail' : tryParseVolumeSuffix (body ++ trail) = (multiplier,trail.length)) :
    parseIntegerLiteral (lead ++ (body ++ trail)) = parseNumPart base multiplier body := by
  rw [parseIntegerLiteral,lead']
  simp only [List.drop_left,trail']
  have length : (lead ++ (body ++ trail)).length - lead.length - trail.length = body.length := by
    simp only [List.length_append]
    omega
  rw [length,List.take_left]

theorem multiplier_of_suffix {trail : List Char} {multiplier : Nat} (known : VolumeSuffix trail multiplier) :
    1 ≤ multiplier ∧ multiplier < 2 ^ 63 := by
  cases known with
  | none => decide
  | @bytes _ _ exponent letter _ =>
    constructor
    · exact Nat.one_le_two_pow
    · exact Nat.pow_lt_pow_right (by decide) (Nat.lt_of_le_of_lt (exponent_of_letter letter).2 (by decide))

theorem stoll_digits {base : Nat} {digits : List Char} (present : digits ≠ [])
    (valid : ∀ symbol ∈ digits, isDigit base symbol = true) :
    stoll digits base = if Int64.maxValue.toInt < numeral base digits then .outOfRange
      else .converted (Int64.ofNat (numeral base digits)) digits.length := by
  rw [stoll,List.takeWhile_eq_self_iff.2 valid,if_neg present,numeral_foldl]

theorem toInt_of_small {number : Nat} (small : number < 2 ^ 63) : (Int64.ofNat number).toInt = number :=
  Int64.toInt_ofNat_of_lt small

theorem quotient_lt_iff {number multiplier : Nat} (one : 1 ≤ multiplier) (small : multiplier < 2 ^ 63)
    (fits : number < 2 ^ 63) :
    Int64.maxValue / Int64.ofNat multiplier < Int64.ofNat number ↔ 2 ^ 63 ≤ number * multiplier := by
  have other : Int64.ofNat multiplier ≠ -1 := by
    intro same
    have numbers := congrArg Int64.toInt same
    rw [toInt_of_small small] at numbers
    change (multiplier : Int) = -1 at numbers
    omega
  rw [Int64.lt_iff_toInt_lt,Int64.toInt_div_of_ne_right _ _ other,toInt_of_small small,toInt_of_small fits]
  have greatest : Int64.maxValue.toInt = ((2 ^ 63 - 1 : Nat) : Int) := rfl
  rw [greatest,← Int.ofNat_tdiv,Int.ofNat_lt,Nat.div_lt_iff_lt_mul one]
  omega

namespace WellFormed

variable {lead digits trail : List Char} {base multiplier : Nat}

theorem parseNumPart_small (wellFormed : WellFormed lead digits trail base multiplier)
    (small : numeral base digits * multiplier < 2 ^ 63) :
    parseNumPart base multiplier digits = .ok (Int64.ofNat (numeral base digits * multiplier)) := by
  have bounds := multiplier_of_suffix wellFormed.trail
  have number : numeral base digits < 2 ^ 63 := Nat.lt_of_le_of_lt (Nat.le_mul_of_pos_right _ bounds.1) small
  have valid : digits.all (isValidIntegerDigit · base) = true := by
    rw [List.all_eq_true]
    intro symbol member
    rw [isValidIntegerDigit_eq wellFormed.lead]
    exact wellFormed.digits symbol member
  have inRange : ¬ Int64.maxValue.toInt < numeral base digits := by
    change ¬ (2 ^ 63 - 1 : Int) < _
    omega
  rw [parseNumPart,valid,stoll_digits wellFormed.present wellFormed.digits,if_neg inRange]
  simp only [Bool.not_true,if_neg Bool.false_ne_true,ne_eq,not_true_eq_false,if_false]
  by_cases volume : 1 < multiplier
  · have fits : ¬ 2 ^ 63 ≤ numeral base digits * multiplier := by omega
    rw [← quotient_lt_iff bounds.1 bounds.2 number] at fits
    rw [if_pos volume,if_neg fits,Int64.ofNat_mul]
  · have plain : multiplier = 1 := by omega
    rw [if_neg volume,plain,Nat.mul_one]

theorem parseNumPart_large (wellFormed : WellFormed lead digits trail base multiplier)
    (large : 2 ^ 63 ≤ numeral base digits * multiplier) :
    ∃ error, parseNumPart base multiplier digits = .error error := by
  have bounds := multiplier_of_suffix wellFormed.trail
  rw [parseNumPart]
  by_cases invalid : (!digits.all (isValidIntegerDigit · base)) = true
  · rw [if_pos invalid]
    exact ⟨_,rfl⟩
  · rw [if_neg invalid,stoll_digits wellFormed.present wellFormed.digits]
    by_cases outOfRange : Int64.maxValue.toInt < numeral base digits
    · rw [if_pos outOfRange]
      exact ⟨_,rfl⟩
    · have number : numeral base digits < 2 ^ 63 := by
        change ¬ (2 ^ 63 - 1 : Int) < _ at outOfRange
        omega
      have volume : 1 < multiplier := by
        by_contra plain
        have one : multiplier = 1 := by omega
        rw [one,Nat.mul_one] at large
        omega
      rw [if_neg outOfRange]
      simp only [ne_eq,not_true_eq_false,if_false,if_pos volume]
      rw [if_pos ((quotient_lt_iff bounds.1 bounds.2 number).2 large)]
      exact ⟨_,rfl⟩

end WellFormed

theorem parseNumPart_ill {lead digits : List Char} {base : Nat} (known : BasePrefix lead base) (multiplier : Nat)
    (ill : digits = [] ∨ ¬ ∀ symbol ∈ digits, isDigit base symbol = true) :
    ∃ error, parseNumPart base multiplier digits = .error error := by
  rw [parseNumPart]
  rcases ill with rfl | other
  · exact ⟨_,rfl⟩
  · have invalid : digits.all (isValidIntegerDigit · base) = false := by
      rw [Bool.eq_false_iff,ne_eq,List.all_eq_true]
      intro valid
      apply other
      intro symbol member
      rw [← isValidIntegerDigit_eq known]
      exact valid symbol member
    rw [invalid]
    exact ⟨_,rfl⟩

theorem parseIntegerLiteral_small {value : Nat} (denotes : Denotes word value) (small : value < 2 ^ 63) :
    parseIntegerLiteral word = .ok (Int64.ofNat value) := by
  obtain ⟨lead,digits,trail,base,multiplier,wellFormed,rfl,rfl⟩ := denotes
  rw [parseIntegerLiteral_parts wellFormed.tryParseBasePrefix_eq wellFormed.tryParseVolumeSuffix_eq]
  exact wellFormed.parseNumPart_small small

theorem parseIntegerLiteral_large {value : Nat} (denotes : Denotes word value) (large : 2 ^ 63 ≤ value) :
    ∃ error, parseIntegerLiteral word = .error error := by
  obtain ⟨lead,digits,trail,base,multiplier,wellFormed,rfl,rfl⟩ := denotes
  rw [parseIntegerLiteral_parts wellFormed.tryParseBasePrefix_eq wellFormed.tryParseVolumeSuffix_eq]
  exact wellFormed.parseNumPart_large large

variable {number : Int64}

theorem denotes_of_parseIntegerLiteral (parsed : parseIntegerLiteral word = .ok number) :
    ∃ value, Denotes word value := by
  obtain ⟨lead,rest,base,known,rfl,prefixed⟩ := prefix_of_word word
  obtain ⟨body,trail,multiplier,suffix,rfl,suffixed⟩ := suffix_of_word rest
  rw [parseIntegerLiteral_parts prefixed suffixed] at parsed
  by_cases ill : body = [] ∨ ¬ ∀ symbol ∈ body, isDigit base symbol = true
  · obtain ⟨error,failed⟩ := parseNumPart_ill known multiplier ill
    rw [failed] at parsed
    cases parsed
  · rw [not_or,not_not] at ill
    exact ⟨_,lead,body,trail,base,multiplier,⟨known,suffix,ill.1,ill.2⟩,rfl,rfl⟩

theorem parseIntegerLiteral_iff :
    parseIntegerLiteral word = .ok number ↔ ∃ value, Denotes word value ∧ value < 2 ^ 63 ∧ number = Int64.ofNat value := by
  constructor
  · intro parsed
    obtain ⟨value,denotes⟩ := denotes_of_parseIntegerLiteral parsed
    rcases Nat.lt_or_ge value (2 ^ 63) with small | large
    · rw [parseIntegerLiteral_small denotes small] at parsed
      cases parsed
      exact ⟨value,denotes,small,rfl⟩
    · obtain ⟨error,failed⟩ := parseIntegerLiteral_large denotes large
      rw [failed] at parsed
      cases parsed
  · intro known
    obtain ⟨value,denotes,small,rfl⟩ := known
    exact parseIntegerLiteral_small denotes small

theorem denotes_unique {value other : Nat} (denotes : Denotes word value) (denotes' : Denotes word other)
    (small : value < 2 ^ 63) : other = value := by
  have parsed := parseIntegerLiteral_small denotes small
  rcases Nat.lt_or_ge other (2 ^ 63) with small' | large
  · rw [parseIntegerLiteral_small denotes' small',Except.ok.injEq] at parsed
    have numbers := congrArg Int64.toInt parsed
    rw [toInt_of_small small',toInt_of_small small] at numbers
    exact Int.ofNat_inj.1 numbers
  · obtain ⟨error,failed⟩ := parseIntegerLiteral_large denotes' large
    rw [failed] at parsed
    cases parsed

section Meaning

variable {Double : Type} [FloatingPoint Double]

/-- The numbers of a type: a `byte` has 8 bits, the others have a sign and 63. -/
def FitsType (type : TypeSymbol) (value : Nat) : Prop := value < if type = .byte then 2 ^ 8 else 2 ^ 63

variable (Double) in
/-- Something is reported if and only if the word denotes no number of its type, and otherwise the code of the literal
pushes the number that it denotes. -/
structure LiteralDenotes (word : List Char) (expectedType : Option TypeSymbol) : Prop where
  reported : (analyzeNumberLiteral {} word expectedType).2.2 = [] ↔
    ∃ value, Denotes word value ∧ FitsType (analyzeNumberLiteral {} word expectedType).2.1 value
  pushed : (analyzeNumberLiteral {} word expectedType).2.2 = [] →
    ∀ (invokeOperatorMethod : TokenType → List (Instance Double) → Except Failure (Instance Double))
      (machine : Machine Double), ∃ (result : Instance Double) (value : Nat),
      Machine.run invokeOperatorMethod machine (visitLiteralExpression (analyzeNumberLiteral {} word expectedType).1) =
        .ok (machine.push result) ∧
      result.type = (analyzeNumberLiteral {} word expectedType).2.1 ∧ Denotes word value ∧
      result.asInteger.toInt = value

theorem analyzeNumberLiteral_diagnostics (word : List Char) (expectedType : Option TypeSymbol) :
    (analyzeNumberLiteral {} word expectedType).2.2 = (storeValue {} word).2 := by
  unfold analyzeNumberLiteral
  split <;> rfl

theorem analyzeNumberLiteral_reported (expectedType : Option TypeSymbol) :
    (analyzeNumberLiteral {} word expectedType).2.2 = [] ↔ ∃ number, parseIntegerLiteral word = .ok number := by
  rw [analyzeNumberLiteral_diagnostics,storeValue]
  cases parseIntegerLiteral word with
  | ok number => exact ⟨fun _ => ⟨number,rfl⟩,fun _ => rfl⟩
  | error error => simp

theorem analyzeNumberLiteral_type (word : List Char) (expectedType : Option TypeSymbol) :
    (analyzeNumberLiteral {} word expectedType).2.1 = numberType expectedType := by
  cases expectedType with
  | none => rfl
  | some type => cases type <;> rfl

omit [FloatingPoint Double] in
theorem visitLiteralExpression_eq (parsed : parseIntegerLiteral word = .ok number)
    (expectedType : Option TypeSymbol) :
    (visitLiteralExpression (analyzeNumberLiteral {} word expectedType).1 : List (Instruction Double)) =
      emitLiteral expectedType (.number number) := by
  simp only [analyzeNumberLiteral,storeValue,parsed]
  cases expectedType with
  | none => rfl
  | some type => cases type <;> rfl

omit [FloatingPoint Double] in
theorem byte_of_word (value : Nat) :
    (Int64.ofNat value).toUInt64.toUInt8.toUInt64.toInt64.toInt = ((value % 2 ^ 8 : Nat) : Int) := by
  have unit : (Int64.ofNat value).toUInt64.toUInt8 = UInt8.ofNat value := by simp
  have wide : (UInt8.ofNat value).toUInt64 = UInt64.ofNat (value % 2 ^ 8) := by
    apply UInt64.toNat.inj
    rw [UInt8.toNat_toUInt64,UInt8.toNat_ofNat',UInt64.toNat_ofNat']
    omega
  rw [unit,wide,UInt64.toInt64_ofNat',Int64.toInt_ofNat_of_lt (by omega)]

theorem numberType_cases (expectedType : Option TypeSymbol) : numberType expectedType = .byte ∨
    numberType expectedType = .nativeInteger ∨ numberType expectedType = .integer := by
  unfold numberType
  split
  · exact .inl rfl
  · exact .inr (.inl rfl)
  · exact .inr (.inr rfl)

theorem run_number (invokeOperatorMethod : TokenType → List (Instance Double) → Except Failure (Instance Double))
    (machine : Machine Double) (expectedType : Option TypeSymbol) {value : Nat} (small : value < 2 ^ 63) :
    ∃ result : Instance Double, Machine.run invokeOperatorMethod machine
        (emitLiteral expectedType (.number (Int64.ofNat value))) = .ok (machine.push result) ∧
      result.type = numberType expectedType ∧
      result.asInteger.toInt = if numberType expectedType = .byte then value % 2 ^ 8 else value := by
  rcases numberType_cases expectedType with same | same | same
  · refine ⟨.byte (Int64.ofNat value).toUInt64.toUInt8,?_,same.symm,?_⟩
    · simp only [emitLiteral,same]
      rfl
    · rw [if_pos same]
      exact byte_of_word value
  · refine ⟨.nativeInteger (Int64.ofNat value),?_,same.symm,?_⟩
    · simp only [emitLiteral,same]
      rfl
    · rw [same]
      exact toInt_of_small small
  · refine ⟨.integer (Int64.ofNat value),?_,same.symm,?_⟩
    · simp only [emitLiteral,same]
      rfl
    · rw [same]
      exact toInt_of_small small

/-- A literal means its value but for a number from 256 on where a `byte` is expected. -/
theorem literalDenotes_iff (word : List Char) (expectedType : Option TypeSymbol) :
    LiteralDenotes Double word expectedType ↔
      ¬ (expectedType = some .byte ∧ ∃ value, Denotes word value ∧ 2 ^ 8 ≤ value ∧ value < 2 ^ 63) := by
  have byte : numberType expectedType = .byte ↔ expectedType = some .byte := by
    unfold numberType
    split <;> simp_all
  constructor
  · intro denotes wide
    obtain ⟨rfl,value,known,large,small⟩ := wide
    have parsed := parseIntegerLiteral_small known small
    obtain ⟨other,known',fits⟩ := denotes.reported.1 ((analyzeNumberLiteral_reported _).2 ⟨_,parsed⟩)
    rw [denotes_unique known known' small] at fits
    exact absurd fits (Nat.not_lt.2 large)
  · intro narrow
    constructor
    · rw [analyzeNumberLiteral_reported,analyzeNumberLiteral_type]
      constructor
      · intro parsed
        obtain ⟨number,parsed⟩ := parsed
        obtain ⟨value,known,small,_⟩ := parseIntegerLiteral_iff.1 parsed
        refine ⟨value,known,?_⟩
        rw [FitsType]
        split_ifs with expected
        · by_contra large
          exact narrow ⟨byte.1 expected,value,known,Nat.not_lt.1 large,small⟩
        · exact small
      · intro whole
        obtain ⟨value,known,fits⟩ := whole
        refine ⟨_,parseIntegerLiteral_small known ?_⟩
        rw [FitsType] at fits
        split_ifs at fits <;> omega
    · intro quiet invokeOperatorMethod machine
      obtain ⟨number,parsed⟩ := (analyzeNumberLiteral_reported _).1 quiet
      obtain ⟨value,known,small,rfl⟩ := parseIntegerLiteral_iff.1 parsed
      obtain ⟨result,ran,typed,number⟩ := run_number invokeOperatorMethod machine expectedType small
      rw [visitLiteralExpression_eq parsed,analyzeNumberLiteral_type]
      refine ⟨result,value,ran,typed,known,?_⟩
      rw [number]
      split_ifs with expected
      · have fits : value < 2 ^ 8 := by
          by_contra large
          exact narrow ⟨byte.1 expected,value,known,Nat.not_lt.1 large,small⟩
        omega
      · rfl

end Meaning

theorem denotes_threeHundred : Denotes ['3','0','0'] 300 := by
  have digits : ∀ symbol ∈ ['3','0','0'],isDigit 10 symbol = true := by
    intro symbol member
    simp only [List.mem_cons,List.not_mem_nil,or_false] at member
    rcases member with rfl | rfl | rfl
    · rfl
    · rfl
    · rfl
  exact ⟨[],['3','0','0'],[],10,1,⟨.none,.none,by decide,digits⟩,rfl,by decide⟩

/-- `byte b = 300;` is accepted, and `b` is 44. -/
theorem literalDenotes_wide : ¬ ∀ (word : List Char) (expectedType : Option TypeSymbol),
    LiteralDenotes Int64 word expectedType := by
  intro denotes
  obtain ⟨value,known,fits⟩ := (denotes ['3','0','0'] (some .byte)).reported.1 (by decide)
  rw [denotes_unique denotes_threeHundred known (by decide)] at fits
  change 300 < 2 ^ 8 at fits
  omega

end ShardScript.Primitive
