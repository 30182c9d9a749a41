import Mathlib.Data.List.Basic
import Mathlib.Data.List.TakeWhile
import ShardScript.Libraries.SemanticVersion

/-! Which texts are versions, and that a version is read from what is printed of it. -/
namespace ShardScript.Libraries

structure Numeral where
  digits : List Char
  nonempty : digits ≠ []
  decimal : ∀ c ∈ digits,c.isDigit = true

def Numeral.value (numeral : Numeral) : Nat := Nat.ofDigitChars 10 numeral.digits 0

structure VersionText where
  major : Numeral
  minor : Numeral
  patch : Numeral
  prerelease : List Char

def suffix (prerelease : List Char) : List Char := if prerelease = [] then [] else '-' :: prerelease

namespace VersionText

def chars (text : VersionText) : List Char :=
  text.major.digits ++ '.' :: (text.minor.digits ++ '.' :: (text.patch.digits ++ suffix text.prerelease))

def largest : Nat := 2147483647

def Fits (text : VersionText) : Prop :=
  text.major.value ≤ largest ∧ text.minor.value ≤ largest ∧ text.patch.value ≤ largest

def Denotes (text : VersionText) (version : SemanticVersion) : Prop :=
  version.major.toInt = text.major.value ∧ version.minor.toInt = text.minor.value ∧
    version.patch.toInt = text.patch.value ∧ version.prerelease = text.prerelease

def version (text : VersionText) : SemanticVersion :=
  ⟨.ofNat text.major.value,.ofNat text.minor.value,.ofNat text.patch.value,text.prerelease⟩

end VersionText

variable (text : List Char)

/-- A version is read from the text exactly if it is written there and fits, and it is the one that is written. -/
def ParsesExactly : Prop :=
  ((parseVersion text).isSome = true ↔ ∃ written : VersionText,written.chars = trim text ∧ written.Fits) ∧
    ∀ version,parseVersion text = some version → ∃ written : VersionText,written.chars = trim text ∧ written.Denotes version

def printInt (value : Int32) : List Char :=
  (if value.toInt < 0 then ['-'] else []) ++ Nat.toDigits 10 value.toInt.natAbs

def SemanticVersion.print (version : SemanticVersion) : List Char :=
  printInt version.major ++ '.' :: (printInt version.minor ++ '.' :: (printInt version.patch ++ suffix version.prerelease))

section Digits

def Apart : Prop := ∀ c ∈ text.head?,c.isDigit = false

theorem apart_dot : Apart ('.' :: text) := by
  rintro c ⟨⟩
  rfl

theorem apart_suffix (prerelease : List Char) : Apart (suffix prerelease) := by
  rw [suffix]
  split_ifs
  · rintro c ⟨⟩
  · rintro c ⟨⟩
    rfl

theorem takeWhile_digits {digits text : List Char} (decimal : ∀ c ∈ digits,c.isDigit = true) (apart : Apart text) :
    (digits ++ text).takeWhile Char.isDigit = digits := by
  rw [List.takeWhile_append_of_pos decimal]
  cases text with
  | nil => exact List.append_nil digits
  | cons c text => rw [List.takeWhile_cons_of_neg (by rw [apart c rfl]; exact Bool.false_ne_true),List.append_nil]

theorem dropWhile_digits {digits text : List Char} (decimal : ∀ c ∈ digits,c.isDigit = true) (apart : Apart text) :
    (digits ++ text).dropWhile Char.isDigit = text := by
  rw [List.dropWhile_append_of_pos decimal]
  cases text with
  | nil => rfl
  | cons c text => exact List.dropWhile_cons_of_neg (by rw [apart c rfl]; exact Bool.false_ne_true)

theorem parseDigits_eq (value : Nat) (text : List Char) : parseDigits (.ofNat value) text =
    (.ofNat (Nat.ofDigitChars 10 (text.takeWhile Char.isDigit) value),text.dropWhile Char.isDigit) := by
  induction text generalizing value with
  | nil => rfl
  | cons c text ih =>
      rw [parseDigits]
      cases digit : c.isDigit with
      | true =>
          have next : Int32.ofNat value * 10 + Int32.ofNat (c.toNat - 48) = .ofNat (10 * value + (c.toNat - 48)) := by
            rw [Nat.mul_comm,Int32.ofNat_add,Int32.ofNat_mul]
            rfl
          rw [if_pos rfl,next,ih,List.takeWhile_cons_of_pos digit,List.dropWhile_cons_of_pos digit,Nat.ofDigitChars_cons]
          rfl
      | false =>
          have not_digit : ¬c.isDigit = true := by rw [digit]; exact Bool.false_ne_true
          rw [if_neg Bool.false_ne_true,List.takeWhile_cons_of_neg not_digit,List.dropWhile_cons_of_neg not_digit]
          rfl

theorem parseInt_numeral (numeral : Numeral) {text : List Char} (apart : Apart text) :
    parseInt (numeral.digits ++ text) = some (.ofNat numeral.value,text) := by
  have read := parseDigits_eq 0 (numeral.digits ++ text)
  rw [takeWhile_digits numeral.decimal apart,dropWhile_digits numeral.decimal apart] at read
  obtain ⟨digits,nonempty,decimal⟩ := numeral
  cases digits with
  | nil => exact absurd rfl nonempty
  | cons c digits => exact (if_pos (decimal c List.mem_cons_self)).trans (congrArg some read)

theorem parseInt_some {text rest : List Char} {value : Int32} (read : parseInt text = some (value,rest)) :
    ∃ numeral : Numeral,text = numeral.digits ++ rest ∧ value = .ofNat numeral.value ∧ Apart rest := by
  cases text with
  | nil => cases read
  | cons c text =>
      rw [parseInt] at read
      split_ifs at read with digit
      have same := (parseDigits_eq 0 (c :: text)).symm.trans (Option.some.inj read)
      cases same
      refine ⟨⟨(c :: text).takeWhile Char.isDigit,?_,fun c member => List.mem_takeWhile_imp member⟩,
        List.takeWhile_append_dropWhile.symm,rfl,?_⟩
      · rw [List.takeWhile_cons_of_pos digit]
        exact List.cons_ne_nil _ _
      · intro other first
        have stops := List.head?_dropWhile_not Char.isDigit (c :: text)
        rw [Option.mem_def.mp first] at stops
        exact stops

end Digits

section Reading

theorem parsePrerelease_suffix (prerelease : List Char) : parsePrerelease (suffix prerelease) = some prerelease := by
  rw [suffix]
  cases prerelease with
  | nil => rfl
  | cons c prerelease => rfl

namespace VersionText

theorem parseVersion_chars (written : VersionText) (same : written.chars = trim text) :
    parseVersion text = some written.version := by
  have major := parseInt_numeral written.major (apart_dot (written.minor.digits ++ '.' :: (written.patch.digits ++
    suffix written.prerelease)))
  have minor := parseInt_numeral written.minor (apart_dot (written.patch.digits ++ suffix written.prerelease))
  have patch := parseInt_numeral written.patch (apart_suffix written.prerelease)
  rw [parseVersion,← same,chars,major]
  simp only [Option.bind_eq_bind,Option.bind_some,readDot,minor,patch,parsePrerelease_suffix]
  rfl

theorem exists_of_parseVersion {text : List Char} {version : SemanticVersion} (read : parseVersion text = some version) :
    ∃ written : VersionText,written.chars = trim text ∧ written.version = version := by
  have dot {text rest : List Char} (read : readDot text = some rest) : text = '.' :: rest := by
    cases text with
    | nil => cases read
    | cons c text =>
        unfold readDot at read
        split at read
        · cases read
          assumption
        · cases read
  have behind {text prerelease : List Char} (read : parsePrerelease text = some prerelease) : text = suffix prerelease := by
    unfold parsePrerelease at read
    split at read
    · cases read
      rfl
    · cases read
      rfl
    · cases read
  simp only [parseVersion,Option.bind_eq_bind,Option.bind_eq_some_iff] at read
  obtain ⟨⟨major,text₁⟩,readMajor,text₂,dot₁,⟨minor,text₃⟩,readMinor,text₄,dot₂,⟨patch,text₅⟩,readPatch,prerelease,
    readPrerelease,same⟩ := read
  obtain ⟨majorNumeral,first,rfl,-⟩ := parseInt_some readMajor
  obtain ⟨minorNumeral,second,rfl,-⟩ := parseInt_some readMinor
  obtain ⟨patchNumeral,third,rfl,-⟩ := parseInt_some readPatch
  refine ⟨⟨majorNumeral,minorNumeral,patchNumeral,prerelease⟩,?_,Option.some.inj same⟩
  replace dot₁ : text₁ = '.' :: text₂ := dot dot₁
  replace dot₂ : text₃ = '.' :: text₄ := dot dot₂
  replace readPrerelease : text₅ = suffix prerelease := behind readPrerelease
  rw [first,dot₁,second,dot₂,third,readPrerelease]
  rfl

theorem digits_eq {numeral numeral' : Numeral} {rest rest' : List Char} (apart : Apart rest) (apart' : Apart rest')
    (same : numeral.digits ++ rest = numeral'.digits ++ rest') : numeral.digits = numeral'.digits ∧ rest = rest' := by
  have digits : numeral.digits = numeral'.digits := by
    rw [← takeWhile_digits numeral.decimal apart,same,takeWhile_digits numeral'.decimal apart']
  rw [digits] at same
  exact ⟨digits,List.append_cancel_left same⟩

theorem Fits.of_chars {written written' : VersionText} (same : written.chars = written'.chars) (fits : written.Fits) :
    written'.Fits := by
  obtain ⟨major,rest⟩ := digits_eq (apart_dot _) (apart_dot _) same
  obtain ⟨minor,rest⟩ := digits_eq (apart_dot _) (apart_dot _) (List.cons.inj rest).2
  obtain ⟨patch,-⟩ := digits_eq (apart_suffix _) (apart_suffix _) (List.cons.inj rest).2
  simp only [Fits,Numeral.value,major,minor,patch] at fits
  exact fits

theorem toInt_ofNat {value : Nat} : (Int32.ofNat value).toInt = value ↔ value ≤ largest := by
  rw [Int32.toInt_ofNat',Int.bmod_eq_iff (by decide)]
  simp only [Int32.size,largest]
  omega

theorem denotes_version {written : VersionText} : written.Denotes written.version ↔ written.Fits := by
  simp only [Denotes,version,Fits,toInt_ofNat,and_true]

end VersionText

open VersionText

theorem parsesExactly_iff :
    ParsesExactly text ↔ ∀ written : VersionText,written.chars = trim text → written.Fits := by
  constructor
  · rintro ⟨accepts,-⟩ written same
    obtain ⟨written',same',fits⟩ := accepts.mp (by rw [parseVersion_chars text written same]; rfl)
    exact fits.of_chars (same'.trans same.symm)
  · intro fit
    constructor
    · constructor
      · intro accepted
        obtain ⟨version,read⟩ := Option.isSome_iff_exists.mp accepted
        obtain ⟨written,same,-⟩ := exists_of_parseVersion read
        exact ⟨written,same,fit written same⟩
      · rintro ⟨written,same,-⟩
        rw [parseVersion_chars text written same]
        rfl
    · intro version read
      obtain ⟨written,same,rfl⟩ := exists_of_parseVersion read
      exact ⟨written,same,denotes_version.mpr (fit written same)⟩

end Reading

section Printing

theorem parseInt_printInt {value : Int32} (nonnegative : 0 ≤ value.toInt) {text : List Char} (apart : Apart text) :
    parseInt (printInt value ++ text) = some (value,text) := by
  have decimal : ∀ c ∈ Nat.toDigits 10 value.toInt.natAbs,c.isDigit = true := fun c member =>
    Nat.isDigit_of_mem_toDigits (by decide) (by decide) member
  have read := parseInt_numeral ⟨Nat.toDigits 10 value.toInt.natAbs,Nat.toDigits_ne_nil,decimal⟩ apart
  rw [printInt,if_neg (Int.not_lt.mpr nonnegative)]
  rw [Numeral.value,Nat.ofDigitChars_ten_toDigits] at read
  refine read.trans (congrArg (fun value => some (value,text)) (Int32.toInt_inj.mp ?_))
  have bound := value.toInt_lt
  rw [VersionText.toInt_ofNat.mpr (by rw [VersionText.largest]; omega)]
  exact Int.natAbs_of_nonneg nonnegative

theorem parseInt_negative {value : Int32} (negative : value.toInt < 0) (text : List Char) :
    parseInt (printInt value ++ text) = none := by
  rw [printInt,if_pos negative]
  rfl

theorem trim_eq_self {text : List Char} (first : ∀ c ∈ text.head?,isSpace c = false)
    (last : ∀ c ∈ text.getLast?,isSpace c = false) : trim text = text := by
  have kept {text : List Char} (first : ∀ c ∈ text.head?,isSpace c = false) : text.dropWhile isSpace = text := by
    cases text with
    | nil => rfl
    | cons c text => exact List.dropWhile_cons_of_neg (by rw [first c rfl]; exact Bool.false_ne_true)
  rw [trim,kept first,kept,List.reverse_reverse]
  rw [List.head?_reverse]
  exact last

theorem getLast?_trim : ∀ c ∈ (trim text).getLast?,isSpace c = false := by
  intro c last
  rw [trim,List.getLast?_reverse] at last
  have stops := List.head?_dropWhile_not isSpace (text.dropWhile isSpace).reverse
  rw [Option.mem_def.mp last] at stops
  exact stops

theorem isSpace_digit {c : Char} (digit : c.isDigit = true) : isSpace c = false := by
  rw [Char.isDigit,Bool.and_eq_true,decide_eq_true_eq,decide_eq_true_eq] at digit
  have low : 48 ≤ c.toNat := digit.1
  have blank : ¬c = ' ' := by
    rintro rfl
    exact absurd low (by decide)
  rw [isSpace,beq_eq_false_iff_ne.mpr blank]
  simp only [Bool.false_or,Bool.and_eq_false_iff,decide_eq_false_iff_not]
  omega

theorem isDigit_of_mem_toDigits {c : Char} {value : Nat} (member : c ∈ Nat.toDigits 10 value) : c.isDigit = true :=
  Nat.isDigit_of_mem_toDigits (by decide) (by decide) member

theorem head?_printInt (value : Int32) (text : List Char) : ∀ c ∈ (printInt value ++ text).head?,isSpace c = false := by
  intro c first
  rw [printInt] at first
  split_ifs at first
  · cases first
    rfl
  · cases digits : Nat.toDigits 10 value.toInt.natAbs with
    | nil => exact absurd digits Nat.toDigits_ne_nil
    | cons digit digits' =>
        rw [digits] at first
        cases first
        exact isSpace_digit (isDigit_of_mem_toDigits (digits ▸ List.mem_cons_self))

theorem getLast?_printInt (value : Int32) : ∀ c ∈ (printInt value).getLast?,isSpace c = false := by
  intro c last
  rw [printInt,List.getLast?_append_of_ne_nil _ Nat.toDigits_ne_nil] at last
  exact isSpace_digit (isDigit_of_mem_toDigits (List.mem_of_getLast? last))

theorem getLast?_suffix {prerelease : List Char} (trimmed : trim prerelease = prerelease) (value : Int32) :
    ∀ c ∈ (printInt value ++ suffix prerelease).getLast?,isSpace c = false := by
  intro c last
  cases prerelease with
  | nil =>
      rw [suffix,if_pos rfl,List.append_nil] at last
      exact getLast?_printInt value c last
  | cons first prerelease =>
      rw [suffix,if_neg (List.cons_ne_nil _ _),List.getLast?_append_cons,List.getLast?_cons_cons,← trimmed] at last
      exact getLast?_trim _ c last

theorem trim_print {version : SemanticVersion} (trimmed : trim version.prerelease = version.prerelease) :
    trim version.print = version.print := by
  apply trim_eq_self (head?_printInt version.major _)
  intro c last
  have nonempty : printInt version.patch ++ suffix version.prerelease ≠ [] :=
    List.append_ne_nil_of_left_ne_nil (List.append_ne_nil_of_right_ne_nil _ Nat.toDigits_ne_nil) _
  rw [List.getLast?_append_cons,List.getLast?_cons_of_ne_nil (List.append_ne_nil_of_right_ne_nil _
    (List.cons_ne_nil _ _)),List.getLast?_append_cons,List.getLast?_cons_of_ne_nil nonempty] at last
  exact getLast?_suffix trimmed version.patch c last

theorem parseVersion_print {version : SemanticVersion} (trimmed : trim version.prerelease = version.prerelease) :
    parseVersion version.print = some version ↔
      0 ≤ version.major.toInt ∧ 0 ≤ version.minor.toInt ∧ 0 ≤ version.patch.toInt := by
  obtain ⟨major,minor,patch,prerelease⟩ := version
  rw [parseVersion,trim_print trimmed,SemanticVersion.print]
  by_cases first : 0 ≤ major.toInt
  · rw [parseInt_printInt first (apart_dot _)]
    simp only [Option.bind_eq_bind,Option.bind_some,readDot]
    by_cases second : 0 ≤ minor.toInt
    · rw [parseInt_printInt second (apart_dot _)]
      simp only [Option.bind_some]
      by_cases third : 0 ≤ patch.toInt
      · rw [parseInt_printInt third (apart_suffix _)]
        simp only [Option.bind_some,parsePrerelease_suffix]
        exact iff_of_true rfl ⟨first,second,third⟩
      · rw [parseInt_negative (Int.not_le.mp third)]
        exact iff_of_false nofun fun all => third all.2.2
    · rw [parseInt_negative (Int.not_le.mp second)]
      exact iff_of_false nofun fun all => second all.2.1
  · rw [parseInt_negative (Int.not_le.mp first)]
    exact iff_of_false nofun fun all => first all.1

end Printing

/-- A text is read exactly if all its components fit, where it is a version; and a version is read from what is printed of it. -/
theorem versionText_iff (text : List Char) (version : SemanticVersion) :
    (ParsesExactly text ↔ ∀ written : VersionText,written.chars = trim text → written.Fits) ∧
      (trim version.prerelease = version.prerelease → (parseVersion version.print = some version ↔
        0 ≤ version.major.toInt ∧ 0 ≤ version.minor.toInt ∧ 0 ≤ version.patch.toInt)) :=
  ⟨parsesExactly_iff text,parseVersion_print⟩

/-- A component that does not fit is accepted. -/
theorem not_parsesExactly : (parseVersion "4294967297.0.0".toList).isSome = true ∧ ¬ParsesExactly "4294967297.0.0".toList := by
  refine ⟨by decide,fun exactly => ?_⟩
  have fits := (parsesExactly_iff _).mp exactly
    ⟨⟨"4294967297".toList,by decide,List.all_eq_true.1 rfl⟩,⟨['0'],by decide,List.all_eq_true.1 rfl⟩,
      ⟨['0'],by decide,List.all_eq_true.1 rfl⟩,[]⟩ (by decide)
  exact absurd fits.1 (by decide)

end ShardScript.Libraries
