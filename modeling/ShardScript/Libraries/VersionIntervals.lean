import Mathlib
import ShardScript.Libraries.VersionText

/-! Which versions satisfy an expression, and that an expression is read from the texts of its constraints. -/
namespace ShardScript.Libraries

abbrev VersionKey := ℤ ×ₗ ℤ ×ₗ ℤ

def versionKey (major minor patch : ℤ) : VersionKey := toLex (major,toLex (minor,patch))

namespace SemanticVersion

def key (version : SemanticVersion) : VersionKey :=
  versionKey version.major.toInt version.minor.toInt version.patch.toInt

structure Proper (version : SemanticVersion) : Prop where
  major : 0 ≤ version.major.toInt
  minor : 0 ≤ version.minor.toInt
  patch : 0 ≤ version.patch.toInt

def nextIncompatible (version : SemanticVersion) : VersionKey :=
  if version.major.toInt ≠ 0 then versionKey (version.major.toInt + 1) 0 0
  else if version.minor.toInt ≠ 0 then versionKey 0 (version.minor.toInt + 1) 0
  else versionKey 0 0 (version.patch.toInt + 1)

def nextMinor (version : SemanticVersion) : VersionKey := versionKey version.major.toInt (version.minor.toInt + 1) 0

end SemanticVersion

namespace Constraint

def interval : Constraint → Set VersionKey
  | ⟨.equal,wanted⟩ => {wanted.key}
  | ⟨.greater,wanted⟩ => Set.Ioi wanted.key
  | ⟨.greaterOrEqual,wanted⟩ => Set.Ici wanted.key
  | ⟨.less,wanted⟩ => Set.Iio wanted.key
  | ⟨.lessOrEqual,wanted⟩ => Set.Iic wanted.key
  | ⟨.compatible,wanted⟩ => Set.Ico wanted.key wanted.nextIncompatible
  | ⟨.approximately,wanted⟩ => Set.Ico wanted.key wanted.nextMinor

/-- The component that is incremented for the upper bound is the largest `int`. -/
def AtLimit : Constraint → Prop
  | ⟨.compatible,wanted⟩ =>
      if wanted.major.toInt ≠ 0 then wanted.major = Int32.maxValue
      else if wanted.minor.toInt ≠ 0 then wanted.minor = Int32.maxValue
      else wanted.patch = Int32.maxValue
  | ⟨.approximately,wanted⟩ => wanted.minor = Int32.maxValue
  | _ => False

end Constraint

section Intervals

variable {version wanted : SemanticVersion}

theorem versionKey_lt {major minor patch major' minor' patch' : ℤ} :
    versionKey major minor patch < versionKey major' minor' patch' ↔
      major < major' ∨ major = major' ∧ (minor < minor' ∨ minor = minor' ∧ patch < patch') := by
  rw [versionKey,versionKey,Prod.Lex.toLex_lt_toLex,Prod.Lex.toLex_lt_toLex]

theorem less_iff : version.less wanted = true ↔ version.key < wanted.key := by
  rw [SemanticVersion.key,SemanticVersion.key,versionKey_lt,SemanticVersion.less]
  by_cases major : version.major = wanted.major
  · rw [major,bne_self_eq_false,if_neg Bool.false_ne_true]
    by_cases minor : version.minor = wanted.minor
    · rw [minor,bne_self_eq_false,if_neg Bool.false_ne_true,decide_eq_true_eq,Int32.lt_iff_toInt_lt]
      simp only [lt_self_iff_false,true_and,false_or]
    · have other : version.minor.toInt ≠ wanted.minor.toInt := fun same => minor (Int32.toInt_inj.mp same)
      rw [if_pos (bne_iff_ne.mpr minor),decide_eq_true_eq,Int32.lt_iff_toInt_lt]
      simp only [lt_self_iff_false,true_and,false_or,other,false_and,or_false]
  · have other : version.major.toInt ≠ wanted.major.toInt := fun same => major (Int32.toInt_inj.mp same)
    rw [if_pos (bne_iff_ne.mpr major),decide_eq_true_eq,Int32.lt_iff_toInt_lt]
    simp only [other,false_and,or_false]

theorem equals_iff : version.equals wanted = true ↔ version.key = wanted.key := by
  rw [SemanticVersion.equals,Bool.and_eq_true,Bool.and_eq_true,beq_iff_eq,beq_iff_eq,beq_iff_eq,SemanticVersion.key,
    SemanticVersion.key,versionKey,versionKey,toLex_inj,Prod.mk.injEq,toLex_inj,Prod.mk.injEq,Int32.toInt_inj,Int32.toInt_inj,
    Int32.toInt_inj,and_assoc]

theorem not_less_iff : (!version.less wanted) = true ↔ wanted.key ≤ version.key := by
  rw [Bool.not_eq_true',← Bool.not_eq_true,less_iff,not_lt]

theorem toInt_add_one {value : Int32} (below : value ≠ Int32.maxValue) : (value + 1).toInt = value.toInt + 1 := by
  have high := value.toInt_lt
  have low := value.le_toInt
  have other : value.toInt ≠ 2147483647 := fun same => below (Int32.toInt_inj.mp same)
  rw [Int32.toInt_add,Int32.toInt_one]
  apply Int.bmod_eq_of_le <;> omega

theorem toInt_maxValue_add_one : (Int32.maxValue + 1).toInt = -2147483648 := by decide

theorem pos_iff {value : Int32} (nonnegative : 0 ≤ value.toInt) : value > 0 ↔ value.toInt ≠ 0 := by
  rw [gt_iff_lt,Int32.lt_iff_toInt_lt,Int32.toInt_zero]
  omega

theorem lt_upper (proper : version.Proper) (known : wanted.Proper) : version.less wanted.upper = true ↔
    version.key < wanted.nextIncompatible ∧ ¬Constraint.AtLimit ⟨.compatible,wanted⟩ := by
  obtain ⟨major,minor,patch⟩ := proper
  rw [less_iff,SemanticVersion.upper,SemanticVersion.nextIncompatible,Constraint.AtLimit]
  rw [if_congr (pos_iff known.major) rfl (if_congr (pos_iff known.minor) rfl rfl)]
  by_cases first : wanted.major.toInt ≠ 0
  · rw [if_pos first,if_pos first,if_pos first]
    by_cases limit : wanted.major = Int32.maxValue
    · refine iff_of_false ?_ fun both => both.2 limit
      simp only [SemanticVersion.key,versionKey_lt,limit,toInt_maxValue_add_one]
      omega
    · rw [and_iff_left limit]
      simp only [SemanticVersion.key,toInt_add_one limit,Int32.toInt_zero]
  · rw [if_neg first,if_neg first,if_neg first]
    by_cases second : wanted.minor.toInt ≠ 0
    · rw [if_pos second,if_pos second,if_pos second]
      by_cases limit : wanted.minor = Int32.maxValue
      · refine iff_of_false ?_ fun both => both.2 limit
        simp only [SemanticVersion.key,versionKey_lt,limit,toInt_maxValue_add_one,not_not.mp first]
        omega
      · rw [and_iff_left limit]
        simp only [SemanticVersion.key,toInt_add_one limit,Int32.toInt_zero,not_not.mp first]
    · rw [if_neg second,if_neg second,if_neg second]
      by_cases limit : wanted.patch = Int32.maxValue
      · refine iff_of_false ?_ fun both => both.2 limit
        simp only [SemanticVersion.key,versionKey_lt,limit,toInt_maxValue_add_one,not_not.mp first,not_not.mp second]
        omega
      · rw [and_iff_left limit]
        simp only [SemanticVersion.key,toInt_add_one limit,not_not.mp first,not_not.mp second]

theorem lt_minor (proper : version.Proper) (above : wanted.key ≤ version.key) :
    version.less { wanted with minor := wanted.minor + 1, patch := 0 } = true ↔
      version.key < wanted.nextMinor ∧ ¬Constraint.AtLimit ⟨.approximately,wanted⟩ := by
  obtain ⟨major,minor,patch⟩ := proper
  rw [less_iff,SemanticVersion.nextMinor,Constraint.AtLimit]
  by_cases limit : wanted.minor = Int32.maxValue
  · refine iff_of_false (fun below => ?_) fun both => both.2 limit
    simp only [SemanticVersion.key,versionKey_lt,limit,toInt_maxValue_add_one] at below
    apply not_lt_of_ge above
    rw [SemanticVersion.key,SemanticVersion.key,versionKey_lt]
    omega
  · rw [and_iff_left limit]
    simp only [SemanticVersion.key,toInt_add_one limit,Int32.toInt_zero]

theorem satisfies_iff {constraint : Constraint} (proper : version.Proper) (known : constraint.version.Proper) :
    constraint.satisfies version = true ↔ version.key ∈ constraint.interval ∧ ¬constraint.AtLimit := by
  obtain ⟨op,wanted⟩ := constraint
  cases op with
  | equal => exact equals_iff.trans (and_iff_left id).symm
  | greater => exact less_iff.trans (and_iff_left id).symm
  | greaterOrEqual => exact not_less_iff.trans (and_iff_left id).symm
  | less => exact less_iff.trans (and_iff_left id).symm
  | lessOrEqual => exact not_less_iff.trans (and_iff_left id).symm
  | compatible =>
      rw [Constraint.satisfies,Bool.and_eq_true,not_less_iff,lt_upper proper known,← and_assoc]
      rfl
  | approximately =>
      rw [Constraint.satisfies,Bool.and_eq_true,not_less_iff,and_congr_right fun above => lt_minor proper above,← and_assoc]
      rfl

end Intervals

def intersection (constraints : List Constraint) : Set VersionKey := {key | ∀ constraint ∈ constraints,key ∈ constraint.interval}

def DenotesIntervals (constraints : List Constraint) : Prop :=
  ∀ version : SemanticVersion,version.Proper →
    (VersionExpression.satisfies ⟨constraints⟩ version = true ↔ version.key ∈ intersection constraints)

variable {constraints : List Constraint}

theorem satisfies_all {version : SemanticVersion} (proper : version.Proper)
    (known : ∀ constraint ∈ constraints,constraint.version.Proper) :
    VersionExpression.satisfies ⟨constraints⟩ version = true ↔
      version.key ∈ intersection constraints ∧ ∀ constraint ∈ constraints,¬constraint.AtLimit := by
  rw [VersionExpression.satisfies,List.all_eq_true,intersection,Set.mem_ofPred_eq,← forall₂_and]
  exact forall₂_congr fun constraint member => satisfies_iff proper (known constraint member)

theorem denotesIntervals_iff (known : ∀ constraint ∈ constraints,constraint.version.Proper) :
    DenotesIntervals constraints ↔ (∀ constraint ∈ constraints,¬constraint.AtLimit) ∨
      ∀ version : SemanticVersion,version.Proper → version.key ∉ intersection constraints := by
  constructor
  · intro denotes
    by_cases below : ∀ constraint ∈ constraints,¬constraint.AtLimit
    · exact .inl below
    · refine .inr fun version proper inside => below ?_
      exact ((satisfies_all proper known).mp ((denotes version proper).mpr inside)).2
  · rintro (below | outside) version proper
    · rw [satisfies_all proper known]
      exact and_iff_left below
    · rw [satisfies_all proper known]
      exact iff_of_false (fun both => outside version proper both.1) (outside version proper)

def isSeparator (c : Char) : Bool := isSpace c || c == ','

def Operator.text : Operator → List Char
  | .equal => ['=']
  | .greater => ['>']
  | .greaterOrEqual => ['>','=']
  | .less => ['<']
  | .lessOrEqual => ['<','=']
  | .compatible => ['^']
  | .approximately => ['~']

structure Piece where
  separator : List Char
  separates : ∀ c ∈ separator,isSeparator c = true
  isBare : Bool
  constraint : Constraint

namespace Piece

def operatorText : Bool → Operator → List Char
  | true,.equal => []
  | _,op => op.text

def text (piece : Piece) : List Char := operatorText piece.isBare piece.constraint.op ++ piece.constraint.version.print

def joined : List Piece → (trailing : List Char) → List Char
  | [],trailing => trailing
  | piece :: pieces,trailing => piece.separator ++ (piece.text ++ joined pieces trailing)

end Piece

def Unbroken (prerelease : List Char) : Prop := ∀ c ∈ prerelease,isSeparator c = false

section Words

theorem words_plain (word : List Char) {text : List Char} (plain : ∀ c ∈ text,isSeparator c = false) (rest : List Char) :
    words word (text ++ rest) = words (word ++ text) rest := by
  induction text generalizing word with
  | nil => rw [List.nil_append,List.append_nil]
  | cons c text ih =>
      obtain ⟨first,plain⟩ := List.forall_mem_cons.mp plain
      rw [List.cons_append,words]
      change (if isSeparator c then _ else _) = _
      rw [if_neg (by rw [first]; exact Bool.false_ne_true),ih _ plain,List.append_assoc,List.singleton_append]

theorem words_separator {separator : List Char} (separates : ∀ c ∈ separator,isSeparator c = true) (rest : List Char) :
    words [] (separator ++ rest) = words [] rest := by
  induction separator with
  | nil => rfl
  | cons c separator ih =>
      obtain ⟨first,separates⟩ := List.forall_mem_cons.mp separates
      rw [List.cons_append,words]
      change (if isSeparator c then _ else _) = _
      rw [if_pos first,if_pos rfl,ih separates]

theorem words_behind {word separator : List Char} (nonempty : word ≠ []) (apart : separator ≠ [])
    (separates : ∀ c ∈ separator,isSeparator c = true) (rest : List Char) :
    words word (separator ++ rest) = word :: words [] rest := by
  cases separator with
  | nil => exact absurd rfl apart
  | cons c separator =>
      obtain ⟨first,separates⟩ := List.forall_mem_cons.mp separates
      rw [List.cons_append,words]
      change (if isSeparator c then _ else _) = _
      rw [if_pos first,if_neg nonempty,words_separator separates]

theorem plain_of_mem_words {text word other : List Char} (member : other ∈ words word text) {c : Char} (inside : c ∈ other) :
    c ∈ word ∨ isSeparator c = false := by
  induction text generalizing word with
  | nil =>
      rw [words] at member
      split_ifs at member
      · cases member
      · rw [List.mem_singleton] at member
        exact .inl (member ▸ inside)
  | cons d text ih =>
      rw [words] at member
      split_ifs at member with separates empty
      · exact .inr ((ih member).resolve_left List.not_mem_nil)
      · obtain rfl | member := List.mem_cons.mp member
        · exact .inl inside
        · exact .inr ((ih member).resolve_left List.not_mem_nil)
      · obtain known | plain := ih member
        · obtain known | last := List.mem_append.mp known
          · exact .inl known
          · rw [List.mem_singleton.mp last]
            exact .inr (Bool.eq_false_iff.mpr separates)
        · exact .inr plain

theorem isSeparator_digit {c : Char} (digit : c.isDigit = true) : isSeparator c = false := by
  rw [isSeparator,isSpace_digit digit,Bool.false_or,beq_eq_false_iff_ne]
  rintro rfl
  cases digit

theorem plain_printInt (value : Int32) : ∀ c ∈ printInt value,isSeparator c = false := by
  intro c member
  obtain sign | digit := List.mem_append.mp member
  · split_ifs at sign
    · rw [List.mem_singleton.mp sign]
      rfl
    · cases sign
  · exact isSeparator_digit (isDigit_of_mem_toDigits digit)

theorem plain_append {text rest : List Char} (first : ∀ c ∈ text,isSeparator c = false)
    (second : ∀ c ∈ rest,isSeparator c = false) : ∀ c ∈ text ++ rest,isSeparator c = false :=
  List.forall_mem_append.mpr ⟨first,second⟩

theorem plain_cons {c : Char} {rest : List Char} (first : isSeparator c = false)
    (second : ∀ c ∈ rest,isSeparator c = false) : ∀ d ∈ c :: rest,isSeparator d = false :=
  List.forall_mem_cons.mpr ⟨first,second⟩

theorem plain_suffix {prerelease : List Char} (unbroken : Unbroken prerelease) : ∀ c ∈ suffix prerelease,isSeparator c = false := by
  rw [suffix]
  split_ifs
  · exact List.forall_mem_nil _
  · exact plain_cons rfl unbroken

theorem plain_print {version : SemanticVersion} (unbroken : Unbroken version.prerelease) :
    ∀ c ∈ version.print,isSeparator c = false :=
  plain_append (plain_printInt _) (plain_cons rfl (plain_append (plain_printInt _) (plain_cons rfl
    (plain_append (plain_printInt _) (plain_suffix unbroken)))))

theorem print_ne_nil (version : SemanticVersion) : version.print ≠ [] :=
  List.append_ne_nil_of_right_ne_nil _ (List.cons_ne_nil _ _)

end Words

namespace Piece

theorem plain_operatorText (isBare : Bool) (op : Operator) : ∀ c ∈ operatorText isBare op,isSeparator c = false := by
  have plain : (operatorText isBare op).all fun c => !isSeparator c := by
    cases isBare <;> cases op <;> rfl
  intro c member
  simpa using List.all_eq_true.1 plain c member

theorem plain_text {piece : Piece} (unbroken : Unbroken piece.constraint.version.prerelease) :
    ∀ c ∈ piece.text,isSeparator c = false :=
  plain_append (plain_operatorText _ _) (plain_print unbroken)

theorem text_ne_nil (piece : Piece) : piece.text ≠ [] := List.append_ne_nil_of_right_ne_nil _ (print_ne_nil _)

variable {pieces : List Piece} {trailing : List Char}

theorem words_joined_behind {word : List Char} (nonempty : word ≠ []) (separates : ∀ c ∈ trailing,isSeparator c = true)
    (apart : ∀ piece ∈ pieces,piece.separator ≠ [])
    (unbroken : ∀ piece ∈ pieces,Unbroken piece.constraint.version.prerelease) :
    words word (joined pieces trailing) = word :: pieces.map text := by
  induction pieces generalizing word with
  | nil =>
      cases trailing with
      | nil => exact if_neg nonempty
      | cons c trailing =>
          have rest := words_behind nonempty (List.cons_ne_nil c trailing) separates []
          rw [List.append_nil] at rest
          exact rest
  | cons piece pieces ih =>
      obtain ⟨first,apart⟩ := List.forall_mem_cons.mp apart
      obtain ⟨whole,unbroken⟩ := List.forall_mem_cons.mp unbroken
      rw [joined,words_behind nonempty first piece.separates,words_plain [] (plain_text whole),List.nil_append,
        ih piece.text_ne_nil apart unbroken]
      rfl

theorem words_joined (separates : ∀ c ∈ trailing,isSeparator c = true) (apart : ∀ piece ∈ pieces.tail,piece.separator ≠ [])
    (unbroken : ∀ piece ∈ pieces,Unbroken piece.constraint.version.prerelease) :
    words [] (joined pieces trailing) = pieces.map text := by
  cases pieces with
  | nil =>
      have rest := words_separator separates []
      rw [List.append_nil] at rest
      exact rest
  | cons piece pieces =>
      obtain ⟨whole,unbroken⟩ := List.forall_mem_cons.mp unbroken
      rw [joined,words_separator piece.separates,words_plain [] (plain_text whole),List.nil_append]
      exact words_joined_behind piece.text_ne_nil separates apart unbroken

theorem trim_plain {text : List Char} (plain : ∀ c ∈ text,isSeparator c = false) : trim text = text := by
  have solid {c : Char} (member : c ∈ text) : isSpace c = false := (Bool.or_eq_false_iff.mp (plain c member)).1
  exact trim_eq_self (fun c first => solid (List.mem_of_mem_head? first)) fun c last => solid (List.mem_of_getLast? last)

theorem print_cons {version : SemanticVersion} (proper : version.Proper) :
    ∃ c text,version.print = c :: text ∧ c.isDigit = true := by
  rw [SemanticVersion.print,printInt,if_neg (Int.not_lt.mpr proper.major)]
  cases digits : Nat.toDigits 10 version.major.toInt.natAbs with
  | nil => exact absurd digits Nat.toDigits_ne_nil
  | cons c text => exact ⟨c,_,rfl,isDigit_of_mem_toDigits (digits ▸ List.mem_cons_self)⟩

theorem readOperator_text (isBare : Bool) (op : Operator) {c : Char} (digit : c.isDigit = true) (text : List Char) :
    readOperator (operatorText isBare op ++ c :: text) = (op,c :: text) := by
  have other (d : Char) (noDigit : d.isDigit = false) (rest : List Char) (same : c :: text = d :: rest) : False := by
    rw [(List.cons.inj same).1,noDigit] at digit
    cases digit
  have bare : readOperator (c :: text) = (.equal,c :: text) := by
    apply readOperator.eq_8
    · exact other '^' rfl
    · exact other '~' rfl
    · exact fun rest => other '>' rfl ('=' :: rest)
    · exact other '>' rfl
    · exact fun rest => other '<' rfl ('=' :: rest)
    · exact other '<' rfl
    · exact other '=' rfl
  cases op with
  | equal =>
      cases isBare with
      | false => rfl
      | true => exact bare
  | greater =>
      cases isBare
      · exact readOperator.eq_4 (c :: text) (other '=' rfl)
      · exact readOperator.eq_4 (c :: text) (other '=' rfl)
  | less =>
      cases isBare
      · exact readOperator.eq_6 (c :: text) (other '=' rfl)
      · exact readOperator.eq_6 (c :: text) (other '=' rfl)
  | greaterOrEqual => cases isBare <;> rfl
  | lessOrEqual => cases isBare <;> rfl
  | compatible => cases isBare <;> rfl
  | approximately => cases isBare <;> rfl

theorem parseConstraint_text {piece : Piece} (proper : piece.constraint.version.Proper)
    (unbroken : Unbroken piece.constraint.version.prerelease) : parseConstraint piece.text = some piece.constraint := by
  obtain ⟨c,text,same,digit⟩ := print_cons proper
  have version := (parseVersion_print (trim_plain unbroken)).mpr ⟨proper.major,proper.minor,proper.patch⟩
  rw [parseConstraint,trim_plain (plain_text unbroken),Piece.text,same,readOperator_text _ _ digit]
  rw [same] at version
  exact congrArg (Option.map _) version

theorem subset_trim {text : List Char} {c : Char} (member : c ∈ trim text) : c ∈ text := by
  rw [trim,List.mem_reverse] at member
  have behind := (List.dropWhile_sublist isSpace).subset member
  rw [List.mem_reverse] at behind
  exact (List.dropWhile_sublist isSpace).subset behind

theorem subset_readOperator {text : List Char} {c : Char} (member : c ∈ (readOperator text).2) : c ∈ text := by
  unfold readOperator at member
  split at member
  · exact List.mem_cons_of_mem _ member
  · exact List.mem_cons_of_mem _ member
  · exact List.mem_cons_of_mem _ (List.mem_cons_of_mem _ member)
  · exact List.mem_cons_of_mem _ member
  · exact List.mem_cons_of_mem _ (List.mem_cons_of_mem _ member)
  · exact List.mem_cons_of_mem _ member
  · exact List.mem_cons_of_mem _ member
  · exact member

theorem subset_parseConstraint {word : List Char} {constraint : Constraint} (read : parseConstraint word = some constraint)
    {c : Char} (member : c ∈ constraint.version.prerelease) : c ∈ word := by
  obtain ⟨version,parsed,rfl⟩ := Option.map_eq_some_iff.mp read
  obtain ⟨written,same,rfl⟩ := VersionText.exists_of_parseVersion parsed
  replace member : c ∈ written.prerelease := member
  have inside : c ∈ suffix written.prerelease := by
    rw [suffix,if_neg (List.ne_nil_of_mem member)]
    exact List.mem_cons_of_mem _ member
  have among : c ∈ written.chars := List.mem_append_right _ (List.mem_cons_of_mem _ (List.mem_append_right _
    (List.mem_cons_of_mem _ (List.mem_append_right _ inside))))
  rw [same] at among
  change c ∈ trim (readOperator (trim word)).2 at among
  exact subset_trim (subset_readOperator (subset_trim among))

theorem mem_of_mapM {words : List (List Char)} (read : words.mapM parseConstraint = some constraints)
    {constraint : Constraint} (member : constraint ∈ constraints) : ∃ word ∈ words,parseConstraint word = some constraint := by
  induction words generalizing constraints with
  | nil =>
      cases read
      cases member
  | cons word words ih =>
      rw [List.mapM_cons] at read
      obtain ⟨first,known,rest⟩ := Option.bind_eq_some_iff.mp read
      obtain ⟨others,known',same⟩ := Option.bind_eq_some_iff.mp rest
      cases same
      obtain rfl | member := List.mem_cons.mp member
      · exact ⟨word,List.mem_cons_self,known⟩
      · obtain ⟨word',member,known⟩ := ih known' member
        exact ⟨word',List.mem_cons_of_mem _ member,known⟩

theorem mapM_texts (proper : ∀ piece ∈ pieces,piece.constraint.version.Proper)
    (unbroken : ∀ piece ∈ pieces,Unbroken piece.constraint.version.prerelease) :
    (pieces.map text).mapM parseConstraint = some (pieces.map constraint) := by
  induction pieces with
  | nil => rfl
  | cons piece pieces ih =>
      obtain ⟨known,proper⟩ := List.forall_mem_cons.mp proper
      obtain ⟨whole,unbroken⟩ := List.forall_mem_cons.mp unbroken
      rw [List.map_cons,List.mapM_cons,parseConstraint_text known whole,Option.bind_eq_bind,Option.bind_some,
        ih proper unbroken]
      rfl

theorem parse_joined (separates : ∀ c ∈ trailing,isSeparator c = true) (apart : ∀ piece ∈ pieces.tail,piece.separator ≠ [])
    (proper : ∀ piece ∈ pieces,piece.constraint.version.Proper) :
    VersionExpression.parse (joined pieces trailing) = some ⟨pieces.map constraint⟩ ↔
      pieces ≠ [] ∧ ∀ piece ∈ pieces,Unbroken piece.constraint.version.prerelease := by
  constructor
  · intro read
    obtain ⟨constraints,known,same⟩ := Option.bind_eq_some_iff.mp read
    have nonempty : constraints ≠ [] := by
      rintro rfl
      cases same
    rw [if_neg (by rw [List.isEmpty_iff]; exact nonempty)] at same
    cases same
    refine ⟨fun none => nonempty (by rw [none]; rfl),fun piece member c inside => ?_⟩
    obtain ⟨word,among,parsed⟩ := mem_of_mapM known (List.mem_map_of_mem member)
    exact (plain_of_mem_words among (subset_parseConstraint parsed inside)).resolve_left List.not_mem_nil
  · rintro ⟨nonempty,unbroken⟩
    rw [VersionExpression.parse,words_joined separates apart unbroken,mapM_texts proper unbroken]
    refine if_neg ?_
    rw [List.isEmpty_iff,List.map_eq_nil_iff]
    exact nonempty

end Piece

open Piece

theorem words_apart {c : Char} (separates : (isSpace c || c == ',') = true) (word left right : List Char) :
    words word (left ++ c :: right) = words word left ++ words [] right := by
  induction left generalizing word with
  | nil =>
      simp only [List.nil_append,words,separates,if_true]
      split
      · rfl
      · rfl
  | cons d left ih =>
      rw [List.cons_append,words,words]
      split
      · split
        · exact ih []
        · rw [ih [],List.cons_append]
      · exact ih (word ++ [d])

theorem parse_eq_some {text : List Char} {expression : VersionExpression} : VersionExpression.parse text = some expression ↔
    (words [] text).mapM parseConstraint = some expression.constraints ∧ expression.constraints ≠ [] := by
  rw [VersionExpression.parse]
  cases (words [] text).mapM parseConstraint with
  | none => exact ⟨nofun,fun both => nomatch both.1⟩
  | some constraints =>
      cases constraints with
      | nil => exact ⟨nofun,fun both => absurd (Option.some.inj both.1).symm both.2⟩
      | cons =>
          constructor
          · rintro ⟨⟩
            exact ⟨rfl,List.cons_ne_nil _ _⟩
          · rintro ⟨same,_⟩
            exact congrArg (Option.map VersionExpression.mk) same

/-- A text of two expressions with a comma between them is an expression, which asks for what both of them ask for. -/
theorem satisfies_apart {left right : List Char} {expression expression' : VersionExpression}
    (read : VersionExpression.parse left = some expression) (read' : VersionExpression.parse right = some expression') :
    ∃ both,VersionExpression.parse (left ++ ',' :: right) = some both ∧
      ∀ version,both.satisfies version = (expression.satisfies version && expression'.satisfies version) := by
  obtain ⟨known,present⟩ := parse_eq_some.mp read
  obtain ⟨known',_⟩ := parse_eq_some.mp read'
  refine ⟨⟨expression.constraints ++ expression'.constraints⟩,parse_eq_some.mpr ⟨?_,?_⟩,fun version => List.all_append⟩
  · rw [words_apart rfl,List.mapM_append,known,known']
    rfl
  · exact List.append_ne_nil_of_left_ne_nil present _

theorem satisfies_apart_range : ∃ both,VersionExpression.parse (">=1.0.0".toList ++ ',' :: "<2.0.0".toList) = some both ∧
    both.satisfies ⟨1,5,0,[]⟩ = true := by
  obtain ⟨both,read,same⟩ := satisfies_apart (show VersionExpression.parse ">=1.0.0".toList = some _ from rfl)
    (show VersionExpression.parse "<2.0.0".toList = some _ from rfl)
  exact ⟨both,read,(same _).trans (by decide)⟩

/-- An expression is read from the texts of its constraints, and stands for their intervals. -/
theorem versionExpressions_iff (pieces : List Piece) (trailing : List Char) (separates : ∀ c ∈ trailing,isSeparator c = true)
    (apart : ∀ piece ∈ pieces.tail,piece.separator ≠ []) (proper : ∀ piece ∈ pieces,piece.constraint.version.Proper) :
    VersionExpression.parse (joined pieces trailing) = some ⟨pieces.map constraint⟩ ∧ DenotesIntervals (pieces.map constraint) ↔
      (pieces ≠ [] ∧ ∀ piece ∈ pieces,Unbroken piece.constraint.version.prerelease) ∧
        ((∀ piece ∈ pieces,¬piece.constraint.AtLimit) ∨
          ∀ version : SemanticVersion,version.Proper → version.key ∉ intersection (pieces.map constraint)) := by
  rw [← List.forall_mem_map (P := fun constraint => ¬Constraint.AtLimit constraint)]
  apply and_congr (parse_joined separates apart proper)
  apply denotesIntervals_iff
  intro asked member
  obtain ⟨piece,among,rfl⟩ := List.mem_map.mp member
  exact proper piece among

def pairOfPieces : List Piece :=
  [⟨[],List.all_eq_true.1 rfl,false,.greaterOrEqual,⟨1,2,0,[]⟩⟩,⟨[',',' '],List.all_eq_true.1 rfl,false,.compatible,⟨1,4,7,['r','c']⟩⟩]

theorem versionExpressions_iff_pair :
    VersionExpression.parse (joined pairOfPieces []) = some ⟨pairOfPieces.map constraint⟩ ∧
      DenotesIntervals (pairOfPieces.map constraint) ↔
      (pairOfPieces ≠ [] ∧ ∀ piece ∈ pairOfPieces,Unbroken piece.constraint.version.prerelease) ∧
        ((∀ piece ∈ pairOfPieces,¬piece.constraint.AtLimit) ∨
          ∀ version : SemanticVersion,version.Proper → version.key ∉ intersection (pairOfPieces.map constraint)) :=
  versionExpressions_iff pairOfPieces [] (List.all_eq_true.1 rfl) (by decide) (by
    intro piece member
    obtain rfl | member := List.mem_cons.mp member
    · exact ⟨by decide,by decide,by decide⟩
    · rw [List.mem_singleton.mp member]
      exact ⟨by decide,by decide,by decide⟩)

/-- A version at the limit is not compatible with itself. -/
theorem not_compatible_self :
    VersionExpression.parse "^2147483647.0.0".toList = some ⟨[⟨.compatible,⟨2147483647,0,0,[]⟩⟩]⟩ ∧
      VersionExpression.satisfies ⟨[⟨.compatible,⟨2147483647,0,0,[]⟩⟩]⟩ ⟨2147483647,0,0,[]⟩ = false ∧
      ¬DenotesIntervals [⟨.compatible,⟨2147483647,0,0,[]⟩⟩] := by
  refine ⟨rfl,by decide,fun denotes => ?_⟩
  have proper : SemanticVersion.Proper ⟨2147483647,0,0,[]⟩ := ⟨by decide,by decide,by decide⟩
  have satisfied := (denotes ⟨2147483647,0,0,[]⟩ proper).mpr fun constraint member => by
    rw [List.mem_singleton.mp member]
    refine ⟨le_rfl,?_⟩
    rw [SemanticVersion.nextIncompatible,if_pos (by decide),SemanticVersion.key,versionKey_lt]
    exact .inl (by decide)
  cases satisfied

end ShardScript.Libraries
