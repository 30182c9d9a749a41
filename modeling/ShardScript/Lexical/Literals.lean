import ShardScript.Lexical.Layout

/-! Literals in source texts: which word the token of a string or of a number gets, and where it ends. -/
namespace ShardScript.Lexical

variable {locale : Locale}

section Strings

def hasEvenBackslashes (before : List Char) : Bool := (before.reverse.takeWhile (· = '\\')).length % 2 = 0

/-- What stands between the quotes of a literal: behind it is the first quote that an even number of backslashes precedes. -/
structure IsLiteralText (body : List Char) : Prop where
  closed : hasEvenBackslashes body = true
  first : ∀ before after, body = before ++ '"' :: after → hasEvenBackslashes before = false

@[grind] def escapeLetters : List Char → List Char
  | '\\' :: letter :: text => letter :: escapeLetters text
  | _ :: text => escapeLetters text
  | [] => []

/-- The word of a literal, where an escape sequence is the character that it is in a character literal. -/
inductive Denotes (locale : Locale) : List Char → List Char → Prop where
  | nil : Denotes locale [] []
  | plain {ch : Char} {text word : List Char} (plain : ch ≠ '\\') (rest : Denotes locale text word) :
      Denotes locale (ch :: text) (ch :: word)
  | escape {letter ch : Char} {text word : List Char}
      (spells : Spells locale ['\'','\\',letter,'\''] (.charLiteral,[ch])) (rest : Denotes locale text word) :
      Denotes locale ('\\' :: letter :: text) (ch :: word)

def escapeString (string : List Char) : List Char :=
  string.flatMap fun ch =>
    if ch = '"' then ['\\','"'] else if ch = '\\' then ['\\','\\'] else if ch = '\n' then ['\\','n'] else [ch]

def ReadsString (locale : Locale) (reader : Reader) (rest word : List Char) : Prop :=
  ∃ token next, readNextToken locale reader = (some token,next) ∧ token.content = (.stringLiteral,word) ∧
    next.text = rest ∧ next.putbackSymbol = none

def quoted (name : String) (position : Position) (body rest : List Char) : Reader :=
  ⟨name,'"' :: (body ++ '"' :: rest),position,none⟩

inductive Pieces : List Char → Prop where
  | nil : Pieces []
  | plain {ch : Char} {text : List Char} (backslash : ch ≠ '\\') (quote : ch ≠ '"') (rest : Pieces text) :
      Pieces (ch :: text)
  | escape (letter : Char) {text : List Char} (rest : Pieces text) : Pieces ('\\' :: letter :: text)

theorem hasEvenBackslashes_append {front : List Char} (even : hasEvenBackslashes front = true) (text : List Char) :
    hasEvenBackslashes (front ++ text) = hasEvenBackslashes text := by
  rw [hasEvenBackslashes,decide_eq_true_eq] at even
  rw [hasEvenBackslashes,List.reverse_append,List.takeWhile_append,hasEvenBackslashes]
  split_ifs with whole
  · rw [List.length_append,← whole,Nat.add_mod,even,Nat.add_zero,Nat.mod_mod]
  · rfl

theorem hasEvenBackslashes_plain {ch : Char} (other : ch ≠ '\\') : hasEvenBackslashes [ch] = true := by
  simp [hasEvenBackslashes,other]

theorem hasEvenBackslashes_escape (letter : Char) : hasEvenBackslashes ['\\',letter] = true := by
  by_cases same : letter = '\\'
  · subst same
    rfl
  · simp [hasEvenBackslashes,same]

theorem IsLiteralText.of_append {front text : List Char} (even : hasEvenBackslashes front = true)
    (literal : IsLiteralText (front ++ text)) : IsLiteralText text := by
  constructor
  · rw [← hasEvenBackslashes_append even text]
    exact literal.closed
  · intro before after same
    rw [← hasEvenBackslashes_append even before]
    apply literal.first (front ++ before) after
    rw [same,List.append_assoc]

theorem IsLiteralText.pieces : {body : List Char} → IsLiteralText body → Pieces body
  | [],_ => .nil
  | ch :: text,literal => by
      by_cases backslash : ch = '\\'
      · subst backslash
        cases text with
        | nil => exact absurd literal.closed (by decide)
        | cons letter text =>
          have even := hasEvenBackslashes_escape letter
          exact .escape letter (IsLiteralText.of_append even literal).pieces
      · have quote : ch ≠ '"' := by
          rintro rfl
          have odd := literal.first [] text rfl
          exact absurd odd (by decide)
        have even := hasEvenBackslashes_plain backslash
        exact .plain backslash quote (IsLiteralText.of_append even literal).pieces
  termination_by body => body.length

section Beginning

theorem skipSpace_graphic (lawful : locale.Lawful) {ch : Char} (graphic : '!' ≤ ch ∧ ch ≤ '~') (text : List Char)
    (position : Position) : skipSpace locale (ch :: text) position = (some ch,text,position.advance ch) := by
  have space : locale.isSpace ch = false := by
    rw [Bool.eq_false_iff]
    exact fun space => lawful.graphic ch space graphic
  have marks : ¬ (ch = '\uEFBB' ∨ ch = '\uFEFF' ∨ ch = '\uFFFE' ∨ ch = '\n') := by
    rintro (rfl | rfl | rfl | rfl)
    · exact absurd graphic (by decide)
    · exact absurd graphic (by decide)
    · exact absurd graphic (by decide)
    · exact absurd graphic (by decide)
  have null : ch ≠ '\x00' := by
    rintro rfl
    exact absurd graphic (by decide)
  simp only [skipSpace,if_neg marks,if_neg null,space,Bool.false_eq_true,if_false]

theorem readNextReal_graphic (lawful : locale.Lawful) {ch : Char} (graphic : '!' ≤ ch ∧ ch ≤ '~') (name : String)
    (text : List Char) (position : Position) :
    readNextReal locale ⟨name,ch :: text,position,none⟩ = (some ch,⟨name,text,position.advance ch,none⟩) := by
  simp only [readNextReal,skipSpace_graphic lawful graphic]

theorem readNextWord_literal (lawful : locale.Lawful) {ch : Char} (graphic : '!' ≤ ch ∧ ch ≤ '~') (dot : ch ≠ '.')
    (punctuation : punctuationOf ch = none) (operator : operatorsOf ch = none) (name : String) (text : List Char)
    (position : Position) : readNextWord locale ⟨name,ch :: text,position,none⟩ =
      readLiteralOrWord locale ch ⟨name,text,position.advance ch,none⟩ := by
  have question : ch ≠ questionMark := by
    rintro rfl
    exact absurd graphic (by decide)
  rw [readNextWord,readNextWordWithin,readNextReal_graphic lawful graphic]
  simp only [isPunctuation,if_neg dot,if_neg question,punctuation,Option.map_none,isOperator,operator]

end Beginning

theorem spells_escape_iff (lawful : locale.Lawful) {letter ch : Char} :
    Spells locale ['\'','\\',letter,'\''] (.charLiteral,[ch]) ↔ ch = unescape letter := by
  have word : readNextWord locale (.of "" ['\'','\\',letter,'\'']) =
      (some ⟨.charLiteral,[unescape letter],⟨"",[],_,none⟩⟩,⟨"",[],_,none⟩) :=
    readNextWord_literal lawful (by decide) (by decide) rfl rfl "" _ _
  constructor
  · rintro ⟨token,next,read,content,_⟩
    obtain ⟨lexeme,known,rfl⟩ := readNextToken_some.1 read
    rw [word] at known
    cases known
    have same : [unescape letter] = [ch] := congrArg Prod.snd content
    exact (List.head_eq_of_cons_eq same).symm
  · rintro rfl
    exact ⟨_,_,readNextToken_some.2 ⟨_,word,rfl⟩,rfl,rfl,rfl⟩

def behind (symbols : List Char) (read : Option (List Char) × List Char × Position) :
    Option (List Char) × List Char × Position :=
  (read.1.map (symbols ++ ·),read.2)

theorem behind_eq_some {symbols word left : List Char} {read : Option (List Char) × List Char × Position}
    {final : Position} : behind symbols read = (some word,left,final) ↔
      ∃ rest, read = (some rest,left,final) ∧ word = symbols ++ rest := by
  obtain ⟨found,left',final'⟩ := read
  simp only [behind,Prod.mk.injEq,Option.map_eq_some_iff]
  constructor
  · rintro ⟨⟨rest,known,same⟩,rfl,rfl⟩
    exact ⟨rest,⟨known,rfl,rfl⟩,same.symm⟩
  · rintro ⟨rest,⟨known,rfl,rfl⟩,same⟩
    exact ⟨⟨rest,known,same.symm⟩,rfl,rfl⟩

section Steps

variable (ecran : Bool) (ch : Char) (text : List Char) (position : Position)

theorem readStringLiteral_backslash : readStringLiteral ecran ('\\' :: text) position =
    behind (if ecran then ['\\'] else []) (readStringLiteral (!ecran) text (position.advance '\\')) := by
  cases ecran <;> rfl

theorem readStringLiteral_quote : readStringLiteral ecran ('"' :: text) position =
    if ecran then behind ['"'] (readStringLiteral false text (position.advance '"'))
    else (some [],text,position.advance '"') := by
  cases ecran <;> rfl

theorem readStringLiteral_n : readStringLiteral ecran ('n' :: text) position =
    behind [if ecran then '\n' else 'n'] (readStringLiteral false text (position.advance 'n')) := by
  cases ecran <;> rfl

variable {ch}

theorem readStringLiteral_other (backslash : ch ≠ '\\') (quote : ch ≠ '"') (n : ch ≠ 'n') :
    readStringLiteral ecran (ch :: text) position =
      behind [ch] (readStringLiteral ecran text (position.advance ch)) := by
  rw [readStringLiteral,if_neg backslash,if_neg quote,if_neg n]
  rfl

theorem readStringLiteral_plain (backslash : ch ≠ '\\') (quote : ch ≠ '"') :
    readStringLiteral false (ch :: text) position =
      behind [ch] (readStringLiteral false text (position.advance ch)) := by
  by_cases n : ch = 'n'
  · subst n
    exact readStringLiteral_n false text position
  · exact readStringLiteral_other false text position backslash quote n

end Steps

theorem readStringLiteral_shorter {ecran : Bool} {text left word : List Char} {position final : Position}
    (read : readStringLiteral ecran text position = (some word,left,final)) : left.length < text.length := by
  induction text generalizing ecran position word with
  | nil => cases read
  | cons ch text ih =>
    simp only [readStringLiteral] at read
    have shorter {ecran : Bool} {symbols : List Char}
        (read : behind symbols (readStringLiteral ecran text (position.advance ch)) = (some word,left,final)) :
        left.length < text.length + 1 := by
      obtain ⟨rest,read,_⟩ := behind_eq_some.1 read
      exact Nat.lt_succ_of_lt (ih read)
    split_ifs at read
    any_goals exact shorter read
    cases read
    exact Nat.lt_succ_self _

def stringEscapes : List Char := ['n','\\','"']

theorem unescape_eq_backslash {letter : Char} (same : unescape letter = '\\') : letter = '\\' := by
  unfold unescape at same
  split at same
  · exact absurd same (by decide)
  · exact absurd same (by decide)
  · exact absurd same (by decide)
  · exact absurd same (by decide)
  · exact same

variable {rest : List Char} {body : List Char}

theorem not_denotes_escaped (lawful : locale.Lawful) (pieces : Pieces body) {word : List Char} {position final : Position}
    (read : readStringLiteral true (body ++ '"' :: rest) position = (some word,rest,final)) :
    ¬ Denotes locale body word := by
  induction pieces generalizing word position with
  | nil =>
    rw [List.nil_append,readStringLiteral_quote,if_pos rfl] at read
    obtain ⟨_,read,_⟩ := behind_eq_some.1 read
    exact absurd (readStringLiteral_shorter read) (Nat.lt_irrefl _)
  | @plain ch text backslash quote pieces ih =>
    rw [List.cons_append] at read
    intro denotes
    by_cases n : ch = 'n'
    · subst n
      rw [readStringLiteral_n] at read
      obtain ⟨_,_,rfl⟩ := behind_eq_some.1 read
      cases denotes
    · rw [readStringLiteral_other _ _ _ backslash quote n] at read
      obtain ⟨_,inner,rfl⟩ := behind_eq_some.1 read
      cases denotes with
      | plain _ denotes => exact ih inner denotes
      | escape => exact backslash rfl
  | @escape letter text pieces ih =>
    rw [List.cons_append,List.cons_append,readStringLiteral_backslash] at read
    obtain ⟨word,inner,rfl⟩ := behind_eq_some.1 read
    intro denotes
    cases denotes with
    | plain other => exact other rfl
    | escape spells denotes =>
      obtain rfl := unescape_eq_backslash ((spells_escape_iff lawful).1 spells).symm
      rw [Bool.not_true,readStringLiteral_backslash] at inner
      obtain ⟨word,inner',rfl⟩ := behind_eq_some.1 inner
      exact ih inner' denotes

theorem escapeLetters_plain {ch : Char} (other : ch ≠ '\\') (text : List Char) :
    escapeLetters (ch :: text) = escapeLetters text := by
  rw [escapeLetters]
  intro letter text' same _
  exact other same

theorem spells_known (lawful : locale.Lawful) {letter ch : Char} (known : letter ∈ stringEscapes) :
    Spells locale ['\'','\\',letter,'\''] (.charLiteral,[ch]) ↔ ch = if letter = 'n' then '\n' else letter := by
  rw [spells_escape_iff lawful]
  have same : unescape letter = if letter = 'n' then '\n' else letter := by
    simp only [stringEscapes,List.mem_cons,List.not_mem_nil,or_false] at known
    rcases known with rfl | rfl | rfl <;> rfl
  rw [same]

theorem readStringLiteral_escape {letter : Char} (known : letter ∈ stringEscapes) (text : List Char) (position : Position) :
    readStringLiteral false ('\\' :: letter :: text) position =
      behind [if letter = 'n' then '\n' else letter]
        (readStringLiteral false text ((position.advance '\\').advance letter)) := by
  have none (read : Option (List Char) × List Char × Position) : behind [] read = read := by
    obtain ⟨_ | word,left,final⟩ := read <;> rfl
  rw [readStringLiteral_backslash,if_neg Bool.false_ne_true,none,Bool.not_false]
  simp only [stringEscapes,List.mem_cons,List.not_mem_nil,or_false] at known
  rcases known with rfl | rfl | rfl
  · rw [readStringLiteral_n]
    rfl
  · rw [readStringLiteral_backslash]
    rfl
  · rw [readStringLiteral_quote]
    rfl

theorem denotes_of_known (lawful : locale.Lawful) (pieces : Pieces body)
    (known : ∀ letter ∈ escapeLetters body,letter ∈ stringEscapes) (position : Position) :
    ∃ word final, readStringLiteral false (body ++ '"' :: rest) position = (some word,rest,final) ∧
      Denotes locale body word := by
  induction pieces generalizing position with
  | nil => exact ⟨[],_,readStringLiteral_quote false rest position,.nil⟩
  | @plain ch text backslash quote pieces ih =>
    rw [escapeLetters_plain backslash] at known
    obtain ⟨word,final,read,denotes⟩ := ih known (position.advance ch)
    refine ⟨ch :: word,final,?_,.plain backslash denotes⟩
    rw [List.cons_append,readStringLiteral_plain _ _ backslash quote,read]
    rfl
  | @escape letter text pieces ih =>
    rw [escapeLetters,List.forall_mem_cons] at known
    obtain ⟨word,final,read,denotes⟩ := ih known.2 ((position.advance '\\').advance letter)
    refine ⟨_,final,?_,.escape ((spells_known lawful known.1).2 rfl) denotes⟩
    rw [List.cons_append,List.cons_append,readStringLiteral_escape known.1,read]
    rfl

theorem known_of_denotes (lawful : locale.Lawful) (pieces : Pieces body) {word : List Char}
    {position final : Position} (read : readStringLiteral false (body ++ '"' :: rest) position = (some word,rest,final))
    (denotes : Denotes locale body word) : ∀ letter ∈ escapeLetters body,letter ∈ stringEscapes := by
  induction pieces generalizing word position with
  | nil =>
    intro letter member
    cases member
  | @plain ch text backslash quote pieces ih =>
    rw [List.cons_append,readStringLiteral_plain _ _ backslash quote] at read
    obtain ⟨_,inner,rfl⟩ := behind_eq_some.1 read
    rw [escapeLetters_plain backslash]
    cases denotes with
    | plain _ denotes => exact ih inner denotes
    | escape => exact absurd rfl backslash
  | @escape letter text pieces ih =>
    rw [List.cons_append,List.cons_append] at read
    rw [escapeLetters,List.forall_mem_cons]
    by_cases known : letter ∈ stringEscapes
    · rw [readStringLiteral_escape known] at read
      obtain ⟨_,inner,same⟩ := behind_eq_some.1 read
      cases denotes with
      | plain other => exact absurd rfl other
      | escape _ denotes =>
        obtain ⟨_,rfl⟩ := List.cons.inj same
        exact ⟨known,ih inner denotes⟩
    · -- nothing takes the flag back before the closing quote
      simp only [stringEscapes,List.mem_cons,List.not_mem_nil,or_false,not_or] at known
      rw [readStringLiteral_backslash,Bool.not_false,readStringLiteral_other _ _ _ known.2.1 known.2.2 known.1] at read
      obtain ⟨_,read',rfl⟩ := behind_eq_some.1 read
      obtain ⟨_,inner,rfl⟩ := behind_eq_some.1 read'
      cases denotes with
      | plain other => exact absurd rfl other
      | escape _ denotes => exact absurd denotes (not_denotes_escaped lawful pieces inner)

theorem readStringLiteral_escapeString (string : List Char) (position : Position) :
    ∃ final, readStringLiteral false (escapeString string ++ '"' :: rest) position = (some string,rest,final) := by
  induction string generalizing position with
  | nil => exact ⟨_,readStringLiteral_quote false rest position⟩
  | cons ch string ih =>
    rw [escapeString,List.flatMap_cons,List.append_assoc]
    change ∃ final,readStringLiteral false (_ ++ (escapeString string ++ _)) position = _
    split_ifs with quote backslash line
    · obtain ⟨final,read⟩ := ih ((position.advance '\\').advance '"')
      refine ⟨final,?_⟩
      rw [List.cons_append,List.cons_append,List.nil_append,readStringLiteral_escape (by decide),read,quote]
      rfl
    · obtain ⟨final,read⟩ := ih ((position.advance '\\').advance '\\')
      refine ⟨final,?_⟩
      rw [List.cons_append,List.cons_append,List.nil_append,readStringLiteral_escape (by decide),read,backslash]
      rfl
    · obtain ⟨final,read⟩ := ih ((position.advance '\\').advance 'n')
      refine ⟨final,?_⟩
      rw [List.cons_append,List.cons_append,List.nil_append,readStringLiteral_escape (by decide),read,line]
      rfl
    · obtain ⟨final,read⟩ := ih (position.advance ch)
      refine ⟨final,?_⟩
      rw [List.cons_append,List.nil_append,readStringLiteral_plain _ _ backslash quote,read]
      rfl

theorem readsString_iff (lawful : locale.Lawful) {name : String} {position : Position} {body word : List Char} :
    ReadsString locale (quoted name position body rest) rest word ↔ ∃ final,
      readStringLiteral false (body ++ '"' :: rest) (position.advance '"') = (some word,rest,final) := by
  have next := @readNextWord_literal _ lawful '"' (by decide) (by decide) rfl rfl name (body ++ '"' :: rest) position
  rcases read : readStringLiteral false (body ++ '"' :: rest) (position.advance '"') with ⟨found,left,final⟩
  simp only [readLiteralOrWord,if_true,read] at next
  constructor
  · rintro ⟨token,after,known,content,text,_⟩
    obtain ⟨lexeme,same,rfl⟩ := readNextToken_some.1 known
    rw [quoted,next] at same
    cases found with
    | none => cases same
    | some found =>
      cases same
      cases content
      cases text
      exact ⟨final,rfl⟩
  · rintro ⟨_,same⟩
    cases same
    exact ⟨_,_,readNextToken_some.2 ⟨_,next,rfl⟩,rfl,rfl,rfl⟩

/-- Strings are read back, and a literal is read as one of characters would be if it has no other escape sequences than
`\n`, `\\` and `\"`, and only then. -/
theorem stringLiterals_iff (lawful : locale.Lawful) (name : String) (position : Position) :
    (∀ string rest, ReadsString locale (quoted name position (escapeString string) rest) rest string) ∧
      ∀ body rest, IsLiteralText body →
        ((∃ word, ReadsString locale (quoted name position body rest) rest word ∧ Denotes locale body word) ↔
          ∀ letter ∈ escapeLetters body,letter ∈ stringEscapes) := by
  constructor
  · intro string rest
    exact (readsString_iff lawful).2 (readStringLiteral_escapeString string _)
  · intro body rest literal
    constructor
    · rintro ⟨word,reads,denotes⟩
      obtain ⟨final,read⟩ := (readsString_iff lawful).1 reads
      exact known_of_denotes lawful literal.pieces read denotes
    · intro known
      obtain ⟨word,final,read,denotes⟩ := denotes_of_known lawful literal.pieces known (position.advance '"')
      exact ⟨word,(readsString_iff lawful).2 ⟨final,read⟩,denotes⟩

theorem stringLiterals_line : ReadsString .classic (quoted "" ⟨1,0⟩ (escapeString "a\n".toList) [';']) [';'] "a\n".toList :=
  (stringLiterals_iff Locale.classic_lawful "" ⟨1,0⟩).1 _ _

/-- The literal `"\t"` does not end at its quote. -/
theorem stringLiterals_tab : IsLiteralText ['\\','t'] ∧
    ¬ ∃ word, ReadsString .classic (quoted "" ⟨1,0⟩ ['\\','t'] []) [] word ∧ Denotes .classic ['\\','t'] word := by
  constructor
  · refine ⟨rfl,?_⟩
    intro before after same
    have member : '"' ∈ ['\\','t'] := by
      rw [same]
      exact List.mem_append_right _ (List.mem_cons_self ..)
    exact absurd member (by decide)
  · rintro ⟨word,reads,denotes⟩
    obtain ⟨final,read⟩ := (readsString_iff Locale.classic_lawful).1 reads
    have known := known_of_denotes Locale.classic_lawful (.escape 't' .nil) read denotes 't' (List.mem_cons_self ..)
    exact absurd known (by decide)

end Strings

section Numbers

def decimals : List Char := ['0','1','2','3','4','5','6','7','8','9']

def hexadecimals : List Char := decimals ++ ['a','b','c','d','e','f','A','B','C','D','E','F']

def basePrefixes : List (List Char × List Char) := [
  ([],decimals),(['0','d'],decimals),(['0','D'],decimals),(['0','x'],hexadecimals),(['0','X'],hexadecimals),
  (['0','b'],['0','1']),(['0','B'],['0','1'])]

def volumeSuffixes : List (List Char) :=
  [] :: ['k','m','g','t','p','K','M','G','T','P'].flatMap fun ratio => [[ratio,'b'],[ratio,'B']]

inductive Numeral : List Char → Prop where
  | integer {lead symbols digits trail : List Char} (base : (lead,symbols) ∈ basePrefixes) (present : digits ≠ [])
      (digits' : ∀ digit ∈ digits,digit ∈ symbols) (suffix : trail ∈ volumeSuffixes) :
      Numeral (lead ++ digits ++ trail)
  | floating {whole fraction : List Char} (present : whole ≠ []) (present' : fraction ≠ [])
      (digits : ∀ digit ∈ whole ++ fraction,digit ∈ decimals) : Numeral (whole ++ '.' :: fraction)

inductive Continues (locale : Locale) : List Char → Prop where
  | range (text : List Char) : Continues locale ('.' :: '.' :: text)
  | member {ch : Char} (letter : (locale.isAlnum ch = true ∨ ch = '_') ∧ ch ∉ decimals) (text : List Char) :
      Continues locale ('.' :: ch :: text)
  | operator {symbol : Char} (operator : (operatorsOf symbol).isSome = true) (text : List Char) :
      Continues locale (symbol :: text)
  | punctuation {symbol : Char} (punctuation : (punctuationOf symbol).isSome = true ∨ symbol = questionMark)
      (text : List Char) : Continues locale (symbol :: text)
  | space {ch : Char} (space : locale.isSpace ch = true) (text : List Char) : Continues locale (ch :: text)

def Position.behind (position : Position) (text : List Char) : Position :=
  text.foldl (fun position ch => position.advance ch) position

/-- One token is read with just this word, and the next one begins where the continuation does. -/
def ReadsNumber (locale : Locale) (name : String) (position : Position) (numeral continuation : List Char) : Prop :=
  ∃ token next, readNextToken locale ⟨name,numeral ++ continuation,position,none⟩ = (some token,next) ∧
    token.type ∈ [TokenType.numberLiteral,.doubleLiteral] ∧ token.word = numeral ∧
    readNextToken locale next = readNextToken locale ⟨name,continuation,position.behind numeral,none⟩

def TakesDot (continuation : List Char) : Prop :=
  ∃ ch text, continuation = '.' :: ch :: text ∧ isNumberSymbol ch = true

theorem isNumberSymbol_ne {ch other : Char} (number : isNumberSymbol ch = true) (none : isNumberSymbol other = false) :
    ch ≠ other := by
  rintro rfl
  rw [none] at number
  cases number

theorem readNumberSymbols_symbol {foundDelimeter separated : Bool} {ch : Char} (number : isNumberSymbol ch = true)
    (text : List Char) (position : Position) : readNumberSymbols foundDelimeter separated (ch :: text) position =
      (readNumberSymbols foundDelimeter false text (position.advance ch)).cons [ch] := by
  have separator : ¬ (ch = '`' ∧ separated = false) := fun same => isNumberSymbol_ne number (by decide) same.1
  have dot : ch ≠ '.' := isNumberSymbol_ne number (by decide)
  rw [readNumberSymbols.eq_def]
  simp only [if_neg separator,if_neg dot,if_pos number]

theorem readNumberSymbols_dot (foundDelimeter : Bool) (ch : Char) (text : List Char) (position : Position) :
    readNumberSymbols foundDelimeter false ('.' :: ch :: text) position =
      if foundDelimeter then ⟨[],'.' :: ch :: text,position,none⟩
      else if isNumberSymbol ch then
        (readNumberSymbols true false text ((position.advance '.').advance ch)).cons ['.',ch]
      else ⟨[],ch :: text,position,some '.'⟩ := by
  have separator : '.' ≠ '`' := by decide
  rw [readNumberSymbols.eq_def]
  simp only [separator,false_and,if_false,if_true]

theorem readNumberSymbols_stop (foundDelimeter : Bool) {ch : Char} (separator : ch ≠ '`') (dot : ch ≠ '.')
    (number : isNumberSymbol ch = false) (text : List Char) (position : Position) :
    readNumberSymbols foundDelimeter false (ch :: text) position = ⟨[],ch :: text,position,none⟩ := by
  rw [readNumberSymbols.eq_def]
  simp only [separator,dot,number,false_and,if_false,Bool.false_eq_true]

theorem NumberRest.cons_cons (symbols symbols' : List Char) (rest : NumberRest) :
    (rest.cons symbols').cons symbols = rest.cons (symbols ++ symbols') := by
  simp only [NumberRest.cons,List.append_assoc]

theorem NumberRest.cons_nil (rest : NumberRest) : rest.cons [] = rest := rfl

theorem readNumberSymbols_symbols {foundDelimeter : Bool} {symbols : List Char}
    (numbers : ∀ ch ∈ symbols,isNumberSymbol ch = true) (text : List Char) (position : Position) :
    readNumberSymbols foundDelimeter false (symbols ++ text) position =
      (readNumberSymbols foundDelimeter false text (position.behind symbols)).cons symbols := by
  induction symbols generalizing position with
  | nil => exact (NumberRest.cons_nil _).symm
  | cons ch symbols ih =>
    rw [List.forall_mem_cons] at numbers
    rw [List.cons_append,readNumberSymbols_symbol numbers.1,ih numbers.2,NumberRest.cons_cons]
    rfl

theorem isBasePrefixLetter_number {ch : Char} (letter : isBasePrefixLetter ch = true) : isNumberSymbol ch = true := by
  have all : ∀ ch ∈ ['x','X','d','D','b','B'],isNumberSymbol ch = true := by simp [isNumberSymbol]
  exact all ch (of_decide_eq_true letter)

theorem readNumberLiteral_eq (symbol : Char) (reader : Reader) : readNumberLiteral symbol reader =
    let rest := (readNumberSymbols false false reader.text reader.position).cons [symbol]
    ⟨if rest.word.contains '.' then .doubleLiteral else .numberLiteral,rest.word,
      { reader with text := rest.text, position := rest.position, putbackSymbol := rest.dot }⟩ := by
  by_cases zero : symbol = '0'
  · subst zero
    obtain ⟨name,text,position,putback⟩ := reader
    cases text with
    | nil => rfl
    | cons ch text =>
      simp only [readNumberLiteral]
      by_cases letter : isBasePrefixLetter ch = true
      · rw [if_pos letter,readNumberSymbols_symbol (isBasePrefixLetter_number letter),NumberRest.cons_cons]
        rfl
      · rw [if_neg letter]
  · exact readNumberLiteral_of_ne zero reader

theorem decimals_number {digit : Char} (decimal : digit ∈ decimals) : isNumberSymbol digit = true := by
  simp only [decimals,List.mem_cons,List.not_mem_nil,or_false] at decimal
  rcases decimal with rfl | rfl | rfl | rfl | rfl | rfl | rfl | rfl | rfl | rfl <;> rfl

theorem basePrefixes_numbers {lead symbols : List Char} (base : (lead,symbols) ∈ basePrefixes) :
    (∀ ch ∈ lead,isNumberSymbol ch = true) ∧ ∀ ch ∈ symbols,isNumberSymbol ch = true := by
  have hexadecimal : ∀ ch ∈ hexadecimals,isNumberSymbol ch = true := by
    intro ch member
    rcases List.mem_append.1 member with decimal | letter
    · exact decimals_number decimal
    · simp only [List.mem_cons,List.not_mem_nil,or_false] at letter
      rcases letter with rfl | rfl | rfl | rfl | rfl | rfl | rfl | rfl | rfl | rfl | rfl | rfl <;> rfl
  have binary : ∀ ch ∈ ['0','1'],isNumberSymbol ch = true := by simp [isNumberSymbol]
  have decimal : ∀ ch ∈ decimals,isNumberSymbol ch = true := fun _ => decimals_number
  simp only [basePrefixes,List.mem_cons,List.not_mem_nil,or_false,Prod.mk.injEq] at base
  rcases base with ⟨rfl,rfl⟩ | ⟨rfl,rfl⟩ | ⟨rfl,rfl⟩ | ⟨rfl,rfl⟩ | ⟨rfl,rfl⟩ | ⟨rfl,rfl⟩ | ⟨rfl,rfl⟩
  · exact ⟨by simp,decimal⟩
  · exact ⟨by simp [isNumberSymbol],decimal⟩
  · exact ⟨by simp [isNumberSymbol],decimal⟩
  · exact ⟨by simp [isNumberSymbol],hexadecimal⟩
  · exact ⟨by simp [isNumberSymbol],hexadecimal⟩
  · exact ⟨by simp [isNumberSymbol],binary⟩
  · exact ⟨by simp [isNumberSymbol],binary⟩

theorem volumeSuffixes_numbers {trail : List Char} (suffix : trail ∈ volumeSuffixes) :
    ∀ ch ∈ trail,isNumberSymbol ch = true := by
  simp only [volumeSuffixes,List.mem_cons,List.mem_flatMap,List.not_mem_nil,or_false] at suffix
  rcases suffix with rfl | ⟨ratio,known,rfl | rfl⟩
  · simp
  · rcases known with rfl | rfl | rfl | rfl | rfl | rfl | rfl | rfl | rfl | rfl <;> simp [isNumberSymbol]
  · rcases known with rfl | rfl | rfl | rfl | rfl | rfl | rfl | rfl | rfl | rfl <;> simp [isNumberSymbol]

theorem basePrefixes_first {lead symbols digits : List Char} (base : (lead,symbols) ∈ basePrefixes)
    (present : digits ≠ []) (known : ∀ digit ∈ digits,digit ∈ symbols) :
    ∃ first text, lead ++ digits = first :: text ∧ first ∈ decimals := by
  obtain ⟨digit,digits,rfl⟩ := List.exists_cons_of_ne_nil present
  have zero : '0' ∈ decimals := by simp [decimals]
  have own := known digit (List.mem_cons_self ..)
  simp only [basePrefixes,List.mem_cons,List.not_mem_nil,or_false,Prod.mk.injEq] at base
  rcases base with ⟨rfl,rfl⟩ | ⟨rfl,rfl⟩ | ⟨rfl,rfl⟩ | ⟨rfl,rfl⟩ | ⟨rfl,rfl⟩ | ⟨rfl,rfl⟩ | ⟨rfl,rfl⟩
  · exact ⟨digit,digits,rfl,own⟩
  · exact ⟨_,_,rfl,zero⟩
  · exact ⟨_,_,rfl,zero⟩
  · exact ⟨_,_,rfl,zero⟩
  · exact ⟨_,_,rfl,zero⟩
  · exact ⟨_,_,rfl,zero⟩
  · exact ⟨_,_,rfl,zero⟩

theorem not_contains_dot {symbols : List Char} (numbers : ∀ ch ∈ symbols,isNumberSymbol ch = true) :
    symbols.contains '.' = false := by
  rw [List.contains_eq_mem,decide_eq_false_iff_not]
  intro member
  exact absurd (numbers '.' member) (by decide)

theorem Numeral.read {numeral : List Char} (known : Numeral numeral) :
    ∃ first text, numeral = first :: text ∧ first ∈ decimals ∧ ∀ continuation position,
      (readNumberSymbols false false (text ++ continuation) (Position.advance first position)).cons [first] =
        (readNumberSymbols (numeral.contains '.') false continuation (position.behind numeral)).cons numeral := by
  cases known with
  | @integer lead symbols digits trail base present digits' suffix =>
    have numbers : ∀ ch ∈ lead ++ digits ++ trail,isNumberSymbol ch = true := by
      intro ch member
      rcases List.mem_append.1 member with member | member
      · rcases List.mem_append.1 member with member | member
        · exact (basePrefixes_numbers base).1 ch member
        · exact (basePrefixes_numbers base).2 ch (digits' ch member)
      · exact volumeSuffixes_numbers suffix ch member
    obtain ⟨first,text,same,decimal⟩ := basePrefixes_first base present digits'
    rw [same,List.cons_append] at numbers ⊢
    refine ⟨first,text ++ trail,rfl,decimal,?_⟩
    intro continuation position
    rw [not_contains_dot numbers,readNumberSymbols_symbols (List.forall_mem_cons.1 numbers).2,NumberRest.cons_cons]
    rfl
  | @floating whole fraction present present' digits =>
    obtain ⟨first,whole,rfl⟩ := List.exists_cons_of_ne_nil present
    obtain ⟨second,fraction,rfl⟩ := List.exists_cons_of_ne_nil present'
    have numbers : ∀ ch ∈ first :: whole ++ second :: fraction,isNumberSymbol ch = true :=
      fun ch member => decimals_number (digits ch member)
    refine ⟨first,whole ++ '.' :: second :: fraction,rfl,digits first (List.mem_cons_self ..),?_⟩
    intro continuation position
    have whole' : ∀ ch ∈ whole,isNumberSymbol ch = true :=
      fun ch member => numbers ch (List.mem_append_left _ (List.mem_cons_of_mem _ member))
    have second' : isNumberSymbol second = true := numbers second (List.mem_append_right _ (List.mem_cons_self ..))
    have fraction' : ∀ ch ∈ fraction,isNumberSymbol ch = true :=
      fun ch member => numbers ch (List.mem_append_right _ (List.mem_cons_of_mem _ member))
    have dot : (first :: whole ++ '.' :: second :: fraction).contains '.' = true := by simp
    rw [dot,List.append_assoc,readNumberSymbols_symbols whole',List.cons_append,List.cons_append,
      readNumberSymbols_dot,if_neg Bool.false_ne_true,if_pos second',readNumberSymbols_symbols fraction',
      NumberRest.cons_cons,NumberRest.cons_cons,NumberRest.cons_cons]
    simp only [Position.behind,List.foldl_append,List.foldl_cons,List.cons_append,List.nil_append,List.append_assoc]

theorem Continues.not_number {symbol : Char} (known : (operatorsOf symbol).isSome = true ∨
    (punctuationOf symbol).isSome = true ∨ symbol = questionMark) :
    symbol ≠ '`' ∧ symbol ≠ '.' ∧ isNumberSymbol symbol = false := by
  rcases known with operator | punctuation | rfl
  · unfold operatorsOf at operator
    split at operator
    all_goals first | exact ⟨by decide,by decide,by decide⟩ | cases operator
  · unfold punctuationOf at punctuation
    split at punctuation
    all_goals first | exact ⟨by decide,by decide,by decide⟩ | cases punctuation
  · exact ⟨by decide,by decide,by decide⟩

theorem readNextToken_putback (lawful : locale.Lawful) (name : String) (text : List Char) (position : Position) :
    readNextToken locale ⟨name,text,position,some '.'⟩ = readNextToken locale ⟨name,'.' :: text,position,none⟩ := by
  have same : readNextWord locale ⟨name,text,position,some '.'⟩ =
      readNextWord locale ⟨name,'.' :: text,position,none⟩ := by
    apply readNextWord_real
    · simp [Reader.size,Nat.add_comm]
    · rw [readNextReal_graphic lawful (by decide)]
      rfl
  simp only [readNextToken,same]

theorem Continues.ends (lawful : locale.Lawful) {continuation : List Char} (continues : Continues locale continuation)
    {foundDelimeter : Bool} (free : ¬ (foundDelimeter = false ∧ TakesDot continuation)) (name : String)
    (position : Position) : ∃ text dot,
      readNumberSymbols foundDelimeter false continuation position = ⟨[],text,position,dot⟩ ∧
        readNextToken locale ⟨name,text,position,dot⟩ = readNextToken locale ⟨name,continuation,position,none⟩ := by
  have dotted {ch : Char} {text : List Char} (free : ¬ (foundDelimeter = false ∧ TakesDot ('.' :: ch :: text))) :
      ∃ left dot, readNumberSymbols foundDelimeter false ('.' :: ch :: text) position = ⟨[],left,position,dot⟩ ∧
        readNextToken locale ⟨name,left,position,dot⟩ =
          readNextToken locale ⟨name,'.' :: ch :: text,position,none⟩ := by
    rw [readNumberSymbols_dot]
    cases foundDelimeter with
    | true => exact ⟨_,_,rfl,rfl⟩
    | false =>
      have number : ¬ isNumberSymbol ch = true := fun number => free ⟨rfl,ch,text,rfl,number⟩
      rw [if_neg Bool.false_ne_true,if_neg number]
      exact ⟨_,_,rfl,readNextToken_putback lawful name (ch :: text) position⟩
  have stopped {symbol : Char} (text : List Char)
      (known : symbol ≠ '`' ∧ symbol ≠ '.' ∧ isNumberSymbol symbol = false) :
      ∃ left dot, readNumberSymbols foundDelimeter false (symbol :: text) position = ⟨[],left,position,dot⟩ ∧
        readNextToken locale ⟨name,left,position,dot⟩ = readNextToken locale ⟨name,symbol :: text,position,none⟩ := by
    rw [readNumberSymbols_stop _ known.1 known.2.1 known.2.2]
    exact ⟨_,_,rfl,rfl⟩
  cases continues with
  | range text => exact dotted free
  | member letter text => exact dotted free
  | operator operator text => exact stopped text (not_number (.inl operator))
  | punctuation punctuation text => exact stopped text (not_number (.inr punctuation))
  | @space ch space text =>
    apply stopped
    have other := lawful.graphic ch space
    refine ⟨?_,?_,Bool.eq_false_iff.2 fun number => other (isNumberSymbol_graphic number)⟩
    · rintro rfl
      exact other (by decide)
    · rintro rfl
      exact other (by decide)

theorem Numeral.readNextToken (lawful : locale.Lawful) {numeral : List Char} (known : Numeral numeral) (name : String)
    (position : Position) (continuation : List Char) :
    let rest := readNumberSymbols (numeral.contains '.') false continuation (position.behind numeral)
    ∃ type location, type ∈ [TokenType.numberLiteral,.doubleLiteral] ∧
      Lexical.readNextToken locale ⟨name,numeral ++ continuation,position,none⟩ =
        (some (.of type (numeral ++ rest.word) location),⟨name,rest.text,rest.position,rest.dot⟩) := by
  obtain ⟨first,text,rfl,decimal,read⟩ := known.read
  have range : '0' ≤ first ∧ first ≤ '9' := by
    simp only [decimals,List.mem_cons,List.not_mem_nil,or_false] at decimal
    rcases decimal with rfl | rfl | rfl | rfl | rfl | rfl | rfl | rfl | rfl | rfl <;> decide
  have number := decimals_number decimal
  have quote : first ≠ '"' := isNumberSymbol_ne number rfl
  have quote' : first ≠ '\'' := isNumberSymbol_ne number rfl
  have dot : first ≠ '.' := isNumberSymbol_ne number rfl
  have tables : punctuationOf first = none ∧ operatorsOf first = none := by
    simp only [decimals,List.mem_cons,List.not_mem_nil,or_false] at decimal
    rcases decimal with rfl | rfl | rfl | rfl | rfl | rfl | rfl | rfl | rfl | rfl <;> exact ⟨rfl,rfl⟩
  have next := readNextWord_literal lawful (isNumberSymbol_graphic number) dot tables.1 tables.2 name
    (text ++ continuation) position
  simp only [readLiteralOrWord,if_neg quote,if_neg quote',if_pos range,readNumberLiteral_eq,read] at next
  refine ⟨_,_,?_,readNextToken_some.2 ⟨_,next,rfl⟩⟩
  split
  · simp
  · simp

/-- A number ends where it should, unless it has no fraction and the first letter of a member is taken for one. -/
theorem numberToken_iff (lawful : locale.Lawful) {numeral continuation : List Char} (known : Numeral numeral)
    (continues : Continues locale continuation) (name : String) (position : Position) :
    ReadsNumber locale name position numeral continuation ↔ ¬ ('.' ∉ numeral ∧ TakesDot continuation) := by
  obtain ⟨type,location,literal,read⟩ := known.readNextToken lawful name position continuation
  constructor
  · rintro ⟨token,next,known,_,word,_⟩ ⟨whole,ch,text,rfl,number⟩
    rw [read] at known
    cases known
    have contains : numeral.contains '.' = false := by
      rw [List.contains_eq_mem,decide_eq_false_iff_not]
      exact whole
    rw [contains,readNumberSymbols_dot,if_neg Bool.false_ne_true,if_pos number] at word
    have none := List.append_right_eq_self.1 word
    cases none
  · intro free
    have free' : ¬ (numeral.contains '.' = false ∧ TakesDot continuation) := by
      rw [List.contains_eq_mem,decide_eq_false_iff_not]
      exact free
    obtain ⟨text,dot,ends,next⟩ := continues.ends lawful free' name (position.behind numeral)
    rw [ends] at read
    exact ⟨_,_,read,literal,List.append_nil _,next⟩

theorem Numeral.one : Numeral ['1'] := by
  have base : ([],decimals) ∈ basePrefixes := List.mem_cons_self ..
  have digits : ∀ digit ∈ ['1'],digit ∈ decimals := by simp [decimals]
  exact .integer base (List.cons_ne_nil _ _) digits (List.mem_cons_self ..)

theorem numberToken_range : ReadsNumber .classic "" ⟨1,0⟩ ['1'] ['.','.','2'] := by
  apply (numberToken_iff Locale.classic_lawful Numeral.one (.range ['2']) "" ⟨1,0⟩).2
  rintro ⟨_,ch,text,same,number⟩
  cases same
  exact absurd number (by decide)

/-- The member `Add` of a number is read as its fraction. -/
theorem numberToken_member : Numeral ['1'] ∧ Continues .classic ['.','A','d','d'] ∧
    ¬ ReadsNumber .classic "" ⟨1,0⟩ ['1'] ['.','A','d','d'] ∧
    (readNextToken .classic ⟨"",['1','.','A','d','d'],⟨1,0⟩,none⟩).1.map SyntaxToken.content =
      some (.doubleLiteral,['1','.','A','d','d']) := by
  refine ⟨Numeral.one,.member (by decide) ['d','d'],?_,by decide⟩
  rintro ⟨token,next,read,_,word,_⟩
  have whole : (readNextToken .classic ⟨"",['1','.','A','d','d'],⟨1,0⟩,none⟩).1.map SyntaxToken.word =
      some ['1','.','A','d','d'] := by decide
  have same : token.word = ['1','.','A','d','d'] := by
    rw [show ['1','.','A','d','d'] = ['1'] ++ ['.','A','d','d'] from rfl,read] at whole
    exact Option.some.inj whole
  rw [word] at same
  cases same

end Numbers

end ShardScript.Lexical
