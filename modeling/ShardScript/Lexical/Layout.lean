import ShardScript.Lexical.Interchange
import Mathlib.Data.List.Forall2
import Mathlib.Data.List.Flatten

/-! The tokens of a text do not depend on its layout. A token is read to its end and no further,
whatever whitespace stands behind it. -/
namespace ShardScript.Lexical

/-- What `std::iswspace` documents: no whitespace character is alphanumeric, or a graphic one of
the ASCII set; the line feed is whitespace, the null character is not. -/
structure Locale.Lawful (locale : Locale) : Prop where
  lineFeed : locale.isSpace '\n' = true
  null : locale.isSpace '\x00' = false
  alnum : ∀ ch, locale.isSpace ch = true → locale.isAlnum ch = false
  graphic : ∀ ch, locale.isSpace ch = true → ¬('!' ≤ ch ∧ ch ≤ '~')

variable {locale : Locale} {rest : List Char}

structure Reader.Extends (rest : List Char) (reader other : Reader) : Prop where
  text : other.text = reader.text ++ rest
  putback : other.putbackSymbol = reader.putbackSymbol

structure Lexeme.Extends (rest : List Char) (lexeme other : Lexeme) : Prop where
  type : other.type = lexeme.type
  word : other.word = lexeme.word
  reader : lexeme.reader.Extends rest other.reader

def Spaced (locale : Locale) (text : List Char) : Prop := ∃ ch ∈ text.head?, locale.isSpace ch = true

section Extension

private theorem head_append {text : List Char} {p : Char → Bool} (more : text.head?.all p ≠ true) :
    (text ++ rest).head? = text.head? := by
  cases text with
  | nil => exact absurd rfl more
  | cons => rfl

theorem skipSpace_append {text left : List Char} {symbol : Char} {position final : Position}
    (read : skipSpace locale text position = (some symbol,left,final)) (start : Position) :
    ∃ stop, skipSpace locale (text ++ rest) start = (some symbol,left ++ rest,stop) := by
  induction text generalizing position start with
  | nil => cases read
  | cons ch text ih =>
    rw [List.cons_append]
    simp only [skipSpace] at read ⊢
    by_cases skipped : ch = '\uEFBB' ∨ ch = '\uFEFF' ∨ ch = '\uFFFE' ∨ ch = '\n'
    · rw [if_pos skipped] at read ⊢
      exact ih read _
    · rw [if_neg skipped] at read ⊢
      by_cases null : ch = '\x00'
      · rw [if_pos null] at read ⊢
        by_cases ended : text.head?.all (· = '\x00') = true
        · rw [if_pos ended] at read
          cases read
        · rw [head_append ended,if_neg ended]
          rw [if_neg ended] at read
          exact ih read _
      · rw [if_neg null] at read ⊢
        split_ifs at read ⊢
        · exact ih read _
        · cases read
          exact ⟨_,rfl⟩

theorem skipComment_append {text left : List Char} {position final : Position}
    (read : skipComment text position = (true,left,final)) (start : Position) :
    ∃ stop, skipComment (text ++ rest) start = (true,left ++ rest,stop) := by
  induction text generalizing position start with
  | nil => cases read
  | cons ch text ih =>
    rw [List.cons_append]
    simp only [skipComment] at read ⊢
    by_cases line : ch = '\n'
    · rw [if_pos line] at read ⊢
      cases read
      exact ⟨_,rfl⟩
    · rw [if_neg line] at read ⊢
      by_cases null : ch = '\x00'
      · rw [if_pos null] at read ⊢
        by_cases ended : text.head?.all (· = '\x00') = true
        · rw [if_pos ended] at read
          cases read
        · rw [head_append ended,if_neg ended]
          rw [if_neg ended] at read
          exact ih read _
      · rw [if_neg null] at read ⊢
        exact ih read _

private theorem symbols_append {symbols word left : List Char} {final : Position}
    {reading other : Option (List Char) × List Char × Position}
    (ih : ∀ word final, reading = (some word,left,final) → ∃ stop, other = (some word,left ++ rest,stop))
    (read : (reading.1.map (symbols ++ ·),reading.2.1,reading.2.2) = (some word,left,final)) :
    ∃ stop, (other.1.map (symbols ++ ·),other.2.1,other.2.2) = (some word,left ++ rest,stop) := by
  obtain ⟨found,after,stop⟩ := reading
  cases found with
  | none => cases read
  | some found =>
    cases read
    obtain ⟨stop,rfl⟩ := ih found stop rfl
    exact ⟨stop,rfl⟩

theorem readStringLiteral_append {ecran : Bool} {text left word : List Char} {position final : Position}
    (read : readStringLiteral ecran text position = (some word,left,final)) (start : Position) :
    ∃ stop, readStringLiteral ecran (text ++ rest) start = (some word,left ++ rest,stop) := by
  induction text generalizing ecran word position final start with
  | nil => cases read
  | cons ch text ih =>
    rw [List.cons_append]
    simp only [readStringLiteral] at read ⊢
    split_ifs at read ⊢
    any_goals exact symbols_append (fun _ _ read => ih read _) read
    cases read
    exact ⟨_,rfl⟩

theorem readCharLiteral_append {ecran : Bool} {text left word : List Char} {position final : Position}
    (read : readCharLiteral ecran text position = (some word,left,final)) (start : Position) :
    ∃ stop, readCharLiteral ecran (text ++ rest) start = (some word,left ++ rest,stop) := by
  induction text generalizing ecran word position final start with
  | nil => cases read
  | cons ch text ih =>
    rw [List.cons_append]
    simp only [readCharLiteral] at read ⊢
    split_ifs at read ⊢
    any_goals exact symbols_append (fun _ _ read => ih read _) read
    cases read
    exact ⟨_,rfl⟩

structure Stops (locale : Locale) (ch : Char) : Prop where
  alnum : locale.isAlnum ch = false
  graphic : ¬('!' ≤ ch ∧ ch ≤ '~')

theorem Stops.ne {ch other : Char} (stops : Stops locale ch) (graphic : '!' ≤ other ∧ other ≤ '~') :
    ch ≠ other := by
  rintro rfl
  exact stops.graphic graphic

theorem Spaced.stops (lawful : locale.Lawful) (spaced : Spaced locale rest) :
    ∃ ch more, rest = ch :: more ∧ Stops locale ch := by
  obtain ⟨ch,member,space⟩ := spaced
  cases rest with
  | nil => cases member
  | cons first more =>
    cases member
    exact ⟨ch,more,rfl,lawful.alnum ch space,lawful.graphic ch space⟩

theorem readNextWhileAlpha_append (spaced : ∃ ch more, rest = ch :: more ∧ Stops locale ch) (text : List Char)
    (position start : Position) : ∃ stop, readNextWhileAlpha locale (text ++ rest) start =
      ((readNextWhileAlpha locale text position).1,(readNextWhileAlpha locale text position).2.1 ++ rest,stop) := by
  induction text generalizing position start with
  | nil =>
    obtain ⟨ch,more,rfl,stops⟩ := spaced
    have ends : (locale.isAlnum ch || decide (ch = '_')) = false := by
      rw [stops.alnum,decide_eq_false (stops.ne (by decide))]
      rfl
    exact ⟨start,by simp [readNextWhileAlpha,ends]⟩
  | cons ch text ih =>
    rw [List.cons_append]
    simp only [readNextWhileAlpha]
    split_ifs
    · obtain ⟨stop,same⟩ := ih (position.advance ch) (start.advance ch)
      exact ⟨stop,by rw [same]⟩
    · exact ⟨start,rfl⟩

theorem isNumberSymbol_graphic {ch : Char} (number : isNumberSymbol ch = true) : '!' ≤ ch ∧ ch ≤ '~' := by
  simp only [isNumberSymbol,decide_eq_true_eq] at number
  rcases number with ⟨low,high⟩ | ⟨low,high⟩ | ⟨low,high⟩ | member
  · exact ⟨Char.le_trans (by decide) low,Char.le_trans high (by decide)⟩
  · exact ⟨Char.le_trans (by decide) low,Char.le_trans high (by decide)⟩
  · exact ⟨Char.le_trans (by decide) low,Char.le_trans high (by decide)⟩
  · have all : ∀ ch ∈ ['x','X','d','D','b','B','k','K','m','M','g','G','t','T','p','P'],
        '!' ≤ ch ∧ ch ≤ '~' := by simp
    exact all ch member

theorem readNumberSymbols_append (spaced : ∃ ch more, rest = ch :: more ∧ Stops locale ch)
    {foundDelimeter separated : Bool} {text : List Char} {position : Position}
    (ends : (readNumberSymbols foundDelimeter separated text position).dot = none) (start : Position) :
    ∃ stop, readNumberSymbols foundDelimeter separated (text ++ rest) start =
      ⟨(readNumberSymbols foundDelimeter separated text position).word,
        (readNumberSymbols foundDelimeter separated text position).text ++ rest,stop,none⟩ := by
  fun_induction readNumberSymbols foundDelimeter separated text position generalizing start with
  | case1 =>
    obtain ⟨ch,more,rfl,stops⟩ := spaced
    have number : isNumberSymbol ch = false := by
      rw [Bool.eq_false_iff]
      exact fun number => stops.graphic (isNumberSymbol_graphic number)
    have separator : ch ≠ '`' := stops.ne (by decide)
    have dot : ch ≠ '.' := stops.ne (by decide)
    exact ⟨start,by simp [readNumberSymbols.eq_def,number,separator,dot]⟩
  | case2 foundDelimeter separated ch text position separator ih =>
    obtain ⟨stop,same⟩ := ih ends (start.advance ch)
    refine ⟨stop,?_⟩
    rw [List.cons_append,readNumberSymbols.eq_def]
    simp only
    rw [if_pos separator,same]
  | case3 separated text position =>
    exact ⟨start,by simp [readNumberSymbols.eq_def]⟩
  | case4 | case6 => cases ends
  | case5 foundDelimeter separated position fraction next text number _ ih =>
    obtain ⟨stop,same⟩ := ih ends ((start.advance '.').advance next)
    refine ⟨stop,?_⟩
    rw [List.cons_append,List.cons_append,readNumberSymbols.eq_def]
    simp [fraction,number,same,NumberRest.cons]
  | case7 foundDelimeter separated ch text position separator dot number ih =>
    obtain ⟨stop,same⟩ := ih ends (start.advance ch)
    refine ⟨stop,?_⟩
    rw [List.cons_append,readNumberSymbols.eq_def]
    simp only
    rw [if_neg separator,if_neg dot,if_pos number,same]
    rfl
  | case8 foundDelimeter separated ch text position separator dot number =>
    refine ⟨start,?_⟩
    rw [List.cons_append,readNumberSymbols.eq_def]
    simp only
    rw [if_neg separator,if_neg dot,if_neg number]

theorem skipQuotes_append (spaced : ∃ ch more, rest = ch :: more ∧ Stops locale ch) (text : List Char)
    (position start : Position) : ∃ stop, skipQuotes (text ++ rest) start =
      ((skipQuotes text position).1 ++ rest,stop) := by
  fun_induction skipQuotes text position generalizing start with
  | case1 text position ih => exact ih (start.advance '"')
  | case2 text position different =>
    refine ⟨start,?_⟩
    rw [skipQuotes]
    intro other same
    cases text with
    | nil =>
      obtain ⟨ch,more,rfl,stops⟩ := spaced
      exact stops.ne (by decide) (List.cons.inj same).1
    | cons first text => exact different text (congrArg (· :: text) (List.cons.inj same).1)

variable {reader other : Reader} {operators : List (Char × TokenType) × TokenType}

theorem readOperator_append (spaced : ∃ ch more, rest = ch :: more ∧ Stops locale ch) (symbol : Char)

    (graphic : ∀ operator ∈ operators.1, '!' ≤ operator.1 ∧ operator.1 ≤ '~')
    (more : reader.Extends rest other) :
    (readOperator symbol operators reader).Extends rest (readOperator symbol operators other) := by
  obtain ⟨name,text,position,putback⟩ := reader
  obtain ⟨name',text',position',putback'⟩ := other
  obtain ⟨rfl,rfl⟩ : text' = text ++ rest ∧ putback' = putback := ⟨more.text,more.putback⟩
  cases text with
  | nil =>
    obtain ⟨ch,more,rfl,stops⟩ := spaced
    have none_ : operators.1.find? (·.1 = ch) = none := by
      rw [List.find?_eq_none]
      intro operator member same
      exact stops.ne (graphic operator member) (of_decide_eq_true same).symm
    simp only [readOperator,List.nil_append,none_]
    exact ⟨rfl,rfl,rfl,rfl⟩
  | cons next text =>
    simp only [readOperator,List.cons_append]
    split <;> exact ⟨rfl,rfl,rfl,rfl⟩

variable {symbol : Char}

theorem operatorsOf_graphic
    (found : operatorsOf symbol = some operators) :
    ∀ operator ∈ operators.1, '!' ≤ operator.1 ∧ operator.1 ≤ '~' := by
  unfold operatorsOf at found
  split at found <;> cases found <;> decide

theorem punctuationOf_graphic
    (found : punctuationOf symbol = some operators) :
    ∀ operator ∈ operators.1, '!' ≤ operator.1 ∧ operator.1 ≤ '~' := by
  unfold punctuationOf at found
  split at found <;> cases found <;> decide

theorem isOperator_append (spaced : ∃ ch more, rest = ch :: more ∧ Stops locale ch) (symbol : Char)
    (more : reader.Extends rest other) :
    Option.Rel (Lexeme.Extends rest) (isOperator symbol reader) (isOperator symbol other) := by
  unfold isOperator
  cases found : operatorsOf symbol with
  | none => exact .none
  | some operators => exact .some (readOperator_append spaced symbol (operatorsOf_graphic found) more)

theorem isPunctuation_append (spaced : ∃ ch more, rest = ch :: more ∧ Stops locale ch) (symbol : Char)
    (more : reader.Extends rest other) :
    Option.Rel (Lexeme.Extends rest) (isPunctuation symbol reader) (isPunctuation symbol other) := by
  unfold isPunctuation
  by_cases dot : symbol = '.'
  · rw [if_pos dot,if_pos dot]
    obtain ⟨name,text,position,putback⟩ := reader
    obtain ⟨name',text',position',putback'⟩ := other
    obtain ⟨rfl,rfl⟩ : text' = text ++ rest ∧ putback' = putback := ⟨more.text,more.putback⟩
    obtain ⟨ch,more,rfl,stops⟩ := spaced
    have notDot : ch ≠ '.' := stops.ne (by decide)
    have notAmpersand : ch ≠ '&' := stops.ne (by decide)
    match text with
    | [] => simpa [notDot] using ⟨rfl,rfl,rfl,rfl⟩
    | [first] =>
      by_cases range : first = '.'
      · subst range
        simpa [notAmpersand] using ⟨rfl,rfl,rfl,rfl⟩
      · simpa [range] using ⟨rfl,rfl,rfl,rfl⟩
    | first :: second :: text =>
      by_cases range : first = '.'
      · subst range
        by_cases inclusive : second = '&'
        · subst inclusive
          simpa using ⟨rfl,rfl,rfl,rfl⟩
        · simpa [inclusive] using ⟨rfl,rfl,rfl,rfl⟩
      · simpa [range] using ⟨rfl,rfl,rfl,rfl⟩
  · rw [if_neg dot,if_neg dot]
    by_cases question : symbol = questionMark
    · rw [if_pos question,if_pos question]
      exact .some ⟨rfl,rfl,more⟩
    · rw [if_neg question,if_neg question]
      cases found : punctuationOf symbol with
      | none => exact .none
      | some operators => exact .some (readOperator_append spaced symbol (punctuationOf_graphic found) more)

structure SameWord (rest : List Char) (reading other : Reading Lexeme) : Prop where
  word : other.1.map (fun lexeme => (lexeme.type,lexeme.word)) = reading.1.map fun lexeme => (lexeme.type,lexeme.word)
  reader : reading.2.Extends rest other.2

private theorem number_append (spaced : ∃ ch more, rest = ch :: more ∧ Stops locale ch) (symbols text : List Char)
    {position : Position} (ends : (readNumberSymbols false false text position).dot = none) (start : Position) :
    ∃ stop, (readNumberSymbols false false (text ++ rest) start).cons symbols =
      ⟨((readNumberSymbols false false text position).cons symbols).word,
        ((readNumberSymbols false false text position).cons symbols).text ++ rest,stop,none⟩ := by
  obtain ⟨stop,same⟩ := readNumberSymbols_append spaced ends start
  exact ⟨stop,by rw [same]; rfl⟩

theorem isBasePrefixLetter_graphic {ch : Char} (letter : isBasePrefixLetter ch = true) : '!' ≤ ch ∧ ch ≤ '~' := by
  have all : ∀ ch ∈ ['x','X','d','D','b','B'], '!' ≤ ch ∧ ch ≤ '~' := by simp
  exact all ch (of_decide_eq_true letter)

theorem readNumberLiteral_of_ne (other : symbol ≠ '0') (reader : Reader) :
    readNumberLiteral symbol reader =
      let rest := (readNumberSymbols false false reader.text reader.position).cons [symbol]
      ⟨if rest.word.contains '.' then .doubleLiteral else .numberLiteral,rest.word,
        { reader with text := rest.text, position := rest.position, putbackSymbol := rest.dot }⟩ := by
  unfold readNumberLiteral
  split
  · exact absurd rfl other
  · rfl

theorem readNumberLiteral_append (spaced : ∃ ch more, rest = ch :: more ∧ Stops locale ch) (symbol : Char)
    (more : reader.Extends rest other)
    (ends : (readNumberLiteral symbol reader).reader.putbackSymbol = none) :
    (readNumberLiteral symbol reader).Extends rest (readNumberLiteral symbol other) := by
  obtain ⟨name,text,position,putback⟩ := reader
  obtain ⟨name',text',position',putback'⟩ := other
  obtain ⟨rfl,rfl⟩ : text' = text ++ rest ∧ putback' = putback := ⟨more.text,more.putback⟩
  have lexemes (small big : NumberRest) (same : ∃ stop, big = ⟨small.word,small.text ++ rest,stop,none⟩)
      (ends : small.dot = none) : Lexeme.Extends rest
        ⟨if small.word.contains '.' then .doubleLiteral else .numberLiteral,small.word,
          ⟨name,small.text,small.position,small.dot⟩⟩
        ⟨if big.word.contains '.' then .doubleLiteral else .numberLiteral,big.word,
          ⟨name',big.text,big.position,big.dot⟩⟩ := by
    obtain ⟨stop,rfl⟩ := same
    exact ⟨rfl,rfl,rfl,ends.symm⟩
  by_cases zero : symbol = '0'
  · subst zero
    cases text with
    | nil =>
      obtain ⟨ch,following,rfl,stops⟩ := spaced
      have letter : ¬isBasePrefixLetter ch = true := fun letter => stops.graphic (isBasePrefixLetter_graphic letter)
      simp only [readNumberLiteral,List.nil_append,if_neg letter] at ends ⊢
      exact lexemes _ _ (number_append ⟨ch,following,rfl,stops⟩ ['0'] [] ends position') ends
    | cons ch text =>
      simp only [readNumberLiteral,List.cons_append] at ends ⊢
      by_cases letter : isBasePrefixLetter ch = true
      · simp only [if_pos letter] at ends ⊢
        exact lexemes _ _ (number_append spaced ['0',ch] text ends (position'.advance ch)) ends
      · simp only [if_neg letter] at ends ⊢
        exact lexemes _ _ (number_append spaced ['0'] (ch :: text) ends position') ends
  · rw [readNumberLiteral_of_ne zero] at ends ⊢
    rw [readNumberLiteral_of_ne zero]
    exact lexemes _ _ (number_append spaced [symbol] text ends position') ends

theorem readLiteralOrWord_append (spaced : ∃ ch more, rest = ch :: more ∧ Stops locale ch) (symbol : Char)
    (more : reader.Extends rest other)
    (read : (readLiteralOrWord locale symbol reader).1.isSome = true)
    (ends : (readLiteralOrWord locale symbol reader).2.putbackSymbol = none) :
    SameWord rest (readLiteralOrWord locale symbol reader) (readLiteralOrWord locale symbol other) := by
  obtain ⟨name,text,position,putback⟩ := reader
  obtain ⟨name',text',position',putback'⟩ := other
  obtain ⟨rfl,rfl⟩ : text' = text ++ rest ∧ putback' = putback := ⟨more.text,more.putback⟩
  simp only [readLiteralOrWord] at read ends ⊢
  by_cases quote : symbol = '"'
  · simp only [if_pos quote] at read ends ⊢
    rcases found : readStringLiteral false text position with ⟨_ | word,left,final⟩
    · rw [found] at read
      cases read
    · obtain ⟨stop,same⟩ := @readStringLiteral_append rest _ _ _ _ _ _ found position'
      rw [same]
      exact ⟨rfl,rfl,rfl⟩
  simp only [if_neg quote] at read ends ⊢
  by_cases apostrophe : symbol = '\''
  · simp only [if_pos apostrophe] at read ends ⊢
    rcases found : readCharLiteral false text position with ⟨_ | word,left,final⟩
    · rw [found] at read
      cases read
    · obtain ⟨stop,same⟩ := @readCharLiteral_append rest _ _ _ _ _ _ found position'
      rw [same]
      exact ⟨rfl,rfl,rfl⟩
  simp only [if_neg apostrophe] at read ends ⊢
  by_cases digit : '0' ≤ symbol ∧ symbol ≤ '9'
  · simp only [if_pos digit] at read ends ⊢
    have same := readNumberLiteral_append spaced symbol more ends
    exact ⟨by simp [same.type,same.word],same.reader⟩
  simp only [if_neg digit] at read ends ⊢
  by_cases verbatim : symbol = '@'
  · simp only [if_pos verbatim]
    obtain ⟨quoted,skipped⟩ := skipQuotes_append spaced text position position'
    obtain ⟨stop,same⟩ := readNextWhileAlpha_append spaced (skipQuotes text position).1
      (skipQuotes text position).2 quoted
    rw [skipped]
    simp only [same]
    exact ⟨rfl,rfl,rfl⟩
  · simp only [if_neg verbatim]
    obtain ⟨stop,same⟩ := readNextWhileAlpha_append spaced text position position'
    rw [same]
    exact ⟨rfl,rfl,rfl⟩

theorem isOperator_putback {reader : Reader} {lexeme : Lexeme}
    (found : isOperator symbol reader = some lexeme) : lexeme.reader.putbackSymbol = reader.putbackSymbol := by
  obtain ⟨operators,_,rfl⟩ := Option.map_eq_some_iff.mp found
  unfold readOperator
  split
  · rfl
  · split <;> rfl

theorem readNextReal_append {reader next other : Reader} (more : reader.Extends rest other)
    (unread : reader.putbackSymbol = none) (read : readNextReal locale reader = (some symbol,next)) :
    ∃ next', readNextReal locale other = (some symbol,next') ∧ next.Extends rest next' ∧
      next.putbackSymbol = none := by
  obtain ⟨name,text,position,putback⟩ := reader
  obtain ⟨name',text',position',putback'⟩ := other
  obtain ⟨rfl,rfl⟩ : text' = text ++ rest ∧ putback' = putback := ⟨more.text,more.putback⟩
  cases unread
  simp only [readNextReal] at read ⊢
  rcases found : skipSpace locale text position with ⟨_ | symbol,left,final⟩
  · rw [found] at read
    cases read
  · obtain ⟨stop,same⟩ := @skipSpace_append locale rest _ _ _ _ _ found position'
    rw [found] at read
    cases read
    rw [same]
    exact ⟨_,rfl,⟨rfl,rfl⟩,rfl⟩

theorem readComment_append {reader next other : Reader} (more : reader.Extends rest other)
    (read : readComment reader = (true,next)) :
    ∃ next', readComment other = (true,next') ∧ next.Extends rest next' ∧
      next.putbackSymbol = reader.putbackSymbol := by
  obtain ⟨name,text,position,putback⟩ := reader
  obtain ⟨name',text',position',putback'⟩ := other
  obtain ⟨rfl,rfl⟩ : text' = text ++ rest ∧ putback' = putback := ⟨more.text,more.putback⟩
  simp only [readComment] at read ⊢
  rcases found : skipComment text position with ⟨closed,left,final⟩
  rw [found] at read
  cases read
  obtain ⟨stop,same⟩ := @skipComment_append rest _ _ _ _ found position'
  rw [same]
  exact ⟨_,rfl,⟨rfl,rfl⟩,rfl⟩

private theorem rel_cases {α β : Type} {R : α → β → Prop} {left : Option α} {right : Option β}
    (related : Option.Rel R left right) :
    (left = none ∧ right = none) ∨ ∃ first second, left = some first ∧ right = some second ∧ R first second := by
  cases related with
  | none => exact Or.inl ⟨rfl,rfl⟩
  | some same => exact Or.inr ⟨_,_,rfl,rfl,same⟩

theorem readNextWordWithin_append (spaced : ∃ ch more, rest = ch :: more ∧ Stops locale ch) {fuel : Nat}
    {reader other : Reader} (more : reader.Extends rest other) (unread : reader.putbackSymbol = none)
    (read : (readNextWordWithin locale fuel reader).1.isSome = true)
    (ends : (readNextWordWithin locale fuel reader).2.putbackSymbol = none) :
    SameWord rest (readNextWordWithin locale fuel reader) (readNextWordWithin locale fuel other) := by
  induction fuel generalizing reader other with
  | zero => cases read
  | succ fuel ih =>
    rw [readNextWordWithin] at read ends ⊢
    rw [readNextWordWithin]
    rcases real : readNextReal locale reader with ⟨_ | symbol,next⟩
    · rw [real] at read
      cases read
    · obtain ⟨next',real',more,unread⟩ := readNextReal_append more unread real
      rw [real] at read ends
      simp only [real'] at read ends ⊢
      rcases rel_cases (isPunctuation_append spaced symbol more) with ⟨none_,none'⟩ | ⟨lexeme,lexeme',some_,some',same⟩
      · rw [none_] at read ends ⊢
        rw [none']
        rcases rel_cases (isOperator_append spaced symbol more) with ⟨none_,none'⟩ | ⟨lexeme,lexeme',some_,some',same⟩
        · rw [none_] at read ends ⊢
          rw [none']
          exact readLiteralOrWord_append spaced symbol more read ends
        · rw [some_] at read ends ⊢
          rw [some']
          simp only [same.type] at read ends ⊢
          by_cases trivia : lexeme.type = .trivia
          · rw [if_pos trivia] at read ends ⊢
            rw [if_pos trivia]
            rcases comment : readComment lexeme.reader with ⟨_ | _,after⟩
            · rw [comment] at read
              cases read
            · obtain ⟨after',comment',more,kept⟩ := readComment_append same.reader comment
              rw [comment] at read ends
              simp only [comment'] at read ends ⊢
              exact ih more (kept.trans ((isOperator_putback some_).trans unread)) read ends
          · rw [if_neg trivia,if_neg trivia]
            exact ⟨by simp [same.type,same.word],same.reader⟩
      · rw [some_,some']
        exact ⟨by simp [same.type,same.word],same.reader⟩

end Extension

section Trivia

/-- Whitespace characters, and comments up to the end of their lines. Two null characters in a
row end the source text, also inside a comment. -/
inductive Trivia (locale : Locale) : List Char → Prop where
  | nil : Trivia locale []
  | space {ch : Char} {text : List Char} (space : locale.isSpace ch = true) (more : Trivia locale text) :
      Trivia locale (ch :: text)
  | comment {body text : List Char} (line : '\n' ∉ body)
      (open_ : body.IsChain fun ch next => ¬(ch = '\x00' ∧ next = '\x00')) (more : Trivia locale text) :
      Trivia locale ('/' :: '/' :: body ++ '\n' :: text)

/-- Trivia that begin with whitespace; they end with whitespace or with the end of a line. -/
def Separates (locale : Locale) (text : List Char) : Prop := Trivia locale text ∧ Spaced locale text

theorem skipComment_body {body text : List Char} (line : '\n' ∉ body)
    (open_ : body.IsChain fun ch next => ¬(ch = '\x00' ∧ next = '\x00')) (position : Position) :
    ∃ stop, skipComment (body ++ '\n' :: text) position = (true,text,stop) := by
  induction body generalizing position with
  | nil => exact ⟨_,rfl⟩
  | cons ch body ih =>
    rw [List.mem_cons,not_or] at line
    obtain ⟨first,rest⟩ := line
    obtain ⟨stop,same⟩ := ih rest (List.IsChain.of_cons open_) (position.advance ch)
    refine ⟨stop,?_⟩
    rw [List.cons_append,skipComment,if_neg (Ne.symm first)]
    by_cases null : ch = '\x00'
    · have more : ¬(body ++ '\n' :: text).head?.all (· = '\x00') = true := by
        cases body with
        | nil => simp
        | cons next body =>
          have second : next ≠ '\x00' := fun same => (List.isChain_cons_cons.mp open_).1 ⟨null,same⟩
          simpa using second
      rw [if_pos null,if_neg more,same]
    · rw [if_neg null,same]

theorem readNextWord_real {reader other : Reader} (less : other.size ≤ reader.size)
    (same : readNextReal locale reader = readNextReal locale other) :
    readNextWord locale reader = readNextWord locale other := by
  have read : readNextWordWithin locale (reader.size + 1) reader = readNextWordWithin locale (reader.size + 1) other := by
    rw [readNextWordWithin,readNextWordWithin,same]
  exact read.trans (readNextWordWithin_enough locale other (Nat.lt_succ_self _) (Nat.succ_le_succ less))

theorem readNextWord_space (lawful : locale.Lawful) {ch : Char} (space : locale.isSpace ch = true) (name : String)
    (text : List Char) (position : Position) :
    readNextWord locale ⟨name,ch :: text,position,none⟩ =
      readNextWord locale ⟨name,text,position.advance ch,none⟩ := by
  have null : ch ≠ '\x00' := by
    rintro rfl
    exact absurd space (by rw [lawful.null]; decide)
  apply readNextWord_real
  · simp [Reader.size]
  · simp [readNextReal,skipSpace,null,space]

theorem readNextWord_comment (lawful : locale.Lawful) {body : List Char} (line : '\n' ∉ body)
    (open_ : body.IsChain fun ch next => ¬(ch = '\x00' ∧ next = '\x00')) (name : String) (text : List Char)
    (position : Position) : ∃ stop, readNextWord locale ⟨name,'/' :: '/' :: body ++ '\n' :: text,position,none⟩ =
      readNextWord locale ⟨name,text,stop,none⟩ := by
  have slash : locale.isSpace '/' = false := by
    rw [Bool.eq_false_iff]
    exact fun space => lawful.graphic '/' space (by decide)
  obtain ⟨stop,skipped⟩ := @skipComment_body _ text line open_ ((position.advance '/').advance '/')
  refine ⟨stop,?_⟩
  let reader : Reader := ⟨name,'/' :: '/' :: body ++ '\n' :: text,position,none⟩
  let next : Reader := ⟨name,'/' :: body ++ '\n' :: text,position.advance '/',none⟩
  let lexeme : Lexeme := ⟨.trivia,['/','/'],⟨name,body ++ '\n' :: text,(position.advance '/').advance '/',none⟩⟩
  have real : readNextReal locale reader = (some '/',next) := by
    simp [reader,next,readNextReal,skipSpace,slash]
  have operator : isOperator '/' next = some lexeme := rfl
  have comment : readComment lexeme.reader = (true,⟨name,text,stop,none⟩) := by
    simp only [readComment,lexeme,skipped]
  have read : readNextWordWithin locale (reader.size + 1) reader =
      readNextWordWithin locale reader.size ⟨name,text,stop,none⟩ := by
    rw [readNextWordWithin,real]
    simp only [show isPunctuation '/' next = none from rfl,operator]
    rw [if_pos (show lexeme.type = .trivia from rfl),comment]
  apply read.trans
  apply readNextWordWithin_enough locale _ (Nat.lt_succ_self _)
  simp only [reader,Reader.size,Option.toList_none,List.length_nil,List.cons_append,List.length_cons,List.length_append]
  omega

theorem Trivia.readNextWord {text : List Char} (trivia : Trivia locale text) (lawful : locale.Lawful)
    (name : String) (rest : List Char) (position : Position) :
    ∃ stop, readNextWord locale ⟨name,text ++ rest,position,none⟩ =
      Lexical.readNextWord locale ⟨name,rest,stop,none⟩ := by
  induction trivia generalizing position with
  | nil => exact ⟨position,rfl⟩
  | space space more ih =>
    obtain ⟨stop,same⟩ := ih (position.advance _)
    exact ⟨stop,(readNextWord_space lawful space name _ position).trans same⟩
  | @comment body text line open_ more ih =>
    obtain ⟨start,skipped⟩ := readNextWord_comment lawful line open_ name (text ++ rest) position
    obtain ⟨stop,same⟩ := ih start
    refine ⟨stop,Eq.trans ?_ (skipped.trans same)⟩
    simp only [List.append_assoc,List.cons_append]

theorem tokens_eq {reader other : Reader} (same : readNextWord locale reader = readNextWord locale other) :
    tokens locale reader = tokens locale other := by
  have same : readNextToken locale reader = readNextToken locale other := by
    rw [readNextToken,readNextToken,same]
  rcases read : readNextToken locale other with ⟨_ | token,next⟩
  · rw [tokens_none read,tokens_none (same.trans read)]
  · rw [tokens_some read,tokens_some (same.trans read)]

end Trivia

section Layout

structure Written where
  text : List Char
  separator : List Char

def SyntaxToken.content (token : SyntaxToken) : TokenType × List Char := (token.type,token.word)

def Spells (locale : Locale) (text : List Char) (token : TokenType × List Char) : Prop :=
  ∃ read next, readNextToken locale (.of "" text) = (some read,next) ∧ read.content = token ∧
    next.text = [] ∧ next.putbackSymbol = none

def Written.Writes (locale : Locale) (written : Written) (token : TokenType × List Char) : Prop :=
  Spells locale written.text token ∧ Separates locale written.separator

def layout (leading : List Char) (written : List Written) : List Char :=
  leading ++ written.flatMap fun token => token.text ++ token.separator

theorem readNextToken_some {reader next : Reader} {token : SyntaxToken} :
    readNextToken locale reader = (some token,next) ↔ ∃ lexeme, readNextWord locale reader = (some lexeme,next) ∧
      token = .of lexeme.type lexeme.word (getLocation lexeme.word next) := by
  rw [readNextToken]
  rcases readNextWord locale reader with ⟨_ | lexeme,after⟩
  · simp
  · simp only [Prod.mk.injEq,Option.some.injEq]
    constructor
    · rintro ⟨rfl,rfl⟩
      exact ⟨lexeme,⟨rfl,rfl⟩,rfl⟩
    · rintro ⟨_,⟨rfl,rfl⟩,rfl⟩
      exact ⟨rfl,rfl⟩

theorem Spells.readNextToken {text : List Char} {token : TokenType × List Char} (spells : Spells locale text token)
    (lawful : locale.Lawful) {rest : List Char} (spaced : Spaced locale rest) (name : String) (position : Position) :
    ∃ read next, readNextToken locale ⟨name,text ++ rest,position,none⟩ = (some read,next) ∧ read.content = token ∧
      next.text = rest ∧ next.putbackSymbol = none := by
  obtain ⟨read,next,found,content,ends,unread⟩ := spells
  obtain ⟨lexeme,word,rfl⟩ := readNextToken_some.mp found
  let reader : Reader := .of "" text
  let other : Reader := ⟨name,text ++ rest,position,none⟩
  have enough : readNextWordWithin locale (other.size + 1) reader = (some lexeme,next) := by
    rw [← word]
    apply readNextWordWithin_enough locale reader (Nat.lt_succ_self _)
    simp [reader,other,Reader.of,Reader.size]
  have same := @readNextWordWithin_append locale rest (spaced.stops lawful) (other.size + 1) reader other ⟨rfl,rfl⟩ rfl
    (by rw [enough]; rfl) (by rw [enough]; exact unread)
  rw [enough] at same
  rcases word' : readNextWordWithin locale (other.size + 1) other with ⟨_ | lexeme',next'⟩
  · rw [word'] at same
    cases same.word
  · rw [word'] at same
    obtain ⟨type,spelled⟩ := Prod.mk.inj (Option.some.inj same.word)
    refine ⟨_,next',readNextToken_some.mpr ⟨lexeme',word',rfl⟩,?_,?_,same.reader.putback.trans unread⟩
    · exact (congrArg₂ Prod.mk type spelled).trans content
    · rw [same.reader.text,ends,List.nil_append]

theorem tokens_written (lawful : locale.Lawful) {written : List Written} {given : List (TokenType × List Char)}
    (writes : List.Forall₂ (Written.Writes locale) written given) (name : String) (position : Position) :
    (tokens locale ⟨name,written.flatMap fun token => token.text ++ token.separator,position,none⟩).map
      SyntaxToken.content = given := by
  induction writes generalizing name position with
  | nil => rfl
  | @cons written token rest given first more ih =>
    obtain ⟨spells,trivia,ch,head,space⟩ := first
    rw [List.flatMap_cons,List.append_assoc]
    have spaced : Spaced locale (written.separator ++ rest.flatMap fun token => token.text ++ token.separator) := by
      refine ⟨ch,?_,space⟩
      cases separator : written.separator with
      | nil =>
        rw [separator] at head
        cases head
      | cons => rwa [separator] at head
    obtain ⟨read,⟨name',_,position',_⟩,found,content,rfl,rfl⟩ := spells.readNextToken lawful spaced name position
    obtain ⟨stop,skipped⟩ := trivia.readNextWord lawful name' _ position'
    rw [tokens_some found,List.map_cons,content,tokens_eq skipped,ih]

/-- Two ways of writing the same tokens are read alike. -/
theorem tokens_layoutIndependent (lawful : locale.Lawful) {leading leading' : List Char}
    {written written' : List Written} {given : List (TokenType × List Char)} (before : Trivia locale leading)
    (before' : Trivia locale leading') (writes : List.Forall₂ (Written.Writes locale) written given)
    (writes' : List.Forall₂ (Written.Writes locale) written' given) (name name' : String) :
    (tokens locale (.of name (layout leading written))).map SyntaxToken.content = given ∧
      (tokens locale (.of name' (layout leading' written'))).map SyntaxToken.content = given := by
  have one {leading : List Char} {written : List Written} (before : Trivia locale leading)
      (writes : List.Forall₂ (Written.Writes locale) written given) (name : String) :
      (tokens locale (.of name (layout leading written))).map SyntaxToken.content = given := by
    obtain ⟨stop,skipped⟩ := before.readNextWord lawful name
      (written.flatMap fun token => token.text ++ token.separator) ⟨1,0⟩
    rw [Reader.of,layout,tokens_eq skipped,tokens_written lawful writes]
  exact ⟨one before writes name,one before' writes' name'⟩

theorem Locale.classic_lawful : Locale.classic.Lawful where
  lineFeed := rfl
  null := rfl
  alnum := by
    intro ch space
    have all : ∀ ch ∈ [' ','\t','\n','\x0b','\x0c','\r'], ch.isAlphanum = false := by simp
    exact all ch (List.contains_iff_mem.mp space)
  graphic := by
    intro ch space
    have all : ∀ ch ∈ [' ','\t','\n','\x0b','\x0c','\r'], ¬('!' ≤ ch ∧ ch ≤ '~') := by simp
    exact all ch (List.contains_iff_mem.mp space)

/-- `a` and `b` are written twice, once with a comment of two null characters between them. -/
theorem nullComment_ends_text :
    (tokens .classic (.of "" ("a".toList ++ " //\x00\x00\n ".toList ++ "b ".toList))).map SyntaxToken.content =
        [(.identifier,"a".toList)] ∧
      (tokens .classic (.of "" "a b ".toList)).map SyntaxToken.content =
        [(.identifier,"a".toList),(.identifier,"b".toList)] := by
  decide

theorem tokens_layoutIndependent_sum :
    let given : List (TokenType × List Char) := [(.identifier,"a".toList),(.addOperator,"+".toList)]
    let spaces : List Written := [⟨"a".toList," ".toList⟩,⟨"+".toList," ".toList⟩]
    let comments : List Written := [⟨"a".toList," //+\n".toList⟩,⟨"+".toList,"\n".toList⟩]
    (tokens .classic (.of "" (layout [] spaces))).map SyntaxToken.content = given ∧
      (tokens .classic (.of "" (layout [] comments))).map SyntaxToken.content = given := by
  intro given spaces comments
  have name : Spells .classic "a".toList (.identifier,"a".toList) := ⟨_,_,rfl,rfl,rfl,rfl⟩
  have plus : Spells .classic "+".toList (.addOperator,"+".toList) := ⟨_,_,rfl,rfl,rfl,rfl⟩
  have space : Separates .classic " ".toList := ⟨.space rfl .nil,_,rfl,rfl⟩
  have line : Separates .classic "\n".toList := ⟨.space rfl .nil,_,rfl,rfl⟩
  have comment : Separates .classic " //+\n".toList :=
    ⟨.space rfl (@Trivia.comment _ ['+'] [] (by decide) (by simp) .nil),_,rfl,rfl⟩
  exact tokens_layoutIndependent Locale.classic_lawful .nil .nil (.cons ⟨name,space⟩ (.cons ⟨plus,space⟩ .nil))
    (.cons ⟨name,comment⟩ (.cons ⟨plus,line⟩ .nil)) "" ""

end Layout
end ShardScript.Lexical
