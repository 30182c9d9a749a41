import Mathlib.Data.List.Induction
import ShardScript.Lexical.Interchange
import ShardScript.Lexical.Literals

/-! Where the tokens of a source text stand, and what their locations say about it. -/
namespace ShardScript.Lexical

variable {locale : Locale}

section Positions

def lastLine (text : List Char) : List Char := text.reverse.takeWhile (· ≠ '\n')

def locate (name : String) (before slice : List Char) : TextLocation where
  fileName := name
  line := before.count '\n' + 1
  offset := (lastLine before).length + 1
  length := slice.length

def written (line : List Char) : Nat := (line.filter (· ≠ '\x00')).length

theorem Position.behind_append (position : Position) (before text : List Char) :
    position.behind (before ++ text) = (position.behind before).behind text := List.foldl_append

theorem Position.behind_eq (text : List Char) :
    Position.behind ⟨1,0⟩ text = ⟨text.count '\n' + 1,written (lastLine text)⟩ := by
  induction text using List.reverseRecOn with
  | nil => rfl
  | append_singleton text ch ih =>
    rw [behind_append,ih]
    by_cases line : ch = '\n'
    · subst line
      simp [Position.behind,advance,lastLine,written]
    · by_cases null : ch = '\x00'
      · subst null
        simp [Position.behind,advance,lastLine,written]
      · simp [Position.behind,advance,lastLine,written,line,null]

theorem Position.behind_plain {text : List Char} (line : '\n' ∉ text) (null : '\x00' ∉ text) (position : Position) :
    position.behind text = ⟨position.line,position.offset + text.length⟩ := by
  induction text generalizing position with
  | nil => simp [Position.behind]
  | cons ch text ih =>
    rw [List.mem_cons,not_or] at line null
    change (position.advance ch).behind text = _
    rw [ih line.2 null.2,advance,if_neg (Ne.symm line.1),if_pos (Ne.symm null.1),List.length_cons]
    push_cast
    rw [Int.add_assoc,Int.add_comm 1]

theorem written_eq_length {line : List Char} : written line = line.length ↔ '\x00' ∉ line := by
  simp only [written,List.length_filter_eq_length_iff,decide_eq_true_eq]
  constructor
  · exact fun all member => all _ member rfl
  · rintro none ch member rfl
    exact none member

end Positions

section Taking

structure Scans (symbols text : List Char) (position : Position) (left : List Char) (final : Position) : Prop where
  text : text = symbols ++ left
  position : final = position.behind symbols

theorem Scans.nil (text : List Char) (position : Position) : Scans [] text position text position := ⟨rfl,rfl⟩

theorem Scans.cons {symbols text left : List Char} {ch : Char} {position final : Position}
    (scans : Scans symbols text (position.advance ch) left final) :
    Scans (ch :: symbols) (ch :: text) position left final :=
  ⟨by rw [scans.text,List.cons_append],scans.position⟩

namespace Reader

def symbols (reader : Reader) : List Char := reader.putbackSymbol.toList ++ reader.text

def Whole (reader : Reader) : Prop := reader.putbackSymbol = none ∨ reader.putbackSymbol = some '.'

/-- What is left of the reader, behind the symbols that were taken from it. -/
structure Takes (reader : Reader) (symbols : List Char) (next : Reader) : Prop where
  name : next.name = reader.name
  text : reader.symbols = symbols ++ next.symbols
  position : next.position = reader.position.behind symbols
  whole : next.Whole

theorem Takes.trans {reader next last : Reader} {symbols more : List Char} (takes : reader.Takes symbols next)
    (takes' : next.Takes more last) : reader.Takes (symbols ++ more) last where
  name := takes'.name.trans takes.name
  text := by rw [takes.text,takes'.text,List.append_assoc]
  position := by rw [takes'.position,takes.position,Position.behind_append]
  whole := takes'.whole

theorem Takes.size {reader next : Reader} {symbols : List Char} (takes : reader.Takes symbols next) :
    reader.size = symbols.length + next.size := by
  have same := congrArg List.length takes.text
  simpa only [Reader.symbols,Reader.size,List.length_append] using same

theorem Takes.of_scans {symbols text left : List Char} {position final : Position}
    (scans : Scans symbols text position left final) (name : String) :
    Takes ⟨name,text,position,none⟩ symbols ⟨name,left,final,none⟩ :=
  ⟨rfl,scans.text,scans.position,.inl rfl⟩

end Reader

end Taking

section Skipping

def Skipped (locale : Locale) (ch : Char) : Prop :=
  ch = '\uEFBB' ∨ ch = '\uFEFF' ∨ ch = '\uFFFE' ∨ ch = '\x00' ∨ locale.isSpace ch = true

inductive Blank (locale : Locale) : List Char → Prop where
  | nil : Blank locale []
  | symbol {ch : Char} {text : List Char} (skipped : Skipped locale ch) (more : Blank locale text) :
      Blank locale (ch :: text)
  | comment {body text : List Char} (line : '\n' ∉ body) (more : Blank locale text) :
      Blank locale ('/' :: '/' :: body ++ '\n' :: text)

theorem Blank.append {text more : List Char} (blank : Blank locale text) (blank' : Blank locale more) :
    Blank locale (text ++ more) := by
  induction blank with
  | nil => exact blank'
  | symbol skipped _ ih => exact .symbol skipped ih
  | @comment body text line _ ih =>
    rw [List.append_assoc,List.cons_append]
    exact .comment line ih

theorem skipSpace_scans (lawful : locale.Lawful) {found : Option Char} {text left : List Char}
    {position final : Position} (read : skipSpace locale text position = (found,left,final)) :
    ∃ gap, Blank locale gap ∧ Scans (gap ++ found.toList) text position left final ∧
      (∀ ch ∈ found,¬ Skipped locale ch) ∧ (found = none → left.head?.all (· = '\x00') = true) := by
  induction text generalizing position with
  | nil =>
    cases read
    exact ⟨[],.nil,.nil _ _,(by simp),fun _ => rfl⟩
  | cons ch text ih =>
    have skip (skipped : Skipped locale ch)
        (read : skipSpace locale text (position.advance ch) = (found,left,final)) :
        ∃ gap, Blank locale gap ∧ Scans (gap ++ found.toList) (ch :: text) position left final ∧
          (∀ ch ∈ found,¬ Skipped locale ch) ∧ (found = none → left.head?.all (· = '\x00') = true) := by
      obtain ⟨gap,blank,scans,rest⟩ := ih read
      exact ⟨ch :: gap,.symbol skipped blank,scans.cons,rest⟩
    simp only [skipSpace] at read
    split_ifs at read with mark null ends space
    · apply skip _ read
      rcases mark with rfl | rfl | rfl | rfl
      · exact .inl rfl
      · exact .inr (.inl rfl)
      · exact .inr (.inr (.inl rfl))
      · exact .inr (.inr (.inr (.inr lawful.lineFeed)))
    · cases read
      subst null
      exact ⟨['\x00'],.symbol (.inr (.inr (.inr (.inl rfl)))) .nil,(Scans.nil _ _).cons,(by simp),fun _ => ends⟩
    · exact skip (.inr (.inr (.inr (.inl null)))) read
    · exact skip (.inr (.inr (.inr (.inr space)))) read
    · cases read
      refine ⟨[],.nil,(Scans.nil _ _).cons,?_,(by simp)⟩
      rintro _ ⟨⟩ (same | same | same | same | same)
      · exact mark (.inl same)
      · exact mark (.inr (.inl same))
      · exact mark (.inr (.inr (.inl same)))
      · exact null same
      · exact space same

theorem readNextReal_takes (lawful : locale.Lawful) {found : Option Char} {reader next : Reader} (whole : reader.Whole)
    (read : readNextReal locale reader = (found,next)) :
    ∃ gap, Blank locale gap ∧ reader.Takes (gap ++ found.toList) next ∧ (∀ ch ∈ found,¬ Skipped locale ch) ∧
      (found = none → next.text.head?.all (· = '\x00') = true) ∧ next.putbackSymbol = none := by
  obtain ⟨name,text,position,putback⟩ := reader
  rcases whole with rfl | rfl
  · rcases skipped : skipSpace locale text position with ⟨found',left,final⟩
    simp only [readNextReal,skipped] at read
    cases read
    obtain ⟨gap,blank,scans,rest⟩ := skipSpace_scans lawful skipped
    exact ⟨gap,blank,.of_scans scans name,rest.1,rest.2,rfl⟩
  · cases read
    refine ⟨[],.nil,⟨rfl,rfl,rfl,.inl rfl⟩,?_,(by simp),rfl⟩
    rintro _ ⟨⟩ (same | same | same | same | same)
    · exact absurd same (by decide)
    · exact absurd same (by decide)
    · exact absurd same (by decide)
    · exact absurd same (by decide)
    · exact lawful.graphic '.' same (by decide)

theorem skipComment_scans {closed : Bool} {text left : List Char} {position final : Position}
    (read : skipComment text position = (closed,left,final)) : ∃ body, '\n' ∉ body ∧
      Scans (body ++ if closed then ['\n'] else []) text position left final ∧
        (closed = false → left.head?.all (· = '\x00') = true) := by
  induction text generalizing position with
  | nil =>
    cases read
    exact ⟨[],List.not_mem_nil,.nil _ _,fun _ => rfl⟩
  | cons ch text ih =>
    have skip (line : ch ≠ '\n') (read : skipComment text (position.advance ch) = (closed,left,final)) :
        ∃ body, '\n' ∉ body ∧ Scans (body ++ if closed then ['\n'] else []) (ch :: text) position left final ∧
          (closed = false → left.head?.all (· = '\x00') = true) := by
      obtain ⟨body,none,scans,ends⟩ := ih read
      refine ⟨ch :: body,?_,scans.cons,ends⟩
      rw [List.mem_cons,not_or]
      exact ⟨Ne.symm line,none⟩
    simp only [skipComment] at read
    split_ifs at read with line null ends
    · cases read
      subst line
      exact ⟨[],List.not_mem_nil,(Scans.nil _ _).cons,(by simp)⟩
    · cases read
      subst null
      exact ⟨['\x00'],by decide,(Scans.nil _ _).cons,fun _ => ends⟩
    · exact skip line read
    · exact skip line read

theorem readComment_takes {closed : Bool} {reader next : Reader} (none : reader.putbackSymbol = none)
    (read : readComment reader = (closed,next)) : ∃ body, '\n' ∉ body ∧
      reader.Takes (body ++ if closed then ['\n'] else []) next ∧
        (closed = false → next.text.head?.all (· = '\x00') = true) ∧ next.putbackSymbol = Option.none := by
  obtain ⟨name,text,position,putback⟩ := reader
  obtain rfl : putback = Option.none := none
  rcases skipped : skipComment text position with ⟨closed',left,final⟩
  simp only [readComment,skipped] at read
  cases read
  obtain ⟨body,line,scans,ends⟩ := skipComment_scans skipped
  exact ⟨body,line,.of_scans scans name,ends,rfl⟩

end Skipping

section Slices

/-- A slice of the text that is spelled like its word: no literal of characters, no separators in a number, no skipped
quotes. -/
structure Plain (first : Char) (text : List Char) : Prop where
  literal : first ≠ '"' ∧ first ≠ '\''
  quotes : ¬ (first = '@' ∧ text.head? = some '"')
  number : '0' ≤ first ∧ first ≤ '9' → '`' ∉ text

structure Occupies (first : Char) (text word : List Char) : Prop where
  comment : ¬ (first = '/' ∧ text.head? = some '/')
  length : word.length = text.length + 1 ↔ Plain first text
  line : Plain first text → '\n' ∉ text ∧ '\x00' ∉ text

def Reader.Reads (reader : Reader) (first : Char) (word : List Char) (next : Reader) : Prop :=
  ∃ text, reader.Takes text next ∧ Occupies first text word

variable {first : Char}

theorem plain_of_ne {text : List Char} (known : first ∉ ['"','\'','@'])
    (digit : ¬ ('0' ≤ first ∧ first ≤ '9')) : Plain first text := by
  simp only [List.mem_cons,List.not_mem_nil,or_false,not_or] at known
  exact ⟨⟨known.1,known.2.1⟩,fun same => known.2.2 same.1,fun range => absurd range digit⟩

theorem graphic_line {text : List Char} (graphic : ∀ ch ∈ text,'!' ≤ ch ∧ ch ≤ '~') :
    '\n' ∉ text ∧ '\x00' ∉ text :=
  ⟨fun member => absurd (graphic _ member) (by decide),fun member => absurd (graphic _ member) (by decide)⟩

theorem readOperator_takes {symbol : Char} {operators : List (Char × TokenType) × TokenType} {reader : Reader}
    (none : reader.putbackSymbol = none) : ∃ text,
      reader.Takes text (readOperator symbol operators reader).reader ∧
        (readOperator symbol operators reader).word = symbol :: text ∧
        (readOperator symbol operators reader).reader.putbackSymbol = Option.none ∧
        (text = [] ∧ (readOperator symbol operators reader).type = operators.2 ∨
          ∃ operator ∈ operators.1,text = [operator.1] ∧
            (readOperator symbol operators reader).type = operator.2) := by
  obtain ⟨name,text,position,putback⟩ := reader
  obtain rfl : putback = Option.none := none
  have alone : Reader.Takes ⟨name,text,position,Option.none⟩ [] ⟨name,text,position,Option.none⟩ :=
    .of_scans (.nil text position) name
  cases text with
  | nil => exact ⟨[],alone,rfl,rfl,.inl ⟨rfl,rfl⟩⟩
  | cons next text =>
    simp only [readOperator]
    split
    · next ch type found =>
      have same := List.find?_some found
      simp only [decide_eq_true_eq] at same
      subst same
      exact ⟨[ch],.of_scans (Scans.nil _ _).cons name,rfl,rfl,
        .inr ⟨(ch,type),List.mem_of_find?_eq_some found,rfl,rfl⟩⟩
    · exact ⟨[],alone,rfl,rfl,.inl ⟨rfl,rfl⟩⟩

variable {symbol : Char}

theorem operatorsOf_trivia {operators : List (Char × TokenType) × TokenType}
    (found : operatorsOf symbol = some operators) : operators.2 ≠ .trivia ∧
      ∀ operator ∈ operators.1,operator.2 = .trivia ↔ symbol = '/' ∧ operator.1 = '/' := by
  unfold operatorsOf at found
  split at found <;> cases found <;> decide

variable {lexeme : Lexeme} {reader : Reader}

theorem isPunctuation_reads (none : reader.putbackSymbol = none)
    (read : isPunctuation symbol reader = some lexeme) : reader.Reads symbol lexeme.word lexeme.reader := by
  unfold isPunctuation at read
  split_ifs at read with dot question
  · subst dot
    have plain (text : List Char) : Plain '.' text := plain_of_ne (by decide) (by decide)
    obtain ⟨name,text,position,putback⟩ := reader
    obtain rfl : putback = Option.none := none
    simp only at read
    split at read
    · next text =>
      cases read
      have scans : Scans ['.','&'] ('.' :: '&' :: text) position text _ := (Scans.nil text _).cons.cons
      exact ⟨_,.of_scans scans name,⟨by decide,⟨fun _ => plain _,fun _ => rfl⟩,fun _ => by decide⟩⟩
    · next text _ =>
      cases read
      have scans : Scans ['.'] ('.' :: text) position text _ := (Scans.nil text _).cons
      exact ⟨_,.of_scans scans name,⟨by decide,⟨fun _ => plain _,fun _ => rfl⟩,fun _ => by decide⟩⟩
    · cases read
      exact ⟨[],.of_scans (.nil text position) name,⟨by decide,⟨fun _ => plain _,fun _ => rfl⟩,fun _ => by decide⟩⟩
  · cases read
    subst question
    obtain ⟨name,text,position,putback⟩ := reader
    obtain rfl : putback = Option.none := none
    have plain : Plain questionMark [] := plain_of_ne (by decide) (by decide)
    exact ⟨[],.of_scans (.nil text position) name,⟨by decide,⟨fun _ => plain,fun _ => rfl⟩,fun _ => by decide⟩⟩
  · obtain ⟨operators,found,rfl⟩ := Option.map_eq_some_iff.1 read
    obtain ⟨text,takes,word,_,whole⟩ := @readOperator_takes symbol operators _ none
    have plain : symbol ≠ '/' ∧ Plain symbol text := by
      unfold punctuationOf at found
      split at found
      all_goals first | exact ⟨by decide,plain_of_ne (by decide) (by decide)⟩ | cases found
    have graphic : ∀ ch ∈ text,'!' ≤ ch ∧ ch ≤ '~' := by
      rcases whole with ⟨rfl,_⟩ | ⟨operator,member,rfl,_⟩
      · nofun
      · exact List.forall_mem_singleton.2 (punctuationOf_graphic found operator member)
    refine ⟨text,takes,⟨fun same => plain.1 same.1,⟨fun _ => plain.2,fun _ => ?_⟩,fun _ => graphic_line graphic⟩⟩
    rw [word,List.length_cons]

theorem isOperator_reads (none : reader.putbackSymbol = none)
    (read : isOperator symbol reader = some lexeme) (trivia : lexeme.type ≠ .trivia) :
    reader.Reads symbol lexeme.word lexeme.reader := by
  obtain ⟨operators,found,rfl⟩ := Option.map_eq_some_iff.1 read
  obtain ⟨text,takes,word,_,whole⟩ := @readOperator_takes symbol operators _ none
  have plain : Plain symbol text := by
    unfold operatorsOf at found
    split at found
    all_goals first | exact plain_of_ne (by decide) (by decide) | cases found
  have graphic : ∀ ch ∈ text,'!' ≤ ch ∧ ch ≤ '~' := by
    rcases whole with ⟨rfl,_⟩ | ⟨operator,member,rfl,_⟩
    · nofun
    · exact List.forall_mem_singleton.2 (operatorsOf_graphic found operator member)
  refine ⟨text,takes,⟨?_,⟨fun _ => plain,fun _ => ?_⟩,fun _ => graphic_line graphic⟩⟩
  · rintro ⟨first,second⟩
    rcases whole with ⟨rfl,_⟩ | ⟨operator,member,rfl,type⟩
    · cases second
    · exact trivia (type.trans (((operatorsOf_trivia found).2 operator member).2 ⟨first,Option.some.inj second⟩))
  · rw [word,List.length_cons]

theorem isOperator_comment (none : reader.putbackSymbol = none)
    (read : isOperator symbol reader = some lexeme) (trivia : lexeme.type = .trivia) :
    symbol = '/' ∧ reader.Takes ['/'] lexeme.reader ∧ lexeme.reader.putbackSymbol = Option.none := by
  obtain ⟨operators,found,rfl⟩ := Option.map_eq_some_iff.1 read
  obtain ⟨text,takes,_,left,⟨rfl,type⟩ | ⟨operator,member,rfl,type⟩⟩ := @readOperator_takes symbol operators _ none
  · exact absurd (type.symm.trans trivia) (operatorsOf_trivia found).1
  · obtain ⟨first,second⟩ := ((operatorsOf_trivia found).2 operator member).1 (type.symm.trans trivia)
    rw [second] at takes
    exact ⟨first,takes,left⟩

theorem readStringLiteral_scans {ecran : Bool} {text word left : List Char} {position final : Position}
    (read : readStringLiteral ecran text position = (some word,left,final)) :
    ∃ symbols, Scans symbols text position left final ∧ word.length < symbols.length := by
  induction text generalizing ecran position word with
  | nil => cases read
  | cons ch text ih =>
    have step {ecran : Bool} {found : List Char}
        (read : behind found (readStringLiteral ecran text (position.advance ch)) = (some word,left,final))
        (short : found.length ≤ 1) : ∃ symbols, Scans symbols (ch :: text) position left final ∧ word.length < symbols.length := by
      obtain ⟨rest,inner,same⟩ := behind_eq_some.1 read
      obtain ⟨symbols,scans,less⟩ := ih inner
      refine ⟨ch :: symbols,scans.cons,?_⟩
      rw [same,List.length_append,List.length_cons]
      omega
    simp only [readStringLiteral] at read
    split_ifs at read
    · exact step read (Nat.le_refl 1)
    · exact step read (Nat.zero_le 1)
    · exact step read (Nat.le_refl 1)
    · cases read
      exact ⟨[ch],(Scans.nil _ _).cons,Nat.zero_lt_one⟩
    · exact step read (Nat.le_refl 1)
    · exact step read (Nat.le_refl 1)
    · exact step read (Nat.le_refl 1)

theorem readCharLiteral_scans {ecran : Bool} {text word left : List Char} {position final : Position}
    (read : readCharLiteral ecran text position = (some word,left,final)) :
    ∃ symbols, Scans symbols text position left final ∧ word.length < symbols.length := by
  induction text generalizing ecran position word with
  | nil => cases read
  | cons ch text ih =>
    have step {ecran : Bool} {found : List Char}
        (read : behind found (readCharLiteral ecran text (position.advance ch)) = (some word,left,final))
        (short : found.length ≤ 1) : ∃ symbols, Scans symbols (ch :: text) position left final ∧ word.length < symbols.length := by
      obtain ⟨rest,inner,same⟩ := behind_eq_some.1 read
      obtain ⟨symbols,scans,less⟩ := ih inner
      refine ⟨ch :: symbols,scans.cons,?_⟩
      rw [same,List.length_append,List.length_cons]
      omega
    simp only [readCharLiteral] at read
    split_ifs at read
    · exact step read (Nat.le_refl 1)
    · cases read
      exact ⟨[ch],(Scans.nil _ _).cons,Nat.zero_lt_one⟩
    · exact step read (Nat.zero_le 1)
    · exact step read (Nat.le_refl 1)

/-- A number has the symbols of its slice apart from the separators, and a dot that is put back is not of its slice. -/
structure NumberRest.Spelled (rest : NumberRest) (symbols text : List Char) (position : Position) : Prop where
  scans : Scans symbols text position (rest.dot.toList ++ rest.text) rest.position
  word : rest.word = symbols.filter (· ≠ '`')
  graphic : ∀ ch ∈ symbols,'!' ≤ ch ∧ ch ≤ '~'
  dot : rest.dot = none ∨ rest.dot = some '.'

theorem NumberRest.Spelled.separator {rest : NumberRest} {symbols text : List Char} {position : Position}
    (spelled : rest.Spelled symbols text (position.advance '`')) :
    rest.Spelled ('`' :: symbols) ('`' :: text) position where
  scans := spelled.scans.cons
  word := spelled.word
  graphic := List.forall_mem_cons.2 ⟨by decide,spelled.graphic⟩
  dot := spelled.dot

theorem NumberRest.Spelled.cons {rest : NumberRest} {symbols text : List Char} {ch : Char} {position : Position}
    (spelled : rest.Spelled symbols text (position.advance ch)) (other : ch ≠ '`') (graphic : '!' ≤ ch ∧ ch ≤ '~') :
    (rest.cons [ch]).Spelled (ch :: symbols) (ch :: text) position where
  scans := spelled.scans.cons
  word := by
    have kept : (ch :: symbols).filter (· ≠ '`') = ch :: symbols.filter (· ≠ '`') :=
      List.filter_cons_of_pos (decide_eq_true other)
    rw [kept,← spelled.word]
    rfl
  graphic := List.forall_mem_cons.2 ⟨graphic,spelled.graphic⟩
  dot := spelled.dot

theorem readNumberSymbols_spelled (foundDelimeter separated : Bool) (text : List Char) (position : Position) :
    ∃ symbols, (readNumberSymbols foundDelimeter separated text position).Spelled symbols text position := by
  fun_induction readNumberSymbols foundDelimeter separated text position with
  | case1 => exact ⟨[],.nil _ _,rfl,(by simp),.inl rfl⟩
  | case2 foundDelimeter separated ch text position separator ih =>
    obtain ⟨symbols,spelled⟩ := ih
    obtain rfl := separator.1
    exact ⟨_,spelled.separator⟩
  | case3 | case8 => exact ⟨[],.nil _ _,rfl,(by simp),.inl rfl⟩
  | case4 | case6 => exact ⟨[],.nil _ _,rfl,(by simp),.inr rfl⟩
  | case5 foundDelimeter separated position _ next text number _ ih =>
    obtain ⟨symbols,spelled⟩ := ih
    have tail := spelled.cons (isNumberSymbol_ne number (by decide)) (isNumberSymbol_graphic number)
    exact ⟨_,tail.cons (by decide) (by decide)⟩
  | case7 foundDelimeter separated ch text position _ _ number ih =>
    obtain ⟨symbols,spelled⟩ := ih
    exact ⟨_,spelled.cons (isNumberSymbol_ne number (by decide)) (isNumberSymbol_graphic number)⟩

theorem skipQuotes_scans (text : List Char) (position : Position) : ∃ quotes left final,
    skipQuotes text position = (left,final) ∧ Scans quotes text position left final ∧ (∀ ch ∈ quotes,ch = '"') ∧
      left.head? ≠ some '"' := by
  fun_induction skipQuotes text position with
  | case1 position text ih =>
    obtain ⟨quotes,left,final,same,scans,all,other⟩ := ih
    exact ⟨'"' :: quotes,left,final,same,scans.cons,List.forall_mem_cons.2 ⟨rfl,all⟩,other⟩
  | case2 text position other =>
    refine ⟨[],text,position,rfl,.nil _ _,(by simp),?_⟩
    intro same
    obtain ⟨more,rfl⟩ := List.head?_eq_some_iff.1 same
    exact other more rfl

theorem readNextWhileAlpha_scans (text : List Char) (position : Position) : ∃ word left final,
    readNextWhileAlpha locale text position = (word,left,final) ∧ Scans word text position left final ∧
      ∀ ch ∈ word,locale.isAlnum ch = true ∨ ch = '_' := by
  fun_induction readNextWhileAlpha locale text position with
  | case1 position => exact ⟨[],[],position,rfl,.nil _ _,nofun⟩
  | case2 ch text position alpha word left final read ih =>
    obtain ⟨word',left',final',same,scans,all⟩ := ih
    rw [read] at same
    cases same
    rw [Bool.or_eq_true,decide_eq_true_eq] at alpha
    exact ⟨ch :: word,left,final,rfl,scans.cons,List.forall_mem_cons.2 ⟨alpha,all⟩⟩
  | case3 ch text position => exact ⟨[],ch :: text,position,rfl,.nil _ _,nofun⟩

theorem alnum_line (lawful : locale.Lawful) (null : locale.isAlnum '\x00' = false) {word : List Char}
    (all : ∀ ch ∈ word,locale.isAlnum ch = true ∨ ch = '_') : '\n' ∉ word ∧ '\x00' ∉ word := by
  constructor
  · intro member
    rcases all _ member with alnum | same
    · rw [lawful.alnum '\n' lawful.lineFeed] at alnum
      cases alnum
    · exact absurd same (by decide)
  · intro member
    rcases all _ member with alnum | same
    · rw [null] at alnum
      cases alnum
    · exact absurd same (by decide)

theorem occupies_literal {text word : List Char} (quote : first = '"' ∨ first = '\'')
    (less : word.length < text.length) : Occupies first text word := by
  have not_plain : ¬ Plain first text := fun plain => by
    rcases quote with same | same
    · exact plain.literal.1 same
    · exact plain.literal.2 same
  refine ⟨?_,⟨fun same => ?_,fun plain => absurd plain not_plain⟩,fun plain => absurd plain not_plain⟩
  · rintro ⟨rfl,_⟩
    exact absurd quote (by decide)
  · omega

theorem occupies_number {symbols : List Char} (range : '0' ≤ first ∧ first ≤ '9')
    (graphic : ∀ ch ∈ symbols,'!' ≤ ch ∧ ch ≤ '~') :
    Occupies first symbols (first :: symbols.filter (· ≠ '`')) where
  comment := by
    rintro ⟨rfl,_⟩
    exact absurd range (by decide)
  length := by
    rw [List.length_cons,Nat.add_right_cancel_iff,List.length_filter_eq_length_iff]
    constructor
    · intro all
      refine ⟨⟨?_,?_⟩,?_,fun _ member => of_decide_eq_true (all _ member) rfl⟩
      · rintro rfl
        exact absurd range (by decide)
      · rintro rfl
        exact absurd range (by decide)
      · rintro ⟨rfl,_⟩
        exact absurd range (by decide)
    · intro plain ch member
      apply decide_eq_true
      rintro rfl
      exact plain.number range member
  line := fun _ => graphic_line graphic

theorem occupies_word (lawful : locale.Lawful) (null : locale.isAlnum '\x00' = false) {first : Char}
    {quotes word : List Char} (slash : first ≠ '/') (literal : first ≠ '"' ∧ first ≠ '\'')
    (digit : ¬ ('0' ≤ first ∧ first ≤ '9')) (all : ∀ ch ∈ word,locale.isAlnum ch = true ∨ ch = '_')
    (quoted : ∀ ch ∈ quotes,ch = '"') (mark : quotes ≠ [] → first = '@')
    (ends : first = '@' → word.head? ≠ some '"') : Occupies first (quotes ++ word) (first :: word) := by
  have plain_iff : Plain first (quotes ++ word) ↔ quotes = [] := by
    constructor
    · intro plain
      cases quotes with
      | nil => rfl
      | cons ch quotes =>
        rw [quoted ch (List.mem_cons_self ..)] at plain
        exact absurd ⟨mark (List.cons_ne_nil _ _),rfl⟩ plain.quotes
    · rintro rfl
      exact ⟨literal,fun same => ends same.1 same.2,fun range => absurd range digit⟩
  refine ⟨fun same => slash same.1,?_,?_⟩
  · rw [plain_iff,List.length_cons,List.length_append,← List.length_eq_zero_iff]
    omega
  · intro plain
    rw [plain_iff.1 plain]
    exact alnum_line lawful null all

theorem readLiteralOrWord_reads (lawful : locale.Lawful) (null : locale.isAlnum '\x00' = false)
    {reader next : Reader} (operator : operatorsOf first = none)
    (none : reader.putbackSymbol = none) (read : readLiteralOrWord locale first reader = (some lexeme,next)) :
    reader.Reads first lexeme.word next := by
  have slash : first ≠ '/' := by
    rintro rfl
    cases operator
  obtain ⟨name,text,position,putback⟩ := reader
  obtain rfl : putback = Option.none := none
  unfold readLiteralOrWord at read
  split_ifs at read with double single digit mark
  · rcases literal : readStringLiteral false text position with ⟨_ | word,left,final⟩
    · simp only [literal] at read
      cases read
    · simp only [literal] at read
      cases read
      obtain ⟨symbols,scans,less⟩ := readStringLiteral_scans literal
      exact ⟨symbols,.of_scans scans name,occupies_literal (.inl double) less⟩
  · rcases literal : readCharLiteral false text position with ⟨_ | word,left,final⟩
    · simp only [literal] at read
      cases read
    · simp only [literal] at read
      cases read
      obtain ⟨symbols,scans,less⟩ := readCharLiteral_scans literal
      exact ⟨symbols,.of_scans scans name,occupies_literal (.inr single) less⟩
  · rw [readNumberLiteral_eq] at read
    cases read
    obtain ⟨symbols,spelled⟩ := readNumberSymbols_spelled false false text position
    refine ⟨symbols,⟨rfl,spelled.scans.text,spelled.scans.position,spelled.dot⟩,?_⟩
    change Occupies first symbols (first :: _)
    rw [spelled.word]
    exact occupies_number digit spelled.graphic
  · obtain ⟨quotes,left,final,skipped,scans,quoted,ends⟩ := skipQuotes_scans text position
    obtain ⟨word,left',final',alpha,scans',all⟩ := @readNextWhileAlpha_scans locale left final
    simp only [skipped,alpha] at read
    cases read
    refine ⟨quotes ++ word,(Reader.Takes.of_scans scans name).trans (.of_scans scans' name),?_⟩
    apply occupies_word lawful null slash ⟨double,single⟩ digit all quoted (fun _ => mark)
    intro _ same
    apply ends
    rw [scans'.text,List.head?_append,same]
    rfl
  · obtain ⟨word,left,final,alpha,scans,all⟩ := @readNextWhileAlpha_scans locale text position
    simp only [alpha] at read
    cases read
    refine ⟨word,.of_scans scans name,?_⟩
    exact @occupies_word _ lawful null first [] word slash ⟨double,single⟩ digit all nofun (absurd rfl) (absurd · mark)

end Slices

section Runs

/-- Text that no token is read from: nothing before a null character, a comment on the last line, or a literal that is
not closed. -/
inductive Unread : List Char → Prop where
  | ends {rest : List Char} (null : rest.head?.all (· = '\x00') = true) : Unread rest
  | comment {body rest : List Char} (line : '\n' ∉ body) (null : rest.head?.all (· = '\x00') = true) :
      Unread ('/' :: '/' :: body ++ rest)
  | literal {quote : Char} (quote' : quote = '"' ∨ quote = '\'') (text : List Char) : Unread (quote :: text)

def Reader.ReadsWord (locale : Locale) (reader : Reader) : Reading Lexeme → Prop
  | (some lexeme,next) => ∃ gap first text, Blank locale gap ∧ ¬ Skipped locale first ∧
      reader.Takes (gap ++ first :: text) next ∧ Occupies first text lexeme.word
  | (none,_) => ∃ gap rest, Blank locale gap ∧ Unread rest ∧ reader.symbols = gap ++ rest

theorem Reader.ReadsWord.behind {reader middle : Reader} {gap : List Char} {reading : Reading Lexeme}
    (blank : Blank locale gap) (takes : reader.Takes gap middle) (reads : middle.ReadsWord locale reading) :
    reader.ReadsWord locale reading := by
  obtain ⟨_ | lexeme,next⟩ := reading
  · obtain ⟨gap',rest,blank',unread,same⟩ := reads
    refine ⟨gap ++ gap',rest,blank.append blank',unread,?_⟩
    rw [takes.text,same,List.append_assoc]
  · obtain ⟨gap',first,text,blank',visible,takes',occupies⟩ := reads
    refine ⟨gap ++ gap',first,text,blank.append blank',visible,?_,occupies⟩
    rw [List.append_assoc]
    exact takes.trans takes'

theorem readLiteralOrWord_none {first : Char} {reader next : Reader}
    (read : readLiteralOrWord locale first reader = (none,next)) : first = '"' ∨ first = '\'' := by
  unfold readLiteralOrWord at read
  split_ifs at read with double single
  · exact .inl double
  · exact .inr single
  · cases read
  · cases read
  · cases read

theorem readNextWordWithin_reads (lawful : locale.Lawful) (null : locale.isAlnum '\x00' = false) {fuel : Nat}
    {reader : Reader} (enough : reader.size < fuel) (whole : reader.Whole) :
    reader.ReadsWord locale (readNextWordWithin locale fuel reader) := by
  induction fuel generalizing reader with
  | zero => omega
  | succ fuel ih =>
    rcases real : readNextReal locale reader with ⟨found,middle⟩
    obtain ⟨gap,blank,takes,visible,ends,none⟩ := readNextReal_takes lawful whole real
    rw [readNextWordWithin,real]
    cases found with
    | none =>
      rw [Option.toList_none,List.append_nil] at takes
      refine ⟨gap,middle.symbols,blank,.ends ?_,takes.text⟩
      rw [Reader.symbols,none]
      exact ends rfl
    | some first =>
      have token {lexeme : Lexeme} {next : Reader} (reads : middle.Reads first lexeme.word next) :
          reader.ReadsWord locale (some lexeme,next) := by
        obtain ⟨text,takes',occupies⟩ := reads
        have both := takes.trans takes'
        rw [Option.toList_some,List.append_assoc] at both
        exact ⟨gap,first,text,blank,visible first rfl,both,occupies⟩
      simp only
      rcases punctuation : isPunctuation first middle with _ | lexeme
      · rcases operator : isOperator first middle with _ | lexeme
        · have unknown : operatorsOf first = Option.none := Option.map_eq_none_iff.1 operator
          rcases read : readLiteralOrWord locale first middle with ⟨_ | lexeme,next⟩
          · refine ⟨gap,first :: middle.symbols,blank,.literal (readLiteralOrWord_none read) _,?_⟩
            rw [takes.text,List.append_assoc]
            rfl
          · exact token (readLiteralOrWord_reads lawful null unknown none read)
        · by_cases trivia : lexeme.type = .trivia
          · obtain ⟨rfl,slash,left⟩ := isOperator_comment none operator trivia
            rcases comment : readComment lexeme.reader with ⟨closed,next⟩
            obtain ⟨body,line,takes',ends',left'⟩ := readComment_takes left comment
            have all := (takes.trans slash).trans takes'
            simp only [if_pos trivia,comment]
            cases closed with
            | true =>
              have same : gap ++ ['/'] ++ ['/'] ++ (body ++ ['\n']) = gap ++ ('/' :: '/' :: body ++ ['\n']) := by simp
              change reader.Takes (gap ++ ['/'] ++ ['/'] ++ (body ++ ['\n'])) next at all
              rw [same] at all
              refine Reader.ReadsWord.behind (blank.append (.comment line .nil)) all (ih ?_ all.whole)
              have size := all.size
              simp only [List.length_append,List.length_cons] at size
              omega
            | false =>
              refine ⟨gap,'/' :: '/' :: body ++ next.symbols,blank,.comment line ?_,?_⟩
              · rw [Reader.symbols,left']
                exact ends' rfl
              · rw [all.text]
                simp
          · simp only [if_neg trivia]
            exact token (isOperator_reads none operator trivia)
      · exact token (isPunctuation_reads none punctuation)

/-- The reader has come so far by reading tokens from the source text. -/
inductive Reached (locale : Locale) (source : Reader) : List Char → Reader → Prop where
  | start : Reached locale source [] source
  | next {before symbols : List Char} {reader next : Reader} {token : SyntaxToken}
      (reached : Reached locale source before reader) (read : readNextToken locale reader = (some token,next))
      (taken : reader.symbols = symbols ++ next.symbols) : Reached locale source (before ++ symbols) next

theorem Reached.takes (lawful : locale.Lawful) (null : locale.isAlnum '\x00' = false) {name : String}
    {text before : List Char} {reader : Reader} (reached : Reached locale (.of name text) before reader) :
    (Reader.of name text).Takes before reader := by
  induction reached with
  | start => exact .of_scans (.nil text ⟨1,0⟩) name
  | @next before symbols reader next token _ read taken ih =>
    obtain ⟨lexeme,word,_⟩ := readNextToken_some.1 read
    have reads := readNextWordWithin_reads lawful null (Nat.lt_succ_self reader.size) ih.whole
    rw [readNextWord] at word
    rw [word] at reads
    obtain ⟨gap,first,rest,_,_,takes,_⟩ := reads
    have same : symbols = gap ++ first :: rest := List.append_cancel_right (taken.symm.trans takes.text)
    rw [same]
    exact ih.trans takes

theorem getLocation_iff {name : String} {before slice word : List Char} {next : Reader} {plain : Prop}
    (named : next.name = name) (position : next.position = Position.behind ⟨1,0⟩ (before ++ slice))
    (length : word.length = slice.length ↔ plain) (line : plain → '\n' ∉ slice ∧ '\x00' ∉ slice) :
    getLocation word next = locate name before slice ↔ plain ∧ '\x00' ∉ lastLine before := by
  rw [Position.behind_append,Position.behind_eq before] at position
  simp only [getLocation,locate,TextLocation.mk.injEq,position,named,true_and,Int.natCast_inj,length]
  constructor
  · rintro ⟨_,offset,plain'⟩
    refine ⟨plain',written_eq_length.1 ?_⟩
    have same := length.2 plain'
    simp only [Position.behind_plain (line plain').1 (line plain').2,same] at offset
    omega
  · rintro ⟨plain',none⟩
    have same := length.2 plain'
    simp only [Position.behind_plain (line plain').1 (line plain').2,same,written_eq_length.2 none]
    refine ⟨?_,?_,plain'⟩
    · push_cast
    · omega

/-- In every run the tokens stand in the text one behind the other with nothing but blanks between them, and the location
of a token says where its slice is if the token is spelled like its word and no null character stands before it on its
line, and only then. -/
theorem locations_iff (lawful : locale.Lawful) (null : locale.isAlnum '\x00' = false) {name : String}
    {text before : List Char} {reader : Reader} (reached : Reached locale (.of name text) before reader) :
    text = before ++ reader.symbols ∧
      match readNextToken locale reader with
      | (some token,next) => ∃ gap first slice, reader.symbols = gap ++ first :: slice ++ next.symbols ∧
          Blank locale gap ∧ ¬ Skipped locale first ∧ ¬ (first = '/' ∧ slice.head? = some '/') ∧
          (token.location = locate name (before ++ gap) (first :: slice) ↔
            Plain first slice ∧ '\x00' ∉ lastLine (before ++ gap))
      | (none,_) => ∃ gap rest, reader.symbols = gap ++ rest ∧ Blank locale gap ∧ Unread rest := by
  have takes := reached.takes lawful null
  refine ⟨takes.text,?_⟩
  have reads := readNextWordWithin_reads lawful null (Nat.lt_succ_self reader.size) takes.whole
  rw [readNextToken,readNextWord]
  rcases word : readNextWordWithin locale (reader.size + 1) reader with ⟨_ | lexeme,next⟩
  · rw [word] at reads
    obtain ⟨gap,rest,blank,unread,same⟩ := reads
    exact ⟨gap,rest,same,blank,unread⟩
  · rw [word] at reads
    obtain ⟨gap,first,slice,blank,visible,taken,occupies⟩ := reads
    have all := takes.trans taken
    refine ⟨gap,first,slice,taken.text,blank,visible,occupies.comment,?_⟩
    apply getLocation_iff all.name
    · rw [List.append_assoc]
      exact all.position
    · exact occupies.length
    · intro plain
      have line := occupies.line plain
      simp only [List.mem_cons,not_or]
      refine ⟨⟨?_,line.1⟩,?_,line.2⟩
      · rintro rfl
        exact visible (.inr (.inr (.inr (.inr lawful.lineFeed))))
      · rintro rfl
        exact visible (.inr (.inr (.inr (.inl rfl))))

/-- Behind the name in the first line. -/
theorem locations_newline : ∃ gap first slice, ['\n','b'] = gap ++ first :: slice ∧ Blank .classic gap ∧
    (TextLocation.mk "" 2 1 1 = locate "" (['a'] ++ gap) (first :: slice) ↔ Plain first slice ∧ '\x00' ∉ lastLine (['a'] ++ gap)) := by
  have name : readNextToken .classic (.of "" ['a','\n','b']) =
      (some (.of .identifier ['a'] ⟨"",1,1,1⟩),⟨"",['\n','b'],⟨1,1⟩,none⟩) := by decide
  have behind : Reached .classic (.of "" ['a','\n','b']) ([] ++ ['a']) ⟨"",['\n','b'],⟨1,1⟩,none⟩ := .next .start name rfl
  have all := (locations_iff Locale.classic_lawful rfl behind).2
  have read : readNextToken .classic ⟨"",['\n','b'],⟨1,1⟩,none⟩ =
      (some (.of .identifier ['b'] ⟨"",2,1,1⟩),⟨"",[],⟨2,1⟩,none⟩) := by decide
  rw [read] at all
  obtain ⟨gap,first,slice,same,blank,_,_,located⟩ := all
  exact ⟨gap,first,slice,same.trans (List.append_nil _),blank,located⟩

/-- The literal `"ab"` is said to stand in the third column and to have two symbols. -/
theorem locations_string : ∃ token next, readNextToken .classic (.of "" ['"','a','b','"']) = (some token,next) ∧
    next.symbols = [] ∧ token.location = ⟨"",1,3,2⟩ ∧ locate "" [] ['"','a','b','"'] = ⟨"",1,1,4⟩ := by
  refine ⟨.of .stringLiteral ['a','b'] ⟨"",1,3,2⟩,⟨"",[],⟨1,4⟩,none⟩,?_⟩
  decide

end Runs

end ShardScript.Lexical
