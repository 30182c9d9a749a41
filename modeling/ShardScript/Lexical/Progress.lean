import ShardScript.Lexical.LexicalAnalyzer

/-! Reading a token takes at least one symbol, so that a text has finitely many of them. -/
namespace ShardScript.Lexical

variable (locale : Locale)

section Progress

theorem skipSpace_length (text : List Char) (position : Position) :
    (skipSpace locale text position).1.toList.length + (skipSpace locale text position).2.1.length ≤ text.length := by
  induction text generalizing position with
  | nil => simp [skipSpace]
  | cons ch text ih =>
      simp only [skipSpace]
      split_ifs
      · exact Nat.le_succ_of_le (ih _)
      · simp
      · exact Nat.le_succ_of_le (ih _)
      · exact Nat.le_succ_of_le (ih _)
      · simp [Nat.add_comm]

theorem readNextReal_size (reader : Reader) :
    (readNextReal locale reader).1.toList.length + (readNextReal locale reader).2.size ≤ reader.size ∧
      (readNextReal locale reader).2.putbackSymbol = none := by
  rcases reader with ⟨name,text,position,_ | symbol⟩
  · exact ⟨by simpa [readNextReal,Reader.size] using skipSpace_length locale text position,rfl⟩
  · exact ⟨by simp [readNextReal,Reader.size],rfl⟩

theorem skipComment_length (text : List Char) (position : Position) :
    (skipComment text position).2.1.length ≤ text.length := by
  induction text generalizing position with
  | nil => simp [skipComment]
  | cons ch text ih =>
      simp only [skipComment]
      split_ifs
      · simp
      · simp
      · exact Nat.le_succ_of_le (ih _)
      · exact Nat.le_succ_of_le (ih _)

theorem readOperator_size (symbol : Char) (operators : List (Char × TokenType) × TokenType) (reader : Reader) :
    (readOperator symbol operators reader).reader.size ≤ reader.size := by
  rcases reader with ⟨name,_ | ⟨next,text⟩,position,putback⟩
  · simp [readOperator]
  · simp only [readOperator]
    split <;> simp [Reader.size]

theorem isPunctuation_size {symbol : Char} {reader : Reader} {lexeme : Lexeme}
    (found : isPunctuation symbol reader = some lexeme) : lexeme.reader.size ≤ reader.size := by
  rw [isPunctuation] at found
  split_ifs at found
  · split at found <;> cases found <;> simp_all [Reader.size]
    omega
  · cases found
    exact Nat.le_refl _
  · obtain ⟨operators,-,rfl⟩ := Option.map_eq_some_iff.mp found
    exact readOperator_size symbol operators reader

theorem isOperator_size {symbol : Char} {reader : Reader} {lexeme : Lexeme}
    (found : isOperator symbol reader = some lexeme) : lexeme.reader.size ≤ reader.size := by
  obtain ⟨operators,-,rfl⟩ := Option.map_eq_some_iff.mp found
  exact readOperator_size symbol operators reader

theorem skipQuotes_length (text : List Char) (position : Position) : (skipQuotes text position).1.length ≤ text.length := by
  induction text, position using skipQuotes.induct with
  | case1 position text ih =>
      rw [skipQuotes]
      exact Nat.le_succ_of_le ih
  | case2 text position other =>
      have ends : skipQuotes text position = (text,position) := by
        rw [skipQuotes]
        exact other
      exact Nat.le_of_eq (congrArg (fun result => result.1.length) ends)

theorem readStringLiteral_length (ecran : Bool) (text : List Char) (position : Position) :
    (readStringLiteral ecran text position).2.1.length ≤ text.length := by
  induction text generalizing ecran position with
  | nil => simp [readStringLiteral]
  | cons ch text ih =>
      simp only [readStringLiteral]
      split_ifs
      all_goals first | exact Nat.le_succ_of_le (ih _ _) | simp

theorem readCharLiteral_length (ecran : Bool) (text : List Char) (position : Position) :
    (readCharLiteral ecran text position).2.1.length ≤ text.length := by
  induction text generalizing ecran position with
  | nil => simp [readCharLiteral]
  | cons ch text ih =>
      simp only [readCharLiteral]
      split_ifs
      all_goals first | exact Nat.le_succ_of_le (ih _ _) | simp

theorem readNextWhileAlpha_length (text : List Char) (position : Position) :
    (readNextWhileAlpha locale text position).2.1.length ≤ text.length := by
  induction text generalizing position with
  | nil => simp [readNextWhileAlpha]
  | cons ch text ih =>
      simp only [readNextWhileAlpha]
      split_ifs
      · exact Nat.le_succ_of_le (ih _)
      · exact Nat.le_refl _

theorem readNumberSymbols_length (foundDelimeter separated : Bool) (text : List Char) (position : Position) :
    (readNumberSymbols foundDelimeter separated text position).dot.toList.length +
      (readNumberSymbols foundDelimeter separated text position).text.length ≤ text.length := by
  fun_induction readNumberSymbols foundDelimeter separated text position <;> simp_all [NumberRest.cons] <;> omega

theorem readNumberLiteral_size (symbol : Char) {reader : Reader} (unread : reader.putbackSymbol = none) :
    (readNumberLiteral symbol reader).reader.size ≤ reader.size := by
  simp only [readNumberLiteral,Reader.size,unread]
  split
  · rename_i ch text read
    rw [read]
    split_ifs
    · have := readNumberSymbols_length false false text (reader.position.advance ch)
      simp only [NumberRest.cons,Option.toList_none,List.length_nil,List.length_cons]
      omega
    · have := readNumberSymbols_length false false (ch :: text) reader.position
      simp only [NumberRest.cons,Option.toList_none,List.length_nil,List.length_cons] at this ⊢
      omega
  · have := readNumberSymbols_length false false reader.text reader.position
    simp only [NumberRest.cons,Option.toList_none,List.length_nil]
    omega

theorem readLiteralOrWord_size (symbol : Char) {reader : Reader} (unread : reader.putbackSymbol = none) :
    (readLiteralOrWord locale symbol reader).2.size ≤ reader.size := by
  rw [readLiteralOrWord]
  split_ifs
  · simpa [Reader.size] using readStringLiteral_length false reader.text reader.position
  · simpa [Reader.size] using readCharLiteral_length false reader.text reader.position
  · exact readNumberLiteral_size symbol unread
  · have skipped := skipQuotes_length reader.text reader.position
    have read := readNextWhileAlpha_length locale (skipQuotes reader.text reader.position).1
      (skipQuotes reader.text reader.position).2
    simpa [Reader.size] using Nat.le_trans read skipped
  · simpa [Reader.size] using readNextWhileAlpha_length locale reader.text reader.position

theorem readComment_size (reader : Reader) : (readComment reader).2.size ≤ reader.size :=
  Nat.add_le_add_left (skipComment_length reader.text reader.position) _

theorem readNextWordWithin_size (fuel : Nat) (reader : Reader) :
    (readNextWordWithin locale fuel reader).1.toList.length + (readNextWordWithin locale fuel reader).2.size ≤
      reader.size := by
  induction fuel generalizing reader with
  | zero => simp [readNextWordWithin]
  | succ fuel ih =>
      obtain ⟨shorter,unread⟩ := readNextReal_size locale reader
      rw [readNextWordWithin]
      split
      · next read =>
          rw [read] at shorter
          exact shorter
      · next symbol rest read =>
          rw [read] at shorter unread
          simp only [Option.toList_some,List.length_singleton] at shorter unread
          split
          · next punctuation =>
              have := isPunctuation_size punctuation
              simp only [Option.toList_some,List.length_singleton]
              omega
          · next lexeme _ operator =>
              have := isOperator_size operator
              have skipped := readComment_size lexeme.reader
              split_ifs
              · split
                · next after comment =>
                    rw [comment] at skipped
                    have := ih after
                    simp only at skipped
                    omega
                · next after comment =>
                    rw [comment] at skipped
                    simp only [Option.toList_none,List.length_nil] at skipped ⊢
                    omega
              · simp only [Option.toList_some,List.length_singleton]
                omega
          · have := readLiteralOrWord_size locale symbol unread
            rcases (readLiteralOrWord locale symbol rest).1 with _ | lexeme
            · simp only [Option.toList_none,List.length_nil]
              omega
            · simp only [Option.toList_some,List.length_singleton]
              omega

theorem readNextWordWithin_enough {fuel more : Nat} (reader : Reader) (enough : reader.size < fuel)
    (greater : fuel ≤ more) : readNextWordWithin locale more reader = readNextWordWithin locale fuel reader := by
  induction fuel generalizing reader more with
  | zero => omega
  | succ fuel ih =>
      obtain ⟨more,rfl⟩ := Nat.exists_eq_add_of_le greater
      obtain ⟨shorter,unread⟩ := readNextReal_size locale reader
      rw [Nat.add_right_comm,readNextWordWithin,readNextWordWithin]
      split
      · rfl
      · next symbol rest read =>
          rw [read] at shorter
          simp only [Option.toList_some,List.length_singleton] at shorter
          split
          · rfl
          · next lexeme _ operator =>
              have := isOperator_size operator
              have skipped := readComment_size lexeme.reader
              split_ifs
              · split
                · next after comment =>
                    rw [comment] at skipped
                    simp only at skipped shorter
                    exact ih after (by omega) (by omega)
                · rfl
              · rfl
          · rfl

theorem readNextToken_size (reader : Reader) :
    (readNextToken locale reader).1.toList.length + (readNextToken locale reader).2.size ≤ reader.size := by
  have := readNextWordWithin_size locale (reader.size + 1) reader
  rw [readNextToken,readNextWord]
  split
  · next read => rwa [read] at this
  · next read => rwa [read] at this

end Progress

section Types

variable {locale : Locale} {reader : Reader} {operators : List (Char × TokenType) × TokenType} {symbol : Char}

theorem readOperator_type
    {type : TokenType} (other : operators.2 ≠ type) (others : ∀ operator ∈ operators.1, operator.2 ≠ type) :
    (readOperator symbol operators reader).type ≠ type := by
  rw [readOperator]
  split
  · exact other
  · split
    · next found => exact others _ (List.mem_of_find?_eq_some found)
    · exact other

theorem operatorsOf_type
    (found : operatorsOf symbol = some operators) :
    operators.2 ≠ .endOfFile ∧ ∀ operator ∈ operators.1, operator.2 ≠ .endOfFile := by
  unfold operatorsOf at found
  split at found <;> cases found <;> decide

theorem punctuationOf_type
    (found : punctuationOf symbol = some operators) :
    operators.2 ≠ .endOfFile ∧ ∀ operator ∈ operators.1, operator.2 ≠ .endOfFile := by
  unfold punctuationOf at found
  split at found <;> cases found <;> decide

theorem wordType_ne (word : List Char) : wordType word ≠ .endOfFile := by
  have reserved : ∀ reserved ∈ reservedWords, reserved.2 ≠ .endOfFile := by decide
  rw [wordType]
  rcases found : reservedWords.find? fun reserved => reserved.1.toList == word with _ | keyword
  · simp [found]
  · simpa [found] using reserved keyword (List.mem_of_find?_eq_some found)

variable {lexeme : Lexeme}

theorem isPunctuation_type
    (found : isPunctuation symbol reader = some lexeme) : lexeme.type ≠ .endOfFile := by
  rw [isPunctuation] at found
  split_ifs at found
  · split at found <;> cases found <;> simp
  · cases found
    simp
  · obtain ⟨operators,table,rfl⟩ := Option.map_eq_some_iff.mp found
    exact readOperator_type (punctuationOf_type table).1 (punctuationOf_type table).2

theorem isOperator_type
    (found : isOperator symbol reader = some lexeme) : lexeme.type ≠ .endOfFile := by
  obtain ⟨operators,table,rfl⟩ := Option.map_eq_some_iff.mp found
  exact readOperator_type (operatorsOf_type table).1 (operatorsOf_type table).2

theorem readLiteralOrWord_type
    (read : (readLiteralOrWord locale symbol reader).1 = some lexeme) : lexeme.type ≠ .endOfFile := by
  rw [readLiteralOrWord] at read
  split_ifs at read
  · obtain ⟨word,-,rfl⟩ := Option.map_eq_some_iff.mp read
    simp
  · obtain ⟨word,-,rfl⟩ := Option.map_eq_some_iff.mp read
    simp
  · cases read
    simp only [readNumberLiteral]
    split_ifs <;> simp
  · cases read
    exact wordType_ne _
  · cases read
    exact wordType_ne _

theorem readNextWordWithin_type {fuel : Nat}
    (read : (readNextWordWithin locale fuel reader).1 = some lexeme) : lexeme.type ≠ .endOfFile := by
  induction fuel generalizing reader with
  | zero => cases read
  | succ fuel ih =>
      rw [readNextWordWithin] at read
      split at read
      · cases read
      · split at read
        · next punctuation =>
            cases read
            exact isPunctuation_type punctuation
        · next operator =>
            split_ifs at read
            · split at read
              · exact ih read
              · cases read
            · cases read
              exact isOperator_type operator
        · exact readLiteralOrWord_type read

theorem readNextToken_type {token : SyntaxToken}
    (read : (readNextToken locale reader).1 = some token) : token.type ≠ .endOfFile := by
  rw [readNextToken] at read
  split at read
  · next word =>
      cases read
      exact readNextWordWithin_type (congrArg Prod.fst word)
  · cases read

end Types
end ShardScript.Lexical
