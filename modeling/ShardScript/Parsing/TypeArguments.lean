import Mathlib.Tactic.SplitIfs
import ShardScript.Parsing.Operands

/-! How types are written in tokens and read back, and what is taken for the type arguments of a name. -/
namespace ShardScript.Parsing

open Lexical (SyntaxToken TokenType)
open Library (Converges)
open SourceParser

section Writing

/-- What is written for a type, before two closing marks in a row may become one token. -/
inductive Symbol where
  | word (token : SyntaxToken)
  | mark (type : TokenType)

def Symbol.type : Symbol → TokenType
  | .word token => token.type
  | .mark type => type

inductive Lexed : List Symbol → List SyntaxToken → Prop where
  | nil : Lexed [] []
  | word (token : SyntaxToken) {symbols : List Symbol} {tokens : List SyntaxToken} (lexed : Lexed symbols tokens) :
      Lexed (.word token :: symbols) (token :: tokens)
  | mark {type : TokenType} {token : SyntaxToken} {symbols : List Symbol} {tokens : List SyntaxToken}
      (same : token.type = type) (lexed : Lexed symbols tokens) : Lexed (.mark type :: symbols) (token :: tokens)
  | closers {token : SyntaxToken} {symbols : List Symbol} {tokens : List SyntaxToken}
      (same : token.type = .rightShiftOperator) (lexed : Lexed symbols tokens) :
      Lexed (.mark .greaterOperator :: .mark .greaterOperator :: symbols) (token :: tokens)

-- the texts of the types that `ReadDelegateType` reads
variable (delegates : Nat → Option (List Symbol))

mutual

@[grind] def symbolsOf : TypeSyntax → List Symbol
  | .null => []
  | .predefined token | .identifierName token => [.word token]
  | .nullable type => symbolsOf type ++ [.mark .question]
  | .array type => symbolsOf type ++ [.mark .openSquare,.mark .closeSquare]
  | .generic type arguments => symbolsOf type ++ .mark .lessOperator :: argumentSymbols arguments
  | .qualifiedName type identifier => symbolsOf type ++ [.mark .delimeter,.word identifier]
  | .delegate number => (delegates number).getD []

@[grind] def argumentSymbols : List TypeSyntax → List Symbol
  | [] => []
  | [type] => symbolsOf type ++ [.mark .greaterOperator]
  | type :: types => symbolsOf type ++ .mark .comma :: argumentSymbols types

end

mutual

def IsWritten : (nullable : Bool) → TypeSyntax → Prop
  | _,.null => False
  | _,.predefined token => isPredefinedType token.type = true
  | _,.identifierName identifier => identifier.type = .identifier
  | nullable,.nullable type => nullable = true ∧ IsWritten false type
  | _,.array type => IsWritten false type
  | _,.generic type arguments => IsWritten false type ∧ AreWritten arguments
  | _,.qualifiedName type identifier => IsWritten false type ∧ identifier.type = .identifier
  | _,.delegate number => (delegates number).isSome = true

def AreWritten : List TypeSyntax → Prop
  | [] => False
  | [type] => IsWritten true type
  | type :: types => IsWritten true type ∧ AreWritten types

end

end Writing

section Reading

variable (readDelegateType : Bool → SourceParser → TypeSyntax × SourceParser)

def SourceParser.at (tokens : List SyntaxToken) (parser : SourceParser) : SourceParser := { parser with tokens := tokens }

def Unmodified (tokens : List SyntaxToken) : Prop :=
  (tokens.headD .endOfFile).type ∉ [TokenType.question,.openSquare,.lessOperator,.delimeter]

def Continues (type : TypeSyntax) (parser : SourceParser) (result : TypeSyntax × SourceParser) : Prop :=
  match type with
  | .nullable _ => result = (type,parser)
  | _ => Converges (fun fuel => readModifiedType readDelegateType fuel type true parser) result

def ReadsOn (type : TypeSyntax) : Prop := ∀ (symbols : List Symbol) (parser : SourceParser),
  Lexed (symbolsOf (fun _ => none) type ++ symbols) parser.tokens → ∃ tokens, Lexed symbols tokens ∧
    ∀ result, Continues readDelegateType type (parser.at tokens) result →
      Converges (fun fuel => readType readDelegateType fuel true parser) result

def ReadsArguments (types : List TypeSyntax) : Prop := ∀ (symbols : List Symbol) (parser : SourceParser),
  Lexed (argumentSymbols (fun _ => none) types ++ symbols) parser.tokens → ∃ tokens, Lexed symbols tokens ∧
    Converges (fun fuel => readTypeArguments readDelegateType fuel parser) (types,parser.at tokens)

variable {readDelegateType} {symbols : List Symbol}

theorem Lexed.cons_word {token : SyntaxToken} {tokens : List SyntaxToken}
    (lexed : Lexed (.word token :: symbols) tokens) : ∃ rest, tokens = token :: rest ∧ Lexed symbols rest := by
  cases lexed with
  | word _ lexed => exact ⟨_,rfl,lexed⟩

theorem Lexed.cons_mark {type : TokenType} {tokens : List SyntaxToken}
    (lexed : Lexed (.mark type :: symbols) tokens) (other : type ≠ .greaterOperator) :
    ∃ token rest, tokens = token :: rest ∧ token.type = type ∧ Lexed symbols rest := by
  cases lexed with
  | mark same lexed => exact ⟨_,_,rfl,same,lexed⟩
  | closers => exact absurd rfl other

theorem Lexed.cons_closer {tokens : List SyntaxToken}
    (lexed : Lexed (.mark .greaterOperator :: symbols) tokens) : ∃ token rest, tokens = token :: rest ∧
      (token.type = .greaterOperator ∧ Lexed symbols rest ∨
        token.type = .rightShiftOperator ∧ ∀ location,Lexed symbols (.of .greaterOperator ['>'] location :: rest)) := by
  cases lexed with
  | mark same lexed => exact ⟨_,_,rfl,.inl ⟨same,lexed⟩⟩
  | closers same lexed => exact ⟨_,_,rfl,.inr ⟨same,fun _ => .mark rfl lexed⟩⟩

variable {result : TypeSyntax × SourceParser} {type : TypeSyntax}

theorem Continues.of_written {parser : SourceParser}
    (written : IsWritten (fun _ => none) false type)
    (converges : Converges (fun fuel => readModifiedType readDelegateType fuel type true parser) result) :
    Continues readDelegateType type parser result := by
  cases type with
  | nullable => exact absurd written.1 Bool.false_ne_true
  | _ => exact converges

theorem IsWritten.nullable (written : IsWritten (fun _ => none) false type) :
    IsWritten (fun _ => none) true type := by
  cases type with
  | nullable => exact absurd written.1 Bool.false_ne_true
  | _ => exact written

theorem Continues.of_unmodified (type : TypeSyntax) {parser : SourceParser} (unmodified : Unmodified parser.tokens) :
    Continues readDelegateType type parser (type,parser) := by
  have ends : Converges (fun fuel => readModifiedType readDelegateType fuel type true parser) (type,parser) := by
    refine .spend (.congr (.pure _) fun fuel => ?_)
    rw [readModifiedType]
    have other : parser.kind ∉ [TokenType.question,.openSquare,.lessOperator,.delimeter] := unmodified
    split
    · next same => exact absurd (by rw [same]; decide) other
    · next same => exact absurd (by rw [same]; decide) other
    · next same => exact absurd (by rw [same]; decide) other
    · next same => exact absurd (by rw [same]; decide) other
    · rfl
  cases type with
  | nullable => rfl
  | _ => exact ends

section Steps

variable {parser : SourceParser} {token : SyntaxToken} {rest : List SyntaxToken}

theorem readType_word (next : parser.tokens = token :: rest)
    (known : isPredefinedType token.type = true ∧ type = .predefined token ∨
      token.type = .identifier ∧ type = .identifierName token)
    (continues : Converges (fun fuel => readModifiedType readDelegateType fuel type true (parser.at rest)) result) :
    Converges (fun fuel => readType readDelegateType fuel true parser) result := by
  refine .spend (.congr continues fun fuel => ?_)
  have current : parser.current = token := by simp [SourceParser.current,next]
  have consumed : parser.consume = parser.at rest := by simp [consume,next,SourceParser.at]
  rw [readType]
  simp only [current,consumed]
  rcases known with ⟨predefined,rfl⟩ | ⟨identifier,rfl⟩
  · rw [if_pos predefined]
  · have predefined : isPredefinedType token.type = false := by rw [identifier]; rfl
    have other : token.type ≠ .delegateKeyword := by rw [identifier]; decide
    rw [predefined,if_neg Bool.false_ne_true,if_neg other,if_pos identifier,expect_of _ next identifier]
    rfl

theorem readModifiedType_question (next : parser.tokens = token :: rest) (same : token.type = .question) (type : TypeSyntax) :
    Converges (fun fuel => readModifiedType readDelegateType fuel type true parser) (.nullable type,parser.at rest) := by
  refine .spend (.congr (.pure _) fun fuel => ?_)
  have kind : parser.kind = .question := by simpa [SourceParser.kind,SourceParser.current,next] using same
  rw [readModifiedType]
  simp only [kind,consume,next,List.tail_cons,SourceParser.at]

theorem readModifiedType_square {closing : SyntaxToken} (next : parser.tokens = token :: closing :: rest)
    (opens : token.type = .openSquare) (closes : closing.type = .closeSquare)

    (continues : Converges (fun fuel => readModifiedType readDelegateType fuel (.array type) true (parser.at rest)) result) :
    Converges (fun fuel => readModifiedType readDelegateType fuel type true parser) result := by
  refine .spend (.congr continues fun fuel => ?_)
  have kind : parser.kind = .openSquare := by simpa [SourceParser.kind,SourceParser.current,next] using opens
  have closed : (parser.at (closing :: rest)).expect .closeSquare "Expected ']'" = (closing,parser.at rest) :=
    expect_of _ rfl closes
  rw [readModifiedType]
  simp only [kind,expect_of _ next opens,if_true]
  exact congrArg (fun read : SyntaxToken × SourceParser => readModifiedType _ fuel _ true read.2) closed

theorem readModifiedType_dot {identifier : SyntaxToken} (next : parser.tokens = token :: identifier :: rest)
    (dot : token.type = .delimeter) (word : identifier.type = .identifier)

    (continues : Converges
      (fun fuel => readModifiedType readDelegateType fuel (.qualifiedName type identifier) true (parser.at rest)) result) :
    Converges (fun fuel => readModifiedType readDelegateType fuel type true parser) result := by
  refine .spend (.congr continues fun fuel => ?_)
  have kind : parser.kind = .delimeter := by simpa [SourceParser.kind,SourceParser.current,next] using dot
  have consumed : parser.consume = parser.at (identifier :: rest) := by simp [consume,next,SourceParser.at]
  have named : (parser.at (identifier :: rest)).expect .identifier "Expected identifier" = (identifier,parser.at rest) :=
    expect_of _ rfl word
  rw [readModifiedType]
  simp only [kind,consumed,named]

theorem readModifiedType_less (next : parser.tokens = token :: rest) (less : token.type = .lessOperator)
    (head : (rest.headD .endOfFile).type ≠ .greaterOperator ∧ (rest.headD .endOfFile).type ≠ .rightShiftOperator)
    {type : TypeSyntax} {arguments : List TypeSyntax} {left : List SyntaxToken} {result : TypeSyntax × SourceParser}
    (read : Converges (fun fuel => readTypeArguments readDelegateType fuel (parser.at rest)) (arguments,parser.at left))
    (continues : Converges
      (fun fuel => readModifiedType readDelegateType fuel (.generic type arguments) true (parser.at left)) result) :
    Converges (fun fuel => readModifiedType readDelegateType fuel type true parser) result := by
  have list : Converges (fun fuel => readTypeArgumentsList readDelegateType fuel parser) (arguments,parser.at left) := by
    refine .spend (.congr read fun fuel => ?_)
    rw [readTypeArgumentsList,expect_of _ next less]
    simp only
    rw [if_neg,if_neg]
    · rfl
    · exact head.2
    · exact head.1
  have both := @Converges.bind _ _ _ _
    (fun fuel read => readModifiedType readDelegateType fuel (.generic type read.1) true read.2) _ list
    continues
  refine .spend (.congr both fun fuel => ?_)
  have kind : parser.kind = .lessOperator := by simpa [SourceParser.kind,SourceParser.current,next] using less
  rw [readModifiedType]
  simp only [kind]

theorem tryMatch_of {types : List TokenType} (next : parser.tokens = token :: rest) (member : token.type ∈ types)
    (message : String) (skips : Nat) : parser.tryMatch types message skips = (true,parser) := by
  have able : parser.canConsume = true := by simp [canConsume,next]
  have kind : parser.kind = token.type := by simp [SourceParser.kind,SourceParser.current,next]
  rw [tryMatch,able,if_neg (by simp),kind,if_pos member]

theorem readTypeArguments_last (present : parser.tokens ≠ []) {closing : SyntaxToken}
    (read : Converges (fun fuel => readType readDelegateType fuel true parser) (type,parser.at (closing :: rest)))
    {left : List SyntaxToken} (closes : closing.type = .greaterOperator ∧ left = rest ∨
      closing.type = .rightShiftOperator ∧ left = .of .greaterOperator ['>'] closing.location :: rest) :
    Converges (fun fuel => readTypeArguments readDelegateType fuel parser) ([type],parser.at left) := by
  have able : parser.canConsume = true := by simpa [canConsume] using present
  have inner : (parser.at (closing :: rest)).kind = closing.type := rfl
  obtain ⟨enough,known⟩ := read
  refine .spend ⟨enough,fun fuel greater => ?_⟩
  have read := known fuel greater
  simp only [readTypeArguments,able,Bool.not_true,Bool.false_eq_true,if_false,read,Option.bind_some,inner]
  rcases closes with ⟨same,rfl⟩ | ⟨same,rfl⟩
  · have matched : (parser.at (closing :: left)).tryMatch [.comma,.greaterOperator] "Expected ',' or '>'" 3 =
        (true,parser.at (closing :: left)) := tryMatch_of rfl (by rw [same]; decide) _ _
    simp only [matched,inner,same,reduceCtorEq,if_false,if_true]
    rfl
  · rw [if_pos same]
    rfl

theorem readTypeArguments_comma (present : parser.tokens ≠ []) {types : List TypeSyntax}
    {comma : SyntaxToken} {left : List SyntaxToken} (separates : comma.type = .comma)
    (read : Converges (fun fuel => readType readDelegateType fuel true parser) (type,parser.at (comma :: rest)))
    (later : Converges (fun fuel => readTypeArguments readDelegateType fuel (parser.at rest)) (types,parser.at left)) :
    Converges (fun fuel => readTypeArguments readDelegateType fuel parser) (type :: types,parser.at left) := by
  have able : parser.canConsume = true := by simpa [canConsume] using present
  have inner : (parser.at (comma :: rest)).kind = comma.type := rfl
  have matched : (parser.at (comma :: rest)).tryMatch [.comma,.greaterOperator] "Expected ',' or '>'" 3 =
      (true,parser.at (comma :: rest)) := tryMatch_of rfl (by rw [separates]; decide) _ _
  have consumed : (parser.at (comma :: rest)).consume = parser.at rest := rfl
  obtain ⟨enough,known⟩ := read
  obtain ⟨enough',known'⟩ := later
  refine .spend ⟨max enough enough',fun fuel greater => ?_⟩
  have read := known fuel (Nat.le_trans (Nat.le_max_left ..) greater)
  have later := known' fuel (Nat.le_trans (Nat.le_max_right ..) greater)
  simp only [readTypeArguments,able,Bool.not_true,Bool.false_eq_true,if_false,read,Option.bind_some,inner,separates,
    reduceCtorEq,matched,consumed,later,Option.map_some]

end Steps

theorem symbolsOf_head : ∀ (type : TypeSyntax) {nullable : Bool},IsWritten (fun _ => none) nullable type →
    ∃ token symbols, symbolsOf (fun _ => none) type = .word token :: symbols ∧
      (isPredefinedType token.type = true ∨ token.type = .identifier)
  | .predefined token,_,written => ⟨token,[],rfl,.inl written⟩
  | .identifierName token,_,written => ⟨token,[],rfl,.inr written⟩
  | .nullable type,_,written => by
      obtain ⟨token,symbols,same,known⟩ := symbolsOf_head type written.2
      exact ⟨token,_,by rw [symbolsOf,same,List.cons_append],known⟩
  | .array type,_,written => by
      obtain ⟨token,symbols,same,known⟩ := @symbolsOf_head type false written
      exact ⟨token,_,by rw [symbolsOf,same,List.cons_append],known⟩
  | .generic type _,_,written => by
      obtain ⟨token,symbols,same,known⟩ := symbolsOf_head type written.1
      exact ⟨token,_,by rw [symbolsOf,same,List.cons_append],known⟩
  | .qualifiedName type _,_,written => by
      obtain ⟨token,symbols,same,known⟩ := symbolsOf_head type written.1
      exact ⟨token,_,by rw [symbolsOf,same,List.cons_append],known⟩

theorem argumentSymbols_head {types : List TypeSyntax} (written : AreWritten (fun _ => none) types) :
    ∃ token symbols, argumentSymbols (fun _ => none) types = .word token :: symbols ∧
      (isPredefinedType token.type = true ∨ token.type = .identifier) := by
  match types,written with
  | [type],written =>
    obtain ⟨token,symbols,same,known⟩ := symbolsOf_head type written
    exact ⟨token,_,by rw [argumentSymbols,same,List.cons_append],known⟩
  | type :: type' :: types,written =>
    obtain ⟨token,symbols,same,known⟩ := symbolsOf_head type written.1
    exact ⟨token,_,by rw [argumentSymbols,same,List.cons_append]; exact nofun,known⟩

theorem not_closing {token : SyntaxToken} (known : isPredefinedType token.type = true ∨ token.type = .identifier) :
    token.type ≠ .greaterOperator ∧ token.type ≠ .rightShiftOperator := by
  constructor
  · intro same
    rw [same] at known
    exact absurd known (by decide)
  · intro same
    rw [same] at known
    exact absurd known (by decide)

theorem Unmodified.of_type {token : SyntaxToken} (rest : List SyntaxToken)
    (known : token.type ∈ [TokenType.comma,.greaterOperator,.rightShiftOperator]) : Unmodified (token :: rest) := by
  intro member
  simp only [List.mem_cons,List.not_mem_nil,or_false] at known
  change token.type ∈ _ at member
  rcases known with same | same | same
  · rw [same] at member
    exact absurd member (by decide)
  · rw [same] at member
    exact absurd member (by decide)
  · rw [same] at member
    exact absurd member (by decide)

theorem written_present (type : TypeSyntax) {nullable : Bool} (written : IsWritten (fun _ => none) nullable type)
    {tokens : List SyntaxToken}
    (lexed : Lexed (symbolsOf (fun _ => none) type ++ symbols) tokens) : tokens ≠ [] := by
  obtain ⟨token,symbols',same,_⟩ := symbolsOf_head type written
  rw [same] at lexed
  obtain ⟨rest,rfl,_⟩ := lexed.cons_word
  exact List.cons_ne_nil _ _

mutual

theorem reads_type : ∀ (type : TypeSyntax),IsWritten (fun _ => none) true type → ReadsOn readDelegateType type
  | .predefined token,written => by
      intro symbols parser lexed
      obtain ⟨rest,next,lexed⟩ := lexed.cons_word
      exact ⟨rest,lexed,fun result continues => readType_word next (.inl ⟨written,rfl⟩) continues⟩
  | .identifierName token,written => by
      intro symbols parser lexed
      obtain ⟨rest,next,lexed⟩ := lexed.cons_word
      exact ⟨rest,lexed,fun result continues => readType_word next (.inr ⟨written,rfl⟩) continues⟩
  | .nullable type,written => by
      intro symbols parser lexed
      rw [symbolsOf,List.append_assoc] at lexed
      obtain ⟨tokens,lexed,continues⟩ := reads_type type written.2.nullable _ parser lexed
      obtain ⟨token,rest,rfl,same,lexed⟩ := lexed.cons_mark (by decide)
      refine ⟨rest,lexed,fun result known => continues result (.of_written written.2 ?_)⟩
      obtain rfl : result = _ := known
      exact readModifiedType_question rfl same type
  | .array type,written => by
      intro symbols parser lexed
      rw [symbolsOf,List.append_assoc] at lexed
      obtain ⟨tokens,lexed,continues⟩ := reads_type type written.nullable _ parser lexed
      obtain ⟨opening,tokens,rfl,opens,lexed⟩ := lexed.cons_mark (by decide)
      obtain ⟨closing,rest,rfl,closes,lexed⟩ := lexed.cons_mark (by decide)
      exact ⟨rest,lexed,fun result known => continues result
        (.of_written written (readModifiedType_square rfl opens closes known))⟩
  | .generic type arguments,written => by
      intro symbols parser lexed
      rw [symbolsOf,List.append_assoc] at lexed
      obtain ⟨tokens,lexed,continues⟩ := reads_type type written.1.nullable _ parser lexed
      obtain ⟨opening,tokens,rfl,less,lexed⟩ := lexed.cons_mark (by decide)
      obtain ⟨first,symbols',head,known⟩ := argumentSymbols_head written.2
      have begins : (tokens.headD .endOfFile) = first := by
        rw [List.append_eq,head] at lexed
        obtain ⟨rest,rfl,_⟩ := lexed.cons_word
        rfl
      obtain ⟨rest,lexed,read⟩ := reads_arguments arguments written.2 _ (parser.at tokens) lexed
      have apart := not_closing known
      rw [← begins] at apart
      exact ⟨rest,lexed,fun result known' => continues result (.of_written written.1
        (@readModifiedType_less _ (parser.at (opening :: tokens)) _ _ rfl less apart _ _ _ _ read known'))⟩
  | .qualifiedName type identifier,written => by
      intro symbols parser lexed
      rw [symbolsOf,List.append_assoc] at lexed
      obtain ⟨tokens,lexed,continues⟩ := reads_type type written.1.nullable _ parser lexed
      obtain ⟨dot,tokens,rfl,same,lexed⟩ := lexed.cons_mark (by decide)
      obtain ⟨rest,rfl,lexed'⟩ := lexed.cons_word
      exact ⟨rest,lexed',fun result known => continues result
        (.of_written written.1 (readModifiedType_dot rfl same written.2 known))⟩

theorem reads_arguments : ∀ (types : List TypeSyntax),AreWritten (fun _ => none) types →
    ReadsArguments readDelegateType types
  | [type],written => by
      intro symbols parser lexed
      rw [argumentSymbols,List.append_assoc] at lexed
      have present := written_present type written lexed
      obtain ⟨tokens,lexed,continues⟩ := reads_type type written _ parser lexed
      obtain ⟨closing,rest,rfl,closes⟩ := lexed.cons_closer
      rcases closes with ⟨greater,lexed⟩ | ⟨shift,lexed⟩
      · have unmodified : Unmodified (closing :: rest) := .of_type rest (by rw [greater]; decide)
        exact ⟨rest,lexed,readTypeArguments_last present (continues _ (.of_unmodified type unmodified)) (.inl ⟨greater,rfl⟩)⟩
      · have unmodified : Unmodified (closing :: rest) := .of_type rest (by rw [shift]; decide)
        exact ⟨_,lexed closing.location,
          readTypeArguments_last present (continues _ (.of_unmodified type unmodified)) (.inr ⟨shift,rfl⟩)⟩
  | type :: type' :: types,written => by
      intro symbols parser lexed
      rw [argumentSymbols,List.append_assoc] at lexed
      · have present := written_present type written.1 lexed
        obtain ⟨tokens,lexed,continues⟩ := reads_type type written.1 _ parser lexed
        obtain ⟨comma,tokens,rfl,separates,lexed⟩ := lexed.cons_mark (by decide)
        have unmodified : Unmodified (comma :: tokens) := .of_type tokens (by rw [separates]; decide)
        obtain ⟨rest,lexed,later⟩ := reads_arguments (type' :: types) written.2 _ (parser.at tokens) lexed
        exact ⟨rest,lexed,readTypeArguments_comma present separates (continues _ (.of_unmodified type unmodified)) later⟩
      · exact nofun

end

theorem Lexed.append {tokens : List SyntaxToken} (lexed : Lexed symbols tokens)
    (rest : List SyntaxToken) : Lexed (symbols ++ rest.map .word) (tokens ++ rest) := by
  induction lexed with
  | nil =>
    induction rest with
    | nil => exact .nil
    | cons token rest ih => exact .word token ih
  | word token _ ih => exact .word token ih
  | mark same _ ih => exact .mark same ih
  | closers same _ ih => exact .closers same ih

theorem Lexed.words {rest tokens : List SyntaxToken} (lexed : Lexed (rest.map .word) tokens) : tokens = rest := by
  induction rest generalizing tokens with
  | nil =>
    cases lexed
    rfl
  | cons token rest ih =>
    obtain ⟨tokens,rfl,lexed'⟩ := lexed.cons_word
    rw [ih lexed']

/-- Whatever closing marks have become one token, a type is read back from what is written for it, with nothing left and
nothing put back. -/
theorem readType_written {type : TypeSyntax} (written : IsWritten (fun _ => none) true type) {tokens rest : List SyntaxToken}
    (lexed : Lexed (symbolsOf (fun _ => none) type) tokens) (unmodified : Unmodified rest) {parser : SourceParser}
    (next : parser.tokens = tokens ++ rest) :
    Converges (fun fuel => readType readDelegateType fuel true parser) (type,parser.at rest) := by
  have all := lexed.append rest
  rw [← next] at all
  obtain ⟨left,words,continues⟩ := reads_type type written _ parser all
  obtain rfl := words.words
  exact continues _ (.of_unmodified type unmodified)

/-- `L<int[],L<int>>`, where both marks at the end are one token. -/
theorem readType_nested :
    let name := plain .identifier
    let int := plain .integerKeyword
    let inner := TypeSyntax.generic (.identifierName name) [.predefined int]
    Converges
      (fun fuel => readType (fun _ parser => (.predefined int,parser)) fuel true { tokens := [name,plain .lessOperator,int,
        plain .openSquare,plain .closeSquare,plain .comma,name,plain .lessOperator,int,plain .rightShiftOperator] })
      (.generic (.identifierName name) [.array (.predefined int),inner],{ tokens := [] }) := by
  intro name int inner
  have written : IsWritten (fun _ => none) true (.generic (.identifierName name) [.array (.predefined int),inner]) :=
    ⟨rfl,rfl,rfl,rfl⟩
  have lexed : Lexed (symbolsOf (fun _ => none) (.generic (.identifierName name) [.array (.predefined int),inner]))
      [name,plain .lessOperator,int,plain .openSquare,plain .closeSquare,plain .comma,name,plain .lessOperator,int,
        plain .rightShiftOperator] :=
    .word name (.mark rfl (.word int (.mark rfl (.mark rfl (.mark rfl (.word name (.mark rfl
      (.word int (.closers rfl .nil)))))))))
  have unmodified : Unmodified [] := by rw [Unmodified]; decide
  exact readType_written written lexed unmodified rfl

end Reading

section LookAhead

/-- What a token adds to the number of lists that are open, if the two marks of one token count as `shift`. -/
def weight (shift : Int) : TokenType → Int
  | .lessOperator => 1
  | .greaterOperator => -1
  | .rightShiftOperator => -shift
  | _ => 0

inductive Closes (shift : Int) : (depth : Int) → List SyntaxToken → Prop where
  | last {depth : Int} {closer : SyntaxToken} (closes : weight shift closer.type < 0)
      (zero : depth + weight shift closer.type = 0) : Closes shift depth [closer]
  | cons {depth : Int} {token : SyntaxToken} {list : List SyntaxToken}
      (known : token.type ≠ .endOfFile ∧ token.type ≠ .unknown)
      (open_ : ¬ (weight shift token.type < 0 ∧ depth + weight shift token.type = 0))
      (later : Closes shift (depth + weight shift token.type) list) : Closes shift depth (token :: list)

def ClosedBefore (shift depth : Int) (type : TokenType) (tokens : List SyntaxToken) : Prop :=
  ∃ list next rest, tokens = list ++ next :: rest ∧ Closes shift depth list ∧ next.type = type

variable (delegates : Nat → Option (List Symbol))

/-- The tokens behind an opening mark are those of a list of type arguments, with its closing mark. -/
def IsArgumentsList (list : List SyntaxToken) : Prop :=
  ∃ types, AreWritten delegates types ∧ Lexed (argumentSymbols delegates types) list

def ListedBefore (type : TokenType) (tokens : List SyntaxToken) : Prop :=
  ∃ list next rest, tokens = list ++ next :: rest ∧ IsArgumentsList delegates list ∧ next.type = type

/-- Behind the opening mark there are type arguments, and then an opening parenthesis or a dot. -/
def BeginsArguments (tokens : List SyntaxToken) : Prop :=
  ListedBefore delegates .openCurl tokens ∨ ListedBefore delegates .delimeter tokens

def ReadsComparison (readers : Readers) (less : SyntaxToken) (tokens : List SyntaxToken) : Prop :=
  ∀ fuel identifier previous (parser : SourceParser), parser.tokens = less :: tokens →
    readBehindIdentifier readers (fuel + 1) identifier previous parser = some (.memberAccess identifier previous,parser)

/-- Nothing is closed by count that is not a list of type arguments, and no such list in front of a dot has two closing
marks in one token. -/
structure Unambiguous (tokens : List SyntaxToken) : Prop where
  invoked : ClosedBefore 2 1 .openCurl tokens → BeginsArguments delegates tokens
  received : ClosedBefore 0 1 .delimeter tokens → BeginsArguments delegates tokens
  shifted : ∀ list next rest, tokens = list ++ next :: rest → IsArgumentsList delegates list → next.type = .delimeter →
    (∃ token ∈ list,token.type = .rightShiftOperator) → ClosedBefore 0 1 .delimeter tokens

variable {tokens : List SyntaxToken} {shift depth : Int}

theorem closedBefore_cons {type : TokenType} {token : SyntaxToken} :
    ClosedBefore shift depth type (token :: tokens) ↔
      (weight shift token.type < 0 ∧ depth + weight shift token.type = 0 ∧ ∃ next ∈ tokens.head?,next.type = type) ∨
      ((token.type ≠ .endOfFile ∧ token.type ≠ .unknown) ∧
        ¬ (weight shift token.type < 0 ∧ depth + weight shift token.type = 0) ∧
        ClosedBefore shift (depth + weight shift token.type) type tokens) := by
  constructor
  · rintro ⟨list,next,rest,same,closes,kind⟩
    cases closes with
    | last closes zero =>
      cases same
      exact .inl ⟨closes,zero,next,rfl,kind⟩
    | cons known open_ later =>
      cases same
      exact .inr ⟨known,open_,_,next,rest,rfl,later,kind⟩
  · rintro (⟨closes,zero,next,head,kind⟩ | ⟨known,open_,list,next,rest,rfl,later,kind⟩)
    · obtain ⟨rest,rfl⟩ := List.head?_eq_some_iff.1 head
      exact ⟨[token],next,rest,rfl,.last closes zero,kind⟩
    · exact ⟨token :: list,next,rest,rfl,.cons known open_ later,kind⟩

theorem not_closedBefore_nil {type : TokenType} : ¬ ClosedBefore shift depth type [] := by
  rintro ⟨list,next,rest,same,_⟩
  cases list with
  | nil => cases same
  | cons => cases same

theorem closedBefore_of_scan {shift : Int} {type : TokenType} {scan : Int → List SyntaxToken → Bool}
    (nil : ∀ depth,scan depth [] = false)
    (cons : ∀ depth token tokens,scan depth (token :: tokens) =
      if token.type = .endOfFile ∨ token.type = .unknown then false
      else if weight shift token.type < 0 ∧ depth + weight shift token.type = 0 then
        decide ((tokens.headD .endOfFile).type = type)
      else scan (depth + weight shift token.type) tokens)
    (other : type ≠ .endOfFile) {depth : Int} :
    scan depth tokens = true ↔ ClosedBefore shift depth type tokens := by
  induction tokens generalizing depth with
  | nil => simp [nil,not_closedBefore_nil]
  | cons token tokens ih =>
    have head : (tokens.headD .endOfFile).type = type ↔ ∃ next ∈ tokens.head?,next.type = type := by
      cases tokens with
      | nil => simpa [SyntaxToken.endOfFile,SyntaxToken.of] using Ne.symm other
      | cons next tokens => simp
    rw [closedBefore_cons,cons]
    split_ifs with ends closes
    · have none : ¬ weight shift token.type < 0 := by
        rcases ends with same | same <;> simp [same,weight]
      have not_known : ¬ (token.type ≠ .endOfFile ∧ token.type ≠ .unknown) := fun known => ends.elim known.1 known.2
      simp [none,not_known]
    · simp only [decide_eq_true_eq,head,closes,true_and,not_true_eq_false,false_and,and_false,or_false]
    · have known : token.type ≠ .endOfFile ∧ token.type ≠ .unknown := not_or.1 ends
      have open_ : ¬ (weight shift token.type < 0 ∧ depth + weight shift token.type = 0 ∧
          ∃ next ∈ tokens.head?,next.type = type) := fun same => closes ⟨same.1,same.2.1⟩
      rw [ih]
      simp only [known,closes,open_,false_or,not_false_eq_true,true_and,ne_eq]

theorem isGenericInvocation_iff :
    isGenericInvocation 1 tokens = true ↔ ClosedBefore 2 1 .openCurl tokens := by
  apply closedBefore_of_scan
  · exact fun _ => rfl
  · intro depth token tokens
    rw [isGenericInvocation]
    split
    · next same => simp [same]
    · next same => simp [same]
    · next same => simp [same,weight]
    · next same => simp [same,weight,← Int.sub_eq_add_neg]
    · next same => simp [same,weight,← Int.sub_eq_add_neg]
    · next ends unknown less greater shift =>
      have none : weight 2 token.type = 0 := by
        unfold weight
        split
        · exact absurd ‹_› less
        · exact absurd ‹_› greater
        · exact absurd ‹_› shift
        · rfl
      have known : ¬ (token.type = .endOfFile ∨ token.type = .unknown) := not_or.2 ⟨ends,unknown⟩
      simp [none,known]
  · decide

theorem isGenericTypeReceiver_iff :
    isGenericTypeReceiver 1 tokens = true ↔ ClosedBefore 0 1 .delimeter tokens := by
  apply closedBefore_of_scan
  · exact fun _ => rfl
  · intro depth token tokens
    rw [isGenericTypeReceiver]
    split
    · next same => simp [same]
    · next same => simp [same]
    · next same => simp [same,weight]
    · next same => simp [same,weight,← Int.sub_eq_add_neg]
    · next ends unknown less greater =>
      have none : weight 0 token.type = 0 := by
        unfold weight
        split
        · exact absurd ‹_› less
        · exact absurd ‹_› greater
        · rfl
        · rfl
      have known : ¬ (token.type = .endOfFile ∨ token.type = .unknown) := not_or.2 ⟨ends,unknown⟩
      simp [none,known]
  · decide

theorem readsComparison_iff {readers : Readers} {less : SyntaxToken} (mark : less.type = .lessOperator)
    : ReadsComparison readers less tokens ↔
      ¬ (ClosedBefore 2 1 .openCurl tokens ∨ ClosedBefore 0 1 .delimeter tokens) := by
  rw [← isGenericInvocation_iff,← isGenericTypeReceiver_iff]
  have step (parser : SourceParser) (next : parser.tokens = less :: tokens) :
      parser.canConsume = true ∧ parser.kind = .lessOperator ∧ parser.tokens.tail = tokens := by
    simp [canConsume,SourceParser.kind,SourceParser.current,next,mark]
  constructor
  · intro reads scanned
    have read := reads 0 .endOfFile .null { tokens := less :: tokens } rfl
    obtain ⟨able,kind,tail⟩ := step { tokens := less :: tokens } rfl
    rw [readBehindIdentifier] at read
    simp only [able,kind,tail,Bool.not_true,Bool.false_eq_true,if_false] at read
    -- without fuel the list is not read, whatever it is
    rcases scanned with invoked | received
    · rw [if_pos invoked] at read
      cases read
    · by_cases invoked : isGenericInvocation 1 tokens = true
      · rw [if_pos invoked] at read
        cases read
      · rw [if_neg invoked,if_pos received] at read
        cases read
  · intro apart fuel identifier previous parser next
    rw [not_or] at apart
    obtain ⟨able,kind,tail⟩ := step parser next
    rw [readBehindIdentifier]
    simp only [able,kind,tail,Bool.not_true,Bool.false_eq_true,if_false,if_neg apart.1,if_neg apart.2]

section Balance

/-- The marks close the lists that are open, one more than the number, and the last mark closes the first list. -/
inductive Ends : Nat → List Symbol → Prop where
  | last : Ends 0 [.mark .greaterOperator]
  | closer {depth : Nat} {symbols : List Symbol} (ends : Ends depth symbols) :
      Ends (depth + 1) (.mark .greaterOperator :: symbols)
  | opener {depth : Nat} {symbols : List Symbol} (ends : Ends (depth + 1) symbols) :
      Ends depth (.mark .lessOperator :: symbols)
  | other {depth : Nat} {symbol : Symbol} {symbols : List Symbol}
      (neutral : symbol.type ∉ [TokenType.lessOperator,.greaterOperator,.rightShiftOperator,.endOfFile,.unknown])
      (ends : Ends depth symbols) : Ends depth (symbol :: symbols)

def Balanced (symbols : List Symbol) : Prop :=
  ∀ (depth : Nat) (rest : List Symbol),Ends depth rest → Ends depth (symbols ++ rest)

theorem Balanced.append {symbols symbols' : List Symbol} (balanced : Balanced symbols) (balanced' : Balanced symbols') :
    Balanced (symbols ++ symbols') := by
  intro depth rest ends
  rw [List.append_assoc]
  exact balanced depth _ (balanced' depth rest ends)

variable {delegates}

mutual

theorem symbolsOf_balanced (known : ∀ number symbols,delegates number = some symbols → Balanced symbols) :
    ∀ (type : TypeSyntax) {nullable : Bool},IsWritten delegates nullable type → Balanced (symbolsOf delegates type)
  | .predefined token,_,written => by
      intro depth rest ends
      refine .other ?_ ends
      have predefined : isPredefinedType token.type = true := written
      simp only [List.mem_cons,List.not_mem_nil,or_false]
      rintro (same | same | same | same | same)
      all_goals
        rw [show token.type = _ from same] at predefined
        cases predefined
  | .identifierName token,_,written => by
      intro depth rest ends
      refine .other ?_ ends
      rw [Symbol.type,show token.type = _ from written]
      decide
  | .nullable type,_,written => by
      refine (symbolsOf_balanced known type written.2).append ?_
      exact fun _ _ ends => .other (by decide) ends
  | .array type,_,written => by
      refine (@symbolsOf_balanced known type false written).append ?_
      exact fun _ _ ends => .other (by decide) (.other (by decide) ends)
  | .generic type arguments,_,written => by
      refine (symbolsOf_balanced known type written.1).append ?_
      exact fun _ _ ends => .opener (argumentSymbols_ends known arguments written.2 (.closer ends))
  | .qualifiedName type identifier,_,written => by
      refine (symbolsOf_balanced known type written.1).append ?_
      intro depth rest ends
      refine .other (by decide) (.other ?_ ends)
      rw [Symbol.type,written.2]
      decide
  | .delegate number,_,written => by
      obtain ⟨symbols,same⟩ := Option.isSome_iff_exists.1 written
      rw [symbolsOf,same]
      exact known number symbols same

theorem argumentSymbols_ends (known : ∀ number symbols,delegates number = some symbols → Balanced symbols) :
    ∀ (types : List TypeSyntax) {depth : Nat} {rest : List Symbol},AreWritten delegates types →
      Ends depth (.mark .greaterOperator :: rest) → Ends depth (argumentSymbols delegates types ++ rest)
  | [type],_,_,written,ends => by
      rw [argumentSymbols,List.append_assoc]
      exact symbolsOf_balanced known type written _ _ ends
  | type :: type' :: types,_,_,written,ends => by
      rw [argumentSymbols,List.append_assoc]
      · exact symbolsOf_balanced known type written.1 _ _
          (.other (by decide) (argumentSymbols_ends known (type' :: types) written.2 ends))
      · exact nofun

end

theorem Closes.neutral {token : SyntaxToken} {list : List SyntaxToken}
    (neutral : token.type ∉ [TokenType.lessOperator,.greaterOperator,.rightShiftOperator,.endOfFile,.unknown])
    (later : Closes shift depth list) : Closes shift depth (token :: list) := by
  simp only [List.mem_cons,List.not_mem_nil,or_false,not_or] at neutral
  obtain ⟨less,greater,double,ends,unknown⟩ := neutral
  have none : weight shift token.type = 0 := by
    unfold weight
    split
    · exact absurd ‹_› less
    · exact absurd ‹_› greater
    · exact absurd ‹_› double
    · rfl
  refine .cons ⟨ends,unknown⟩ ?_ ?_
  · rw [none]
    exact fun closes => Int.lt_irrefl 0 closes.1
  · rw [none,Int.add_zero]
    exact later

theorem Ends.closes {shift : Int} {depth : Nat} {symbols : List Symbol}
    (ends : Ends depth symbols) (lexed : Lexed symbols tokens)
    (counted : ∀ token ∈ tokens,token.type = .rightShiftOperator → shift = 2) : Closes shift (depth + 1) tokens := by
  induction lexed generalizing depth with
  | nil => cases ends
  | word token _ ih =>
    cases ends with
    | other neutral ends => exact .neutral neutral (ih ends fun _ member => counted _ (List.mem_cons_of_mem _ member))
  | @mark type token symbols tokens same lexed ih =>
    have later {depth : Nat} (ends : Ends depth symbols) : Closes shift (depth + 1) tokens :=
      ih ends fun _ member => counted _ (List.mem_cons_of_mem _ member)
    cases ends with
    | last =>
      cases lexed
      have one : weight shift token.type = -1 := by rw [same]; rfl
      exact .last (by rw [one]; decide) (by rw [one]; rfl)
    | @closer depth _ ends =>
      have one : weight shift token.type = -1 := by rw [same]; rfl
      refine .cons (by rw [same]; decide) ?_ ?_
      · rw [one]
        omega
      · have next := later ends
        rw [one]
        rwa [show ((depth + 1 : Nat) : Int) + 1 + -1 = depth + 1 by omega]
    | opener ends =>
      have one : weight shift token.type = 1 := by rw [same]; rfl
      refine .cons (by rw [same]; decide) ?_ ?_
      · rw [one]
        omega
      · rw [one]
        exact later ends
    | other neutral ends =>
      rw [Symbol.type,← same] at neutral
      exact .neutral neutral (later ends)
  | @closers token symbols tokens same lexed ih =>
    have two : weight shift token.type = -2 := by
      rw [same,counted token (List.mem_cons_self ..) same]
      rfl
    cases ends with
    | other neutral => exact absurd neutral (by decide)
    | closer ends =>
      cases ends with
      | other neutral => exact absurd neutral (by decide)
      | last =>
        cases lexed
        exact .last (by rw [two]; decide) (by rw [two]; rfl)
      | @closer depth _ ends =>
        have next := ih ends fun _ member => counted _ (List.mem_cons_of_mem _ member)
        refine .cons (by rw [same]; decide) ?_ ?_
        · rw [two]
          omega
        · rw [two]
          rwa [show ((depth + 1 + 1 : Nat) : Int) + 1 + -2 = depth + 1 by omega]

theorem Closes.unique {list list' rest rest' : List SyntaxToken} (closes : Closes shift depth list)
    (closes' : Closes shift depth list') (same : list ++ rest = list' ++ rest') : list = list' := by
  induction closes generalizing list' with
  | last negative zero =>
    cases closes' with
    | last =>
      rw [List.singleton_append,List.singleton_append] at same
      rw [List.head_eq_of_cons_eq same]
    | cons _ open_ =>
      rw [List.singleton_append,List.cons_append] at same
      rw [List.head_eq_of_cons_eq same] at negative zero
      exact absurd ⟨negative,zero⟩ open_
  | cons _ open_ _ ih =>
    cases closes' with
    | last negative zero =>
      rw [List.singleton_append,List.cons_append] at same
      rw [← List.head_eq_of_cons_eq same] at negative zero
      exact absurd ⟨negative,zero⟩ open_
    | cons _ _ later =>
      rw [List.cons_append,List.cons_append,List.cons.injEq] at same
      obtain ⟨rfl,same⟩ := same
      rw [ih later same]

theorem IsArgumentsList.closes (known : ∀ number symbols,delegates number = some symbols → Balanced symbols)
    {list : List SyntaxToken} (arguments : IsArgumentsList delegates list) {shift : Int}
    (counted : ∀ token ∈ list,token.type = .rightShiftOperator → shift = 2) : Closes shift 1 list := by
  obtain ⟨types,written,lexed⟩ := arguments
  have ends := argumentSymbols_ends known types written .last
  rw [List.append_nil] at ends
  exact ends.closes lexed counted

end Balance

/-- A mark behind a name is taken for that of type arguments where it should be, unless tokens that are not type arguments
are closed by count in front of a parenthesis or a dot, or two closing marks in one token are not counted in front of a
dot. -/
theorem typeArguments_iff {delegates : Nat → Option (List Symbol)}
    (known : ∀ number symbols,delegates number = some symbols → Balanced symbols) (readers : Readers) {less : SyntaxToken}
    (mark : less.type = .lessOperator) (tokens : List SyntaxToken) :
    (ReadsComparison readers less tokens ↔ ¬ BeginsArguments delegates tokens) ↔ Unambiguous delegates tokens := by
  rw [readsComparison_iff mark,not_iff_not]
  constructor
  · intro same
    refine ⟨fun invoked => same.1 (.inl invoked),fun received => same.1 (.inr received),?_⟩
    intro list next rest split arguments dot _
    rcases same.2 (.inr ⟨list,next,rest,split,arguments,dot⟩) with ⟨list',next',rest',split',closes',kind'⟩ | received
    · -- the list is closed in front of one token only
      have closes := arguments.closes known fun _ _ _ => rfl
      have whole : list = list' := closes.unique closes' (split.symm.trans split')
      rw [split,whole] at split'
      have next_eq := List.head_eq_of_cons_eq (List.append_cancel_left split')
      rw [next_eq,kind'] at dot
      cases dot
    · exact received
  · intro unambiguous
    constructor
    · rintro (invoked | received)
      · exact unambiguous.invoked invoked
      · exact unambiguous.received received
    · rintro (⟨list,next,rest,split,arguments,kind⟩ | ⟨list,next,rest,split,arguments,kind⟩)
      · exact .inl ⟨list,next,rest,split,arguments.closes known fun _ _ _ => rfl,kind⟩
      · by_cases double : ∃ token ∈ list,token.type = .rightShiftOperator
        · exact .inr (unambiguous.shifted list next rest split arguments kind double)
        · refine .inr ⟨list,next,rest,split,arguments.closes known ?_,kind⟩
          exact fun token member same => absurd ⟨token,member,same⟩ double

/-- `f<int>()` -/
theorem typeArguments_invoked : ¬ ReadsComparison plainReaders (plain .lessOperator)
    [plain .integerKeyword,plain .greaterOperator,plain .openCurl,plain .closeCurl] := by
  have arguments : IsArgumentsList (fun _ => none) [plain .integerKeyword,plain .greaterOperator] :=
    ⟨[.predefined (plain .integerKeyword)],rfl,.word _ (.mark rfl .nil)⟩
  have begins : BeginsArguments (fun _ => none)
      [plain .integerKeyword,plain .greaterOperator,plain .openCurl,plain .closeCurl] :=
    .inl ⟨_,_,_,rfl,arguments,rfl⟩
  have settled := @typeArguments_iff (fun _ => none) nofun plainReaders (plain .lessOperator) rfl
    [plain .integerKeyword,plain .greaterOperator,plain .openCurl,plain .closeCurl]
  intro comparison
  refine (settled.2 ⟨fun _ => begins,fun _ => begins,?_⟩).1 comparison begins
  rintro list next rest split _ _ ⟨token,member,double⟩
  have all := List.mem_append_left (next :: rest) member
  rw [← split] at all
  simp only [List.mem_cons,List.not_mem_nil,or_false] at all
  rcases all with rfl | rfl | rfl | rfl <;> cases double

/-- In `i < 5; j > (k)` the mark is taken for that of type arguments. -/
theorem typeArguments_statements : ¬ (ReadsComparison plainReaders (plain .lessOperator)
      [plain .numberLiteral,plain .semicolon,plain .identifier,plain .greaterOperator,plain .openCurl,plain .identifier,
        plain .closeCurl] ↔
    ¬ BeginsArguments (fun _ => none)
      [plain .numberLiteral,plain .semicolon,plain .identifier,plain .greaterOperator,plain .openCurl,plain .identifier,
        plain .closeCurl]) := by
  have literal {type : TokenType} : ¬ ListedBefore (fun _ => none) type
      [plain .numberLiteral,plain .semicolon,plain .identifier,plain .greaterOperator,plain .openCurl,plain .identifier,
        plain .closeCurl] := by
    rintro ⟨list,next,rest,split,⟨types,written,lexed⟩,_⟩
    obtain ⟨token,symbols,same,known⟩ := argumentSymbols_head written
    rw [same] at lexed
    obtain ⟨list,rfl,_⟩ := lexed.cons_word
    rw [← List.head_eq_of_cons_eq split] at known
    exact absurd known (by decide)
  rw [readsComparison_iff rfl,not_iff_not]
  intro same
  have scanned := same.1 (.inl (isGenericInvocation_iff.1 rfl))
  exact scanned.elim literal literal

end LookAhead

end ShardScript.Parsing
