import Mathlib.Tactic.SplitIfs
import ShardScript.Lexical.SyntaxToken

/-! The tokens that `LexicalAnalyzer` reads from a source text, one after the other. -/
namespace ShardScript.Lexical

/-- `std::iswspace` and `std::iswalnum` in the locale of the process. -/
structure Locale where
  isSpace : Char → Bool
  isAlnum : Char → Bool

def Locale.classic : Locale where
  isSpace ch := [' ','\t','\n','\x0b','\x0c','\r'].contains ch
  isAlnum := Char.isAlphanum

structure Position where
  line : Int
  offset : Int
  deriving DecidableEq

def Position.advance (ch : Char) (position : Position) : Position :=
  if ch = '\n' then ⟨position.line + 1,0⟩
  else if ch ≠ '\x00' then { position with offset := position.offset + 1 }
  else position

/-- The characters that are left in the source text of this name, and where they stand. -/
structure Reader where
  name : String
  text : List Char
  position : Position
  putbackSymbol : Option Char
  deriving DecidableEq

namespace Reader

def of (name : String) (text : List Char) : Reader := ⟨name,text,⟨1,0⟩,none⟩

def size (reader : Reader) : Nat := reader.putbackSymbol.toList.length + reader.text.length

end Reader

section Tables

def operatorsOf : Char → Option (List (Char × TokenType) × TokenType)
  | '=' => some ([('=',.equalsOperator),('>',.lambdaOperator)],.assignOperator)
  | '!' => some ([('=',.notEqualsOperator)],.notOperator)
  | '>' => some ([('=',.greaterOrEqualsOperator),('>',.rightShiftOperator)],.greaterOperator)
  | '<' => some ([('=',.lessOrEqualsOperator),('<',.leftShiftOperator)],.lessOperator)
  | '+' => some ([('=',.addAssignOperator),('+',.incrementOperator)],.addOperator)
  | '-' => some ([('=',.subAssignOperator),('-',.decrementOperator),('>',.arrowOperator)],.subOperator)
  | '*' => some ([('=',.multAssignOperator)],.multOperator)
  | '/' => some ([('=',.divAssignOperator),('/',.trivia)],.divOperator)
  | '%' => some ([('=',.modAssignOperator)],.modOperator)
  | '^' => some ([('=',.powAssignOperator)],.powOperator)
  | '&' => some ([('=',.andAssignOperator),('&',.andOperator)],.andOperator)
  | '|' => some ([('=',.orAssignOperator),('|',.orOperator)],.orOperator)
  | _ => none

def punctuationOf : Char → Option (List (Char × TokenType) × TokenType)
  | '{' => some ([],.openBrace)
  | '}' => some ([],.closeBrace)
  | '(' => some ([],.openCurl)
  | ')' => some ([],.closeCurl)
  | '[' => some ([],.openSquare)
  | ']' => some ([],.closeSquare)
  | ',' => some ([],.comma)
  | ':' => some ([('=',.declareAssignOperator)],.colon)
  | ';' => some ([],.semicolon)
  | '?' => some ([('?',.nullCoalescingOperator)],.question)
  | _ => none

def questionMark : Char := '\u037E'

def booleanLiterals : List (String × TokenType) := [("true",.booleanLiteral),("false",.booleanLiteral)]

def nullLiterals : List (String × TokenType) := [("null",.nullLiteral),("nil",.nullLiteral)]

def directiveDecls : List (String × TokenType) := [("using",.usingKeyword)]

def typeDecls : List (String × TokenType) := [
  ("method",.methodKeyword),("class",.classKeyword),("struct",.structKeyword),("interface",.interfaceKeyword),
  ("enum",.enumKeyword),("namespace",.namespaceKeyword)]

def modifiers : List (String × TokenType) := [
  ("public",.publicKeyword),("private",.privateKeyword),("protected",.protectedKeyword),
  ("internal",.internalKeyword),("static",.staticKeyword),("async",.asyncKeyword),("extern",.externKeyword),
  ("export",.exportKeyword)]

def wordOperators : List (String × TokenType) := [("and",.andOperator),("or",.orOperator),("not",.notOperator)]

def types : List (String × TokenType) := [
  ("void",.voidKeyword),("var",.varKeyword),("bool",.booleanKeyword),("string",.stringKeyword),
  ("double",.doubleKeyword),("int",.integerKeyword),("char",.charKeyword),("byte",.byteKeyword),
  ("nint",.nativeIntegerKeyword),("lambda",.lambdaKeyword),("delegate",.delegateKeyword)]

def conditionalKeywords : List (String × TokenType) := [
  ("if",.ifKeyword),("unless",.unlessKeyword),("else",.elseKeyword),("switch",.switchKeyword),
  ("case",.caseKeyword),("default",.defaultKeyword)]

def functionalKeywords : List (String × TokenType) := [
  ("return",.returnKeyword),("continue",.continueKeyword),("break",.breakKeyword),("throw",.throwKeyword),
  ("try",.tryKeyword),("catch",.catchKeyword),("await",.awaitKeyword)]

def loopKeywords : List (String × TokenType) := [
  ("for",.forKeyword),("while",.whileKeyword),("until",.untilKeyword),("do",.doKeyword),
  ("foreach",.foreachKeyword),("in",.inKeyword)]

def keywords : List (String × TokenType) := conditionalKeywords ++ functionalKeywords ++ loopKeywords ++ [
  ("new",.newKeyword),("get",.getKeyword),("set",.setKeyword),("field",.fieldKeyword),
  ("indexer",.indexerKeyword),("try",.tryKeyword),("catch",.catchKeyword),("defer",.deferKeyword),
  ("where",.whereKeyword),("const",.constKeyword),("func",.functionKeyword),("init",.initKeyword),
  ("operator",.operatorKeyword),("value",.valueKeyword),("is",.isOperator),("as",.asOperator)]

def reservedWords : List (String × TokenType) :=
  booleanLiterals ++ nullLiterals ++ directiveDecls ++ typeDecls ++ modifiers ++ wordOperators ++ types ++ keywords

def wordType (word : List Char) : TokenType :=
  ((reservedWords.find? fun reserved => reserved.1.toList == word).map Prod.snd).getD .identifier

end Tables

structure Lexeme where
  type : TokenType
  word : List Char
  reader : Reader
  deriving DecidableEq

abbrev Reading (Result : Type) := Option Result × Reader

variable (locale : Locale)

section Skipping

/-- `ReadNextReal` without a symbol put back: the next symbol that is not skipped. -/
def skipSpace : List Char → Position → Option Char × List Char × Position
  | [],position => (none,[],position)
  | ch :: text,position =>
      let position := position.advance ch
      if ch = '\uEFBB' ∨ ch = '\uFEFF' ∨ ch = '\uFFFE' ∨ ch = '\n' then skipSpace text position
      else if ch = '\x00' then
        if text.head?.all (· = '\x00') then (none,text,position) else skipSpace text position
      else if locale.isSpace ch then skipSpace text position
      else (some ch,text,position)

def readNextReal (reader : Reader) : Reading Char :=
  match reader.putbackSymbol with
  | some symbol =>
      let position := { reader.position with offset := reader.position.offset + 1 }
      (some symbol,{ reader with position := position, putbackSymbol := none })
  | none =>
      let (symbol,text,position) := skipSpace locale reader.text reader.position
      (symbol,{ reader with text := text, position := position })

def skipComment : List Char → Position → Bool × List Char × Position
  | [],position => (false,[],position)
  | ch :: text,position =>
      let position := position.advance ch
      if ch = '\n' then (true,text,position)
      else if ch = '\x00' then
        if text.head?.all (· = '\x00') then (false,text,position) else skipComment text position
      else skipComment text position

def readComment (reader : Reader) : Bool × Reader :=
  let (closed,text,position) := skipComment reader.text reader.position
  (closed,{ reader with text := text, position := position })

end Skipping

section Words

def readOperator (symbol : Char) (operators : List (Char × TokenType) × TokenType) (reader : Reader) : Lexeme :=
  match reader.text with
  | [] => ⟨operators.2,[symbol],reader⟩
  | next :: text =>
      match operators.1.find? (·.1 = next) with
      | some (_,type) => ⟨type,[symbol,next],{ reader with text := text, position := reader.position.advance next }⟩
      | none => ⟨operators.2,[symbol],reader⟩

def isPunctuation (symbol : Char) (reader : Reader) : Option Lexeme :=
  if symbol = '.' then
    match reader.text with
    | '.' :: '&' :: text =>
        some ⟨.rangeInclusiveOperator,"..&".toList,
          { reader with text := text, position := (reader.position.advance '.').advance '&' }⟩
    | '.' :: text =>
        some ⟨.rangeOperator,"..".toList,{ reader with text := text, position := reader.position.advance '.' }⟩
    | _ => some ⟨.delimeter,".".toList,reader⟩
  else if symbol = questionMark then some ⟨.semicolon,";".toList,reader⟩
  else (punctuationOf symbol).map fun operators => readOperator symbol operators reader

def isOperator (symbol : Char) (reader : Reader) : Option Lexeme :=
  (operatorsOf symbol).map fun operators => readOperator symbol operators reader

/-- `IsStringLiteral` of the symbol `@`, which is never replaced by the quote behind it: the quotes are skipped and the
answer is no. -/
def skipQuotes : List Char → Position → List Char × Position
  | '"' :: text,position => skipQuotes text (position.advance '"')
  | text,position => (text,position)

/-- A string literal up to its closing quote. `ecran` is set behind a backslash. -/
@[grind] def readStringLiteral (ecran : Bool) : List Char → Position → Option (List Char) × List Char × Position
  | [],position => (none,[],position)
  | ch :: text,position =>
      let rest (ecran : Bool) (symbols : List Char) :=
        let (word,text,position) := readStringLiteral ecran text (position.advance ch)
        (word.map (symbols ++ ·),text,position)
      if ch = '\\' then if ecran then rest false ['\\'] else rest true []
      else if ch = '"' then if ecran then rest false ['"'] else (some [],text,position.advance ch)
      else if ch = 'n' then if ecran then rest false ['\n'] else rest false ['n']
      else rest ecran [ch]

def unescape : Char → Char
  | 'n' => '\n'
  | 't' => '\t'
  | 'r' => '\r'
  | '0' => '\x00'
  | ch => ch

def readCharLiteral (ecran : Bool) : List Char → Position → Option (List Char) × List Char × Position
  | [],position => (none,[],position)
  | ch :: text,position =>
      let rest (ecran : Bool) (symbols : List Char) :=
        let (word,text,position) := readCharLiteral ecran text (position.advance ch)
        (word.map (symbols ++ ·),text,position)
      if ecran then rest false [unescape ch]
      else if ch = '\'' then (some [],text,position.advance ch)
      else if ch = '\\' then rest true []
      else rest false [ch]

def readNextWhileAlpha : List Char → Position → List Char × List Char × Position
  | [],position => ([],[],position)
  | ch :: text,position =>
      if locale.isAlnum ch || ch = '_' then
        let (word,text,position) := readNextWhileAlpha text (position.advance ch)
        (ch :: word,text,position)
      else ([],ch :: text,position)

end Words

section Numbers

def isNumberSymbol (symbol : Char) : Bool :=
  ('0' ≤ symbol ∧ symbol ≤ '9') ∨ ('A' ≤ symbol ∧ symbol ≤ 'F') ∨ ('a' ≤ symbol ∧ symbol ≤ 'f') ∨
    symbol ∈ ['x','X','d','D','b','B','k','K','m','M','g','G','t','T','p','P']

def isBasePrefixLetter (symbol : Char) : Bool := symbol ∈ ['x','X','d','D','b','B']

structure NumberRest where
  word : List Char
  text : List Char
  position : Position
  dot : Option Char
  deriving DecidableEq

def NumberRest.cons (symbols : List Char) (rest : NumberRest) : NumberRest := { rest with word := symbols ++ rest.word }

/-- The symbols of a number behind the first one. `separated` is set directly behind a separator, `foundDelimeter` behind
the dot. -/
@[grind] def readNumberSymbols (foundDelimeter separated : Bool) : List Char → Position → NumberRest
  | [],position => ⟨[],[],position,none⟩
  | ch :: text,position =>
      if ch = '`' ∧ separated = false then readNumberSymbols foundDelimeter true text (position.advance ch)
      else if ch = '.' then
        if foundDelimeter then ⟨[],ch :: text,position,none⟩
        else match text with
          | [] => ⟨[],[],position,some '.'⟩
          | afterDot :: text =>
              if isNumberSymbol afterDot then
                (readNumberSymbols true false text ((position.advance ch).advance afterDot)).cons ['.',afterDot]
              else ⟨[],afterDot :: text,position,some '.'⟩
      else if isNumberSymbol ch then (readNumberSymbols foundDelimeter false text (position.advance ch)).cons [ch]
      else ⟨[],ch :: text,position,none⟩

def readNumberLiteral (symbol : Char) (reader : Reader) : Lexeme :=
  let rest := match symbol,reader.text with
    | '0',ch :: text =>
        if isBasePrefixLetter ch then
          (readNumberSymbols false false text (reader.position.advance ch)).cons ['0',ch]
        else (readNumberSymbols false false (ch :: text) reader.position).cons ['0']
    | _,_ => (readNumberSymbols false false reader.text reader.position).cons [symbol]
  ⟨if rest.word.contains '.' then .doubleLiteral else .numberLiteral,rest.word,
    { reader with text := rest.text, position := rest.position, putbackSymbol := rest.dot }⟩

end Numbers

section Tokens

/-- The word that begins with the symbol, which is neither punctuation nor an operator. -/
def readLiteralOrWord (symbol : Char) (reader : Reader) : Reading Lexeme :=
  if symbol = '"' then
    let (word,text,position) := readStringLiteral false reader.text reader.position
    let reader := { reader with text := text, position := position }
    (word.map (⟨.stringLiteral,·,reader⟩),reader)
  else if symbol = '\'' then
    let (word,text,position) := readCharLiteral false reader.text reader.position
    let reader := { reader with text := text, position := position }
    (word.map (⟨.charLiteral,·,reader⟩),reader)
  else if '0' ≤ symbol ∧ symbol ≤ '9' then
    let lexeme := readNumberLiteral symbol reader
    (some lexeme,lexeme.reader)
  else
    let (text,position) := if symbol = '@' then skipQuotes reader.text reader.position else (reader.text,reader.position)
    let (word,text,position) := readNextWhileAlpha locale text position
    let reader := { reader with text := text, position := position }
    (some ⟨wordType (symbol :: word),symbol :: word,reader⟩,reader)

@[grind] def readNextWordWithin : Nat → Reader → Reading Lexeme
  | 0,reader => (none,reader)
  | fuel + 1,reader =>
      match readNextReal locale reader with
      | (none,reader) => (none,reader)
      | (some symbol,reader) =>
          match isPunctuation symbol reader,isOperator symbol reader with
          | some lexeme,_ => (some lexeme,lexeme.reader)
          | none,some lexeme =>
              if lexeme.type = .trivia then
                match readComment lexeme.reader with
                | (true,reader) => readNextWordWithin fuel reader
                | (false,reader) => (none,reader)
              else (some lexeme,lexeme.reader)
          | none,none => readLiteralOrWord locale symbol reader

def readNextWord (reader : Reader) : Reading Lexeme := readNextWordWithin locale (reader.size + 1) reader

def getLocation (word : List Char) (reader : Reader) : TextLocation where
  fileName := reader.name
  line := reader.position.line
  offset := max 1 (reader.position.offset - word.length + 1)
  length := word.length

def readNextToken (reader : Reader) : Reading SyntaxToken :=
  match readNextWord locale reader with
  | (some lexeme,reader) => (some (.of lexeme.type lexeme.word (getLocation lexeme.word reader)),reader)
  | (none,reader) => (none,reader)

end Tokens

end ShardScript.Lexical
