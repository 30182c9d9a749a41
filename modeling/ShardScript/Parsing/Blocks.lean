import Mathlib.Tactic.SplitIfs
import ShardScript.Parsing.Operands

/-! How `SourceParser` reads statements, blocks of them and the bodies of types. -/
namespace ShardScript.Parsing

open Lexical (SyntaxToken TokenType)
open Library (Converges)
open SourceParser

def isLoopKeyword : TokenType → Bool
  | .forKeyword | .whileKeyword | .untilKeyword | .doKeyword | .foreachKeyword => true
  | _ => false

def isConditionalKeyword : TokenType → Bool
  | .ifKeyword | .unlessKeyword | .elseKeyword | .switchKeyword => true
  | _ => false

def isFunctionalKeyword : TokenType → Bool
  | .breakKeyword | .continueKeyword | .returnKeyword | .throwKeyword | .tryKeyword | .catchKeyword | .deferKeyword => true
  | _ => false

def isKeyword (type : TokenType) : Bool := isFunctionalKeyword type || isConditionalKeyword type || isLoopKeyword type

def isReservedIdentifier : TokenType → Bool
  | .valueKeyword | .fieldKeyword | .whileKeyword => true
  | _ => false

@[grind] def isModifier : TokenType → Bool
  | .publicKeyword | .privateKeyword | .protectedKeyword | .internalKeyword | .staticKeyword | .asyncKeyword
  | .externKeyword | .exportKeyword => true
  | _ => false

def isTypeKeyword : TokenType → Bool
  | .classKeyword | .structKeyword | .interfaceKeyword | .delegateKeyword | .enumKeyword => true
  | _ => false

def isMemberDeclaration (currentType peekType : TokenType) : Bool :=
  isModifier currentType || currentType == .indexerKeyword || isTypeKeyword currentType ||
    currentType == .functionKeyword || currentType == .initKeyword ||
      (currentType == .identifier && peekType == .colon) || currentType == .openSquare

section Trees

inductive StatementSyntax where
  | expression (expression : Option ExpressionSyntax)
  | variable (type : TypeSyntax) (name : SyntaxToken) (expression : Option ExpressionSyntax)
  | jump (keyword : TokenType) (expression : Option ExpressionSyntax)
  | deferred (statement : Option StatementSyntax)
  | conditional (keyword : TokenType) (condition : Option StatementSyntax) (block : List StatementSyntax)
      (next : Option StatementSyntax)
  | otherwise (block : List StatementSyntax)
  | loop (keyword : TokenType) (condition : ExpressionSyntax) (block : List StatementSyntax)
  | forLoop (initializer : Option StatementSyntax) (condition : ExpressionSyntax) (afterRepeat : Option StatementSyntax)
      (block : List StatementSyntax)
  | forEach (keyword : TokenType) (identifier : SyntaxToken) (range : ExpressionSyntax) (block : List StatementSyntax)
  | tries (block clauses : List StatementSyntax)
  | catchClause (identifier : Option SyntaxToken) (type : TypeSyntax) (block : List StatementSyntax)
  | switches (expression : Option ExpressionSyntax) (clauses : List StatementSyntax)
  | caseClause (pattern : Option ExpressionSyntax) (type : TypeSyntax) (identifier : Option SyntaxToken)
      (block : List StatementSyntax)

def TypeSyntax.isNull : TypeSyntax → Bool
  | .null => true
  | _ => false

structure StatementsBlockSyntax where
  semicolonToken : Option SyntaxToken := none
  statements : List StatementSyntax := []

end Trees

def maxBlockDepth : Nat := 64

def maxIterations : Nat := 10000

namespace SourceParser

def tryMatchSilently (types : List TokenType) (maxSkips : Nat) (parser : SourceParser) : Bool × SourceParser :=
  if !parser.canConsume then (false,parser)
  else if parser.kind ∈ types then (true,parser)
  else trySynchronize types maxSkips parser

def tryMatchIdentifier (maxSkips : Nat) (parser : SourceParser) : Bool × SourceParser :=
  if !parser.canConsume then (false,parser)
  else if parser.kind = .identifier then (true,parser)
  else if isReservedIdentifier parser.kind then
    (false,parser.report parser.current "Identifier cannot be a reserved keyword.")
  else trySynchronize [.identifier] maxSkips parser

def skipTo (types : List TokenType) (parser : SourceParser) : SourceParser :=
  { parser with tokens := parser.tokens.dropWhile fun token => token.type ∉ types }

section Statements

-- the readers that read blocks too, at the depth of the block around them
variable (readers : (blockDepth : Nat) → Readers)

def readStatement (fuel blockDepth : Nat) (parser : SourceParser) : Option (Option StatementSyntax × SourceParser) :=
  let current := parser.current
  let peek := (parser.peek 0).type
  if current.type = .semicolon then some (some (.expression none),parser)
  else if current.type = .identifier ∧ peek = .colon then
    (readType (readers blockDepth).readDelegateType fuel true parser.consume.consume).bind fun (type,parser) =>
      match type with
      | .null => some (none,parser.report parser.current "Expected type after ':'")
      | type =>
          if parser.kind = .assignOperator then
            (readExpression (readers blockDepth) fuel 0 true parser.consume).map fun (expression,parser) =>
              (some (.variable type current (some expression)),parser)
          else
            some (some (.variable type current none),
              parser.report parser.current "Variable declaration is missing an initializer")
  else if current.type = .identifier ∧ peek = .declareAssignOperator then
    (readExpression (readers blockDepth) fuel 0 true parser.consume.consume).map fun (expression,parser) =>
      (some (.variable (.predefined (.of .varKeyword ['v','a','r'] current.location)) current (some expression)),parser)
  else if isPredefinedType current.type ∧ peek = .identifier then
    let parser := (parser.report current (if current.type = .varKeyword then
      "Invalid use of 'var'. For type inference use 'name := value'; for an explicit type use 'name: type = value'."
      else "Invalid variable declaration syntax. Use 'name: type = value' or 'name := value'.")).consume
    let name := parser.current
    let parser := parser.consume
    if parser.kind = .assignOperator then
      (readExpression (readers blockDepth) fuel 0 true parser.consume).map fun (expression,parser) =>
        (some (.variable (.predefined current) name (some expression)),parser)
    else some (some (.variable (.predefined current) name none),parser.skipTo [.semicolon])
  else
    (readExpression (readers blockDepth) fuel 0 true parser).map fun (expression,parser) =>
      (some (.expression (some expression)),parser)

def readJumpStatement (fuel blockDepth : Nat) (keyword : TokenType) (message : String) (parser : SourceParser) :
    Option (StatementSyntax × SourceParser) :=
  let (_,parser) := parser.expect keyword message
  if parser.kind = .semicolon then
    some (.jump keyword none,(parser.expect .semicolon "Missing ';' token").2)
  else
    (readExpression (readers blockDepth) fuel 0 true parser).map fun (expression,parser) =>
      (.jump keyword (some expression),(parser.expect .semicolon "Missing ';' token").2)

def readBareStatement (keyword : TokenType) (parser : SourceParser) : StatementSyntax × SourceParser :=
  let (_,parser) := parser.expect keyword "Expected return keyword"
  (.jump keyword none,(parser.expect .semicolon "Missing ';' token").2)

def readDeferStatement (fuel blockDepth : Nat) (parser : SourceParser) : Option (StatementSyntax × SourceParser) :=
  let (_,parser) := parser.expect .deferKeyword "Expected 'defer' keyword"
  if parser.kind = .semicolon then
    some (.deferred none,parser.report parser.current "defer statement cannot be empty")
  else
    (readStatement readers fuel blockDepth parser).map fun (statement,parser) =>
      (.deferred statement,(parser.expect .semicolon "Missing ';' token").2)

mutual

def readStatementsBlock : Nat → (outerDepth : Nat) → SourceParser → Option (StatementsBlockSyntax × SourceParser)
  | 0,_,_ => none
  | fuel + 1,outerDepth,parser =>
      if outerDepth + 1 > maxBlockDepth then
        let parser := (parser.report parser.current "Statement nesting is too deep").skipTo [.closeBrace]
        some ({},if parser.canConsume then parser.consume else parser)
      else if !parser.canConsume then
        some ({},parser.report .endOfFile "Unexpected end of file - expected statement block")
      else if parser.kind = .semicolon then some ({ semicolonToken := some parser.current },parser.consume)
      else if parser.kind = .openBrace then
        let opening := parser.current
        (readStatements fuel (outerDepth + 1) 0 parser.consume).map fun (statements,closed,parser) =>
          ({ statements := statements },if closed then parser else parser.report
            (.of .endOfFile [] (if parser.canConsume then parser.current.location else opening.location))
            "Statement block opened here was not closed - expected '\x7d'")
      else
        (readBlockStatement fuel (outerDepth + 1) parser).map fun (statement,parser) =>
          ({ statements := statement.toList },parser)

/-- The loop of `ReadStatementsBlock`. The second component tells whether the closing brace was found. -/
def readStatements : Nat → (blockDepth loopGuard : Nat) → SourceParser → Option (List StatementSyntax × Bool × SourceParser)
  | 0,_,_,_ => none
  | fuel + 1,blockDepth,loopGuard,parser =>
      if !parser.canConsume then some ([],false,parser)
      else if loopGuard + 1 > maxIterations then
        some ([],false,parser.report parser.current "Statement block parser loop detected")
      else if parser.kind = .closeBrace then some ([],true,parser.consume)
      else if parser.kind = .endOfFile then
        some ([],true,parser.report parser.current "Unexpected end of file in statement block - expected '\x7d'")
      else
        (readBlockStatement fuel blockDepth parser).bind fun (statement,parser) =>
          match statement with
          | some statement =>
              (readStatements fuel blockDepth (loopGuard + 1) parser).map fun (statements,rest) => (statement :: statements,rest)
          | none =>
              match parser.tryMatchSilently [.closeBrace] 5 with
              | (true,parser) => readStatements fuel blockDepth (loopGuard + 1) parser
              | (false,parser) => some ([],false,parser)

def readBlockStatement : Nat → (blockDepth : Nat) → SourceParser → Option (Option StatementSyntax × SourceParser)
  | 0,_,_ => none
  | fuel + 1,blockDepth,parser =>
      if isKeyword parser.kind then readKeywordStatement fuel blockDepth parser
      else
        (readStatement readers fuel blockDepth parser).map fun (statement,parser) =>
          (statement,if statement.isSome then (parser.expect .semicolon "Missing ';' token").2 else parser)

def readKeywordStatement : Nat → (blockDepth : Nat) → SourceParser → Option (Option StatementSyntax × SourceParser)
  | 0,_,_ => none
  | fuel + 1,blockDepth,parser =>
      let made (read : Option (StatementSyntax × SourceParser)) := read.map fun (statement,parser) => (some statement,parser)
      if !parser.canConsume then some (none,parser)
      else
        match parser.kind with
        | .forKeyword =>
            if ((parser.peek 0).type = .identifier ∧ (parser.peek 1).type = .inKeyword) ∨
                ((parser.peek 0).type = .openCurl ∧ (parser.peek 1).type = .identifier ∧ (parser.peek 2).type = .inKeyword) then
              made (readEachStatement fuel blockDepth .forKeyword "Expected 'for' keyword" "Expected identifier after 'for'" parser)
            else made (readForStatement fuel blockDepth parser)
        | .foreachKeyword =>
            made (readEachStatement fuel blockDepth .foreachKeyword "Expected 'foreach' keyword"
              "Expected identifier after 'foreach'" parser)
        | .whileKeyword => made (readLoopStatement fuel blockDepth .whileKeyword "Expected 'while' keyword" parser)
        | .untilKeyword => made (readLoopStatement fuel blockDepth .untilKeyword "Expected 'until' keyword" parser)
        | .returnKeyword => made (readJumpStatement readers fuel blockDepth .returnKeyword "Expected 'return' keyword" parser)
        | .throwKeyword => made (readJumpStatement readers fuel blockDepth .throwKeyword "Expected 'throw' keyword" parser)
        | .breakKeyword => made (some (readBareStatement .breakKeyword parser))
        | .continueKeyword => made (some (readBareStatement .continueKeyword parser))
        | .ifKeyword | .unlessKeyword => readConditionalClause fuel blockDepth parser
        | .tryKeyword => made (readTryStatement fuel blockDepth parser)
        | .switchKeyword => made (readSwitchStatement fuel blockDepth parser)
        | .deferKeyword => made (readDeferStatement readers fuel blockDepth parser)
        | _ => some (none,parser.report parser.current "unknown/unsupported keyword")

def readConditionalClause : Nat → (blockDepth : Nat) → SourceParser → Option (Option StatementSyntax × SourceParser)
  | 0,_,_ => none
  | fuel + 1,blockDepth,parser =>
      let keyword := parser.kind
      if !parser.canConsume then some (none,parser)
      else if keyword = .ifKeyword ∨ keyword = .unlessKeyword then
        let (_,parser) := parser.consume.expect .openCurl "Expected '(' token"
        (readStatement readers fuel blockDepth parser).bind fun (condition,parser) =>
          let (_,parser) := parser.expect .closeCurl "Expected ')' token"
          (readStatementsBlock fuel blockDepth parser).bind fun (block,parser) =>
            let parser := match block.semicolonToken with
              | some semicolon => parser.report semicolon
                  "If/unless statement cannot have an empty body; use an empty block \x7b\x7b\x7d\x7d if you meant no-op"
              | none => parser
            if parser.kind = .elseKeyword then
              (readConditionalClause fuel blockDepth parser).map fun (next,parser) =>
                (some (.conditional keyword condition block.statements next),parser)
            else some (some (.conditional keyword condition block.statements none),parser)
      else if keyword = .elseKeyword then
        let parser := parser.consume
        if parser.kind = .ifKeyword ∨ parser.kind = .unlessKeyword then readConditionalClause fuel blockDepth parser
        else
          (readStatementsBlock fuel blockDepth parser).map fun (block,parser) => (some (.otherwise block.statements),parser)
      else readConditionalClause fuel blockDepth (parser.report parser.current "Unknown token in deside statement")

def readLoopStatement : Nat → (blockDepth : Nat) → (keyword : TokenType) → (message : String) → SourceParser →
    Option (StatementSyntax × SourceParser)
  | 0,_,_,_,_ => none
  | fuel + 1,blockDepth,keyword,message,parser =>
      let (_,parser) := parser.expect keyword message
      let (_,parser) := parser.expect .openCurl "expected '(' token"
      (readExpression (readers blockDepth) fuel 0 true parser).bind fun (condition,parser) =>
        let (_,parser) := parser.expect .closeCurl "expected ')' token"
        (readStatementsBlock fuel blockDepth parser).map fun (block,parser) =>
          (.loop keyword condition block.statements,parser)

def readForStatement : Nat → (blockDepth : Nat) → SourceParser → Option (StatementSyntax × SourceParser)
  | 0,_,_ => none
  | fuel + 1,blockDepth,parser =>
      let (_,parser) := parser.expect .forKeyword "Expected 'for' keyword"
      let (_,parser) := parser.expect .openCurl "expected '(' token"
      (readStatement readers fuel blockDepth parser).bind fun (initializer,parser) =>
        let (_,parser) := parser.expect .semicolon "expected ';' token"
        (readExpression (readers blockDepth) fuel 0 true parser).bind fun (condition,parser) =>
          let (_,parser) := parser.expect .semicolon "expected ';' token"
          (readStatement readers fuel blockDepth parser).bind fun (afterRepeat,parser) =>
            let (_,parser) := parser.expect .closeCurl "expected ')' token"
            (readStatementsBlock fuel blockDepth parser).map fun (block,parser) =>
              (.forLoop initializer condition afterRepeat block.statements,parser)

def readEachStatement : Nat → (blockDepth : Nat) → (keyword : TokenType) → (message missing : String) → SourceParser →
    Option (StatementSyntax × SourceParser)
  | 0,_,_,_,_,_ => none
  | fuel + 1,blockDepth,keyword,message,missing,parser =>
      let (_,parser) := parser.expect keyword message
      let hasParens := parser.kind = .openCurl
      let parser := if hasParens then (parser.expect .openCurl "expected '(' token").2 else parser
      let (identifier,parser) :=
        if parser.kind = .identifier then (parser.current,parser.consume)
        else (.of .identifier "<missing>".toList parser.current.location,parser.report parser.current missing)
      let (_,parser) := parser.expect .inKeyword "Expected 'in' keyword"
      (readExpression (readers blockDepth) fuel 0 true parser).bind fun (range,parser) =>
        let parser := if hasParens then (parser.expect .closeCurl "expected ')' token").2 else parser
        (readStatementsBlock fuel blockDepth parser).map fun (block,parser) =>
          (.forEach keyword identifier range block.statements,parser)

def readTryStatement : Nat → (blockDepth : Nat) → SourceParser → Option (StatementSyntax × SourceParser)
  | 0,_,_ => none
  | fuel + 1,blockDepth,parser =>
      let (tryKeyword,parser) := parser.expect .tryKeyword "Expected 'try' keyword"
      (readStatementsBlock fuel blockDepth parser).bind fun (block,parser) =>
        (readCatchClauses fuel blockDepth parser).map fun (clauses,parser) =>
          (.tries block.statements clauses,if clauses.isEmpty then
            parser.report tryKeyword "'try' statement must have at least one 'catch' clause" else parser)

def readCatchClauses : Nat → (blockDepth : Nat) → SourceParser → Option (List StatementSyntax × SourceParser)
  | 0,_,_ => none
  | fuel + 1,blockDepth,parser =>
      if !(parser.canConsume && parser.kind == .catchKeyword) then some ([],parser)
      else
        let (keyword,parser) := parser.expect .catchKeyword "Expected 'catch' keyword"
        if parser.kind = .openBrace then
          (readStatementsBlock fuel blockDepth (parser.report keyword ("Catch clause must declare an exception variable or type. "
            ++ "Use parentheses for parameters, e.g., catch (ex: Type)"))).bind fun (_,parser) =>
              readCatchClauses fuel blockDepth parser
        else
          let hasParens := parser.kind = .openCurl
          let parser := if hasParens then parser.consume else parser
          let (identifier,parser) := match parser.tryMatchIdentifier 3 with
            | (true,parser) => (some parser.current,parser.consume)
            | (false,parser) => (none,parser)
          (if parser.kind = .colon then readType (readers blockDepth).readDelegateType fuel true parser.consume
            else some (.null,parser)).bind fun (type,parser) =>
              let parser := if hasParens then (parser.expect .closeCurl "Expected ')' after catch clause").2 else parser
              (readStatementsBlock fuel blockDepth parser).bind fun (block,parser) =>
                let parser := if identifier.isNone && type.isNull then
                  parser.report keyword "Catch clause must declare an exception variable or type" else parser
                (readCatchClauses fuel blockDepth parser).map fun (clauses,parser) =>
                  (.catchClause identifier type block.statements :: clauses,parser)

def readSwitchStatement : Nat → (blockDepth : Nat) → SourceParser → Option (StatementSyntax × SourceParser)
  | 0,_,_ => none
  | fuel + 1,blockDepth,parser =>
      let (_,parser) := parser.expect .switchKeyword "Expected 'switch' keyword"
      let (_,parser) := parser.expect .openCurl "Expected '(' after 'switch'"
      (if parser.kind = .closeCurl then some (none,parser)
        else (readExpression (readers blockDepth) fuel 0 true parser).map fun (expression,parser) =>
          (some expression,parser)).bind fun (expression,parser) =>
            let (_,parser) := parser.expect .closeCurl "Expected ')' after switch expression"
            let (_,parser) := parser.expect .openBrace "Expected '\x7b' after switch expression"
            (readSwitchClauses fuel blockDepth parser).map fun (clauses,parser) =>
              (.switches expression clauses,(parser.expect .closeBrace "Expected '\x7d' after switch cases").2)

def readSwitchClauses : Nat → (blockDepth : Nat) → SourceParser → Option (List StatementSyntax × SourceParser)
  | 0,_,_ => none
  | fuel + 1,blockDepth,parser =>
      let clause (pattern : Option ExpressionSyntax) (type : TypeSyntax) (identifier : Option SyntaxToken)
          (parser : SourceParser) :=
        let (_,parser) := parser.expect .colon "Expected ':' after case pattern"
        (readStatementsBlock fuel blockDepth parser).bind fun (block,parser) =>
          (readSwitchClauses fuel blockDepth parser).map fun (clauses,parser) =>
            (StatementSyntax.caseClause pattern type identifier block.statements :: clauses,parser)
      if !parser.canConsume || parser.kind == .closeBrace then some ([],parser)
      else if parser.kind = .defaultKeyword then clause none .null none parser.consume
      else if parser.kind = .caseKeyword then
        let parser := parser.consume
        if parser.kind = .isOperator then
          (readType (readers blockDepth).readDelegateType fuel true parser.consume).bind fun (type,parser) =>
            if parser.kind = .identifier then clause none type (some parser.current) parser.consume
            else clause none type none parser
        else
          (readExpression (readers blockDepth) fuel 0 true parser).bind fun (pattern,parser) =>
            clause (some pattern) .null none parser
      else
        readSwitchClauses fuel blockDepth
          (parser.report parser.current "Expected 'case' or 'default' in switch statement").consume

end

end Statements

section Members

variable {Member : Type} (readMemberDeclaration : Nat → SourceParser → Option (Option Member × SourceParser))

/-- The loop of `ReadTypeBody`. The second component tells whether there is a token for the closing brace. -/
@[grind] def readMembers : Nat → (loopGuard : Nat) → SourceParser → Option (List Member × Bool × SourceParser)
  | 0,_,_ => none
  | fuel + 1,loopGuard,parser =>
      if !parser.canConsume then some ([],false,parser)
      else if loopGuard + 1 > maxIterations then
        some ([],false,parser.report parser.current "Type body parser loop detected")
      else if parser.kind = .endOfFile then
        some ([],true,parser.report parser.current "Unexpected end of file in type body - expected '\x7d'")
      else if parser.kind = .closeBrace then some ([],true,parser.consume)
      else if isMemberDeclaration parser.kind (parser.peek 0).type then
        ( readMemberDeclaration fuel parser).bind fun (member,parser) =>
          match member with
          | some member =>
              (readMembers fuel (loopGuard + 1) parser).map fun (members,rest) => (member :: members,rest)
          | none =>
              match parser.tryMatchSilently [.closeBrace] 10 with
              | (true,parser) => readMembers fuel (loopGuard + 1) parser
              | (false,parser) => some ([],false,parser)
      else
        match (parser.report parser.current "Unexpected token in type declaration").tryMatchSilently [.closeBrace] 5 with
        | (true,parser) => readMembers fuel (loopGuard + 1) parser
        | (false,parser) => readMembers fuel (loopGuard + 1) parser.consume

def readTypeBody (fuel : Nat) (parser : SourceParser) : Option (List Member × Bool × SourceParser) :=
  readMembers readMemberDeclaration fuel 0 (parser.expect .openBrace "Expected '\x7b'").2

end Members

end SourceParser

section Bodies

structure ItemText (Node : Type) where
  tokens : List SyntaxToken
  node : Node

variable {Node : Type}

def bodyTokens (items : List (ItemText Node)) : List SyntaxToken := items.flatMap ItemText.tokens

def ItemsAreRead (reads : ItemText Node → List SyntaxToken → Prop) : List (ItemText Node) → List SyntaxToken → Prop
  | [],_ => True
  | item :: items,rest => reads item (bodyTokens items ++ rest) ∧ ItemsAreRead reads items rest

structure IsLoop (loop : Nat → Nat → SourceParser → Option (List Node × Bool × SourceParser)) (parser : SourceParser)
    (reads : ItemText Node → List SyntaxToken → Prop) : Prop where
  step : ∀ item rest loopGuard operators, reads item rest → loopGuard < maxIterations → ∃ operators',
    ∀ nodes closed after, Converges (fun fuel => loop fuel (loopGuard + 1) (parser.behind rest operators')) (nodes,closed,after) →
      Converges (fun fuel => loop fuel loopGuard (parser.behind (item.tokens ++ rest) operators)) (item.node :: nodes,closed,after)
  close : ∀ closing rest loopGuard operators, closing.type = .closeBrace → loopGuard < maxIterations →
    Converges (fun fuel => loop fuel loopGuard (parser.behind (closing :: rest) operators)) ([],true,parser.behind rest operators)
  limit : ∀ token rest operators, ∃ message,
    Converges (fun fuel => loop fuel maxIterations (parser.behind (token :: rest) operators))
      ([],false,(parser.behind (token :: rest) operators).report token message)

variable {loop : Nat → Nat → SourceParser → Option (List Node × Bool × SourceParser)} {parser : SourceParser}
  {reads : ItemText Node → List SyntaxToken → Prop}

variable {items : List (ItemText Node)}

theorem IsLoop.closes (isLoop : IsLoop loop parser reads) {closing : SyntaxToken}
    {rest : List SyntaxToken} (known : ItemsAreRead reads items (closing :: rest)) (closes : closing.type = .closeBrace)
    {loopGuard : Nat} (few : loopGuard + items.length < maxIterations) (operators : Nat) : ∃ operators',
      Converges (fun fuel => loop fuel loopGuard (parser.behind (bodyTokens items ++ closing :: rest) operators))
        (items.map ItemText.node,true,parser.behind rest operators') := by
  induction items generalizing loopGuard operators with
  | nil => exact ⟨operators,isLoop.close closing rest loopGuard operators closes few⟩
  | cons item items ih =>
    rw [List.length_cons] at few
    obtain ⟨operators',continues⟩ := isLoop.step item _ loopGuard operators known.1 (by omega)
    obtain ⟨final,ends⟩ := @ih known.2 (loopGuard + 1) (by omega) operators'
    refine ⟨final,?_⟩
    rw [bodyTokens,List.flatMap_cons,List.append_assoc]
    exact continues _ _ _ ends

theorem IsLoop.stops (isLoop : IsLoop loop parser reads) {closing : SyntaxToken}
    {rest : List SyntaxToken} (known : ItemsAreRead reads items (closing :: rest)) {loopGuard : Nat}
    (many : maxIterations ≤ loopGuard + items.length) (inside : loopGuard ≤ maxIterations) (operators : Nat) :
    ∃ nodes tokens operators' token message,
      Converges (fun fuel => loop fuel loopGuard (parser.behind (bodyTokens items ++ closing :: rest) operators))
        (nodes,false,(parser.behind tokens operators').report token message) := by
  induction items generalizing loopGuard operators with
  | nil =>
    obtain rfl : loopGuard = maxIterations := Nat.le_antisymm inside many
    obtain ⟨message,ends⟩ := isLoop.limit closing rest operators
    exact ⟨_,_,_,_,message,ends⟩
  | cons item items ih =>
    rcases Nat.lt_or_eq_of_le inside with less | rfl
    · obtain ⟨operators',continues⟩ := isLoop.step item _ loopGuard operators known.1 less
      rw [List.length_cons] at many
      obtain ⟨nodes,tokens,final,token,message,ends⟩ := @ih known.2 (loopGuard + 1) (by omega) less operators'
      refine ⟨item.node :: nodes,tokens,final,token,message,?_⟩
      rw [bodyTokens,List.flatMap_cons,List.append_assoc]
      exact continues _ _ _ ends
    · obtain ⟨token,left,same⟩ : ∃ token left, bodyTokens (item :: items) ++ closing :: rest = token :: left :=
        List.exists_cons_of_ne_nil (by simp)
      obtain ⟨message,ends⟩ := isLoop.limit token left operators
      rw [same]
      exact ⟨_,_,_,_,message,ends⟩

variable (readers : (blockDepth : Nat) → Readers) {Member : Type}
  (readMemberDeclaration : Nat → SourceParser → Option (Option Member × SourceParser))

structure ReadsStatement (blockDepth : Nat) (parser : SourceParser) (statement : ItemText StatementSyntax)
    (rest : List SyntaxToken) : Prop where
  begins : (statement.tokens.headD .endOfFile).type ∉ [TokenType.closeBrace,.endOfFile]
  read : ∀ operators, ∃ operators', Converges
    (fun fuel => readBlockStatement readers fuel blockDepth (parser.behind (statement.tokens ++ rest) operators))
    (some statement.node,parser.behind rest operators')

structure ReadsMember (parser : SourceParser) (member : ItemText Member) (rest : List SyntaxToken) : Prop where
  present : member.tokens ≠ []
  begins : ∀ operators, isMemberDeclaration (parser.behind (member.tokens ++ rest) operators).kind
    ((parser.behind (member.tokens ++ rest) operators).peek 0).type = true
  read : ∀ operators, ∃ operators', Converges
    (fun fuel => readMemberDeclaration fuel (parser.behind (member.tokens ++ rest) operators))
    (some member.node,parser.behind rest operators')

variable {readers} {readMemberDeclaration}

theorem behind_canConsume {token : SyntaxToken} {rest : List SyntaxToken} {operators : Nat} :
    (parser.behind (token :: rest) operators).canConsume = true := rfl

theorem readStatements_isLoop (blockDepth : Nat) (parser : SourceParser) :
    IsLoop (fun fuel => readStatements readers fuel blockDepth) parser (ReadsStatement readers blockDepth parser) where
  step := by
    intro statement rest loopGuard operators reads few
    obtain ⟨operators',enough,known⟩ := reads.read operators
    refine ⟨operators',fun nodes closed after continues => ?_⟩
    obtain ⟨enough',known'⟩ := continues
    refine .spend ⟨max enough enough',fun fuel greater => ?_⟩
    have read := known fuel (Nat.le_trans (Nat.le_max_left ..) greater)
    have later := known' fuel (Nat.le_trans (Nat.le_max_right ..) greater)
    have begins := reads.begins
    obtain ⟨first,tokens,same⟩ : ∃ first tokens, statement.tokens = first :: tokens := by
      cases same : statement.tokens with
      | nil =>
        rw [same] at begins
        exact absurd begins (by decide)
      | cons first tokens => exact ⟨first,tokens,rfl⟩
    rw [same] at read begins
    rw [same]
    simp only [List.headD_cons,List.mem_cons,List.not_mem_nil,or_false,not_or] at begins
    have kind : (parser.behind (first :: tokens ++ rest) operators).kind = first.type := rfl
    have able : (parser.behind (first :: tokens ++ rest) operators).canConsume = true := rfl
    simp only [readStatements,able,kind,Bool.not_true,Bool.false_eq_true,if_false,Nat.not_lt.2 few,
      begins.1,begins.2,read,Option.bind_some,later,Option.map_some]
  close := by
    intro closing rest loopGuard operators closes few
    refine .spend (.congr (.pure _) fun fuel => ?_)
    have kind : (parser.behind (closing :: rest) operators).kind = .closeBrace := closes
    simp only [readStatements,behind_canConsume,kind,Bool.not_true,Bool.false_eq_true,if_false,Nat.not_lt.2 few,if_true]
    rfl
  limit := by
    intro token rest operators
    refine ⟨"Statement block parser loop detected",.spend (.congr (.pure _) fun fuel => ?_)⟩
    simp only [readStatements,behind_canConsume,Bool.not_true,Bool.false_eq_true,if_false,Nat.lt_succ_self,if_true]
    rfl

theorem readMembers_isLoop (parser : SourceParser) :
    IsLoop (readMembers readMemberDeclaration) parser (ReadsMember readMemberDeclaration parser) where
  step := by
    intro member rest loopGuard operators reads few
    obtain ⟨operators',enough,known⟩ := reads.read operators
    refine ⟨operators',fun nodes closed after continues => ?_⟩
    obtain ⟨enough',known'⟩ := continues
    refine .spend ⟨max enough enough',fun fuel greater => ?_⟩
    have read := known fuel (Nat.le_trans (Nat.le_max_left ..) greater)
    have later := known' fuel (Nat.le_trans (Nat.le_max_right ..) greater)
    have begins := reads.begins operators
    have able : (parser.behind (member.tokens ++ rest) operators).canConsume = true := by
      obtain ⟨first,tokens,same⟩ := List.exists_cons_of_ne_nil reads.present
      rw [same]
      rfl
    have other : (parser.behind (member.tokens ++ rest) operators).kind ≠ .endOfFile ∧
        (parser.behind (member.tokens ++ rest) operators).kind ≠ .closeBrace := by
      constructor
      · intro same
        rw [same] at begins
        exact absurd begins (by simp [isMemberDeclaration,isModifier,isTypeKeyword])
      · intro same
        rw [same] at begins
        exact absurd begins (by simp [isMemberDeclaration,isModifier,isTypeKeyword])
    simp only [readMembers,able,Bool.not_true,Bool.false_eq_true,if_false,Nat.not_lt.2 few,other.1,other.2,begins,if_true,
      read,Option.bind_some,later,Option.map_some]
  close := by
    intro closing rest loopGuard operators closes few
    refine .spend (.congr (.pure _) fun fuel => ?_)
    have kind : (parser.behind (closing :: rest) operators).kind = .closeBrace := closes
    simp only [readMembers,behind_canConsume,kind,Bool.not_true,Bool.false_eq_true,if_false,Nat.not_lt.2 few,if_true,
      reduceCtorEq]
    rfl
  limit := by
    intro token rest operators
    refine ⟨"Type body parser loop detected",.spend (.congr (.pure _) fun fuel => ?_)⟩
    simp only [readMembers,behind_canConsume,Bool.not_true,Bool.false_eq_true,if_false,Nat.lt_succ_self,if_true]
    rfl

theorem report_ne (token : SyntaxToken) (message : String) {tokens tokens' : List SyntaxToken} {operators operators' : Nat} :
    (parser.behind tokens operators).report token message ≠ parser.behind tokens' operators' := by
  intro same
  have diagnostics := congrArg SourceParser.diagnostics same
  simp [report,behind] at diagnostics

section Blocks

variable {outerDepth : Nat} {statements : List (ItemText StatementSyntax)} {opening closing : SyntaxToken}
  {rest : List SyntaxToken}

def blockText (opening : SyntaxToken) (items : List (ItemText Node)) (closing : SyntaxToken) : List SyntaxToken :=
  opening :: (bodyTokens items ++ [closing])

theorem readStatementsBlock_deep (deep : maxBlockDepth ≤ outerDepth) (parser : SourceParser) (token : SyntaxToken)
    (tokens : List SyntaxToken) (operators : Nat) : ∃ left operators' message,
      Converges (fun fuel => readStatementsBlock readers fuel outerDepth (parser.behind (token :: tokens) operators))
        ({},(parser.behind left operators').report token message) := by
  let message := "Statement nesting is too deep"
  let skipped := ((parser.behind (token :: tokens) operators).report token message).skipTo [.closeBrace]
  refine ⟨if skipped.canConsume then skipped.tokens.tail else skipped.tokens,operators,message,
    .spend (.congr (.pure _) fun fuel => ?_)⟩
  rw [readStatementsBlock,if_pos (Nat.lt_succ_of_le deep)]
  by_cases able : skipped.canConsume = true
  · simp only [if_pos able]
    exact congrArg (fun parser => some (({} : StatementsBlockSyntax),parser)) (if_pos able)
  · simp only [if_neg able]
    exact congrArg (fun parser => some (({} : StatementsBlockSyntax),parser)) (if_neg able)

theorem readStatementsBlock_open (opens : opening.type = .openBrace) (shallow : outerDepth < maxBlockDepth)
    {tokens : List SyntaxToken} {operators : Nat} {nodes : List StatementSyntax} {closed : Bool} {after : SourceParser}
    (read : Converges (fun fuel => readStatements readers fuel (outerDepth + 1) 0 (parser.behind tokens operators))
      (nodes,closed,after)) : ∃ token message,
      Converges (fun fuel => readStatementsBlock readers fuel outerDepth (parser.behind (opening :: tokens) operators))
        ({ statements := nodes },if closed then after else after.report token message) := by
  obtain ⟨enough,known⟩ := read
  refine ⟨.of .endOfFile [] (if after.canConsume then after.current.location else opening.location),
    "Statement block opened here was not closed - expected '\x7d'",.spend ⟨enough,fun fuel greater => ?_⟩⟩
  have kind : (parser.behind (opening :: tokens) operators).kind = .openBrace := opens
  have consumed : (parser.behind (opening :: tokens) operators).consume = parser.behind tokens operators := rfl
  have read := known fuel greater
  simp only [readStatementsBlock,if_neg (Nat.not_lt.2 (Nat.succ_le_of_lt shallow)),behind_canConsume,kind,consumed,read,
    Bool.not_true,Bool.false_eq_true,if_false,reduceCtorEq,if_true,Option.map_some]
  rfl

theorem readStatementsBlock_iff (opens : opening.type = .openBrace) (closes : closing.type = .closeBrace)
    (known : ItemsAreRead (ReadsStatement readers (outerDepth + 1) parser) statements (closing :: rest)) (operators : Nat) :
    (∃ operators', Converges (fun fuel => readStatementsBlock readers fuel outerDepth
        (parser.behind (blockText opening statements closing ++ rest) operators))
      ({ statements := statements.map ItemText.node },parser.behind rest operators')) ↔
      outerDepth < maxBlockDepth ∧ statements.length < maxIterations := by
  have text : blockText opening statements closing ++ rest = opening :: (bodyTokens statements ++ closing :: rest) := by
    simp [blockText]
  rw [text]
  have isLoop := @readStatements_isLoop readers (outerDepth + 1) parser
  constructor
  · rintro ⟨operators',converges⟩
    by_contra beyond
    rcases Nat.lt_or_ge outerDepth maxBlockDepth with shallow | deep
    · have many : maxIterations ≤ 0 + statements.length := by
        rw [Nat.zero_add]
        exact Nat.le_of_not_lt fun few => beyond ⟨shallow,few⟩
      obtain ⟨nodes,tokens,final,token,message,ends⟩ := isLoop.stops known many (Nat.zero_le _) operators
      obtain ⟨token',message',whole⟩ := readStatementsBlock_open opens shallow ends
      have same := congrArg (fun result => result.2.diagnostics) (whole.unique converges)
      simp [report,behind] at same
    · obtain ⟨left,final,message,ends⟩ := readStatementsBlock_deep deep parser opening
        (bodyTokens statements ++ closing :: rest) operators
      exact absurd (congrArg Prod.snd (ends.unique converges)) (report_ne _ _)
  · rintro ⟨shallow,few⟩
    have few' : 0 + statements.length < maxIterations := by rwa [Nat.zero_add]
    obtain ⟨operators',ends⟩ := isLoop.closes known closes few' operators
    obtain ⟨_,_,whole⟩ := readStatementsBlock_open opens shallow ends
    exact ⟨operators',whole⟩

theorem readTypeBody_iff {Member : Type} {readMemberDeclaration : Nat → SourceParser → Option (Option Member × SourceParser)}
    {members : List (ItemText Member)} (opens : opening.type = .openBrace) (closes : closing.type = .closeBrace)
    (known : ItemsAreRead (ReadsMember readMemberDeclaration parser) members (closing :: rest)) (operators : Nat) :
    (∃ operators', Converges (fun fuel => readTypeBody readMemberDeclaration fuel
        (parser.behind (blockText opening members closing ++ rest) operators))
      (members.map ItemText.node,true,parser.behind rest operators')) ↔ members.length < maxIterations := by
  have text : blockText opening members closing ++ rest = opening :: (bodyTokens members ++ closing :: rest) := by
    simp [blockText]
  have opened : ((parser.behind (blockText opening members closing ++ rest) operators).expect .openBrace
      "Expected '\x7b'").2 = parser.behind (bodyTokens members ++ closing :: rest) operators := by
    rw [text]
    exact congrArg Prod.snd (expect_of _ rfl opens)
  simp only [readTypeBody,opened]
  have isLoop := @readMembers_isLoop Member readMemberDeclaration parser
  constructor
  · rintro ⟨operators',converges⟩
    by_contra many
    have many' : maxIterations ≤ 0 + members.length := by omega
    obtain ⟨nodes,tokens,final,token,message,ends⟩ := isLoop.stops known many' (Nat.zero_le _) operators
    have same := congrArg (fun result => result.2.1) (ends.unique converges)
    cases same
  · intro few
    have few' : 0 + members.length < maxIterations := by omega
    exact isLoop.closes known closes few' operators

end Blocks

section Kinds

variable {blockDepth : Nat} {rest : List SyntaxToken} {keyword : SyntaxToken} {tokens : List SyntaxToken}

def ReadsExpression (readers : (blockDepth : Nat) → Readers) (blockDepth : Nat) (parser : SourceParser)
    (expression : ItemText ExpressionSyntax) (rest : List SyntaxToken) : Prop :=
  ∀ operators, ∃ operators', Converges
    (fun fuel => readExpression (readers blockDepth) fuel 0 true (parser.behind (expression.tokens ++ rest) operators))
    (expression.node,parser.behind rest operators')

theorem itemsAreRead_of_forall {reads : ItemText Node → List SyntaxToken → Prop}
    (known : ∀ item ∈ items,∀ rest,reads item rest) (rest : List SyntaxToken) : ItemsAreRead reads items rest := by
  induction items with
  | nil => trivial
  | cons item items ih =>
    rw [List.forall_mem_cons] at known
    exact ⟨known.1 _,ih known.2⟩

theorem readBlockStatement_keyword (kind : isKeyword parser.kind = true) {result : Option StatementSyntax × SourceParser}
    (read : Converges (fun fuel => readKeywordStatement readers fuel blockDepth parser) result) :
    Converges (fun fuel => readBlockStatement readers fuel blockDepth parser) result := by
  refine .spend (.congr read fun fuel => ?_)
  rw [readBlockStatement,if_pos kind]

variable {type : TokenType}

theorem expect_behind {token : SyntaxToken} (same : token.type = type) (message : String)
    (operators : Nat) : (parser.behind (token :: rest) operators).expect type message = (token,parser.behind rest operators) :=
  expect_of message rfl same

def isJump (type : TokenType) : Prop :=
  type = .breakKeyword ∨ type = .continueKeyword ∨ type = .returnKeyword ∨ type = .throwKeyword

theorem isJump_begins (known : isJump type) : type ∉ [TokenType.closeBrace,.endOfFile] ∧ isKeyword type = true := by
  rcases known with rfl | rfl | rfl | rfl <;> decide

variable {semicolon : SyntaxToken}

theorem reads_bare (known : isJump type)
    (same : keyword.type = type) (ends : semicolon.type = .semicolon) (rest : List SyntaxToken) :
    ReadsStatement readers blockDepth parser ⟨[keyword,semicolon],.jump type none⟩ rest where
  begins := by
    change keyword.type ∉ _
    rw [same]
    exact (isJump_begins known).1
  read := by
    intro operators
    refine ⟨operators,readBlockStatement_keyword ?_ (.spend (.congr (.pure _) fun fuel => ?_))⟩
    · change isKeyword keyword.type = true
      rw [same]
      exact (isJump_begins known).2
    · change readKeywordStatement readers (fuel + 1) blockDepth (parser.behind (keyword :: semicolon :: rest) operators) = _
      have kind : (parser.behind (keyword :: semicolon :: rest) operators).kind = keyword.type := rfl
      have semi : (parser.behind (semicolon :: rest) operators).kind = .semicolon := ends
      rw [readKeywordStatement]
      rcases known with rfl | rfl | rfl | rfl
      · simp only [behind_canConsume,kind,same,Bool.not_true,Bool.false_eq_true,if_false,readBareStatement,
          expect_behind same,expect_behind ends]
        rfl
      · simp only [behind_canConsume,kind,same,Bool.not_true,Bool.false_eq_true,if_false,readBareStatement,
          expect_behind same,expect_behind ends]
        rfl
      · simp only [behind_canConsume,kind,same,Bool.not_true,Bool.false_eq_true,if_false,readJumpStatement,
          expect_behind same,if_pos semi,expect_behind ends]
        rfl
      · simp only [behind_canConsume,kind,same,Bool.not_true,Bool.false_eq_true,if_false,readJumpStatement,
          expect_behind same,if_pos semi,expect_behind ends]
        rfl

variable {expression : ItemText ExpressionSyntax}

theorem reads_jump (known : type = .returnKeyword ∨ type = .throwKeyword) (same : keyword.type = type)
    (ends : semicolon.type = .semicolon)
    (present : ((expression.tokens ++ semicolon :: rest).headD .endOfFile).type ≠ .semicolon)
    (reads : ReadsExpression readers blockDepth parser expression (semicolon :: rest)) :
    ReadsStatement readers blockDepth parser
      ⟨keyword :: (expression.tokens ++ [semicolon]),.jump type (some expression.node)⟩ rest where
  begins := by
    change keyword.type ∉ _
    rcases known with rfl | rfl
    · rw [same]
      decide
    · rw [same]
      decide
  read := by
    intro operators
    obtain ⟨operators',read⟩ := reads operators
    refine ⟨operators',readBlockStatement_keyword ?_ (.spend ?_)⟩
    · change isKeyword keyword.type = true
      rcases known with rfl | rfl
      · rw [same]
        rfl
      · rw [same]
        rfl
    have text : keyword :: (expression.tokens ++ [semicolon]) ++ rest = keyword :: (expression.tokens ++ semicolon :: rest) := by
      simp
    have kind : (parser.behind (keyword :: (expression.tokens ++ semicolon :: rest)) operators).kind = keyword.type := rfl
    have other : (parser.behind (expression.tokens ++ semicolon :: rest) operators).kind ≠ .semicolon := present
    have jumps := read.map fun (expression,parser) =>
      (some (StatementSyntax.jump type (some expression)),(parser.expect .semicolon "Missing ';' token").2)
    simp only [expect_behind ends] at jumps
    refine .congr jumps fun fuel => ?_
    simp only [text,readKeywordStatement,behind_canConsume,kind,same,Bool.not_true,Bool.false_eq_true,if_false]
    rcases known with rfl | rfl
    · simp only [readJumpStatement,expect_behind same,if_neg other,Option.map_map]
      rfl
    · simp only [readJumpStatement,expect_behind same,if_neg other,Option.map_map]
      rfl

structure BeginsExpression (tokens : List SyntaxToken) : Prop where
  present : (tokens.headD .endOfFile).type ∉ [TokenType.closeBrace,.endOfFile,.semicolon]
  keyword : isKeyword (tokens.headD .endOfFile).type = false
  name : (tokens.headD .endOfFile).type = .identifier →
    (tokens.getD 1 .endOfFile).type ≠ .colon ∧ (tokens.getD 1 .endOfFile).type ≠ .declareAssignOperator
  type : isPredefinedType (tokens.headD .endOfFile).type = true → (tokens.getD 1 .endOfFile).type ≠ .identifier

theorem reads_expression
    (ends : semicolon.type = .semicolon) (present : expression.tokens ≠ [])
    (begins : BeginsExpression (expression.tokens ++ semicolon :: rest))
    (reads : ReadsExpression readers blockDepth parser expression (semicolon :: rest)) :
    ReadsStatement readers blockDepth parser
      ⟨expression.tokens ++ [semicolon],.expression (some expression.node)⟩ rest := by
  have text : expression.tokens ++ [semicolon] ++ rest = expression.tokens ++ semicolon :: rest := by simp
  refine ⟨?_,fun operators => ?_⟩
  · obtain ⟨first,tokens,same⟩ := List.exists_cons_of_ne_nil present
    have known := begins.present
    simp only [same,List.cons_append,List.headD_cons,List.mem_cons,List.not_mem_nil,or_false,not_or] at known ⊢
    exact ⟨known.1,known.2.1⟩
  · obtain ⟨operators',read⟩ := reads operators
    have statement := read.map fun (expression,parser) =>
      (some (StatementSyntax.expression (some expression)),(parser.expect .semicolon "Missing ';' token").2)
    simp only [expect_behind ends] at statement
    refine ⟨operators',.spend (.congr statement fun fuel => ?_)⟩
    have kind : (parser.behind (expression.tokens ++ semicolon :: rest) operators).kind =
        ((expression.tokens ++ semicolon :: rest).headD .endOfFile).type := rfl
    have current : (parser.behind (expression.tokens ++ semicolon :: rest) operators).current =
        (expression.tokens ++ semicolon :: rest).headD .endOfFile := rfl
    have peek : (parser.behind (expression.tokens ++ semicolon :: rest) operators).peek 0 =
        (expression.tokens ++ semicolon :: rest).getD 1 .endOfFile := rfl
    have other : ((expression.tokens ++ semicolon :: rest).headD .endOfFile).type ≠ .semicolon := by
      have known := begins.present
      simp only [List.mem_cons,List.not_mem_nil,or_false,not_or] at known
      exact known.2.2
    simp only [text,readBlockStatement,kind,begins.keyword,Bool.false_eq_true,if_false,readStatement,current,peek,if_neg other]
    rw [if_neg fun both => (begins.name both.1).1 both.2,if_neg fun both => (begins.name both.1).2 both.2,
      if_neg fun both => begins.type both.1 both.2,Option.map_map]
    rfl

theorem reads_loop (known : type = .whileKeyword ∨ type = .untilKeyword) (same : keyword.type = type)
    {condition : ItemText ExpressionSyntax} {openCurl closeCurl opening closing : SyntaxToken}
    (curls : openCurl.type = .openCurl ∧ closeCurl.type = .closeCurl) (opens : opening.type = .openBrace)
    (closes : closing.type = .closeBrace) {statements : List (ItemText StatementSyntax)} (shallow : blockDepth < maxBlockDepth)
    (few : statements.length < maxIterations)
    (reads : ReadsExpression readers blockDepth parser condition
      (closeCurl :: (blockText opening statements closing ++ rest)))
    (body : ItemsAreRead (ReadsStatement readers (blockDepth + 1) parser) statements (closing :: rest)) :
    ReadsStatement readers blockDepth parser
      ⟨keyword :: openCurl :: (condition.tokens ++ closeCurl :: blockText opening statements closing),
        .loop type condition.node (statements.map ItemText.node)⟩ rest where
  begins := by
    change keyword.type ∉ _
    rcases known with rfl | rfl
    · rw [same]
      decide
    · rw [same]
      decide
  read := by
    intro operators
    obtain ⟨between,enough,read⟩ := reads operators
    obtain ⟨operators',enough',block⟩ := (readStatementsBlock_iff opens closes body between).2 ⟨shallow,few⟩
    refine ⟨operators',readBlockStatement_keyword ?_ (.spend (.spend ⟨max enough enough',fun fuel greater => ?_⟩))⟩
    · change isKeyword keyword.type = true
      rcases known with rfl | rfl
      · rw [same]
        rfl
      · rw [same]
        rfl
    have text : keyword :: openCurl :: (condition.tokens ++ closeCurl :: blockText opening statements closing) ++ rest =
        keyword :: openCurl :: (condition.tokens ++ closeCurl :: (blockText opening statements closing ++ rest)) := by simp
    have condition' := read fuel (Nat.le_trans (Nat.le_max_left ..) greater)
    have block' := block fuel (Nat.le_trans (Nat.le_max_right ..) greater)
    have kind : (parser.behind (keyword :: openCurl ::
        (condition.tokens ++ closeCurl :: (blockText opening statements closing ++ rest))) operators).kind = keyword.type := rfl
    simp only [text,readKeywordStatement,behind_canConsume,kind,same,Bool.not_true,Bool.false_eq_true,if_false]
    rcases known with rfl | rfl
    · simp only [readLoopStatement,expect_behind same,expect_behind curls.1,condition',Option.bind_some,
        expect_behind curls.2,block',Option.map_some]
    · simp only [readLoopStatement,expect_behind same,expect_behind curls.1,condition',Option.bind_some,
        expect_behind curls.2,block',Option.map_some]

abbrev Link := Library.Item SyntaxToken Operand TypeOperand

def chainText (first : Operand) (items : List Link) : ItemText ExpressionSyntax :=
  ⟨first.primary.tokens ++ itemTokens (primaries items),syntaxOf (groupOf first.primary (primaries items))⟩

/-- A chain of operands that begins no declaration and can stand in front of a semicolon and of a closing parenthesis. -/
structure IsExpression (readers : (blockDepth : Nat) → Readers) (parser : SourceParser) (first : Operand)
    (items : List Link) : Prop where
  present : (chainText first items).tokens ≠ []
  begins : ∀ semicolon rest, semicolon.type = .semicolon →
    BeginsExpression ((chainText first items).tokens ++ semicolon :: rest)
  operands : ∀ blockDepth closing rest, closing.type = .semicolon ∨ closing.type = .closeCurl →
    first.IsRead (readers blockDepth) (itemTokens (primaries items) ++ closing :: rest) ∧
      AreRead (readers blockDepth) items (closing :: rest)
  fits : Fits (operatorsOf (groupOf first.primary (primaries items))) (depthOf (groupOf first.primary (primaries items)) + 1)
    (linksOf (groupOf first.primary (primaries items))) { parser with operatorsInExpression := 0 }

theorem IsExpression.isRead {first : Operand} {items : List Link} (known : IsExpression readers parser first items)
    {closing : SyntaxToken} (closes : closing.type = .semicolon ∨ closing.type = .closeCurl) (rest : List SyntaxToken) :
    ReadsExpression readers blockDepth parser (chainText first items) (closing :: rest) := by
  intro operators
  have stops : Stops (closing :: rest) 0 := by
    rw [Stops,List.headD_cons]
    rcases closes with same | same
    · rw [same]
      exact Nat.le_refl 0
    · rw [same]
      exact Nat.le_refl 0
  obtain ⟨read,later⟩ := known.operands blockDepth closing rest closes
  have reads := treeReads_group (reads_of_isRead first _ read) (itemsRead_of_areRead items (closing :: rest) later)
  have next : (parser.behind ((chainText first items).tokens ++ closing :: rest) operators).tokens =
      tokensOf (groupOf first.primary (primaries items)) ++ closing :: rest := by
    rw [tokensOf,groupOf,Library.Grouping.first_group,Library.Grouping.items_group]
    rfl
  obtain ⟨operators',_,read⟩ := readExpression_tree (Library.Grouping.isGrouped_group ..) reads stops true next
    ⟨known.fits.operators,known.fits.depth,known.fits.links⟩
  exact ⟨operators',read⟩

/-- Jumps, expressions and loops, with the loops nested so deep. -/
inductive IsStatement (readers : (blockDepth : Nat) → Readers) (parser : SourceParser) :
    (depth : Nat) → ItemText StatementSyntax → Prop where
  | bare {depth : Nat} {type : TokenType} (known : isJump type) {keyword semicolon}
      (same : keyword.type = type) (ends : semicolon.type = .semicolon) :
      IsStatement readers parser depth ⟨[keyword,semicolon],.jump type none⟩
  | jump {depth : Nat} {type : TokenType} (known : type = .returnKeyword ∨ type = .throwKeyword) {keyword semicolon}
      (same : keyword.type = type) (ends : semicolon.type = .semicolon) {first items}
      (value : IsExpression readers parser first items) :
      IsStatement readers parser depth ⟨keyword :: ((chainText first items).tokens ++ [semicolon]),
        .jump type (some (chainText first items).node)⟩
  | expression {depth : Nat} {first items semicolon} (value : IsExpression readers parser first items)
      (ends : semicolon.type = .semicolon) :
      IsStatement readers parser depth ⟨(chainText first items).tokens ++ [semicolon],
        .expression (some (chainText first items).node)⟩
  | loop {depth : Nat} {type : TokenType} (known : type = .whileKeyword ∨ type = .untilKeyword)
      {keyword openCurl closeCurl opening closing} (same : keyword.type = type)
      (curls : openCurl.type = .openCurl ∧ closeCurl.type = .closeCurl) (opens : opening.type = .openBrace)
      (closes : closing.type = .closeBrace) {first items} (value : IsExpression readers parser first items)
      {statements : List (ItemText StatementSyntax)} (few : statements.length < maxIterations)
      (body : ∀ statement ∈ statements,IsStatement readers parser depth statement) :
      IsStatement readers parser (depth + 1) ⟨keyword :: openCurl :: ((chainText first items).tokens ++
          closeCurl :: blockText opening statements closing),
        .loop type (chainText first items).node (statements.map ItemText.node)⟩

theorem IsStatement.isRead {depth : Nat} {statement : ItemText StatementSyntax}
    (known : IsStatement readers parser depth statement) (shallow : blockDepth + depth ≤ maxBlockDepth)
    (rest : List SyntaxToken) : ReadsStatement readers blockDepth parser statement rest := by
  induction known generalizing blockDepth rest with
  | bare known same ends => exact reads_bare known same ends rest
  | jump known same ends value =>
    refine reads_jump known same ends ?_ (value.isRead (.inl ends) _)
    have begins := (value.begins _ rest ends).present
    simp only [List.mem_cons,List.not_mem_nil,or_false,not_or] at begins
    exact begins.2.2
  | expression value ends =>
    exact reads_expression ends value.present (value.begins _ _ ends) (value.isRead (.inl ends) _)
  | loop known same curls opens closes value few _ ih =>
    refine reads_loop known same curls opens closes (by omega) few (value.isRead (.inr curls.2) _) ?_
    exact itemsAreRead_of_forall (fun statement member rest => ih statement member (by omega) rest) _

/-- Nested statements are read back from the tokens written for them, with nothing left and nothing reported. -/
theorem nestedStatements_readBack {outerDepth depth : Nat} (shallow : outerDepth + 1 + depth ≤ maxBlockDepth)
    {statements : List (ItemText StatementSyntax)} (known : ∀ statement ∈ statements,IsStatement readers parser depth statement)
    (few : statements.length < maxIterations) {opening closing : SyntaxToken} (opens : opening.type = .openBrace)
    (closes : closing.type = .closeBrace) (operators : Nat) : ∃ operators',
      Converges (fun fuel => readStatementsBlock readers fuel outerDepth
          (parser.behind (blockText opening statements closing ++ rest) operators))
        ({ statements := statements.map ItemText.node },parser.behind rest operators') :=
  (readStatementsBlock_iff opens closes (itemsAreRead_of_forall (fun statement member rest =>
    (known statement member).isRead shallow rest) _) operators).2 ⟨by omega,few⟩

def isLess : List Link := [.binary (plain .lessOperator) (.literal (plain .numberLiteral))]

theorem isLess_isExpression :
    IsExpression (fun _ => plainReaders) { tokens := [] } (.literal (plain .numberLiteral)) isLess where
  present := List.cons_ne_nil _ _
  begins _ _ _ :=
    ⟨(by decide : (plain .numberLiteral).type ∉ [TokenType.closeBrace,.endOfFile,.semicolon]),rfl,
      fun same => absurd same (by decide : (plain .numberLiteral).type ≠ .identifier),
      fun same => absurd same (by decide : isPredefinedType (plain .numberLiteral).type ≠ true)⟩
  operands _ _ _ _ := ⟨rfl,rfl,rfl,rfl,trivial⟩
  fits := ⟨by decide +kernel,by decide +kernel,by decide +kernel⟩

/-- `{ while (1 < 1) { return; } }` -/
theorem nestedStatements_readBack_while : ∃ operators,
    Converges (fun fuel => readStatementsBlock (fun _ => plainReaders) fuel 0
      (SourceParser.behind [plain .openBrace,plain .whileKeyword,plain .openCurl,plain .numberLiteral,plain .lessOperator,
        plain .numberLiteral,plain .closeCurl,plain .openBrace,plain .returnKeyword,plain .semicolon,plain .closeBrace,
        plain .closeBrace] 0 { tokens := [] }))
    ({ statements := [.loop .whileKeyword (chainText (.literal (plain .numberLiteral)) isLess).node
      [.jump .returnKeyword none]] },SourceParser.behind [] operators { tokens := [] }) := by
  have within : IsStatement (fun _ => plainReaders) { tokens := [] } 0
      ⟨[plain .returnKeyword,plain .semicolon],.jump .returnKeyword none⟩ := .bare (.inr (.inr (.inl rfl))) rfl rfl
  have loop : IsStatement (fun _ => plainReaders) { tokens := [] } 1
      ⟨[plain .whileKeyword,plain .openCurl,plain .numberLiteral,plain .lessOperator,plain .numberLiteral,plain .closeCurl,
          plain .openBrace,plain .returnKeyword,plain .semicolon,plain .closeBrace],
        .loop .whileKeyword (chainText (.literal (plain .numberLiteral)) isLess).node [.jump .returnKeyword none]⟩ :=
    .loop (.inl rfl) rfl ⟨rfl,rfl⟩ rfl rfl isLess_isExpression (by decide) (List.forall_mem_singleton.2 within)
  have opens : (plain .openBrace).type = .openBrace := rfl
  have closes : (plain .closeBrace).type = .closeBrace := rfl
  exact nestedStatements_readBack (by decide) (List.forall_mem_singleton.2 loop) (by decide) opens closes 0

end Kinds

/-- Bodies of any mix of statements or members are read, unless there are as many of them as the loop may have iterations:
then a loop is reported that is none. -/
theorem bodies_iff (readers : (blockDepth : Nat) → Readers) {Member : Type}
    (readMemberDeclaration : Nat → SourceParser → Option (Option Member × SourceParser)) (parser : SourceParser)
    {opening closing : SyntaxToken} (opens : opening.type = .openBrace) (closes : closing.type = .closeBrace)
    (rest : List SyntaxToken) (operators : Nat) :
    (∀ outerDepth statements, ItemsAreRead (ReadsStatement readers (outerDepth + 1) parser) statements (closing :: rest) →
      ((∃ operators', Converges (fun fuel => readStatementsBlock readers fuel outerDepth
          (parser.behind (blockText opening statements closing ++ rest) operators))
        ({ statements := statements.map ItemText.node },parser.behind rest operators')) ↔
        outerDepth < maxBlockDepth ∧ statements.length < maxIterations)) ∧
    ∀ members, ItemsAreRead (ReadsMember readMemberDeclaration parser) members (closing :: rest) →
      ((∃ operators', Converges (fun fuel => readTypeBody readMemberDeclaration fuel
          (parser.behind (blockText opening members closing ++ rest) operators))
        (members.map ItemText.node,true,parser.behind rest operators')) ↔ members.length < maxIterations) :=
  ⟨fun _ _ known => readStatementsBlock_iff opens closes known operators,
    fun _ known => readTypeBody_iff opens closes known operators⟩

/-- `{ break; continue; }` -/
theorem bodies_pair : ∃ operators, Converges (fun fuel => readStatementsBlock (fun _ => plainReaders) fuel 0
      (SourceParser.behind [plain .openBrace,plain .breakKeyword,plain .semicolon,plain .continueKeyword,plain .semicolon,
        plain .closeBrace] 0 { tokens := [] }))
    ({ statements := [.jump .breakKeyword none,.jump .continueKeyword none] },
      SourceParser.behind [] operators { tokens := [] }) := by
  have known : ItemsAreRead (ReadsStatement (fun _ => plainReaders) 1 { tokens := [] })
      [⟨[plain .breakKeyword,plain .semicolon],.jump .breakKeyword none⟩,
        ⟨[plain .continueKeyword,plain .semicolon],.jump .continueKeyword none⟩] [plain .closeBrace] :=
    ⟨reads_bare (.inl rfl) rfl rfl _,reads_bare (.inr (.inl rfl)) rfl rfl _,trivial⟩
  have both := @bodies_iff (fun _ => plainReaders) Unit (fun _ parser => some (none,parser)) { tokens := [] }
    (plain .openBrace) (plain .closeBrace) rfl rfl [] 0
  exact (both.1 0 _ known).2 ⟨by decide,by decide⟩

/-- Ten thousand times `break;` is not read. -/
theorem bodies_long :
    let statement : ItemText StatementSyntax := ⟨[plain .breakKeyword,plain .semicolon],.jump .breakKeyword none⟩
    let statements := List.replicate 10000 statement
    ItemsAreRead (ReadsStatement (fun _ => plainReaders) 1 { tokens := [] }) statements [plain .closeBrace] ∧
      ¬ ∃ operators, Converges (fun fuel => readStatementsBlock (fun _ => plainReaders) fuel 0
          (SourceParser.behind (blockText (plain .openBrace) statements (plain .closeBrace) ++ []) 0 { tokens := [] }))
        ({ statements := statements.map ItemText.node },SourceParser.behind [] operators { tokens := [] }) := by
  intro statement statements
  have known : ItemsAreRead (ReadsStatement (fun _ => plainReaders) 1 { tokens := [] }) statements [plain .closeBrace] := by
    apply itemsAreRead_of_forall
    intro item member rest
    rw [List.eq_of_mem_replicate member]
    exact reads_bare (.inl rfl) rfl rfl rest
  refine ⟨known,fun read => ?_⟩
  have few := ((readStatementsBlock_iff rfl rfl known 0).1 read).2
  rw [List.length_replicate] at few
  exact absurd few (by decide)

end Bodies

end ShardScript.Parsing
