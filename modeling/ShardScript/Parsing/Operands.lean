import ShardScript.Parsing.Chains

/-! The operands of chains: literals, names, signs and parentheses, and whatever else is read as a primary. -/
namespace ShardScript.Parsing

open Lexical (SyntaxToken TokenType)
open Library (Converges Grouping)
open SourceParser

inductive Operand where
  | literal (token : SyntaxToken)
  | name (identifier : SyntaxToken) (members : List (SyntaxToken × SyntaxToken))
  | unary (operator : SyntaxToken) (operand : Operand)
  | parenthesized (opening closing : SyntaxToken) (first : Operand)
      (items : List (Library.Item SyntaxToken Operand TypeOperand))
  | other (primary : Primary)

section Meaning

def groupOf (first : Primary) (items : List (Item Primary)) : Tree := Grouping.group precedenceOf first items

def literalPrimary (token : SyntaxToken) : Primary := { tokens := [token],node := .literal token }

def memberTokens : List (SyntaxToken × SyntaxToken) → List SyntaxToken
  | [] => []
  | (delimeter,identifier) :: members => delimeter :: identifier :: memberTokens members

def memberSyntax (previous : ExpressionSyntax) (members : List (SyntaxToken × SyntaxToken)) : ExpressionSyntax :=
  members.foldl (fun previous member => .memberAccess member.2 previous) previous

def namePrimary (identifier : SyntaxToken) (members : List (SyntaxToken × SyntaxToken)) : Primary where
  tokens := identifier :: memberTokens members
  node := memberSyntax (.memberAccess identifier .null) members
  links := members.length + 1

def unaryPrimary (operator : SyntaxToken) (primary : Primary) : Primary :=
  { primary with tokens := operator :: primary.tokens,node := .unary operator false primary.node }

/-- The chain in the parentheses is an expression of its own, but its operators count for the outer one. -/
def parenthesizedPrimary (opening closing : SyntaxToken) (tree : Tree) : Primary where
  tokens := opening :: (tokensOf tree ++ [closing])
  node := syntaxOf tree
  operators := operatorsOf tree
  depth := depthOf tree + 1
  links := linksOf tree

mutual

def Operand.primary : Operand → Primary
  | .literal token => literalPrimary token
  | .name identifier members => namePrimary identifier members
  | .unary operator operand => unaryPrimary operator operand.primary
  | .parenthesized opening closing first items => parenthesizedPrimary opening closing (groupOf first.primary (primaries items))
  | .other primary => primary

def primaries : List (Library.Item SyntaxToken Operand TypeOperand) → List (Item Primary)
  | [] => []
  | .binary operator operand :: items => .binary operator operand.primary :: primaries items
  | .suffix operator type :: items => .suffix operator type :: primaries items

end

end Meaning

section Reading

variable {readers : Readers} {parser : SourceParser} {token : SyntaxToken} {rest : List SyntaxToken}

def isBehindName (type : TokenType) : Bool :=
  (isOperator type || isPunctuation type) && type ∉ [.openCurl,.openSquare,.delimeter]

def EndsName (rest : List SyntaxToken) : Prop :=
  ∀ token ∈ rest.head?,isBehindName token.type = true ∧
    (token.type = .lessOperator → isGenericInvocation 1 rest.tail = false ∧ isGenericTypeReceiver 1 rest.tail = false)

def isLiteral (type : TokenType) : Bool :=
  type ∈ [.nullLiteral,.booleanLiteral,.numberLiteral,.doubleLiteral,.stringLiteral,.charLiteral]

def isName (type : TokenType) : Bool :=
  type ∈ [.fieldKeyword,.identifier,.valueKeyword,.stringKeyword,.charKeyword,.nativeIntegerKeyword,.integerKeyword,
    .booleanKeyword,.byteKeyword,.doubleKeyword]

def isSign (type : TokenType) : Bool :=
  type ∈ [.subOperator,.addOperator,.notOperator,.incrementOperator,.decrementOperator,.throwKeyword]

theorem literal_reads (literal : isLiteral token.type = true) : Reads readers (literalPrimary token) rest := by
  intro parser next fits
  refine ⟨parser.operatorsInExpression,Nat.le_refl _,.spend (.congr (.pure _) fun fuel => ?_)⟩
  have current : parser.current = token := by simp [SourceParser.current,next,literalPrimary]
  have consumed : parser.consume = { parser with tokens := rest } := by simp [consume,next,literalPrimary]
  rw [ readNullDenotation]
  simp only [current,consumed]
  obtain ⟨missing,type,word,location⟩ := token
  cases type <;> first | rfl | cases literal

theorem unary_reads {primary : Primary} (sign : isSign token.type = true) (reads : Reads readers primary rest) :
    Reads readers (unaryPrimary token primary) rest := by
  intro parser next fits
  obtain ⟨operators,le,converges⟩ := reads { parser with tokens := primary.tokens ++ rest } rfl
    ⟨fits.operators,fits.depth,fits.links⟩
  have signed := converges.map fun result => (ExpressionSyntax.unary token false result.1,result.2)
  refine ⟨operators,le,.spend (signed.congr fun fuel => ?_)⟩
  have current : parser.current = token := by simp [SourceParser.current,next,unaryPrimary]
  have consumed : parser.consume = { parser with tokens := primary.tokens ++ rest } := by simp [consume,next,unaryPrimary]
  rw [ readNullDenotation]
  simp only [current,consumed]
  obtain ⟨missing,type,word,location⟩ := token
  cases type <;> first | rfl | cases sign

theorem expect_of {kind : TokenType} (message : String) (next : parser.tokens = token :: rest) (same : token.type = kind) :
    parser.expect kind message = (token,{ parser with tokens := rest }) := by
  have present : parser.canConsume = true := by simp [canConsume,next]
  have current : parser.current = token := by simp [SourceParser.current,next]
  have consumed : parser.consume = { parser with tokens := rest } := by simp [consume,next]
  rw [expect,present,current,consumed,if_pos same]
  rfl

theorem readIdentifier_first (next : parser.tokens = token :: rest) (name : isName token.type = true) :
    readIdentifier true parser = (token,{ parser with tokens := rest }) := by
  have current : parser.current = token := by simp [SourceParser.current,next]
  have consumed : parser.consume = { parser with tokens := rest } := by simp [consume,next]
  have listed : isName parser.kind = true := by
    rw [kind,current]
    exact name
  rw [readIdentifier,if_pos rfl,current]
  change (token,(ite (parser.kind ∈ _) parser _).consume) = _
  rw [if_pos (of_decide_eq_true listed),consumed]

theorem readIdentifier_linked {delimeter : SyntaxToken} (next : parser.tokens = delimeter :: token :: rest)
    (dot : delimeter.type = .delimeter) (word : token.type = .identifier) :
    readIdentifier false parser = (token,{ parser with tokens := rest }) := by
  rw [readIdentifier,if_neg Bool.false_ne_true,expect_of _ next dot]
  exact expect_of _ rfl word

theorem readBehindIdentifier_ends (identifier : SyntaxToken) (previous : ExpressionSyntax) (ends : EndsName parser.tokens) :
    Converges (fun fuel => readBehindIdentifier readers fuel identifier previous parser)
      (.memberAccess identifier previous,parser) := by
  refine .spend (.congr (.pure _) fun fuel => ?_)
  rw [readBehindIdentifier]
  cases next : parser.tokens with
  | nil => rw [canConsume,next]; rfl
  | cons token tokens =>
      have present : parser.canConsume = true := by simp [canConsume,next]
      have known : parser.kind = token.type := by simp [SourceParser.kind,SourceParser.current,next]
      rw [next] at ends
      obtain ⟨behind,less⟩ := ends token rfl
      obtain ⟨missing,type,word,location⟩ := token
      simp only [present,known,Bool.not_true,Bool.false_eq_true,if_false]
      by_cases comparison : type = .lessOperator
      · subst comparison
        obtain ⟨invocation,receiver⟩ := less rfl
        rw [List.tail_cons] at invocation receiver
        simp [invocation,receiver]
      · cases type <;> first | rfl | exact absurd rfl comparison | cases behind

theorem readLinkedExpressionNode_of {isFirst : Bool} {identifier : SyntaxToken} {previous node : ExpressionSyntax}
    {tokens : List SyntaxToken} (room : parser.linkedExpressionDepth + 1 ≤ maxLinkedExpressionDepth)
    (present : parser.canConsume = true)
    (identified : ∀ depth,readIdentifier isFirst { parser with linkedExpressionDepth := depth } =
      (identifier,{ parser with tokens := tokens,linkedExpressionDepth := depth }))
    (reads : Converges (fun fuel => readBehindIdentifier readers fuel identifier previous
        { parser with tokens := tokens,linkedExpressionDepth := parser.linkedExpressionDepth + 1 })
      (node,{ parser with tokens := rest,linkedExpressionDepth := parser.linkedExpressionDepth + 1 })) :
    Converges (fun fuel => readLinkedExpressionNode readers fuel previous isFirst parser) (node,{ parser with tokens := rest }) := by
  have restored := reads.map fun result =>
    (result.1,{ result.2 with linkedExpressionDepth := parser.linkedExpressionDepth })
  refine .spend (restored.congr fun fuel => ?_)
  rw [readLinkedExpressionNode,if_neg (Nat.not_lt.mpr room),present,identified]
  rfl

theorem readBehindIdentifier_members (identifier : SyntaxToken) (previous : ExpressionSyntax)
    {members : List (SyntaxToken × SyntaxToken)}
    (kinds : ∀ member ∈ members,member.1.type = .delimeter ∧ member.2.type = .identifier) (ends : EndsName rest)
    (next : parser.tokens = memberTokens members ++ rest)
    (room : parser.linkedExpressionDepth + members.length ≤ maxLinkedExpressionDepth) :
    Converges (fun fuel => readBehindIdentifier readers fuel identifier previous parser)
      (memberSyntax (.memberAccess identifier previous) members,{ parser with tokens := rest }) := by
  induction members generalizing identifier previous parser with
  | nil =>
      have same : parser.tokens = rest := next
      subst same
      exact readBehindIdentifier_ends identifier previous ends
  | cons member members ih =>
      obtain ⟨delimeter,name⟩ := member
      obtain ⟨⟨dot,word⟩,kinds⟩ := List.forall_mem_cons.mp kinds
      rw [List.length_cons] at room
      rw [memberTokens,List.cons_append,List.cons_append] at next
      let linked : SourceParser := { parser with
        tokens := memberTokens members ++ rest
        linkedExpressionDepth := parser.linkedExpressionDepth + 1 }
      have continues := @ih linked name (.memberAccess identifier previous) kinds rfl (by simp only [linked]; omega)
      have present : parser.canConsume = true := by simp [canConsume,next]
      have behind : parser.kind = .delimeter := by
        rw [SourceParser.kind,SourceParser.current,next]
        exact dot
      have identified (depth : Nat) := @readIdentifier_linked { parser with linkedExpressionDepth := depth } _ _ _ next dot word
      have node := readLinkedExpressionNode_of (by omega) present identified continues
      refine .spend (node.congr fun fuel => ?_)
      rw [readBehindIdentifier,present,behind]
      rfl

theorem name_reads {members : List (SyntaxToken × SyntaxToken)} (name : isName token.type = true)
    (kinds : ∀ member ∈ members,member.1.type = .delimeter ∧ member.2.type = .identifier) (ends : EndsName rest) :
    Reads readers (namePrimary token members) rest := by
  intro parser next fits
  have links := fits.links
  simp only [namePrimary] at links
  rw [namePrimary,List.cons_append] at next
  refine ⟨parser.operatorsInExpression,Nat.le_refl _,?_⟩
  have present : parser.canConsume = true := by simp [canConsume,next]
  have current : parser.current = token := by simp [SourceParser.current,next]
  let linked : SourceParser := { parser with
    tokens := memberTokens members ++ rest
    linkedExpressionDepth := parser.linkedExpressionDepth + 1 }
  have continues := @readBehindIdentifier_members readers linked rest token .null members kinds ends rfl
    (by simp only [linked]; omega)
  have identified (depth : Nat) := @readIdentifier_first { parser with linkedExpressionDepth := depth } _ _ next name
  have node := readLinkedExpressionNode_of (by omega) present identified continues
  refine .spend (node.congr fun fuel => ?_)
  rw [ readNullDenotation]
  simp only [current]
  obtain ⟨missing,type,word,location⟩ := token
  cases type <;> first | rfl | cases name

theorem parenthesized_reads {opening closing : SyntaxToken} {tree : Tree} (grouped : tree.IsGrouped precedenceOf)
    (opens : opening.type = .openCurl) (closes : closing.type = .closeCurl)
    (apart : (rest.headD .endOfFile).type ≠ .delimeter) (reads : TreeReads readers tree (closing :: rest)) :
    Reads readers (parenthesizedPrimary opening closing tree) rest := by
  intro parser next fits
  rw [parenthesizedPrimary,List.cons_append,List.append_assoc] at next
  let inner : SourceParser := { parser with tokens := tokensOf tree ++ closing :: rest }
  have stops : Stops (closing :: rest) 0 := by
    rw [Stops,List.headD_cons,closes]
    exact Nat.le_refl 0
  obtain ⟨operators,le,converges⟩ := @readExpression_tree _ _ _ grouped reads stops false inner rfl
    ⟨fits.operators,fits.depth,fits.links⟩
  have closed : (inner.behind (closing :: rest) operators).expect .closeCurl "Expected ')' token" =
    (closing,parser.behind rest operators) := expect_of _ rfl closes
  have current : parser.current = opening := by simp [SourceParser.current,next]
  have consumed : parser.consume = inner := by simp [consume,next,inner]
  obtain ⟨enough,known⟩ := converges
  refine ⟨operators,le,.spend ⟨enough,fun fuel greater => ?_⟩⟩
  change readNullDenotation readers (fuel + 1) parser = _
  rw [ readNullDenotation]
  simp only [current,consumed,opens,known fuel greater,Option.bind_some,closed]
  exact if_neg apart

end Reading

section Chains

variable (readers : Readers)

mutual

def Operand.IsRead : Operand → List SyntaxToken → Prop
  | .literal token,_ => isLiteral token.type = true
  | .name identifier members,rest => isName identifier.type = true ∧
      (∀ member ∈ members,member.1.type = .delimeter ∧ member.2.type = .identifier) ∧ EndsName rest
  | .unary operator operand,rest => isSign operator.type = true ∧ operand.IsRead rest
  | .parenthesized opening closing first items,rest => opening.type = .openCurl ∧ closing.type = .closeCurl ∧
      (rest.headD .endOfFile).type ≠ .delimeter ∧ first.IsRead (itemTokens (primaries items) ++ closing :: rest) ∧
        AreRead items (closing :: rest)
  | .other primary,rest => Reads readers primary rest

def AreRead : List (Library.Item SyntaxToken Operand TypeOperand) → List SyntaxToken → Prop
  | [],_ => True
  | .binary operator operand :: items,rest => isBinaryOperator operator.type = true ∧ isTypeOperator operator.type = false ∧
      operand.IsRead (itemTokens (primaries items) ++ rest) ∧ AreRead items rest
  | .suffix operator type :: items,rest => isTypeOperator operator.type = true ∧
      ReadsType readers type (itemTokens (primaries items) ++ rest) ∧ AreRead items rest

end

variable {readers} {rest : List SyntaxToken}

theorem treeReads_group {first : Primary} {items : List (Item Primary)} (reads : Reads readers first (itemTokens items ++ rest))
    (later : ItemsRead readers items rest) : TreeReads readers (groupOf first items) rest := by
  rw [TreeReads,groupOf,Grouping.first_group,Grouping.items_group]
  exact ⟨reads,later⟩

mutual

theorem reads_of_isRead : ∀ (operand : Operand) (rest : List SyntaxToken),operand.IsRead readers rest →
    Reads readers operand.primary rest
  | .literal _,_,read => literal_reads read
  | .name _ _,_,⟨name,kinds,ends⟩ => name_reads name kinds ends
  | .unary _ operand,rest,⟨sign,read⟩ => unary_reads sign (reads_of_isRead operand rest read)
  | .parenthesized _ closing first items,rest,⟨opens,closes,apart,read,later⟩ =>
      parenthesized_reads (Grouping.isGrouped_group ..) opens closes apart
        (treeReads_group (reads_of_isRead first _ read) (itemsRead_of_areRead items (closing :: rest) later))
  | .other _,_,read => read

theorem itemsRead_of_areRead : ∀ (items : List (Library.Item SyntaxToken Operand TypeOperand)) (rest : List SyntaxToken),
    AreRead readers items rest → ItemsRead readers (primaries items) rest
  | [],_,_ => trivial
  | .binary _ operand :: items,rest,⟨binary,other,read,later⟩ =>
      ⟨binary,other,reads_of_isRead operand _ read,itemsRead_of_areRead items rest later⟩
  | .suffix _ _ :: items,rest,⟨kind,read,later⟩ => ⟨kind,read,itemsRead_of_areRead items rest later⟩

end

theorem typeName_reads {token : SyntaxToken} (name : token.type = .identifier ∨ isPredefinedType token.type = true)
    (ends : (rest.headD .endOfFile).type ∉ [.question,.openSquare,.lessOperator,.delimeter]) :
    ReadsType readers ⟨[token],if token.type = .identifier then .identifierName token else .predefined token⟩ rest := by
  intro parser next
  have current : parser.current = token := by simp [SourceParser.current,next]
  have consumed : parser.consume = { parser with tokens := rest } := by simp [consume,next]
  have modified (type : TypeSyntax) (fuel : Nat) :
      readModifiedType readers.readDelegateType (fuel + 1) type true { parser with tokens := rest } =
        some (type,{ parser with tokens := rest }) := by
    rw [readModifiedType]
    simp only [kind,SourceParser.current]
    generalize (rest.headD .endOfFile).type = type at ends
    cases type <;> first | rfl | exact absurd ends (by decide)
  refine .spend (.spend (.congr (.pure _) fun fuel => ?_))
  rw [readType]
  simp only [current,consumed]
  by_cases same : token.type = .identifier
  · have predefined : isPredefinedType token.type = false := by rw [same]; rfl
    have other : token.type ≠ .delegateKeyword := by rw [same]; decide
    rw [predefined,if_neg Bool.false_ne_true,if_neg other,if_pos same,expect_of _ next same,if_pos same]
    exact modified _ fuel
  · rw [name.resolve_left same,if_pos rfl,if_neg same]
    exact modified _ fuel

/-- The chain is read up to its end, as the one tree that groups it by the precedence of its operators. -/
theorem readExpression_chain (readers : Readers) {first : Operand} {items : List (Library.Item SyntaxToken Operand TypeOperand)}
    (read : first.IsRead readers (itemTokens (primaries items) ++ rest)) (later : AreRead readers items rest)
    (stops : Stops rest 0) (reset : Bool) {parser : SourceParser}
    (next : parser.tokens = first.primary.tokens ++ itemTokens (primaries items) ++ rest)
    (fits : Fits (operatorsOf (groupOf first.primary (primaries items))) (depthOf (groupOf first.primary (primaries items)) + 1)
      (linksOf (groupOf first.primary (primaries items)))
      { parser with operatorsInExpression := if reset then 0 else parser.operatorsInExpression }) :
    ∃ tree : Tree,(∀ tree' : Tree,tree'.first = first.primary ∧ tree'.items = primaries items ∧ tree'.IsGrouped precedenceOf ↔
        tree' = tree) ∧
      ∃ operators,Converges (fun fuel => readExpression readers fuel 0 reset parser) (syntaxOf tree,parser.behind rest operators) := by
  have sameFirst : (groupOf first.primary (primaries items)).first = first.primary := Grouping.first_group ..
  have sameItems : (groupOf first.primary (primaries items)).items = primaries items := Grouping.items_group ..
  have grouped : (groupOf first.primary (primaries items)).IsGrouped precedenceOf := Grouping.isGrouped_group ..
  have reads := treeReads_group (reads_of_isRead first _ read) (itemsRead_of_areRead items rest later)
  have tokens : parser.tokens = tokensOf (groupOf first.primary (primaries items)) ++ rest := by
    rw [next,tokensOf,sameFirst,sameItems]
  obtain ⟨operators,-,converges⟩ := readExpression_tree grouped reads stops reset tokens fits
  refine ⟨_,fun tree' => ⟨?_,?_⟩,operators,converges⟩
  · rintro ⟨tree'First,tree'Items,tree'Grouped⟩
    rw [groupOf,← tree'First,← tree'Items]
    exact tree'Grouped.eq_group.symm
  · rintro rfl
    exact ⟨sameFirst,sameItems,grouped⟩

end Chains

section Samples

def plainReaders : Readers where
  readLambdaExpression _ parser := (.null,parser)
  readSwitchExpression parser := (.null,parser)
  readDelegateType _ parser := (.null,parser)

def plain (type : TokenType) : SyntaxToken := .of type [] {}

def sampleItems : List (Library.Item SyntaxToken Operand TypeOperand) :=
  [.binary (plain .addOperator) (.literal (plain .numberLiteral)),
    .binary (plain .multOperator) (.parenthesized (plain .openCurl) (plain .closeCurl) (.name (plain .identifier) [])
      [.binary (plain .subOperator) (.literal (plain .numberLiteral))]),
    .binary (plain .andOperator) (.name (plain .identifier) []),
    .suffix (plain .isOperator) ⟨[plain .integerKeyword],.predefined (plain .integerKeyword)⟩]

theorem readExpression_chain_sample :
    ∃ tree : Tree,(∀ tree' : Tree,tree'.first = literalPrimary (plain .numberLiteral) ∧ tree'.items = primaries sampleItems ∧
        tree'.IsGrouped precedenceOf ↔ tree' = tree) ∧
      ∃ operators,Converges (fun fuel => readExpression plainReaders fuel 0 true
          { tokens := plain .numberLiteral :: itemTokens (primaries sampleItems) ++ [plain .semicolon] })
        (syntaxOf tree,{ tokens := [plain .semicolon],operatorsInExpression := operators }) := by
  have ends (token : SyntaxToken) (rest : List SyntaxToken) (behind : isBehindName token.type = true)
      (other : token.type ≠ .lessOperator) : EndsName (token :: rest) := by
    intro token' member
    obtain rfl := Option.some.inj member
    exact ⟨behind,fun same => absurd same other⟩
  have minus : AreRead plainReaders [.binary (plain .subOperator) (.literal (plain .numberLiteral))]
      (plain .closeCurl :: plain .andOperator :: plain .identifier :: plain .isOperator :: plain .integerKeyword ::
        [plain .semicolon]) := ⟨rfl,rfl,rfl,trivial⟩
  have name (token : SyntaxToken) (rest : List SyntaxToken) (behind : isBehindName token.type = true)
      (other : token.type ≠ .lessOperator) : (Operand.name (plain .identifier) []).IsRead plainReaders (token :: rest) :=
    ⟨rfl,List.forall_mem_nil _,ends token rest behind other⟩
  have later : AreRead plainReaders sampleItems [plain .semicolon] :=
    ⟨rfl,rfl,rfl,rfl,rfl,⟨rfl,rfl,by decide,name _ _ rfl (by decide),minus⟩,rfl,rfl,name _ _ rfl (by decide),
      rfl,typeName_reads (.inr rfl) (by decide),trivial⟩
  let parser : SourceParser := { tokens := plain .numberLiteral :: itemTokens (primaries sampleItems) ++ [plain .semicolon] }
  have fits : Fits (operatorsOf (groupOf (literalPrimary (plain .numberLiteral)) (primaries sampleItems)))
      (depthOf (groupOf (literalPrimary (plain .numberLiteral)) (primaries sampleItems)) + 1)
      (linksOf (groupOf (literalPrimary (plain .numberLiteral)) (primaries sampleItems))) parser :=
    ⟨by decide +kernel,by decide +kernel,by decide +kernel⟩
  exact @readExpression_chain [plain .semicolon] plainReaders (.literal (plain .numberLiteral)) sampleItems rfl later
    (Nat.le_refl 0) true parser rfl fits

def diagnosticsOf (tokens : List TokenType) : Option (List String) :=
  (readExpression plainReaders 20 0 true { tokens := tokens.map plain }).map fun (_,parser) => parser.diagnostics.map Prod.snd

/-- `1 is 2`, where a type has to be, and `a < a and a > (a)`, where the look-ahead takes the first comparison for the type
arguments of an invocation. -/
theorem readExpression_reports :
    (∀ type ∈ [TokenType.isOperator,.lessOperator,.andOperator,.greaterOperator],isBinaryOperator type = true) ∧
      diagnosticsOf [.numberLiteral,.isOperator,.numberLiteral] = some ["Unexpected token in type syntax"] ∧
      diagnosticsOf [.identifier,.lessOperator,.identifier,.andOperator,.identifier,.greaterOperator,.openCurl,.identifier,
        .closeCurl] = some ["Expected ',' or '>'"] := by
  refine ⟨by decide,?_,?_⟩ <;> decide +kernel

end Samples

end ShardScript.Parsing
