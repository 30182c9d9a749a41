import ShardScript.Library.Convergence
import ShardScript.Library.Precedence
import ShardScript.Parsing.SourceParser

/-! Chains of operands and binary operators, and how `ReadExpression` reads them. -/
namespace ShardScript.Parsing

open Lexical (SyntaxToken TokenType)
open Library (Converges Grouping)
open SourceParser

structure Primary where
  tokens : List SyntaxToken
  node : ExpressionSyntax
  operators : Nat := 0
  depth : Nat := 0
  links : Nat := 0

structure TypeOperand where
  tokens : List SyntaxToken
  type : TypeSyntax

/-- What follows the first operand of a chain. The right operand of `is` and of `as` is a type. -/
abbrev Item (Operand : Type) := Library.Item SyntaxToken Operand TypeOperand

abbrev Tree := Grouping SyntaxToken Primary TypeOperand

def precedenceOf (token : SyntaxToken) : Nat := getOperatorPrecendence token.type

section Shapes

def binarySyntax (operator : SyntaxToken) (left right : ExpressionSyntax) : ExpressionSyntax :=
  if operator.type = .rangeOperator ∨ operator.type = .rangeInclusiveOperator then
    .range operator (operator.type == .rangeInclusiveOperator) left right
  else .binary operator left right

def suffixSyntax (operator : SyntaxToken) (left : ExpressionSyntax) (type : TypeSyntax) : ExpressionSyntax :=
  if operator.type = .asOperator then .cast operator left type else .isType operator left type

def syntaxOf : Tree → ExpressionSyntax
  | .operand primary => primary.node
  | .binary operator left right => binarySyntax operator (syntaxOf left) (syntaxOf right)
  | .suffix operator left type => suffixSyntax operator (syntaxOf left) type.type

def depthOf : Tree → Nat
  | .operand primary => primary.depth
  | .binary _ left right => max (depthOf left) (depthOf right + 1)
  | .suffix _ left _ => depthOf left

def itemTokens : List (Item Primary) → List SyntaxToken
  | [] => []
  | .binary operator primary :: items => operator :: primary.tokens ++ itemTokens items
  | .suffix operator type :: items => operator :: type.tokens ++ itemTokens items

def tokensOf (tree : Tree) : List SyntaxToken := tree.first.tokens ++ itemTokens tree.items

def itemOperators : List (Item Primary) → Nat
  | [] => 0
  | .binary _ primary :: items => 1 + primary.operators + itemOperators items
  | .suffix _ _ :: items => 1 + itemOperators items

def operatorsOf (tree : Tree) : Nat := tree.first.operators + itemOperators tree.items

def itemLinks : List (Item Primary) → Nat
  | [] => 0
  | .binary _ primary :: items => max primary.links (itemLinks items)
  | .suffix _ _ :: items => itemLinks items

def linksOf (tree : Tree) : Nat := max tree.first.links (itemLinks tree.items)

theorem itemTokens_append (items items' : List (Item Primary)) :
    itemTokens (items ++ items') = itemTokens items ++ itemTokens items' := by
  induction items with
  | nil => rfl
  | cons item items ih => cases item <;> simp [itemTokens,ih]

theorem itemOperators_append (items items' : List (Item Primary)) :
    itemOperators (items ++ items') = itemOperators items + itemOperators items' := by
  induction items with
  | nil => simp [itemOperators]
  | cons item items ih => cases item <;> simp [itemOperators,ih,Nat.add_assoc]

theorem itemLinks_append (items items' : List (Item Primary)) :
    itemLinks (items ++ items') = max (itemLinks items) (itemLinks items') := by
  induction items with
  | nil => simp [itemLinks]
  | cons item items ih => cases item <;> simp [itemLinks,ih,Nat.max_assoc]

end Shapes

section Readings

variable (readers : Readers)

structure Fits (operators depth links : Nat) (parser : SourceParser) : Prop where
  operators : parser.operatorsInExpression + operators ≤ maxExpressionOperators
  depth : parser.expressionDepth + depth ≤ maxExpressionDepth
  links : parser.linkedExpressionDepth + links ≤ maxLinkedExpressionDepth

def SourceParser.behind (rest : List SyntaxToken) (operators : Nat) (parser : SourceParser) : SourceParser :=
  { parser with tokens := rest,operatorsInExpression := operators }

def Reads (primary : Primary) (rest : List SyntaxToken) : Prop :=
  ∀ parser : SourceParser,parser.tokens = primary.tokens ++ rest → Fits primary.operators primary.depth primary.links parser →
    ∃ operators ≤ parser.operatorsInExpression + primary.operators,
      Converges (fun fuel => readNullDenotation readers fuel parser) (primary.node,parser.behind rest operators)

def ReadsType (type : TypeOperand) (rest : List SyntaxToken) : Prop :=
  ∀ parser : SourceParser,parser.tokens = type.tokens ++ rest →
    Converges (fun fuel => readType readers.readDelegateType fuel true parser) (type.type,{ parser with tokens := rest })

def isTypeOperator (type : TokenType) : Bool := type == .isOperator || type == .asOperator

def ItemsRead : List (Item Primary) → List SyntaxToken → Prop
  | [],_ => True
  | .binary operator primary :: items,rest => isBinaryOperator operator.type = true ∧ isTypeOperator operator.type = false ∧
      Reads readers primary (itemTokens items ++ rest) ∧ ItemsRead items rest
  | .suffix operator type :: items,rest => isTypeOperator operator.type = true ∧
      ReadsType readers type (itemTokens items ++ rest) ∧ ItemsRead items rest

def TreeReads (tree : Tree) (rest : List SyntaxToken) : Prop :=
  Reads readers tree.first (itemTokens tree.items ++ rest) ∧ ItemsRead readers tree.items rest

variable {readers} {operator : SyntaxToken} {left right : Tree} {type : TypeOperand} {rest : List SyntaxToken}

theorem itemsRead_append {items items' : List (Item Primary)} (reads : ItemsRead readers (items ++ items') rest) :
    ItemsRead readers items (itemTokens items' ++ rest) ∧ ItemsRead readers items' rest := by
  induction items with
  | nil => exact ⟨trivial,reads⟩
  | cons item items ih =>
      cases item with
      | binary =>
          obtain ⟨binary,other,reads,later⟩ := reads
          rw [List.append_eq,itemTokens_append,List.append_assoc] at reads
          exact ⟨⟨binary,other,reads,(ih later).1⟩,(ih later).2⟩
      | suffix =>
          obtain ⟨kind,reads,later⟩ := reads
          rw [List.append_eq,itemTokens_append,List.append_assoc] at reads
          exact ⟨⟨kind,reads,(ih later).1⟩,(ih later).2⟩

theorem treeReads_binary (reads : TreeReads readers (.binary operator left right) rest) :
    isBinaryOperator operator.type = true ∧ isTypeOperator operator.type = false ∧
      TreeReads readers left (operator :: tokensOf right ++ rest) ∧ TreeReads readers right rest := by
  obtain ⟨first,items⟩ := reads
  obtain ⟨before,binary,other,second,later⟩ := itemsRead_append items
  rw [Grouping.items,itemTokens_append,List.append_assoc] at first
  rw [itemTokens,List.cons_append] at first before
  exact ⟨binary,other,⟨first,before⟩,second,later⟩

theorem treeReads_suffix (reads : TreeReads readers (.suffix operator left type) rest) :
    isTypeOperator operator.type = true ∧ TreeReads readers left (operator :: type.tokens ++ rest) ∧ ReadsType readers type rest := by
  obtain ⟨first,items⟩ := reads
  obtain ⟨before,kind,second,-⟩ := itemsRead_append items
  rw [Grouping.items,itemTokens_append,List.append_assoc] at first
  rw [itemTokens,itemTokens,List.append_nil] at first before
  exact ⟨kind,⟨first,before⟩,second⟩

theorem tokensOf_binary : tokensOf (.binary operator left right) = tokensOf left ++ operator :: tokensOf right := by
  simp [tokensOf,Grouping.first,Grouping.items,itemTokens_append,itemTokens]

theorem tokensOf_suffix : tokensOf (.suffix operator left type) = tokensOf left ++ operator :: type.tokens := by
  simp [tokensOf,Grouping.first,Grouping.items,itemTokens_append,itemTokens]

theorem operatorsOf_binary : operatorsOf (.binary operator left right) = operatorsOf left + 1 + operatorsOf right := by
  simp only [operatorsOf,Grouping.first,Grouping.items,itemOperators_append,itemOperators]
  omega

theorem operatorsOf_suffix : operatorsOf (.suffix operator left type) = operatorsOf left + 1 := by
  simp only [operatorsOf,Grouping.first,Grouping.items,itemOperators_append,itemOperators]
  omega

theorem linksOf_binary : linksOf (.binary operator left right) = max (linksOf left) (linksOf right) := by
  simp only [linksOf,Grouping.first,Grouping.items,itemLinks_append,itemLinks,Nat.max_assoc]

theorem linksOf_suffix : linksOf (.suffix operator left type) = linksOf left := by
  simp [linksOf,Grouping.first,Grouping.items,itemLinks_append,itemLinks]

end Readings

section Reading

variable {readers : Readers} {rest : List SyntaxToken} {bindingPower : Nat}

def Stops (rest : List SyntaxToken) (precedence : Nat) : Prop := getOperatorPrecendence (rest.headD .endOfFile).type ≤ precedence

variable {parser : SourceParser}

theorem readOperators_stops (left : ExpressionSyntax) (stops : Stops parser.tokens bindingPower) :
    Converges (fun fuel => readOperators readers fuel bindingPower left parser) (left,parser) := by
  refine .spend (.congr (.pure _) fun fuel => ?_)
  rw [readOperators,if_pos]
  simp only [Bool.or_eq_true,decide_eq_true_eq]
  exact .inr stops

theorem readExpression_of {parser after : SourceParser} {expression : ExpressionSyntax} {reset : Bool}
    (room : parser.expressionDepth + 1 ≤ maxExpressionDepth) (same : after.expressionDepth = parser.expressionDepth)
    (reads : Converges (fun fuel => ( readNullDenotation readers fuel { parser with
      expressionDepth := parser.expressionDepth + 1
      operatorsInExpression := if reset then 0 else parser.operatorsInExpression }).bind fun (left,parser) =>
        readOperators readers fuel bindingPower left parser)
      (expression,{ after with expressionDepth := parser.expressionDepth + 1 })) :
    Converges (fun fuel => readExpression readers fuel bindingPower reset parser) (expression,after) := by
  have ends := reads.map fun (expression,after) => (expression,{ after with expressionDepth := parser.expressionDepth })
  rw [← same] at ends
  refine .spend (ends.congr fun fuel => ?_)
  rw [readExpression,if_neg (Nat.not_lt.mpr room),Option.map_bind,same]
  rfl

variable {tokens : List SyntaxToken}

theorem readLeftDenotation_binary {operator : SyntaxToken}
    (binary : isBinaryOperator operator.type = true) (other : isTypeOperator operator.type = false)
    (next : parser.tokens = operator :: tokens) (left : ExpressionSyntax) (fuel : Nat) :
    readLeftDenotation readers (fuel + 1) left parser =
      (readExpression readers fuel (precedenceOf operator) false { parser with tokens := tokens }).map fun (right,parser) =>
        (binarySyntax operator left right,parser) := by
  have present : parser.canConsume = true := by simp [canConsume,next]
  have current : parser.current = operator := by simp [SourceParser.current,next]
  have consumed : parser.consume = { parser with tokens := tokens } := by simp [consume,next]
  rw [ readLeftDenotation]
  simp only [current,present,consumed,Bool.not_true,Bool.false_eq_true,if_false]
  obtain ⟨missing,type,word,location⟩ := operator
  cases type <;> first | rfl | (cases binary; done) | cases other

theorem readLeftDenotation_suffix {operator : SyntaxToken}
    (kind : isTypeOperator operator.type = true) (next : parser.tokens = operator :: tokens) (left : ExpressionSyntax) (fuel : Nat) :
    readLeftDenotation readers (fuel + 1) left parser =
      (readType readers.readDelegateType fuel true { parser with tokens := tokens }).map fun (type,parser) =>
        (suffixSyntax operator left type,parser) := by
  have present : parser.canConsume = true := by simp [canConsume,next]
  have current : parser.current = operator := by simp [SourceParser.current,next]
  have consumed : parser.consume = { parser with tokens := tokens } := by simp [consume,next]
  rw [ readLeftDenotation]
  simp only [current,present,consumed,Bool.not_true,Bool.false_eq_true,if_false]
  obtain ⟨missing,type,word,location⟩ := operator
  cases type <;> first | rfl | cases kind

theorem readOperators_step {operator : SyntaxToken}
    (next : parser.tokens = operator :: tokens) (tight : bindingPower < precedenceOf operator)
    (room : parser.operatorsInExpression + 1 ≤ maxExpressionOperators) {left left' : ExpressionSyntax} {parser' : SourceParser}
    {result : ExpressionSyntax × SourceParser}
    (denotes : Converges (fun fuel => readLeftDenotation readers fuel left
      (parser.behind parser.tokens (parser.operatorsInExpression + 1))) (left',parser'))
    (continues : Converges (fun fuel => readOperators readers fuel bindingPower left' parser') result) :
    Converges (fun fuel => readOperators readers fuel bindingPower left parser) result := by
  have both := @Converges.bind _ _ _ _ (fun fuel (left,parser) => readOperators readers fuel bindingPower left parser) _
    denotes continues
  refine .spend (both.congr fun fuel => ?_)
  have known : getOperatorPrecendence parser.kind = precedenceOf operator := by
    simp [kind,SourceParser.current,next,precedenceOf]
  rw [readOperators,if_neg]
  · simp only [if_neg (Nat.not_lt.mpr room)]
    rfl
  · simp only [known,canConsume,next]
    simp
    omega

theorem readLeftDenotation_converges_binary {operator : SyntaxToken}
    (binary : isBinaryOperator operator.type = true) (other : isTypeOperator operator.type = false)
    (next : parser.tokens = operator :: tokens) (left : ExpressionSyntax) {right : ExpressionSyntax} {after : SourceParser}
    (reads : Converges (fun fuel => readExpression readers fuel (precedenceOf operator) false { parser with tokens := tokens })
      (right,after)) :
    Converges (fun fuel => readLeftDenotation readers fuel left parser) (binarySyntax operator left right,after) := by
  refine .spend (.congr (reads.map fun (right,parser) => (binarySyntax operator left right,parser)) fun fuel => ?_)
  exact readLeftDenotation_binary binary other next left fuel

theorem tree_reads {tree : Tree} (grouped : tree.IsGrouped precedenceOf) {rest : List SyntaxToken}
    (reads : TreeReads readers tree rest) {bindingPower : Nat} (tight : ∀ operator ∈ tree.leftEdge,bindingPower < precedenceOf operator)
    (stops : ∀ operator ∈ tree.rightEdge,Stops rest (precedenceOf operator))
    (next : parser.tokens = tokensOf tree ++ rest) (fits : Fits (operatorsOf tree) (depthOf tree) (linksOf tree) parser) :
    ∃ operators ≤ parser.operatorsInExpression + operatorsOf tree,∀ result,
      Converges (fun fuel => readOperators readers fuel bindingPower (syntaxOf tree) (parser.behind rest operators)) result →
        Converges (fun fuel => ( readNullDenotation readers fuel parser).bind fun (left,parser) =>
          readOperators readers fuel bindingPower left parser) result := by
  induction tree generalizing rest bindingPower parser with
  | operand primary =>
      rw [tokensOf,Grouping.items,itemTokens,List.append_nil] at next
      have room : Fits primary.operators primary.depth primary.links parser :=
        ⟨fits.operators,fits.depth,Nat.le_trans (Nat.add_le_add_left (Nat.le_max_left ..) _) fits.links⟩
      obtain ⟨operators,le,converges⟩ := reads.1 parser next room
      exact ⟨operators,le,fun result continues => converges.bind continues⟩
  | binary operator left right ihLeft ihRight =>
      obtain ⟨binary,other,readsLeft,readsRight⟩ := treeReads_binary reads
      obtain ⟨groupedLeft,groupedRight,outer,inner⟩ := grouped
      rw [tokensOf_binary,List.append_assoc,List.cons_append] at next
      rw [operatorsOf_binary,linksOf_binary,depthOf] at fits
      obtain ⟨operatorsFit,depthFits,linksFit⟩ := fits
      obtain ⟨first,firstLe,continuesLeft⟩ := ihLeft groupedLeft readsLeft
        (fun inner member => tight inner (List.mem_cons_of_mem _ member)) outer next ⟨by omega,by omega,by omega⟩
      -- The right operand is read one level deeper.
      let deeper : SourceParser := { parser with
        tokens := tokensOf right ++ rest
        expressionDepth := parser.expressionDepth + 1
        operatorsInExpression := first + 1 }
      have deeperFits : Fits (operatorsOf right) (depthOf right) (linksOf right) deeper := by
        refine ⟨?_,?_,?_⟩ <;> simp only [deeper] <;> omega
      obtain ⟨second,secondLe,continuesRight⟩ := ihRight groupedRight readsRight inner
        (fun inner member => stops inner (List.mem_cons_of_mem _ member)) (show deeper.tokens = tokensOf right ++ rest from rfl) deeperFits
      refine ⟨second,?_,fun result continues => continuesLeft result ?_⟩
      · rw [operatorsOf_binary]
        simp only [deeper] at secondLe
        omega
      · apply readOperators_step rfl (tight operator List.mem_cons_self) _ _ continues
        · show first + 1 ≤ maxExpressionOperators
          omega
        · apply readLeftDenotation_converges_binary binary other rfl
          apply readExpression_of
          · show parser.expressionDepth + 1 ≤ maxExpressionDepth
            omega
          · rfl
          · apply continuesRight
            exact readOperators_stops _ (stops operator List.mem_cons_self)
  | suffix operator left type ih =>
      obtain ⟨kind,readsLeft,readsType⟩ := treeReads_suffix reads
      obtain ⟨groupedLeft,outer⟩ := grouped
      rw [tokensOf_suffix,List.append_assoc,List.cons_append] at next
      rw [operatorsOf_suffix,linksOf_suffix,depthOf] at fits
      obtain ⟨operatorsFit,depthFits,linksFit⟩ := fits
      obtain ⟨first,firstLe,continuesLeft⟩ := ih groupedLeft readsLeft
        (fun inner member => tight inner (List.mem_cons_of_mem _ member)) outer next ⟨by omega,depthFits,linksFit⟩
      refine ⟨first + 1,by rw [operatorsOf_suffix]; omega,fun result continues => continuesLeft result ?_⟩
      apply readOperators_step rfl (tight operator List.mem_cons_self) _ _ continues
      · show first + 1 ≤ maxExpressionOperators
        omega
      · have converges := readsType (parser.behind (type.tokens ++ rest) (first + 1)) rfl
        refine .spend (.congr (converges.map fun (type,parser) => (suffixSyntax operator (syntaxOf left) type,parser)) fun fuel => ?_)
        exact readLeftDenotation_suffix kind rfl (syntaxOf left) fuel

theorem mem_items_of_leftEdge {tree : Tree} {operator : SyntaxToken} (edge : operator ∈ tree.leftEdge) :
    ∃ item ∈ tree.items,item.operator = operator := by
  induction tree with
  | operand => cases edge
  | binary operator' left right ih =>
      rcases List.mem_cons.mp edge with rfl | edge
      · exact ⟨_,List.mem_append_right _ List.mem_cons_self,rfl⟩
      · obtain ⟨item,member,same⟩ := ih edge
        exact ⟨item,List.mem_append_left _ member,same⟩
  | suffix operator' left type ih =>
      rcases List.mem_cons.mp edge with rfl | edge
      · exact ⟨_,List.mem_append_right _ List.mem_cons_self,rfl⟩
      · obtain ⟨item,member,same⟩ := ih edge
        exact ⟨item,List.mem_append_left _ member,same⟩

theorem isTypeOperator_iff {type : TokenType} : isTypeOperator type = true ↔ type = .isOperator ∨ type = .asOperator := by
  simp [isTypeOperator]

theorem precedenceOf_pos {items : List (Item Primary)} (reads : ItemsRead readers items rest) :
    ∀ item ∈ items,0 < precedenceOf item.operator := by
  induction items with
  | nil =>
      intro item member
      cases member
  | cons item items ih =>
      rw [List.forall_mem_cons]
      cases item with
      | binary operator primary =>
          have positive : 0 < getOperatorPrecendence operator.type := Nat.pos_of_ne_zero (isBinaryOperator_table reads.1).1
          exact ⟨positive,ih reads.2.2.2⟩
      | suffix operator type =>
          refine ⟨?_,ih reads.2.2⟩
          rw [Library.Item.operator,precedenceOf]
          rcases isTypeOperator_iff.mp reads.1 with same | same <;> rw [same] <;> decide

theorem readExpression_tree {tree : Tree} (grouped : tree.IsGrouped precedenceOf) (reads : TreeReads readers tree rest)
    (stops : Stops rest 0) (reset : Bool) {parser : SourceParser} (next : parser.tokens = tokensOf tree ++ rest)
    (fits : Fits (operatorsOf tree) (depthOf tree + 1) (linksOf tree)
      { parser with operatorsInExpression := if reset then 0 else parser.operatorsInExpression }) :
    ∃ operators ≤ (if reset then 0 else parser.operatorsInExpression) + operatorsOf tree,
      Converges (fun fuel => readExpression readers fuel 0 reset parser) (syntaxOf tree,parser.behind rest operators) := by
  obtain ⟨operatorsFit,depthFits,linksFit⟩ := fits
  simp only at operatorsFit depthFits linksFit
  have tight : ∀ operator ∈ tree.leftEdge,0 < precedenceOf operator := by
    intro operator edge
    obtain ⟨item,member,rfl⟩ := mem_items_of_leftEdge edge
    exact precedenceOf_pos reads.2 item member
  let inner : SourceParser := { parser with
    expressionDepth := parser.expressionDepth + 1
    operatorsInExpression := if reset then 0 else parser.operatorsInExpression }
  have innerFits : Fits (operatorsOf tree) (depthOf tree) (linksOf tree) inner := by
    refine ⟨operatorsFit,?_,linksFit⟩
    simp only [inner]
    omega
  obtain ⟨operators,le,continues⟩ := tree_reads grouped reads tight (fun _ _ => Nat.le_trans stops (Nat.zero_le _))
    (show inner.tokens = tokensOf tree ++ rest from next) innerFits
  refine ⟨operators,le,?_⟩
  apply readExpression_of
  · omega
  · rfl
  · apply continues
    exact readOperators_stops _ stops

end Reading

end ShardScript.Parsing
