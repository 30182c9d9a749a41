import Mathlib.Data.List.Nodup

/-! The walks of the three passes over the bodies of a program. The passes inherit their walks from `SyntaxVisitor`, and differ
in what they override. -/
namespace ShardScript.Declarations

inductive SyntaxKind where
  | variableStatement | forEachStatement | forInStatement | catchClause | lambdaExpression
  deriving DecidableEq

structure SyntaxNode where
  address : Nat
  kind : SyntaxKind
  deriving DecidableEq

inductive TreeKind where
  | expression | arguments | arms | statement | block | clause | cases | catches

def TreeKind.isExpression : TreeKind → Bool
  | expression | arguments | arms => true
  | _ => false

inductive LeafKind where
  | null | literalExpression | typeExpression | isPattern
  deriving DecidableEq

inductive OperationKind where
  | unaryExpression | awaitExpression | castExpression | isExpression | rangeExpression | ternaryExpression | ifExpression
  | collectionExpression
  deriving DecidableEq

/-- The trees of a body. A node that declares something has an address. Where `ExpressionBinder` stops or goes on by the types,
the tree says which: the arguments of an invocation that it comes to are apart from the others. -/
inductive Tree : TreeKind → Type where
  | leaf (kind : LeafKind) : Tree .expression
  | operation (kind : OperationKind) (operands : Tree .arguments) : Tree .expression
  | binaryExpression (isLeftTyped : Bool) (left right : Tree .expression) : Tree .expression
  | memberAccessExpression (previous : Tree .expression) : Tree .expression
  | invocationExpression (previous : Tree .expression) (reached others : Tree .arguments) : Tree .expression
  | indexatorExpression (previous : Tree .expression) (arguments : Tree .arguments) : Tree .expression
  | objectExpression (isArrayCreation : Bool) (arraySize : Tree .expression) (arguments : Tree .arguments) : Tree .expression
  | lambdaExpression (address : Nat) (body : Tree .block) : Tree .expression
  | switchExpression (scrutinee : Tree .expression) (arms : Tree .arms) : Tree .expression
  | noArgument : Tree .arguments
  | argument (first : Tree .expression) (rest : Tree .arguments) : Tree .arguments
  | noArm : Tree .arms
  | arm (pattern value : Tree .expression) (rest : Tree .arms) : Tree .arms
  | noStatement : Tree .statement
  | expressionStatement (value : Tree .expression) : Tree .statement
  | returnStatement (isReached : Bool) (value : Tree .expression) : Tree .statement
  | throwStatement (value : Tree .expression) : Tree .statement
  | jumpStatement : Tree .statement
  | variableStatement (address : Nat) (isTyped : Bool) (value : Tree .expression) : Tree .statement
  | whileStatement (condition : Tree .expression) (body : Tree .block) : Tree .statement
  | forStatement (initializer : Tree .statement) (condition : Tree .expression) (afterRepeat : Tree .statement)
      (body : Tree .block) : Tree .statement
  | forEachStatement (address : Nat) (range : Tree .expression) (body : Tree .block) : Tree .statement
  | forInStatement (address : Nat) (range : Tree .expression) (body : Tree .block) : Tree .statement
  | conditionalStatement (first : Tree .clause) : Tree .statement
  | switchStatement (scrutinee : Tree .expression) (clauses : Tree .cases) : Tree .statement
  | tryStatement (body : Tree .block) (clauses : Tree .catches) : Tree .statement
  | deferStatement (statement : Tree .statement) : Tree .statement
  | empty : Tree .block
  | cons (first : Tree .statement) (rest : Tree .block) : Tree .block
  | noClause : Tree .clause
  | conditionalClause (condition : Tree .statement) (body : Tree .block) (next : Tree .clause) : Tree .clause
  | elseClause (body : Tree .block) (next : Tree .clause) : Tree .clause
  | noCase : Tree .cases
  | caseClause (pattern : Tree .expression) (body : Tree .block) (rest : Tree .cases) : Tree .cases
  | noCatch : Tree .catches
  | catchClause (address : Nat) (isNamed : Bool) (body : Tree .block) (rest : Tree .catches) : Tree .catches

namespace Tree

def isNull : Tree .expression → Bool
  | leaf .null => true
  | _ => false

def isExpressionStatement : Tree .statement → Bool
  | expressionStatement _ => true
  | _ => false

end Tree

structure Visitor where
  receivers : Bool
  indexatorReceivers : Bool
  lambdaBodies : Bool
  namelessCatches : Bool
  accessorBodies : Bool
  propertyInitializers : Bool
  goesOn : Bool

def declarationCollector : Visitor := ⟨true,false,false,false,false,true,true⟩

def typeBinder : Visitor := ⟨false,false,true,true,false,true,true⟩

def expressionBinder : Visitor := ⟨true,true,true,true,true,false,false⟩

def everything : Visitor := ⟨true,true,true,true,true,true,true⟩

def within (goes : Bool) (nodes : List SyntaxNode) : List SyntaxNode := if goes then nodes else []

section Visit

variable (visitor : Visitor)

/-- The nodes that the pass comes to, in their order. A node that `ExpressionBinder` visits twice is listed once: what is looked
up of it is found both times or none. -/
@[grind] def visit : {kind : TreeKind} → Tree kind → List SyntaxNode
  | _,.leaf _ | _,.noArgument | _,.noArm | _,.noStatement | _,.jumpStatement | _,.empty | _,.noClause | _,.noCase
  | _,.noCatch => []
  | _,.operation _ operands => visit operands
  | _,.binaryExpression isLeftTyped left right => visit left ++ within (visitor.goesOn || isLeftTyped) (visit right)
  | _,.memberAccessExpression previous => within visitor.receivers (visit previous)
  | _,.invocationExpression previous reached others =>
      within visitor.receivers (visit previous) ++ visit reached ++ within visitor.goesOn (visit others)
  | _,.indexatorExpression previous arguments => visit arguments ++ within visitor.indexatorReceivers (visit previous)
  | _,.objectExpression isArrayCreation arraySize arguments =>
      within (visitor.goesOn || isArrayCreation) (visit arraySize) ++
        within (visitor.goesOn || !isArrayCreation) (visit arguments)
  | _,.lambdaExpression address body => ⟨address,.lambdaExpression⟩ :: within visitor.lambdaBodies (visit body)
  | _,.switchExpression scrutinee arms => visit scrutinee ++ visit arms
  | _,.argument first rest => visit first ++ visit rest
  | _,.arm pattern value rest =>
      within (visitor.goesOn || (!pattern.isNull && !value.isNull)) (visit pattern ++ visit value) ++ visit rest
  | _,.expressionStatement value | _,.throwStatement value => visit value
  | _,.returnStatement isReached value => within (visitor.goesOn || isReached) (visit value)
  | _,.variableStatement address isTyped value =>
      ⟨address,.variableStatement⟩ :: within (visitor.goesOn || isTyped) (visit value)
  | _,.whileStatement condition body => visit condition ++ visit body
  | _,.forStatement initializer condition afterRepeat body =>
      visit initializer ++ visit condition ++ visit afterRepeat ++ visit body
  | _,.forEachStatement address range body => ⟨address,.forEachStatement⟩ :: (visit range ++ visit body)
  | _,.forInStatement address range body => ⟨address,.forInStatement⟩ :: (visit range ++ visit body)
  | _,.conditionalStatement first => visit first
  | _,.switchStatement scrutinee clauses => visit scrutinee ++ visit clauses
  | _,.tryStatement body clauses => visit body ++ visit clauses
  | _,.deferStatement statement => visit statement
  | _,.cons first rest => visit first ++ visit rest
  | _,.conditionalClause condition body next =>
      within (visitor.goesOn || condition.isExpressionStatement) (visit condition) ++ visit body ++ visit next
  | _,.elseClause body next => visit body ++ visit next
  | _,.caseClause pattern body rest => visit pattern ++ visit body ++ visit rest
  | _,.catchClause address isNamed body rest =>
      within (visitor.namelessCatches || isNamed) (⟨address,.catchClause⟩ :: visit body) ++ visit rest

end Visit

structure Visitor.Below (first second : Visitor) : Prop where
  receivers : first.receivers = true → second.receivers = true
  indexatorReceivers : first.indexatorReceivers = true → second.indexatorReceivers = true
  lambdaBodies : first.lambdaBodies = true → second.lambdaBodies = true
  namelessCatches : first.namelessCatches = true → second.namelessCatches = true
  accessorBodies : first.accessorBodies = true → second.accessorBodies = true
  propertyInitializers : first.propertyInitializers = true → second.propertyInitializers = true
  goesOn : first.goesOn = true → second.goesOn = true

def Visitor.meet (first second : Visitor) : Visitor where
  receivers := first.receivers && second.receivers
  indexatorReceivers := first.indexatorReceivers && second.indexatorReceivers
  lambdaBodies := first.lambdaBodies && second.lambdaBodies
  namelessCatches := first.namelessCatches && second.namelessCatches
  accessorBodies := first.accessorBodies && second.accessorBodies
  propertyInitializers := first.propertyInitializers && second.propertyInitializers
  goesOn := first.goesOn && second.goesOn

theorem Visitor.below_everything (visitor : Visitor) : visitor.Below everything where
  receivers := fun _ => rfl
  indexatorReceivers := fun _ => rfl
  lambdaBodies := fun _ => rfl
  namelessCatches := fun _ => rfl
  accessorBodies := fun _ => rfl
  propertyInitializers := fun _ => rfl
  goesOn := fun _ => rfl

section Walks

variable {first second : Visitor} {kind : TreeKind}

theorem mem_within {goes : Bool} {nodes : List SyntaxNode} {node : SyntaxNode} :
    node ∈ within goes nodes ↔ goes = true ∧ node ∈ nodes := by
  cases goes <;> simp [within]

theorem within_sublist {goes also : Bool} {nodes others : List SyntaxNode} (below : goes = true → also = true)
    (sublist : nodes.Sublist others) : (within goes nodes).Sublist (within also others) := by
  cases goes with
  | false => exact List.nil_sublist _
  | true =>
    rw [below rfl]
    exact sublist

theorem or_below {goes also condition : Bool} (below : goes = true → also = true) :
    (goes || condition) = true → (also || condition) = true := by
  rw [Bool.or_eq_true,Bool.or_eq_true]
  exact Or.imp_left below

theorem visit_sublist (below : first.Below second) (tree : Tree kind) :
    (visit first tree).Sublist (visit second tree) := by
  induction tree with
  | leaf | noArgument | noArm | noStatement | jumpStatement | empty | noClause | noCase | noCatch => exact List.nil_sublist _
  | operation _ _ operands => exact operands
  | binaryExpression _ _ _ left right => exact left.append (within_sublist (or_below below.goesOn) right)
  | memberAccessExpression _ previous => exact within_sublist below.receivers previous
  | invocationExpression _ _ _ previous reached others =>
    exact ((within_sublist below.receivers previous).append reached).append (within_sublist below.goesOn others)
  | indexatorExpression _ _ previous arguments =>
    exact arguments.append (within_sublist below.indexatorReceivers previous)
  | objectExpression _ _ _ arraySize arguments =>
    exact (within_sublist (or_below below.goesOn) arraySize).append (within_sublist (or_below below.goesOn) arguments)
  | lambdaExpression _ _ body => exact (within_sublist below.lambdaBodies body).cons_cons _
  | switchExpression _ _ scrutinee arms => exact scrutinee.append arms
  | argument _ _ first rest => exact first.append rest
  | arm _ _ _ pattern value rest => exact (within_sublist (or_below below.goesOn) (pattern.append value)).append rest
  | expressionStatement _ value | throwStatement _ value => exact value
  | returnStatement _ _ value => exact within_sublist (or_below below.goesOn) value
  | variableStatement _ _ _ value => exact (within_sublist (or_below below.goesOn) value).cons_cons _
  | whileStatement _ _ condition body => exact condition.append body
  | forStatement _ _ _ _ initializer condition afterRepeat body =>
    exact ((initializer.append condition).append afterRepeat).append body
  | forEachStatement _ _ _ range body | forInStatement _ _ _ range body => exact (range.append body).cons_cons _
  | conditionalStatement _ first => exact first
  | switchStatement _ _ scrutinee clauses => exact scrutinee.append clauses
  | tryStatement _ _ body clauses => exact body.append clauses
  | deferStatement _ statement => exact statement
  | cons _ _ first rest => exact first.append rest
  | conditionalClause _ _ _ condition body next =>
    exact ((within_sublist (or_below below.goesOn) condition).append body).append next
  | elseClause _ _ body next => exact body.append next
  | caseClause _ _ _ pattern body rest => exact (pattern.append body).append rest
  | catchClause _ _ _ _ body rest =>
    exact (within_sublist (or_below below.namelessCatches) (body.cons_cons _)).append rest

end Walks

structure Meets (first second every both : List SyntaxNode) : Prop where
  first_subset : first ⊆ every
  second_subset : second ⊆ every
  mem_both : every.Nodup → ∀ node ∈ first, node ∈ second → node ∈ both

namespace Meets

variable {first second every both : List SyntaxNode}

theorem nil : Meets [] [] [] [] where
  first_subset := List.Subset.refl _
  second_subset := List.Subset.refl _
  mem_both := fun _ _ met _ => met

theorem append {firstRest secondRest everyRest bothRest : List SyntaxNode} (meets : Meets first second every both)
    (rest : Meets firstRest secondRest everyRest bothRest) :
    Meets (first ++ firstRest) (second ++ secondRest) (every ++ everyRest) (both ++ bothRest) where
  first_subset := List.append_subset.2 ⟨List.subset_append_of_subset_left _ meets.first_subset,List.subset_append_of_subset_right _ rest.first_subset⟩
  second_subset := List.append_subset.2
    ⟨List.subset_append_of_subset_left _ meets.second_subset,List.subset_append_of_subset_right _ rest.second_subset⟩
  mem_both := by
    intro distinct node inFirst inSecond
    obtain ⟨distinctHere,distinctRest,apart⟩ := List.nodup_append'.1 distinct
    rw [List.mem_append] at inFirst inSecond ⊢
    obtain inFirst | inFirst := inFirst
    · obtain inSecond | inSecond := inSecond
      · exact Or.inl (meets.mem_both distinctHere node inFirst inSecond)
      · exact absurd (rest.second_subset inSecond) (apart (meets.first_subset inFirst))
    · obtain inSecond | inSecond := inSecond
      · exact absurd (rest.first_subset inFirst) (apart (meets.second_subset inSecond))
      · exact Or.inr (rest.mem_both distinctRest node inFirst inSecond)

theorem cons (head : SyntaxNode) (meets : Meets first second every both) :
    Meets (head :: first) (head :: second) (head :: every) (head :: both) where
  first_subset := List.cons_subset_cons head meets.first_subset
  second_subset := List.cons_subset_cons head meets.second_subset
  mem_both := by
    intro distinct node inFirst inSecond
    obtain ⟨fresh,distinctRest⟩ := List.nodup_cons.1 distinct
    rw [List.mem_cons] at inFirst inSecond ⊢
    obtain rfl | inFirst := inFirst
    · exact Or.inl rfl
    · obtain rfl | inSecond := inSecond
      · exact Or.inl rfl
      · exact Or.inr (meets.mem_both distinctRest node inFirst inSecond)

theorem within {goes also together : Bool} (goesTogether : goes = true → also = true → together = true)
    (meets : Meets first second every both) :
    Meets (within goes first) (within also second) every (within together both) where
  first_subset := fun _ inFirst => meets.first_subset (mem_within.1 inFirst).2
  second_subset := fun _ inSecond => meets.second_subset (mem_within.1 inSecond).2
  mem_both := by
    intro distinct node inFirst inSecond
    rw [mem_within] at inFirst inSecond ⊢
    exact ⟨goesTogether inFirst.1 inSecond.1,meets.mem_both distinct node inFirst.2 inSecond.2⟩

theorem within_and {goes also : Bool} (meets : Meets first second every both) :
    Meets (Declarations.within goes first) (Declarations.within also second) every
      (Declarations.within (goes && also) both) :=
  meets.within fun goes also => Bool.and_eq_true_iff.2 ⟨goes,also⟩

theorem within_or {goes also condition : Bool} (meets : Meets first second every both) :
    Meets (Declarations.within (goes || condition) first) (Declarations.within (also || condition) second) every
      (Declarations.within (goes && also || condition) both) :=
  meets.within fun goes also => by
    rw [Bool.or_and_distrib_right,Bool.and_eq_true]
    exact ⟨goes,also⟩

end Meets

theorem visit_meets (first second : Visitor) {kind : TreeKind} (tree : Tree kind) :
    Meets (visit first tree) (visit second tree) (visit everything tree) (visit (first.meet second) tree) := by
  induction tree with
  | leaf | noArgument | noArm | noStatement | jumpStatement | empty | noClause | noCase | noCatch => exact .nil
  | operation _ _ operands => exact operands
  | binaryExpression _ _ _ left right => exact left.append right.within_or
  | memberAccessExpression _ previous => exact previous.within_and
  | invocationExpression _ _ _ previous reached others => exact (previous.within_and.append reached).append others.within_and
  | indexatorExpression _ _ previous arguments => exact arguments.append previous.within_and
  | objectExpression _ _ _ arraySize arguments => exact arraySize.within_or.append arguments.within_or
  | lambdaExpression _ _ body => exact body.within_and.cons _
  | switchExpression _ _ scrutinee arms => exact scrutinee.append arms
  | argument _ _ first rest => exact first.append rest
  | arm _ _ _ pattern value rest => exact (pattern.append value).within_or.append rest
  | expressionStatement _ value | throwStatement _ value => exact value
  | returnStatement _ _ value => exact value.within_or
  | variableStatement _ _ _ value => exact value.within_or.cons _
  | whileStatement _ _ condition body => exact condition.append body
  | forStatement _ _ _ _ initializer condition afterRepeat body =>
    exact ((initializer.append condition).append afterRepeat).append body
  | forEachStatement _ _ _ range body | forInStatement _ _ _ range body => exact (range.append body).cons _
  | conditionalStatement _ first => exact first
  | switchStatement _ _ scrutinee clauses => exact scrutinee.append clauses
  | tryStatement _ _ body clauses => exact body.append clauses
  | deferStatement _ statement => exact statement
  | cons _ _ first rest => exact first.append rest
  | conditionalClause _ _ _ condition body next => exact (condition.within_or.append body).append next
  | elseClause _ _ body next => exact body.append next
  | caseClause _ _ _ pattern body rest => exact (pattern.append body).append rest
  | catchClause _ _ _ _ body rest => exact (body.cons _).within_or.append rest

theorem kind_eq_lambda {visitor : Visitor} (stays : visitor.lambdaBodies = false) {kind : TreeKind} (tree : Tree kind)
    (isExpression : kind.isExpression = true) : ∀ node ∈ visit visitor tree, node.kind = .lambdaExpression := by
  induction tree with
  | leaf | noArgument | noArm => exact List.forall_mem_nil _
  | operation _ _ operands => exact operands rfl
  | binaryExpression _ _ _ left right =>
    exact List.forall_mem_append.2 ⟨left rfl,fun node mem => right rfl node (mem_within.1 mem).2⟩
  | memberAccessExpression _ previous => exact fun node mem => previous rfl node (mem_within.1 mem).2
  | invocationExpression _ _ _ previous reached others =>
    exact List.forall_mem_append.2 ⟨List.forall_mem_append.2 ⟨fun node mem => previous rfl node (mem_within.1 mem).2,
      reached rfl⟩,fun node mem => others rfl node (mem_within.1 mem).2⟩
  | indexatorExpression _ _ previous arguments =>
    exact List.forall_mem_append.2 ⟨arguments rfl,fun node mem => previous rfl node (mem_within.1 mem).2⟩
  | objectExpression _ _ _ arraySize arguments =>
    exact List.forall_mem_append.2 ⟨fun node mem => arraySize rfl node (mem_within.1 mem).2,
      fun node mem => arguments rfl node (mem_within.1 mem).2⟩
  | lambdaExpression _ body =>
    intro node mem
    rw [visit,stays,List.mem_cons] at mem
    obtain rfl | mem := mem
    · rfl
    · exact absurd mem List.not_mem_nil
  | switchExpression _ _ scrutinee arms => exact List.forall_mem_append.2 ⟨scrutinee rfl,arms rfl⟩
  | argument _ _ first rest => exact List.forall_mem_append.2 ⟨first rfl,rest rfl⟩
  | arm _ _ _ pattern value rest =>
    exact List.forall_mem_append.2
      ⟨fun node mem => List.forall_mem_append.2 ⟨pattern rfl,value rfl⟩ node (mem_within.1 mem).2,rest rfl⟩
  | _ => exact Bool.noConfusion isExpression

def Covered (nodes others : List SyntaxNode) : Prop := ∀ node ∈ nodes, node.kind = .lambdaExpression ∨ node ∈ others

namespace Covered

variable {nodes others : List SyntaxNode}

theorem nil : Covered [] others := List.forall_mem_nil _

theorem append {rest otherRest : List SyntaxNode} (covered : Covered nodes others) (coveredRest : Covered rest otherRest) :
    Covered (nodes ++ rest) (others ++ otherRest) := by
  intro node mem
  rw [List.mem_append] at mem ⊢
  obtain mem | mem := mem
  · exact (covered node mem).imp_right Or.inl
  · exact (coveredRest node mem).imp_right Or.inr

theorem cons (head : SyntaxNode) (covered : Covered nodes others) : Covered (head :: nodes) (head :: others) := by
  intro node mem
  rw [List.mem_cons] at mem ⊢
  obtain rfl | mem := mem
  · exact Or.inr (Or.inl rfl)
  · exact (covered node mem).imp_right Or.inr

theorem within {goes also : Bool} (below : goes = true → also = true) (covered : Covered nodes others) :
    Covered (within goes nodes) (within also others) := by
  intro node mem
  rw [mem_within] at mem ⊢
  exact (covered node mem.2).imp_right fun found => ⟨below mem.1,found⟩

end Covered

theorem visit_covered {first second : Visitor} (stays : first.lambdaBodies = false)
    (catches : first.namelessCatches = true → second.namelessCatches = true)
    (goesOn : first.goesOn = true → second.goesOn = true) {kind : TreeKind} (tree : Tree kind) :
    Covered (visit first tree) (visit second tree) := by
  induction tree with
  | leaf | noArgument | noArm | noStatement | jumpStatement | empty | noClause | noCase | noCatch => exact .nil
  | operation | binaryExpression | memberAccessExpression | invocationExpression | indexatorExpression | objectExpression
  | lambdaExpression | switchExpression | argument | arm =>
    exact fun node mem => Or.inl (kind_eq_lambda stays _ rfl node mem)
  | expressionStatement _ value | throwStatement _ value => exact value
  | returnStatement _ _ value => exact value.within (or_below goesOn)
  | variableStatement _ _ _ value => exact (value.within (or_below goesOn)).cons _
  | whileStatement _ _ condition body => exact condition.append body
  | forStatement _ _ _ _ initializer condition afterRepeat body =>
    exact ((initializer.append condition).append afterRepeat).append body
  | forEachStatement _ _ _ range body | forInStatement _ _ _ range body => exact (range.append body).cons _
  | conditionalStatement _ first => exact first
  | switchStatement _ _ scrutinee clauses => exact scrutinee.append clauses
  | tryStatement _ _ body clauses => exact body.append clauses
  | deferStatement _ statement => exact statement
  | cons _ _ first rest => exact first.append rest
  | conditionalClause _ _ _ condition body next => exact ((condition.within (or_below goesOn)).append body).append next
  | elseClause _ _ body next => exact body.append next
  | caseClause _ _ _ pattern body rest => exact (pattern.append body).append rest
  | catchClause _ _ _ _ body rest => exact ((body.cons _).within (or_below catches)).append rest

end ShardScript.Declarations
