import ShardScript.Binding.Scope

/-! The variables that a closure is built with. A collector with scopes of its own goes through the body of the lambda expression
before the binder does, whose scopes decide what a name stands for. -/
namespace ShardScript.Binding.Captures

inductive SyntaxNode where
  | empty
  | parts (first rest : SyntaxNode)
  | statements (first rest : SyntaxNode)
  | variableStatement (identifier : String) (expression : SyntaxNode)
  | forEachStatement (identifier : String) (range statementsBlock : SyntaxNode)
  | catchClause (identifier : String) (body : SyntaxNode)
  | anonymousCatchClause (body : SyntaxNode)
  | isPatternClause (identifier : String) (body : SyntaxNode)
  | isPatternArm (identifier : String) (expression : SyntaxNode)
  | arm (pattern expression : SyntaxNode)
  | memberAccess (identifier : String)
  /-- A member access, an invocation or an indexator whose `PreviousExpression` is not a namespace. -/
  | previousExpression (previous arguments : SyntaxNode)
  /-- The invocation of a delegate by the name of the variable that holds it. -/
  | delegateInvocation (identifier : String) (arguments : SyntaxNode)
  | lambdaExpression (parameters : List String) (body : SyntaxNode)

namespace SyntaxNode

section Kinds

def ofParts (parts : List SyntaxNode) : SyntaxNode := parts.foldr .parts .empty

def statementsBlock (block : List SyntaxNode) : SyntaxNode := block.foldr .statements .empty

def forInStatement (identifier : String) (range statementsBlock : SyntaxNode) : SyntaxNode :=
  .forEachStatement identifier range statementsBlock

def forStatement (initializer condition afterRepeat statementsBlock : SyntaxNode) : SyntaxNode :=
  ofParts [initializer,condition,afterRepeat,statementsBlock]

def whileStatement (condition statementsBlock : SyntaxNode) : SyntaxNode := ofParts [condition,statementsBlock]

def conditionalClause (condition statementsBlock nextStatement : SyntaxNode) : SyntaxNode :=
  ofParts [condition,statementsBlock,nextStatement]

variable (expression : SyntaxNode)

def expressionStatement : SyntaxNode := ofParts [expression]

def deferStatement (statement : SyntaxNode) : SyntaxNode := ofParts [statement]

def tryStatement (tryBlock : SyntaxNode) (catchClauses : List SyntaxNode) : SyntaxNode := ofParts (tryBlock :: catchClauses)

def switchStatement (clauses : List SyntaxNode) : SyntaxNode := ofParts (expression :: clauses)

def switchExpression (arms : List SyntaxNode) : SyntaxNode := ofParts (expression :: arms)

def binaryExpression (left right : SyntaxNode) : SyntaxNode := ofParts [left,right]

def unaryExpression : SyntaxNode := ofParts [expression]

def ternaryExpression (condition left right : SyntaxNode) : SyntaxNode := ofParts [condition,left,right]

/-- The values of a collection, the arguments of a constructor, of a method without a receiver or of one in a namespace. -/
def argumentsList (arguments : List SyntaxNode) : SyntaxNode := ofParts arguments

end Kinds

def variableName : SyntaxNode → List String
  | .variableStatement identifier _ => [identifier]
  | _ => []

/-- What the binder leaves declared in the current scope. Blocks have no scope of their own. -/
def declared : SyntaxNode → List String
  | .parts first rest => first.declared ++ rest.declared
  | .statements first rest => first.declared ++ rest.declared
  | .variableStatement identifier _ => [identifier]
  -- It is declared before the scope of the loop is pushed.
  | .forEachStatement identifier _ _ => [identifier]
  | .anonymousCatchClause body => body.declared
  | _ => []

theorem variableName_subset (node : SyntaxNode) : node.variableName ⊆ node.declared := by
  cases node with
  | variableStatement identifier expression => exact List.Subset.refl _
  | _ => exact List.nil_subset _

end SyntaxNode

open SyntaxNode

@[grind] def LambdaCaptureCollector.visit : SyntaxNode → List String → List String
  | .empty, _ => []
  | .parts first rest, locals => visit first locals ++ visit rest locals
  | .statements first rest, locals => visit first locals ++ visit rest (first.variableName ++ locals)
  | .variableStatement _ expression, locals => visit expression locals
  | .forEachStatement identifier range statementsBlock, locals =>
      visit range locals ++ visit statementsBlock (identifier :: locals)
  | .catchClause identifier body, locals => visit body (identifier :: locals)
  | .anonymousCatchClause _, _ => []
  | .isPatternClause _ body, locals => visit body locals
  | .isPatternArm identifier expression, locals => visit expression (identifier :: locals)
  | .arm _ expression, locals => visit expression locals
  | .memberAccess identifier, locals => if identifier ∈ locals then [] else [identifier]
  | .previousExpression _ arguments, locals => visit arguments locals
  | .delegateInvocation _ arguments, locals => visit arguments locals
  -- Stop at nested lambdas; they perform their own capture analysis.
  | .lambdaExpression _ _, _ => []

/-- The names that are found in the scopes around the lambda expression, from the names that are declared inside of it. -/
@[grind] def ExpressionBinder.visit : SyntaxNode → List String → List String
  | .empty, _ => []
  | .parts first rest, inside => visit first inside ++ visit rest (first.declared ++ inside)
  | .statements first rest, inside => visit first inside ++ visit rest (first.declared ++ inside)
  | .variableStatement identifier expression, inside => visit expression (identifier :: inside)
  | .forEachStatement identifier range statementsBlock, inside =>
      visit range inside ++ visit statementsBlock (identifier :: inside)
  | .catchClause identifier body, inside => visit body (identifier :: inside)
  | .anonymousCatchClause body, inside => visit body inside
  | .isPatternClause identifier body, inside => visit body (identifier :: inside)
  | .isPatternArm identifier expression, inside => visit expression (identifier :: inside)
  | .arm pattern expression, inside => visit pattern inside ++ visit expression inside
  | .memberAccess identifier, inside => if identifier ∈ inside then [] else [identifier]
  | .previousExpression previous arguments, inside => visit previous inside ++ visit arguments inside
  | .delegateInvocation identifier arguments, inside =>
      (if identifier ∈ inside then [] else [identifier]) ++ visit arguments inside
  | .lambdaExpression parameters body, inside => visit body (parameters ++ inside)

structure Occurrence where
  identifier : String
  visited : Bool
  isLocal : Bool
  isInside : Bool
  deriving DecidableEq

namespace Occurrence

def ofIdentifier (identifier : String) (visited : Bool) (locals inside : List String) : Occurrence :=
  { identifier := identifier
    visited := visited
    isLocal := decide (identifier ∈ locals)
    isInside := decide (identifier ∈ inside) }

def isCollected (occurrence : Occurrence) : Bool := occurrence.visited && !occurrence.isLocal

end Occurrence

@[grind] def SyntaxNode.occurrences : SyntaxNode → Bool → List String → List String → List Occurrence
  | .empty, _, _, _ => []
  | .parts first rest, visited, locals, inside =>
      first.occurrences visited locals inside ++ rest.occurrences visited locals (first.declared ++ inside)
  | .statements first rest, visited, locals, inside =>
      first.occurrences visited locals inside ++
        rest.occurrences visited (first.variableName ++ locals) (first.declared ++ inside)
  | .variableStatement identifier expression, visited, locals, inside =>
      expression.occurrences visited locals (identifier :: inside)
  | .forEachStatement identifier range statementsBlock, visited, locals, inside =>
      range.occurrences visited locals inside ++
        statementsBlock.occurrences visited (identifier :: locals) (identifier :: inside)
  | .catchClause identifier body, visited, locals, inside =>
      body.occurrences visited (identifier :: locals) (identifier :: inside)
  | .anonymousCatchClause body, _, locals, inside => body.occurrences false locals inside
  | .isPatternClause identifier body, visited, locals, inside => body.occurrences visited locals (identifier :: inside)
  | .isPatternArm identifier expression, visited, locals, inside =>
      expression.occurrences visited (identifier :: locals) (identifier :: inside)
  | .arm pattern expression, visited, locals, inside =>
      pattern.occurrences false locals inside ++ expression.occurrences visited locals inside
  | .memberAccess identifier, visited, locals, inside => [.ofIdentifier identifier visited locals inside]
  | .previousExpression previous arguments, visited, locals, inside =>
      previous.occurrences false locals inside ++ arguments.occurrences visited locals inside
  | .delegateInvocation identifier arguments, visited, locals, inside =>
      .ofIdentifier identifier false locals inside :: arguments.occurrences visited locals inside
  | .lambdaExpression parameters body, _, locals, inside => body.occurrences false locals (parameters ++ inside)

section Occurrences

open Occurrence

theorem occurrences_forall (invariant : Bool → List String → List String → Prop) (property : Occurrence → Prop)
    (place : ∀ identifier visited locals inside, invariant visited locals inside →
      property (ofIdentifier identifier visited locals inside))
    (passed : ∀ visited locals inside, invariant visited locals inside → invariant false locals inside)
    (entered : ∀ visited locals inside new names, new ⊆ names → invariant visited locals inside →
      invariant visited (new ++ locals) (names ++ inside))
    (node : SyntaxNode) (visited : Bool) (locals inside : List String) (holds : invariant visited locals inside) :
    ∀ occurrence ∈ node.occurrences visited locals inside, property occurrence := by
  have both (identifier : String) (visited : Bool) (locals inside : List String) (holds : invariant visited locals inside) :
      invariant visited (identifier :: locals) (identifier :: inside) :=
    entered visited locals inside [identifier] [identifier] (List.Subset.refl _) holds
  have unknown (names : List String) (visited : Bool) (locals inside : List String) (holds : invariant visited locals inside) :
      invariant visited locals (names ++ inside) :=
    entered visited locals inside [] names (List.nil_subset _) holds
  induction node generalizing visited locals inside with
  | empty => exact List.forall_mem_nil _
  | parts first rest first_ih rest_ih =>
    exact List.forall_mem_append.mpr ⟨first_ih _ _ _ holds,rest_ih _ _ _ (unknown _ _ _ _ holds)⟩
  | statements first rest first_ih rest_ih =>
    exact List.forall_mem_append.mpr ⟨first_ih _ _ _ holds,
      rest_ih _ _ _ (entered _ _ _ _ _ (variableName_subset first) holds)⟩
  | variableStatement identifier expression ih => exact ih _ _ _ (unknown [identifier] _ _ _ holds)
  | forEachStatement identifier range statementsBlock range_ih block_ih =>
    exact List.forall_mem_append.mpr ⟨range_ih _ _ _ holds,block_ih _ _ _ (both _ _ _ _ holds)⟩
  | catchClause identifier body ih => exact ih _ _ _ (both _ _ _ _ holds)
  | anonymousCatchClause body ih => exact ih _ _ _ (passed _ _ _ holds)
  | isPatternClause identifier body ih => exact ih _ _ _ (unknown [identifier] _ _ _ holds)
  | isPatternArm identifier expression ih => exact ih _ _ _ (both _ _ _ _ holds)
  | arm pattern expression pattern_ih expression_ih =>
    exact List.forall_mem_append.mpr ⟨pattern_ih _ _ _ (passed _ _ _ holds),expression_ih _ _ _ holds⟩
  | memberAccess identifier => exact List.forall_mem_singleton.mpr (place _ _ _ _ holds)
  | previousExpression previous arguments previous_ih arguments_ih =>
    exact List.forall_mem_append.mpr ⟨previous_ih _ _ _ (passed _ _ _ holds),arguments_ih _ _ _ holds⟩
  | delegateInvocation identifier arguments ih =>
    exact List.forall_mem_cons.mpr ⟨place _ _ _ _ (passed _ _ _ holds),ih _ _ _ holds⟩
  | lambdaExpression parameters body ih => exact ih _ _ _ (unknown _ _ _ _ (passed _ _ _ holds))

theorem not_visited (node : SyntaxNode) (locals inside : List String) :
    ∀ occurrence ∈ node.occurrences false locals inside, occurrence.visited = false := by
  apply occurrences_forall fun visited _ _ => visited = false
  · intro identifier visited locals inside passed
    exact passed
  · intro visited locals inside passed
    rfl
  · intro visited locals inside new names subset passed
    exact passed
  · rfl

theorem isInside_of_isLocal (node : SyntaxNode) (visited : Bool) (locals inside : List String) (known : locals ⊆ inside) :
    ∀ occurrence ∈ node.occurrences visited locals inside, occurrence.isLocal = true → occurrence.isInside = true := by
  refine occurrences_forall (fun _ locals inside => locals ⊆ inside) _ ?_ ?_ ?_ node visited locals inside known
  · intro identifier visited locals inside known isLocal
    exact decide_eq_true (known (of_decide_eq_true isLocal))
  · intro visited locals inside known
    exact known
  · intro visited locals inside new names subset known
    exact List.append_subset.mpr ⟨List.subset_append_of_subset_left _ subset,List.subset_append_of_subset_right _ known⟩

theorem not_collected (node : SyntaxNode) (locals inside : List String) :
    (node.occurrences false locals inside).filter isCollected = [] := by
  rw [List.filter_eq_nil_iff]
  intro occurrence member
  rw [isCollected,not_visited node locals inside occurrence member]
  exact Bool.false_ne_true

theorem collector_visit (node : SyntaxNode) (locals inside : List String) :
    LambdaCaptureCollector.visit node locals =
      ((node.occurrences true locals inside).filter isCollected).map Occurrence.identifier := by
  induction node generalizing locals inside with
  | empty => rfl
  | parts first rest first_ih rest_ih =>
    rw [LambdaCaptureCollector.visit,occurrences,List.filter_append,List.map_append,← first_ih,← rest_ih]
  | statements first rest first_ih rest_ih =>
    rw [LambdaCaptureCollector.visit,occurrences,List.filter_append,List.map_append,← first_ih,← rest_ih]
  | variableStatement identifier expression ih => exact ih _ _
  | forEachStatement identifier range statementsBlock range_ih block_ih =>
    rw [LambdaCaptureCollector.visit,occurrences,List.filter_append,List.map_append,← range_ih,← block_ih]
  | catchClause identifier body ih => exact ih _ _
  | anonymousCatchClause body ih => rw [LambdaCaptureCollector.visit,occurrences,not_collected,List.map_nil]
  | isPatternClause identifier body ih => exact ih _ _
  | isPatternArm identifier expression ih => exact ih _ _
  | arm pattern expression pattern_ih expression_ih =>
    rw [LambdaCaptureCollector.visit,occurrences,List.filter_append,not_collected,List.nil_append,← expression_ih]
  | memberAccess identifier =>
    by_cases known : identifier ∈ locals
    · simp [LambdaCaptureCollector.visit,occurrences,ofIdentifier,isCollected,known]
    · simp [LambdaCaptureCollector.visit,occurrences,ofIdentifier,isCollected,known]
  | previousExpression previous arguments previous_ih arguments_ih =>
    rw [LambdaCaptureCollector.visit,occurrences,List.filter_append,not_collected,List.nil_append,← arguments_ih]
  | delegateInvocation identifier arguments ih =>
    rw [LambdaCaptureCollector.visit,occurrences,List.filter_cons_of_neg Bool.false_ne_true,← ih]
  | lambdaExpression parameters body ih => rw [LambdaCaptureCollector.visit,occurrences,not_collected,List.map_nil]

theorem binder_visit (node : SyntaxNode) (visited : Bool) (locals inside : List String) :
    ExpressionBinder.visit node inside =
      ((node.occurrences visited locals inside).filter fun occurrence => !occurrence.isInside).map Occurrence.identifier := by
  induction node generalizing visited locals inside with
  | empty => rfl
  | parts first rest first_ih rest_ih =>
    rw [ExpressionBinder.visit,occurrences,List.filter_append,List.map_append,← first_ih,← rest_ih]
  | statements first rest first_ih rest_ih =>
    rw [ExpressionBinder.visit,occurrences,List.filter_append,List.map_append,← first_ih,← rest_ih]
  | variableStatement identifier expression ih => exact ih _ _ _
  | forEachStatement identifier range statementsBlock range_ih block_ih =>
    rw [ExpressionBinder.visit,occurrences,List.filter_append,List.map_append,← range_ih,← block_ih]
  | catchClause identifier body ih => exact ih _ _ _
  | anonymousCatchClause body ih => exact ih _ _ _
  | isPatternClause identifier body ih => exact ih _ _ _
  | isPatternArm identifier expression ih => exact ih _ _ _
  | arm pattern expression pattern_ih expression_ih =>
    rw [ExpressionBinder.visit,occurrences,List.filter_append,List.map_append,← pattern_ih,← expression_ih]
  | memberAccess identifier =>
    by_cases known : identifier ∈ inside
    · simp [ExpressionBinder.visit,occurrences,ofIdentifier,known]
    · simp [ExpressionBinder.visit,occurrences,ofIdentifier,known]
  | previousExpression previous arguments previous_ih arguments_ih =>
    rw [ExpressionBinder.visit,occurrences,List.filter_append,List.map_append,← previous_ih,← arguments_ih]
  | delegateInvocation identifier arguments ih =>
    rw [ExpressionBinder.visit,ih visited locals inside]
    by_cases known : identifier ∈ inside
    · simp [occurrences,ofIdentifier,known]
    · simp [occurrences,ofIdentifier,known]
  | lambdaExpression parameters body ih => exact ih _ _ _

end Occurrences

structure LambdaExpression where
  isAsync : Bool
  parameters : List String
  body : SyntaxNode

def outerVariable (outer : Scopes) (name : String) : Option SyntaxSymbol :=
  if name = "this" then none
  else (lookup outer name).filter fun symbol => symbol.kind = .variableStatement ∨ symbol.kind = .parameter

namespace LambdaExpression

variable (outer : Scopes) (lambda : LambdaExpression)

def captures : List SyntaxSymbol :=
  (LambdaCaptureCollector.visit lambda.body lambda.parameters).filterMap (outerVariable outer)

/-- The variables that the closure is built with. No closure is built for an asynchronous lambda expression. -/
def captureFields : List SyntaxSymbol := if lambda.isAsync then [] else lambda.captures outer

/-- The variables around the lambda expression that the binder finds in it, and in those nested in it. -/
def outerUses : List SyntaxSymbol :=
  (ExpressionBinder.visit lambda.body lambda.parameters).filterMap (outerVariable outer)

def occurrences : List Occurrence :=
  lambda.body.occurrences (!lambda.isAsync) lambda.parameters lambda.parameters

def Reached : Prop :=
  ∀ occurrence ∈ lambda.occurrences, occurrence.visited = false → occurrence.isInside = false →
    ∀ symbol, outerVariable outer occurrence.identifier = some symbol →
      ∃ other ∈ lambda.occurrences, other.isCollected = true ∧ outerVariable outer other.identifier = some symbol

/-- A variable that is hidden where the collector does not know it is named where it is not hidden as well. -/
def Told : Prop :=
  ∀ occurrence ∈ lambda.occurrences, occurrence.isCollected = true → occurrence.isInside = true →
    ∀ symbol, outerVariable outer occurrence.identifier = some symbol →
      ∃ other ∈ lambda.occurrences, other.isInside = false ∧ outerVariable outer other.identifier = some symbol

theorem mem_filterMap_map (identifiers : List Occurrence) (chosen : Occurrence → Bool) (symbol : SyntaxSymbol) :
    symbol ∈ ((identifiers.filter chosen).map Occurrence.identifier).filterMap (outerVariable outer) ↔
      ∃ occurrence ∈ identifiers, chosen occurrence = true ∧ outerVariable outer occurrence.identifier = some symbol := by
  simp only [List.mem_filterMap,List.mem_map,List.mem_filter]
  constructor
  · rintro ⟨_,⟨occurrence,⟨member,holds⟩,rfl⟩,found⟩
    exact ⟨occurrence,member,holds,found⟩
  · rintro ⟨occurrence,member,holds,found⟩
    exact ⟨_,⟨occurrence,⟨member,holds⟩,rfl⟩,found⟩

theorem mem_captureFields (symbol : SyntaxSymbol) :
    symbol ∈ lambda.captureFields outer ↔
      ∃ occurrence ∈ lambda.occurrences,
        occurrence.isCollected = true ∧ outerVariable outer occurrence.identifier = some symbol := by
  rw [captureFields,occurrences]
  cases lambda.isAsync with
  | false =>
    rw [if_neg Bool.false_ne_true,captures,collector_visit _ _ lambda.parameters]
    exact mem_filterMap_map outer _ _ symbol
  | true =>
    rw [if_pos rfl]
    constructor
    · intro member
      cases member
    · rintro ⟨occurrence,member,collected,_⟩
      rw [Occurrence.isCollected,not_visited _ _ _ occurrence member] at collected
      cases collected

theorem mem_outerUses (symbol : SyntaxSymbol) :
    symbol ∈ lambda.outerUses outer ↔
      ∃ occurrence ∈ lambda.occurrences,
        occurrence.isInside = false ∧ outerVariable outer occurrence.identifier = some symbol := by
  rw [outerUses,binder_visit _ (!lambda.isAsync) lambda.parameters,mem_filterMap_map]
  simp only [Bool.not_eq_true']
  rfl

theorem isInside_false (occurrence : Occurrence) (member : occurrence ∈ lambda.occurrences) (outside : occurrence.isInside = false) :
    occurrence.isLocal = false := by
  cases known : occurrence.isLocal with
  | false => rfl
  | true =>
    have inside := isInside_of_isLocal _ _ _ _ (List.Subset.refl _) occurrence member known
    rw [outside] at inside
    cases inside

theorem complete_iff : (∀ symbol ∈ lambda.outerUses outer, symbol ∈ lambda.captureFields outer) ↔ lambda.Reached outer := by
  constructor
  · intro complete occurrence member unvisited outside symbol found
    apply (mem_captureFields outer lambda symbol).mp
    apply complete
    exact (mem_outerUses outer lambda symbol).mpr ⟨occurrence,member,outside,found⟩
  · intro reached symbol used
    apply (mem_captureFields outer lambda symbol).mpr
    obtain ⟨occurrence,member,outside,found⟩ := (mem_outerUses outer lambda symbol).mp used
    cases visited : occurrence.visited with
    | false => exact reached occurrence member visited outside symbol found
    | true =>
      refine ⟨occurrence,member,?_,found⟩
      rw [Occurrence.isCollected,visited,isInside_false lambda occurrence member outside]
      rfl

theorem exact_iff : (∀ symbol ∈ lambda.captureFields outer, symbol ∈ lambda.outerUses outer) ↔ lambda.Told outer := by
  constructor
  · intro precise occurrence member collected inside symbol found
    apply (mem_outerUses outer lambda symbol).mp
    apply precise
    exact (mem_captureFields outer lambda symbol).mpr ⟨occurrence,member,collected,found⟩
  · intro told symbol captured
    apply (mem_outerUses outer lambda symbol).mpr
    obtain ⟨occurrence,member,collected,found⟩ := (mem_captureFields outer lambda symbol).mp captured
    cases inside : occurrence.isInside with
    | false => exact ⟨occurrence,member,inside,found⟩
    | true => exact told occurrence member collected inside symbol found

theorem captureFields_exact_iff :
    (∀ symbol, symbol ∈ lambda.captureFields outer ↔ symbol ∈ lambda.outerUses outer) ↔
      lambda.Reached outer ∧ lambda.Told outer := by
  rw [← complete_iff,← exact_iff]
  constructor
  · intro same
    exact ⟨fun symbol => (same symbol).mpr,fun symbol => (same symbol).mp⟩
  · intro both symbol
    exact ⟨both.2 symbol,both.1 symbol⟩

end LambdaExpression

section Examples

def variableSymbol (name : String) : SyntaxSymbol :=
  { definitionIndex := 0, kind := .variableStatement, name := name, parent := none, accesibility := .acsPublic,
    linking := .linkInstance, file := none }

def scopeOf (symbol : SyntaxSymbol) : SemanticScope :=
  { SemanticScope.fresh none none with symbols := Function.update (fun _ => none) symbol.name (some symbol) }

def pointLambda : LambdaExpression :=
  { isAsync := false
    parameters := []
    body := statementsBlock [expressionStatement (.previousExpression (.memberAccess "point") .empty)] }

def countLambda : LambdaExpression :=
  { isAsync := false
    parameters := []
    body := statementsBlock [forStatement (.variableStatement "i" .empty)
      (binaryExpression (.memberAccess "i") .empty)
      (binaryExpression (.memberAccess "i") (binaryExpression (.memberAccess "i") .empty))
      (statementsBlock [])] }

/-- A receiver is not captured, a counter of the same name as a variable around the lambda expression is. -/
theorem receiver_not_captured :
    (variableSymbol "point" ∈ pointLambda.outerUses [scopeOf (variableSymbol "point")] ∧
      variableSymbol "point" ∉ pointLambda.captureFields [scopeOf (variableSymbol "point")]) ∧
      variableSymbol "i" ∈ countLambda.captureFields [scopeOf (variableSymbol "i")] ∧
      variableSymbol "i" ∉ countLambda.outerUses [scopeOf (variableSymbol "i")] := by
  decide

end Examples

end ShardScript.Binding.Captures
