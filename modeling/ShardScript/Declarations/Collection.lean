import Mathlib.Data.List.Range
import ShardScript.Declarations.Visitor

/-! The symbols and the frame slots that `DeclarationCollector` gives to the nodes of a body, and what the binders come to. -/
namespace ShardScript.Declarations

structure DeclaredSymbol where
  node : SyntaxNode
  slotIndex : Option Nat
  deriving DecidableEq

def uint16 (value : Nat) : Nat := value % 65536

def getEvalStackArgumentsCount (isStatic : Bool) (parameters : Nat) : Nat :=
  if isStatic then uint16 parameters else uint16 (uint16 parameters + 1)

/-- The slots that `ExpressionBinder` gives to `this` and to the parameters, before it visits the body. -/
def parameterSlots (isStatic : Bool) (parameters : Nat) : List Nat :=
  if isStatic then (List.range parameters).map uint16
  else 0 :: (List.range parameters).map fun counter => uint16 (counter + 1)

/-- The symbols of the nodes that the collector comes to in a method. The number is `EvalStackVariablesCount`. -/
def declareAll (argumentsCount : Nat) : Nat → List SyntaxNode → List DeclaredSymbol
  | _,[] => []
  | variablesCount,node :: nodes =>
      if node.kind = .lambdaExpression then ⟨node,none⟩ :: declareAll argumentsCount variablesCount nodes
      else ⟨node,some (uint16 (argumentsCount + variablesCount))⟩ ::
        declareAll argumentsCount (uint16 (variablesCount + 1)) nodes

/-- Constructors and operators are methods, a method without a body has an empty one, and an indexer is a property without an
initializer. A method outside of types is static. -/
inductive Member where
  | field (initializer : Tree .expression)
  | method (isStatic : Bool) (parameters : Nat) (body : Tree .block)
  | property (initializer : Tree .expression) (getter setter : Tree .block)

namespace Member

def visit (visitor : Visitor) : Member → List SyntaxNode
  | field initializer => Declarations.visit visitor initializer
  | method _ _ body => Declarations.visit visitor body
  | property initializer getter setter =>
      within visitor.propertyInitializers (Declarations.visit visitor initializer) ++
        within visitor.accessorBodies (Declarations.visit visitor getter ++ Declarations.visit visitor setter)

def symbols : Member → List DeclaredSymbol
  | method isStatic parameters body =>
      declareAll (getEvalStackArgumentsCount isStatic parameters) 0 (Declarations.visit declarationCollector body)
  | member => (member.visit declarationCollector).map fun node => ⟨node,none⟩

def slots : Member → List Nat
  | method isStatic parameters body =>
      parameterSlots isStatic parameters ++ (method isStatic parameters body).symbols.filterMap DeclaredSymbol.slotIndex
  | _ => []

def variableNodes (member : Member) : List SyntaxNode :=
  (member.visit declarationCollector).filter fun node => node.kind ≠ .lambdaExpression

def Fits : Member → Prop
  | method isStatic parameters body =>
      (method isStatic parameters body).variableNodes = [] ∨
        (parameters + if isStatic then 0 else 1) + (method isStatic parameters body).variableNodes.length ≤ 65536
  | _ => True

end Member

/-- The members of all types of a program, and the methods outside of them. The nodes are objects, with an address each. The
initializers of an enum are left out: the collector reports those that are no literals. -/
structure Program where
  members : List Member
  distinct : (members.flatMap (Member.visit everything)).Nodup
  isCollected : Bool
  isTypeBound : Bool

namespace Program

variable (program : Program)

def lookupSymbol (node : SyntaxNode) : Option DeclaredSymbol :=
  (program.members.flatMap Member.symbols).find? fun symbol => symbol.node = node

/-- The nodes that a binder comes to, and whether it throws in the end. It throws "symbol not found" at a variable statement. -/
def walk : List SyntaxNode → List SyntaxNode × Bool
  | [] => ([],false)
  | node :: nodes =>
      if node.kind = .variableStatement ∧ program.lookupSymbol node = none then ([node],true)
      else (node :: (walk nodes).1,(walk nodes).2)

def walkOf (visitor : Visitor) : List SyntaxNode × Bool := program.walk (program.members.flatMap (Member.visit visitor))

/-- `SemanticAnalyzer::Analyze`, as far as the binders: what they come to, and whether they throw. -/
def analyze : List SyntaxNode × Bool :=
  if program.isCollected then
    if (program.walkOf typeBinder).2 || !program.isTypeBound then program.walkOf typeBinder
    else ((program.walkOf typeBinder).1 ++ (program.walkOf expressionBinder).1,(program.walkOf expressionBinder).2)
  else ([],false)

/-- The node has a symbol, and where that is a variable, a slot that no other variable and no parameter of the method is in. -/
def IsDeclared (node : SyntaxNode) : Prop :=
  ∃ member ∈ program.members, ∃ symbol ∈ member.symbols, symbol.node = node ∧
    ∀ slot ∈ symbol.slotIndex, member.slots.count slot = 1

def IsComplete : Prop := program.analyze.2 = false ∧ ∀ node ∈ program.analyze.1, program.IsDeclared node

end Program

/-- The same pass, if it did not go into lambdas, accessors, catch clauses without a name, and what is in front of an indexer. -/
def Visitor.confined (visitor : Visitor) : Visitor :=
  { visitor with indexatorReceivers := false, lambdaBodies := false, namelessCatches := false, accessorBodies := false }

def Program.IsPlain (program : Program) : Prop :=
  program.isCollected = true →
    (∀ member ∈ program.members, member.visit typeBinder = member.visit typeBinder.confined ∧ member.Fits) ∧
      (program.isTypeBound = true →
        ∀ member ∈ program.members, member.visit expressionBinder = member.visit expressionBinder.confined)

end ShardScript.Declarations
