import Mathlib.Data.Finset.Insert
import Mathlib.Logic.Function.Basic

/-! Symbols, the scopes that the semantic passes push over each other, the search for a name in them, and the check whether a
symbol is accessible. -/
namespace ShardScript.Binding

inductive SyntaxKind where
  | namespaceDeclaration
  | classDeclaration
  | structDeclaration
  | interfaceDeclaration
  | delegateDeclaration
  | enumDeclaration
  | fieldDeclaration
  | methodDeclaration
  | operatorDeclaration
  | constructorDeclaration
  | propertyDeclaration
  | accessorDeclaration
  | indexatorDeclaration
  | parameter
  | typeParameter
  | variableStatement
  deriving DecidableEq

inductive SymbolAccesibility where
  | acsPublic
  | acsPrivate
  deriving DecidableEq

inductive SymbolLinking where
  | linkStatic
  | linkInstance
  deriving DecidableEq

abbrev NamespacePath := List String

/-- What symbols are declared in and scopes are pushed for. A member of a type comes with that type. -/
inductive Owner where
  | namespaceDeclaration (path : NamespacePath)
  | compilationUnit (file : Nat)
  | type (definitionIndex : Nat)
  | member (definitionIndex : Nat) (type : Option Nat)
  deriving DecidableEq

structure SyntaxSymbol where
  definitionIndex : Nat
  kind : SyntaxKind
  name : String
  parent : Option Owner
  accesibility : SymbolAccesibility
  linking : SymbolLinking
  file : Option Nat
  deriving DecidableEq

def SyntaxSymbol.isType (symbol : SyntaxSymbol) : Bool :=
  [.classDeclaration,.structDeclaration,.interfaceDeclaration,.delegateDeclaration,.enumDeclaration,.typeParameter].contains
    symbol.kind

/-- The members are what `OnSymbolDeclared` has put there: types and methods, as the collector reports any other member. A
member can be there more than once. -/
structure NamespaceNode where
  path : NamespacePath
  fullName : String
  members : List SyntaxSymbol
  parent_eq : ∀ member ∈ members, member.parent = some (.namespaceDeclaration path)
  kind_eq : ∀ member ∈ members, member.isType = true ∨ member.kind = .methodDeclaration

def NamespaceNode.find (node : NamespaceNode) (name : String) : Option SyntaxSymbol :=
  node.members.find? fun member => member.name = name

structure SemanticScope where
  symbols : String → Option SyntaxSymbol
  owner : Option Owner
  namespaceNode : Option NamespaceNode
  importedNamespaces : Finset NamespacePath
  ambiguousNames : Finset String

namespace SemanticScope

def fresh (owner : Option Owner) (namespaceNode : Option NamespaceNode) : SemanticScope :=
  { symbols := fun _ => none, owner := owner, namespaceNode := namespaceNode, importedNamespaces := ∅, ambiguousNames := ∅ }

def find (scope : SemanticScope) (name : String) : Option SyntaxSymbol :=
  (scope.symbols name).or (scope.namespaceNode.bind fun node => node.find name)

def declareSymbol (scope : SemanticScope) (symbol : SyntaxSymbol) : Except String SemanticScope :=
  if scope.symbols symbol.name = some symbol then .error ("Symbol already defined: " ++ symbol.name)
  else .ok { scope with symbols := Function.update scope.symbols symbol.name (some symbol) }

end SemanticScope

abbrev Scopes := List SemanticScope

def lookup (scopes : Scopes) (name : String) : Option SyntaxSymbol :=
  scopes.findSome? fun scope => scope.find name

def isAmbiguousName (scopes : Scopes) (name : String) : Bool :=
  scopes.any fun scope => name ∈ scope.ambiguousNames

theorem lookup_cons (scope : SemanticScope) (scopes : Scopes) (name : String) :
    lookup (scope :: scopes) name = (scope.find name).or (lookup scopes name) := by
  rw [lookup,List.findSome?_cons]
  cases scope.find name <;> rfl

theorem lookup_append (inner scopes : Scopes) (name : String) :
    lookup (inner ++ scopes) name = (lookup inner name).or (lookup scopes name) :=
  List.findSome?_append

/-- Both files come from the nodes. A null pointer among the files is not equal to the file of the call site. -/
def isSymbolAccessible (scopes : Scopes) (callSite : Nat) (symbol : SyntaxSymbol) : Except String Bool :=
  if symbol.kind = .namespaceDeclaration then .ok true
  else if symbol.accesibility = .acsPublic then .ok true
  else match symbol.parent with
    | none => .error "Cannot resolve symbol without parent"
    | some (.namespaceDeclaration _) => .ok (symbol.file = some callSite)
    | some (.compilationUnit _) => .ok (symbol.file = some callSite)
    | some parent => .ok (scopes.any fun scope => scope.owner = some parent)

theorem isSymbolAccessible_congr {scopes other : Scopes} (same : scopes.map SemanticScope.owner = other.map SemanticScope.owner)
    (callSite : Nat) (symbol : SyntaxSymbol) :
    isSymbolAccessible scopes callSite symbol = isSymbolAccessible other callSite symbol := by
  have owners (parent : Owner) : (scopes.any fun scope => scope.owner = some parent) =
      other.any fun scope => scope.owner = some parent := by
    have mapped := congrArg (fun owners => owners.any fun owner => owner = some parent) same
    rw [List.any_map,List.any_map] at mapped
    exact mapped
  rw [isSymbolAccessible,isSymbolAccessible]
  simp only [owners]

end ShardScript.Binding
