import ShardScript.Binding.Imports

/-! The scopes of a compilation unit, and what an identifier in it stands for as a type, as a receiver and in a call. -/
namespace ShardScript.Binding

def unitOwner (file : Nat) : Option (SyntaxSymbol × NamespacePath) → Owner
  | none => .compilationUnit file
  | some (_,path) => .namespaceDeclaration path

structure CompilationUnit where
  file : Nat
  usings : List (List String)
  /-- The symbol of the namespace that the unit declares, and its `Node`. -/
  namespaceSymbol : Option (SyntaxSymbol × NamespacePath)
  members : List SyntaxSymbol
  namespace_kind : ∀ symbol path, namespaceSymbol = some (symbol,path) → symbol.kind = .namespaceDeclaration
  members_nodup : members.Nodup
  member_parent : ∀ member ∈ members, member.parent = some (unitOwner file namespaceSymbol)

namespace CompilationUnit

def withUsings (unit : CompilationUnit) (usings : List (List String)) : CompilationUnit := { unit with usings := usings }

end CompilationUnit

section Passes

variable (project : Project) (unit : CompilationUnit) (top : SemanticScope)

def declareAll (scope : SemanticScope) (members : List SyntaxSymbol) : Except String SemanticScope :=
  members.foldlM SemanticScope.declareSymbol scope

def declareNamespace (declaresNamespace : Bool) (scope : SemanticScope) (symbol : SyntaxSymbol) : Except String SemanticScope :=
  if declaresNamespace then scope.declareSymbol symbol else .ok scope

/-- The scopes that the members of a unit are visited in. Whether its namespace is declared in the unit's scope is where the two
passes differ. -/
def visitCompilationUnit (declaresNamespace : Bool) : Except String Scopes := do
  let state ← visitUsings project unit.usings
  match unit.namespaceSymbol with
  | none =>
      let scope ← declareAll state.scope unit.members
      return [scope,top]
  | some (symbol,path) =>
      let scope ← declareNamespace declaresNamespace state.scope symbol
      -- `OnSymbolDeclared` puts the members among those of the namespace once more, which no lookup can tell.
      let inner ← declareAll (.fresh (unitOwner unit.file unit.namespaceSymbol) (project.namespaces.node path)) unit.members
      return [inner,scope,top]

def TypeBinder.visitCompilationUnit : Except String Scopes := Binding.visitCompilationUnit project unit top true

def ExpressionBinder.visitCompilationUnit : Except String Scopes := Binding.visitCompilationUnit project unit top false

end Passes

inductive Outcome where
  | keyword
  | qualifier
  | bound (symbol : SyntaxSymbol)
  | ambiguous (message : String)
  | error (message : String)
  | thrown (message : String)
  deriving DecidableEq

structure Call where
  ownerMethods : Option (List SyntaxSymbol)
  ownerAccepts : SyntaxSymbol → Bool
  accepts : SyntaxSymbol → Bool
  explicitMethodTypeArgs : Bool
  /-- `AnonymousSymbol` of the delegate type of a variable, a parameter or a field. -/
  delegateOf : SyntaxSymbol → Option SyntaxSymbol
  argumentList : String
  delegate_parent : ∀ symbol method path, delegateOf symbol = some method → method.parent ≠ some (.namespaceDeclaration path)

inductive Use where
  | typeName
  | typeExpression
  /-- A name without a previous expression. The value is that of the name in the enumeration that the context expects, and
  what is invoked on the receiver may be a member of a namespace. -/
  | receiver (enumValue : Option SyntaxSymbol) (invoked : Bool)
  | call (call : Call)

structure Identifier where
  name : String
  inner : Scopes
  top : SemanticScope
  use : Use

section Uses

variable (project : Project) (scopes : Scopes) (callSite : Nat) (name : String)

def ambiguousReference : Outcome :=
  .ambiguous ("Ambiguous reference: '" ++ name ++ "' is defined in multiple imported namespaces")

def bindAccessible (message : String) (symbol : SyntaxSymbol) : Outcome :=
  match isSymbolAccessible scopes callSite symbol with
  | .ok true => .bound symbol
  | .ok false => .error message
  | .error message => .thrown message

def visitIdentifierNameType : Outcome :=
  if name = "auto" ∨ name = "Self" then .keyword
  else match lookup scopes name with
    | none => if isAmbiguousName scopes name then ambiguousReference name else .error "Symbol wasnt found in current scope"
    | some symbol => if symbol.isType then bindAccessible scopes callSite "Symbol inaccessible" symbol else .error "Symbol is not a type"

def resolveTypeExpression : Outcome :=
  match lookup scopes name with
  | none => .error "Symbol wasnt found in current scope"
  | some symbol => if symbol.isType then .bound symbol else .error "Symbol is not a type"

/-- The kinds that a receiver can be of. The text for the others goes on with the number of the kind. -/
def isReceiver (symbol : SyntaxSymbol) : Bool :=
  symbol.isType || [.variableStatement,.propertyDeclaration,.fieldDeclaration,.methodDeclaration,.parameter].contains symbol.kind

def bindReceiver (symbol : SyntaxSymbol) : Outcome :=
  match bindAccessible scopes callSite ("Symbol '" ++ name ++ "' is not accessible") symbol with
  | .bound symbol =>
      if isReceiver symbol then .bound symbol
      else .error ("Symbol '" ++ name ++ "' is not a variable, parameter or field")
  | outcome => outcome

def isNamespace (symbol : SyntaxSymbol) : Bool := symbol.kind = .namespaceDeclaration

def isProjectNamespace : Bool := (project.namespaces.node [name]).isSome

/-- With the call of `ResolveNamespaceQualifier` that precedes it when a member is invoked on the receiver. -/
def analyzeMemberAccessExpression (enumValue : Option SyntaxSymbol) (invoked : Bool) : Outcome :=
  match lookup scopes name with
  | none =>
      if invoked ∧ isProjectNamespace project name then .qualifier
      else if isAmbiguousName scopes name then ambiguousReference name
      else match enumValue with
        | some field => bindReceiver scopes callSite name field
        | none => .error ("Symbol '" ++ name ++ "' not found in current scope")
  | some symbol => if invoked ∧ isNamespace symbol then .qualifier else bindReceiver scopes callSite name symbol

variable (call : Call)

def ownMethod : Option SyntaxSymbol :=
  (call.ownerMethods.getD []).find? fun method => method.name = name ∧ call.ownerAccepts method

def staticMethod : Option SyntaxSymbol :=
  project.methodSymbols.find? fun method => method.linking = .linkStatic ∧ method.name = name ∧ call.accepts method

def localMethod : Option SyntaxSymbol :=
  (lookup scopes name).filter fun method => method.kind = .methodDeclaration ∧ method.name = name ∧ call.accepts method

def tryResolveDelegateInvocation (symbol : SyntaxSymbol) : Option SyntaxSymbol :=
  if symbol.kind = .variableStatement ∨ symbol.kind = .parameter ∨ symbol.kind = .fieldDeclaration then call.delegateOf symbol
  else none

def delegateMethod : Option SyntaxSymbol :=
  if call.explicitMethodTypeArgs then none else (lookup scopes name).bind (tryResolveDelegateInvocation call)

def hasAnyMethodNamed : Bool :=
  ((call.ownerMethods.getD []).any fun method => method.name = name) ||
  (project.methodSymbols.any fun method => method.linking = .linkStatic ∧ method.name = name) ||
  (lookup scopes name).any fun symbol => symbol.kind = .methodDeclaration

def noMethod : String :=
  if call.ownerMethods = none ∧ (lookup scopes name).any SyntaxSymbol.isType then
    "Use 'new " ++ name ++ "()' instead of '" ++ name ++ "()' to construct a type"
  else if call.ownerMethods = none ∧ ((lookup scopes name).any isNamespace ∨ isProjectNamespace project name) then
    "Cannot call namespace '" ++ name ++ "'; use '" ++ name ++ ".Member()' to access its members"
  else if hasAnyMethodNamed project scopes name call then
    "Method '" ++ name ++ "' does not have an overload that accepts the supplied arguments (" ++ call.argumentList ++ ")"
  else "No method named '" ++ name ++ "' exists in the current context"

/-- `ResolveMethod`, and the access check that follows. Nothing stands before the name, so the context is static. -/
def analyzeInvokationExpression : Outcome :=
  if call.ownerMethods = none ∧ isAmbiguousName scopes name then ambiguousReference name
  else match ((ownMethod name call).or (staticMethod project name call)).or (localMethod scopes name call) with
    | some method =>
        if method.linking = .linkInstance then .error ("Cannot call instance method '" ++ name ++ "' from type context")
        else bindAccessible scopes callSite ("Method '" ++ name ++ "' is not accessible") method
    | none =>
        match delegateMethod scopes name call with
        | some method => bindAccessible scopes callSite ("Method '" ++ name ++ "' is not accessible") method
        | none => .error (noMethod project scopes name call)

end Uses

def unitScopes (project : Project) (unit : CompilationUnit) (identifier : Identifier) : Except String Scopes :=
  match identifier.use with
  | .typeName => TypeBinder.visitCompilationUnit project unit identifier.top
  | _ => ExpressionBinder.visitCompilationUnit project unit identifier.top

def resolveIn (project : Project) (callSite : Nat) (scopes : Scopes) (identifier : Identifier) : Outcome :=
  match identifier.use with
  | .typeName => visitIdentifierNameType scopes callSite identifier.name
  | .typeExpression => resolveTypeExpression scopes identifier.name
  | .receiver enumValue invoked => analyzeMemberAccessExpression project scopes callSite identifier.name enumValue invoked
  | .call call => analyzeInvokationExpression project scopes callSite identifier.name call

def resolve (project : Project) (unit : CompilationUnit) (identifier : Identifier) : Outcome :=
  match unitScopes project unit identifier with
  | .ok scopes => resolveIn project unit.file (identifier.inner ++ scopes) identifier
  | .error message => .thrown message

end ShardScript.Binding
