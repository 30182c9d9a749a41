import ShardScript.Binding.Scope

/-! The access checks of the binders. A tree is given with what its names are bound to, and the visit collects the symbols that
`IsSymbolAccessible` is asked for and those that the code refers to. -/
namespace ShardScript.Binding

structure PropertySymbol where
  symbol : SyntaxSymbol
  type : Nat
  getter : Option SyntaxSymbol
  setter : Option SyntaxSymbol
  parent_eq : symbol.parent = some (.type type)
  getter_eq : ∀ accessor, getter = some accessor →
    accessor.kind = .accessorDeclaration ∧ accessor.parent = some (.member symbol.definitionIndex (some type))
  setter_eq : ∀ accessor, setter = some accessor →
    accessor.kind = .accessorDeclaration ∧ accessor.parent = some (.member symbol.definitionIndex (some type))

/-- A variable can be without a type, as the parameter of a lambda is whose type has not been resolved. -/
inductive Bound where
  | variableSymbol (hasType : Bool)
  | field (symbol : SyntaxSymbol)
  | property (property : PropertySymbol)
  | method (symbol : SyntaxSymbol)
  | type (symbol : SyntaxSymbol)

inductive TypeSyntax where
  | predefined
  | identifierName (symbol : SyntaxSymbol)
  | qualifiedName (symbol : SyntaxSymbol)
  | array (underlying : TypeSyntax)
  | generic (underlying argument : TypeSyntax)

mutual

/-- An invocation without a receiver may be qualified with a namespace. A delegate is invoked as a member of the expression that
has it. A cast is made by `as`, or is a test by `is` or of a pattern. A range is read as `??` is, except in brackets, where the
parser has deleted the collection that is the parent of the left bound. The types of a lambda are those of its parameters and the
one that it returns. Whatever else has parts is a node, with its types as tests. -/
inductive Expression where
  | node (parts : Arguments)
  | name (bound : Bound)
  | typeExpression (type : TypeSyntax)
  | memberAccess (previous : Expression) (bound : Bound)
  | invocation (typeArguments : List TypeSyntax) (method : SyntaxSymbol) (arguments : Arguments)
  | memberInvocation (previous : Expression) (typeArguments : List TypeSyntax) (method : SyntaxSymbol) (arguments : Arguments)
  | indexator (previous : Expression) (indexator : PropertySymbol) (arguments : Arguments)
  | objectCreation (type : TypeSyntax) (method : SyntaxSymbol) (arguments : Arguments)
  | cast (isTest : Bool) (operand : Expression) (type : TypeSyntax)
  | assignment (isCompound : Bool) (target value : Expression)
  | increment (isRightDetermined : Bool) (target : Expression)
  | binary (left right : Expression)
  | coalescing (left right : Expression)
  | bracketedRange (freed : Bool) (left right : Expression)
  | lambda (types : List TypeSyntax) (body : Statements)

inductive Arguments where
  | nil
  | cons (argument : Expression) (rest : Arguments)

inductive Statements where
  | nil
  | expression (value : Expression) (rest : Statements)
  | variableStatement (type : TypeSyntax) (value : Expression) (rest : Statements)
  | block (body rest : Statements)

end

/-- `ResolveTypeExpression` knows no other types. -/
def TypeSyntax.isResolved : TypeSyntax → Bool
  | .predefined | .identifierName _ => true
  | .qualifiedName _ | .array _ => false
  | .generic underlying argument => underlying.isResolved && argument.isResolved

mutual

/-- Whether the binder finds a type. Without one it looks nothing up behind the expression, and reports nothing. -/
@[grind] def Expression.hasType (typed : Bool) : Expression → Bool
  | .name (.variableSymbol hasType) => hasType
  | .typeExpression type => type.isResolved
  | .memberAccess previous _ => previous.hasType false
  | .invocation typeArguments _ arguments => (typed || typeArguments.isEmpty) && arguments.haveTypes typed
  | .memberInvocation _ typeArguments _ arguments => (typed || typeArguments.isEmpty) && arguments.haveTypes typed
  | .indexator previous _ arguments => previous.hasType false && arguments.haveTypes typed
  | .objectCreation _ _ _ => typed
  | .cast isTest _ _ => isTest || typed
  | _ => true

def Arguments.haveTypes (typed : Bool) : Arguments → Bool
  | .nil => true
  | .cons argument rest => argument.hasType typed && rest.haveTypes typed

end

/-- Where a reference stands: the file, the type declaration around it, and the scopes that are pushed there. -/
structure Site where
  file : Nat
  enclosing : Option Nat
  scopes : Scopes

def Site.push (site : Site) (owner : Owner) : Site := { site with scopes := .fresh (some owner) none :: site.scopes }

/-- A symbol that `IsSymbolAccessible` is asked for. It lets a null pointer pass. -/
structure Check where
  site : Site
  symbol : Option SyntaxSymbol

def Check.Passes (check : Check) : Prop :=
  match check.symbol with
  | none => True
  | some symbol => isSymbolAccessible check.site.scopes check.site.file symbol = .ok true

inductive Target where
  | symbol (symbol : SyntaxSymbol)
  | accessor (property : PropertySymbol) (accessor : SyntaxSymbol)

structure Reference where
  site : Site
  target : Target

/-- A private member is referred to in the type that declares it, and a private declaration of a file in that file. -/
def Reference.Lawful (reference : Reference) : Prop :=
  match reference.target with
  | .symbol symbol =>
      symbol.accesibility = .acsPublic ∨ symbol.kind = .namespaceDeclaration ∨
        match symbol.parent with
        | some (.type index) => reference.site.enclosing = some index
        | some (.namespaceDeclaration _) | some (.compilationUnit _) => symbol.file = some reference.site.file
        | _ => True
  | .accessor property accessor => accessor.accesibility = .acsPublic ∨ reference.site.enclosing = some property.type

/-- The findings of a visit: what is checked, what is referred to, and which of the references no check stands for. -/
structure Findings where
  checks : List Check
  references : List Reference
  exposed : List Reference

instance : Append Findings :=
  ⟨fun first second => ⟨first.checks ++ second.checks,first.references ++ second.references,first.exposed ++ second.exposed⟩⟩

def Findings.empty : Findings := ⟨[],[],[]⟩

def Findings.checked (site : Site) (symbol : SyntaxSymbol) : Findings := ⟨[⟨site,some symbol⟩],[⟨site,.symbol symbol⟩],[]⟩

def Findings.unchecked (site : Site) (symbol : SyntaxSymbol) : Findings := ⟨[],[⟨site,.symbol symbol⟩],[⟨site,.symbol symbol⟩]⟩

def Findings.named (site : Site) (isChecked : Bool) (symbol : SyntaxSymbol) : Findings :=
  if isChecked then .checked site symbol else .unchecked site symbol

def Findings.when (condition : Bool) (findings : Findings) : Findings := if condition then findings else .empty

inductive Access where
  | read
  | write
  | readWrite

structure Position where
  /-- The expression binder comes here. It stops at an argument that has no type. -/
  bound : Bool
  again : Bool
  /-- The type binder comes here. It does not go into what stands in front of a member, an invocation or an indexer, and into no
  accessor. -/
  typed : Bool
  assigned : Bool
  inner : Bool
  access : Access

namespace Position

def inside (bound typed : Bool) : Position :=
  { bound := bound, again := false, typed := typed, assigned := false, inner := false, access := .read }

def argument (position : Position) : Position := { position with assigned := false, inner := false, access := .read }

/-- The parser leaves an operand with the parent of the whole expression. -/
def operand (position : Position) : Position := { position with assigned := position.inner, access := .read }

def front (position : Position) : Position := { position.operand with typed := false }

def revisited (position : Position) : Position := { position with again := true }

def within (position : Position) (isReached : Bool) : Position := { position with bound := position.bound && isReached }

/-- The parser makes the assignment the parent of the whole left side, but not of what is in front of it. -/
def target (position : Position) (isCompound : Bool) : Position :=
  { position with assigned := !isCompound, access := if isCompound then .readWrite else .write }

def value (position : Position) (isCompound : Bool) : Position :=
  { position with assigned := !isCompound, inner := !isCompound, access := .read }

def incremented (position : Position) (isRightDetermined : Bool) : Position :=
  { position with assigned := isRightDetermined && position.inner, inner := isRightDetermined && position.inner,
                  access := .readWrite }

def left (position : Position) : Position := { position with assigned := false, access := .read }

def collected (position : Position) (freed : Bool) : Position :=
  { position with assigned := freed, inner := freed, access := .read }

end Position

section Bound

variable (site : Site) (position : Position)

def PropertySymbol.accessors (property : PropertySymbol) : Access → List SyntaxSymbol
  | .read => property.getter.toList
  | .write => property.setter.toList
  | .readWrite => property.getter.toList ++ property.setter.toList

def PropertySymbol.required (property : PropertySymbol) (requiresSetter : Bool) : Option SyntaxSymbol :=
  if requiresSetter then property.setter else property.getter

/-- `AnalyzePropertyAccessExpression`, also of an indexer: it takes any expression whose parent is an assignment for its target,
and an assignment with another operator for none. -/
def analyzePropertyAccess (property : PropertySymbol) : Findings where
  checks := if position.bound then [⟨site,property.required position.assigned⟩] else []
  references := (property.accessors position.access).map fun accessor => ⟨site,.accessor property accessor⟩
  exposed := ((property.accessors position.access).filter fun accessor =>
    !position.bound || property.required position.assigned ≠ some accessor).map fun accessor => ⟨site,.accessor property accessor⟩

def analyzeName : Bound → Findings
  | .variableSymbol _ => .empty
  | .field symbol => .named site position.bound symbol
  | .property property => .named site position.bound property.symbol ++ analyzePropertyAccess site position property
  | .method symbol => .named site position.bound symbol
  | .type symbol => .named site position.bound symbol

/-- A member is checked through `node->ToField`, which is a null pointer until the visit has ended. -/
def analyzeMember : Bound → Findings
  | .variableSymbol _ => .empty
  | .field symbol => .named site (position.bound && position.again) symbol
  | .property property => .unchecked site property.symbol ++ analyzePropertyAccess site position property
  | .method symbol => .unchecked site symbol
  | .type symbol => .unchecked site symbol

def visitType : TypeSyntax → Findings
  | .predefined => .empty
  | .identifierName symbol => .checked site symbol
  | .qualifiedName symbol => .unchecked site symbol
  | .array underlying => visitType underlying
  | .generic underlying argument => visitType underlying ++ visitType argument

/-- `ResolveTypeExpression`, or nothing at all, for a type that the type binder has not come to. -/
def resolveType : TypeSyntax → Findings
  | .predefined => .empty
  | .identifierName symbol => .unchecked site symbol
  | .qualifiedName symbol => .unchecked site symbol
  | .array underlying => resolveType underlying
  | .generic underlying argument => resolveType underlying ++ resolveType argument

def namedType (typed : Bool) (type : TypeSyntax) : Findings := if typed then visitType site type else resolveType site type

def namedTypes (typed : Bool) : List TypeSyntax → Findings
  | [] => .empty
  | type :: types => namedType site typed type ++ namedTypes typed types

end Bound

mutual

/-- What is in front of a member is visited twice if it has a type, and so are the arguments of an object creation and of an
indexer. -/
@[grind] def visitExpression (site : Site) (position : Position) : Expression → Findings
  | .node parts => visitArguments site position.argument false parts
  | .name bound => analyzeName site position bound
  | .typeExpression type => namedType site position.typed type
  | .memberAccess previous bound =>
      visitExpression site position.front previous ++
        .when (previous.hasType false) (visitExpression site position.front.revisited previous) ++
        analyzeMember site (position.within (previous.hasType false)) bound
  | .invocation typeArguments method arguments =>
      namedTypes site position.typed typeArguments ++ visitArguments site position.argument true arguments ++
        .named site (position.bound && (position.typed || typeArguments.isEmpty) && arguments.haveTypes position.typed) method
  | .memberInvocation previous typeArguments method arguments =>
      visitExpression site position.front previous ++
        (namedTypes site position.typed typeArguments ++ visitArguments site position.argument true arguments) ++
        .named site (position.bound && (position.typed || typeArguments.isEmpty) && arguments.haveTypes position.typed) method
  | .indexator previous indexator arguments =>
      visitArguments site position.argument false arguments ++
        .when (previous.hasType false) (visitArguments site position.argument.revisited true arguments) ++
        (visitExpression site position.front previous ++
          .when (previous.hasType false) (visitExpression site position.front.revisited previous)) ++
        (.unchecked site indexator.symbol ++ analyzePropertyAccess site
          (position.within (previous.hasType false && arguments.haveTypes position.typed)) indexator)
  | .objectCreation type method arguments =>
      -- without a type symbol no constructor is looked up
      namedType site position.typed type ++ visitArguments site position.argument false arguments ++
        .when position.typed (visitArguments site position.argument.revisited true arguments) ++
        .named site (position.bound && position.typed && arguments.haveTypes position.typed) method
  | .cast _ operand type => visitExpression site position.operand operand ++ namedType site position.typed type
  | .assignment isCompound target value =>
      visitExpression site (position.target isCompound) target ++ visitExpression site (position.value isCompound) value
  | .increment isRightDetermined target => visitExpression site (position.incremented isRightDetermined) target
  | .binary left right => visitExpression site position.left left ++ visitExpression site position.argument right
  | .coalescing left right => visitExpression site position.operand left ++ visitExpression site position.argument right
  | .bracketedRange freed left right =>
      visitExpression site (position.collected freed) left ++ visitExpression site position.argument right
  | .lambda types body => namedTypes site position.typed types ++ visitStatements site position.argument body

/-- The types of the arguments of an invocation are collected up to the first that is missing. -/
def visitArguments (site : Site) (position : Position) (stops : Bool) : Arguments → Findings
  | .nil => .empty
  | .cons argument rest => visitExpression site position argument ++
      visitArguments site (position.within (!stops || argument.hasType position.typed)) stops rest

@[grind] def visitStatements (site : Site) (position : Position) : Statements → Findings
  | .nil => .empty
  | .expression value rest => visitExpression site position value ++ visitStatements site position rest
  | .variableStatement type value rest =>
      namedType site position.typed type ++ visitExpression site position value ++ visitStatements site position rest
  | .block body rest => visitStatements site position body ++ visitStatements site position rest

end

/-- The types of a method are those of its parameters and the one that it returns. Constructors and operators are methods here,
and indexers properties. -/
inductive Member where
  | field (type : TypeSyntax) (initializer : Option Expression)
  | method (definitionIndex : Nat) (types : List TypeSyntax) (body : Statements)
  | property (definitionIndex : Nat) (types : List TypeSyntax) (initializer : Option Expression) (accessors : List (Nat × Statements))

structure TypeDeclaration where
  definitionIndex : Nat
  types : List TypeSyntax
  members : List Member

structure SourceFile where
  file : Nat
  namespacePath : Option NamespacePath
  types : List TypeDeclaration
  methods : List Member

structure Program where
  files : List SourceFile
  otherErrors : Bool

section Visits

def Findings.join (parts : List Findings) : Findings := parts.foldr (fun part rest => part ++ rest) .empty

def Site.member (site : Site) (definitionIndex : Nat) : Site := site.push (.member definitionIndex site.enclosing)

def Site.type (site : Site) (definitionIndex : Nat) : Site :=
  { site.push (.type definitionIndex) with enclosing := some definitionIndex }

def visitInitializer (site : Site) (bound : Bool) : Option Expression → Findings
  | none => .empty
  | some value => visitExpression site (.inside bound true) value

/-- The expression binder does not visit the initializer of a property. -/
def visitMember (site : Site) : Member → Findings
  | .field type initializer => visitType site type ++ visitInitializer site true initializer
  | .method index types body =>
      namedTypes (site.member index) true types ++ visitStatements (site.member index) (.inside true true) body
  | .property index types initializer accessors =>
      namedTypes (site.member index) true types ++ visitInitializer (site.member index) false initializer ++
        .join (accessors.map fun accessor =>
          visitStatements ((site.member index).member accessor.1) (.inside true false) accessor.2)

def visitTypeDeclaration (site : Site) (declaration : TypeDeclaration) : Findings :=
  namedTypes (site.type declaration.definitionIndex) true declaration.types ++
    .join (declaration.members.map (visitMember (site.type declaration.definitionIndex)))

def unitSite (source : SourceFile) : Site where
  file := source.file
  enclosing := none
  scopes := (source.namespacePath.toList.map fun path => .fresh (some (.namespaceDeclaration path)) none) ++
    [.fresh none none,.fresh none none]

def visitFile (source : SourceFile) : Findings :=
  .join (source.types.map (visitTypeDeclaration (unitSite source))) ++ .join (source.methods.map (visitMember (unitSite source)))

def visitProgram (program : Program) : Findings := .join (program.files.map visitFile)

def Binds (program : Program) : Prop :=
  program.otherErrors = false ∧ ∀ check ∈ (visitProgram program).checks, check.Passes

end Visits

end ShardScript.Binding
