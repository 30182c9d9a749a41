import ShardScript.Binding.Access

/-! A program that binds refers to nothing private from outside, exactly when this is so of the references that no check stands
for. -/
namespace ShardScript.Binding

section Sites

variable {site : Site}

structure Site.WellScoped (site : Site) : Prop where
  type_eq : ∀ index, (site.scopes.any fun scope => scope.owner = some (.type index)) = true → site.enclosing = some index
  member_eq : ∀ index type, (site.scopes.any fun scope => scope.owner = some (.member index (some type))) = true →
    site.enclosing = some type

theorem any_push (site : Site) (pushed owner : Owner) :
    ((site.push pushed).scopes.any fun scope => scope.owner = some owner) = true ↔
      pushed = owner ∨ (site.scopes.any fun scope => scope.owner = some owner) = true := by
  rw [Site.push,List.any_cons,Bool.or_eq_true,decide_eq_true_eq,SemanticScope.fresh,Option.some.injEq]

theorem unitSite_owner {source : SourceFile} {scope : SemanticScope} (inside : scope ∈ (unitSite source).scopes) :
    scope.owner = none ∨ ∃ path, scope.owner = some (.namespaceDeclaration path) := by
  obtain named | plain := List.mem_append.1 inside
  · obtain ⟨path,-,same⟩ := List.mem_map.1 named
    rw [← same]
    exact .inr ⟨path,rfl⟩
  · simp only [List.mem_cons,List.not_mem_nil,or_false,or_self] at plain
    rw [plain]
    exact .inl rfl

theorem unitSite_any {source : SourceFile} {owner : Owner} (other : ∀ path, owner ≠ .namespaceDeclaration path) :
    ¬ ((unitSite source).scopes.any fun scope => scope.owner = some owner) = true := by
  intro found
  obtain ⟨scope,inside,owned⟩ := List.any_eq_true.1 found
  have same := of_decide_eq_true owned
  obtain none | ⟨path,named⟩ := unitSite_owner inside
  · rw [none] at same
    cases same
  · rw [named,Option.some.injEq] at same
    exact other path same.symm

theorem unitSite_wellScoped (source : SourceFile) : (unitSite source).WellScoped where
  type_eq _ found := absurd found (unitSite_any fun _ => Owner.noConfusion)
  member_eq _ _ found := absurd found (unitSite_any fun _ => Owner.noConfusion)

theorem Site.WellScoped.type (plain : site.WellScoped) (outside : site.enclosing = none) (index : Nat) :
    (site.type index).WellScoped := by
  constructor
  · intro other found
    obtain same | below := (any_push site (.type index) (.type other)).1 found
    · cases same
      rfl
    · have inside := plain.type_eq other below
      rw [outside] at inside
      cases inside
  · intro member other found
    obtain same | below := (any_push site (.type index) (.member member (some other))).1 found
    · cases same
    · have inside := plain.member_eq member other below
      rw [outside] at inside
      cases inside

theorem Site.WellScoped.member (nested : site.WellScoped) (index : Nat) : (site.member index).WellScoped := by
  constructor
  · intro other found
    obtain same | below := (any_push site (.member index site.enclosing) (.type other)).1 found
    · cases same
    · exact nested.type_eq other below
  · intro other type found
    obtain same | below := (any_push site (.member index site.enclosing) (.member other (some type))).1 found
    · exact (Owner.member.inj same).2
    · exact nested.member_eq other type below

end Sites

section Guards

variable {site : Site} {position : Position} {first second : Findings} {reference : Reference}

theorem lawful_of_accessible (nested : site.WellScoped) {symbol : SyntaxSymbol}
    (accessible : isSymbolAccessible site.scopes site.file symbol = .ok true) : (Reference.mk site (.symbol symbol)).Lawful := by
  unfold isSymbolAccessible at accessible
  unfold Reference.Lawful
  dsimp only
  split_ifs at accessible with kind shown
  · exact .inr (.inl kind)
  · exact .inl shown
  · refine .inr (.inr ?_)
    cases parent : symbol.parent with
    | none => trivial
    | some owner =>
      rw [parent] at accessible
      cases owner with
      | namespaceDeclaration path => exact of_decide_eq_true (Except.ok.inj accessible)
      | compilationUnit file => exact of_decide_eq_true (Except.ok.inj accessible)
      | type index => exact nested.type_eq index (Except.ok.inj accessible)
      | member index type => trivial

theorem lawful_of_accessible_accessor (nested : site.WellScoped) {property : PropertySymbol} {accessor : SyntaxSymbol}
    (kind : accessor.kind = .accessorDeclaration)
    (parent : accessor.parent = some (.member property.symbol.definitionIndex (some property.type)))
    (accessible : isSymbolAccessible site.scopes site.file accessor = .ok true) :
    (Reference.mk site (.accessor property accessor)).Lawful := by
  have ordinary : accessor.kind ≠ .namespaceDeclaration := by
    rw [kind]
    exact SyntaxKind.noConfusion
  rw [isSymbolAccessible,if_neg ordinary,parent] at accessible
  by_cases shown : accessor.accesibility = .acsPublic
  · exact .inl shown
  · rw [if_neg shown] at accessible
    exact .inr (nested.member_eq _ _ (Except.ok.inj accessible))

/-- Each reference is one that no check stands for, or there is a check that lets only a lawful one pass. -/
structure Findings.Guarded (findings : Findings) : Prop where
  guards : ∀ reference ∈ findings.references, reference ∈ findings.exposed ∨
    ∃ check ∈ findings.checks, check.Passes → reference.Lawful
  within : ∀ reference ∈ findings.exposed, reference ∈ findings.references

theorem guarded_empty : Findings.empty.Guarded := ⟨List.forall_mem_nil _,List.forall_mem_nil _⟩

theorem Findings.Guarded.append (one : first.Guarded) (two : second.Guarded) : (first ++ second).Guarded := by
  constructor
  · intro reference inside
    obtain inside | inside := List.mem_append.1 inside
    · obtain exposed | ⟨check,among,lawful⟩ := one.guards reference inside
      · exact .inl (List.mem_append_left _ exposed)
      · exact .inr ⟨check,List.mem_append_left _ among,lawful⟩
    · obtain exposed | ⟨check,among,lawful⟩ := two.guards reference inside
      · exact .inl (List.mem_append_right _ exposed)
      · exact .inr ⟨check,List.mem_append_right _ among,lawful⟩
  · intro reference inside
    obtain inside | inside := List.mem_append.1 inside
    · exact List.mem_append_left _ (one.within reference inside)
    · exact List.mem_append_right _ (two.within reference inside)

theorem guarded_join {parts : List Findings} (all : ∀ part ∈ parts, part.Guarded) : (Findings.join parts).Guarded := by
  induction parts with
  | nil => exact guarded_empty
  | cons part parts ih =>
    exact (all part List.mem_cons_self).append (ih fun other inside => all other (List.mem_cons_of_mem _ inside))

theorem guarded_checked (nested : site.WellScoped) (symbol : SyntaxSymbol) : (Findings.checked site symbol).Guarded := by
  refine ⟨fun reference inside => ?_,List.forall_mem_nil _⟩
  rw [Findings.checked,List.mem_singleton] at inside
  subst inside
  exact .inr ⟨⟨site,some symbol⟩,List.mem_cons_self,lawful_of_accessible nested⟩

theorem guarded_unchecked (site : Site) (symbol : SyntaxSymbol) : (Findings.unchecked site symbol).Guarded :=
  ⟨fun _ inside => .inl inside,fun _ inside => inside⟩

theorem PropertySymbol.accessor_eq {property : PropertySymbol} {requiresSetter : Bool} {accessor : SyntaxSymbol}
    (required : property.required requiresSetter = some accessor) :
    accessor.kind = .accessorDeclaration ∧
      accessor.parent = some (.member property.symbol.definitionIndex (some property.type)) := by
  cases requiresSetter with
  | true => exact property.setter_eq accessor required
  | false => exact property.getter_eq accessor required

theorem guarded_named (nested : site.WellScoped) (isChecked : Bool) (symbol : SyntaxSymbol) :
    (Findings.named site isChecked symbol).Guarded := by
  cases isChecked with
  | true => exact guarded_checked nested symbol
  | false => exact guarded_unchecked site symbol

theorem Findings.Guarded.when {findings : Findings} (guarded : findings.Guarded) (condition : Bool) :
    (Findings.when condition findings).Guarded := by
  cases condition with
  | true => exact guarded
  | false => exact guarded_empty

theorem guarded_property (nested : site.WellScoped) (property : PropertySymbol) :
    (analyzePropertyAccess site position property).Guarded := by
  constructor
  · intro reference inside
    obtain ⟨accessor,used,rfl⟩ := List.mem_map.1 inside
    by_cases required : position.bound = true ∧ property.required position.assigned = some accessor
    · obtain ⟨bound,required⟩ := required
      obtain ⟨kind,parent⟩ := PropertySymbol.accessor_eq required
      refine .inr ⟨⟨site,some accessor⟩,?_,lawful_of_accessible_accessor nested kind parent⟩
      rw [analyzePropertyAccess,if_pos bound,← required]
      exact List.mem_cons_self
    · refine .inl (List.mem_map.2 ⟨accessor,List.mem_filter.2 ⟨used,?_⟩,rfl⟩)
      rwa [Bool.or_eq_true,Bool.not_eq_true',decide_eq_true_eq,← Bool.not_eq_true,← not_and_or]
  · intro reference inside
    obtain ⟨accessor,unchecked,rfl⟩ := List.mem_map.1 inside
    exact List.mem_map_of_mem (List.mem_filter.1 unchecked).1

theorem guarded_name (nested : site.WellScoped) (bound : Bound) : (analyzeName site position bound).Guarded := by
  cases bound with
  | variableSymbol => exact guarded_empty
  | property property => exact (guarded_named nested position.bound property.symbol).append (guarded_property nested property)
  | field symbol => exact guarded_named nested position.bound symbol
  | method symbol => exact guarded_named nested position.bound symbol
  | type symbol => exact guarded_named nested position.bound symbol

theorem guarded_member (nested : site.WellScoped) (bound : Bound) : (analyzeMember site position bound).Guarded := by
  cases bound with
  | variableSymbol => exact guarded_empty
  | property property => exact (guarded_unchecked site property.symbol).append (guarded_property nested property)
  | field symbol => exact guarded_named nested (position.bound && position.again) symbol
  | method symbol => exact guarded_unchecked site symbol
  | type symbol => exact guarded_unchecked site symbol

theorem guarded_type (nested : site.WellScoped) (type : TypeSyntax) : (visitType site type).Guarded := by
  induction type with
  | predefined => exact guarded_empty
  | identifierName symbol => exact guarded_checked nested symbol
  | qualifiedName symbol => exact guarded_unchecked site symbol
  | array underlying ih => exact ih
  | generic underlying argument ihUnderlying ihArgument => exact ihUnderlying.append ihArgument

theorem guarded_resolved (site : Site) (type : TypeSyntax) : (resolveType site type).Guarded := by
  induction type with
  | predefined => exact guarded_empty
  | identifierName symbol => exact guarded_unchecked site symbol
  | qualifiedName symbol => exact guarded_unchecked site symbol
  | array underlying ih => exact ih
  | generic underlying argument ihUnderlying ihArgument => exact ihUnderlying.append ihArgument

theorem guarded_namedType (nested : site.WellScoped) (typed : Bool) (type : TypeSyntax) :
    (namedType site typed type).Guarded := by
  cases typed with
  | true => exact guarded_type nested type
  | false => exact guarded_resolved site type

theorem guarded_types (nested : site.WellScoped) (typed : Bool) (types : List TypeSyntax) :
    (namedTypes site typed types).Guarded := by
  induction types with
  | nil => exact guarded_empty
  | cons type types ih => exact (guarded_namedType nested typed type).append ih

end Guards

section Trees

variable {site : Site}

mutual

theorem guarded_expression (nested : site.WellScoped) (expression : Expression) (position : Position) :
    (visitExpression site position expression).Guarded := by
  cases expression with
  | node parts => exact guarded_arguments nested parts _ _
  | name bound => exact guarded_name nested bound
  | typeExpression type => exact guarded_namedType nested _ type
  | memberAccess previous bound =>
    have again := (guarded_expression nested previous position.front.revisited).when (previous.hasType false)
    exact ((guarded_expression nested previous _).append again).append (guarded_member nested bound)
  | invocation typeArguments method arguments =>
    have listed := (guarded_types nested position.typed typeArguments).append
      (guarded_arguments nested arguments position.argument true)
    exact listed.append (guarded_named nested _ method)
  | memberInvocation previous typeArguments method arguments =>
    have listed := (guarded_types nested position.typed typeArguments).append
      (guarded_arguments nested arguments position.argument true)
    exact ((guarded_expression nested previous _).append listed).append (guarded_named nested _ method)
  | indexator previous indexator arguments =>
    have both := (guarded_arguments nested arguments position.argument false).append
      ((guarded_arguments nested arguments position.argument.revisited true).when (previous.hasType false))
    have front := (guarded_expression nested previous position.front).append
      ((guarded_expression nested previous position.front.revisited).when (previous.hasType false))
    exact (both.append front).append ((guarded_unchecked site indexator.symbol).append (guarded_property nested indexator))
  | objectCreation type method arguments =>
    have both := ((guarded_namedType nested position.typed type).append
      (guarded_arguments nested arguments position.argument false)).append
      ((guarded_arguments nested arguments position.argument.revisited true).when position.typed)
    exact both.append (guarded_named nested _ method)
  | cast isTest operand type => exact (guarded_expression nested operand _).append (guarded_namedType nested _ type)
  | assignment isCompound target value => exact (guarded_expression nested target _).append (guarded_expression nested value _)
  | increment isRightDetermined target => exact guarded_expression nested target _
  | binary left right => exact (guarded_expression nested left _).append (guarded_expression nested right _)
  | coalescing left right => exact (guarded_expression nested left _).append (guarded_expression nested right _)
  | bracketedRange freed left right => exact (guarded_expression nested left _).append (guarded_expression nested right _)
  | lambda types body => exact (guarded_types nested _ types).append (guarded_statements nested body _)

theorem guarded_arguments (nested : site.WellScoped) (arguments : Arguments) (position : Position) (stops : Bool) :
    (visitArguments site position stops arguments).Guarded := by
  cases arguments with
  | nil => exact guarded_empty
  | cons argument rest => exact (guarded_expression nested argument _).append (guarded_arguments nested rest _ _)

theorem guarded_statements (nested : site.WellScoped) (statements : Statements) (position : Position) :
    (visitStatements site position statements).Guarded := by
  cases statements with
  | nil => exact guarded_empty
  | expression value rest => exact (guarded_expression nested value _).append (guarded_statements nested rest _)
  | variableStatement type value rest =>
    exact ((guarded_namedType nested _ type).append (guarded_expression nested value _)).append (guarded_statements nested rest _)
  | block body rest => exact (guarded_statements nested body _).append (guarded_statements nested rest _)

end

end Trees

section Programs

variable {site : Site}

theorem guarded_initializer (nested : site.WellScoped) (bound : Bool) (initializer : Option Expression) :
    (visitInitializer site bound initializer).Guarded := by
  cases initializer with
  | none => exact guarded_empty
  | some value => exact guarded_expression nested value _

theorem guarded_visitMember (nested : site.WellScoped) (member : Member) : (visitMember site member).Guarded := by
  cases member with
  | field type initializer => exact (guarded_type nested type).append (guarded_initializer nested true initializer)
  | method index types body =>
    exact (guarded_types (nested.member index) true types).append (guarded_statements (nested.member index) body _)
  | property index types initializer accessors =>
    have inside := nested.member index
    refine ((guarded_types inside true types).append (guarded_initializer inside false initializer)).append
      (guarded_join fun part among => ?_)
    obtain ⟨accessor,-,rfl⟩ := List.mem_map.1 among
    exact guarded_statements (inside.member accessor.1) accessor.2 _

theorem guarded_members (nested : site.WellScoped) (members : List Member) :
    (Findings.join (members.map (visitMember site))).Guarded := by
  refine guarded_join fun part inside => ?_
  obtain ⟨member,-,rfl⟩ := List.mem_map.1 inside
  exact guarded_visitMember nested member

theorem guarded_program (program : Program) : (visitProgram program).Guarded := by
  refine guarded_join fun part inside => ?_
  obtain ⟨source,-,rfl⟩ := List.mem_map.1 inside
  refine (guarded_join fun part inside => ?_).append (guarded_members (unitSite_wellScoped source) source.methods)
  obtain ⟨declaration,-,rfl⟩ := List.mem_map.1 inside
  have nested := (unitSite_wellScoped source).type rfl declaration.definitionIndex
  exact (guarded_types nested true declaration.types).append (guarded_members nested declaration.members)

def Enforced (program : Program) : Prop := Binds program → ∀ reference ∈ (visitProgram program).references, reference.Lawful

def EnforcedWhen (program : Program) : Prop := Binds program → ∀ reference ∈ (visitProgram program).exposed, reference.Lawful

/-- Access control is enforced exactly under the condition. -/
theorem enforced_iff (program : Program) : Enforced program ↔ EnforcedWhen program := by
  have guarded := guarded_program program
  constructor
  · intro enforced binds reference inside
    exact enforced binds reference (guarded.within reference inside)
  · intro holds binds reference inside
    obtain exposed | ⟨check,among,lawful⟩ := guarded.guards reference inside
    · exact holds binds reference exposed
    · exact lawful (binds.2 check among)

def secret : SyntaxSymbol :=
  { definitionIndex := 1, kind := .fieldDeclaration, name := "secret", parent := some (.type 0), accesibility := .acsPrivate,
    linking := .linkInstance, file := some 0 }

def intrusion : Program where
  otherErrors := false
  files := [{ file := 0, namespacePath := none, methods := [],
              types := [⟨0,[],[.field .predefined none]⟩,
                ⟨2,[],[.method 3 [] (.expression (.memberAccess (.name (.variableSymbol true)) (.field secret)) .nil)]⟩] }]

theorem intrusion_not_enforced : Binds intrusion ∧ ¬ Enforced intrusion := by
  have binds : Binds intrusion := ⟨rfl,List.forall_mem_nil _⟩
  refine ⟨binds,fun enforced => ?_⟩
  obtain shown | kind | inside := enforced binds _ List.mem_cons_self
  · cases shown
  · cases kind
  · cases inside

end Programs

end ShardScript.Binding
