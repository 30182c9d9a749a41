import ShardScript.Binding.NameUses

/-! What a name stands for depends on the order of the using directives when two imported namespaces have it, unless it is found
before them. Only a call outside of types is reported as ambiguous. -/
namespace ShardScript.Binding
open Library (Contested)

section Scopes

variable {project : Project} {unit : CompilationUnit} {top scope : SemanticScope} {members : List SyntaxSymbol}

theorem declareAll_ok (distinct : members.Nodup) (new : ∀ member ∈ members, scope.symbols member.name ≠ some member) :
    ∃ next, declareAll scope members = .ok next ∧ next.owner = scope.owner ∧ next.namespaceNode = scope.namespaceNode ∧
      next.ambiguousNames = scope.ambiguousNames ∧ ∀ name, next.symbols name =
        (members.reverse.find? fun member => member.name = name).or (scope.symbols name) := by
  induction members generalizing scope with
  | nil => exact ⟨scope,rfl,rfl,rfl,rfl,fun name => rfl⟩
  | cons member members ih =>
    obtain ⟨fresh,distinct⟩ := List.nodup_cons.1 distinct
    let next := { scope with symbols := Function.update scope.symbols member.name (some member) }
    have declared : scope.declareSymbol member = .ok next := if_neg (new member List.mem_cons_self)
    have apart : ∀ other ∈ members, next.symbols other.name ≠ some other := by
      intro other inside
      by_cases same : other.name = member.name
      · have found : next.symbols other.name = some member := by
          rw [same]
          exact Function.update_self _ _ _
        rw [found]
        rintro ⟨⟩
        exact fresh inside
      · have found : next.symbols other.name = scope.symbols other.name := Function.update_of_ne same _ _
        rw [found]
        exact new other (List.mem_cons_of_mem _ inside)
    obtain ⟨last,ran,owner,node,ambiguous,symbols⟩ := ih distinct apart
    refine ⟨last,?_,owner,node,ambiguous,fun name => ?_⟩
    · rw [declareAll,List.foldlM_cons,declared]
      exact ran
    · rw [symbols,List.reverse_cons,List.find?_append,Option.or_assoc,List.find?_singleton]
      by_cases same : member.name = name
      · subst same
        rw [if_pos (decide_eq_true rfl),Option.some_or]
        exact congrArg _ (Function.update_self _ _ _)
      · rw [if_neg (by simpa only [decide_eq_true_eq] using same),Option.none_or]
        exact congrArg _ (Function.update_of_ne (Ne.symm same) _ _)

def ownSymbol (project : Project) (unit : CompilationUnit) (declaresNamespace : Bool) (name : String) : Option SyntaxSymbol :=
  (unit.members.reverse.find? fun member => member.name = name).or
    (match unit.namespaceSymbol with
    | none => none
    | some (symbol,path) => ((project.namespaces.node path).bind fun node => node.find name).or
        (if declaresNamespace ∧ symbol.name = name then some symbol else none))

def unitOwners (unit : CompilationUnit) (top : SemanticScope) : List (Option Owner) :=
  match unit.namespaceSymbol with
  | none => [none,top.owner]
  | some (_,path) => [some (.namespaceDeclaration path),none,top.owner]

structure Layered (project : Project) (unit : CompilationUnit) (top : SemanticScope) (declaresNamespace : Bool)
    (scopes : Scopes) : Prop where
  lookup_eq : ∀ name, lookup scopes name = (ownSymbol project unit declaresNamespace name).or
    (((importedNodes project unit.usings).findSome? (exported project name)).or (top.find name))
  ambiguous_iff : ∀ name, isAmbiguousName scopes name = true ↔
    Contested (exported project name) (importedNodes project unit.usings) ∨ name ∈ top.ambiguousNames
  owners_eq : scopes.map SemanticScope.owner = unitOwners unit top

theorem Imported.parent {nodes : List NamespaceNode} (imported : Imported project nodes scope) {name : String}
    {symbol : SyntaxSymbol} (found : scope.symbols name = some symbol) :
    ∃ node ∈ nodes, symbol ∈ node.members ∧ symbol.name = name := by
  rw [imported.symbols_eq] at found
  obtain ⟨node,inside,given⟩ := List.exists_of_findSome?_eq_some found
  exact ⟨node,inside,exported_some given⟩

theorem NamespaceNode.kind_ne {node : NamespaceNode} {symbol : SyntaxSymbol} (member : symbol ∈ node.members) :
    symbol.kind ≠ .namespaceDeclaration := by
  intro kind
  obtain type | method := node.kind_eq symbol member
  · rw [SyntaxSymbol.isType,kind] at type
    exact Bool.false_ne_true type
  · rw [kind] at method
    cases method

theorem find_eq (scope : SemanticScope) (name : String) (plain : scope.namespaceNode = none) :
    scope.find name = scope.symbols name := by
  rw [SemanticScope.find,plain]
  exact Option.or_none

theorem lookup_top (top : SemanticScope) (name : String) : lookup [top] name = top.find name := by
  rw [lookup_cons]
  exact Option.or_none

theorem declareNamespace_ok {symbol : SyntaxSymbol} (kind : symbol.kind = .namespaceDeclaration) {nodes : List NamespaceNode}
    (imported : Imported project nodes scope) (declaresNamespace : Bool) :
    ∃ next, declareNamespace declaresNamespace scope symbol = .ok next ∧ next.owner = none ∧
      next.namespaceNode = none ∧ next.ambiguousNames = scope.ambiguousNames ∧ ∀ name, next.symbols name =
        (if declaresNamespace ∧ symbol.name = name then some symbol else none).or (scope.symbols name) := by
  cases declaresNamespace with
  | false =>
    refine ⟨scope,rfl,imported.owner_eq,imported.namespaceNode_eq,rfl,fun name => ?_⟩
    rw [if_neg fun both => Bool.false_ne_true both.1]
    exact Option.none_or.symm
  | true =>
    have new : scope.symbols symbol.name ≠ some symbol := by
      intro found
      obtain ⟨node,-,among,-⟩ := imported.parent found
      exact node.kind_ne among kind
    refine ⟨{ scope with symbols := Function.update scope.symbols symbol.name (some symbol) },if_neg new,imported.owner_eq,
      imported.namespaceNode_eq,rfl,fun name => ?_⟩
    by_cases same : symbol.name = name
    · subst same
      rw [if_pos ⟨rfl,rfl⟩,Option.some_or]
      exact Function.update_self _ _ _
    · rw [if_neg fun both => same both.2,Option.none_or]
      exact Function.update_of_ne (Ne.symm same) _ _

theorem visitCompilationUnit_ok (project : Project) (unit : CompilationUnit) (top : SemanticScope) (declaresNamespace : Bool) :
    ∃ scopes, visitCompilationUnit project unit top declaresNamespace = .ok scopes ∧
      Layered project unit top declaresNamespace scopes := by
  obtain ⟨state,visited,imported⟩ := visitUsings_ok project unit.usings
  cases home : unit.namespaceSymbol with
  | none =>
    have new : ∀ member ∈ unit.members, state.scope.symbols member.name ≠ some member := by
      intro member inside found
      obtain ⟨node,-,among,-⟩ := imported.parent found
      have elsewhere := unit.member_parent member inside
      rw [node.parent_eq member among,home] at elsewhere
      cases elsewhere
    obtain ⟨scope,declared,owner,node,ambiguous,symbols⟩ := declareAll_ok unit.members_nodup new
    refine ⟨[scope,top],?_,fun name => ?_,fun name => ?_,?_⟩
    · rw [visitCompilationUnit,visited,home]
      change (declareAll state.scope unit.members >>= fun scope => pure [scope,top]) = _
      rw [declared]
      rfl
    · rw [ownSymbol,home,lookup_cons,lookup_top,find_eq scope name (node.trans imported.namespaceNode_eq),symbols,
        imported.symbols_eq,Option.or_none,Option.or_assoc]
    · simp only [isAmbiguousName,List.any_cons,List.any_nil,Bool.or_false,Bool.or_eq_true,decide_eq_true_eq,ambiguous,
        imported.ambiguous_iff]
    · rw [unitOwners,home,List.map_cons,owner,imported.owner_eq]
      rfl
  | some declaration =>
    obtain ⟨symbol,path⟩ := declaration
    have new : ∀ member ∈ unit.members, (SemanticScope.fresh (some (unitOwner unit.file unit.namespaceSymbol))
        (project.namespaces.node path)).symbols member.name ≠ some member :=
      fun member _ => (Option.some_ne_none member).symm
    obtain ⟨inner,declared,owner,node,ambiguous,symbols⟩ := declareAll_ok unit.members_nodup new
    obtain ⟨outer,declaredOuter,outerOwner,outerNode,outerAmbiguous,outerSymbols⟩ :=
      declareNamespace_ok (unit.namespace_kind symbol path home) imported declaresNamespace
    refine ⟨[inner,outer,top],?_,fun name => ?_,fun name => ?_,?_⟩
    · rw [visitCompilationUnit,visited,home]
      change (declareNamespace declaresNamespace state.scope symbol >>= fun scope =>
        declareAll (.fresh (some (unitOwner unit.file (some (symbol,path)))) (project.namespaces.node path)) unit.members >>=
          fun inner => pure [inner,scope,top]) = _
      rw [home] at declared
      rw [declaredOuter,declared]
      rfl
    · have innerFind : inner.find name = (unit.members.reverse.find? fun member => member.name = name).or
          ((project.namespaces.node path).bind fun node => node.find name) := by
        rw [SemanticScope.find,symbols,node]
        exact congrArg (fun found => Option.or found _) Option.or_none
      rw [ownSymbol,home,lookup_cons,lookup_cons,lookup_top,innerFind,find_eq outer name outerNode,outerSymbols,
        imported.symbols_eq]
      simp only [Option.or_assoc]
    · simp only [isAmbiguousName,List.any_cons,List.any_nil,Bool.or_false,Bool.or_eq_true,decide_eq_true_eq,ambiguous,
        outerAmbiguous,imported.ambiguous_iff,SemanticScope.fresh,Finset.notMem_empty,false_or]
    · rw [unitOwners,home,List.map_cons,List.map_cons,owner,outerOwner,SemanticScope.fresh,home]
      rfl

end Scopes

section Orders

variable {project : Project} {unit : CompilationUnit} {identifier : Identifier} {usings : List (List String)}

theorem resolveIn_congr {callSite : Nat} {scopes other : Scopes}
    (found : lookup scopes identifier.name = lookup other identifier.name)
    (ambiguous : isAmbiguousName scopes identifier.name = isAmbiguousName other identifier.name)
    (owners : scopes.map SemanticScope.owner = other.map SemanticScope.owner) :
    resolveIn project callSite scopes identifier = resolveIn project callSite other identifier := by
  have access (message : String) (symbol : SyntaxSymbol) :
      bindAccessible scopes callSite message symbol = bindAccessible other callSite message symbol := by
    rw [bindAccessible,bindAccessible,isSymbolAccessible_congr owners]
  unfold resolveIn
  cases identifier.use with
  | typeName => simp only [visitIdentifierNameType,found,ambiguous,access]
  | typeExpression => simp only [resolveTypeExpression,found]
  | receiver enumValue invoked => simp only [analyzeMemberAccessExpression,bindReceiver,found,ambiguous,access]
  | call call =>
    have inScope : localMethod scopes identifier.name call = localMethod other identifier.name call := by
      rw [localMethod,localMethod,found]
    have delegated : delegateMethod scopes identifier.name call = delegateMethod other identifier.name call := by
      rw [delegateMethod,delegateMethod,found]
    have message : noMethod project scopes identifier.name call = noMethod project other identifier.name call := by
      rw [noMethod,noMethod,hasAnyMethodNamed,hasAnyMethodNamed,found]
    dsimp only
    rw [analyzeInvokationExpression,analyzeInvokationExpression,ambiguous,inScope,delegated,message]
    simp only [access]

def Identifier.declaresNamespace (identifier : Identifier) : Bool :=
  match identifier.use with
  | .typeName => true
  | _ => false

def nearest (project : Project) (unit : CompilationUnit) (identifier : Identifier) : Option SyntaxSymbol :=
  (lookup identifier.inner identifier.name).or (ownSymbol project unit identifier.declaresNamespace identifier.name)

def imports (project : Project) (unit : CompilationUnit) (name : String) : Option SyntaxSymbol :=
  (importedNodes project unit.usings).findSome? (exported project name)

def Shared (project : Project) (unit : CompilationUnit) (name : String) : Prop :=
  Contested (exported project name) (importedNodes project unit.usings)

structure Reaching (project : Project) (unit : CompilationUnit) (identifier : Identifier) (scopes : Scopes) : Prop where
  lookup_eq : lookup scopes identifier.name =
    (nearest project unit identifier).or ((imports project unit identifier.name).or (identifier.top.find identifier.name))
  ambiguous_iff : isAmbiguousName scopes identifier.name = true ↔ isAmbiguousName identifier.inner identifier.name = true ∨
    Shared project unit identifier.name ∨ identifier.name ∈ identifier.top.ambiguousNames
  owners_eq : scopes.map SemanticScope.owner =
    identifier.inner.map SemanticScope.owner ++ unitOwners unit identifier.top

theorem resolve_eq (project : Project) (unit : CompilationUnit) (identifier : Identifier) :
    ∃ scopes, resolve project unit identifier = resolveIn project unit.file scopes identifier ∧
      Reaching project unit identifier scopes := by
  obtain ⟨scopes,visited,layered⟩ := visitCompilationUnit_ok project unit identifier.top identifier.declaresNamespace
  have reached : unitScopes project unit identifier = .ok scopes := by
    rw [← visited,unitScopes,Identifier.declaresNamespace]
    cases identifier.use <;> rfl
  refine ⟨identifier.inner ++ scopes,?_,?_,?_,?_⟩
  · rw [resolve,reached]
  · rw [lookup_append,layered.lookup_eq,nearest,imports,Option.or_assoc]
  · rw [Shared,← layered.ambiguous_iff,isAmbiguousName,isAmbiguousName,isAmbiguousName,List.any_append,Bool.or_eq_true]
  · rw [List.map_append,layered.owners_eq]

theorem importedNodes_perm (same : usings.Perm unit.usings) :
    (importedNodes project usings).Perm (importedNodes project unit.usings) :=
  same.filterMap _

theorem shared_withUsings (same : usings.Perm unit.usings) (name : String) :
    Shared project (unit.withUsings usings) name ↔ Shared project unit name :=
  Contested.congr fun _ => (importedNodes_perm same).mem_iff

theorem resolve_perm (same : usings.Perm unit.usings)
    (settled : nearest project unit identifier ≠ none ∨ ¬ Shared project unit identifier.name) :
    resolve project (unit.withUsings usings) identifier = resolve project unit identifier := by
  obtain ⟨scopes,resolved,reaching⟩ := resolve_eq project (unit.withUsings usings) identifier
  obtain ⟨other,original,straight⟩ := resolve_eq project unit identifier
  rw [resolved,original]
  refine resolveIn_congr ?_ ?_ (reaching.owners_eq.trans straight.owners_eq.symm)
  · rw [reaching.lookup_eq,straight.lookup_eq]
    change (nearest project unit identifier).or _ = _
    obtain found | unshared := settled
    · obtain ⟨symbol,found⟩ := Option.ne_none_iff_exists'.1 found
      rw [found,Option.some_or,Option.some_or]
    · have imported : imports project (unit.withUsings usings) identifier.name = imports project unit identifier.name :=
        Library.findSome?_perm (importedNodes_perm same) unshared
      rw [imported]
  · rw [Bool.eq_iff_iff,reaching.ambiguous_iff,straight.ambiguous_iff,shared_withUsings same]

theorem exists_perm_imports {node : NamespaceNode} {symbol : SyntaxSymbol} {name : String}
    (inside : node ∈ importedNodes project unit.usings) (given : exported project name node = some symbol) :
    ∃ usings, usings.Perm unit.usings ∧ imports project (unit.withUsings usings) name = some symbol := by
  obtain ⟨tokensList,among,found⟩ := List.mem_filterMap.1 inside
  obtain ⟨before,after,split⟩ := List.append_of_mem among
  refine ⟨tokensList :: (before ++ after),?_,?_⟩
  · rw [split]
    exact List.perm_middle.symm
  · change (importedNodes project (tokensList :: (before ++ after))).findSome? (exported project name) = some symbol
    rw [importedNodes,List.filterMap_cons,found]
    dsimp only
    rw [List.findSome?_cons,given]

end Orders

section Independence

/-- Two orders agree on an identifier. Which error it is does not matter when the identifier stands for nothing. -/
def Agrees : Outcome → Outcome → Prop
  | .error _,.error _ => True
  | first,second => first = second

def IsImported (project : Project) (unit : CompilationUnit) (name : String) (symbol : SyntaxSymbol) : Prop :=
  ∃ node ∈ importedNodes project unit.usings, symbol ∈ node.members ∧ symbol.name = name

/-- Every order gives the same, and a name of two imported namespaces is not bound to a symbol of one of them. -/
def OrderIndependent (project : Project) (unit : CompilationUnit) (identifier : Identifier) : Prop :=
  (∀ usings : List (List String), usings.Perm unit.usings →
    Agrees (resolve project (unit.withUsings usings) identifier) (resolve project unit identifier)) ∧
  (Shared project unit identifier.name → ∀ symbol, IsImported project unit identifier.name symbol →
    resolve project unit identifier ≠ .bound symbol)

def Visible (unit : CompilationUnit) (symbol : SyntaxSymbol) : Prop :=
  symbol.accesibility = .acsPublic ∨ symbol.file = some unit.file

def Selected (accepts : SyntaxSymbol → Prop) (methods : List SyntaxSymbol) (symbol : SyntaxSymbol) : Prop :=
  ∃ before after, methods = before ++ symbol :: after ∧ accepts symbol ∧ ∀ earlier ∈ before, ¬ accepts earlier

/-- What the code comes to for the name. A call inside of a type tries the methods of the type, and then the static methods of
all namespaces in the order of their declarations. -/
def Reached (project : Project) (unit : CompilationUnit) (identifier : Identifier) (symbol : SyntaxSymbol) : Prop :=
  match identifier.use with
  | .call call => ∃ methods, call.ownerMethods = some methods ∧
      (Selected (fun method => method.name = identifier.name ∧ call.ownerAccepts method = true) methods symbol ∨
      (∀ method ∈ methods, ¬ (method.name = identifier.name ∧ call.ownerAccepts method = true)) ∧
        Selected (fun method => method.linking = .linkStatic ∧ method.name = identifier.name ∧ call.accepts method = true)
          project.methodSymbols symbol)
  | _ => nearest project unit identifier = some symbol ∨ nearest project unit identifier = none ∧
      ∃ node ∈ importedNodes project unit.usings, exported project identifier.name node = some symbol

def Usable (unit : CompilationUnit) (identifier : Identifier) (symbol : SyntaxSymbol) : Prop :=
  match identifier.use with
  | .typeName => ¬ (identifier.name = "auto" ∨ identifier.name = "Self") ∧ symbol.isType = true ∧ Visible unit symbol
  | .typeExpression => symbol.isType = true
  | .receiver _ _ => Visible unit symbol
  | .call _ => symbol.linking = .linkStatic ∧ Visible unit symbol

/-- The condition: when the name is shared, what the code comes to for it is not a symbol of one of the namespaces, or the use
rejects it. -/
def HoldsWhen (project : Project) (unit : CompilationUnit) (identifier : Identifier) : Prop :=
  Shared project unit identifier.name → ∀ symbol, Reached project unit identifier symbol →
    IsImported project unit identifier.name symbol → ¬ Usable unit identifier symbol

variable {project : Project} {unit : CompilationUnit} {identifier : Identifier} {scopes : Scopes} {symbol other : SyntaxSymbol}
  {node : NamespaceNode} {first second : Outcome}

theorem Agrees.of_eq (same : first = second) : Agrees first second := by
  subst same
  cases first <;> trivial

theorem Agrees.bound (agrees : Agrees (.bound symbol) first) : first = .bound symbol := by
  cases first with
  | error message => cases agrees
  | _ => exact Eq.symm agrees

section Members

theorem isSymbolAccessible_member (member : symbol ∈ node.members) (callSite : Nat) : isSymbolAccessible scopes callSite symbol =
    .ok (decide (symbol.accesibility = .acsPublic ∨ symbol.file = some callSite)) := by
  rw [isSymbolAccessible,if_neg (node.kind_ne member),node.parent_eq symbol member]
  by_cases shown : symbol.accesibility = .acsPublic
  · rw [if_pos shown,decide_eq_true (.inl shown)]
  · rw [if_neg shown]
    simp only [shown,false_or]

theorem bindAccessible_visible (member : symbol ∈ node.members) (visible : Visible unit symbol) (message : String) :
    bindAccessible scopes unit.file message symbol = .bound symbol := by
  have shown : symbol.accesibility = .acsPublic ∨ symbol.file = some unit.file := visible
  rw [bindAccessible,isSymbolAccessible_member member,decide_eq_true shown]

theorem bindAccessible_hidden (member : symbol ∈ node.members) (hidden : ¬ Visible unit symbol) (message : String) :
    bindAccessible scopes unit.file message symbol = .error message := by
  have unseen : ¬ (symbol.accesibility = .acsPublic ∨ symbol.file = some unit.file) := hidden
  rw [bindAccessible,isSymbolAccessible_member member,decide_eq_false unseen]

theorem bindAccessible_bound {callSite : Nat} {message : String}
    (bound : bindAccessible scopes callSite message symbol = .bound other) : other = symbol := by
  unfold bindAccessible at bound
  split at bound
  all_goals cases bound
  rfl

theorem isReceiver_member (member : symbol ∈ node.members) : isReceiver symbol = true := by
  obtain type | method := node.kind_eq symbol member
  · rw [isReceiver,type,Bool.true_or]
  · rw [isReceiver,method]
    exact Bool.or_true _

theorem bindReceiver_bound {callSite : Nat} {name : String} (bound : bindReceiver scopes callSite name symbol = .bound other) :
    other = symbol := by
  unfold bindReceiver at bound
  split at bound
  · rename_i chosen accessible
    split_ifs at bound
    cases bound
    exact bindAccessible_bound accessible
  · rename_i untouched
    exact absurd bound (untouched other)

end Members

section Names

variable (plain : ∀ call, identifier.use ≠ .call call) (found : lookup scopes identifier.name = some symbol)

def IsKeyword (identifier : Identifier) : Prop :=
  identifier.use = .typeName ∧ (identifier.name = "auto" ∨ identifier.name = "Self")

def Rejected (identifier : Identifier) (outcome : Outcome) : Prop :=
  IsKeyword identifier ∧ outcome = .keyword ∨ ¬ IsKeyword identifier ∧ ∃ message, outcome = .error message

theorem Rejected.agrees (one : Rejected identifier first) (two : Rejected identifier second) : Agrees first second := by
  obtain ⟨keyword,rfl⟩ | ⟨word,message,rfl⟩ := one
  · obtain ⟨-,rfl⟩ | ⟨word,-⟩ := two
    · rfl
    · exact absurd keyword word
  · obtain ⟨keyword,-⟩ | ⟨-,text,rfl⟩ := two
    · exact absurd keyword word
    · trivial

theorem Rejected.ne_bound (rejected : Rejected identifier first) : first ≠ .bound symbol := by
  rintro rfl
  obtain ⟨-,absurd⟩ | ⟨-,message,absurd⟩ := rejected <;> cases absurd

include plain found

theorem eq_of_bound {callSite : Nat} (bound : resolveIn project callSite scopes identifier = .bound other) : other = symbol := by
  unfold resolveIn at bound
  cases use : identifier.use with
  | typeName =>
    rw [use] at bound
    simp only [visitIdentifierNameType,found] at bound
    split_ifs at bound
    exact bindAccessible_bound bound
  | typeExpression =>
    rw [use] at bound
    simp only [resolveTypeExpression,found] at bound
    split_ifs at bound
    cases bound
    rfl
  | receiver enumValue invoked =>
    rw [use] at bound
    simp only [analyzeMemberAccessExpression,found] at bound
    split_ifs at bound
    exact bindReceiver_bound bound
  | call call => exact absurd use (plain call)

theorem bound_of_usable (member : symbol ∈ node.members) (usable : Usable unit identifier symbol) :
    resolveIn project unit.file scopes identifier = .bound symbol := by
  unfold Usable at usable
  unfold resolveIn
  cases use : identifier.use with
  | typeName =>
    rw [use] at usable
    obtain ⟨word,type,visible⟩ := usable
    simp only [visitIdentifierNameType,found,if_neg word,if_pos type]
    exact bindAccessible_visible member visible _
  | typeExpression =>
    rw [use] at usable
    simp only [resolveTypeExpression,found]
    exact if_pos usable
  | receiver enumValue invoked =>
    rw [use] at usable
    have ordinary : isNamespace symbol = false := decide_eq_false (node.kind_ne member)
    simp only [analyzeMemberAccessExpression,found,ordinary,Bool.false_eq_true,and_false,if_false,bindReceiver,
      bindAccessible_visible member usable,isReceiver_member member,if_true]
  | call call => exact absurd use (plain call)

theorem rejected_of_not_usable (member : symbol ∈ node.members) (unusable : ¬ Usable unit identifier symbol) :
    Rejected identifier (resolveIn project unit.file scopes identifier) := by
  unfold Usable at unusable
  unfold resolveIn Rejected IsKeyword
  cases use : identifier.use with
  | typeName =>
    rw [use] at unusable
    dsimp only at unusable
    by_cases word : identifier.name = "auto" ∨ identifier.name = "Self"
    · refine .inl ⟨⟨rfl,word⟩,?_⟩
      exact if_pos word
    · refine .inr ⟨fun keyword => word keyword.2,?_⟩
      simp only [visitIdentifierNameType,found,if_neg word]
      by_cases type : symbol.isType = true
      · rw [if_pos type]
        exact ⟨_,bindAccessible_hidden member (fun visible => unusable ⟨word,type,visible⟩) _⟩
      · exact ⟨_,if_neg type⟩
  | typeExpression =>
    rw [use] at unusable
    have rejected : resolveTypeExpression scopes identifier.name = .error "Symbol is not a type" := by
      rw [resolveTypeExpression,found]
      exact if_neg unusable
    exact .inr ⟨fun keyword => Use.noConfusion keyword.1,_,rejected⟩
  | receiver enumValue invoked =>
    rw [use] at unusable
    have ordinary : isNamespace symbol = false := decide_eq_false (node.kind_ne member)
    have rejected : analyzeMemberAccessExpression project scopes unit.file identifier.name enumValue invoked =
        .error ("Symbol '" ++ identifier.name ++ "' is not accessible") := by
      simp only [analyzeMemberAccessExpression,found,ordinary,Bool.false_eq_true,and_false,if_false,bindReceiver,
        bindAccessible_hidden member unusable]
    exact .inr ⟨fun keyword => Use.noConfusion keyword.1,_,rejected⟩
  | call call => exact absurd use (plain call)

end Names

section Orders

variable {usings : List (List String)}

theorem shared_imports (shared : Shared project unit identifier.name) :
    ∃ symbol, imports project unit identifier.name = some symbol := by
  obtain ⟨node,inside,-,-,-,given,-⟩ := shared
  refine Option.ne_none_iff_exists'.1 fun none => ?_
  rw [imports,List.findSome?_eq_none_iff] at none
  exact given (none node inside)

theorem exists_of_imports {name : String} (found : imports project unit name = some symbol) :
    ∃ node ∈ importedNodes project unit.usings, exported project name node = some symbol :=
  List.exists_of_findSome?_eq_some found

theorem lookup_shared (same : usings.Perm unit.usings) (shared : Shared project unit identifier.name)
    (late : nearest project unit identifier = none) (reaching : Reaching project (unit.withUsings usings) identifier scopes) :
    ∃ node ∈ importedNodes project unit.usings, ∃ symbol, exported project identifier.name node = some symbol ∧
      lookup scopes identifier.name = some symbol := by
  obtain ⟨symbol,found⟩ := shared_imports ((shared_withUsings same identifier.name).2 shared)
  obtain ⟨node,inside,given⟩ := exists_of_imports found
  refine ⟨node,(importedNodes_perm same).mem_iff.1 inside,symbol,given,?_⟩
  have absent : nearest project (unit.withUsings usings) identifier = none := late
  rw [reaching.lookup_eq,absent,Option.none_or,found,Option.some_or]

theorem lookup_nearest (near : nearest project unit identifier = some symbol) (reaching : Reaching project unit identifier scopes) :
    lookup scopes identifier.name = some symbol := by
  rw [reaching.lookup_eq,near,Option.some_or]

theorem orderIndependent_of_not_shared (unshared : ¬ Shared project unit identifier.name) :
    OrderIndependent project unit identifier :=
  ⟨fun _ same => .of_eq (resolve_perm same (.inr unshared)),fun shared => absurd shared unshared⟩

theorem reached_of_plain (plain : ∀ call, identifier.use ≠ .call call) : Reached project unit identifier symbol ↔
    nearest project unit identifier = some symbol ∨ nearest project unit identifier = none ∧
      ∃ node ∈ importedNodes project unit.usings, exported project identifier.name node = some symbol := by
  unfold Reached
  cases use : identifier.use with
  | call call => exact absurd use (plain call)
  | _ => rfl

theorem orderIndependent_iff_of_plain (plain : ∀ call, identifier.use ≠ .call call) :
    OrderIndependent project unit identifier ↔ HoldsWhen project unit identifier := by
  constructor
  · intro independent shared symbol reached imported usable
    obtain ⟨node,inside,member,named⟩ := imported
    have unbound := independent.2 shared symbol ⟨node,inside,member,named⟩
    obtain near | ⟨late,source,among,given⟩ := (reached_of_plain plain).1 reached
    · obtain ⟨scopes,resolved,reaching⟩ := resolve_eq project unit identifier
      rw [resolved] at unbound
      exact unbound (bound_of_usable plain (lookup_nearest near reaching) member usable)
    · obtain ⟨usings,same,first⟩ := exists_perm_imports among given
      obtain ⟨scopes,resolved,reaching⟩ := resolve_eq project (unit.withUsings usings) identifier
      have absent : nearest project (unit.withUsings usings) identifier = none := late
      have found : lookup scopes identifier.name = some symbol := by
        rw [reaching.lookup_eq,absent,Option.none_or,first,Option.some_or]
      have chosen : resolve project (unit.withUsings usings) identifier = .bound symbol :=
        resolved.trans (bound_of_usable plain found member usable)
      have agrees := independent.1 usings same
      rw [chosen] at agrees
      exact unbound agrees.bound
  · intro holds
    by_cases shared : Shared project unit identifier.name
    · cases near : nearest project unit identifier with
      | some symbol =>
        refine ⟨fun usings same => .of_eq (resolve_perm same (.inl (near ▸ Option.some_ne_none symbol))),fun _ other imported bound => ?_⟩
        obtain ⟨scopes,resolved,reaching⟩ := resolve_eq project unit identifier
        have found := lookup_nearest near reaching
        rw [resolved] at bound
        have same := eq_of_bound plain found bound
        subst same
        obtain ⟨node,inside,member,named⟩ := imported
        have unusable := holds shared other ((reached_of_plain plain).2 (.inl near)) ⟨node,inside,member,named⟩
        exact (rejected_of_not_usable plain found member unusable).ne_bound bound
      | none =>
        have rejected {usings : List (List String)} (same : usings.Perm unit.usings) :
            Rejected identifier (resolve project (unit.withUsings usings) identifier) := by
          obtain ⟨scopes,resolved,reaching⟩ := resolve_eq project (unit.withUsings usings) identifier
          obtain ⟨node,inside,symbol,given,found⟩ := lookup_shared same shared near reaching
          obtain ⟨member,named⟩ := exported_some given
          have unusable := holds shared symbol ((reached_of_plain plain).2 (.inr ⟨near,node,inside,given⟩)) ⟨node,inside,member,named⟩
          rw [resolved]
          exact rejected_of_not_usable plain found member unusable
        exact ⟨fun usings same => (rejected same).agrees (rejected (List.Perm.refl _)),
          fun _ symbol _ => (rejected (List.Perm.refl _)).ne_bound⟩
    · exact orderIndependent_of_not_shared shared

end Orders

section Calls

variable {call : Call} (use : identifier.use = .call call)

def selectedMethod (project : Project) (name : String) (call : Call) : Option SyntaxSymbol :=
  (ownMethod name call).or (staticMethod project name call)

variable {methods : List SyntaxSymbol}

theorem selected_iff {accepts : SyntaxSymbol → Prop} [DecidablePred accepts] :
    methods.find? (fun method => accepts method) = some symbol ↔ Selected accepts methods symbol := by
  rw [List.find?_eq_some_iff_append,Selected]
  simp only [decide_eq_true_eq,Bool.not_eq_true',decide_eq_false_iff_not]
  constructor
  · rintro ⟨accepted,before,after,split,none⟩
    exact ⟨before,after,split,accepted,none⟩
  · rintro ⟨before,after,split,accepted,none⟩
    exact ⟨accepted,before,after,split,none⟩

theorem selected_of_imported (imported : IsImported project unit identifier.name symbol) (kind : symbol.kind = .methodDeclaration)
    (accepted : call.accepts symbol = true) : selectedMethod project identifier.name call ≠ none := by
  obtain ⟨node,inside,member,named⟩ := imported
  obtain ⟨isStatic,registered⟩ := project.registered node.path node (listed_of_mem_importedNodes inside) symbol member kind
  intro none
  rw [selectedMethod,Option.or_eq_none_iff,staticMethod,List.find?_eq_none] at none
  exact none.2 symbol registered (decide_eq_true ⟨isStatic,named,accepted⟩)

include use

theorem reached_iff_of_call (inside : call.ownerMethods = some methods) :
    Reached project unit identifier symbol ↔ selectedMethod project identifier.name call = some symbol := by
  unfold Reached
  rw [use]
  dsimp only
  rw [selectedMethod,Option.or_eq_some_iff,ownMethod,staticMethod,inside,Option.getD_some,selected_iff,selected_iff,
    List.find?_eq_none]
  simp only [decide_eq_true_eq,Option.some.injEq,exists_eq_left']

theorem orderIndependent_of_outside (outside : call.ownerMethods = none) : OrderIndependent project unit identifier := by
  by_cases shared : Shared project unit identifier.name
  · have ambiguous {usings : List (List String)} (same : usings.Perm unit.usings) :
        resolve project (unit.withUsings usings) identifier = ambiguousReference identifier.name := by
      obtain ⟨scopes,resolved,reaching⟩ := resolve_eq project (unit.withUsings usings) identifier
      have noted := reaching.ambiguous_iff.2 (.inr (.inl ((shared_withUsings same identifier.name).2 shared)))
      rw [resolved,resolveIn,use]
      exact if_pos ⟨outside,noted⟩
    have original := ambiguous (List.Perm.refl unit.usings)
    refine ⟨fun usings same => .of_eq ((ambiguous same).trans original.symm),fun _ symbol _ bound => ?_⟩
    have none := original.symm.trans bound
    cases none
  · exact orderIndependent_of_not_shared shared

theorem resolveIn_inside (inside : call.ownerMethods = some methods) (callSite : Nat) :
    resolveIn project callSite scopes identifier =
      match (selectedMethod project identifier.name call).or (localMethod scopes identifier.name call) with
      | some method =>
          if method.linking = .linkInstance then
            .error ("Cannot call instance method '" ++ identifier.name ++ "' from type context")
          else bindAccessible scopes callSite ("Method '" ++ identifier.name ++ "' is not accessible") method
      | none =>
          match delegateMethod scopes identifier.name call with
          | some method => bindAccessible scopes callSite ("Method '" ++ identifier.name ++ "' is not accessible") method
          | none => .error (noMethod project scopes identifier.name call) := by
  have within : ¬ (call.ownerMethods = none ∧ isAmbiguousName scopes identifier.name = true) := by
    rw [inside]
    exact fun both => Option.some_ne_none methods both.1
  rw [resolveIn,use]
  dsimp only
  rw [analyzeInvokationExpression,if_neg within]
  rfl

theorem resolveIn_selected (inside : call.ownerMethods = some methods)
    (selected : selectedMethod project identifier.name call = some symbol) (callSite : Nat) :
    resolveIn project callSite scopes identifier =
      if symbol.linking = .linkInstance then .error ("Cannot call instance method '" ++ identifier.name ++ "' from type context")
      else bindAccessible scopes callSite ("Method '" ++ identifier.name ++ "' is not accessible") symbol := by
  rw [resolveIn_inside use inside,selected,Option.some_or]

theorem bound_of_unselected (inside : call.ownerMethods = some methods)
    (unselected : selectedMethod project identifier.name call = none) {callSite : Nat}
    (bound : resolveIn project callSite scopes identifier = .bound symbol) :
    localMethod scopes identifier.name call = some symbol ∨ delegateMethod scopes identifier.name call = some symbol := by
  rw [resolveIn_inside use inside,unselected,Option.none_or] at bound
  cases inScope : localMethod scopes identifier.name call with
  | some method =>
    rw [inScope] at bound
    dsimp only at bound
    split_ifs at bound
    rw [bindAccessible_bound bound]
    exact .inl rfl
  | none =>
    rw [inScope] at bound
    dsimp only at bound
    cases delegated : delegateMethod scopes identifier.name call with
    | some method =>
      rw [delegated] at bound
      rw [bindAccessible_bound bound]
      exact .inr rfl
    | none =>
      rw [delegated] at bound
      cases bound

theorem error_of_imported (inside : call.ownerMethods = some methods)
    (unselected : selectedMethod project identifier.name call = none) (imported : IsImported project unit identifier.name symbol)
    (found : lookup scopes identifier.name = some symbol) (callSite : Nat) :
    ∃ message, resolveIn project callSite scopes identifier = .error message := by
  obtain ⟨node,among,member,named⟩ := imported
  have inScope : localMethod scopes identifier.name call = none := by
    rw [localMethod,found,Option.filter_some,if_neg]
    intro matched
    obtain ⟨kind,-,accepted⟩ := of_decide_eq_true matched
    exact selected_of_imported ⟨node,among,member,named⟩ kind accepted unselected
  have delegated : delegateMethod scopes identifier.name call = none := by
    rw [delegateMethod,found]
    split_ifs
    · rfl
    · refine if_neg ?_
      obtain type | method := node.kind_eq symbol member
      · rintro (kind | kind | kind) <;> rw [SyntaxSymbol.isType,kind] at type <;> exact Bool.false_ne_true type
      · rw [method]
        rintro (kind | kind | kind) <;> cases kind
  rw [resolveIn_inside use inside,unselected,inScope,delegated]
  exact ⟨_,rfl⟩

theorem not_bound_of_unselected (inside : call.ownerMethods = some methods)
    (unselected : selectedMethod project identifier.name call = none) (imported : IsImported project unit identifier.name symbol)
    (callSite : Nat) : resolveIn project callSite scopes identifier ≠ .bound symbol := by
  intro bound
  obtain inScope | delegated := bound_of_unselected use inside unselected bound
  · obtain ⟨-,matched⟩ := Option.filter_eq_some_iff.1 inScope
    obtain ⟨kind,-,accepted⟩ := of_decide_eq_true matched
    exact selected_of_imported imported kind accepted unselected
  · rw [delegateMethod] at delegated
    split_ifs at delegated
    obtain ⟨target,-,invoked⟩ := Option.bind_eq_some_iff.1 delegated
    rw [tryResolveDelegateInvocation] at invoked
    split_ifs at invoked
    obtain ⟨node,-,member,-⟩ := imported
    exact call.delegate_parent target symbol node.path invoked (node.parent_eq symbol member)

theorem orderIndependent_of_unselected (inside : call.ownerMethods = some methods)
    (unselected : selectedMethod project identifier.name call = none) : OrderIndependent project unit identifier := by
  by_cases shared : Shared project unit identifier.name
  · refine ⟨fun usings same => ?_,fun _ symbol imported => ?_⟩
    · by_cases near : nearest project unit identifier = none
      · have error {usings : List (List String)} (same : usings.Perm unit.usings) :
            ∃ message, resolve project (unit.withUsings usings) identifier = .error message := by
          obtain ⟨scopes,resolved,reaching⟩ := resolve_eq project (unit.withUsings usings) identifier
          obtain ⟨node,among,symbol,given,found⟩ := lookup_shared same shared near reaching
          rw [resolved]
          exact error_of_imported use inside unselected ⟨node,among,exported_some given⟩ found _
        obtain ⟨message,failed⟩ := error same
        obtain ⟨text,original⟩ := error (List.Perm.refl unit.usings)
        rw [failed]
        change Agrees (.error message) (resolve project (unit.withUsings unit.usings) identifier)
        rw [original]
        trivial
      · exact .of_eq (resolve_perm same (.inl near))
    · obtain ⟨scopes,resolved,-⟩ := resolve_eq project unit identifier
      rw [resolved]
      exact not_bound_of_unselected use inside unselected imported _
  · exact orderIndependent_of_not_shared shared

theorem orderIndependent_iff_of_selected (inside : call.ownerMethods = some methods)
    (selected : selectedMethod project identifier.name call = some symbol) :
    OrderIndependent project unit identifier ↔ HoldsWhen project unit identifier := by
  have decided (usings : List (List String)) :
      resolve project (unit.withUsings usings) identifier = resolve project unit identifier := by
    obtain ⟨scopes,resolved,reaching⟩ := resolve_eq project (unit.withUsings usings) identifier
    obtain ⟨straight,original,reached⟩ := resolve_eq project unit identifier
    rw [resolved,original,resolveIn_selected use inside selected,resolveIn_selected use inside selected,
      bindAccessible,bindAccessible,isSymbolAccessible_congr (reaching.owners_eq.trans reached.owners_eq.symm)]
    rfl
  obtain ⟨scopes,resolved,-⟩ := resolve_eq project unit identifier
  constructor
  · intro independent shared other reached imported usable
    have same := (reached_iff_of_call use inside).1 reached
    rw [selected,Option.some.injEq] at same
    subst same
    refine independent.2 shared symbol imported ?_
    unfold Usable at usable
    rw [use] at usable
    obtain ⟨isStatic,visible⟩ := usable
    obtain ⟨node,-,member,-⟩ := imported
    have notInstance : ¬ symbol.linking = .linkInstance := by
      rw [isStatic]
      exact SymbolLinking.noConfusion
    rw [resolved,resolveIn_selected use inside selected,if_neg notInstance]
    exact bindAccessible_visible member visible _
  · intro holds
    refine ⟨fun usings _ => .of_eq (decided usings),fun shared other imported bound => ?_⟩
    rw [resolved,resolveIn_selected use inside selected] at bound
    split_ifs at bound with isInstance
    have same := bindAccessible_bound bound
    subst same
    refine holds shared other ((reached_iff_of_call use inside).2 selected) imported ?_
    unfold Usable
    rw [use]
    obtain ⟨node,-,member,-⟩ := imported
    constructor
    · cases linking : other.linking with
      | linkStatic => rfl
      | linkInstance => exact absurd linking isInstance
    · by_contra hidden
      rw [bindAccessible_hidden member hidden] at bound
      cases bound

theorem orderIndependent_iff_of_call : OrderIndependent project unit identifier ↔ HoldsWhen project unit identifier := by
  cases inside : call.ownerMethods with
  | none =>
    refine ⟨fun _ _ symbol reached => ?_,fun _ => orderIndependent_of_outside use inside⟩
    unfold Reached at reached
    rw [use] at reached
    obtain ⟨methods,some,-⟩ := reached
    rw [inside] at some
    cases some
  | some methods =>
    cases selected : selectedMethod project identifier.name call with
    | none =>
      refine ⟨fun _ _ symbol reached => ?_,fun _ => orderIndependent_of_unselected use inside selected⟩
      have some := (reached_iff_of_call use inside).1 reached
      rw [selected] at some
      cases some
    | some symbol => exact orderIndependent_iff_of_selected use inside selected

end Calls

end Independence

/-- Names do not depend on the order of the using directives exactly under the condition. -/
theorem orderIndependent_iff (project : Project) (unit : CompilationUnit) (identifier : Identifier) :
    OrderIndependent project unit identifier ↔ HoldsWhen project unit identifier := by
  cases use : identifier.use with
  | call call => exact orderIndependent_iff_of_call use
  | _ =>
    refine orderIndependent_iff_of_plain fun call isCall => ?_
    rw [use] at isCall
    cases isCall

section TwoNamespaces

def classX (file : Nat) (path : NamespacePath) : SyntaxSymbol :=
  { definitionIndex := file, kind := .classDeclaration, name := "X", parent := some (.namespaceDeclaration path),
    accesibility := .acsPublic, linking := .linkInstance, file := some file }

def namespaceWith (name : String) (file : Nat) : NamespaceNode :=
  { path := [name], fullName := name, members := [classX file [name]], parent_eq := List.forall_mem_singleton.2 rfl,
    kind_eq := List.forall_mem_singleton.2 (.inl rfl) }

def globalNamespace : NamespaceNode :=
  { path := [], fullName := "<global>", members := [], parent_eq := List.forall_mem_nil _, kind_eq := List.forall_mem_nil _ }

def twoNodes (path : NamespacePath) : Option NamespaceNode :=
  [globalNamespace,namespaceWith "A" 0,namespaceWith "B" 1].find? fun node => node.path = path

def twoNamespaces : NamespaceTree where
  root := globalNamespace
  node := twoNodes
  root_eq := rfl
  path_eq path found known := by
    have same := List.find?_some known
    exact of_decide_eq_true same

def insertionOrder : SetOrder where
  enumerate := List.dedup
  mem_enumerate _ _ := List.mem_dedup
  nodup_enumerate := List.nodup_dedup

theorem classesOnly : ∀ node ∈ [globalNamespace,namespaceWith "A" 0,namespaceWith "B" 1], ∀ member ∈ node.members,
    member.kind ≠ .methodDeclaration := by
  decide

def twoClasses : Project where
  namespaces := twoNamespaces
  setOrder := insertionOrder
  methodSymbols := []
  registered path node found member inside kind := by
    have known : twoNodes path = some node := found
    exact absurd kind (classesOnly node (List.mem_of_find?_eq_some known) member inside)

def importingUnit (usings : List (List String)) : CompilationUnit where
  file := 2
  usings := usings
  namespaceSymbol := none
  members := []
  namespace_kind _ _ none := nomatch none
  members_nodup := List.nodup_nil
  member_parent := List.forall_mem_nil _

def typeX : Identifier := { name := "X", inner := [], top := .fresh none none, use := .typeName }

/-- The type `X` is silently the one of the namespace that is imported first. -/
theorem resolve_swapped :
    resolve twoClasses (importingUnit [["A"],["B"]]) typeX = .bound (classX 0 ["A"]) ∧
    resolve twoClasses (importingUnit [["B"],["A"]]) typeX = .bound (classX 1 ["B"]) ∧
    ¬ OrderIndependent twoClasses (importingUnit [["A"],["B"]]) typeX := by
  have straight : resolve twoClasses (importingUnit [["A"],["B"]]) typeX = .bound (classX 0 ["A"]) := by decide +kernel
  have swapped : resolve twoClasses (importingUnit [["B"],["A"]]) typeX = .bound (classX 1 ["B"]) := by decide +kernel
  refine ⟨straight,swapped,fun independent => ?_⟩
  have agrees := independent.1 [["B"],["A"]] (List.Perm.swap _ _ _)
  change Agrees (resolve twoClasses (importingUnit [["B"],["A"]]) typeX) _ at agrees
  rw [straight,swapped] at agrees
  have same := agrees.bound
  revert same
  decide

end TwoNamespaces

end ShardScript.Binding
