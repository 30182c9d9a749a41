import ShardScript.Library.Priority
import ShardScript.Binding.Scope

/-! Using directives. The members of each imported namespace come into the scope of the compilation unit, and a name that an
earlier namespace has brought already is noted as ambiguous. The type binder and the expression binder do it alike. -/
namespace ShardScript.Binding
open Library (Contested)

structure NamespaceTree where
  root : NamespaceNode
  node : NamespacePath → Option NamespaceNode
  root_eq : node [] = some root
  path_eq : ∀ path found, node path = some found → found.path = path

structure SetOrder where
  enumerate : List SyntaxSymbol → List SyntaxSymbol
  mem_enumerate : ∀ members symbol, symbol ∈ enumerate members ↔ symbol ∈ members
  nodup_enumerate : ∀ members, (enumerate members).Nodup

structure Project where
  namespaces : NamespaceTree
  setOrder : SetOrder
  methodSymbols : List SyntaxSymbol
  registered : ∀ path node, namespaces.node path = some node → ∀ member ∈ node.members, member.kind = .methodDeclaration →
    member.linking = .linkStatic ∧ member ∈ methodSymbols

structure ImportState where
  scope : SemanticScope
  diagnostics : List String

section Imports

def importSymbol (nsMemberSet : List SyntaxSymbol) (scope : SemanticScope) (symbol : SyntaxSymbol) : Except String SemanticScope :=
  match scope.symbols symbol.name with
  | some existing =>
      if existing ≠ symbol ∧ existing ∉ nsMemberSet then
        if existing.kind ≠ .variableStatement ∧ existing.kind ≠ .parameter then
          .ok { scope with ambiguousNames := insert symbol.name scope.ambiguousNames }
        else .ok scope
      else .ok scope
  | none => scope.declareSymbol symbol

variable (project : Project)

def importNamespace (state : ImportState) (node : NamespaceNode) : Except String ImportState :=
  if node.path ∈ state.scope.importedNamespaces then
    .ok { state with diagnostics := state.diagnostics ++ ["Namespace is already imported"] }
  else do
    let scope ← (project.setOrder.enumerate node.members).foldlM (importSymbol node.members)
      { state.scope with importedNamespaces := insert node.path state.scope.importedNamespaces }
    return { state with scope := scope }

def findNamespace (node : NamespaceNode) : List String → Except String NamespaceNode
  | [] => .ok node
  | word :: words =>
      match project.namespaces.node (node.path ++ [word]) with
      | none => .error ("Identifier '" ++ word ++ "' doesnt exists in namespace '" ++ node.fullName ++ "'")
      | some next => findNamespace next words

def visitUsingDirective (state : ImportState) (tokensList : List String) : Except String ImportState :=
  match findNamespace project project.namespaces.root tokensList with
  | .error message => .ok { state with diagnostics := state.diagnostics ++ [message] }
  | .ok node => importNamespace project state node

def visitUsings (usings : List (List String)) : Except String ImportState :=
  usings.foldlM (visitUsingDirective project) ⟨.fresh none none,[]⟩

end Imports

section Namespaces

variable {first second : NamespaceNode}

theorem NamespaceNode.path_unique {symbol : SyntaxSymbol} (inFirst : symbol ∈ first.members)
    (inSecond : symbol ∈ second.members) : first.path = second.path := by
  have same := first.parent_eq symbol inFirst
  rw [second.parent_eq symbol inSecond,Option.some.injEq,Owner.namespaceDeclaration.injEq] at same
  exact same.symm

variable {project : Project}

def Listed (project : Project) (node : NamespaceNode) : Prop := project.namespaces.node node.path = some node

theorem Listed.eq_of_path (listed : Listed project first) (other : Listed project second)
    (same : first.path = second.path) : first = second := by
  rw [Listed,same,other] at listed
  cases listed
  rfl

theorem Listed.eq_of_mem {symbol : SyntaxSymbol} (listed : Listed project first)
    (other : Listed project second) (inFirst : symbol ∈ first.members) (inSecond : symbol ∈ second.members) : first = second :=
  listed.eq_of_path other (NamespaceNode.path_unique inFirst inSecond)

theorem findNamespace_listed {node found : NamespaceNode} {words : List String} (listed : Listed project node)
    (reached : findNamespace project node words = .ok found) : Listed project found := by
  induction words generalizing node with
  | nil =>
    cases reached
    exact listed
  | cons word words ih =>
    rw [findNamespace] at reached
    cases known : project.namespaces.node (node.path ++ [word]) with
    | none =>
      rw [known] at reached
      cases reached
    | some next =>
      rw [known] at reached
      refine ih ?_ reached
      rw [Listed,project.namespaces.path_eq _ _ known]
      exact known

theorem root_listed : Listed project project.namespaces.root := by
  have root := project.namespaces.root_eq
  rw [Listed,project.namespaces.path_eq _ _ root]
  exact root

def importedNodes (project : Project) (usings : List (List String)) : List NamespaceNode :=
  usings.filterMap fun tokensList => (findNamespace project project.namespaces.root tokensList).toOption

def exported (project : Project) (name : String) (node : NamespaceNode) : Option SyntaxSymbol :=
  (project.setOrder.enumerate node.members).find? fun member => member.name = name

theorem exported_some {name : String} {node : NamespaceNode} {symbol : SyntaxSymbol}
    (found : exported project name node = some symbol) : symbol ∈ node.members ∧ symbol.name = name := by
  refine ⟨(project.setOrder.mem_enumerate _ _).1 (List.mem_of_find?_eq_some found),?_⟩
  have named := List.find?_some found
  exact of_decide_eq_true named

theorem exported_ne_none {name : String} {node : NamespaceNode} :
    exported project name node ≠ none ↔ ∃ member ∈ node.members, member.name = name := by
  rw [exported,Option.ne_none_iff_isSome,List.find?_isSome]
  simp only [project.setOrder.mem_enumerate,decide_eq_true_eq]

theorem listed_of_mem_importedNodes {usings : List (List String)} {node : NamespaceNode}
    (member : node ∈ importedNodes project usings) : Listed project node := by
  obtain ⟨tokensList,-,found⟩ := List.mem_filterMap.1 member
  cases reached : findNamespace project project.namespaces.root tokensList with
  | error message =>
    rw [reached] at found
    cases found
  | ok known =>
    rw [reached] at found
    cases found
    exact findNamespace_listed root_listed reached

end Namespaces

section Members

variable {members symbols : List SyntaxSymbol} {symbol : SyntaxSymbol} {scope next last : SemanticScope}

def Taken (members : List SyntaxSymbol) (scope : SemanticScope) (name : String) : Prop :=
  ∃ existing, scope.symbols name = some existing ∧ existing ∉ members ∧
    existing.kind ≠ .variableStatement ∧ existing.kind ≠ .parameter

structure Merged (members symbols : List SyntaxSymbol) (scope next : SemanticScope) : Prop where
  owner_eq : next.owner = scope.owner
  namespaceNode_eq : next.namespaceNode = scope.namespaceNode
  importedNamespaces_eq : next.importedNamespaces = scope.importedNamespaces
  symbols_eq : ∀ name, next.symbols name = (scope.symbols name).or (symbols.find? fun symbol => symbol.name = name)
  ambiguous_iff : ∀ name, name ∈ next.ambiguousNames ↔
    name ∈ scope.ambiguousNames ∨ Taken members scope name ∧ ∃ symbol ∈ symbols, symbol.name = name

theorem declareSymbol_new (new : scope.symbols symbol.name = none) : scope.declareSymbol symbol =
    .ok { scope with symbols := Function.update scope.symbols symbol.name (some symbol) } := by
  refine if_neg ?_
  rw [new]
  exact (Option.some_ne_none symbol).symm

theorem importSymbol_ok (member : symbol ∈ members) (scope : SemanticScope) :
    ∃ next, importSymbol members scope symbol = .ok next ∧ Merged members [symbol] scope next := by
  have single (name : String) : ((∃ other ∈ [symbol], other.name = name) ↔ symbol.name = name) := by
    simp only [List.mem_singleton,exists_eq_left]
  cases known : scope.symbols symbol.name with
  | none =>
    refine ⟨{ scope with symbols := Function.update scope.symbols symbol.name (some symbol) },?_,rfl,rfl,rfl,?_,?_⟩
    · unfold importSymbol
      rw [known]
      exact declareSymbol_new known
    · intro name
      by_cases same : symbol.name = name
      · subst same
        rw [known,Option.none_or,List.find?_singleton,if_pos (decide_eq_true rfl)]
        exact Function.update_self _ _ _
      · rw [List.find?_singleton,if_neg (by simpa only [decide_eq_true_eq] using same),Option.or_none]
        exact Function.update_of_ne (Ne.symm same) _ _
    · intro name
      rw [single]
      constructor
      · exact .inl
      · rintro (already | ⟨⟨existing,taken,-⟩,rfl⟩)
        · exact already
        · rw [known] at taken
          cases taken
  | some existing =>
    have kept (name : String) : scope.symbols name =
        (scope.symbols name).or ([symbol].find? fun symbol => symbol.name = name) := by
      by_cases same : symbol.name = name
      · subst same
        rw [known,Option.some_or]
      · rw [List.find?_singleton,if_neg (by simpa only [decide_eq_true_eq] using same),Option.or_none]
    have untaken (free : ¬ Taken members scope symbol.name) (name : String) : name ∈ scope.ambiguousNames ↔
        name ∈ scope.ambiguousNames ∨ Taken members scope name ∧ ∃ other ∈ [symbol], other.name = name := by
      rw [single]
      constructor
      · exact .inl
      · rintro (already | ⟨taken,rfl⟩)
        · exact already
        · exact absurd taken free
    unfold importSymbol
    rw [known]
    dsimp only
    split_ifs with foreign kinds
    · refine ⟨_,rfl,rfl,rfl,rfl,kept,?_⟩
      intro name
      rw [single,Finset.mem_insert]
      constructor
      · rintro (rfl | already)
        · exact .inr ⟨⟨existing,known,foreign.2,kinds⟩,rfl⟩
        · exact .inl already
      · rintro (already | ⟨-,rfl⟩)
        · exact .inr already
        · exact .inl rfl
    · refine ⟨_,rfl,rfl,rfl,rfl,kept,untaken ?_⟩
      rintro ⟨other,found,-,plain⟩
      rw [known] at found
      cases found
      exact kinds plain
    · refine ⟨_,rfl,rfl,rfl,rfl,kept,untaken ?_⟩
      rintro ⟨other,found,outside,-⟩
      rw [known] at found
      cases found
      refine foreign ⟨?_,outside⟩
      rintro rfl
      exact outside member

theorem Merged.cons (first : Merged members [symbol] scope next) (rest : Merged members symbols next last)
    (member : symbol ∈ members) : Merged members (symbol :: symbols) scope last := by
  have found (name : String) : next.symbols name = (scope.symbols name).or ([symbol].find? fun symbol => symbol.name = name) :=
    first.symbols_eq name
  refine ⟨rest.owner_eq.trans first.owner_eq,rest.namespaceNode_eq.trans first.namespaceNode_eq,
    rest.importedNamespaces_eq.trans first.importedNamespaces_eq,?_,?_⟩
  · intro name
    rw [rest.symbols_eq,found,Option.or_assoc,← List.find?_append]
    rfl
  · intro name
    -- A symbol that has just been declared is of this namespace, so it takes no name.
    have same : Taken members next name ↔ Taken members scope name := by
      cases known : scope.symbols name with
      | some existing => rw [Taken,Taken,found,known,Option.some_or]
      | none =>
        rw [Taken,Taken,found,known,Option.none_or]
        constructor
        · rintro ⟨existing,declared,outside,-⟩
          have among := List.mem_of_find?_eq_some declared
          rw [List.mem_singleton] at among
          subst among
          exact absurd member outside
        · rintro ⟨existing,absent,-⟩
          cases absent
    rw [rest.ambiguous_iff,first.ambiguous_iff,same]
    simp only [List.exists_mem_cons_iff,List.not_mem_nil,false_and,exists_false,or_false]
    tauto

theorem importSymbols_ok (within : ∀ symbol ∈ symbols, symbol ∈ members) (scope : SemanticScope) :
    ∃ next, symbols.foldlM (importSymbol members) scope = .ok next ∧ Merged members symbols scope next := by
  induction symbols generalizing scope with
  | nil =>
    refine ⟨scope,rfl,rfl,rfl,rfl,fun name => Option.or_none.symm,fun name => ?_⟩
    simp only [List.not_mem_nil,false_and,exists_false,and_false,or_false]
  | cons symbol symbols ih =>
    obtain ⟨next,stepped,first⟩ := importSymbol_ok (within symbol List.mem_cons_self) scope
    obtain ⟨last,ran,rest⟩ := ih (fun other inside => within other (List.mem_cons_of_mem _ inside)) next
    refine ⟨last,?_,first.cons rest (within symbol List.mem_cons_self)⟩
    rw [List.foldlM_cons,stepped]
    exact ran

end Members

section Directives

variable {project : Project} {nodes : List NamespaceNode} {node : NamespaceNode} {state : ImportState}

/-- The scope of a unit that has imported these namespaces: the first of them that has a name decides what it stands for, and
the name is ambiguous when a second one has it. -/
structure Imported (project : Project) (nodes : List NamespaceNode) (scope : SemanticScope) : Prop where
  owner_eq : scope.owner = none
  namespaceNode_eq : scope.namespaceNode = none
  imported_iff : ∀ path, path ∈ scope.importedNamespaces ↔ ∃ node ∈ nodes, node.path = path
  symbols_eq : ∀ name, scope.symbols name = nodes.findSome? (exported project name)
  ambiguous_iff : ∀ name, name ∈ scope.ambiguousNames ↔ Contested (exported project name) nodes

theorem imported_fresh : Imported project [] (.fresh none none) := by
  refine ⟨rfl,rfl,fun path => ?_,fun name => rfl,fun name => ?_⟩
  · simp only [SemanticScope.fresh,Finset.notMem_empty,List.not_mem_nil,false_and,exists_false]
  · simp only [SemanticScope.fresh,Contested,Finset.notMem_empty,List.not_mem_nil,false_and,exists_false]

theorem taken_iff (before : Imported project nodes state.scope) (listed : ∀ known ∈ nodes, Listed project known)
    (isListed : Listed project node) (new : node ∉ nodes) (scope : SemanticScope) (same : scope.symbols = state.scope.symbols)
    (name : String) : Taken node.members scope name ↔ ∃ known ∈ nodes, exported project name known ≠ none := by
  constructor
  · rintro ⟨existing,found,-⟩
    rw [same,before.symbols_eq] at found
    obtain ⟨known,among,given⟩ := List.exists_of_findSome?_eq_some found
    refine ⟨known,among,?_⟩
    rw [given]
    exact Option.some_ne_none existing
  · rintro ⟨known,among,has⟩
    have some : nodes.findSome? (exported project name) ≠ none := by
      intro none
      rw [List.findSome?_eq_none_iff] at none
      exact has (none known among)
    obtain ⟨existing,found⟩ := Option.ne_none_iff_exists'.1 some
    obtain ⟨source,inside,given⟩ := List.exists_of_findSome?_eq_some found
    have own := (exported_some given).1
    refine ⟨existing,?_,?_,?_,?_⟩
    · rw [same,before.symbols_eq,found]
    · intro shared
      rw [(listed source inside).eq_of_mem isListed own shared] at inside
      exact new inside
    all_goals
      intro kind
      obtain type | method := source.kind_eq existing own
      · rw [SyntaxSymbol.isType,kind] at type
        exact Bool.false_ne_true type
      · rw [kind] at method
        cases method

theorem importNamespace_ok (before : Imported project nodes state.scope) (listed : ∀ known ∈ nodes, Listed project known)
    (isListed : Listed project node) :
    ∃ next, importNamespace project state node = .ok next ∧ Imported project (nodes ++ [node]) next.scope := by
  by_cases known : node.path ∈ state.scope.importedNamespaces
  · obtain ⟨twin,among,same⟩ := (before.imported_iff _).1 known
    rw [(listed twin among).eq_of_path isListed same] at among
    have members (other : NamespaceNode) : other ∈ nodes ++ [node] ↔ other ∈ nodes := by
      rw [List.mem_append,List.mem_singleton]
      exact or_iff_left_of_imp fun same => same ▸ among
    refine ⟨_,if_pos known,before.owner_eq,before.namespaceNode_eq,fun path => ?_,fun name => ?_,fun name => ?_⟩
    · simp only [members]
      exact before.imported_iff path
    · rw [Library.findSome?_snoc_of_mem among]
      exact before.symbols_eq name
    · rw [Contested.congr members]
      exact before.ambiguous_iff name
  · have new : node ∉ nodes := fun among => known ((before.imported_iff _).2 ⟨node,among,rfl⟩)
    let start := { state.scope with importedNamespaces := insert node.path state.scope.importedNamespaces }
    obtain ⟨scope,ran,merged⟩ :=
      importSymbols_ok (fun symbol inside => (project.setOrder.mem_enumerate node.members symbol).1 inside) start
    refine ⟨{ state with scope := scope },?_,merged.owner_eq.trans before.owner_eq,
      merged.namespaceNode_eq.trans before.namespaceNode_eq,fun path => ?_,fun name => ?_,fun name => ?_⟩
    · rw [importNamespace,if_neg known,ran]
      rfl
    · rw [merged.importedNamespaces_eq,Finset.mem_insert,before.imported_iff]
      simp only [List.mem_append,List.mem_singleton,or_and_right,exists_or,exists_eq_left]
      rw [or_comm,eq_comm]
    · rw [merged.symbols_eq,before.symbols_eq,List.findSome?_append,List.findSome?_singleton]
      rfl
    · have noted : name ∈ start.ambiguousNames ↔ Contested (exported project name) nodes := before.ambiguous_iff name
      rw [merged.ambiguous_iff,noted,taken_iff before listed isListed new start rfl,Library.contested_snoc new,exported_ne_none]
      simp only [project.setOrder.mem_enumerate]
      rw [and_comm]

theorem importedNodes_append (first second : List (List String)) :
    importedNodes project (first ++ second) = importedNodes project first ++ importedNodes project second :=
  List.filterMap_append

theorem visitUsingDirective_ok (before : Imported project nodes state.scope) (listed : ∀ known ∈ nodes, Listed project known)
    (tokensList : List String) : ∃ next, visitUsingDirective project state tokensList = .ok next ∧
      Imported project (nodes ++ importedNodes project [tokensList]) next.scope := by
  cases found : findNamespace project project.namespaces.root tokensList with
  | error message =>
    have missing : importedNodes project [tokensList] = [] := by
      rw [importedNodes,List.filterMap_cons,found]
      rfl
    rw [visitUsingDirective,found,missing,List.append_nil]
    exact ⟨_,rfl,before⟩
  | ok node =>
    have present : importedNodes project [tokensList] = [node] := by
      rw [importedNodes,List.filterMap_cons,found]
      rfl
    rw [visitUsingDirective,found,present]
    exact importNamespace_ok before listed (findNamespace_listed root_listed found)

theorem visitUsingDirectives_ok (before : Imported project nodes state.scope) (listed : ∀ known ∈ nodes, Listed project known)
    (usings : List (List String)) : ∃ next, usings.foldlM (visitUsingDirective project) state = .ok next ∧
      Imported project (nodes ++ importedNodes project usings) next.scope := by
  induction usings generalizing nodes state with
  | nil =>
    refine ⟨state,rfl,?_⟩
    rw [importedNodes,List.filterMap_nil,List.append_nil]
    exact before
  | cons tokensList usings ih =>
    obtain ⟨middle,stepped,imported⟩ := visitUsingDirective_ok before listed tokensList
    have allListed : ∀ known ∈ nodes ++ importedNodes project [tokensList], Listed project known := by
      intro known inside
      obtain inside | inside := List.mem_append.1 inside
      · exact listed known inside
      · exact listed_of_mem_importedNodes inside
    obtain ⟨next,ran,done⟩ := ih imported allListed
    rw [List.append_assoc,← importedNodes_append] at done
    refine ⟨next,?_,done⟩
    rw [List.foldlM_cons,stepped]
    exact ran

theorem visitUsings_ok (project : Project) (usings : List (List String)) :
    ∃ state, visitUsings project usings = .ok state ∧ Imported project (importedNodes project usings) state.scope :=
  visitUsingDirectives_ok imported_fresh (List.forall_mem_nil _) usings

end Directives

end ShardScript.Binding
