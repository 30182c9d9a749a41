import ShardScript.Types.Rules

/-! `IsAssignableTo` as an order on types: it respects `AreTypesEqual`, and is transitive where the interfaces of a type
contain what its constructed interfaces extend. -/
namespace ShardScript.Types

variable {table : SymbolTable} {target target' source source' : TypeSymbol}

section Signatures

theorem forall₂_through {α β γ : Type} {first : α → β → Prop} {second : α → γ → Prop} {third : β → γ → Prop} {left : List α}
    {middle : List β} {right : List γ} (h : List.Forall₂ first left middle) (h' : List.Forall₂ second left right)
    (through : ∀ item ∈ left,∀ item' ∈ middle,∀ item'',first item item' → second item item'' → third item' item'') :
    List.Forall₂ third middle right := by
  induction h generalizing right with
  | nil =>
      cases h'
      exact .nil
  | cons here _ ih =>
      obtain ⟨item'',rest,there,later,rfl⟩ := List.forall₂_cons_left_iff.mp h'
      refine .cons (through _ List.mem_cons_self _ List.mem_cons_self _ here there) (ih later ?_)
      intro item member item' member' item''
      exact through item (List.mem_cons_of_mem _ member) item' (List.mem_cons_of_mem _ member') item''

theorem eq_of_owned {number other index : Nat} (delegate : table.isDelegate (.declared number) = true)
    (delegate' : table.isDelegate (.declared other) = true)
    (member : TypeSymbol.typeParameter (.type other) index ∈
      (table.declaration number).returnType :: (table.declaration number).parameters) : other = number := by
  rw [isDelegate_iff] at delegate delegate'
  have inside : number < table.declarations.length := by
    by_contra outside
    rw [SymbolTable.declaration,List.getD_eq_default _ _ (Nat.le_of_not_lt outside)] at delegate
    cases delegate
  have own := table.signatures number inside delegate _ member
  rw [SymbolTable.declaration] at delegate'
  simp only [ownsParameter,delegate',bne_self_eq_false,Bool.false_or,beq_iff_eq] at own
  exact own

theorem delegateArgument_of_foreign {address underlaying index : Nat} {typeArguments : List TypeSymbol} {parent : Parent}
    (foreign : parent ≠ .type underlaying) :
    delegateArgument (.generic address underlaying typeArguments) (.typeParameter parent index) =
      .typeParameter parent index := by
  have missing : (TypeSymbol.generic address underlaying typeArguments).substituteTypeParameters parent index = .null :=
    if_neg foreign
  simp only [delegateArgument,missing,if_true]

theorem delegateArgument_equals (address address' : Nat) {underlaying underlaying' : Nat} {arguments arguments' : List TypeSymbol}
    (size : arguments.length = table.arity underlaying) (size' : arguments'.length = table.arity underlaying')
    (delegate : table.isDelegate (.declared underlaying) = true) (delegate' : table.isDelegate (.declared underlaying') = true)
    (equal : ∀ index < table.arity underlaying,Equals table (arguments.getD index .null) (arguments'.getD index .null))
    {type type' : TypeSymbol}
    (member : type ∈ (table.declaration underlaying).returnType :: (table.declaration underlaying).parameters)
    (member' : type' ∈ (table.declaration underlaying').returnType :: (table.declaration underlaying').parameters)
    (same : Equals table type type') :
    Equals table (delegateArgument (.generic address underlaying arguments) type)
      (delegateArgument (.generic address' underlaying' arguments') type') := by
  have bare {parent : Parent} {index : Nat} (h : type = .typeParameter parent index) : type' = .typeParameter parent index := by
    subst h
    exact eq_of_equals_typeParameter same
  have bare' {parent : Parent} {index : Nat} (h : type' = .typeParameter parent index) : type = .typeParameter parent index := by
    subst h
    exact eq_of_equals_typeParameter same.symm
  cases type with
  | typeParameter parent index =>
      obtain rfl := bare rfl
      by_cases one : underlaying = underlaying'
      · subst one
        by_cases own : parent = .type underlaying
        · subst own
          simp only [delegateArgument,substituteTypeParameters_generic]
          by_cases inside : index < table.arity underlaying
          · have here := equal index inside
            rwa [if_neg here.left_ne_null,if_neg here.right_ne_null]
          · have missing : arguments.getD index .null = .null :=
              List.getD_eq_default _ _ (size ▸ Nat.le_of_not_lt inside)
            have missing' : arguments'.getD index .null = .null :=
              List.getD_eq_default _ _ (size' ▸ Nat.le_of_not_lt inside)
            rwa [if_pos missing,if_pos missing']
        · rwa [delegateArgument_of_foreign own,delegateArgument_of_foreign own]
      · have foreign : parent ≠ .type underlaying := by
          rintro rfl
          exact one (eq_of_owned delegate' delegate member')
        have foreign' : parent ≠ .type underlaying' := by
          rintro rfl
          exact one (eq_of_owned delegate delegate' member).symm
        rwa [delegateArgument_of_foreign foreign,delegateArgument_of_foreign foreign']
  | _ =>
      cases type' with
      | typeParameter => cases bare' rfl
      | _ => exact same

end Signatures

section Respect

variable {number : Nat}

theorem plain_of_interface (kind : (table.declaration number).kind = .interfaceDeclaration) :
    table.isDelegate (.declared number) = false := isDelegate_eq_false (by rw [kind]; exact nofun)

theorem plain_of_implements {iface : TypeSymbol} (implements : Implements table number iface) :
    table.isDelegate (.declared number) = false := by
  apply isDelegate_eq_false
  intro kind
  exact implements.ne_nil ((table.declaration number).delegateOnly kind)

theorem inlining_of_equals_declared (equal : Equals table (.declared number) target')
    (byReference : inlining table (.declared number) = .byReference) : inlining table target' = .byReference := by
  by_cases delegate : table.isDelegate (.declared number) = true
  · obtain ⟨number',rfl,delegate',-⟩ := equals_delegate delegate equal
    exact (table.declaration number').byReference (.inr (isDelegate_iff.mp delegate'))
  · rwa [eq_of_equals_declared (Bool.eq_false_iff.mpr delegate) equal]

theorem inlining_of_equals (equal : Equals table target target') (byReference : inlining table target = .byReference) :
    inlining table target' = .byReference := by
  cases target with
  | null => exact absurd rfl equal.left_ne_null
  | declared => exact inlining_of_equals_declared equal byReference
  | typeParameter => rwa [eq_of_equals_typeParameter equal]
  | array =>
      obtain ⟨_,_,_,rfl,-⟩ := equals_array equal
      rfl
  | generic _ underlayingType _ =>
      obtain ⟨_,_,_,rfl,same,-⟩ := equals_generic equal
      have underlaying : inlining table (.declared underlayingType) = .byReference := byReference
      have here := inlining_of_equals_declared same underlaying
      exact here

theorem length_of_isWhole {address underlayingType : Nat} {typeArguments : List TypeSymbol}
    (whole : isWhole table (.generic address underlayingType typeArguments) = true) :
    typeArguments.length = table.arity underlayingType := by
  rw [isWhole,Bool.and_eq_true,beq_iff_eq] at whole
  exact whole.1

theorem Takes.respects_target (takes : Takes table target source) (whole : isWhole table target = true)
    (whole' : isWhole table target' = true) (equal : Equals table target target') : Takes table target' source := by
  cases takes with
  | equal same => exact .equal (equal.symm.trans same)
  | any present =>
      rw [eq_of_equals_declared (isDelegate_eq_false isPrimitive_any.2) equal]
      exact .any present
  | null _ byReference => exact .null equal.right_ne_null (inlining_of_equals equal byReference)
  | iface kind found implements =>
      rw [eq_of_equals_declared (plain_of_interface kind) equal]
      exact .iface kind found implements
  | constructed kind found implements arguments =>
      obtain ⟨_,_,_,rfl,underlaying,same⟩ := equals_generic equal
      cases eq_of_equals_declared (plain_of_interface kind) underlaying
      exact .constructed kind found implements fun index inside => (same index inside).symm.trans (arguments index inside)
  | element kind single first =>
      obtain ⟨_,_,_,rfl,underlaying,same⟩ := equals_generic equal
      cases eq_of_equals_declared (plain_of_interface kind) underlaying
      exact .element kind single ((same 0 (single ▸ Nat.zero_lt_one)).symm.trans first)
  | @delegate address underlaying number targetArguments own other signature =>
      obtain ⟨address',_,_,rfl,underlaying,same⟩ := equals_generic equal
      obtain ⟨_,h,own',returnType,parameters⟩ := equals_delegate own underlaying
      cases h
      have size := length_of_isWhole whole
      have size' := length_of_isWhole whole'
      refine .delegate own' other ⟨?_,forall₂_through parameters signature.parameters ?_⟩
      · have part := delegateArgument_equals address address' size size' own own' same List.mem_cons_self List.mem_cons_self returnType
        exact part.symm.trans signature.returnType
      · intro parameter member parameter' member' _ here there
        have part := delegateArgument_equals address address' size size' own own' same (List.mem_cons_of_mem _ member)
          (List.mem_cons_of_mem _ member') here
        exact part.symm.trans there

theorem sourceArgument_equals {type : TypeSymbol} (whole : isWhole table source = true) (implementing : ∀ {number : Nat},
      baseOf table source = some number → table.isDelegate (.declared number) = false)
    (equal : Equals table source source') (complete : Complete table (sourceArgument source type)) :
    Equals table (sourceArgument source type) (sourceArgument source' type) := by
  cases type with
  | typeParameter parent index =>
      cases source with
      | generic address underlayingType typeArguments =>
          obtain ⟨_,_,_,rfl,underlaying,same⟩ := equals_generic equal
          cases eq_of_equals_declared (implementing rfl) underlaying
          have present : (TypeSymbol.generic address underlayingType typeArguments).substituteTypeParameters parent index ≠
            .null := complete.ne_null
          have own := (mem_of_substituted present).1
          subst own
          simp only [sourceArgument,substituteTypeParameters_generic] at complete ⊢
          apply same index
          rw [← length_of_isWhole whole]
          by_contra outside
          exact complete.ne_null (List.getD_eq_default _ _ (Nat.le_of_not_lt outside))
      | null => exact absurd rfl equal.left_ne_null
      | array =>
          obtain ⟨_,_,_,rfl,-⟩ := equals_array equal
          exact complete.refl
      | typeParameter =>
          rw [eq_of_equals_typeParameter equal]
          exact complete.refl
      | declared =>
          rw [eq_of_equals_declared (implementing rfl) equal]
          exact complete.refl
  | _ => exact complete.refl

theorem Takes.respects_source (takes : Takes table target source) (whole : isWhole table source = true)
    (equal : Equals table source source') : Takes table target source' := by
  cases takes with
  | equal same => exact .equal (same.trans equal)
  | any => exact .any equal.right_ne_null
  | null present byReference =>
      rw [eq_of_equals_declared (isDelegate_eq_false isPrimitive_null.2) equal]
      exact .null present byReference
  | iface kind found implements =>
      cases source with
      | declared =>
          cases found
          rw [eq_of_equals_declared (plain_of_implements implements) equal]
          exact .iface kind rfl implements
      | array =>
          obtain ⟨_,_,_,rfl,-⟩ := equals_array equal
          exact .iface kind found implements
      | _ => cases found
  | constructed kind found implements arguments =>
      have plain {number : Nat} (h : baseOf table source = some number) : table.isDelegate (.declared number) = false := by
        cases found.symm.trans h
        exact plain_of_implements implements
      have found' : baseOf table source' = baseOf table source := by
        cases source with
        | declared => rw [eq_of_equals_declared (plain rfl) equal]
        | array =>
            obtain ⟨_,_,_,rfl,-⟩ := equals_array equal
            rfl
        | generic =>
            obtain ⟨_,_,_,rfl,underlaying,-⟩ := equals_generic equal
            cases eq_of_equals_declared (plain rfl) underlaying
            rfl
        | _ => cases found
      refine .constructed kind (found'.trans found) implements fun index inside => ?_
      have here := arguments index inside
      exact here.trans (sourceArgument_equals whole plain equal here.complete)
  | element kind single first =>
      obtain ⟨_,_,_,rfl,same⟩ := equals_array equal
      exact .element kind single (first.trans same)
  | delegate own other signature =>
      obtain ⟨_,rfl,other',returnType,parameters⟩ := equals_delegate other equal
      refine .delegate own other' ⟨signature.returnType.trans returnType,?_⟩
      exact forall₂_through signature.parameters.flip parameters fun _ _ _ _ _ here there => Equals.trans here there

end Respect

section Transitivity

variable {middle : TypeSymbol}

theorem Takes.of_any (takes : Takes table target (.declared table.any)) (present : source ≠ .null) : Takes table target source := by
  generalize same : TypeSymbol.declared table.any = middle at takes
  have nothing {iface : TypeSymbol} (implements : Implements table table.any iface) : False :=
    implements.ne_nil declaration_any_interfaces
  cases takes with
  | equal equal =>
      subst same
      rw [eq_of_equals_declared (isDelegate_eq_false isPrimitive_any.2) equal.symm]
      exact .any present
  | any => exact .any present
  | null =>
      injection same with same
      exact absurd same table.any_ne_null
  | iface _ found implements =>
      subst same
      cases found
      exact (nothing implements).elim
  | constructed _ found implements =>
      subst same
      cases found
      exact (nothing implements).elim
  | element => cases same
  | delegate _ other =>
      cases same
      exact absurd (isDelegate_iff.mp other) isPrimitive_any.2

theorem Takes.of_reference (takes : Takes table target middle) (byReference : inlining table middle = .byReference) :
    Takes table target (.declared table.null) := by
  have present := takes.present.1
  cases takes with
  | equal equal => exact .null present (inlining_of_equals equal.symm byReference)
  | any => exact .any nofun
  | null present referenced => exact .null present referenced
  | iface kind => exact .null present ((table.declaration _).byReference (.inl kind))
  | constructed kind => exact .null present ((table.declaration _).byReference (.inl kind))
  | element kind => exact .null present ((table.declaration _).byReference (.inl kind))
  | delegate own => exact .null present ((table.declaration _).byReference (.inr (isDelegate_iff.mp own)))

theorem sourceArgument_of_declarationOf {base : Nat} (found : declarationOf table source = some base) (type : TypeSymbol) :
    sourceArgument source type = type := by
  cases source with
  | declared => cases type <;> rfl
  | array => cases type <;> rfl
  | _ => cases found

theorem baseOf_of_declarationOf {base : Nat} (found : declarationOf table source = some base) :
    baseOf table source = some base := by
  cases source with
  | generic => cases found
  | _ => exact found

theorem Takes.of_iface {number base : Nat} (takes : Takes table target (.declared number))
    (kind : (table.declaration number).kind = .interfaceDeclaration) (found : declarationOf table source = some base)
    (implements : Implements table base (.declared number)) : Takes table target source := by
  generalize same : TypeSymbol.declared number = middle at takes
  cases takes with
  | equal equal =>
      subst same
      rw [eq_of_equals_declared (plain_of_interface kind) equal.symm]
      exact .iface kind found implements
  | any => exact .any (ne_null_of_declarationOf found)
  | null =>
      injection same with same
      rw [same] at kind
      exact absurd kind isPrimitive_null.1
  | iface kind' found' implements' =>
      subst same
      cases found'
      exact .iface kind' found (implements.trans implements')
  | constructed kind' found' implements' equal =>
      subst same
      cases found'
      refine .constructed kind' (baseOf_of_declarationOf found) (implements.trans implements') fun index inside => ?_
      have itself : declarationOf table (.declared number) = some number := rfl
      have here := equal index inside
      rw [sourceArgument_of_declarationOf itself] at here
      rwa [sourceArgument_of_declarationOf found]
  | element => cases same
  | delegate _ other =>
      cases same
      rw [isDelegate_iff.mp other] at kind
      cases kind

/-- Every constructed interface that a constructed interface of a declaration extends is there among the interfaces of the
declaration itself, with the arguments put in. -/
def Inherits (table : SymbolTable) : Prop :=
  ∀ (number address underlaying : Nat) (arguments : List TypeSymbol) (address' root : Nat) (typeArguments : List TypeSymbol),
    Implements table number (.generic address underlaying arguments) →
    (table.declaration underlaying).kind = .interfaceDeclaration →
    Complete table (.generic address underlaying arguments) →
    Implements table underlaying (.generic address' root typeArguments) →
    (table.declaration root).kind = .interfaceDeclaration →
    (∀ index < table.arity root,
      Complete table (sourceArgument (.generic address underlaying arguments) (typeArguments.getD index .null))) →
    ∃ address'' typeArguments',Implements table number (.generic address'' root typeArguments') ∧
      ∀ index < table.arity root,Equals table
        (sourceArgument (.generic address underlaying arguments) (typeArguments.getD index .null))
        (typeArguments'.getD index .null)

theorem sourceArgument_cases (source type : TypeSymbol) :
    sourceArgument source type = type ∨
      ∃ address underlaying arguments parent index,source = .generic address underlaying arguments ∧
        type = .typeParameter parent index ∧ sourceArgument source type = source.substituteTypeParameters parent index := by
  cases type with
  | typeParameter parent index =>
      cases source with
      | generic address underlaying arguments => exact .inr ⟨address,underlaying,arguments,parent,index,rfl,rfl,rfl⟩
      | _ => exact .inl rfl
  | _ => exact .inl rfl

theorem sourceArgument_congr {type type' : TypeSymbol} (equal : Equals table type type')
    (complete : Complete table (sourceArgument source type)) :
    Equals table (sourceArgument source type) (sourceArgument source type') := by
  cases type with
  | typeParameter =>
      rw [eq_of_equals_typeParameter equal]
      rw [← eq_of_equals_typeParameter equal] at complete ⊢
      exact complete.refl
  | _ =>
      cases type' with
      | typeParameter => cases eq_of_equals_typeParameter equal.symm
      | _ => exact equal

theorem complete_of_seen {type : TypeSymbol} (complete : Complete table (sourceArgument source type)) : Complete table type := by
  rcases sourceArgument_cases source type with same | ⟨_,_,_,parent,index,_,rfl,_⟩
  · rwa [same] at complete
  · exact complete_typeParameter parent index

theorem Takes.of_generic {address underlaying : Nat} {arguments : List TypeSymbol}
    (takes : Takes table target (.generic address underlaying arguments)) :
    Equals table target (.generic address underlaying arguments) ∨ target = .declared table.any ∨
      ∃ address' address'' root targetArguments typeArguments,target = .generic address' root targetArguments ∧
        (table.declaration root).kind = .interfaceDeclaration ∧
        Implements table underlaying (.generic address'' root typeArguments) ∧
        ∀ index < table.arity root,Equals table (targetArguments.getD index .null)
          (sourceArgument (.generic address underlaying arguments) (typeArguments.getD index .null)) := by
  generalize same : TypeSymbol.generic address underlaying arguments = middle at takes
  cases takes with
  | equal equal => exact .inl equal
  | any => exact .inr (.inl rfl)
  | null => cases same
  | iface _ found =>
      subst same
      cases found
  | constructed kind found implements equal =>
      subst same
      cases found
      exact .inr (.inr ⟨_,_,_,_,_,rfl,kind,implements,equal⟩)
  | element => cases same
  | delegate => cases same

theorem sourceArgument_through (address address' : Nat) {underlaying : Nat} {arguments inner : List TypeSymbol} {result type : TypeSymbol}
    (size : arguments.length = table.arity underlaying)
    (equal : ∀ index < table.arity underlaying,
      Equals table (arguments.getD index .null) (sourceArgument source (inner.getD index .null)))
    (seen : Equals table result (sourceArgument (.generic address underlaying arguments) type)) :
    Complete table (sourceArgument (.generic address' underlaying inner) type) ∧
      ∀ type',Equals table (sourceArgument (.generic address' underlaying inner) type) type' →
        Equals table result (sourceArgument source type') := by
  cases type with
  | typeParameter parent index =>
      have present : (TypeSymbol.generic address underlaying arguments).substituteTypeParameters parent index ≠ .null :=
        seen.right_ne_null
      obtain rfl := (mem_of_substituted present).1
      simp only [sourceArgument,substituteTypeParameters_generic] at seen ⊢
      have inside : index < table.arity underlaying := by
        rw [← size]
        by_contra outside
        exact seen.right_ne_null (List.getD_eq_default _ _ (Nat.le_of_not_lt outside))
      have here := equal index inside
      refine ⟨complete_of_seen here.complete,fun type' same => ?_⟩
      exact (seen.trans here).trans (sourceArgument_congr same here.complete)
  | _ =>
      refine ⟨seen.complete,fun type' same => ?_⟩
      rcases sourceArgument_cases source type' with kept | ⟨_,_,_,_,_,_,rfl,_⟩
      · rw [kept]
        exact seen.trans same
      · cases eq_of_equals_typeParameter same.symm

theorem Takes.trans (inherits : Inherits table) (whole : isWhole table source = true) (whole' : isWhole table middle = true)
    (whole'' : isWhole table target = true) (first : Takes table middle source) (second : Takes table target middle) :
    Takes table target source := by
  have present := first.present.2
  have takes := first
  cases first with
  | equal equal => exact second.respects_source whole' equal
  | any => exact second.of_any present
  | null _ byReference => exact second.of_reference byReference
  | iface kind found implements => exact second.of_iface kind found implements
  | @constructed _ _ inner underlaying base arguments typeArguments kind found implements equal =>
      rcases second.of_generic with same | rfl | ⟨_,_,_,_,_,rfl,kind',implements',equal'⟩
      · exact takes.respects_target whole' whole'' same.symm
      · exact .any present
      · have size := length_of_isWhole whole'
        have complete : Complete table (.generic inner underlaying typeArguments) := by
          apply complete_generic (complete_of_interface (congrArg some kind))
          intro argument member
          obtain ⟨index,inside,rfl⟩ := List.mem_map.mp member
          exact complete_of_seen (equal index (List.mem_range.mp inside)).complete
        have through (index : Nat) (inside : index < table.arity _) :=
          sourceArgument_through _ inner size equal (equal' index inside)
        obtain ⟨_,_,implements'',same⟩ := inherits _ _ _ _ _ _ _ implements kind complete implements' kind'
          fun index inside => (through index inside).1
        exact .constructed kind' found implements'' fun index inside => (through index inside).2 _ (same index inside)
  | element kind single equal =>
      rcases second.of_generic with same | rfl | ⟨_,_,_,_,_,rfl,-,implements,-⟩
      · exact takes.respects_target whole' whole'' same.symm
      · exact .any present
      · exact absurd declaration_iEnumerable_interfaces implements.ne_nil
  | delegate own other signature =>
      rcases second.of_generic with same | rfl | ⟨_,_,_,_,_,rfl,-,implements,-⟩
      · exact takes.respects_target whole' whole'' same.symm
      · exact .any present
      · rw [plain_of_implements implements] at own
        cases own

end Transitivity

section Preorder

/-- `AreTypesEqual` is an equivalence relation and `IsAssignableTo` a preorder that respects it, and both come to an end. -/
structure IsPreorder (table : SymbolTable) : Prop where
  equal_refl : ∀ type,isWhole table type = true → Equals table type type
  equal_symm : ∀ left right,Equals table left right → Equals table right left
  equal_trans : ∀ left middle right,Equals table left middle → Equals table middle right → Equals table left right
  equal_terminates : ∀ left right,isWhole table left = true → ∃ fuel,(areTypesEqual table fuel left right).isSome
  refl : ∀ type,isWhole table type = true → Assignable table type type
  trans : ∀ first second third,isWhole table first = true → isWhole table second = true → isWhole table third = true →
    Assignable table second first → Assignable table third second → Assignable table third first
  respects : ∀ first second second',isWhole table second = true → isWhole table second' = true →
    Assignable table second first → Equals table second' second → Assignable table second' first
  terminates : ∀ target source,isWhole table target = true → ∃ fuel,(isAssignableTo table fuel target source).isSome

theorem IsPreorder.delegatesComplete (preorder : IsPreorder table) : DelegatesComplete table :=
  fun number _ => (preorder.equal_refl (.declared number) rfl).complete

theorem Implements.tidy {number : Nat} {iface : TypeSymbol} (implements : Implements table number iface) :
    isTidy table.declarations iface = true := by
  obtain ⟨declaration,declared,member⟩ := implements.present
  exact table.interfaces declaration declared iface member

theorem tidy_getD {types : List TypeSymbol} (tidy : areTidy table.declarations types = true) (index : Nat) :
    isTidy table.declarations (types.getD index .null) = true := by
  rw [List.getD_eq_getElem?_getD]
  rcases found : types[index]? with _ | type
  · rfl
  · exact (areTidy_iff types).mp tidy type (List.mem_of_getElem? found)

theorem tidy_arguments {address underlayingType : Nat} {typeArguments : List TypeSymbol}
    (tidy : isTidy table.declarations (.generic address underlayingType typeArguments) = true) :
    areTidy table.declarations typeArguments = true := by
  rw [isTidy,Bool.and_eq_true] at tidy
  exact tidy.2

theorem tidy_sourceArgument {address underlaying : Nat} {arguments : List TypeSymbol} {type : TypeSymbol}
    (tidy : areTidy table.declarations arguments = true) (tidy' : isTidy table.declarations type = true) :
    isTidy table.declarations (sourceArgument (.generic address underlaying arguments) type) = true := by
  rcases sourceArgument_cases (.generic address underlaying arguments) type with same | ⟨_,_,_,parent,index,h,rfl,same⟩
  · rwa [same]
  · cases h
    rw [same,TypeSymbol.substituteTypeParameters]
    split
    · exact tidy_getD tidy index
    · rfl

theorem Takes.of_constructed {number address root : Nat} {targetArguments : List TypeSymbol}
    (takes : Takes table (.generic address root targetArguments) (.declared number))
    (kind : (table.declaration root).kind = .interfaceDeclaration) (other : number ≠ table.null) :
    ∃ address' typeArguments,Implements table number (.generic address' root typeArguments) ∧
      ∀ index < table.arity root,Equals table (targetArguments.getD index .null) (typeArguments.getD index .null) := by
  generalize same : TypeSymbol.declared number = source at takes
  cases takes with
  | equal equal =>
      obtain ⟨_,_,_,rfl,-⟩ := equals_generic equal
      cases same
  | null =>
      injection same with same
      exact absurd same other
  | constructed _ found implements equal =>
      subst same
      cases found
      refine ⟨_,_,implements,fun index inside => ?_⟩
      have itself : declarationOf table (.declared number) = some number := rfl
      have here := equal index inside
      rwa [sourceArgument_of_declarationOf itself] at here
  | element => cases same
  | delegate own =>
      rw [isDelegate_iff.mp own] at kind
      cases kind

theorem getD_map_range {size index : Nat} (inside : index < size) (type : Nat → TypeSymbol) :
    ((List.range size).map type).getD index .null = type index := by
  simp [inside]

theorem IsPreorder.inherits (preorder : IsPreorder table) : Inherits table := by
  intro number address underlaying arguments address' root typeArguments implements kind complete implements' kind' seen
  have delegates := preorder.delegatesComplete
  have tidy := implements.tidy
  have whole := isWhole_of_complete _ tidy complete
  -- The constructed interface that a value of the one between is assignable to.
  let argument (index : Nat) := sourceArgument (.generic address underlaying arguments) (typeArguments.getD index .null)
  let target : TypeSymbol := .generic 0 root ((List.range (table.arity root)).map argument)
  have whole' : isWhole table target = true := by
    rw [isWhole,Bool.and_eq_true,beq_iff_eq,List.length_map,List.length_range]
    refine ⟨rfl,(areWhole_iff _).mpr fun type member => ?_⟩
    obtain ⟨index,inside,rfl⟩ := List.mem_map.mp member
    apply isWhole_of_complete _ _ (seen index (List.mem_range.mp inside))
    exact tidy_sourceArgument (tidy_arguments tidy) (tidy_getD (tidy_arguments implements'.tidy) index)
  have first : Assignable table (.generic address underlaying arguments) (.declared number) := by
    refine (assignable_iff delegates whole).mpr (.constructed kind rfl implements fun index inside => ?_)
    have itself : declarationOf table (.declared number) = some number := rfl
    rw [sourceArgument_of_declarationOf itself]
    exact ((List.forall_mem_cons.mp complete.parts).2 _ (List.mem_map.mpr ⟨index,List.mem_range.mpr inside,rfl⟩)).refl
  have second : Assignable table target (.generic address underlaying arguments) := by
    refine (assignable_iff delegates whole').mpr (.constructed kind' rfl implements' fun index inside => ?_)
    rw [getD_map_range inside]
    exact (seen index inside).refl
  have both := preorder.trans (.declared number) _ target rfl whole whole' first second
  have other : number ≠ table.null := by
    rintro rfl
    exact implements.ne_nil declaration_null_interfaces
  obtain ⟨address'',typeArguments',implements'',same⟩ :=
    ((assignable_iff delegates whole').mp both).of_constructed kind' other
  refine ⟨address'',typeArguments',implements'',fun index inside => ?_⟩
  have here := same index inside
  rwa [getD_map_range inside] at here

/-- Assignability is a preorder that respects the equality of types exactly where no signature of a delegate has missing or
endless parts and every declaration has the interfaces that its constructed interfaces extend. -/
theorem isPreorder_iff : IsPreorder table ↔ DelegatesComplete table ∧ Inherits table := by
  constructor
  · exact fun preorder => ⟨preorder.delegatesComplete,preorder.inherits⟩
  · rintro ⟨delegates,inherits⟩
    have complete {type : TypeSymbol} (whole : isWhole table type = true) := complete_of_isWhole delegates type whole
    constructor
    case equal_refl => exact fun _ whole => (complete whole).refl
    case equal_symm => exact fun _ _ => Equals.symm
    case equal_trans => exact fun _ _ _ => Equals.trans
    case equal_terminates =>
      intro left right whole
      obtain ⟨fuel,known⟩ := complete whole
      exact ⟨fuel,areTypesEqual_isSome known right⟩
    case refl =>
      intro type whole
      exact (assignable_iff delegates whole).mpr (.equal (complete whole).refl)
    case trans =>
      intro first second third whole whole' whole'' assignable assignable'
      rw [assignable_iff delegates whole'] at assignable
      rw [assignable_iff delegates whole''] at assignable' ⊢
      exact assignable.trans inherits whole whole' whole'' assignable'
    case respects =>
      intro first second second' whole whole' assignable equal
      rw [assignable_iff delegates whole] at assignable
      rw [assignable_iff delegates whole']
      exact assignable.respects_target whole whole' equal.symm
    case terminates =>
      intro target source whole
      obtain ⟨fuel,decided⟩ := isAssignableTo_terminates delegates whole source
      exact ⟨fuel,decided fuel (Nat.le_refl fuel)⟩

section Hierarchies

/-- `struct Integer`, `interface I<T>`, `interface J<T> : I<T>` and `class A : J<int>` -/
def hierarchy : SymbolTable where
  declarations := [.plainStruct,
    { TypeDeclaration.plainInterface with typeParameters := ["T"] },
    { kind := .interfaceDeclaration, typeParameters := ["T"],
      interfaces := [.generic 0 1 [.typeParameter (.type 2) 0]],byReference := TypeDeclaration.plainInterface.byReference },
    { interfaces := [.generic 1 2 [.declared 0]],byReference := TypeDeclaration.plainClass.byReference }]
  any := 4
  null := 5
  array := 6
  iEnumerable := 7
  any_ne_null := four_ne_five

/-- An object of the class goes into a variable of the type `J<int>`, a value of that into one of the type `I<int>`, and the
object not into that one. -/
theorem not_transitive :
    Assignable hierarchy (.generic 2 2 [.declared 0]) (.declared 3) ∧
      Assignable hierarchy (.generic 3 1 [.declared 0]) (.generic 2 2 [.declared 0]) ∧
      ¬ Assignable hierarchy (.generic 3 1 [.declared 0]) (.declared 3) ∧ ¬ IsPreorder hierarchy := by
  have first : Assignable hierarchy (.generic 2 2 [.declared 0]) (.declared 3) := ⟨3,by decide⟩
  have second : Assignable hierarchy (.generic 3 1 [.declared 0]) (.generic 2 2 [.declared 0]) := ⟨3,by decide⟩
  have refused : ¬ Assignable hierarchy (.generic 3 1 [.declared 0]) (.declared 3) := by
    rintro ⟨fuel,assignable⟩
    have accepted := isAssignableTo_extends (Nat.le_max_left fuel 3) _ _ true assignable
    have known : isAssignableTo hierarchy 3 (.generic 3 1 [.declared 0]) (.declared 3) = some false := by decide
    rw [isAssignableTo_extends (Nat.le_max_right fuel 3) _ _ false known] at accepted
    cases accepted
  exact ⟨first,second,refused,fun preorder => refused (preorder.trans _ _ _ rfl rfl rfl first second)⟩

end Hierarchies

end Preorder

end ShardScript.Types
