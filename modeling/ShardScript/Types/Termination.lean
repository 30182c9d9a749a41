import ShardScript.Types.Assignability

/-! `AreTypesEqual` and `IsAssignableTo` come to an end on types without missing or endless parts, in every graph of
interfaces. -/
namespace ShardScript.Types

open Library (Verdict unvisited exists_explore)

variable {table : SymbolTable} {fuel : Nat}

section Comparison

theorem mem_padded_of_mem_pairs {left right : List TypeSymbol} {size : Nat} {pair : TypeSymbol × TypeSymbol}
    (member : pair ∈ pairs left right size) : pair.1 ∈ padded left size := by
  obtain ⟨index,inside,rfl⟩ := List.mem_map.mp member
  exact List.mem_map.mpr ⟨index,inside,rfl⟩

theorem areTypesEqual_isSome {left : TypeSymbol} (complete : isComplete table fuel left) (right : TypeSymbol) :
    (areTypesEqual table fuel left right).isSome := by
  induction fuel generalizing left right with
  | zero => exact complete.elim
  | succ fuel ih =>
      have inside (types : List TypeSymbol) (size : Nat) {others : List TypeSymbol}
          (parts : ∀ part ∈ padded types size,isComplete table fuel part) :
          (Verdict.every (fun pair => areTypesEqual table fuel pair.1 pair.2) (pairs types others size)).isSome :=
        Verdict.isSome_every fun pair member => ih (parts _ (mem_padded_of_mem_pairs member)) _
      cases left with
      | null => rfl
      | typeParameter => rfl
      | array _ element _ =>
          cases right with
          | array => exact ih (complete.2 element List.mem_cons_self) _
          | _ => rfl
      | generic _ underlayingType typeArguments =>
          cases right with
          | generic =>
              have parts := List.forall_mem_cons.mp complete.2
              refine Verdict.isSome_both (ih parts.1 _) ?_
              split
              · exact inside _ _ parts.2
              · rfl
          | _ => rfl
      | declared number =>
          by_cases delegate : table.isDelegate (.declared number) = true
          · have parts := complete.2
            simp only [Types.parts,delegate,if_true] at parts
            rw [List.forall_mem_cons] at parts
            cases right with
            | declared number' =>
                by_cases delegate' : table.isDelegate (.declared number') = true
                · simp only [areTypesEqual,delegate,delegate',if_true]
                  refine Verdict.isSome_both (ih parts.1 _) ?_
                  split
                  · refine inside _ _ fun part member => parts.2 part ?_
                    rwa [padded_length] at member
                  · rfl
                · simp only [areTypesEqual,delegate,delegate',if_true]
                  rfl
            | _ =>
                simp only [areTypesEqual,delegate,if_true]
                rfl
          · simp only [areTypesEqual,delegate]
            rfl

end Comparison

section Wholeness

mutual

/-- No type is missing in it, and every constructed type has as many arguments as it should. -/
def isWhole (table : SymbolTable) : TypeSymbol → Bool
  | .null => false
  | .declared _ | .typeParameter _ _ => true
  | .array _ underlayingType _ => isWhole table underlayingType
  | .generic _ underlayingType typeArguments =>
      typeArguments.length == table.arity underlayingType && areWhole table typeArguments

def areWhole (table : SymbolTable) : List TypeSymbol → Bool
  | [] => true
  | type :: types => isWhole table type && areWhole table types

end

theorem areWhole_iff (types : List TypeSymbol) : areWhole table types = true ↔ ∀ type ∈ types,isWhole table type = true := by
  induction types with
  | nil => simp [areWhole]
  | cons type types ih => rw [areWhole,Bool.and_eq_true,ih,List.forall_mem_cons]

theorem areTidy_iff (types : List TypeSymbol) :
    areTidy table.declarations types = true ↔ ∀ type ∈ types,isTidy table.declarations type = true := by
  induction types with
  | nil => simp [areTidy]
  | cons type types ih => rw [areTidy,Bool.and_eq_true,ih,List.forall_mem_cons]

/-- No delegate has a signature with missing parts or with the delegate itself inside. -/
def DelegatesComplete (table : SymbolTable) : Prop :=
  ∀ number,table.isDelegate (.declared number) = true → Complete table (.declared number)

theorem complete_declared (delegates : DelegatesComplete table) (number : Nat) : Complete table (.declared number) := by
  by_cases delegate : table.isDelegate (.declared number) = true
  · exact delegates number delegate
  · apply complete_of_not_delegate
    simpa [SymbolTable.isDelegate] using delegate

theorem complete_typeParameter (parent : Parent) (index : Nat) : Complete table (.typeParameter parent index) :=
  ⟨1,nofun,nofun⟩

theorem Complete.array {address length : Nat} {element : TypeSymbol} (complete : Complete table element) :
    Complete table (.array address element length) := by
  obtain ⟨fuel,complete⟩ := complete
  refine ⟨fuel + 1,nofun,fun part member => ?_⟩
  rwa [List.mem_singleton.mp member]

theorem Complete.parts {type : TypeSymbol} (complete : Complete table type) :
    ∀ part ∈ Types.parts table type,Complete table part := by
  obtain ⟨_ | fuel,complete⟩ := complete
  · exact complete.elim
  · exact fun part member => ⟨fuel,complete.2 part member⟩

mutual

theorem complete_of_isWhole (delegates : DelegatesComplete table) : ∀ type : TypeSymbol,isWhole table type = true →
    Complete table type
  | .null,whole => by cases whole
  | .declared number,_ => complete_declared delegates number
  | .typeParameter parent index,_ => complete_typeParameter parent index
  | .array _ underlayingType _,whole => (complete_of_isWhole delegates underlayingType whole).array
  | .generic _ underlayingType typeArguments,whole => by
      rw [isWhole,Bool.and_eq_true,beq_iff_eq] at whole
      apply complete_generic (complete_declared delegates underlayingType)
      rw [← whole.1,padded_length]
      exact complete_of_areWhole delegates typeArguments whole.2

theorem complete_of_areWhole (delegates : DelegatesComplete table) : ∀ types : List TypeSymbol,areWhole table types = true →
    ∀ type ∈ types,Complete table type
  | [],_ => nofun
  | type :: types,whole => by
      rw [areWhole,Bool.and_eq_true] at whole
      rw [List.forall_mem_cons]
      exact ⟨complete_of_isWhole delegates type whole.1,complete_of_areWhole delegates types whole.2⟩

end

mutual

theorem isWhole_of_complete : ∀ type : TypeSymbol,isTidy table.declarations type = true → Complete table type →
    isWhole table type = true
  | .null,_,complete => absurd rfl complete.ne_null
  | .declared _,_,_ => rfl
  | .typeParameter _ _,_,_ => rfl
  | .array _ underlayingType _,tidy,complete => isWhole_of_complete underlayingType tidy complete.element
  | .generic _ underlayingType typeArguments,tidy,complete => by
      rw [isTidy,Bool.and_eq_true,decide_eq_true_eq] at tidy
      have parts := (List.forall_mem_cons.mp complete.parts).2
      have size : typeArguments.length = table.arity underlayingType := by
        refine Nat.le_antisymm tidy.1 (Nat.le_of_not_lt fun short => ?_)
        refine (parts .null (List.mem_map.mpr ⟨typeArguments.length,List.mem_range.mpr short,?_⟩)).ne_null rfl
        exact List.getD_eq_default _ _ (Nat.le_refl _)
      rw [← size,padded_length] at parts
      rw [isWhole,Bool.and_eq_true,beq_iff_eq]
      exact ⟨size,areWhole_of_complete typeArguments tidy.2 parts⟩

theorem areWhole_of_complete : ∀ types : List TypeSymbol,areTidy table.declarations types = true →
    (∀ type ∈ types,Complete table type) → areWhole table types = true
  | [],_,_ => rfl
  | type :: types,tidy,complete => by
      rw [areTidy,Bool.and_eq_true] at tidy
      rw [List.forall_mem_cons] at complete
      rw [areWhole,Bool.and_eq_true]
      exact ⟨isWhole_of_complete type tidy.1 complete.1,areWhole_of_complete types tidy.2 complete.2⟩

end

end Wholeness

section Assignment

def interfaceGraph (table : SymbolTable) : List TypeSymbol := table.declarations.flatMap fun declaration => declaration.interfaces

theorem exists_declaration {type iface : TypeSymbol} (member : iface ∈ interfacesOf table type) :
    ∃ declaration ∈ table.declarations,iface ∈ declaration.interfaces := by
  cases type with
  | declared number =>
      rw [interfacesOf,SymbolTable.declaration,List.getD_eq_getElem?_getD] at member
      rcases found : table.declarations[number]? with _ | declaration
      · rw [found] at member
        cases member
      · rw [found] at member
        exact ⟨declaration,List.mem_of_getElem? found,member⟩
  | _ => cases member

theorem mem_interfaceGraph {type iface : TypeSymbol} (member : iface ∈ interfacesOf table type) :
    iface ∈ interfaceGraph table := by
  obtain ⟨declaration,declared,member⟩ := exists_declaration member
  exact List.mem_flatMap.mpr ⟨declaration,declared,member⟩

theorem anyInterface_isSome (enough : (interfaceGraph table).length < fuel) (type : TypeSymbol) {test : TypeSymbol → Verdict}
    (decided : ∀ iface,(test iface).isSome) : (anyInterface table fuel type test).isSome := by
  have bounded : unvisited (interfaceGraph table) [] < fuel := Nat.lt_of_le_of_lt (List.length_filter_le ..) enough
  obtain ⟨interfaces,found⟩ : ∃ interfaces,getAllInterfaces table fuel type = some interfaces :=
    exists_explore (fun _ _ _ => mem_interfaceGraph) (fun _ => mem_interfaceGraph) bounded
  rw [anyInterface,found]
  exact Verdict.isSome_any fun iface _ => decided iface

variable {targetArguments : List TypeSymbol}

theorem matchesInterface_isSome {underlaying : Nat}
    (complete : ∀ argument ∈ padded targetArguments (table.arity underlaying),isComplete table fuel argument)
    (source iface : TypeSymbol) : (matchesInterface table fuel underlaying targetArguments source iface).isSome := by
  cases iface with
  | generic =>
      rw [matchesInterface]
      split
      · exact Verdict.isSome_every fun pair member => areTypesEqual_isSome (complete _ (mem_padded_of_mem_pairs member)) _
      · rfl
  | _ => rfl

theorem isConstructedInterfaceImplemented_isSome (enough : (interfaceGraph table).length < fuel) {underlaying : Nat}

    (complete : ∀ argument ∈ padded targetArguments (table.arity underlaying),isComplete table fuel argument)
    (source : TypeSymbol) : (isConstructedInterfaceImplemented table fuel underlaying targetArguments source).isSome := by
  have check (type : TypeSymbol) := anyInterface_isSome enough type (matchesInterface_isSome complete source)
  unfold isConstructedInterfaceImplemented
  split
  · refine Verdict.isSome_either (check _) ?_
    cases source with
    | generic => exact check _
    | array =>
        refine Verdict.isSome_either (check _) ?_
        split
        · next single =>
            apply areTypesEqual_isSome (complete _ _)
            rw [single.2]
            exact List.mem_singleton_self _
        · rfl
    | _ => rfl
  · rfl

theorem sameSignature_isSome {change : TypeSymbol → TypeSymbol} {target : TypeDeclaration}
    (complete : ∀ type ∈ target.returnType :: target.parameters,isComplete table fuel (change type)) (source : TypeDeclaration) :
    (sameSignature table fuel change target source).isSome := by
  rw [List.forall_mem_cons] at complete
  unfold sameSignature
  split
  · rfl
  · refine Verdict.isSome_both (areTypesEqual_isSome complete.1 _) ?_
    split
    · exact Verdict.isSome_every fun pair member => areTypesEqual_isSome (complete.2 _ (List.of_mem_zip member).1) _
    · rfl

theorem parts_of_delegate {number : Nat} (delegate : table.isDelegate (.declared number) = true) :
    parts table (.declared number) = (table.declaration number).returnType :: (table.declaration number).parameters := by
  simp only [parts,delegate,if_true]

theorem mem_of_substituted {address underlayingType index : Nat} {typeArguments : List TypeSymbol} {parent : Parent}
    (present : (TypeSymbol.generic address underlayingType typeArguments).substituteTypeParameters parent index ≠ .null) :
    parent = .type underlayingType ∧
      (TypeSymbol.generic address underlayingType typeArguments).substituteTypeParameters parent index ∈ typeArguments := by
  by_cases own : parent = .type underlayingType
  · subst own
    rw [substituteTypeParameters_generic] at present ⊢
    refine ⟨rfl,?_⟩
    rw [List.getD_eq_getElem?_getD] at present ⊢
    rcases found : typeArguments[index]? with _ | argument
    · rw [found] at present
      exact absurd rfl present
    · exact List.mem_of_getElem? found
  · exact absurd (if_neg own) present

theorem delegateArgument_cases {address underlaying : Nat} (type : TypeSymbol) :
    delegateArgument (.generic address underlaying targetArguments) type = type ∨
      delegateArgument (.generic address underlaying targetArguments) type ∈ targetArguments := by
  cases type with
  | typeParameter parent index =>
      simp only [delegateArgument]
      split
      · exact .inl rfl
      · next present => exact .inr (mem_of_substituted present).2
  | _ => exact .inl rfl

variable {target : TypeSymbol}

theorem isDelegateAssignable_isSome (whole : isWhole table target = true)
    (complete : ∀ part ∈ parts table target,isComplete table fuel part)
    (complete' : ∀ part ∈ parts table target,∀ part' ∈ parts table part,isComplete table fuel part') (source : TypeSymbol) :
    (isDelegateAssignable table fuel target source).isSome := by
  cases target with
  | generic address underlaying targetArguments =>
      cases source with
      | declared number =>
          rw [isDelegateAssignable]
          split
          · next both =>
              rw [isWhole,Bool.and_eq_true,beq_iff_eq] at whole
              rw [parts,List.forall_mem_cons] at complete complete'
              apply sameSignature_isSome
              intro type member
              rw [← whole.1,padded_length] at complete
              rcases delegateArgument_cases type with kept | replaced
              · rw [kept]
                apply complete'.1
                rwa [parts_of_delegate both.1]
              · exact complete.2 _ replaced
          · rfl
      | _ => rfl
  | declared number =>
      cases source with
      | declared =>
          rw [isDelegateAssignable]
          split
          · next both =>
              rw [parts_of_delegate both.1] at complete
              exact sameSignature_isSome complete _
          · rfl
      | _ => rfl
  | _ => rfl

theorem isAssignableTo_terminates_of_complete (complete : Complete table target)
    (whole : isWhole table target = true) (source : TypeSymbol) :
    ∃ fuel,∀ more,fuel ≤ more → (isAssignableTo table more target source).isSome := by
  obtain ⟨fuel,enough⟩ := Verdict.exists_enough (isComplete table)
    (target :: (parts table target ++ (parts table target).flatMap (parts table)))
    (fun greater complete => isComplete_more greater complete) (by
      refine List.forall_mem_cons.mpr ⟨complete,fun part member => ?_⟩
      rcases List.mem_append.mp member with member | member
      · exact complete.parts part member
      · obtain ⟨middle,inside,member⟩ := List.mem_flatMap.mp member
        exact (complete.parts middle inside).parts part member)
  refine ⟨max fuel ((interfaceGraph table).length + 1),fun more greater => ?_⟩
  obtain ⟨greater,deep⟩ := Nat.max_le.mp greater
  have known {type : TypeSymbol} (member : type ∈ target :: (parts table target ++ (parts table target).flatMap (parts table))) :
      isComplete table more type := isComplete_more greater (enough type member)
  have here : isComplete table more target := known List.mem_cons_self
  have inside : ∀ part ∈ parts table target,isComplete table more part :=
    fun _ member => known (List.mem_cons_of_mem _ (List.mem_append_left _ member))
  have within : ∀ part ∈ parts table target,∀ part' ∈ parts table part,isComplete table more part' :=
    fun _ member _ member' =>
      known (List.mem_cons_of_mem _ (List.mem_append_right _ (List.mem_flatMap.mpr ⟨_,member,member'⟩)))
  have equal (iface : TypeSymbol) := areTypesEqual_isSome here iface
  unfold isAssignableTo
  split
  · rfl
  · refine Verdict.isSome_either (equal source) ?_
    split
    · rfl
    · split
      · rfl
      · refine Verdict.isSome_either ?_ (Verdict.isSome_either ?_ (isDelegateAssignable_isSome whole inside within source))
        · unfold isInterfaceImplemented
          split
          · refine Verdict.isSome_either (anyInterface_isSome deep source equal) ?_
            cases source with
            | array => exact anyInterface_isSome deep _ equal
            | _ => rfl
          · rfl
        · cases target with
          | generic _ underlaying targetArguments =>
              rw [parts,List.forall_mem_cons] at inside
              exact isConstructedInterfaceImplemented_isSome deep inside.2 source
          | _ => rfl

theorem isAssignableTo_terminates (delegates : DelegatesComplete table) (whole : isWhole table target = true)
    (source : TypeSymbol) : ∃ fuel,∀ more,fuel ≤ more → (isAssignableTo table more target source).isSome :=
  isAssignableTo_terminates_of_complete (complete_of_isWhole delegates target whole) whole source

end Assignment

end ShardScript.Types
