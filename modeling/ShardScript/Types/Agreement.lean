import ShardScript.Types.Substitution

/-! When the compiler and the virtual machine put the same types in place of type parameters. -/
namespace ShardScript.Types

section Expressions

mutual

def isConcrete : TypeSymbol → Bool
  | .null | .declared _ => true
  | .typeParameter _ _ => false
  | .array _ underlayingType _ => isConcrete underlayingType
  | .generic _ _ typeArguments => areConcrete typeArguments

def areConcrete : List TypeSymbol → Bool
  | [] => true
  | type :: types => isConcrete type && areConcrete types

end

mutual

/-- Every constructed type has as many arguments as its underlaying type has type parameters. -/
def isProper (table : SymbolTable) : TypeSymbol → Bool
  | .null | .declared _ | .typeParameter _ _ => true
  | .array _ underlayingType _ => isProper table underlayingType
  | .generic _ underlayingType typeArguments =>
      typeArguments.length == table.arity underlayingType && areProper table typeArguments

def areProper (table : SymbolTable) : List TypeSymbol → Bool
  | [] => true
  | type :: types => isProper table type && areProper table types

end

mutual

def isScoped (parent : Parent) (arity : Nat) : TypeSymbol → Bool
  | .null | .declared _ => true
  | .typeParameter parent' index => parent == parent' && decide (index < arity)
  | .array _ underlayingType _ => isScoped parent arity underlayingType
  | .generic _ _ typeArguments => areScoped parent arity typeArguments

def areScoped (parent : Parent) (arity : Nat) : List TypeSymbol → Bool
  | [] => true
  | type :: types => isScoped parent arity type && areScoped parent arity types

end

mutual

def TypeSymbol.instantiate (assignment : Parent → Nat → TypeSymbol) : TypeSymbol → TypeSymbol
  | .null => .null
  | .declared number => .declared number
  | .typeParameter parent index => (assignment parent index).erase
  | .array _ underlayingType _ => .array 0 (underlayingType.instantiate assignment) 0
  | .generic _ underlayingType typeArguments => .generic 0 underlayingType (instantiateAll assignment typeArguments)

def instantiateAll (assignment : Parent → Nat → TypeSymbol) : List TypeSymbol → List TypeSymbol
  | [] => []
  | type :: types => type.instantiate assignment :: instantiateAll assignment types

end

theorem areConcrete_iff (types : List TypeSymbol) : areConcrete types = true ↔ ∀ type ∈ types,isConcrete type = true := by
  induction types with
  | nil => simp [areConcrete]
  | cons type types ih => rw [areConcrete,Bool.and_eq_true,ih,List.forall_mem_cons]

theorem areProper_iff {table : SymbolTable} (types : List TypeSymbol) :
    areProper table types = true ↔ ∀ type ∈ types,isProper table type = true := by
  induction types with
  | nil => simp [areProper]
  | cons type types ih => rw [areProper,Bool.and_eq_true,ih,List.forall_mem_cons]

mutual

theorem erase_erase : ∀ type : TypeSymbol,type.erase.erase = type.erase
  | .null => rfl
  | .declared _ => rfl
  | .typeParameter _ _ => rfl
  | .array _ underlayingType _ => congrArg (TypeSymbol.array 0 · 0) (erase_erase underlayingType)
  | .generic _ underlayingType typeArguments =>
      congrArg (TypeSymbol.generic 0 underlayingType) (eraseAll_eraseAll typeArguments)

theorem eraseAll_eraseAll : ∀ types : List TypeSymbol,eraseAll (eraseAll types) = eraseAll types
  | [] => rfl
  | type :: types => by rw [eraseAll,eraseAll,erase_erase type,eraseAll_eraseAll types]

end

variable {assignment : Parent → Nat → TypeSymbol}

mutual

theorem instantiate_of_isConcrete : ∀ {type : TypeSymbol},isConcrete type = true → type.instantiate assignment = type.erase
  | .null,_ => rfl
  | .declared _,_ => rfl
  | .array _ _ _,concrete => congrArg (TypeSymbol.array 0 · 0) (instantiate_of_isConcrete concrete)
  | .generic _ underlayingType _,concrete =>
      congrArg (TypeSymbol.generic 0 underlayingType) (instantiateAll_of_areConcrete concrete)

theorem instantiateAll_of_areConcrete : ∀ {types : List TypeSymbol},areConcrete types = true →
    instantiateAll assignment types = eraseAll types
  | [],_ => rfl
  | _ :: _,concrete => by
      rw [areConcrete,Bool.and_eq_true] at concrete
      rw [instantiateAll,eraseAll,instantiate_of_isConcrete concrete.1,instantiateAll_of_areConcrete concrete.2]

end

mutual

theorem isConcrete_erase : ∀ type : TypeSymbol,isConcrete type.erase = isConcrete type
  | .null => rfl
  | .declared _ => rfl
  | .typeParameter _ _ => rfl
  | .array _ underlayingType _ => isConcrete_erase underlayingType
  | .generic _ _ typeArguments => areConcrete_eraseAll typeArguments

theorem areConcrete_eraseAll : ∀ types : List TypeSymbol,areConcrete (eraseAll types) = areConcrete types
  | [] => rfl
  | type :: types => by rw [eraseAll,areConcrete,areConcrete,isConcrete_erase type,areConcrete_eraseAll types]

end

variable {parent : Parent} {arity : Nat}

mutual

theorem isConcrete_instantiate (closed : ∀ index < arity,isConcrete (assignment parent index) = true) :
    ∀ type : TypeSymbol,isScoped parent arity type = true → isConcrete (type.instantiate assignment) = true
  | .null,_ => rfl
  | .declared _,_ => rfl
  | .typeParameter _ index,inside => by
      rw [isScoped,Bool.and_eq_true,beq_iff_eq,decide_eq_true_eq] at inside
      obtain ⟨rfl,inside⟩ := inside
      rw [TypeSymbol.instantiate,isConcrete_erase]
      exact closed index inside
  | .array _ underlayingType _,inside => isConcrete_instantiate closed underlayingType inside
  | .generic _ _ typeArguments,inside => areConcrete_instantiateAll closed typeArguments inside

theorem areConcrete_instantiateAll (closed : ∀ index < arity,isConcrete (assignment parent index) = true) :
    ∀ types : List TypeSymbol,areScoped parent arity types = true → areConcrete (instantiateAll assignment types) = true
  | [],_ => rfl
  | type :: types,inside => by
      rw [areScoped,Bool.and_eq_true] at inside
      rw [instantiateAll,areConcrete,Bool.and_eq_true]
      exact ⟨isConcrete_instantiate closed type inside.1,areConcrete_instantiateAll closed types inside.2⟩

end

end Expressions

section Equality

variable {table : SymbolTable}

def Equals (table : SymbolTable) (left right : TypeSymbol) : Prop := ∃ fuel,areTypesEqual table fuel left right = some true

def Complete (table : SymbolTable) (type : TypeSymbol) : Prop := ∃ fuel,isComplete table fuel type

theorem Equals.complete {left right : TypeSymbol} (equal : Equals table left right) : Complete table right := by
  obtain ⟨fuel,same⟩ := equal
  exact ⟨fuel,areTypesEqual_self.mp (areTypesEqual_trans (areTypesEqual_symm same) same)⟩

theorem Complete.equals {type result : TypeSymbol} (complete : Complete table type) (same : result.erase = type.erase) :
    Equals table result type := by
  obtain ⟨fuel,complete⟩ := complete
  exact ⟨fuel,(areTypesEqual_of_erase same rfl).trans (areTypesEqual_self.mpr complete)⟩

theorem forall₂_exists {relation : TypeSymbol → TypeSymbol → Prop} {left right : List TypeSymbol}
    (related : List.Forall₂ relation left right) {type : TypeSymbol} (member : type ∈ left) :
    ∃ type' ∈ right,relation type type' := by
  induction related with
  | nil => cases member
  | cons here _ ih =>
      rcases List.mem_cons.mp member with rfl | member
      · exact ⟨_,List.mem_cons_self,here⟩
      · obtain ⟨type',member',related⟩ := ih member
        exact ⟨type',List.mem_cons_of_mem _ member',related⟩

theorem head_eq_typeParameter {type : TypeSymbol} {parent : Parent} {index : Nat}
    (made : head table type = some (.symbol (.typeParameter parent index))) : type = .typeParameter parent index := by
  cases type with
  | declared number =>
      rw [head] at made
      split at made <;> cases made
  | typeParameter =>
      cases made
      rfl
  | _ => cases made

theorem head_eq_array {type : TypeSymbol} (made : head table type = some .array) :
    ∃ address underlayingType length,type = .array address underlayingType length := by
  cases type with
  | declared number =>
      rw [head] at made
      split at made <;> cases made
  | array address underlayingType length => exact ⟨address,underlayingType,length,rfl⟩
  | _ => cases made

theorem head_eq_constructed {type : TypeSymbol} {size : Nat} (made : head table type = some (.constructed size)) :
    ∃ address underlayingType typeArguments,type = .generic address underlayingType typeArguments ∧
      size = table.arity underlayingType := by
  cases type with
  | declared number =>
      rw [head] at made
      split at made <;> cases made
  | generic address underlayingType typeArguments =>
      cases made
      exact ⟨address,underlayingType,typeArguments,rfl,rfl⟩
  | _ => cases made

theorem isConcrete_of_mem_padded {types : List TypeSymbol} {size : Nat} {type : TypeSymbol}
    (concrete : areConcrete types = true) (member : type ∈ padded types size) : isConcrete type = true := by
  obtain ⟨index,-,rfl⟩ := List.mem_map.mp member
  rw [List.getD_eq_getElem?_getD]
  rcases found : types[index]? with _ | type
  · rfl
  · exact (areConcrete_iff types).mp concrete type (List.mem_of_getElem? found)

theorem isConcrete_of_equal {fuel : Nat} {left right : TypeSymbol} (proper : isProper table left = true)
    (concrete : isConcrete right = true) (equal : areTypesEqual table fuel left right = some true) :
    isConcrete left = true := by
  induction fuel generalizing left right with
  | zero => exact nomatch equal
  | succ fuel ih =>
      obtain ⟨-,alike,equal⟩ := areTypesEqual_succ.mp equal
      cases left with
      | null => rfl
      | declared => rfl
      | typeParameter =>
          rw [head_eq_typeParameter alike.symm] at concrete
          cases concrete
      | array address underlayingType length =>
          obtain ⟨_,underlayingType',_,rfl⟩ := head_eq_array alike.symm
          have part := (List.forall₂_cons.mp equal).1
          have inside : isProper table underlayingType = true := proper
          have inner : isConcrete underlayingType' = true := concrete
          have element : isConcrete underlayingType = true := ih inside inner part
          exact element
      | generic address underlayingType typeArguments =>
          obtain ⟨_,_,typeArguments',rfl,size⟩ := head_eq_constructed alike.symm
          rw [isProper,Bool.and_eq_true,beq_iff_eq,areProper_iff] at proper
          obtain ⟨-,equal⟩ := List.forall₂_cons.mp equal
          rw [← proper.1,padded_length] at equal
          refine (areConcrete_iff _).mpr fun argument member => ?_
          obtain ⟨argument',member',same⟩ := forall₂_exists equal member
          exact ih (proper.2 argument member) (isConcrete_of_mem_padded concrete member') same

end Equality

section Unchanged

mutual

theorem substituteTypeParameters_of_isConcrete (table : SymbolTable) (genericType : TypeSymbol) (method : Option Nat)
    (methodTypeArgs : List TypeSymbol) (factory : Factory) : ∀ type : TypeSymbol,isConcrete type = true →
      substituteTypeParameters table genericType method methodTypeArgs type factory = (type,factory)
  | .null,_ => rfl
  | .declared _,_ => rfl
  | .array _ underlayingType _,concrete => by
      have inside := substituteTypeParameters_of_isConcrete table genericType method methodTypeArgs factory underlayingType
        concrete
      simp only [substituteTypeParameters,inside,if_true]
  | .generic _ _ typeArguments,concrete => by
      have inside := substituteAll_of_areConcrete table genericType method methodTypeArgs factory typeArguments concrete
      simp only [substituteTypeParameters,inside,if_true]

theorem substituteAll_of_areConcrete (table : SymbolTable) (genericType : TypeSymbol) (method : Option Nat)
    (methodTypeArgs : List TypeSymbol) (factory : Factory) : ∀ types : List TypeSymbol,areConcrete types = true →
      substituteAll table genericType method methodTypeArgs types factory = (types,factory)
  | [],_ => rfl
  | type :: types,concrete => by
      rw [areConcrete,Bool.and_eq_true] at concrete
      simp only [substituteAll,
        substituteTypeParameters_of_isConcrete table genericType method methodTypeArgs factory type concrete.1,
        substituteAll_of_areConcrete table genericType method methodTypeArgs factory types concrete.2]

end

theorem resolveRuntimeTypeArgument_of_isConcrete (resolveParameter : Parent → Nat → TypeSymbol) (factory : Factory) :
    ∀ type : TypeSymbol,isConcrete type = true → resolveRuntimeTypeArgument resolveParameter type factory = (type,factory)
  | .null,_ => rfl
  | .declared _,_ => rfl
  | .array _ underlayingType _,concrete => by
      have inside := resolveRuntimeTypeArgument_of_isConcrete resolveParameter factory underlayingType concrete
      simp only [resolveRuntimeTypeArgument,inside,or_true,if_true]
  | .generic _ _ _,_ => rfl

theorem resolveAll_of_areConcrete (resolveParameter : Parent → Nat → TypeSymbol) (factory : Factory)
    {types : List TypeSymbol} (concrete : areConcrete types = true) :
    resolveAll resolveParameter types factory = (types,factory) := by
  induction types with
  | nil => rfl
  | cons type types ih =>
      rw [areConcrete,Bool.and_eq_true] at concrete
      simp only [resolveAll,resolveRuntimeTypeArgument_of_isConcrete resolveParameter factory type concrete.1,ih concrete.2,
        ite_self]

theorem substituteTypeParameter_of_isConcrete (parameters : List (Parent × Nat)) (arguments : List TypeSymbol)
    (factory : Factory) :
    ∀ type : TypeSymbol,isConcrete type = true → substituteTypeParameter parameters arguments type factory = (type,factory)
  | .null,_ => rfl
  | .declared _,_ => rfl
  | .array _ underlayingType _,concrete => by
      have inside := substituteTypeParameter_of_isConcrete parameters arguments factory underlayingType concrete
      simp only [substituteTypeParameter,inside,or_true,if_true]
  | .generic _ _ _,_ => rfl

end Unchanged

section Agreement

def SymbolTable.typeParameters (table : SymbolTable) (number : Nat) : List (Parent × Nat) :=
  (List.range (table.arity number)).map fun index => (.type number,index)

structure SubstitutionsAgree (table : SymbolTable) (fuel : Nat) (factory : Factory) (within type : TypeSymbol)
    (parameters : List (Parent × Nat)) (arguments : List TypeSymbol) : Prop where
  binder : Equals table (substituteTypeParameters table within none [] type factory).1
    (type.instantiate within.substituteTypeParameters)
  model : ∃ result,substituteType table type within factory = some result ∧
    Equals table result.1 (type.instantiate within.substituteTypeParameters)
  runtime : Equals table (instantiatedType within.substituteTypeParameters table fuel type factory).1
    (type.instantiate within.substituteTypeParameters)
  shapes : Equals table (substituteTypeParameter parameters arguments type factory).1
    (type.instantiate within.substituteTypeParameters)

/-- A type that `SubstituteType` takes apart far enough: not a constructed type nor an enumeration, and no array of arrays
or of constructed types with type parameters. -/
def isSubstitutable (table : SymbolTable) : TypeSymbol → Bool
  | .null | .typeParameter _ _ => true
  | .declared number => (table.declaration number).kind != .enumDeclaration
  | .array _ (.typeParameter _ _) _ => true
  | .array _ underlayingType _ => isConcrete underlayingType
  | .generic _ _ _ => false

variable {table : SymbolTable} {fuel address underlayingType : Nat} {arguments : List TypeSymbol} {factory : Factory}
  {type : TypeSymbol}

theorem Complete.ne_null (complete : Complete table type) : type ≠ .null := by
  rintro rfl
  obtain ⟨_ | fuel,complete⟩ := complete
  · exact complete
  · exact complete.1 rfl

theorem Complete.element {address length : Nat} {element : TypeSymbol} (complete : Complete table (.array address element length)) :
    Complete table element := by
  obtain ⟨_ | fuel,complete⟩ := complete
  · exact complete.elim
  · exact ⟨fuel,complete.2 element List.mem_cons_self⟩

theorem substituteTypeParameters_generic {index : Nat} :
    (TypeSymbol.generic address underlayingType arguments).substituteTypeParameters (.type underlayingType) index =
      arguments.getD index .null := if_pos rfl

theorem idxOf?_typeParameters {index : Nat} (inside : index < table.arity underlayingType) :
    (table.typeParameters underlayingType).idxOf? (.type underlayingType,index) = some index := by
  refine List.idxOf?_eq_some_iff.mpr ⟨?_,?_,fun before smaller => ?_⟩
  · rw [SymbolTable.typeParameters,List.length_map,List.length_range]
    exact inside
  · simp [SymbolTable.typeParameters]
  · simpa [SymbolTable.typeParameters] using Nat.ne_of_lt smaller

variable (table fuel address underlayingType arguments factory)

/-- The constructed type whose arguments stand for the type parameters of its underlaying type. -/
private abbrev within : TypeSymbol := .generic address underlayingType arguments

theorem agree_of_isConcrete (concrete : isConcrete type = true)
    (accepted : substituteType table type (within address underlayingType arguments) factory = some (type,factory))
    (plain : ∀ address underlayingType arguments,type ≠ .generic address underlayingType arguments)
    (complete : Complete table (type.instantiate (within address underlayingType arguments).substituteTypeParameters)) :
    SubstitutionsAgree table fuel factory (within address underlayingType arguments) type
      (table.typeParameters underlayingType) arguments := by
  have same : Equals table type (type.instantiate (within address underlayingType arguments).substituteTypeParameters) := by
    apply complete.equals
    rw [instantiate_of_isConcrete concrete,erase_erase]
  constructor
  · rwa [substituteTypeParameters_of_isConcrete _ _ _ _ _ _ concrete]
  · exact ⟨_,accepted,same⟩
  · have plainly : instantiatedType (within address underlayingType arguments).substituteTypeParameters table fuel type factory =
        resolveRuntimeTypeArgument (within address underlayingType arguments).substituteTypeParameters type factory := by
      cases type with
      | generic => exact absurd rfl (plain _ _ _)
      | typeParameter => cases concrete
      | _ => cases fuel <;> rfl
    rwa [plainly,resolveRuntimeTypeArgument_of_isConcrete _ _ _ concrete]
  · rwa [substituteTypeParameter_of_isConcrete _ _ _ _ concrete]

structure Bound (index : Nat) (argument : TypeSymbol) : Prop where
  found : arguments.getD index .null = argument
  inside : index < arguments.length
  present : argument ≠ .null
  concrete : isConcrete argument = true

variable {table fuel address underlayingType arguments factory}
variable {index : Nat} {argument : TypeSymbol}

theorem Bound.substituted (bound : Bound arguments index argument) :
    (within address underlayingType arguments).substituteTypeParameters (.type underlayingType) index = argument := by
  rw [substituteTypeParameters_generic,bound.found]

theorem Bound.ne_typeParameter (bound : Bound arguments index argument) (parent : Parent) (other : Nat) :
    argument ≠ .typeParameter parent other := by
  rintro rfl
  cases bound.concrete

theorem Bound.binder (bound : Bound arguments index argument) :
    substituteBound (within address underlayingType arguments) none [] (.type underlayingType) index = argument := by
  have other := bound.ne_typeParameter
  simp only [substituteBound,bound.substituted,if_neg bound.present]
  cases argument with
  | typeParameter => exact absurd rfl (other _ _)
  | null => exact absurd rfl bound.present
  | _ => rfl

theorem Bound.runtime (bound : Bound arguments index argument) :
    resolveRuntimeTypeArgument (within address underlayingType arguments).substituteTypeParameters
      (.typeParameter (.type underlayingType) index) factory = (argument,factory) := by
  simp only [resolveRuntimeTypeArgument,bound.substituted,if_neg bound.present]

theorem Bound.shape (bound : Bound arguments index argument) (proper : arguments.length = table.arity underlayingType) :
    substituteTypeParameter (table.typeParameters underlayingType) arguments
      (.typeParameter (.type underlayingType) index) factory = (argument,factory) := by
  have place : index < table.arity underlayingType := proper ▸ bound.inside
  simp only [substituteTypeParameter,idxOf?_typeParameters place,if_pos bound.inside,bound.found]

theorem Bound.instantiated (bound : Bound arguments index argument) (proper : isProper table argument = true) :
    (instantiatedType (within address underlayingType arguments).substituteTypeParameters table fuel
      (.typeParameter (.type underlayingType) index) factory).1.erase = argument.erase := by
  have other := bound.ne_typeParameter
  rw [instantiatedType]
  cases fuel with
  | zero => rw [tryResolveGenericArguments.eq_def,bound.runtime]
  | succ fuel =>
      simp only [tryResolveGenericArguments,bound.substituted]
      rw [if_pos ⟨bound.present,other _ _⟩]
      cases argument with
      | typeParameter => exact absurd rfl (other _ _)
      | generic address' underlayingType' arguments' =>
          rw [isProper,Bool.and_eq_true,beq_iff_eq] at proper
          have resolved : tryResolveGenericArguments (within address underlayingType arguments).substituteTypeParameters table
              fuel (.generic address' underlayingType' arguments') factory = some (underlayingType',arguments',factory) := by
            rw [← resolveAll_of_areConcrete _ factory bound.concrete]
            cases fuel <;> rw [tryResolveGenericArguments,← proper.1,padded_length]
          rw [resolved]
          rfl
      | _ => cases fuel <;> simp only [tryResolveGenericArguments,bound.runtime]

theorem closed_getD (closed : areConcrete arguments = true) (index : Nat) :
    isConcrete (arguments.getD index .null) = true := by
  rw [List.getD_eq_getElem?_getD]
  rcases found : arguments[index]? with _ | argument
  · rfl
  · exact (areConcrete_iff arguments).mp closed argument (List.mem_of_getElem? found)

theorem proper_getD (proper : areProper table arguments = true) (index : Nat) :
    isProper table (arguments.getD index .null) = true := by
  rw [List.getD_eq_getElem?_getD]
  rcases found : arguments[index]? with _ | argument
  · rfl
  · exact (areProper_iff arguments).mp proper argument (List.mem_of_getElem? found)

theorem isConcrete_of_kept (closed : areConcrete arguments = true)
    (inside : isScoped (.type underlayingType) arguments.length type = true) (properly : isProper table type = true)
    (equal : Equals table type (type.instantiate (within address underlayingType arguments).substituteTypeParameters)) :
    isConcrete type = true := by
  obtain ⟨fuel,equal⟩ := equal
  refine isConcrete_of_equal properly (isConcrete_instantiate (fun index _ => ?_) type inside) equal
  rw [substituteTypeParameters_generic]
  exact closed_getD closed index

theorem isSubstitutable_of_agree (closed : areConcrete arguments = true)
    (inside : isScoped (.type underlayingType) arguments.length type = true) (properly : isProper table type = true)
    {result : TypeSymbol × Factory}
    (accepted : substituteType table type (within address underlayingType arguments) factory = some result)
    (equal : Equals table result.1 (type.instantiate (within address underlayingType arguments).substituteTypeParameters)) :
    isSubstitutable table type = true := by
  cases type with
  | null => rfl
  | typeParameter => rfl
  | declared number =>
      rw [substituteType] at accepted
      split at accepted
      · cases accepted
      · next other => exact bne_iff_ne.mpr other
  | generic => cases accepted
  | array address' element length =>
      cases element with
      | null => cases accepted
      | typeParameter => rfl
      | _ =>
          cases accepted
          have kept := isConcrete_of_kept closed inside properly equal
          exact kept

theorem bound_of_complete (closed : areConcrete arguments = true) {parent : Parent} {index : Nat}
    (inside : isScoped (.type underlayingType) arguments.length (.typeParameter parent index) = true)
    (complete : Complete table ((TypeSymbol.typeParameter parent index).instantiate
      (within address underlayingType arguments).substituteTypeParameters)) :
    parent = .type underlayingType ∧ Bound arguments index (arguments.getD index .null) := by
  rw [isScoped,Bool.and_eq_true,beq_iff_eq,decide_eq_true_eq] at inside
  obtain ⟨rfl,inside⟩ := inside
  refine ⟨rfl,rfl,inside,fun missing => ?_,closed_getD closed index⟩
  rw [TypeSymbol.instantiate,substituteTypeParameters_generic,missing] at complete
  exact complete.ne_null rfl

theorem agree_of_bound (bound : Bound arguments index argument) (proper : arguments.length = table.arity underlayingType)
    (properly : isProper table argument = true)
    (complete : Complete table ((TypeSymbol.typeParameter (.type underlayingType) index).instantiate
      (within address underlayingType arguments).substituteTypeParameters)) :
    SubstitutionsAgree table fuel factory (within address underlayingType arguments)
      (.typeParameter (.type underlayingType) index) (table.typeParameters underlayingType) arguments := by
  have meaning : (TypeSymbol.typeParameter (.type underlayingType) index).instantiate
      (within address underlayingType arguments).substituteTypeParameters = argument.erase := by
    rw [TypeSymbol.instantiate,bound.substituted]
  rw [meaning] at complete
  have same : Equals table argument argument.erase := complete.equals (erase_erase argument).symm
  constructor
  · rw [meaning,substituteTypeParameters,bound.binder]
    exact same
  · rw [meaning]
    refine ⟨(argument,factory),?_,same⟩
    simp only [substituteType,bound.substituted,if_neg bound.present]
    rfl
  · rw [meaning]
    apply complete.equals
    rw [bound.instantiated properly,erase_erase]
  · rw [meaning,bound.shape proper]
    exact same

theorem erase_array (element : TypeSymbol) (factory : Factory) :
    (factory.array element).1.erase = .array 0 element.erase 0 := by
  rw [Factory.array]
  split <;> rfl

theorem agree_of_boundArray {address' length : Nat} (bound : Bound arguments index argument)
    (proper : arguments.length = table.arity underlayingType)
    (complete : Complete table ((TypeSymbol.array address' (.typeParameter (.type underlayingType) index) length).instantiate
      (within address underlayingType arguments).substituteTypeParameters)) :
    SubstitutionsAgree table fuel factory (within address underlayingType arguments)
      (.array address' (.typeParameter (.type underlayingType) index) length) (table.typeParameters underlayingType)
      arguments := by
  have meaning : (TypeSymbol.array address' (.typeParameter (.type underlayingType) index) length).instantiate
      (within address underlayingType arguments).substituteTypeParameters = .array 0 argument.erase 0 := by
    rw [TypeSymbol.instantiate,TypeSymbol.instantiate,bound.substituted]
  rw [meaning] at complete
  have erased : (TypeSymbol.array 0 argument.erase 0).erase = .array 0 argument.erase 0 :=
    congrArg (TypeSymbol.array 0 · 0) (erase_erase argument)
  have other := bound.ne_typeParameter (.type underlayingType) index
  constructor
  all_goals rw [meaning]
  · apply complete.equals
    simp only [substituteTypeParameters,bound.binder,if_neg other]
    rw [erase_array,erased]
  · refine ⟨factory.newArray argument length,?_,complete.equals erased.symm⟩
    simp only [substituteType,bound.substituted,if_neg bound.present]
    rfl
  · apply complete.equals
    have plainly : instantiatedType (within address underlayingType arguments).substituteTypeParameters table fuel
        (.array address' (.typeParameter (.type underlayingType) index) length) factory =
          factory.newArray argument length := by
      have resolved : resolveRuntimeTypeArgument (within address underlayingType arguments).substituteTypeParameters
          (.typeParameter (.type underlayingType) index) factory = (argument,factory) := bound.runtime
      cases fuel <;>
        simp only [instantiatedType,tryResolveGenericArguments,resolveRuntimeTypeArgument.eq_2,resolved,bound.present,other,
          or_self,if_false]
    rw [plainly,erased]
    rfl
  · apply complete.equals
    have place : substituteTypeParameter (table.typeParameters underlayingType) arguments
        (.typeParameter (.type underlayingType) index) factory = (argument,factory) := bound.shape proper
    simp only [substituteTypeParameter.eq_2,place,bound.present,other,or_self,if_false]
    exact erased.symm

/-- The four substitutions agree on a type expression and the arguments that stand for its type parameters exactly where
`SubstituteType` takes the expression apart far enough, and no part of the result is missing or endless. -/
theorem substitutions_agree_iff (closed : areConcrete arguments = true)
    (proper : isProper table (.generic address underlayingType arguments) = true)
    (inside : isScoped (.type underlayingType) arguments.length type = true) (properly : isProper table type = true) :
    SubstitutionsAgree table fuel factory (.generic address underlayingType arguments) type
        (table.typeParameters underlayingType) arguments ↔
      isSubstitutable table type = true ∧
        Complete table (type.instantiate (TypeSymbol.generic address underlayingType arguments).substituteTypeParameters) := by
  rw [isProper,Bool.and_eq_true,beq_iff_eq] at proper
  constructor
  · intro agree
    obtain ⟨result,accepted,equal⟩ := agree.model
    exact ⟨isSubstitutable_of_agree closed inside properly accepted equal,equal.complete⟩
  · rintro ⟨substitutable,complete⟩
    cases type with
    | null => exact absurd rfl complete.ne_null
    | declared number =>
        have other : (table.declaration number).kind ≠ .enumDeclaration := bne_iff_ne.mp substitutable
        exact agree_of_isConcrete _ _ _ _ _ _ rfl (if_neg other) (fun _ _ _ => nofun) complete
    | typeParameter parent index =>
        obtain ⟨rfl,bound⟩ := bound_of_complete closed inside complete
        exact agree_of_bound bound proper.1 (proper_getD proper.2 index) complete
    | generic => cases substitutable
    | array address' element length =>
        cases element with
        | null => exact absurd rfl complete.element.ne_null
        | typeParameter parent index =>
            obtain ⟨rfl,bound⟩ := bound_of_complete closed inside complete.element
            exact agree_of_boundArray bound proper.1 complete
        | _ => exact agree_of_isConcrete _ _ _ _ _ _ substitutable rfl (fun _ _ _ => nofun) complete

section Collections

def collections : SymbolTable where
  declarations := [
    { typeParameters := ["T"]
      byReference := TypeDeclaration.plainClass.byReference
      delegateOnly := TypeDeclaration.plainClass.delegateOnly },
    .plainStruct,
    { typeParameters := ["T"]
      byReference := TypeDeclaration.plainClass.byReference
      delegateOnly := TypeDeclaration.plainClass.delegateOnly }]
  any := 3
  null := 4
  array := 5
  iEnumerable := 6
  any_ne_null := three_ne_four

theorem substitutions_agree_array :
    SubstitutionsAgree collections 1 ⟨2,[]⟩ (.generic 0 2 [.declared 1]) (.array 1 (.typeParameter (.type 2) 0) 0)
      (collections.typeParameters 2) [.declared 1] :=
  (substitutions_agree_iff rfl rfl rfl rfl).mpr ⟨rfl,2,areTypesEqual_self.mp (by decide)⟩

/-- There is no field of the type `List<T>` in `Box<int>`: `SubstituteType` throws. -/
theorem constructed_not_substituted :
    isScoped (.type 2) 1 (.generic 1 0 [.typeParameter (.type 2) 0]) = true ∧
      isProper collections (.generic 1 0 [.typeParameter (.type 2) 0]) = true ∧
      ¬ SubstitutionsAgree collections 1 ⟨2,[]⟩ (.generic 0 2 [.declared 1]) (.generic 1 0 [.typeParameter (.type 2) 0])
        (collections.typeParameters 2) [.declared 1] := by
  refine ⟨rfl,rfl,fun agree => ?_⟩
  obtain ⟨_,accepted,_⟩ := agree.model
  cases accepted

end Collections

end Agreement

end ShardScript.Types
