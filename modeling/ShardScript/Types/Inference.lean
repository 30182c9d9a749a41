import ShardScript.Types.MethodMatching

/-! `InferMethodTypeArguments` against `SubstituteTypeParameters`: where the arguments of a call have the types that the
parameters get from some type arguments, these are the type arguments that are inferred. -/
namespace ShardScript.Types

section Names

def areNamed (names : List String) (arguments : List TypeSymbol) : Bool :=
  decide (∀ first ∈ names.zip arguments,∀ second ∈ names.zip arguments,first.1 = second.1 → first.2 = second.2)

theorem mem_zip_erase {names : List String} {arguments : List TypeSymbol} {pair : String × TypeSymbol}
    (member : pair ∈ names.zip arguments) : (pair.1,pair.2.erase) ∈ names.zip (eraseAll arguments) := by
  rw [eraseAll_eq_map,List.zip_map_right]
  exact List.mem_map.mpr ⟨pair,member,rfl⟩

theorem eraseAll_byName {names : List String} {arguments : List TypeSymbol} (sized : arguments.length = names.length)
    (named : areNamed names (eraseAll arguments) = true) :
    eraseAll (Factory.byName names arguments) = eraseAll arguments := by
  have same := of_decide_eq_true named
  rw [Factory.byName,← sized,padded_length]
  apply List.ext_getElem
  · simp only [eraseAll_eq_map,List.length_map,sized]
  · intro index inside inside'
    have bound : index < names.length := by
      simpa only [eraseAll_eq_map,List.length_map] using inside
    have bound' : index < arguments.length := sized ▸ bound
    have member : (names[index],arguments[index]) ∈ names.zip arguments := by
      apply List.mem_iff_getElem.mpr
      refine ⟨index,?_,List.getElem_zip⟩
      rw [List.length_zip]
      exact Nat.lt_min.mpr ⟨bound,bound'⟩
    simp only [eraseAll_eq_map,List.getElem_map]
    rcases found : (names.zip arguments).reverse.find? (·.1 = names[index]) with _ | pair
    · rw [List.find?_eq_none] at found
      exact absurd (decide_eq_true rfl) (found _ (List.mem_reverse.mpr member))
    · have alike : pair.1 = names[index] := by simpa using List.find?_some found
      have inside := List.mem_reverse.mp (List.mem_of_find?_eq_some found)
      rw [found]
      exact same _ (mem_zip_erase inside) _ (mem_zip_erase member) alike

end Names

section Substitution

variable (table : SymbolTable) (assignment : Parent → Nat → TypeSymbol)

mutual

/-- Every constructed type that type parameters occur in gets arguments that can be told apart by the names of the type
parameters of its underlaying type. -/
def isNamed : TypeSymbol → Bool
  | .null | .declared _ | .typeParameter _ _ => true
  | .array _ underlayingType _ => isNamed underlayingType
  | .generic _ underlayingType typeArguments =>
      areConcrete typeArguments || (allNamed typeArguments &&
        areNamed (table.declaration underlayingType).typeParameters (instantiateAll assignment typeArguments))

def allNamed : List TypeSymbol → Bool
  | [] => true
  | type :: types => isNamed type && allNamed types

end

variable {table assignment} {genericType : TypeSymbol} {method : Option Nat} {methodTypeArgs : List TypeSymbol}
  {parent : Parent} {arity : Nat}

theorem length_substituteAll (types : List TypeSymbol) (factory : Factory) :
    (substituteAll table genericType method methodTypeArgs types factory).1.length = types.length := by
  induction types generalizing factory with
  | nil => rfl
  | cons type types ih =>
      simp only [substituteAll,List.length_cons]
      rw [ih]

mutual

theorem erase_substituteTypeParameters
    (bound : ∀ index < arity,(substituteBound genericType method methodTypeArgs parent index).erase =
      (assignment parent index).erase) : ∀ (type : TypeSymbol) (factory : Factory),isScoped parent arity type = true →
    isProper table type = true → isNamed table assignment type = true →
    (substituteTypeParameters table genericType method methodTypeArgs type factory).1.erase = type.instantiate assignment
  | .null,_,_,_,_ => rfl
  | .declared _,_,_,_,_ => rfl
  | .typeParameter _ index,_,inside,_,_ => by
      rw [isScoped,Bool.and_eq_true,beq_iff_eq,decide_eq_true_eq] at inside
      obtain ⟨rfl,inside⟩ := inside
      exact bound index inside
  | .array _ underlayingType _,factory,inside,proper,named => by
      have element := erase_substituteTypeParameters bound underlayingType factory inside proper named
      simp only [substituteTypeParameters,TypeSymbol.instantiate]
      rw [← element]
      split
      · next same => exact congrArg (TypeSymbol.array 0 · 0) (congrArg TypeSymbol.erase same).symm
      · exact erase_array _ _
  | .generic address underlayingType typeArguments,factory,inside,proper,named => by
      rw [isProper,Bool.and_eq_true,beq_iff_eq] at proper
      rw [isNamed,Bool.or_eq_true,Bool.and_eq_true] at named
      rcases named with concrete | ⟨within,named⟩
      · have closed : isConcrete (.generic address underlayingType typeArguments) = true := concrete
        rw [substituteTypeParameters_of_isConcrete _ _ _ _ _ _ closed]
        exact (instantiate_of_isConcrete closed).symm
      · have arguments := eraseAll_substituteAll bound typeArguments factory inside proper.2 within
        simp only [substituteTypeParameters,TypeSymbol.instantiate]
        rw [← arguments] at named ⊢
        split
        · next same => exact congrArg (TypeSymbol.generic 0 underlayingType) (congrArg eraseAll same).symm
        · have sized : (substituteAll table genericType method methodTypeArgs typeArguments factory).1.length =
              (table.declaration underlayingType).typeParameters.length := by
            rw [length_substituteAll]
            exact proper.1
          exact congrArg (TypeSymbol.generic 0 underlayingType) (eraseAll_byName sized named)

theorem eraseAll_substituteAll
    (bound : ∀ index < arity,(substituteBound genericType method methodTypeArgs parent index).erase =
      (assignment parent index).erase) : ∀ (types : List TypeSymbol) (factory : Factory),areScoped parent arity types = true →
    areProper table types = true → allNamed table assignment types = true →
    eraseAll (substituteAll table genericType method methodTypeArgs types factory).1 = instantiateAll assignment types
  | [],_,_,_,_ => rfl
  | type :: types,factory,inside,proper,named => by
      rw [areScoped,Bool.and_eq_true] at inside
      rw [areProper,Bool.and_eq_true] at proper
      rw [allNamed,Bool.and_eq_true] at named
      simp only [substituteAll,eraseAll,instantiateAll]
      rw [erase_substituteTypeParameters bound type factory inside.1 proper.1 named.1,
        eraseAll_substituteAll bound types _ inside.2 proper.2 named.2]

end

end Substitution

section Mentions

mutual

def mentions (parent : Parent) (index : Nat) : TypeSymbol → Bool
  | .null | .declared _ => false
  | .typeParameter parent' index' => parent' == parent && index' == index
  | .array _ underlayingType _ => mentions parent index underlayingType
  | .generic _ _ typeArguments => anyMentions parent index typeArguments

def anyMentions (parent : Parent) (index : Nat) : List TypeSymbol → Bool
  | [] => false
  | type :: types => mentions parent index type || anyMentions parent index types

end

variable {parent : Parent} {arity : Nat} {assignment : Parent → Nat → TypeSymbol}

theorem anyMentions_iff {index : Nat} (types : List TypeSymbol) :
    anyMentions parent index types = true ↔ ∃ type ∈ types,mentions parent index type = true := by
  induction types with
  | nil => simp [anyMentions]
  | cons type types ih => rw [anyMentions,Bool.or_eq_true,ih,List.exists_mem_cons_iff]

theorem areScoped_iff (types : List TypeSymbol) :
    areScoped parent arity types = true ↔ ∀ type ∈ types,isScoped parent arity type = true := by
  induction types with
  | nil => simp [areScoped]
  | cons type types ih => rw [areScoped,Bool.and_eq_true,ih,List.forall_mem_cons]

theorem instantiateAll_eq_map (types : List TypeSymbol) :
    instantiateAll assignment types = types.map (TypeSymbol.instantiate assignment) := by
  induction types with
  | nil => rfl
  | cons type types ih => rw [instantiateAll,ih,List.map_cons]

theorem mem_pairs {left right : List TypeSymbol} {size : Nat} {pair : TypeSymbol × TypeSymbol} (sized : left.length = size)
    (sized' : right.length = size) : pair ∈ pairs left right size ↔ pair ∈ left.zip right := by
  have same : pairs left right size = left.zip right := by
    apply List.ext_getElem
    · rw [length_pairs,List.length_zip,sized,sized',Nat.min_self]
    · intro index inside _
      rw [length_pairs] at inside
      simp only [pairs,List.getElem_map,List.getElem_range,List.getElem_zip]
      rw [List.getD_eq_getElem _ _ (sized ▸ inside),List.getD_eq_getElem _ _ (sized' ▸ inside)]
  rw [same]

end Mentions

section Inference

variable {table : SymbolTable} {genericType : TypeSymbol} {method : MethodSymbol} {arguments out out' : List TypeSymbol}
  {fuel : Nat}

def argumentOf (method : MethodSymbol) (arguments : List TypeSymbol) (parent : Parent) (index : Nat) : TypeSymbol :=
  if parent = .method method.number then arguments.getD index .null else .typeParameter parent index

structure Learned (arguments out : List TypeSymbol) : Prop where
  sized : out.length = arguments.length
  right : ∀ index,out.getD index .null = .null ∨ (out.getD index .null).erase = (arguments.getD index .null).erase

/-- One inference: what was known is kept, and what is mentioned becomes known. -/
structure Learns (arguments : List TypeSymbol) (mentioned : Nat → Prop) (out out' : List TypeSymbol) : Prop where
  learned : Learned arguments out'
  kept : ∀ index,out.getD index .null ≠ .null → out'.getD index .null ≠ .null
  found : ∀ index,mentioned index → out'.getD index .null ≠ .null

theorem inferEach_learns (infer : TypeSymbol → TypeSymbol → List TypeSymbol → Option (Bool × List TypeSymbol))
    (mentioned : TypeSymbol → Nat → Prop) {items : List (TypeSymbol × TypeSymbol)}
    (each : ∀ pair ∈ items,∀ out,Learned arguments out →
      ∃ out',infer pair.1 pair.2 out = some (true,out') ∧ Learns arguments (mentioned pair.1) out out')
    (learned : Learned arguments out) :
    ∃ out',inferEach infer items out = some (true,out') ∧
      Learns arguments (fun index => ∃ pair ∈ items,mentioned pair.1 index) out out' := by
  induction items generalizing out with
  | nil => exact ⟨out,rfl,learned,fun _ => id,nofun⟩
  | cons pair items ih =>
      rw [List.forall_mem_cons] at each
      obtain ⟨middle,here,first⟩ := each.1 out learned
      obtain ⟨out',rest,second⟩ := ih each.2 first.learned
      refine ⟨out',?_,second.learned,fun index known => second.kept index (first.kept index known),?_⟩
      · rw [inferEach,here]
        exact rest
      · intro index known
        obtain ⟨pair',member,known⟩ := known
        rcases List.mem_cons.mp member with rfl | member
        · exact second.kept index (first.found index known)
        · exact second.found index ⟨pair',member,known⟩

theorem Learned.set (learned : Learned arguments out) {index : Nat} {concrete : TypeSymbol}
    (inside : index < arguments.length) (present : concrete ≠ .null)
    (same : concrete.erase = (arguments.getD index .null).erase) :
    Learns arguments (· = index) out (out.set index concrete) := by
  have inside' : index < out.length := learned.sized ▸ inside
  have here : (out.set index concrete).getD index .null = concrete := by simp [inside']
  have other {place : Nat} (h : place ≠ index) : (out.set index concrete).getD place .null = out.getD place .null := by
    simp [List.getElem?_set_ne h.symm]
  refine ⟨⟨(List.length_set ..).trans learned.sized,fun place => ?_⟩,fun place known => ?_,fun place known => ?_⟩
  · by_cases h : place = index
    · rw [h,here]
      exact .inr same
    · rw [other h]
      exact learned.right place
  · by_cases h : place = index
    · rwa [h,here]
    · rwa [other h]
  · rwa [known,here]

theorem isComplete_of_erase {type type' : TypeSymbol} (same : type.erase = type'.erase) (complete : isComplete table fuel type) :
    isComplete table fuel type' := by
  rw [← areTypesEqual_self] at complete ⊢
  rwa [← areTypesEqual_of_erase same same]

theorem isComplete_ne_null {type : TypeSymbol} (complete : isComplete table fuel type) : type ≠ .null :=
  Complete.ne_null ⟨fuel,complete⟩

theorem receiverPattern_of_method (pattern : TypeSymbol) {arity : Nat}
    (inside : isScoped (.method method.number) arity pattern = true) : receiverPattern genericType pattern = pattern := by
  cases pattern with
  | typeParameter parent index =>
      rw [isScoped,Bool.and_eq_true,beq_iff_eq] at inside
      have foreign : genericType.substituteTypeParameters (.method method.number) index = .null := by
        cases genericType with
        | generic => simp [TypeSymbol.substituteTypeParameters]
        | _ => rfl
      rw [receiverPattern,← inside.1,foreign]
      exact if_pos rfl
  | _ => rfl

theorem tryInferTypeArgument_learns (sized : arguments.length = method.typeParameters.length) {pattern concrete : TypeSymbol}
    (inside : isScoped (.method method.number) method.typeParameters.length pattern = true)
    (proper : isProper table pattern = true) (same : concrete.erase = pattern.instantiate (argumentOf method arguments))
    (complete : isComplete table fuel concrete) (learned : Learned arguments out) :
    ∃ out',tryInferTypeArgument table method genericType fuel pattern concrete out = some (true,out') ∧
      Learns arguments (fun index => mentions (.method method.number) index pattern = true) out out' := by
  induction fuel generalizing pattern concrete out with
  | zero => exact complete.elim
  | succ fuel ih =>
      have present := isComplete_ne_null complete
      have present' : pattern ≠ .null := by
        rintro rfl
        exact present (erase_eq_null.mp same)
      rw [tryInferTypeArgument,if_neg (not_or.mpr ⟨present',present⟩),receiverPattern_of_method pattern inside]
      cases pattern with
      | null => exact absurd rfl present'
      | declared => exact ⟨out,rfl,learned,fun _ => id,nofun⟩
      | typeParameter parent index =>
          rw [isScoped,Bool.and_eq_true,beq_iff_eq,decide_eq_true_eq] at inside
          obtain ⟨rfl,inside⟩ := inside
          have meant : concrete.erase = (arguments.getD index .null).erase := by
            rw [same,TypeSymbol.instantiate,argumentOf,if_pos rfl]
          have mentioned {place : Nat} (h : mentions (.method method.number) place
              (.typeParameter (.method method.number) index) = true) : place = index := by
            rw [mentions,Bool.and_eq_true,beq_iff_eq] at h
            exact (beq_iff_eq.mp h.2).symm
          simp only [true_and,if_pos inside]
          split
          · have step := learned.set (sized ▸ inside) present meant
            exact ⟨_,rfl,step.learned,step.kept,fun place known => step.found place (mentioned known)⟩
          · next known =>
              have equal : areTypesEqual table (fuel + 1) (out.getD index .null) concrete = some true := by
                rw [areTypesEqual_of_erase (((learned.right index).resolve_left known).trans meant.symm) rfl]
                exact areTypesEqual_self.mpr complete
              rw [equal]
              refine ⟨out,rfl,learned,fun _ => id,fun place found => ?_⟩
              rwa [mentioned found]
      | array address element length =>
          cases concrete with
          | array _ element' _ =>
              have same' : element'.erase = element.instantiate (argumentOf method arguments) := by
                rw [TypeSymbol.erase,TypeSymbol.instantiate] at same
                injection same
              have complete' : isComplete table fuel element' := complete.2 element' List.mem_cons_self
              exact ih inside proper same' complete' learned
          | _ => cases same
      | generic address underlayingType patternArguments =>
          cases concrete with
          | generic address' underlayingType' concreteArguments =>
              rw [TypeSymbol.erase,TypeSymbol.instantiate,TypeSymbol.generic.injEq] at same
              obtain ⟨-,rfl,same⟩ := same
              rw [isProper,Bool.and_eq_true,beq_iff_eq] at proper
              rw [eraseAll_eq_map,instantiateAll_eq_map] at same
              have size : concreteArguments.length = patternArguments.length := by
                simpa using congrArg List.length same
              simp only [if_true]
              have each : ∀ pair ∈ pairs patternArguments concreteArguments (table.arity underlayingType'),
                  ∀ out,Learned arguments out → ∃ out',tryInferTypeArgument table method genericType fuel pair.1 pair.2 out =
                    some (true,out') ∧
                    Learns arguments (fun index => mentions (.method method.number) index pair.1 = true) out out' := by
                intro pair member out learned
                rw [mem_pairs proper.1 (size.trans proper.1)] at member
                have left := (List.of_mem_zip member).1
                have right := (List.of_mem_zip member).2
                apply ih ((areScoped_iff _).mp inside _ left) ((areProper_iff _).mp proper.2 _ left) _ _ learned
                · obtain ⟨place,bound,rfl⟩ := List.mem_iff_getElem.mp member
                  rw [List.length_zip,size,Nat.min_self] at bound
                  have here := congrArg (fun types => types[place]?) same
                  simpa [bound,size] using here
                · apply complete.2
                  rw [parts,← proper.1,← size,padded_length]
                  exact List.mem_cons_of_mem _ right
              obtain ⟨out',found,step⟩ := inferEach_learns (tryInferTypeArgument table method genericType fuel)
                (fun pattern index => mentions (.method method.number) index pattern = true) each learned
              refine ⟨out',found,step.learned,step.kept,fun index known => step.found index ?_⟩
              obtain ⟨argument,member,known⟩ := (anyMentions_iff _).mp known
              obtain ⟨place,bound,rfl⟩ := List.mem_iff_getElem.mp member
              refine ⟨(patternArguments[place],concreteArguments[place]),?_,known⟩
              rw [mem_pairs proper.1 (size.trans proper.1)]
              exact List.mem_iff_getElem.mpr ⟨place,by simpa [size] using bound,List.getElem_zip⟩
          | _ => cases same

theorem eraseAll_of_learned (learned : Learned arguments out) (found : ∀ index < out.length,out.getD index .null ≠ .null) :
    eraseAll out = eraseAll arguments := by
  rw [eraseAll_eq_map,eraseAll_eq_map]
  apply List.ext_getElem
  · rw [List.length_map,List.length_map,learned.sized]
  · intro index inside inside'
    rw [List.length_map] at inside inside'
    have same := (learned.right index).resolve_left (found index inside)
    rw [List.getD_eq_getElem _ _ inside,List.getD_eq_getElem _ _ inside'] at same
    simpa only [List.getElem_map] using same

end Inference

section Constraints

variable {table : SymbolTable} {fuel more : Nat}

theorem typeImplementsInterface_erase (type : TypeSymbol) (number : Nat) :
    typeImplementsInterface table type.erase number = typeImplementsInterface table type number := by
  cases type <;> rfl

theorem typeSatisfiesConstraint_of_erase {typeArg typeArg' : TypeSymbol} (same : typeArg.erase = typeArg'.erase)
    (constraint : TypeSymbol) :
    typeSatisfiesConstraint table fuel typeArg constraint = typeSatisfiesConstraint table fuel typeArg' constraint := by
  have missing : typeArg = .null ↔ typeArg' = .null := by rw [← erase_eq_null,same,erase_eq_null]
  have implements (number : Nat) : typeImplementsInterface table typeArg number =
      typeImplementsInterface table typeArg' number := by
    rw [← typeImplementsInterface_erase,same,typeImplementsInterface_erase]
  have assignable : isAssignableTo table fuel constraint typeArg = isAssignableTo table fuel constraint typeArg' :=
    isAssignableTo_of_erase rfl same
  simp only [typeSatisfiesConstraint,missing,implements,assignable]

theorem typeSatisfiesConstraint_extends (greater : fuel ≤ more) (typeArg constraint : TypeSymbol) :
    (typeSatisfiesConstraint table fuel typeArg constraint).Extends (typeSatisfiesConstraint table more typeArg constraint) := by
  unfold typeSatisfiesConstraint
  split
  · exact .refl _
  · split
    · exact .refl _
    · exact isAssignableTo_extends greater _ _

def Satisfies (table : SymbolTable) (fuel : Nat) (pair : TypeParameterSymbol × TypeSymbol) : Prop :=
  ∀ constraint ∈ pair.1.constraints,constraint ≠ .null → typeSatisfiesConstraint table fuel pair.2 constraint = some true

theorem firstViolation_eq_none {typeParameter : String} {typeArg : TypeSymbol} {constraints : List TypeSymbol}
    (satisfied : ∀ constraint ∈ constraints,constraint ≠ .null →
      typeSatisfiesConstraint table fuel typeArg constraint = some true) :
    firstViolation table fuel typeParameter typeArg constraints = some none := by
  induction constraints with
  | nil => rfl
  | cons constraint constraints ih =>
      rw [List.forall_mem_cons] at satisfied
      rw [firstViolation]
      split
      · exact ih satisfied.2
      · next present =>
          rw [satisfied.1 present]
          exact ih satisfied.2

theorem checkConstraints_eq_none {typeParams : List TypeParameterSymbol} {typeArgs : List TypeSymbol}
    (satisfied : ∀ pair ∈ typeParams.zip typeArgs,Satisfies table fuel pair) :
    checkConstraints table fuel typeParams typeArgs = some none := by
  induction typeParams generalizing typeArgs with
  | nil => rfl
  | cons typeParam typeParams ih =>
      cases typeArgs with
      | nil => rfl
      | cons typeArg typeArgs =>
          rw [List.zip_cons_cons,List.forall_mem_cons] at satisfied
          rw [checkConstraints,firstViolation_eq_none satisfied.1,ite_self]
          exact ih satisfied.2

theorem exists_satisfies {pair : TypeParameterSymbol × TypeSymbol}
    (each : ∀ constraint ∈ pair.1.constraints,constraint ≠ .null →
      ∃ fuel,typeSatisfiesConstraint table fuel pair.2 constraint = some true) : ∃ fuel,Satisfies table fuel pair := by
  refine Library.Verdict.exists_enough (fun fuel constraint => constraint ≠ .null →
    typeSatisfiesConstraint table fuel pair.2 constraint = some true) pair.1.constraints ?_ ?_
  · intro fuel more constraint greater satisfied present
    exact typeSatisfiesConstraint_extends greater _ _ _ (satisfied present)
  · intro constraint member
    by_cases missing : constraint = .null
    · exact ⟨0,fun present => absurd missing present⟩
    · obtain ⟨fuel,satisfied⟩ := each constraint member missing
      exact ⟨fuel,fun _ => satisfied⟩

end Constraints

section Matching

variable {table : SymbolTable} {fuel : Nat} {genericType : TypeSymbol} {method : Option Nat} {typeArgs : List TypeSymbol}

variable {items : List (TypeSymbol × TypeSymbol)}

theorem matchArguments_matches (factory : Factory)
    (same : ∀ pair ∈ items,∀ factory,
      (substituteTypeParameters table genericType method typeArgs pair.1 factory).1.erase = pair.2.erase)
    (complete : ∀ pair ∈ items,isComplete table fuel pair.2) :
    ∃ factory',matchArguments table genericType fuel method typeArgs items factory = some (true,factory') := by
  induction items generalizing factory with
  | nil => exact ⟨factory,rfl⟩
  | cons pair items ih =>
      rw [List.forall_mem_cons] at same complete
      have alike := same.1 factory
      rcases substituted : substituteTypeParameters table genericType method typeArgs pair.1 factory with ⟨paramType,middle⟩
      obtain ⟨factory',rest⟩ := ih middle same.2 complete.2
      refine ⟨factory',?_⟩
      simp only [matchArguments,substituted]
      rw [substituted] at alike
      split
      · exact rest
      · have assignable : isAssignableTo table fuel paramType pair.2 = some true := by
          apply isAssignableTo_of_equal
          rw [areTypesEqual_of_erase alike rfl]
          exact areTypesEqual_self.mpr complete.1
        rw [assignable]
        exact rest

theorem complete_of_matchArguments {factory factory' : Factory}
    (same : ∀ pair ∈ items,∀ factory,
      (substituteTypeParameters table genericType method typeArgs pair.1 factory).1.erase = pair.2.erase)
    (matched : matchArguments table genericType fuel method typeArgs items factory = some (true,factory')) :
    ∀ pair ∈ items,Complete table pair.2 := by
  induction items generalizing factory with
  | nil => exact nofun
  | cons pair items ih =>
      rw [List.forall_mem_cons] at same ⊢
      have alike := same.1 factory
      rcases substituted : substituteTypeParameters table genericType method typeArgs pair.1 factory with ⟨paramType,middle⟩
      simp only [matchArguments,substituted] at matched
      rw [substituted] at alike
      split at matched
      · next any =>
          refine ⟨?_,ih same.2 matched⟩
          rw [any] at alike
          rw [erase_eq_declared.mp alike.symm]
          exact complete_of_not_delegate (table.primitives _ (by simp)).2
      · split at matched
        · next assignable =>
            refine ⟨?_,ih same.2 matched⟩
            rw [isAssignableTo_of_erase alike rfl] at assignable
            exact complete_of_isAssignableTo_self assignable
        · cases matched
        · cases matched

end Matching

section Calls

variable {table : SymbolTable} {fuel : Nat} {genericType : TypeSymbol} {method : MethodSymbol}
  {arguments argTypes typeArgs : List TypeSymbol} {state state' : MatchState}

theorem tryMatchMethod_eq_some (generic : method.typeParameters ≠ []) :
    tryMatchMethod table genericType fuel method method.name argTypes [] state = some (some typeArgs,state') ↔
      inferMethodTypeArguments table method genericType fuel argTypes = some (some typeArgs) ∧
      typeArgs.length = method.typeParameters.length ∧
      checkConstraints table fuel method.typeParameters typeArgs = some none ∧
      argTypes.length = method.parameters.length ∧
      ∃ factory,matchArguments table genericType fuel (some method.number) typeArgs (method.parameters.zip argTypes)
        state.factory = some (true,factory) ∧ { state with factory := factory } = state' := by
  rw [tryMatchMethod,if_neg (not_not.mpr rfl),if_neg generic,if_pos rfl]
  rcases inferMethodTypeArguments table method genericType fuel argTypes with _ | _ | inferred
  · simp
  · simp
  · simp only [Option.bind_eq_bind,Option.bind_some,Option.some.injEq]
    by_cases sized : inferred.length = method.typeParameters.length
    · rw [if_neg (not_not.mpr sized)]
      rcases checked : checkConstraints table fuel method.typeParameters inferred with _ | _ | violation
      · simp only [Option.bind_none,reduceCtorEq,false_iff]
        rintro ⟨rfl,-,passed,-⟩
        rw [checked] at passed
        cases passed
      · simp only [Option.bind_some]
        by_cases counted : argTypes.length = method.parameters.length
        · rw [if_neg (not_not.mpr counted),Option.map_eq_some_iff]
          constructor
          · rintro ⟨⟨matched,factory⟩,found,result⟩
            cases matched with
            | false => cases result
            | true =>
                cases result
                exact ⟨rfl,sized,checked,counted,factory,found,rfl⟩
          · rintro ⟨rfl,-,-,-,factory,found,rfl⟩
            exact ⟨(true,factory),found,rfl⟩
        · rw [if_pos counted]
          simp [counted]
      · simp only [Option.bind_some,Option.some.injEq,Prod.mk.injEq,reduceCtorEq,false_and,false_iff]
        rintro ⟨rfl,-,passed,-⟩
        rw [checked] at passed
        cases passed
    · rw [if_pos sized]
      simp only [Option.some.injEq,Prod.mk.injEq,reduceCtorEq,false_and,false_iff]
      rintro ⟨rfl,other,-⟩
      exact sized other

/-- A call of a generic method with arguments of the types that its parameters get from type arguments. -/
structure GenericCall (table : SymbolTable) (method : MethodSymbol) (arguments argTypes : List TypeSymbol) : Prop where
  generic : method.typeParameters ≠ []
  inside : ∀ parameter ∈ method.parameters,
    isScoped (.method method.number) method.typeParameters.length parameter = true
  proper : ∀ parameter ∈ method.parameters,isProper table parameter = true
  mentioned : ∀ index < method.typeParameters.length,
    ∃ parameter ∈ method.parameters,mentions (.method method.number) index parameter = true
  sized : arguments.length = method.typeParameters.length
  satisfied : ∀ pair ∈ method.typeParameters.zip arguments,∀ constraint ∈ pair.1.constraints,constraint ≠ .null →
    ∃ fuel,typeSatisfiesConstraint table fuel pair.2 constraint = some true
  same : List.Forall₂ (fun parameter argType => argType.erase = parameter.instantiate (argumentOf method arguments))
    method.parameters argTypes

def Infers (table : SymbolTable) (genericType : TypeSymbol) (method : MethodSymbol) (arguments argTypes : List TypeSymbol)
    (state : MatchState) : Prop :=
  ∃ fuel typeArgs state',tryMatchMethod table genericType fuel method method.name argTypes [] state =
    some (some typeArgs,state') ∧ eraseAll typeArgs = eraseAll arguments

theorem erase_getD_of_eraseAll (same : eraseAll typeArgs = eraseAll arguments) (index : Nat) :
    (typeArgs.getD index .null).erase = (arguments.getD index .null).erase := by
  rw [erase_getD,erase_getD,same]

theorem length_of_eraseAll (same : eraseAll typeArgs = eraseAll arguments) : typeArgs.length = arguments.length := by
  simpa only [eraseAll_eq_map,List.length_map] using congrArg List.length same

theorem getD_ne_null (present : TypeSymbol.null ∉ typeArgs) {index : Nat} (inside : index < typeArgs.length) :
    typeArgs.getD index .null ≠ .null := by
  rw [List.getD_eq_getElem _ _ inside]
  exact fun missing => present (missing ▸ List.getElem_mem inside)

theorem inferMethodTypeArguments_eq_some :
    inferMethodTypeArguments table method genericType fuel argTypes = some (some typeArgs) ↔
      argTypes.length + (if method.isInstance then 1 else 0) = method.parameters.length ∧ .null ∉ typeArgs ∧
      inferEach (tryInferTypeArgument table method genericType fuel)
        ((method.parameters.drop (if method.isInstance then 1 else 0)).zip argTypes)
        (List.replicate method.typeParameters.length .null) = some (true,typeArgs) := by
  unfold inferMethodTypeArguments
  by_cases counted : argTypes.length + (if method.isInstance then 1 else 0) = method.parameters.length
  · rw [if_pos counted,Option.map_eq_some_iff]
    constructor
    · rintro ⟨⟨inferred,out⟩,found,result⟩
      simp only at result
      split at result
      · next known =>
          cases result
          refine ⟨counted,known.2,?_⟩
          rw [found,known.1]
      · cases result
    · rintro ⟨-,known,found⟩
      exact ⟨_,found,if_pos ⟨rfl,known⟩⟩
  · rw [if_neg counted]
    exact ⟨nofun,fun known => absurd known.1 counted⟩

theorem erase_substituteBound (same : eraseAll typeArgs = eraseAll arguments) (present : TypeSymbol.null ∉ typeArgs)
    {index : Nat} (inside : index < typeArgs.length) :
    (substituteBound genericType (some method.number) typeArgs (.method method.number) index).erase =
      (argumentOf method arguments (.method method.number) index).erase := by
  have foreign : genericType.substituteTypeParameters (.method method.number) index = .null := by
    cases genericType with
    | generic => simp [TypeSymbol.substituteTypeParameters]
    | _ => rfl
  have known := getD_ne_null present inside
  have bound : substituteBound genericType (some method.number) typeArgs (.method method.number) index =
      typeArgs.getD index .null := by
    simp only [substituteBound,foreign,if_true,substituteMethodTypeParameter,Option.map_some,true_and,if_pos inside,
      if_neg known]
  rw [bound,argumentOf,if_pos rfl]
  exact erase_getD_of_eraseAll same index

variable (call : GenericCall table method arguments argTypes)
include call

theorem GenericCall.same_of_mem {pair : TypeSymbol × TypeSymbol} (member : pair ∈ method.parameters.zip argTypes) :
    pair.2.erase = pair.1.instantiate (argumentOf method arguments) :=
  (List.forall₂_iff_zip.mp call.same).2 member

theorem GenericCall.substituted (same : eraseAll typeArgs = eraseAll arguments) (present : TypeSymbol.null ∉ typeArgs)
    (named : ∀ parameter ∈ method.parameters,isNamed table (argumentOf method arguments) parameter = true)
    (pair : TypeSymbol × TypeSymbol) (member : pair ∈ method.parameters.zip argTypes) (factory : Factory) :
    (substituteTypeParameters table genericType (some method.number) typeArgs pair.1 factory).1.erase = pair.2.erase := by
  have parameter := (List.of_mem_zip member).1
  rw [call.same_of_mem member]
  apply erase_substituteTypeParameters _ _ _ (call.inside _ parameter) (call.proper _ parameter) (named _ parameter)
  intro index inside
  rw [← call.sized,← length_of_eraseAll same] at inside
  exact erase_substituteBound same present inside

theorem GenericCall.infers_of_static (direct : method.isInstance = false)
    (complete : ∀ parameter ∈ method.parameters,Complete table (parameter.instantiate (argumentOf method arguments)))
    (named : ∀ parameter ∈ method.parameters,isNamed table (argumentOf method arguments) parameter = true) :
    Infers table genericType method arguments argTypes state := by
  have counted : argTypes.length = method.parameters.length := call.same.length_eq.symm
  obtain ⟨fuel,complete⟩ : ∃ fuel,∀ pair ∈ method.parameters.zip argTypes,isComplete table fuel pair.2 := by
    apply Library.Verdict.exists_enough (fun fuel (pair : TypeSymbol × TypeSymbol) => isComplete table fuel pair.2) _
      (fun greater => isComplete_more greater)
    intro pair member
    obtain ⟨fuel,complete⟩ := complete pair.1 (List.of_mem_zip member).1
    rw [← call.same_of_mem member] at complete
    exact ⟨fuel,isComplete_of_erase (erase_erase _) complete⟩
  obtain ⟨fuel',satisfied⟩ := Library.Verdict.exists_enough (Satisfies table) _
    (fun greater satisfied constraint member present =>
      typeSatisfiesConstraint_extends greater _ _ _ (satisfied constraint member present))
    fun pair member => exists_satisfies (call.satisfied pair member)
  have complete' (pair : TypeSymbol × TypeSymbol) (member : pair ∈ method.parameters.zip argTypes) :
      isComplete table (max fuel fuel') pair.2 := isComplete_more (Nat.le_max_left ..) (complete pair member)
  have unknown : Learned arguments (List.replicate method.typeParameters.length .null) := by
    refine ⟨by rw [List.length_replicate,call.sized],fun index => .inl ?_⟩
    simp [List.getD_eq_getElem?_getD,List.getElem?_replicate]
    split <;> rfl
  obtain ⟨typeArgs,inferred,step⟩ := inferEach_learns
    (tryInferTypeArgument table method genericType (max fuel fuel'))
    (fun pattern index => mentions (.method method.number) index pattern = true)
    (fun pair member out learned => tryInferTypeArgument_learns call.sized (call.inside _ (List.of_mem_zip member).1)
      (call.proper _ (List.of_mem_zip member).1) (call.same_of_mem member) (complete' pair member) learned) unknown
  have found : ∀ index < typeArgs.length,typeArgs.getD index .null ≠ .null := by
    intro index inside
    rw [step.learned.sized,call.sized] at inside
    obtain ⟨parameter,member,mentioned⟩ := call.mentioned index inside
    rw [← List.map_fst_zip (Nat.le_of_eq counted.symm)] at member
    obtain ⟨pair,paired,rfl⟩ := List.mem_map.mp member
    exact step.found index ⟨pair,paired,mentioned⟩
  have same := eraseAll_of_learned step.learned found
  have present : TypeSymbol.null ∉ typeArgs := fun member => by
    obtain ⟨index,inside,missing⟩ := List.mem_iff_getElem.mp member
    exact found index inside ((List.getD_eq_getElem _ _ inside).trans missing)
  obtain ⟨factory,matched⟩ := matchArguments_matches state.factory (call.substituted same present named) complete'
  refine ⟨max fuel fuel',typeArgs,_,(tryMatchMethod_eq_some call.generic).mpr
    ⟨inferMethodTypeArguments_eq_some.mpr ⟨?_,present,?_⟩,?_,?_,counted,factory,matched,rfl⟩,same⟩
  · simpa [direct] using counted
  · simpa [direct] using inferred
  · rw [step.learned.sized,call.sized]
  · apply checkConstraints_eq_none
    intro pair member constraint inside proper
    obtain ⟨index,bound,rfl⟩ := List.mem_iff_getElem.mp member
    rw [List.length_zip] at bound
    have bound' := Nat.lt_min.mp bound
    have place : index < arguments.length := step.learned.sized ▸ bound'.2
    have alike := erase_getD_of_eraseAll same index
    rw [List.getD_eq_getElem _ _ bound'.2,List.getD_eq_getElem _ _ place] at alike
    rw [List.getElem_zip,typeSatisfiesConstraint_of_erase alike]
    have given : (method.typeParameters[index],arguments[index]) ∈ method.typeParameters.zip arguments := by
      apply List.mem_iff_getElem.mpr
      exact ⟨index,by rw [List.length_zip]; exact Nat.lt_min.mpr ⟨bound'.1,place⟩,List.getElem_zip⟩
    rw [List.getElem_zip] at inside
    exact typeSatisfiesConstraint_extends (Nat.le_max_right ..) _ _ _ (satisfied _ given constraint inside proper)

theorem GenericCall.static_of_infers (infers : Infers table genericType method arguments argTypes state) :
    method.isInstance = false := by
  obtain ⟨fuel,typeArgs,state',matched,-⟩ := infers
  obtain ⟨inferred,-,-,counted,-⟩ := (tryMatchMethod_eq_some call.generic).mp matched
  have started := (inferMethodTypeArguments_eq_some.mp inferred).1
  rw [counted] at started
  by_contra direct
  rw [if_pos (by simpa using direct)] at started
  omega

theorem GenericCall.complete_of_infers (infers : Infers table genericType method arguments argTypes state)
    (named : ∀ parameter ∈ method.parameters,isNamed table (argumentOf method arguments) parameter = true) :
    ∀ parameter ∈ method.parameters,Complete table (parameter.instantiate (argumentOf method arguments)) := by
  obtain ⟨fuel,typeArgs,state',matched,same⟩ := infers
  obtain ⟨inferred,-,-,counted,factory,matched,-⟩ := (tryMatchMethod_eq_some call.generic).mp matched
  have present := (inferMethodTypeArguments_eq_some.mp inferred).2.1
  have complete := complete_of_matchArguments (call.substituted same present named) matched
  intro parameter member
  rw [← List.map_fst_zip (Nat.le_of_eq counted.symm)] at member
  obtain ⟨pair,paired,rfl⟩ := List.mem_map.mp member
  obtain ⟨fuel,known⟩ := complete pair paired
  rw [← call.same_of_mem paired]
  exact ⟨fuel,isComplete_of_erase (erase_erase _).symm known⟩

/-- The type arguments of a static method are inferred if no part of the parameters that they are put into is missing or
endless, and if the type parameters of the constructed types can be told apart by their names. Those of an instance method
never are. -/
theorem inference_inverts_substitution :
    ((method.isInstance = false ∧
        (∀ parameter ∈ method.parameters,Complete table (parameter.instantiate (argumentOf method arguments))) ∧
        ∀ parameter ∈ method.parameters,isNamed table (argumentOf method arguments) parameter = true) →
      Infers table genericType method arguments argTypes state) ∧
    (Infers table genericType method arguments argTypes state →
      method.isInstance = false ∧
        ((∀ parameter ∈ method.parameters,isNamed table (argumentOf method arguments) parameter = true) →
          ∀ parameter ∈ method.parameters,Complete table (parameter.instantiate (argumentOf method arguments)))) :=
  ⟨fun holds => call.infers_of_static holds.1 holds.2.1 holds.2.2,
    fun infers => ⟨call.static_of_infers infers,call.complete_of_infers infers⟩⟩

omit call

section Methods

def fill : MethodSymbol where
  number := 0
  name := "Fill"
  isInstance := false
  typeParameters := [⟨"T",[]⟩]
  parameters := [.generic 0 0 [.typeParameter (.method 0) 0],.array 1 (.typeParameter (.method 0) 0) 0]

def put : MethodSymbol where
  number := 1
  name := "Put"
  isInstance := true
  typeParameters := [⟨"T",[]⟩]
  parameters := [.typeParameter (.method 1) 0]

theorem fill_call : GenericCall collections fill [.declared 1] [.generic 2 0 [.declared 1],.array 3 (.declared 1) 0] where
  generic := by decide
  inside := by decide
  proper := by decide
  mentioned := by decide
  sized := rfl
  satisfied := by simp [fill]
  same := .cons rfl (.cons rfl .nil)

theorem put_call : GenericCall collections put [.declared 1] [.declared 1] where
  generic := by decide
  inside := by decide
  proper := by decide
  mentioned := by decide
  sized := rfl
  satisfied := by simp [put]
  same := .cons rfl .nil

theorem inference_inverts_substitution_fill :
    Infers collections .null fill [.declared 1] [.generic 2 0 [.declared 1],.array 3 (.declared 1) 0] ⟨⟨4,[]⟩,[]⟩ := by
  refine (inference_inverts_substitution fill_call).1 ⟨rfl,fun parameter member => ⟨3,?_⟩,by decide⟩
  apply areTypesEqual_self.mp
  revert parameter
  decide

/-- The type argument of an instance method is not found from an `int`. -/
theorem instance_not_inferred :
    GenericCall collections put [.declared 1] [.declared 1] ∧
      ¬ Infers collections .null put [.declared 1] [.declared 1] ⟨⟨0,[]⟩,[]⟩ :=
  ⟨put_call,fun infers => nomatch put_call.static_of_infers infers⟩

end Methods

end Calls

end ShardScript.Types
