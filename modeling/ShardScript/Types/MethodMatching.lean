import ShardScript.Types.Assignability

/-! Whether a method is the target of a call: the inference of its type arguments, their constraints, and the types of the
arguments. -/
namespace ShardScript.Types

open Library (Verdict)

section Inference

@[grind] def inferEach (infer : TypeSymbol → TypeSymbol → List TypeSymbol → Option (Bool × List TypeSymbol)) :
    List (TypeSymbol × TypeSymbol) → List TypeSymbol → Option (Bool × List TypeSymbol)
  | [],out => some (true,out)
  | (pattern,concrete) :: rest,out =>
      match infer pattern concrete out with
      | some (true,out) => inferEach infer rest out
      | result => result

variable (table : SymbolTable)

/-- A class, a struct or an interface has interfaces that a pattern is looked for in. -/
def implementsInterfaces (type : TypeSymbol) : Bool :=
  [some .classDeclaration,some .structDeclaration,some .interfaceDeclaration].contains (kind table type)

/-- The arguments of the first implemented interface that is made of the pattern's underlaying type. -/
def implementedArguments (concrete : TypeSymbol) (patternUnderlying : Nat) : Option (List TypeSymbol) :=
  (interfacesOf table concrete).findSome? fun iface =>
    match iface with
    | .generic _ underlayingType typeArguments => if underlayingType = patternUnderlying then some typeArguments else none
    | _ => none

def delegatePairs (pattern : TypeSymbol) (patternDelegate concreteDelegate : TypeDeclaration) :
    List (TypeSymbol × TypeSymbol) :=
  (if patternDelegate.returnType ≠ .null ∧ concreteDelegate.returnType ≠ .null then
    [(delegateArgument pattern patternDelegate.returnType,concreteDelegate.returnType)]
  else []) ++
  (if patternDelegate.parameters.length = concreteDelegate.parameters.length then
    (patternDelegate.parameters.map (delegateArgument pattern)).zip concreteDelegate.parameters
  else [])

variable (method : MethodSymbol) (genericType : TypeSymbol)

def receiverPattern : TypeSymbol → TypeSymbol
  | .typeParameter parent index =>
      let substituted := genericType.substituteTypeParameters parent index
      if substituted = .null then .typeParameter parent index else substituted
  | pattern => pattern

/-- `TryInferTypeArgument`. A null pointer stands for a type argument that is not known yet. -/
@[grind] def tryInferTypeArgument : Nat → TypeSymbol → TypeSymbol → List TypeSymbol → Option (Bool × List TypeSymbol)
  | 0,_,_,_ => none
  | fuel + 1,pattern,concrete,out =>
      if pattern = .null ∨ concrete = .null then some (true,out)
      else match receiverPattern genericType pattern with
        | .typeParameter parent index =>
            if parent = .method method.number ∧ index < method.typeParameters.length then
              if out.getD index .null = .null then some (true,out.set index concrete)
              else (areTypesEqual table (fuel + 1) (out.getD index .null) concrete).map fun equal => (equal,out)
            else some (true,out)
        | .generic address patternUnderlying patternArguments =>
            match concrete with
            | .array _ element _ =>
                if patternUnderlying = table.iEnumerable then
                  tryInferTypeArgument fuel (patternArguments.getD 0 .null) element out
                else some (true,out)
            | .generic _ concreteUnderlying concreteArguments =>
                if concreteUnderlying = patternUnderlying then
                  inferEach (tryInferTypeArgument fuel)
                    (pairs patternArguments concreteArguments (table.arity patternUnderlying)) out
                else some (true,out)
            | .declared number =>
                if implementsInterfaces table concrete then
                  match implementedArguments table concrete patternUnderlying with
                  | some concreteArguments =>
                      inferEach (tryInferTypeArgument fuel)
                        (pairs patternArguments concreteArguments (table.arity patternUnderlying)) out
                  | none => some (true,out)
                else if table.isDelegate (.declared patternUnderlying) ∧ table.isDelegate concrete then
                  inferEach (tryInferTypeArgument fuel)
                    (delegatePairs (.generic address patternUnderlying patternArguments)
                      (table.declaration patternUnderlying) (table.declaration number)) out
                else some (true,out)
            | _ => some (true,out)
        | .array _ patternElement _ =>
            match concrete with
            | .array _ element _ => tryInferTypeArgument fuel patternElement element out
            | _ => some (true,out)
        | _ => some (true,out)

def inferMethodTypeArguments (fuel : Nat) (argTypes : List TypeSymbol) : Option (Option (List TypeSymbol)) :=
  let start := if method.isInstance then 1 else 0
  if argTypes.length + start = method.parameters.length then
    (inferEach (tryInferTypeArgument table method genericType fuel) ((method.parameters.drop start).zip argTypes)
      (List.replicate method.typeParameters.length .null)).map fun (inferred,out) =>
        if inferred ∧ .null ∉ out then some out else none
  else some none

end Inference

section Constraints

variable (table : SymbolTable)

def typeImplementsInterface (type : TypeSymbol) (interfaceSymbol : Nat) : Bool :=
  let interfaces := match type with
    | .generic _ underlayingType _ => interfacesOf table (.declared underlayingType)
    | type => interfacesOf table type
  interfaces.any fun iface =>
    match iface with
    | .declared number => number == interfaceSymbol
    | .generic _ underlayingType _ => underlayingType == interfaceSymbol
    | _ => false

def typeSatisfiesConstraint (fuel : Nat) (typeArg constraint : TypeSymbol) : Verdict :=
  if typeArg = .null ∨ constraint = .null then some false
  else match constraint,kind table constraint with
    | .declared number,some .interfaceDeclaration => some (typeImplementsInterface table typeArg number)
    | _,_ => isAssignableTo table fuel constraint typeArg

structure Violation where
  typeArg : TypeSymbol
  constraint : TypeSymbol
  typeParameter : String
  deriving DecidableEq

def firstViolation (fuel : Nat) (typeParameter : String) (typeArg : TypeSymbol) :
    List TypeSymbol → Option (Option Violation)
  | [] => some none
  | constraint :: constraints =>
      if constraint = .null then firstViolation fuel typeParameter typeArg constraints
      else match typeSatisfiesConstraint table fuel typeArg constraint with
        | some true => firstViolation fuel typeParameter typeArg constraints
        | some false => some (some ⟨typeArg,constraint,typeParameter⟩)
        | none => none

@[grind] def checkConstraints (fuel : Nat) : List TypeParameterSymbol → List TypeSymbol → Option (Option Violation)
  | typeParam :: typeParams,typeArg :: typeArgs =>
      match if typeArg = .null then some none
        else firstViolation table fuel typeParam.name typeArg typeParam.constraints with
      | some none => checkConstraints fuel typeParams typeArgs
      | result => result
  | _,_ => some none

end Constraints

section Matching

variable (table : SymbolTable) (genericType : TypeSymbol)

/-- The comparison of the arguments with the parameters, the type parameters of which have been replaced. -/
def matchArguments (fuel : Nat) (method : Option Nat) (typeArgs : List TypeSymbol) :
    List (TypeSymbol × TypeSymbol) → Factory → Option (Bool × Factory)
  | [],factory => some (true,factory)
  | (parameter,argType) :: rest,factory =>
      let (paramType,factory) := substituteTypeParameters table genericType method typeArgs parameter factory
      if paramType = .declared table.any then matchArguments fuel method typeArgs rest factory
      else match isAssignableTo table fuel paramType argType with
        | some true => matchArguments fuel method typeArgs rest factory
        | some false => some (false,factory)
        | none => none

structure MatchState where
  factory : Factory
  diagnostics : List Violation

/-- `TryMatchMethod`: the type arguments of the method if it matches. -/
def tryMatchMethod (fuel : Nat) (method : MethodSymbol) (expectedName : String) (argTypes explicitTypeArgs : List TypeSymbol)
    (state : MatchState) : Option (Option (List TypeSymbol) × MatchState) :=
  if method.name ≠ expectedName then some (none,state)
  else if method.typeParameters = [] then
    if argTypes.length ≠ method.parameters.length then some (none,state)
    else (matchArguments table genericType fuel none [] (method.parameters.zip argTypes) state.factory).map
      fun (matched,factory) => (if matched then some [] else none,{ state with factory := factory })
  else do
    let inferred ← if explicitTypeArgs = [] then inferMethodTypeArguments table method genericType fuel argTypes
      else some (some explicitTypeArgs)
    match inferred with
    | none => some (none,state)
    | some typeArgs =>
        if typeArgs.length ≠ method.typeParameters.length then some (none,state)
        else match ← checkConstraints table fuel method.typeParameters typeArgs with
          | some violation => some (none,{ state with diagnostics := state.diagnostics ++ [violation] })
          | none =>
              if argTypes.length ≠ method.parameters.length then some (none,state)
              else (matchArguments table genericType fuel (some method.number) typeArgs (method.parameters.zip argTypes)
                state.factory).map fun (matched,factory) =>
                  (if matched then some typeArgs else none,{ state with factory := factory })

end Matching

section Arguments

structure ParameterSymbol where
  name : String
  type : TypeSymbol

variable (table : SymbolTable) (genericType : TypeSymbol) (typeName : TypeSymbol → String)

/-- The arguments with the parameters in front of them. An argument without an expression, or a parameter that is a null
pointer, is nothing; a null pointer is the type of an expression that has none. -/
@[grind] def matchEachArgument (fuel : Nat) (position : Nat) :
    List (Option ParameterSymbol × Option TypeSymbol) → Factory → Option (Bool × Factory × List String)
  | [],factory => some (true,factory,[])
  | (some param,some argType) :: rest,factory =>
      if argType = .null ∨ param.type = .null then some (false,factory,[])
      else
        let (paramType,factory) := substituteTypeParameters table genericType none [] param.type factory
        if paramType = .declared table.any then some (true,factory,[])
        else match isAssignableTo table fuel paramType argType with
          | some true => matchEachArgument fuel (position + 1) rest factory
          | some false => some (false,factory,["Argument type mismatch for parameter '" ++ param.name ++ "': expected '" ++
              typeName paramType ++ "' but got '" ++ typeName argType ++ "'"])
          | none => none
  | _ :: _,factory => some (false,factory,["Invalid argument at position " ++ toString position])

def matchMethodArguments (fuel : Nat) (parameters : List (Option ParameterSymbol)) (arguments : List (Option TypeSymbol))
    (parameterOffset : Nat) (factory : Factory) : Option (Bool × Factory × List String) :=
  let parameterOffset := min parameterOffset parameters.length
  let expectedArguments := parameters.length - parameterOffset
  if expectedArguments ≠ arguments.length then
    some (false,factory,["Method expects " ++ toString expectedArguments ++ " arguments but got " ++ toString arguments.length])
  else matchEachArgument table genericType typeName fuel 0 ((parameters.drop parameterOffset).zip arguments) factory

def MatchedBehindAny (fuel : Nat) : List (TypeSymbol × TypeSymbol) → Factory → Prop
  | [],_ => True
  | (parameter,argType) :: rest,factory =>
      let (paramType,factory) := substituteTypeParameters table genericType none [] parameter factory
      if paramType = .declared table.any then ∃ after,matchArguments table genericType fuel none [] rest factory = some (true,after)
      else isAssignableTo table fuel paramType argType = some true → MatchedBehindAny fuel rest factory

variable {table} {genericType} {typeName} {fuel : Nat}

theorem matchEachArgument_iff (position : Nat) (pairs : List (ParameterSymbol × TypeSymbol))
    (typed : ∀ pair ∈ pairs,pair.2 ≠ .null) (factory : Factory) :
    ((∃ after diagnostics,matchEachArgument table genericType typeName fuel position
        (pairs.map fun pair => (some pair.1,some pair.2)) factory = some (true,after,diagnostics)) ↔
      ∃ after,matchArguments table genericType fuel none [] (pairs.map fun pair => (pair.1.type,pair.2)) factory =
        some (true,after)) ↔
    MatchedBehindAny table genericType fuel (pairs.map fun pair => (pair.1.type,pair.2)) factory := by
  induction pairs generalizing position factory with
  | nil => exact iff_of_true (iff_of_true ⟨factory,[],rfl⟩ ⟨factory,rfl⟩) trivial
  | cons pair pairs ih =>
      obtain ⟨first,typed'⟩ := List.forall_mem_cons.mp typed
      obtain ⟨param,argType⟩ := pair
      simp only [List.map_cons,matchEachArgument,matchArguments,MatchedBehindAny]
      by_cases untyped : param.type = .null
      · have refused : isAssignableTo table fuel .null argType = some false := if_pos (.inl rfl)
        rw [if_pos (.inr untyped),untyped,substituteTypeParameters,if_neg nofun,if_neg nofun,refused]
        refine iff_of_true (iff_of_false ?_ ?_) nofun
        · rintro ⟨after,diagnostics,⟨⟩⟩
        · rintro ⟨after,⟨⟩⟩
      rw [if_neg (not_or.mpr ⟨first,untyped⟩)]
      obtain ⟨paramType,next⟩ := substituteTypeParameters table genericType none [] param.type factory
      dsimp only
      by_cases any : paramType = .declared table.any
      · rw [if_pos any,if_pos any,if_pos any]
        exact ⟨fun agree => agree.mp ⟨next,[],rfl⟩,fun matched => iff_of_true ⟨next,[],rfl⟩ matched⟩
      · rw [if_neg any,if_neg any,if_neg any]
        cases assignable : isAssignableTo table fuel paramType argType with
        | none =>
            refine iff_of_true (iff_of_false ?_ ?_) nofun
            · rintro ⟨after,diagnostics,⟨⟩⟩
            · rintro ⟨after,⟨⟩⟩
        | some accepted =>
            cases accepted with
            | false =>
                refine iff_of_true (iff_of_false ?_ ?_) nofun
                · rintro ⟨after,diagnostics,⟨⟩⟩
                · rintro ⟨after,⟨⟩⟩
            | true => exact (ih (position + 1) typed' next).trans ⟨fun matched _ => matched,fun matched => matched rfl⟩

/-- The two matchers agree exactly if the arguments behind a parameter of type `any` match. -/
theorem matchers_agree_iff (table : SymbolTable) (genericType : TypeSymbol) (typeName : TypeSymbol → String) (fuel : Nat)
    (leading : List (Option ParameterSymbol)) (parameters : List ParameterSymbol) (argTypes : List TypeSymbol)
    (typed : .null ∉ argTypes) (method : MethodSymbol) (nongeneric : method.typeParameters = [])
    (same : method.parameters = parameters.map ParameterSymbol.type) (explicitTypeArgs : List TypeSymbol) (state : MatchState) :
    ((∃ after diagnostics,matchMethodArguments table genericType typeName fuel (leading ++ parameters.map some)
        (argTypes.map some) leading.length state.factory = some (true,after,diagnostics)) ↔
      ∃ typeArgs after,tryMatchMethod table genericType fuel method method.name argTypes explicitTypeArgs state =
        some (some typeArgs,after)) ↔
    (argTypes.length = parameters.length →
      MatchedBehindAny table genericType fuel ((parameters.map ParameterSymbol.type).zip argTypes) state.factory) := by
  have offset : min leading.length (leading ++ parameters.map some).length = leading.length := by
    rw [List.length_append]
    exact Nat.min_eq_left (Nat.le_add_right _ _)
  have expected : (leading ++ parameters.map some).length - leading.length = parameters.length := by
    rw [List.length_append,List.length_map,Nat.add_sub_cancel_left]
  rw [matchMethodArguments,tryMatchMethod,if_neg (not_not.mpr rfl),if_pos nongeneric,same,List.length_map]
  simp only [offset,expected,List.length_map,List.drop_left]
  by_cases count : argTypes.length = parameters.length
  · rw [if_neg (not_not.mpr count.symm),if_neg (not_not.mpr count)]
    have given : ∀ pair ∈ parameters.zip argTypes,pair.2 ≠ .null := by
      intro pair member missing
      exact typed (missing ▸ (List.of_mem_zip member).2)
    have agree := @matchEachArgument_iff table genericType typeName fuel 0
      (parameters.zip argTypes) given state.factory
    have both : (parameters.map some).zip (argTypes.map some) =
        (parameters.zip argTypes).map fun pair => (some pair.1,some pair.2) := List.zip_map
    have types : (parameters.map ParameterSymbol.type).zip argTypes =
        (parameters.zip argTypes).map fun pair => (pair.1.type,pair.2) := List.zip_map_left
    rw [both,types,forall_prop_of_true count,← agree]
    apply iff_congr Iff.rfl
    constructor
    · rintro ⟨typeArgs,after,done⟩
      obtain ⟨⟨accepted,factory⟩,known,same⟩ := Option.map_eq_some_iff.mp done
      cases accepted with
      | false => cases same
      | true => exact ⟨factory,known⟩
    · rintro ⟨after,done⟩
      rw [done]
      exact ⟨[],_,rfl⟩
  · rw [if_pos (Ne.symm count),if_pos count]
    refine iff_of_true (iff_of_false ?_ ?_) fun equal => absurd equal count
    · rintro ⟨after,diagnostics,⟨⟩⟩
    · rintro ⟨typeArgs,after,⟨⟩⟩

def twoClasses : SymbolTable where
  declarations := []
  any := 0
  null := 1
  array := 2
  iEnumerable := 3

def anyAndClass : MethodSymbol := ⟨0,"M",false,[],[.declared 0,.declared 4]⟩

def firstAndSecond : List ParameterSymbol := [⟨"first",.declared 0⟩,⟨"second",.declared 4⟩]

theorem matchers_agree_iff_any :
    ((∃ after diagnostics,matchMethodArguments twoClasses .null (fun _ => "C") 4 (firstAndSecond.map some)
        [some (.declared 4),some (.declared 4)] 0 ⟨0,[]⟩ = some (true,after,diagnostics)) ↔
      ∃ typeArgs after,tryMatchMethod twoClasses .null 4 anyAndClass "M" [.declared 4,.declared 4] [] ⟨⟨0,[]⟩,[]⟩ =
        some (some typeArgs,after)) ↔
    (2 = firstAndSecond.length → MatchedBehindAny twoClasses .null 4
      ((firstAndSecond.map ParameterSymbol.type).zip [.declared 4,.declared 4]) ⟨0,[]⟩) :=
  matchers_agree_iff twoClasses .null (fun _ => "C") 4 [] firstAndSecond [.declared 4,.declared 4] (by decide) anyAndClass rfl rfl []
    ⟨⟨0,[]⟩,[]⟩

/-- What is behind a parameter of type `any` is not looked at by one of them. -/
theorem not_matchers_agree :
    (∃ after diagnostics,matchMethodArguments twoClasses .null (fun _ => "C") 4
        (firstAndSecond.map some) [some (.declared 4),some (.declared 5)] 0 ⟨0,[]⟩ = some (true,after,diagnostics)) ∧
    ¬∃ typeArgs after,tryMatchMethod twoClasses .null 4 anyAndClass "M" [.declared 4,.declared 5] [] ⟨⟨0,[]⟩,[]⟩ =
      some (some typeArgs,after) := by
  refine ⟨⟨⟨0,[]⟩,[],rfl⟩,?_⟩
  rintro ⟨typeArgs,after,done⟩
  have refused : tryMatchMethod twoClasses .null 4 anyAndClass "M" [.declared 4,.declared 5] [] ⟨⟨0,[]⟩,[]⟩ =
      some (none,⟨⟨0,[]⟩,[]⟩) := rfl
  cases refused.symm.trans done

end Arguments

end ShardScript.Types
