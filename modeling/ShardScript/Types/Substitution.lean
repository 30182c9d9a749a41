import ShardScript.Types.Equality

/-! The four ways in which types are put in place of type parameters. -/
namespace ShardScript.Types

/-- Where new symbols come from: an address for the next one, and the arrays that `GetOrCreateArrayType` has made. -/
structure Factory where
  next : Nat
  implicitArrayTypes : List (TypeSymbol × Nat)

namespace Factory

def newArray (underlayingType : TypeSymbol) (length : Nat) (factory : Factory) : TypeSymbol × Factory :=
  (.array factory.next underlayingType length,{ factory with next := factory.next + 1 })

def newGeneric (underlayingType : Nat) (typeArguments : List TypeSymbol) (factory : Factory) : TypeSymbol × Factory :=
  (.generic factory.next underlayingType typeArguments,{ factory with next := factory.next + 1 })

def array (underlayingType : TypeSymbol) (factory : Factory) : TypeSymbol × Factory :=
  match factory.implicitArrayTypes.find? (·.1 = underlayingType) with
  | some (_,address) => (.array address underlayingType 0,factory)
  | none => (.array factory.next underlayingType 0,
      ⟨factory.next + 1,(underlayingType,factory.next) :: factory.implicitArrayTypes⟩)

/-- The type arguments as `SymbolFactory::GenericType` takes them from a map by name, in which the last of a name is
found. -/
def byName (names : List String) (typeArguments : List TypeSymbol) : List TypeSymbol :=
  names.map fun name =>
    (((names.zip (padded typeArguments names.length)).reverse.find? (·.1 = name)).map Prod.snd).getD .null

end Factory

section Binder

def substituteMethodTypeParameter (method : Option Nat) (methodTypeArgs : List TypeSymbol) : TypeSymbol → TypeSymbol
  | .typeParameter parent index =>
      if method.map .method = some parent ∧ index < methodTypeArgs.length then methodTypeArgs.getD index .null
      else .typeParameter parent index
  | type => type

variable (table : SymbolTable) (genericType : TypeSymbol) (method : Option Nat) (methodTypeArgs : List TypeSymbol)

def substituteBound (parent : Parent) (index : Nat) : TypeSymbol :=
  let type := TypeSymbol.typeParameter parent index
  let substituted := genericType.substituteTypeParameters parent index
  let substituted := if substituted = .null then type else substituted
  let substituted := substituteMethodTypeParameter method methodTypeArgs substituted
  if substituted = .null then type else substituted

mutual

@[grind] def substituteTypeParameters : TypeSymbol → Factory → TypeSymbol × Factory
  | .null,factory => (.null,factory)
  | .declared number,factory => (.declared number,factory)
  | .typeParameter parent index,factory => (substituteBound genericType method methodTypeArgs parent index,factory)
  | .array address underlayingType length,factory =>
      let (elementType,factory) := substituteTypeParameters underlayingType factory
      if elementType = underlayingType then (.array address underlayingType length,factory) else factory.array elementType
  | .generic address underlayingType typeArguments,factory =>
      let (newArgs,factory) := substituteAll typeArguments factory
      if newArgs = typeArguments then (.generic address underlayingType typeArguments,factory)
      else factory.newGeneric underlayingType (Factory.byName (table.declaration underlayingType).typeParameters newArgs)

def substituteAll : List TypeSymbol → Factory → List TypeSymbol × Factory
  | [],factory => ([],factory)
  | type :: types,factory =>
      let (newArg,factory) := substituteTypeParameters type factory
      let (newArgs,factory) := substituteAll types factory
      (newArg :: newArgs,factory)

end

end Binder

/-- `SemanticModel::SubstituteType`. There is no result where it throws. -/
def substituteType (table : SymbolTable) (type within : TypeSymbol) (factory : Factory) : Option (TypeSymbol × Factory) :=
  match type with
  | .null => some (.null,factory)
  | .declared number =>
      if (table.declaration number).kind = .enumDeclaration then none else some (.declared number,factory)
  | .array address underlayingType length =>
      match underlayingType with
      | .null => none
      | .typeParameter parent index =>
          if within = .null then some (.array address underlayingType length,factory)
          else
            let underlayingType := within.substituteTypeParameters parent index
            if underlayingType = .null then none else some (factory.newArray underlayingType length)
      | underlayingType => some (.array address underlayingType length,factory)
  | .typeParameter parent index =>
      if within = .null then some (.typeParameter parent index,factory)
      else
        let resolvedType := within.substituteTypeParameters parent index
        some (if resolvedType = .null then .typeParameter parent index else resolvedType,factory)
  | .generic _ _ _ => none

section Runtime

variable (resolveParameter : Parent → Nat → TypeSymbol)

@[grind] def resolveRuntimeTypeArgument : TypeSymbol → Factory → TypeSymbol × Factory
  | .typeParameter parent index,factory =>
      let resolved := resolveParameter parent index
      (if resolved = .null then .typeParameter parent index else resolved,factory)
  | .array address underlayingType length,factory =>
      let (resolvedUnderlying,factory) := resolveRuntimeTypeArgument underlayingType factory
      if resolvedUnderlying = .null ∨ resolvedUnderlying = underlayingType then
        (.array address underlayingType length,factory)
      else factory.newArray resolvedUnderlying length
  | type,factory => (type,factory)

def resolveAll : List TypeSymbol → Factory → List TypeSymbol × Factory
  | [],factory => ([],factory)
  | arg :: args,factory =>
      let (resolvedArg,factory) := resolveRuntimeTypeArgument resolveParameter arg factory
      let (resolvedArgs,factory) := resolveAll args factory
      ((if resolvedArg = .null then arg else resolvedArg) :: resolvedArgs,factory)

/-- `SemanticModel::TryResolveGenericArguments`: the base type and its arguments. The fuel bounds how many type parameters
stand for one another. -/
@[grind]
def tryResolveGenericArguments (table : SymbolTable) : Nat → TypeSymbol → Factory → Option (Nat × List TypeSymbol × Factory)
  | fuel + 1,.typeParameter parent index,factory =>
      let resolved := resolveParameter parent index
      if resolved ≠ .null ∧ resolved ≠ .typeParameter parent index then
        tryResolveGenericArguments table fuel resolved factory
      else none
  | _,.generic _ underlayingType typeArguments,factory =>
      some (underlayingType,resolveAll resolveParameter (padded typeArguments (table.arity underlayingType)) factory)
  | _,_,_ => none

def instantiatedType (table : SymbolTable) (fuel : Nat) (type : TypeSymbol) (factory : Factory) : TypeSymbol × Factory :=
  match tryResolveGenericArguments resolveParameter table fuel type factory with
  | some (baseType,genericArgs,factory) => factory.newGeneric baseType genericArgs
  | none => resolveRuntimeTypeArgument resolveParameter type factory

end Runtime

section Shapes

variable (parameters : List (Parent × Nat)) (arguments : List TypeSymbol)

@[grind] def substituteTypeParameter : TypeSymbol → Factory → TypeSymbol × Factory
  | .typeParameter parent index,factory =>
      match parameters.idxOf? (parent,index) with
      | some place => (if place < arguments.length then arguments.getD place .null else .typeParameter parent index,factory)
      | none => (.typeParameter parent index,factory)
  | .array address underlayingType length,factory =>
      let (substitutedElement,factory) := substituteTypeParameter underlayingType factory
      if substitutedElement = .null ∨ substitutedElement = underlayingType then
        (.array address underlayingType length,factory)
      else factory.newArray substitutedElement length
  | type,factory => (type,factory)

end Shapes

end ShardScript.Types
