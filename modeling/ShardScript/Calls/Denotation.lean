import Mathlib.Data.List.GetD
import ShardScript.Calls.CallStack

/-! The types that static types denote where the type parameters stand for others. -/
namespace ShardScript.Calls

section Denotation

variable (instantiation : List TypeSymbol)

mutual

def denote : TypeSymbol → TypeSymbol
  | .named name => .named name
  | .typeParameter index => instantiation.getD index (.typeParameter index)
  | .array underlayingType => .array (denote underlayingType)
  | .generic underlayingType arguments => .generic underlayingType (denoteAll arguments)

def denoteAll : List TypeSymbol → List TypeSymbol
  | [] => []
  | type :: types => denote type :: denoteAll types

end

end Denotation

mutual

def isConcrete : TypeSymbol → Bool
  | .named _ => true
  | .typeParameter _ => false
  | .array underlayingType => isConcrete underlayingType
  | .generic _ arguments => areConcrete arguments

def areConcrete : List TypeSymbol → Bool
  | [] => true
  | type :: types => isConcrete type && areConcrete types

end

mutual

def isScoped (count : Nat) : TypeSymbol → Bool
  | .named _ => true
  | .typeParameter index => decide (index < count)
  | .array underlayingType => isScoped count underlayingType
  | .generic _ arguments => areScoped count arguments

def areScoped (count : Nat) : List TypeSymbol → Bool
  | [] => true
  | type :: types => isScoped count type && areScoped count types

end

def isShallow : TypeSymbol → Bool
  | .named _ | .typeParameter _ => true
  | .array underlayingType => isShallow underlayingType
  | .generic _ arguments => areConcrete arguments

theorem areConcrete_iff (types : List TypeSymbol) : areConcrete types = true ↔ ∀ type ∈ types, isConcrete type = true := by
  induction types with
  | nil => simp [areConcrete]
  | cons type types ih => rw [areConcrete,Bool.and_eq_true,ih,List.forall_mem_cons]

theorem areConcrete_append (first second : List TypeSymbol) :
    areConcrete (first ++ second) = (areConcrete first && areConcrete second) := by
  induction first with
  | nil => rfl
  | cons type first ih => rw [List.cons_append,areConcrete,areConcrete,ih,Bool.and_assoc]

theorem denoteAll_append (instantiation first second : List TypeSymbol) :
    denoteAll instantiation (first ++ second) = denoteAll instantiation first ++ denoteAll instantiation second := by
  induction first with
  | nil => rfl
  | cons type first ih => rw [List.cons_append,denoteAll,denoteAll,ih,List.cons_append]

theorem areScoped_iff (count : Nat) (types : List TypeSymbol) :
    areScoped count types = true ↔ ∀ type ∈ types, isScoped count type = true := by
  induction types with
  | nil => simp [areScoped]
  | cons type types ih => rw [areScoped,Bool.and_eq_true,ih,List.forall_mem_cons]

theorem denoteAll_eq_map (instantiation types : List TypeSymbol) :
    denoteAll instantiation types = types.map (denote instantiation) := by
  induction types with
  | nil => rfl
  | cons type types ih => rw [denoteAll,ih,List.map_cons]

@[simp] theorem length_denoteAll (instantiation types : List TypeSymbol) :
    (denoteAll instantiation types).length = types.length := by
  rw [denoteAll_eq_map,List.length_map]

section Facts

variable {instantiation : List TypeSymbol}

mutual

theorem denote_of_isConcrete : ∀ {type : TypeSymbol}, isConcrete type = true → denote instantiation type = type
  | .named _,_ => rfl
  | .array _,concrete => congrArg TypeSymbol.array (denote_of_isConcrete concrete)
  | .generic underlayingType _,concrete =>
      congrArg (TypeSymbol.generic underlayingType) (denoteAll_of_areConcrete concrete)

theorem denoteAll_of_areConcrete : ∀ {types : List TypeSymbol}, areConcrete types = true →
    denoteAll instantiation types = types
  | [],_ => rfl
  | type :: types,concrete => by
      rw [areConcrete,Bool.and_eq_true] at concrete
      rw [denoteAll,denote_of_isConcrete concrete.1,denoteAll_of_areConcrete concrete.2]

end

theorem resolve_of_isConcrete (resolve : Nat → Option TypeSymbol) : ∀ {type : TypeSymbol}, isConcrete type = true →
    resolveRuntimeTypeArgument resolve type = type
  | .named _,_ => rfl
  | .array _,concrete => congrArg TypeSymbol.array (resolve_of_isConcrete resolve concrete)
  | .generic _ _,_ => by
      rw [resolveRuntimeTypeArgument]
      all_goals simp

mutual

theorem isConcrete_denote (concrete : areConcrete instantiation = true) : ∀ {type : TypeSymbol},
    isScoped instantiation.length type = true → isConcrete (denote instantiation type) = true
  | .named _,_ => rfl
  | .typeParameter index,inside => by
      rw [isScoped,decide_eq_true_iff] at inside
      rw [denote,List.getD_eq_getElem _ _ inside]
      exact (areConcrete_iff instantiation).1 concrete _ (List.getElem_mem inside)
  | .array underlayingType,inside => by
      rw [isScoped] at inside
      rw [denote,isConcrete,isConcrete_denote concrete inside]
  | .generic underlayingType arguments,inside => areConcrete_denoteAll concrete inside

theorem areConcrete_denoteAll (concrete : areConcrete instantiation = true) : ∀ {types : List TypeSymbol},
    areScoped instantiation.length types = true → areConcrete (denoteAll instantiation types) = true
  | [],_ => rfl
  | type :: types,inside => by
      rw [areScoped,Bool.and_eq_true] at inside
      rw [denoteAll,areConcrete,isConcrete_denote concrete inside.1,areConcrete_denoteAll concrete inside.2]
      rfl

end

theorem areConcrete_iff_denoteAll (concrete : areConcrete instantiation = true) {types : List TypeSymbol}
    (inside : areScoped instantiation.length types = true) :
    areConcrete types = true ↔ types = denoteAll instantiation types := by
  constructor
  · intro known
    exact (denoteAll_of_areConcrete known).symm
  · intro same
    rw [same]
    exact areConcrete_denoteAll concrete inside

def resolverOf (instantiation : List TypeSymbol) (index : Nat) : Option TypeSymbol :=
  some (instantiation.getD index (.typeParameter index))

theorem resolveRuntimeTypeArgument_eq_iff (concrete : areConcrete instantiation = true) : ∀ {type : TypeSymbol},
    isScoped instantiation.length type = true →
      (resolveRuntimeTypeArgument (resolverOf instantiation) type = denote instantiation type ↔ isShallow type = true)
  | .named _,_ => ⟨fun _ => rfl,fun _ => rfl⟩
  | .typeParameter _,_ => ⟨fun _ => rfl,fun _ => rfl⟩
  | .array underlayingType,inside => by
      rw [resolveRuntimeTypeArgument,denote,isShallow,TypeSymbol.array.injEq]
      exact resolveRuntimeTypeArgument_eq_iff concrete inside
  | .generic underlayingType arguments,inside => by
      rw [resolveRuntimeTypeArgument,denote,isShallow,TypeSymbol.generic.injEq,areConcrete_iff_denoteAll concrete inside]
      · exact ⟨fun same => same.2,fun same => ⟨rfl,same⟩⟩
      all_goals simp

end Facts

end ShardScript.Calls
