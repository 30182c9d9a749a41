import ShardScript.Types.MethodMatching
import ShardScript.Types.Rules

/-! Whether a type argument satisfies a constraint, as it is checked for calls and for uses of generic types, and whether it
is assignable to the constraint. -/
namespace ShardScript.Types

open Library (Verdict Reaches)

section Use

variable (table : SymbolTable)

namespace TypeBinder

def typeImplementsInterface (typeArg : TypeSymbol) (interfaceSymbol : Nat) : Bool :=
  let interfaces := match typeArg with
    | .generic _ underlayingType _ => interfacesOf table (.declared underlayingType)
    | typeArg => interfacesOf table typeArg
  interfaces.any fun iface =>
    iface == .declared interfaceSymbol ||
      match iface with
      | .generic _ underlayingType _ => underlayingType == interfaceSymbol
      | _ => false

def typeSatisfiesConstraint (fuel : Nat) (typeArg constraint : TypeSymbol) : Verdict :=
  if typeArg = .null ∨ constraint = .null then some false
  else match constraint with
    | .declared number =>
        if (table.declaration number).kind = .interfaceDeclaration then some (typeImplementsInterface table typeArg number)
        else isAssignableTo table fuel constraint typeArg
    | _ => isAssignableTo table fuel constraint typeArg

end TypeBinder

def SatisfiesInCall (constraint typeArg : TypeSymbol) : Prop :=
  ∃ fuel,typeSatisfiesConstraint table fuel typeArg constraint = some true

def SatisfiesInUse (constraint typeArg : TypeSymbol) : Prop :=
  ∃ fuel,TypeBinder.typeSatisfiesConstraint table fuel typeArg constraint = some true

variable {table}

theorem typeImplementsInterface_eq (typeArg : TypeSymbol) (interfaceSymbol : Nat) :
    TypeBinder.typeImplementsInterface table typeArg interfaceSymbol = typeImplementsInterface table typeArg interfaceSymbol := by
  unfold TypeBinder.typeImplementsInterface typeImplementsInterface
  cases typeArg with
  | declared | generic =>
      apply congrArg
      funext iface
      cases iface <;> simp [Bool.beq_eq_decide_eq]
  | _ => rfl

theorem typeSatisfiesConstraint_eq (fuel : Nat) (typeArg constraint : TypeSymbol) :
    TypeBinder.typeSatisfiesConstraint table fuel typeArg constraint =
      typeSatisfiesConstraint table fuel typeArg constraint := by
  unfold TypeBinder.typeSatisfiesConstraint typeSatisfiesConstraint
  cases constraint with
  | declared number =>
      simp only [kind,typeImplementsInterface_eq]
      cases (table.declaration number).kind <;> rfl
  | _ => rfl

theorem satisfiesInUse_iff {constraint typeArg : TypeSymbol} :
    SatisfiesInUse table constraint typeArg ↔ SatisfiesInCall table constraint typeArg :=
  exists_congr fun fuel => by rw [typeSatisfiesConstraint_eq]

end Use

section Constraint

variable {table : SymbolTable} {interfaceSymbol : Nat} {constraint typeArg : TypeSymbol}

/-- The interface or a type that is constructed from it is among the interfaces of the declaration. -/
def Lists (table : SymbolTable) (number interfaceSymbol : Nat) : Prop :=
  ∃ iface ∈ (table.declaration number).interfaces,
    iface = .declared interfaceSymbol ∨ ∃ address typeArguments,iface = .generic address interfaceSymbol typeArguments

def lookedThrough : TypeSymbol → Option Nat
  | .declared number => some number
  | .generic _ underlayingType _ => some underlayingType
  | _ => none

theorem typeImplementsInterface_iff : typeImplementsInterface table typeArg interfaceSymbol = true ↔
    ∃ number,lookedThrough typeArg = some number ∧ Lists table number interfaceSymbol := by
  have look (number : Nat) : typeImplementsInterface table (.declared number) interfaceSymbol = true ↔
      Lists table number interfaceSymbol := by
    unfold typeImplementsInterface Lists interfacesOf
    rw [List.any_eq_true]
    refine exists_congr fun iface => and_congr_right fun _ => ?_
    cases iface <;> simp
  cases typeArg with
  | declared number => simp [lookedThrough,look]
  | generic address underlayingType typeArguments =>
      have same : typeImplementsInterface table (.generic address underlayingType typeArguments) interfaceSymbol =
          typeImplementsInterface table (.declared underlayingType) interfaceSymbol := rfl
      simp [lookedThrough,same,look]
  | _ => simp [typeImplementsInterface,lookedThrough,interfacesOf]

/-- The argument is refused although it is assignable to the interface, or accepted although it is not. -/
inductive Diverges (table : SymbolTable) (interfaceSymbol : Nat) : TypeSymbol → Prop where
  | itself : ¬Lists table interfaceSymbol interfaceSymbol → Diverges table interfaceSymbol (.declared interfaceSymbol)
  | null : Diverges table interfaceSymbol (.declared table.null)
  | array {address length : Nat} {underlayingType : TypeSymbol} : Implements table table.array (.declared interfaceSymbol) →
      Diverges table interfaceSymbol (.array address underlayingType length)
  | inherited {number : Nat} : Implements table number (.declared interfaceSymbol) → ¬Lists table number interfaceSymbol →
      Diverges table interfaceSymbol (.declared number)
  | instantiated {number : Nat} : number ≠ interfaceSymbol → ¬Implements table number (.declared interfaceSymbol) →
      Lists table number interfaceSymbol → Diverges table interfaceSymbol (.declared number)
  | constructed {address underlayingType : Nat} {typeArguments : List TypeSymbol} : Lists table underlayingType interfaceSymbol →
      Diverges table interfaceSymbol (.generic address underlayingType typeArguments)

theorem satisfiesInCall_of_not_interface (other : kind table constraint ≠ some .interfaceDeclaration) :
    SatisfiesInCall table constraint typeArg ↔ Assignable table constraint typeArg := by
  refine exists_congr fun fuel => ?_
  unfold typeSatisfiesConstraint
  split
  · next missing =>
      unfold isAssignableTo
      rw [if_pos missing.symm]
  · split
    · next iface => exact absurd iface other
    · rfl

theorem satisfiesInCall_interface (iface : (table.declaration interfaceSymbol).kind = .interfaceDeclaration) :
    SatisfiesInCall table (.declared interfaceSymbol) typeArg ↔
      ∃ number,lookedThrough typeArg = some number ∧ Lists table number interfaceSymbol := by
  rw [← typeImplementsInterface_iff]
  have here : kind table (.declared interfaceSymbol) = some .interfaceDeclaration := congrArg some iface
  unfold SatisfiesInCall typeSatisfiesConstraint
  cases typeArg with
  | null => simp [typeImplementsInterface,interfacesOf]
  | _ => simp [here]

theorem assignable_interface (iface : (table.declaration interfaceSymbol).kind = .interfaceDeclaration) :
    Assignable table (.declared interfaceSymbol) typeArg ↔
      typeArg = .declared interfaceSymbol ∨ typeArg = .declared table.null ∨
        ∃ base,declarationOf table typeArg = some base ∧ Implements table base (.declared interfaceSymbol) := by
  have complete : Complete table (.declared interfaceSymbol) := complete_of_interface (congrArg some iface)
  have plain : table.isDelegate (.declared interfaceSymbol) = false := isDelegate_eq_false (by rw [iface]; exact nofun)
  rw [assignable_iff_of_complete complete rfl]
  constructor
  · intro takes
    cases takes with
    | equal equal => exact .inl (eq_of_equals_declared plain equal)
    | any => exact absurd iface isPrimitive_any.1
    | null => exact .inr (.inl rfl)
    | iface _ found implements => exact .inr (.inr ⟨_,found,implements⟩)
  · rintro (rfl | rfl | ⟨base,found,implements⟩)
    · exact .equal complete.refl
    · exact .null nofun ((table.declaration interfaceSymbol).byReference (.inl iface))
    · exact .iface iface found implements

theorem not_lists_null : ¬Lists table table.null interfaceSymbol := by
  rintro ⟨iface,member,-⟩
  rw [declaration_null_interfaces] at member
  cases member

theorem diverges_declared {number : Nat} : Diverges table interfaceSymbol (.declared number) ↔
    number = interfaceSymbol ∧ ¬Lists table number interfaceSymbol ∨ number = table.null ∨
      Implements table number (.declared interfaceSymbol) ∧ ¬Lists table number interfaceSymbol ∨
      number ≠ interfaceSymbol ∧ ¬Implements table number (.declared interfaceSymbol) ∧ Lists table number interfaceSymbol := by
  constructor
  · intro diverges
    cases diverges with
    | itself missing => exact .inl ⟨rfl,missing⟩
    | null => exact .inr (.inl rfl)
    | inherited implements missing => exact .inr (.inr (.inl ⟨implements,missing⟩))
    | instantiated other missing lists => exact .inr (.inr (.inr ⟨other,missing,lists⟩))
  · rintro (⟨rfl,missing⟩ | rfl | ⟨implements,missing⟩ | ⟨other,missing,lists⟩)
    · exact .itself missing
    · exact .null
    · exact .inherited implements missing
    · exact .instantiated other missing lists

theorem lists_iff_assignable :
    ((∃ number,lookedThrough typeArg = some number ∧ Lists table number interfaceSymbol) ↔
      typeArg = .declared interfaceSymbol ∨ typeArg = .declared table.null ∨
        ∃ base,declarationOf table typeArg = some base ∧ Implements table base (.declared interfaceSymbol)) ↔
    ¬Diverges table interfaceSymbol typeArg := by
  cases typeArg with
  | null =>
      have none : ¬Diverges table interfaceSymbol .null := nofun
      simp [lookedThrough,declarationOf,none]
  | typeParameter parent index =>
      have none : ¬Diverges table interfaceSymbol (.typeParameter parent index) := nofun
      simp [lookedThrough,declarationOf,none]
  | array address underlayingType length =>
      have only : Diverges table interfaceSymbol (.array address underlayingType length) ↔
          Implements table table.array (.declared interfaceSymbol) :=
        ⟨fun diverges => by cases diverges; assumption,.array⟩
      simp [lookedThrough,declarationOf,only]
  | generic address underlayingType typeArguments =>
      have only : Diverges table interfaceSymbol (.generic address underlayingType typeArguments) ↔
          Lists table underlayingType interfaceSymbol :=
        ⟨fun diverges => by cases diverges; assumption,.constructed⟩
      simp [lookedThrough,declarationOf,only]
  | declared number =>
      have null : number = table.null → ¬Lists table number interfaceSymbol := by
        rintro rfl
        exact not_lists_null
      rw [diverges_declared]
      simp only [lookedThrough,declarationOf,Option.some.injEq,exists_eq_left',TypeSymbol.declared.injEq]
      tauto

/-- The checks agree with `IsAssignableTo` unless the constraint is an interface without type arguments and the argument is
one of those that diverge. -/
theorem constraint_iff_assignable (table : SymbolTable) (constraint typeArg : TypeSymbol) :
    ((SatisfiesInCall table constraint typeArg ↔ Assignable table constraint typeArg) ∧
      (SatisfiesInUse table constraint typeArg ↔ Assignable table constraint typeArg)) ↔
    ¬∃ interfaceSymbol,constraint = .declared interfaceSymbol ∧
      (table.declaration interfaceSymbol).kind = .interfaceDeclaration ∧ Diverges table interfaceSymbol typeArg := by
  rw [satisfiesInUse_iff,and_self]
  by_cases iface : kind table constraint = some .interfaceDeclaration
  · cases constraint with
    | declared interfaceSymbol =>
        have here : (table.declaration interfaceSymbol).kind = .interfaceDeclaration := Option.some.inj iface
        rw [satisfiesInCall_interface here,assignable_interface here,lists_iff_assignable]
        simp [here]
    | _ => cases iface
  · simp only [satisfiesInCall_of_not_interface iface,true_iff]
    rintro ⟨interfaceSymbol,rfl,here,-⟩
    exact iface (congrArg some here)

end Constraint

section Inherited

/-- `interface I { }`, `interface J : I { }` and `class C : J { }` after `any`, `null` and the array. -/
def inheritedInterface : SymbolTable where
  declarations := [.plainClass,.plainClass,.plainClass,.plainInterface,
    { kind := .interfaceDeclaration,interfaces := [.declared 3],byReference := TypeDeclaration.plainInterface.byReference },
    { interfaces := [.declared 4],byReference := TypeDeclaration.plainClass.byReference }]
  any := 0
  null := 1
  array := 2
  iEnumerable := 3
  any_ne_null := Nat.zero_ne_one

/-- An interface that is implemented through another one is no constraint that the class satisfies. -/
theorem not_constraint_iff_assignable :
    ¬SatisfiesInCall inheritedInterface (.declared 3) (.declared 5) ∧
      ¬SatisfiesInUse inheritedInterface (.declared 3) (.declared 5) ∧
      Assignable inheritedInterface (.declared 3) (.declared 5) := by
  have refused : ¬SatisfiesInCall inheritedInterface (.declared 3) (.declared 5) := by
    rintro ⟨fuel,accepted⟩
    cases accepted
  refine ⟨refused,fun accepted => refused (satisfiesInUse_iff.mp accepted),⟨4,rfl⟩⟩

end Inherited

end ShardScript.Types
