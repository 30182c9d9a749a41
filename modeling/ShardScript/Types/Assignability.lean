import ShardScript.Library.Search
import ShardScript.Types.Agreement

/-! `IsAssignableTo`: which values a variable of another type takes. -/
namespace ShardScript.Types

open Frames (TypeInlining)
open Library (Verdict Reaches explore explore_extends mem_explore)

section Interfaces

variable (table : SymbolTable)

def interfacesOf : TypeSymbol → List TypeSymbol
  | .declared number => (table.declaration number).interfaces
  | _ => []

/-- `CollectAllInterfaces`: the interfaces that have been visited, in the order of the visits. The fuel bounds how deep they
extend one another. -/
def collectAllInterfaces : Nat → List TypeSymbol → List TypeSymbol → Option (List TypeSymbol) :=
  explore (· != .null) (interfacesOf table)

def getAllInterfaces (fuel : Nat) (type : TypeSymbol) : Option (List TypeSymbol) :=
  collectAllInterfaces table fuel (interfacesOf table type) []

def anyInterface (fuel : Nat) (type : TypeSymbol) (test : TypeSymbol → Verdict) : Verdict :=
  (getAllInterfaces table fuel type).bind (Verdict.any test)

end Interfaces

section Assignment

variable (table : SymbolTable)

def kind (type : TypeSymbol) : Option TypeKind :=
  match type with
  | .declared number => some (table.declaration number).kind
  | _ => none

def inlining : TypeSymbol → TypeInlining
  | .declared number => (table.declaration number).inlining
  | .generic _ underlayingType _ => (table.declaration underlayingType).inlining
  | _ => .byReference

/-- A type argument of an implemented interface as the source has it, one level deep. -/
def sourceArgument (source : TypeSymbol) : TypeSymbol → TypeSymbol
  | .typeParameter parent index =>
      match source with
      | .generic _ _ _ => source.substituteTypeParameters parent index
      | _ => .typeParameter parent index
  | type => type

def matchesInterface (fuel underlaying : Nat) (targetArguments : List TypeSymbol) (source : TypeSymbol) :
    TypeSymbol → Verdict
  | .generic _ underlayingType typeArguments =>
      if underlayingType = underlaying then
        Verdict.every (fun pair => areTypesEqual table fuel pair.1 (sourceArgument source pair.2))
          (pairs targetArguments typeArguments (table.arity underlaying))
      else some false
  | _ => some false

def isConstructedInterfaceImplemented (fuel underlaying : Nat) (targetArguments : List TypeSymbol) (source : TypeSymbol) :
    Verdict :=
  if (table.declaration underlaying).kind = .interfaceDeclaration then
    let checkTypeInterfaces (type : TypeSymbol) :=
      anyInterface table fuel type (matchesInterface table fuel underlaying targetArguments source)
    Verdict.either (checkTypeInterfaces source)
      (match source with
        | .generic _ underlayingType _ => checkTypeInterfaces (.declared underlayingType)
        | .array _ element _ =>
            Verdict.either (checkTypeInterfaces (.declared table.array))
              (if underlaying = table.iEnumerable ∧ table.arity underlaying = 1 then
                areTypesEqual table fuel (targetArguments.getD 0 .null) element
              else some false)
        | _ => some false)
  else some false

/-- A bare type parameter of a generic delegate, as the constructed delegate has it. -/
def delegateArgument (target : TypeSymbol) : TypeSymbol → TypeSymbol
  | .typeParameter parent index =>
      let substituted := target.substituteTypeParameters parent index
      if substituted = .null then .typeParameter parent index else substituted
  | type => type

/-- The signatures of two delegates, where the parts of the first one are changed before they are compared. -/
def sameSignature (fuel : Nat) (change : TypeSymbol → TypeSymbol) (target source : TypeDeclaration) : Verdict :=
  if target.returnType = .null ∨ source.returnType = .null then some false
  else Verdict.both (areTypesEqual table fuel (change target.returnType) source.returnType)
    (if target.parameters.length = source.parameters.length then
      Verdict.every (fun pair => areTypesEqual table fuel (change pair.1) pair.2) (target.parameters.zip source.parameters)
    else some false)

def isInterfaceImplemented (fuel : Nat) (target source : TypeSymbol) : Verdict :=
  if kind table target = some .interfaceDeclaration then
    Verdict.either (anyInterface table fuel source (areTypesEqual table fuel target))
      (match source with
        | .array _ _ _ => anyInterface table fuel (.declared table.array) (areTypesEqual table fuel target)
        | _ => some false)
  else some false

def isDelegateAssignable (fuel : Nat) : TypeSymbol → TypeSymbol → Verdict
  | .generic address underlaying targetArguments,.declared number =>
      if table.isDelegate (.declared underlaying) ∧ table.isDelegate (.declared number) then
        sameSignature table fuel (delegateArgument (.generic address underlaying targetArguments))
          (table.declaration underlaying) (table.declaration number)
      else some false
  | .declared number,.declared number' =>
      if table.isDelegate (.declared number) ∧ table.isDelegate (.declared number') then
        sameSignature table fuel id (table.declaration number) (table.declaration number')
      else some false
  | _,_ => some false

def isAssignableTo (fuel : Nat) (target source : TypeSymbol) : Verdict :=
  if target = .null ∨ source = .null then some false
  else Verdict.either (areTypesEqual table fuel target source)
    (if target = .declared table.any then some true
    else if source = .declared table.null then some (inlining table target == .byReference)
    else Verdict.either (isInterfaceImplemented table fuel target source) (Verdict.either
      (match target with
        | .generic _ underlaying targetArguments =>
            isConstructedInterfaceImplemented table fuel underlaying targetArguments source
        | _ => some false)
      (isDelegateAssignable table fuel target source)))

variable {table}

theorem isAssignableTo_of_equal {fuel : Nat} {target source : TypeSymbol}
    (equal : areTypesEqual table fuel target source = some true) : isAssignableTo table fuel target source = some true := by
  have present : ¬(target = .null ∨ source = .null) := by
    rintro (rfl | rfl)
    · cases fuel <;> cases equal
    · cases fuel with
      | zero => cases equal
      | succ fuel =>
          obtain ⟨made,alike,-⟩ := areTypesEqual_succ.mp equal
          exact made alike
  simp only [isAssignableTo,if_neg present,equal,Verdict.either]

end Assignment

section Erasure

variable {table : SymbolTable} {fuel : Nat} {target target' source source' : TypeSymbol}

theorem interfacesOf_erase (type : TypeSymbol) : interfacesOf table type.erase = interfacesOf table type := by
  cases type <;> rfl

theorem kind_erase (type : TypeSymbol) : kind table type.erase = kind table type := by
  cases type <;> rfl

theorem inlining_erase (type : TypeSymbol) : inlining table type.erase = inlining table type := by
  cases type <;> rfl

theorem anyInterface_erase (type : TypeSymbol) (test : TypeSymbol → Verdict) :
    anyInterface table fuel type.erase test = anyInterface table fuel type test := by
  rw [anyInterface,getAllInterfaces,interfacesOf_erase]
  rfl

theorem substituteTypeParameters_erase (within : TypeSymbol) (parent : Parent) (index : Nat) :
    within.erase.substituteTypeParameters parent index = (within.substituteTypeParameters parent index).erase := by
  cases within with
  | generic _ underlayingType typeArguments =>
      rw [TypeSymbol.erase,TypeSymbol.substituteTypeParameters,TypeSymbol.substituteTypeParameters]
      split
      · exact (erase_getD typeArguments index).symm
      · rfl
  | _ => rfl

theorem erase_eq_null {type : TypeSymbol} : type.erase = .null ↔ type = .null := by
  cases type <;> simp [TypeSymbol.erase]

theorem erase_eq_declared {type : TypeSymbol} {number : Nat} : type.erase = .declared number ↔ type = .declared number := by
  cases type <;> simp [TypeSymbol.erase]

theorem sourceArgument_erase (source type : TypeSymbol) :
    (sourceArgument source.erase type).erase = (sourceArgument source type).erase := by
  cases type with
  | typeParameter parent index =>
      cases source with
      | generic _ underlayingType typeArguments =>
          have same := substituteTypeParameters_erase (.generic 0 underlayingType typeArguments) parent index
          exact (congrArg TypeSymbol.erase same).trans (erase_erase _)
      | _ => rfl
  | _ => rfl

theorem delegateArgument_erase (target type : TypeSymbol) :
    (delegateArgument target.erase type).erase = (delegateArgument target type).erase := by
  cases type with
  | typeParameter parent index =>
      simp only [delegateArgument,substituteTypeParameters_erase,erase_eq_null]
      split
      · rfl
      · exact erase_erase _
  | _ => rfl

theorem matchesInterface_erase (underlaying : Nat) (targetArguments : List TypeSymbol) (source type : TypeSymbol) :
    matchesInterface table fuel underlaying (eraseAll targetArguments) source.erase type =
      matchesInterface table fuel underlaying targetArguments source type := by
  cases type with
  | generic _ underlayingType typeArguments =>
      rw [matchesInterface,matchesInterface,pairs,pairs]
      split
      · rw [show (fun index => ((eraseAll targetArguments).getD index TypeSymbol.null,typeArguments.getD index .null)) =
            (fun pair => (pair.1.erase,pair.2)) ∘ fun index => (targetArguments.getD index .null,typeArguments.getD index .null)
          from funext fun index => congrArg (·,_) (erase_getD targetArguments index).symm,← List.map_map]
        exact every_map fun pair => areTypesEqual_of_erase (erase_erase _) (sourceArgument_erase source _)
      · rfl
  | _ => rfl

theorem isConstructedInterfaceImplemented_erase (underlaying : Nat) (targetArguments : List TypeSymbol) (source : TypeSymbol) :
    isConstructedInterfaceImplemented table fuel underlaying (eraseAll targetArguments) source.erase =
      isConstructedInterfaceImplemented table fuel underlaying targetArguments source := by
  have tests : matchesInterface table fuel underlaying (eraseAll targetArguments) source.erase =
      matchesInterface table fuel underlaying targetArguments source := funext (matchesInterface_erase _ _ _)
  have element (type : TypeSymbol) : areTypesEqual table fuel ((eraseAll targetArguments).getD 0 .null) type.erase =
      areTypesEqual table fuel (targetArguments.getD 0 .null) type := by
    rw [← erase_getD]
    exact areTypesEqual_of_erase (erase_erase _) (erase_erase _)
  simp only [isConstructedInterfaceImplemented,tests,anyInterface_erase]
  cases source with
  | array => simp only [TypeSymbol.erase,element]
  | _ => rfl

theorem sameSignature_congr {change change' : TypeSymbol → TypeSymbol} {target source : TypeDeclaration}
    (same : ∀ type,(change type).erase = (change' type).erase) :
    sameSignature table fuel change target source = sameSignature table fuel change' target source := by
  have equal (left right : TypeSymbol) : areTypesEqual table fuel (change left) right =
      areTypesEqual table fuel (change' left) right := areTypesEqual_of_erase (same left) rfl
  simp only [sameSignature,equal]

theorem isInterfaceImplemented_erase (target source : TypeSymbol) :
    isInterfaceImplemented table fuel target.erase source.erase = isInterfaceImplemented table fuel target source := by
  have tests : areTypesEqual table fuel target.erase = areTypesEqual table fuel target :=
    funext fun type => areTypesEqual_of_erase (erase_erase _) rfl
  simp only [isInterfaceImplemented,kind_erase,tests,anyInterface_erase]
  cases source <;> rfl

theorem isDelegateAssignable_erase (target source : TypeSymbol) :
    isDelegateAssignable table fuel target.erase source.erase = isDelegateAssignable table fuel target source := by
  cases target with
  | generic address underlaying targetArguments =>
      cases source with
      | declared number =>
          have change (type : TypeSymbol) :=
            delegateArgument_erase (.generic address underlaying targetArguments) type
          rw [TypeSymbol.erase] at change
          simp only [TypeSymbol.erase,isDelegateAssignable,sameSignature_congr change]
      | _ => rfl
  | declared => cases source <;> rfl
  | _ => rfl

theorem isAssignableTo_erase (target source : TypeSymbol) :
    isAssignableTo table fuel target.erase source.erase = isAssignableTo table fuel target source := by
  simp only [isAssignableTo,areTypesEqual_erase,erase_eq_null,erase_eq_declared,inlining_erase,isInterfaceImplemented_erase,
    isDelegateAssignable_erase]
  cases target with
  | generic => simp only [TypeSymbol.erase,isConstructedInterfaceImplemented_erase]
  | _ => rfl

theorem isAssignableTo_of_erase (same : target.erase = target'.erase) (same' : source.erase = source'.erase) :
    isAssignableTo table fuel target source = isAssignableTo table fuel target' source' := by
  rw [← isAssignableTo_erase,same,same',isAssignableTo_erase]

end Erasure

section More

variable {table : SymbolTable} {fuel more : Nat}

theorem anyInterface_extends (greater : fuel ≤ more) (type : TypeSymbol) {test test' : TypeSymbol → Verdict}
    (h : ∀ iface,(test iface).Extends (test' iface)) :
    (anyInterface table fuel type test).Extends (anyInterface table more type test') := by
  intro verdict known
  obtain ⟨interfaces,found,known⟩ := Option.bind_eq_some_iff.mp known
  apply Option.bind_eq_some_iff.mpr
  exact ⟨interfaces,explore_extends greater found,Verdict.Extends.any interfaces (fun iface _ => h iface) verdict known⟩

theorem matchesInterface_extends (greater : fuel ≤ more) (underlaying : Nat) (targetArguments : List TypeSymbol)
    (source iface : TypeSymbol) :
    (matchesInterface table fuel underlaying targetArguments source iface).Extends
      (matchesInterface table more underlaying targetArguments source iface) := by
  cases iface with
  | generic =>
      rw [matchesInterface,matchesInterface]
      split
      · exact .every _ fun _ _ => areTypesEqual_extends greater
      · exact .refl _
  | _ => exact .refl _

theorem isConstructedInterfaceImplemented_extends (greater : fuel ≤ more) (underlaying : Nat)
    (targetArguments : List TypeSymbol) (source : TypeSymbol) :
    (isConstructedInterfaceImplemented table fuel underlaying targetArguments source).Extends
      (isConstructedInterfaceImplemented table more underlaying targetArguments source) := by
  have check (type : TypeSymbol) :
      (anyInterface table fuel type (matchesInterface table fuel underlaying targetArguments source)).Extends
        (anyInterface table more type (matchesInterface table more underlaying targetArguments source)) :=
    anyInterface_extends greater type (matchesInterface_extends greater underlaying targetArguments source)
  unfold isConstructedInterfaceImplemented
  split
  · refine (check _).either ?_
    cases source with
    | generic => exact check _
    | array =>
        refine (check _).either ?_
        split
        · exact areTypesEqual_extends greater
        · exact .refl _
    | _ => exact .refl _
  · exact .refl _

theorem sameSignature_extends (greater : fuel ≤ more) (change : TypeSymbol → TypeSymbol) (target source : TypeDeclaration) :
    (sameSignature table fuel change target source).Extends (sameSignature table more change target source) := by
  rw [sameSignature,sameSignature]
  split
  · exact .refl _
  · refine (areTypesEqual_extends greater).both ?_
    split
    · exact .every _ fun _ _ => areTypesEqual_extends greater
    · exact .refl _

theorem isInterfaceImplemented_extends (greater : fuel ≤ more) (target source : TypeSymbol) :
    (isInterfaceImplemented table fuel target source).Extends (isInterfaceImplemented table more target source) := by
  have check (type : TypeSymbol) : (anyInterface table fuel type (areTypesEqual table fuel target)).Extends
      (anyInterface table more type (areTypesEqual table more target)) :=
    anyInterface_extends greater type fun _ => areTypesEqual_extends greater
  unfold isInterfaceImplemented
  split
  · refine (check _).either ?_
    cases source with
    | array => exact check _
    | _ => exact .refl _
  · exact .refl _

theorem isDelegateAssignable_extends (greater : fuel ≤ more) (target source : TypeSymbol) :
    (isDelegateAssignable table fuel target source).Extends (isDelegateAssignable table more target source) := by
  cases target with
  | generic =>
      cases source with
      | declared =>
          rw [isDelegateAssignable,isDelegateAssignable]
          split
          · exact sameSignature_extends greater _ _ _
          · exact .refl _
      | _ => exact .refl _
  | declared =>
      cases source with
      | declared =>
          rw [isDelegateAssignable,isDelegateAssignable]
          split
          · exact sameSignature_extends greater _ _ _
          · exact .refl _
      | _ => exact .refl _
  | _ => exact .refl _

theorem isAssignableTo_extends (greater : fuel ≤ more) (target source : TypeSymbol) :
    (isAssignableTo table fuel target source).Extends (isAssignableTo table more target source) := by
  unfold isAssignableTo
  split
  · exact .refl _
  · refine (areTypesEqual_extends greater).either ?_
    split
    · exact .refl _
    · split
      · exact .refl _
      · refine (isInterfaceImplemented_extends greater target source).either ?_
        refine Verdict.Extends.either ?_ (isDelegateAssignable_extends greater target source)
        cases target with
        | generic => exact isConstructedInterfaceImplemented_extends greater _ _ _
        | _ => exact .refl _

end More

section Implementation

variable {table : SymbolTable} {fuel number : Nat} {iface : TypeSymbol}

/-- The interface is one of those that `GetAllInterfaces` finds for the declaration. -/
def Implements (table : SymbolTable) (number : Nat) (iface : TypeSymbol) : Prop :=
  Reaches (· != .null) (interfacesOf table) (interfacesOf table (.declared number)) iface

theorem not_reaches_nil {node : TypeSymbol} : ¬ Reaches (· != .null) (interfacesOf table) [] node := by
  intro reaches
  induction reaches with
  | start member => cases member
  | step _ _ _ ih => exact ih

variable {test : TypeSymbol → Verdict}

theorem exists_of_anyInterface {source : TypeSymbol}
    (found : anyInterface table fuel source test = some true) :
    ∃ number iface,source = .declared number ∧ Implements table number iface ∧ test iface = some true := by
  obtain ⟨interfaces,explored,found⟩ := Option.bind_eq_some_iff.mp found
  obtain ⟨iface,member,passed⟩ := Verdict.exists_of_any found
  have reached := (mem_explore explored).mp member
  cases source with
  | declared number => exact ⟨number,iface,rfl,reached,passed⟩
  | _ => exact absurd reached not_reaches_nil

theorem anyInterface_eq_false (implements : Implements table number iface)
    (failed : anyInterface table fuel (.declared number) test = some false) : test iface = some false := by
  obtain ⟨interfaces,explored,failed⟩ := Option.bind_eq_some_iff.mp failed
  exact Verdict.any_eq_false.mp failed iface ((mem_explore explored).mpr implements)

end Implementation

section Completeness

variable {table : SymbolTable} {fuel number : Nat} {type : TypeSymbol}

theorem complete_of_not_delegate (other : (table.declaration number).kind ≠ .delegateType) :
    Complete table (.declared number) := by
  refine ⟨1,?_,?_⟩
  · simp [head,SymbolTable.isDelegate,other]
  · simp [parts,SymbolTable.isDelegate,other]

theorem complete_of_interface (iface : kind table type = some .interfaceDeclaration) : Complete table type := by
  cases type with
  | declared number =>
      apply complete_of_not_delegate
      rw [Option.some.inj iface]
      exact nofun
  | _ => cases iface

theorem complete_generic {address underlayingType : Nat} {typeArguments : List TypeSymbol}
    (underlaying : Complete table (.declared underlayingType))
    (each : ∀ argument ∈ padded typeArguments (table.arity underlayingType),Complete table argument) :
    Complete table (.generic address underlayingType typeArguments) := by
  obtain ⟨fuel,here⟩ := underlaying
  obtain ⟨fuel',rest⟩ := Verdict.exists_enough (isComplete table) _ (fun greater complete => isComplete_more greater complete)
    each
  refine ⟨max fuel fuel' + 1,nofun,?_⟩
  rw [parts,List.forall_mem_cons]
  exact ⟨isComplete_more (Nat.le_max_left ..) here,
    fun argument member => isComplete_more (Nat.le_max_right ..) (rest argument member)⟩

theorem complete_of_equal {left right : TypeSymbol} (equal : areTypesEqual table fuel left right = some true) :
    Complete table left := Equals.complete ⟨fuel,areTypesEqual_symm equal⟩

variable {targetArguments : List TypeSymbol}

theorem complete_of_matchesInterface {underlaying : Nat} {source iface : TypeSymbol}
    (matched : matchesInterface table fuel underlaying targetArguments source iface = some true) :
    ∀ argument ∈ padded targetArguments (table.arity underlaying),Complete table argument := by
  cases iface with
  | generic address underlayingType typeArguments =>
      rw [matchesInterface] at matched
      split at matched
      · intro argument member
        obtain ⟨place,inside,rfl⟩ := List.mem_map.mp member
        exact complete_of_equal (Verdict.every_eq_true.mp matched _ (List.mem_map.mpr ⟨place,inside,rfl⟩))
      · cases matched
  | _ => cases matched

theorem complete_of_implemented {address underlaying : Nat} {source : TypeSymbol}
    (implemented : isConstructedInterfaceImplemented table fuel underlaying targetArguments source = some true) :
    Complete table (.generic address underlaying targetArguments) := by
  unfold isConstructedInterfaceImplemented at implemented
  split at implemented
  · next iface =>
      apply complete_generic (complete_of_interface (congrArg some iface))
      have check {type : TypeSymbol} (found : anyInterface table fuel type
          (matchesInterface table fuel underlaying targetArguments source) = some true) :
          ∀ argument ∈ padded targetArguments (table.arity underlaying),Complete table argument := by
        obtain ⟨_,_,-,-,matched⟩ := exists_of_anyInterface found
        exact complete_of_matchesInterface matched
      rcases Verdict.either_eq_true.mp implemented with found | ⟨-,implemented⟩
      · exact check found
      · cases source with
        | generic => exact check implemented
        | array _ element _ =>
            rcases Verdict.either_eq_true.mp implemented with found | ⟨-,implemented⟩
            · exact check found
            · split at implemented
              · next single =>
                  intro argument member
                  rw [single.2,padded,List.range_one,List.map_singleton,List.mem_singleton] at member
                  rw [member]
                  exact complete_of_equal implemented
              · cases implemented
        | _ => cases implemented
  · cases implemented

theorem complete_of_sameSignature (delegate : table.isDelegate (.declared number) = true)
    (same : sameSignature table fuel id (table.declaration number) (table.declaration number) = some true) :
    Complete table (.declared number) := by
  rw [sameSignature] at same
  split at same
  · cases same
  · rw [Verdict.both_eq_true,if_pos rfl,Verdict.every_eq_true] at same
    refine ⟨fuel + 1,?_,?_⟩
    · simp [head,delegate]
    · simp only [parts,delegate,if_true]
      refine List.forall_mem_cons.mpr ⟨areTypesEqual_self.mp same.1,fun parameter member => ?_⟩
      rw [← List.map_fst_zip (Nat.le_refl (table.declaration number).parameters.length)] at member
      obtain ⟨pair,inside,rfl⟩ := List.mem_map.mp member
      have equal := same.2 pair inside
      exact areTypesEqual_self.mp (areTypesEqual_trans equal (areTypesEqual_symm equal))

theorem complete_of_isAssignableTo_self (assignable : isAssignableTo table fuel type type = some true) : Complete table type := by
  unfold isAssignableTo at assignable
  split at assignable
  · cases assignable
  · rcases Verdict.either_eq_true.mp assignable with equal | ⟨-,assignable⟩
    · exact complete_of_equal equal
    · split at assignable
      · next any =>
          rw [any]
          exact complete_of_not_delegate (table.primitives _ (by simp)).2
      · split at assignable
        · next null =>
            rw [null]
            exact complete_of_not_delegate (table.primitives _ (by simp)).2
        · rcases Verdict.either_eq_true.mp assignable with iface | ⟨-,assignable⟩
          · unfold isInterfaceImplemented at iface
            split at iface
            · next kind => exact complete_of_interface kind
            · cases iface
          · rcases Verdict.either_eq_true.mp assignable with implemented | ⟨-,delegate⟩
            · cases type with
              | generic => exact complete_of_implemented implemented
              | _ => cases implemented
            · cases type with
              | declared number =>
                  rw [isDelegateAssignable] at delegate
                  split at delegate
                  · next both => exact complete_of_sameSignature both.1 delegate
                  · cases delegate
              | _ => cases delegate

end Completeness

end ShardScript.Types
