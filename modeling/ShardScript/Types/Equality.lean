import Mathlib.Data.List.Forall2
import ShardScript.Types.TypeSymbol

/-! `AreTypesEqual` compares what types are made of. It is symmetric and transitive, and a type equals itself unless a
part of it is missing or comes again inside of itself. -/
namespace ShardScript.Types

open Library (Verdict)

variable {table : SymbolTable}

section Pairs

theorem length_pairs (left right : List TypeSymbol) (size : Nat) : (pairs left right size).length = size := by
  rw [pairs,List.length_map,List.length_range]

def padded (types : List TypeSymbol) (size : Nat) : List TypeSymbol :=
  (List.range size).map fun index => types.getD index .null

@[simp] theorem length_padded (types : List TypeSymbol) (size : Nat) : (padded types size).length = size := by
  rw [padded,List.length_map,List.length_range]

theorem padded_length (types : List TypeSymbol) : padded types types.length = types := by
  apply List.ext_getElem
  · exact length_padded _ _
  · intro index _ inside
    simp only [padded,List.getElem_map,List.getElem_range]
    exact List.getD_eq_getElem _ _ inside

variable {test : TypeSymbol → TypeSymbol → Verdict}

theorem every_pairs {left right : List TypeSymbol} {size : Nat} :
    Verdict.every (fun pair => test pair.1 pair.2) (pairs left right size) = some true ↔
      List.Forall₂ (fun type type' => test type type' = some true) (padded left size) (padded right size) := by
  rw [Verdict.every_eq_true,pairs,padded,padded,List.forall_mem_map,List.forall₂_map_left_iff,
    List.forall₂_map_right_iff,List.forall₂_same]

theorem sized_pairs {left right : List TypeSymbol} {size size' : Nat} :
    (if size' = size then Verdict.every (fun pair => test pair.1 pair.2) (pairs left right size) else some false) =
        some true ↔
      size = size' ∧ List.Forall₂ (fun type type' => test type type' = some true) (padded left size) (padded right size') := by
  split
  · next same =>
      subst same
      rw [every_pairs]
      exact (and_iff_right rfl).symm
  · next other => exact ⟨nofun,fun known => absurd known.1.symm other⟩

end Pairs

section Parts

inductive Head where
  | symbol (definitionIndex : TypeSymbol.DefinitionIndex)
  | array
  | constructed (size : Nat)
  | delegate (size : Nat)
  deriving DecidableEq

def head (table : SymbolTable) : TypeSymbol → Option Head
  | .null => none
  | .declared number =>
      if table.isDelegate (.declared number) then some (.delegate (table.declaration number).parameters.length)
      else some (.symbol (.declared number))
  | .typeParameter parent index => some (.symbol (.typeParameter parent index))
  | .array _ _ _ => some .array
  | .generic _ underlayingType _ => some (.constructed (table.arity underlayingType))

def parts (table : SymbolTable) : TypeSymbol → List TypeSymbol
  | .null => []
  | .declared number =>
      if table.isDelegate (.declared number) then
        (table.declaration number).returnType :: (table.declaration number).parameters
      else []
  | .typeParameter _ _ => []
  | .array _ underlayingType _ => [underlayingType]
  | .generic _ underlayingType typeArguments =>
      .declared underlayingType :: padded typeArguments (table.arity underlayingType)

theorem areTypesEqual_succ {fuel : Nat} {left right : TypeSymbol} :
    areTypesEqual table (fuel + 1) left right = some true ↔
      head table left ≠ none ∧ head table left = head table right ∧
        List.Forall₂ (fun part part' => areTypesEqual table fuel part part' = some true) (parts table left)
          (parts table right) := by
  cases left with
  | null => simp [areTypesEqual,head]
  | declared number =>
      by_cases delegate : table.isDelegate (.declared number) = true
      · cases right with
        | declared number' =>
            by_cases delegate' : table.isDelegate (.declared number') = true
            · simp only [areTypesEqual,delegate,delegate',if_true,Verdict.both_eq_true,sized_pairs,padded_length]
              simp [head,parts,delegate,delegate',and_left_comm]
            · simp [areTypesEqual,head,delegate,delegate']
        | _ => simp [areTypesEqual,head,delegate]
      · cases right with
        | declared number' =>
            by_cases delegate' : table.isDelegate (.declared number') = true
            · have other : number ≠ number' := fun same => delegate (same ▸ delegate')
              simp [areTypesEqual,head,delegate,delegate',TypeSymbol.definitionIndex,other]
            · simp [areTypesEqual,head,parts,delegate,delegate',TypeSymbol.definitionIndex]
        | _ => simp [areTypesEqual,head,delegate,TypeSymbol.definitionIndex]
  | typeParameter parent index =>
      cases right with
      | declared number' =>
          by_cases delegate' : table.isDelegate (.declared number') = true <;>
            simp [areTypesEqual,head,delegate',TypeSymbol.definitionIndex]
      | _ => simp [areTypesEqual,head,parts,TypeSymbol.definitionIndex]
  | array address underlayingType length =>
      cases right with
      | declared number' =>
          by_cases delegate' : table.isDelegate (.declared number') = true <;> simp [areTypesEqual,head,delegate']
      | _ => simp [areTypesEqual,head,parts]
  | generic address underlayingType typeArguments =>
      cases right with
      | declared number' =>
          by_cases delegate' : table.isDelegate (.declared number') = true <;> simp [areTypesEqual,head,delegate']
      | generic address' underlayingType' typeArguments' =>
          simp only [areTypesEqual,Verdict.both_eq_true,sized_pairs]
          simp [head,parts,and_left_comm]
      | _ => simp [areTypesEqual,head]

end Parts

theorem forall₂_trans {relation : TypeSymbol → TypeSymbol → Prop} {first second third : List TypeSymbol}
    (h : List.Forall₂ relation first second) (h' : List.Forall₂ relation second third)
    (trans : ∀ {first second third},relation first second → relation second third → relation first third) :
    List.Forall₂ relation first third := by
  induction h generalizing third with
  | nil => exact h'
  | cons same _ ih =>
      obtain ⟨other,others,same',rest,rfl⟩ := List.forall₂_cons_left_iff.mp h'
      exact .cons (trans same same') (ih rest)

section Relation

variable {fuel : Nat} {left middle right : TypeSymbol}

theorem areTypesEqual_symm (same : areTypesEqual table fuel left right = some true) :
    areTypesEqual table fuel right left = some true := by
  induction fuel generalizing left right with
  | zero => exact nomatch same
  | succ fuel ih =>
      obtain ⟨made,alike,equal⟩ := areTypesEqual_succ.mp same
      exact areTypesEqual_succ.mpr ⟨alike ▸ made,alike.symm,equal.flip.imp fun _ _ => ih⟩

theorem areTypesEqual_trans (first : areTypesEqual table fuel left middle = some true)
    (second : areTypesEqual table fuel middle right = some true) : areTypesEqual table fuel left right = some true := by
  induction fuel generalizing left middle right with
  | zero => exact nomatch first
  | succ fuel ih =>
      obtain ⟨made,alike,equal⟩ := areTypesEqual_succ.mp first
      obtain ⟨-,alike',equal'⟩ := areTypesEqual_succ.mp second
      refine areTypesEqual_succ.mpr ⟨made,alike.trans alike',?_⟩
      exact forall₂_trans equal equal' ih

theorem areTypesEqual_more (left right : TypeSymbol) :
    (areTypesEqual table fuel left right).Extends (areTypesEqual table (fuel + 1) left right) := by
  induction fuel generalizing left right with
  | zero => exact fun _ known => nomatch known
  | succ fuel ih =>
      have every (items : List (TypeSymbol × TypeSymbol)) :=
        Verdict.Extends.every items fun pair _ => ih pair.1 pair.2
      cases left with
      | null => exact .refl _
      | typeParameter => exact .refl _
      | declared number =>
          by_cases delegate : table.isDelegate (.declared number) = true
          · cases right with
            | declared number' =>
                by_cases delegate' : table.isDelegate (.declared number') = true
                · simp only [areTypesEqual,delegate,delegate',if_true]
                  refine (ih _ _).both ?_
                  split
                  · exact every _
                  · exact .refl _
                · simp only [areTypesEqual,delegate,delegate',if_true]
                  exact .refl _
            | _ =>
                simp only [areTypesEqual,delegate,if_true]
                exact .refl _
          · simp only [areTypesEqual,delegate]
            exact .refl _
      | array =>
          cases right with
          | array => exact ih _ _
          | _ => exact .refl _
      | generic =>
          cases right with
          | generic =>
              refine (ih _ _).both ?_
              split
              · exact every _
              · exact .refl _
          | _ => exact .refl _

theorem areTypesEqual_extends {more : Nat} (greater : fuel ≤ more) :
    (areTypesEqual table fuel left right).Extends (areTypesEqual table more left right) := by
  induction greater with
  | refl => exact .refl _
  | step _ ih => exact fun verdict known => areTypesEqual_more _ _ verdict (ih verdict known)

def isComplete (table : SymbolTable) : Nat → TypeSymbol → Prop
  | 0,_ => False
  | fuel + 1,type => head table type ≠ none ∧ ∀ part ∈ parts table type,isComplete table fuel part

theorem areTypesEqual_self {type : TypeSymbol} :
    areTypesEqual table fuel type type = some true ↔ isComplete table fuel type := by
  induction fuel generalizing type with
  | zero => exact ⟨nofun,False.elim⟩
  | succ fuel ih =>
      rw [areTypesEqual_succ,isComplete,List.forall₂_same]
      exact and_congr_right fun _ => (and_iff_right rfl).trans (forall₂_congr fun _ _ => ih)

theorem isComplete_more {more : Nat} {type : TypeSymbol} (greater : fuel ≤ more) (complete : isComplete table fuel type) :
    isComplete table more type :=
  areTypesEqual_self.mp (areTypesEqual_extends greater true (areTypesEqual_self.mpr complete))

end Relation

section Erasure

mutual

/-- The same type, without the addresses of its symbols and the lengths of its arrays. -/
def TypeSymbol.erase : TypeSymbol → TypeSymbol
  | .null => .null
  | .declared number => .declared number
  | .typeParameter parent index => .typeParameter parent index
  | .array _ underlayingType _ => .array 0 underlayingType.erase 0
  | .generic _ underlayingType typeArguments => .generic 0 underlayingType (eraseAll typeArguments)

def eraseAll : List TypeSymbol → List TypeSymbol
  | [] => []
  | type :: types => type.erase :: eraseAll types

end

theorem eraseAll_eq_map (types : List TypeSymbol) : eraseAll types = types.map TypeSymbol.erase := by
  induction types with
  | nil => rfl
  | cons type types ih => rw [eraseAll,ih,List.map_cons]

theorem erase_getD (types : List TypeSymbol) (index : Nat) :
    (types.getD index .null).erase = (eraseAll types).getD index .null := by
  rw [eraseAll_eq_map,List.getD_eq_getElem?_getD,List.getD_eq_getElem?_getD,List.getElem?_map]
  rcases types[index]? with _ | type <;> rfl

theorem pairs_eraseAll (left right : List TypeSymbol) (size : Nat) :
    pairs (eraseAll left) (eraseAll right) size = (pairs left right size).map fun pair => (pair.1.erase,pair.2.erase) := by
  rw [pairs,pairs,List.map_map]
  exact List.map_congr_left fun index _ => congrArg₂ Prod.mk (erase_getD left index).symm (erase_getD right index).symm

theorem every_map {first second : TypeSymbol × TypeSymbol → Verdict} {change : TypeSymbol × TypeSymbol → TypeSymbol × TypeSymbol}
    {items : List (TypeSymbol × TypeSymbol)} (same : ∀ item,first (change item) = second item) :
    Verdict.every first (items.map change) = Verdict.every second items := by
  induction items with
  | nil => rfl
  | cons item items ih => rw [List.map_cons,Verdict.every,Verdict.every,same,ih]

theorem areTypesEqual_erase (fuel : Nat) (left right : TypeSymbol) :
    areTypesEqual table fuel left.erase right.erase = areTypesEqual table fuel left right := by
  induction fuel generalizing left right with
  | zero => rfl
  | succ fuel ih =>
      cases left with
      | null => rfl
      | typeParameter => cases right <;> rfl
      | declared number => cases right <;> rfl
      | array =>
          cases right with
          | array => exact ih _ _
          | _ => rfl
      | generic _ underlayingType typeArguments =>
          cases right with
          | generic _ underlayingType' typeArguments' =>
              simp only [TypeSymbol.erase,areTypesEqual,pairs_eraseAll]
              rw [every_map fun pair => ih pair.1 pair.2]
          | _ => rfl

theorem areTypesEqual_of_erase {fuel : Nat} {left left' right right' : TypeSymbol} (same : left.erase = left'.erase)
    (same' : right.erase = right'.erase) : areTypesEqual table fuel left right = areTypesEqual table fuel left' right' := by
  rw [← areTypesEqual_erase,same,same',areTypesEqual_erase]

end Erasure

end ShardScript.Types
