import Mathlib.Logic.ExistsUnique

/-! Chains of operands with binary operators and suffixes between them, and the one way to group a chain by the precedence of
its operators, from left to right where that is equal. -/
namespace ShardScript.Library

variable {Operator Operand Suffix : Type}

inductive Item (Operator Operand Suffix : Type) where
  | binary (operator : Operator) (operand : Operand)
  | suffix (operator : Operator) (suffix : Suffix)
  deriving DecidableEq

def Item.operator : Item Operator Operand Suffix → Operator
  | .binary operator _ => operator
  | .suffix operator _ => operator

inductive Grouping (Operator Operand Suffix : Type) where
  | operand (operand : Operand)
  | binary (operator : Operator) (left right : Grouping Operator Operand Suffix)
  | suffix (operator : Operator) (left : Grouping Operator Operand Suffix) (suffix : Suffix)
  deriving DecidableEq

namespace Grouping

def first : Grouping Operator Operand Suffix → Operand
  | .operand atom => atom
  | .binary _ left _ => left.first
  | .suffix _ left _ => left.first

def items : Grouping Operator Operand Suffix → List (Item Operator Operand Suffix)
  | .operand _ => []
  | .binary operator left right => left.items ++ .binary operator right.first :: right.items
  | .suffix operator left ending => left.items ++ [.suffix operator ending]

def leftEdge : Grouping Operator Operand Suffix → List Operator
  | .operand _ => []
  | .binary operator left _ => operator :: left.leftEdge
  | .suffix operator left _ => operator :: left.leftEdge

def rightEdge : Grouping Operator Operand Suffix → List Operator
  | .operand _ => []
  | .binary operator _ right => operator :: right.rightEdge
  | .suffix _ _ _ => []

variable (precedence : Operator → Nat)

/-- Operators of higher precedence bind tighter, and those of equal precedence from left to right. -/
def IsGrouped : Grouping Operator Operand Suffix → Prop
  | .operand _ => True
  | .binary operator left right => left.IsGrouped ∧ right.IsGrouped ∧
      (∀ inner ∈ left.rightEdge,precedence operator ≤ precedence inner) ∧
        ∀ inner ∈ right.leftEdge,precedence operator < precedence inner
  | .suffix operator left _ => left.IsGrouped ∧ ∀ inner ∈ left.rightEdge,precedence operator ≤ precedence inner

def apply (item : Item Operator Operand Suffix) (grouping : Grouping Operator Operand Suffix) :
    Grouping Operator Operand Suffix :=
  match item with
  | .binary operator atom => .binary operator grouping (.operand atom)
  | .suffix operator ending => .suffix operator grouping ending

/-- The item is added at the end. Its left operand is what binds at least as tight there. -/
def extend (item : Item Operator Operand Suffix) : Grouping Operator Operand Suffix → Grouping Operator Operand Suffix
  | .operand atom => apply item (.operand atom)
  | .binary operator left right =>
      if precedence operator < precedence item.operator then .binary operator left (extend item right)
      else apply item (.binary operator left right)
  | .suffix operator left ending => apply item (.suffix operator left ending)

def group (first : Operand) (items : List (Item Operator Operand Suffix)) : Grouping Operator Operand Suffix :=
  items.foldl (fun grouping item => grouping.extend precedence item) (.operand first)

variable {precedence} {grouping left right : Grouping Operator Operand Suffix} {item : Item Operator Operand Suffix}

section Items

theorem first_apply : (apply item grouping).first = grouping.first := by
  cases item <;> rfl

theorem items_apply : (apply item grouping).items = grouping.items ++ [item] := by
  cases item <;> rfl

theorem first_extend : (grouping.extend precedence item).first = grouping.first := by
  cases grouping with
  | operand => exact first_apply
  | binary =>
      rw [extend]
      split
      · rfl
      · exact first_apply
  | suffix => exact first_apply

theorem items_extend : (grouping.extend precedence item).items = grouping.items ++ [item] := by
  induction grouping with
  | operand => exact items_apply
  | binary operator left right _ ih =>
      rw [extend]
      split
      · rw [items,items,first_extend,ih,List.append_assoc,List.cons_append]
      · exact items_apply
  | suffix => exact items_apply

theorem foldl_extend (items' : List (Item Operator Operand Suffix)) :
    (items'.foldl (fun grouping item => grouping.extend precedence item) grouping).first = grouping.first ∧
      (items'.foldl (fun grouping item => grouping.extend precedence item) grouping).items = grouping.items ++ items' := by
  induction items' generalizing grouping with
  | nil => exact ⟨rfl,(List.append_nil _).symm⟩
  | cons item items' ih =>
      obtain ⟨first,items⟩ := @ih (grouping.extend precedence item)
      rw [List.foldl_cons,first,items,first_extend,items_extend,List.append_assoc]
      exact ⟨rfl,rfl⟩

theorem first_group (first : Operand) (items : List (Item Operator Operand Suffix)) :
    (group precedence first items).first = first := (foldl_extend items).1

theorem items_group (first : Operand) (items : List (Item Operator Operand Suffix)) :
    (group precedence first items).items = items := (foldl_extend items).2

end Items

section Grouped

theorem IsGrouped.le_rightEdge {operator : Operator} (grouped : (binary operator left right).IsGrouped precedence) :
    ∀ inner ∈ (binary operator left right).rightEdge,precedence operator ≤ precedence inner := by
  induction right generalizing operator left with
  | operand =>
      intro inner member
      exact Nat.le_of_eq (congrArg precedence (List.mem_singleton.mp member).symm)
  | binary operator' left' right' _ ih =>
      intro inner member
      rcases List.mem_cons.mp member with rfl | member
      · exact Nat.le_refl _
      · have tighter : precedence operator < precedence operator' := grouped.2.2.2 _ List.mem_cons_self
        exact Nat.le_trans (Nat.le_of_lt tighter) (ih grouped.2.1 inner member)
  | suffix =>
      intro inner member
      exact Nat.le_of_eq (congrArg precedence (List.mem_singleton.mp member).symm)

theorem IsGrouped.apply (grouped : grouping.IsGrouped precedence)
    (tight : ∀ inner ∈ grouping.rightEdge,precedence item.operator ≤ precedence inner) :
    (Grouping.apply item grouping).IsGrouped precedence := by
  cases item with
  | binary => exact ⟨grouped,trivial,tight,nofun⟩
  | suffix => exact ⟨grouped,tight⟩

theorem leftEdge_extend {operator : Operator} (member : operator ∈ (grouping.extend precedence item).leftEdge) :
    operator ∈ grouping.leftEdge ∨ operator = item.operator := by
  have applied {grouping : Grouping Operator Operand Suffix} (member : operator ∈ (apply item grouping).leftEdge) :
      operator ∈ grouping.leftEdge ∨ operator = item.operator := by
    cases item <;> exact (List.mem_cons.mp member).symm
  cases grouping with
  | operand => exact applied member
  | binary =>
      rw [extend] at member
      split at member
      · exact .inl member
      · exact applied member
  | suffix => exact applied member

theorem IsGrouped.extend (grouped : grouping.IsGrouped precedence) : (grouping.extend precedence item).IsGrouped precedence := by
  induction grouping with
  | operand => exact grouped.apply nofun
  | binary operator left right _ ih =>
      rw [Grouping.extend]
      split
      · next tighter =>
          refine ⟨grouped.1,ih grouped.2.1,grouped.2.2.1,fun inner member => ?_⟩
          rcases leftEdge_extend member with old | rfl
          · exact grouped.2.2.2 inner old
          · exact tighter
      · next looser =>
          refine grouped.apply fun inner member => ?_
          exact Nat.le_trans (Nat.le_of_not_lt looser) (grouped.le_rightEdge inner member)
  | suffix => exact grouped.apply nofun

theorem isGrouped_group (first : Operand) (items : List (Item Operator Operand Suffix)) :
    (group precedence first items).IsGrouped precedence := by
  have kept (items : List (Item Operator Operand Suffix)) {grouping : Grouping Operator Operand Suffix}
      (grouped : grouping.IsGrouped precedence) :
      (items.foldl (fun grouping item => grouping.extend precedence item) grouping).IsGrouped precedence := by
    induction items generalizing grouping with
    | nil => exact grouped
    | cons item items ih => exact ih grouped.extend
  exact kept items trivial

end Grouped

section Uniqueness

theorem IsGrouped.exists_leftEdge (grouped : grouping.IsGrouped precedence) (member : item ∈ grouping.items) :
    ∃ outer ∈ grouping.leftEdge,precedence outer ≤ precedence item.operator := by
  induction grouping with
  | operand => cases member
  | binary operator left right ihLeft ihRight =>
      rcases List.mem_append.mp member with member | member
      · obtain ⟨outer,edge,le⟩ := ihLeft grouped.1 member
        exact ⟨outer,List.mem_cons_of_mem _ edge,le⟩
      · rcases List.mem_cons.mp member with rfl | member
        · exact ⟨operator,List.mem_cons_self,Nat.le_refl _⟩
        · obtain ⟨outer,edge,le⟩ := ihRight grouped.2.1 member
          exact ⟨operator,List.mem_cons_self,Nat.le_trans (Nat.le_of_lt (grouped.2.2.2 outer edge)) le⟩
  | suffix operator left ending ih =>
      rcases List.mem_append.mp member with member | member
      · obtain ⟨outer,edge,le⟩ := ih grouped.1 member
        exact ⟨outer,List.mem_cons_of_mem _ edge,le⟩
      · rw [List.mem_singleton.mp member]
        exact ⟨operator,List.mem_cons_self,Nat.le_refl _⟩

theorem extend_of_tight (tight : ∀ inner ∈ grouping.rightEdge,precedence item.operator ≤ precedence inner) :
    grouping.extend precedence item = apply item grouping := by
  cases grouping with
  | operand => rfl
  | binary => exact if_neg (Nat.not_lt.mpr (tight _ List.mem_cons_self))
  | suffix => rfl

theorem foldl_extend_right {operator : Operator} {items : List (Item Operator Operand Suffix)}
    (tighter : ∀ item ∈ items,precedence operator < precedence item.operator) :
    items.foldl (fun grouping item => grouping.extend precedence item) (binary operator left right) =
      binary operator left (items.foldl (fun grouping item => grouping.extend precedence item) right) := by
  induction items generalizing right with
  | nil => rfl
  | cons item items ih =>
      rw [List.forall_mem_cons] at tighter
      rw [List.foldl_cons,extend,if_pos tighter.1]
      exact ih tighter.2

theorem IsGrouped.eq_group (grouped : grouping.IsGrouped precedence) : group precedence grouping.first grouping.items = grouping := by
  induction grouping with
  | operand => rfl
  | binary operator left right ihLeft ihRight =>
      have tighter : ∀ item ∈ right.items,precedence operator < precedence item.operator := by
        intro item member
        obtain ⟨outer,edge,le⟩ := grouped.2.1.exists_leftEdge member
        exact Nat.lt_of_lt_of_le (grouped.2.2.2 outer edge) le
      have start : group precedence left.first left.items = left := ihLeft grouped.1
      have later : group precedence right.first right.items = right := ihRight grouped.2.1
      rw [group] at start later ⊢
      rw [items,first,List.foldl_append,start,List.foldl_cons,extend_of_tight grouped.2.2.1,Grouping.apply,foldl_extend_right tighter,later]
  | suffix operator left ending ih =>
      have start : group precedence left.first left.items = left := ih grouped.1
      rw [group] at start ⊢
      rw [items,first,List.foldl_append,start,List.foldl_cons,List.foldl_nil,extend_of_tight grouped.2,Grouping.apply]

end Uniqueness

end Grouping

end ShardScript.Library
