import Mathlib.Data.List.Basic

/-! Tests that are made one after the other, up to the first one that fails. A test that does not come to an end has no
verdict. -/
namespace ShardScript.Library

abbrev Verdict := Option Bool

namespace Verdict

variable {Item : Type}

def both (first second : Verdict) : Verdict :=
  match first with
  | some true => second
  | verdict => verdict

def either (first second : Verdict) : Verdict :=
  match first with
  | some false => second
  | verdict => verdict

def every (test : Item → Verdict) : List Item → Verdict
  | [] => some true
  | item :: items => both (test item) (every test items)

def any (test : Item → Verdict) : List Item → Verdict
  | [] => some false
  | item :: items => either (test item) (any test items)

variable {first second : Verdict}

theorem both_eq_true : both first second = some true ↔ first = some true ∧ second = some true := by
  rcases first with _ | _ | _ <;> simp [both]

theorem either_eq_false :
    either first second = some false ↔ first = some false ∧ second = some false := by
  rcases first with _ | _ | _ <;> simp [either]

theorem either_eq_true :
    either first second = some true ↔ first = some true ∨ first = some false ∧ second = some true := by
  rcases first with _ | _ | _ <;> simp [either]

variable {test : Item → Verdict} {items : List Item}

theorem every_eq_true :
    every test items = some true ↔ ∀ item ∈ items,test item = some true := by
  induction items with
  | nil => simp [every]
  | cons item items ih => rw [every,both_eq_true,ih,List.forall_mem_cons]

theorem every_congr {first second : Item → Verdict} (same : ∀ item ∈ items,first item = second item) :
    every first items = every second items := by
  induction items with
  | nil => rfl
  | cons item items ih =>
      rw [List.forall_mem_cons] at same
      rw [every,every,same.1,ih same.2]

theorem any_eq_false :
    any test items = some false ↔ ∀ item ∈ items,test item = some false := by
  induction items with
  | nil => simp [any]
  | cons item items ih => rw [any,either_eq_false,ih,List.forall_mem_cons]

theorem exists_of_any (found : any test items = some true) :
    ∃ item ∈ items,test item = some true := by
  induction items with
  | nil => cases found
  | cons item items ih =>
      rcases either_eq_true.mp found with here | ⟨-,later⟩
      · exact ⟨item,List.mem_cons_self,here⟩
      · obtain ⟨other,member,there⟩ := ih later
        exact ⟨other,List.mem_cons_of_mem _ member,there⟩

section Decided

theorem isSome_both (h : first.isSome) (h' : second.isSome) : (both first second).isSome := by
  rcases first with _ | _ | _
  · cases h
  · exact rfl
  · exact h'

theorem isSome_either (h : first.isSome) (h' : second.isSome) : (either first second).isSome := by
  rcases first with _ | _ | _
  · cases h
  · exact h'
  · exact rfl

theorem isSome_every (h : ∀ item ∈ items,(test item).isSome) :
    (every test items).isSome := by
  induction items with
  | nil => rfl
  | cons item items ih =>
      rw [List.forall_mem_cons] at h
      exact isSome_both h.1 (ih h.2)

theorem isSome_any (h : ∀ item ∈ items,(test item).isSome) :
    (any test items).isSome := by
  induction items with
  | nil => rfl
  | cons item items ih =>
      rw [List.forall_mem_cons] at h
      exact isSome_either h.1 (ih h.2)

end Decided

section More

theorem exists_enough (Enough : Nat → Item → Prop) (items : List Item)
    (more : ∀ {fuel more : Nat} {item : Item},fuel ≤ more → Enough fuel item → Enough more item)
    (each : ∀ item ∈ items,∃ fuel,Enough fuel item) : ∃ fuel,∀ item ∈ items,Enough fuel item := by
  induction items with
  | nil => exact ⟨0,nofun⟩
  | cons item items ih =>
      rw [List.forall_mem_cons] at each
      obtain ⟨fuel,here⟩ := each.1
      obtain ⟨fuel',rest⟩ := ih each.2
      refine ⟨max fuel fuel',List.forall_mem_cons.mpr ⟨more (Nat.le_max_left ..) here,fun other member => ?_⟩⟩
      exact more (Nat.le_max_right ..) (rest other member)

def Extends (less more : Verdict) : Prop := ∀ verdict,less = some verdict → more = some verdict

theorem Extends.refl (verdict : Verdict) : Extends verdict verdict := fun _ known => known

theorem Extends.both {first second first' second' : Verdict} (h : Extends first first') (h' : Extends second second') :
    Extends (both first second) (Verdict.both first' second') := by
  rcases first with _ | _ | _
  · exact fun _ known => nomatch known
  · rw [h false rfl]
    exact .refl _
  · rw [h true rfl]
    exact h'

theorem Extends.either {first second first' second' : Verdict} (h : Extends first first') (h' : Extends second second') :
    Extends (either first second) (Verdict.either first' second') := by
  rcases first with _ | _ | _
  · exact fun _ known => nomatch known
  · rw [h false rfl]
    exact h'
  · rw [h true rfl]
    exact .refl _

theorem Extends.every {test test' : Item → Verdict} (items : List Item) (h : ∀ item ∈ items,Extends (test item) (test' item)) :
    Extends (every test items) (Verdict.every test' items) := by
  induction items with
  | nil => exact .refl _
  | cons item items ih =>
      rw [List.forall_mem_cons] at h
      exact h.1.both (ih h.2)

theorem Extends.any {test test' : Item → Verdict} (items : List Item) (h : ∀ item ∈ items,Extends (test item) (test' item)) :
    Extends (any test items) (Verdict.any test' items) := by
  induction items with
  | nil => exact .refl _
  | cons item items ih =>
      rw [List.forall_mem_cons] at h
      exact h.1.either (ih h.2)

end More
end Verdict
end ShardScript.Library
