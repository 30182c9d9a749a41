import ShardScript.Async.AwaitSites

/-! The symbols of a state machine: the fields that keep the variables of the method, and the slots
that hold them while `MoveNext` runs. -/
namespace ShardScript.Async
open Syntax

structure Lifted where
  field : UInt32
  moveNextSlot : UInt16
  payload : Nat
  deriving DecidableEq

/-- No variable shares its field with another one or with the bookkeeping, or its slot with another
one or with the receiver in slot zero. -/
structure AsyncMethodInfo where
  liftedParameters : List Lifted
  liftedLocals : List Lifted
  stateField : UInt32
  taskField : UInt32
  currentExceptionField : Option UInt32
  awaiterField : Nat → UInt32
  awaits : Nat
  fields_nodup : ((liftedParameters ++ liftedLocals).map Lifted.field).Nodup
  slots_nodup : ((liftedParameters ++ liftedLocals).map Lifted.moveNextSlot).Nodup
  slot_ne_zero : ∀ lifted ∈ liftedParameters ++ liftedLocals, lifted.moveNextSlot ≠ 0
  field_ne_state : ∀ lifted ∈ liftedParameters ++ liftedLocals, lifted.field ≠ stateField
  field_ne_exception : ∀ lifted ∈ liftedParameters ++ liftedLocals,
    currentExceptionField ≠ some lifted.field
  field_ne_awaiter : ∀ lifted ∈ liftedParameters ++ liftedLocals, ∀ index < awaits,
    lifted.field ≠ awaiterField index
  exception_ne_state : currentExceptionField ≠ some stateField

namespace AsyncMethodInfo

def lifted (info : AsyncMethodInfo) : List Lifted := info.liftedParameters ++ info.liftedLocals

section Construction

def liftAll (firstField firstSlot : Nat) : List Nat → List Lifted
  | [] => []
  | payload :: payloads =>
    ⟨UInt32.ofNat firstField,UInt16.ofNat firstSlot,payload⟩ ::
      liftAll (firstField + 1) (firstSlot + 1) payloads

theorem liftAll_append (firstField firstSlot : Nat) (left right : List Nat) :
    liftAll firstField firstSlot (left ++ right) =
      liftAll firstField firstSlot left ++
        liftAll (firstField + left.length) (firstSlot + left.length) right := by
  induction left generalizing firstField firstSlot with
  | nil => rfl
  | cons payload left ih =>
    rw [List.cons_append,liftAll,ih,liftAll,List.cons_append,List.length_cons]
    congr 3 <;> omega

theorem mem_liftAll {firstField firstSlot : Nat} {payloads : List Nat} {lifted : Lifted}
    (member : lifted ∈ liftAll firstField firstSlot payloads) :
    ∃ index < payloads.length, lifted.field = UInt32.ofNat (firstField + index) ∧
      lifted.moveNextSlot = UInt16.ofNat (firstSlot + index) := by
  induction payloads generalizing firstField firstSlot with
  | nil => cases member
  | cons payload payloads ih =>
    rw [liftAll] at member
    rcases List.mem_cons.1 member with rfl | member
    · exact ⟨0,by simp,rfl,rfl⟩
    · rcases ih member with ⟨index,bound,field,slot⟩
      refine ⟨index + 1,by simpa using bound,?_,?_⟩
      · rw [field]
        congr 1
        omega
      · rw [slot]
        congr 1
        omega

theorem field_injective {left right : Nat} (leftBound : left < 4294967296) (rightBound : right < 4294967296)
    (same : UInt32.ofNat left = UInt32.ofNat right) : left = right := by
  have := congrArg UInt32.toNat same
  simpa [Nat.mod_eq_of_lt,leftBound,rightBound] using this

theorem slot_injective {left right : Nat} (leftBound : left < 65536) (rightBound : right < 65536)
    (same : UInt16.ofNat left = UInt16.ofNat right) : left = right := by
  have := congrArg UInt16.toNat same
  simpa [Nat.mod_eq_of_lt,leftBound,rightBound] using this

theorem liftAll_fields_nodup (firstField firstSlot : Nat) (payloads : List Nat)
    (bound : firstField + payloads.length ≤ 4294967296) :
    ((liftAll firstField firstSlot payloads).map Lifted.field).Nodup := by
  induction payloads generalizing firstField firstSlot with
  | nil => exact .nil
  | cons payload payloads ih =>
    rw [List.length_cons] at bound
    refine List.nodup_cons.2 ⟨?_,ih _ _ (by omega)⟩
    intro member
    rcases List.mem_map.1 member with ⟨lifted,member,same⟩
    rcases mem_liftAll member with ⟨index,inside,field,_⟩
    have := field_injective (by omega) (by omega) (field.symm.trans same)
    omega

theorem liftAll_slots_nodup (firstField firstSlot : Nat) (payloads : List Nat)
    (bound : firstSlot + payloads.length ≤ 65536) :
    ((liftAll firstField firstSlot payloads).map Lifted.moveNextSlot).Nodup := by
  induction payloads generalizing firstField firstSlot with
  | nil => exact .nil
  | cons payload payloads ih =>
    rw [List.length_cons] at bound
    refine List.nodup_cons.2 ⟨?_,ih _ _ (by omega)⟩
    intro member
    rcases List.mem_map.1 member with ⟨lifted,member,same⟩
    rcases mem_liftAll member with ⟨index,inside,_,slot⟩
    have := slot_injective (by omega) (by omega) (slot.symm.trans same)
    omega

end Construction

/-- The construction half of the analysis pass: `_state`, `_task`, the enumerators, the exception and
the outer receiver, the awaiters, the parameters, the locals. -/
def construct (enumerators awaits : Nat) (hasCatchAwait hasOuterThis : Bool) (parameters locals : List Nat)
    (slotsFit : 1 + (parameters ++ locals).length ≤ 65536)
    (fieldsFit : 2 + enumerators + hasCatchAwait.toNat + hasOuterThis.toNat + awaits +
      (parameters ++ locals).length ≤ 4294967296) : AsyncMethodInfo :=
  let firstAwaiter := 2 + enumerators + hasCatchAwait.toNat + hasOuterThis.toNat
  let first := firstAwaiter + awaits
  have all : liftAll first 1 parameters ++ liftAll (first + parameters.length) (1 + parameters.length) locals =
      liftAll first 1 (parameters ++ locals) := (liftAll_append _ _ _ _).symm
  have apart : ∀ lifted ∈ liftAll first 1 (parameters ++ locals), ∀ other < first,
      lifted.field ≠ UInt32.ofNat other := by
    intro lifted member other below same
    rcases mem_liftAll member with ⟨index,inside,field,_⟩
    have := field_injective (by omega) (by omega) (field.symm.trans same)
    omega
  { liftedParameters := liftAll first 1 parameters
    liftedLocals := liftAll (first + parameters.length) (1 + parameters.length) locals
    stateField := UInt32.ofNat 0
    taskField := UInt32.ofNat 1
    currentExceptionField := if hasCatchAwait then some (UInt32.ofNat (2 + enumerators)) else none
    awaiterField := fun index => UInt32.ofNat (firstAwaiter + index)
    awaits := awaits
    fields_nodup := by
      rw [all]
      exact liftAll_fields_nodup _ _ _ fieldsFit
    slots_nodup := by
      rw [all]
      exact liftAll_slots_nodup _ _ _ slotsFit
    slot_ne_zero := by
      rw [all]
      intro lifted member same
      rcases mem_liftAll member with ⟨index,inside,_,slot⟩
      have zero : lifted.moveNextSlot = UInt16.ofNat 0 := same
      have := slot_injective (by omega) (by omega) (slot.symm.trans zero)
      omega
    field_ne_state := by
      rw [all]
      exact fun lifted member => apart lifted member 0 (by omega)
    field_ne_exception := by
      rw [all]
      intro lifted member same
      cases hasCatchAwait with
      | true =>
        have below : 2 + enumerators < first := by
          simp only [first,firstAwaiter,Bool.toNat_true]
          omega
        exact apart lifted member _ below (Option.some.inj same).symm
      | false => simp at same
    field_ne_awaiter := by
      rw [all]
      exact fun lifted member index below => apart lifted member (firstAwaiter + index) (by omega)
    exception_ne_state := by
      intro same
      cases hasCatchAwait with
      | true =>
        have := field_injective (by simp at fieldsFit; omega) (by omega) (Option.some.inj same)
        omega
      | false => simp at same }

end AsyncMethodInfo

end ShardScript.Async
