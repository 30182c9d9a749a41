import Mathlib.Data.List.Perm.Basic
import Mathlib.Data.List.ReduceOption
import ShardScript.Heap.Collector

/-! Releasing instances while every counter covers what holds the instance. -/
namespace ShardScript.Heap

def Object.outgoing (object : Object) : List Payload :=
  object.fields.reduceOption ++ object.elements.references?.reduceOption

namespace GarbageCollector

variable (collector : GarbageCollector)

def children (payload : Payload) : List Payload := (collector.memory payload).elim [] Object.outgoing

def counter (payload : Payload) : Nat := (collector.memory payload).elim 0 Object.referencesCounter

def elementsOf (payload : Payload) : Elements := (collector.memory payload).elim .none Object.elements

def held : List Payload := collector.heap.flatMap collector.children

def statics : List Payload := collector.staticFields.filterMap Prod.snd

theorem memory_write (payload other : Payload) (object : Object) :
    (collector.write payload object).memory other = if other = payload then some object else collector.memory other :=
  Function.update_apply _ _ _ _

theorem memory_allocate (payload other : Payload) (object : Object) :
    (collector.allocate payload object).memory other = if other = payload then some object else collector.memory other :=
  collector.memory_write payload other object

theorem memory_forget (payload other : Payload) :
    (collector.forget payload).memory other = if other = payload then none else collector.memory other :=
  Function.update_apply _ _ _ _

theorem children_write {payload : Payload} {object : Object} (same : object.outgoing = collector.children payload) :
    (collector.write payload object).children = collector.children := by
  funext other
  rw [children,memory_write]
  by_cases own : other = payload
  · rw [if_pos own,own]
    exact same
  · rw [if_neg own,children]

theorem counter_write (payload other : Payload) (object : Object) : (collector.write payload object).counter other =
    if other = payload then object.referencesCounter else collector.counter other := by
  rw [counter,memory_write]
  by_cases own : other = payload
  · rw [if_pos own,if_pos own]
    rfl
  · rw [if_neg own,if_neg own,counter]

theorem counter_allocate (payload other : Payload) (object : Object) : (collector.allocate payload object).counter other =
    if other = payload then object.referencesCounter else collector.counter other :=
  collector.counter_write payload other object

theorem elementsOf_write {payload : Payload} {object : Object} (same : object.elements = collector.elementsOf payload) :
    (collector.write payload object).elementsOf = collector.elementsOf := by
  funext other
  rw [elementsOf,memory_write]
  by_cases own : other = payload
  · rw [if_pos own,own]
    exact same
  · rw [if_neg own,elementsOf]

end GarbageCollector

open GarbageCollector

/-- Each counter covers the instances that hold it and the further references. What is being terminated is out of the
heap, and nothing holds it. -/
structure Tidy (collector : GarbageCollector) (further dying : List Payload) : Prop where
  nodup : collector.heap.Nodup
  inHeap : ∀ payload, payload ∈ collector.heap ↔ ∃ object, collector.memory payload = some object ∧ object.terminated = false
  dead : ∀ payload object, collector.memory payload = some object → object.terminated = true →
    payload ∈ dying ∧ object.referencesCounter = 0
  counted : ∀ payload, (collector.held ++ further).count payload ≤ collector.counter payload
  interned : ∀ entry ∈ collector.internedStrings, entry.2 ∈ collector.heap
  async : ∀ payload ∈ collector.asyncTable, payload ∈ collector.heap

structure Pinned (collector : GarbageCollector) (further : List Payload) : Prop where
  strings : ∀ entry ∈ collector.internedStrings, entry.2 ∈ further
  readable : ∀ payload ∈ collector.heap, (collector.elementsOf payload).isReadable = true
  elements : ∀ payload ∈ collector.heap, ∀ element ∈ (collector.elementsOf payload).references?.reduceOption,
    element ∈ further

structure Shrinks (collector after : GarbageCollector) : Prop where
  heap : ∀ payload ∈ after.heap, payload ∈ collector.heap
  length : after.heap.length ≤ collector.heap.length
  elements : ∀ payload ∈ after.heap, after.elementsOf payload = collector.elementsOf payload
  dead : ∀ payload object, collector.memory payload = some object → object.terminated = true →
    after.memory payload = some object
  staticFields : after.staticFields = collector.staticFields
  internedStrings : after.internedStrings = collector.internedStrings

theorem Shrinks.refl (collector : GarbageCollector) : Shrinks collector collector :=
  ⟨fun _ member => member,Nat.le_refl _,fun _ _ => rfl,fun _ _ known _ => known,rfl,rfl⟩

theorem Shrinks.trans {first second third : GarbageCollector} (left : Shrinks first second)
    (right : Shrinks second third) : Shrinks first third where
  heap payload member := left.heap payload (right.heap payload member)
  length := Nat.le_trans right.length left.length
  elements payload member := (right.elements payload member).trans (left.elements payload (right.heap payload member))
  dead payload object known terminated := right.dead payload object (left.dead payload object known terminated) terminated
  staticFields := right.staticFields.trans left.staticFields
  internedStrings := right.internedStrings.trans left.internedStrings

theorem Pinned.mono {collector : GarbageCollector} {further further' : List Payload} (pinned : Pinned collector further)
    (subset : ∀ payload ∈ further, payload ∈ further') : Pinned collector further' where
  strings entry member := subset _ (pinned.strings entry member)
  readable := pinned.readable
  elements payload member element inside := subset _ (pinned.elements payload member element inside)

theorem Pinned.shrinks {collector after : GarbageCollector} {further : List Payload} (pinned : Pinned collector further)
    (shrinks : Shrinks collector after) : Pinned after further where
  strings entry member := pinned.strings entry (shrinks.internedStrings ▸ member)
  readable payload member := by
    rw [shrinks.elements payload member]
    exact pinned.readable payload (shrinks.heap payload member)
  elements payload member := by
    rw [shrinks.elements payload member]
    exact pinned.elements payload (shrinks.heap payload member)

namespace Tidy

variable {collector : GarbageCollector} {further dying : List Payload} {further' : List Payload}

theorem perm (tidy : Tidy collector further dying) (same : further.Perm further') :
    Tidy collector further' dying :=
  { tidy with
    counted := fun payload => by
      rw [← (same.append_left collector.held).count_eq]
      exact tidy.counted payload }

theorem fewer (tidy : Tidy collector further dying)
    (fewer : ∀ payload, further'.count payload ≤ further.count payload) : Tidy collector further' dying :=
  { tidy with
    counted := fun payload => by
      have covers := tidy.counted payload
      have bound := fewer payload
      rw [List.count_append] at covers ⊢
      omega }

variable {payload : Payload}

theorem alive (tidy : Tidy collector further dying) (member : payload ∈ collector.held ++ further) :
    ∃ object, collector.memory payload = some object ∧ object.terminated = false ∧
      (collector.held ++ further).count payload ≤ object.referencesCounter := by
  have covers := tidy.counted payload
  have positive := List.count_pos_iff.2 member
  rw [counter] at covers
  cases known : collector.memory payload with
  | none =>
    rw [known] at covers
    exact absurd (Nat.lt_of_lt_of_le positive covers) (Nat.lt_irrefl 0)
  | some object =>
    rw [known] at covers
    refine ⟨object,rfl,?_,covers⟩
    cases terminated : object.terminated with
    | false => rfl
    | true =>
      have none := (tidy.dead payload object known terminated).2
      change _ ≤ object.referencesCounter at covers
      omega

theorem mem_heap (tidy : Tidy collector further dying) (member : payload ∈ collector.held ++ further) :
    payload ∈ collector.heap := by
  obtain ⟨object,known,active,-⟩ := tidy.alive member
  exact (tidy.inHeap payload).2 ⟨object,known,active⟩

theorem recount (tidy : Tidy collector further dying) {object : Object}
    (known : collector.memory payload = some object) (active : object.terminated = false) (count : Nat)
    (covers : ∀ other, (collector.held ++ further').count other ≤
      if other = payload then count else collector.counter other) :
    Tidy (collector.write payload { object with referencesCounter := count }) further' dying := by
  have same : Object.outgoing { object with referencesCounter := count } = collector.children payload := by
    rw [GarbageCollector.children,known]
    rfl
  have children := collector.children_write same
  refine ⟨tidy.nodup,fun other => ?_,fun other object' known' terminated => ?_,fun other => ?_,tidy.interned,tidy.async⟩
  · rw [memory_write]
    by_cases own : other = payload
    · rw [if_pos own,own]
      constructor
      · intro member
        exact ⟨_,rfl,active⟩
      · intro _
        exact (tidy.inHeap payload).2 ⟨object,known,active⟩
    · rw [if_neg own]
      exact tidy.inHeap other
  · rw [memory_write] at known'
    by_cases own : other = payload
    · rw [if_pos own] at known'
      cases known'
      rw [active] at terminated
      cases terminated
    · rw [if_neg own] at known'
      exact tidy.dead other object' known' terminated
  · rw [counter_write,held,children]
    exact covers other

end Tidy

end ShardScript.Heap
