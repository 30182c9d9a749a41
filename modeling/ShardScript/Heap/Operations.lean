import ShardScript.Heap.Release

/-! What the operations on counters, fields and copies leave behind. -/
namespace ShardScript.Heap
open GarbageCollector

structure Recounted (collector after : GarbageCollector) : Prop where
  heap : after.heap = collector.heap
  staticFields : after.staticFields = collector.staticFields
  internedStrings : after.internedStrings = collector.internedStrings
  asyncTable : after.asyncTable = collector.asyncTable
  memory : ∀ payload, ∃ count, after.memory payload =
    (collector.memory payload).map fun object => { object with referencesCounter := count }

namespace Recounted

theorem refl (collector : GarbageCollector) : Recounted collector collector := by
  refine ⟨rfl,rfl,rfl,rfl,fun payload => ⟨collector.counter payload,?_⟩⟩
  rw [counter]
  cases collector.memory payload <;> rfl

theorem trans {first second third : GarbageCollector} (left : Recounted first second) (right : Recounted second third) :
    Recounted first third := by
  refine ⟨right.heap.trans left.heap,right.staticFields.trans left.staticFields,
    right.internedStrings.trans left.internedStrings,right.asyncTable.trans left.asyncTable,fun payload => ?_⟩
  obtain ⟨count,known⟩ := left.memory payload
  obtain ⟨count',known'⟩ := right.memory payload
  refine ⟨count',?_⟩
  rw [known',known,Option.map_map]
  rfl

variable {collector after : GarbageCollector} (recounted : Recounted collector after)
include recounted

theorem children : after.children = collector.children := by
  funext payload
  obtain ⟨count,known⟩ := recounted.memory payload
  rw [GarbageCollector.children,known,GarbageCollector.children]
  cases collector.memory payload <;> rfl

theorem terminated (payload : Payload) :
    (after.memory payload).map Object.terminated = (collector.memory payload).map Object.terminated := by
  obtain ⟨count,known⟩ := recounted.memory payload
  rw [known,Option.map_map]
  rfl

theorem found {payload : Payload} {object : Object} (known : collector.memory payload = some object) :
    after.memory payload = some { object with referencesCounter := after.counter payload } := by
  obtain ⟨count,same⟩ := recounted.memory payload
  rw [known] at same
  rw [counter,same]
  rfl

end Recounted

variable {payload : Payload}

theorem setReferences_spec {collector : GarbageCollector} {object : Object}
    (known : collector.memory payload = some object) (change : Nat → Nat) :
    ∃ after, collector.setReferences payload change = some after ∧ Recounted collector after ∧
      ∀ other, after.counter other = if other = payload then change (collector.counter other) else collector.counter other := by
  refine ⟨collector.write payload { object with referencesCounter := change object.referencesCounter },?_,
    ⟨rfl,rfl,rfl,rfl,fun other => ?_⟩,fun other => ?_⟩
  · rw [setReferences,known]
    rfl
  · rw [memory_write]
    by_cases own : other = payload
    · rw [if_pos own,own,known]
      exact ⟨_,rfl⟩
    · rw [if_neg own]
      exact (Recounted.refl collector).memory other
  · rw [counter_write]
    by_cases own : other = payload
    · rw [if_pos own,if_pos own,own,counter,known]
      rfl
    · rw [if_neg own,if_neg own]

theorem optional_spec {collector : GarbageCollector} {value : Option Payload} (change : Nat → Nat)
    (alive : ∀ payload ∈ value, ∃ object, collector.memory payload = some object) :
    ∃ after, value.elim (some collector) (fun payload => collector.setReferences payload change) = some after ∧
      Recounted collector after ∧
      ∀ other, after.counter other = if some other = value then change (collector.counter other) else collector.counter other := by
  cases value with
  | none => exact ⟨collector,rfl,.refl collector,fun other => by rw [if_neg (by simp)]⟩
  | some payload =>
    obtain ⟨object,known⟩ := alive payload rfl
    obtain ⟨after,done,recounted,counters⟩ := setReferences_spec known change
    refine ⟨after,done,recounted,fun other => ?_⟩
    rw [counters]
    by_cases own : other = payload
    · rw [if_pos own,if_pos (congrArg some own)]
    · rw [if_neg own,if_neg (fun same => own (Option.some.inj same))]

theorem incrementAll_spec (collector : GarbageCollector) (payloads : List Payload)
    (alive : ∀ payload ∈ payloads, ∃ object, collector.memory payload = some object) :
    ∃ after, payloads.foldlM incrementReference collector = some after ∧ Recounted collector after ∧
      ∀ other, after.counter other = collector.counter other + payloads.count other := by
  induction payloads generalizing collector with
  | nil => exact ⟨collector,rfl,.refl collector,fun other => rfl⟩
  | cons payload payloads ih =>
    rw [List.forall_mem_cons] at alive
    obtain ⟨⟨object,known⟩,rest⟩ := alive
    obtain ⟨next,first,recounted,counters⟩ := setReferences_spec known (· + 1)
    obtain ⟨after,done,recounted',counters'⟩ := ih next fun other member => by
      obtain ⟨object,known⟩ := rest other member
      exact ⟨_,recounted.found known⟩
    refine ⟨after,?_,recounted.trans recounted',fun other => ?_⟩
    · rw [List.foldlM_cons,incrementReference,first]
      exact done
    · rw [counters',counters,List.count_cons]
      by_cases own : other = payload
      · rw [if_pos own,if_pos (beq_iff_eq.2 own.symm)]
        omega
      · rw [if_neg own,if_neg (fun same => own (beq_iff_eq.1 same).symm)]
        omega

section Tidy

variable {collector : GarbageCollector} {further : List Payload} (tidy : Tidy collector further [])
include tidy

theorem Tidy.active {object : Object} (known : collector.memory payload = some object) :
    object.terminated = false := by
  cases terminated : object.terminated with
  | false => rfl
  | true => cases (tidy.dead payload object known terminated).1

theorem Tidy.replace (payload : Payload) {after : GarbageCollector} (member : payload ∈ collector.heap)
    (heap : after.heap = collector.heap) (interned : after.internedStrings = collector.internedStrings)
    (async : after.asyncTable = collector.asyncTable)
    (terminated : ∀ other, (after.memory other).map Object.terminated = (collector.memory other).map Object.terminated)
    (children : ∀ other, other ≠ payload → after.children other = collector.children other)
    (counts : ∀ other, (after.children payload).count other + collector.counter other ≤
      (collector.children payload).count other + after.counter other) : Tidy after further [] := by
  have memory : ∀ other object, after.memory other = some object →
      ∃ before, collector.memory other = some before ∧ before.terminated = object.terminated := by
    intro other object known
    have same := terminated other
    rw [known] at same
    exact Option.map_eq_some_iff.1 same.symm
  refine ⟨heap ▸ tidy.nodup,fun other => ?_,fun other object known terminated => ?_,fun other => ?_,?_,?_⟩
  · rw [heap,tidy.inHeap]
    constructor
    · rintro ⟨object,known,active⟩
      have same := terminated other
      rw [known] at same
      obtain ⟨object',known',same⟩ := Option.map_eq_some_iff.1 same
      exact ⟨object',known',same.trans active⟩
    · rintro ⟨object,known,active⟩
      obtain ⟨before,known',same⟩ := memory other object known
      exact ⟨before,known',same.trans active⟩
  · obtain ⟨before,known',same⟩ := memory other object known
    rw [tidy.active known',terminated] at same
    cases same
  · have perm := List.perm_cons_erase member
    have rest : (collector.heap.erase payload).flatMap after.children =
        (collector.heap.erase payload).flatMap collector.children := by
      apply List.flatMap_congr
      intro other inside
      exact children other ((tidy.nodup.mem_erase_iff).1 inside).1
    have first := (perm.flatMap_right after.children).count_eq other
    have second := (perm.flatMap_right collector.children).count_eq other
    rw [List.flatMap_cons,List.count_append] at first second
    rw [rest] at first
    have covers := tidy.counted other
    have grows := counts other
    rw [List.count_append,held] at covers ⊢
    rw [heap]
    omega
  · rw [interned,heap]
    exact tidy.interned
  · rw [async,heap]
    exact tidy.async

theorem Tidy.recounted {after : GarbageCollector} {further' : List Payload} (recounted : Recounted collector after)
    (counts : ∀ other, (collector.held ++ further').count other ≤ after.counter other) : Tidy after further' [] := by
  have heap := recounted.heap
  refine ⟨heap ▸ tidy.nodup,fun other => ?_,fun other object known terminated => ?_,fun other => ?_,?_,?_⟩
  · rw [heap,tidy.inHeap]
    constructor
    · rintro ⟨object,known,active⟩
      exact ⟨_,recounted.found known,active⟩
    · rintro ⟨object,known,active⟩
      have same := recounted.terminated other
      rw [known] at same
      obtain ⟨before,known',same⟩ := Option.map_eq_some_iff.1 same.symm
      exact ⟨before,known',same.trans active⟩
  · have same := recounted.terminated other
    rw [known] at same
    obtain ⟨before,known',same⟩ := Option.map_eq_some_iff.1 same.symm
    rw [tidy.active known',terminated] at same
    cases same
  · rw [held,heap,recounted.children]
    exact counts other
  · rw [recounted.internedStrings,heap]
    exact tidy.interned
  · rw [recounted.asyncTable,heap]
    exact tidy.async

theorem Tidy.allocate (object : Object) (fresh : collector.memory payload = none)
    (active : object.terminated = false) (empty : object.outgoing = []) :
    Tidy (collector.allocate payload object) further [] := by
  have outside : payload ∉ collector.heap := by
    rw [tidy.inHeap]
    rintro ⟨object',known,-⟩
    rw [fresh] at known
    cases known
  have heap : (collector.allocate payload object).heap = payload :: collector.heap := List.insert_of_not_mem outside
  have children : (collector.allocate payload object).children = collector.children := by
    apply collector.children_write
    rw [empty,GarbageCollector.children,fresh]
    rfl
  have ne : ∀ {other}, other ∈ collector.heap → other ≠ payload := fun member same => outside (same ▸ member)
  refine ⟨?_,fun other => ?_,fun other object' known terminated => ?_,fun other => ?_,fun entry inside => ?_,
    fun other inside => ?_⟩
  · rw [heap]
    exact List.nodup_cons.2 ⟨outside,tidy.nodup⟩
  · rw [heap,List.mem_cons,memory_allocate]
    by_cases own : other = payload
    · rw [if_pos own]
      exact ⟨fun _ => ⟨object,rfl,active⟩,fun _ => .inl own⟩
    · rw [if_neg own,tidy.inHeap]
      exact or_iff_right own
  · rw [memory_allocate] at known
    by_cases own : other = payload
    · rw [if_pos own] at known
      cases known
      rw [active] at terminated
      cases terminated
    · rw [if_neg own] at known
      exact tidy.dead other object' known terminated
  · have none : collector.children payload = [] := by
      rw [GarbageCollector.children,fresh]
      rfl
    have same : (collector.allocate payload object).held = collector.held := by
      rw [held,heap,children,List.flatMap_cons,none,List.nil_append,held]
    have covers := tidy.counted other
    rw [same,counter_allocate]
    by_cases own : other = payload
    · rw [own,counter,fresh] at covers
      rw [own]
      exact Nat.le_trans covers (Nat.zero_le _)
    · rw [if_neg own]
      exact covers
  · rw [heap]
    exact List.mem_cons_of_mem _ (tidy.interned entry inside)
  · rw [heap]
    exact List.mem_cons_of_mem _ (tidy.async other inside)

end Tidy

end ShardScript.Heap
