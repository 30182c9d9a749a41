import Mathlib.Data.List.Dedup
import ShardScript.Heap.Copies

/-! In every run that counts its references the heap and its tables stay consistent. -/
namespace ShardScript.Heap
open GarbageCollector

/-- The heap contains what is allocated and not freed, and the tables record instances of the heap. -/
structure Consistent (collector : GarbageCollector) : Prop where
  heap : ∀ payload, payload ∈ collector.heap ↔ (collector.memory payload).isSome = true
  staticFields : ∀ entry ∈ collector.staticFields, ∀ payload ∈ entry.2, payload ∈ collector.heap
  internedStrings : ∀ entry ∈ collector.internedStrings, entry.2 ∈ collector.heap
  asyncTable : ∀ payload ∈ collector.asyncTable, payload ∈ collector.heap

structure IsEmpty (collector : GarbageCollector) : Prop where
  heap : collector.heap = []
  staticFields : collector.staticFields = []
  internedStrings : collector.internedStrings = []
  asyncTable : collector.asyncTable = []

/-- Each counter covers the instances and the static fields that hold it, and the further references. -/
def Counted (collector : GarbageCollector) (further : List Payload) : Prop :=
  ∀ payload, (collector.held ++ (collector.statics ++ further)).count payload ≤ collector.counter payload

def pins (collector : GarbageCollector) : List Payload :=
  (collector.internedStrings.map Prod.snd ++
    collector.heap.flatMap fun payload => (collector.elementsOf payload).references?.reduceOption).dedup

/-- The references can be released: interned strings and elements of arrays have others besides. -/
def Releasable (collector : GarbageCollector) (references : List Payload) : Prop :=
  Counted collector (references ++ pins collector) ∧
    ∀ payload ∈ collector.heap, (collector.elementsOf payload).isReadable = true

/-- The condition of a step: the allocator returns memory that is not in use, the operands are alive, what is released is
counted, and no string is interned at the end. -/
def Allowed (collector : GarbageCollector) : Operation → Prop
  | .allocateInstance payload _ => collector.memory payload = none
  | .allocateArray payload _ _ _ => collector.memory payload = none
  | .fromString payload => collector.memory payload = none
  | .internString payload _ => collector.memory payload = none
  | .copyInstance payload value => collector.memory payload = none ∧ value.IsAlive collector
  | .setStaticField payload field value => value = .null ∨
      match collector.recorded field with
      | none => collector.memory payload = none ∧ value.IsAlive collector
      | some old => Releasable collector value.references ∧
          ∀ released, collector.destroyInstance (.heapBacked old) = some released →
            released.memory payload = none ∧ value.IsCopied released
  | .getStaticField payload _ => collector.memory payload = none
  | .collectInstance value => value.IsAlive collector ∧
      ∀ payload ∈ value.references, collector.counter payload = 0 → Releasable collector []
  | .destroyInstance value =>
      match value with
      | .heapBacked payload => Releasable collector [payload]
      | _ => True
  | .terminate => collector.internedStrings = []
  | .setField payload slot value => (∀ other ∈ value, other ∈ collector.heap) ∧
      ∃ object, collector.memory payload = some object ∧ slot < object.fields.length
  | .setElement payload index value => (∀ other ∈ value, other ∈ collector.heap) ∧
      ∃ object, collector.memory payload = some object ∧ index < object.elements.references?.length
  | .incrementReference payload => payload ∈ collector.heap
  | .decrementReference payload => Counted collector [payload]
  | .markTaskLike payload => payload ∈ collector.heap

def AllAllowed : GarbageCollector → List Operation → Prop
  | _,[] => True
  | collector,operation :: operations => Allowed collector operation ∧
      ∀ after, operation.perform collector = some after → AllAllowed after operations

def Settled (collector : GarbageCollector) : Prop := Tidy collector collector.statics []

theorem Settled.consistent {collector : GarbageCollector} (settled : Settled collector) : Consistent collector := by
  refine ⟨fun payload => ?_,fun entry inside payload same => ?_,settled.interned,settled.async⟩
  · rw [settled.inHeap,Option.isSome_iff_exists]
    constructor
    · rintro ⟨object,known,-⟩
      exact ⟨object,known⟩
    · rintro ⟨object,known⟩
      exact ⟨object,known,settled.active known⟩
  · apply settled.mem_heap
    apply List.mem_append_right
    exact List.mem_filterMap.2 ⟨entry,inside,same⟩

theorem Settled.initial : Settled initial := by
  refine ⟨List.nodup_nil,fun payload => ?_,fun payload object known => ?_,fun payload => Nat.le_refl 0,?_,?_⟩
  · constructor
    · intro member
      cases member
    · rintro ⟨object,known,-⟩
      cases known
  · cases known
  · intro entry member
    cases member
  · intro payload member
    cases member

section Settled

variable {collector : GarbageCollector} (settled : Settled collector)
include settled

theorem Settled.further {references : List Payload} (counted : Counted collector references) :
    Tidy collector (collector.statics ++ references) [] :=
  ⟨settled.nodup,settled.inHeap,settled.dead,counted,settled.interned,settled.async⟩

omit settled in
theorem pinned_pins {references : List Payload} (releasable : Releasable collector references) :
    Pinned collector (pins collector) := by
  refine ⟨fun entry inside => ?_,releasable.2,fun payload member element inside => ?_⟩
  · exact List.mem_dedup.2 (List.mem_append_left _ (List.mem_map_of_mem inside))
  · exact List.mem_dedup.2 (List.mem_append_right _ (List.mem_flatMap.2 ⟨payload,member,inside⟩))

omit settled in
theorem destroy_tidy {payload : Payload} {rest references : List Payload}
    (tidy : Tidy collector (payload :: (rest ++ pins collector)) []) (releasable : Releasable collector references) :
    ∃ after, collector.destroyInstance (.heapBacked payload) = some after ∧ Tidy after rest [] ∧
      Shrinks collector after := by
  have pinned := (pinned_pins releasable).mono fun payload member => List.mem_append_right rest member
  obtain ⟨after,done,tidy,shrinks⟩ := destroys_all _ collector _ [] true payload tidy pinned (.inl rfl) (Nat.le_refl _)
  refine ⟨after,done,tidy.fewer fun payload => ?_,shrinks⟩
  rw [List.count_append]
  exact Nat.le_add_right _ _

theorem destroyInstance_settled {payload : Payload} (releasable : Releasable collector [payload]) :
    ∃ after, collector.destroyInstance (.heapBacked payload) = some after ∧ Settled after := by
  have tidy := (settled.further releasable.1).perm (List.perm_middle)
  obtain ⟨after,done,tidy,shrinks⟩ := destroy_tidy tidy releasable
  refine ⟨after,done,?_⟩
  rw [Settled,statics,shrinks.staticFields]
  exact tidy

theorem collectInstance_settled {payload : Payload} (alive : payload ∈ collector.heap)
    (releasable : collector.counter payload = 0 → Releasable collector []) :
    ∃ after, collector.collectInstance (.heapBacked payload) = some after ∧ Settled after := by
  obtain ⟨object,known,active⟩ := settled.known alive
  have count : collector.counter payload = object.referencesCounter := by
    rw [counter,known]
    rfl
  rw [collectInstance,known]
  change ∃ after, (if object.referencesCounter > 0 then some collector else _) = some after ∧ _
  by_cases positive : object.referencesCounter > 0
  · rw [if_pos positive]
    exact ⟨collector,rfl,settled⟩
  · rw [if_neg positive]
    have unheld : object.referencesCounter = 0 := Nat.eq_zero_of_not_pos positive
    have ready := releasable (count.trans unheld)
    have tidy := settled.further ready.1
    have pinned := (pinned_pins ready).mono fun payload member =>
      List.mem_append_right collector.statics (List.mem_append_right [] member)
    obtain ⟨after,done,tidy,shrinks⟩ := terminate_tidy (destroys_all collector.heap.length) tidy pinned known active unheld
      (Nat.le_succ _)
    refine ⟨after,done,?_⟩
    rw [Settled,statics,shrinks.staticFields]
    apply tidy.fewer
    intro payload
    rw [List.count_append]
    exact Nat.le_add_right _ _

theorem markTaskLike_settled {payload : Payload} (alive : payload ∈ collector.heap) :
    Settled (collector.markTaskLike payload) := by
  refine ⟨settled.nodup,settled.inHeap,settled.dead,settled.counted,settled.interned,fun other member => ?_⟩
  obtain rfl | member := List.mem_insert_iff.1 member
  · exact alive
  · exact settled.async other member

theorem allocate_settled {payload : Payload} (object : Object) (fresh : collector.memory payload = none)
    (active : object.terminated = false) (empty : object.outgoing = []) : Settled (collector.allocate payload object) :=
  Tidy.allocate settled object fresh active empty

theorem internString_settled {payload : Payload} (value : String) (fresh : collector.memory payload = none) :
    Settled (collector.internString payload value) := by
  rw [internString]
  cases collector.internedStrings.lookup value with
  | some other => exact settled
  | none =>
    have tidy := allocate_settled settled ⟨true,16,[],.none,0,false⟩ fresh rfl rfl
    refine ⟨tidy.nodup,tidy.inHeap,tidy.dead,tidy.counted,fun entry inside => ?_,tidy.async⟩
    obtain rfl | inside := List.mem_cons.1 inside
    · exact List.mem_insert_self
    · exact tidy.interned entry (List.mem_of_mem_eraseP inside)

theorem count_settled {payload : Payload} (change : Nat → Nat)
    (alive : payload ∈ collector.heap)
    (counts : ∀ other, (collector.held ++ collector.statics).count other ≤
      if other = payload then change (collector.counter other) else collector.counter other) :
    ∃ after, collector.setReferences payload change = some after ∧ Settled after := by
  obtain ⟨object,known,-⟩ := settled.known alive
  obtain ⟨after,done,recounted,counters⟩ := setReferences_spec known change
  refine ⟨after,done,?_⟩
  rw [Settled,statics,recounted.staticFields]
  apply Tidy.recounted settled recounted
  intro other
  rw [counters]
  exact counts other

theorem incrementReference_settled {payload : Payload} (alive : payload ∈ collector.heap) :
    ∃ after, collector.incrementReference payload = some after ∧ Settled after := by
  apply count_settled settled (· + 1) alive
  intro other
  have covers := settled.counted other
  split <;> omega

theorem decrementReference_settled {payload : Payload} (counted : Counted collector [payload]) :
    ∃ after, collector.decrementReference payload = some after ∧ Settled after := by
  have tidy := settled.further counted
  have alive := tidy.mem_heap (List.mem_append_right _ (List.mem_append_right _ List.mem_cons_self))
  apply count_settled settled (· - 1) alive
  intro other
  have covers := counted other
  rw [← List.append_assoc,List.count_append,List.count_singleton] at covers
  by_cases own : other = payload
  · rw [if_pos own]
    rw [if_pos (beq_iff_eq.2 own.symm)] at covers
    omega
  · rw [if_neg own]
    omega

theorem setField_settled {payload slot : Nat} {value : Option Payload} (alive : ∀ other ∈ value, other ∈ collector.heap)
    {object : Object} (known : collector.memory payload = some object) (inside : slot < object.fields.length) :
    ∃ after, collector.setField payload slot value = some after ∧ Settled after := by
  obtain ⟨after,done,tidy,same⟩ := store_tidy settled known object.fields[slot] alive
    (fun object => { object with fields := object.fields.set slot value }) (fun _ => rfl) (fun _ => rfl)
    fun count other => by
      have moved := count_set (List.getElem?_eq_getElem inside) value other
      rw [Object.outgoing,Object.outgoing,List.count_append,List.count_append]
      dsimp only
      omega
  refine ⟨after,?_,?_⟩
  · rw [setField,known]
    change Option.bind object.fields[slot]? _ = _
    rw [List.getElem?_eq_getElem inside]
    exact done
  · rw [Settled,statics,same]
    exact tidy

theorem setElement_settled {payload index : Nat} {value : Option Payload}
    (alive : ∀ other ∈ value, other ∈ collector.heap) {object : Object} (known : collector.memory payload = some object)
    (inside : index < object.elements.references?.length) :
    ∃ after, collector.setElement payload index value = some after ∧ Settled after := by
  obtain ⟨after,done,tidy,same⟩ := store_tidy settled known object.elements.references?[index] alive
    (fun object => { object with elements := .references (object.elements.references?.set index value) }) (fun _ => rfl)
    (fun _ => rfl) fun count other => by
      have moved := count_set (List.getElem?_eq_getElem inside) value other
      rw [Object.outgoing,Object.outgoing,List.count_append,List.count_append]
      change object.fields.reduceOption.count other +
        (object.elements.references?.set index value).reduceOption.count other + _ = _
      omega
  refine ⟨after,?_,?_⟩
  · rw [setElement,known]
    change Option.bind object.elements.references?[index]? _ = _
    rw [List.getElem?_eq_getElem inside]
    exact done
  · rw [Settled,statics,same]
    exact tidy

end Settled

theorem perm_eraseP (table : List (String × Option Payload)) (key : String) :
    (table.filterMap Prod.snd).Perm
      ((table.lookup key).join.toList ++ (table.eraseP fun entry => entry.1 == key).filterMap Prod.snd) := by
  induction table with
  | nil => exact .refl _
  | cons entry table ih =>
    obtain ⟨name,value⟩ := entry
    rw [List.lookup_cons,List.eraseP_cons]
    dsimp only
    cases own : name == key with
    | true =>
      have own' : (key == name) = true := beq_iff_eq.2 (beq_iff_eq.1 own).symm
      rw [own']
      cases value with
      | none => exact .refl _
      | some payload => exact .refl _
    | false =>
      have own' : (key == name) = false := beq_false_of_ne fun same => ne_of_beq_false own same.symm
      rw [own']
      cases value with
      | none => exact ih
      | some payload => exact (ih.cons payload).trans List.perm_middle.symm

def otherStatics (collector : GarbageCollector) (field : FieldSymbol) : List Payload :=
  (collector.staticFields.eraseP fun entry => entry.1 == field.name).filterMap Prod.snd

theorem statics_perm (collector : GarbageCollector) (field : FieldSymbol) :
    collector.statics.Perm ((collector.recorded field).toList ++ otherStatics collector field) :=
  perm_eraseP collector.staticFields field.name

section StaticFields

variable {collector : GarbageCollector} (settled : Settled collector) {field : FieldSymbol} {payload : Payload}
include settled

omit settled in
theorem record_settled {copied : GarbageCollector} {stored : Payload}
    (tidy : Tidy copied (otherStatics collector field) []) (alive : stored ∈ copied.heap)
    (same : copied.staticFields = collector.staticFields) :
    ∃ counted, copied.incrementReference stored = some counted ∧
      Settled { counted with staticFields := setEntry counted.staticFields field.name (some stored) } := by
  obtain ⟨object,known,-⟩ := tidy.known alive
  obtain ⟨counted,done,recounted,counters⟩ := setReferences_spec known (· + 1)
  refine ⟨counted,done,?_⟩
  have tidy' : Tidy counted (stored :: otherStatics collector field) [] := by
    apply tidy.recounted recounted
    intro other
    have covers := tidy.counted other
    rw [List.count_append] at covers
    rw [counters,List.count_append,List.count_cons]
    by_cases own : other = stored
    · rw [if_pos own,if_pos (beq_iff_eq.2 own.symm)]
      omega
    · rw [if_neg own,if_neg fun same => own (beq_iff_eq.1 same).symm]
      omega
  have statics : GarbageCollector.statics
      { counted with staticFields := setEntry counted.staticFields field.name (some stored) } =
        stored :: otherStatics collector field := by
    rw [GarbageCollector.statics,recounted.staticFields,same]
    rfl
  rw [Settled,statics]
  exact ⟨tidy'.nodup,tidy'.inHeap,tidy'.dead,tidy'.counted,tidy'.interned,tidy'.async⟩

theorem releaseRecorded_tidy {references : List Payload} (releasable : Releasable collector references) :
    ∃ released, collector.releaseRecorded field = some released ∧
      Tidy released (otherStatics collector field ++ references) [] ∧ Shrinks collector released := by
  have tidy := (settled.further releasable.1).perm ((statics_perm collector field).append_right _)
  rw [releaseRecorded]
  cases known : collector.recorded field with
  | none =>
    rw [known,Option.toList_none,List.nil_append] at tidy
    refine ⟨collector,rfl,tidy.fewer fun other => ?_,.refl collector⟩
    rw [List.count_append,List.count_append,List.count_append]
    omega
  | some old =>
    rw [known] at tidy
    have tidy : Tidy collector (old :: ((otherStatics collector field ++ references) ++ pins collector)) [] := by
      rw [List.append_assoc]
      exact tidy
    exact destroy_tidy tidy releasable

omit settled in
theorem setStaticField_value {value : ObjectInstance} (isValue : value ≠ .null) :
    collector.setStaticField payload field value = (collector.releaseRecorded field).bind fun released =>
      (released.copyInstance payload value).bind (record field) := by
  cases value with
  | null => exact absurd rfl isValue
  | heapBacked source => rfl
  | inline size fields => rfl

theorem setStaticField_settled {value : ObjectInstance} (allowed : Allowed collector (.setStaticField payload field value)) :
    ∃ after, collector.setStaticField payload field value = some after ∧ Settled after := by
  have perm := statics_perm collector field
  obtain rfl | allowed := allowed
  · exact ⟨collector,rfl,settled⟩
  by_cases isNull : value = .null
  · rw [isNull]
    exact ⟨collector,rfl,settled⟩
  rw [setStaticField_value isNull,releaseRecorded]
  cases recorded : collector.recorded field with
  | none =>
    rw [recorded] at allowed perm
    obtain ⟨fresh,alive⟩ := allowed
    have tidy := Tidy.perm settled perm
    obtain ⟨copied,stored,done,tidy',same,-,inside⟩ := copyInstance_tidy tidy fresh alive
    rw [Option.bind_some,done,Option.bind_some]
    cases stored with
    | none =>
      refine ⟨copied,rfl,?_⟩
      rw [Settled,statics,same]
      exact tidy'.perm perm.symm
    | some stored =>
      obtain ⟨counted,done,settled'⟩ := record_settled tidy' (inside stored rfl) same
      refine ⟨_,?_,settled'⟩
      change Option.bind (copied.incrementReference stored) _ = _
      rw [done]
      rfl
  | some old =>
    rw [recorded] at allowed perm
    obtain ⟨releasable,next⟩ := allowed
    obtain ⟨released,done,tidy',shrinks⟩ := @releaseRecorded_tidy _ settled field _ releasable
    rw [releaseRecorded,recorded] at done
    change collector.destroyInstance (.heapBacked old) = some released at done
    obtain ⟨fresh,isCopied⟩ := next released done
    have alive : value.IsAlive released := fun other member =>
      tidy'.mem_heap (List.mem_append_right _ (List.mem_append_right _ member))
    obtain ⟨copied,stored,copies,tidy',same,returned,inside⟩ := copyInstance_tidy tidy' fresh alive
    obtain ⟨stored,rfl⟩ := Option.ne_none_iff_exists'.1 (returned isCopied)
    have tidy' : Tidy copied (otherStatics collector field) [] := tidy'.fewer fun other => by
      rw [List.count_append]
      exact Nat.le_add_right _ _
    obtain ⟨counted,counts,settled'⟩ := record_settled tidy' (inside stored rfl) (same.trans shrinks.staticFields)
    refine ⟨_,?_,settled'⟩
    change Option.bind (collector.destroyInstance (.heapBacked old)) _ = _
    rw [done,Option.bind_some,copies,Option.bind_some]
    change Option.bind (copied.incrementReference stored) _ = _
    rw [counts]
    rfl

theorem getStaticField_settled (fresh : collector.memory payload = none) :
    ∃ after, collector.getStaticField payload field = some after ∧ Settled after := by
  have perm := statics_perm collector field
  unfold getStaticField
  rw [recorded] at perm
  cases known : collector.staticFields.lookup field.name with
  | some value => exact ⟨collector,rfl,settled⟩
  | none =>
    rw [known] at perm
    have tidy := Tidy.perm settled perm
    by_cases hasDefaultValue : field.hasDefaultValue = true
    · exact ⟨collector,if_pos hasDefaultValue,settled⟩
    · by_cases isReferenceType : field.returnType.isReferenceType = true
      · refine ⟨{ collector with staticFields := setEntry collector.staticFields field.name none },?_,?_⟩
        · change (if field.hasDefaultValue = true then _ else _) = _
          rw [if_neg hasDefaultValue,if_pos isReferenceType]
        · exact ⟨tidy.nodup,tidy.inHeap,tidy.dead,tidy.counted,tidy.interned,tidy.async⟩
      · have empty : Object.outgoing ⟨field.returnType.isReferenceType,field.returnType.size,
            List.replicate field.returnType.referenceSlots none,.none,0,false⟩ = [] := by
          rw [Object.outgoing,reduceOption_replicate]
          rfl
        have tidy' := tidy.allocate _ fresh rfl empty
        obtain ⟨counted,done,settled'⟩ := record_settled tidy' List.mem_insert_self rfl
        refine ⟨_,?_,settled'⟩
        change (if field.hasDefaultValue = true then _ else _) = _
        rw [if_neg hasDefaultValue,if_neg isReferenceType]
        change Option.bind (incrementReference (collector.allocateInstance payload field.returnType) payload) _ = _
        rw [allocateInstance,done]
        rfl

end StaticFields

end ShardScript.Heap
