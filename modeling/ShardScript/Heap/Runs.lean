import ShardScript.Heap.Consistency

/-! Shutting down, and all runs of the garbage collector. -/
namespace ShardScript.Heap
open GarbageCollector

section Terminate

theorem markTerminated_all (payloads : List Payload) (collector : GarbageCollector)
    (alive : ∀ payload ∈ payloads, (collector.memory payload).isSome = true) :
    ∃ after, payloads.foldlM (fun collector payload => markTerminated payload collector) collector = some after ∧
      after.internedStrings = collector.internedStrings ∧
      (∀ payload, (after.memory payload).isSome = (collector.memory payload).isSome) ∧
      ∀ payload object, after.memory payload = some object →
        (payload ∈ payloads ∨ ∃ before, collector.memory payload = some before ∧ before.terminated = true) →
        object.terminated = true := by
  induction payloads generalizing collector with
  | nil =>
    refine ⟨collector,rfl,rfl,fun _ => rfl,fun payload object known dead => ?_⟩
    obtain member | ⟨before,known',terminated⟩ := dead
    · cases member
    · rw [known] at known'
      cases known'
      exact terminated
  | cons first payloads ih =>
    rw [List.forall_mem_cons] at alive
    obtain ⟨present,rest⟩ := alive
    obtain ⟨object,known⟩ := Option.isSome_iff_exists.1 present
    have isSome : ∀ payload, ((collector.write first { object with terminated := true }).memory payload).isSome =
        (collector.memory payload).isSome := by
      intro payload
      rw [memory_write]
      by_cases own : payload = first
      · rw [if_pos own,own,known]
        rfl
      · rw [if_neg own]
    obtain ⟨after,done,interned,isSome',dead⟩ := ih (collector.write first { object with terminated := true })
      fun payload member => (isSome payload).trans (rest payload member)
    refine ⟨after,?_,interned,fun payload => (isSome' payload).trans (isSome payload),fun payload object' known' was => ?_⟩
    · rw [List.foldlM_cons,markTerminated,known]
      exact done
    · apply dead payload object' known'
      by_cases own : payload = first
      · refine .inr ⟨{ object with terminated := true },?_,rfl⟩
        rw [memory_write,if_pos own]
      · obtain member | ⟨before,known'',terminated⟩ := was
        · exact .inl ((List.mem_cons.1 member).resolve_left own)
        · refine .inr ⟨before,?_,terminated⟩
          rw [memory_write,if_neg own]
          exact known''

theorem terminateInstance_terminated {collector : GarbageCollector} {payload : Payload} {object : Object}
    (known : collector.memory payload = some object) (terminated : object.terminated = true) (deleteInstance : Bool) :
    terminateInstance (destroyWithin 0) true payload deleteInstance collector = some collector := by
  rw [terminateInstance,known]
  change (if object.terminated = true then some collector else _) = _
  rw [if_pos terminated]

theorem terminate_all (prepare : GarbageCollector → Payload → GarbageCollector)
    (same : ∀ collector payload, (prepare collector payload).memory = collector.memory ∧
      (prepare collector payload).internedStrings = collector.internedStrings) (deleteInstance : Bool)
    (payloads : List Payload) (collector : GarbageCollector)
    (dead : ∀ payload ∈ payloads, ∃ object, collector.memory payload = some object ∧ object.terminated = true) :
    ∃ after, payloads.foldlM (fun collector payload =>
        terminateInstance (destroyWithin 0) true payload deleteInstance (prepare collector payload)) collector = some after ∧
      after.memory = collector.memory ∧ after.internedStrings = collector.internedStrings := by
  induction payloads generalizing collector with
  | nil => exact ⟨collector,rfl,rfl,rfl⟩
  | cons payload payloads ih =>
    rw [List.forall_mem_cons] at dead
    obtain ⟨⟨object,known,terminated⟩,rest⟩ := dead
    obtain ⟨memory,interned⟩ := same collector payload
    obtain ⟨after,done,memory',interned'⟩ := ih (prepare collector payload) (by rw [memory]; exact rest)
    refine ⟨after,?_,memory'.trans memory,interned'.trans interned⟩
    rw [List.foldlM_cons,terminateInstance_terminated (by rw [memory]; exact known) terminated]
    exact done

theorem freeBytes_all {payloads : List Payload} (nodup : payloads.Nodup) (collector : GarbageCollector)
    (alive : ∀ payload ∈ payloads, (collector.memory payload).isSome = true) :
    ∃ after, payloads.foldlM (fun collector payload => (collector.eraseHeap payload).freeBytes payload) collector =
        some after ∧ after.internedStrings = collector.internedStrings ∧
      ∀ payload, after.memory payload = if payload ∈ payloads then none else collector.memory payload := by
  induction payloads generalizing collector with
  | nil => exact ⟨collector,rfl,rfl,fun payload => by rw [if_neg List.not_mem_nil]⟩
  | cons first payloads ih =>
    rw [List.forall_mem_cons] at alive
    obtain ⟨present,rest⟩ := alive
    obtain ⟨object,known⟩ := Option.isSome_iff_exists.1 present
    obtain ⟨apart,nodup⟩ := List.nodup_cons.1 nodup
    have still : ∀ payload ∈ payloads, (((collector.eraseHeap first).forget first).memory payload).isSome = true := by
      intro payload member
      rw [memory_forget,if_neg]
      · exact rest payload member
      · intro same
        exact apart (same ▸ member)
    obtain ⟨after,done,interned,freed⟩ := ih nodup _ still
    refine ⟨after,?_,interned,fun payload => ?_⟩
    · rw [List.foldlM_cons,freeBytes,eraseHeap,known]
      exact done
    · rw [freed,memory_forget]
      by_cases member : payload ∈ payloads
      · rw [if_pos member,if_pos (List.mem_cons_of_mem _ member)]
      · rw [if_neg member]
        by_cases own : payload = first
        · rw [if_pos own,if_pos (own ▸ List.mem_cons_self)]
        · rw [if_neg own,if_neg fun inside => (List.mem_cons.1 inside).elim own member]
          rfl

theorem terminate_settled {collector : GarbageCollector} (settled : Settled collector)
    (interned : collector.internedStrings = []) :
    ∃ after, collector.terminate = some after ∧ Settled after ∧ IsEmpty after := by
  have consistent := settled.consistent
  obtain ⟨marked,marks,same,isSome,dead⟩ := markTerminated_all collector.heap collector fun payload member =>
    (consistent.heap payload).1 member
  have terminated : ∀ payload ∈ collector.heap, ∃ object, marked.memory payload = some object ∧ object.terminated = true := by
    intro payload member
    obtain ⟨object,known⟩ := Option.isSome_iff_exists.1 ((isSome payload).trans ((consistent.heap payload).1 member))
    exact ⟨object,known,dead payload object known (.inl member)⟩
  obtain ⟨released,releases,memory,same'⟩ := terminate_all eraseHeap (fun _ _ => ⟨rfl,rfl⟩) true collector.statics
    marked fun payload member => terminated payload (settled.mem_heap (List.mem_append_right _ member))
  obtain ⟨last,lasts,memory',same''⟩ := terminate_all (fun collector _ => collector) (fun _ _ => ⟨rfl,rfl⟩) false
    collector.heap released fun payload member => by
      rw [memory]
      exact terminated payload member
  have whole := memory'.trans memory
  obtain ⟨freed,frees,unchanged,nothing⟩ := freeBytes_all settled.nodup last fun payload member => by
    rw [whole,isSome]
    exact (consistent.heap payload).1 member
  have none : ∀ payload, freed.memory payload = none := by
    intro payload
    rw [nothing]
    by_cases member : payload ∈ collector.heap
    · rw [if_pos member]
    · rw [if_neg member,whole]
      have absent := mt (consistent.heap payload).2 member
      rw [← isSome] at absent
      exact Option.not_isSome_iff_eq_none.1 absent
  have strings : freed.internedStrings = [] := by rw [unchanged,same'',same',same,interned]
  refine ⟨{ freed with heap := [], staticFields := [], asyncTable := [] },?_,?_,⟨rfl,rfl,strings,rfl⟩⟩
  · unfold terminate
    change Option.bind (collector.heap.foldlM _ collector) _ = _
    rw [marks]
    change Option.bind (collector.statics.foldlM _ marked) _ = _
    rw [releases]
    change Option.bind (collector.heap.foldlM _ released) _ = _
    rw [lasts]
    change Option.bind (collector.heap.foldlM _ last) _ = _
    rw [frees]
    rfl
  · refine ⟨List.nodup_nil,fun payload => ?_,fun payload object known => ?_,fun payload => Nat.zero_le _,
      fun entry inside => ?_,fun payload member => ?_⟩
    · constructor
      · intro member
        cases member
      · rintro ⟨object,known,-⟩
        rw [none] at known
        cases known
    · rw [none] at known
      cases known
    · rw [strings] at inside
      cases inside
    · cases member

end Terminate

variable {collector : GarbageCollector}

theorem perform_settled (settled : Settled collector) {operation : Operation}
    (allowed : Allowed collector operation) : ∃ after, operation.perform collector = some after ∧ Settled after ∧
      (operation = .terminate → IsEmpty after) := by
  have other : (∃ after, operation.perform collector = some after ∧ Settled after) → operation ≠ .terminate →
      ∃ after, operation.perform collector = some after ∧ Settled after ∧ (operation = .terminate → IsEmpty after) := by
    rintro ⟨after,done,settled⟩ ne
    exact ⟨after,done,settled,fun same => absurd same ne⟩
  cases operation with
  | allocateInstance payload shape =>
    apply other ⟨_,rfl,allocate_settled settled _ allowed rfl _⟩ (by simp)
    rw [Object.outgoing,reduceOption_replicate]
    rfl
  | allocateArray payload underlayingType elementType length =>
    exact other ⟨_,rfl,allocate_settled settled _ allowed rfl (outgoing_ofTypes underlayingType elementType length)⟩ (by simp)
  | fromString payload => exact other ⟨_,rfl,allocate_settled settled _ allowed rfl rfl⟩ (by simp)
  | internString payload value => exact other ⟨_,rfl,internString_settled settled value allowed⟩ (by simp)
  | copyInstance payload value =>
    obtain ⟨after,stored,done,tidy,same,-⟩ := copyInstance_tidy settled allowed.1 allowed.2
    refine other ⟨after,?_,?_⟩ (by simp)
    · rw [Operation.perform,done]
      rfl
    · rw [Settled,statics,same]
      exact tidy
  | setStaticField payload field value => exact other (setStaticField_settled settled allowed) (by simp)
  | getStaticField payload field => exact other (getStaticField_settled settled allowed) (by simp)
  | collectInstance value =>
    cases value with
    | null => exact other ⟨collector,rfl,settled⟩ (by simp)
    | inline size fields => exact other ⟨collector,rfl,settled⟩ (by simp)
    | heapBacked payload =>
      obtain ⟨alive,releasable⟩ := allowed
      exact other (collectInstance_settled settled (alive payload List.mem_cons_self)
        (releasable payload List.mem_cons_self)) (by simp)
  | destroyInstance value =>
    cases value with
    | null => exact other ⟨collector,rfl,settled⟩ (by simp)
    | inline size fields => exact other ⟨collector,rfl,settled⟩ (by simp)
    | heapBacked payload => exact other (destroyInstance_settled settled allowed) (by simp)
  | terminate =>
    obtain ⟨after,done,settled,empty⟩ := terminate_settled settled allowed
    exact ⟨after,done,settled,fun _ => empty⟩
  | setField payload slot value =>
    obtain ⟨alive,object,known,inside⟩ := allowed
    exact other (setField_settled settled alive known inside) (by simp)
  | setElement payload index value =>
    obtain ⟨alive,object,known,inside⟩ := allowed
    exact other (setElement_settled settled alive known inside) (by simp)
  | incrementReference payload => exact other (incrementReference_settled settled allowed) (by simp)
  | decrementReference payload => exact other (decrementReference_settled settled allowed) (by simp)
  | markTaskLike payload => exact other ⟨_,rfl,markTaskLike_settled settled allowed⟩ (by simp)

theorem performAll_settled (settled : Settled collector) {operations : List Operation}
    (allowed : AllAllowed collector operations) : ∃ after, performAll operations collector = some after ∧ Settled after ∧
      (operations.getLast? = some .terminate → IsEmpty after) := by
  induction operations generalizing collector with
  | nil => exact ⟨collector,rfl,settled,fun last => by cases last⟩
  | cons operation operations ih =>
    obtain ⟨first,rest⟩ := allowed
    obtain ⟨next,done,settled',empty⟩ := perform_settled settled first
    obtain ⟨after,done',settled'',empty'⟩ := ih settled' (rest next done)
    refine ⟨after,?_,settled'',fun last => ?_⟩
    · rw [performAll,List.foldlM_cons,done]
      exact done'
    · cases operations with
      | nil =>
        cases done'
        exact empty (Option.some.inj last)
      | cons second operations => exact empty' last

/-- From the initial state every allowed run comes to its end, the heap then contains what is allocated and not freed,
the tables record instances of the heap, and all are empty after shutting down. -/
theorem heap_consistent (operations : List Operation) (allowed : AllAllowed initial operations) :
    ∃ after, performAll operations initial = some after ∧ Consistent after ∧
      (operations.getLast? = some .terminate → IsEmpty after) := by
  obtain ⟨after,done,settled,empty⟩ := performAll_settled .initial allowed
  exact ⟨after,done,settled.consistent,empty⟩

def cyclicRun : List Operation :=
  [.allocateInstance 1 ⟨true,8,1⟩,.setField 1 0 (some 1),.setStaticField 2 ⟨"root",false,⟨true,8,1⟩⟩ (.heapBacked 1),
    .terminate]

theorem heap_consistent_cyclicRun : ∃ after, performAll cyclicRun initial = some after ∧ Consistent after ∧
    (cyclicRun.getLast? = some .terminate → IsEmpty after) := by
  apply heap_consistent
  refine ⟨rfl,fun first done => ?_⟩
  cases done
  refine ⟨⟨fun other same => ?_,_,rfl,Nat.zero_lt_one⟩,fun second done => ?_⟩
  · cases same
    exact List.mem_cons_self
  cases done
  refine ⟨.inr ⟨rfl,fun other member => member⟩,fun third done => ?_⟩
  cases done
  exact ⟨rfl,fun _ _ => trivial⟩

/-- An interned string is not counted: it is freed while it is recorded, and it is recorded after shutting down. -/
theorem internedString_recorded :
    (∃ after, performAll [.internString 1 "a",.collectInstance (.heapBacked 1)] initial = some after ∧
      ¬ Consistent after) ∧
    ∃ after, performAll [.internString 1 "a",.terminate] initial = some after ∧ ¬ IsEmpty after := by
  constructor
  · refine ⟨_,rfl,fun consistent => ?_⟩
    have inside := consistent.internedStrings ("a",1) List.mem_cons_self
    cases inside
  · refine ⟨_,rfl,fun empty => ?_⟩
    have none := empty.internedStrings
    cases none

end ShardScript.Heap
