import Mathlib.Data.List.Nodup
import ShardScript.Heap.Counting
import ShardScript.Heap.PendingTasks

/-! What is destroyed loses its record, and the counts of the frames keep step with the records. -/
namespace ShardScript.Heap
open GarbageCollector

/-- Each record that is erased is that of an instance that is destroyed. -/
structure Swept (collector after : GarbageCollector) : Prop where
  asyncTable : after.asyncTable =
    collector.asyncTable.filter fun payload => !(collector.isActive payload && !after.isActive payload)
  inactive : ∀ payload, collector.isActive payload = false → after.isActive payload = false

namespace Swept

theorem kept {collector after : GarbageCollector} (asyncTable : after.asyncTable = collector.asyncTable)
    (active : ∀ payload, after.isActive payload = collector.isActive payload) : Swept collector after where
  asyncTable := by
    rw [asyncTable,List.filter_eq_self.2]
    intro payload _
    rw [active,Bool.and_not_self]
    rfl
  inactive payload inactive := (active payload).trans inactive

theorem trans {first second third : GarbageCollector} (left : Swept first second) (right : Swept second third) :
    Swept first third where
  asyncTable := by
    rw [right.asyncTable,left.asyncTable,List.filter_filter]
    apply List.filter_congr
    intro payload _
    have before := left.inactive payload
    have after := right.inactive payload
    revert before after
    cases first.isActive payload <;> cases second.isActive payload <;> cases third.isActive payload <;> decide
  inactive payload inactive := right.inactive payload (left.inactive payload inactive)

end Swept

section Destruction

variable {collector after : GarbageCollector} {payload : Payload} {object : Object}

theorem isActive_write (collector : GarbageCollector) (payload other : Payload) (object : Object) :
    (collector.write payload object).isActive other =
      if other = payload then !object.terminated else collector.isActive other := by
  rw [isActive,memory_write]
  by_cases own : other = payload
  · rw [if_pos own,if_pos own]
    rfl
  · rw [if_neg own,if_neg own,isActive]

theorem setReferences_swept {change : Nat → Nat} (done : collector.setReferences payload change = some after) :
    Swept collector after := by
  obtain ⟨object,known,rfl⟩ := Option.map_eq_some_iff.1 done
  refine .kept rfl fun other => ?_
  rw [isActive_write]
  by_cases own : other = payload
  · rw [if_pos own,own,isActive,known]
    rfl
  · rw [if_neg own]

theorem freeBytes_swept (dead : collector.isActive payload = false) (done : collector.freeBytes payload = some after) :
    Swept collector after := by
  obtain ⟨object,-,rfl⟩ := Option.map_eq_some_iff.1 done
  refine .kept rfl fun other => ?_
  rw [isActive,memory_forget]
  by_cases own : other = payload
  · rw [if_pos own,own,dead]
    rfl
  · rw [if_neg own,isActive]

theorem marked_swept (known : collector.memory payload = some object) (active : object.terminated = false) :
    Swept collector { collector.write payload { object with terminated := true } with
      asyncTable := collector.asyncTable.filter (· != payload) } := by
  have alive : collector.isActive payload = true := by
    rw [isActive,known]
    exact congrArg not active
  have written := isActive_write collector payload
  refine ⟨List.filter_congr fun other _ => ?_,fun other inactive => ?_⟩
  · change (other != payload) = !(_ && !(collector.write payload { object with terminated := true }).isActive other)
    rw [written]
    by_cases own : other = payload
    · rw [if_pos own,own,alive,bne_self_eq_false]
      rfl
    · rw [if_neg own,Bool.and_not_self]
      exact bne_iff_ne.2 own
  · change (collector.write payload { object with terminated := true }).isActive other = false
    rw [written]
    by_cases own : other = payload
    · rw [if_pos own]
      rfl
    · rw [if_neg own]
      exact inactive

theorem fold_swept {α : Type} {act : GarbageCollector → α → Option GarbageCollector}
    (swept : ∀ item collector after, act collector item = some after → Swept collector after) (items : List α)
    (done : items.foldlM act collector = some after) : Swept collector after := by
  induction items generalizing collector with
  | nil =>
    cases done
    exact .kept rfl fun _ => rfl
  | cons item items ih =>
    rw [List.foldlM_cons] at done
    obtain ⟨next,first,rest⟩ := Option.bind_eq_some_iff.1 done
    exact (swept item collector next first).trans (ih rest)

theorem terminateInstance_swept {destroy : Bool → Option Payload → GarbageCollector → Option GarbageCollector}
    (swept : ∀ isTyped field collector after, destroy isTyped field collector = some after → Swept collector after)
    {isTyped deleteInstance : Bool}
    (done : terminateInstance destroy isTyped payload deleteInstance collector = some after) : Swept collector after := by
  obtain ⟨object,known,done⟩ := Option.bind_eq_some_iff.1 done
  by_cases terminated : object.terminated = true
  · rw [if_pos terminated] at done
    cases done
    exact .kept rfl fun _ => rfl
  rw [if_neg terminated] at done
  have marked := marked_swept known (Bool.eq_false_iff.2 terminated)
  by_cases typed : isTyped = false
  · rw [if_pos typed] at done
    cases done
  rw [if_neg typed] at done
  obtain ⟨released,fields,done⟩ := Option.bind_eq_some_iff.1 done
  by_cases readable : object.elements.isReadable = false
  · rw [if_pos readable] at done
    cases done
  rw [if_neg readable] at done
  obtain ⟨released',elements,done⟩ := Option.bind_eq_some_iff.1 done
  have first := marked.trans (fold_swept (fun field collector => swept true field collector) _ fields)
  have second := first.trans (fold_swept (fun field collector => swept false field collector) _ elements)
  by_cases delete : deleteInstance = true
  · rw [if_pos delete] at done
    have dead : released'.isActive payload = false := by
      apply (fold_swept (fun field collector => swept false field collector) _ elements).inactive
      apply (fold_swept (fun field collector => swept true field collector) _ fields).inactive
      exact (isActive_write collector payload payload _).trans (if_pos rfl)
    exact second.trans (freeBytes_swept dead done)
  · rw [if_neg delete] at done
    cases done
    exact second

theorem destroyWithin_swept (fuel : Nat) (isTyped : Bool) (field : Option Payload) (collector after : GarbageCollector)
    (done : destroyWithin fuel isTyped field collector = some after) : Swept collector after := by
  induction fuel generalizing isTyped field collector after with
  | zero =>
    cases field with
    | none =>
      cases done
      exact .kept rfl fun _ => rfl
    | some payload => cases done
  | succ fuel ih =>
    cases field with
    | none =>
      cases done
      exact .kept rfl fun _ => rfl
    | some payload =>
      obtain ⟨object,known,done⟩ := Option.bind_eq_some_iff.1 done
      by_cases terminated : object.terminated = true
      · rw [if_pos terminated] at done
        cases done
        exact .kept rfl fun _ => rfl
      rw [if_neg terminated] at done
      obtain ⟨released,fewer,done⟩ := Option.bind_eq_some_iff.1 done
      have counted := setReferences_swept fewer
      by_cases held : object.referencesCounter - 1 > 0
      · rw [if_pos held] at done
        cases done
        exact counted
      · rw [if_neg held] at done
        have erased : Swept released (released.eraseHeap payload) := .kept rfl fun _ => rfl
        exact (counted.trans erased).trans (terminateInstance_swept ih done)

theorem destroyInstance_swept {value : ObjectInstance} (done : collector.destroyInstance value = some after) :
    Swept collector after := by
  cases value with
  | heapBacked payload => exact destroyWithin_swept _ _ _ _ _ done
  | null =>
    cases done
    exact .kept rfl fun _ => rfl
  | inline size fields =>
    cases done
    exact .kept rfl fun _ => rfl

theorem collectInstance_swept {value : ObjectInstance} (done : collector.collectInstance value = some after) :
    Swept collector after := by
  cases value with
  | heapBacked payload =>
    obtain ⟨object,known,done⟩ := Option.bind_eq_some_iff.1 done
    by_cases held : object.referencesCounter > 0
    · rw [if_pos held] at done
      cases done
      exact .kept rfl fun _ => rfl
    · rw [if_neg held] at done
      have erased : Swept collector (collector.eraseHeap payload) := .kept rfl fun _ => rfl
      exact erased.trans (terminateInstance_swept (destroyWithin_swept _) done)
  | null =>
    cases done
    exact .kept rfl fun _ => rfl
  | inline size fields =>
    cases done
    exact .kept rfl fun _ => rfl

end Destruction

section Operations

variable {collector after : GarbageCollector} {payload : Payload}

theorem setReferences_asyncTable {change : Nat → Nat} (done : collector.setReferences payload change = some after) :
    after.asyncTable = collector.asyncTable := by
  obtain ⟨object,-,rfl⟩ := Option.map_eq_some_iff.1 done
  rfl

variable {value : Option Payload}

theorem elim_asyncTable {change : Nat → Nat}
    (done : value.elim (some collector) (fun payload => collector.setReferences payload change) = some after) :
    after.asyncTable = collector.asyncTable := by
  cases value with
  | none =>
    cases done
    rfl
  | some payload => exact setReferences_asyncTable done

variable {fields : List (Option Payload)}

theorem incrementAll_asyncTable (done : collector.incrementAll fields = some after) :
    after.asyncTable = collector.asyncTable := by
  rw [incrementAll] at done
  generalize fields.reduceOption = payloads at done
  induction payloads generalizing collector with
  | nil =>
    cases done
    rfl
  | cons payload payloads ih =>
    rw [List.foldlM_cons] at done
    obtain ⟨next,first,rest⟩ := Option.bind_eq_some_iff.1 done
    exact (ih rest).trans (setReferences_asyncTable first)

variable {copied : GarbageCollector × Option Payload}

theorem copyValue_asyncTable {size : Nat}
    (done : collector.copyValue payload size fields = some copied) : copied.1.asyncTable = collector.asyncTable := by
  rw [copyValue] at done
  by_cases empty : size = 0
  · rw [if_pos empty] at done
    cases done
    rfl
  · rw [if_neg empty] at done
    obtain ⟨counted,increments,done⟩ := Option.bind_eq_some_iff.1 done
    cases done
    have same := incrementAll_asyncTable increments
    exact same

theorem copyInstance_asyncTable {value : ObjectInstance}
    (done : collector.copyInstance payload value = some copied) : copied.1.asyncTable = collector.asyncTable := by
  cases value with
  | null =>
    cases done
    rfl
  | inline size fields => exact copyValue_asyncTable done
  | heapBacked source =>
    obtain ⟨object,-,done⟩ := Option.bind_eq_some_iff.1 done
    by_cases reference : object.isReferenceType = true
    · rw [if_pos reference] at done
      obtain ⟨counted,increments,done⟩ := Option.bind_eq_some_iff.1 done
      cases done
      exact setReferences_asyncTable increments
    · rw [if_neg reference] at done
      exact copyValue_asyncTable done

variable {field : FieldSymbol}

theorem record_asyncTable
    (done : record field copied = some after) : after.asyncTable = copied.1.asyncTable := by
  obtain ⟨copied,stored | stored⟩ := copied
  · cases done
    rfl
  · obtain ⟨counted,increments,done⟩ := Option.bind_eq_some_iff.1 done
    cases done
    have same := setReferences_asyncTable increments
    exact same

theorem replace_asyncTable {value : ObjectInstance}
    (done : ((collector.copyInstance payload value).bind fun copied => record field copied) = some after) :
    after.asyncTable = collector.asyncTable := by
  obtain ⟨copied,copies,done⟩ := Option.bind_eq_some_iff.1 done
  exact (record_asyncTable done).trans (copyInstance_asyncTable copies)

theorem getStaticField_asyncTable (done : collector.getStaticField payload field = some after) :
    after.asyncTable = collector.asyncTable := by
  rw [getStaticField] at done
  cases known : collector.staticFields.lookup field.name with
  | some stored =>
    rw [known] at done
    cases done
    rfl
  | none =>
    rw [known] at done
    dsimp only at done
    split_ifs at done with default reference
    · cases done
      rfl
    · cases done
      rfl
    · obtain ⟨counted,increments,done⟩ := Option.bind_eq_some_iff.1 done
      cases done
      have same := setReferences_asyncTable increments
      exact same

theorem setField_asyncTable {slot : Nat} (done : collector.setField payload slot value = some after) :
    after.asyncTable = collector.asyncTable := by
  obtain ⟨object,-,done⟩ := Option.bind_eq_some_iff.1 done
  obtain ⟨old,-,done⟩ := Option.bind_eq_some_iff.1 done
  obtain ⟨released,decrements,done⟩ := Option.bind_eq_some_iff.1 done
  obtain ⟨counted,increments,done⟩ := Option.bind_eq_some_iff.1 done
  obtain ⟨object',-,done⟩ := Option.bind_eq_some_iff.1 done
  cases done
  exact (elim_asyncTable increments).trans (elim_asyncTable decrements)

theorem setElement_asyncTable {index : Nat}
    (done : collector.setElement payload index value = some after) : after.asyncTable = collector.asyncTable := by
  obtain ⟨object,-,done⟩ := Option.bind_eq_some_iff.1 done
  obtain ⟨old,-,done⟩ := Option.bind_eq_some_iff.1 done
  obtain ⟨released,decrements,done⟩ := Option.bind_eq_some_iff.1 done
  obtain ⟨counted,increments,done⟩ := Option.bind_eq_some_iff.1 done
  obtain ⟨object',-,done⟩ := Option.bind_eq_some_iff.1 done
  cases done
  exact (elim_asyncTable increments).trans (elim_asyncTable decrements)

variable {operation : Operation}

theorem Swept.erases {released : GarbageCollector} (swept : Swept collector released)
    (releases : collector.release operation = some released) (runs : operation ≠ .terminate)
    (asyncTable : after.asyncTable = released.asyncTable) :
    after.asyncTable = collector.asyncTable.filter fun payload => !collector.destroys payload operation := by
  rw [asyncTable,swept.asyncTable]
  apply List.filter_congr
  intro payload _
  unfold destroys
  split
  · exact absurd rfl runs
  · rw [releases]
    rfl

theorem asyncTable_filter (releases : collector.release operation = some collector)
    (runs : operation ≠ .terminate) (asyncTable : after.asyncTable = collector.asyncTable) :
    after.asyncTable = collector.asyncTable.filter fun payload => !collector.destroys payload operation :=
  (Swept.kept rfl fun _ => rfl).erases releases runs asyncTable

theorem releaseRecorded_swept (done : collector.releaseRecorded field = some after) :
    Swept collector after := by
  rw [releaseRecorded] at done
  cases known : collector.recorded field with
  | none =>
    rw [known] at done
    cases done
    exact .kept rfl fun _ => rfl
  | some old =>
    rw [known] at done
    exact destroyInstance_swept done

theorem perform_asyncTable (unmarked : ∀ payload, operation ≠ .markTaskLike payload)
    (done : operation.perform collector = some after) :
    after.asyncTable = collector.asyncTable.filter fun payload => !collector.destroys payload operation := by
  cases operation with
  | allocateInstance payload shape =>
    cases done
    exact asyncTable_filter rfl nofun rfl
  | allocateArray payload underlayingType elementType length =>
    cases done
    exact asyncTable_filter rfl nofun rfl
  | fromString payload =>
    cases done
    exact asyncTable_filter rfl nofun rfl
  | internString payload value =>
    cases done
    refine asyncTable_filter rfl nofun ?_
    rw [internString]
    cases collector.internedStrings.lookup value <;> rfl
  | copyInstance payload value =>
    obtain ⟨copied,copies,rfl⟩ := Option.map_eq_some_iff.1 done
    exact asyncTable_filter rfl nofun (copyInstance_asyncTable copies)
  | setStaticField payload field value =>
    cases value with
    | null =>
      cases done
      exact asyncTable_filter rfl nofun rfl
    | heapBacked source =>
      obtain ⟨released,releases,done⟩ := Option.bind_eq_some_iff.1 done
      exact (releaseRecorded_swept releases).erases releases nofun (replace_asyncTable done)
    | inline size fields =>
      obtain ⟨released,releases,done⟩ := Option.bind_eq_some_iff.1 done
      exact (releaseRecorded_swept releases).erases releases nofun (replace_asyncTable done)
  | getStaticField payload field => exact asyncTable_filter rfl nofun (getStaticField_asyncTable done)
  | collectInstance value => exact (collectInstance_swept done).erases done nofun rfl
  | destroyInstance value => exact (destroyInstance_swept done).erases done nofun rfl
  | terminate =>
    obtain ⟨marked,-,done⟩ := Option.bind_eq_some_iff.1 done
    obtain ⟨released,-,done⟩ := Option.bind_eq_some_iff.1 done
    obtain ⟨released',-,done⟩ := Option.bind_eq_some_iff.1 done
    obtain ⟨freed,-,done⟩ := Option.bind_eq_some_iff.1 done
    cases done
    exact (List.filter_false _).symm
  | setField object slot value => exact asyncTable_filter rfl nofun (setField_asyncTable done)
  | setElement object index value => exact asyncTable_filter rfl nofun (setElement_asyncTable done)
  | incrementReference object => exact asyncTable_filter rfl nofun (setReferences_asyncTable done)
  | decrementReference object =>
    have same := setReferences_asyncTable (show collector.decrementReference object = some after from done)
    exact asyncTable_filter rfl nofun same
  | markTaskLike payload => exact absurd rfl (unmarked payload)

end Operations

/-- Frames that are called or own a record have been created, and the counts are those of the records. -/
structure Accounted (runtime : Runtime) : Prop where
  nodup : runtime.collector.asyncTable.Nodup
  called : ∀ frame ∈ runtime.callStack, frame < runtime.created
  owners : ∀ payload ∈ runtime.collector.asyncTable, ∀ frame ∈ (runtime.records payload).frameOwner, frame < runtime.created
  balanced : runtime.Balanced

namespace Accounted

variable {runtime after : Runtime} {payload : Payload} {record : AsyncRecord}

theorem initial : Accounted .initial where
  nodup := List.nodup_nil
  called _ member := by cases member
  owners _ member := by cases member
  balanced _ _ := rfl

theorem owned_split (runtime : Runtime) (payload : Payload) (frame : Frame) :
    runtime.owned frame = (if (runtime.entry payload).frameOwner = some frame then 1 else 0) +
      (runtime.collector.asyncTable.erase payload).countP fun other => (runtime.records other).frameOwner == some frame := by
  rw [Runtime.owned,Runtime.entry,Runtime.find]
  by_cases member : payload ∈ runtime.collector.asyncTable
  · rw [if_pos member,(List.perm_cons_erase member).countP_eq,List.countP_cons,Nat.add_comm]
    congr 1
    exact if_congr beq_iff_eq rfl rfl
  · rw [if_neg member,List.erase_of_not_mem member]
    exact (Nat.zero_add _).symm

section Assignment

variable (asyncTable : after.collector.asyncTable = runtime.collector.asyncTable.insert payload)
  (records : after.records = Function.update runtime.records payload record)
include asyncTable records

theorem entry_assigned : after.entry payload = record := by
  rw [Runtime.entry,Runtime.find,asyncTable,if_pos List.mem_insert_self,records,Function.update_self]
  rfl

theorem owner_assigned {other : Payload} (ne : other ≠ payload) :
    (other ∈ after.collector.asyncTable ↔ other ∈ runtime.collector.asyncTable) ∧ after.records other = runtime.records other := by
  rw [asyncTable,records,Function.update_of_ne ne]
  exact ⟨List.mem_insert_iff.trans (or_iff_right ne),rfl⟩

theorem erase_assigned (nodup : runtime.collector.asyncTable.Nodup) (frame : Frame) :
    ((after.collector.asyncTable.erase payload).countP fun other => (after.records other).frameOwner == some frame) =
      (runtime.collector.asyncTable.erase payload).countP fun other => (runtime.records other).frameOwner == some frame := by
  have same : after.collector.asyncTable.erase payload = runtime.collector.asyncTable.erase payload := by
    rw [asyncTable]
    by_cases member : payload ∈ runtime.collector.asyncTable
    · rw [List.insert_of_mem member]
    · rw [List.insert_of_not_mem member,List.erase_cons_head,List.erase_of_not_mem member]
  rw [same]
  apply List.countP_congr
  intro other member
  rw [(owner_assigned asyncTable records (nodup.mem_erase_iff.1 member).1).2]

end Assignment

theorem assigned (accounted : Accounted runtime)
    (asyncTable : after.collector.asyncTable = runtime.collector.asyncTable.insert payload)
    (records : after.records = Function.update runtime.records payload record) (callStack : after.callStack = runtime.callStack)
    (created : after.created = runtime.created) (live : ∀ frame ∈ record.frameOwner, runtime.isLive frame)
    (counts : ∀ frame, runtime.isLive frame →
      after.pendingTaskCount frame + (if (runtime.entry payload).frameOwner = some frame then 1 else 0) =
        runtime.pendingTaskCount frame + (if record.frameOwner = some frame then 1 else 0)) : Accounted after := by
  have nodup : after.collector.asyncTable.Nodup := by
    rw [asyncTable]
    exact List.Nodup.insert accounted.nodup
  have young : ∀ frame, runtime.isLive frame → frame < runtime.created := by
    rintro frame (called | ⟨other,member,owner⟩)
    · exact accounted.called frame called
    · exact accounted.owners other member frame owner
  have before : ∀ frame, after.isLive frame → runtime.isLive frame := by
    rintro frame (called | ⟨other,member,owner⟩)
    · exact .inl (callStack ▸ called)
    · by_cases own : other = payload
      · rw [own,records,Function.update_self] at owner
        exact live frame owner
      · obtain ⟨same,same'⟩ := owner_assigned asyncTable records own
        exact .inr ⟨other,same.1 member,same' ▸ owner⟩
  refine ⟨nodup,fun frame called => ?_,fun other member frame owner => ?_,fun frame alive => ?_⟩
  · rw [created]
    exact accounted.called frame (callStack ▸ called)
  · rw [created]
    exact young frame (before frame (.inr ⟨other,member,owner⟩))
  · have counted := counts frame (before frame alive)
    rw [accounted.balanced frame (before frame alive),owned_split runtime payload] at counted
    rw [owned_split after payload,entry_assigned asyncTable records,erase_assigned asyncTable records accounted.nodup]
    omega

theorem entry_assign (runtime : Runtime) (payload : Payload) (record : AsyncRecord) :
    (runtime.assign payload record).entry payload = record :=
  entry_assigned rfl rfl

theorem assign (accounted : Accounted runtime) (payload : Payload) (record : AsyncRecord)
    (owner : record.frameOwner = (runtime.entry payload).frameOwner) : Accounted (runtime.assign payload record) := by
  refine accounted.assigned rfl rfl rfl rfl (fun frame owns => ?_) fun frame _ => ?_
  · rw [owner,Runtime.entry,Runtime.find] at owns
    split_ifs at owns with member
    · exact .inr ⟨payload,member,owns⟩
    · cases owns
  · rw [owner]
    rfl

theorem release (accounted : Accounted runtime) (payload : Payload) : Accounted (runtime.releaseFrameOwner payload) := by
  rw [Runtime.releaseFrameOwner]
  cases found : runtime.find payload with
  | none => exact accounted
  | some record =>
    have entry : runtime.entry payload = record := by rw [Runtime.entry,found,Option.getD_some]
    dsimp only
    cases owner : record.frameOwner with
    | none =>
      apply accounted.assign
      rw [entry,owner]
    | some frame =>
      refine accounted.assigned rfl rfl rfl rfl nofun fun other live => ?_
      have balanced := accounted.balanced other live
      rw [owned_split runtime payload] at balanced
      rw [entry,owner] at balanced ⊢
      change Function.update runtime.pendingTaskCount frame (runtime.pendingTaskCount frame - 1) other + _ =
        runtime.pendingTaskCount other + 0
      by_cases own : frame = other
      · rw [own,if_pos rfl] at balanced
        rw [own,if_pos rfl,Function.update_self]
        omega
      · have ne : some frame ≠ some other := fun same => own (Option.some.inj same)
        rw [if_neg ne,Function.update_of_ne (Ne.symm own)]

theorem isLive_release (payload : Payload) {frame : Frame} (live : runtime.isLive frame)
    (other : (runtime.entry payload).frameOwner ≠ some frame) : (runtime.releaseFrameOwner payload).isLive frame := by
  rw [Runtime.releaseFrameOwner]
  cases found : runtime.find payload with
  | none => exact live
  | some record =>
    have same : ∀ owner : Option Frame, (runtime.discount owner).callStack = runtime.callStack ∧
        (runtime.discount owner).collector = runtime.collector ∧ (runtime.discount owner).records = runtime.records := by
      intro owner
      cases owner <;> exact ⟨rfl,rfl,rfl⟩
    obtain ⟨callStack,collector,records⟩ := same record.frameOwner
    obtain called | ⟨holder,member,owner⟩ := live
    · exact .inl (callStack ▸ called)
    · have ne : holder ≠ payload := by
        intro own
        rw [Runtime.entry,Runtime.find,← own,if_pos member] at other
        exact other owner
      refine .inr ⟨holder,?_,?_⟩
      · change holder ∈ (runtime.discount record.frameOwner).collector.asyncTable.insert payload
        rw [collector]
        exact List.mem_insert_of_mem member
      · change (Function.update (runtime.discount record.frameOwner).records payload _ holder).frameOwner = some frame
        rw [Function.update_of_ne ne,records]
        exact owner

theorem owner_release (runtime : Runtime) (payload : Payload) :
    ((runtime.releaseFrameOwner payload).entry payload).frameOwner = none := by
  rw [Runtime.releaseFrameOwner]
  cases found : runtime.find payload with
  | none =>
    dsimp only
    rw [Runtime.entry,found]
    rfl
  | some record => exact congrArg AsyncRecord.frameOwner (entry_assign _ payload _)

theorem bind (accounted : Accounted runtime) (payload : Payload) {frame : Option Frame}
    (live : ∀ owner ∈ frame, runtime.isLive owner) : Accounted (runtime.bindToFrame payload frame) := by
  cases frame with
  | none => exact accounted
  | some frame =>
    have live := live frame rfl
    have made := accounted.assign payload (runtime.entry payload) rfl
    have entry := entry_assign runtime payload (runtime.entry payload)
    rw [Runtime.bindToFrame]
    by_cases null : payload = nullPayload
    · rw [if_pos null]
      exact accounted
    rw [if_neg null]
    by_cases owns : (runtime.entry payload).frameOwner = some frame
    · rw [if_pos owns]
      exact made
    rw [if_neg owns]
    have live : (runtime.assign payload (runtime.entry payload)).isLive frame := by
      obtain called | ⟨holder,member,owner⟩ := live
      · exact .inl called
      · have ne : holder ≠ payload := by
          intro own
          rw [Runtime.entry,Runtime.find,← own,if_pos member] at owns
          exact owns owner
        exact .inr ⟨holder,List.mem_insert_of_mem member,
          (congrArg AsyncRecord.frameOwner (Function.update_of_ne ne _ _)).trans owner⟩
    have released := isLive_release payload live (by rw [entry]; exact owns)
    refine (made.release payload).assigned rfl rfl rfl rfl (fun owner same => ?_) fun other _ => ?_
    · cases same
      exact released
    · rw [owner_release]
      change Function.update ((runtime.assign payload (runtime.entry payload)).releaseFrameOwner payload).pendingTaskCount
        frame _ other + 0 = _ + (if some frame = some other then 1 else 0)
      by_cases own : frame = other
      · rw [own,if_pos rfl,Function.update_self]
        rfl
      · have ne : some frame ≠ some other := fun same => own (Option.some.inj same)
        rw [if_neg ne,Function.update_of_ne (Ne.symm own)]

theorem bindTask (accounted : Accounted runtime) (payload : Payload) {frame : Option Frame}
    (live : ∀ owner ∈ frame, runtime.isLive owner) : Accounted (runtime.bindTaskToFrame payload frame) := by
  cases frame with
  | none => exact accounted
  | some frame =>
    rw [Runtime.bindTaskToFrame]
    by_cases absent : payload = nullPayload ∨ runtime.isTaskLike payload = false
    · rw [if_pos absent]
      exact accounted
    rw [if_neg absent]
    by_cases owns : runtime.getFrameOwner payload = some frame
    · rw [if_pos owns]
      exact accounted
    rw [if_neg owns]
    have released := accounted.release payload
    by_cases pending : (runtime.releaseFrameOwner payload).isPendingTask payload = true
    · refine (if_pos pending).symm ▸ released.bind payload fun owner same => ?_
      cases same
      apply isLive_release payload (live frame rfl)
      intro owner
      apply owns
      rw [Runtime.getFrameOwner]
      rw [Runtime.entry] at owner
      revert owner
      cases runtime.find payload with
      | none => nofun
      | some record => exact id
    · exact (if_neg pending).symm ▸ released

theorem setTaskState (accounted : Accounted runtime) (payload : Payload) (state : Option AsyncState) :
    Accounted (runtime.setTaskState payload state) :=
  ⟨accounted.nodup,accounted.called,accounted.owners,accounted.balanced⟩

theorem shoot (accounted : Accounted runtime) (payload : Payload) : Accounted (runtime.shoot payload) := by
  rw [Runtime.shoot]
  split_ifs with null
  · exact accounted
  · have marked : Accounted (runtime.markFireAndForget payload) := accounted.assign payload _ rfl
    exact marked.release payload

theorem haltTaskObject (accounted : Accounted runtime) (payload : Payload) : Accounted (runtime.haltTaskObject payload) := by
  rw [Runtime.haltTaskObject]
  split_ifs with absent
  · exact accounted
  · exact (accounted.setTaskState payload _).release payload

theorem pushFrame (accounted : Accounted runtime) : Accounted runtime.pushFrame where
  nodup := accounted.nodup
  called frame member := by
    obtain rfl | member := List.mem_cons.1 member
    · exact Nat.lt_succ_self _
    · exact Nat.lt_succ_of_lt (accounted.called frame member)
  owners payload member frame owner := Nat.lt_succ_of_lt (accounted.owners payload member frame owner)
  balanced frame live := by
    change Function.update runtime.pendingTaskCount runtime.created 0 frame = runtime.owned frame
    by_cases own : frame = runtime.created
    · rw [own,Function.update_self,Runtime.owned,List.countP_eq_zero.2]
      intro payload member owns
      exact Nat.lt_irrefl _ (accounted.owners payload member _ (beq_iff_eq.1 owns))
    · rw [Function.update_of_ne own]
      apply accounted.balanced
      obtain called | owner := live
      · exact .inl ((List.mem_cons.1 called).resolve_left own)
      · exact .inr owner

theorem popFrame (accounted : Accounted runtime) : Accounted runtime.popFrame := by
  rw [Runtime.popFrame]
  cases calls : runtime.callStack with
  | nil => exact accounted
  | cons first callStack =>
    have called : ∀ frame ∈ callStack, frame ∈ runtime.callStack := by
      intro frame member
      rw [calls]
      exact List.mem_cons_of_mem _ member
    refine ⟨accounted.nodup,fun frame member => accounted.called frame (called frame member),accounted.owners,?_⟩
    intro frame live
    exact accounted.balanced frame (live.imp_left (called frame))

theorem heap (accounted : Accounted runtime) {operation : Operation} {collector : GarbageCollector}
    (unmarked : ∀ payload, operation ≠ .markTaskLike payload) (spares : Spares runtime (.heap operation))
    (done : operation.perform runtime.collector = some collector) : Accounted { runtime with collector } := by
  have asyncTable := perform_asyncTable unmarked done
  have kept : ∀ payload, payload ∈ collector.asyncTable ↔
      payload ∈ runtime.collector.asyncTable ∧ runtime.collector.destroys payload operation = false := by
    intro payload
    rw [asyncTable,List.mem_filter,Bool.not_eq_true']
  refine ⟨?_,accounted.called,fun payload member => accounted.owners payload ((kept payload).1 member).1,fun frame live => ?_⟩
  · change collector.asyncTable.Nodup
    rw [asyncTable]
    exact accounted.nodup.filter _
  · have before : runtime.isLive frame := live.imp_right fun ⟨payload,member,owner⟩ =>
      ⟨payload,((kept payload).1 member).1,owner⟩
    have spared : ∀ payload ∈ runtime.collector.asyncTable, (runtime.records payload).frameOwner = some frame →
        runtime.collector.destroys payload operation = false := by
      intro payload member owner
      by_contra destroyed
      obtain ⟨uncalled,others⟩ := spares payload member (Bool.not_eq_false _ ▸ destroyed) frame owner
      obtain called | ⟨other,member',owner'⟩ := live
      · exact uncalled called
      · obtain ⟨inside,kept⟩ := (kept other).1 member'
        rw [others other inside owner'] at kept
        cases kept
    change runtime.pendingTaskCount frame = collector.asyncTable.countP _
    rw [accounted.balanced frame before,Runtime.owned,asyncTable,List.countP_filter]
    apply List.countP_congr
    intro payload member
    rw [Bool.and_eq_true,Bool.not_eq_true']
    exact ⟨fun owns => ⟨owns,spared payload member (beq_iff_eq.1 owns)⟩,And.left⟩

theorem perform (accounted : Accounted runtime) {step : Step} (spares : Spares runtime step)
    (done : step.perform runtime = some after) : Accounted after := by
  cases step with
  | pushFrame =>
    cases done
    exact accounted.pushFrame
  | popFrame =>
    cases done
    exact accounted.popFrame
  | heap operation =>
    by_cases marks : ∃ payload, operation = .markTaskLike payload
    · obtain ⟨payload,rfl⟩ := marks
      cases done
      exact accounted.assign payload _ rfl
    · have unmarked : ∀ payload, operation ≠ .markTaskLike payload := fun payload same => marks ⟨payload,same⟩
      have performed : ∃ collector, operation.perform runtime.collector = some collector ∧
          { runtime with collector } = after := by
        rw [Step.perform] at done
        · exact Option.map_eq_some_iff.1 done
        · exact unmarked
      obtain ⟨collector,performed,rfl⟩ := performed
      exact accounted.heap unmarked spares performed
  | setTaskState payload state =>
    cases done
    exact accounted.setTaskState payload state
  | markTaskLike payload =>
    cases done
    exact accounted.assign payload _ rfl
  | markFireAndForget payload =>
    cases done
    exact accounted.assign payload _ rfl
  | setAsyncNativeState payload nativeState =>
    cases done
    exact accounted.assign payload _ rfl
  | bindToFrame payload frame =>
    obtain ⟨live,bound⟩ := Option.ite_none_right_eq_some.1 done
    cases bound
    exact accounted.bind payload live
  | bindTaskToFrame payload frame =>
    obtain ⟨live,bound⟩ := Option.ite_none_right_eq_some.1 done
    cases bound
    exact accounted.bindTask payload live
  | releaseFrameOwner payload =>
    cases done
    exact accounted.release payload
  | complete payload state =>
    cases done
    exact (accounted.setTaskState payload _).release payload
  | haltTaskObject payload =>
    cases done
    exact accounted.haltTaskObject payload
  | shoot payload =>
    cases done
    exact accounted.shoot payload

theorem performAll (accounted : Accounted runtime) {steps : List Step} (spare : AllSpare runtime steps)
    (done : Step.performAll steps runtime = some after) : Accounted after := by
  rw [Step.performAll] at done
  induction steps generalizing runtime with
  | nil =>
    cases done
    exact accounted
  | cons step steps ih =>
    rw [List.foldlM_cons] at done
    obtain ⟨next,first,rest⟩ := Option.bind_eq_some_iff.1 done
    exact ih (accounted.perform spare.1 first) (spare.2 next first) rest

end Accounted

/-- In every state that is reached, as long as nothing is destroyed that a live frame owns. -/
theorem pendingTaskCount_eq (steps : List Step) (spare : AllSpare .initial steps) (runtime : Runtime)
    (done : Step.performAll steps .initial = some runtime) : runtime.Balanced :=
  (Accounted.initial.performAll spare done).balanced

def completedRun : List Step :=
  [.pushFrame,.heap (.allocateInstance 7 ⟨true,8,0⟩),.setTaskState 7 (some .pending),.markTaskLike 7,
    .bindTaskToFrame 7 (some 0),.complete 7 .completed,.heap (.destroyInstance (.heapBacked 7))]

theorem completedRun_spares : AllSpare .initial completedRun := by
  refine ⟨trivial,fun _ pushed => ⟨?_,fun _ allocated => ⟨trivial,fun _ stored => ⟨trivial,fun _ marked => ⟨trivial,
    fun _ bound => ⟨trivial,fun _ completed => ⟨?_,fun _ _ => trivial⟩⟩⟩⟩⟩⟩⟩
  · cases pushed
    exact List.forall_mem_nil _
  · cases pushed
    cases allocated
    cases stored
    cases marked
    cases bound
    cases completed
    intro payload member _ frame owns
    obtain rfl := List.mem_singleton.1 member
    cases owns

theorem pendingTaskCount_eq_completedRun :
    ∃ runtime, Step.performAll completedRun .initial = some runtime ∧ runtime.Balanced :=
  ⟨_,rfl,pendingTaskCount_eq completedRun completedRun_spares _ rfl⟩

/-- Nothing holds a pending task that was returned to a frame. -/
theorem pendingTaskCount_discarded : ¬ ∀ (steps : List Step) (runtime : Runtime),
    Step.performAll steps .initial = some runtime → runtime.Balanced := by
  intro balanced
  have counts := balanced [.pushFrame,.heap (.allocateInstance 7 ⟨true,8,0⟩),.setTaskState 7 (some .pending),
    .markTaskLike 7,.bindTaskToFrame 7 (some 0),.heap (.destroyInstance (.heapBacked 7))] _ rfl 0 (.inl List.mem_cons_self)
  cases counts

end ShardScript.Heap
