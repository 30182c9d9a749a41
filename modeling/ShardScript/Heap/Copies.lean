import ShardScript.Heap.Operations

/-! Copies of instances, and stores in fields, elements and static fields. -/
namespace ShardScript.Heap
open GarbageCollector

def ObjectInstance.references : ObjectInstance → List Payload
  | .null => []
  | .heapBacked payload => [payload]
  | .inline _ fields => fields.reduceOption

def ObjectInstance.IsAlive (value : ObjectInstance) (collector : GarbageCollector) : Prop :=
  ∀ payload ∈ value.references, payload ∈ collector.heap

def ObjectInstance.IsCopied (value : ObjectInstance) (collector : GarbageCollector) : Prop :=
  match value with
  | .null => False
  | .inline size _ => size ≠ 0
  | .heapBacked payload => ∀ object, collector.memory payload = some object → object.isReferenceType = true ∨ object.size ≠ 0

theorem reduceOption_replicate (length : Nat) : (List.replicate length (none : Option Payload)).reduceOption = [] := by
  induction length with
  | zero => rfl
  | succ length ih => rw [List.replicate_succ,List.reduceOption_cons_of_none,ih]

theorem outgoing_ofTypes (underlayingType elementType : TypeShape) (length : Nat) :
    (arrayInstance (.ofTypes underlayingType elementType length)).outgoing = [] := by
  rw [arrayInstance,Elements.ofTypes]
  split_ifs
  · rfl
  · exact reduceOption_replicate length
  · rfl

theorem count_set {entries : List (Option Payload)} {index : Nat} {old : Option Payload}
    (known : entries[index]? = some old) (value : Option Payload) (payload : Payload) :
    (entries.set index value).reduceOption.count payload + old.toList.count payload =
      entries.reduceOption.count payload + value.toList.count payload := by
  have cons : ∀ (first : Option Payload) (rest : List (Option Payload)),
      (first :: rest).reduceOption = first.toList ++ rest.reduceOption := by
    intro first rest
    cases first <;> rfl
  induction entries generalizing index with
  | nil => cases known
  | cons entry entries ih =>
    cases index with
    | zero =>
      cases known
      rw [List.set_cons_zero,cons,cons,List.count_append,List.count_append]
      omega
    | succ index =>
      have rest := ih known
      rw [List.set_cons_succ,cons,cons,List.count_append,List.count_append]
      omega

theorem count_toList (value : Option Payload) (payload : Payload) :
    value.toList.count payload = if some payload = value then 1 else 0 := by
  cases value with
  | none => rw [if_neg (by simp)]; rfl
  | some other =>
    rw [Option.toList_some,List.count_singleton]
    by_cases own : payload = other
    · rw [if_pos (beq_iff_eq.2 own.symm),if_pos (congrArg some own)]
    · rw [if_neg (fun same => own (beq_iff_eq.1 same).symm),if_neg (fun same => own (Option.some.inj same))]

section Tidy

variable {collector : GarbageCollector} {further : List Payload} (tidy : Tidy collector further [])
include tidy

variable {payload : Payload}

theorem Tidy.known (member : payload ∈ collector.heap) :
    ∃ object, collector.memory payload = some object ∧ object.terminated = false :=
  (tidy.inHeap payload).1 member

theorem copyValue_tidy (fresh : collector.memory payload = none) (size : Nat)
    (fields : List (Option Payload)) (alive : ∀ field ∈ fields.reduceOption, field ∈ collector.heap) :
    ∃ after stored, collector.copyValue payload size fields = some (after,stored) ∧ Tidy after further [] ∧
      after.staticFields = collector.staticFields ∧ (stored = none ↔ size = 0) ∧
      ∀ other ∈ stored, other ∈ after.heap := by
  have empty : (valueInstance size (List.replicate fields.length none)).outgoing = [] := by
    rw [Object.outgoing,valueInstance,reduceOption_replicate]
    rfl
  have tidy' := tidy.allocate _ fresh rfl empty
  have nothing : (collector.allocate payload (valueInstance size (List.replicate fields.length none))).children payload = [] := by
    rw [GarbageCollector.children,memory_allocate,if_pos rfl]
    exact empty
  unfold copyValue
  by_cases zero : size = 0
  · refine ⟨_,_,if_pos zero,tidy',rfl,iff_of_true rfl zero,fun other same => ?_⟩
    cases same
  · obtain ⟨after,done,recounted,counters⟩ := incrementAll_spec
      ((collector.allocate payload (valueInstance size (List.replicate fields.length none))).write payload
        (valueInstance size fields)) fields.reduceOption fun other member => by
      rw [memory_write]
      by_cases own : other = payload
      · rw [if_pos own]
        exact ⟨_,rfl⟩
      · obtain ⟨object,known,-⟩ := tidy.known (alive other member)
        rw [if_neg own,memory_allocate,if_neg own]
        exact ⟨object,known⟩
    refine ⟨after,some payload,?_,?_,recounted.staticFields,iff_of_false (by simp) zero,fun other same => ?_⟩
    · rw [if_neg zero]
      exact congrArg (fun after => Option.bind after fun after => some (after,some payload)) done
    · apply tidy'.replace payload List.mem_insert_self recounted.heap recounted.internedStrings recounted.asyncTable
      · intro other
        rw [recounted.terminated,memory_write,memory_allocate]
        by_cases own : other = payload
        · rw [if_pos own,if_pos own]
          rfl
        · rw [if_neg own,if_neg own]
      · intro other ne
        rw [recounted.children,GarbageCollector.children,memory_write,if_neg ne,GarbageCollector.children]
      · intro other
        have first : after.children payload = fields.reduceOption := by
          rw [recounted.children,GarbageCollector.children,memory_write,if_pos rfl]
          exact List.append_nil _
        rw [counters,counter_write,counter_allocate,first,nothing]
        by_cases own : other = payload
        · have counter : ∀ fields, (valueInstance size fields).referencesCounter = 0 := fun _ => rfl
          rw [if_pos own,if_pos own,counter,counter]
          omega
        · rw [if_neg own,if_neg own]
          omega
    · cases same
      rw [recounted.heap]
      exact List.mem_insert_self

theorem copyInstance_tidy (fresh : collector.memory payload = none) {value : ObjectInstance}
    (alive : value.IsAlive collector) :
    ∃ after stored, collector.copyInstance payload value = some (after,stored) ∧ Tidy after further [] ∧
      after.staticFields = collector.staticFields ∧ (value.IsCopied collector → stored ≠ none) ∧
      ∀ other ∈ stored, other ∈ after.heap := by
  cases value with
  | null =>
    refine ⟨collector,none,rfl,tidy,rfl,False.elim,fun other same => ?_⟩
    cases same
  | inline size fields =>
    obtain ⟨after,stored,done,tidy,same,thrown,inside⟩ := copyValue_tidy tidy fresh size fields alive
    exact ⟨after,stored,done,tidy,same,fun copied none => copied (thrown.1 none),inside⟩
  | heapBacked source =>
    have member := alive source List.mem_cons_self
    obtain ⟨object,known,-⟩ := tidy.known member
    rw [copyInstance,known]
    by_cases isReferenceType : object.isReferenceType = true
    · obtain ⟨after,done,recounted,counters⟩ := setReferences_spec known (· + 1)
      refine ⟨after,some source,?_,?_,recounted.staticFields,fun _ => Option.some_ne_none _,fun other same => ?_⟩
      · change (if object.isReferenceType = true then _ else _) = _
        rw [if_pos isReferenceType]
        exact congrArg (fun after => Option.bind after fun after => some (after,some source)) done
      · apply tidy.recounted recounted
        intro other
        have covers := tidy.counted other
        rw [counters]
        by_cases own : other = source
        · rw [if_pos own]
          omega
        · rw [if_neg own]
          exact covers
      · cases same
        rw [recounted.heap]
        exact member
    · obtain ⟨after,stored,done,tidy',same,thrown,inside⟩ := copyValue_tidy tidy fresh object.size object.fields
        fun field inside => by
          apply tidy.mem_heap
          apply List.mem_append_left
          apply List.mem_flatMap.2
          refine ⟨source,member,?_⟩
          rw [GarbageCollector.children,known]
          exact List.mem_append_left _ inside
      refine ⟨after,stored,?_,tidy',same,fun copied none => ?_,inside⟩
      on_goal 2 => exact (copied object known).elim isReferenceType fun size => size (thrown.1 none)
      change (if object.isReferenceType = true then _ else _) = _
      rw [if_neg isReferenceType]
      exact done

theorem store_tidy {object : Object} (known : collector.memory payload = some object)
    (old : Option Payload) {value : Option Payload} (alive : ∀ other ∈ value, other ∈ collector.heap) (stored : Object → Object)
    (terminated : ∀ object, (stored object).terminated = object.terminated)
    (counter : ∀ object, (stored object).referencesCounter = object.referencesCounter)
    (outgoing : ∀ count other, (stored { object with referencesCounter := count }).outgoing.count other +
      old.toList.count other = object.outgoing.count other + value.toList.count other) :
    ∃ after, (do
        let collector ← old.elim (some collector) collector.decrementReference
        let collector ← value.elim (some collector) collector.incrementReference
        let object ← collector.memory payload
        return collector.write payload (stored object)) = some after ∧ Tidy after further [] ∧
      after.staticFields = collector.staticFields := by
  have children : collector.children payload = object.outgoing := by
    rw [GarbageCollector.children,known]
    rfl
  have member : payload ∈ collector.heap := (tidy.inHeap payload).2 ⟨object,known,tidy.active known⟩
  have covered : ∀ other, (collector.children payload).count other ≤ collector.counter other := by
    intro other
    have covers := tidy.counted other
    have inside := ((List.perm_cons_erase member).flatMap_right collector.children).count_eq other
    rw [List.flatMap_cons,List.count_append] at inside
    rw [List.count_append,held] at covers
    omega
  have aliveOld : ∀ other ∈ old, ∃ object, collector.memory other = some object := by
    intro other same
    have count := outgoing 0 other
    have present := count_toList old other
    rw [if_pos (Option.mem_def.1 same).symm] at present
    by_cases again : some other = value
    · obtain ⟨object,known,-⟩ := tidy.known (alive other again.symm)
      exact ⟨object,known⟩
    · rw [count_toList value,if_neg again,present] at count
      have inside : other ∈ collector.held := by
        apply List.mem_flatMap.2
        refine ⟨payload,member,?_⟩
        rw [children]
        apply List.count_pos_iff.1
        omega
      obtain ⟨object,known,-⟩ := tidy.alive (List.mem_append_left further inside)
      exact ⟨object,known⟩
  obtain ⟨first,done,recounted,counters⟩ := optional_spec (· - 1) aliveOld
  obtain ⟨second,done',recounted',counters'⟩ := optional_spec (· + 1) fun other same => by
    obtain ⟨object,known,-⟩ := tidy.known (alive other same)
    exact ⟨_,recounted.found known⟩
  have both := recounted.trans recounted'
  have known' := both.found known
  refine ⟨second.write payload (stored { object with referencesCounter := second.counter payload }),?_,?_,both.staticFields⟩
  · change Option.bind (old.elim _ fun payload => collector.setReferences payload (· - 1)) _ = _
    rw [done,Option.bind_some]
    change Option.bind (value.elim _ fun payload => first.setReferences payload (· + 1)) _ = _
    rw [done',Option.bind_some]
    change Option.bind (second.memory payload) _ = _
    rw [known']
    rfl
  · refine tidy.replace payload member ?_ ?_ ?_ ?_ ?_ ?_
    · exact both.heap
    · exact both.internedStrings
    · exact both.asyncTable
    · intro other
      rw [memory_write]
      by_cases own : other = payload
      · rw [if_pos own,own,known,Option.map_some,terminated]
        rfl
      · rw [if_neg own]
        exact both.terminated other
    · intro other ne
      rw [GarbageCollector.children,memory_write,if_neg ne,← GarbageCollector.children,both.children]
    · intro other
      have last : (second.write payload (stored { object with referencesCounter := second.counter payload })).children
          payload = (stored { object with referencesCounter := second.counter payload }).outgoing := by
        rw [GarbageCollector.children,memory_write,if_pos rfl]
        rfl
      have same : (second.write payload (stored { object with referencesCounter := second.counter payload })).counter
          other = second.counter other := by
        rw [counter_write]
        by_cases own : other = payload
        · rw [if_pos own,counter,own]
        · rw [if_neg own]
      have covers := covered other
      have moved := outgoing (second.counter payload) other
      have total := counters' other
      rw [counters] at total
      rw [last,same]
      rw [children] at covers ⊢
      rw [count_toList,count_toList] at moved
      by_cases isOld : some other = old
      · rw [if_pos isOld] at moved total
        by_cases isNew : some other = value
        · rw [if_pos isNew] at moved total
          omega
        · rw [if_neg isNew] at moved total
          omega
      · rw [if_neg isOld] at moved total
        by_cases isNew : some other = value
        · rw [if_pos isNew] at moved total
          omega
        · rw [if_neg isNew] at moved total
          omega

end Tidy

end ShardScript.Heap
