import ShardScript.Heap.Counting

/-! Releasing a counted reference ends, and leaves the tables in order. -/
namespace ShardScript.Heap
open GarbageCollector

section Marked

variable {collector : GarbageCollector} {further dying : List Payload} {payload : Payload} {object : Object}

def marked (collector : GarbageCollector) (payload : Payload) (object : Object) : GarbageCollector :=
  { (collector.eraseHeap payload).write payload { object with terminated := true } with
    asyncTable := collector.asyncTable.filter (· != payload) }

theorem children_marked (known : collector.memory payload = some object) :
    (marked collector payload object).children = collector.children := by
  apply (collector.eraseHeap payload).children_write
  rw [GarbageCollector.children,eraseHeap,known]
  rfl

theorem elementsOf_marked (known : collector.memory payload = some object) :
    (marked collector payload object).elementsOf = collector.elementsOf := by
  apply (collector.eraseHeap payload).elementsOf_write
  rw [elementsOf,eraseHeap,known]
  rfl

theorem memory_marked (other : Payload) : (marked collector payload object).memory other =
    if other = payload then some { object with terminated := true } else collector.memory other :=
  memory_write _ _ _ _

theorem not_mem_of_unheld (tidy : Tidy collector further dying) (known : collector.memory payload = some object)
    (unheld : object.referencesCounter = 0) : payload ∉ collector.held ++ further := by
  have covers := tidy.counted payload
  rw [counter,known] at covers
  change _ ≤ object.referencesCounter at covers
  rw [unheld] at covers
  exact List.count_eq_zero.1 (Nat.le_zero.1 covers)

theorem Tidy.marked (tidy : Tidy collector further dying) (pinned : Pinned collector further)
    (known : collector.memory payload = some object) (active : object.terminated = false)
    (unheld : object.referencesCounter = 0) :
    Tidy (Heap.marked collector payload object) (object.outgoing ++ further) (payload :: dying) := by
  have member : payload ∈ collector.heap := (tidy.inHeap payload).2 ⟨object,known,active⟩
  have apart := not_mem_of_unheld tidy known unheld
  have outgoing : collector.children payload = object.outgoing := by
    rw [GarbageCollector.children,known]
    rfl
  refine ⟨tidy.nodup.erase payload,fun other => ?_,fun other object' known' terminated => ?_,fun other => ?_,?_,?_⟩
  · rw [memory_marked]
    change other ∈ collector.heap.erase payload ↔ _
    rw [tidy.nodup.mem_erase_iff,tidy.inHeap]
    by_cases own : other = payload
    · rw [if_pos own]
      constructor
      · rintro ⟨ne,-⟩
        exact absurd own ne
      · rintro ⟨object',same,terminated⟩
        cases same
        cases terminated
    · rw [if_neg own]
      exact and_iff_right own
  · rw [memory_marked] at known'
    by_cases own : other = payload
    · rw [if_pos own] at known'
      cases known'
      exact ⟨own ▸ List.mem_cons_self,unheld⟩
    · rw [if_neg own] at known'
      obtain ⟨dead,none⟩ := tidy.dead other object' known' terminated
      exact ⟨List.mem_cons_of_mem _ dead,none⟩
  · have heap : collector.held.Perm (object.outgoing ++ (Heap.marked collector payload object).held) := by
      rw [held,held,children_marked known,← outgoing]
      exact (List.perm_cons_erase member).flatMap_right collector.children
    have covers := tidy.counted other
    rw [List.count_append,heap.count_eq,List.count_append] at covers
    rw [List.count_append,List.count_append]
    have count : (Heap.marked collector payload object).counter other = collector.counter other := by
      rw [counter,memory_marked,counter]
      by_cases own : other = payload
      · rw [if_pos own,own,known]
        rfl
      · rw [if_neg own]
    omega
  · intro entry inside
    apply (tidy.nodup.mem_erase_iff).2
    refine ⟨fun same => apart ?_,tidy.interned entry inside⟩
    rw [← same]
    exact List.mem_append_right _ (pinned.strings entry inside)
  · intro other inside
    obtain ⟨inside,ne⟩ := List.mem_filter.1 inside
    exact (tidy.nodup.mem_erase_iff).2 ⟨bne_iff_ne.1 ne,tidy.async other inside⟩

theorem Tidy.freed (tidy : Tidy collector further (payload :: dying)) (known : collector.memory payload = some object)
    (terminated : object.terminated = true) :
    Tidy (collector.forget payload) further dying := by
  obtain ⟨-,unheld⟩ := tidy.dead payload object known terminated
  have outside : payload ∉ collector.heap := by
    rw [tidy.inHeap]
    rintro ⟨object',known',active⟩
    rw [known] at known'
    cases known'
    rw [terminated] at active
    cases active
  have apart := not_mem_of_unheld tidy known unheld
  have ne : ∀ {other}, other ∈ collector.heap → other ≠ payload := fun member same => outside (same ▸ member)
  refine ⟨tidy.nodup,fun other => ?_,fun other object' known' terminated' => ?_,fun other => ?_,tidy.interned,tidy.async⟩
  · rw [memory_forget]
    by_cases own : other = payload
    · rw [if_pos own,own]
      constructor
      · intro member
        exact absurd member outside
      · rintro ⟨object',same,-⟩
        cases same
    · rw [if_neg own]
      exact tidy.inHeap other
  · rw [memory_forget] at known'
    by_cases own : other = payload
    · rw [if_pos own] at known'
      cases known'
    · rw [if_neg own] at known'
      obtain ⟨dead,none⟩ := tidy.dead other object' known' terminated'
      exact ⟨(List.mem_cons.1 dead).resolve_left own,none⟩
  · have same : (collector.forget payload).held = collector.held := by
      apply List.flatMap_congr
      intro other member
      rw [GarbageCollector.children,memory_forget,if_neg (ne member),GarbageCollector.children]
    rw [same]
    by_cases own : other = payload
    · rw [own,List.count_eq_zero.2 apart]
      exact Nat.zero_le _
    · rw [counter,memory_forget,if_neg own]
      exact tidy.counted other

end Marked

def Destroys (fuel : Nat) : Prop :=
  ∀ (collector : GarbageCollector) (further dying : List Payload) (isTyped : Bool) (payload : Payload),
    Tidy collector (payload :: further) dying → Pinned collector further → (isTyped = true ∨ payload ∈ further) →
    collector.heap.length ≤ fuel → ∃ after, destroyWithin fuel isTyped (some payload) collector = some after ∧
      Tidy after further dying ∧ Shrinks collector after

section Terminate

variable {fuel : Nat} (destroys : Destroys fuel)
include destroys

theorem fold_destroys (isTyped : Bool) {further dying : List Payload} : ∀ {fields : List (Option Payload)}
    {collector : GarbageCollector}, Tidy collector (fields.reduceOption ++ further) dying → Pinned collector further →
    (isTyped = true ∨ ∀ field ∈ fields.reduceOption, field ∈ further) → collector.heap.length ≤ fuel →
    ∃ after, fields.foldlM (fun collector field => destroyWithin fuel isTyped field collector) collector = some after ∧
      Tidy after further dying ∧ Shrinks collector after := by
  intro fields
  induction fields with
  | nil =>
    intro collector tidy pinned typed enough
    exact ⟨collector,rfl,tidy,.refl collector⟩
  | cons field fields ih =>
    intro collector tidy pinned typed enough
    cases field with
    | none =>
      rw [List.reduceOption_cons_of_none] at tidy typed
      obtain ⟨after,done,tidy,shrinks⟩ := ih tidy pinned typed enough
      refine ⟨after,?_,tidy,shrinks⟩
      rw [List.foldlM_cons,destroyWithin]
      exact done
    | some payload =>
      rw [List.reduceOption_cons_of_some] at tidy typed
      have ready : isTyped = true ∨ payload ∈ fields.reduceOption ++ further :=
        typed.imp id fun inside => List.mem_append_right _ (inside payload List.mem_cons_self)
      have wider := pinned.mono fun payload member => List.mem_append_right fields.reduceOption member
      obtain ⟨next,first,tidy,shrinks⟩ := destroys collector _ dying isTyped payload tidy wider ready enough
      have rest := typed.imp id fun inside other member => inside other (List.mem_cons_of_mem _ member)
      obtain ⟨after,done,tidy,shrinks'⟩ := ih tidy (pinned.shrinks shrinks) rest (Nat.le_trans shrinks.length enough)
      refine ⟨after,?_,tidy,shrinks.trans shrinks'⟩
      rw [List.foldlM_cons,first]
      exact done

theorem terminate_tidy {collector : GarbageCollector} {further dying : List Payload} {payload : Payload} {object : Object}
    (tidy : Tidy collector further dying) (pinned : Pinned collector further)
    (known : collector.memory payload = some object) (active : object.terminated = false)
    (unheld : object.referencesCounter = 0) (enough : collector.heap.length ≤ fuel + 1) :
    ∃ after, terminateInstance (destroyWithin fuel) true payload true (collector.eraseHeap payload) = some after ∧
      Tidy after further dying ∧ Shrinks collector after := by
  have member : payload ∈ collector.heap := (tidy.inHeap payload).2 ⟨object,known,active⟩
  have kind : collector.elementsOf payload = object.elements := by
    rw [elementsOf,known]
    rfl
  have readable := pinned.readable payload member
  have inside := pinned.elements payload member
  rw [kind] at readable inside
  have less : (marked collector payload object).heap.length ≤ fuel := by
    have erased := List.length_erase_of_mem member
    change (collector.heap.erase payload).length ≤ fuel
    omega
  have pinned' : Pinned (marked collector payload object) further := by
    refine ⟨pinned.strings,fun other erased => ?_,fun other erased => ?_⟩
    · rw [elementsOf_marked known]
      exact pinned.readable other (List.mem_of_mem_erase erased)
    · rw [elementsOf_marked known]
      exact pinned.elements other (List.mem_of_mem_erase erased)
  have first := tidy.marked pinned known active unheld
  rw [Object.outgoing,List.append_assoc] at first
  have wider := pinned'.mono fun payload member =>
    List.mem_append_right object.elements.references?.reduceOption member
  obtain ⟨released,fields,tidy',shrinks⟩ := fold_destroys destroys true first wider (.inl rfl) less
  obtain ⟨last,elements,tidy',shrinks'⟩ := fold_destroys destroys false tidy' (pinned'.shrinks shrinks) (.inr inside)
    (Nat.le_trans shrinks.length less)
  have both := shrinks.trans shrinks'
  have still : last.memory payload = some { object with terminated := true } := by
    apply both.dead payload _ _ rfl
    rw [memory_marked,if_pos rfl]
  refine ⟨last.forget payload,?_,tidy'.freed still rfl,?_⟩
  · rw [terminateInstance]
    change (collector.memory payload).bind _ = _
    rw [known,Option.bind_some,active]
    change Option.bind (object.fields.foldlM _ (marked collector payload object)) _ = _
    rw [fields,Option.bind_some,readable]
    change Option.bind (object.elements.references?.foldlM _ released) _ = _
    rw [elements,Option.bind_some,if_pos rfl,freeBytes,still]
    rfl
  · have elements : ∀ other ∈ last.heap, other ≠ payload := by
      intro other alive same
      obtain ⟨object',known',active'⟩ := (tidy'.inHeap other).1 alive
      rw [same,still] at known'
      cases known'
      cases active'
    refine ⟨fun other alive => ?_,?_,fun other alive => ?_,fun other object' known' terminated => ?_,?_,?_⟩
    · exact List.mem_of_mem_erase (both.heap other alive)
    · exact Nat.le_trans both.length (List.length_erase_le)
    · rw [elementsOf,memory_forget,if_neg (elements other alive),← elementsOf,both.elements other alive,
        elementsOf_marked known]
    · have ne : other ≠ payload := by
        intro same
        rw [same,known] at known'
        cases known'
        rw [active] at terminated
        cases terminated
      rw [memory_forget,if_neg ne]
      apply both.dead other object' _ terminated
      rw [memory_marked,if_neg ne]
      exact known'
    · exact both.staticFields
    · exact both.internedStrings

end Terminate

theorem destroys_all (fuel : Nat) : Destroys fuel := by
  induction fuel with
  | zero =>
    intro collector further dying isTyped payload tidy pinned typed enough
    have member := tidy.mem_heap (List.mem_append_right _ List.mem_cons_self)
    have positive := List.length_pos_of_mem member
    omega
  | succ fuel ih =>
    intro collector further dying isTyped payload tidy pinned typed enough
    obtain ⟨object,known,active,covers⟩ := tidy.alive (List.mem_append_right _ List.mem_cons_self)
    have next : Tidy (collector.write payload { object with referencesCounter := object.referencesCounter - 1 })
        further dying := tidy.recount known active _ fun other => by
      have covered := tidy.counted other
      rw [List.count_append,List.count_cons] at covered
      rw [List.count_append]
      by_cases own : other = payload
      · rw [if_pos own]
        rw [← own,List.count_append,List.count_cons_self] at covers
        omega
      · rw [if_neg own]
        exact Nat.le_trans (by omega) covered
    have elements : (collector.write payload { object with referencesCounter := object.referencesCounter - 1 }).elementsOf =
        collector.elementsOf := by
      apply collector.elementsOf_write
      rw [elementsOf,known]
      rfl
    have shrinks : Shrinks collector
        (collector.write payload { object with referencesCounter := object.referencesCounter - 1 }) := by
      refine ⟨fun _ member => member,Nat.le_refl _,fun other _ => by rw [elements],?_,rfl,rfl⟩
      intro other object' known' terminated
      rw [memory_write,if_neg]
      · exact known'
      · intro same
        rw [same,known] at known'
        cases known'
        rw [active] at terminated
        cases terminated
    rw [destroyWithin,known]
    change ∃ after, (if object.terminated = true then some collector else _) = some after ∧ _
    rw [active,decrementReference,setReferences,known,if_neg Bool.false_ne_true]
    change ∃ after, (if object.referencesCounter - 1 > 0 then some _ else _) = some after ∧ _
    by_cases more : object.referencesCounter - 1 > 0
    · rw [if_pos more]
      exact ⟨_,rfl,next,shrinks⟩
    · rw [if_neg more]
      have unheld : object.referencesCounter - 1 = 0 := Nat.eq_zero_of_not_pos more
      have known' : (collector.write payload { object with referencesCounter := object.referencesCounter - 1 }).memory
          payload = some { object with referencesCounter := object.referencesCounter - 1 } := by
        rw [memory_write,if_pos rfl]
      have pinned' := pinned.shrinks shrinks
      obtain rfl | inside := typed
      · obtain ⟨after,done,tidy',shrinks'⟩ := terminate_tidy ih next pinned' known' active unheld enough
        exact ⟨after,done,tidy',shrinks.trans shrinks'⟩
      · exact absurd (List.mem_append_right _ inside) (not_mem_of_unheld next known' unheld)

end ShardScript.Heap
