import ShardScript.Frames.Locals

/-! A store in a slot of a frame stays inside of the slot, for values of the types that are declared for it. -/
namespace ShardScript.Frames
open Library
open Calls (TypeSymbol denote)

def TypeTable.Admits (table : TypeTable) (target : TypeSymbol) : ObjectInstance → Prop
  | .null _ _ => table.isAssignableTo target (.named "Null") = true
  | .reference shape _ _ => ∃ source, table.shape source = shape ∧ table.isAssignableTo target source = true
  | .inline shape _ _ _ => ∃ source, table.shape source = shape ∧ table.isAssignableTo target source = true

/-- A call that stores values in a frame. The arguments are on the evaluation stack of the calling frame, the top first. -/
inductive Call where
  | setLocal (slot : Nat) (value : ObjectInstance)
  | copyArgumentPayloads (arguments : List ObjectInstance)

def Call.stores : Call → List Store
  | setLocal slot value => [.setLocal slot value]
  | copyArgumentPayloads arguments => arguments.zipIdx.map fun argument => .copyArgument argument.2 argument.1

abbrev Contents := Nat → Option ObjectInstance

section Slots

variable (table : TypeTable) (method : MethodSymbol) (typeArguments : List TypeSymbol)

def slotPayload (slot : Nat) : Nat := table.slotPayload (method.resolveSlotType slot typeArguments)

def slotStride (slot : Nat) : Nat := table.stride (method.resolveSlotType slot typeArguments)

def Store.IsTyped (store : Store) : Prop :=
  ∃ declared, method.declaredType store.slot = some declared ∧ table.Admits (denote typeArguments declared) store.value

def Call.IsTyped (call : Call) : Prop :=
  (∀ store ∈ call.stores, store.IsTyped table method typeArguments) ∧
    match call with
    | setLocal _ _ => True
    | copyArgumentPayloads arguments => arguments.length = method.getEvalStackArgumentsCount

def IsCovered (slot : Nat) : Prop :=
  ∀ declared, method.declaredType slot = some declared →
    (table.isAssignableTo (denote typeArguments declared) (.named "Null") = true →
      referencePayloadBytes ≤ slotPayload table method typeArguments slot) ∧
    ∀ source, table.isAssignableTo (denote typeArguments declared) source = true →
      (table.shape source).payloadBytes ≤ slotPayload table method typeArguments slot

def Confined (frame : CallStackFrame) (store : Store) : Prop :=
  ∀ desc, frame.localSlots[store.slot]? = some desc → ∀ blocks, store.blocks desc = some blocks → ∀ block ∈ blocks,
    block.Inside desc.offset (desc.offset + slotStride table method typeArguments store.slot)

def Contents.after (contents : Contents) (frame : CallStackFrame) (store : Store) : Contents := fun slot =>
  if slot = store.slot then store.value.seenAs ((frame.localSlots[slot]?).bind LocalSlotDesc.shape) else contents slot

/-- In the course of the stores each one stays inside of its slot, and every slot shows what was stored there last. -/
def Keeps : CallStackFrame → Contents → List Store → Prop
  | _,_,[] => True
  | frame,contents,store :: stores =>
      Confined table method typeArguments frame store ∧
        ∀ next, frame.perform store = some next →
          (∀ slot value, contents.after frame store slot = some value → next.getLocal slot = some value) ∧
          Keeps next (contents.after frame store) stores

structure Laid (frame : CallStackFrame) (contents : Contents) : Prop where
  offsets : frame.localSlots.map LocalSlotDesc.offset = (localSlots table method typeArguments).map LocalSlotDesc.offset
  holds : ∀ slot value, contents slot = some value → frame.Holds slot value ∧
    value.payload.length ≤ slotPayload table method typeArguments slot

end Slots

section Fits

variable {table : TypeTable} {method : MethodSymbol} {typeArguments : List TypeSymbol}

theorem lt_of_declaredType {slot : Nat} {declared : TypeSymbol} (known : method.declaredType slot = some declared) :
    slot < method.getEvalStackLocalsCount := by
  rw [MethodSymbol.getEvalStackLocalsCount]
  by_cases isArgument : slot < method.getEvalStackArgumentsCount
  · omega
  · rw [MethodSymbol.declaredType,if_neg isArgument,Option.map_eq_some_iff] at known
    obtain ⟨found,known,-⟩ := known
    obtain ⟨inside,-⟩ := List.getElem?_eq_some_iff.1 known
    rw [MethodSymbol.getEvalStackVariablesCount]
    omega

variable {store : Store}

theorem payload_fits (covered : IsCovered table method typeArguments store.slot)
    (typed : store.IsTyped table method typeArguments) :
    store.value.payload.length ≤ slotPayload table method typeArguments store.slot := by
  obtain ⟨declared,known,admitted⟩ := typed
  obtain ⟨nulls,sources⟩ := covered declared known
  cases value : store.value with
  | null shape byReference =>
    rw [value] at admitted
    rw [ObjectInstance.payload,length_objectPointer]
    exact nulls admitted
  | reference shape byReference address =>
    rw [value] at admitted
    obtain ⟨source,rfl,assignable⟩ := admitted
    have fits := sources source assignable
    rw [TypeShape.payloadBytes,if_pos byReference] at fits
    rw [ObjectInstance.payload,length_objectPointer]
    exact fits
  | inline shape byValue payload size =>
    rw [value] at admitted
    obtain ⟨source,rfl,assignable⟩ := admitted
    have fits := sources source assignable
    rw [TypeShape.payloadBytes,if_neg (by rw [byValue]; simp)] at fits
    rw [ObjectInstance.payload,size]
    exact fits

variable {blocks : List (Block Cell)} {desc : LocalSlotDesc}

theorem blocks_cases
    (known : store.blocks desc = some blocks) :
    blocks = setLocalBlocks desc store.value ∨
      newShape desc store.value = none ∧ blocks = [⟨desc.offset,shapePointer none⟩] := by
  cases store with
  | setLocal slot value => exact .inl (Option.some.inj known).symm
  | copyArgument slot value =>
    rw [Store.blocks,copyArgumentBlocks] at known
    cases shape : newShape desc value with
    | none =>
      rw [shape] at known
      exact .inr ⟨shape,(Option.some.inj known).symm⟩
    | some shape' =>
      simp only [shape,Option.ite_none_left_eq_some] at known
      exact .inl (Option.some.inj known.2).symm

theorem inside_of_fits
    (fits : store.value.payload.length ≤ slotPayload table method typeArguments store.slot)
    (known : store.blocks desc = some blocks) : ∀ block ∈ blocks,
      block.Inside desc.offset (desc.offset + slotStride table method typeArguments store.slot) := by
  have stride : slotStride table method typeArguments store.slot =
      slotHeaderBytes + slotPayload table method typeArguments store.slot := rfl
  have header : Block.Inside ⟨desc.offset,shapePointer (newShape desc store.value)⟩ desc.offset
      (desc.offset + slotStride table method typeArguments store.slot) := by
    refine ⟨Nat.le_refl _,?_⟩
    rw [Block.next_mk,length_shapePointer,stride]
    exact Nat.add_le_add_left (Nat.le_add_right _ _) _
  obtain rfl | ⟨none,rfl⟩ := blocks_cases known
  · rw [setLocalBlocks,List.forall_mem_cons,List.forall_mem_singleton]
    refine ⟨header,Nat.le_add_right _ _,?_⟩
    rw [Block.next_mk,stride]
    omega
  · rw [none] at header
    rw [List.forall_mem_singleton]
    exact header

theorem seenAs_some {known : Option TypeShape} {value seen : ObjectInstance} (same : value.seenAs known = some seen) :
    seen.getShape = (value.getShape <|> known) ∧ seen.getShape.isSome = true ∧ seen.payload = value.payload := by
  cases value with
  | null shape byReference =>
    cases shape with
    | none =>
      cases known with
      | none => cases same
      | some shape =>
        rw [ObjectInstance.seenAs] at same
        split at same
        · cases same
          exact ⟨rfl,rfl,rfl⟩
        · cases same
    | some shape =>
      cases same
      exact ⟨rfl,rfl,rfl⟩
  | reference shape byReference address =>
    cases same
    exact ⟨rfl,rfl,rfl⟩
  | inline shape byValue payload size =>
    cases same
    exact ⟨rfl,rfl,rfl⟩

variable {frame : CallStackFrame} {contents : Contents}

theorem offset_eq (laid : Laid table method typeArguments frame contents)
    {slot : Nat} (found : frame.localSlots[slot]? = some desc) :
    ∃ made, (localSlots table method typeArguments)[slot]? = some made ∧ made.offset = desc.offset := by
  have same := congrArg (fun offsets => offsets[slot]?) laid.offsets
  rw [List.getElem?_map,List.getElem?_map,found] at same
  exact Option.map_eq_some_iff.1 same.symm

variable (small : localRegionEnd table method typeArguments < 2 ^ 32)

include small in
theorem slots_apart (laid : Laid table method typeArguments frame contents)
    {slot other : Nat} {desc desc' : LocalSlotDesc} (found : frame.localSlots[slot]? = some desc)
    (found' : frame.localSlots[other]? = some desc') (ne : slot ≠ other) :
    desc.offset + slotStride table method typeArguments slot ≤ desc'.offset ∨
      desc'.offset + slotStride table method typeArguments other ≤ desc.offset := by
  obtain ⟨made,known,same⟩ := offset_eq laid found
  obtain ⟨made',known',same'⟩ := offset_eq laid found'
  have inside : ∀ {slot : Nat} {made : LocalSlotDesc}, (localSlots table method typeArguments)[slot]? = some made →
      (slotTypes method typeArguments)[slot]? = some (method.resolveSlotType slot typeArguments) := by
    intro slot made known
    apply slotTypes_eq
    rw [← length_localSlots table method typeArguments]
    exact (List.getElem?_eq_some_iff.1 known).1
  have fits : table.stride (some method.returnType) % 2 ^ 32 + localsBytes table (slotTypes method typeArguments) < 2 ^ 32 :=
    Nat.lt_of_le_of_lt (Nat.add_le_add_right (Nat.mod_le _ _) _) small
  rw [← same,← same']
  obtain before | after := Nat.lt_or_gt_of_ne ne
  · exact .inl (slotDescs_apart table fits (inside known) known known' before)
  · exact .inr (slotDescs_apart table fits (inside known') known' known after)

theorem read_of_apart {first next place count : Nat}
    (inside : ∀ block ∈ blocks, block.Inside first next) (apart : next ≤ place ∨ place + count ≤ first) :
    (frame.arena.writeAll blocks).read place count = frame.arena.read place count := by
  apply Storage.read_congr
  intro index below above
  apply Storage.writeAll_outside _ _ _ inside
  omega

theorem holds_stored
    (found : frame.localSlots[store.slot]? = some desc) (known : store.blocks desc = some blocks) {seen : ObjectInstance}
    (shows : store.value.seenAs desc.shape = some seen) :
    CallStackFrame.Holds ⟨frame.arena.writeAll blocks,frame.localSlots.set store.slot ⟨newShape desc store.value,desc.offset⟩⟩
      store.slot seen := by
  obtain ⟨shape,isSome,payload⟩ := seenAs_some shows
  obtain ⟨inside,-⟩ := List.getElem?_eq_some_iff.1 found
  refine ⟨⟨newShape desc store.value,desc.offset⟩,List.getElem?_set_self inside,isSome,?_⟩
  obtain rfl | ⟨none,-⟩ := blocks_cases known
  · rw [setLocalBlocks,Storage.writeAll,List.foldl_cons,List.foldl_cons,List.foldl_nil,shape,payload]
    constructor
    · rw [Storage.read_write_outside _ (.inl (Nat.le_refl _))]
      have written := Storage.read_write frame.arena ⟨desc.offset,shapePointer (newShape desc store.value)⟩
      rw [length_shapePointer] at written
      exact written
    · exact Storage.read_write _ ⟨desc.offset + slotHeaderBytes,store.value.payload⟩
  · rw [shape] at isSome
    rw [newShape] at none
    rw [none] at isSome
    cases isSome

include small in
theorem holds_other (laid : Laid table method typeArguments frame contents)
    {slot other : Nat} (shape : Option TypeShape)
    (found : frame.localSlots[slot]? = some desc)
    (inside : ∀ block ∈ blocks, block.Inside desc.offset (desc.offset + slotStride table method typeArguments slot))
    (ne : slot ≠ other) {value : ObjectInstance} (holds : frame.Holds other value)
    (fits : value.payload.length ≤ slotPayload table method typeArguments other) :
    CallStackFrame.Holds ⟨frame.arena.writeAll blocks,frame.localSlots.set slot ⟨shape,desc.offset⟩⟩ other value := by
  obtain ⟨desc',found',isSome,header,payload⟩ := holds
  have apart := slots_apart small laid found found' ne
  have stride : slotStride table method typeArguments other =
      slotHeaderBytes + slotPayload table method typeArguments other := rfl
  have bytes : slotHeaderBytes = 8 := rfl
  refine ⟨desc',?_,isSome,?_,?_⟩
  · rw [List.getElem?_set_ne ne]
    exact found'
  · rw [read_of_apart inside (by omega)]
    exact header
  · rw [read_of_apart inside (by omega)]
    exact payload

include small in
theorem Laid.perform {frame next : CallStackFrame}
    (laid : Laid table method typeArguments frame contents)
    (fits : store.value.payload.length ≤ slotPayload table method typeArguments store.slot)
    (done : frame.perform store = some next) :
    Laid table method typeArguments next (contents.after frame store) := by
  obtain ⟨desc,found,rest⟩ := Option.bind_eq_some_iff.1 done
  obtain ⟨blocks,known,rest⟩ := Option.bind_eq_some_iff.1 rest
  cases rest
  have inside := inside_of_fits fits known
  constructor
  · have kept : ∀ {slot : Nat} {desc : LocalSlotDesc}, frame.localSlots[slot]? = some desc →
        (frame.localSlots.map LocalSlotDesc.offset).set slot desc.offset = frame.localSlots.map LocalSlotDesc.offset := by
      intro slot desc found
      have known : (frame.localSlots.map LocalSlotDesc.offset)[slot]? = some desc.offset := by
        rw [List.getElem?_map,found,Option.map_some]
      obtain ⟨inside,same⟩ := List.getElem?_eq_some_iff.1 known
      rw [← same,List.set_getElem_self]
    rw [List.map_set,kept found]
    exact laid.offsets
  · intro slot value shows
    rw [Contents.after] at shows
    split at shows
    · next same =>
      subst same
      rw [found] at shows
      refine ⟨holds_stored found known shows,?_⟩
      rw [(seenAs_some shows).2.2]
      exact fits
    · next ne =>
      obtain ⟨holds,fits'⟩ := laid.holds slot value shows
      exact ⟨holds_other small laid _ found inside (Ne.symm ne) holds fits',fits'⟩

include small in
theorem keeps_of_covered (covered : ∀ slot < method.getEvalStackLocalsCount, IsCovered table method typeArguments slot)
    (laid : Laid table method typeArguments frame contents)
    {stores : List Store} (typed : ∀ store ∈ stores, store.IsTyped table method typeArguments) :
    Keeps table method typeArguments frame contents stores := by
  induction stores generalizing frame contents with
  | nil => trivial
  | cons store stores ih =>
    rw [List.forall_mem_cons] at typed
    obtain ⟨typed,rest⟩ := typed
    obtain ⟨declared,known,-⟩ := id typed
    have fits := payload_fits (covered _ (lt_of_declaredType known)) typed
    refine ⟨fun desc found blocks made => inside_of_fits fits made,fun next done => ?_⟩
    have laid' := laid.perform small fits done
    exact ⟨fun slot value shows => CallStackFrame.getLocal_of_holds (laid'.holds slot value shows).1,ih laid' rest⟩

theorem payload_le {slot : Nat} {value : ObjectInstance}
    (keeps : Keeps table method typeArguments (create table method typeArguments) (fun _ => none) [.setLocal slot value])
    (inside : slot < method.getEvalStackLocalsCount) :
    value.payload.length ≤ slotPayload table method typeArguments slot := by
  rw [← length_localSlots table method typeArguments] at inside
  have confined := keeps.1 _ (List.getElem?_eq_getElem inside) _ rfl ⟨_,value.payload⟩
    (List.mem_cons_of_mem _ (List.mem_singleton_self _))
  have bound := confined.2
  rw [Block.next_mk,Nat.add_assoc] at bound
  exact Nat.le_of_add_le_add_left (Nat.le_of_add_le_add_left bound)

end Fits

section Main

variable (table : TypeTable) (method : MethodSymbol) (typeArguments : List TypeSymbol)

theorem stored_le (slot : Nat) {declared : TypeSymbol} (known : method.declaredType slot = some declared)
    (all : ∀ calls : List Call, (∀ call ∈ calls, call.IsTyped table method typeArguments) →
      Keeps table method typeArguments (create table method typeArguments) (fun _ => none) (calls.flatMap Call.stores))
    {value : ObjectInstance} (admitted : table.Admits (denote typeArguments declared) value) :
    value.payload.length ≤ slotPayload table method typeArguments slot := by
  apply payload_le (all [.setLocal slot value] _) (lt_of_declaredType known)
  rw [List.forall_mem_singleton]
  refine ⟨?_,trivial⟩
  rw [Call.stores,List.forall_mem_singleton]
  exact ⟨declared,known,admitted⟩

/-- The slots of a frame stay apart in all sequences of stores of declared values exactly if every slot has room for
whatever can be stored there. -/
theorem slots_disjoint (small : localRegionEnd table method typeArguments < 2 ^ 32) :
    (∀ calls : List Call, (∀ call ∈ calls, call.IsTyped table method typeArguments) →
      Keeps table method typeArguments (create table method typeArguments) (fun _ => none)
        (calls.flatMap Call.stores)) ↔
      ∀ slot < method.getEvalStackLocalsCount, IsCovered table method typeArguments slot := by
  constructor
  · intro all slot inside declared known
    constructor
    · intro assignable
      have admitted : table.Admits (denote typeArguments declared) (.null none fun _ none => by cases none) := assignable
      exact stored_le table method typeArguments slot known all admitted
    · intro source assignable
      rw [TypeShape.payloadBytes]
      split
      · next byReference =>
        have admitted : table.Admits (denote typeArguments declared) (.reference (table.shape source) byReference 0) :=
          ⟨source,rfl,assignable⟩
        exact stored_le table method typeArguments slot known all admitted
      · next other =>
        have admitted : table.Admits (denote typeArguments declared) (.inline (table.shape source)
            (TypeInlining.eq_byValue other) (List.replicate (align (table.shape source).size) (.byte 0))
            List.length_replicate) := ⟨source,rfl,assignable⟩
        have fits := stored_le table method typeArguments slot known all admitted
        rw [ObjectInstance.payload,List.length_replicate] at fits
        exact fits
  · intro covered calls typed
    apply keeps_of_covered small covered
    · refine ⟨rfl,fun slot value shows => ?_⟩
      cases shows
    · intro store member
      obtain ⟨call,member,inner⟩ := List.mem_flatMap.1 member
      exact (typed call member).1 store inner

end Main

def points : TypeTable where
  inlining name := if name = "Point" then .byValue else .byReference
  address _ _ := 0
  size type _ := match type with
    | .named "Point" => 16
    | _ => 0
  isAssignableTo
    | .named target,.named source => target == source
    | _,_ => false

theorem one_numbered : 1 < 2 ^ 16 := by decide

def scale : MethodSymbol := ⟨.named "Double",false,.named "Point",[.named "Point"],[],[],one_numbered⟩

theorem slots_disjoint_scale :
    (∀ calls : List Call, (∀ call ∈ calls, call.IsTyped points scale []) →
      Keeps points scale [] (create points scale []) (fun _ => none) (calls.flatMap Call.stores)) ↔
      ∀ slot < scale.getEvalStackLocalsCount, IsCovered points scale [] slot :=
  slots_disjoint points scale [] (by decide)

def length : MethodSymbol := ⟨.named "Double",true,.named "Point",[],[],[],one_numbered⟩

/-- The receiver is copied over the end of its slot. -/
theorem length_leaves_slot : ¬ ∀ calls : List Call, (∀ call ∈ calls, call.IsTyped points length []) →
    Keeps points length [] (create points length []) (fun _ => none) (calls.flatMap Call.stores) := by
  intro all
  have admitted : points.Admits (.named "Point")
      (.inline ⟨0,.byValue,16⟩ rfl (List.replicate 16 (.byte 0)) rfl) := ⟨.named "Point",rfl,rfl⟩
  have fits := stored_le points length [] 0 rfl all admitted
  exact absurd fits (by decide)

end ShardScript.Frames
