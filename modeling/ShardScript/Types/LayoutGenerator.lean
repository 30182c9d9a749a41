import Mathlib.Data.Fintype.Card
import Mathlib.Logic.Relation
import ShardScript.Frames.Layout
import ShardScript.Library.Search
import ShardScript.Types.Shapes

/-! `LayoutGenerator`: sizes and offsets by a depth-first search over the types, which reports recursive inlining. -/
namespace ShardScript.Layout
open Frames (TypeInlining)
open Types.Shapes (alignUp pointerSize)
open Library (exists_foldlM not_transGen_of_acc)
open Relation

variable {Address : Type}

/-- The backing field of a property has no node of its own. -/
structure FieldSymbol (Address : Type) where
  isStatic : Bool := false
  hasNode : Bool := true
  returnType : Option Address

/-- A constructed type has the substitutes of the type parameters that it knows. -/
inductive SyntaxKind (Address : Type) where
  | declaration
  | typeParameter
  | arrayType (underlayingType : Address) (length : Nat)
  | genericType (underlayingType : Address) (typeParametersMap : List (Address × Address))

structure TypeSymbol (Address : Type) where
  kind : SyntaxKind Address := .declaration
  inlining : TypeInlining
  fields : List (FieldSymbol Address) := []

inductive TypeLayoutingState where
  | unvisited | visiting | visited
  deriving DecidableEq

/-- All type symbols, each known by its address, and those of the table. `array` is `Primitives::Array`. -/
structure SemanticModel (Address : Type) where
  symbol : Address → TypeSymbol Address
  typeSymbols : List Address
  array : Address

/-- A field is known by the type that declares it and its place there; `errors` are such fields. -/
structure State (Address : Type) where
  layoutingState : Address → TypeLayoutingState
  memoryBytesSize : Address → Nat
  nextSlotIndex : Address → Nat
  slotIndex : Address → Nat → Option Nat
  memoryBytesOffset : Address → Nat → Nat
  fieldOffsets : Address → List (Nat × Nat)
  errors : List (Address × Nat) := []

namespace SemanticModel

variable (model : SemanticModel Address)

/-- The fields that are neither static nor without a type, each with its place. -/
def instanceFields (type : Address) : List (Nat × Address) :=
  (model.symbol type).fields.zipIdx.filterMap fun (field,place) =>
    if field.isStatic then none else field.returnType.map (place,·)

def hasNode (owner : Address) (place : Nat) : Bool :=
  match (model.symbol owner).fields[place]? with
  | some field => field.hasNode
  | none => false

def layoutOwner (objectInfo : Address) : Address :=
  match (model.symbol objectInfo).kind with
  | .genericType underlayingType _ => underlayingType
  | _ => objectInfo

def getInlineSize (state : State Address) (type : Address) : Nat :=
  if (model.symbol type).inlining = .byReference then pointerSize else state.memoryBytesSize type

variable [DecidableEq Address]

def concreteType (typeParametersMap : List (Address × Address)) (type : Address) : Option Address :=
  match (model.symbol type).kind with
  | .typeParameter => typeParametersMap.lookup type
  | _ => some type

/-- The stack holds no type twice, and so the fuel lasts if there is more of it than there are types. -/
@[grind] def getTypeAlignmentImpl (state : State Address) : Nat → Address → List Address → Nat
  | 0,_,_ => 1
  | fuel + 1,type,stack =>
      if type ∈ stack then 1
      else if (model.symbol type).inlining = .byReference then pointerSize
      else
        let greatest (types : List Address) : Nat := types.foldl (fun alignment fieldType =>
          max alignment (getTypeAlignmentImpl state fuel fieldType (stack ++ [type]))) 1
        match (model.symbol type).kind with
        | .typeParameter => pointerSize
        | .arrayType underlayingType _ => getTypeAlignmentImpl state fuel underlayingType (stack ++ [type])
        | .genericType underlayingType typeParametersMap =>
            greatest ((model.instanceFields underlayingType).filterMap fun field =>
              model.concreteType typeParametersMap field.2)
        | .declaration =>
            if (model.symbol type).fields = [] then min (max (state.memoryBytesSize type) 1) pointerSize
            else greatest ((model.instanceFields type).map Prod.snd)

/-- The type parameters that have no substitute stay as they are here, other than for the alignment. -/
def effectiveType (typeParametersMap : List (Address × Address)) (fieldType : Address) : Address :=
  (model.concreteType typeParametersMap fieldType).getD fieldType

end SemanticModel

variable [DecidableEq Address]

namespace State

def mark (state : State Address) (type : Address) (layoutingState : TypeLayoutingState) : State Address :=
  { state with layoutingState := Function.update state.layoutingState type layoutingState }

variable {layoutingState : TypeLayoutingState}

theorem layoutingState_mark_self {state : State Address} {type : Address} :
    (state.mark type layoutingState).layoutingState type = layoutingState :=
  Function.update_self ..

theorem layoutingState_mark_of_ne {state : State Address} {type other : Address}
    (different : other ≠ type) : (state.mark type layoutingState).layoutingState other = state.layoutingState other :=
  Function.update_of_ne different ..

variable (state : State Address)

def resize (type : Address) (size : Nat) : State Address :=
  { state with memoryBytesSize := Function.update state.memoryBytesSize type size }

def assignSlot (owner : Address) (place : Nat) : State Address :=
  let slots := state.slotIndex owner
  let next := state.nextSlotIndex owner
  { state with
    slotIndex := Function.update state.slotIndex owner (Function.update slots place (some ((slots place).getD next)))
    nextSlotIndex := Function.update state.nextSlotIndex owner (if slots place = none then next + 1 else next) }

/-- The offset goes to the field symbol, which all instances of a generic type share. -/
def placeField (objectInfo owner : Address) (place alignment inlineSize : Nat) : State Address :=
  let offset := alignUp (state.memoryBytesSize objectInfo) alignment
  let assigned := state.assignSlot owner place
  let placed : State Address :=
    { assigned with
      memoryBytesOffset := Function.update assigned.memoryBytesOffset owner
        (Function.update (assigned.memoryBytesOffset owner) place offset) }
  placed.resize objectInfo (offset + inlineSize)

def setFieldOffsets (generic : Address) (offsets : List (Nat × Nat)) : State Address :=
  { state with fieldOffsets := Function.update state.fieldOffsets generic offsets }

end State

namespace SemanticModel

variable [Fintype Address] (model : SemanticModel Address)

def getTypeAlignment (state : State Address) (type : Address) : Nat :=
  model.getTypeAlignmentImpl state (Fintype.card Address + 1) type []

section Pass

variable (fix : Address → State Address → Option (State Address))

def layoutType (type : Address) (state : State Address) : Option (State Address) :=
  if state.layoutingState type = .unvisited then fix type state else some state

/-- The name that is reported is read from the node of the field. -/
def layoutField (objectInfo owner : Address) (state : State Address) (field : Nat × Address) : Option (State Address) :=
  if (model.symbol field.2).inlining = .byValue ∧ state.layoutingState field.2 = .visiting then
    if model.hasNode owner field.1 then some { state with errors := state.errors ++ [(owner,field.1)] } else none
  else
    (layoutType fix field.2 state).map fun state =>
      state.placeField objectInfo owner field.1 (model.getTypeAlignment state field.2) (model.getInlineSize state field.2)

def layoutGenericField (generic : Address) (typeParametersMap : List (Address × Address))
    (progress : State Address × Nat) (field : Nat × Address) : Option (State Address × Nat) :=
  let fieldType := model.effectiveType typeParametersMap field.2
  (layoutType fix fieldType progress.1).map fun state =>
    let offset := alignUp progress.2 (model.getTypeAlignment state fieldType)
    (state.setFieldOffsets generic (state.fieldOffsets generic ++ [(field.1,offset)]),
      offset + model.getInlineSize state fieldType)

/-- What is behind the loop over the fields. Types that are being visited are not looked for here. -/
def layoutKind (objectInfo : Address) (state : State Address) : Option (State Address) :=
  match (model.symbol objectInfo).kind with
  | .arrayType underlayingType length =>
      (layoutType fix underlayingType state).map fun state =>
        state.resize objectInfo (state.memoryBytesSize model.array + state.memoryBytesSize underlayingType * length)
  | .genericType underlayingType typeParametersMap =>
      (layoutType fix underlayingType state).bind fun state =>
        ((model.instanceFields underlayingType).foldlM (model.layoutGenericField fix objectInfo typeParametersMap)
          (state.setFieldOffsets objectInfo [],0)).map fun (state,offset) =>
            state.resize objectInfo (alignUp offset (model.getTypeAlignment state objectInfo))
  | _ => some state

end Pass

@[grind] def fixObjectLayout : Nat → Address → State Address → Option (State Address)
  | 0,_,_ => none
  | fuel + 1,objectInfo,state =>
      let owner := model.layoutOwner objectInfo
      ((model.instanceFields owner).foldlM (model.layoutField (fixObjectLayout fuel) objectInfo owner)
        (state.mark objectInfo .visiting)).bind fun state =>
          (model.layoutKind (fixObjectLayout fuel) objectInfo state).map fun state =>
            (state.resize objectInfo (alignUp (state.memoryBytesSize objectInfo) (model.getTypeAlignment state objectInfo))).mark
              objectInfo .visited

/-- The first loop, which gives the sizes and the offsets. -/
def generate (fuel : Nat) (state : State Address) : Option (State Address) :=
  model.typeSymbols.foldlM (fun state objectInfo =>
    if state.layoutingState objectInfo = .visited then some state else model.fixObjectLayout fuel objectInfo state) state

end SemanticModel

section Search

variable (model : SemanticModel Address)

namespace SemanticModel

/-- The types that a visit of a type may go on with. -/
def mentions (type : Address) : List Address :=
  (model.instanceFields (model.layoutOwner type)).map Prod.snd ++
    match (model.symbol type).kind with
    | .arrayType underlayingType _ => [underlayingType]
    | .genericType underlayingType typeParametersMap =>
        underlayingType :: (model.instanceFields underlayingType).map fun field =>
          model.effectiveType typeParametersMap field.2
    | _ => []

def Leads (type type' : Address) : Prop := type' ∈ model.mentions type

/-- The objects of one type hold those of another one, in a field of their own. -/
def Inlines (inner type : Address) : Prop :=
  inner ∈ (model.instanceFields (model.layoutOwner type)).map Prod.snd ∧ (model.symbol inner).inlining = .byValue

/-- An error is about a field by value whose type leads back to a type with that field. -/
def IsRecursive (error : Address × Nat) : Prop :=
  ∃ type inner,model.layoutOwner type = error.1 ∧ (error.2,inner) ∈ model.instanceFields error.1 ∧
    (model.symbol inner).inlining = .byValue ∧ ReflTransGen model.Leads inner type

def HasNodes : Prop := ∀ error,model.IsRecursive error → model.hasNode error.1 error.2 = true

def Settled (state : State Address) : Prop :=
  ∀ type,state.layoutingState type = .visited → Acc model.Inlines type

/-- What the visits of types keep: the visited types, the ones that are being visited, and what is known of both. -/
structure Grows (before after : State Address) : Prop where
  visited : ∀ {type},before.layoutingState type = .visited → after.layoutingState type = .visited
  visiting : ∀ {type},after.layoutingState type = .visiting ↔ before.layoutingState type = .visiting
  reported : ∃ more,after.errors = before.errors ++ more ∧ ∀ error ∈ more,model.IsRecursive error
  settled : after.errors = [] → model.Settled before → model.Settled after

variable {model} {before after : State Address}

theorem Grows.silent (grows : model.Grows before after) (silent : after.errors = []) : before.errors = [] := by
  obtain ⟨more,errors,_⟩ := grows.reported
  rw [errors] at silent
  exact (List.append_eq_nil_iff.mp silent).1

theorem Grows.of_same (states : after.layoutingState = before.layoutingState) (errors : after.errors = before.errors) :
    model.Grows before after := by
  constructor
  · rw [states]
    exact id
  · rw [states]
  · exact ⟨[],by rw [errors,List.append_nil],nofun⟩
  · intro _ settled
    unfold Settled
    rwa [states]

theorem Grows.trans {middle : State Address} (first : model.Grows before middle) (second : model.Grows middle after) :
    model.Grows before after := by
  refine ⟨fun known => second.visited (first.visited known),second.visiting.trans first.visiting,?_,
    fun silent settled => second.settled silent (first.settled (second.silent silent) settled)⟩
  obtain ⟨more,errors,recursive⟩ := first.reported
  obtain ⟨more',errors',recursive'⟩ := second.reported
  refine ⟨more ++ more',by rw [errors',errors,List.append_assoc],fun error member => ?_⟩
  exact (List.mem_append.mp member).elim (recursive error) (recursive' error)

variable [Fintype Address]

def pending (state : State Address) : Nat :=
  (Finset.univ.filter fun type => state.layoutingState type = .unvisited).card

theorem Grows.pending (grows : model.Grows before after) : pending after ≤ pending before := by
  apply Finset.card_le_card
  refine Finset.monotone_filter_right _ fun type _ unvisited => ?_
  cases known : before.layoutingState type with
  | unvisited => rfl
  | visiting => rw [grows.visiting.mpr known] at unvisited; cases unvisited
  | visited => rw [grows.visited known] at unvisited; cases unvisited

theorem pending_mark {type : Address} (fresh : before.layoutingState type = .unvisited) :
    pending (before.mark type .visiting) < pending before := by
  apply Finset.card_lt_card
  rw [Finset.ssubset_iff_of_subset]
  · refine ⟨type,Finset.mem_filter.mpr ⟨Finset.mem_univ _,fresh⟩,fun member => ?_⟩
    have unvisited := (Finset.mem_filter.mp member).2
    rw [State.layoutingState_mark_self] at unvisited
    cases unvisited
  · intro other member
    have unvisited := (Finset.mem_filter.mp member).2
    rw [Finset.mem_filter]
    refine ⟨Finset.mem_univ _,?_⟩
    by_cases same : other = type
    · rwa [same]
    · rwa [State.layoutingState_mark_of_ne same] at unvisited

/-- Where the visit of a type may go on: every type that is being visited leads to this one. -/
structure Ready (model : SemanticModel Address) (fuel : Nat) (type : Address) (state : State Address) : Prop where
  leads : ∀ {other},state.layoutingState other = .visiting → ReflTransGen model.Leads other type
  enough : pending state < fuel

theorem Ready.grows {fuel : Nat} {type : Address} (ready : model.Ready fuel type before) (grows : model.Grows before after) :
    model.Ready fuel type after :=
  ⟨fun visiting => ready.leads (grows.visiting.mp visiting),Nat.lt_of_le_of_lt grows.pending ready.enough⟩

def Fixes (model : SemanticModel Address) (fuel : Nat) (fix : Address → State Address → Option (State Address)) : Prop :=
  ∀ type before,before.layoutingState type = .unvisited → model.Ready fuel type before →
    ∃ after,fix type before = some after ∧ model.Grows before after ∧ after.layoutingState type = .visited

variable {fuel : Nat} {fix : Address → State Address → Option (State Address)} {type inner : Address}

theorem layoutType_some (fixes : model.Fixes fuel fix) (ready : model.Ready fuel type before)
    (mentioned : inner ∈ model.mentions type) :
    ∃ after,layoutType fix inner before = some after ∧ model.Grows before after ∧
      (before.layoutingState inner ≠ .visiting → after.layoutingState inner = .visited) := by
  unfold layoutType
  cases known : before.layoutingState inner with
  | unvisited =>
      obtain ⟨after,found,grows,visited⟩ := fixes inner before known
        ⟨fun visiting => (ready.leads visiting).tail mentioned,ready.enough⟩
      exact ⟨after,found,grows,fun _ => visited⟩
  | visiting => exact ⟨before,rfl,.of_same rfl rfl,fun other => absurd rfl other⟩
  | visited => exact ⟨before,rfl,.of_same rfl rfl,fun _ => known⟩

theorem layoutField_some (declared : model.HasNodes) (fixes : model.Fixes fuel fix) (ready : model.Ready fuel type before) {field : Nat × Address}
    (member : field ∈ model.instanceFields (model.layoutOwner type)) :
    ∃ after,model.layoutField fix type (model.layoutOwner type) before field = some after ∧ model.Grows before after ∧
      (after.errors = [] → (model.symbol field.2).inlining = .byValue → after.layoutingState field.2 = .visited) := by
  unfold layoutField
  split
  · next recursive =>
      have reported : model.IsRecursive (model.layoutOwner type,field.1) :=
        ⟨type,field.2,rfl,member,recursive.1,ready.leads recursive.2⟩
      rw [if_pos (declared _ reported)]
      refine ⟨_,rfl,⟨id,Iff.rfl,⟨[_],rfl,by simpa using reported⟩,fun _ => id⟩,fun silent => ?_⟩
      cases List.append_ne_nil_of_right_ne_nil _ (List.cons_ne_nil _ _) silent
  · next other =>
      have mentioned : field.2 ∈ model.mentions type := List.mem_append_left _ (List.mem_map_of_mem member)
      obtain ⟨middle,visited,grows,known⟩ := layoutType_some fixes ready mentioned
      rw [visited]
      refine ⟨_,rfl,grows.trans (.of_same rfl rfl),fun _ byValue => ?_⟩
      exact known fun visiting => other ⟨byValue,visiting⟩

theorem layoutGenericField_some (fixes : model.Fixes fuel fix) {typeParametersMap : List (Address × Address)}
    {progress : State Address × Nat} (ready : model.Ready fuel type progress.1) {field : Nat × Address}
    (mentioned : model.effectiveType typeParametersMap field.2 ∈ model.mentions type) :
    ∃ after,model.layoutGenericField fix type typeParametersMap progress field = some after ∧
      model.Grows progress.1 after.1 := by
  obtain ⟨middle,visited,grows,_⟩ := layoutType_some fixes ready mentioned
  unfold layoutGenericField
  dsimp only
  rw [visited]
  exact ⟨_,rfl,grows.trans (.of_same rfl rfl)⟩

theorem layoutKind_some (fixes : model.Fixes fuel fix) (ready : model.Ready fuel type before) :
    ∃ after,model.layoutKind fix type before = some after ∧ model.Grows before after := by
  unfold layoutKind
  cases kind : (model.symbol type).kind with
  | declaration => exact ⟨before,rfl,.of_same rfl rfl⟩
  | typeParameter => exact ⟨before,rfl,.of_same rfl rfl⟩
  | arrayType underlayingType length =>
      have underlaying : underlayingType ∈ model.mentions type := by
        refine List.mem_append_right _ ?_
        rw [kind]
        exact List.mem_singleton_self _
      obtain ⟨middle,visited,grows,_⟩ := layoutType_some fixes ready underlaying
      exact ⟨_,congrArg (Option.map _) visited,grows.trans (.of_same rfl rfl)⟩
  | genericType underlayingType typeParametersMap =>
      have underlaying : underlayingType ∈ model.mentions type := by
        refine List.mem_append_right _ ?_
        rw [kind]
        exact List.mem_cons_self
      obtain ⟨middle,visited,grows,_⟩ := layoutType_some fixes ready underlaying
      have mentioned : ∀ field ∈ model.instanceFields underlayingType,
          model.effectiveType typeParametersMap field.2 ∈ model.mentions type := by
        intro field member
        refine List.mem_append_right _ ?_
        rw [kind]
        exact List.mem_cons_of_mem _ (List.mem_map_of_mem (f := fun field : Nat × Address =>
          model.effectiveType typeParametersMap field.2) member)
      have restarted : model.Grows before (middle.setFieldOffsets type []) := grows.trans (.of_same rfl rfl)
      obtain ⟨progress,found,further,_⟩ := exists_foldlM (model.layoutGenericField fix type typeParametersMap)
        (fun first second => model.Grows first.1 second.1) (fun progress => model.Ready fuel type progress.1)
        (fun _ _ => True) (fun _ => .of_same rfl rfl) .trans .grows (fun _ _ => trivial)
        (fun field member progress ready => by
          obtain ⟨after,placed,grows⟩ := layoutGenericField_some fixes ready (mentioned field member)
          exact ⟨after,placed,grows,trivial⟩)
        (show model.Ready fuel type (middle.setFieldOffsets type [],0).1 from ready.grows restarted)
      let size := alignUp progress.2 (model.getTypeAlignment progress.1 type)
      refine ⟨progress.1.resize type size,?_,(restarted.trans further).trans (.of_same rfl rfl)⟩
      simp only [visited,found,Option.bind_some,Option.map_some,size]

theorem fixObjectLayout_fixes (declared : model.HasNodes) : model.Fixes fuel (model.fixObjectLayout fuel) := by
  induction fuel with
  | zero =>
      intro type before _ ready
      cases ready.enough
  | succ fuel ih =>
      intro type before fresh ready
      have other : ∀ {type' state},before.layoutingState type' = state → state ≠ .unvisited → type' ≠ type := by
        rintro type' state known different rfl
        exact different (known.symm.trans fresh)
      have started : model.Ready fuel type (before.mark type .visiting) := by
        refine ⟨fun {type'} visiting => ?_,Nat.lt_of_lt_of_le (pending_mark fresh) (Nat.lt_succ_iff.mp ready.enough)⟩
        by_cases same : type' = type
        · rw [same]
        · rw [State.layoutingState_mark_of_ne same] at visiting
          exact ready.leads visiting
      obtain ⟨middle,fields,grows,done⟩ := exists_foldlM
        (model.layoutField (model.fixObjectLayout fuel) type (model.layoutOwner type)) model.Grows (model.Ready fuel type)
        (fun field state => state.errors = [] → (model.symbol field.2).inlining = .byValue →
          state.layoutingState field.2 = .visited)
        (fun _ => .of_same rfl rfl) .trans .grows
        (fun done grows silent byValue => grows.visited (done (grows.silent silent) byValue))
        (fun field member state ready => layoutField_some declared ih ready member) started
      obtain ⟨after,kind,further⟩ := layoutKind_some ih (started.grows grows)
      have whole := grows.trans further
      let size := alignUp (after.memoryBytesSize type) (model.getTypeAlignment after type)
      refine ⟨(after.resize type size).mark type .visited,?_,?_,State.layoutingState_mark_self⟩
      · unfold fixObjectLayout
        simp only [fields,kind,Option.bind_some,Option.map_some,size]
      · refine ⟨fun {type'} known => ?_,fun {type'} => ?_,whole.reported,fun silent settled type' known => ?_⟩
        · have different := other known nofun
          rw [State.layoutingState_mark_of_ne different]
          apply whole.visited
          rwa [State.layoutingState_mark_of_ne different]
        · by_cases same : type' = type
          · rw [same,State.layoutingState_mark_self,fresh]
            decide
          · have visiting : after.layoutingState type' = .visiting ↔ _ := whole.visiting
            rw [State.layoutingState_mark_of_ne same] at visiting ⊢
            exact visiting
        · have settledWithin : model.Settled after := by
            refine whole.settled silent fun type' known => ?_
            by_cases same : type' = type
            · rw [same,State.layoutingState_mark_self] at known
              cases known
            · rw [State.layoutingState_mark_of_ne same] at known
              exact settled type' known
          by_cases same : type' = type
          · -- every type that it inlines has been visited before it
            rw [same]
            refine ⟨type,fun inner inlines => settledWithin inner ?_⟩
            obtain ⟨field,member,rfl⟩ := List.mem_map.mp inlines.1
            exact further.visited (done field member (further.silent silent) inlines.2)
          · rw [State.layoutingState_mark_of_ne same] at known
            exact settledWithin type' known

def eachOther (hasNode : Bool) (first second : TypeInlining) (typeSymbols : List Bool) : SemanticModel Bool where
  symbol type := { inlining := cond type second first, fields := [{ hasNode, returnType := some !type }] }
  typeSymbols := typeSymbols
  array := false

def unlaid : State Bool := ⟨fun _ => .unvisited,fun _ => 0,fun _ => 0,fun _ _ => none,fun _ _ => 0,fun _ => [],[]⟩

/-- A structure with a reference to an object that holds it is reported or not, as the types are ordered. -/
example : ((eachOther true .byReference .byValue [false,true]).generate 3 unlaid).map State.errors = some [] ∧
    ((eachOther true .byReference .byValue [true,false]).generate 3 unlaid).map State.errors = some [(false,0)] := by decide

example : (eachOther false .byValue .byValue [false,true]).generate 3 unlaid = none := by decide

end SemanticModel

end Search

end ShardScript.Layout
