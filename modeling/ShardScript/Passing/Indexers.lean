import ShardScript.Passing.Machine

/-! The slots in which the accessors of an indexer are given the indices and the value that is assigned. -/
namespace ShardScript.Passing
open Library

structure IndexatorSymbol where
  isInstance : Bool
  parameters : Nat
  isDeclared : Bool

namespace IndexatorSymbol

def indexParameters (indexator : IndexatorSymbol) : List ParameterSymbol :=
  (List.range indexator.parameters).map .declared

def getter (indexator : IndexatorSymbol) : MethodSymbol where
  name := "index_get"
  isInstance := indexator.isInstance
  parameters := indexator.indexParameters
  returnsVoid := false

/-- In a script the index parameters come behind the one that the setter was created with. -/
def setter (indexator : IndexatorSymbol) : MethodSymbol where
  name := "index_set"
  isInstance := indexator.isInstance
  parameters := if indexator.isDeclared then .value :: indexator.indexParameters else indexator.indexParameters ++ [.value]
  returnsVoid := true

theorem length_indexParameters (indexator : IndexatorSymbol) :
    indexator.indexParameters.length = indexator.parameters := by
  rw [indexParameters,List.length_map,List.length_range]

theorem length_getter (indexator : IndexatorSymbol) : indexator.getter.parameters.length = indexator.parameters :=
  indexator.length_indexParameters

theorem length_setter (indexator : IndexatorSymbol) :
    indexator.setter.parameters.length = indexator.parameters + 1 := by
  rw [setter]
  split
  · rw [List.length_cons,length_indexParameters]
  · rw [List.length_append,length_indexParameters,List.length_singleton]

theorem thisCount_of_isInstance {indexator : IndexatorSymbol} (isInstance : indexator.isInstance = true) :
    indexator.setter.thisCount = 1 := by
  rw [MethodSymbol.thisCount,setter,if_pos isInstance]

theorem thisCount_of_isStatic {indexator : IndexatorSymbol} (isStatic : indexator.isInstance = false) :
    indexator.setter.thisCount = 0 := by
  rw [MethodSymbol.thisCount,setter,isStatic,if_neg Bool.false_ne_true]

theorem getter_ne_setter (indexator : IndexatorSymbol) : indexator.getter ≠ indexator.setter := by
  intro same
  cases congrArg MethodSymbol.returnsVoid same

end IndexatorSymbol

/-- The parameters of an accessor are numbered when its body is bound. They are the ones that the indexer has, so that
the last accessor to be bound decides. -/
def visitAccessorDeclaration (accessor : MethodSymbol) (slotIndex : ParameterSymbol → Nat) : ParameterSymbol → Nat :=
  fun parameter =>
    if parameter ∈ accessor.parameters then (accessor.thisCount + accessor.parameters.idxOf parameter) % 2 ^ 16
    else slotIndex parameter

namespace IndexatorSymbol

/-- The slots of the parameters, as the bodies of the accessors come to be emitted with them. -/
def slotIndex (indexator : IndexatorSymbol) : ParameterSymbol → Nat :=
  visitAccessorDeclaration indexator.setter (visitAccessorDeclaration indexator.getter fun _ => 0)

def Fits (indexator : IndexatorSymbol) : Prop := indexator.parameters + 1 + indexator.setter.thisCount < 2 ^ 16

theorem count_setter {indexator : IndexatorSymbol} (fits : indexator.Fits) :
    indexator.setter.getEvalStackArgumentsCount = indexator.parameters + 1 + indexator.setter.thisCount := by
  rw [(MethodSymbol.count_eq_iff _).2 (by rwa [length_setter]),length_setter]

theorem count_getter {indexator : IndexatorSymbol} (fits : indexator.Fits) :
    indexator.getter.getEvalStackArgumentsCount = indexator.parameters + indexator.setter.thisCount := by
  have less : indexator.parameters + indexator.setter.thisCount < 2 ^ 16 := by
    rw [Fits] at fits
    omega
  have count := indexator.getter.count_eq_iff.2 (show indexator.getter.parameters.length + indexator.setter.thisCount < 2 ^ 16 by
    rwa [length_getter])
  rw [← indexator.length_getter]
  exact count

theorem fits_of_none {indexator : IndexatorSymbol} (none : indexator.parameters = 0) : indexator.Fits := by
  rw [Fits,none,MethodSymbol.thisCount]
  split <;> decide

end IndexatorSymbol

section Emission

variable {Value World : Type} (body : MethodSymbol → List Value → Attempt World Value)

def visitReceiver (indexator : IndexatorSymbol) (receiver : Value) : Evaluation Value World Unit :=
  if indexator.isInstance then visitExpression receiver else pure ()

def visitIndexatorExpression (indexator : IndexatorSymbol) (receiver : Value) (indices : List Value) :
    Evaluation Value World Unit := do
  visitArgumentsList indices
  visitReceiver indexator receiver
  callMethodSymbol body indexator.getter

def visitBinaryAssignExpression (indexator : IndexatorSymbol) (receiver : Value) (indices : List Value) (right : Value) :
    Evaluation Value World Unit := do
  visitExpression right
  visitArgumentsList indices
  visitReceiver indexator receiver
  callMethodSymbol body indexator.setter

-- What an increment, or a decrement, makes of a value.
variable (change : Value → Attempt World Value)

def changeTop : Evaluation Value World Unit := do
  let value ← pop
  let changed ← onWorld (change value)
  push changed

def emitUnaryOperation (isRightDetermined : Bool) : Evaluation Value World Unit :=
  if isRightDetermined then do
    changeTop change
    duplicate
  else do
    duplicate
    changeTop change

/-- What an increment of an element begins with, once the arguments of the getter are on the stack. -/
def emitChangedElement (indexator : IndexatorSymbol) (isRightDetermined : Bool) : Evaluation Value World Unit := do
  callMethodSymbol body indexator.getter
  emitUnaryOperation change isRightDetermined

/-- What it ends with for an instance. The new value and the receiver are taken to be on top of the stack, and are put
to the two slots that were added for them. -/
def setChangedElement (indexator : IndexatorSymbol) (base : Nat) (indices : List Value) : Evaluation Value World Unit := do
  storeLocal (base + 1)
  storeLocal base
  visitArgumentsList indices
  loadLocal (base + 1)
  loadLocal base
  callMethodSymbol body indexator.setter

/-- An increment of an element, with the first of the two slots that are added for it. -/
def visitUnaryAssignExpression (indexator : IndexatorSymbol) (isRightDetermined : Bool) (base : Nat) (receiver : Value)
    (indices : List Value) : Evaluation Value World Unit :=
  if indexator.isInstance then do
    visitExpression receiver
    duplicate
    visitArgumentsList indices
    emitChangedElement body change indexator isRightDetermined
    setChangedElement body indexator base indices
  else do
    emitChangedElement body change indexator isRightDetermined
    callMethodSymbol body indexator.setter

def receiverSlots (indexator : IndexatorSymbol) (receiver : Value) : List Value :=
  if indexator.isInstance then [receiver] else []

theorem length_receiverSlots (indexator : IndexatorSymbol) (receiver : Value) :
    (receiverSlots indexator receiver).length = indexator.setter.thisCount := by
  rw [receiverSlots,MethodSymbol.thisCount,IndexatorSymbol.setter]
  split <;> rfl

theorem visitReceiver_run (indexator : IndexatorSymbol) (receiver : Value) (machine : Machine Value World) :
    visitReceiver indexator receiver machine =
      (some (),{ machine with stack := receiverSlots indexator receiver ++ machine.stack }) := by
  rw [visitReceiver,receiverSlots]
  split <;> rfl

variable {body} {machine : Machine Value World}

theorem visitIndexatorExpression_run {indexator : IndexatorSymbol} {receiver : Value} {indices : List Value}
    :
    visitIndexatorExpression body indexator receiver indices machine = callMethodSymbol body indexator.getter
      { machine with stack := receiverSlots indexator receiver ++ (indices ++ machine.stack) } := by
  rw [visitIndexatorExpression,Attempt.run_bind,visitArgumentsList_run]
  simp only [Attempt.run_bind,visitReceiver_run]

theorem visitBinaryAssignExpression_run {indexator : IndexatorSymbol} {receiver right : Value} {indices : List Value}
    :
    visitBinaryAssignExpression body indexator receiver indices right machine = callMethodSymbol body indexator.setter
      { machine with stack := receiverSlots indexator receiver ++ (indices ++ right :: machine.stack) } := by
  rw [visitBinaryAssignExpression,Attempt.run_bind]
  simp only [visitExpression,push_run,Attempt.run_bind,visitArgumentsList_run,visitReceiver_run]

variable (body) in
theorem emitChangedElement_run {indexator : IndexatorSymbol} (isRightDetermined : Bool) {slots rest : List Value}
    (machine : Machine Value World) (count : indexator.getter.getEvalStackArgumentsCount = slots.length)
    (stack : machine.stack = slots ++ rest) :
    let changed := (body indexator.getter slots >>= change) machine.world
    let pushed := machine.frames ++ [⟨indexator.getter,slots⟩]
    (changed.1 = none ∧ ∃ after, emitChangedElement body change indexator isRightDetermined machine = (none,after) ∧
        after.frames = pushed) ∨
      ∃ new kept, changed.1 = some new ∧ emitChangedElement body change indexator isRightDetermined machine =
        (some (),{ machine with stack := new :: kept :: rest, frames := pushed, world := changed.2 }) := by
  intro changed pushed
  have invoked : emitChangedElement body change indexator isRightDetermined machine =
      (invokeMethod body indexator.getter slots >>= fun _ => emitUnaryOperation change isRightDetermined)
        { machine with stack := rest } := by
    rw [emitChangedElement,Attempt.run_bind,callMethodSymbol_run body rest machine count stack]
    rfl
  rw [invoked,Attempt.run_bind,invokeMethod,if_neg (not_not.2 count),Attempt.run_bind]
  simp only [pushFrame,Attempt.run_bind,invokeMethodInternal,onWorld]
  cases got : body indexator.getter slots machine.world with
  | mk outcome between =>
    cases outcome with
    | none =>
      have whole : changed = (none,between) := by
        rw [show changed = (body indexator.getter slots >>= change) machine.world from rfl,Attempt.run_bind,got]
      exact .inl ⟨by rw [whole],_,rfl,rfl⟩
    | some old =>
      have whole : changed = change old between := by
        rw [show changed = (body indexator.getter slots >>= change) machine.world from rfl,Attempt.run_bind,got]
      cases made : change old between with
      | mk result after =>
        rw [made] at whole
        cases isRightDetermined <;> cases result <;>
          simp [whole,IndexatorSymbol.getter,emitUnaryOperation,changeTop,duplicate,pop,push,onWorld,
            Attempt.run_bind,made,pushed]

theorem setChangedElement_run {indexator : IndexatorSymbol} {base : Nat} {indices stack : List Value} {new kept : Value}
    (known : machine.stack = new :: kept :: stack) :
    setChangedElement body indexator base indices machine = callMethodSymbol body indexator.setter
      { (machine.setLocal (base + 1) new).setLocal base kept with stack := kept :: new :: (indices ++ stack) } := by
  have ne : base + 1 ≠ base := Nat.succ_ne_self base
  have stored : setChangedElement body indexator base indices machine =
      (visitArgumentsList indices >>= fun _ => do
        loadLocal (base + 1)
        loadLocal base
        callMethodSymbol body indexator.setter : Evaluation Value World Unit)
        { (machine.setLocal (base + 1) new).setLocal base kept with stack := stack } := by
    cases machine with
    | mk top locals frames world =>
      cases known
      rfl
  have first : loadLocal (base + 1) { (machine.setLocal (base + 1) new).setLocal base kept with stack := indices ++ stack } =
      push new { (machine.setLocal (base + 1) new).setLocal base kept with stack := indices ++ stack } :=
    loadLocal_run ((setLocal_locals_of_ne _ kept ne).trans (setLocal_locals machine (base + 1) new))
  have second : loadLocal base
      { (machine.setLocal (base + 1) new).setLocal base kept with stack := new :: (indices ++ stack) } =
      push kept { (machine.setLocal (base + 1) new).setLocal base kept with stack := new :: (indices ++ stack) } :=
    loadLocal_run (setLocal_locals (machine.setLocal (base + 1) new) base kept)
  rw [stored,Attempt.run_bind,visitArgumentsList_run]
  change (loadLocal (base + 1) >>= fun _ => _ : Evaluation Value World Unit)
    { (machine.setLocal (base + 1) new).setLocal base kept with stack := indices ++ stack } = _
  rw [Attempt.run_bind,first]
  change (loadLocal base >>= fun _ => _ : Evaluation Value World Unit)
    { (machine.setLocal (base + 1) new).setLocal base kept with stack := new :: (indices ++ stack) } = _
  rw [Attempt.run_bind,second]
  rfl

end Emission

inductive SetterPath where
  | assignment
  | compoundAssignment
  | step (isRightDetermined : Bool)

namespace SetterPath

def isStep : SetterPath → Bool
  | step _ => true
  | _ => false

end SetterPath

structure ElementAssignment (Value World : Type) where
  body : MethodSymbol → List Value → Attempt World Value
  change : Value → Attempt World Value
  base : Nat
  receiver : Value
  indices : List Value
  right : Value
  machine : Machine Value World

namespace ElementAssignment

variable {Value World : Type} (assignment : ElementAssignment Value World) (indexator : IndexatorSymbol)

def run : SetterPath → Option Unit × Machine Value World
  | .assignment | .compoundAssignment =>
      visitBinaryAssignExpression assignment.body indexator assignment.receiver assignment.indices assignment.right
        assignment.machine
  | .step isRightDetermined =>
      visitUnaryAssignExpression assignment.body assignment.change indexator isRightDetermined assignment.base
        assignment.receiver assignment.indices assignment.machine

def frames (path : SetterPath) : List (Frame Value) :=
  (assignment.run indexator path).2.frames.drop assignment.machine.frames.length

def assigned (path : SetterPath) : Option Value :=
  match path with
  | .assignment | .compoundAssignment => some assignment.right
  | .step _ => (assignment.frames indexator path).head?.bind fun frame =>
      ((assignment.body frame.method frame.slots >>= assignment.change) assignment.machine.world).1

def readFrames : List (Frame Value) :=
  (visitIndexatorExpression assignment.body indexator assignment.receiver assignment.indices
    assignment.machine).2.frames.drop assignment.machine.frames.length

variable {assignment indexator}

theorem frames_eq {path : SetterPath} {pushed : List (Frame Value)}
    (known : (assignment.run indexator path).2.frames = assignment.machine.frames ++ pushed) :
    assignment.frames indexator path = pushed := by
  rw [frames,known,List.drop_left]

theorem frames_assignment (well : assignment.indices.length = indexator.parameters) :
    assignment.frames indexator .assignment = [⟨indexator.setter,
      (receiverSlots indexator assignment.receiver ++ (assignment.indices ++ assignment.right :: assignment.machine.stack)).take
        indexator.setter.getEvalStackArgumentsCount⟩] := by
  apply frames_eq
  rw [run,visitBinaryAssignExpression_run]
  apply callMethodSymbol_frames
  refine Nat.le_trans indexator.setter.count_le ?_
  rw [indexator.length_setter]
  simp only [List.length_append,List.length_cons,well,length_receiverSlots]
  omega

theorem frames_assignment_fits (well : assignment.indices.length = indexator.parameters) (fits : indexator.Fits) :
    assignment.frames indexator .assignment = [⟨indexator.setter,
      receiverSlots indexator assignment.receiver ++ (assignment.indices ++ [assignment.right])⟩] := by
  have whole : receiverSlots indexator assignment.receiver ++
      (assignment.indices ++ assignment.right :: assignment.machine.stack) =
      (receiverSlots indexator assignment.receiver ++ (assignment.indices ++ [assignment.right])) ++
        assignment.machine.stack := by simp
  rw [frames_assignment well,IndexatorSymbol.count_setter fits,whole,List.take_left']
  simp only [List.length_append,List.length_singleton,well,length_receiverSlots]
  omega

theorem readFrames_fits (well : assignment.indices.length = indexator.parameters) (fits : indexator.Fits) :
    assignment.readFrames indexator = [⟨indexator.getter,
      receiverSlots indexator assignment.receiver ++ assignment.indices⟩] := by
  have count : indexator.getter.getEvalStackArgumentsCount =
      (receiverSlots indexator assignment.receiver ++ assignment.indices).length := by
    rw [IndexatorSymbol.count_getter fits,List.length_append,length_receiverSlots,well,Nat.add_comm]
  rw [readFrames,visitIndexatorExpression_run,callMethodSymbol_run assignment.body assignment.machine.stack _ count
    (List.append_assoc _ _ _).symm,invokeMethod_frames assignment.body count,List.drop_left]

theorem frames_step_instance (isInstance : indexator.isInstance = true)
    (well : assignment.indices.length = indexator.parameters) (fits : indexator.Fits) (isRightDetermined : Bool) :
    (((assignment.body indexator.getter (assignment.indices ++ [assignment.receiver]) >>= assignment.change)
          assignment.machine.world).1 = none ∧ assignment.frames indexator (.step isRightDetermined) =
        [⟨indexator.getter,assignment.indices ++ [assignment.receiver]⟩]) ∨
      ∃ new kept, ((assignment.body indexator.getter (assignment.indices ++ [assignment.receiver]) >>= assignment.change)
          assignment.machine.world).1 = some new ∧ assignment.frames indexator (.step isRightDetermined) =
        [⟨indexator.getter,assignment.indices ++ [assignment.receiver]⟩,
          ⟨indexator.setter,kept :: new :: assignment.indices⟩] := by
  have this : indexator.setter.thisCount = 1 := IndexatorSymbol.thisCount_of_isInstance isInstance
  have count : indexator.getter.getEvalStackArgumentsCount = (assignment.indices ++ [assignment.receiver]).length := by
    rw [IndexatorSymbol.count_getter fits,this,List.length_append,well]
    rfl
  have start : assignment.run indexator (.step isRightDetermined) =
      (emitChangedElement assignment.body assignment.change indexator isRightDetermined >>= fun _ =>
        setChangedElement assignment.body indexator assignment.base assignment.indices)
        { assignment.machine with
          stack := assignment.indices ++ assignment.receiver :: assignment.receiver :: assignment.machine.stack } := by
    rw [run,visitUnaryAssignExpression,if_pos isInstance,Attempt.run_bind]
    simp only [visitExpression,push_run]
    rw [Attempt.run_bind]
    change (visitArgumentsList assignment.indices >>= fun _ => _ : Evaluation Value World Unit)
      { assignment.machine with stack := assignment.receiver :: assignment.receiver :: assignment.machine.stack } = _
    rw [Attempt.run_bind,visitArgumentsList_run]
  have stack : assignment.indices ++ assignment.receiver :: assignment.receiver :: assignment.machine.stack =
      (assignment.indices ++ [assignment.receiver]) ++ assignment.receiver :: assignment.machine.stack :=
    List.append_cons _ _ _
  rcases emitChangedElement_run assignment.body assignment.change isRightDetermined
      { assignment.machine with
        stack := assignment.indices ++ assignment.receiver :: assignment.receiver :: assignment.machine.stack }
      count stack with
    ⟨fails,after,ran,pushed⟩ | ⟨new,kept,changed,ran⟩
  · refine .inl ⟨fails,frames_eq ?_⟩
    rw [start,Attempt.run_bind,ran]
    exact pushed
  · refine .inr ⟨new,kept,changed,frames_eq ?_⟩
    have count' : indexator.setter.getEvalStackArgumentsCount = (kept :: new :: assignment.indices).length := by
      rw [IndexatorSymbol.count_setter fits,this,List.length_cons,List.length_cons,well]
    rw [start,Attempt.run_bind,ran]
    simp only
    rw [setChangedElement_run rfl,
      callMethodSymbol_run assignment.body (assignment.receiver :: assignment.machine.stack) _ count' rfl,
      invokeMethod_frames assignment.body count']
    exact List.append_assoc _ _ _

theorem frames_step_static (isStatic : indexator.isInstance = false) {slots rest : List Value}
    (length : slots.length = indexator.parameters) (stack : assignment.machine.stack = slots ++ rest)
    (enough : indexator.parameters ≤ rest.length + 1) (fits : indexator.Fits) (isRightDetermined : Bool) :
    (((assignment.body indexator.getter slots >>= assignment.change) assignment.machine.world).1 = none ∧
        assignment.frames indexator (.step isRightDetermined) = [⟨indexator.getter,slots⟩]) ∨
      ∃ new kept, ((assignment.body indexator.getter slots >>= assignment.change) assignment.machine.world).1 = some new ∧
        assignment.frames indexator (.step isRightDetermined) =
          [⟨indexator.getter,slots⟩,⟨indexator.setter,new :: (kept :: rest).take indexator.parameters⟩] := by
  have this : indexator.setter.thisCount = 0 := IndexatorSymbol.thisCount_of_isStatic isStatic
  have count : indexator.getter.getEvalStackArgumentsCount = slots.length := by
    rw [IndexatorSymbol.count_getter fits,this,length,Nat.add_zero]
  have start : assignment.run indexator (.step isRightDetermined) =
      (emitChangedElement assignment.body assignment.change indexator isRightDetermined >>= fun _ =>
        callMethodSymbol assignment.body indexator.setter) assignment.machine := by
    rw [run,visitUnaryAssignExpression,isStatic,if_neg Bool.false_ne_true]
  rcases emitChangedElement_run assignment.body assignment.change isRightDetermined assignment.machine count stack with
    ⟨fails,after,ran,pushed⟩ | ⟨new,kept,changed,ran⟩
  · refine .inl ⟨fails,frames_eq ?_⟩
    rw [start,Attempt.run_bind,ran]
    exact pushed
  · refine .inr ⟨new,kept,changed,frames_eq ?_⟩
    rw [start,Attempt.run_bind,ran]
    simp only
    rw [callMethodSymbol_frames,IndexatorSymbol.count_setter fits,this]
    · exact List.append_assoc _ _ _
    · rw [IndexatorSymbol.count_setter fits,this]
      simp only [List.length_cons]
      omega

theorem frames_step_none (none : indexator.parameters = 0) (noIndex : assignment.indices = []) (isRightDetermined : Bool) :
    ∃ slots, assignment.frames indexator (.step isRightDetermined) = [⟨indexator.getter,slots⟩] ∨
      ∃ receiver new, receiver.length = indexator.setter.thisCount ∧
        ((assignment.body indexator.getter slots >>= assignment.change) assignment.machine.world).1 = some new ∧
        assignment.frames indexator (.step isRightDetermined) =
          [⟨indexator.getter,slots⟩,⟨indexator.setter,receiver ++ [new]⟩] := by
  have fits := IndexatorSymbol.fits_of_none none
  cases isInstance : indexator.isInstance with
  | true =>
    have this : indexator.setter.thisCount = 1 := IndexatorSymbol.thisCount_of_isInstance isInstance
    refine ⟨_,(frames_step_instance isInstance (by rw [noIndex,none]; rfl) fits isRightDetermined).imp And.right ?_⟩
    rintro ⟨new,kept,changed,frames⟩
    exact ⟨[kept],new,this.symm,changed,by rw [frames,noIndex]; rfl⟩
  | false =>
    have this : indexator.setter.thisCount = 0 := IndexatorSymbol.thisCount_of_isStatic isInstance
    have length : ([] : List Value).length = indexator.parameters := none.symm
    refine ⟨[],(frames_step_static isInstance length rfl (by omega) fits isRightDetermined).imp And.right ?_⟩
    rintro ⟨new,kept,changed,frames⟩
    rw [none,List.take_zero] at frames
    exact ⟨[],new,this.symm,changed,frames⟩

theorem setter_slots {path : SetterPath} (well : assignment.indices.length = indexator.parameters) (fits : indexator.Fits)
    (known : path.isStep = false ∨ indexator.parameters = 0) {frame : Frame Value}
    (among : frame ∈ assignment.frames indexator path) (isSetter : frame.method = indexator.setter) :
    ∃ receiver value, receiver.length = indexator.setter.thisCount ∧ assignment.assigned indexator path = some value ∧
      frame.slots = receiver ++ (assignment.indices ++ [value]) := by
  have assigns : frame ∈ assignment.frames indexator .assignment → ∃ receiver,
      receiver.length = indexator.setter.thisCount ∧
        frame.slots = receiver ++ (assignment.indices ++ [assignment.right]) := by
    intro among
    rw [frames_assignment_fits well fits,List.mem_singleton] at among
    exact ⟨_,length_receiverSlots indexator assignment.receiver,by rw [among]⟩
  cases path with
  | assignment | compoundAssignment =>
    obtain ⟨receiver,length,slots⟩ := assigns among
    exact ⟨receiver,assignment.right,length,rfl,slots⟩
  | step isRightDetermined =>
    have none : indexator.parameters = 0 := known.resolve_left (by simp [SetterPath.isStep])
    have noIndex := List.length_eq_zero_iff.1 (well.trans none)
    obtain ⟨slots,frames | ⟨receiver,new,length,changed,frames⟩⟩ :=
      assignment.frames_step_none none noIndex isRightDetermined
    · rw [frames,List.mem_singleton] at among
      rw [among] at isSetter
      exact absurd isSetter indexator.getter_ne_setter
    · have assigned : assignment.assigned indexator (.step isRightDetermined) = some new := by
        rw [ElementAssignment.assigned,frames]
        exact changed
      rw [frames,List.mem_pair] at among
      rcases among with rfl | rfl
      · exact absurd isSetter indexator.getter_ne_setter
      · exact ⟨receiver,new,length,assigned,by rw [noIndex]; rfl⟩

end ElementAssignment

def GetterInOrder (indexator : IndexatorSymbol) : Prop :=
  ∀ (Value World : Type) (assignment : ElementAssignment Value World),
    assignment.indices.length = indexator.parameters → ∀ frame ∈ assignment.readFrames indexator,
      frame.slots.drop indexator.setter.thisCount = assignment.indices

/-- A setter that is reached has the indices in the same slots as the getter, and the assigned value behind them. -/
def SetterInOrder (indexator : IndexatorSymbol) (path : SetterPath) : Prop :=
  ∀ (Value World : Type) (assignment : ElementAssignment Value World),
    assignment.indices.length = indexator.parameters → ∀ frame ∈ assignment.frames indexator path,
      frame.method = indexator.setter → ∃ value, assignment.assigned indexator path = some value ∧
        frame.slots.drop indexator.setter.thisCount = assignment.indices ++ [value]

def PassesInOrder (indexator : IndexatorSymbol) (path : SetterPath) : Prop :=
  GetterInOrder indexator ∧ SetterInOrder indexator .assignment ∧ SetterInOrder indexator path

/-- The body of the getter finds the indices in the slots that its parameters were given. -/
def GetterReads (indexator : IndexatorSymbol) : Prop :=
  ∀ (Value World : Type) (assignment : ElementAssignment Value World),
    assignment.indices.length = indexator.parameters → ∀ frame ∈ assignment.readFrames indexator,
      ∀ index < indexator.parameters, frame.slots[indexator.slotIndex (.declared index)]? = assignment.indices[index]?

def SetterReads (indexator : IndexatorSymbol) (path : SetterPath) : Prop :=
  ∀ (Value World : Type) (assignment : ElementAssignment Value World),
    assignment.indices.length = indexator.parameters → ∀ frame ∈ assignment.frames indexator path,
      frame.method = indexator.setter → ∃ value, assignment.assigned indexator path = some value ∧
        (∀ index < indexator.parameters,
          frame.slots[indexator.slotIndex (.declared index)]? = assignment.indices[index]?) ∧
        frame.slots[indexator.slotIndex .value]? = some value

def ParametersRead (indexator : IndexatorSymbol) (path : SetterPath) : Prop :=
  GetterReads indexator ∧ SetterReads indexator .assignment ∧ SetterReads indexator path

theorem getterInOrder_of_fits {indexator : IndexatorSymbol} (fits : indexator.Fits) : GetterInOrder indexator := by
  intro Value World assignment well frame among
  rw [ElementAssignment.readFrames_fits well fits,List.mem_singleton] at among
  rw [among]
  exact List.drop_left' (length_receiverSlots indexator assignment.receiver)

theorem setterInOrder_of_fits {indexator : IndexatorSymbol} {path : SetterPath} (fits : indexator.Fits)
    (known : path.isStep = false ∨ indexator.parameters = 0) : SetterInOrder indexator path := by
  intro Value World assignment well frame among isSetter
  obtain ⟨receiver,value,length,assigned,slots⟩ := ElementAssignment.setter_slots well fits known among isSetter
  exact ⟨value,assigned,by rw [slots,List.drop_left' length]⟩

def plainAssignment (count : Nat) : ElementAssignment Unit Unit :=
  ⟨fun _ _ => pure (),fun value => pure value,0,(),List.replicate count (),(),⟨[],fun _ => none,[],()⟩⟩

theorem fits_of_setterInOrder {indexator : IndexatorSymbol} (inOrder : SetterInOrder indexator .assignment) :
    indexator.Fits := by
  have well : (plainAssignment indexator.parameters).indices.length = indexator.parameters := List.length_replicate
  have frames := ElementAssignment.frames_assignment well
  obtain ⟨value,_,slots⟩ := inOrder Unit Unit (plainAssignment indexator.parameters) well _
    (by rw [frames]; exact List.mem_singleton_self _) rfl
  have lengths := congrArg List.length slots
  have count := indexator.setter.count_le
  rw [indexator.length_setter] at count
  rw [List.length_drop,List.length_take,List.length_append,length_receiverSlots,List.length_append,List.length_append,
    List.length_cons,well,List.length_singleton] at lengths
  have same := indexator.setter.count_eq_iff
  rw [indexator.length_setter] at same
  exact same.1 (by omega)

def assignmentOfOne (count : Nat) : ElementAssignment Nat Unit :=
  ⟨fun _ _ => pure 0,fun _ => pure 1,0,0,List.replicate count 0,1,
    ⟨List.replicate count 0 ++ List.replicate count 0,fun _ => none,[],()⟩⟩

theorem frames_assignmentOfOne {indexator : IndexatorSymbol} (fits : indexator.Fits) (isRightDetermined : Bool) :
    ∃ front slots rest, front.length = indexator.setter.thisCount ∧
      (assignmentOfOne indexator.parameters).frames indexator (.step isRightDetermined) =
        [⟨indexator.getter,slots⟩,⟨indexator.setter,front ++ 1 :: rest⟩] := by
  have well : (assignmentOfOne indexator.parameters).indices.length = indexator.parameters := List.length_replicate
  cases isInstance : indexator.isInstance with
  | true =>
    have this : indexator.setter.thisCount = 1 := IndexatorSymbol.thisCount_of_isInstance isInstance
    rcases ElementAssignment.frames_step_instance isInstance well fits isRightDetermined with
      ⟨fails,_⟩ | ⟨new,kept,changed,frames⟩
    · cases fails
    · cases changed
      exact ⟨[kept],_,_,this.symm,frames⟩
  | false =>
    have this : indexator.setter.thisCount = 0 := IndexatorSymbol.thisCount_of_isStatic isInstance
    have enough : indexator.parameters ≤ (List.replicate indexator.parameters 0).length + 1 := by
      rw [List.length_replicate]
      omega
    have stack : (assignmentOfOne indexator.parameters).machine.stack =
        (assignmentOfOne indexator.parameters).indices ++ List.replicate indexator.parameters 0 := rfl
    rcases ElementAssignment.frames_step_static isInstance well stack enough fits isRightDetermined with ⟨fails,_⟩ | ⟨new,kept,changed,frames⟩
    · cases fails
    · cases changed
      exact ⟨[],_,_,this.symm,frames⟩

theorem none_of_setterInOrder {indexator : IndexatorSymbol} {isRightDetermined : Bool} (fits : indexator.Fits)
    (inOrder : SetterInOrder indexator (.step isRightDetermined)) : indexator.parameters = 0 := by
  obtain ⟨front,slots,rest,length,frames⟩ := frames_assignmentOfOne fits isRightDetermined
  obtain ⟨value,_,drop⟩ := inOrder Nat Unit (assignmentOfOne indexator.parameters) List.length_replicate
    ⟨indexator.setter,front ++ 1 :: rest⟩ (by rw [frames]; exact .tail _ (.head _)) rfl
  change (front ++ 1 :: rest).drop _ = List.replicate indexator.parameters 0 ++ [value] at drop
  rw [List.drop_left' length] at drop
  cases count : indexator.parameters with
  | zero => rfl
  | succ count =>
    rw [count,List.replicate_succ,List.cons_append,List.cons.injEq] at drop
    exact absurd drop.1 Nat.one_ne_zero

theorem passesInOrder_iff (indexator : IndexatorSymbol) (path : SetterPath) :
    PassesInOrder indexator path ↔ (path.isStep = false ∨ indexator.parameters = 0) ∧ indexator.Fits := by
  constructor
  · rintro ⟨_,assigned,inOrder⟩
    have fits := fits_of_setterInOrder assigned
    refine ⟨?_,fits⟩
    cases path with
    | assignment | compoundAssignment => exact .inl rfl
    | step isRightDetermined => exact .inr (none_of_setterInOrder fits inOrder)
  · rintro ⟨known,fits⟩
    exact ⟨getterInOrder_of_fits fits,setterInOrder_of_fits fits (.inl rfl),setterInOrder_of_fits fits known⟩

theorem slotIndex_value {indexator : IndexatorSymbol} (isDeclared : indexator.isDeclared = true) :
    indexator.slotIndex .value = indexator.setter.thisCount := by
  have parameters : indexator.setter.parameters = .value :: indexator.indexParameters := if_pos isDeclared
  have small : indexator.setter.thisCount < 2 ^ 16 := by
    rw [MethodSymbol.thisCount]
    split <;> decide
  rw [IndexatorSymbol.slotIndex,visitAccessorDeclaration,parameters,if_pos List.mem_cons_self,List.idxOf_cons_self,
    Nat.add_zero,Nat.mod_eq_of_lt small]

theorem parametersRead_iff {indexator : IndexatorSymbol} (isDeclared : indexator.isDeclared = true) (path : SetterPath) :
    ParametersRead indexator path ↔ indexator.parameters = 0 := by
  constructor
  · rintro ⟨_,reads,_⟩
    have well : (assignmentOfOne indexator.parameters).indices.length = indexator.parameters := List.length_replicate
    obtain ⟨value,assigned,_,read⟩ := reads Nat Unit (assignmentOfOne indexator.parameters) well _
      (by rw [ElementAssignment.frames_assignment well]; exact List.mem_singleton_self _) rfl
    cases assigned
    cases count : indexator.parameters with
    | zero => rfl
    | succ count' =>
      -- The slot of the value is the one that the first index is in.
      rw [slotIndex_value isDeclared,List.getElem?_take,List.getElem?_append_right
        (Nat.le_of_eq (length_receiverSlots indexator _)),length_receiverSlots,Nat.sub_self] at read
      change (if _ then (List.replicate indexator.parameters 0 ++ _)[0]? else none) = some 1 at read
      rw [count,List.replicate_succ] at read
      split at read <;> cases read
  · intro none
    have fits := IndexatorSymbol.fits_of_none none
    have setter : ∀ path, SetterReads indexator path := by
      intro path Value World assignment well frame among isSetter
      obtain ⟨receiver,value,length,assigned,slots⟩ :=
        ElementAssignment.setter_slots well fits (.inr none) among isSetter
      refine ⟨value,assigned,fun index less => absurd less (by omega),?_⟩
      rw [slots,slotIndex_value isDeclared,List.length_eq_zero_iff.1 (well.trans none),List.nil_append,
        List.getElem?_append_right (Nat.le_of_eq length),length,Nat.sub_self]
      rfl
    refine ⟨?_,setter .assignment,setter path⟩
    intro Value World assignment well frame among index less
    omega

/-- The same index and the same value come to other slots from an increment than from an assignment. -/
theorem increment_out_of_order :
    ((assignmentOfOne 1).frames ⟨true,1,true⟩ (.step true)).getLast?.map (fun frame => frame.slots.drop 1) ≠
      ((assignmentOfOne 1).frames ⟨true,1,true⟩ .assignment).getLast?.map fun frame => frame.slots.drop 1 := by
  have fits : IndexatorSymbol.Fits ⟨true,1,true⟩ := by
    change 1 + 1 + 1 < 2 ^ 16
    omega
  have well : (assignmentOfOne 1).indices.length = (⟨true,1,true⟩ : IndexatorSymbol).parameters := rfl
  obtain ⟨front,slots,rest,length,frames⟩ := frames_assignmentOfOne fits true
  have one : front.length = 1 := length
  rw [frames,ElementAssignment.frames_assignment_fits well fits]
  change some ((front ++ 1 :: rest).drop _) ≠ some [0,1]
  rw [List.drop_left' one]
  intro same
  cases same

/-- The arguments of the accessors are in the same slots if and only if the path is no increment, or there is no index
parameter, and they can be counted. The bodies of declared ones find them there only without an index parameter. -/
theorem indexer_slots_iff (indexator : IndexatorSymbol) (path : SetterPath) :
    (PassesInOrder indexator path ↔ (path.isStep = false ∨ indexator.parameters = 0) ∧ indexator.Fits) ∧
      (indexator.isDeclared = true → (ParametersRead indexator path ↔ indexator.parameters = 0)) :=
  ⟨passesInOrder_iff indexator path,fun isDeclared => parametersRead_iff isDeclared path⟩

end ShardScript.Passing
