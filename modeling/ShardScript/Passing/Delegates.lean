import ShardScript.Passing.Machine

/-! The call of a delegate, beside the invocation of the method that it stands for. -/
namespace ShardScript.Passing
open Library

inductive DelegateExpression where
  | methodGroup (method : MethodSymbol) (static : method.isInstance = false)
  | lambda (parameters : List ParameterSymbol) (returnsVoid isAsync : Bool) (captures : List String)

inductive InstanceType where
  | delegateType (anonymousSymbol : MethodSymbol)
  | closureBox (closureMethod : MethodSymbol)
  | declared (methods : List MethodSymbol)

def InstanceType.methods : InstanceType → List MethodSymbol
  | delegateType _ => []
  | closureBox closureMethod => [closureMethod]
  | declared methods => methods

namespace DelegateExpression

def isClosure : DelegateExpression → Bool
  | methodGroup _ _ => false
  | lambda _ _ isAsync captures => !captures.isEmpty && !isAsync

/-- The `AnonymousSymbol` of the delegate's type, once the expression is bound. -/
def anonymousSymbol : DelegateExpression → MethodSymbol
  | methodGroup method _ => method
  | lambda parameters returnsVoid isAsync captures =>
      if (lambda parameters returnsVoid isAsync captures).isClosure then ⟨"Invoke",true,parameters,returnsVoid⟩
      else ⟨"",false,parameters,returnsVoid⟩

/-- The type of what `NEWDELEGATE` leaves: of the closure it found on the stack, or of the new instance. -/
def instanceType (expression : DelegateExpression) : InstanceType :=
  if expression.anonymousSymbol.isInstance then .closureBox expression.anonymousSymbol
  else .delegateType expression.anonymousSymbol

/-- What is read from a field or an element has the type that this is declared with, and not its own. -/
def typeOf (expression : DelegateExpression) (retyped : Bool) : InstanceType :=
  if retyped then .delegateType expression.anonymousSymbol else expression.instanceType

theorem isInstance_anonymousSymbol (expression : DelegateExpression) :
    expression.anonymousSymbol.isInstance = expression.isClosure := by
  cases expression with
  | methodGroup method static => exact static
  | lambda parameters returnsVoid isAsync captures =>
    rw [anonymousSymbol]
    split <;> rename_i closure
    · exact closure.symm
    · exact (Bool.eq_false_iff.2 closure).symm

end DelegateExpression

variable {Value World : Type} (body : MethodSymbol → List Value → Attempt World Value)
  -- The type of a value that is not null.
  (getInfo : Value → Option InstanceType)

def callDelegate : Evaluation Value World Unit := do
  let delegateInstance ← pop
  match getInfo delegateInstance with
  | none => fail
  | some type =>
      match type.methods with
      | [] => fail
      | target :: _ => invokeMethod body target [delegateInstance]

/-- How the delegate of a call is named. For a field of an object the object is loaded, and nothing at all for a field of
the one that the method belongs to; a variable of an enclosing method is taken for one of the method itself. -/
inductive Callee (Value : Type) where
  | toSlot (slotIndex : Nat)
  | toOuterSlot (outerSlotIndex : Nat)
  | staticField (value : Value)
  | memberField (receiver : Value)
  | implicitField

namespace Callee

def visitPreviousExpression : Callee Value → Evaluation Value World Unit
  | toSlot slotIndex | toOuterSlot slotIndex => loadLocal slotIndex
  | staticField value => push value
  | memberField receiver => push receiver
  | implicitField => pure ()

def loads (machine : Machine Value World) : Callee Value → Option Value
  | toSlot slotIndex | toOuterSlot slotIndex => machine.locals slotIndex
  | staticField value => some value
  | memberField receiver => some receiver
  | implicitField => none

end Callee

def visitInvocationExpression (callee : Callee Value) (arguments : List Value) : Evaluation Value World Unit := do
  visitArgumentsList arguments
  callee.visitPreviousExpression
  callDelegate body getInfo

def invokeDirectly (expression : DelegateExpression) (delegate : Value) (arguments : List Value) :
    Evaluation Value World Unit :=
  invokeMethod body expression.anonymousSymbol ((if expression.isClosure then [delegate] else []) ++ arguments)

def firstMethod (value : Value) : Option MethodSymbol := (getInfo value).bind fun type => type.methods.head?

section Invocation

variable {body} {machine : Machine Value World} {method method' : MethodSymbol} {slots slots' base base' : List Value}

theorem invokeMethod_pushes (count : method.getEvalStackArgumentsCount = slots.length) : ∃ (outcome : Option Unit)
    (results : List Value) (world : World), ∀ base, invokeMethod body method slots { machine with stack := base } =
      (outcome,⟨results ++ base,machine.locals,machine.frames ++ [⟨method,slots⟩],world⟩) := by
  cases run : body method slots machine.world with
  | mk result world =>
    cases result with
    | none =>
      refine ⟨none,[],world,fun base => ?_⟩
      rw [invokeMethod,if_neg (not_not.2 count),Attempt.run_bind]
      simp only [pushFrame,Attempt.run_bind,invokeMethodInternal,onWorld,run,List.nil_append]
    | some result =>
      refine ⟨some (),if method.returnsVoid then [] else [result],world,fun base => ?_⟩
      rw [invokeMethod,if_neg (not_not.2 count),Attempt.run_bind]
      simp only [pushFrame,Attempt.run_bind,invokeMethodInternal,onWorld,run]
      cases method.returnsVoid with
      | true => rfl
      | false => rfl

theorem invokeMethod_inj (count : method'.getEvalStackArgumentsCount = slots'.length)
    (same : invokeMethod body method slots { machine with stack := base } =
      invokeMethod body method' slots' { machine with stack := base' }) : method = method' ∧ slots = slots' ∧ base = base' := by
  obtain ⟨outcome',results',world',ran'⟩ := @invokeMethod_pushes _ _ body machine _ _ count
  rw [ran'] at same
  by_cases count' : method.getEvalStackArgumentsCount = slots.length
  · obtain ⟨outcome,results,world,ran⟩ := @invokeMethod_pushes _ _ body machine _ _ count'
    rw [ran] at same
    have frames := List.append_cancel_left (congrArg (fun outcome => outcome.2.frames) same)
    cases frames
    refine ⟨rfl,rfl,?_⟩
    have unique := (ran []).symm.trans (ran' [])
    have results' : results ++ [] = results' ++ [] := congrArg (fun outcome => outcome.2.stack) unique
    rw [List.append_nil,List.append_nil] at results'
    subst results'
    exact List.append_cancel_left (congrArg (fun outcome => outcome.2.stack) same)
  · rw [invokeMethod_mismatch body count'] at same
    have frames := congrArg (fun outcome => outcome.2.frames.length) same
    dsimp only at frames
    rw [List.length_append,List.length_singleton] at frames
    omega

theorem callDelegate_run (value : Value) (base : List Value) :
    callDelegate body getInfo { machine with stack := value :: base } =
      match firstMethod getInfo value with
      | none => (none,{ machine with stack := base })
      | some target => invokeMethod body target [value] { machine with stack := base } := by
  rw [callDelegate,Attempt.run_bind,firstMethod]
  simp only [pop]
  cases getInfo value with
  | none => rfl
  | some type =>
    rw [Option.bind_some]
    dsimp only
    cases type.methods with
    | nil => rfl
    | cons target rest => rfl

end Invocation

/-- What comes of the call: it fails, or the first method of the type of what is popped is invoked with that. -/
inductive Calls (machine : Machine Value World) (callee : Callee Value) (arguments : List Value) :
    Option Unit × Machine Value World → Prop where
  | fails {base : List Value} (fewer : (arguments ++ machine.stack).length ≤ base.length + 1) :
      Calls machine callee arguments (none,{ machine with stack := base })
  | loaded {value : Value} {target : MethodSymbol} (loads : callee.loads machine = some value)
      (first : firstMethod getInfo value = some target) :
      Calls machine callee arguments
        (invokeMethod body target [value] { machine with stack := arguments ++ machine.stack })
  | left {value : Value} {target : MethodSymbol} {base : List Value} (implicit : callee = .implicitField)
      (left : arguments ++ machine.stack = value :: base) (first : firstMethod getInfo value = some target) :
      Calls machine callee arguments (invokeMethod body target [value] { machine with stack := base })
variable {body getInfo} {expression : DelegateExpression} {delegate : Value} {machine : Machine Value World}
  {callee : Callee Value} {arguments : List Value}

theorem calls_loaded {value : Value} (loads : callee.loads machine = some value)
    (loaded : callee.visitPreviousExpression { machine with stack := arguments ++ machine.stack } =
      (some (),{ machine with stack := value :: (arguments ++ machine.stack) })) :
    Calls body getInfo machine callee arguments
      (visitInvocationExpression body getInfo callee arguments machine) := by
  rw [visitInvocationExpression,Attempt.run_bind,visitArgumentsList_run]
  simp only [Attempt.run_bind,loaded]
  rw [callDelegate_run]
  cases first : firstMethod getInfo value with
  | none => exact .fails (Nat.le_succ _)
  | some target => exact .loaded loads first

theorem visitInvocationExpression_calls (callee : Callee Value) (arguments : List Value) (machine : Machine Value World) :
    Calls body getInfo machine callee arguments
      (visitInvocationExpression body getInfo callee arguments machine) := by
  have slot : ∀ slotIndex,callee = .toSlot slotIndex ∨ callee = .toOuterSlot slotIndex →
      Calls body getInfo machine callee arguments
        (visitInvocationExpression body getInfo callee arguments machine) := by
    intro slotIndex forms
    have loads : callee.loads machine = machine.locals slotIndex := by rcases forms with rfl | rfl <;> rfl
    have code : (callee.visitPreviousExpression : Evaluation Value World Unit) = loadLocal slotIndex := by rcases forms with rfl | rfl <;> rfl
    cases known : machine.locals slotIndex with
    | some value =>
      refine calls_loaded (loads.trans known) ?_
      rw [code]
      exact loadLocal_run known
    | none =>
      rw [visitInvocationExpression,Attempt.run_bind,visitArgumentsList_run]
      simp only [Attempt.run_bind,code,loadLocal,known]
      exact .fails (Nat.le_succ _)
  cases callee with
  | toSlot slotIndex => exact slot slotIndex (.inl rfl)
  | toOuterSlot slotIndex => exact slot slotIndex (.inr rfl)
  | staticField value => exact calls_loaded rfl rfl
  | memberField receiver => exact calls_loaded rfl rfl
  | implicitField =>
    rw [visitInvocationExpression,Attempt.run_bind,visitArgumentsList_run]
    change Calls body getInfo machine .implicitField arguments
      (callDelegate body getInfo { machine with stack := arguments ++ machine.stack })
    cases stack : arguments ++ machine.stack with
    | nil =>
      refine .fails ?_
      rw [stack]
      exact Nat.zero_le _
    | cons value base =>
      rw [callDelegate_run]
      cases first : firstMethod getInfo value with
      | none =>
        refine .fails ?_
        rw [stack]
        exact Nat.le_refl _
      | some target => exact .left rfl stack first

def directSlots (expression : DelegateExpression) (delegate : Value) (arguments : List Value) : List Value :=
  (if expression.isClosure then [delegate] else []) ++ arguments

theorem length_directSlots (typed : arguments.length = expression.anonymousSymbol.parameters.length) :
    (directSlots expression delegate arguments).length =
      expression.anonymousSymbol.parameters.length + expression.anonymousSymbol.thisCount := by
  rw [directSlots,List.length_append,typed,MethodSymbol.thisCount,expression.isInstance_anonymousSymbol,Nat.add_comm]
  cases expression.isClosure <;> rfl

/-- What pushes the frame of the direct invocation and leaves the stack of it has popped what that is invoked with. -/
theorem slots_of_calls (count : expression.anonymousSymbol.getEvalStackArgumentsCount =
      (directSlots expression delegate arguments).length)
    (same : visitInvocationExpression body getInfo callee arguments machine =
      invokeDirectly body expression delegate arguments machine) : ∃ value,
    firstMethod getInfo value = some expression.anonymousSymbol ∧ directSlots expression delegate arguments = [value] ∧
      (callee.loads machine = some value ∧ arguments = [] ∨ callee = .implicitField ∧ arguments = [value]) := by
  have direct : invokeDirectly body expression delegate arguments machine = invokeMethod body expression.anonymousSymbol
      (directSlots expression delegate arguments) { machine with stack := machine.stack } := rfl
  have calls := @visitInvocationExpression_calls _ _ body getInfo callee arguments machine
  rw [same,direct] at calls
  generalize ran : invokeMethod body expression.anonymousSymbol (directSlots expression delegate arguments)
    { machine with stack := machine.stack } = outcome at calls
  cases calls with
  | fails fewer =>
    have frames := congrArg (fun outcome => outcome.2.frames.length) ran
    rw [invokeMethod_frames body count,List.length_append,List.length_singleton] at frames
    simp at frames
  | @loaded value target loads first =>
    obtain ⟨rfl,slots,base⟩ := invokeMethod_inj count ran.symm
    exact ⟨value,first,slots.symm,.inl ⟨loads,List.append_left_eq_self.1 base⟩⟩
  | @left value target base implicit left first =>
    obtain ⟨rfl,slots,rfl⟩ := invokeMethod_inj count ran.symm
    exact ⟨value,first,slots.symm,.inr ⟨implicit,List.append_cancel_right (left.trans (List.singleton_append).symm)⟩⟩

theorem calls_ne_mismatch (mismatch : expression.anonymousSymbol.getEvalStackArgumentsCount ≠
      (directSlots expression delegate arguments).length)
    (typed : arguments.length = expression.anonymousSymbol.parameters.length) :
    visitInvocationExpression body getInfo callee arguments machine ≠
      invokeDirectly body expression delegate arguments machine := by
  intro same
  have many : 1 < arguments.length := by
    rw [length_directSlots typed,Ne,MethodSymbol.count_eq_iff,Nat.not_lt,MethodSymbol.thisCount] at mismatch
    split at mismatch <;> omega
  have direct : invokeDirectly body expression delegate arguments machine = (none,machine) :=
    invokeMethod_mismatch body mismatch machine
  have calls := @visitInvocationExpression_calls _ _ body getInfo callee arguments machine
  rw [same,direct] at calls
  have lost : ∀ {base : List Value},(arguments ++ machine.stack).length ≤ base.length + 1 → machine.stack ≠ base := by
    rintro base fewer rfl
    rw [List.length_append] at fewer
    omega
  have invoked : ∀ {target : MethodSymbol} {value : Value} {base : List Value},
      (arguments ++ machine.stack).length ≤ base.length + 1 →
      (none,machine) ≠ invokeMethod body target [value] { machine with stack := base } := by
    intro target value base fewer same
    by_cases count : target.getEvalStackArgumentsCount = [value].length
    · have frames := congrArg (fun outcome => outcome.2.frames.length) same
      rw [invokeMethod_frames body count,List.length_append,List.length_singleton] at frames
      simp at frames
    · rw [invokeMethod_mismatch body count] at same
      exact lost fewer (congrArg (fun outcome => outcome.2.stack) same)
  generalize ran : ((none : Option Unit),machine) = outcome at calls
  cases calls with
  | fails fewer => exact lost fewer (congrArg (fun outcome => outcome.2.stack) ran)
  | loaded loads first => exact invoked (Nat.le_succ _) ran
  | left implicit left first => exact invoked (Nat.le_of_eq (congrArg List.length left)) ran

variable (body getInfo) (expression delegate)

/-- The call of a delegate is the invocation of its method if and only if that is the one of a closure that is loaded as it
was made, and there are no arguments; or if nothing is loaded and the only argument happens to stand for the delegate. -/
theorem delegate_call_direct_iff (callee : Callee Value) (retyped : Bool)
    (created : getInfo delegate = some (expression.typeOf retyped)) (arguments : List Value)
    (typed : arguments.length = expression.anonymousSymbol.parameters.length) (machine : Machine Value World) :
    visitInvocationExpression body getInfo callee arguments machine =
        invokeDirectly body expression delegate arguments machine ↔
      (expression.isClosure = true ∧ arguments = [] ∧ retyped = false ∧ callee.loads machine = some delegate) ∨
        callee = .implicitField ∧ expression.isClosure = false ∧
          ∃ argument,arguments = [argument] ∧ firstMethod getInfo argument = some expression.anonymousSymbol := by
  constructor
  · intro same
    by_cases count : expression.anonymousSymbol.getEvalStackArgumentsCount =
        (directSlots expression delegate arguments).length
    · obtain ⟨value,first,slots,⟨loads,none⟩ | ⟨implicit,one⟩⟩ := slots_of_calls count same
      · rw [none,directSlots,List.append_nil] at slots
        cases closure : expression.isClosure with
        | false =>
          rw [closure] at slots
          cases slots
        | true =>
          rw [closure] at slots
          cases slots
          refine .inl ⟨rfl,none,?_,loads⟩
          rw [firstMethod,created,DelegateExpression.typeOf] at first
          cases retyped with
          | false => rfl
          | true => cases first
      · refine .inr ⟨implicit,?_,value,one,first⟩
        cases closure : expression.isClosure with
        | false => rfl
        | true =>
          rw [directSlots,closure,one] at slots
          cases slots
    · exact absurd same (calls_ne_mismatch count typed)
  · rintro (⟨closure,rfl,rfl,loads⟩ | ⟨rfl,plain,argument,rfl,first⟩)
    · have loaded : callee.visitPreviousExpression machine =
          (some (),{ machine with stack := delegate :: machine.stack }) := by
        cases callee with
        | toSlot slotIndex => exact loadLocal_run loads
        | toOuterSlot slotIndex => exact loadLocal_run loads
        | staticField value =>
          cases loads
          rfl
        | memberField receiver =>
          cases loads
          rfl
        | implicitField => cases loads
      have first : firstMethod getInfo delegate = some expression.anonymousSymbol := by
        rw [firstMethod,created,DelegateExpression.typeOf,DelegateExpression.instanceType,
          expression.isInstance_anonymousSymbol,closure]
        rfl
      have arguments' : (visitArgumentsList [] : Evaluation Value World Unit) machine = (some (),machine) := rfl
      rw [visitInvocationExpression,Attempt.run_bind,arguments']
      simp only [Attempt.run_bind,loaded]
      rw [callDelegate_run,first,invokeDirectly,closure]
      rfl
    · rw [visitInvocationExpression,Attempt.run_bind,visitArgumentsList_run]
      change callDelegate body getInfo { machine with stack := argument :: machine.stack } = _
      rw [callDelegate_run,first,invokeDirectly,plain]
      rfl

def addOffset : DelegateExpression := .lambda [.declared 0] false false ["offset"]

def holding : Machine Nat Unit := ⟨[],fun slot => if slot = 0 then some 0 else none,[],()⟩

/-- The call of it with a seven does not come to its body. -/
theorem argument_not_passed :
    visitInvocationExpression (fun _ slots => (pure slots.length : Attempt Unit Nat))
        (fun _ => some addOffset.instanceType) (.toSlot 0) [7] holding ≠
      invokeDirectly (fun _ slots => (pure slots.length : Attempt Unit Nat)) addOffset 0 [7] holding := by
  intro same
  have frames := congrArg (fun outcome => outcome.2.frames.length) same
  revert frames
  decide

def hello : DelegateExpression := .lambda [] true false ["name"]

theorem delegate_call_direct_hello :
    visitInvocationExpression (fun _ slots => (pure slots.length : Attempt Unit Nat))
        (fun _ => some hello.instanceType) (.toSlot 0) [] holding =
      invokeDirectly (fun _ slots => (pure slots.length : Attempt Unit Nat)) hello 0 [] holding ↔
      (hello.isClosure = true ∧ ([] : List Nat) = [] ∧ false = false ∧ (Callee.toSlot 0).loads holding = some 0) ∨
        (Callee.toSlot 0 : Callee Nat) = .implicitField ∧ hello.isClosure = false ∧ ∃ argument,([] : List Nat) = [argument] ∧
          firstMethod (fun _ => some hello.instanceType) argument = some hello.anonymousSymbol :=
  delegate_call_direct_iff (fun _ slots => (pure slots.length : Attempt Unit Nat))
    (fun _ => some hello.instanceType) hello 0 (.toSlot 0) false rfl [] rfl holding

end ShardScript.Passing
