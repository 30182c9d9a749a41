import ShardScript.Calls.CallStack

/-! When the invocations of methods leave the call stack as it was. -/
namespace ShardScript.Calls

section Conditions

def Restores (before : VirtualMachine) (result : Outcome × VirtualMachine) : Prop :=
  result.2.callStack = before.callStack ∧ (result.1 ≠ .completed → result.2.pendingTypeArguments = [])

inductive Ending where
  | completed
  | failed (point : Failing)
  | thrown (isStandard : Bool)
  deriving DecidableEq

namespace Ending

def outcome : Ending → Outcome
  | completed => .completed
  | failed _ => .thrown true
  | thrown isStandard => .thrown isStandard

end Ending

def runsBody : Option Failing → Bool
  | some .beforeFrame | some .atFrame | some .beforeBody => false
  | _ => true

def ending (call : Call) (fails : Option Failing) (body : Outcome) : Ending :=
  match fails with
  | some .beforeFrame => .failed .beforeFrame
  | some .atFrame => .failed .atFrame
  | some .beforeBody => .failed .beforeBody
  | fails =>
    match body with
    | .thrown isStandard =>
        if call.method.isExternal && isStandard then fails.elim .completed .failed else .thrown isStandard
    | .completed => fails.elim .completed .failed

def Entry.keepsStack (isCalling : Bool) : Entry → Ending → Bool
  | _,.completed | _,.failed .beforeFrame => true
  | .invokeMethod,.failed .atFrame | .instantiateObject _,.failed .atFrame => true
  | .tryInvokeMethod _,.failed .atFrame => !isCalling
  | .instantiateObject _,.failed .atResult => true
  | .invokeMethod,.failed .atResult | .tryInvokeMethod _,.failed .atResult => false
  | .tryInvokeMethod _,.failed .beforeBody | .tryInvokeMethod _,.failed .behindBody | .tryInvokeMethod _,.thrown _ => true
  | _,_ => false

def Entry.setsPending : Entry → Bool
  | .tryInvokeMethod typeArguments => !typeArguments.isEmpty
  | _ => false

def invocationPends (call : Call) (fails : Option Failing) (isPending behindBody : Bool) : Bool :=
  match fails with
  | some .beforeFrame => isPending
  | some .atFrame => isPending || call.entry.setsPending
  | some .beforeBody => false
  | _ => behindBody

namespace Activity

@[grind] def outcome : Activity → Outcome
  | done => .completed
  | throws isStandard => .thrown isStandard
  | loadTypeArgument _ _ rest => rest.outcome
  | invoke call fails body rest =>
      match (ending call fails body.outcome).outcome with
      | .completed => rest.outcome
      | .thrown isStandard => .thrown isStandard
  | attempt _ rest => rest.outcome

@[grind] def pends : Activity → (isPending : Bool) → Bool
  | done,isPending | throws _,isPending => isPending
  | loadTypeArgument _ _ rest,_ => rest.pends true
  | invoke call fails body rest,isPending =>
      let behind := invocationPends call fails isPending (body.pends false)
      if (ending call fails body.outcome).outcome = .completed then rest.pends behind else behind
  | attempt body rest,isPending => rest.pends (body.pends isPending)

@[grind] def isCareful : Activity → (isPending isCalling : Bool) → Bool
  | done,_,_ | throws _,_,_ => true
  | loadTypeArgument _ _ rest,_,isCalling => rest.isCareful true isCalling
  | invoke call fails body rest,isPending,isCalling =>
      let ending := ending call fails body.outcome
      let behind := invocationPends call fails isPending (body.pends false)
      (call.entry.keepsStack isCalling ending && (ending.outcome == .completed || !behind)) &&
        ((!runsBody fails || body.isCareful false true) &&
          (ending.outcome != .completed || rest.isCareful behind isCalling))
  | attempt body rest,isPending,isCalling => body.isCareful isPending isCalling && rest.isCareful (body.pends isPending) isCalling

end Activity

end Conditions

section Invocations

@[grind] def Activity.Restored : Activity → VirtualMachine → Prop
  | .done,_ | .throws _,_ => True
  | .loadTypeArgument index type rest,machine => rest.Restored (machine.loadTypeArgument index type)
  | .invoke call fails body rest,machine =>
      Restores machine (Calls.invoke call fails body.perform machine) ∧
        (runsBody fails = true → body.Restored (entered call machine)) ∧
        ((Calls.invoke call fails body.perform machine).1 = .completed →
          rest.Restored (Calls.invoke call fails body.perform machine).2)
  | .attempt body rest,machine => body.Restored machine ∧ rest.Restored (body.perform machine).2

def VirtualMachine.isPending (machine : VirtualMachine) : Bool := !machine.pendingTypeArguments.isEmpty

def VirtualMachine.isCalling (machine : VirtualMachine) : Bool := !machine.callStack.isEmpty

namespace VirtualMachine

@[simp] theorem isPending_popFrame (machine : VirtualMachine) : machine.popFrame.isPending = machine.isPending := rfl

@[simp] theorem isPending_adoptTypeArguments (arguments : List TypeSymbol) (machine : VirtualMachine) :
    (machine.adoptTypeArguments arguments).isPending = machine.isPending := by
  rw [isPending,pending_adoptTypeArguments,isPending]

@[simp] theorem isPending_resolvePendingTypeArguments (machine : VirtualMachine) :
    machine.resolvePendingTypeArguments.isPending = machine.isPending := by
  simp [isPending,resolvePendingTypeArguments]

theorem isPending_loadTypeArgument (index : Nat) (type : TypeSymbol) (machine : VirtualMachine) :
    (machine.loadTypeArgument index type).isPending = true := by
  rw [isPending,Bool.not_eq_true',List.isEmpty_eq_false_iff]
  intro none
  have length := congrArg List.length none
  simp only [loadTypeArgument,List.length_set,List.length_append,List.length_replicate,List.length_nil] at length
  omega

theorem isCalling_adoptTypeArguments (arguments : List TypeSymbol) (machine : VirtualMachine) :
    (machine.adoptTypeArguments arguments).isCalling = machine.isCalling := by
  unfold adoptTypeArguments
  split
  · rename_i frame frames stack
    split
    · rw [isCalling,isCalling,stack]
      rfl
    · rfl
  · rfl

end VirtualMachine

open VirtualMachine

theorem entered_isCalling (call : Call) (machine : VirtualMachine) : (entered call machine).isCalling = true := by
  rw [entered,isCalling_adoptTypeArguments]
  split
  · rfl
  · rw [isCalling_adoptTypeArguments]
    rfl
  · rfl

theorem entered_isPending (call : Call) (machine : VirtualMachine) : (entered call machine).isPending = false := by
  rw [isPending,entered_pending]
  rfl

variable (call : Call) (fails : Option Failing) (body : VirtualMachine → Outcome × VirtualMachine) (machine : VirtualMachine)

/-- A result that is not taken is no matter of `InvokeMethodInternal`. -/
def Ending.internal : Ending → Outcome
  | .failed .atResult => .completed
  | ending => ending.outcome

theorem runsBody_cases (runs : runsBody fails = true) : fails = none ∨ fails = some .behindBody ∨ fails = some .atResult := by
  cases fails with
  | none => exact .inl rfl
  | some point =>
    cases point with
    | behindBody => exact .inr (.inl rfl)
    | atResult => exact .inr (.inr rfl)
    | beforeFrame | atFrame | beforeBody => cases runs

theorem invokeMethodInternal_eq (runs : runsBody fails = true) :
    invokeMethodInternal call fails body machine =
      ((ending call fails (body (machine.adoptTypeArguments call.thisGenericArguments)).1).internal,
        (body (machine.adoptTypeArguments call.thisGenericArguments)).2) := by
  unfold invokeMethodInternal
  obtain ⟨outcome,after⟩ := body (machine.adoptTypeArguments call.thisGenericArguments)
  cases outcome with
  | completed =>
    rcases runsBody_cases fails runs with rfl | rfl | rfl
    · rfl
    · rfl
    · rfl
  | thrown isStandard =>
    cases caught : call.method.isExternal && isStandard
    · rcases runsBody_cases fails runs with rfl | rfl | rfl
      · simp [ending,caught,Ending.internal,Ending.outcome]
      · simp [ending,caught,Ending.internal,Ending.outcome]
      · simp [ending,caught,Ending.internal,Ending.outcome]
    · rcases runsBody_cases fails runs with rfl | rfl | rfl
      · simp [ending,caught,Ending.internal,Ending.outcome]
      · simp [ending,caught,Ending.internal,Ending.outcome]
      · simp [ending,caught,Ending.internal]

theorem ending_cases (runs : runsBody fails = true) (outcome : Outcome) :
    (fails = none ∧ ending call fails outcome = .completed) ∨
      (∃ isStandard, ending call fails outcome = .thrown isStandard) ∨
      (fails = some .behindBody ∧ ending call fails outcome = .failed .behindBody) ∨
      (fails = some .atResult ∧ ending call fails outcome = .failed .atResult) := by
  have completes : (fails = none ∧ (Option.elim fails .completed .failed : Ending) = .completed) ∨
      (fails = some .behindBody ∧ (Option.elim fails .completed .failed : Ending) = .failed .behindBody) ∨
      (fails = some .atResult ∧ (Option.elim fails .completed .failed : Ending) = .failed .atResult) :=
    (runsBody_cases fails runs).imp (fun same => ⟨same,by rw [same]; rfl⟩)
      (Or.imp (fun same => ⟨same,by rw [same]; rfl⟩) fun same => ⟨same,by rw [same]; rfl⟩)
  have known : ending call fails outcome = (match outcome with
      | .thrown isStandard =>
          if call.method.isExternal && isStandard then fails.elim .completed .failed else .thrown isStandard
      | .completed => fails.elim .completed .failed) := by
    rcases runsBody_cases fails runs with rfl | rfl | rfl
    · rfl
    · rfl
    · rfl
  rw [known]
  cases outcome with
  | completed => exact completes.imp_right .inr
  | thrown isStandard =>
    simp only
    split
    · exact completes.imp_right .inr
    · exact .inr (.inl ⟨_,rfl⟩)

theorem invoke_eq (runs : runsBody fails = true) :
    invoke call fails body machine =
      ((ending call fails (body (entered call machine)).1).outcome,
        if call.entry.keepsStack machine.isCalling (ending call fails (body (entered call machine)).1) then
          (body (entered call machine)).2.popFrame
        else (body (entered call machine)).2) := by
  have found : fails ≠ some .beforeFrame := by
    rintro rfl
    cases runs
  have created : fails ≠ some .atFrame := by
    rintro rfl
    cases runs
  obtain ⟨entry,method,arguments⟩ := call
  have cases := ending_cases ⟨entry,method,arguments⟩ fails runs
  cases entry with
  | invokeMethod =>
    rw [invoke,invokeMethod,if_neg (not_or.2 ⟨found,created⟩),invokeMethodInternal_eq _ _ _ _ runs,entered]
    generalize body _ = result
    rcases cases result.1 with ⟨rfl,same⟩ | ⟨isStandard,same⟩ | ⟨rfl,same⟩ | ⟨rfl,same⟩
    all_goals
      rw [same]
      rfl
  | instantiateObject type =>
    unfold invoke instantiateObject entered
    simp only [if_neg found,if_neg created,invokeMethodInternal_eq _ _ _ _ runs]
    generalize body _ = result
    rcases cases result.1 with ⟨rfl,same⟩ | ⟨isStandard,same⟩ | ⟨rfl,same⟩ | ⟨rfl,same⟩
    all_goals
      rw [same]
      rfl
  | tryInvokeMethod typeArguments =>
    unfold invoke tryInvokeMethod entered
    simp only [if_neg found,if_neg created,invokeMethodInternal_eq _ _ _ _ runs]
    generalize body _ = result
    rcases cases result.1 with ⟨rfl,same⟩ | ⟨isStandard,same⟩ | ⟨rfl,same⟩ | ⟨rfl,same⟩
    all_goals
      rw [same]
      rfl

theorem tail_eq_self_iff {α : Type} (list : List α) : list.tail = list ↔ list = [] := by
  cases list with
  | nil => exact ⟨fun _ => rfl,fun _ => rfl⟩
  | cons first rest => exact ⟨fun same => absurd same.symm (List.cons_ne_self _ _),fun none => nomatch none⟩

theorem ne_of_pushed {machine after : VirtualMachine} (tail : after.callStack.tail = machine.callStack)
    (calling : after.isCalling = true) : after.callStack ≠ machine.callStack := by
  intro same
  have none := (tail_eq_self_iff _).1 (tail.trans same.symm)
  rw [isCalling,none] at calling
  cases calling

theorem invoke_ends (kept : runsBody fails = true →
      (body (entered call machine)).2.callStack = (entered call machine).callStack) :
    (invoke call fails body machine).1 = (ending call fails (body (entered call machine)).1).outcome ∧
    ((invoke call fails body machine).2.callStack = machine.callStack ↔
      call.entry.keepsStack machine.isCalling (ending call fails (body (entered call machine)).1) = true) ∧
    (invoke call fails body machine).2.isPending =
      invocationPends call fails machine.isPending (body (entered call machine)).2.isPending := by
  cases runs : runsBody fails with
  | true =>
    replace kept := kept runs
    rw [invoke_eq call fails body machine runs]
    refine ⟨rfl,?_,?_⟩
    · split
      · rename_i pops
        rw [popFrame,kept,entered_tail]
        exact ⟨fun _ => pops,fun _ => rfl⟩
      · rename_i stays
        rw [kept]
        exact ⟨fun same => absurd same (ne_of_pushed (entered_tail call machine) (entered_isCalling call machine)),fun pops => absurd pops stays⟩
    · rcases runsBody_cases fails runs with rfl | rfl | rfl
      all_goals
        split
        · rfl
        · rfl
  | false =>
    obtain ⟨entry,method,arguments⟩ := call
    cases fails with
    | none => cases runs
    | some point =>
      cases point with
      | behindBody | atResult => cases runs
      | beforeFrame =>
        cases entry with
        | invokeMethod | instantiateObject | tryInvokeMethod => exact ⟨rfl,⟨fun _ => rfl,fun _ => rfl⟩,rfl⟩
      | atFrame =>
        cases entry with
        | invokeMethod => exact ⟨rfl,⟨fun _ => rfl,fun _ => rfl⟩,(Bool.or_false _).symm⟩
        | instantiateObject =>
          refine ⟨rfl,⟨fun _ => rfl,fun _ => rfl⟩,?_⟩
          exact (isPending_resolvePendingTypeArguments machine).trans (Bool.or_false _).symm
        | tryInvokeMethod typeArguments =>
          -- The frame of the caller is popped.
          have popped : (invoke ⟨.tryInvokeMethod typeArguments,method,arguments⟩ (some .atFrame) body machine).2 =
              (if typeArguments = [] then machine else machine.setPendingTypeArguments typeArguments).popFrame := rfl
          refine ⟨rfl,?_,?_⟩
          · have tail : (invoke ⟨.tryInvokeMethod typeArguments,method,arguments⟩ (some .atFrame) body
                machine).2.callStack = machine.callStack.tail := by
              rw [popped]
              split
              · rfl
              · rfl
            rw [tail,tail_eq_self_iff,← List.isEmpty_iff,← Bool.not_not machine.callStack.isEmpty]
            rfl
          · rw [popped,isPending_popFrame]
            cases typeArguments with
            | nil => exact (Bool.or_false _).symm
            | cons first rest => exact (Bool.or_true _).symm
      | beforeBody =>
        cases entry with
        | invokeMethod =>
          refine ⟨rfl,⟨fun same => absurd same (List.cons_ne_self _ _),fun keeps => nomatch keeps⟩,rfl⟩
        | instantiateObject type =>
          refine ⟨rfl,⟨fun same => ?_,fun keeps => nomatch keeps⟩,?_⟩
          · refine absurd same (ne_of_pushed ((tail_adoptTypeArguments _ _).trans rfl) ?_)
            exact isCalling_adoptTypeArguments _ _
          · exact isPending_adoptTypeArguments _ _
        | tryInvokeMethod typeArguments =>
          refine ⟨rfl,⟨fun _ => rfl,fun _ => ?_⟩,rfl⟩
          show (if typeArguments = [] then machine else machine.setPendingTypeArguments typeArguments).callStack = _
          split
          · rfl
          · rfl

theorem ending_congr {outcome outcome' : Outcome} (same : runsBody fails = true → outcome = outcome') :
    ending call fails outcome = ending call fails outcome' := by
  cases runs : runsBody fails with
  | true => rw [same runs]
  | false =>
    cases fails with
    | none => cases runs
    | some point => cases point <;> first | rfl | cases runs

theorem invocationPends_congr (isPending : Bool) {behind behind' : Bool} (same : runsBody fails = true → behind = behind') :
    invocationPends call fails isPending behind = invocationPends call fails isPending behind' := by
  cases runs : runsBody fails with
  | true => rw [same runs]
  | false =>
    cases fails with
    | none => cases runs
    | some point => cases point <;> first | rfl | cases runs

def Activity.Ends (activity : Activity) (machine : VirtualMachine) : Prop :=
  (activity.perform machine).1 = activity.outcome ∧
    (activity.perform machine).2.callStack = machine.callStack ∧
    (activity.perform machine).2.isPending = activity.pends machine.isPending

theorem invocation_ends (body : Activity) (inner : runsBody fails = true → body.Ends (entered call machine)) :
    (invoke call fails body.perform machine).1 = (ending call fails body.outcome).outcome ∧
    ((invoke call fails body.perform machine).2.callStack = machine.callStack ↔
      call.entry.keepsStack machine.isCalling (ending call fails body.outcome) = true) ∧
    (invoke call fails body.perform machine).2.isPending =
      invocationPends call fails machine.isPending (body.pends false) := by
  obtain ⟨outcome,stack,pending⟩ := invoke_ends call fails body.perform machine fun runs => (inner runs).2.1
  have same := ending_congr call fails fun runs => (inner runs).1
  have same' := invocationPends_congr call fails machine.isPending fun runs => (inner runs).2.2
  rw [entered_isPending] at same'
  rw [same] at outcome stack
  exact ⟨outcome,stack,pending.trans same'⟩

theorem perform_ends (activity : Activity) (machine : VirtualMachine) (restored : activity.Restored machine) :
    activity.Ends machine := by
  induction activity generalizing machine with
  | done => exact ⟨rfl,rfl,rfl⟩
  | throws isStandard => exact ⟨rfl,rfl,rfl⟩
  | loadTypeArgument index type rest ih =>
    obtain ⟨same,stack,pending⟩ := ih _ restored
    rw [isPending_loadTypeArgument] at pending
    exact ⟨same,stack,pending⟩
  | invoke call fails body rest ihBody ihRest =>
    obtain ⟨restores,inner,behind⟩ := restored
    obtain ⟨outcome,_,pending⟩ := invocation_ends call fails machine body fun runs => ihBody _ (inner runs)
    unfold Activity.Ends Activity.perform Activity.outcome Activity.pends
    rw [← outcome,← pending]
    cases result : invoke call fails body.perform machine with
    | mk known after =>
      rw [result] at restores behind
      cases known with
      | completed =>
        obtain ⟨same,stack,pending⟩ := ihRest _ (behind rfl)
        exact ⟨same,stack.trans restores.1,pending⟩
      | thrown isStandard => exact ⟨rfl,restores.1,rfl⟩
  | attempt body rest ihBody ihRest =>
    obtain ⟨_,stack,pending⟩ := ihBody machine restored.1
    obtain ⟨same,stack',pending'⟩ := ihRest _ restored.2
    rw [pending] at pending'
    exact ⟨same,stack'.trans stack,pending'⟩

theorem isPending_eq_false_iff (machine : VirtualMachine) :
    machine.isPending = false ↔ machine.pendingTypeArguments = [] := by
  rw [isPending,Bool.not_eq_false',List.isEmpty_iff]

/-- Every invocation of an activity leaves the call stack as it was, and nothing pending where it is aborted, if and
only if the activity is careful. -/
theorem callStack_restored (activity : Activity) (machine : VirtualMachine) :
    activity.Restored machine ↔ activity.isCareful machine.isPending machine.isCalling = true := by
  induction activity generalizing machine with
  | done => exact ⟨fun _ => rfl,fun _ => trivial⟩
  | throws isStandard => exact ⟨fun _ => rfl,fun _ => trivial⟩
  | loadTypeArgument index type rest ih =>
    rw [Activity.Restored,Activity.isCareful,ih,isPending_loadTypeArgument]
    rfl
  | invoke call fails body rest ihBody ihRest =>
    have within : (runsBody fails = true → body.Restored (entered call machine)) ↔
        (!runsBody fails || body.isCareful false true) = true := by
      rw [ihBody,entered_isPending,entered_isCalling,Bool.or_eq_true,Bool.not_eq_true',← Bool.not_eq_true,
        ← imp_iff_not_or]
    simp only [Activity.Restored,Activity.isCareful,Bool.and_eq_true]
    rw [within]
    refine and_left_comm.trans ((and_congr_right fun inner => ?_).trans and_left_comm)
    obtain ⟨outcome,stack,pending⟩ := invocation_ends call fails machine body fun runs =>
      perform_ends body _ (within.2 inner runs)
    rw [← outcome,← pending,← stack]
    generalize invoke call fails body.perform machine = result
    obtain ⟨known,after⟩ := result
    have aborted : (known ≠ .completed → after.pendingTypeArguments = []) ↔
        (known == .completed || !after.isPending) = true := by
      rw [Bool.or_eq_true,beq_iff_eq,Bool.not_eq_true',isPending_eq_false_iff,← or_iff_not_imp_left]
    have followed : after.callStack = machine.callStack → ((known = .completed → rest.Restored after) ↔
        (known != .completed || rest.isCareful after.isPending machine.isCalling) = true) := by
      intro same
      have calling : after.isCalling = machine.isCalling := by rw [isCalling,same,isCalling]
      rw [ihRest,calling,Bool.or_eq_true,bne_iff_ne,← imp_iff_not_or]
    exact (and_congr_right fun restores => followed restores.1).trans (and_congr_left' (and_congr_right' aborted))
  | attempt body rest ihBody ihRest =>
    rw [Activity.Restored,Activity.isCareful,Bool.and_eq_true,ihBody,ihRest]
    refine and_congr_right fun careful => ?_
    obtain ⟨_,stack,pending⟩ := perform_ends body machine ((ihBody machine).2 careful)
    rw [pending,isCalling,stack]
    rfl

def failingCall : Activity := .invoke ⟨.invokeMethod,⟨"Divide",false⟩,[]⟩ none (.throws true) .done

/-- Its frame stays on the call stack. -/
theorem failingCall_keeps_frame : ¬ failingCall.Restored ⟨[],[],0⟩ := by
  intro restored
  cases restored.1.1

end Invocations

end ShardScript.Calls
