import ShardScript.Tasks.Completion

/-! Continuations are registered with a task before and after it is completed. -/
namespace ShardScript.Tasks
open Heap (Payload Frame AsyncState)

/-- A call of `OnCompleted`, by a script or by a native scope, or an attempt to complete the task. -/
inductive Event (kind : TaskKind) where
  | onCompleted (continuation : Option Payload)
  | completion (attempt : Attempt kind)

namespace Event

variable {kind : TaskKind}

def perform (execute : Execute) (task : Payload) (runtime : Runtime) : Event kind → Runtime × Outcome
  | onCompleted continuation => runtime.onCompleted execute task continuation
  | completion attempt => attempt.perform execute task runtime

def performAll (execute : Execute) (task : Payload) : List (Event kind) → Runtime → Option Runtime
  | [],runtime => some runtime
  | event :: events,runtime =>
      let performed := event.perform execute task runtime
      if performed.2 = .terminated then none else performAll execute task events performed.1

def registered : Event kind → Option Payload
  | onCompleted continuation => continuation
  | completion _ => none

def isCompletion : Event kind → Bool
  | onCompleted _ => false
  | completion _ => true

end Event

/-- How often `MoveNext` has begun with the continuation as its receiver. -/
def Runtime.resumptions (runtime : Runtime) (typeOf : Payload → TypeSymbol) (continuation : Payload) : Nat :=
  runtime.executions.countP fun execution =>
    some execution.1 == findInterfaceImplementation moveNext (typeOf continuation) && execution.2 == [continuation]

/-- Each continuation has been resumed as often as it was registered, once the task is not pending any more, and not
before. -/
def Delivered (typeOf : Payload → TypeSymbol) (task : Payload) (registered : List Payload) (runtime after : Runtime) : Prop :=
  ∀ continuation ∈ registered, after.resumptions typeOf continuation = runtime.resumptions typeOf continuation +
    if after.getTaskState task = .pending then 0 else registered.count continuation

section Executions

variable (execute : Execute) (task : Payload) (runtime : Runtime)

namespace Runtime

theorem executions_setContinuation (continuation : Option Payload) :
    (runtime.setContinuation task continuation).executions = runtime.executions := by
  obtain ⟨references,same⟩ := runtime.exchange_eq (runtime.continuation task) continuation
  rw [setContinuation,same]

theorem executions_setException (exception : Option Payload) :
    (runtime.setException task exception).executions = runtime.executions := by
  obtain ⟨references,same⟩ := runtime.exchange_eq (runtime.exception task) exception
  rw [setException,same]

theorem executions_setResult {isReferenceType : Bool} {result : Option Payload} {stored : Runtime}
    (stores : runtime.setResult isReferenceType task result = some stored) : stored.executions = runtime.executions := by
  cases isReferenceType with
  | true =>
    obtain ⟨references,same⟩ := runtime.exchange_eq (runtime.result task) result
    cases stores
    rw [same]
  | false =>
    obtain ⟨value,-,rfl⟩ := Option.map_eq_some_iff.1 stores
    rfl

theorem executions_ensureCompletedOnce : (runtime.ensureCompletedOnce task).executions = runtime.executions := by
  rw [ensureCompletedOnce]
  split_ifs <;> rfl

theorem executions_release : ((runtime.releaseFrameOwner task).unrootTask task).executions = runtime.executions := by
  rw [unrootTask]
  split_ifs <;> rfl

theorem executions_settle : (runtime.settle execute task).1.executions = runtime.executions := by
  rw [settle_eq]
  exact runtime.executions_release task

theorem executions_settleResult (isReferenceType : Bool) (result : Option Payload) :
    (runtime.settleResult execute isReferenceType task result).1.executions = runtime.executions := by
  rw [settleResult]
  cases stores : (runtime.setTaskState task .completed).setResult isReferenceType task result with
  | none => rfl
  | some stored =>
    dsimp only
    rw [executions_settle]
    exact (runtime.setTaskState task .completed).executions_setResult task stores

theorem executions_failed (exception : Option Payload) :
    (((runtime.setTaskState task .faulted).setException task exception).settle execute task).1.executions = runtime.executions := by
  rw [executions_settle,executions_setException]
  rfl

end Runtime

end Executions

section Events

variable {kind : TaskKind} {execute : Execute} {task : Payload} {runtime after : Runtime}

theorem executions_attempt (attempt : Attempt kind) :
    (attempt.perform execute task runtime).1.executions = runtime.executions := by
  cases stopped : attempt.stopped runtime task with
  | true => rw [perform_stopped execute stopped]
  | false =>
    have ensured := runtime.executions_ensureCompletedOnce task
    cases attempt with
    | complete =>
      change (noexcept _).1.executions = _
      rw [fst_noexcept,Runtime.executions_settle]
      rfl
    | setException exception =>
      change (noexcept _).1.executions = _
      rw [fst_noexcept,Runtime.executions_failed]
    | setResult result =>
      change (noexcept _).1.executions = _
      rw [fst_noexcept,Runtime.executions_settleResult]
    | valueScopeComplete value => exact (Runtime.executions_settleResult _ _ _ _ _).trans ensured
    | scopeComplete =>
      have uncompleted : ¬ runtime.completed task = true := Bool.eq_false_iff.1 stopped
      change (runtime.scopeComplete execute kind task).1.executions = _
      unfold Runtime.scopeComplete
      rw [if_neg uncompleted]
      cases kind with
      | task => exact (Runtime.executions_settle _ _ _).trans ensured
      | valueTask isReferenceType => exact (Runtime.executions_settleResult _ _ _ _ _).trans ensured
    | fail exception =>
      have uncompleted : ¬ runtime.completed task = true := Bool.eq_false_iff.1 stopped
      change (runtime.fail execute task exception).1.executions = _
      rw [Runtime.fail,if_neg uncompleted]
      exact (Runtime.executions_failed _ _ _ _).trans ensured
    | halt exception =>
      have uncompleted : ¬ runtime.completed task = true := Bool.eq_false_iff.1 stopped
      change (runtime.halt task exception).1.executions = _
      rw [Runtime.halt,if_neg uncompleted]
      dsimp only
      rw [Runtime.executions_release,Runtime.executions_setException]
      exact ensured

theorem onCompleted_eq (continuation : Option Payload) :
    runtime.onCompleted execute task continuation = (runtime.setContinuation task continuation,.returned) := by
  rw [Runtime.onCompleted,Runtime.resume_eq]
  split_ifs <;> rfl

theorem executions_perform (event : Event kind) :
    (event.perform execute task runtime).1.executions = runtime.executions := by
  cases event with
  | onCompleted continuation =>
    rw [Event.perform,onCompleted_eq]
    exact runtime.executions_setContinuation task continuation
  | completion attempt => exact executions_attempt attempt

variable {events : List (Event kind)}

theorem executions_performAll (done : Event.performAll execute task events runtime = some after) :
    after.executions = runtime.executions := by
  induction events generalizing runtime with
  | nil =>
    cases done
    rfl
  | cons event events ih =>
    rw [Event.performAll] at done
    obtain ⟨-,done⟩ := Option.ite_none_left_eq_some.1 done
    exact (ih done).trans (executions_perform event)

theorem left_attempt {attempt : Attempt kind} (acts : attempt.stopped runtime task = false) :
    (attempt.perform execute task runtime).1.getTaskState task ≠ .pending := by
  intro pending
  cases storable : attempt.storable with
  | true =>
    have fields := (perform_settles execute acts storable).fields
    exact written_ne attempt runtime task ((congrArg Prod.fst fields).symm.trans pending)
  | false =>
    have fields := (perform_unstorable execute acts storable).1
    cases (congrArg Prod.fst fields).symm.trans pending

theorem state_setContinuation (runtime : Runtime) (task : Payload) (continuation : Option Payload) :
    (runtime.setContinuation task continuation).getTaskState task = runtime.getTaskState task ∧
      (runtime.setContinuation task continuation).completed = runtime.completed := by
  obtain ⟨references,same⟩ := runtime.exchange_eq (runtime.continuation task) continuation
  rw [Runtime.setContinuation,same]
  exact ⟨rfl,rfl⟩

theorem left_performAll (done : Event.performAll execute task events runtime = some after)
    (left : runtime.getTaskState task ≠ .pending) : after.getTaskState task ≠ .pending := by
  induction events generalizing runtime with
  | nil =>
    cases done
    exact left
  | cons event events ih =>
    rw [Event.performAll] at done
    obtain ⟨-,done⟩ := Option.ite_none_left_eq_some.1 done
    apply ih done
    cases event with
    | onCompleted continuation =>
      rw [Event.perform,onCompleted_eq]
      exact (state_setContinuation runtime task continuation).1.symm ▸ left
    | completion attempt =>
      rw [Event.perform]
      cases stopped : attempt.stopped runtime task with
      | true =>
        rw [perform_stopped execute stopped]
        exact left
      | false => exact left_attempt stopped

theorem pending_performAll (done : Event.performAll execute task events runtime = some after)
    (pending : runtime.getTaskState task = .pending) (uncompleted : runtime.completed task = false) :
    after.getTaskState task = .pending ↔ ∀ event ∈ events, event.isCompletion = false := by
  induction events generalizing runtime with
  | nil =>
    cases done
    exact ⟨fun _ => List.forall_mem_nil _,fun _ => pending⟩
  | cons event events ih =>
    rw [Event.performAll] at done
    obtain ⟨-,done⟩ := Option.ite_none_left_eq_some.1 done
    rw [List.forall_mem_cons]
    cases event with
    | onCompleted continuation =>
      rw [Event.perform,onCompleted_eq] at done
      obtain ⟨state,completed⟩ := state_setContinuation runtime task continuation
      rw [ih done (state.trans pending) ((congrFun completed task).trans uncompleted)]
      exact ⟨fun rest => ⟨rfl,rest⟩,And.right⟩
    | completion attempt =>
      have acts : attempt.stopped runtime task = false := by
        rw [Attempt.stopped,uncompleted,Bool.and_false]
      have left := left_performAll done (left_attempt acts)
      exact ⟨fun pending => absurd pending left,fun none => Bool.noConfusion none.1⟩

end Events

theorem delivered_iff {kind : TaskKind} (execute : Execute) (typeOf : Payload → TypeSymbol) (task : Payload)
    (runtime after : Runtime) (pending : runtime.getTaskState task = .pending) (uncompleted : runtime.completed task = false)
    (events : List (Event kind)) (done : Event.performAll execute task events runtime = some after) :
    Delivered typeOf task (events.filterMap Event.registered) runtime after ↔
      (∀ event ∈ events, event.registered = none) ∨ ∀ event ∈ events, event.isCompletion = false := by
  have same : ∀ continuation, after.resumptions typeOf continuation = runtime.resumptions typeOf continuation := by
    intro continuation
    rw [Runtime.resumptions,executions_performAll done,Runtime.resumptions]
  rw [← pending_performAll done pending uncompleted,← List.filterMap_eq_nil_iff]
  constructor
  · intro delivered
    by_cases left : after.getTaskState task = .pending
    · exact .inr left
    · refine .inl (List.eq_nil_iff_forall_not_mem.2 fun continuation member => ?_)
      have counts := delivered continuation member
      rw [same,if_neg left] at counts
      have occurs := List.count_pos_iff.2 member
      omega
  · rintro (none | pending) continuation member
    · rw [none] at member
      cases member
    · rw [same,if_pos pending]
      rfl

/-- Two state machines wait for a task that is not completed. -/
theorem delivered_iff_waiting : ∃ after,
    Event.performAll idle 1 [(.onCompleted (some 2) : Event .task),.onCompleted (some 3)] pendingTask = some after ∧
      Delivered (fun _ => stateMachine) 1 [2,3] pendingTask after :=
  ⟨_,rfl,(delivered_iff idle (fun _ => stateMachine) 1 pendingTask _ rfl rfl
    [(.onCompleted (some 2) : Event .task),.onCompleted (some 3)] rfl).2 (.inr (by decide))⟩

/-- A state machine waits for a task that is completed. -/
theorem delivered_lost : ¬ ∀ (kind : TaskKind) (execute : Execute) (typeOf : Payload → TypeSymbol) (task : Payload)
    (runtime after : Runtime), runtime.getTaskState task = .pending → runtime.completed task = false →
    ∀ events : List (Event kind), Event.performAll execute task events runtime = some after →
      Delivered typeOf task (events.filterMap Event.registered) runtime after := by
  intro delivers
  have delivered := delivers .task idle (fun _ => stateMachine) 1 pendingTask _ rfl rfl
    [.onCompleted (some 2),.completion .complete] rfl 2 List.mem_cons_self
  cases delivered

end ShardScript.Tasks
