import ShardScript.Tasks.Completion

/-! The end of the virtual machine: it halts the rooted tasks that nobody waits for. -/
namespace ShardScript.Tasks
open Heap (Payload AsyncState AsyncRecord nullPayload)

structure Halting where
  runtime : Runtime
  halted : List (Payload × Payload) := []

namespace Runtime

variable (runtime : Runtime)

def isFireAndForget (task : Payload) : Bool := (runtime.machine.find task).any AsyncRecord.isFireAndForget

def getAsyncNativeState (task : Payload) : Option Nat := (runtime.machine.find task).bind AsyncRecord.nativeState

/-- With the exception that it creates. What is neither a `Task` nor a `ValueTask` has no state. -/
def haltTaskObject (task exception : Payload) : Runtime :=
  let faulted := if (runtime.machine.state task).isSome then
    (runtime.setTaskState task .faulted).setException task (some exception) else runtime
  faulted.releaseFrameOwner task

end Runtime

section Walk

/- The exception that is created next, and the native scopes that are still there. A record points to the scope that was
created for its task. -/
variable (createRuntimeException : Runtime → Payload) (alive : Nat → Bool)

def haltTask (halting : Halting) (task : Payload) : Option Halting :=
  let runtime := halting.runtime
  let exception := createRuntimeException runtime
  if task = nullPayload ∨ runtime.isFireAndForget task = false then some halting
  else match runtime.getAsyncNativeState task with
  | some scope =>
      if alive scope = false then none
      else if runtime.completed task then some halting
      else some ⟨(runtime.halt task exception).1,(task,exception) :: halting.halted⟩
  | none =>
      if runtime.machine.isTaskLike task then
        some ⟨(runtime.haltTaskObject task exception).unrootTask task,(task,exception) :: halting.halted⟩
      else some { halting with runtime := runtime.unrootTask task }

def haltFireAndForgetTasks (runtime : Runtime) : Option Halting :=
  runtime.rootedTasks.foldlM (haltTask createRuntimeException alive) { runtime }

end Walk

@[ext] structure View where
  state : Option AsyncState
  result : Option Payload
  exception : Option Payload
  completed : Bool
  record : Option AsyncRecord
  rooted : Nat
  halts : List Payload

def Runtime.view (runtime : Runtime) (halts : List Payload) (task : Payload) : View where
  state := runtime.machine.state task
  result := runtime.result task
  exception := runtime.exception task
  completed := runtime.completed task
  record := runtime.machine.find task
  rooted := runtime.rootedTasks.count task
  halts := halts

namespace Halting

def halts (halting : Halting) (task : Payload) : List Payload :=
  (halting.halted.filter fun entry => entry.1 == task).map Prod.snd

def view (halting : Halting) (task : Payload) : View := halting.runtime.view (halting.halts task) task

end Halting

namespace View

def isFireAndForget (view : View) : Bool := view.record.any AsyncRecord.isFireAndForget

def isTaskLike (view : View) : Bool := view.record.any AsyncRecord.isTaskLike

def nativeState (view : View) : Option Nat := view.record.bind AsyncRecord.nativeState

def ownerless (view : View) : View :=
  { view with record := view.record.map fun record => { record with frameOwner := none } }

def unrooted (view : View) : View := { view with rooted := view.rooted - 1 }

def faulted (view : View) (exception : Payload) : View :=
  { view with state := some .faulted,exception := some exception,halts := exception :: view.halts }

def haltedObject (view : View) (exception : Payload) : View :=
  if view.state.isSome then (view.faulted exception).ownerless
  else { view.ownerless with halts := exception :: view.halts }

def halt (view : View) (exception : Payload) : View :=
  if view.isFireAndForget = false then view
  else match view.nativeState with
  | some _ => if view.completed then view else { ((view.faulted exception).ownerless).unrooted with completed := true }
  | none => if view.isTaskLike then (view.haltedObject exception).unrooted else view.unrooted

def Consultable (alive : Nat → Bool) (view : View) : Prop :=
  view.isFireAndForget = true → ∀ scope ∈ view.nativeState, alive scope = true

end View

section Records

variable (machine : Heap.Runtime) (payload : Payload)

theorem find_assign_self (record : AsyncRecord) : (machine.assign payload record).find payload = some record := by
  rw [Heap.Runtime.find,if_pos]
  · exact congrArg some (Function.update_self ..)
  · exact List.mem_insert_self

theorem find_assign_ne (record : AsyncRecord) {other : Payload} (ne : other ≠ payload) :
    (machine.assign payload record).find other = machine.find other := by
  rw [Heap.Runtime.find,Heap.Runtime.find]
  have member : other ∈ (machine.assign payload record).collector.asyncTable ↔ other ∈ machine.collector.asyncTable := by
    change other ∈ machine.collector.asyncTable.insert payload ↔ _
    rw [List.mem_insert_iff]
    exact or_iff_right ne
  have same : (machine.assign payload record).records other = machine.records other := Function.update_of_ne ne ..
  simp only [member,same]

theorem find_discount (frame : Option Heap.Frame) (other : Payload) :
    (machine.discount frame).find other = machine.find other := by
  cases frame <;> rfl

theorem find_release_self : (machine.releaseFrameOwner payload).find payload =
    (machine.find payload).map fun record => { record with frameOwner := none } := by
  rw [Heap.Runtime.releaseFrameOwner]
  cases known : machine.find payload with
  | none => exact known
  | some record => exact find_assign_self ..

theorem find_release_ne {other : Payload} (ne : other ≠ payload) :
    (machine.releaseFrameOwner payload).find other = machine.find other := by
  rw [Heap.Runtime.releaseFrameOwner]
  cases machine.find payload with
  | none => rfl
  | some record =>
    dsimp only
    rw [find_assign_ne _ _ _ ne,find_discount]

end Records

namespace Runtime

variable (runtime : Runtime) (halts : List Payload) (task : Payload)

theorem view_setTaskState (state : AsyncState) :
    (runtime.setTaskState task state).view halts task = { runtime.view halts task with state := some state } := by
  ext1
  case state => exact Function.update_self ..
  all_goals rfl

theorem view_setException (exception : Payload) : (runtime.setException task (some exception)).view halts task =
    { runtime.view halts task with exception := some exception } := by
  obtain ⟨references,same⟩ := runtime.exchange_eq (runtime.exception task) (some exception)
  rw [setException,same]
  ext1
  case exception => exact Function.update_self ..
  all_goals rfl

theorem view_releaseFrameOwner :
    (runtime.releaseFrameOwner task).view halts task = (runtime.view halts task).ownerless := by
  ext1
  case state => exact congrFun (state_releaseFrameOwner task runtime.machine) task
  case record => exact find_release_self ..
  all_goals rfl

theorem view_unrootTask : (runtime.unrootTask task).view halts task = (runtime.view halts task).unrooted := by
  rw [unrootTask]
  split_ifs with rooted
  · ext1
    case rooted => exact List.count_erase_self ..
    all_goals rfl
  · ext1
    case rooted =>
      change runtime.rootedTasks.count task = runtime.rootedTasks.count task - 1
      rw [List.count_eq_zero_of_not_mem rooted]
    all_goals rfl

theorem view_ensureCompletedOnce :
    (runtime.ensureCompletedOnce task).view halts task = { runtime.view halts task with completed := true } := by
  rw [ensureCompletedOnce]
  split_ifs with completed
  · ext1
    case completed => exact completed
    all_goals rfl
  · ext1
    case completed => exact Function.update_self ..
    all_goals rfl

variable {task} {other : Payload} (ne : other ≠ task)

include ne

theorem view_setTaskState_ne (state : AsyncState) :
    (runtime.setTaskState task state).view halts other = runtime.view halts other := by
  ext1
  case state => exact Function.update_of_ne ne ..
  all_goals rfl

theorem view_setException_ne (exception : Payload) :
    (runtime.setException task (some exception)).view halts other = runtime.view halts other := by
  obtain ⟨references,same⟩ := runtime.exchange_eq (runtime.exception task) (some exception)
  rw [setException,same]
  ext1
  case exception => exact Function.update_of_ne ne ..
  all_goals rfl

theorem view_releaseFrameOwner_ne : (runtime.releaseFrameOwner task).view halts other = runtime.view halts other := by
  ext1
  case state => exact congrFun (state_releaseFrameOwner task runtime.machine) other
  case record => exact find_release_ne _ _ ne
  all_goals rfl

theorem view_unrootTask_ne : (runtime.unrootTask task).view halts other = runtime.view halts other := by
  rw [unrootTask]
  split_ifs with rooted
  · ext1
    case rooted => exact List.count_erase_of_ne ne
    all_goals rfl
  · rfl

theorem view_ensureCompletedOnce_ne :
    (runtime.ensureCompletedOnce task).view halts other = runtime.view halts other := by
  rw [ensureCompletedOnce]
  split_ifs with completed
  · rfl
  · ext1
    case completed => exact Function.update_of_ne ne ..
    all_goals rfl

end Runtime

section Steps

variable (createRuntimeException : Runtime → Payload) (alive : Nat → Bool)

theorem halts_cons (halting : Halting) (runtime : Runtime) (task exception : Payload) :
    (Halting.mk runtime ((task,exception) :: halting.halted)).halts task = exception :: halting.halts task := by
  rw [Halting.halts,List.filter_cons_of_pos (by simp)]
  rfl

theorem halts_cons_ne (halting : Halting) (runtime : Runtime) {task other : Payload} (ne : other ≠ task) (exception : Payload) :
    (Halting.mk runtime ((task,exception) :: halting.halted)).halts other = halting.halts other := by
  rw [Halting.halts,List.filter_cons_of_neg (by simpa using ne.symm)]
  rfl

theorem view_halt {runtime : Runtime} {task : Payload} (pending : runtime.completed task = false) (halts : List Payload)
    (exception : Payload) : (runtime.halt task exception).1.view (exception :: halts) task =
      { (((runtime.view halts task).faulted exception).ownerless).unrooted with completed := true } := by
  rw [Runtime.halt,if_neg (by simp [pending])]
  dsimp only
  rw [Runtime.view_unrootTask,Runtime.view_releaseFrameOwner,Runtime.view_setException,Runtime.view_setTaskState,
    Runtime.view_ensureCompletedOnce]
  rfl

theorem view_halt_ne (runtime : Runtime) {task other : Payload} (ne : other ≠ task) (halts : List Payload)
    (exception : Payload) : (runtime.halt task exception).1.view halts other = runtime.view halts other := by
  rw [Runtime.halt]
  split_ifs
  · rfl
  · dsimp only
    rw [Runtime.view_unrootTask_ne _ _ ne,Runtime.view_releaseFrameOwner_ne _ _ ne,Runtime.view_setException_ne _ _ ne,
      Runtime.view_setTaskState_ne _ _ ne,Runtime.view_ensureCompletedOnce_ne _ _ ne]

theorem view_haltTaskObject (runtime : Runtime) (task : Payload) (halts : List Payload) (exception : Payload) :
    (runtime.haltTaskObject task exception).view (exception :: halts) task =
      (runtime.view halts task).haltedObject exception := by
  rw [Runtime.haltTaskObject,View.haltedObject]
  have state : (runtime.view halts task).state.isSome = (runtime.machine.state task).isSome := rfl
  rw [state,Runtime.view_releaseFrameOwner]
  split_ifs with known
  · rw [Runtime.view_setException,Runtime.view_setTaskState]
    rfl
  · rfl

theorem view_haltTaskObject_ne (runtime : Runtime) {task other : Payload} (ne : other ≠ task) (halts : List Payload)
    (exception : Payload) : (runtime.haltTaskObject task exception).view halts other = runtime.view halts other := by
  rw [Runtime.haltTaskObject,Runtime.view_releaseFrameOwner_ne _ _ ne]
  split_ifs
  · rw [Runtime.view_setException_ne _ _ ne,Runtime.view_setTaskState_ne _ _ ne]
  · rfl

theorem haltTask_view {halting after : Halting} {task : Payload} (present : task ≠ nullPayload)
    (done : haltTask createRuntimeException alive halting task = some after) :
    after.view task = (halting.view task).halt (createRuntimeException halting.runtime) ∧
      ∀ other ≠ task, after.view other = halting.view other := by
  have fireAndForget : (halting.view task).isFireAndForget = halting.runtime.isFireAndForget task := rfl
  have nativeState : (halting.view task).nativeState = halting.runtime.getAsyncNativeState task := rfl
  have taskLike : (halting.view task).isTaskLike = halting.runtime.machine.isTaskLike task := rfl
  rw [View.halt,fireAndForget,nativeState,taskLike]
  rw [haltTask] at done
  simp only [present,false_or] at done
  by_cases waited : halting.runtime.isFireAndForget task = false
  · rw [if_pos waited] at done ⊢
    cases done
    exact ⟨rfl,fun _ _ => rfl⟩
  · rw [if_neg waited] at done ⊢
    cases native : halting.runtime.getAsyncNativeState task with
    | some scope =>
      rw [native] at done
      simp only at done
      split_ifs at done with released completed
      · cases done
        refine ⟨?_,fun _ _ => rfl⟩
        exact (if_pos (show (halting.view task).completed = true from completed)).symm
      · cases done
        have pending : halting.runtime.completed task = false := by simpa using completed
        constructor
        · rw [Halting.view,halts_cons,view_halt pending]
          exact (if_neg (show ¬ (halting.view task).completed = true from completed)).symm
        · intro other ne
          rw [Halting.view,halts_cons_ne _ _ ne]
          exact view_halt_ne _ ne ..
    | none =>
      rw [native] at done
      simp only at done
      split_ifs at done with known
      · cases done
        rw [if_pos known]
        constructor
        · rw [Halting.view,halts_cons,Runtime.view_unrootTask,view_haltTaskObject]
          rfl
        · intro other ne
          rw [Halting.view,halts_cons_ne _ _ ne,Runtime.view_unrootTask_ne _ _ ne]
          exact view_haltTaskObject_ne _ ne ..
      · cases done
        rw [if_neg known]
        constructor
        · exact Runtime.view_unrootTask ..
        · intro other ne
          exact Runtime.view_unrootTask_ne _ _ ne

theorem haltTask_isSome (halting : Halting) {task : Payload} (present : task ≠ nullPayload) :
    (∃ after, haltTask createRuntimeException alive halting task = some after) ↔ (halting.view task).Consultable alive := by
  have fireAndForget : (halting.view task).isFireAndForget = halting.runtime.isFireAndForget task := rfl
  have nativeState : (halting.view task).nativeState = halting.runtime.getAsyncNativeState task := rfl
  rw [View.Consultable,fireAndForget,nativeState,haltTask]
  simp only [present,false_or]
  cases halting.runtime.isFireAndForget task with
  | false => simp
  | true =>
    cases halting.runtime.getAsyncNativeState task with
    | some scope =>
      cases lives : alive scope with
      | false => simp [lives]
      | true =>
        simp only [lives,Bool.true_eq_false,if_false]
        split_ifs <;> simp [lives]
    | none =>
      simp only [Bool.true_eq_false,if_false]
      split_ifs <;> simp

end Steps

namespace View

variable {view : View} (exception : Payload)

theorem halt_waited (waited : view.isFireAndForget = false) : view.halt exception = view := by
  rw [halt,if_pos waited]

theorem halt_native (unwaited : view.isFireAndForget = true) {scope : Nat} (native : view.nativeState = some scope) :
    view.halt exception = if view.completed then view
      else { ((view.faulted exception).ownerless).unrooted with completed := true } := by
  rw [halt,if_neg (by simp [unwaited])]
  simp only [native]

theorem halt_plain (unwaited : view.isFireAndForget = true) (native : view.nativeState = none) :
    view.halt exception = if view.isTaskLike then (view.haltedObject exception).unrooted else view.unrooted := by
  rw [halt,if_neg (by simp [unwaited])]
  simp only [native]

theorem halt_record : (view.halt exception).record = view.record ∨
    (view.halt exception).record = view.ownerless.record := by
  cases waited : view.isFireAndForget with
  | false => exact .inl (congrArg record (halt_waited exception waited))
  | true =>
    cases native : view.nativeState with
    | some scope =>
      rw [halt_native exception waited native]
      split_ifs
      · exact .inl rfl
      · exact .inr rfl
    | none =>
      rw [halt_plain exception waited native,haltedObject]
      split_ifs
      · exact .inr rfl
      · exact .inr rfl
      · exact .inl rfl

theorem halt_marks : (view.halt exception).isFireAndForget = view.isFireAndForget ∧
    (view.halt exception).nativeState = view.nativeState ∧ (view.halt exception).isTaskLike = view.isTaskLike := by
  rw [isFireAndForget,isFireAndForget,nativeState,nativeState,isTaskLike,isTaskLike]
  rcases view.halt_record exception with same | same
  · rw [same]
    exact ⟨rfl,rfl,rfl⟩
  · rw [same,ownerless]
    cases view.record with
    | none => exact ⟨rfl,rfl,rfl⟩
    | some record => exact ⟨rfl,rfl,rfl⟩

def HaltedTimes : Nat → View → View → Prop
  | 0,view,after => after = view
  | times + 1,view,after => ∃ exception,HaltedTimes times (view.halt exception) after

end View

section Runs

variable {createRuntimeException : Runtime → Payload} {alive : Nat → Bool}

theorem haltTask_at {halting next : Halting} {head : Payload}
    (first : haltTask createRuntimeException alive halting head = some next) {task : Payload} (present : task ≠ nullPayload) :
    (head = task ∧ next.view task = (halting.view task).halt (createRuntimeException halting.runtime)) ∨
      (head ≠ task ∧ next.view task = halting.view task) := by
  by_cases same : head = task
  · subst same
    exact .inl ⟨rfl,(haltTask_view _ _ present first).1⟩
  · by_cases none : head = nullPayload
    · rw [haltTask,if_pos (.inl none)] at first
      cases first
      exact .inr ⟨same,rfl⟩
    · exact .inr ⟨same,(haltTask_view _ _ none first).2 task (Ne.symm same)⟩

theorem haltAll_view {tasks : List Payload} {halting after : Halting}
    (done : tasks.foldlM (haltTask createRuntimeException alive) halting = some after) {task : Payload}
    (present : task ≠ nullPayload) : (halting.view task).HaltedTimes (tasks.count task) (after.view task) := by
  induction tasks generalizing halting with
  | nil =>
    cases done
    rfl
  | cons head tasks ih =>
    rw [List.foldlM_cons,Option.bind_eq_bind,Option.bind_eq_some_iff] at done
    obtain ⟨next,first,rest⟩ := done
    have later := ih rest
    rcases haltTask_at first present with ⟨rfl,halted⟩ | ⟨other,kept⟩
    · rw [List.count_cons_self]
      rw [halted] at later
      exact ⟨_,later⟩
    · rw [List.count_cons_of_ne other,← kept]
      exact later

theorem consultable_step {halting next : Halting} {head : Payload}
    (first : haltTask createRuntimeException alive halting head = some next) {task : Payload} (present : task ≠ nullPayload) :
    (next.view task).Consultable alive ↔ (halting.view task).Consultable alive := by
  rcases haltTask_at first present with ⟨_,halted⟩ | ⟨_,kept⟩
  · obtain ⟨fireAndForget,native,_⟩ := (halting.view task).halt_marks (createRuntimeException halting.runtime)
    rw [halted,View.Consultable,View.Consultable,fireAndForget,native]
  · rw [kept]

theorem haltAll_isSome (tasks : List Payload) (halting : Halting) :
    (∃ after, tasks.foldlM (haltTask createRuntimeException alive) halting = some after) ↔
      ∀ task ∈ tasks, task ≠ nullPayload → (halting.view task).Consultable alive := by
  induction tasks generalizing halting with
  | nil => simp
  | cons head tasks ih =>
    simp only [List.foldlM_cons,Option.bind_eq_bind,Option.bind_eq_some_iff]
    constructor
    · intro whole task member present
      obtain ⟨after,next,first,rest⟩ := whole
      rcases List.mem_cons.1 member with rfl | later
      · exact (haltTask_isSome _ _ _ present).1 ⟨next,first⟩
      · rw [← consultable_step first present]
        exact (ih next).1 ⟨after,rest⟩ task later present
    · intro consultable
      have step : ∃ next, haltTask createRuntimeException alive halting head = some next := by
        by_cases none : head = nullPayload
        · exact ⟨halting,by rw [haltTask,if_pos (.inl none)]⟩
        · exact (haltTask_isSome _ _ _ none).2 (consultable head List.mem_cons_self none)
      obtain ⟨next,first⟩ := step
      obtain ⟨after,rest⟩ := (ih next).2 fun task later present =>
        (consultable_step first present).2 (consultable task (List.mem_cons_of_mem _ later) present)
      exact ⟨after,next,first,rest⟩

end Runs

namespace View

variable {view after : View} {times : Nat}

theorem haltedTimes_waited (waited : view.isFireAndForget = false) (halted : view.HaltedTimes times after) : after = view := by
  induction times with
  | zero => exact halted
  | succ times ih =>
    obtain ⟨exception,halted⟩ := halted
    rw [halt_waited exception waited] at halted
    exact ih halted

theorem haltedTimes_completed {scope : Nat} (native : view.nativeState = some scope) (completed : view.completed = true)
    (halted : view.HaltedTimes times after) : after = view := by
  cases waited : view.isFireAndForget with
  | false => exact haltedTimes_waited waited halted
  | true =>
    induction times with
    | zero => exact halted
    | succ times ih =>
      obtain ⟨exception,halted⟩ := halted
      rw [halt_native exception waited native,if_pos completed] at halted
      exact ih halted

theorem haltedTimes_native (unwaited : view.isFireAndForget = true) {scope : Nat} (native : view.nativeState = some scope)
    (pending : view.completed = false) (halted : view.HaltedTimes (times + 1) after) : ∃ exception,
      after = { ((view.faulted exception).ownerless).unrooted with completed := true } := by
  obtain ⟨exception,halted⟩ := halted
  have marks := (view.halt_marks exception).2.1
  rw [halt_native exception unwaited native,if_neg (by simp [pending])] at halted marks
  exact ⟨exception,haltedTimes_completed (marks.trans native) rfl halted⟩

theorem haltedTimes_rooted (unwaited : view.isFireAndForget = true) (native : view.nativeState = none)
    (halted : view.HaltedTimes times after) : after.rooted = view.rooted - times := by
  induction times generalizing view with
  | zero =>
    rw [halted]
    rfl
  | succ times ih =>
    obtain ⟨exception,halted⟩ := halted
    obtain ⟨fireAndForget,native',_⟩ := view.halt_marks exception
    have rooted : (view.halt exception).rooted = view.rooted - 1 := by
      rw [halt_plain exception unwaited native,haltedObject]
      split_ifs <;> rfl
    rw [ih (fireAndForget.trans unwaited) (native'.trans native) halted,rooted]
    omega

theorem halt_result (exception : Payload) : (view.halt exception).result = view.result := by
  cases waited : view.isFireAndForget with
  | false => rw [halt_waited exception waited]
  | true =>
    cases native : view.nativeState with
    | some scope =>
      rw [halt_native exception waited native]
      split_ifs <;> rfl
    | none =>
      rw [halt_plain exception waited native,haltedObject]
      split_ifs <;> rfl

theorem haltedTimes_result (halted : view.HaltedTimes times after) : after.result = view.result := by
  induction times generalizing view with
  | zero => rw [halted]
  | succ times ih =>
    obtain ⟨exception,halted⟩ := halted
    exact (ih halted).trans (halt_result exception)

/-- Faulted with an exception that was created for it, and owned by no frame. -/
structure IsHalted (view : View) : Prop where
  state : view.state = some .faulted
  exception : ∃ exception ∈ view.halts, view.exception = some exception
  owner : view.record.bind AsyncRecord.frameOwner = none

theorem isHalted_faulted (view : View) (exception : Payload) : ((view.faulted exception).ownerless).IsHalted where
  state := rfl
  exception := ⟨exception,List.mem_cons_self,rfl⟩
  owner := by
    rw [ownerless,faulted]
    cases view.record <;> rfl

theorem haltedTimes_plain (unwaited : view.isFireAndForget = true) (native : view.nativeState = none)
    (taskLike : view.isTaskLike = true) (known : view.state.isSome = true) (halted : view.HaltedTimes (times + 1) after) :
    after.IsHalted := by
  induction times generalizing view with
  | zero =>
    obtain ⟨exception,rfl⟩ := halted
    rw [halt_plain exception unwaited native,if_pos taskLike,haltedObject,if_pos known]
    obtain ⟨state,created,owner⟩ := view.isHalted_faulted exception
    exact ⟨state,created,owner⟩
  | succ times ih =>
    obtain ⟨exception,halted⟩ := halted
    obtain ⟨fireAndForget,native',taskLike'⟩ := view.halt_marks exception
    apply ih (fireAndForget.trans unwaited) (native'.trans native) (taskLike'.trans taskLike) _ halted
    rw [halt_plain exception unwaited native,if_pos taskLike,haltedObject,if_pos known]
    rfl

theorem haltedTimes_unlike (unwaited : view.isFireAndForget = true) (native : view.nativeState = none)
    (halted : view.HaltedTimes times after) : (view.isTaskLike = false → after.halts = view.halts) ∧
      (view.state = none → after.state = none) := by
  induction times generalizing view with
  | zero =>
    rw [halted]
    exact ⟨fun _ => rfl,fun none => none⟩
  | succ times ih =>
    obtain ⟨exception,halted⟩ := halted
    obtain ⟨fireAndForget,native',taskLike⟩ := view.halt_marks exception
    obtain ⟨halts,state⟩ := ih (fireAndForget.trans unwaited) (native'.trans native) halted
    constructor
    · intro unlike
      rw [halts (taskLike.trans unlike),halt_plain exception unwaited native,if_neg (by simp [unlike])]
      rfl
    · intro none
      apply state
      have stateless : ¬ view.state.isSome = true := by simp [none]
      rw [halt_plain exception unwaited native,haltedObject,if_neg stateless]
      split_ifs <;> exact none

end View

section Shutdown

variable (createRuntimeException : Runtime → Payload) (alive : Nat → Bool) (runtime : Runtime)

def IsFireAndForgetRoot (task : Payload) : Prop :=
  task ∈ runtime.rootedTasks ∧ task ≠ nullPayload ∧ runtime.isFireAndForget task = true

structure HaltsExactly (after : Halting) : Prop where
  halted : ∀ task, IsFireAndForgetRoot runtime task → after.runtime.machine.state task = some .faulted ∧
    (∃ exception, (task,exception) ∈ after.halted ∧ after.runtime.exception task = some exception) ∧
    task ∉ after.runtime.rootedTasks ∧ after.runtime.machine.getFrameOwner task = none
  kept : ∀ task ≠ nullPayload, runtime.machine.state task ≠ none →
    runtime.machine.state task ≠ some .pending → after.runtime.machine.state task = runtime.machine.state task ∧
      after.runtime.result task = runtime.result task
  others : ∀ task ≠ nullPayload, ¬ IsFireAndForgetRoot runtime task →
    after.runtime.view [] task = runtime.view [] task ∧ ∀ exception, (task,exception) ∉ after.halted

/-- The task has not been completed, and its native scope is there, has not been completed either and has rooted the task
once; or it has no native scope, and is a task. -/
def HaltsCleanly (task : Payload) : Prop :=
  runtime.machine.state task ≠ some .completed ∧
    match runtime.getAsyncNativeState task with
    | some scope => alive scope = true ∧ runtime.completed task = false ∧ runtime.rootedTasks.count task = 1
    | none => runtime.machine.isTaskLike task = true ∧ (runtime.machine.state task).isSome = true

variable {createRuntimeException alive runtime}

theorem mem_halts {halting : Halting} {task exception : Payload} :
    exception ∈ halting.halts task ↔ (task,exception) ∈ halting.halted := by
  simp [Halting.halts]

section Run

variable {after : Halting} (done : haltFireAndForgetTasks createRuntimeException alive runtime = some after)

include done

theorem haltedTimes_of_run {task : Payload} (present : task ≠ nullPayload) :
    (runtime.view [] task).HaltedTimes (runtime.rootedTasks.count task) (after.view task) := haltAll_view done present

theorem halted_of_cleanly {task : Payload} (root : IsFireAndForgetRoot runtime task)
    (cleanly : HaltsCleanly alive runtime task) : (after.view task).IsHalted ∧ (after.view task).rooted = 0 := by
  obtain ⟨rooted,present,unwaited⟩ := root
  obtain ⟨_,cleanly⟩ := cleanly
  have times := haltedTimes_of_run done present
  have positive := List.count_pos_iff.2 rooted
  cases native : runtime.getAsyncNativeState task with
  | some scope =>
    rw [native] at cleanly
    obtain ⟨_,pending,once⟩ := cleanly
    rw [once] at times
    obtain ⟨exception,same⟩ := (runtime.view [] task).haltedTimes_native unwaited native pending times
    rw [same]
    obtain ⟨state,created,owner⟩ := (runtime.view [] task).isHalted_faulted exception
    refine ⟨⟨state,created,owner⟩,?_⟩
    change runtime.rootedTasks.count task - 1 = 0
    rw [once]
  | none =>
    rw [native] at cleanly
    constructor
    · rw [← Nat.sub_add_cancel positive] at times
      exact (runtime.view [] task).haltedTimes_plain unwaited native cleanly.1 cleanly.2 times
    · rw [(runtime.view [] task).haltedTimes_rooted unwaited native times]
      exact Nat.sub_self _

theorem haltsExactly_of_cleanly (cleanly : ∀ task, IsFireAndForgetRoot runtime task → HaltsCleanly alive runtime task) :
    HaltsExactly runtime after := by
  have others : ∀ task ≠ nullPayload, ¬ IsFireAndForgetRoot runtime task → after.view task = runtime.view [] task := by
    intro task present other
    have times := haltedTimes_of_run done present
    by_cases rooted : task ∈ runtime.rootedTasks
    · apply View.haltedTimes_waited _ times
      rw [← Bool.not_eq_true]
      intro unwaited
      exact other ⟨rooted,present,unwaited⟩
    · rw [List.count_eq_zero_of_not_mem rooted] at times
      exact times
  constructor
  · intro task root
    obtain ⟨halted,rooted⟩ := halted_of_cleanly done root (cleanly task root)
    obtain ⟨exception,created,stored⟩ := halted.exception
    exact ⟨halted.state,⟨exception,mem_halts.1 created,stored⟩,List.count_eq_zero.1 rooted,halted.owner⟩
  · intro task present known left
    by_cases root : IsFireAndForgetRoot runtime task
    · obtain ⟨halted,_⟩ := halted_of_cleanly done root (cleanly task root)
      have faulted : runtime.machine.state task = some .faulted := by
        cases state : runtime.machine.state task with
        | none => exact absurd state known
        | some reached =>
          cases reached with
          | pending => exact absurd state left
          | completed => exact absurd state (cleanly task root).1
          | faulted => rfl
      exact ⟨halted.state.trans faulted.symm,View.haltedTimes_result (haltedTimes_of_run done present)⟩
    · have same := others task present root
      exact ⟨congrArg View.state same,congrArg View.result same⟩
  · intro task present root
    have same := others task present root
    have halts : after.halts task = [] := congrArg View.halts same
    constructor
    · rw [← same,Halting.view,halts]
    · intro exception created
      rw [← mem_halts,halts] at created
      cases created

theorem cleanly_of_haltsExactly (exact' : HaltsExactly runtime after) {task : Payload}
    (root : IsFireAndForgetRoot runtime task) : HaltsCleanly alive runtime task := by
  obtain ⟨state,⟨exception,created,_⟩,unrooted,_⟩ := exact'.halted task root
  obtain ⟨rooted,present,unwaited⟩ := root
  have times := haltedTimes_of_run done present
  have positive := List.count_pos_iff.2 rooted
  have gone : (after.view task).rooted = 0 := List.count_eq_zero.2 unrooted
  constructor
  · intro completed
    have kept := (exact'.kept task present (by simp [completed]) (by simp [completed])).1
    rw [state,completed] at kept
    cases kept
  · cases native : runtime.getAsyncNativeState task with
    | some scope =>
      have consulted := (haltAll_isSome runtime.rootedTasks { runtime }).1 ⟨after,done⟩ task rooted present
      refine ⟨consulted unwaited scope native,?_⟩
      have pending : runtime.completed task = false := by
        rw [← Bool.not_eq_true]
        intro completed
        rw [(runtime.view [] task).haltedTimes_completed native completed times] at gone
        exact absurd gone (Nat.ne_of_gt positive)
      refine ⟨pending,?_⟩
      rw [← Nat.sub_add_cancel positive] at times
      obtain ⟨created,same⟩ := (runtime.view [] task).haltedTimes_native unwaited native pending times
      rw [same] at gone
      change runtime.rootedTasks.count task - 1 = 0 at gone
      omega
    | none =>
      obtain ⟨unlike,stateless⟩ := (runtime.view [] task).haltedTimes_unlike unwaited native times
      constructor
      · by_contra other
        have none := unlike (Bool.eq_false_iff.2 other)
        have member := mem_halts.2 created
        rw [show after.halts task = [] from none] at member
        cases member
      · rw [Option.isSome_iff_ne_none]
        intro none
        rw [show after.runtime.machine.state task = Option.none from stateless none] at state
        cases state

end Run

/-- The end of the virtual machine halts just the tasks that it is to halt, if and only if each of them allows it. -/
theorem haltFireAndForgetTasks_exact_iff (createRuntimeException : Runtime → Payload) (alive : Nat → Bool)
    (runtime : Runtime) :
    (∃ after, haltFireAndForgetTasks createRuntimeException alive runtime = some after ∧ HaltsExactly runtime after) ↔
      ∀ task, IsFireAndForgetRoot runtime task → HaltsCleanly alive runtime task := by
  constructor
  · intro whole task root
    obtain ⟨after,done,halts⟩ := whole
    exact cleanly_of_haltsExactly done halts root
  · intro cleanly
    have consulted : ∃ after, haltFireAndForgetTasks createRuntimeException alive runtime = some after := by
      apply (haltAll_isSome runtime.rootedTasks { runtime }).2
      intro task rooted present unwaited scope native
      have known := (cleanly task ⟨rooted,present,unwaited⟩).2
      rw [show runtime.getAsyncNativeState task = some scope from native] at known
      exact known.1
    obtain ⟨after,done⟩ := consulted
    exact ⟨after,done,haltsExactly_of_cleanly done cleanly⟩

end Shutdown

def shotTask : Runtime where
  machine := (((Heap.Runtime.initial.setTaskState 1 (some .pending)).markTaskLike 1).setAsyncNativeState 1 (some 0)).shoot 1
  references payload := if payload = 1 then 1 else 0
  result _ := none
  exception _ := none
  continuation _ := none
  completed _ := false
  rootedTasks := [1]
  evalStack _ := []
  executions := []

/-- Its scope was released before: what is consulted is not there. -/
theorem haltFireAndForgetTasks_released : ¬ ∀ (createRuntimeException : Runtime → Payload) (alive : Nat → Bool)
    (runtime : Runtime), ∃ after, haltFireAndForgetTasks createRuntimeException alive runtime = some after ∧
      HaltsExactly runtime after := by
  intro halts
  obtain ⟨after,done,_⟩ := halts (fun _ => 5) (fun _ => false) shotTask
  have undefined : haltFireAndForgetTasks (fun _ => 5) (fun _ => false) shotTask = none := rfl
  rw [undefined] at done
  cases done

end ShardScript.Tasks
