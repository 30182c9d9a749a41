import ShardScript.Tasks.Resumption

/-! Completion attempts on one task, one after the other. -/
namespace ShardScript.Tasks
open Heap (Payload Frame AsyncState)

def Runtime.fields (runtime : Runtime) (task : Payload) : AsyncState × Option Payload × Option Payload :=
  (runtime.getTaskState task,runtime.result task,runtime.exception task)

def performAll {kind : TaskKind} (execute : Execute) (task : Payload) : List (Attempt kind) → Runtime → Runtime
  | [],runtime => runtime
  | attempt :: attempts,runtime =>
      let performed := attempt.perform execute task runtime
      if performed.2 = .terminated then performed.1 else performAll execute task attempts performed.1

namespace Attempt

def written (runtime : Runtime) (task : Payload) : {kind : TaskKind} → Attempt kind → AsyncState × Option Payload × Option Payload
  | _,complete => (.completed,runtime.result task,runtime.exception task)
  | _,setException exception => (.faulted,runtime.result task,exception)
  | _,setResult result => (.completed,result,runtime.exception task)
  | .task,scopeComplete => (.completed,runtime.result task,runtime.exception task)
  | .valueTask _,scopeComplete => (.completed,none,runtime.exception task)
  | _,valueScopeComplete value => (.completed,value,runtime.exception task)
  | _,fail exception => (.faulted,runtime.result task,exception)
  | _,halt exception => (.faulted,runtime.result task,some exception)

def isGuarded : {kind : TaskKind} → Attempt kind → Bool
  | _,scopeComplete | _,fail _ | _,halt _ => true
  | _,_ => false

def stopped (runtime : Runtime) (task : Payload) {kind : TaskKind} (attempt : Attempt kind) : Bool :=
  attempt.isGuarded && runtime.completed task

def storable : {kind : TaskKind} → Attempt kind → Bool
  | _,complete | _,setException _ | _,fail _ | _,halt _ => true
  | .valueTask isReferenceType,setResult result => isReferenceType || result.isSome
  | .valueTask isReferenceType,valueScopeComplete value => isReferenceType || value.isSome
  | .task,scopeComplete => true
  | .valueTask isReferenceType,scopeComplete => isReferenceType

/-- The first attempt, while the task is pending, is not stopped and can be stored, and the task is rooted at most once.
A later one is stopped, or writes what is there. -/
def Sound (runtime : Runtime) (task : Payload) {kind : TaskKind} (attempt : Attempt kind) : Prop :=
  if runtime.getTaskState task = .pending then
    attempt.stopped runtime task = false ∧ attempt.storable = true ∧ runtime.rootedTasks.count task ≤ 1
  else attempt.stopped runtime task = true ∨
    if attempt.storable then attempt.written runtime task = runtime.fields task
    else runtime.getTaskState task = .completed

end Attempt

def AllSound {kind : TaskKind} (execute : Execute) (task : Payload) : List (Attempt kind) → Runtime → Prop
  | [],_ => True
  | attempt :: attempts,runtime =>
      attempt.Sound runtime task ∧ ((attempt.perform execute task runtime).2 ≠ .terminated →
        AllSound execute task attempts (attempt.perform execute task runtime).1)

/-- The fields are those of the first attempt, which has left the task completed or faulted, and the task is not
rooted. -/
def CompletedOnce {kind : TaskKind} (execute : Execute) (task : Payload) (runtime : Runtime) : List (Attempt kind) → Prop
  | [] => True
  | attempt :: attempts =>
      (performAll execute task (attempt :: attempts) runtime).fields task = attempt.written runtime task ∧
      (performAll execute task (attempt :: attempts) runtime).getTaskState task ≠ .pending ∧
      task ∉ (performAll execute task (attempt :: attempts) runtime).rootedTasks

section Attempts

variable (execute : Execute) (task : Payload) (runtime : Runtime)

theorem state_releaseFrameOwner (machine : Heap.Runtime) : (machine.releaseFrameOwner task).state = machine.state := by
  rw [Heap.Runtime.releaseFrameOwner]
  cases machine.find task with
  | none => rfl
  | some record =>
    dsimp only
    cases record.frameOwner <;> rfl

namespace Runtime

theorem exchange_eq (old new : Option Payload) :
    ∃ references, runtime.exchange old new = { runtime with references } := by
  cases old <;> cases new <;> exact ⟨_,rfl⟩

theorem fields_setTaskState (state : AsyncState) :
    (runtime.setTaskState task state).fields task = (state,runtime.result task,runtime.exception task) := by
  rw [fields,getTaskState,setTaskState,Heap.Runtime.setTaskState]
  dsimp only
  rw [Function.update_self]
  rfl

theorem fields_setException (exception : Option Payload) :
    (runtime.setException task exception).fields task = (runtime.getTaskState task,runtime.result task,exception) ∧
      (runtime.setException task exception).rootedTasks = runtime.rootedTasks := by
  obtain ⟨references,same⟩ := runtime.exchange_eq (runtime.exception task) exception
  rw [setException,same,fields]
  dsimp only
  rw [Function.update_self]
  exact ⟨rfl,rfl⟩

theorem fields_setResult {isReferenceType : Bool} {result : Option Payload}
    (storable : (isReferenceType || result.isSome) = true) : ∃ stored,
    runtime.setResult isReferenceType task result = some stored ∧
      stored.fields task = (runtime.getTaskState task,result,runtime.exception task) ∧
      stored.rootedTasks = runtime.rootedTasks := by
  cases isReferenceType with
  | true =>
    obtain ⟨references,same⟩ := runtime.exchange_eq (runtime.result task) result
    refine ⟨_,if_pos rfl,?_,?_⟩
    · rw [same,fields]
      dsimp only
      rw [Function.update_self]
      rfl
    · rw [same]
  | false =>
    obtain ⟨value,rfl⟩ := Option.isSome_iff_exists.1 storable
    refine ⟨_,rfl,?_,rfl⟩
    rw [fields]
    dsimp only
    rw [Function.update_self]
    rfl

theorem fields_ensureCompletedOnce : (runtime.ensureCompletedOnce task).fields task = runtime.fields task ∧
    (runtime.ensureCompletedOnce task).rootedTasks = runtime.rootedTasks := by
  rw [ensureCompletedOnce]
  split_ifs <;> exact ⟨rfl,rfl⟩

theorem settle_eq : runtime.settle execute task = ((runtime.releaseFrameOwner task).unrootTask task,.returned) := by
  rw [settle,resume_eq]
  rfl

theorem fields_release : ((runtime.releaseFrameOwner task).unrootTask task).fields task = runtime.fields task := by
  have state := congrFun (state_releaseFrameOwner task runtime.machine) task
  have fields := congrArg (fun state => (Option.getD state .pending,runtime.result task,runtime.exception task)) state
  rw [unrootTask]
  split_ifs with rooted
  · exact fields
  · exact fields

theorem rootedTasks_release : ((runtime.releaseFrameOwner task).unrootTask task).rootedTasks = runtime.rootedTasks.erase task := by
  rw [unrootTask]
  split_ifs with rooted
  · rfl
  · exact (List.erase_of_not_mem rooted).symm

end Runtime

theorem fst_noexcept (performed : Runtime × Outcome) : (noexcept performed).1 = performed.1 := by
  rw [noexcept]
  split_ifs <;> rfl

/-- The call returns with the fields, and one root of the task fewer. -/
structure Settles (runtime : Runtime) (fields : AsyncState × Option Payload × Option Payload) (performed : Runtime × Outcome) :
    Prop where
  fields : performed.1.fields task = fields
  rootedTasks : performed.1.rootedTasks = runtime.rootedTasks.erase task
  outcome : performed.2 = .returned

namespace Settles

variable {execute task runtime} {fields : AsyncState × Option Payload × Option Payload}

theorem settle {before : Runtime} (same : before.fields task = fields) (rooted : before.rootedTasks = runtime.rootedTasks) :
    Settles task runtime fields (before.settle execute task) := by
  rw [before.settle_eq]
  exact ⟨(before.fields_release task).trans same,(before.rootedTasks_release task).trans (by rw [rooted]),rfl⟩

theorem noexcept {performed : Runtime × Outcome} (settles : Settles task runtime fields performed) :
    Settles task runtime fields (noexcept performed) := by
  rw [Tasks.noexcept,settles.outcome]
  exact settles

theorem result {before : Runtime} (same : before.fields task = runtime.fields task)
    (rooted : before.rootedTasks = runtime.rootedTasks) {isReferenceType : Bool} {result : Option Payload}
    (storable : (isReferenceType || result.isSome) = true) :
    Settles task runtime (.completed,result,runtime.exception task) (before.settleResult execute isReferenceType task result) := by
  obtain ⟨stored,stores,fields,rooted'⟩ := (before.setTaskState task .completed).fields_setResult task storable
  have stated := before.fields_setTaskState task .completed
  rw [Runtime.settleResult,stores]
  apply settle _ (rooted'.trans rooted)
  have exception := congrArg (fun fields => fields.2.2) same
  exact fields.trans (congrArg₂ (fun state exception => (state,result,exception)) (congrArg Prod.fst stated) exception)

end Settles

variable {task runtime} {kind : TaskKind} {attempt : Attempt kind}

section Writes

variable {before : Runtime} (same : before.fields task = runtime.fields task)
  (rooted : before.rootedTasks = runtime.rootedTasks)
include same rooted

theorem settles_completed : Settles task runtime (.completed,runtime.result task,runtime.exception task)
    ((before.setTaskState task .completed).settle execute task) := by
  have rooted' : (before.setTaskState task .completed).rootedTasks = runtime.rootedTasks := rooted
  apply Settles.settle _ rooted'
  have rest := congrArg Prod.snd same
  exact (before.fields_setTaskState task .completed).trans (congrArg (Prod.mk AsyncState.completed) rest)

theorem settles_failed (exception : Option Payload) : Settles task runtime (.faulted,runtime.result task,exception)
    (((before.setTaskState task .faulted).setException task exception).settle execute task) := by
  obtain ⟨fields,rooted'⟩ := (before.setTaskState task .faulted).fields_setException task exception
  have stated := before.fields_setTaskState task .faulted
  apply Settles.settle _ (rooted'.trans rooted)
  have result := congrArg (fun fields => fields.2.1) same
  exact fields.trans (congrArg₂ (fun state result => (state,result,exception)) (congrArg Prod.fst stated) result)

theorem throws_result {isReferenceType : Bool} {result : Option Payload}
    (unstorable : (isReferenceType || result.isSome) = false) :
    (before.settleResult execute isReferenceType task result).1.fields task =
        (.completed,runtime.result task,runtime.exception task) ∧
      (before.settleResult execute isReferenceType task result).1.rootedTasks = runtime.rootedTasks := by
  obtain ⟨value,null⟩ := Bool.or_eq_false_iff.1 unstorable
  rw [Option.isSome_eq_false_iff,Option.isNone_iff_eq_none] at null
  rw [value,null]
  have rest := congrArg Prod.snd same
  exact ⟨(before.fields_setTaskState task .completed).trans (congrArg (Prod.mk AsyncState.completed) rest),rooted⟩

end Writes

theorem perform_settles (acts : attempt.stopped runtime task = false) (storable : attempt.storable = true) :
    Settles task runtime (attempt.written runtime task) (attempt.perform execute task runtime) := by
  obtain ⟨ensured,rooted⟩ := runtime.fields_ensureCompletedOnce task
  cases attempt with
  | complete => exact (settles_completed execute rfl rfl).noexcept
  | setException exception => exact (settles_failed execute rfl rfl exception).noexcept
  | setResult result => exact (Settles.result rfl rfl storable).noexcept
  | valueScopeComplete value => exact Settles.result ensured rooted storable
  | scopeComplete =>
    have uncompleted : ¬ runtime.completed task = true := Bool.eq_false_iff.1 acts
    change Settles task runtime _ (runtime.scopeComplete execute kind task)
    unfold Runtime.scopeComplete
    rw [if_neg uncompleted]
    cases kind with
    | task => exact settles_completed execute ensured rooted
    | valueTask isReferenceType =>
      apply Settles.result ensured rooted
      rw [show isReferenceType = true from storable]
      rfl
  | fail exception =>
    have uncompleted : ¬ runtime.completed task = true := Bool.eq_false_iff.1 acts
    change Settles task runtime _ (runtime.fail execute task exception)
    rw [Runtime.fail,if_neg uncompleted]
    exact settles_failed execute ensured rooted exception
  | halt exception =>
    have uncompleted : ¬ runtime.completed task = true := Bool.eq_false_iff.1 acts
    change Settles task runtime _ (runtime.halt task exception)
    rw [Runtime.halt,if_neg uncompleted]
    dsimp only
    rw [← Runtime.settle_eq execute]
    exact settles_failed execute ensured rooted (some exception)

theorem perform_stopped (stopped : attempt.stopped runtime task = true) :
    attempt.perform execute task runtime = (runtime,.returned) := by
  cases attempt with
  | scopeComplete =>
    change runtime.scopeComplete execute kind task = _
    unfold Runtime.scopeComplete
    exact if_pos stopped
  | fail exception => exact if_pos stopped
  | halt exception => exact if_pos stopped
  | complete => cases stopped
  | setException exception => cases stopped
  | setResult result => cases stopped
  | valueScopeComplete value => cases stopped

theorem perform_unstorable (acts : attempt.stopped runtime task = false) (unstorable : attempt.storable = false) :
    (attempt.perform execute task runtime).1.fields task = (.completed,runtime.result task,runtime.exception task) ∧
      (attempt.perform execute task runtime).1.rootedTasks = runtime.rootedTasks := by
  obtain ⟨ensured,rooted⟩ := runtime.fields_ensureCompletedOnce task
  cases attempt with
  | setResult result =>
    change (noexcept (runtime.settleResult execute _ task result)).1.fields task = _ ∧
      (noexcept (runtime.settleResult execute _ task result)).1.rootedTasks = _
    rw [fst_noexcept]
    exact throws_result execute rfl rfl unstorable
  | valueScopeComplete value => exact throws_result execute ensured rooted unstorable
  | scopeComplete =>
    have uncompleted : ¬ runtime.completed task = true := Bool.eq_false_iff.1 acts
    change (runtime.scopeComplete execute kind task).1.fields task = _ ∧ (runtime.scopeComplete execute kind task).1.rootedTasks = _
    unfold Runtime.scopeComplete
    rw [if_neg uncompleted]
    cases kind with
    | task => cases unstorable
    | valueTask isReferenceType =>
      apply throws_result execute ensured rooted
      rw [show isReferenceType = false from unstorable]
      rfl
  | complete => cases unstorable
  | setException exception => cases unstorable
  | fail exception => cases unstorable
  | halt exception => cases unstorable

theorem perform_later (sound : attempt.Sound runtime task) (left : runtime.getTaskState task ≠ .pending)
    (unrooted : task ∉ runtime.rootedTasks) :
    (attempt.perform execute task runtime).1.fields task = runtime.fields task ∧
      task ∉ (attempt.perform execute task runtime).1.rootedTasks := by
  rw [Attempt.Sound,if_neg left] at sound
  cases acts : attempt.stopped runtime task with
  | true =>
    rw [perform_stopped execute acts]
    exact ⟨rfl,unrooted⟩
  | false =>
    have sound := sound.resolve_left (Bool.eq_false_iff.1 acts)
    cases storable : attempt.storable with
    | true =>
      rw [if_pos storable] at sound
      have settles := perform_settles execute acts storable
      rw [settles.fields,settles.rootedTasks]
      exact ⟨sound,fun member => unrooted (List.mem_of_mem_erase member)⟩
    | false =>
      rw [if_neg (Bool.eq_false_iff.1 storable)] at sound
      obtain ⟨fields,rooted⟩ := perform_unstorable execute acts storable
      rw [fields,rooted,← sound]
      exact ⟨rfl,unrooted⟩

theorem performAll_later {attempts : List (Attempt kind)} (sound : AllSound execute task attempts runtime)
    (left : runtime.getTaskState task ≠ .pending) (unrooted : task ∉ runtime.rootedTasks) :
    (performAll execute task attempts runtime).fields task = runtime.fields task ∧
      task ∉ (performAll execute task attempts runtime).rootedTasks := by
  induction attempts generalizing runtime with
  | nil => exact ⟨rfl,unrooted⟩
  | cons attempt attempts ih =>
    obtain ⟨first,rest⟩ := sound
    obtain ⟨fields,unrooted⟩ := perform_later execute first left unrooted
    rw [performAll]
    by_cases terminated : (attempt.perform execute task runtime).2 = .terminated
    · rw [if_pos terminated]
      exact ⟨fields,unrooted⟩
    · rw [if_neg terminated]
      have same := congrArg Prod.fst fields
      have left : (attempt.perform execute task runtime).1.getTaskState task ≠ .pending := fun pending => left (same.symm.trans pending)
      obtain ⟨fields',unrooted⟩ := ih (rest terminated) left unrooted
      exact ⟨fields'.trans fields,unrooted⟩

theorem written_ne (attempt : Attempt kind) (runtime : Runtime) (task : Payload) :
    (attempt.written runtime task).1 ≠ .pending := by
  cases attempt with
  | scopeComplete => cases kind <;> exact AsyncState.noConfusion
  | complete => exact AsyncState.noConfusion
  | setException exception => exact AsyncState.noConfusion
  | setResult result => exact AsyncState.noConfusion
  | valueScopeComplete value => exact AsyncState.noConfusion
  | fail exception => exact AsyncState.noConfusion
  | halt exception => exact AsyncState.noConfusion

end Attempts

theorem completedOnce {kind : TaskKind} (execute : Execute) (task : Payload) (runtime : Runtime)
    (pending : runtime.getTaskState task = .pending) (attempts : List (Attempt kind))
    (sound : AllSound execute task attempts runtime) : CompletedOnce execute task runtime attempts := by
  cases attempts with
  | nil => trivial
  | cons attempt attempts =>
    obtain ⟨first,rest⟩ := sound
    rw [Attempt.Sound,if_pos pending] at first
    obtain ⟨acts,storable,rooted⟩ := first
    have settles := perform_settles execute acts storable
    have left : (attempt.perform execute task runtime).1.getTaskState task ≠ .pending := by
      intro pending
      exact written_ne attempt runtime task ((congrArg Prod.fst settles.fields).symm.trans pending)
    have unrooted : task ∉ (attempt.perform execute task runtime).1.rootedTasks := by
      rw [settles.rootedTasks,← List.count_eq_zero,List.count_erase_self]
      omega
    have continues : (attempt.perform execute task runtime).2 ≠ .terminated := by
      rw [settles.outcome]
      exact Outcome.noConfusion
    obtain ⟨fields,unrooted⟩ := performAll_later execute (rest continues) left unrooted
    have performed : performAll execute task (attempt :: attempts) runtime =
        performAll execute task attempts (attempt.perform execute task runtime).1 := by
      rw [performAll,if_neg continues]
    rw [CompletedOnce,performed,fields]
    exact ⟨settles.fields,fun pending => left ((congrArg Prod.fst fields).symm.trans pending),unrooted⟩

def pendingTask : Runtime where
  machine := Heap.Runtime.initial.setTaskState 1 (some .pending)
  references payload := if payload = 1 then 1 else 0
  result _ := none
  exception _ := none
  continuation _ := none
  completed _ := false
  rootedTasks := [1]
  evalStack _ := []
  executions := []

def idle : Execute := fun _ _ _ runtime => (runtime,.returned)

def scopeAttempts : List (Attempt .task) := [.scopeComplete,.fail (some 5),.halt 6]

theorem completedOnce_scopeAttempts : CompletedOnce idle 1 pendingTask scopeAttempts := by
  refine completedOnce idle 1 pendingTask rfl scopeAttempts ⟨?_,fun _ => ⟨?_,fun _ => ⟨?_,fun _ => trivial⟩⟩⟩
  · rw [Attempt.Sound,if_pos (by decide)]
    exact ⟨rfl,rfl,Nat.le_refl 1⟩
  · rw [Attempt.Sound,if_neg (by decide)]
    exact .inl rfl
  · rw [Attempt.Sound,if_neg (by decide)]
    exact .inl rfl

/-- A script completes a task and then sets an exception. -/
theorem completedOnce_overwritten : ¬ ∀ (kind : TaskKind) (execute : Execute) (task : Payload) (runtime : Runtime),
    runtime.getTaskState task = .pending → ∀ attempts : List (Attempt kind), CompletedOnce execute task runtime attempts := by
  intro once
  obtain ⟨fields,-,-⟩ := once .task idle 1 pendingTask rfl [.complete,.setException (some 5)]
  cases congrArg Prod.fst fields

end ShardScript.Tasks
