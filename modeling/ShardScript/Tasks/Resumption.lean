import Mathlib.Data.List.Basic
import ShardScript.Tasks.Runtime

/-! What resuming a continuation leaves of the call stack, and that it runs nothing. -/
namespace ShardScript.Tasks
open Heap (Payload Frame AsyncState)

theorem findInterfaceImplementation_iAsyncState (method : MethodSymbol) :
    findInterfaceImplementation method iAsyncState = none := rfl

theorem Runtime.resume_eq (runtime : Runtime) (execute : Execute) (task : Payload) :
    runtime.resume execute task = (runtime,.returned) := by
  rw [resume]
  unfold resumeContinuation
  rw [Option.bind_some,findInterfaceImplementation_iAsyncState]
  cases runtime.continuation task <;> rfl

/-- The body of the implementation has been executed once, with the continuation as its receiver and the field cleared
before, and the call stack and the counter are as they were. What the body calls in turn is `nested`. -/
structure Resumed (typeOf : Payload → TypeSymbol) (task continuation : Payload) (runtime after : Runtime) : Prop where
  executed : ∃ (implementation : MethodSymbol) (started : Runtime) (nested : List (MethodSymbol × List Payload)),
    findInterfaceImplementation moveNext (typeOf continuation) = some implementation ∧
    started.continuation task = none ∧ started.executions = runtime.executions ++ [(implementation,[continuation])] ∧
    after.executions = started.executions ++ nested
  callStack : after.machine.callStack = runtime.machine.callStack
  references : after.references continuation = runtime.references continuation

theorem Resumed.executions_ne {typeOf : Payload → TypeSymbol} {task continuation : Payload} {runtime after : Runtime}
    (resumed : Resumed typeOf task continuation runtime after) : after.executions ≠ runtime.executions := by
  intro same
  obtain ⟨implementation,started,nested,-,-,begun,ended⟩ := resumed.executed
  have lengths := congrArg List.length ended
  rw [begun,same,List.length_append,List.length_append,List.length_singleton] at lengths
  omega

/-- The continuation is not resumed, and stays registered. -/
theorem resume_never (execute : Execute) (typeOf : Payload → TypeSymbol) (runtime : Runtime) (task continuation : Payload)
    (registered : runtime.continuation task = some continuation) :
    ¬ Resumed typeOf task continuation runtime (runtime.resume execute task).1 ∧
      (runtime.resume execute task).1.continuation task = some continuation := by
  rw [runtime.resume_eq]
  exact ⟨fun resumed => resumed.executions_ne rfl,registered⟩

def stateMachine : TypeSymbol := .type false [(moveNext,⟨1,0,true⟩)] [iAsyncState]

def waiting : Runtime where
  machine := Heap.Runtime.initial.setTaskState 1 (some .completed)
  references payload := if payload = 2 then 1 else 0
  result _ := none
  exception _ := none
  continuation task := if task = 1 then some 2 else none
  completed _ := false
  rootedTasks := [1]
  evalStack _ := []
  executions := []

theorem resume_never_waiting :
    ¬ Resumed (fun _ => stateMachine) 1 2 waiting (waiting.resume (fun _ _ _ runtime => (runtime,.returned)) 1).1 ∧
      (waiting.resume (fun _ _ _ runtime => (runtime,.returned)) 1).1.continuation 1 = some 2 :=
  resume_never _ _ waiting 1 2 rfl

theorem resume_lost : ¬ ∀ (execute : Execute) (typeOf : Payload → TypeSymbol) (runtime : Runtime) (task continuation : Payload),
    runtime.continuation task = some continuation →
      Resumed typeOf task continuation runtime (runtime.resume execute task).1 := by
  intro resumes
  have resumed := resumes (fun _ _ _ runtime => (runtime,.returned)) (fun _ => stateMachine) waiting 1 2 rfl
  exact resumed.executions_ne rfl

end ShardScript.Tasks
