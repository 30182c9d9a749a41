import Mathlib.Algebra.Group.Nat.Hom
import Mathlib.Data.List.Basic
import ShardScript.Library.Attempt

/-! The evaluation stack of a frame, and how the arguments of a call are passed over it to the frame of a method. -/
namespace ShardScript.Passing
open Library

inductive ParameterSymbol where
  | declared (index : Nat)
  | value
  deriving DecidableEq

structure MethodSymbol where
  name : String
  isInstance : Bool
  parameters : List ParameterSymbol
  returnsVoid : Bool
  deriving DecidableEq

namespace MethodSymbol

def thisCount (method : MethodSymbol) : Nat := if method.isInstance then 1 else 0

def getEvalStackArgumentsCount (method : MethodSymbol) : Nat :=
  (method.parameters.length % 2 ^ 16 + method.thisCount) % 2 ^ 16

theorem count_le (method : MethodSymbol) :
    method.getEvalStackArgumentsCount ≤ method.parameters.length + method.thisCount :=
  Nat.le_trans (Nat.mod_le _ _) (Nat.add_le_add_right (Nat.mod_le _ _) _)

theorem count_eq_iff (method : MethodSymbol) :
    method.getEvalStackArgumentsCount = method.parameters.length + method.thisCount ↔
      method.parameters.length + method.thisCount < 2 ^ 16 := by
  rw [getEvalStackArgumentsCount,Nat.mod_add_mod,Nat.mod_eq_iff_lt (by decide)]

end MethodSymbol

structure Frame (Value : Type) where
  method : MethodSymbol
  slots : List Value

structure Machine (Value World : Type) where
  stack : List Value
  locals : Nat → Option Value
  frames : List (Frame Value)
  world : World

/-- What is done on a machine. The code of an expression is taken for what the machine does on it. -/
abbrev Evaluation (Value World : Type) : Type → Type := Attempt (Machine Value World)

section Machine

variable {Value World : Type} (machine : Machine Value World)

def Machine.setLocal (slot : Nat) (value : Value) : Machine Value World :=
  { machine with locals := fun other => if other = slot then some value else machine.locals other }

def push (value : Value) : Evaluation Value World Unit := fun machine =>
  (some (),{ machine with stack := value :: machine.stack })

def pop : Evaluation Value World Value := fun machine =>
  match machine.stack with
  | [] => (none,machine)
  | value :: stack => (some value,{ machine with stack := stack })

def fail {Result : Type} : Evaluation Value World Result := fun machine => (none,machine)

def duplicate : Evaluation Value World Unit := do
  let value ← pop
  push value
  push value

def storeLocal (slot : Nat) : Evaluation Value World Unit := do
  let value ← pop
  fun machine => (some (),machine.setLocal slot value)

def loadLocal (slot : Nat) : Evaluation Value World Unit := fun machine =>
  match machine.locals slot with
  | some value => push value machine
  | none => fail machine

def popArguments : Nat → Evaluation Value World (List Value)
  | 0 => pure []
  | count + 1 => do
      let argument ← pop
      let arguments ← popArguments count
      pure (argument :: arguments)

def pushFrame (frame : Frame Value) : Evaluation Value World Unit := fun machine =>
  (some (),{ machine with frames := machine.frames ++ [frame] })

def onWorld {Result : Type} (attempt : Attempt World Result) : Evaluation Value World Result := fun machine =>
  ((attempt machine.world).1,{ machine with world := (attempt machine.world).2 })

-- What comes of the body of a method, on the slots of its arguments.
variable (body : MethodSymbol → List Value → Attempt World Value)

def invokeMethodInternal (method : MethodSymbol) (slots : List Value) : Evaluation Value World Value :=
  onWorld (body method slots)

def invokeMethod (method : MethodSymbol) (arguments : List Value) : Evaluation Value World Unit := do
  if method.getEvalStackArgumentsCount ≠ arguments.length then fail
  else
    pushFrame ⟨method,arguments⟩
    let result ← invokeMethodInternal body method arguments
    if method.returnsVoid then pure () else push result

def callMethodSymbol (method : MethodSymbol) : Evaluation Value World Unit := do
  let arguments ← popArguments method.getEvalStackArgumentsCount
  invokeMethod body method arguments

def visitExpression (value : Value) : Evaluation Value World Unit := push value

def visitArgumentsList : List Value → Evaluation Value World Unit
  | [] => pure ()
  | argument :: arguments => do
      visitArgumentsList arguments
      visitExpression argument

@[simp] theorem push_run (value : Value) (machine : Machine Value World) :
    push value machine = (some (),{ machine with stack := value :: machine.stack }) := rfl

theorem setLocal_locals (slot : Nat) (value : Value) :
    (machine.setLocal slot value).locals slot = some value := if_pos rfl

theorem setLocal_locals_of_ne {slot other : Nat} (value : Value) (ne : other ≠ slot) :
    (machine.setLocal slot value).locals other = machine.locals other := if_neg ne

theorem loadLocal_run {slot : Nat} {value : Value} {machine : Machine Value World}
    (known : machine.locals slot = some value) : loadLocal slot machine = push value machine := by
  rw [loadLocal,known]

theorem visitArgumentsList_run (arguments : List Value) (machine : Machine Value World) :
    visitArgumentsList arguments machine = (some (),{ machine with stack := arguments ++ machine.stack }) := by
  induction arguments generalizing machine with
  | nil => rfl
  | cons argument arguments ih =>
    rw [visitArgumentsList,Attempt.run_bind,ih]
    rfl

theorem popArguments_run (arguments rest : List Value) (machine : Machine Value World)
    (stack : machine.stack = arguments ++ rest) :
    popArguments arguments.length machine = (some arguments,{ machine with stack := rest }) := by
  induction arguments generalizing machine with
  | nil =>
    rw [List.nil_append] at stack
    rw [← stack]
    rfl
  | cons argument arguments ih =>
    have top : pop machine = (some argument,{ machine with stack := arguments ++ rest }) := by
      rw [pop,stack]
      rfl
    have others := ih { machine with stack := arguments ++ rest } rfl
    rw [List.length_cons,popArguments,Attempt.run_bind,top]
    simp only [Attempt.run_bind,others]
    rfl

variable {method : MethodSymbol} {arguments : List Value}

theorem callMethodSymbol_run (rest : List Value)
    (machine : Machine Value World) (count : method.getEvalStackArgumentsCount = arguments.length)
    (stack : machine.stack = arguments ++ rest) :
    callMethodSymbol body method machine = invokeMethod body method arguments { machine with stack := rest } := by
  rw [callMethodSymbol,Attempt.run_bind,count,popArguments_run arguments rest machine stack]

theorem invokeMethod_mismatch
    (mismatch : method.getEvalStackArgumentsCount ≠ arguments.length) (machine : Machine Value World) :
    invokeMethod body method arguments machine = (none,machine) := by
  rw [invokeMethod,if_pos mismatch]
  rfl

theorem invokeMethod_frames
    (count : method.getEvalStackArgumentsCount = arguments.length) (machine : Machine Value World) :
    (invokeMethod body method arguments machine).2.frames = machine.frames ++ [⟨method,arguments⟩] := by
  rw [invokeMethod,if_neg (not_not.2 count),Attempt.run_bind]
  simp only [pushFrame,Attempt.run_bind,invokeMethodInternal,onWorld]
  cases (body method arguments machine.world).1 with
  | none => rfl
  | some result =>
    cases method.returnsVoid with
    | true => rfl
    | false => rfl

theorem callMethodSymbol_frames
    (enough : method.getEvalStackArgumentsCount ≤ machine.stack.length) :
    (callMethodSymbol body method machine).2.frames =
      machine.frames ++ [⟨method,machine.stack.take method.getEvalStackArgumentsCount⟩] := by
  have count := (List.length_take_of_le enough).symm
  rw [callMethodSymbol_run body (machine.stack.drop method.getEvalStackArgumentsCount) machine count
    (List.take_append_drop _ _).symm,invokeMethod_frames body count]

theorem frames_bind {Result Result' : Type} (first : Evaluation Value World Result)
    {continuation : Result → Evaluation Value World Result'}
    (keeps : ∀ result machine, (continuation result machine).2.frames = machine.frames) (machine : Machine Value World) :
    ((first >>= continuation) machine).2.frames = (first machine).2.frames := by
  rw [Attempt.run_bind]
  split
  · rename_i failed
    rw [failed]
  · rename_i come
    rw [keeps,come]

theorem pop_frames : (pop machine).2.frames = machine.frames := by
  rw [pop]
  split <;> rfl

end Machine

end ShardScript.Passing
