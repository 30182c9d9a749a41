import ShardScript.Source.Simulation
import ShardScript.Emitter.Switch

/-! Which clause the emitted code of a switch comes to: the first one whose test holds, or a default before that. -/
namespace ShardScript.Source
open Library ByteCode Emitter ShardScript.Runtime FrameState

/-- An entry of the evaluation stack: the header, and the value or a pointer to it. A null literal has no shape. -/
structure StackEntry (Shape : Type) where
  shape : Option Shape
  payload : Nat

structure EvalStack (Shape Rest : Type) where
  entries : List (StackEntry Shape)
  rest : Rest

variable {Data Exception Body : Type} (machine : DataMachine Data Exception)

@[grind] def dispatch : List (Section Body) → Nat → Data → Progress (Option Nat × Data)
  | [],_,data => .value (none,data) []
  | .skipped :: rest,index,data | .reported _ :: rest,index,data => dispatch rest (index + 1) data
  | .untested _ :: _,index,data => .value (some index,data) []
  | .tested test _ _ :: rest,index,data => (execTest machine test data).bind fun result =>
      if result.1 then .value (some index,result.2) [] else dispatch rest (index + 1) result.2

theorem Progress.after_bind {α β : Type} (trace : List Event) (first : Progress α) (rest : α → Progress β) :
    (first.after trace).bind rest = (first.bind rest).after trace := by
  cases first with
  | value result earlier =>
    simp only [after,bind]
    cases rest result <;> simp
  | timeout | stopped => rfl

theorem Progress.bind_assoc {α β γ : Type} (first : Progress α) (second : α → Progress β)
    (third : β → Progress γ) :
    (first.bind second).bind third = first.bind fun value => (second value).bind third := by
  cases first with
  | value result trace => exact Progress.after_bind trace (second result) third
  | timeout | stopped => rfl

variable {machine} {code : Code} {base : FrameState Data Exception} {stack : List Nat} {target : Option Targets} {stop : Nat}

/-- The binding and the block of a clause, which ends with a jump to the end of the switch. -/
def ArmPlaced (code : Code) (target : Option Targets) (stop : Nat) (arm : Emission × Statement .block)
    (entry : Nat) : Prop :=
  ∃ open_ : List DeferScope,
    let inner : List DeferScope := ⟨0,false⟩ :: open_
    let drain := entry + arm.1.size + arm.2.size inner
    arm.1.Placed code entry ∧
      (arm.2.Placed code target inner (entry + arm.1.size) ∧
        DrainPlaced code (headCount (arm.2.scopes inner)) drain) ∧
      code.fetch (drain + drainSize (headCount (arm.2.scopes inner))) = some (.jump stop)

def Enters (code : Code) (target : Option Targets) (base : FrameState Data Exception) (stack : List Nat)
    (stop : Nat) (sections : List (Section (Statement .block))) (result : Option Nat × Data)
    (config : FrameState.Config Data Exception) : Prop :=
  match result.1 with
  | none => config = .running (at_ base stop result.2 stack)
  | some index => ∃ clause ∈ sections[index]?, ∃ arm ∈ clause.arm, ∃ entry,
      ArmPlaced code target stop arm entry ∧ config = .running (at_ base entry result.2 stack)

theorem dispatch_realizes {Proper : Exit → Prop} {turns : Nat} (calm : base.interruptionReason = .none)
    (all sections : List (Section (Statement .block))) {open_ : List DeferScope} {index start : Nat}
    (suffix : all.drop index = sections) (placed : (Section.cases sections).Placed code target open_ start)
    (ends : start + (Section.cases sections).size open_ = stop) {data : Data} :
    Realizes machine code Proper turns 0 (.running (at_ base start data stack))
      (dispatch machine sections index data) (Enters code target base stack stop all) := by
  induction sections generalizing index start open_ data with
  | nil =>
    refine .value ?_
    rw [Enters,← ends]
    rfl
  | cons clause sections ih =>
    have rest : all.drop (index + 1) = sections := by
      rw [← List.tail_drop,suffix,List.tail_cons]
    have here : clause ∈ all[index]? := by
      rw [← List.head?_drop,suffix]
      rfl
    cases clause with
    | skipped | reported => exact ih rest placed ends
    | untested body =>
      obtain ⟨block,jump,_⟩ := placed
      have stops : start + body.size (⟨0,false⟩ :: open_) + drainSize (headCount (body.scopes (⟨0,false⟩ :: open_))) +
          10 + (Section.cases sections).size (body.scopes (⟨0,false⟩ :: open_)).tail = stop := by
        rw [← ends,Section.cases,Statement.size]
        simp only [← Nat.add_assoc]
      exact .value ⟨_,here,(.skip,body),rfl,start,⟨open_,trivial,block,stops ▸ jump⟩,rfl⟩
    | tested test bind body =>
      obtain ⟨test_,exit,bind_,block,jump,rest_⟩ := placed
      rw [dispatch]
      have stops : start + test.size + 10 + bind.size + body.size (⟨0,false⟩ :: open_) +
          drainSize (headCount (body.scopes (⟨0,false⟩ :: open_))) + 10 +
          (Section.cases sections).size (body.scopes (⟨0,false⟩ :: open_)).tail = stop := by
        rw [← ends,Section.cases,Statement.size]
        simp only [← Nat.add_assoc]
      refine Realizes.weaken ((execTest_realizes calm false test_ exit).bind ?_) (Nat.zero_le 1)
      rintro ⟨truth,next⟩ _ rfl
      cases truth with
      | true => exact .value ⟨_,here,(bind,body),rfl,_,⟨open_,bind_,block,stops ▸ jump⟩,rfl⟩
      | false => exact ih rest rest_ stops

def chosenArm (sections : List (Section Emission)) : Option Nat → Emission
  | none => SwitchSlot.nullLoad
  | some index =>
    match (sections[index]?).bind Section.arm with
    | some (bind,arm) => .seq bind arm
    | none => .skip

theorem execEmission_arms (all sections : List (Section Emission)) {index : Nat}
    (suffix : all.drop index = sections) (data : Data) :
    execEmission machine (Section.arms SwitchSlot.nullLoad sections) data =
      (dispatch machine sections index data).bind fun result =>
        execEmission machine (chosenArm all result.1) result.2 := by
  induction sections generalizing index data with
  | nil => exact (Progress.after_nil _).symm
  | cons clause sections ih =>
    have rest : all.drop (index + 1) = sections := by
      rw [← List.tail_drop,suffix,List.tail_cons]
    have here : all[index]? = some clause := by
      rw [← List.head?_drop,suffix]
      rfl
    cases clause with
    | skipped | reported => exact ih rest data
    | untested arm =>
      simp [Section.arms,execEmission,dispatch,Progress.bind,chosenArm,here,Section.arm,Progress.after_nil]
    | tested test bind arm =>
      rw [Section.arms,execEmission,dispatch,execTest,Progress.bind_assoc,Progress.bind_assoc]
      congr 1
      funext next
      cases popped : machine.popTruth next with
      | none => rfl
      | some result =>
        obtain ⟨truth,next⟩ := result
        cases truth with
        | true => simp [Progress.bind,chosenArm,here,Section.arm,Progress.after_nil]
        | false => simpa [Progress.bind,Progress.after_nil] using ih rest next

def emittedSwitch (machine : DataMachine Data Exception) (scrutinee : Emission)
    (sections : List (Section Body)) (data : Data) : Progress (Option Nat × Data) :=
  if sections.isEmpty then .value (none,data) []
  else (execEmission machine scrutinee data).bind (dispatch machine sections 0)

/-- A final code has the emitted piece, with the jumps patched that wait around it. -/
structure Emitted (targets : List Targets) (extra : Pending) (before after : EmitState) (code : Code) : Prop where
  ready : Ready targets before
  free : Pending.FreeFrom (extra ++ pendingOf before.loops targets) before.size
  completes : Completes code after.code (extra ++ pendingOf after.loops targets)

end ShardScript.Source
