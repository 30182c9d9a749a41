import ShardScript.ByteCode.Code
import Mathlib.Data.List.Basic
import ShardScript.Emitter.EmitState

/-! Backpatching: a code whose pending jumps are still to be overwritten, against the final
code in which they have been. -/
namespace ShardScript.Emitter
open ByteCode

abbrev Pending := List (Nat × Nat)

def Pending.resolve (pending : Pending) (offset : Nat) (instruction : Instruction) : Instruction :=
  match pending.lookup offset with
  | some target => instruction.withTarget 0 target
  | none => instruction

def Completes (final code : Code) (pending : Pending) : Prop :=
  ∀ offset instruction, code.fetch offset = some instruction →
    final.fetch offset = some (pending.resolve offset instruction)

theorem Completes.self (code : Code) : Completes code code [] := fun _ _ h => h

variable {final code : Code}

theorem Completes.before {pending : Pending} {right : Code}
    (h : Completes final (code ++ right) pending) : Completes final code pending :=
  fun offset instruction found => h offset instruction (Code.fetch_append_left right found)

theorem Completes.last {pending : Pending} {instruction : Instruction}
    (h : Completes final (code ++ [instruction]) pending) :
    final.fetch code.size = some (pending.resolve code.size instruction) :=
  h _ _ (Code.fetch_size code [] instruction)

theorem Completes.agree {pending other : Pending}
    (h : Completes final code pending)
    (same : ∀ offset < code.size, pending.lookup offset = other.lookup offset) :
    Completes final code other := by
  intro offset instruction found
  have bound := Code.lt_size_of_fetch found
  have completed := h offset instruction found
  rwa [Pending.resolve,same offset bound] at completed

theorem withTarget_withTarget (instruction : Instruction) (first second : Nat) :
    (instruction.withTarget 0 first).withTarget 0 second = instruction.withTarget 0 second := by
  cases instruction <;> simp [Instruction.withTarget]

theorem Completes.paste {pending : Pending} {offset target : Nat}
    (h : Completes final (code.paste offset target) pending)
    (free : ∀ other ∈ pending.lookup offset, other = target) :
    Completes final code ((offset,target) :: pending) := by
  intro other instruction found
  have pasted := Code.fetch_paste code offset target other
  by_cases same : other = offset
  · subst same
    rw [if_pos rfl,found] at pasted
    have completed := h _ _ pasted
    rw [completed]
    simp only [Pending.resolve,List.lookup_cons,beq_self_eq_true]
    cases looked : List.lookup other pending with
    | none => rfl
    | some value =>
      have value := free value (by rw [looked]; rfl)
      subst value
      exact congrArg some (withTarget_withTarget _ _ _)
  · rw [if_neg same,found] at pasted
    have different : (other == offset) = false := by simpa using same
    rw [h _ _ pasted]
    simp only [Pending.resolve,List.lookup_cons,different]

theorem Completes.pasteFree {pending : Pending} {offset target : Nat}
    (h : Completes final (code.paste offset target) pending) (free : pending.lookup offset = none) :
    Completes final code ((offset,target) :: pending) := by
  apply h.paste
  rw [free]
  intro other member
  cases member

theorem Completes.pasteAll {pending : Pending} {offsets : List Nat} {target : Nat}
    (h : Completes final (code.pasteAll offsets target) pending)
    (free : ∀ offset ∈ offsets, pending.lookup offset = none) :
    Completes final code (offsets.map (fun offset => (offset,target)) ++ pending) := by
  induction offsets generalizing code with
  | nil => exact h
  | cons offset offsets ih =>
    have rest := ih (show Completes final ((code.paste offset target).pasteAll offsets target) pending from h)
      fun other member => free other (List.mem_cons_of_mem _ member)
    refine rest.paste ?_
    intro value looked
    rw [List.lookup_append,free offset (List.mem_cons_self),Option.or_none] at looked
    clear ih rest h free
    induction offsets with
    | nil => cases looked
    | cons first offsets ih =>
      rw [List.map_cons,List.lookup_cons] at looked
      split at looked
      · exact (Option.some.inj looked).symm
      · exact ih looked

end ShardScript.Emitter

/-! What visiting an expression emits: data instructions and tracker updates in order, and the
two jump patterns of conditional expressions. -/
namespace ShardScript.Emitter
open ByteCode

inductive Emission where
  | skip
  | op (instruction : Instruction) (data : instruction.isData = true := by exact @rfl Bool true)
  | evalPush (payload : Nat)
  | evalPop (count : Nat)
  | seq (first second : Emission)
  | branch (condition whenTrue whenFalse : Emission)
  | always (arm rest : Emission)

namespace Emission

def all (parts : List Emission) : Emission := parts.foldr .seq .skip

@[grind] def run : Emission → EmitState → EmitState
  | skip,state => state
  | op instruction _,state => state.emit instruction
  | evalPush payload,state => state.evalPush payload
  | evalPop count,state => state.evalPop count
  | seq first second,state => second.run (first.run state)
  | branch condition whenTrue whenFalse,state =>
      let tested := condition.run state
      let jumpFalseAddress := tested.size
      let armed := (tested.emit (.jumpFalse 0)).evalPop 1
      let armBaseDepth := armed.tracker.currentDepth
      let left := whenTrue.run armed
      let jumpEndAddress := left.size
      let jumped := (left.emit (.jump 0)).track (.atDepth armBaseDepth)
      let right := whenFalse.run jumped
      (right.paste jumpFalseAddress jumped.size).paste jumpEndAddress right.size
  | always arm rest,state =>
      let armBaseDepth := state.tracker.currentDepth
      let armed := arm.run state
      let jumpEndAddress := armed.size
      let rested := rest.run ((armed.emit (.jump 0)).track (.atDepth armBaseDepth))
      rested.paste jumpEndAddress rested.size

@[grind] def size : Emission → Nat
  | skip | evalPush _ | evalPop _ => 0
  | op instruction _ => instruction.size
  | seq first second => first.size + second.size
  | branch condition whenTrue whenFalse => condition.size + 10 + whenTrue.size + 10 + whenFalse.size
  | always arm rest => arm.size + 10 + rest.size

def Placed (code : Code) : Emission → Nat → Prop
  | skip,_ | evalPush _,_ | evalPop _,_ => True
  | op instruction _,start => code.fetch start = some instruction
  | seq first second,start => Placed code first start ∧ Placed code second (start + first.size)
  | branch condition whenTrue whenFalse,start =>
      let jumpFalse := start + condition.size
      let jumpEnd := jumpFalse + 10 + whenTrue.size
      Placed code condition start ∧ code.fetch jumpFalse = some (.jumpFalse (jumpEnd + 10)) ∧
        Placed code whenTrue (jumpFalse + 10) ∧
        code.fetch jumpEnd = some (.jump (jumpEnd + 10 + whenFalse.size)) ∧
        Placed code whenFalse (jumpEnd + 10)
  | always arm rest,start =>
      let jumpEnd := start + arm.size
      Placed code arm start ∧ code.fetch jumpEnd = some (.jump (jumpEnd + 10 + rest.size)) ∧
        Placed code rest (jumpEnd + 10)

end Emission

def Pending.FreeFrom (pending : Pending) (start : Nat) : Prop :=
  ∀ offset ≥ start, pending.lookup offset = none

variable {pending : Pending}

theorem Pending.FreeFrom.later {start later : Nat} (h : pending.FreeFrom start)
    (le : start ≤ later) : pending.FreeFrom later :=
  fun offset bound => h offset (Nat.le_trans le bound)

theorem Pending.FreeFrom.cons {pending : Pending} {start offset target : Nat}
    (h : pending.FreeFrom start) (lt : offset < start) :
    Pending.FreeFrom ((offset,target) :: pending) start := by
  intro other bound
  have different : (other == offset) = false := by
    rw [beq_eq_false_iff_ne]
    omega
  simp only [List.lookup_cons,different]
  exact h other bound

@[simp] theorem Pending.resolve_cons_self (pending : Pending) (offset target : Nat)
    (instruction : Instruction) :
    Pending.resolve ((offset,target) :: pending) offset instruction = instruction.withTarget 0 target := by
  simp [Pending.resolve]

theorem Pending.resolve_cons_of_ne {offset target other : Nat}
    (ne : other ≠ offset) (instruction : Instruction) :
    Pending.resolve ((offset,target) :: pending) other instruction =
      pending.resolve other instruction := by
  have different : (other == offset) = false := by simpa using ne
  simp only [Pending.resolve,List.lookup_cons,different]

theorem Pending.FreeFrom.resolve {start offset : Nat} (h : pending.FreeFrom start)
    (le : start ≤ offset) (instruction : Instruction) :
    pending.resolve offset instruction = instruction := by
  simp only [Pending.resolve,h offset le]

theorem Completes.drop {final code : Code} {offset target : Nat}
    (h : Completes final code ((offset,target) :: pending)) (le : code.size ≤ offset) :
    Completes final code pending := by
  apply h.agree
  intro other bound
  have different : (other == offset) = false := by
    rw [beq_eq_false_iff_ne]
    omega
  simp only [List.lookup_cons,different]

theorem Completes.dropSecond {final code : Code} {first second : Nat × Nat}
    (h : Completes final code (first :: second :: pending)) (le : code.size ≤ second.1) :
    Completes final code (first :: pending) := by
  apply h.agree
  intro other bound
  have different : (other == second.1) = false := by
    rw [beq_eq_false_iff_ne]
    omega
  rw [List.lookup_cons,List.lookup_cons,List.lookup_cons,different]

namespace Emission

theorem run_frame (emission : Emission) (state : EmitState) :
    emission.run state =
      { state with code := (emission.run state).code, tracker := (emission.run state).tracker } := by
  induction emission generalizing state with
  | skip | op | evalPush | evalPop => rfl
  | seq first second ihFirst ihSecond =>
    rw [run,ihSecond,ihFirst]
  | branch condition whenTrue whenFalse ihCondition ihTrue ihFalse =>
    simp only [run]
    rw [ihFalse,ihTrue,ihCondition]
    rfl
  | always arm rest ihArm ihRest =>
    simp only [run]
    rw [ihRest,ihArm]
    rfl

@[simp] theorem size_run (emission : Emission) (state : EmitState) :
    (emission.run state).code.size = state.code.size + emission.size := by
  induction emission generalizing state with
  | skip | evalPush | evalPop => rfl
  | op instruction => simp [run,size,EmitState.emit]
  | seq first second ihFirst ihSecond => simp [run,size,ihSecond,ihFirst,Nat.add_assoc]
  | branch condition whenTrue whenFalse ihCondition ihTrue ihFalse =>
    simp [run,size,EmitState.paste,EmitState.track,EmitState.emit,EmitState.evalPop,Instruction.size,
      ihFalse,ihTrue,ihCondition]
    omega
  | always arm rest ihArm ihRest =>
    simp [run,size,EmitState.paste,EmitState.track,EmitState.emit,Instruction.size,ihRest,ihArm]
    omega

theorem placed_of_completes (emission : Emission) (state : EmitState) {final : Code}
    (completes : Completes final (emission.run state).code pending)
    (free : pending.FreeFrom state.code.size) :
    emission.Placed final state.code.size ∧ Completes final state.code pending := by
  induction emission generalizing state pending with
  | skip | evalPush | evalPop => exact ⟨trivial,completes⟩
  | op instruction =>
    have found := completes.last
    rw [free.resolve (Nat.le_refl _)] at found
    exact ⟨found,completes.before⟩
  | seq first second ihFirst ihSecond =>
    obtain ⟨placedSecond,completesFirst⟩ := ihSecond (first.run state) completes
      (free.later (by simp))
    obtain ⟨placedFirst,completesState⟩ := ihFirst state completesFirst free
    rw [size_run] at placedSecond
    exact ⟨⟨placedFirst,placedSecond⟩,completesState⟩
  | branch condition whenTrue whenFalse ihCondition ihTrue ihFalse =>
    -- The patches come last in the code and first here: both jumps become pending again.
    let tested := condition.run state
    let armed := (tested.emit (.jumpFalse 0)).evalPop 1
    let left := whenTrue.run armed
    let jumped := (left.emit (.jump 0)).track (.atDepth armed.tracker.currentDepth)
    let right := whenFalse.run jumped
    have testedSize : tested.code.size = state.code.size + condition.size := size_run condition state
    have armedSize : armed.code.size = tested.code.size + 10 := by
      simp [armed,EmitState.evalPop,EmitState.track,EmitState.emit,Instruction.size]
    have leftSize : left.code.size = armed.code.size + whenTrue.size := size_run whenTrue armed
    have jumpedSize : jumped.code.size = left.code.size + 10 := by
      simp [jumped,EmitState.track,EmitState.emit,Instruction.size]
    have rightSize : right.code.size = jumped.code.size + whenFalse.size := size_run whenFalse jumped
    have unpatched : Completes final right.code
        ((tested.code.size,jumped.code.size) :: (left.code.size,right.code.size) :: pending) := by
      have once : Completes final (right.code.paste tested.code.size jumped.code.size)
          ((left.code.size,right.code.size) :: pending) :=
        completes.pasteFree (free left.code.size (by omega))
      refine once.pasteFree ?_
      have different : (tested.code.size == left.code.size) = false := by
        rw [beq_eq_false_iff_ne]
        omega
      simp only [List.lookup_cons,different]
      exact free _ (by omega)
    obtain ⟨placedFalse,completesJumped⟩ := ihFalse jumped unpatched
      (((free.later (by omega)).cons (by omega)).cons (by omega))
    have jumpEnd := completesJumped.last
    rw [Pending.resolve_cons_of_ne (by omega),Pending.resolve_cons_self] at jumpEnd
    obtain ⟨placedTrue,completesArmed⟩ := ihTrue armed (completesJumped.before.dropSecond (Nat.le_refl _))
      ((free.later (by omega)).cons (by omega))
    have jumpFalse := completesArmed.last
    rw [Pending.resolve_cons_self] at jumpFalse
    obtain ⟨placedCondition,completesState⟩ := ihCondition state
      (completesArmed.before.drop (Nat.le_refl _)) free
    refine ⟨⟨placedCondition,?_,?_,?_,?_⟩,completesState⟩
    · rw [← testedSize,← armedSize,← leftSize,← jumpedSize]
      exact jumpFalse
    · rw [← testedSize,← armedSize]
      exact placedTrue
    · rw [← testedSize,← armedSize,← leftSize,← jumpedSize,← rightSize]
      exact jumpEnd
    · rw [← testedSize,← armedSize,← leftSize,← jumpedSize]
      exact placedFalse
  | always arm rest ihArm ihRest =>
    let armed := arm.run state
    let jumped := (armed.emit (.jump 0)).track (.atDepth state.tracker.currentDepth)
    let rested := rest.run jumped
    have armedSize : armed.code.size = state.code.size + arm.size := size_run arm state
    have jumpedSize : jumped.code.size = armed.code.size + 10 := by
      simp [jumped,EmitState.track,EmitState.emit,Instruction.size]
    have restedSize : rested.code.size = jumped.code.size + rest.size := size_run rest jumped
    have unpatched : Completes final rested.code ((armed.code.size,rested.code.size) :: pending) :=
      completes.pasteFree (free armed.code.size (by omega))
    obtain ⟨placedRest,completesJumped⟩ := ihRest jumped unpatched
      ((free.later (by omega)).cons (by omega))
    have jumpEnd := completesJumped.last
    rw [Pending.resolve_cons_self] at jumpEnd
    obtain ⟨placedArm,completesState⟩ := ihArm state (completesJumped.before.drop (Nat.le_refl _)) free
    refine ⟨⟨placedArm,?_,?_⟩,completesState⟩
    · rw [← armedSize,← jumpedSize,← restedSize]
      exact jumpEnd
    · rw [← armedSize,← jumpedSize]
      exact placedRest

end Emission
end ShardScript.Emitter
