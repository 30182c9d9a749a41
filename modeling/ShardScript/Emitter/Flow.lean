import ShardScript.Emitter.TryBlocks
import ShardScript.Emitter.StatementPlacement

/-! Control stays between the same marks on every edge of the emitted code, except where a try
or a deferred body is entered or left, and at the jumps of `break` and `continue`. -/
namespace ShardScript.Emitter
open ByteCode

/-- What the marks around an instruction and around those that may follow it have in common. -/
def Chart.Flows (chart : Chart) (offset : Nat) (instruction : Instruction) : Prop :=
  let marks := chart.marks
  let next := offset + instruction.size
  match instruction with
  | .jump target => chart.isExit offset ∨ marks target = marks offset
  | .jumpTrue target | .jumpFalse target => marks target = marks offset ∧ marks next = marks offset
  | .branchNull _ | .jumpTable _ => False
  | .return => True
  | .enterTry handler => marks handler = marks offset ∧ marks next = .tryBody handler :: marks offset ∧
      .deferred ∉ marks offset
  | .leaveTry => .deferred ∉ marks offset ∧ ∃ handler, marks offset = .tryBody handler :: marks next
  | .defer target => marks target = .deferred :: marks offset ∧ marks next = marks offset
  | .deferDrain _ => .deferred ∉ marks offset ∧ marks next = marks offset
  | .deferBreak => .deferred ∈ marks offset
  | _ => marks next = marks offset

def Chart.FlowsOn (chart : Chart) (first last : Nat) : Prop := Region chart.Flows chart.code first last

variable {chart : Chart} {outer : List Mark}

theorem flows_data {offset : Nat} {instruction : Instruction} (isData : instruction.isData = true)
    (same : chart.marks (offset + instruction.size) = chart.marks offset) : chart.Flows offset instruction := by
  cases instruction <;> first | exact same | cases isData

def Constant (chart : Chart) (outer : List Mark) (first last : Nat) : Prop :=
  ∀ offset, first ≤ offset → offset ≤ last → chart.marks offset = outer

theorem Constant.narrow {first last first' last' : Nat} (h : Constant chart outer first last)
    (before : first ≤ first') (after : last' ≤ last) : Constant chart outer first' last' := by
  intro offset lower upper
  exact h offset (by omega) (by omega)

theorem jump_flows {start target : Nat} (found : chart.code.fetch start = some (.jump target))
    (same : chart.marks target = chart.marks start) : chart.FlowsOn start (start + 10) :=
  .one found (.inr same)

theorem test_flows {start target : Nat} {instruction : Instruction}
    (found : chart.code.fetch start = some instruction)
    (conditional : instruction = .jumpFalse target ∨ instruction = .jumpTrue target)
    (same : chart.marks target = chart.marks start ∧ chart.marks (start + 10) = chart.marks start) :
    chart.FlowsOn start (start + 10) := by
  rcases conditional with rfl | rfl
  · exact .one found same
  · exact .one found same

theorem Emission.flows (emission : Emission) {start : Nat} (placed : emission.Placed chart.code start)
    (same : Constant chart outer start (start + emission.size)) :
    chart.FlowsOn start (start + emission.size) := by
  induction emission generalizing start with
  | skip | evalPush | evalPop => exact .nil
  | op instruction isData =>
    refine .one placed (flows_data isData ?_)
    rw [same start (Nat.le_refl _) (Nat.le_add_right _ _)]
    exact same _ (Nat.le_add_right _ _) (Nat.le_refl _)
  | seq first second ihFirst ihSecond =>
    have sized : start + (seq first second).size = start + first.size + second.size :=
      (Nat.add_assoc _ _ _).symm
    rw [sized] at same ⊢
    apply (ihFirst placed.1 _).append (ihSecond placed.2 _)
    · exact same.narrow (by omega) (by omega)
    · exact same.narrow (by omega) (by omega)
  | branch condition whenTrue whenFalse ihCondition ihTrue ihFalse =>
    obtain ⟨conditionPlaced,jumpFalse,truePlaced,jumpEnd,falsePlaced⟩ := placed
    have sized : start + (branch condition whenTrue whenFalse).size =
        start + condition.size + 10 + whenTrue.size + 10 + whenFalse.size := by
      simp only [size]
      omega
    rw [sized] at same ⊢
    have tested : chart.FlowsOn (start + condition.size) (start + condition.size + 10) := by
      apply test_flows jumpFalse (.inl rfl)
      rw [same _ (by omega) (by omega),same _ (by omega) (by omega),same _ (by omega) (by omega)]
      exact ⟨rfl,rfl⟩
    have left : chart.FlowsOn (start + condition.size + 10 + whenTrue.size)
        (start + condition.size + 10 + whenTrue.size + 10) := by
      apply jump_flows jumpEnd
      rw [same _ (by omega) (by omega),same _ (by omega) (by omega)]
    have conditioned := ihCondition conditionPlaced (same.narrow (by omega) (by omega))
    have true_ := ihTrue truePlaced (same.narrow (by omega) (by omega))
    have false_ := ihFalse falsePlaced (same.narrow (by omega) (by omega))
    exact (((conditioned.append tested).append true_).append left).append false_
  | always arm rest ihArm ihRest =>
    obtain ⟨armPlaced,jumpEnd,restPlaced⟩ := placed
    have sized : start + (always arm rest).size = start + arm.size + 10 + rest.size := by
      simp only [size]
      omega
    rw [sized] at same ⊢
    have left : chart.FlowsOn (start + arm.size) (start + arm.size + 10) := by
      apply jump_flows jumpEnd
      rw [same _ (by omega) (by omega),same _ (by omega) (by omega)]
    have armed := ihArm armPlaced (same.narrow (by omega) (by omega))
    have rested := ihRest restPlaced (same.narrow (by omega) (by omega))
    exact (armed.append left).append rested

theorem DrainPlaced.flows {count start : Nat} (placed : DrainPlaced chart.code count start)
    (regular : Mark.deferred ∉ outer)
    (same : Constant chart outer start (start + drainSize count)) :
    chart.FlowsOn start (start + drainSize count) := by
  unfold drainSize at same ⊢
  split
  · rename_i positive
    rw [if_pos positive] at same
    have here := same start (by omega) (by omega)
    have next := same (start + 10) (by omega) (by omega)
    exact .one (placed positive) ⟨here ▸ regular,next.trans here.symm⟩
  · exact .nil

namespace Surrounds

variable {parts : List Part} {first last low high first' last' : Nat}

theorem before (h : Surrounds chart parts first last outer) (within : Within low high parts)
    (lower : first ≤ first') (upper : last' ≤ last) (apart : last' ≤ low) :
    Constant chart outer first' last' := by
  intro offset after before
  exact h.outside within (by omega) (by omega) (.inl (by omega))

theorem behind (h : Surrounds chart parts first last outer) (within : Within low high parts)
    (lower : first ≤ first') (upper : last' ≤ last) (apart : high ≤ first') :
    Constant chart outer first' last' := by
  intro offset after before
  exact h.outside within (by omega) (by omega) (.inr (by omega))

theorem all (h : Surrounds chart [] first last outer) : Constant chart outer first last := by
  intro offset lower upper
  exact h.marks offset lower upper

end Surrounds

def Statement.Flowing (chart : Chart) {kind : StatementKind} (statement : Statement kind) : Prop :=
  ∀ {target : Option Targets} {open_ : List DeferScope} {start : Nat} {outer : List Mark},
    statement.Placed chart.code target open_ start →
    Surrounds chart (statement.parts open_ start) start (start + statement.size open_) outer →
    chart.FlowsOn start (start + statement.size open_)

theorem block_flows {body : Statement .block} (flowing : body.Flowing chart)
    {target : Option Targets} {open_ : List DeferScope} {start : Nat}
    (placed : body.Placed chart.code target open_ start ∧
      DrainPlaced chart.code (headCount (body.scopes open_)) (start + body.size open_))
    (surrounds : Surrounds chart (body.parts open_ start) start
      (start + body.size open_ + drainSize (headCount (body.scopes open_))) outer) :
    chart.FlowsOn start
      (start + body.size open_ + drainSize (headCount (body.scopes open_))) := by
  have within := body.parts_within open_ start
  have bodied := flowing placed.1 (surrounds.narrow (Nat.le_refl _) (Nat.le_add_right _ _))
  have drained : chart.FlowsOn (start + body.size open_)
      (start + body.size open_ + drainSize (headCount (body.scopes open_))) := by
    apply placed.2.flows surrounds.regular
    exact surrounds.behind within (Nat.le_add_right _ _) (Nat.le_refl _) (Nat.le_refl _)
  exact bodied.append drained

end ShardScript.Emitter
