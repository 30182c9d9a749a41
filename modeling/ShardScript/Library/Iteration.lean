import Mathlib.Data.List.Basic
import Mathlib.Order.Bounds.Basic

/-! Sweeps over a list of steps that work on one state, repeated until a sweep changes nothing. -/
namespace ShardScript.Library

variable {State : Type}

structure Step (State : Type) where
  apply : State → State
  changes : State → Bool
  changes_iff : ∀ state, changes state = false ↔ apply state = state

def sweep : List (Step State) → State → State × Bool
  | [],state => (state,false)
  | step :: rest,state =>
      let swept := sweep rest (step.apply state)
      (swept.1,step.changes state || swept.2)

def settle (steps : List (Step State)) : Nat → State → Option State
  | 0,_ => none
  | fuel + 1,state =>
      if (sweep steps state).2 then settle steps fuel (sweep steps state).1 else some (sweep steps state).1

variable {state : State}

theorem sweep_unchanged {steps : List (Step State)} (unchanged : (sweep steps state).2 = false) :
    (sweep steps state).1 = state ∧ ∀ step ∈ steps, step.apply state = state := by
  induction steps with
  | nil => exact ⟨rfl,by simp⟩
  | cons step rest ih =>
    simp only [sweep,Bool.or_eq_false_iff] at unchanged ⊢
    have same := (step.changes_iff state).1 unchanged.1
    rw [same] at unchanged ⊢
    rcases ih unchanged.2 with ⟨swept,others⟩
    exact ⟨swept,List.forall_mem_cons.2 ⟨same,others⟩⟩

theorem settle_fixed {steps : List (Step State)} {fuel : Nat} {state result : State}
    (settled : settle steps fuel state = some result) : ∀ step ∈ steps, step.apply result = result := by
  induction fuel generalizing state with
  | zero => cases settled
  | succ fuel ih =>
    rw [settle] at settled
    split at settled
    · exact ih settled
    · rename_i unchanged
      have kept := sweep_unchanged (by simpa using unchanged)
      cases settled
      rw [kept.1]
      exact kept.2

variable {steps : List (Step State)} {Invariant : State → Prop}

theorem sweep_keeps (keeps : ∀ step ∈ steps, ∀ state, Invariant state → Invariant (step.apply state))
    (holds : Invariant state) : Invariant (sweep steps state).1 := by
  induction steps generalizing state with
  | nil => exact holds
  | cons step rest ih =>
    rcases List.forall_mem_cons.1 keeps with ⟨one,others⟩
    exact ih others (one state holds)

theorem settle_keeps (keeps : ∀ step ∈ steps, ∀ state, Invariant state → Invariant (step.apply state))
    {fuel : Nat} {state result : State} (holds : Invariant state)
    (settled : settle steps fuel state = some result) : Invariant result := by
  induction fuel generalizing state with
  | zero => cases settled
  | succ fuel ih =>
    rw [settle] at settled
    split at settled
    · exact ih (sweep_keeps keeps holds) settled
    · cases settled
      exact sweep_keeps keeps holds

section Termination

variable {rank : State → Nat} {bound : Nat}

theorem sweep_rank (keeps : ∀ step ∈ steps, ∀ state, Invariant state → Invariant (step.apply state))
    (raises : ∀ step ∈ steps, ∀ state, Invariant state → step.changes state = true →
      rank state < rank (step.apply state))
    (holds : Invariant state) :
    rank state ≤ rank (sweep steps state).1 ∧
      ((sweep steps state).2 = true → rank state < rank (sweep steps state).1) := by
  induction steps generalizing state with
  | nil => exact ⟨Nat.le_refl _,by simp [sweep]⟩
  | cons step rest ih =>
    rcases List.forall_mem_cons.1 keeps with ⟨one,others⟩
    rcases List.forall_mem_cons.1 raises with ⟨raise,raiseOthers⟩
    have later := ih others raiseOthers (one state holds)
    rw [sweep]
    cases changed : step.changes state with
    | true =>
      have first := raise state holds changed
      exact ⟨by dsimp only; omega,fun _ => by dsimp only; omega⟩
    | false =>
      have same := (step.changes_iff state).1 changed
      rw [same] at later ⊢
      simpa using later

theorem settle_terminates (keeps : ∀ step ∈ steps, ∀ state, Invariant state → Invariant (step.apply state))
    (raises : ∀ step ∈ steps, ∀ state, Invariant state → step.changes state = true →
      rank state < rank (step.apply state))
    (bounded : ∀ state, Invariant state → rank state ≤ bound) (holds : Invariant state) :
    ∃ fuel result, settle steps fuel state = some result := by
  generalize missing : bound - rank state = left
  induction left using Nat.strongRecOn generalizing state with
  | ind left ih =>
    cases changed : (sweep steps state).2 with
    | false => exact ⟨1,(sweep steps state).1,by simp [settle,changed]⟩
    | true =>
      have higher := (sweep_rank keeps raises holds).2 changed
      have kept : Invariant (sweep steps state).1 := sweep_keeps keeps holds
      have top := bounded _ kept
      rcases ih (bound - rank (sweep steps state).1) (by omega) kept rfl with ⟨fuel,result,settled⟩
      refine ⟨fuel + 1,result,?_⟩
      rw [settle,if_pos changed]
      exact settled

end Termination

section Least

variable [PartialOrder State]

/-- Steps that only add, and add no less to more, settle in the least of the states above the start that every
step leaves as it is. -/
theorem settle_isLeast (adds : ∀ step ∈ steps, ∀ state, state ≤ step.apply state)
    (monotone : ∀ step ∈ steps, Monotone step.apply) {fuel : Nat} {start result : State}
    (settled : settle steps fuel start = some result) :
    IsLeast {state | start ≤ state ∧ ∀ step ∈ steps, step.apply state = state} result := by
  constructor
  · refine ⟨?_,settle_fixed settled⟩
    exact settle_keeps (fun step member state above => above.trans (adds step member state)) (le_refl start) settled
  · intro other above
    obtain ⟨start_le,fixed⟩ := above
    have keeps : ∀ step ∈ steps, ∀ state, state ≤ other → step.apply state ≤ other := by
      intro step member state below
      calc step.apply state ≤ step.apply other := monotone step member below
        _ = other := fixed step member
    exact settle_keeps keeps start_le settled

end Least

end ShardScript.Library
