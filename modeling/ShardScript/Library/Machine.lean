import Mathlib.Data.List.Basic

/-! Deterministic machines that take steps until they end, with what an observer sees of
them: counted runs, and the states that runs reach. -/
namespace ShardScript.Library

inductive Config (State Result : Type) where
  | running (state : State)
  | ended (result : Result)

structure Machine (State Result Event : Type) where
  step : State → Config State Result
  observe : State → List Event

namespace Machine

variable {State Result Event : Type} {machine : Machine State Result Event}

inductive Leads (machine : Machine State Result Event) :
    Nat → Config State Result → List Event → Config State Result → Prop
  | refl (config : Config State Result) : Leads machine 0 config [] config
  | step {steps : Nat} {state : State} {events : List Event} {last : Config State Result}
      (rest : Leads machine steps (machine.step state) events last) :
      Leads machine (steps + 1) (.running state) (machine.observe state ++ events) last

theorem Leads.trans {m n : Nat} {first second third : Config State Result} {left right : List Event}
    (h : Leads machine m first left second) (h' : Leads machine n second right third) :
    Leads machine (m + n) first (left ++ right) third := by
  induction h with
  | refl config => simpa using h'
  | step rest ih =>
    rw [Nat.add_right_comm,List.append_assoc]
    exact .step (ih h')

theorem Leads.one {state : State} {next : Config State Result} {events : List Event}
    (step : machine.step state = next) (observed : machine.observe state = events) :
    Leads machine 1 (.running state) events next := by
  subst step observed
  simpa using Leads.step (@Leads.refl _ _ _ machine (machine.step state))

def eventsWithin (machine : Machine State Result Event) : Nat → Config State Result → Option (List Event)
  | _,.ended _ => some []
  | 0,.running _ => none
  | steps + 1,.running state => (machine.eventsWithin steps (machine.step state)).map (machine.observe state ++ ·)

theorem Leads.events_eq {steps within : Nat} {config : Config State Result} {left right : List Event}
    {result : Result} (h : Leads machine steps config left (.ended result))
    (found : machine.eventsWithin within config = some right) : left = right := by
  generalize ended : Config.ended result = last at h
  induction h generalizing within right with
  | refl config =>
    subst ended
    cases within <;> exact Option.some.inj found
  | step rest ih =>
    cases within with
    | zero => cases found
    | succ within =>
      obtain ⟨events,later,equal⟩ := Option.map_eq_some_iff.mp found
      subst equal
      rw [ih later ended]

inductive Reaches (machine : Machine State Result Event) (Allowed : State → Prop) (first : State) :
    State → Prop
  | refl : Reaches machine Allowed first first
  | step {state next : State} (before : Reaches machine Allowed first state) (allowed : Allowed state)
      (step : machine.step state = .running next) : Reaches machine Allowed first next

theorem Reaches.invariant {Allowed Invariant : State → Prop} {first state : State}
    (h : Reaches machine Allowed first state) (init : Invariant first)
    (kept : ∀ state next, Invariant state → Allowed state → machine.step state = .running next →
      Invariant next) : Invariant state := by
  induction h with
  | refl => exact init
  | step before allowed step ih => exact kept _ _ ih allowed step

def after (machine : Machine State Result Event) : Nat → State → Option State
  | 0,state => some state
  | steps + 1,state =>
    match machine.step state with
    | .running next => machine.after steps next
    | .ended _ => none

theorem reaches_after {steps : Nat} {first state : State} (h : machine.after steps first = some state) :
    machine.Reaches (fun _ => True) first state := by
  have further : ∀ {middle : State}, machine.Reaches (fun _ => True) first middle →
      machine.after steps middle = some state → machine.Reaches (fun _ => True) first state := by
    clear h
    induction steps with
    | zero =>
      intro middle reached h
      exact Option.some.inj h ▸ reached
    | succ steps ih =>
      intro middle reached h
      unfold after at h
      split at h
      · rename_i step
        exact ih (reached.step trivial step) h
      · cases h
  exact further .refl h

end Machine
end ShardScript.Library
