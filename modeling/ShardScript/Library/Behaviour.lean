import Mathlib.Data.List.Basic

/-! Behaviours of structured code: sets of runs, each a list of events and the way it ends. The
combinators are those of a language with jumps, and `Ensures` has one rule for each of them. -/
namespace ShardScript.Library

inductive Ending (Jump : Type) where
  | normal
  | jump (jump : Jump)
  | ongoing

variable {Event Event' Jump Jump' Index : Type}

def Ending.unless (first : Ending Jump) : Ending Jump → Ending Jump
  | normal => first
  | abrupt => abrupt

def Ending.map (jumps : Jump → Jump') : Ending Jump → Ending Jump'
  | normal => .normal
  | jump target => .jump (jumps target)
  | ongoing => .ongoing

def Behaviour (Event Jump : Type) := List Event → Ending Jump → Prop

namespace Behaviour

def done : Behaviour Event Jump := fun events ending => events = [] ∧ ending = .normal

def perform (event : Event) : Behaviour Event Jump :=
  fun events ending => events = [event] ∧ ending = .normal

def leave (jump : Jump) : Behaviour Event Jump := fun events ending => events = [] ∧ ending = .jump jump

def stall : Behaviour Event Jump := fun events ending => events = [] ∧ ending = .ongoing

def seq (first second : Behaviour Event Jump) : Behaviour Event Jump := fun events ending =>
  first events ending ∧ ending ≠ .normal ∨
    ∃ before behind, events = before ++ behind ∧ first before .normal ∧ second behind ending

def either (left right : Behaviour Event Jump) : Behaviour Event Jump :=
  fun events ending => left events ending ∨ right events ending

def rescue (body : Behaviour Event Jump) (handler : Jump → Behaviour Event Jump) :
    Behaviour Event Jump := fun events ending =>
  body events ending ∧ (∀ jump, ending ≠ .jump jump) ∨
    ∃ before behind jump, events = before ++ behind ∧ body before (.jump jump) ∧
      handler jump behind ending

def unwinding (body last : Behaviour Event Jump) : Behaviour Event Jump := fun events ending =>
  body events .ongoing ∧ ending = .ongoing ∨
    ∃ before behind first second, events = before ++ behind ∧ body before first ∧
      first ≠ .ongoing ∧ last behind second ∧ ending = first.unless second

inductive Many (turn : Behaviour Event Jump) : Behaviour Event Jump
  | done : Many turn [] .normal
  | stop {events ending} (last : turn events ending) (abrupt : ending ≠ .normal) :
      Many turn events ending
  | turn {before behind ending} (first : turn before .normal) (rest : Many turn behind ending) :
      Many turn (before ++ behind) ending

def map (events : Event → Event') (jumps : Jump → Jump') (body : Behaviour Event Jump) :
    Behaviour Event' Jump' := fun performed ending =>
  ∃ before first, performed = before.map events ∧ ending = first.map jumps ∧ body before first

def through (events : Event → Event') (endings : Ending Jump → Ending Jump') (body : Behaviour Event Jump) :
    Behaviour Event' Jump' := fun performed ending =>
  ∃ before first, performed = before.map events ∧ ending = endings first ∧ body before first

def pick (choices : Index → Prop) (body : Index → Behaviour Event Jump) : Behaviour Event Jump :=
  fun events ending => ∃ index, choices index ∧ body index events ending

section Introduction

variable {first second body : Behaviour Event Jump} {before behind events : List Event}
  {ending : Ending Jump}

theorem perform_run (event : Event) : (perform event : Behaviour Event Jump) [event] .normal := ⟨rfl,rfl⟩

theorem seq_run (one : first before .normal) (two : second behind ending) :
    seq first second (before ++ behind) ending :=
  .inr ⟨before,behind,rfl,one,two⟩

theorem seq_abrupt (one : first events ending) (abrupt : ending ≠ .normal) :
    seq first second events ending :=
  .inl ⟨one,abrupt⟩

theorem rescue_run {handler : Jump → Behaviour Event Jump} {jump : Jump}
    (jumped : body before (.jump jump)) (handled : handler jump behind ending) :
    rescue body handler (before ++ behind) ending :=
  .inr ⟨before,behind,jump,rfl,jumped,handled⟩

theorem map_run {events' : Event → Event'} {jumps : Jump → Jump'} (run : body events ending) :
    map events' jumps body (events.map events') (ending.map jumps) :=
  ⟨events,ending,rfl,rfl,run⟩

end Introduction

/-- Every run whose events pass the guard performs allowed events only, and ends as told. -/
def Ensures (body : Behaviour Event Jump) (guard allowed : Event → Prop)
    (post : Ending Jump → Prop) : Prop :=
  ∀ events ending, body events ending → (∀ event ∈ events, guard event) →
    (∀ event ∈ events, allowed event) ∧ post ending

namespace Ensures

variable {body first second : Behaviour Event Jump} {guard allowed allowed' : Event → Prop}
  {post post' : Ending Jump → Prop}

theorem mono (ensured : Ensures body guard allowed post)
    (events : ∀ event, allowed event → allowed' event) (endings : ∀ ending, post ending → post' ending) :
    Ensures body guard allowed' post' := by
  intro performed ending run passes
  have kept := ensured performed ending run passes
  exact ⟨fun event member => events event (kept.1 event member),endings ending kept.2⟩

theorem done (ends : post .normal) : Ensures done guard allowed post := by
  rintro events ending ⟨rfl,rfl⟩ passes
  exact ⟨by simp,ends⟩

theorem perform {event : Event} (allows : guard event → allowed event)
    (ends : guard event → post .normal) : Ensures (perform event) guard allowed post := by
  rintro events ending ⟨rfl,rfl⟩ passes
  have passed := passes event (by simp)
  exact ⟨by simpa using allows passed,ends passed⟩

theorem leave {jump : Jump} (ends : post (.jump jump)) : Ensures (leave jump) guard allowed post := by
  rintro events ending ⟨rfl,rfl⟩ passes
  exact ⟨by simp,ends⟩

theorem stall (ends : post .ongoing) :
    Ensures (stall : Behaviour Event Jump) guard allowed post := by
  rintro events ending ⟨rfl,rfl⟩ passes
  exact ⟨by simp,ends⟩

theorem seq (one : Ensures first guard allowed post')
    (abrupt : ∀ ending, ending ≠ .normal → post' ending → post ending)
    (two : post' .normal → Ensures second guard allowed post) :
    Ensures (seq first second) guard allowed post := by
  intro events ending run passes
  rcases run with ⟨run,escapes⟩ | ⟨before,behind,rfl,run,rest⟩
  · have kept := one events ending run passes
    exact ⟨kept.1,abrupt ending escapes kept.2⟩
  · rcases List.forall_mem_append.1 passes with ⟨early,late⟩
    have kept := one before .normal run early
    have goesOn := two kept.2 behind ending rest late
    exact ⟨List.forall_mem_append.2 ⟨kept.1,goesOn.1⟩,goesOn.2⟩

theorem either (one : Ensures first guard allowed post) (two : Ensures second guard allowed post) :
    Ensures (either first second) guard allowed post := by
  intro events ending run passes
  rcases run with run | run
  · exact one events ending run passes
  · exact two events ending run passes

theorem rescue {handler : Jump → Behaviour Event Jump} (one : Ensures body guard allowed post')
    (stays : ∀ ending, (∀ jump, ending ≠ .jump jump) → post' ending → post ending)
    (handled : ∀ jump, post' (.jump jump) → Ensures (handler jump) guard allowed post) :
    Ensures (rescue body handler) guard allowed post := by
  intro events ending run passes
  rcases run with ⟨run,kept⟩ | ⟨before,behind,jump,rfl,run,rest⟩
  · have ensured := one events ending run passes
    exact ⟨ensured.1,stays ending kept ensured.2⟩
  · rcases List.forall_mem_append.1 passes with ⟨early,late⟩
    have ensured := one before (.jump jump) run early
    have goesOn := handled jump ensured.2 behind ending rest late
    exact ⟨List.forall_mem_append.2 ⟨ensured.1,goesOn.1⟩,goesOn.2⟩

theorem unwinding {last : Behaviour Event Jump} (one : Ensures body guard allowed post)
    (two : Ensures last guard allowed post')
    (abrupt : ∀ ending, ending ≠ .normal → post' ending → post ending) :
    Ensures (unwinding body last) guard allowed post := by
  intro events ending run passes
  rcases run with ⟨run,rfl⟩ | ⟨before,behind,first,second,rfl,run,_,rest,rfl⟩
  · exact one events .ongoing run passes
  · rcases List.forall_mem_append.1 passes with ⟨early,late⟩
    have kept := one before first run early
    have goesOn := two behind second rest late
    refine ⟨List.forall_mem_append.2 ⟨kept.1,goesOn.1⟩,?_⟩
    cases second with
    | normal => exact kept.2
    | jump target => exact abrupt (.jump target) (by simp) goesOn.2
    | ongoing => exact abrupt .ongoing (by simp) goesOn.2

theorem many {turn : Behaviour Event Jump} (one : Ensures turn guard allowed post)
    (ends : post .normal) : Ensures (Many turn) guard allowed post := by
  intro events ending run
  induction run with
  | done => exact fun _ => ⟨by simp,ends⟩
  | stop last _ => exact one _ _ last
  | turn first rest ih =>
    intro passes
    rcases List.forall_mem_append.1 passes with ⟨early,late⟩
    have kept := one _ _ first early
    have goesOn := ih late
    exact ⟨List.forall_mem_append.2 ⟨kept.1,goesOn.1⟩,goesOn.2⟩

theorem through {events : Event → Event'} {endings : Ending Jump → Ending Jump'}
    {guard allowed : Event' → Prop} {post' : Ending Jump' → Prop}
    (one : Ensures body (fun event => guard (events event)) (fun event => allowed (events event)) post)
    (ends : ∀ ending, post ending → post' (endings ending)) :
    Ensures (through events endings body) guard allowed post' := by
  rintro performed ending ⟨before,first,rfl,rfl,run⟩ passes
  have kept := one before first run (List.forall_mem_map.1 passes)
  exact ⟨List.forall_mem_map.2 kept.1,ends first kept.2⟩

theorem map {events : Event → Event'} {jumps : Jump → Jump'} {guard allowed : Event' → Prop}
    {post' : Ending Jump' → Prop}
    (one : Ensures body (fun event => guard (events event)) (fun event => allowed (events event)) post)
    (ends : ∀ ending, post ending → post' (ending.map jumps)) :
    Ensures (map events jumps body) guard allowed post' :=
  through one ends

theorem pick {choices : Index → Prop} {body : Index → Behaviour Event Jump}
    (each : ∀ index, choices index → Ensures (body index) guard allowed post) :
    Ensures (pick choices body) guard allowed post := by
  rintro events ending ⟨index,chosen,run⟩
  exact each index chosen events ending run

end Ensures

end Behaviour

end ShardScript.Library
