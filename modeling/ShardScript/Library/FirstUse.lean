import ShardScript.Library.Behaviour

/-! Uses in front of the first definition, in the runs of structured code. A `Flow` says which endings
are reached and whether a use is, without a definition on the way; there is one rule for each
combinator, and a loop takes no more than one turn. -/
namespace ShardScript.Library

variable {Event Event' Jump Jump' : Type}

section Events

variable (uses defines : Event → Prop)

def Exposed : List Event → Prop
  | [] => False
  | event :: events => uses event ∨ ¬ defines event ∧ Exposed events

def Undefined (events : List Event) : Prop := ∀ event ∈ events, ¬ defines event

variable {uses defines}

theorem undefined_cons {event : Event} {events : List Event} :
    Undefined defines (event :: events) ↔ ¬ defines event ∧ Undefined defines events :=
  List.forall_mem_cons

theorem undefined_append {first second : List Event} :
    Undefined defines (first ++ second) ↔ Undefined defines first ∧ Undefined defines second :=
  List.forall_mem_append

theorem exposed_append (first second : List Event) :
    Exposed uses defines (first ++ second) ↔
      Exposed uses defines first ∨ Undefined defines first ∧ Exposed uses defines second := by
  induction first with
  | nil => simp [Exposed,Undefined]
  | cons event first ih =>
    rw [List.cons_append,Exposed,Exposed,ih,undefined_cons]
    tauto

theorem exposed_iff (events : List Event) :
    Exposed uses defines events ↔ ∃ before event behind, events = before ++ event :: behind ∧
      Undefined defines before ∧ uses event := by
  constructor
  · intro exposed
    induction events with
    | nil => exact exposed.elim
    | cons event events ih =>
      rcases exposed with used | ⟨undefined,exposed⟩
      · exact ⟨[],event,events,rfl,List.forall_mem_nil _,used⟩
      · obtain ⟨before,other,behind,rfl,free,used⟩ := ih exposed
        exact ⟨event :: before,other,behind,rfl,List.forall_mem_cons.2 ⟨undefined,free⟩,used⟩
  · rintro ⟨before,event,behind,rfl,free,used⟩
    exact (exposed_append _ _).2 (.inr ⟨free,.inl used⟩)

end Events

namespace Behaviour

variable (uses defines : Event → Prop)

def Passes (body : Behaviour Event Jump) (ending : Ending Jump) : Prop :=
  ∃ events, body events ending ∧ Undefined defines events

def Exposes (body : Behaviour Event Jump) : Prop :=
  ∃ events ending, body events ending ∧ Exposed uses defines events

def Live (body : Behaviour Event Jump) : Prop := ∃ events ending, body events ending

end Behaviour

structure Flow (Jump : Type) where
  exposes : Prop
  passes : Ending Jump → Prop

namespace Flow

def done : Flow Jump := ⟨False,fun ending => ending = .normal⟩

def leave (jump : Jump) : Flow Jump := ⟨False,fun ending => ending = .jump jump⟩

def stall : Flow Jump := ⟨False,fun ending => ending = .ongoing⟩

def seq (first second : Flow Jump) : Flow Jump where
  exposes := first.exposes ∨ first.passes .normal ∧ second.exposes
  passes ending := first.passes ending ∧ ending ≠ .normal ∨ first.passes .normal ∧ second.passes ending

def either (left right : Flow Jump) : Flow Jump where
  exposes := left.exposes ∨ right.exposes
  passes ending := left.passes ending ∨ right.passes ending

def choose (condition : Prop) (left right : Flow Jump) : Flow Jump where
  exposes := condition ∧ left.exposes ∨ ¬ condition ∧ right.exposes
  passes ending := condition ∧ left.passes ending ∨ ¬ condition ∧ right.passes ending

def rescue (body : Flow Jump) (handler : Jump → Flow Jump) : Flow Jump where
  exposes := body.exposes ∨ ∃ jump, body.passes (.jump jump) ∧ (handler jump).exposes
  passes ending := body.passes ending ∧ (∀ jump, ending ≠ .jump jump) ∨
    ∃ jump, body.passes (.jump jump) ∧ (handler jump).passes ending

def unwinding (body last : Flow Jump) : Flow Jump where
  exposes := body.exposes ∨ ∃ first, body.passes first ∧ first ≠ .ongoing ∧ last.exposes
  passes ending := body.passes .ongoing ∧ ending = .ongoing ∨
    ∃ first second, body.passes first ∧ first ≠ .ongoing ∧ last.passes second ∧
      ending = first.unless second

def many (turn : Flow Jump) : Flow Jump where
  exposes := turn.exposes
  passes ending := ending = .normal ∨ turn.passes ending

def of (uses defines : Event → Prop) (body : Behaviour Event Jump) : Flow Jump where
  exposes := body.Exposes uses defines
  passes := body.Passes defines

def map (jumps : Jump → Jump') (body : Flow Jump) : Flow Jump' where
  exposes := body.exposes
  passes ending := ∃ first, ending = first.map jumps ∧ body.passes first

structure Describes (uses defines : Event → Prop) (flow : Flow Jump) (body : Behaviour Event Jump) :
    Prop where
  exposes : body.Exposes uses defines ↔ flow.exposes
  passes : ∀ ending, body.Passes defines ending ↔ flow.passes ending
  live : body.Live

namespace Describes

variable {uses defines : Event → Prop}

theorem of_live {body : Behaviour Event Jump} (live : body.Live) :
    (Flow.of uses defines body).Describes uses defines body :=
  ⟨Iff.rfl,fun _ => Iff.rfl,live⟩

theorem single {body : Behaviour Event Jump} {events : List Event} {only : Ending Jump}
    (runs : ∀ performed ending, body performed ending ↔ performed = events ∧ ending = only)
    (hidden : ¬ Exposed uses defines events) (undefined : Undefined defines events) :
    (⟨False,fun ending => ending = only⟩ : Flow Jump).Describes uses defines body := by
  refine ⟨?_,fun ending => ?_,events,only,(runs _ _).2 ⟨rfl,rfl⟩⟩
  · constructor
    · rintro ⟨performed,ending,run,exposed⟩
      rw [((runs _ _).1 run).1] at exposed
      exact hidden exposed
    · exact False.elim
  · constructor
    · rintro ⟨performed,run,_⟩
      exact ((runs _ _).1 run).2
    · intro same
      exact ⟨events,(runs _ _).2 ⟨rfl,same⟩,undefined⟩

theorem done : (Flow.done : Flow Jump).Describes uses defines Behaviour.done :=
  single (fun _ _ => Iff.rfl) id (List.forall_mem_nil _)

theorem leave (jump : Jump) : (Flow.leave jump).Describes uses defines (Behaviour.leave jump) :=
  single (fun _ _ => Iff.rfl) id (List.forall_mem_nil _)

theorem stall : (Flow.stall : Flow Jump).Describes uses defines Behaviour.stall :=
  single (fun _ _ => Iff.rfl) id (List.forall_mem_nil _)

theorem silent {event : Event} (unused : ¬ uses event) (undefined : ¬ defines event) :
    (Flow.done : Flow Jump).Describes uses defines (Behaviour.perform event) := by
  refine single (fun _ _ => Iff.rfl) ?_ (List.forall_mem_singleton.2 undefined)
  simp [Exposed,unused]

variable {first second : Flow Jump} {one two body : Behaviour Event Jump}

/-- A body that stays with some of its endings, and goes one way or another behind each of the others. -/
theorem behind {Way : Type} {stays : Ending Jump → Prop} {way : Way → Ending Jump} {whole : Behaviour Event Jump} {flow : Flow Jump}
    {flows : Way → Flow Jump} {rests : Way → Behaviour Event Jump} (left : first.Describes uses defines body)
    (right : ∀ taken, (flows taken).Describes uses defines (rests taken))
    (splits : ∀ ending, stays ending ∨ ∃ taken, way taken = ending)
    (runs : ∀ events ending, whole events ending ↔ body events ending ∧ stays ending ∨
      ∃ before behind taken, events = before ++ behind ∧ body before (way taken) ∧ rests taken behind ending)
    (exposes : flow.exposes ↔ first.exposes ∨ ∃ taken, first.passes (way taken) ∧ (flows taken).exposes)
    (passes : ∀ ending, flow.passes ending ↔ first.passes ending ∧ stays ending ∨
      ∃ taken, first.passes (way taken) ∧ (flows taken).passes ending) : flow.Describes uses defines whole := by
  have follows {before behind : List Event} {ending : Ending Jump} {taken : Way} (run : body before (way taken))
      (rest : rests taken behind ending) : whole (before ++ behind) ending :=
    (runs _ _).2 (.inr ⟨before,behind,taken,rfl,run,rest⟩)
  refine ⟨.trans ?_ exposes.symm,fun ending => .trans ?_ (passes ending).symm,?_⟩
  · constructor
    · rintro ⟨events,ending,run,exposed⟩
      obtain ⟨run,_⟩ | ⟨before,behind,taken,rfl,run,rest⟩ := (runs _ _).1 run
      · exact .inl (left.exposes.1 ⟨events,ending,run,exposed⟩)
      · rcases (exposed_append _ _).1 exposed with early | ⟨free,late⟩
        · exact .inl (left.exposes.1 ⟨before,_,run,early⟩)
        · exact .inr ⟨taken,(left.passes _).1 ⟨before,run,free⟩,(right taken).exposes.1 ⟨behind,ending,rest,late⟩⟩
    · rintro (early | ⟨taken,passes,late⟩)
      · obtain ⟨events,ending,run,exposed⟩ := left.exposes.2 early
        obtain stays | ⟨taken,rfl⟩ := splits ending
        · exact ⟨events,ending,(runs _ _).2 (.inl ⟨run,stays⟩),exposed⟩
        · obtain ⟨behind,last,rest⟩ := (right taken).live
          exact ⟨_,last,follows run rest,(exposed_append _ _).2 (.inl exposed)⟩
      · obtain ⟨before,run,free⟩ := (left.passes _).2 passes
        obtain ⟨behind,ending,rest,exposed⟩ := (right taken).exposes.2 late
        exact ⟨_,ending,follows run rest,(exposed_append _ _).2 (.inr ⟨free,exposed⟩)⟩
  · constructor
    · rintro ⟨events,run,free⟩
      obtain ⟨run,stays⟩ | ⟨before,behind,taken,rfl,run,rest⟩ := (runs _ _).1 run
      · exact .inl ⟨(left.passes _).1 ⟨events,run,free⟩,stays⟩
      · rw [undefined_append] at free
        exact .inr ⟨taken,(left.passes _).1 ⟨before,run,free.1⟩,((right taken).passes _).1 ⟨behind,rest,free.2⟩⟩
    · rintro (⟨passes,stays⟩ | ⟨taken,passes,behind⟩)
      · obtain ⟨events,run,free⟩ := (left.passes _).2 passes
        exact ⟨events,(runs _ _).2 (.inl ⟨run,stays⟩),free⟩
      · obtain ⟨before,run,free⟩ := (left.passes _).2 passes
        obtain ⟨after,rest,freeAfter⟩ := ((right taken).passes _).2 behind
        exact ⟨_,follows run rest,undefined_append.2 ⟨free,freeAfter⟩⟩
  · obtain ⟨events,ending,run⟩ := left.live
    obtain stays | ⟨taken,rfl⟩ := splits ending
    · exact ⟨events,ending,(runs _ _).2 (.inl ⟨run,stays⟩)⟩
    · obtain ⟨behind,last,rest⟩ := (right taken).live
      exact ⟨_,last,follows run rest⟩

theorem seq (left : first.Describes uses defines one) (right : second.Describes uses defines two) :
    (first.seq second).Describes uses defines (one.seq two) := by
  refine @behind _ _ _ _ _ _ Unit (fun ending => ending ≠ .normal) (fun _ => .normal) _ _ _ _ left (fun _ => right)
    (fun ending => ?_) (fun events ending => ?_) ?_ (fun ending => ?_)
  · by_cases normal : ending = .normal
    · exact .inr ⟨(),normal.symm⟩
    · exact .inl normal
  · simp [Behaviour.seq]
  · simp [Flow.seq]
  · simp [Flow.seq]

theorem either (left : first.Describes uses defines one) (right : second.Describes uses defines two) :
    (first.either second).Describes uses defines (one.either two) := by
  refine ⟨?_,fun ending => ?_,?_⟩
  · rw [Flow.either,← left.exposes,← right.exposes]
    constructor
    · rintro ⟨events,ending,run | run,exposed⟩
      · exact .inl ⟨events,ending,run,exposed⟩
      · exact .inr ⟨events,ending,run,exposed⟩
    · rintro (⟨events,ending,run,exposed⟩ | ⟨events,ending,run,exposed⟩)
      · exact ⟨events,ending,.inl run,exposed⟩
      · exact ⟨events,ending,.inr run,exposed⟩
  · show _ ↔ first.passes ending ∨ second.passes ending
    rw [← left.passes,← right.passes]
    constructor
    · rintro ⟨events,run | run,free⟩
      · exact .inl ⟨events,run,free⟩
      · exact .inr ⟨events,run,free⟩
    · rintro (⟨events,run,free⟩ | ⟨events,run,free⟩)
      · exact ⟨events,.inl run,free⟩
      · exact ⟨events,.inr run,free⟩
  · obtain ⟨events,ending,run⟩ := left.live
    exact ⟨events,ending,.inl run⟩

theorem choose {condition : Prop} (left : first.Describes uses defines one)
    (right : second.Describes uses defines two) :
    (Flow.choose condition first second).Describes uses defines fun events ending =>
      condition ∧ one events ending ∨ ¬ condition ∧ two events ending := by
  by_cases taken : condition
  · refine ⟨?_,fun ending => ?_,?_⟩
    · simpa [Flow.choose,Behaviour.Exposes,taken] using left.exposes
    · simpa [Flow.choose,Behaviour.Passes,taken] using left.passes ending
    · simpa [Behaviour.Live,taken] using left.live
  · refine ⟨?_,fun ending => ?_,?_⟩
    · simpa [Flow.choose,Behaviour.Exposes,taken] using right.exposes
    · simpa [Flow.choose,Behaviour.Passes,taken] using right.passes ending
    · simpa [Behaviour.Live,taken] using right.live

theorem rescue {handler : Jump → Flow Jump} {handled : Jump → Behaviour Event Jump}
    (left : first.Describes uses defines body)
    (right : ∀ jump, (handler jump).Describes uses defines (handled jump)) :
    (first.rescue handler).Describes uses defines (body.rescue handled) := by
  refine behind left right (fun ending => ?_) (fun _ _ => Iff.rfl) Iff.rfl fun _ => Iff.rfl
  cases ending with
  | normal | ongoing => exact .inl (by simp)
  | jump jump => exact .inr ⟨jump,rfl⟩

/-- The ending is put down to what came before. -/
theorem putDown (last : first.Describes uses defines one) (earlier : Ending Jump) :
    (⟨first.exposes,fun ending => ∃ second, first.passes second ∧ ending = earlier.unless second⟩ : Flow Jump).Describes uses
      defines fun events ending => ∃ second, one events second ∧ ending = earlier.unless second := by
  refine ⟨.trans ?_ last.exposes,fun ending => ?_,?_⟩
  · constructor
    · rintro ⟨events,_,⟨second,run,rfl⟩,exposed⟩
      exact ⟨events,second,run,exposed⟩
    · rintro ⟨events,second,run,exposed⟩
      exact ⟨events,_,⟨second,run,rfl⟩,exposed⟩
  · constructor
    · rintro ⟨events,⟨second,run,rfl⟩,free⟩
      exact ⟨second,(last.passes _).1 ⟨events,run,free⟩,rfl⟩
    · rintro ⟨second,passes,rfl⟩
      obtain ⟨events,run,free⟩ := (last.passes _).2 passes
      exact ⟨events,⟨second,run,rfl⟩,free⟩
  · obtain ⟨events,second,run⟩ := last.live
    exact ⟨events,_,second,run,rfl⟩

theorem unwinding (left : first.Describes uses defines body) (right : second.Describes uses defines two) :
    (first.unwinding second).Describes uses defines (body.unwinding two) := by
  refine @behind _ _ _ _ _ _ { ending : Ending Jump // ending ≠ .ongoing } (fun ending => ending = .ongoing) Subtype.val _ _ _ _
    left (fun taken => right.putDown taken.1) (fun ending => ?_) (fun events ending => ?_) ?_ (fun ending => ?_)
  · by_cases ongoing : ending = .ongoing
    · exact .inl ongoing
    · exact .inr ⟨⟨ending,ongoing⟩,rfl⟩
  · simp [Behaviour.unwinding]
    aesop
  · exact or_congr_right ⟨fun ⟨taken,passes,proper,late⟩ => ⟨⟨taken,proper⟩,passes,late⟩,
      fun ⟨⟨taken,proper⟩,passes,late⟩ => ⟨taken,passes,proper,late⟩⟩
  · simp [Flow.unwinding]
    aesop

theorem many (turn : first.Describes uses defines body) :
    first.many.Describes uses defines body.Many := by
  refine ⟨?_,fun ending => ?_,[],.normal,.done⟩
  · show _ ↔ first.exposes
    rw [← turn.exposes]
    constructor
    · rintro ⟨events,ending,run,exposed⟩
      induction run with
      | done => exact exposed.elim
      | stop last abrupt => exact ⟨_,_,last,exposed⟩
      | turn one rest ih =>
        rcases (exposed_append _ _).1 exposed with early | ⟨_,late⟩
        · exact ⟨_,_,one,early⟩
        · exact ih late
    · rintro ⟨events,ending,run,exposed⟩
      by_cases normal : ending = .normal
      · subst normal
        exact ⟨events ++ [],.normal,.turn run .done,by rwa [List.append_nil]⟩
      · exact ⟨events,ending,.stop run normal,exposed⟩
  · show _ ↔ ending = .normal ∨ first.passes ending
    rw [← turn.passes]
    constructor
    · rintro ⟨events,run,free⟩
      induction run with
      | done => exact .inl rfl
      | stop last abrupt => exact .inr ⟨_,last,free⟩
      | turn one rest ih => exact ih (undefined_append.1 free).2
    · rintro (rfl | ⟨events,run,free⟩)
      · exact ⟨[],.done,List.forall_mem_nil _⟩
      · by_cases normal : ending = .normal
        · subst normal
          exact ⟨[],.done,List.forall_mem_nil _⟩
        · exact ⟨events,.stop run normal,free⟩

end Describes

theorem exposed_map {uses defines : Event' → Prop} (change : Event → Event') (events : List Event) :
    Exposed uses defines (events.map change) ↔
      Exposed (fun event => uses (change event)) (fun event => defines (change event)) events := by
  induction events with
  | nil => exact Iff.rfl
  | cons event events ih => rw [List.map_cons,Exposed,Exposed,ih]

theorem undefined_map {defines : Event' → Prop} (change : Event → Event') (events : List Event) :
    Undefined defines (events.map change) ↔ Undefined (fun event => defines (change event)) events := by
  unfold Undefined
  exact List.forall_mem_map

theorem Describes.map {uses defines : Event' → Prop} {change : Event → Event'} {jumps : Jump → Jump'}
    {flow : Flow Jump} {body : Behaviour Event Jump}
    (inner : flow.Describes (fun event => uses (change event)) (fun event => defines (change event)) body) :
    (flow.map jumps).Describes uses defines (body.map change jumps) := by
  refine ⟨?_,fun ending => ?_,?_⟩
  · show _ ↔ flow.exposes
    rw [← inner.exposes]
    constructor
    · rintro ⟨events,ending,⟨before,first,rfl,rfl,run⟩,exposed⟩
      exact ⟨before,first,run,(exposed_map _ _).1 exposed⟩
    · rintro ⟨events,ending,run,exposed⟩
      exact ⟨_,_,⟨events,ending,rfl,rfl,run⟩,(exposed_map _ _).2 exposed⟩
  · show _ ↔ ∃ first, ending = first.map jumps ∧ flow.passes first
    constructor
    · rintro ⟨events,⟨before,first,rfl,rfl,run⟩,free⟩
      exact ⟨first,rfl,(inner.passes _).1 ⟨before,run,(undefined_map _ _).1 free⟩⟩
    · rintro ⟨first,rfl,passes⟩
      obtain ⟨events,run,free⟩ := (inner.passes _).2 passes
      exact ⟨events.map change,⟨events,first,rfl,rfl,run⟩,(undefined_map _ _).2 free⟩
  · obtain ⟨events,ending,run⟩ := inner.live
    exact ⟨_,_,events,ending,rfl,rfl,run⟩

end Flow

end ShardScript.Library
