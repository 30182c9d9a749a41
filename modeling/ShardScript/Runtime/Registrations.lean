import ShardScript.Runtime.Turns
import Mathlib.Data.List.Forall2

/-! The deferred expressions that a frame registers and evaluates while exceptions unwind it. -/
namespace ShardScript.Runtime
open Library ByteCode FrameState

structure Registration where
  number : Nat
  target : Nat
  deriving DecidableEq

structure Ledger (Exception : Type) where
  registered : Nat := 0
  pending : List Registration := []
  /-- Those under evaluation, the innermost first. -/
  running : List Registration := []
  /-- Those that have come to their `DEFER_BREAK`. -/
  evaluated : List Registration := []
  /-- Those that an exception of theirs has ended. -/
  interrupted : List Registration := []
  entered : List Nat := []
  /-- While an exception is under way, the first registration that is due before it is received: those since its
  handler was entered, and those that were due for an exception that it replaces. -/
  due : Option Nat := none
  raised : Option Exception := none

def follow {α β : Type} (before after : List α) (new : β) (beside : List β) : List β :=
  if before.length < after.length then new :: beside
  else if after.length < before.length then beside.tail
  else beside

section follow
variable {α β : Type} {before after : List α} {new : β} {beside : List β}

theorem follow_same (same : after = before) : follow before after new beside = beside := by
  simp [follow,same]

theorem follow_push {top : α} (pushed : after = top :: before) :
    follow before after new beside = new :: beside := by
  simp [follow,pushed]

theorem follow_tail (along : beside.length = before.length) (popped : after = before.tail) :
    follow before after new beside = beside.tail := by
  subst popped
  cases before with
  | nil =>
    obtain rfl := List.length_eq_zero_iff.1 along
    rfl
  | cons top before => simp [follow]

end follow

variable {Data Exception : Type} {machine : DataMachine Data Exception} {code : Code}

def FrameState.isReceived (code : Code) (state : FrameState Data Exception) : Bool :=
  (state.unwinding code).any fun unwinding => decide (state.deferStack.length ≤ unwinding.targetSize)

def FrameState.executing (code : Code) (state : FrameState Data Exception) : Option Instruction :=
  if state.interruptionReason = .exceptionRaised then none else code.fetch state.ip

namespace Ledger

def atBreak (code : Code) (state : FrameState Data Exception) (ledger : Ledger Exception) : Ledger Exception :=
  if state.executing code = some .deferBreak then
    { ledger with running := ledger.running.tail, evaluated := ledger.running.take 1 ++ ledger.evaluated }
  else ledger

def popped (state next : FrameState Data Exception) (ledger : Ledger Exception) : List Registration :=
  if next.deferStack.length < state.deferStack.length then ledger.pending.take 1 else []

def record (code : Code) (state next : FrameState Data Exception) (ledger : Ledger Exception) :
    Ledger Exception :=
  let entered := follow state.exceptionHandlers next.exceptionHandlers ledger.registered ledger.entered
  let broken := ledger.atBreak code state
  let running := ledger.popped state next ++ broken.running
  { registered := ledger.registered + (next.deferStack.length - state.deferStack.length)
    pending := follow state.deferStack next.deferStack ⟨ledger.registered,next.deferStack.headD 0⟩ ledger.pending
    running := if next.interruptionReason = .exceptionRaised then [] else running
    evaluated := broken.evaluated
    interrupted := if next.interruptionReason = .exceptionRaised then running ++ ledger.interrupted
      else ledger.interrupted
    entered := entered
    due := if next.interruptionReason = .exceptionRaised then
        some (match ledger.due with
          | none => entered.headD 0
          | some due => min due (entered.headD 0))
      else if state.isReceived code then none else ledger.due
    raised := if next.interruptionReason = .exceptionRaised then next.currentException else ledger.raised }

def started (ledger : Ledger Exception) : List Registration :=
  ledger.running ++ (ledger.evaluated ++ ledger.interrupted)

theorem atBreak_started (code : Code) (state : FrameState Data Exception) (ledger : Ledger Exception) :
    ((ledger.atBreak code state).started).Perm ledger.started := by
  unfold atBreak
  split
  · dsimp only [started]
    rw [List.append_assoc,← List.append_assoc]
    refine List.Perm.append_right _ ?_
    refine List.perm_append_comm.trans ?_
    rw [← List.drop_one,List.take_append_drop]
  · exact .refl _

theorem atBreak_interrupted (code : Code) (state : FrameState Data Exception) (ledger : Ledger Exception) :
    (ledger.atBreak code state).interrupted = ledger.interrupted := by
  unfold atBreak
  split
  · rfl
  · rfl

theorem record_started (code : Code) (state next : FrameState Data Exception) (ledger : Ledger Exception) :
    (ledger.record code state next).started.Perm (ledger.popped state next ++ ledger.started) := by
  refine List.Perm.trans ?_ ((atBreak_started code state ledger).append_left _)
  dsimp only [started,record]
  rw [atBreak_interrupted]
  split
  · rw [List.nil_append]
    refine (List.perm_append_comm_assoc _ _ _).trans ?_
    rw [List.append_assoc]
  · rw [List.append_assoc]

end Ledger

/-- The runs of a frame whose turns are all allowed, with their ledgers. -/
inductive Accounting (machine : DataMachine Data Exception) (code : Code)
    (Allowed : FrameState Data Exception → Prop) (data : Data) :
    FrameState Data Exception → Ledger Exception → Prop
  | initial : Accounting machine code Allowed data (.initial data) {}
  | turn {state next : FrameState Data Exception} {ledger : Ledger Exception}
      (run : Accounting machine code Allowed data state ledger) (allowed : Allowed state)
      (step : state.step machine code = .running next) :
      Accounting machine code Allowed data next (ledger.record code state next)

/-! The depth of the drains. -/

def Interrupts (machine : DataMachine Data Exception) (code : Code) (state : FrameState Data Exception) : Prop :=
  ∃ next, state.step machine code = .running next ∧ next.interruptionReason ≠ .none

def Undisturbed (machine : DataMachine Data Exception) (code : Code) (state : FrameState Data Exception) : Prop :=
  Interrupts machine code state → ∀ activation ∈ state.activations, isUnwind activation = true

structure Counted (state : FrameState Data Exception) : Prop where
  depth : state.deferDrainDepth = state.activations.length
  raised : state.interruptionReason = .exceptionRaised → state.activations = []

namespace Counted

variable {state next : FrameState Data Exception}

theorem given_back (counted : Counted state) (unwinds : ∀ activation ∈ state.activations, isUnwind activation = true) :
    state.deferDrainDepth - state.activations.countP isUnwind = 0 := by
  rw [counted.depth,List.countP_eq_length.2 unwinds,Nat.sub_self]

theorem unwound_depth (counted : Counted state) :
    (state.unwound machine).deferDrainDepth = (state.unwound machine).activations.length := by
  unfold unwound
  split
  · exact counted.depth
  · simp [counted.depth]

theorem turn (counted : Counted state) (undisturbed : Undisturbed machine code state)
    (step : state.step machine code = .running next) : Counted next := by
  have interrupted (reason : next.interruptionReason ≠ .none) := undisturbed ⟨next,step,reason⟩
  cases step_turn step with
  | moves quiet _ | enters quiet _ | leaves quiet _ | ends quiet _ | stores quiet _ | registers quiet _ =>
    exact ⟨counted.depth,fun raised => absurd raised quiet.calm⟩
  | raises quiet _ _ => exact ⟨counted.given_back (interrupted (by simp [FrameState.raise])),fun _ => rfl⟩
  | returns quiet _ _ => exact ⟨counted.given_back (interrupted (by simp)),fun _ => rfl⟩
  | drains quiet _ _ => exact ⟨congrArg (· + 1) counted.depth,fun raised => absurd raised quiet.calm⟩
  | drainsNext quiet _ active _ =>
    refine ⟨?_,fun raised => absurd raised quiet.calm⟩
    have depth := counted.depth
    rw [active] at depth
    exact depth
  | drained quiet _ active _ =>
    refine ⟨?_,fun raised => absurd raised quiet.calm⟩
    have depth := counted.depth
    rw [active,List.length_cons] at depth
    exact Nat.sub_eq_of_eq_add depth
  | unwinds _ _ _ => exact ⟨congrArg (· + 1) counted.unwound_depth,fun raised => absurd raised unwound_calm⟩
  | receives _ _ _ => exact ⟨counted.unwound_depth,fun raised => nomatch raised⟩

end Counted

theorem counted_of_accounting {data : Data} {state : FrameState Data Exception} {ledger : Ledger Exception}
    (run : Accounting machine code (Undisturbed machine code) data state ledger) : Counted state := by
  induction run with
  | initial => exact ⟨rfl,fun _ => rfl⟩
  | turn _ undisturbed step counted => exact counted.turn undisturbed step

/-! What is registered, and what is evaluated of it. -/

/-- Every registration is on the stack or was evaluated, and only once. The one to be evaluated next is the last one
of those on the stack. -/
structure Books (state : FrameState Data Exception) (ledger : Ledger Exception) : Prop where
  targets : ledger.pending.map Registration.target = state.deferStack
  order : ledger.pending.Pairwise fun later earlier => earlier.number < later.number
  once : ((ledger.pending ++ ledger.started).map Registration.number).Perm (List.range ledger.registered)

namespace FrameState

variable {state next : FrameState Data Exception}

theorem Turn.deferStack (turn : Turn machine code state next) : next.deferStack = state.deferStack ∨
    (∃ target, next.deferStack = target :: state.deferStack) ∨
    ∃ target, state.deferStack = target :: next.deferStack := by
  cases turn with
  | moves | raises | returns | enters | leaves | ends | stores | drained => exact .inl rfl
  | registers => exact .inr (.inl ⟨_,rfl⟩)
  | drains _ _ stack => exact .inr (.inr ⟨_,stack⟩)
  | drainsNext _ _ _ stack => exact .inr (.inr ⟨_,stack⟩)
  | unwinds _ stack _ => exact .inr (.inr ⟨_,stack⟩)
  | receives => exact .inl unwound_deferStack

end FrameState

namespace Books

variable {state next : FrameState Data Exception} {ledger : Ledger Exception}

theorem below (books : Books state ledger) : ∀ registration ∈ ledger.pending, registration.number < ledger.registered := by
  intro registration member
  have listed : registration.number ∈ (ledger.pending ++ ledger.started).map Registration.number :=
    List.mem_map_of_mem (List.mem_append_left _ member)
  exact List.mem_range.1 (books.once.subset listed)

theorem pending_same (same : next.deferStack = state.deferStack) :
    (ledger.record code state next).pending = ledger.pending := follow_same same

theorem pending_push {target : Nat} (pushed : next.deferStack = target :: state.deferStack) :
    (ledger.record code state next).pending = ⟨ledger.registered,target⟩ :: ledger.pending := by
  simp [Ledger.record,follow,pushed]

theorem pending_pop (books : Books state ledger) {target : Nat} (popped : state.deferStack = target :: next.deferStack) :
    (ledger.record code state next).pending = ledger.pending.tail := by
  refine follow_tail ?_ ?_
  · rw [← books.targets,List.length_map]
  · rw [popped,List.tail_cons]

theorem turn (books : Books state ledger) (turn : Turn machine code state next) :
    Books next (ledger.record code state next) := by
  have started := Ledger.record_started code state next ledger
  rcases turn.deferStack with same | ⟨target,pushed⟩ | ⟨target,popped⟩
  · have registered : (ledger.record code state next).registered = ledger.registered := by simp [Ledger.record,same]
    have nothing : ledger.popped state next = [] := by simp [Ledger.popped,same]
    rw [nothing,List.nil_append] at started
    refine ⟨?_,?_,?_⟩
    · rw [pending_same same,same]
      exact books.targets
    · rw [pending_same same]
      exact books.order
    · rw [pending_same same,registered]
      exact ((started.append_left _).map _).trans books.once
  · have registered : (ledger.record code state next).registered = ledger.registered + 1 := by
      simp [Ledger.record,pushed]
    have nothing : ledger.popped state next = [] := by simp [Ledger.popped,pushed]
    rw [nothing,List.nil_append] at started
    refine ⟨?_,?_,?_⟩
    · rw [pending_push pushed,pushed,List.map_cons,books.targets]
    · rw [pending_push pushed]
      exact .cons books.below books.order
    · rw [pending_push pushed,registered,List.range_succ,List.cons_append,List.map_cons]
      refine List.Perm.trans (.cons _ ?_) (List.perm_append_singleton _ _).symm
      exact ((started.append_left _).map _).trans books.once
  · have registered : (ledger.record code state next).registered = ledger.registered := by simp [Ledger.record,popped]
    have top : ledger.popped state next = ledger.pending.take 1 := by simp [Ledger.popped,popped]
    have targets := books.targets
    have order := books.order
    have once := books.once
    rw [popped] at targets
    rw [top] at started
    cases pending : ledger.pending with
    | nil => simp [pending] at targets
    | cons top rest =>
      rw [pending] at targets order once started
      refine ⟨?_,?_,?_⟩
      · rw [books.pending_pop popped,pending]
        exact (List.cons.inj targets).2
      · rw [books.pending_pop popped,pending]
        exact order.of_cons
      · rw [books.pending_pop popped,registered,pending]
        refine List.Perm.trans (List.Perm.map _ ?_) once
        exact (started.append_left _).trans List.perm_middle

end Books

/-! What is due before an exception is received. -/

/-- All of so many registrations, counted from the bottom, were made before some number of them. -/
def Below (size number : Nat) (pending : List Registration) : Prop :=
  ∀ registration ∈ pending.reverse.take size, registration.number < number

namespace Below

variable {size number : Nat} {top : Registration} {pending : List Registration}

theorem push (below : Below size number pending) (room : size ≤ pending.length) :
    Below size number (top :: pending) := by
  unfold Below
  rw [List.reverse_cons,List.take_append_of_le_length (by simpa using room)]
  exact below

theorem pop (below : Below size number (top :: pending)) : Below size number pending := by
  intro registration member
  apply below
  rw [List.reverse_cons,List.take_append]
  exact List.mem_append_left _ member

theorem through (below : Below size number pending) (few : pending.length ≤ size) :
    ∀ registration ∈ pending, registration.number < number := by
  intro registration member
  apply below
  rw [List.take_of_length_le (by simpa using few)]
  exact List.mem_reverse.2 member

variable {state next : FrameState Data Exception} {ledger : Ledger Exception}

theorem turn (below : Below size number ledger.pending) (books : Books state ledger)
    (turn : Turn machine code state next)
    (room : ∀ target, next.deferStack = target :: state.deferStack → size ≤ state.deferStack.length) :
    Below size number (ledger.record code state next).pending := by
  rcases turn.deferStack with same | ⟨target,pushed⟩ | ⟨target,popped⟩
  · rw [Books.pending_same same]
    exact below
  · rw [Books.pending_push pushed]
    apply below.push
    rw [← @List.length_map _ _ ledger.pending Registration.target,books.targets]
    exact room target pushed
  · rw [books.pending_pop popped]
    cases pending : ledger.pending with
    | nil => exact fun registration member => by simp at member
    | cons top rest =>
      rw [pending] at below
      exact below.pop

end Below

/-- Nothing is registered where a handler, or an unwinding, would take it for older than it is. No try block is
entered, and no value returned, on the way to a handler. -/
structure Orderly (machine : DataMachine Data Exception) (code : Code) (state : FrameState Data Exception) : Prop where
  registers : ∀ target, state.executing code = some (.defer target) →
    (∀ handler ∈ state.exceptionHandlers, handler.deferStackBase ≤ state.deferStack.length) ∧
      ∀ unwinding : Unwinding Exception, unwinding.activation ∈ state.activations →
        unwinding.targetSize ≤ state.deferStack.length
  enters : ∀ handlerOffset, state.executing code = some (.enterTry handlerOffset) →
    ∀ activation ∈ state.activations, isUnwind activation = false
  returns : state.executing code = some .return → machine.returnsValue = true → state.activations = []

namespace FrameState

variable {state next : FrameState Data Exception}

theorem executing_eq_some {instruction : Instruction} (executing : state.executing code = some instruction) :
    state.interruptionReason ≠ .exceptionRaised ∧ code.fetch state.ip = some instruction := by
  rw [FrameState.executing] at executing
  split at executing
  next => cases executing
  next calm => exact ⟨calm,executing⟩

theorem Quiet.executing_eq (quiet : state.Quiet code) : state.executing code = code.fetch state.ip :=
  if_neg quiet.calm

theorem Turn.exceptionHandlers (turn : Turn machine code state next) :
    next.exceptionHandlers = state.exceptionHandlers ∨
    (∃ handlerOffset, state.executing code = some (.enterTry handlerOffset) ∧ next.deferStack = state.deferStack ∧
      next.exceptionHandlers = ⟨handlerOffset,state.deferStack.length⟩ :: state.exceptionHandlers) ∨
    next.exceptionHandlers = state.exceptionHandlers.tail := by
  have unwound : (state.unwound machine).exceptionHandlers = state.exceptionHandlers ∨
      (state.unwound machine).exceptionHandlers = state.exceptionHandlers.tail := by
    unfold FrameState.unwound
    split
    · exact .inr rfl
    · exact .inl rfl
  cases turn with
  | moves | raises | returns | ends | stores | registers | drains | drainsNext | drained => exact .inl rfl
  | enters quiet fetched => exact .inr (.inl ⟨_,quiet.executing_eq.trans fetched,rfl,rfl⟩)
  | leaves => exact .inr (.inr rfl)
  | unwinds => exact unwound.imp_right .inr
  | receives => exact unwound.imp_right .inr

theorem Turn.registered (turn : Turn machine code state next) {target : Nat}
    (pushed : next.deferStack = target :: state.deferStack) : state.executing code = some (.defer target) := by
  have longer : next.deferStack.length = state.deferStack.length + 1 := by rw [pushed,List.length_cons]
  cases turn with
  | moves | raises | returns | enters | leaves | ends | stores | drained =>
    exact absurd longer (Nat.ne_of_lt (Nat.lt_succ_self _))
  | registers quiet fetched =>
    obtain rfl := (List.cons.inj pushed).1
    exact quiet.executing_eq.trans fetched
  | drains _ _ stack | drainsNext _ _ _ stack | unwinds _ stack _ =>
    rw [stack,List.length_cons] at longer
    dsimp only at longer
    omega
  | receives =>
    rw [show _ = state.deferStack.length from congrArg List.length unwound_deferStack] at longer
    omega

end FrameState

structure Stamped (state : FrameState Data Exception) (ledger : Ledger Exception) : Prop where
  handlers : List.Forall₂ (fun handler number => Below handler.deferStackBase number ledger.pending)
    state.exceptionHandlers ledger.entered
  descending : ledger.entered.Pairwise fun later earlier => earlier ≤ later
  registered : ∀ number ∈ ledger.entered, number ≤ ledger.registered
  due : ∀ due, ledger.due = some due → ∀ number ∈ ledger.entered, number ≤ due

theorem forall₂_tail {α β : Type} {relation : α → β → Prop} {left : List α} {right : List β}
    (related : List.Forall₂ relation left right) : List.Forall₂ relation left.tail right.tail := by
  cases related with
  | nil => exact .nil
  | cons _ rest => exact rest

namespace Ledger

variable {state next : FrameState Data Exception} {ledger : Ledger Exception}

theorem registered_le : ledger.registered ≤ (ledger.record code state next).registered := Nat.le_add_right _ _

theorem due_calm (calm : next.interruptionReason ≠ .exceptionRaised) (goesOn : state.isReceived code = false) :
    (ledger.record code state next).due = ledger.due := by
  simp [record,calm,goesOn]

theorem raised_calm (calm : next.interruptionReason ≠ .exceptionRaised) :
    (ledger.record code state next).raised = ledger.raised := if_neg calm

theorem due_raised (raised : next.interruptionReason = .exceptionRaised) :
    (ledger.record code state next).due = some (match ledger.due with
      | none => (ledger.record code state next).entered.headD 0
      | some due => min due ((ledger.record code state next).entered.headD 0)) := if_pos raised

theorem le_due {number due : Nat} (old : ∀ due, ledger.due = some due → number ≤ due)
    (last : number ≤ (ledger.record code state next).entered.headD 0)
    (found : (ledger.record code state next).due = some due) : number ≤ due := by
  by_cases raised : next.interruptionReason = .exceptionRaised
  · obtain rfl := Option.some.inj ((due_raised raised).symm.trans found)
    cases before : ledger.due with
    | none => exact last
    | some before_ => exact Nat.le_min.2 ⟨old _ before,last⟩
  · simp only [record,raised,if_false] at found
    split at found
    · cases found
    · exact old due found

end Ledger

namespace Stamped

variable {state next : FrameState Data Exception} {ledger : Ledger Exception}

theorem entered_cases (stamped : Stamped state ledger) (books : Books state ledger)
    (turn : Turn machine code state next) (orderly : Orderly machine code state) :
    List.Forall₂ (fun handler number => Below handler.deferStackBase number (ledger.record code state next).pending)
        next.exceptionHandlers (ledger.record code state next).entered ∧
      (((ledger.record code state next).entered = ledger.registered :: ledger.entered ∧
        ∃ handlerOffset, state.executing code = some (.enterTry handlerOffset)) ∨
      (ledger.record code state next).entered = ledger.entered ∨
      (ledger.record code state next).entered = ledger.entered.tail) := by
  have kept : List.Forall₂ (fun handler number =>
      Below handler.deferStackBase number (ledger.record code state next).pending)
      state.exceptionHandlers ledger.entered := by
    have room : ∀ handler ∈ state.exceptionHandlers, ∀ target, next.deferStack = target :: state.deferStack →
        handler.deferStackBase ≤ state.deferStack.length :=
      fun handler member target pushed => (orderly.registers target (turn.registered pushed)).1 handler member
    refine ((List.forall₂_and_left _ _).2 ⟨room,stamped.handlers⟩).imp ?_
    intro handler number ⟨room,below⟩
    exact below.turn books turn room
  have along : ledger.entered.length = state.exceptionHandlers.length := stamped.handlers.length_eq.symm
  rcases turn.exceptionHandlers with same | ⟨handlerOffset,executing,same,pushed⟩ | popped
  · have entered : (ledger.record code state next).entered = ledger.entered := follow_same same
    rw [entered,same]
    exact ⟨kept,.inr (.inl rfl)⟩
  · have entered : (ledger.record code state next).entered = ledger.registered :: ledger.entered := follow_push pushed
    rw [entered,pushed]
    refine ⟨.cons ?_ kept,.inl ⟨rfl,handlerOffset,executing⟩⟩
    rw [Books.pending_same same]
    exact fun registration member => books.below registration (List.mem_reverse.1 (List.mem_of_mem_take member))
  · have entered : (ledger.record code state next).entered = ledger.entered.tail := follow_tail along popped
    rw [entered,popped]
    exact ⟨forall₂_tail kept,.inr (.inr rfl)⟩

theorem le_head {entered : List Nat} (descending : entered.Pairwise fun later earlier => earlier ≤ later) :
    ∀ number ∈ entered, number ≤ entered.headD 0 := by
  intro number member
  cases descending with
  | nil => cases member
  | cons below _ =>
    rcases List.mem_cons.1 member with rfl | member
    · exact Nat.le_refl _
    · exact below number member

theorem turn (stamped : Stamped state ledger) (books : Books state ledger) (turn : Turn machine code state next)
    (orderly : Orderly machine code state)
    (idle : state.interruptionReason ≠ .exceptionRaised →
      (∀ activation ∈ state.activations, isUnwind activation = false) → ledger.due = none) :
    Stamped next (ledger.record code state next) := by
  obtain ⟨handlers,entered⟩ := stamped.entered_cases books turn orderly
  suffices entries : (ledger.record code state next).entered.Pairwise (fun later earlier => earlier ≤ later) ∧
      ∀ number ∈ (ledger.record code state next).entered, number ≤ (ledger.record code state next).registered ∧
        ∀ due, ledger.due = some due → number ≤ due by
    refine ⟨handlers,entries.1,fun number member => (entries.2 number member).1,fun due found number member => ?_⟩
    exact Ledger.le_due (entries.2 number member).2 (le_head entries.1 number member) found
  rcases entered with ⟨pushed,handlerOffset,executing⟩ | same | popped
  · have nothing : ledger.due = none :=
      idle (executing_eq_some executing).1 (orderly.enters handlerOffset executing)
    rw [pushed]
    refine ⟨.cons stamped.registered stamped.descending,fun number member => ⟨?_,fun due found => ?_⟩⟩
    · rcases List.mem_cons.1 member with rfl | member
      · exact Ledger.registered_le
      · exact (stamped.registered number member).trans Ledger.registered_le
    · rw [nothing] at found
      cases found
  · rw [same]
    refine ⟨stamped.descending,fun number member => ⟨?_,fun due found => stamped.due due found number member⟩⟩
    exact (stamped.registered number member).trans Ledger.registered_le
  · rw [popped]
    refine ⟨stamped.descending.tail,fun number member => ⟨?_,fun due found => ?_⟩⟩
    · exact (stamped.registered number (List.mem_of_mem_tail member)).trans Ledger.registered_le
    · exact stamped.due due found number (List.mem_of_mem_tail member)

end Stamped

def OnlyAtBottom : List (Activation Exception) → Prop
  | [] => True
  | .unwind _ _ _ :: activations => activations = []
  | .drain _ _ :: activations => OnlyAtBottom activations

structure Underway (ledger : Ledger Exception) (unwinding : Unwinding Exception) : Prop where
  due : ∃ due, ledger.due = some due ∧ Below unwinding.targetSize due ledger.pending
  raised : ledger.raised = some unwinding.exception
  out : unwinding.handlerOffset = none → unwinding.targetSize = 0

structure Ways (state : FrameState Data Exception) (ledger : Ledger Exception) : Prop where
  bottom : OnlyAtBottom state.activations
  underway : ∀ unwinding : Unwinding Exception, unwinding.activation ∈ state.activations → Underway ledger unwinding
  raised : state.interruptionReason = .exceptionRaised → state.activations = [] ∧
    ∃ exception, state.currentException = some exception ∧ Underway ledger (.start state.exceptionHandlers exception)
  idle : state.interruptionReason ≠ .exceptionRaised →
    (∀ activation ∈ state.activations, isUnwind activation = false) → ledger.due = none

namespace Ways

variable {state next : FrameState Data Exception} {ledger : Ledger Exception}

theorem found (ways : Ways state ledger) {unwinding : Unwinding Exception}
    (found : state.unwinding code = some unwinding) :
    Underway ledger unwinding ∧ (state.unwound machine).activations = [] := by
  rcases unwinding_cases found with ⟨reason,exception,current,rfl⟩ | ⟨calm,-,activations,active⟩
  · obtain ⟨outside,other,same,underway⟩ := ways.raised reason
    rw [current] at same
    obtain rfl := Option.some.inj same
    refine ⟨underway,?_⟩
    rw [unwound,if_pos reason]
    exact outside
  · have bottom := ways.bottom
    rw [active] at bottom
    refine ⟨ways.underway unwinding (active ▸ List.mem_cons_self),?_⟩
    rw [unwound,if_neg calm]
    change state.activations.tail = []
    rw [active,List.tail_cons]
    exact bottom

theorem mem_drain {activation : Activation Exception} (unwinds : isUnwind activation = true) {remaining savedIP : Nat}
    {activations : List (Activation Exception)} :
    activation ∈ .drain remaining savedIP :: activations ↔ activation ∈ activations := by
  refine ⟨fun member => ?_,List.mem_cons_of_mem _⟩
  rcases List.mem_cons.1 member with rfl | member
  · cases unwinds
  · exact member

theorem onward {unwinding : Unwinding Exception} (underway : Underway ledger unwinding) (books : Books state ledger)
    (turn : Turn machine code state next) (calm : next.interruptionReason ≠ .exceptionRaised)
    (goesOn : state.isReceived code = false)
    (room : ∀ target, next.deferStack = target :: state.deferStack → unwinding.targetSize ≤ state.deferStack.length) :
    Underway (ledger.record code state next) unwinding := by
  obtain ⟨due,found,below⟩ := underway.due
  refine ⟨⟨due,?_,below.turn books turn room⟩,?_,underway.out⟩
  · rw [Ledger.due_calm calm goesOn,found]
  · rw [Ledger.raised_calm calm,underway.raised]

theorem still (ways : Ways state ledger) (books : Books state ledger) (turn : Turn machine code state next)
    (orderly : Orderly machine code state) (quiet : state.Quiet code)
    (calm : next.interruptionReason ≠ .exceptionRaised) (bottom : OnlyAtBottom next.activations)
    (same : ∀ activation, isUnwind activation = true →
      (activation ∈ next.activations ↔ activation ∈ state.activations)) :
    Ways next (ledger.record code state next) := by
  have goesOn : state.isReceived code = false := by rw [FrameState.isReceived,quiet.outside,Option.any_none]
  refine ⟨bottom,fun unwinding member => ?_,fun raised => absurd raised calm,fun _ outside => ?_⟩
  · have active := (same _ rfl).1 member
    exact onward (ways.underway unwinding active) books turn calm goesOn
      fun target pushed => (orderly.registers target (turn.registered pushed)).2 unwinding active
  · rw [Ledger.due_calm calm goesOn]
    refine ways.idle quiet.calm fun activation member => ?_
    by_contra unwinds
    have unwinds : isUnwind activation = true := by simpa using unwinds
    exact absurd (outside activation ((same activation unwinds).2 member)) (by simp [unwinds])

theorem starts (stamped : Stamped state ledger)
    {exception : Exception} (stack : next.deferStack = state.deferStack)
    (handlers : next.exceptionHandlers = state.exceptionHandlers)
    (reason : next.interruptionReason = .exceptionRaised) (current : next.currentException = some exception) :
    Underway (ledger.record code state next) (.start next.exceptionHandlers exception) := by
  have entered : (ledger.record code state next).entered = ledger.entered := follow_same handlers
  have raised : (ledger.record code state next).raised = some exception := (if_pos reason).trans current
  have due := @Ledger.due_raised Data Exception code state next ledger reason
  rw [entered] at due
  rw [handlers]
  cases stackOf : state.exceptionHandlers with
  | nil => exact ⟨⟨_,due,fun registration member => by simp [Unwinding.start] at member⟩,raised,fun _ => rfl⟩
  | cons handler rest =>
    have stamps := stamped.handlers
    rw [stackOf] at stamps
    cases numbers : ledger.entered with
    | nil =>
      rw [numbers] at stamps
      cases stamps
    | cons number later =>
      rw [numbers] at stamps due
      cases stamps with
      | cons below _ =>
        refine ⟨⟨_,due,?_⟩,raised,fun out => nomatch out⟩
        have least : (match ledger.due with
            | none => (number :: later).headD 0
            | some due => min due ((number :: later).headD 0)) = number := by
          cases before : ledger.due with
          | none => rfl
          | some before_ => exact Nat.min_eq_right (stamped.due before_ before number (by simp [numbers]))
        rw [least,Books.pending_same stack]
        exact below

theorem turn (ways : Ways state ledger) (stamped : Stamped state ledger) (books : Books state ledger)
    (orderly : Orderly machine code state) (turn : Turn machine code state next) :
    Ways next (ledger.record code state next) := by
  have still := ways.still books turn orderly
  have taken := turn
  cases turn with
  | moves quiet _ | enters quiet _ | leaves quiet _ | ends quiet _ | stores quiet _ | registers quiet _ =>
    exact still quiet quiet.calm ways.bottom fun _ _ => .rfl
  | drains quiet _ _ => exact still quiet quiet.calm ways.bottom fun _ unwinds => mem_drain unwinds
  | drainsNext quiet _ active _ =>
    have bottom := ways.bottom
    rw [active] at bottom still
    exact still quiet quiet.calm bottom fun _ unwinds => (mem_drain unwinds).trans (mem_drain unwinds).symm
  | drained quiet _ active _ =>
    have bottom := ways.bottom
    rw [active] at bottom still
    exact still quiet quiet.calm bottom fun _ unwinds => (mem_drain unwinds).symm
  | raises quiet _ _ =>
    exact ⟨trivial,fun _ member => (by cases member),fun _ => ⟨rfl,_,rfl,starts stamped rfl rfl rfl rfl⟩,
      fun calm => absurd rfl calm⟩
  | returns quiet fetched valued =>
    have outside := orderly.returns (quiet.executing_eq.trans fetched) valued
    refine still quiet (by simp) trivial fun activation _ => ?_
    rw [outside]
  | @unwinds unwinding target deferStack found stack above =>
    obtain ⟨underway,nothing⟩ : Underway ledger unwinding ∧ (state.unwound machine).activations = [] :=
      ways.found found
    have goesOn : state.isReceived code = false := by simp [FrameState.isReceived,found,above]
    refine ⟨nothing,fun other member => ?_,fun raised => absurd raised unwound_calm,fun _ outside => ?_⟩
    · rw [nothing,List.mem_singleton] at member
      obtain rfl := Unwinding.activation_injective member
      refine onward underway books taken unwound_calm goesOn fun other pushed => ?_
      rw [stack] at pushed
      have lengths := congrArg List.length pushed
      simp only [List.length_cons] at lengths
      omega
    · exact absurd (outside _ List.mem_cons_self) (by simp [Unwinding.activation,isUnwind])
  | @receives unwinding handlerOffset found handler through =>
    have nothing : (state.unwound machine).activations = [] := (ways.found found).2
    have received : state.isReceived code = true := by simp [FrameState.isReceived,found,through]
    refine ⟨?_,fun other member => ?_,fun raised => (by cases raised),fun _ _ => ?_⟩
    · change OnlyAtBottom (state.unwound machine).activations
      rw [nothing]
      exact trivial
    · change other.activation ∈ (state.unwound machine).activations at member
      rw [nothing] at member
      cases member
    · simp [Ledger.record,received]

theorem initial (data : Data) : Ways (.initial data : FrameState Data Exception) {} :=
  ⟨trivial,fun _ member => (by cases member),fun raised => (by cases raised),fun _ _ => rfl⟩

end Ways

/-! Which registrations are under evaluation. -/

theorem Ledger.running_length {state next : FrameState Data Exception} {ledger : Ledger Exception}
    (books : Books state ledger) (calm : next.interruptionReason ≠ .exceptionRaised) :
    (ledger.record code state next).running.length =
      (if next.deferStack.length < state.deferStack.length then 1 else 0) +
        (if state.executing code = some .deferBreak then ledger.running.length - 1 else ledger.running.length) := by
  have popped : (ledger.popped state next).length =
      if next.deferStack.length < state.deferStack.length then 1 else 0 := by
    have pending : ledger.pending.length = state.deferStack.length := by rw [← books.targets,List.length_map]
    unfold Ledger.popped
    split
    · rw [List.length_take]
      omega
    · rfl
  have running : (ledger.record code state next).running =
      ledger.popped state next ++ (ledger.atBreak code state).running := if_neg calm
  rw [running,List.length_append,popped]
  congr 1
  unfold Ledger.atBreak
  split
  · exact List.length_tail
  · rfl

variable {unwinding : Unwinding Exception}

/-- An unwinding goes on only where nothing else is under evaluation. -/
theorem unwinding_length {state : FrameState Data Exception} {ledger : Ledger Exception} (ways : Ways state ledger)
    (along : ledger.running.length = state.activations.length)
    (found : state.unwinding code = some unwinding) :
    (if state.executing code = some .deferBreak then ledger.running.length - 1 else ledger.running.length) = 0 := by
  rcases unwinding_cases found with ⟨reason,-⟩ | ⟨calm,fetched,activations,active⟩
  · rw [FrameState.executing,if_pos reason,along,(ways.raised reason).1]
    rfl
  · have bottom := ways.bottom
    rw [active] at bottom
    obtain rfl : activations = [] := bottom
    rw [FrameState.executing,if_neg calm,if_pos fetched,along,active]
    rfl

theorem running_turn {state next : FrameState Data Exception} {ledger : Ledger Exception} (books : Books state ledger)
    (ways : Ways state ledger) (orderly : Orderly machine code state)
    (along : ledger.running.length = state.activations.length) (turn : Turn machine code state next) :
    (ledger.record code state next).running.length = next.activations.length := by
  have calmly := @Ledger.running_length Data Exception code state next ledger books
  have stack := turn.deferStack
  cases turn with
  | raises => simp [Ledger.record,FrameState.raise]
  | moves quiet idle =>
    rw [calmly quiet.calm,quiet.executing_eq,along]
    split_ifs with shorter atBreak
    · exact absurd shorter (Nat.lt_irrefl _)
    · exact absurd shorter (Nat.lt_irrefl _)
    · simp [idle ‹_›]
    · exact Nat.zero_add _
  | returns quiet fetched valued =>
    have outside := orderly.returns (quiet.executing_eq.trans fetched) valued
    rw [calmly (by simp),along,outside]
    simp
  | enters quiet fetched | leaves quiet fetched | ends quiet fetched | stores quiet fetched | registers quiet fetched =>
    rw [calmly quiet.calm,quiet.executing_eq,fetched,along]
    simp
  | drains quiet fetched popped =>
    rw [calmly quiet.calm,quiet.executing_eq,if_neg fetched,along,popped]
    simp [Nat.add_comm]
  | drainsNext quiet fetched active popped =>
    rw [calmly quiet.calm,quiet.executing_eq,if_pos fetched,along,popped,active]
    simp [Nat.add_comm]
  | drained quiet fetched active =>
    rw [calmly quiet.calm,quiet.executing_eq,if_pos fetched,along,active]
    simp
  | @unwinds unwinding target deferStack found popped above =>
    have nothing : (state.unwound machine).activations = [] := (ways.found found).2
    rw [calmly unwound_calm,popped]
    dsimp only
    rw [nothing,unwinding_length ways along found]
    simp
  | @receives unwinding handlerOffset found handler through =>
    have nothing : (state.unwound machine).activations = [] := (ways.found found).2
    rw [calmly (by simp)]
    dsimp only
    rw [nothing,unwinding_length ways along found,unwound_deferStack]
    simp

structure Kept (state : FrameState Data Exception) (ledger : Ledger Exception) : Prop where
  books : Books state ledger
  running : ledger.running.length = state.activations.length
  stamped : Stamped state ledger
  ways : Ways state ledger

theorem kept_of_accounting {data : Data} {state : FrameState Data Exception} {ledger : Ledger Exception}
    (run : Accounting machine code (Orderly machine code) data state ledger) : Kept state ledger := by
  induction run with
  | initial =>
    refine ⟨⟨rfl,.nil,.nil⟩,rfl,⟨.nil,.nil,?_,?_⟩,Ways.initial data⟩
    · exact fun _ member => nomatch member
    · exact fun _ found => nomatch found
  | @turn state next ledger _ orderly step kept =>
    have turn := step_turn step
    exact ⟨kept.books.turn turn,running_turn kept.books kept.ways orderly kept.running turn,kept.stamped.turn kept.books turn orderly kept.ways.idle,
      kept.ways.turn kept.stamped kept.books orderly turn⟩

/-- When an exception is handed on, nothing is under evaluation any more, and what has been registered since the handler
was entered has been evaluated. -/
structure Receipt (machine : DataMachine Data Exception) (code : Code) (state : FrameState Data Exception)
    (ledger : Ledger Exception) (unwinding : Unwinding Exception) : Prop where
  through : (ledger.atBreak code state).running = []
  evaluated : ∃ due, ledger.due = some due ∧
    ∀ number < ledger.registered, due ≤ number ∨ unwinding.handlerOffset = none →
      ∃ registration ∈ (ledger.atBreak code state).evaluated ++ ledger.interrupted, registration.number = number
  last : ledger.raised = some unwinding.exception
  handled : ∀ handlerOffset, unwinding.handlerOffset = some handlerOffset → ∃ next data,
    state.step machine code = .running next ∧ next.ip = handlerOffset ∧ next.activations = [] ∧
      next.currentException = some unwinding.exception ∧
      next.data = machine.incrementReference unwinding.exception (machine.pushException unwinding.exception data)
  out : unwinding.handlerOffset = none → ∃ last, state.step machine code = .ended (.finished last) ∧
    last.currentException = some unwinding.exception

/-- Control is in the deferred expressions: a turn that takes a registration off goes to its target, and the expression
is under evaluation until its `DEFER_BREAK` or an exception ends it. -/
structure Accounted (machine : DataMachine Data Exception) (code : Code) (state : FrameState Data Exception)
    (ledger : Ledger Exception) : Prop where
  books : Books state ledger
  running : ledger.running.length = state.activations.length
  starts : ∀ next, state.step machine code = .running next → next.deferStack.length < state.deferStack.length →
    ∃ registration, ledger.pending.head? = some registration ∧ next.ip = registration.target ∧
      (ledger.record code state next).running.head? = some registration
  receipts : ∀ unwinding, state.unwinding code = some unwinding → state.deferStack.length ≤ unwinding.targetSize →
    ¬state.IsUndrainable machine → Receipt machine code state ledger unwinding

namespace FrameState

variable {state : FrameState Data Exception}

theorem step_through (found : state.unwinding code = some unwinding)
    (drains : ¬state.IsUndrainable machine) (through : state.deferStack.length ≤ unwinding.targetSize) :
    state.step machine code = resumeUnwind.deliver machine unwinding.handlerOffset unwinding.exception
      (state.unwound machine) := by
  rw [step_unwinding found drains,resumeUnwind,unwound_deferStack]
  cases stack : state.deferStack with
  | nil => rfl
  | cons target deferStack =>
    rw [stack] at through
    exact if_neg (Nat.not_lt.2 through)

end FrameState

theorem FrameState.Turn.starts {state next : FrameState Data Exception} (turn : Turn machine code state next)
    (shorter : next.deferStack.length < state.deferStack.length) :
    next.interruptionReason ≠ .exceptionRaised ∧ state.deferStack = next.ip :: next.deferStack := by
  cases turn with
  | moves | raises | returns | enters | leaves | ends | stores | drained => exact absurd shorter (Nat.lt_irrefl _)
  | registers => exact absurd shorter (by simp)
  | drains quiet _ stack | drainsNext quiet _ _ stack => exact ⟨quiet.calm,stack⟩
  | unwinds _ stack _ => exact ⟨unwound_calm,stack⟩
  | receives =>
    dsimp only at shorter
    rw [unwound_deferStack] at shorter
    exact absurd shorter (Nat.lt_irrefl _)

theorem Books.starts {state next : FrameState Data Exception} {ledger : Ledger Exception} (books : Books state ledger)
    (step : state.step machine code = .running next) (shorter : next.deferStack.length < state.deferStack.length) :
    ∃ registration, ledger.pending.head? = some registration ∧ next.ip = registration.target ∧
      (ledger.record code state next).running.head? = some registration := by
  obtain ⟨calm,stack⟩ := (step_turn step).starts shorter
  have targets := books.targets
  rw [stack] at targets
  cases pending : ledger.pending with
  | nil => simp [pending] at targets
  | cons registration later =>
    rw [pending] at targets
    refine ⟨registration,rfl,(List.cons.inj targets).1.symm,?_⟩
    simp [Ledger.record,Ledger.popped,calm,shorter,pending]

theorem Books.evaluated {state : FrameState Data Exception} {ledger : Ledger Exception} (books : Books state ledger)
    (through : (ledger.atBreak code state).running = []) {number : Nat} (registered : number < ledger.registered)
    (off : ∀ registration ∈ ledger.pending, registration.number ≠ number) :
    ∃ registration ∈ (ledger.atBreak code state).evaluated ++ ledger.interrupted, registration.number = number := by
  obtain ⟨registration,member,rfl⟩ := List.mem_map.1 (books.once.symm.subset (List.mem_range.2 registered))
  refine ⟨registration,?_,rfl⟩
  have started := (Ledger.atBreak_started code state ledger).symm.subset
    ((List.mem_append.1 member).resolve_left fun pending => off registration pending rfl)
  rwa [Ledger.started,through,List.nil_append,Ledger.atBreak_interrupted] at started

theorem Kept.accounted {state : FrameState Data Exception} {ledger : Ledger Exception} (kept : Kept state ledger) :
    Accounted machine code state ledger := by
  refine ⟨kept.books,kept.running,fun next => kept.books.starts,fun unwinding found through drains => ?_⟩
  obtain ⟨underway,nothing⟩ : Underway ledger unwinding ∧ (state.unwound machine).activations = [] :=
    kept.ways.found found
  obtain ⟨due,some_,below⟩ := underway.due
  have pending : ledger.pending.length = state.deferStack.length := by rw [← kept.books.targets,List.length_map]
  have step : state.step machine code = _ := step_through found drains through
  have ended : (ledger.atBreak code state).running = [] := by
    apply List.length_eq_zero_iff.1
    rw [← unwinding_length kept.ways kept.running found,Ledger.atBreak]
    split
    · exact List.length_tail
    · rfl
  refine ⟨ended,⟨due,some_,fun number registered since => ?_⟩,underway.raised,fun handlerOffset handler => ?_,fun out => ?_⟩
  · refine kept.books.evaluated ended registered fun registration member same => ?_
    rcases since with since | out
    · have earlier := below.through (pending ▸ through) registration member
      omega
    · rw [underway.out out] at through
      rw [List.length_eq_zero_iff.1 (pending.trans (Nat.le_zero.1 through))] at member
      cases member
  · rw [handler] at step
    exact ⟨_,_,step,rfl,nothing,rfl,rfl⟩
  · rw [out] at step
    exact ⟨_,step,rfl⟩

/-- In orderly turns the deferred expressions are evaluated as the exceptions demand, and undisturbed turns count the
drains that are in progress. -/
theorem defers_accounted (machine : DataMachine Data Exception) (code : Code) (data : Data)
    (state : FrameState Data Exception) (ledger : Ledger Exception) :
    (Accounting machine code (Orderly machine code) data state ledger → Accounted machine code state ledger) ∧
    (Accounting machine code (Undisturbed machine code) data state ledger →
      state.deferDrainDepth = state.activations.length) :=
  ⟨fun run => (kept_of_accounting run).accounted,fun run => (counted_of_accounting run).depth⟩

def raising : DataMachine Unit Unit :=
  { DataMachine.idle () with
    execute := fun instruction data =>
      match instruction with
      | .callMethodSymbol _ => .raised () data
      | _ => .ok data }

def throwBehindDefer : Code := [.defer 20,.jump 26,.loadLocal 0,.deferBreak,.loadLocal 1,.throw]

theorem Orderly.plain {state : FrameState Data Exception} {instruction : Option Instruction}
    (executing : state.executing code = instruction) (registers : ∀ target, instruction ≠ some (.defer target))
    (enters : ∀ handlerOffset, instruction ≠ some (.enterTry handlerOffset)) (returns : instruction ≠ some .return) :
    Orderly machine code state := by
  subst executing
  exact ⟨fun target same => absurd same (registers target),fun offset same => absurd same (enters offset),
    fun same => absurd same returns⟩

theorem Undisturbed.outside {state : FrameState Data Exception} (outside : state.activations = []) :
    Undisturbed machine code state := by
  intro _ activation member
  rw [outside] at member
  cases member

theorem Accounting.mono {Allowed Other : FrameState Data Exception → Prop} (more : ∀ state, Allowed state → Other state)
    {data : Data} {state : FrameState Data Exception} {ledger : Ledger Exception}
    (run : Accounting machine code Allowed data state ledger) : Accounting machine code Other data state ledger := by
  induction run with
  | initial => exact .initial
  | turn _ allowed step ih => exact ih.turn (more _ allowed) step

theorem defers_accounted_throw : ∃ (state : FrameState Unit Unit) (ledger : Ledger Unit),
    Accounted raising throwBehindDefer state ledger ∧ state.deferDrainDepth = state.activations.length ∧
      ledger.running = [⟨0,20⟩] := by
  have registers : Orderly raising throwBehindDefer (.initial ()) :=
    ⟨fun _ _ => ⟨fun _ member => (nomatch member),fun _ member => nomatch member⟩,
      fun _ executing => (nomatch executing),fun executing => nomatch executing⟩
  have start : Accounting raising throwBehindDefer
    (fun state => Orderly raising throwBehindDefer state ∧ Undisturbed raising throwBehindDefer state) () (.initial ()) {} :=
    .initial
  have one := start.turn ⟨registers,.outside rfl⟩ rfl
  have two := one.turn ⟨.plain rfl nofun nofun nofun,.outside rfl⟩ rfl
  have three := two.turn ⟨.plain rfl nofun nofun nofun,.outside rfl⟩ rfl
  have four := three.turn ⟨.plain rfl nofun nofun nofun,.outside rfl⟩ rfl
  have five := four.turn ⟨.plain rfl nofun nofun nofun,.outside rfl⟩ rfl
  have six := five.turn ⟨.plain rfl nofun nofun nofun,fun _ => List.forall_mem_singleton.2 rfl⟩ rfl
  exact ⟨_,_,(defers_accounted _ _ _ _ _).1 (six.mono fun _ both => both.1),
    (defers_accounted _ _ _ _ _).2 (six.mono fun _ both => both.2),rfl⟩

def raisingDefer : Code :=
  [.enterTry 64,.defer 30,.jump 42,.callMethodSymbol 0,.deferBreak,.deferDrain 1,.leaveTry,.jump 68,.pop,.endCatch]

/-- The drain that the exception leaves is counted for ever. -/
theorem raisingDefer_keeps_depth : ∃ (state : FrameState Unit Unit) (ledger : Ledger Unit),
    Accounting raising raisingDefer (fun _ => True) () state ledger ∧ raisingDefer.fetch state.ip = some .pop ∧
      state.deferDrainDepth = 1 ∧ state.activations = [] := by
  have start : Accounting raising raisingDefer (fun _ => True) () (.initial ()) {} := .initial
  have one := start.turn trivial rfl
  have two := one.turn trivial rfl
  have three := two.turn trivial rfl
  have four := three.turn trivial rfl
  have five := four.turn trivial rfl
  have six := five.turn trivial rfl
  exact ⟨_,_,six,rfl,rfl,rfl⟩

end ShardScript.Runtime
