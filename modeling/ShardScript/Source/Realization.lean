import ShardScript.Source.Execution
import ShardScript.Emitter.Acceptance

/-! Runs of the interpreter that do what a reference run does: the same data instructions in
the same order, to a configuration that fits the value. -/
namespace ShardScript.Source
open Library ByteCode Emitter ShardScript.Runtime FrameState

variable {Data Exception : Type} {machine : DataMachine Data Exception} {code : Code}

@[simp] theorem instructions_append (left right : List Event) :
    instructions (left ++ right) = instructions left ++ instructions right := List.filterMap_append

@[simp] theorem exits_append (left right : List Event) :
    exits (left ++ right) = exits left ++ exits right := List.filterMap_append

/-- From a configuration the interpreter runs as the progress says: through `least` steps at
least if it comes to a value, and through `turns` at least if it takes too many turns. -/
def Follows {α : Type} (machine : DataMachine Data Exception) (code : Code) (turns least : Nat)
    (start : FrameState.Config Data Exception) (progress : Progress α)
    (fits : α → FrameState.Config Data Exception → Prop) : Prop :=
  match progress with
  | .value value trace => ∃ steps last, least ≤ steps ∧
      Machine.Leads (interpreter machine code) steps start (instructions trace) last ∧ fits value last
  | .timeout trace => ∃ steps last, turns ≤ steps ∧
      Machine.Leads (interpreter machine code) steps start (instructions trace) last
  | .stopped trace => ∃ steps last,
      Machine.Leads (interpreter machine code) steps start (instructions trace) last

def Realizes {α : Type} (machine : DataMachine Data Exception) (code : Code) (Proper : Exit → Prop)
    (turns least : Nat) (start : FrameState.Config Data Exception) (progress : Progress α)
    (fits : α → FrameState.Config Data Exception → Prop) : Prop :=
  (∀ exit ∈ exits progress.trace, Proper exit) →
    Follows machine code turns least start progress fits

namespace Realizes

variable {α β : Type} {Proper : Exit → Prop} {turns least : Nat}
variable {start : FrameState.Config Data Exception} {fits : α → FrameState.Config Data Exception → Prop}

theorem value {result : α} (h : fits result start) :
    Realizes machine code Proper turns 0 start (.value result []) fits :=
  fun _ => ⟨0,start,Nat.le_refl 0,.refl start,h⟩

theorem stopped :
    Realizes machine code Proper turns least start (.stopped []) fits :=
  fun _ => ⟨0,start,.refl start⟩

theorem bindTurns {later more : Nat} {first : Progress α} {rest : α → Progress β}
    {middle : α → FrameState.Config Data Exception → Prop}
    {fits : β → FrameState.Config Data Exception → Prop}
    (h : Realizes machine code Proper turns least start first middle) (enough : turns ≤ least + later)
    (h' : ∀ value config, middle value config →
      Realizes machine code Proper later more config (rest value) fits) :
    Realizes machine code Proper turns (least + more) start (first.bind rest) fits := by
  intro proper
  cases first with
  | timeout trace => exact h proper
  | stopped trace => exact h proper
  | value result trace =>
    have traced : ((rest result).after trace).trace = trace ++ (rest result).trace := by
      cases rest result <;> rfl
    rw [Progress.bind,traced,exits_append] at proper
    obtain ⟨steps,config,bound,leads,holds⟩ :=
      h fun exit member => proper exit (List.mem_append_left _ member)
    have later := h' result config holds fun exit member => proper exit (List.mem_append_right _ member)
    rw [Progress.bind]
    cases next : rest result with
    | value result trace' =>
      rw [next] at later
      obtain ⟨further,last,bound',leads',holds'⟩ := later
      refine ⟨steps + further,last,by omega,?_,holds'⟩
      rw [instructions_append]
      exact leads.trans leads'
    | timeout trace' =>
      rw [next] at later
      obtain ⟨further,last,bound',leads'⟩ := later
      refine ⟨steps + further,last,by omega,?_⟩
      rw [instructions_append]
      exact leads.trans leads'
    | stopped trace' =>
      rw [next] at later
      obtain ⟨further,last,leads'⟩ := later
      refine ⟨steps + further,last,?_⟩
      rw [instructions_append]
      exact leads.trans leads'

theorem bind {first : Progress α} {rest : α → Progress β}
    {middle : α → FrameState.Config Data Exception → Prop}
    {fits : β → FrameState.Config Data Exception → Prop}
    (h : Realizes machine code Proper turns least start first middle)
    (h' : ∀ value config, middle value config →
      Realizes machine code Proper turns 0 config (rest value) fits) :
    Realizes machine code Proper turns least start (first.bind rest) fits :=
  h.bindTurns (Nat.le_add_left turns least) h'

variable {progress : Progress α}

theorem fewer {other : Nat}
    (h : Realizes machine code Proper turns least start progress fits) (le : other ≤ turns) :
    Realizes machine code Proper other least start progress fits := by
  intro proper
  have held := h proper
  cases progress with
  | value result trace => exact held
  | stopped trace => exact held
  | timeout trace =>
    obtain ⟨steps,last,bound,leads⟩ := held
    exact ⟨steps,last,by omega,leads⟩

theorem mono {fits other : α → FrameState.Config Data Exception → Prop}
    (h : Realizes machine code Proper turns least start progress fits)
    (imp : ∀ value config, fits value config → other value config) :
    Realizes machine code Proper turns least start progress other := by
  intro proper
  have held := h proper
  cases progress with
  | timeout trace => exact held
  | stopped trace => exact held
  | value result trace =>
    obtain ⟨steps,last,bound,leads,holds⟩ := held
    exact ⟨steps,last,bound,leads,imp _ _ holds⟩

theorem silent
    {middle : FrameState.Config Data Exception} {steps : Nat}
    (leads : Machine.Leads (interpreter machine code) steps start [] middle)
    (h : Realizes machine code Proper turns least middle progress fits) :
    Realizes machine code Proper turns (steps + least) start progress fits := by
  intro proper
  have held := h proper
  cases progress with
  | timeout trace =>
    obtain ⟨more,last,bound,leads'⟩ := held
    exact ⟨steps + more,last,by omega,leads.trans leads'⟩
  | stopped trace =>
    obtain ⟨more,last,leads'⟩ := held
    exact ⟨steps + more,last,leads.trans leads'⟩
  | value result trace =>
    obtain ⟨more,last,bound,leads',holds⟩ := held
    exact ⟨steps + more,last,by omega,leads.trans leads',holds⟩

theorem weaken
    {fewer : Nat} (h : Realizes machine code Proper turns least start progress fits) (le : fewer ≤ least) :
    Realizes machine code Proper turns fewer start progress fits := by
  intro proper
  have held := h proper
  cases progress with
  | timeout trace => exact held
  | stopped trace => exact held
  | value result trace =>
    obtain ⟨steps,last,bound,leads,holds⟩ := held
    exact ⟨steps,last,by omega,leads,holds⟩

theorem followed {fits other : α → FrameState.Config Data Exception → Prop}
    (h : Realizes machine code Proper turns least start progress fits)
    (more : ∀ value config, fits value config → ∃ steps last,
      Machine.Leads (interpreter machine code) steps config [] last ∧ other value last) :
    Realizes machine code Proper turns least start progress other := by
  intro proper
  have held := h proper
  cases progress with
  | timeout trace => exact held
  | stopped trace => exact held
  | value result trace =>
    obtain ⟨steps,middle,bound,leads,holds⟩ := held
    obtain ⟨further,last,leads',holds'⟩ := more _ _ holds
    refine ⟨steps + further,last,by omega,?_,holds'⟩
    rw [← List.append_nil (instructions trace)]
    exact leads.trans leads'

theorem exit (exit : Exit)
    (h : Proper exit → Realizes machine code Proper turns least start progress fits) :
    Realizes machine code Proper turns least start (progress.after [.left exit]) fits := by
  intro proper
  have traced : (progress.after [.left exit]).trace = .left exit :: progress.trace := by
    cases progress <;> rfl
  rw [traced] at proper
  have held := h (proper exit (List.mem_cons_self)) fun other member => proper other
    (List.mem_cons_of_mem _ member)
  cases progress <;> exact held

theorem exitValue {result : α} (exit : Exit)
    (h : Proper exit → Realizes machine code Proper turns least start (.value result []) fits) :
    Realizes machine code Proper turns least start (.value result [.left exit]) fits :=
  Realizes.exit exit h

theorem iterate {test : Data → Progress (Bool × Data)} {body : Data → Progress (Completion × Data)}
    {Head Body : Data → FrameState.Config Data Exception → Prop}
    {fits : Completion × Data → FrameState.Config Data Exception → Prop}
    (tested : ∀ data config, Head data config → Realizes machine code Proper turns 1 config (test data)
      fun result config => if result.1 then Body result.2 config else fits (.normal,result.2) config)
    (bodied : ∀ data config, Body data config → Realizes machine code Proper turns 0 config (body data)
      fun result config => match result.1 with
        | .normal | .continue => Head result.2 config
        | .break => fits (.normal,result.2) config
        | completion => fits (completion,result.2) config)
    {data : Data} (head : Head data start) :
    Realizes machine code Proper turns 0 start (iterate test body turns data) fits := by
  have counted : ∀ left ≤ turns, ∀ data start, Head data start →
      Realizes machine code Proper left 0 start (Source.iterate test body left data) fits := by
    intro left
    induction left with
    | zero =>
      intro _ data start _ _
      exact ⟨0,start,Nat.le_refl 0,.refl start⟩
    | succ left ih =>
      intro le data start head
      rw [Source.iterate]
      refine weaken (((tested data start head).fewer le).bindTurns (Nat.add_comm left 1).le ?_) (Nat.zero_le (1 + 0))
      rintro ⟨truth,data⟩ config middle
      cases truth with
      | false => exact value middle
      | true =>
        refine ((bodied data config middle).fewer (by omega)).bind ?_
        rintro ⟨completion,data⟩ config after
        cases completion with
        | normal | «continue» => exact ih (by omega) data config after
        | «break» | «return» | restart => exact value after
  exact counted turns (Nat.le_refl turns) data start head

end Realizes

/-- The frame at an offset, with its values and its defer stack; the rest is as in a base. -/
def at_ (base : FrameState Data Exception) (ip : Nat) (data : Data) (deferStack : List Nat) :
    FrameState Data Exception :=
  { base with ip := ip, data := data, deferStack := deferStack }

section Steps

variable {base : FrameState Data Exception} {start : Nat} {data : Data} {stack : List Nat}

theorem step_at {instruction : Instruction} (found : code.fetch start = some instruction)
    (calm : base.interruptionReason = .none) :
    (interpreter machine code).step (at_ base start data stack) =
      (at_ base (start + instruction.size) data stack).processCode machine code instruction := by
  have calm : (at_ base start data stack).interruptionReason ≠ .exceptionRaised := by
    change base.interruptionReason ≠ _
    rw [calm]
    decide
  have found : code.fetch (at_ base start data stack).ip = some instruction := found
  change FrameState.step machine code _ = _
  unfold FrameState.step
  rw [if_neg calm,found]
  rfl

variable {instruction : Instruction}

theorem observe_at (found : code.fetch start = some instruction)
    (calm : base.interruptionReason = .none) :
    (interpreter machine code).observe (at_ base start data stack) =
      if instruction.isData then [instruction] else [] := by
  have calm : (at_ base start data stack).interruptionReason ≠ .exceptionRaised := by
    change base.interruptionReason ≠ _
    rw [calm]
    decide
  have found : code.fetch (at_ base start data stack).ip = some instruction := found
  change FrameState.observe code _ = _
  unfold FrameState.observe
  rw [if_neg calm,found]
  by_cases data : instruction.isData = true <;> simp [data]

theorem leads_control {next : FrameState.Config Data Exception}
    (found : code.fetch start = some instruction) (calm : base.interruptionReason = .none)
    (control : instruction.isData = false)
    (processed : (at_ base (start + instruction.size) data stack).processCode machine code instruction = next) :
    Machine.Leads (interpreter machine code) 1 (.running (at_ base start data stack)) [] next := by
  refine .one ((step_at found calm).trans processed) ?_
  rw [observe_at found calm,if_neg (by simp [control])]

theorem leads_jump {target : Nat} (found : code.fetch start = some (.jump target))
    (calm : base.interruptionReason = .none) :
    Machine.Leads (interpreter machine code) 1 (.running (at_ base start data stack)) []
      (.running (at_ base target data stack)) :=
  leads_control found calm rfl rfl

theorem leads_jumpFalse {target : Nat} {truth : Bool} {data' : Data}
    (found : code.fetch start = some (.jumpFalse target)) (calm : base.interruptionReason = .none)
    (popped : machine.popTruth data = some (truth,data')) :
    Machine.Leads (interpreter machine code) 1 (.running (at_ base start data stack)) []
      (.running (at_ base (if truth then start + 10 else target) data' stack)) := by
  refine leads_control found calm rfl ?_
  simp only [processCode,at_,popped]
  rfl

theorem leads_jumpTrue {target : Nat} {truth : Bool} {data' : Data}
    (found : code.fetch start = some (.jumpTrue target)) (calm : base.interruptionReason = .none)
    (popped : machine.popTruth data = some (truth,data')) :
    Machine.Leads (interpreter machine code) 1 (.running (at_ base start data stack)) []
      (.running (at_ base (if truth then target else start + 10) data' stack)) := by
  refine leads_control found calm rfl ?_
  simp only [processCode,at_,popped]
  rfl

theorem processCode_data (isData : instruction.isData = true)
    (state : FrameState Data Exception) :
    state.processCode machine code instruction =
      match machine.execute instruction state.data with
      | .ok data => .running { state with data := data }
      | .raised exception data => .running ({ state with data := data }.raise exception)
      | .fault => .ended .fault := by
  cases instruction <;> first | rfl | cases isData

end Steps

theorem execEmission_realizes {Proper : Exit → Prop} {turns : Nat} {base : FrameState Data Exception}
    (calm : base.interruptionReason = .none) (emission : Emission) {start : Nat} {data : Data}
    {stack : List Nat} (placed : emission.Placed code start) :
    Realizes machine code Proper turns 0 (.running (at_ base start data stack))
      (execEmission machine emission data) fun data config =>
        config = .running (at_ base (start + emission.size) data stack) := by
  induction emission generalizing start data with
  | skip | evalPush | evalPop => exact .value rfl
  | op instruction isData =>
    rw [execEmission]
    have processed := (@step_at _ _ machine _ _ _ data stack _ placed calm).trans
      (processCode_data isData _)
    cases executed : machine.execute instruction data with
    | raised | fault => exact .stopped
    | ok data' =>
      intro _
      refine ⟨1,_,Nat.zero_le 1,.one (processed.trans ?_) ?_,rfl⟩
      · change (match machine.execute instruction data with | .ok data => _ | .raised _ _ => _ | .fault => _) = _
        rw [executed]
        rfl
      · rw [observe_at placed calm,if_pos isData]
        rfl
  | seq first second ihFirst ihSecond =>
    rw [execEmission]
    refine (ihFirst placed.1).bind ?_
    rintro data _ rfl
    refine (ihSecond placed.2).mono ?_
    rintro data _ rfl
    rw [Emission.size,Nat.add_assoc]
  | branch condition whenTrue whenFalse ihCondition ihTrue ihFalse =>
    obtain ⟨conditionPlaced,jumpFalse,truePlaced,jump,falsePlaced⟩ := placed
    rw [execEmission]
    refine (ihCondition conditionPlaced).bind ?_
    rintro data _ rfl
    cases popped : machine.popTruth data with
    | none => exact .stopped
    | some result =>
      obtain ⟨truth,data'⟩ := result
      have tested := @leads_jumpFalse _ _ machine _ _ _ _ stack _ _ _ jumpFalse calm popped
      cases truth with
      | true =>
        refine .weaken (.silent tested ((ihTrue truePlaced).followed ?_)) (Nat.zero_le _)
        rintro data _ rfl
        refine ⟨1,_,leads_jump jump calm,?_⟩
        simp only [Emission.size,Nat.add_assoc]
      | false =>
        refine .weaken (.silent tested ((ihFalse falsePlaced).mono ?_)) (Nat.zero_le _)
        rintro data _ rfl
        simp only [Emission.size,Nat.add_assoc]
  | always arm rest ihArm ihRest =>
    obtain ⟨armPlaced,jump,restPlaced⟩ := placed
    rw [execEmission]
    refine (ihArm armPlaced).followed ?_
    rintro data _ rfl
    refine ⟨1,_,leads_jump jump calm,?_⟩
    simp only [Emission.size,Nat.add_assoc]

theorem execTest_realizes {Proper : Exit → Prop} {turns : Nat} {base : FrameState Data Exception}
    (calm : base.interruptionReason = .none) {condition : Emission} {start exit : Nat} (negated : Bool)
    {data : Data} {stack : List Nat} (placed : condition.Placed code start)
    (found : code.fetch (start + condition.size) =
      some (if negated then .jumpTrue exit else .jumpFalse exit)) :
    Realizes machine code Proper turns 1 (.running (at_ base start data stack))
      (execTest machine condition data) fun result config => config = .running (at_ base
        (if result.1 = negated then exit else start + condition.size + 10) result.2 stack) := by
  rw [execTest,← Nat.zero_add 1]
  refine (execEmission_realizes calm condition placed).bindTurns (Nat.le_add_left turns 0) ?_
  rintro data _ rfl
  cases popped : machine.popTruth data with
  | none => exact .stopped
  | some result =>
    obtain ⟨truth,data'⟩ := result
    cases negated with
    | true =>
      have jumped := @leads_jumpTrue _ _ machine _ _ _ _ stack _ _ _ found calm popped
      refine .silent jumped (.value ?_)
      cases truth <;> rfl
    | false =>
      have jumped := @leads_jumpFalse _ _ machine _ _ _ _ stack _ _ _ found calm popped
      refine .silent jumped (.value ?_)
      cases truth <;> rfl

end ShardScript.Source
