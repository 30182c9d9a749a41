import ShardScript.Source.Realization

/-! The emitted code of a statement does what the reference does, as long as every exit on the
way drains what it has to and goes where it has to. -/
namespace ShardScript.Source
open Library ByteCode Emitter ShardScript.Runtime FrameState

variable {Data Exception : Type} {machine : DataMachine Data Exception} {code : Code}

def Registered (code : Code) : List Nat → List Emission → Prop :=
  List.Forall₂ fun offset body =>
    body.Placed code offset ∧ code.fetch (offset + body.size) = some .deferBreak

def draining (base : FrameState Data Exception) (data : Data) (deferStack : List Nat) :
    FrameState Data Exception :=
  { base with data := data, deferStack := deferStack, deferDrainDepth := base.deferDrainDepth + 1 }

theorem resumeDrain_ip (remaining savedIP ip : Nat) (state : FrameState Data Exception) :
    resumeDrain remaining savedIP { state with ip := ip } = resumeDrain remaining savedIP state := by
  cases remaining with
  | zero => rfl
  | succ remaining =>
    unfold resumeDrain
    cases state.deferStack <;> rfl

theorem resumeDrain_zero (base : FrameState Data Exception) (savedIP : Nat) (data : Data) (stack : List Nat) :
    resumeDrain 0 savedIP (draining base data stack) = .running (at_ base savedIP data stack) := rfl

variable {offsets outer : List Nat} {data : Data} {own : List Emission}

theorem evaluate_realizes {Proper : Exit → Prop} {turns : Nat} {base : FrameState Data Exception}
    (calm : base.interruptionReason = .none)
    (remaining savedIP : Nat) (registered : Registered code offsets own) :
    Realizes machine code Proper turns 0
      (resumeDrain (own.length + remaining) savedIP (draining base data (offsets ++ outer)))
      (evaluate machine own data) fun data config =>
        config = resumeDrain remaining savedIP (draining base data outer) := by
  induction registered generalizing data with
  | nil =>
    simp only [List.length_nil,Nat.zero_add,List.nil_append]
    exact .value rfl
  | @cons offset body offsets own placed registered ih =>
    let inside : FrameState Data Exception := { base with
      deferDrainDepth := base.deferDrainDepth + 1
      activations := .drain (own.length + remaining) savedIP :: base.activations }
    have entered : resumeDrain ((body :: own).length + remaining) savedIP
        (draining base data (offset :: offsets ++ outer)) =
        .running (at_ inside offset data (offsets ++ outer)) := by
      rw [List.length_cons,Nat.add_right_comm]
      rfl
    rw [entered,evaluate]
    have body_ : Realizes machine code Proper turns 0 (.running (at_ inside offset data (offsets ++ outer)))
        (execEmission machine body data) fun data config =>
        config = resumeDrain (own.length + remaining) savedIP (draining base data (offsets ++ outer)) := by
      refine (@execEmission_realizes _ _ machine code Proper turns inside calm body _ data (offsets ++ outer) placed.1).followed ?_
      rintro data _ rfl
      refine ⟨1,_,leads_control placed.2 calm rfl ?_,rfl⟩
      exact resumeDrain_ip _ _ _ (draining base data (offsets ++ outer))
    refine body_.bind ?_
    rintro data _ rfl
    exact ih

theorem leads_drain {base : FrameState Data Exception} (calm : base.interruptionReason = .none)
    {count start : Nat} {data : Data} {stack : List Nat} (placed : DrainPlaced code count start) :
    ∃ steps, Machine.Leads (interpreter machine code) steps (.running (at_ base start data stack)) []
      (resumeDrain count (start + drainSize count) (draining base data stack)) := by
  by_cases positive : 0 < count
  · refine ⟨1,leads_control (placed positive) calm rfl ?_⟩
    rw [drainSize,if_pos positive]
    exact resumeDrain_ip _ _ _ (draining base data stack)
  · obtain rfl : count = 0 := by omega
    exact ⟨0,.refl _⟩

/-- Where a statement leaves the frame: at its stop, or on the way to the target of an exit with
so many registrations still to be drained. -/
def Ends (policy : Policy) (code : Code) (base : FrameState Data Exception) (stop : Nat)
    (target : Option Targets) (leftCount allCount : Nat) (construct : Option LoopKind) (stack : List Nat) :
    Completion → Data → FrameState.Config Data Exception → Prop
  | .normal,data,config => config = .running (at_ base stop data stack)
  | .break,data,config => ∃ scope jump, target = some scope ∧
      code.fetch jump = some (.jump scope.loopEnd) ∧
      config = resumeDrain leftCount jump (draining base data stack)
  | .continue,data,config => leftCount = 0 ∧ (construct = some .switch → allCount = 0) ∧
      (policy = .prescribed → construct = some .loop) ∧
      ∃ scope, target = some scope ∧ config = .running (at_ base (scope.blockEnd.getD 0) data stack)
  | .return,data,config => ∃ jump, code.fetch jump = some .return ∧
      config = resumeDrain allCount jump (draining base data stack)
  | .restart,data,config => allCount = 0 ∧ config = .running (at_ base 0 data stack)

def Sound (policy : Policy) (exit : Exit) : Prop :=
  exit.drains = true ∧ (policy = .prescribed → exit.lands = true)

theorem Progress.after_nil {α : Type} (progress : Progress α) : progress.after [] = progress := by
  cases progress <;> rfl

variable {config : FrameState.Config Data Exception} {target : Option Targets} {construct : Option LoopKind}

theorem leave_realizes {policy : Policy} {turns stop leftCount allCount : Nat}
    {base : FrameState Data Exception} (calm : base.interruptionReason = .none)
    {block : OpenBlock} {completion : Completion}

    (registered : Registered code offsets own) (drain : DrainPlaced code block.count stop)
    (made : completion = .normal → own.length = block.registered)
    (ends : Ends policy code base stop target (own.length + leftCount) (own.length + allCount) construct
      (offsets ++ outer) completion data config) :
    Realizes machine code (Sound policy) turns 0 config (leave machine block (completion,data,own))
      fun result config => Ends policy code base (stop + drainSize block.count) target leftCount allCount
        construct outer result.1 result.2 config := by
  have nothing : own.length = 0 → own = [] ∧ offsets = [] := fun zero => by
    have own := List.eq_nil_of_length_eq_zero zero
    subst own
    cases registered
    exact ⟨rfl,rfl⟩
  unfold leave
  cases completion with
  | normal =>
    obtain rfl : config = _ := ends
    refine .exit (.fallsOff block) fun proper => ?_
    have counted : block.count = own.length := by
      have drains := proper.1
      simp only [Exit.drains,decide_eq_true_eq] at drains
      rw [drains,made rfl]
    obtain ⟨steps,begun⟩ := @leads_drain _ _ machine _ _ calm _ _ data (offsets ++ outer) drain
    rw [counted,← Nat.add_zero own.length] at begun
    refine .weaken (.silent begun ((evaluate_realizes calm 0 _ registered).bind ?_)) (Nat.zero_le _)
    rintro data _ rfl
    refine .value ?_
    rw [counted]
    exact resumeDrain_zero base _ data outer
  | «break» =>
    obtain ⟨scope,jump,target,found,rfl⟩ := ends
    rw [if_neg (by simp),Progress.after_nil]
    refine (evaluate_realizes calm leftCount jump registered).bind ?_
    rintro data _ rfl
    exact .value ⟨scope,jump,target,found,rfl⟩
  | «return» =>
    obtain ⟨jump,found,rfl⟩ := ends
    rw [if_neg (by simp),Progress.after_nil]
    refine (evaluate_realizes calm allCount jump registered).bind ?_
    rintro data _ rfl
    exact .value ⟨jump,found,rfl⟩
  | «continue» =>
    obtain ⟨zero,all,lands,scope,target,rfl⟩ := ends
    obtain ⟨rfl,rfl⟩ := nothing (by omega)
    rw [if_neg (by simp),Progress.after_nil]
    exact .value ⟨by simpa using zero,by simpa using all,lands,scope,target,rfl⟩
  | restart =>
    obtain ⟨zero,rfl⟩ := ends
    obtain ⟨rfl,rfl⟩ := nothing (by omega)
    rw [if_neg (by simp),Progress.after_nil]
    exact .value ⟨by simpa using zero,rfl⟩

def leftOuter : List OpenBlock → Nat
  | [] => 0
  | block :: blocks => if block.construct.isSome then 0 else totalRegistered (leftBlocks blocks)

def exitCount (kind : StatementKind) (own : List Emission) (blocks : List OpenBlock) : Nat :=
  match kind with
  | .cases => 0
  | _ => own.length + leftOuter blocks

def exitConstruct (kind : StatementKind) (blocks : List OpenBlock) : Option LoopKind :=
  match kind with
  | .cases => some .switch
  | _ => construct? blocks

def StatementEnds (policy : Policy) (code : Code) (base : FrameState Data Exception) {kind : StatementKind}
    (statement : Statement kind) (target : Option Targets) (blocks : List OpenBlock) (start : Nat)
    (outer : List Nat) (before : Nat) :
    Completion × Data × List Emission → FrameState.Config Data Exception → Prop
  | (completion,data,own),config => ∃ offsets, Registered code offsets own ∧
      (completion = .normal ∨ kind = .cases → own.length = before + registrations statement) ∧
      Ends policy code base (start + statement.size (scopesOf blocks)) target (exitCount kind own blocks)
        (own.length + totalRegistered blocks.tail) (exitConstruct kind blocks) (offsets ++ outer)
        completion data config

/-- In its place, under the blocks it is open in, the statement's code does what the reference does. -/
def Simulates (machine : DataMachine Data Exception) (code : Code) (policy : Policy) (turns : Nat)
    (base : FrameState Data Exception) {kind : StatementKind} (statement : Statement kind) : Prop :=
  ∀ {target : Option Targets} {block : OpenBlock} {blocks : List OpenBlock} {start : Nat} {data : Data}
    {own : List Emission} {offsets outer : List Nat},
    statement.Placed code target (scopesOf (block :: blocks)) start →
    Registered code offsets own → own.length = block.registered →
    Realizes machine code (Sound policy) turns 0 (.running (at_ base start data (offsets ++ outer)))
      (exec machine policy turns statement (block :: blocks) data own)
      (StatementEnds policy code base statement target (block :: blocks) start outer own.length)

/-- Blocks that differ in counts and in so many registrations of the innermost one. -/
structure Later (made : Nat) (block : OpenBlock) (blocks : List OpenBlock) (block' : OpenBlock)
    (blocks' : List OpenBlock) : Prop where
  registered : block'.registered = block.registered + made
  left : leftOuter (block' :: blocks') = leftOuter (block :: blocks)
  all : totalRegistered blocks' = totalRegistered blocks
  construct : construct? (block' :: blocks') = construct? (block :: blocks)

theorem later_of_clear {made : Nat} {block : OpenBlock} {blocks after : List OpenBlock}
    (clear : after.map OpenBlock.clear = ((block :: blocks).map OpenBlock.clear).modifyHead (OpenBlock.gain made)) :
    ∃ block' blocks', after = block' :: blocks' ∧ Later made block blocks block' blocks' := by
  cases after with
  | nil => cases clear
  | cons block' blocks' =>
    simp only [List.map_cons,List.modifyHead_cons,List.cons.injEq] at clear
    obtain ⟨head,tail⟩ := clear
    have construct := congrArg OpenBlock.construct head
    have registered := congrArg OpenBlock.registered head
    simp only [OpenBlock.clear,OpenBlock.gain] at construct registered
    refine ⟨block',blocks',rfl,registered,?_,?_,?_⟩
    · rw [leftOuter,leftOuter,construct,← totalRegistered_clear (leftBlocks blocks'),← leftBlocks_clear,tail,
        leftBlocks_clear,totalRegistered_clear]
    · rw [← totalRegistered_clear,tail,totalRegistered_clear]
    · rw [construct?,construct?,construct,← construct?_clear blocks',tail,construct?_clear]

variable {kind : StatementKind}

theorem blocksAfter_cons (statement : Statement kind) (block : OpenBlock)
    (blocks : List OpenBlock) : ∃ block' blocks', blocksAfter statement (block :: blocks) = block' :: blocks' ∧
      Later (registrations statement) block blocks block' blocks' :=
  later_of_clear (clear_blocksAfter statement (block :: blocks))

theorem blocksAfter_tail (body : Statement .block) (inner block : OpenBlock) (blocks : List OpenBlock) :
    ∃ block' blocks', (blocksAfter body (inner :: block :: blocks)).tail = block' :: blocks' ∧
      scopesOf (block' :: blocks') = (body.scopes (scopesOf (inner :: block :: blocks))).tail ∧
      Later 0 block blocks block' blocks' := by
  obtain ⟨block',blocks',after,later⟩ : ∃ block' blocks',
      (blocksAfter body (inner :: block :: blocks)).tail = block' :: blocks' ∧
        Later 0 block blocks block' blocks' := by
    apply later_of_clear
    rw [List.map_tail,clear_blocksAfter]
    rfl
  refine ⟨block',blocks',after,?_,later⟩
  rw [← after,← scopesOf_blocksAfter,scopesOf,List.map_tail]
  rfl

variable {block block' : OpenBlock}

theorem exitCount_later {made : Nat} {blocks blocks' : List OpenBlock}
    (later : Later made block blocks block' blocks') (kind : StatementKind) (own : List Emission) :
    exitCount kind own (block' :: blocks') = exitCount kind own (block :: blocks) := by
  cases kind <;> simp only [exitCount,later.left]

theorem exitConstruct_later {made : Nat} {blocks blocks' : List OpenBlock}
    (later : Later made block blocks block' blocks') (kind : StatementKind) :
    exitConstruct kind (block' :: blocks') = exitConstruct kind (block :: blocks) := by
  cases kind <;> simp only [exitConstruct,later.construct]

theorem leftOuter_plain (block : OpenBlock) (blocks : List OpenBlock) :
    leftOuter (.plain :: block :: blocks) = block.registered + leftOuter (block :: blocks) := by
  change totalRegistered (leftBlocks (block :: blocks)) = _
  rw [leftBlocks,leftOuter]
  split <;> simp [totalRegistered]

section

variable {policy : Policy} {turns : Nat} {base : FrameState Data Exception}

theorem block_realizes (calm : base.interruptionReason = .none) {body : Statement .block}
    (ih : Simulates machine code policy turns base body) {target : Option Targets} {inner : OpenBlock}
    (fresh : inner.registered = 0) {blocks : List OpenBlock} {start : Nat} {data : Data} {stack : List Nat}
    (placed : body.Placed code target (scopesOf (inner :: blocks)) start ∧
      DrainPlaced code (headCount (body.scopes (scopesOf (inner :: blocks))))
        (start + body.size (scopesOf (inner :: blocks)))) :
    Realizes machine code (Sound policy) turns 0 (.running (at_ base start data stack))
      ((exec machine policy turns body (inner :: blocks) data []).bind
        (leave machine (blockAtEnd body (inner :: blocks)))) fun result config =>
      Ends policy code base (start + body.size (scopesOf (inner :: blocks)) +
        drainSize (headCount (body.scopes (scopesOf (inner :: blocks))))) target (leftOuter (inner :: blocks))
        (totalRegistered blocks) (construct? (inner :: blocks)) stack result.1 result.2 config := by
  have entry := @ih target inner blocks start data [] [] stack placed.1 .nil fresh.symm
  refine entry.bind ?_
  rintro ⟨completion,data,own⟩ config ⟨offsets,registered,made,ends⟩
  obtain ⟨block',blocks',after,later⟩ := blocksAfter_cons body inner blocks
  have atEnd : blockAtEnd body (inner :: blocks) = block' := by rw [blockAtEnd,after]; rfl
  have count : headCount (body.scopes (scopesOf (inner :: blocks))) = block'.count := by
    rw [← scopesOf_blocksAfter,after]
    rfl
  rw [atEnd,count]
  rw [count] at placed
  refine leave_realizes calm registered placed.2 (fun normal => ?_) ends
  rw [made (.inl normal),later.registered,fresh]
  rfl

variable {blocks : List OpenBlock} {stack : List Nat}

theorem plain_realizes (calm : base.interruptionReason = .none) {body : Statement .block}
    (ih : Simulates machine code policy turns base body) {block : OpenBlock}
    {start count : Nat}
    (made : count = block.registered)
    (placed : body.Placed code target (⟨0,false⟩ :: scopesOf (block :: blocks)) start ∧
      DrainPlaced code (headCount (body.scopes (⟨0,false⟩ :: scopesOf (block :: blocks))))
        (start + body.size (⟨0,false⟩ :: scopesOf (block :: blocks)))) :
    Realizes machine code (Sound policy) turns 0 (.running (at_ base start data stack))
      ((exec machine policy turns body (.plain :: block :: blocks) data []).bind
        (leave machine (blockAtEnd body (.plain :: block :: blocks)))) fun result config =>
      Ends policy code base (start + body.size (⟨0,false⟩ :: scopesOf (block :: blocks)) +
        drainSize (headCount (body.scopes (⟨0,false⟩ :: scopesOf (block :: blocks))))) target
        (count + leftOuter (block :: blocks)) (count + totalRegistered blocks)
        (construct? (block :: blocks)) stack result.1 result.2 config := by
  have bodied := @block_realizes _ _ machine code policy turns base calm body ih _
    .plain rfl (block :: blocks) _ data stack placed
  rw [leftOuter_plain,← made] at bodied
  rw [made] at bodied ⊢
  exact bodied

theorem keeping_realizes {statement : Statement kind}
    {block : OpenBlock} {start : Nat}

    {progress : Progress (Completion × Data)} (none_ : registrations statement = 0)
    (registered : Registered code offsets own)
    (h : Realizes machine code (Sound policy) turns 0 config progress fun result config =>
      Ends policy code base (start + statement.size (scopesOf (block :: blocks))) target
        (exitCount kind own (block :: blocks)) (own.length + totalRegistered blocks)
        (exitConstruct kind (block :: blocks)) (offsets ++ outer) result.1 result.2 config) :
    Realizes machine code (Sound policy) turns 0 config (keeping own progress)
      (StatementEnds policy code base statement target (block :: blocks) start outer own.length) := by
  refine h.bind ?_
  rintro ⟨completion,data⟩ config ends
  refine .value ⟨offsets,registered,fun _ => by rw [none_]; rfl,ends⟩

theorem loop_realizes (calm : base.interruptionReason = .none) {start entry looping stop leftCount allCount : Nat}
    {target : Option Targets} {construct outside : Option LoopKind} {stack : List Nat}
    {test : Data → Progress (Bool × Data)} {body : Data → Progress (Completion × Data)}
    (tested : ∀ data, Realizes machine code (Sound policy) turns 1 (.running (at_ base start data stack))
      (test data) fun result config => config = .running (at_ base
        (if result.1 then entry else stop) result.2 stack))
    (bodied : ∀ data, Realizes machine code (Sound policy) turns 0 (.running (at_ base entry data stack))
      (body data) fun result config => Ends policy code base looping (some ⟨stop,some looping⟩) 0 allCount
        construct stack result.1 result.2 config)
    (jump : code.fetch looping = some (.jump start)) {data : Data} :
    Realizes machine code (Sound policy) turns 0 (.running (at_ base start data stack))
      (iterate test body turns data) fun result config =>
        Ends policy code base stop target leftCount allCount outside stack result.1 result.2 config := by
  let Head (ip : Nat) (data : Data) (config : FrameState.Config Data Exception) : Prop :=
    config = .running (at_ base ip data stack)
  refine @Realizes.iterate _ _ _ _ _ _ _ _ _ (Head start) (Head entry) _ ?_ ?_ _ rfl
  · rintro data _ rfl
    refine (tested data).mono ?_
    rintro ⟨truth,data⟩ _ rfl
    cases truth <;> rfl
  · rintro data _ rfl
    refine (bodied data).followed ?_
    rintro ⟨completion,data⟩ config ends
    cases completion with
    | normal =>
      obtain rfl : config = _ := ends
      exact ⟨1,_,leads_jump jump calm,rfl⟩
    | «continue» =>
      obtain ⟨-,-,-,scope,target,rfl⟩ := ends
      cases target
      exact ⟨1,_,leads_jump jump calm,rfl⟩
    | «break» =>
      obtain ⟨scope,exit,target,found,rfl⟩ := ends
      cases target
      exact ⟨1,_,leads_jump found calm,rfl⟩
    | «return» | restart => exact ⟨0,_,.refl _,ends⟩

theorem ends_jump (calm : base.interruptionReason = .none) {stop stop' leftCount allCount : Nat}
    {completion : Completion}
    (jump : code.fetch stop = some (.jump stop'))
    (ends : Ends policy code base stop target leftCount allCount construct stack completion data config) :
    ∃ steps last, Machine.Leads (interpreter machine code) steps config [] last ∧
      Ends policy code base stop' target leftCount allCount construct stack completion data last := by
  cases completion with
  | normal =>
    obtain rfl : config = _ := ends
    exact ⟨1,_,leads_jump jump calm,rfl⟩
  | «break» | «continue» | «return» | restart => exact ⟨0,_,.refl _,ends⟩

theorem ends_rest {kind kind' : StatementKind} {rest : Statement kind'} {whole : Statement kind}
    {blocks blocks' : List OpenBlock} {before : Nat}
    {start start' : Nat} {outer : List Nat} {result : Completion × Data × List Emission}
    (later : Later 0 block blocks block' blocks')
    (ends : StatementEnds policy code base rest target (block' :: blocks') start' outer before result config)
    (count : exitCount kind' = exitCount kind) (construct : exitConstruct kind' = exitConstruct kind)
    (settled : kind = .cases → kind' = .cases) (none_ : registrations rest = registrations whole)
    (stop : start' + rest.size (scopesOf (block' :: blocks')) = start + whole.size (scopesOf (block :: blocks))) :
    StatementEnds policy code base whole target (block :: blocks) start outer before result config := by
  obtain ⟨completion,data,own⟩ := result
  obtain ⟨offsets,registered,kept,ends⟩ := ends
  refine ⟨offsets,registered,fun h => none_ ▸ kept (h.imp_right settled),?_⟩
  rw [stop,exitCount_later later,exitConstruct_later later,List.tail_cons,later.all,count,construct] at ends
  exact ends

theorem repeating_realizes (calm : base.interruptionReason = .none) {afterRepeat : Emission}
    {repeat_ stop allCount : Nat} {result : Completion × Data}
    (placed : afterRepeat.Placed code repeat_)
    (ends : Ends policy code base repeat_ (some ⟨stop,some (repeat_ + afterRepeat.size)⟩) 0 allCount
      (some .counting) stack result.1 result.2 config) :
    Realizes machine code (Sound policy) turns 0 config (repeating machine policy afterRepeat result)
      fun result config => Ends policy code base (repeat_ + afterRepeat.size)
        (some ⟨stop,some (repeat_ + afterRepeat.size)⟩) 0 allCount (some .counting) stack
        result.1 result.2 config := by
  obtain ⟨completion,data⟩ := result
  cases completion with
  | normal =>
    obtain rfl : config = _ := ends
    refine (execEmission_realizes calm afterRepeat placed).bind ?_
    rintro data _ rfl
    exact .value rfl
  | «continue» =>
    obtain ⟨-,-,lands,scope,target,rfl⟩ := ends
    cases target
    cases policy with
    | prescribed => cases lands rfl
    | emitted => exact .value rfl
  | «break» | «return» | restart => exact .value ends

theorem optionEmission_realizes {Proper : Exit → Prop} (calm : base.interruptionReason = .none)
    (emission : Option Emission) {start : Nat}
    (placed : optionPlaced code emission start) :
    Realizes machine code Proper turns 0 (.running (at_ base start data stack))
      (execOption machine emission data) fun data config =>
        config = .running (at_ base (start + optionSize emission) data stack) := by
  cases emission with
  | none => exact .value rfl
  | some emission => exact execEmission_realizes calm emission (placed emission rfl)

theorem totalRegistered_eq_zero (h : ∀ block ∈ blocks, block.registered = 0) :
    totalRegistered blocks = 0 := by
  induction blocks with
  | nil => rfl
  | cons block blocks ih =>
    have head := h block List.mem_cons_self
    have tail := ih fun other member => h other (List.mem_cons_of_mem _ member)
    simp only [totalRegistered,List.map_cons,List.sum_cons] at tail ⊢
    omega

theorem leftBlocks_subset (blocks : List OpenBlock) : leftBlocks blocks ⊆ blocks := by
  induction blocks with
  | nil => exact List.Subset.refl _
  | cons block blocks ih =>
    rw [leftBlocks]
    split
    · simp
    · exact List.cons_subset_cons block ih

theorem registered_of_left
    (h : ∀ block ∈ (if construct? blocks = some .switch then blocks else leftBlocks blocks),
      block.registered = 0) : totalRegistered (leftBlocks blocks) = 0 := by
  apply totalRegistered_eq_zero
  intro block member
  split at h
  · exact h block (leftBlocks_subset blocks member)
  · exact h block member

theorem simulates (calm : base.interruptionReason = .none) (statement : Statement kind) :
    Simulates machine code policy turns base statement := by
  induction statement with
  | simple emission =>
    intro target block blocks start data own offsets outer placed registered made
    refine (execEmission_realizes calm emission placed).bind ?_
    rintro data _ rfl
    exact .value ⟨offsets,registered,fun _ => rfl,rfl⟩
  | returnStatement value =>
    intro target block blocks start data own offsets outer placed registered made
    obtain ⟨valuePlaced,drain,found⟩ := placed
    refine (optionEmission_realizes calm value valuePlaced).bind ?_
    rintro data _ rfl
    refine .exitValue (.returns (block :: blocks)) fun proper => ?_
    have counted : totalCount (scopesOf (block :: blocks)) = own.length + totalRegistered blocks := by
      have drains := proper.1
      simp only [Exit.drains,List.all_eq_true,decide_eq_true_eq] at drains
      rw [totalCount_scopesOf drains,made]
      rfl
    obtain ⟨steps,begun⟩ := @leads_drain _ _ machine _ _ calm _ _ data (offsets ++ outer) drain
    refine .weaken (.silent begun (.value ⟨offsets,registered,by simp,_,found,?_⟩)) (Nat.zero_le _)
    rw [counted]
    rfl
  | breakStatement =>
    intro target block blocks start data own offsets outer placed registered made
    obtain ⟨drain,scope,target,found⟩ := placed
    refine .exitValue (.breaks (block :: blocks)) fun proper => ?_
    have counted : totalCount (scopesUntilLoop (scopesOf (block :: blocks))).1 =
        own.length + leftOuter (block :: blocks) := by
      have drains := proper.1
      simp only [Exit.drains,Bool.and_eq_true,List.all_eq_true,decide_eq_true_eq] at drains
      rw [totalCount_scopesUntilLoop drains.1 drains.2,made,leftBlocks,leftOuter]
      split <;> simp [totalRegistered]
    obtain ⟨steps,begun⟩ := @leads_drain _ _ machine _ _ calm _ _ data (offsets ++ outer) drain
    refine .weaken (.silent begun (.value ⟨offsets,registered,by simp,scope,_,target,found,?_⟩)) (Nat.zero_le _)
    rw [counted]
    rfl
  | continueStatement =>
    intro target block blocks start data own offsets outer placed registered made
    obtain ⟨scope,target,found⟩ := placed
    refine .exitValue (.continues (block :: blocks)) fun proper => ?_
    have drains := proper.1
    simp only [Exit.drains,List.all_eq_true,decide_eq_true_eq] at drains
    refine .weaken (.silent (leads_jump found calm) (.value ⟨offsets,registered,by simp,?_,?_,?_,scope,target,rfl⟩))
      (Nat.zero_le _)
    · change own.length + leftOuter (block :: blocks) = 0
      have none_ := registered_of_left drains
      rw [made,leftOuter]
      rw [leftBlocks] at none_
      split at none_ <;> simp_all [totalRegistered]
    · intro switch
      have switch : construct? (block :: blocks) = some .switch := switch
      rw [if_pos switch] at drains
      have zero := totalRegistered_eq_zero drains
      rw [List.tail_cons,made]
      simpa [totalRegistered] using zero
    · intro prescribed
      exact of_decide_eq_true (proper.2 prescribed)
  | whileStatement condition body ih =>
    intro target block blocks start data own offsets outer placed registered made
    obtain ⟨conditionPlaced,exit,block_,jump⟩ := placed
    refine keeping_realizes rfl registered ?_
    have bodied := fun data => @block_realizes _ _ machine code policy turns base calm body ih _
      (.body true .loop) rfl (block :: blocks) _ data (offsets ++ outer) block_
    have stop : start + (Statement.whileStatement condition body).size (scopesOf (block :: blocks)) =
        start + condition.size + 10 + body.size (scopesOf (.body true .loop :: block :: blocks)) +
          drainSize (headCount (body.scopes (scopesOf (.body true .loop :: block :: blocks)))) + 10 := by
      simp only [Statement.size,Nat.add_assoc]
      rfl
    rw [stop]
    have all : totalRegistered (block :: blocks) = own.length + totalRegistered blocks := by
      rw [made]
      rfl
    refine all ▸ loop_realizes calm ?_ bodied jump
    intro data
    refine (execTest_realizes calm false conditionPlaced exit).mono ?_
    rintro ⟨truth,data⟩ _ rfl
    cases truth <;> rfl
  | untilStatement condition body ih =>
    intro target block blocks start data own offsets outer placed registered made
    obtain ⟨conditionPlaced,exit,block_,jump⟩ := placed
    refine keeping_realizes rfl registered ?_
    have bodied := fun data => @block_realizes _ _ machine code policy turns base calm body ih _
      (.body true .loop) rfl (block :: blocks) _ data (offsets ++ outer) block_
    have stop : start + (Statement.untilStatement condition body).size (scopesOf (block :: blocks)) =
        start + condition.size + 10 + body.size (scopesOf (.body true .loop :: block :: blocks)) +
          drainSize (headCount (body.scopes (scopesOf (.body true .loop :: block :: blocks)))) + 10 := by
      simp only [Statement.size,Nat.add_assoc]
      rfl
    rw [stop]
    have all : totalRegistered (block :: blocks) = own.length + totalRegistered blocks := by
      rw [made]
      rfl
    refine all ▸ loop_realizes calm ?_ bodied jump
    intro data
    refine (execTest_realizes calm true conditionPlaced exit).bind ?_
    rintro ⟨truth,data⟩ _ rfl
    refine .value ?_
    cases truth <;> rfl
  | forStatement initializer condition afterRepeat body ih =>
    intro target block blocks start data own offsets outer placed registered made
    obtain ⟨initializerPlaced,conditionPlaced,exit,block_,repeatPlaced,jump⟩ := placed
    refine (execEmission_realizes calm initializer initializerPlaced).bind ?_
    rintro data _ rfl
    refine keeping_realizes rfl registered ?_
    have bodied := fun data => (@block_realizes _ _ machine code policy turns base calm body ih _
      (.body true .counting) rfl (block :: blocks) _ data (offsets ++ outer) block_).bind
        fun result config ends => repeating_realizes calm repeatPlaced ends
    have stop : start + (Statement.forStatement initializer condition afterRepeat body).size
        (scopesOf (block :: blocks)) = start + initializer.size + condition.size + 10 +
          body.size (scopesOf (.body true .counting :: block :: blocks)) +
          drainSize (headCount (body.scopes (scopesOf (.body true .counting :: block :: blocks)))) +
          afterRepeat.size + 10 := by
      simp only [Statement.size,Nat.add_assoc]
      rfl
    rw [stop]
    have all : totalRegistered (block :: blocks) = own.length + totalRegistered blocks := by
      rw [made]
      rfl
    refine all ▸ loop_realizes calm ?_ bodied jump
    intro data
    refine (execTest_realizes calm false conditionPlaced exit).mono ?_
    rintro ⟨truth,data⟩ _ rfl
    cases truth <;> rfl
  | enumeration forEach enumerator moveNext current body ih =>
    intro target block blocks start data own offsets outer placed registered made
    obtain ⟨enumeratorPlaced,moveNextPlaced,exit,currentPlaced,block_,jump⟩ := placed
    refine (execEmission_realizes calm enumerator enumeratorPlaced).bind ?_
    rintro data _ rfl
    refine keeping_realizes rfl registered ?_
    have bodied := fun data => @block_realizes _ _ machine code policy turns base calm body ih _
      (.body forEach .loop) rfl (block :: blocks) _ data (offsets ++ outer) block_
    have stop : start + (Statement.enumeration forEach enumerator moveNext current body).size
        (scopesOf (block :: blocks)) = start + enumerator.size + moveNext.size + 10 + current.size +
          body.size (scopesOf (.body forEach .loop :: block :: blocks)) +
          drainSize (headCount (body.scopes (scopesOf (.body forEach .loop :: block :: blocks)))) + 10 := by
      simp only [Statement.size,Nat.add_assoc]
      rfl
    rw [stop]
    have all : totalRegistered (block :: blocks) = own.length + totalRegistered blocks := by
      rw [made]
      rfl
    refine all ▸ @loop_realizes _ _ machine code policy turns base calm _
      (start + enumerator.size + moveNext.size + 10) _ _ _ _ _ (some .loop) _ _ _ _ ?_ (fun data => ?_) jump _
    · intro data
      refine (execTest_realizes calm false moveNextPlaced exit).mono ?_
      rintro ⟨truth,data⟩ _ rfl
      cases truth <;> rfl
    · refine (execEmission_realizes calm current currentPlaced).bind ?_
      rintro data _ rfl
      exact bodied data
  | conditional first ih =>
    intro target block blocks start data own offsets outer placed registered made
    have none_ := registrations_clause first (by simp) (by simp)
    refine (ih placed registered made).mono ?_
    rintro ⟨completion,data,own'⟩ config ⟨offsets,registered,kept,ends⟩
    exact ⟨offsets,registered,fun settled => (kept (by simpa using settled)).trans (by rw [none_]; rfl),ends⟩
  | elseIf clause ih =>
    intro target block blocks start data own offsets outer placed registered made
    have none_ := registrations_clause clause (by simp) (by simp)
    refine (ih placed registered made).mono ?_
    rintro ⟨completion,data,own'⟩ config ⟨offsets,registered,kept,ends⟩
    exact ⟨offsets,registered,fun settled => (kept (by simpa using settled)).trans (by rw [none_]; rfl),ends⟩
  | switchStatement scrutinee cases ih =>
    intro target block blocks start data own offsets outer placed registered made
    by_cases none_ : cases.isNoCase = true
    · rw [exec,if_pos none_]
      refine .value ⟨offsets,registered,fun _ => rfl,?_⟩
      rw [Statement.size,if_pos none_]
      exact rfl
    · rw [Statement.Placed,if_neg none_] at placed
      obtain ⟨scrutineePlaced,casesPlaced⟩ := placed
      rw [exec,if_neg none_]
      refine (execEmission_realizes calm scrutinee scrutineePlaced).bind ?_
      rintro data _ rfl
      refine (ih casesPlaced registered made).bind ?_
      rintro ⟨completion,data,own'⟩ config ⟨offsets',registered',kept,ends⟩
      have same : own'.length = own.length := by
        rw [kept (.inr rfl),registrations_clause cases (by simp) (by simp)]
        rfl
      have stop : start + (Statement.switchStatement scrutinee cases).size (scopesOf (block :: blocks)) =
          start + scrutinee.size + cases.size (scopesOf (block :: blocks)) := by
        rw [Statement.size,if_neg none_,Nat.add_assoc]
      have finish : ∀ {result : Completion × Data} {config : FrameState.Config Data Exception},
          Ends policy code base (start + scrutinee.size + cases.size (scopesOf (block :: blocks))) target
            (own'.length + leftOuter (block :: blocks)) (own'.length + totalRegistered blocks)
            (construct? (block :: blocks)) (offsets' ++ outer) result.1 result.2 config →
          Realizes machine code (Sound policy) turns 0 config (keeping own' (.value result []))
            (StatementEnds policy code base (.switchStatement scrutinee cases) target (block :: blocks) start
              outer own.length) := by
        intro result config ends
        refine .value ⟨offsets',registered',fun _ => same,?_⟩
        rw [stop]
        exact ends
      cases completion with
      | normal => exact finish ends
      | «break» =>
        obtain ⟨scope,exit,target,found,rfl⟩ := ends
        cases target
        refine .weaken (.silent (leads_jump found calm) (finish ?_)) (Nat.zero_le _)
        exact rfl
      | «continue» =>
        obtain ⟨-,all,lands,scope,target,rfl⟩ := ends
        cases target
        cases policy with
        | prescribed => cases lands rfl
        | emitted => exact finish ⟨all rfl,rfl⟩
      | «return» => exact finish ends
      | restart => exact finish ends
  | deferStatement resource body =>
    intro target block blocks start data own offsets outer placed registered made
    obtain ⟨resourcePlaced,registration,jump,bodyPlaced,found⟩ := placed
    refine (execEmission_realizes calm resource resourcePlaced).bind ?_
    rintro data _ rfl
    let entry := start + resource.size + 10 + 10
    have pushed : Machine.Leads (interpreter machine code) 1
        (.running (at_ base (start + resource.size) data (offsets ++ outer))) []
        (.running (at_ base (start + resource.size + 10) data ((entry :: offsets) ++ outer))) :=
      leads_control registration calm rfl rfl
    refine .weaken (.silent (pushed.trans (leads_jump jump calm)) (.value
      ⟨entry :: offsets,.cons ⟨bodyPlaced,found⟩ registered,fun _ => rfl,?_⟩)) (Nat.zero_le _)
    simp only [Ends,Statement.size,Nat.add_assoc]
  | empty | noNext | noCase =>
    intro target block blocks start data own offsets outer placed registered made
    exact .value ⟨offsets,registered,fun _ => rfl,rfl⟩
  | cons first rest ihFirst ihRest =>
    intro target block blocks start data own offsets outer placed registered made
    obtain ⟨firstPlaced,restPlaced⟩ := placed
    refine (ihFirst firstPlaced registered made).bind ?_
    rintro ⟨completion,data,own'⟩ config ⟨offsets',registered',kept,ends⟩
    obtain ⟨block',blocks',after,later⟩ := blocksAfter_cons first block blocks
    cases completion with
    | normal =>
      obtain rfl : config = _ := ends
      have made' : own'.length = block'.registered := by rw [kept (.inl rfl),made,later.registered]
      rw [← scopesOf_blocksAfter,after] at restPlaced
      change Realizes machine code (Sound policy) turns 0 _
        (exec machine policy turns rest (blocksAfter first (block :: blocks)) data own') _
      rw [after]
      refine (ihRest restPlaced registered' made').mono ?_
      rintro ⟨completion,data,own''⟩ config ⟨offsets'',registered'',kept',ends'⟩
      refine ⟨offsets'',registered'',fun normal => ?_,?_⟩
      · rw [kept' normal,kept (.inl rfl),registrations,Nat.add_assoc]
      · rw [← after,scopesOf_blocksAfter,after,exitCount_later later,exitConstruct_later later,Nat.add_assoc,
          List.tail_cons,later.all] at ends'
        exact ends'
    | «continue» | «break» | «return» | restart => exact .value ⟨offsets',registered',by simp,ends⟩
  | throwStatement | tryStatement | noCatch | catchClause =>
    intro target block blocks start data own offsets outer placed registered made
    exact .stopped
  | ifClause negated condition body next ihBody ihNext =>
    intro target block blocks start data own offsets outer placed registered made
    obtain ⟨conditionPlaced,exit,block_,next_⟩ := placed
    refine ((execTest_realizes calm negated conditionPlaced exit).weaken (Nat.zero_le 1)).bind ?_
    rintro ⟨truth,data⟩ _ rfl
    obtain ⟨block',blocks',after,nested,later⟩ := blocksAfter_tail body .plain block blocks
    have nested : _ = (body.scopes (⟨0,false⟩ :: scopesOf (block :: blocks))).tail := nested
    cases next with
    | noNext =>
      by_cases skipped : truth = negated
      · simp only [if_pos skipped]
        refine .value ⟨offsets,registered,fun _ => rfl,?_⟩
        simp only [Ends,Statement.size,Statement.isNoNext,if_true,Nat.add_zero,Nat.add_assoc]
      · simp only [if_neg skipped]
        refine keeping_realizes rfl registered ((plain_realizes calm ihBody made block_).mono ?_)
        rintro ⟨completion,data⟩ config ends
        simp only [Statement.size,Statement.isNoNext,if_true,Nat.add_zero]
        simp only [Nat.add_assoc] at ends ⊢
        exact ends
    | elseClause other | elseIf other =>
      obtain ⟨jump,nextPlaced⟩ := next_ rfl
      rw [← nested] at jump nextPlaced
      by_cases skipped : truth = negated
      · simp only [if_pos skipped,after]
        refine (ihNext nextPlaced registered (made.trans later.registered.symm)).mono ?_
        intro result config ends
        refine ends_rest later ends rfl rfl (by simp) rfl ?_
        simp only [Statement.size,Statement.isNoNext,← nested,Bool.false_eq_true,if_false,Nat.add_assoc]
      · simp only [if_neg skipped]
        refine keeping_realizes rfl registered ((plain_realizes calm ihBody made block_).followed ?_)
        rintro ⟨completion,data⟩ config ends
        obtain ⟨steps,last,leads,ends⟩ := ends_jump calm jump ends
        refine ⟨steps,last,leads,?_⟩
        simp only [Statement.size,Statement.isNoNext,← nested,Bool.false_eq_true,if_false,Nat.add_assoc] at ends ⊢
        exact ends
  | elseClause body ih =>
    intro target block blocks start data own offsets outer placed registered made
    refine keeping_realizes rfl registered ?_
    rw [Statement.size,← Nat.add_assoc]
    exact plain_realizes calm ih made placed
  | defaultClause body rest ihBody ihRest =>
    intro target block blocks start data own offsets outer placed registered made
    obtain ⟨block_,jump,restPlaced⟩ := placed
    have all : totalRegistered (block :: blocks) = own.length + totalRegistered blocks := by
      rw [made]
      rfl
    have bodied := @block_realizes _ _ machine code policy turns base calm body ihBody _
      (.body false .switch) rfl (block :: blocks) _ data (offsets ++ outer) block_
    refine keeping_realizes rfl registered (bodied.followed ?_)
    rintro ⟨completion,data⟩ config ends
    obtain ⟨steps,last,leads,ends⟩ := ends_jump calm jump ends
    refine ⟨steps,last,leads,?_⟩
    rw [all] at ends
    simp only [Statement.size,Nat.add_assoc] at ends ⊢
    exact ends
  | caseClause test bind body rest ihBody ihRest =>
    intro target block blocks start data own offsets outer placed registered made
    obtain ⟨testPlaced,exit,bindPlaced,block_,jump,restPlaced⟩ := placed
    have all : totalRegistered (block :: blocks) = own.length + totalRegistered blocks := by
      rw [made]
      rfl
    obtain ⟨block',blocks',after,nested,later⟩ := blocksAfter_tail body (.body false .switch) block blocks
    have nested : _ = (body.scopes (⟨0,false⟩ :: scopesOf (block :: blocks))).tail := nested
    have none_ : registrations rest = 0 := registrations_clause rest (by simp) (by simp)
    refine ((execTest_realizes calm false testPlaced exit).weaken (Nat.zero_le 1)).bind ?_
    rintro ⟨truth,data⟩ _ rfl
    cases truth with
    | true =>
      refine (execEmission_realizes calm bind bindPlaced).bind ?_
      rintro data _ rfl
      have bodied := @block_realizes _ _ machine code policy turns base calm body ihBody _
        (.body false .switch) rfl (block :: blocks) _ data (offsets ++ outer) block_
      refine keeping_realizes rfl registered (bodied.followed ?_)
      rintro ⟨completion,data⟩ config ends
      obtain ⟨steps,last,leads,ends⟩ := ends_jump calm jump ends
      refine ⟨steps,last,leads,?_⟩
      rw [all] at ends
      simp only [Statement.size,Nat.add_assoc] at ends ⊢
      exact ends
    | false =>
      rw [← nested] at restPlaced
      simp only [after]
      refine (ihRest restPlaced registered (made.trans later.registered.symm)).mono ?_
      intro result config ends
      refine ends_rest later ends rfl rfl id none_ ?_
      simp only [Statement.size,← nested,Nat.add_assoc]

/-- The end of a body: the frame is finished with nothing left to evaluate, or it is as at its
start again. -/
def BodyEnds (result : Completion × Data) (config : FrameState.Config Data Exception) : Prop :=
  match result.1 with
  | .restart => config = .running (.initial result.2)
  | _ => ∃ state : FrameState Data Exception, config = .ended (.finished state) ∧
      state.data = result.2 ∧ state.deferStack = []

theorem return_realizes {Proper : Exit → Prop} {start : Nat} {first data : Data}
    (found : code.fetch start = some .return) :
    Realizes machine code Proper turns 0
      (.running (at_ (.initial first : FrameState Data Exception) start data []))
      ((placeReturned machine data).bind fun data => .value (Completion.return,data) [])
      BodyEnds := by
  have ended : ∀ state : FrameState Data Exception, state.interruptionReason ≠ .exceptionRaised →
      state.ip = code.size → state.activations = [] →
      Machine.Leads (interpreter machine code) 1 (.running state) []
        (.ended (.finished { state with interruptionReason := .endOfInstructions })) := by
    intro state calm atEnd outside
    refine .one ?_ ?_
    · change FrameState.step machine code state = _
      unfold FrameState.step
      rw [if_neg calm,atEnd,Code.fetch_size_none]
      simp [outside]
    · change FrameState.observe code state = _
      unfold FrameState.observe
      rw [if_neg calm,atEnd,Code.fetch_size_none]
      rfl
  let state : FrameState Data Exception := at_ (.initial first) code.size data []
  unfold placeReturned
  by_cases value : machine.returnsValue = true
  · rw [if_pos value]
    cases placed : machine.placeReturned data with
    | none => exact .stopped
    | some data' =>
      have processed : (at_ (.initial first : FrameState Data Exception) (start + 2) data []).processCode
          machine code .return =
          .running { state with data := data', interruptionReason := .valueReturned } := by
        simp only [processCode,if_pos value,at_,placed]
        rfl
      exact .weaken (.silent ((leads_control found rfl rfl processed).trans (ended _ (by simp) rfl rfl))
        (.value ⟨_,rfl,rfl,rfl⟩)) (Nat.zero_le _)
  · rw [if_neg value]
    have processed : (at_ (.initial first : FrameState Data Exception) (start + 2) data []).processCode
        machine code .return = .running state := by
      simp only [processCode,if_neg value]
      rfl
    exact .weaken (.silent ((leads_control found rfl rfl processed).trans (ended state (by simp [state,at_,initial]) rfl rfl))
      (.value ⟨_,rfl,rfl,rfl⟩)) (Nat.zero_le _)

theorem execBody_realizes {body : Statement .block} (accepts : Accepts body) (data : Data) :
    Realizes machine (visitBody body).code (Sound policy) turns 0
      (.running (.initial data : FrameState Data Exception)) (execBody machine policy turns body data)
      BodyEnds := by
  obtain ⟨placed,found⟩ := visitBody_placed accepts
  have calm : (.initial data : FrameState Data Exception).interruptionReason = .none := rfl
  have bodied := @block_realizes _ _ machine (visitBody body).code policy turns (.initial data) calm body
    (simulates calm body) none .plain rfl [] 0 data [] (by rw [Nat.zero_add]; exact placed)
  refine bodied.bind ?_
  rintro ⟨completion,data'⟩ config ends
  cases completion with
  | normal =>
    obtain rfl : config = _ := ends
    refine return_realizes ?_
    rw [Nat.zero_add]
    exact found
  | «return» =>
    obtain ⟨jump,found,rfl⟩ := ends
    exact @return_realizes _ _ _ _ _ _ _ data data' found
  | restart =>
    obtain ⟨-,rfl⟩ := ends
    exact .value rfl
  | «break» =>
    obtain ⟨scope,jump,target,-⟩ := ends
    cases target
  | «continue» =>
    obtain ⟨-,-,-,scope,target,-⟩ := ends
    cases target

end
end ShardScript.Source
