import ShardScript.Source.Simulation

/-! Loops and jumps: which bodies run as the language has it. -/
namespace ShardScript.Source
open Library ByteCode Emitter ShardScript.Runtime FrameState

def deferFree : {kind : StatementKind} → Statement kind → Bool
  | _,.deferStatement _ _ => false
  | _,.whileStatement _ body | _,.untilStatement _ body | _,.forStatement _ _ _ body => deferFree body
  | _,.enumeration _ _ _ _ body => deferFree body
  | _,.conditional first => deferFree first
  | _,.switchStatement _ cases => deferFree cases
  | _,.tryStatement body catches => deferFree body && deferFree catches
  | _,.cons first rest => deferFree first && deferFree rest
  | _,.ifClause _ _ body next => deferFree body && deferFree next
  | _,.elseClause body => deferFree body
  | _,.elseIf clause => deferFree clause
  | _,.defaultClause body rest | _,.caseClause _ _ body rest | _,.catchClause _ _ body rest =>
      deferFree body && deferFree rest
  | _,_ => true

def Idle (blocks : List OpenBlock) : Prop := ∀ block ∈ blocks, block.count = 0 ∧ block.registered = 0

variable {blocks : List OpenBlock}

theorem Idle.tail (h : Idle blocks) : Idle blocks.tail :=
  fun block member => h block (List.mem_of_mem_tail member)

theorem Idle.cons {block : OpenBlock} {blocks : List OpenBlock} (h : Idle blocks) (count : block.count = 0)
    (registered : block.registered = 0) : Idle (block :: blocks) := by
  intro other member
  rcases List.mem_cons.mp member with rfl | member
  · exact ⟨count,registered⟩
  · exact h other member

theorem Idle.after {kind : StatementKind} {statement : Statement kind} (free : deferFree statement = true)
    (h : Idle blocks) : Idle (blocksAfter statement blocks) := by
  induction statement generalizing blocks with
  | deferStatement => cases free
  | returnStatement value =>
    intro block member
    obtain ⟨before,found,rfl⟩ := List.mem_map.mp member
    exact ⟨rfl,(h before found).2⟩
  | breakStatement =>
    change Idle (clearUntilLoop blocks)
    induction blocks with
    | nil => exact h
    | cons block blocks ih =>
      rw [clearUntilLoop]
      have head := h block List.mem_cons_self
      have tail : Idle blocks := h.tail
      split
      · exact tail.cons rfl head.2
      · exact (ih tail).cons rfl head.2
  | simple | throwStatement | continueStatement | empty | noNext | noCase | noCatch => exact h
  | whileStatement condition body ih | untilStatement condition body ih
  | forStatement initializer condition afterRepeat body ih | enumeration forEach start moveNext current body ih
  | elseClause body ih => exact (ih free (h.cons rfl rfl)).tail
  | conditional first ih | elseIf first ih => exact ih free h
  | switchStatement scrutinee cases ih => exact ih free h
  | cons first rest ihFirst ihRest =>
    obtain ⟨first,rest⟩ := Bool.and_eq_true_iff.mp free
    exact ihRest rest (ihFirst first h)
  | tryStatement body rest ihBody ihRest | ifClause negated condition body rest ihBody ihRest
  | defaultClause body rest ihBody ihRest | caseClause test bind body rest ihBody ihRest
  | catchClause filter bind body rest ihBody ihRest =>
    obtain ⟨body,rest⟩ := Bool.and_eq_true_iff.mp free
    exact ihRest rest (ihBody body (h.cons rfl rfl)).tail

def OnlyExits {α : Type} (P : Exit → Prop) (progress : Progress α) : Prop :=
  ∀ exit ∈ exits progress.trace, P exit

namespace OnlyExits

variable {α β : Type} {P : Exit → Prop}

theorem none_ {progress : Progress α} (h : exits progress.trace = []) : OnlyExits P progress := by
  intro exit member
  rw [h] at member
  cases member

theorem after {progress : Progress α} {earlier : List Event} (left : ∀ exit ∈ exits earlier, P exit)
    (right : OnlyExits P progress) : OnlyExits P (progress.after earlier) := by
  intro exit member
  have traced : (progress.after earlier).trace = earlier ++ progress.trace := by cases progress <;> rfl
  rw [traced,exits_append] at member
  rcases List.mem_append.mp member with member | member
  · exact left exit member
  · exact right exit member

theorem bind {first : Progress α} {rest : α → Progress β} (left : OnlyExits P first)
    (right : ∀ value, OnlyExits P (rest value)) : OnlyExits P (first.bind rest) := by
  cases first with
  | value value trace => exact (right value).after left
  | timeout trace => exact left
  | stopped trace => exact left

variable {Data Exception : Type} {machine : DataMachine Data Exception}

theorem emission (emission : Emission) (data : Data) : OnlyExits P (execEmission machine emission data) := by
  induction emission generalizing data with
  | skip | evalPush | evalPop => exact none_ rfl
  | op instruction =>
    rw [execEmission]
    cases machine.execute instruction data <;> exact none_ rfl
  | seq first second ihFirst ihSecond => exact (ihFirst data).bind ihSecond
  | branch condition whenTrue whenFalse ihCondition ihTrue ihFalse =>
    refine (ihCondition data).bind fun data => ?_
    split
    · exact none_ rfl
    · exact ihTrue _
    · exact ihFalse _
  | always arm rest ihArm ihRest => exact ihArm data

theorem test (condition : Emission) (data : Data) : OnlyExits P (execTest machine condition data) := by
  refine (emission condition data).bind fun data => ?_
  split <;> exact none_ rfl

theorem leave {block : OpenBlock} (fallsOff : P (.fallsOff block))
    (result : Completion × Data × List Emission) : OnlyExits P (leave machine block result) := by
  have evaluated : ∀ (own : List Emission) (data : Data), OnlyExits P (evaluate machine own data) := by
    intro own
    induction own with
    | nil => exact fun _ => none_ rfl
    | cons body own ih => exact fun data => (emission body data).bind ih
  refine after ?_ ((evaluated _ _).bind fun _ => none_ rfl)
  split
  · intro exit member
    obtain rfl : exit = .fallsOff block := by simpa [exits] using member
    exact fallsOff
  · exact fun exit member => by cases member

theorem iterate {test : Data → Progress (Bool × Data)} {body : Data → Progress (Completion × Data)}
    (tested : ∀ data, OnlyExits P (test data)) (bodied : ∀ data, OnlyExits P (body data)) (turns : Nat)
    (data : Data) : OnlyExits P (iterate test body turns data) := by
  induction turns generalizing data with
  | zero => exact none_ rfl
  | succ turns ih =>
    rw [Source.iterate]
    refine (tested data).bind ?_
    rintro ⟨truth,data⟩
    cases truth with
    | false => exact none_ rfl
    | true =>
      refine (bodied data).bind ?_
      rintro ⟨completion,data⟩
      cases completion with
      | normal | «continue» => exact ih data
      | «break» | «return» | restart => exact none_ rfl

end OnlyExits

variable {Data Exception : Type} {machine : DataMachine Data Exception}

theorem overdrained_subset (blocks : List OpenBlock) : overdrained blocks ⊆ blocks := by
  have rest : ∀ blocks : List OpenBlock, overdrained.untilLoop blocks ⊆ blocks := by
    intro blocks
    induction blocks with
    | nil => exact List.Subset.refl _
    | cons block blocks ih =>
      rw [overdrained.untilLoop]
      split
      · simp
      · exact List.cons_subset_cons block ih
  induction blocks with
  | nil => exact List.Subset.refl _
  | cons block blocks ih =>
    rw [overdrained]
    split
    · simp
    · split
      · exact List.subset_cons_of_subset _ (rest blocks)
      · exact List.subset_cons_of_subset _ ih

theorem Idle.drains_breaks (h : Idle blocks) : (Exit.breaks blocks).drains = true := by
  simp only [Exit.drains,Bool.and_eq_true,List.all_eq_true,decide_eq_true_eq]
  refine ⟨fun block member => ?_,fun block member => (h block (overdrained_subset blocks member)).1⟩
  have idle := h block (leftBlocks_subset blocks member)
  rw [idle.1,idle.2]

theorem Idle.drains_continues (h : Idle blocks) :
    (Exit.continues blocks).drains = true := by
  simp only [Exit.drains,List.all_eq_true,decide_eq_true_eq]
  intro block member
  split at member
  · exact (h block member).2
  · exact (h block (leftBlocks_subset blocks member)).2

theorem Idle.drains_returns (h : Idle blocks) : (Exit.returns blocks).drains = true := by
  simp only [Exit.drains,List.all_eq_true,decide_eq_true_eq]
  intro block member
  rw [(h block member).1,(h block member).2]

theorem OnlyExits.single {α : Type} {P : Exit → Prop} {value : α} {exit : Exit} (h : P exit) :
    OnlyExits P (.value value [.left exit]) := by
  intro other member
  obtain rfl : other = exit := by simpa [exits,Progress.trace] using member
  exact h

theorem Idle.drains_fallsOff {body : Statement .block} {inner : List OpenBlock} (free : deferFree body = true)
    (idle : Idle inner) : (Exit.fallsOff (blockAtEnd body inner)).drains = true := by
  have after := idle.after free
  unfold blockAtEnd
  cases blocks : blocksAfter body inner with
  | nil => rfl
  | cons block blocks' =>
    rw [blocks] at after
    have head := after block List.mem_cons_self
    simp [Exit.drains,head]

theorem exits_drain {policy : Policy} {turns : Nat} {kind : StatementKind} {statement : Statement kind}
    (free : deferFree statement = true) (idle : Idle blocks) (data : Data)
    (own : List Emission) : OnlyExits (fun exit => exit.drains = true)
      (exec machine policy turns statement blocks data own) := by
  have left : ∀ {body : Statement .block} {inner : List OpenBlock} {data : Data}, deferFree body = true →
      Idle inner → OnlyExits (fun exit => exit.drains = true) (exec machine policy turns body inner data []) →
      OnlyExits (fun exit => exit.drains = true)
        ((exec machine policy turns body inner data []).bind (leave machine (blockAtEnd body inner))) :=
    fun free idle run => run.bind (.leave (idle.drains_fallsOff free))
  have kept : ∀ {own : List Emission} {progress : Progress (Completion × Data)},
      OnlyExits (fun exit => exit.drains = true) progress →
      OnlyExits (fun exit => exit.drains = true) (keeping own progress) :=
    fun run => run.bind fun _ => .none_ rfl
  induction statement generalizing blocks data own with
  | deferStatement => cases free
  | simple emission => exact (OnlyExits.emission emission data).bind fun _ => .none_ rfl
  | returnStatement value =>
    have valued : OnlyExits (fun exit => exit.drains = true) (execOption machine value data) := by
      cases value with
      | none => exact .none_ rfl
      | some emission => exact .emission emission data
    exact valued.bind fun _ => .single idle.drains_returns
  | breakStatement => exact .single idle.drains_breaks
  | continueStatement => exact .single idle.drains_continues
  | throwStatement | tryStatement | noCatch | catchClause | empty | noNext | noCase => exact .none_ rfl
  | whileStatement condition body ih =>
    have inner : Idle (.body true .loop :: blocks) := idle.cons rfl rfl
    exact kept (.iterate (OnlyExits.test condition) (fun data => left free inner (ih free inner data [])) _ _)
  | untilStatement condition body ih =>
    have inner : Idle (.body true .loop :: blocks) := idle.cons rfl rfl
    exact kept (.iterate (fun data => (OnlyExits.test condition data).bind fun _ => .none_ rfl)
      (fun data => left free inner (ih free inner data [])) _ _)
  | forStatement initializer condition afterRepeat body ih =>
    have inner : Idle (.body true .counting :: blocks) := idle.cons rfl rfl
    refine (OnlyExits.emission initializer data).bind fun data => kept (.iterate (OnlyExits.test condition)
      (fun data => (left free inner (ih free inner data [])).bind ?_) _ _)
    rintro ⟨completion,data⟩
    cases completion with
    | normal => exact (OnlyExits.emission afterRepeat data).bind fun _ => .none_ rfl
    | «continue» =>
      cases policy with
      | prescribed => exact (OnlyExits.emission afterRepeat data).bind fun _ => .none_ rfl
      | emitted => exact .none_ rfl
    | «break» | «return» | restart => exact .none_ rfl
  | enumeration forEach start moveNext current body ih =>
    have inner : Idle (.body forEach .loop :: blocks) := idle.cons rfl rfl
    exact (OnlyExits.emission start data).bind fun data => kept (.iterate (OnlyExits.test moveNext)
      (fun data => (OnlyExits.emission current data).bind fun data => left free inner (ih free inner data [])) _ _)
  | conditional first ih | elseIf first ih => exact ih free idle data own
  | switchStatement scrutinee cases ih =>
    rw [exec]
    split
    · exact .none_ rfl
    · refine (OnlyExits.emission scrutinee data).bind fun data => (ih free idle data own).bind ?_
      rintro ⟨completion,data,own⟩
      refine kept ?_
      cases completion with
      | «continue» => cases policy <;> exact .none_ rfl
      | normal | «break» | «return» | restart => exact .none_ rfl
  | cons first rest ihFirst ihRest =>
    obtain ⟨firstFree,restFree⟩ := Bool.and_eq_true_iff.mp free
    refine (ihFirst firstFree idle data own).bind ?_
    rintro ⟨completion,data,own⟩
    cases completion with
    | normal => exact ihRest restFree (idle.after firstFree) data own
    | «break» | «continue» | «return» | restart => exact .none_ rfl
  | ifClause negated condition body next ihBody ihNext =>
    obtain ⟨bodyFree,nextFree⟩ := Bool.and_eq_true_iff.mp free
    have inner : Idle (.plain :: blocks) := idle.cons rfl rfl
    refine (OnlyExits.test condition data).bind ?_
    rintro ⟨truth,data⟩
    by_cases skipped : truth = negated
    · simp only [if_pos skipped]
      exact ihNext nextFree (inner.after bodyFree).tail data own
    · simp only [if_neg skipped]
      exact kept (left bodyFree inner (ihBody bodyFree inner data []))
  | elseClause body ih =>
    have inner : Idle (.plain :: blocks) := idle.cons rfl rfl
    exact kept (left free inner (ih free inner data []))
  | defaultClause body rest ihBody ihRest =>
    obtain ⟨bodyFree,restFree⟩ := Bool.and_eq_true_iff.mp free
    have inner : Idle (.body false .switch :: blocks) := idle.cons rfl rfl
    exact kept (left bodyFree inner (ihBody bodyFree inner data []))
  | caseClause test bind body rest ihBody ihRest =>
    obtain ⟨bodyFree,restFree⟩ := Bool.and_eq_true_iff.mp free
    have inner : Idle (.body false .switch :: blocks) := idle.cons rfl rfl
    refine (OnlyExits.test test data).bind ?_
    rintro ⟨truth,data⟩
    cases truth with
    | true =>
      exact (OnlyExits.emission bind data).bind fun data =>
        kept (left bodyFree inner (ihBody bodyFree inner data []))
    | false =>
      exact ihRest restFree (inner.after bodyFree).tail data own

/-- A body without registrations whose `continue`s all belong to a `while`, an `until` or an
enumeration runs its conditions, bodies and after-repeat statements as the language has them. -/
theorem loops_preserved {body : Statement .block} (accepts : Accepts body) (free : deferFree body = true)
    (turns : Nat) (data : Data)
    (lands : ∀ exit ∈ exits (execBody machine .prescribed turns body data).trace, exit.lands = true) :
    Follows machine (visitBody body).code turns 0 (.running (.initial data : FrameState Data Exception))
      (execBody machine .prescribed turns body data) BodyEnds := by
  have idle : Idle bodyBlocks := Idle.cons (fun _ member => by cases member) rfl rfl
  have drains : OnlyExits (fun exit => exit.drains = true) (execBody machine .prescribed turns body data) := by
    refine ((exits_drain free idle data []).bind (.leave (idle.drains_fallsOff free))).bind ?_
    rintro ⟨completion,data⟩
    have placed : ∀ data, OnlyExits (fun exit => exit.drains = true) (placeReturned machine data) := by
      intro data
      unfold placeReturned
      split
      · split <;> exact .none_ rfl
      · exact .none_ rfl
    cases completion with
    | restart => exact .none_ rfl
    | normal | «break» | «continue» | «return» => exact (placed data).bind fun _ => .none_ rfl
  exact execBody_realizes accepts data fun exit member => ⟨drains exit member,fun _ => lands exit member⟩

def countdown : DataMachine Nat Unit :=
  { DataMachine.idle () with popTruth := fun data => some (0 < data,data - 1) }

def continuedWhile : Statement .block :=
  .cons (.whileStatement (.op (.loadLocal 0)) (.cons (.conditional (.ifClause false (.op (.loadLocal 1))
    (.cons .continueStatement .empty) .noNext)) (.cons (.simple (.op .pop)) .empty))) .empty

theorem loops_preserved_while :
    Follows countdown (visitBody continuedWhile).code 4 0
      (.running (.initial 4 : FrameState Nat Unit))
      (execBody countdown .prescribed 4 continuedWhile 4) BodyEnds :=
  loops_preserved (by decide) (by decide) 4 4 (by decide)

def continuedFor : Statement .block :=
  .cons (.forStatement (.op .loadConstNull) (.op (.loadLocal 0)) (.op .pop)
    (.cons .continueStatement .empty)) .empty

/-- The after-repeat statement is due behind the `continue` and never runs. -/
theorem continuedFor_skips_afterRepeat :
    Accepts continuedFor ∧ deferFree continuedFor = true ∧
    ¬ Follows countdown (visitBody continuedFor).code 2 0 (.running (.initial 1 : FrameState Nat Unit))
      (execBody countdown .prescribed 2 continuedFor 1) BodyEnds := by
  refine ⟨by decide,by decide,?_⟩
  rintro ⟨steps,last,-,leads,state,rfl,-⟩
  have actual : (interpreter countdown (visitBody continuedFor).code).eventsWithin 12
      (.running (.initial 1 : FrameState Nat Unit)) =
      some [.loadConstNull,.loadLocal 0,.loadLocal 0] := by decide
  exact absurd (leads.events_eq actual) (by decide)

end ShardScript.Source

/-! Deferred expressions: which runs evaluate every registration where its block is left. -/
namespace ShardScript.Source
open Library ByteCode Emitter ShardScript.Runtime FrameState

variable {Data Exception : Type} {machine : DataMachine Data Exception}

/-- A run whose exits drain the registrations of the blocks that they leave, and no others,
evaluates each one once, the last one first, where its block is left. -/
theorem defers_preserved {body : Statement .block} (accepts : Accepts body) (turns : Nat) (data : Data)
    (drains : ∀ exit ∈ exits (execBody machine .emitted turns body data).trace, exit.drains = true) :
    Follows machine (visitBody body).code turns 0 (.running (.initial data : FrameState Data Exception))
      (execBody machine .emitted turns body data) BodyEnds := by
  apply execBody_realizes accepts data
  intro exit member
  exact ⟨drains exit member,by simp⟩

/-- `defer c; while (a) { defer d; if (b) { defer e; break; } }` -/
def deferredBreak : Statement .block :=
  .cons (.deferStatement .skip (.op (.loadLocal 2))) (.cons (.whileStatement (.op (.loadLocal 0))
    (.cons (.deferStatement .skip (.op (.loadLocal 3))) (.cons (.conditional (.ifClause false
      (.op (.loadLocal 1)) (.cons (.deferStatement .skip (.op (.loadLocal 4))) (.cons .breakStatement .empty))
      .noNext)) .empty))) .empty)

theorem defers_preserved_break :
    Follows countdown (visitBody deferredBreak).code 1 0 (.running (.initial 2 : FrameState Nat Unit))
      (execBody countdown .emitted 1 deferredBreak 2) BodyEnds :=
  defers_preserved (by decide) 1 2 (by decide)

def deferredReturn : Statement .block :=
  .cons (.deferStatement .skip (.op (.loadLocal 1))) (.cons (.conditional (.ifClause false
    (.op (.loadLocal 0)) (.cons (.returnStatement none) .empty) .noNext)) .empty)

/-- The `return` takes the registration off the count that the end of the body drains. -/
theorem deferredReturn_skips_deferred :
    Accepts deferredReturn ∧
    instructions (execBody countdown .emitted 0 deferredReturn 0).trace = [.loadLocal 0,.loadLocal 1] ∧
    ¬ Follows countdown (visitBody deferredReturn).code 0 0 (.running (.initial 0 : FrameState Nat Unit))
      (execBody countdown .emitted 0 deferredReturn 0) BodyEnds := by
  refine ⟨by decide,by decide,?_⟩
  rintro ⟨steps,last,-,leads,state,rfl,-⟩
  have actual : (interpreter countdown (visitBody deferredReturn).code).eventsWithin 12
      (.running (.initial 0 : FrameState Nat Unit)) = some [.loadLocal 0] := by decide
  exact absurd (leads.events_eq actual) (by decide)

end ShardScript.Source
