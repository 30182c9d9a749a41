import ShardScript.Emitter.Flow
import ShardScript.Emitter.Acceptance

/-! Control between the marks of a statement: one case for each statement. -/
namespace ShardScript.Emitter
open ByteCode

namespace Statement

variable {chart : Chart} {body : Statement .block} {outer : List Mark} {inner : List DeferScope} {target : Option Targets}

private theorem loop_flows
    {start test entry drain repeat_ looping : Nat} {exit : Instruction}
    (flowing : body.Flowing chart) (start_test : start ≤ test) (test_entry : test + 10 ≤ entry)
    (drained : drain = entry + body.size inner)
    (repeated : repeat_ = drain + drainSize (headCount (body.scopes inner))) (repeat_looping : repeat_ ≤ looping)
    (surrounds : Surrounds chart (body.parts inner entry) start (looping + 10) outer)
    (before : Constant chart outer start entry → chart.FlowsOn start test)
    (tested : chart.code.fetch test = some exit)
    (conditional : exit = .jumpFalse (looping + 10) ∨ exit = .jumpTrue (looping + 10))
    (current : Constant chart outer start entry → chart.FlowsOn (test + 10) entry)
    (block : body.Placed chart.code target inner entry ∧
      DrainPlaced chart.code (headCount (body.scopes inner)) drain)
    (behind : Constant chart outer repeat_ (looping + 10) → chart.FlowsOn repeat_ looping)
    (jump : chart.code.fetch looping = some (.jump start)) : chart.FlowsOn start (looping + 10) := by
  subst drained repeated
  have within := body.parts_within inner entry
  have early := surrounds.before within (Nat.le_refl start) (show entry ≤ _ by omega) (Nat.le_refl _)
  have late := surrounds.behind within (show start ≤ entry + body.size inner by omega) (Nat.le_refl _) (Nat.le_refl _)
  have testing : chart.FlowsOn test (test + 10) := by
    apply test_flows tested conditional
    rw [early test (by omega) (by omega),early (test + 10) (by omega) (by omega),late _ (by omega) (Nat.le_refl _)]
    exact ⟨rfl,rfl⟩
  have bodied := block_flows flowing block (surrounds.narrow (by omega) (by omega))
  have looped : chart.FlowsOn looping (looping + 10) := by
    apply jump_flows jump
    rw [early start (Nat.le_refl _) (by omega),late looping (by omega) (by omega)]
  exact ((((((before early).append testing).append (current early)).append bodied).append
    (behind (late.narrow (by omega) (Nat.le_refl _)))).append looped)

theorem optionPlaced_flows {value : Option Emission} {start : Nat}
    (placed : optionPlaced chart.code value start)
    (same : Constant chart outer start (start + optionSize value)) :
    chart.FlowsOn start (start + optionSize value) := by
  cases value with
  | none => exact .nil
  | some emission => exact emission.flows (placed emission rfl) same

private theorem armed_flows {kind : StatementKind} {next : Statement kind}
    {start entry bodied : Nat}
    (bodyFlows : body.Flowing chart) (nextFlows : next.Flowing chart) (start_entry : start ≤ entry)
    (ends : bodied = entry + body.size inner + drainSize (headCount (body.scopes inner)))
    (surrounds : Surrounds chart (body.parts inner entry ++ next.parts (body.scopes inner).tail (bodied + 10)) start
      (bodied + 10 + next.size (body.scopes inner).tail) outer)
    (before : Constant chart outer start entry → chart.marks (bodied + 10) = outer → chart.FlowsOn start entry)
    (block : body.Placed chart.code target inner entry ∧
      DrainPlaced chart.code (headCount (body.scopes inner)) (entry + body.size inner))
    (jump : chart.code.fetch bodied = some (.jump (bodied + 10 + next.size (body.scopes inner).tail)))
    (placed : next.Placed chart.code target (body.scopes inner).tail (bodied + 10)) :
    chart.FlowsOn start (bodied + 10 + next.size (body.scopes inner).tail) := by
  subst ends
  have bodyWithin := body.parts_within inner entry
  have nextWithin := next.parts_within (body.scopes inner).tail
    (entry + body.size inner + drainSize (headCount (body.scopes inner)) + 10)
  have left := surrounds.left nextWithin (by omega)
  have right := surrounds.right (bodyWithin.mono start_entry
    (show _ ≤ entry + body.size inner + drainSize (headCount (body.scopes inner)) by omega)) (by omega)
  have early := left.before bodyWithin (Nat.le_refl start) (show entry ≤ _ by omega) (Nat.le_refl _)
  have bodied := block_flows bodyFlows block (left.narrow start_entry (by omega))
  have behind := right.outside nextWithin (Nat.le_add_right _ 10) (by omega) (.inl (Nat.le_refl _))
  have jumped : chart.FlowsOn (entry + body.size inner + drainSize (headCount (body.scopes inner)))
      (entry + body.size inner + drainSize (headCount (body.scopes inner)) + 10) := by
    apply jump_flows jump
    rw [right.outside nextWithin (by omega) (Nat.le_refl _) (.inr (Nat.le_refl _)),
      right.outside nextWithin (Nat.le_refl _) (by omega) (.inl (by omega))]
  exact (((before early behind).append bodied).append jumped).append
    (nextFlows placed (right.narrow (by omega) (Nat.le_refl _)))

private theorem guarded_flows {test bind : Emission} {outer : List Mark} {start target : Nat} {exit : Instruction}
    (testPlaced : test.Placed chart.code start) (tested : chart.code.fetch (start + test.size) = some exit)
    (conditional : exit = .jumpFalse target ∨ exit = .jumpTrue target)
    (bindPlaced : bind.Placed chart.code (start + test.size + 10))
    (same : Constant chart outer start (start + test.size + 10 + bind.size)) (target_ : chart.marks target = outer) :
    chart.FlowsOn start (start + test.size + 10 + bind.size) := by
  have testing : chart.FlowsOn (start + test.size) (start + test.size + 10) := by
    apply test_flows tested conditional
    rw [target_,same _ (by omega) (by omega),same _ (by omega) (by omega)]
    exact ⟨rfl,rfl⟩
  exact ((test.flows testPlaced (same.narrow (Nat.le_refl _) (by omega))).append testing).append
    (bind.flows bindPlaced (same.narrow (by omega) (Nat.le_refl _)))

private theorem try_flows {catches : Statement .catches}
    {start leave : Nat}
    (bodyFlows : body.Flowing chart) (catchesFlow : catches.Flowing chart)
    (leave_eq : leave = start + 10 + body.size inner + drainSize (headCount (body.scopes inner)))
    (surrounds : Surrounds chart (body.parts inner (start + 10) ++
      .enclosing (start + 10) (leave + 2) (.tryBody (leave + 2 + 10)) ::
        catches.parts (body.scopes inner).tail (leave + 2 + 10)) start
      (leave + 2 + 10 + catches.size (body.scopes inner).tail + 2) outer)
    (enter : chart.code.fetch start = some (.enterTry (leave + 2 + 10)))
    (block : body.Placed chart.code target inner (start + 10) ∧
      DrainPlaced chart.code (headCount (body.scopes inner)) (start + 10 + body.size inner))
    (left : chart.code.fetch leave = some .leaveTry)
    (jump : chart.code.fetch (leave + 2) =
      some (.jump (leave + 2 + 10 + catches.size (body.scopes inner).tail)))
    (placed : catches.Placed chart.code target (body.scopes inner).tail (leave + 2 + 10))
    (endCatch : chart.code.fetch (leave + 2 + 10 + catches.size (body.scopes inner).tail) = some .endCatch) :
    chart.FlowsOn start (leave + 2 + 10 + catches.size (body.scopes inner).tail + 2) := by
  have bodyWithin := body.parts_within inner (start + 10)
  have catchesWithin := catches.parts_within (body.scopes inner).tail (leave + 2 + 10)
  have inside : Surrounds chart (body.parts inner (start + 10)) (start + 10) leave
      (.tryBody (leave + 2 + 10) :: outer) := by
    refine ⟨?_,?_,?_⟩
    · intro offset lower upper
      have active : Part.mark? offset (.enclosing (start + 10) (leave + 2) (.tryBody (leave + 2 + 10))) =
          some (.tryBody (leave + 2 + 10)) := if_pos (by omega)
      rw [surrounds.marks offset (by omega) (by omega),marksAt_append,List.append_assoc]
      congr 1
      rw [marksAt,List.filterMap_cons_some active,← marksAt,catchesWithin.marksAt_eq_nil (.inl (by omega))]
      rfl
    · simpa using surrounds.regular
    · intro offset member
      exact surrounds.exits offset (List.mem_append_left _ member)
  rw [List.append_cons] at surrounds
  have tryWithin : Within start (leave + 2) (body.parts inner (start + 10) ++
      [.enclosing (start + 10) (leave + 2) (.tryBody (leave + 2 + 10))]) :=
    (bodyWithin.mono (by omega) (by omega)).append (.cons (by omega) (Nat.le_refl _) .nil)
  have outside := surrounds.right tryWithin (by omega)
  have before := surrounds.left (catchesWithin.mono (Nat.le_refl _) (Nat.le_add_right _ 2)) (by omega)
  have early := before.outside tryWithin (Nat.le_refl start) (by omega) (.inl (Nat.le_refl _))
  have entered : chart.FlowsOn start (start + 10) := by
    refine .one enter ⟨?_,?_,?_⟩
    · rw [early]
      exact outside.outside catchesWithin (by omega) (by omega) (.inl (Nat.le_refl _))
    · rw [early]
      exact inside.outside bodyWithin (Nat.le_refl (start + 10)) (show start + 10 ≤ leave by omega)
        (.inl (Nat.le_refl _))
    · rw [early]
      exact surrounds.regular
  have last := inside.outside bodyWithin (show start + 10 ≤ leave by omega) (Nat.le_refl _) (.inr (by omega))
  have behind := outside.outside catchesWithin (Nat.le_refl (leave + 2)) (by omega) (.inl (by omega))
  have leaving : chart.FlowsOn leave (leave + 2) := by
    refine .one left ⟨?_,leave + 2 + 10,?_⟩
    · rw [last]
      exact inside.regular
    · exact last.trans (congrArg _ behind.symm)
  have end_ := outside.outside catchesWithin
    (show leave + 2 ≤ leave + 2 + 10 + catches.size (body.scopes inner).tail by omega) (by omega)
    (.inr (Nat.le_refl _))
  have jumped : chart.FlowsOn (leave + 2) (leave + 2 + 10) := jump_flows jump (end_.trans behind.symm)
  have ended : chart.FlowsOn (leave + 2 + 10 + catches.size (body.scopes inner).tail)
      (leave + 2 + 10 + catches.size (body.scopes inner).tail + 2) := by
    refine .one endCatch ?_
    exact (outside.outside catchesWithin (by omega) (Nat.le_refl _) (.inr (by omega))).trans end_.symm
  subst leave_eq
  have bodied := block_flows bodyFlows block (inside.narrow (Nat.le_refl _) (Nat.le_refl _))
  have handled := catchesFlow placed (outside.narrow (by omega) (by omega))
  exact ((((entered.append bodied).append leaving).append jumped).append handled).append ended

private theorem defer_flows {resource body : Emission} {start entry : Nat}
    (entry_eq : entry = start + resource.size + 10 + 10)
    (surrounds : Surrounds chart [.enclosing entry (entry + body.size + 2) .deferred] start
      (entry + body.size + 2) outer)
    (resourcePlaced : resource.Placed chart.code start)
    (register : chart.code.fetch (start + resource.size) = some (.defer entry))
    (jump : chart.code.fetch (start + resource.size + 10) = some (.jump (entry + body.size + 2)))
    (bodyPlaced : body.Placed chart.code entry)
    (deferBreak : chart.code.fetch (entry + body.size) = some .deferBreak) :
    chart.FlowsOn start (entry + body.size + 2) := by
  have within : Within (entry - 1) (entry + body.size + 2)
      [.enclosing entry (entry + body.size + 2) .deferred] := .cons (by omega) (Nat.le_refl _) .nil
  have early := surrounds.before within (Nat.le_refl start) (show start + resource.size + 10 ≤ _ by omega) (by omega)
  have behind := surrounds.outside within (show start ≤ entry + body.size + 2 by omega) (Nat.le_refl _)
    (.inr (Nat.le_refl _))
  have inside : Constant chart (.deferred :: outer) entry (entry + body.size) := by
    intro offset lower upper
    have active : Part.mark? offset (.enclosing entry (entry + body.size + 2) .deferred) = some .deferred :=
      if_pos (by omega)
    rw [surrounds.marks offset (by omega) (by omega),marksAt,List.filterMap_cons_some active]
    rfl
  have registered : chart.FlowsOn (start + resource.size) (start + resource.size + 10) := by
    have here := early (start + resource.size) (by omega) (by omega)
    refine .one register ⟨?_,?_⟩
    · rw [here]
      exact inside entry (Nat.le_refl _) (by omega)
    · exact (early _ (by omega) (Nat.le_refl _)).trans here.symm
  have jumped : chart.FlowsOn (start + resource.size + 10) (start + resource.size + 10 + 10) :=
    jump_flows jump (behind.trans (early _ (by omega) (Nat.le_refl _)).symm)
  have broken : chart.FlowsOn (entry + body.size) (entry + body.size + 2) := by
    refine .one deferBreak ?_
    show Mark.deferred ∈ chart.marks (entry + body.size)
    rw [inside _ (by omega) (Nat.le_refl _)]
    exact List.mem_cons_self
  have resourced := resource.flows resourcePlaced (early.narrow (Nat.le_refl _) (by omega))
  subst entry_eq
  exact (((resourced.append registered).append jumped).append (body.flows bodyPlaced inside)).append broken

private theorem exit_cases (negated : Bool) (target : Nat) :
    (if negated then Instruction.jumpTrue target else .jumpFalse target) = .jumpFalse target ∨
      (if negated then Instruction.jumpTrue target else .jumpFalse target) = .jumpTrue target := by
  cases negated
  · exact .inl rfl
  · exact .inr rfl

theorem flows {kind : StatementKind} (statement : Statement kind) : statement.Flowing chart := by
  induction statement with
  | simple emission =>
    intro target open_ start outer placed surrounds
    exact emission.flows placed surrounds.all
  | returnStatement value =>
    intro target open_ start outer placed surrounds
    obtain ⟨valuePlaced,drainPlaced,returnPlaced⟩ := placed
    have same := surrounds.all
    simp only [size,← Nat.add_assoc] at same ⊢
    have valued := optionPlaced_flows valuePlaced (same.narrow (Nat.le_refl _) (by omega))
    have drained := drainPlaced.flows surrounds.regular (same.narrow (by omega) (by omega))
    have returned : chart.FlowsOn _ _ := .one returnPlaced trivial
    exact (valued.append drained).append returned
  | throwStatement exception =>
    intro target open_ start outer placed surrounds
    have same := surrounds.all
    cases exception with
    | none =>
      have here := same start (Nat.le_refl _) (Nat.le_add_right _ _)
      exact .one placed ((same _ (Nat.le_add_right _ _) (Nat.le_refl _)).trans here.symm)
    | some emission =>
      simp only [size,optionSize,← Nat.add_assoc] at same ⊢
      have thrown : chart.FlowsOn (start + emission.size) (start + emission.size + 2) := by
        have here := same (start + emission.size) (by omega) (by omega)
        exact .one placed.2 ((same _ (by omega) (Nat.le_refl _)).trans here.symm)
      exact (emission.flows placed.1 (same.narrow (Nat.le_refl _) (by omega))).append thrown
  | breakStatement =>
    intro target open_ start outer placed surrounds
    obtain ⟨drainPlaced,scope,-,jump⟩ := placed
    have same : Constant chart outer start (start + breakStatement.size open_) := surrounds.marks
    simp only [size,← Nat.add_assoc] at same ⊢
    have drained := drainPlaced.flows surrounds.regular (same.narrow (Nat.le_refl _) (by omega))
    have jumped : chart.FlowsOn _ _ := .one jump (.inl (surrounds.exits _ (by simp [parts])))
    exact drained.append jumped
  | continueStatement =>
    intro target open_ start outer placed surrounds
    obtain ⟨scope,-,jump⟩ := placed
    exact .one jump (.inl (surrounds.exits _ (by simp [parts])))
  | whileStatement condition body ih =>
    intro target open_ start outer placed surrounds
    obtain ⟨conditionPlaced,exit,block,jump⟩ := placed
    simp only [size,← Nat.add_assoc] at surrounds ⊢
    exact loop_flows ih (by omega) (Nat.le_refl _) rfl rfl (Nat.le_refl _) surrounds
      (fun same => condition.flows conditionPlaced (same.narrow (Nat.le_refl _) (by omega))) exit (.inl rfl)
      (fun _ => .nil) block (fun _ => .nil) jump
  | untilStatement condition body ih =>
    intro target open_ start outer placed surrounds
    obtain ⟨conditionPlaced,exit,block,jump⟩ := placed
    simp only [size,← Nat.add_assoc] at surrounds ⊢
    exact loop_flows ih (by omega) (Nat.le_refl _) rfl rfl (Nat.le_refl _) surrounds
      (fun same => condition.flows conditionPlaced (same.narrow (Nat.le_refl _) (by omega))) exit (.inr rfl)
      (fun _ => .nil) block (fun _ => .nil) jump
  | forStatement initializer condition afterRepeat body ih =>
    intro target open_ start outer placed surrounds
    obtain ⟨initializerPlaced,conditionPlaced,exit,block,repeatPlaced,jump⟩ := placed
    have within := body.parts_within (⟨0,true⟩ :: open_) (start + initializer.size + condition.size + 10)
    simp only [size,← Nat.add_assoc] at surrounds ⊢
    have initialized := initializer.flows initializerPlaced
      (surrounds.before within (Nat.le_refl _) (by omega) (by omega))
    apply initialized.append
    exact loop_flows ih (by omega) (Nat.le_refl _) rfl rfl (by omega)
      (surrounds.narrow (Nat.le_add_right _ _) (by omega))
      (fun same => condition.flows conditionPlaced (same.narrow (Nat.le_refl _) (by omega))) exit (.inl rfl)
      (fun _ => .nil) block
      (fun same => afterRepeat.flows repeatPlaced (same.narrow (Nat.le_refl _) (by omega))) jump
  | enumeration forEach enumerator moveNext current body ih =>
    intro target open_ start outer placed surrounds
    obtain ⟨enumeratorPlaced,moveNextPlaced,exit,currentPlaced,block,jump⟩ := placed
    have within := body.parts_within (⟨0,forEach⟩ :: open_)
      (start + enumerator.size + moveNext.size + 10 + current.size)
    simp only [size,← Nat.add_assoc] at surrounds ⊢
    have started := enumerator.flows enumeratorPlaced
      (surrounds.before within (Nat.le_refl _) (by omega) (by omega))
    apply started.append
    exact loop_flows ih (by omega) (by omega) rfl rfl (Nat.le_refl _)
      (surrounds.narrow (Nat.le_add_right _ _) (by omega))
      (fun same => moveNext.flows moveNextPlaced (same.narrow (Nat.le_refl _) (by omega))) exit (.inl rfl)
      (fun same => current.flows currentPlaced (same.narrow (by omega) (by omega))) block (fun _ => .nil) jump
  | conditional first ih =>
    intro target open_ start outer placed surrounds
    exact ih placed surrounds
  | elseIf clause ih =>
    intro target open_ start outer placed surrounds
    exact ih placed surrounds
  | switchStatement scrutinee cases ih =>
    intro target open_ start outer placed surrounds
    simp only [Placed,parts,size] at placed surrounds ⊢
    split
    · exact .nil
    · rename_i some_
      rw [if_neg some_] at placed surrounds
      rw [if_neg some_,← Nat.add_assoc] at surrounds
      rw [← Nat.add_assoc]
      have within := cases.parts_within open_ (start + scrutinee.size)
      have evaluated := scrutinee.flows placed.1 (surrounds.before within (Nat.le_refl _) (by omega) (Nat.le_refl _))
      exact evaluated.append (ih placed.2 (surrounds.narrow (by omega) (Nat.le_refl _)))
  | tryStatement body catches ihBody ihCatches =>
    intro target open_ start outer placed surrounds
    by_cases none_ : catches.isNoCatch = true
    · simp only [Placed,size,parts,if_pos none_,← Nat.add_assoc] at placed surrounds ⊢
      exact block_flows ihBody placed surrounds
    · simp only [Placed,size,parts,if_neg none_,← Nat.add_assoc] at placed surrounds ⊢
      obtain ⟨enter,block,leave,jump,catchesPlaced,endCatch⟩ := placed
      exact try_flows ihBody ihCatches rfl surrounds enter block leave jump catchesPlaced endCatch
  | deferStatement resource body =>
    intro target open_ start outer placed surrounds
    obtain ⟨resourcePlaced,register,jump,bodyPlaced,deferBreak⟩ := placed
    simp only [size,parts,← Nat.add_assoc] at surrounds ⊢
    exact defer_flows rfl surrounds resourcePlaced register jump bodyPlaced deferBreak
  | empty | noNext | noCase =>
    intro target open_ start outer placed surrounds
    exact .nil
  | noCatch =>
    intro target open_ start outer placed surrounds
    have same := surrounds.all
    have here := same start (Nat.le_refl _) (Nat.le_add_right _ _)
    exact .one placed ((same _ (Nat.le_add_right _ _) (Nat.le_refl _)).trans here.symm)
  | cons first rest ihFirst ihRest =>
    intro target open_ start outer placed surrounds
    have firstWithin := first.parts_within open_ start
    have restWithin := rest.parts_within (first.scopes open_) (start + first.size open_)
    simp only [size,← Nat.add_assoc] at surrounds ⊢
    exact (ihFirst placed.1 (surrounds.left restWithin (by omega))).append
      (ihRest placed.2 (surrounds.right firstWithin (by omega)))
  | ifClause negated condition body next ihBody ihNext =>
    intro target open_ start outer placed surrounds
    obtain ⟨conditionPlaced,exit,block,nextPlaced⟩ := placed
    by_cases none_ : next.isNoNext = true
    · simp only [size,parts,if_pos none_,← Nat.add_assoc,List.append_nil,Nat.add_zero] at surrounds exit ⊢
      have within := body.parts_within (⟨0,false⟩ :: open_) (start + condition.size + 10)
      have same := surrounds.before within (Nat.le_refl _)
        (show start + condition.size + 10 ≤ _ by omega) (Nat.le_refl _)
      have guarded := @guarded_flows chart condition .skip _ _ _ _ conditionPlaced exit (exit_cases _ _) trivial same
        (surrounds.outside within (by omega) (Nat.le_refl _) (.inr (Nat.le_add_right _ _)))
      exact guarded.append (block_flows ihBody block (surrounds.narrow (by omega) (Nat.le_refl _)))
    · obtain ⟨jump,nextPlaced⟩ := nextPlaced (by simpa using none_)
      simp only [size,parts,if_neg none_,← Nat.add_assoc] at surrounds exit jump nextPlaced ⊢
      exact armed_flows ihBody ihNext (by omega) rfl surrounds
        (@guarded_flows chart condition .skip _ _ _ _ conditionPlaced exit (exit_cases _ _) trivial) block jump
        nextPlaced
  | elseClause body ih =>
    intro target open_ start outer placed surrounds
    simp only [size,← Nat.add_assoc] at surrounds ⊢
    exact block_flows ih placed surrounds
  | defaultClause body rest ihBody ihRest =>
    intro target open_ start outer placed surrounds
    obtain ⟨block,jump,restPlaced⟩ := placed
    simp only [size,← Nat.add_assoc] at surrounds ⊢
    exact armed_flows ihBody ihRest (Nat.le_refl _) rfl surrounds (fun _ _ => .nil) block jump restPlaced
  | caseClause test bind body rest ihBody ihRest =>
    intro target open_ start outer placed surrounds
    obtain ⟨testPlaced,exit,bindPlaced,block,jump,restPlaced⟩ := placed
    simp only [size,← Nat.add_assoc] at surrounds ⊢
    exact armed_flows ihBody ihRest (by omega) rfl surrounds
      (guarded_flows testPlaced exit (.inl rfl) bindPlaced) block jump restPlaced
  | catchClause filter bind body rest ihBody ihRest =>
    intro target open_ start outer placed surrounds
    cases filter with
    | none =>
      obtain ⟨bindPlaced,block,jump,restPlaced⟩ := placed
      simp only [size,parts,filterSize,← Nat.add_assoc,Nat.add_zero] at surrounds ⊢
      exact armed_flows ihBody ihRest (by omega) rfl surrounds
        (fun same _ => bind.flows bindPlaced same) block jump restPlaced
    | some filter =>
      obtain ⟨testPlaced,exit,bindPlaced,block,jump,restPlaced⟩ := placed
      simp only [size,parts,filterSize,← Nat.add_assoc] at surrounds ⊢
      exact armed_flows ihBody ihRest (by omega) rfl surrounds
        (guarded_flows testPlaced exit (.inl rfl) bindPlaced) block jump restPlaced

end Statement

def bodyParts (body : Statement .block) : List Part := body.parts bodyScopes 0

def bodyChart (body : Statement .block) : Chart where
  code := (visitBody body).code
  marks := marksAt (bodyParts body)
  isExit offset := .exitJump offset ∈ bodyParts body

theorem visitBody_flows {body : Statement .block} (accepts : Accepts body) :
    (bodyChart body).FlowsOn 0 (visitBody body).code.size := by
  obtain ⟨block,ret⟩ := visitBody_placed accepts
  have surrounds : Surrounds (bodyChart body) (body.parts bodyScopes 0) 0
      (0 + body.size bodyScopes + drainSize (headCount (body.scopes bodyScopes))) [] := by
    refine ⟨?_,List.not_mem_nil,fun offset member => member⟩
    intro offset lower upper
    exact (List.append_nil _).symm
  have drained := block.2
  rw [bodyDrain,← Nat.zero_add (body.size bodyScopes)] at drained
  have bodied := @block_flows (bodyChart body) [] body body.flows none bodyScopes 0 ⟨block.1,drained⟩ surrounds
  have returned : (bodyChart body).FlowsOn (bodyReturn body) (bodyReturn body + 2) := .one ret trivial
  rw [Nat.zero_add] at bodied
  rw [size_visitBody accepts]
  exact bodied.append returned

end ShardScript.Emitter
