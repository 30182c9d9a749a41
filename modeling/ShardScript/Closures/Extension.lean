import ShardScript.Closures.Emission

/-! What the emission of a part of a method leaves alone: the methods around it. -/
namespace ShardScript.Closures
open ByteCode

structure Extends (before after : AbstractEmiter) : Prop where
  generatingFor : after.generatingFor = before.generatingFor
  methods : before.methods ≤ after.methods
  codes : ∀ method < before.methods, method ≠ before.generatingFor → after.codes method = before.codes method
  placeholders : ∀ placeholder ∈ before.placeholders, placeholder.1 < before.methods →
    placeholder.1 ≠ before.generatingFor → placeholder ∈ after.placeholders

namespace Extends
variable {first before after : AbstractEmiter}

theorem refl (emiter : AbstractEmiter) : Extends emiter emiter :=
  ⟨rfl,Nat.le_refl _,fun _ _ _ => rfl,fun _ member _ _ => member⟩

theorem trans (h : Extends first before) (h' : Extends before after) : Extends first after where
  generatingFor := h'.generatingFor.trans h.generatingFor
  methods := Nat.le_trans h.methods h'.methods
  codes method old other :=
    (h'.codes method (Nat.lt_of_lt_of_le old h.methods) (h.generatingFor ▸ other)).trans (h.codes method old other)
  placeholders placeholder member old other :=
    h'.placeholders placeholder (h.placeholders placeholder member old other) (Nat.lt_of_lt_of_le old h.methods)
      (h.generatingFor ▸ other)

theorem emit (h : Extends first before) (instruction : Instruction) : Extends first (before.emit instruction) :=
  h.trans ⟨rfl,Nat.le_refl _,fun _ _ other => Function.update_of_ne other _ _,fun _ member _ _ => member⟩

theorem emitPlaceholder (h : Extends first before) (instruction : Instruction) :
    Extends first (before.emitPlaceholder instruction) :=
  h.trans ⟨rfl,Nat.le_refl _,fun _ _ other => Function.update_of_ne other _ _,
    fun _ member _ _ => List.mem_cons_of_mem _ member⟩

theorem paste (h : Extends first before) (target offset : Nat) : Extends first (before.paste target offset) := by
  refine h.trans ⟨rfl,Nat.le_refl _,fun _ _ other => Function.update_of_ne other _ _,?_⟩
  intro placeholder member old other
  refine List.mem_filter.mpr ⟨member,?_⟩
  rw [decide_eq_true_iff]
  rintro rfl
  exact other rfl

theorem pasteAll (h : Extends first before) (offsets : List Nat) (target : Nat) :
    Extends first (before.pasteAll offsets target) := by
  induction offsets generalizing before with
  | nil => exact h
  | cons offset offsets ih => exact ih (h.paste target offset)

theorem restack (h : Extends first before) (loops : List LoopScope) (clauses : List (List Nat))
    (deferScopes : List Emitter.DeferScope) (diagnostics : List String) :
    Extends first { before with
      loops := loops, clauses := clauses, deferScopes := deferScopes, diagnostics := diagnostics } :=
  h.trans ⟨rfl,Nat.le_refl _,fun _ _ _ => rfl,fun _ member _ _ => member⟩

theorem emitDrain (h : Extends first before) (count : Nat) : Extends first (before.emitDrain count) := by
  unfold AbstractEmiter.emitDrain
  split
  · exact h.emit _
  · exact h

theorem leaveBlock (h : Extends first before) : Extends first before.leaveBlock := by
  have drained : Extends first before.emitCurrentScopeDefers := by
    unfold AbstractEmiter.emitCurrentScopeDefers
    split
    · exact h
    · exact (h.emitDrain _).restack _ _ _ _
  exact drained.restack _ _ _ _

theorem enterBlock (h : Extends first before) (isLoop : Bool) : Extends first (before.enterBlock isLoop) :=
  h.restack _ _ _ _

theorem enterLoop (h : Extends first before) : Extends first before.enterLoop := h.restack _ _ _ _

theorem jumpToLoopEnd (h : Extends first before) (instruction : Instruction) :
    Extends first (before.jumpToLoopEnd instruction) := (h.emitPlaceholder instruction).restack _ _ _ _

theorem jumpToClauseEnd (h : Extends first before) : Extends first before.jumpToClauseEnd :=
  (h.emitPlaceholder _).restack _ _ _ _

theorem countDefer (h : Extends first before) : Extends first before.countDefer := h.restack _ _ _ _

theorem closeLoop (h : Extends first before) (loopStart : Nat) : Extends first (before.closeLoop loopStart) :=
  ((((h.emit _).pasteAll _ _).pasteAll _ _)).restack _ _ _ _

theorem closeSwitch (h : Extends first before) : Extends first before.closeSwitch :=
  (h.pasteAll _ _).restack _ _ _ _

theorem closure (h : Extends before.enterClosure after) : Extends before (before.leaveClosure after) where
  generatingFor := rfl
  methods := Nat.le_of_succ_le h.methods
  codes method old _ := h.codes method (Nat.lt_succ_of_lt old) (Nat.ne_of_lt old)
  placeholders placeholder member old _ :=
    h.placeholders placeholder member (Nat.lt_succ_of_lt old) (Nat.ne_of_lt old)

end Extends

theorem visit_extends {kind : Kind} (node : Node kind) {first emiter : AbstractEmiter} (h : Extends first emiter) :
    Extends first (node.visit emiter) := by
  induction node generalizing first emiter with
  | skip | empty | noNext | noCase => exact h
  | op instruction data => exact h.emit _
  | rethrow | noCatch => exact h.emit _
  | seq left right ihLeft ihRight => exact ihRight (ihLeft h)
  | branch condition whenTrue whenFalse ihCondition ihTrue ihFalse =>
    have jumped := (ihTrue ((ihCondition h).emitPlaceholder (.jumpFalse 0))).emitPlaceholder (.jump 0)
    exact ((ihFalse jumped).paste _ _).paste _ _
  | always arm rest ihArm ihRest => exact (ihRest ((ihArm h).emitPlaceholder _)).paste _ _
  | lambda body ih =>
    have bodied := (ih ((Extends.refl emiter.enterClosure).enterBlock false)).leaveBlock
    exact h.trans (bodied.emit _).closure
  | simple expression ih => exact ih h
  | returnStatement value ih => exact (((ih h).emitDrain _).restack _ _ _ _).emit _
  | throwStatement exception ih => exact (ih h).emit _
  | breakStatement =>
    simp only [Node.visit]
    split
    · exact h.restack _ _ _ _
    · exact ((h.emitDrain _).restack _ _ _ _).jumpToLoopEnd _
  | continueStatement =>
    simp only [Node.visit]
    split
    · exact h.restack _ _ _ _
    · exact (h.emitPlaceholder _).restack _ _ _ _
  | whileStatement condition body ihCondition ihBody =>
    have tested := (ihCondition h.enterLoop).jumpToLoopEnd (.jumpFalse 0)
    exact (ihBody (tested.enterBlock true)).leaveBlock.closeLoop _
  | untilStatement condition body ihCondition ihBody =>
    have tested := (ihCondition h.enterLoop).jumpToLoopEnd (.jumpTrue 0)
    exact (ihBody (tested.enterBlock true)).leaveBlock.closeLoop _
  | forStatement initializer condition afterRepeat body ihInitializer ihCondition ihRepeat ihBody =>
    have tested := (ihCondition (ihInitializer h.enterLoop)).jumpToLoopEnd (.jumpFalse 0)
    exact (ihRepeat (ihBody (tested.enterBlock true)).leaveBlock).closeLoop _
  | enumeration forEach start moveNext current body ihStart ihMove ihCurrent ihBody =>
    have tested := (ihMove (ihStart h.enterLoop)).jumpToLoopEnd (.jumpFalse 0)
    exact (ihBody ((ihCurrent tested).enterBlock _)).leaveBlock.closeLoop _
  | conditional chain ih =>
    have chained := ih (h.restack emiter.loops ([] :: emiter.clauses) emiter.deferScopes emiter.diagnostics)
    exact (chained.pasteAll _ _).restack _ _ _ _
  | switchStatement scrutinee cases ihScrutinee ihCases =>
    simp only [Node.visit]
    split
    · exact h
    · exact (ihCases (ihScrutinee h).enterLoop).closeSwitch
  | tryStatement body catches ihBody ihCatches =>
    simp only [Node.visit]
    split
    · exact (ihBody (h.enterBlock false)).leaveBlock
    · have bodied := (ihBody ((h.emitPlaceholder (.enterTry 0)).enterBlock false)).leaveBlock
      have jumped := (bodied.emit .leaveTry).emitPlaceholder (.jump 0)
      exact ((ihCatches (jumped.paste _ _)).emit _).paste _ _
  | deferStatement resource statement ihResource ihStatement =>
    simp only [Node.visit]
    split
    · exact h.restack _ _ _ _
    · have jumped := ((ihResource h).countDefer.emitPlaceholder (.defer 0)).emitPlaceholder (.jump 0)
      exact (((ihStatement jumped).emit _).paste _ _).paste _ _
  | cons statement rest ihStatement ihRest => exact ihRest (ihStatement h)
  | ifClause negated condition body next ihCondition ihBody ihNext =>
    have tested := (ihCondition h).emitPlaceholder (if negated then .jumpTrue 0 else .jumpFalse 0)
    have bodied := (ihBody (tested.enterBlock false)).leaveBlock
    simp only [Node.visit]
    split
    · exact bodied.paste _ _
    · exact ihNext (bodied.jumpToClauseEnd.paste _ _)
  | elseClause body ih => exact (ih (h.enterBlock false)).leaveBlock
  | elseIf clause ih => exact ih h
  | defaultClause body rest ihBody ihRest =>
    have bodied := (ihBody (h.enterBlock false)).leaveBlock
    exact (ihRest (bodied.emitPlaceholder _)).paste _ _
  | caseClause test bind body rest ihTest ihBind ihBody ihRest
  | catchClause test bind body rest ihTest ihBind ihBody ihRest =>
    have bound := ihBind ((ihTest h).emitPlaceholder (.jumpFalse 0))
    have jumped := (ihBody (bound.enterBlock false)).leaveBlock.emitPlaceholder (.jump 0)
    exact (ihRest (jumped.paste _ _)).paste _ _
  | catchAll bind body rest ihBind ihBody ihRest =>
    have bodied := (ihBody ((ihBind h).enterBlock false)).leaveBlock
    exact (ihRest (bodied.emitPlaceholder _)).paste _ _

end ShardScript.Closures
