import ShardScript.Closures.Tracking
import ShardScript.Closures.Extension

/-! Integrity of the backpatching of whole programs. -/
namespace ShardScript.Closures
open ByteCode

structure Lost (region : Region) (emiter : AbstractEmiter) : Prop where
  method : emiter.generatingFor = region.method
  active : region.method ∈ region.active
  fresh : ∀ method ∈ region.active, method < emiter.methods
  left : ∃ placeholder ∈ emiter.placeholders, placeholder.1 < emiter.methods ∧ placeholder.1 ∉ region.active

def Tracked (region : Region) (owed : List Nat) (isSpoiled : Bool) (emiter : AbstractEmiter) : Prop :=
  if isSpoiled then (∃ dropped, dropped ≠ [] ∧ Tracks region owed dropped emiter) ∨ Lost region emiter
  else Tracks region owed [] emiter

section Tracked
variable {region inner : Region} {owed other : List Nat} {isSpoiled : Bool} {emiter next : AbstractEmiter}

theorem Lost.extends (h : Lost region emiter) (further : Extends emiter next) (method : inner.method = region.method)
    (active : inner.active = region.active) : Lost inner next := by
  obtain ⟨placeholder,member,old,finished⟩ := h.left
  have different : placeholder.1 ≠ emiter.generatingFor := by
    rw [h.method]
    rintro same
    exact finished (same ▸ h.active)
  refine ⟨further.generatingFor.trans (h.method.trans method.symm),?_,?_,placeholder,
    further.placeholders placeholder member old different,Nat.lt_of_lt_of_le old further.methods,?_⟩
  · rw [active,method]
    exact h.active
  · rw [active]
    exact fun method member => Nat.lt_of_lt_of_le (h.fresh method member) further.methods
  · rw [active]
    exact finished

namespace Tracked

theorem step (h : Tracked region owed isSpoiled emiter) (method : inner.method = region.method)
    (active : inner.active = region.active) (further : Extends emiter next)
    (tracks : ∀ {dropped}, Tracks region owed dropped emiter → Tracks inner other dropped next) :
    Tracked inner other isSpoiled next := by
  unfold Tracked at h ⊢
  split
  · rename_i spoiled
    rw [if_pos spoiled] at h
    obtain ⟨dropped,nonempty,tracked⟩ | lost := h
    · exact .inl ⟨dropped,nonempty,tracks tracked⟩
    · exact .inr (lost.extends further method active)
  · rename_i clean
    rw [if_neg clean] at h
    exact tracks h

variable (h : Tracked region owed isSpoiled emiter)
include h

theorem emit (instruction : Instruction) : Tracked region owed isSpoiled (emiter.emit instruction) :=
  h.step rfl rfl ((Extends.refl _).emit _) fun tracks => tracks.emit _

theorem report (message : String) : Tracked region owed isSpoiled (emiter.report message) :=
  h.step rfl rfl ((Extends.refl _).restack _ _ _ _) fun tracks => tracks.withDefers rfl _

theorem countDefer : Tracked region owed isSpoiled emiter.countDefer :=
  h.step rfl rfl (Extends.refl _).countDefer fun tracks => tracks.withDefers List.length_modifyHead _

theorem emitAllDefers : Tracked region owed isSpoiled emiter.emitAllDefers :=
  h.step rfl rfl (((Extends.refl _).emitDrain _).restack _ _ _ _) fun tracks => tracks.emitAllDefers

theorem emitPlaceholder (instruction : Instruction) (operand : hasJumpOperand instruction) :
    Tracked region (emiter.size :: owed) isSpoiled (emiter.emitPlaceholder instruction) :=
  h.step rfl rfl ((Extends.refl _).emitPlaceholder _) fun tracks => tracks.emitPlaceholder operand

theorem enterBlock (isLoop : Bool) : Tracked region.block owed isSpoiled (emiter.enterBlock isLoop) :=
  h.step rfl rfl ((Extends.refl _).enterBlock _) fun tracks => tracks.enterBlock isLoop

theorem enterLoop (scope : Scope) : Tracked (region.push scope) owed isSpoiled emiter.enterLoop :=
  h.step rfl rfl (Extends.refl _).enterLoop fun tracks => tracks.enterLoop scope

theorem enterClauses : Tracked region.chain owed isSpoiled emiter.enterClauses :=
  h.step rfl rfl ((Extends.refl _).restack _ _ _ _) fun tracks => tracks.enterClauses

theorem jumpToClauseEnd (opened : region.chains ≠ 0) : Tracked region owed isSpoiled emiter.jumpToClauseEnd :=
  h.step rfl rfl (Extends.refl _).jumpToClauseEnd fun tracks => tracks.jumpToClauseEnd opened

omit h in
theorem paste {offset : Nat} (h : Tracked region (offset :: owed) isSpoiled emiter) (target : Nat) :
    Tracked region owed isSpoiled (emiter.paste target offset) :=
  h.step rfl rfl ((Extends.refl _).paste _ _) fun tracks => tracks.paste target

omit h in
theorem pasteEarlier {later offset : Nat} (h : Tracked region (later :: offset :: owed) isSpoiled emiter) (target : Nat) :
    Tracked region (later :: owed) isSpoiled (emiter.paste target offset) := by
  refine h.step rfl rfl ((Extends.refl _).paste _ _) fun tracks => (tracks.reorder ?_).paste target
  intro other
  simp only [List.mem_cons]
  tauto

omit h in
theorem leaveBlock (h : Tracked region.block owed isSpoiled emiter) : Tracked region owed isSpoiled emiter.leaveBlock :=
  h.step rfl rfl (Extends.refl _).leaveBlock fun tracks => tracks.leaveBlock

omit h in
theorem jumpToLoopEnd {scope : Scope} (h : Tracked (region.push scope) owed isSpoiled emiter)
    (instruction : Instruction) (operand : hasJumpOperand instruction) :
    Tracked (region.push scope) owed isSpoiled (emiter.jumpToLoopEnd instruction) :=
  h.step rfl rfl ((Extends.refl _).jumpToLoopEnd _) fun tracks => tracks.jumpToLoopEnd operand

omit h in
theorem closeLoop (h : Tracked (region.push .loop) owed isSpoiled emiter) (loopStart : Nat) :
    Tracked region owed isSpoiled (emiter.closeLoop loopStart) :=
  h.step rfl rfl ((Extends.refl _).closeLoop _) fun tracks => tracks.closeLoop loopStart

omit h in
theorem closeSwitch (h : Tracked (region.push .switch) owed isSpoiled emiter) :
    Tracked region owed isSpoiled emiter.closeSwitch :=
  h.step rfl rfl (Extends.refl _).closeSwitch fun tracks => tracks.closeSwitch

omit h in
theorem leaveClauses (h : Tracked region.chain owed isSpoiled emiter) :
    Tracked region owed isSpoiled emiter.leaveClauses :=
  h.step rfl rfl (((Extends.refl _).pasteAll _ _).restack _ _ _ _) fun tracks => tracks.leaveClauses

theorem tracks_or_lost :
    (∃ dropped, (isSpoiled = true ↔ dropped ≠ []) ∧ Tracks region owed dropped emiter) ∨
      isSpoiled = true ∧ Lost region emiter := by
  unfold Tracked at h
  split at h
  · rename_i spoiled
    obtain ⟨dropped,nonempty,tracks⟩ | lost := h
    · exact .inl ⟨dropped,⟨fun _ => nonempty,fun _ => spoiled⟩,tracks⟩
    · exact .inr ⟨spoiled,lost⟩
  · rename_i clean
    exact .inl ⟨[],by simp [clean],h⟩

omit h in
theorem of_tracks {dropped : List Nat} (spoiled : isSpoiled = true ↔ dropped ≠ []) (tracks : Tracks region owed dropped emiter) :
    Tracked region owed isSpoiled emiter := by
  unfold Tracked
  split
  · rename_i isSpoiled
    exact .inl ⟨dropped,spoiled.mp isSpoiled,tracks⟩
  · rename_i clean
    obtain rfl : dropped = [] := by
      by_contra nonempty
      exact clean (spoiled.mpr nonempty)
    exact tracks

omit h in
theorem of_lost (lost : Lost region emiter) : Tracked region owed true emiter := .inr lost

end Tracked

theorem Region.push_of_cons {scope : Scope} {scopes : List Scope} (opened : region.scopes = scope :: scopes) :
    region = Region.push scope { region with scopes := scopes } := by
  cases region
  cases opened
  rfl

variable {dropped : List Nat}

theorem Tracks.loops_isEmpty (h : Tracks region owed dropped emiter) :
    emiter.loops.isEmpty = (region.scopes.isEmpty && region.outerLoops.isEmpty) := by
  have opened := h.open_loops
  have outer := h.outer_isEmpty
  cases scopes : region.scopes with
  | nil =>
    rw [scopes] at outer
    exact outer
  | cons scope rest =>
    rw [scopes] at opened
    cases loops : emiter.loops with
    | nil =>
      rw [loops] at opened
      cases opened
    | cons loop others => rfl

theorem Tracks.spoils (h : Tracks region owed dropped emiter) (keep : LoopScope → LoopScope)
    (aside : owedLoops region.scopes (emiter.loops.modifyHead keep) = owedLoops region.scopes emiter.loops)
    (isSpoiled : Bool) : Tracked region owed (isSpoiled || !false)
      { emiter.emitPlaceholder (.jump 0) with loops := emiter.loops.modifyHead keep } := by
  rw [Bool.not_false,Bool.or_true]
  exact .inl ⟨_,List.cons_ne_nil _ _,h.lose rfl keep aside⟩

theorem Tracked.breakStatement (h : Tracked region owed isSpoiled emiter) :
    Tracked region owed (isSpoiled || !Node.breakStatement.isPatchable region.scopes.head? region.isNested)
      (Node.breakStatement.visit emiter) := by
  obtain ⟨dropped,spoiled,tracks⟩ | ⟨rfl,lost⟩ := h.tracks_or_lost
  · have empty := tracks.loops_isEmpty
    have drained := tracks.emitDefersUntilLoop
    simp only [Node.visit,empty]
    cases scopes : region.scopes with
    | cons scope rest =>
      rw [Region.push_of_cons scopes] at drained ⊢
      rw [show (isSpoiled || !_) = isSpoiled from Bool.or_false _]
      exact .of_tracks spoiled (drained.jumpToLoopEnd rfl)
    | nil =>
      cases outer : region.outerLoops with
      | nil =>
        simp only [Region.isNested,outer]
        rw [show (isSpoiled || !_) = isSpoiled from Bool.or_false _]
        exact h.report _
      | cons loop others =>
        simp only [Region.isNested,outer]
        refine drained.spoils _ ?_ isSpoiled
        rw [scopes]
        rfl
  · exact .of_lost (lost.extends (visit_extends _ (.refl _)) rfl rfl)

theorem Tracked.continueStatement (h : Tracked region owed isSpoiled emiter) :
    Tracked region owed (isSpoiled || !Node.continueStatement.isPatchable region.scopes.head? region.isNested)
      (Node.continueStatement.visit emiter) := by
  obtain ⟨dropped,spoiled,tracks⟩ | ⟨rfl,lost⟩ := h.tracks_or_lost
  · have empty := tracks.loops_isEmpty
    simp only [Node.visit,empty]
    cases scopes : region.scopes with
    | cons scope rest =>
      cases scope with
      | loop =>
        rw [show (isSpoiled || !_) = isSpoiled from Bool.or_false _]
        refine .of_tracks spoiled ((tracks.emitPlaceholder rfl).keepInLoop scopes _ ?_)
        intro loop other
        simp only [Scope.owed,List.mem_append,List.mem_singleton]
        tauto
      | switch =>
        refine tracks.spoils _ ?_ isSpoiled
        rw [scopes]
        cases emiter.loops with
        | nil => rfl
        | cons loop loops => rfl
    | nil =>
      cases outer : region.outerLoops with
      | nil =>
        simp only [Region.isNested,outer]
        rw [show (isSpoiled || !_) = isSpoiled from Bool.or_false _]
        exact h.report _
      | cons loop others =>
        simp only [Region.isNested,outer]
        refine tracks.spoils _ ?_ isSpoiled
        rw [scopes]
        rfl
  · exact .of_lost (lost.extends (visit_extends _ (.refl _)) rfl rfl)

def Region.closure (region : Region) (emiter : AbstractEmiter) : Region where
  method := emiter.methods
  scopes := []
  chains := 0
  blocks := 0
  active := emiter.methods :: region.active
  outerLoops := emiter.loops
  outerClauses := emiter.clauses
  outerPlaceholders := emiter.placeholders
  outerCodes := emiter.codes
  outerMethods := emiter.methods

theorem not_awaited_closure (region : Region) (emiter closing : AbstractEmiter) (offset : Nat) :
    ¬ Awaited (region.closure emiter) [] closing offset := by
  rintro (owed | loop | clause)
  · cases owed
  · cases loop
  · cases clause

theorem Tracks.enterClosure (h : Tracks region owed dropped emiter) :
    Tracks (region.closure emiter) [] [] emiter.enterClosure where
  method := rfl
  active := List.mem_cons_self
  blocks := rfl
  fresh := List.forall_mem_cons.mpr ⟨Nat.lt_succ_self _,fun method member => Nat.lt_succ_of_lt (h.fresh method member)⟩
  younger := Nat.le_succ _
  open_loops := Nat.zero_le _
  outer_isEmpty := rfl
  outer_loops _ := rfl
  open_clauses := Nat.zero_le _
  outer_clauses := rfl
  known placeholder member := Nat.lt_succ_of_lt (h.known placeholder member)
  others _ _ _ := Iff.rfl
  frozen _ _ _ := rfl
  proper := h.proper
  kept _ member := absurd (h.known _ member) (Nat.lt_irrefl _)
  valid offset waits := absurd waits (not_awaited_closure region emiter _ offset)
  left _ member := nomatch member

theorem Tracks.leaveClosure (h : Tracks region owed dropped emiter)
    (closed : Tracks (region.closure emiter) [] [] next) : Tracks region owed dropped (emiter.leaveClosure next) := by
  have old : region.method < emiter.methods := h.fresh _ h.active
  have loops : next.loops = emiter.loops := closed.outer_loops rfl
  have clauses : next.clauses = emiter.clauses := closed.outer_clauses
  have awaited : ∀ offset, Awaited region owed (emiter.leaveClosure next) offset ↔ Awaited region owed emiter offset := by
    intro offset
    change offset ∈ owed ∨ offset ∈ owedLoops region.scopes next.loops ∨
      offset ∈ (next.clauses.take region.chains).flatten ↔ _
    rw [loops,clauses]
    rfl
  have placed : ∀ offset, (region.method,offset) ∈ next.placeholders ↔ (region.method,offset) ∈ emiter.placeholders :=
    fun offset => closed.others region.method offset (Nat.ne_of_lt old)
  have code : (emiter.leaveClosure next).code = emiter.code := by
    change next.codes emiter.generatingFor = emiter.codes emiter.generatingFor
    rw [h.method]
    exact closed.frozen region.method old (Nat.ne_of_lt old)
  constructor
  · exact h.method
  · exact h.active
  · exact h.blocks
  · exact fun method member => closed.fresh method (List.mem_cons_of_mem _ member)
  · exact Nat.le_trans h.younger closed.younger
  · exact loops ▸ h.open_loops
  · exact loops ▸ h.outer_isEmpty
  · exact loops ▸ h.outer_loops
  · exact clauses ▸ h.open_clauses
  · exact clauses ▸ h.outer_clauses
  · exact closed.known
  · intro method offset ne
    by_cases closure : method = emiter.methods
    · subst closure
      rw [← h.others _ offset ne]
      constructor
      · intro member
        obtain waits | gone := closed.kept offset member
        · exact absurd waits (not_awaited_closure region emiter next offset)
        · cases gone
      · intro member
        exact absurd (h.known _ member) (Nat.lt_irrefl _)
    · exact (closed.others method offset closure).trans (h.others method offset ne)
  · intro method older ne
    have bound : method < emiter.methods := Nat.lt_of_lt_of_le older h.younger
    exact (closed.frozen method bound (Nat.ne_of_lt bound)).trans (h.frozen method older ne)
  · exact closed.proper
  · exact fun offset member => (h.kept offset ((placed offset).mp member)).imp_left (awaited offset).mpr
  · intro offset waits
    rw [code]
    exact h.valid offset ((awaited offset).mp waits)
  · intro offset member
    obtain ⟨placeholder,bound,apart⟩ := h.left offset member
    refine ⟨(placed offset).mpr placeholder,?_,fun waits => apart ((awaited offset).mp waits)⟩
    rw [AbstractEmiter.size,code]
    exact bound

theorem lost_of_closure {isSpoiled : Bool} (method : emiter.generatingFor = region.method)
    (active : region.method ∈ region.active) (fresh : ∀ method ∈ region.active, method < emiter.methods)
    (closed : Tracked (region.closure emiter) [] isSpoiled next) (spoiled : isSpoiled = true) :
    Lost region (emiter.leaveClosure next) := by
  subst spoiled
  obtain ⟨dropped,nonempty,tracks⟩ | lost := closed
  · obtain ⟨offset,member⟩ := List.exists_mem_of_ne_nil dropped nonempty
    refine ⟨method,active,fun method member => tracks.fresh method (List.mem_cons_of_mem _ member),(emiter.methods,offset),
      (tracks.left offset member).1,tracks.fresh _ List.mem_cons_self,?_⟩
    intro member
    exact Nat.lt_irrefl _ (fresh _ member)
  · obtain ⟨placeholder,member,old,finished⟩ := lost.left
    refine ⟨method,active,fun method member => lost.fresh method (List.mem_cons_of_mem _ member),placeholder,member,old,?_⟩
    exact fun member => finished (List.mem_cons_of_mem _ member)

theorem Tracked.lambda {body : Node .block} (h : Tracked region owed isSpoiled emiter)
    (visited : ∀ {isSpoiled}, Tracked (region.closure emiter).block [] isSpoiled (emiter.enterClosure.enterBlock false) →
      Tracked (region.closure emiter).block [] (isSpoiled || !body.isPatchable none !emiter.loops.isEmpty)
        (body.visit (emiter.enterClosure.enterBlock false))) :
    Tracked region owed (isSpoiled || !(Node.lambda body).isPatchable region.scopes.head? region.isNested)
      ((Node.lambda body).visit emiter) := by
  obtain ⟨dropped,spoiled,tracks⟩ | ⟨rfl,lost⟩ := h.tracks_or_lost
  · have nested : (region.scopes.head?.isSome || region.isNested) = !emiter.loops.isEmpty := by
      rw [tracks.loops_isEmpty,Region.isNested,Bool.not_and]
      cases region.scopes with
      | nil => rfl
      | cons scope scopes => rfl
    rw [Node.isPatchable,nested]
    have entered : Tracked (region.closure emiter) [] false emiter.enterClosure := tracks.enterClosure
    have closed := (visited (entered.enterBlock false)).leaveBlock.emit .return
    rw [Bool.false_or] at closed
    cases patchable : body.isPatchable none !emiter.loops.isEmpty with
    | true =>
      rw [patchable] at closed
      rw [Bool.not_true,Bool.or_false]
      exact .of_tracks spoiled (tracks.leaveClosure closed)
    | false =>
      rw [patchable] at closed
      rw [Bool.not_false,Bool.or_true]
      exact .of_lost (lost_of_closure tracks.method tracks.active tracks.fresh closed rfl)
  · exact .of_lost (lost.extends (visit_extends _ (.refl _)) rfl rfl)

end Tracked

def Kind.needsChain : Kind → Bool
  | clause | next => true
  | _ => false

structure Region.Suits (region : Region) (kind : Kind) : Prop where
  blocks : region.blocks ≠ 0
  chains : kind.needsChain → region.chains ≠ 0

namespace Region
variable {region : Region}

theorem Suits.part {kind other : Kind} (suits : region.Suits kind) (plain : other.needsChain = false) : region.Suits other :=
  ⟨suits.blocks,fun needs => absurd needs (by rw [plain]; exact Bool.false_ne_true)⟩

theorem Suits.push {kind other : Kind} (suits : region.Suits kind) (scope : Scope) (plain : other.needsChain = false) :
    (region.push scope).Suits other :=
  ⟨suits.blocks,fun needs => absurd needs (by rw [plain]; exact Bool.false_ne_true)⟩

theorem suits_block : region.block.Suits .block := ⟨Nat.succ_ne_zero _,nofun⟩

theorem Suits.chain {kind : Kind} (suits : region.Suits kind) : region.chain.Suits .clause :=
  ⟨suits.blocks,fun _ => Nat.succ_ne_zero _⟩

end Region

theorem visit_tracked {kind : Kind} (node : Node kind) {region : Region} {owed : List Nat} {isSpoiled : Bool}
    {emiter : AbstractEmiter} (suits : region.Suits kind)
    (h : Tracked region owed isSpoiled emiter) :
    Tracked region owed (isSpoiled || !node.isPatchable region.scopes.head? region.isNested) (node.visit emiter) := by
  induction node generalizing region owed isSpoiled emiter with
  | skip | empty | noNext | noCase =>
    rw [show (isSpoiled || !_) = isSpoiled from Bool.or_false _]
    exact h
  | op | rethrow | noCatch =>
    rw [show (isSpoiled || !_) = isSpoiled from Bool.or_false _]
    exact h.emit _
  | breakStatement => exact h.breakStatement
  | continueStatement => exact h.continueStatement
  | lambda body ih => exact h.lambda fun entered => ih Region.suits_block entered
  | simple expression ih => exact ih (suits.part rfl) h
  | seq left right ihLeft ihRight | cons left right ihLeft ihRight =>
    simp only [Node.isPatchable,Bool.not_and,← Bool.or_assoc]
    exact ihRight (suits.part rfl) (ihLeft (suits.part rfl) h)
  | branch condition whenTrue whenFalse ihCondition ihTrue ihFalse =>
    simp only [Node.isPatchable,Bool.not_and,← Bool.or_assoc]
    have tested := (ihCondition (suits.part rfl) h).emitPlaceholder (.jumpFalse 0) rfl
    have jumped := (ihTrue (suits.part rfl) tested).emitPlaceholder (.jump 0) rfl
    exact ((ihFalse (suits.part rfl) jumped).pasteEarlier _).paste _
  | always arm rest ihArm ihRest =>
    simp only [Node.isPatchable,Bool.not_and,← Bool.or_assoc]
    exact (ihRest (suits.part rfl) ((ihArm (suits.part rfl) h).emitPlaceholder _ rfl)).paste _
  | returnStatement value ih => exact (ih (suits.part rfl) h).emitAllDefers.emit _
  | throwStatement exception ih => exact (ih (suits.part rfl) h).emit _
  | whileStatement condition body ihCondition ihBody =>
    simp only [Node.isPatchable,Bool.not_and,← Bool.or_assoc]
    have tested := (ihCondition (suits.push .loop rfl) (h.enterLoop .loop)).jumpToLoopEnd (.jumpFalse 0) rfl
    exact (ihBody Region.suits_block (tested.enterBlock true)).leaveBlock.closeLoop _
  | untilStatement condition body ihCondition ihBody =>
    simp only [Node.isPatchable,Bool.not_and,← Bool.or_assoc]
    have tested := (ihCondition (suits.push .loop rfl) (h.enterLoop .loop)).jumpToLoopEnd (.jumpTrue 0) rfl
    exact (ihBody Region.suits_block (tested.enterBlock true)).leaveBlock.closeLoop _
  | forStatement initializer condition afterRepeat body ihInitializer ihCondition ihRepeat ihBody =>
    simp only [Node.isPatchable,Bool.not_and,← Bool.or_assoc]
    have tested := (ihCondition (suits.push .loop rfl) (ihInitializer (suits.push .loop rfl) (h.enterLoop .loop))).jumpToLoopEnd (.jumpFalse 0) rfl
    exact (ihRepeat (suits.push .loop rfl) (ihBody Region.suits_block (tested.enterBlock true)).leaveBlock).closeLoop _
  | enumeration forEach start moveNext current body ihStart ihMove ihCurrent ihBody =>
    simp only [Node.isPatchable,Bool.not_and,← Bool.or_assoc]
    have tested := (ihMove (suits.push .loop rfl) (ihStart (suits.push .loop rfl) (h.enterLoop .loop))).jumpToLoopEnd (.jumpFalse 0) rfl
    exact (ihBody Region.suits_block ((ihCurrent (suits.push .loop rfl) tested).enterBlock _)).leaveBlock.closeLoop _
  | conditional chain ih => exact (ih suits.chain h.enterClauses).leaveClauses
  | switchStatement scrutinee cases ihScrutinee ihCases =>
    simp only [Node.visit,Node.isPatchable]
    cases cases.isNoCase with
    | true =>
      rw [show (isSpoiled || !_) = isSpoiled from Bool.or_false _]
      exact h
    | false =>
      simp only [Bool.false_or,Bool.not_and,← Bool.or_assoc]
      exact (ihCases (suits.push .switch rfl) ((ihScrutinee (suits.part rfl) h).enterLoop .switch)).closeSwitch
  | tryStatement body catches ihBody ihCatches =>
    simp only [Node.visit,Node.isPatchable,Bool.not_and,← Bool.or_assoc]
    split
    · rename_i alone
      cases catches with
      | noCatch =>
        rw [show (_ || !_) = (isSpoiled || _) from Bool.or_false _]
        exact (ihBody Region.suits_block (h.enterBlock false)).leaveBlock
      | _ => cases alone
    · have bodied := (ihBody Region.suits_block ((h.emitPlaceholder (.enterTry 0) rfl).enterBlock false)).leaveBlock
      have jumped := (bodied.emit .leaveTry).emitPlaceholder (.jump 0) rfl
      exact ((ihCatches (suits.part rfl) (jumped.pasteEarlier _)).emit .endCatch).paste _
  | deferStatement resource statement ihResource ihStatement =>
    simp only [Node.visit,Node.isPatchable,Bool.not_and,← Bool.or_assoc]
    split
    · rename_i outside
      obtain ⟨dropped,spoiled,tracks⟩ | ⟨rfl,lost⟩ := h.tracks_or_lost
      · rw [List.isEmpty_iff_length_eq_zero,tracks.blocks] at outside
        exact absurd outside suits.blocks
      · exact .of_lost (lost.extends ((Extends.refl _).restack _ _ _ _) rfl rfl)
    · have counted := (ihResource (suits.part rfl) h).countDefer
      have jumped := (counted.emitPlaceholder (.defer 0) rfl).emitPlaceholder (.jump 0) rfl
      exact (((ihStatement (suits.part rfl) jumped).emit _).pasteEarlier _).paste _
  | ifClause negated condition body next ihCondition ihBody ihNext =>
    simp only [Node.visit,Node.isPatchable,Bool.not_and,← Bool.or_assoc]
    have operand : hasJumpOperand (if negated then .jumpTrue 0 else .jumpFalse 0) := by
      cases negated with
      | true => rfl
      | false => rfl
    have tested := (ihCondition (suits.part rfl) h).emitPlaceholder _ operand
    have bodied := (ihBody Region.suits_block (tested.enterBlock false)).leaveBlock
    split
    · rename_i last
      cases next with
      | noNext =>
        rw [show (_ || !_) = ((isSpoiled || _) || _) from Bool.or_false _]
        exact bodied.paste _
      | _ => cases last
    · exact ihNext ⟨suits.blocks,suits.chains⟩ ((bodied.jumpToClauseEnd (suits.chains rfl)).paste _)
  | elseClause body ih => exact (ih Region.suits_block (h.enterBlock false)).leaveBlock
  | elseIf clause ih => exact ih ⟨suits.blocks,suits.chains⟩ h
  | defaultClause body rest ihBody ihRest =>
    simp only [Node.isPatchable,Bool.not_and,← Bool.or_assoc]
    have bodied := (ihBody Region.suits_block (h.enterBlock false)).leaveBlock
    exact (ihRest (suits.part rfl) (bodied.emitPlaceholder (.jump 0) rfl)).paste _
  | caseClause test bind body rest ihTest ihBind ihBody ihRest
  | catchClause test bind body rest ihTest ihBind ihBody ihRest =>
    simp only [Node.isPatchable,Bool.not_and,← Bool.or_assoc]
    have bound := ihBind (suits.part rfl) ((ihTest (suits.part rfl) h).emitPlaceholder (.jumpFalse 0) rfl)
    have jumped := (ihBody Region.suits_block (bound.enterBlock false)).leaveBlock.emitPlaceholder (.jump 0) rfl
    exact (ihRest (suits.part rfl) (jumped.pasteEarlier _)).paste _
  | catchAll bind body rest ihBind ihBody ihRest =>
    simp only [Node.isPatchable,Bool.not_and,← Bool.or_assoc]
    have bodied := (ihBody Region.suits_block ((ihBind (suits.part rfl) h).enterBlock false)).leaveBlock
    exact (ihRest (suits.part rfl) (bodied.emitPlaceholder (.jump 0) rfl)).paste _

namespace AbstractEmiter

/-- Every `PasteData` has overwritten the operand of a jump in its code vector, and no placeholder is left. -/
structure HasIntegrity (emiter : AbstractEmiter) : Prop where
  proper : ∀ paste ∈ emiter.pastes, paste.isProper
  patched : emiter.placeholders = []

def Settled (isSpoiled : Bool) (emiter : AbstractEmiter) : Prop :=
  if isSpoiled then ∃ placeholder ∈ emiter.placeholders, placeholder.1 < emiter.methods
  else emiter.HasIntegrity ∧ emiter.loops = [] ∧ emiter.clauses = []

end AbstractEmiter

def Region.outermost : Region where
  method := 0
  scopes := []
  chains := 0
  blocks := 0
  active := []
  outerLoops := []
  outerClauses := []
  outerPlaceholders := []
  outerCodes _ := []
  outerMethods := 0

section Program
variable {isSpoiled : Bool} {emiter next : AbstractEmiter}

theorem tracked_of_settled (h : emiter.Settled isSpoiled) :
    Tracked (Region.outermost.closure emiter) [] isSpoiled emiter.enterClosure := by
  unfold AbstractEmiter.Settled at h
  unfold Tracked
  have fresh : ∀ method ∈ [emiter.methods], method < emiter.methods + 1 :=
    List.forall_mem_singleton.mpr (Nat.lt_succ_self _)
  split
  · rename_i spoiled
    rw [if_pos spoiled] at h
    obtain ⟨placeholder,member,old⟩ := h
    refine .inr ⟨rfl,List.mem_cons_self,fresh,placeholder,member,Nat.lt_succ_of_lt old,?_⟩
    exact List.not_mem_cons_of_ne_of_not_mem (Nat.ne_of_lt old) List.not_mem_nil
  · rename_i clean
    rw [if_neg clean] at h
    obtain ⟨⟨proper,patched⟩,-,-⟩ := h
    have none : ∀ placeholder, placeholder ∉ emiter.placeholders := by
      rw [patched]
      exact fun _ => List.not_mem_nil
    exact {
      method := rfl
      active := List.mem_cons_self
      blocks := rfl
      fresh := fresh
      younger := Nat.le_succ _
      open_loops := Nat.zero_le _
      outer_isEmpty := rfl
      outer_loops := fun _ => rfl
      open_clauses := Nat.zero_le _
      outer_clauses := rfl
      known := fun placeholder member => absurd member (none placeholder)
      others := fun _ _ _ => Iff.rfl
      frozen := fun _ _ _ => rfl
      proper := proper
      kept := fun _ member => absurd member (none _)
      valid := fun offset waits => absurd waits (not_awaited_closure _ emiter _ offset)
      left := fun _ member => nomatch member }

theorem settled_of_tracked (before : emiter.Settled false ∨ isSpoiled = true)
    (h : Tracked (Region.outermost.closure emiter) [] isSpoiled next) : next.Settled isSpoiled := by
  unfold AbstractEmiter.Settled
  unfold Tracked at h
  split
  · rename_i spoiled
    rw [if_pos spoiled] at h
    obtain ⟨dropped,nonempty,tracks⟩ | lost := h
    · obtain ⟨offset,member⟩ := List.exists_mem_of_ne_nil dropped nonempty
      exact ⟨_,(tracks.left offset member).1,tracks.fresh _ List.mem_cons_self⟩
    · obtain ⟨placeholder,member,old,-⟩ := lost.left
      exact ⟨placeholder,member,old⟩
  · rename_i clean
    rw [if_neg clean] at h
    obtain ⟨⟨-,patched⟩,loops,clauses⟩ := before.resolve_right clean
    refine ⟨⟨h.proper,List.eq_nil_iff_forall_not_mem.mpr ?_⟩,(h.outer_loops rfl).trans loops,
      h.outer_clauses.trans clauses⟩
    rintro ⟨method,offset⟩ member
    by_cases own : method = emiter.methods
    · subst own
      obtain waits | gone := h.kept offset member
      · exact not_awaited_closure _ emiter next offset waits
      · cases gone
    · have outer := (h.others method offset own).mp member
      change (method,offset) ∈ emiter.placeholders at outer
      rw [patched] at outer
      cases outer

theorem visitMethod_settled (h : emiter.Settled isSpoiled) (body : Node .block) :
    (emiter.visitMethod body).Settled (isSpoiled || !body.isPatchable none false) := by
  have visited := visit_tracked body Region.suits_block ((tracked_of_settled h).enterBlock false)
  have closed := visited.leaveBlock.emit .return
  cases isSpoiled with
  | true => exact settled_of_tracked (.inr rfl) closed
  | false =>
    have outside : Region.isNested (Region.block (Region.closure Region.outermost emiter)) = false := by
      change (!emiter.loops.isEmpty) = false
      rw [h.2.1]
      rfl
    rw [outside] at closed
    exact settled_of_tracked (.inl h) closed

theorem visitProgram_settled (bodies : List (Node .block)) (h : emiter.Settled isSpoiled) :
    (bodies.foldl AbstractEmiter.visitMethod emiter).Settled
      (isSpoiled || !bodies.all (Node.isPatchable none false)) := by
  induction bodies generalizing emiter isSpoiled with
  | nil =>
    rw [List.all_nil,Bool.not_true,Bool.or_false]
    exact h
  | cons body bodies ih =>
    rw [List.all_cons,Bool.not_and,← Bool.or_assoc]
    exact ih (visitMethod_settled h body)

/-- The backpatching of a program is sound just where no `break` or `continue` of a lambda expression is left to a scope
around it, and no `continue` to a `switch`. The body of a lambda expression is never emitted into another method. -/
theorem backpatch_integrity (bodies : List (Node .block)) :
    ((AbstractEmiter.visitProgram bodies).HasIntegrity ↔ ∀ body ∈ bodies, body.isPatchable none false) ∧
      ∀ (emiter : AbstractEmiter) (body : Node .block), ∀ method < emiter.methods,
        ((Node.lambda body).visit emiter).codes method = emiter.codes method := by
  constructor
  · have start : AbstractEmiter.initial.Settled false := ⟨⟨nofun,rfl⟩,rfl,rfl⟩
    have settled := visitProgram_settled bodies start
    rw [← List.all_eq_true]
    cases patchable : bodies.all (Node.isPatchable none false) with
    | true =>
      rw [patchable] at settled
      exact iff_of_true settled.1 rfl
    | false =>
      rw [patchable] at settled
      refine iff_of_false ?_ Bool.false_ne_true
      intro integrity
      obtain ⟨placeholder,member,-⟩ := settled
      change placeholder ∈ (AbstractEmiter.visitProgram bodies).placeholders at member
      rw [integrity.patched] at member
      cases member
  · intro emiter body method old
    have bodied := (visit_extends body ((Extends.refl emiter.enterClosure).enterBlock false)).leaveBlock.emit .return
    exact bodied.codes method (Nat.lt_succ_of_lt old) (Nat.ne_of_lt old)

def brokenLambda : Node .block :=
  .cons (.whileStatement (.op (.loadLocal 0)) (.cons (.simple (.seq (.lambda (.cons .breakStatement .empty))
    (.seq (.op (.newDelegate 1)) (.op (.callMethodSymbol 2))))) .empty)) .empty

/-- The `break` is accepted, its jump stays as it is, and the loop overwrites something else. -/
theorem brokenLambda_corrupted : (AbstractEmiter.visitProgram [brokenLambda]).diagnostics = [] ∧
    (AbstractEmiter.visitProgram [brokenLambda]).placeholders = [(1,0)] ∧
    (AbstractEmiter.visitProgram [brokenLambda]).pastes.any (fun paste => !paste.isProper) ∧
    ¬ (AbstractEmiter.visitProgram [brokenLambda]).HasIntegrity := by
  have left : (AbstractEmiter.visitProgram [brokenLambda]).placeholders = [(1,0)] := by decide
  refine ⟨by decide,left,by decide,?_⟩
  intro integrity
  rw [integrity.patched] at left
  cases left

end Program
end ShardScript.Closures
