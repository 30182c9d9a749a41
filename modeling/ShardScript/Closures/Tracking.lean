import ShardScript.Closures.Emission

/-! Which placeholders of the method that is generated are still awaited, and by which list of backtracks. -/
namespace ShardScript.Closures
open ByteCode

structure Region where
  method : Nat
  scopes : List Scope
  chains : Nat
  blocks : Nat
  active : List Nat
  outerLoops : List LoopScope
  outerClauses : List (List Nat)
  outerPlaceholders : List (Nat × Nat)
  outerCodes : Nat → Code
  outerMethods : Nat

namespace Region

def push (scope : Scope) (region : Region) : Region := { region with scopes := scope :: region.scopes }

def chain (region : Region) : Region := { region with chains := region.chains + 1 }

def block (region : Region) : Region := { region with blocks := region.blocks + 1 }

def isNested (region : Region) : Bool := !region.outerLoops.isEmpty

end Region

def Scope.owed : Scope → LoopScope → List Nat
  | loop,scope => scope.blockEndBacktracks ++ scope.loopEndBacktracks
  | switch,scope => scope.loopEndBacktracks

def owedLoops : List Scope → List LoopScope → List Nat
  | scope :: scopes,loop :: loops => scope.owed loop ++ owedLoops scopes loops
  | _,_ => []

def Awaited (region : Region) (owed : List Nat) (emiter : AbstractEmiter) (offset : Nat) : Prop :=
  offset ∈ owed ∨ offset ∈ owedLoops region.scopes emiter.loops ∨
    offset ∈ (emiter.clauses.take region.chains).flatten

/-- The placeholders of the method are those that are awaited, and some that no list keeps any more. -/
structure Tracks (region : Region) (owed dropped : List Nat) (emiter : AbstractEmiter) : Prop where
  method : emiter.generatingFor = region.method
  active : region.method ∈ region.active
  blocks : emiter.deferScopes.length = region.blocks
  fresh : ∀ method ∈ region.active, method < emiter.methods
  younger : region.outerMethods ≤ emiter.methods
  open_loops : region.scopes.length ≤ emiter.loops.length
  outer_isEmpty : (emiter.loops.drop region.scopes.length).isEmpty = region.outerLoops.isEmpty
  outer_loops : dropped = [] → emiter.loops.drop region.scopes.length = region.outerLoops
  open_clauses : region.chains ≤ emiter.clauses.length
  outer_clauses : emiter.clauses.drop region.chains = region.outerClauses
  known : ∀ placeholder ∈ emiter.placeholders, placeholder.1 < emiter.methods
  others : ∀ method offset, method ≠ region.method →
    ((method,offset) ∈ emiter.placeholders ↔ (method,offset) ∈ region.outerPlaceholders)
  frozen : ∀ method < region.outerMethods, method ≠ region.method → emiter.codes method = region.outerCodes method
  proper : ∀ paste ∈ emiter.pastes, paste.isProper
  kept : ∀ offset, (region.method,offset) ∈ emiter.placeholders → Awaited region owed emiter offset ∨ offset ∈ dropped
  valid : ∀ offset, Awaited region owed emiter offset →
    ∃ instruction, emiter.code.fetch offset = some instruction ∧ hasJumpOperand instruction
  left : ∀ offset ∈ dropped, (region.method,offset) ∈ emiter.placeholders ∧ offset < emiter.size ∧
    ¬ Awaited region owed emiter offset

namespace AbstractEmiter
variable (emiter : AbstractEmiter)

@[simp] theorem code_emit (instruction : Instruction) : (emiter.emit instruction).code = emiter.code ++ [instruction] := by
  simp [emit,code]

@[simp] theorem code_paste (target offset : Nat) : (emiter.paste target offset).code = emiter.code.paste offset target := by
  simp [paste,code]

theorem codes_emit {method : Nat} (ne : method ≠ emiter.generatingFor) (instruction : Instruction) :
    (emiter.emit instruction).codes method = emiter.codes method := Function.update_of_ne ne _ _

theorem codes_paste {method : Nat} (ne : method ≠ emiter.generatingFor) (target offset : Nat) :
    (emiter.paste target offset).codes method = emiter.codes method := Function.update_of_ne ne _ _

theorem leaveLoop_pasteAll (offsets : List Nat) (target : Nat) :
    (emiter.pasteAll offsets target).leaveLoop = emiter.leaveLoop.pasteAll offsets target := by
  induction offsets generalizing emiter with
  | nil => rfl
  | cons offset offsets ih => exact ih _

theorem pasteAll_withClauses (offsets : List Nat) (target : Nat) (clauses : List (List Nat)) :
    { emiter with clauses := clauses }.pasteAll offsets target =
      { emiter.pasteAll offsets target with clauses := clauses } := by
  induction offsets generalizing emiter with
  | nil => rfl
  | cons offset offsets ih => exact ih (emiter.paste target offset)

end AbstractEmiter

@[simp] theorem hasJumpOperand_withTarget (instruction : Instruction) (index target : Nat) :
    hasJumpOperand (instruction.withTarget index target) = hasJumpOperand instruction := by
  cases instruction with
  | _ => rfl

namespace Tracks
variable {region : Region} {owed dropped : List Nat} {emiter : AbstractEmiter}

theorem withDefers {deferScopes : List Emitter.DeferScope} (h : Tracks region owed dropped emiter)
    (same : deferScopes.length = emiter.deferScopes.length) (diagnostics : List String) :
    Tracks region owed dropped { emiter with deferScopes := deferScopes, diagnostics := diagnostics } :=
  ⟨h.method,h.active,same.trans h.blocks,h.fresh,h.younger,h.open_loops,h.outer_isEmpty,h.outer_loops,h.open_clauses,h.outer_clauses,h.known,
    h.others,h.frozen,h.proper,h.kept,h.valid,h.left⟩

theorem emit (h : Tracks region owed dropped emiter) (instruction : Instruction) :
    Tracks region owed dropped (emiter.emit instruction) where
  method := h.method
  active := h.active
  blocks := h.blocks
  fresh := h.fresh
  younger := h.younger
  open_loops := h.open_loops
  outer_isEmpty := h.outer_isEmpty
  outer_loops := h.outer_loops
  open_clauses := h.open_clauses
  outer_clauses := h.outer_clauses
  known := h.known
  others := h.others
  frozen method old ne := (emiter.codes_emit (h.method ▸ ne) instruction).trans (h.frozen method old ne)
  proper := h.proper
  kept := h.kept
  valid offset awaited := by
    obtain ⟨found,fetched,operand⟩ := h.valid offset awaited
    refine ⟨found,?_,operand⟩
    rw [AbstractEmiter.code_emit]
    exact Code.fetch_append_left [instruction] fetched
  left offset member := by
    obtain ⟨placeholder,bound,apart⟩ := h.left offset member
    refine ⟨placeholder,?_,apart⟩
    rw [AbstractEmiter.size,AbstractEmiter.code_emit,Code.size_append]
    exact Nat.lt_add_right _ bound

theorem enterBlock (h : Tracks region owed dropped emiter) (isLoop : Bool) :
    Tracks region.block owed dropped (emiter.enterBlock isLoop) :=
  ⟨h.method,h.active,congrArg (· + 1) h.blocks,h.fresh,h.younger,h.open_loops,h.outer_isEmpty,h.outer_loops,
    h.open_clauses,h.outer_clauses,h.known,h.others,h.frozen,h.proper,h.kept,h.valid,h.left⟩

theorem emitDrain (h : Tracks region owed dropped emiter) (count : Nat) :
    Tracks region owed dropped (emiter.emitDrain count) := by
  unfold AbstractEmiter.emitDrain
  split
  · exact h.emit _
  · exact h

theorem leaveBlock (h : Tracks region.block owed dropped emiter) : Tracks region owed dropped emiter.leaveBlock := by
  have blocks := h.blocks
  cases scopes : emiter.deferScopes with
  | nil =>
    rw [scopes] at blocks
    cases blocks
  | cons scope rest =>
    rw [scopes] at blocks
    have drained := h.emitDrain scope.count
    have left : emiter.leaveBlock = { emiter.emitDrain scope.count with deferScopes := rest } := by
      rw [AbstractEmiter.leaveBlock,AbstractEmiter.emitCurrentScopeDefers,scopes]
      rfl
    rw [left]
    exact ⟨drained.method,drained.active,Nat.succ.inj blocks,drained.fresh,drained.younger,drained.open_loops,
      drained.outer_isEmpty,drained.outer_loops,drained.open_clauses,drained.outer_clauses,drained.known,drained.others,
      drained.frozen,drained.proper,drained.kept,drained.valid,drained.left⟩

theorem length_clearCounts (scopes : List Emitter.DeferScope) : (Emitter.clearCounts scopes).length = scopes.length :=
  List.length_map _

theorem length_scopesUntilLoop (scopes : List Emitter.DeferScope) :
    (Emitter.scopesUntilLoop scopes).1.length + (Emitter.scopesUntilLoop scopes).2.length = scopes.length := by
  induction scopes with
  | nil => rfl
  | cons scope scopes ih =>
    rw [Emitter.scopesUntilLoop]
    split
    · simp [Nat.add_comm]
    · simp only [List.length_cons]
      omega

theorem deferScopes_emitDrain (emiter : AbstractEmiter) (count : Nat) :
    (emiter.emitDrain count).deferScopes = emiter.deferScopes := by
  unfold AbstractEmiter.emitDrain
  split
  · rfl
  · rfl

theorem emitDefersUntilLoop (h : Tracks region owed dropped emiter) :
    Tracks region owed dropped emiter.emitDefersUntilLoop := by
  apply (h.emitDrain _).withDefers
  rw [deferScopes_emitDrain,List.length_append,length_clearCounts]
  exact length_scopesUntilLoop _

theorem emitAllDefers (h : Tracks region owed dropped emiter) : Tracks region owed dropped emiter.emitAllDefers := by
  apply (h.emitDrain _).withDefers
  rw [deferScopes_emitDrain]
  exact length_clearCounts _

variable {instruction : Instruction}

theorem emitPlaceholder (h : Tracks region owed dropped emiter)
    (operand : hasJumpOperand instruction) :
    Tracks region (emiter.size :: owed) dropped (emiter.emitPlaceholder instruction) := by
  have emitted := h.emit instruction
  have awaited : ∀ offset, Awaited region (emiter.size :: owed) (emiter.emitPlaceholder instruction) offset ↔
      offset = emiter.size ∨ Awaited region owed emiter offset := by
    intro offset
    simp only [Awaited,List.mem_cons,or_assoc]
    exact Iff.rfl
  refine ⟨h.method,h.active,h.blocks,h.fresh,h.younger,h.open_loops,h.outer_isEmpty,h.outer_loops,h.open_clauses,h.outer_clauses,
    ?_,?_,emitted.frozen,h.proper,?_,?_,?_⟩
  · intro placeholder member
    obtain rfl | member := List.mem_cons.mp member
    · exact h.fresh _ (h.method ▸ h.active)
    · exact h.known placeholder member
  · intro method offset ne
    rw [← h.others method offset ne]
    refine ⟨fun member => ?_,List.mem_cons_of_mem _⟩
    obtain same | member := List.mem_cons.mp member
    · exact absurd ((Prod.mk.inj same).1.trans h.method) ne
    · exact member
  · intro offset member
    rw [awaited]
    obtain same | member := List.mem_cons.mp member
    · exact .inl (.inl (Prod.mk.inj same).2)
    · exact (h.kept offset member).imp_left .inr
  · intro offset waits
    obtain rfl | waits := (awaited offset).mp waits
    · refine ⟨instruction,?_,operand⟩
      change (emiter.emit instruction).code.fetch emiter.code.size = _
      rw [AbstractEmiter.code_emit]
      exact Code.fetch_size emiter.code [] instruction
    · exact emitted.valid offset waits
  · intro offset member
    obtain ⟨placeholder,bound,apart⟩ := h.left offset member
    refine ⟨List.mem_cons_of_mem _ placeholder,(emitted.left offset member).2.1,?_⟩
    rw [awaited]
    rintro (rfl | waits)
    · exact Nat.lt_irrefl _ bound
    · exact apart waits

variable {offset : Nat}

theorem paste (h : Tracks region (offset :: owed) dropped emiter) (target : Nat) :
    Tracks region owed dropped (emiter.paste target offset) := by
  have awaited : ∀ {other}, Awaited region owed (emiter.paste target offset) other →
      Awaited region (offset :: owed) emiter other := fun waits => waits.imp_left (List.mem_cons_of_mem _)
  have placed : ∀ {method other}, (method,other) ∈ (emiter.paste target offset).placeholders ↔
      (method,other) ∈ emiter.placeholders ∧ ¬ (method = region.method ∧ other = offset) := by
    intro method other
    simp [AbstractEmiter.paste,List.mem_filter,h.method,imp_iff_not_or]
  refine ⟨h.method,h.active,h.blocks,h.fresh,h.younger,h.open_loops,h.outer_isEmpty,h.outer_loops,h.open_clauses,h.outer_clauses,
    ?_,?_,?_,?_,?_,?_,?_⟩
  · exact fun placeholder member => h.known placeholder (List.mem_filter.mp member).1
  · intro method other ne
    rw [placed,h.others method other ne]
    exact and_iff_left fun same => ne same.1
  · exact fun method old ne => (emiter.codes_paste (h.method ▸ ne) target offset).trans (h.frozen method old ne)
  · intro paste member
    obtain rfl | member := List.mem_cons.mp member
    · obtain ⟨found,fetched,operand⟩ := h.valid offset (.inl List.mem_cons_self)
      rw [Paste.isProper,fetched]
      exact operand
    · exact h.proper paste member
  · intro other member
    obtain ⟨member,different⟩ := placed.mp member
    obtain (kept | kept) | gone := h.kept other member
    · exact .inl (.inl ((List.mem_cons.mp kept).resolve_left fun same => different ⟨rfl,same⟩))
    · exact .inl (.inr kept)
    · exact .inr gone
  · intro other waits
    obtain ⟨found,fetched,operand⟩ := h.valid other (awaited waits)
    rw [AbstractEmiter.code_paste,Code.fetch_paste]
    split
    · rename_i same
      subst same
      rw [fetched]
      exact ⟨_,rfl,by rw [hasJumpOperand_withTarget]; exact operand⟩
    · exact ⟨found,fetched,operand⟩
  · intro other member
    obtain ⟨placeholder,bound,apart⟩ := h.left other member
    refine ⟨placed.mpr ⟨placeholder,?_⟩,?_,fun waits => apart (awaited waits)⟩
    · rintro ⟨-,rfl⟩
      exact apart (.inl List.mem_cons_self)
    · rw [AbstractEmiter.size,AbstractEmiter.code_paste,Code.size_paste]
      exact bound

theorem reorder {other : List Nat} (h : Tracks region owed dropped emiter) (same : ∀ offset, offset ∈ owed ↔ offset ∈ other) :
    Tracks region other dropped emiter := by
  have awaited : ∀ offset, Awaited region other emiter offset ↔ Awaited region owed emiter offset :=
    fun offset => or_congr_left (same offset).symm
  refine ⟨h.method,h.active,h.blocks,h.fresh,h.younger,h.open_loops,h.outer_isEmpty,h.outer_loops,h.open_clauses,h.outer_clauses,
    h.known,h.others,h.frozen,h.proper,?_,?_,?_⟩
  · exact fun offset member => (h.kept offset member).imp_left (awaited offset).mpr
  · exact fun offset waits => h.valid offset ((awaited offset).mp waits)
  · exact fun offset member => ⟨(h.left offset member).1,(h.left offset member).2.1,
      fun waits => (h.left offset member).2.2 ((awaited offset).mp waits)⟩

theorem pasteAll {offsets : List Nat} (h : Tracks region (offsets ++ owed) dropped emiter) (target : Nat) :
    Tracks region owed dropped (emiter.pasteAll offsets target) := by
  induction offsets generalizing emiter with
  | nil => exact h
  | cons offset offsets ih => exact ih (h.paste target)

theorem restack {other : List Nat} {inner : Region} {loops : List LoopScope} {clauses : List (List Nat)}
    (h : Tracks region owed dropped emiter)
    (same : inner = { region with scopes := inner.scopes, chains := inner.chains })
    (awaited : ∀ offset, Awaited inner other { emiter with loops := loops, clauses := clauses } offset ↔
      Awaited region owed emiter offset)
    (open_loops : inner.scopes.length ≤ loops.length) (open_clauses : inner.chains ≤ clauses.length)
    (outer_loops : loops.drop inner.scopes.length = emiter.loops.drop region.scopes.length)
    (outer_clauses : clauses.drop inner.chains = emiter.clauses.drop region.chains) :
    Tracks inner other dropped { emiter with loops := loops, clauses := clauses } := by
  rw [same] at awaited ⊢
  refine ⟨h.method,h.active,h.blocks,h.fresh,h.younger,open_loops,?_,?_,open_clauses,outer_clauses.trans h.outer_clauses,
    h.known,h.others,h.frozen,h.proper,?_,?_,?_⟩
  · exact (congrArg List.isEmpty outer_loops).trans h.outer_isEmpty
  · exact fun nothing => outer_loops.trans (h.outer_loops nothing)
  · exact fun offset member => (h.kept offset member).imp_left (awaited offset).mpr
  · exact fun offset waits => h.valid offset ((awaited offset).mp waits)
  · exact fun offset member => ⟨(h.left offset member).1,(h.left offset member).2.1,
      fun waits => (h.left offset member).2.2 ((awaited offset).mp waits)⟩

theorem enterLoop (h : Tracks region owed dropped emiter) (scope : Scope) :
    Tracks (region.push scope) owed dropped emiter.enterLoop := by
  apply h.restack rfl
  · intro offset
    cases scope with
    | loop => rfl
    | switch => rfl
  · exact Nat.succ_le_succ h.open_loops
  · exact h.open_clauses
  · rfl
  · rfl

variable {scope : Scope}

theorem leaveLoop (h : Tracks (region.push scope) owed dropped emiter) :
    Tracks region (scope.owed (emiter.loops.headD {}) ++ owed) dropped emiter.leaveLoop := by
  have opened := h.open_loops
  cases loops : emiter.loops with
  | nil =>
    rw [loops] at opened
    cases opened
  | cons loop rest =>
    rw [loops] at opened
    have popped : emiter.leaveLoop = { emiter with loops := rest, clauses := emiter.clauses } := by
      rw [AbstractEmiter.leaveLoop,loops]
      rfl
    rw [popped]
    apply h.restack rfl
    · intro offset
      simp only [Awaited,Region.push,loops,owedLoops,List.mem_append,List.headD_cons]
      tauto
    · exact Nat.le_of_succ_le_succ opened
    · exact h.open_clauses
    · rw [loops]
      rfl
    · rfl

theorem enterClauses (h : Tracks region owed dropped emiter) :
    Tracks region.chain owed dropped emiter.enterClauses := by
  apply h.restack rfl
  · intro offset
    rfl
  · exact h.open_loops
  · exact Nat.succ_le_succ h.open_clauses
  · rfl
  · rfl

theorem popClauses (h : Tracks region.chain owed dropped emiter) :
    Tracks region (emiter.clauses.headD [] ++ owed) dropped { emiter with clauses := emiter.clauses.tail } := by
  have opened := h.open_clauses
  cases clauses : emiter.clauses with
  | nil =>
    rw [clauses] at opened
    cases opened
  | cons clause rest =>
    rw [clauses] at opened
    apply @restack _ _ _ _ _ _ emiter.loops rest h rfl
    · intro offset
      simp only [Awaited,Region.chain,clauses,List.take_succ_cons,List.flatten_cons,List.mem_append,List.headD_cons]
      tauto
    · exact h.open_loops
    · exact Nat.le_of_succ_le_succ opened
    · rfl
    · rw [clauses]
      rfl

theorem keepInLoop {scopes : List Scope} (h : Tracks region (offset :: owed) dropped emiter)
    (opened : region.scopes = scope :: scopes) (keep : LoopScope → LoopScope)
    (kept : ∀ loop other, other ∈ scope.owed (keep loop) ↔ other = offset ∨ other ∈ scope.owed loop) :
    Tracks region owed dropped { emiter with loops := emiter.loops.modifyHead keep } := by
  have length := h.open_loops
  rw [opened] at length
  cases loops : emiter.loops with
  | nil =>
    rw [loops] at length
    cases length
  | cons loop rest =>
    rw [loops] at length
    apply @restack _ _ _ _ _ _ (keep loop :: rest) emiter.clauses h rfl
    · intro other
      simp only [Awaited,opened,loops,owedLoops,List.mem_append,List.mem_cons,kept]
      tauto
    · rw [opened]
      exact length
    · exact h.open_clauses
    · rw [opened,loops]
      rfl
    · rfl

theorem keepInClause (h : Tracks region (offset :: owed) dropped emiter) (opened : region.chains ≠ 0) :
    Tracks region owed dropped { emiter with clauses := emiter.clauses.modifyHead (· ++ [offset]) } := by
  obtain ⟨chains,succ⟩ := Nat.exists_eq_succ_of_ne_zero opened
  have length := h.open_clauses
  rw [succ] at length
  cases clauses : emiter.clauses with
  | nil =>
    rw [clauses] at length
    cases length
  | cons clause rest =>
    rw [clauses] at length
    apply @restack _ _ _ _ _ _ emiter.loops ((clause ++ [offset]) :: rest) h rfl
    · intro other
      simp only [Awaited,succ,clauses,List.take_succ_cons,List.flatten_cons,List.mem_append,List.mem_cons,List.not_mem_nil,
        or_false]
      tauto
    · exact h.open_loops
    · rw [succ]
      exact length
    · rfl
    · rw [succ,clauses]
      rfl

theorem jumpToLoopEnd (h : Tracks (region.push scope) owed dropped emiter)
    (operand : hasJumpOperand instruction) :
    Tracks (region.push scope) owed dropped (emiter.jumpToLoopEnd instruction) := by
  apply (h.emitPlaceholder operand).keepInLoop rfl
  intro loop other
  cases scope with
  | loop =>
    simp only [Scope.owed,List.mem_append,List.mem_singleton]
    tauto
  | switch =>
    simp only [Scope.owed,List.mem_append,List.mem_singleton]
    tauto

theorem jumpToClauseEnd (h : Tracks region owed dropped emiter) (opened : region.chains ≠ 0) :
    Tracks region owed dropped emiter.jumpToClauseEnd := (h.emitPlaceholder rfl).keepInClause opened

theorem closeLoop (h : Tracks (region.push .loop) owed dropped emiter) (loopStart : Nat) :
    Tracks region owed dropped (emiter.closeLoop loopStart) := by
  have jumped := (h.emit (.jump loopStart)).leaveLoop
  rw [Scope.owed,List.append_assoc] at jumped
  unfold AbstractEmiter.closeLoop
  rw [AbstractEmiter.leaveLoop_pasteAll,AbstractEmiter.leaveLoop_pasteAll]
  exact (jumped.pasteAll _).pasteAll _

theorem closeSwitch (h : Tracks (region.push .switch) owed dropped emiter) :
    Tracks region owed dropped emiter.closeSwitch := by
  unfold AbstractEmiter.closeSwitch
  rw [AbstractEmiter.leaveLoop_pasteAll]
  exact h.leaveLoop.pasteAll _

theorem leaveClauses (h : Tracks region.chain owed dropped emiter) : Tracks region owed dropped emiter.leaveClauses := by
  have popped := h.popClauses.pasteAll emiter.size
  rw [AbstractEmiter.pasteAll_withClauses] at popped
  exact popped

theorem lose (h : Tracks region owed dropped emiter) (operand : hasJumpOperand instruction)
    (keep : LoopScope → LoopScope)
    (aside : owedLoops region.scopes (emiter.loops.modifyHead keep) = owedLoops region.scopes emiter.loops) :
    Tracks region owed (emiter.size :: dropped)
      { emiter.emitPlaceholder instruction with loops := emiter.loops.modifyHead keep } := by
  have emitted := h.emitPlaceholder operand
  have awaited : ∀ offset, Awaited region owed
      { emiter.emitPlaceholder instruction with loops := emiter.loops.modifyHead keep } offset ↔
      Awaited region owed emiter offset := by
    intro offset
    unfold Awaited
    rw [aside]
    rfl
  refine ⟨h.method,h.active,h.blocks,h.fresh,h.younger,?_,?_,?_,h.open_clauses,h.outer_clauses,emitted.known,emitted.others,
    emitted.frozen,h.proper,?_,?_,?_⟩
  · change region.scopes.length ≤ (emiter.loops.modifyHead keep).length
    rw [List.length_modifyHead]
    exact h.open_loops
  · refine Eq.trans ?_ h.outer_isEmpty
    cases emiter.loops with
    | nil => rfl
    | cons loop rest =>
      cases region.scopes with
      | nil => rfl
      | cons scope scopes => rfl
  · intro nothing
    cases nothing
  · intro offset member
    obtain (kept | kept) | gone := emitted.kept offset member
    · obtain rfl | kept := List.mem_cons.mp kept
      · exact .inr List.mem_cons_self
      · exact .inl ((awaited offset).mpr (.inl kept))
    · exact .inl ((awaited offset).mpr (.inr kept))
    · exact .inr (List.mem_cons_of_mem _ gone)
  · intro offset waits
    exact (h.emit instruction).valid offset ((awaited offset).mp waits)
  · intro offset member
    obtain rfl | member := List.mem_cons.mp member
    · refine ⟨?_,?_,?_⟩
      · exact h.method ▸ List.mem_cons_self
      · change emiter.code.size < (emiter.emit instruction).code.size
        rw [AbstractEmiter.code_emit,Code.size_append,Code.size_cons]
        have := instruction.size_pos
        omega
      · intro waits
        obtain ⟨found,fetched,-⟩ := h.valid _ ((awaited _).mp waits)
        exact Nat.lt_irrefl _ (Code.lt_size_of_fetch fetched)
    · obtain ⟨placeholder,bound,apart⟩ := (h.emit instruction).left offset member
      exact ⟨List.mem_cons_of_mem _ placeholder,bound,fun waits => apart ((awaited offset).mp waits)⟩

end Tracks
end ShardScript.Closures
