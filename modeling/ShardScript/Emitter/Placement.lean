import ShardScript.Emitter.Layout

/-! What an emitted piece leaves in the final code. A piece is laid when it adds its bytes and
the exits of the innermost loop scope, and when every code that completes the state after it
holds the piece at its place and completes the state before it. -/
namespace ShardScript.Emitter
open ByteCode

structure Targets where
  loopEnd : Nat
  blockEnd : Option Nat
  deriving DecidableEq

def exitsTo (offsets : List Nat) : Option Nat → Pending
  | some target => offsets.map fun offset => (offset,target)
  | none => []

@[grind] def pendingOf : List LoopScope → List Targets → Pending
  | scope :: scopes,target :: targets =>
      exitsTo scope.blockEndBacktracks target.blockEnd ++
        exitsTo scope.loopEndBacktracks (some target.loopEnd) ++ pendingOf scopes targets
  | _,_ => []

inductive Grows (low high : Nat) : List LoopScope → List LoopScope → Prop
  | nil : Grows low high [] []
  | cons {before after : LoopScope} {scopes : List LoopScope} (blocks loops : List Nat)
      (block : after.blockEndBacktracks = before.blockEndBacktracks ++ blocks)
      (loop : after.loopEndBacktracks = before.loopEndBacktracks ++ loops)
      (bounds : ∀ offset ∈ blocks ++ loops, low ≤ offset ∧ offset < high)
      (disjoint : ∀ offset ∈ blocks, offset ∉ loops) :
      Grows low high (before :: scopes) (after :: scopes)

theorem Grows.refl (low high : Nat) (scopes : List LoopScope) : Grows low high scopes scopes := by
  cases scopes with
  | nil => exact .nil
  | cons scope scopes => exact .cons [] [] (by simp) (by simp) (by simp) (by simp)

theorem Grows.trans {low middle high : Nat} {first second third : List LoopScope}
    (left : Grows low middle first second) (right : Grows middle high second third)
    (lowMiddle : low ≤ middle) (middleHigh : middle ≤ high) : Grows low high first third := by
  cases left with
  | nil =>
    cases right
    exact .nil
  | cons blocks loops block loop bounds disjoint =>
    cases right with
    | cons moreBlocks moreLoops moreBlock moreLoop moreBounds moreDisjoint =>
      refine .cons (blocks ++ moreBlocks) (loops ++ moreLoops) ?_ ?_ ?_ ?_
      · rw [moreBlock,block,List.append_assoc]
      · rw [moreLoop,loop,List.append_assoc]
      · intro offset member
        have cases_ : offset ∈ blocks ++ loops ∨ offset ∈ moreBlocks ++ moreLoops := by
          simp only [List.mem_append] at member ⊢
          tauto
        rcases cases_ with old | new
        · have := bounds offset old
          omega
        · have := moreBounds offset new
          omega
      · intro offset member other
        rw [List.mem_append] at member other
        rcases member with member | member <;> rcases other with other | other
        · exact disjoint offset member other
        · have := bounds offset (List.mem_append_left _ member)
          have := moreBounds offset (List.mem_append_right _ other)
          omega
        · have := moreBounds offset (List.mem_append_left _ member)
          have := bounds offset (List.mem_append_right _ other)
          omega
        · exact moreDisjoint offset member other

variable {offsets : List Nat}

theorem lookup_map_of_notMem {offset target : Nat} (h : offset ∉ offsets) :
    List.lookup offset (offsets.map fun other => (other,target)) = none := by
  induction offsets with
  | nil => rfl
  | cons first offsets ih =>
    rw [List.mem_cons,not_or] at h
    have different : (offset == first) = false := by simpa using h.1
    simp only [List.map_cons,List.lookup_cons,different]
    exact ih h.2

theorem lookup_exitsTo_of_notMem {offset : Nat} (target : Option Nat)
    (h : offset ∉ offsets) : List.lookup offset (exitsTo offsets target) = none := by
  cases target with
  | none => rfl
  | some target => exact lookup_map_of_notMem h

theorem exitsTo_append (left right : List Nat) (target : Option Nat) :
    exitsTo (left ++ right) target = exitsTo left target ++ exitsTo right target := by
  cases target <;> simp [exitsTo]

theorem Grows.lookup {low high : Nat} {before after : List LoopScope} (grows : Grows low high before after)
    (targets : List Targets) {offset : Nat} (outside : offset < low ∨ high ≤ offset) :
    List.lookup offset (pendingOf after targets) = List.lookup offset (pendingOf before targets) := by
  cases grows with
  | nil => rfl
  | cons blocks loops block loop bounds disjoint =>
    cases targets with
    | nil => rfl
    | cons target targets =>
      have notBlock : offset ∉ blocks := fun member => by
        have := bounds offset (List.mem_append_left _ member)
        omega
      have notLoop : offset ∉ loops := fun member => by
        have := bounds offset (List.mem_append_right _ member)
        omega
      simp only [pendingOf,block,loop,exitsTo_append,List.lookup_append,
        lookup_exitsTo_of_notMem _ notBlock,lookup_exitsTo_of_notMem _ notLoop,Option.or_none]

def DrainPlaced (code : Code) (count offset : Nat) : Prop :=
  0 < count → code.fetch offset = some (.deferDrain count)

structure Lays (targets : List Targets) (before after : EmitState) (length : Nat)
    (placed : Code → Prop) : Prop where
  size : after.size = before.size + length
  loops : Grows before.size after.size before.loops after.loops
  backward : ∀ {final : Code} {extra : Pending},
    Pending.FreeFrom (extra ++ pendingOf before.loops targets) before.size →
    Completes final after.code (extra ++ pendingOf after.loops targets) →
    placed final ∧ Completes final before.code (extra ++ pendingOf before.loops targets)

variable {start : Nat}

theorem Pending.FreeFrom.append_iff {left right : Pending} :
    Pending.FreeFrom (left ++ right) start ↔ left.FreeFrom start ∧ right.FreeFrom start := by
  simp only [Pending.FreeFrom,List.lookup_append,Option.or_eq_none_iff]
  constructor
  · intro h
    exact ⟨fun offset bound => (h offset bound).1,fun offset bound => (h offset bound).2⟩
  · intro h offset bound
    exact ⟨h.1 offset bound,h.2 offset bound⟩

namespace Lays

variable {targets : List Targets} {first second third : EmitState} {m n : Nat}
variable {placed other : Code → Prop}

theorem free_after (h : Lays targets first second m placed) {extra : Pending}
    (free : Pending.FreeFrom (extra ++ pendingOf first.loops targets) first.size) :
    Pending.FreeFrom (extra ++ pendingOf second.loops targets) second.size := by
  rw [Pending.FreeFrom.append_iff] at free ⊢
  have bound := h.size
  refine ⟨free.1.later (by omega),?_⟩
  intro offset le
  rw [h.loops.lookup targets (Or.inr le)]
  exact free.2 offset (by omega)

theorem trans (left : Lays targets first second m placed) (right : Lays targets second third n other) :
    Lays targets first third (m + n) fun code => placed code ∧ other code := by
  have leftSize := left.size
  have rightSize := right.size
  refine ⟨by omega,left.loops.trans right.loops (by omega) (by omega),?_⟩
  intro final extra free completes
  obtain ⟨otherPlaced,completesSecond⟩ := right.backward (left.free_after free) completes
  obtain ⟨leftPlaced,completesFirst⟩ := left.backward free completesSecond
  exact ⟨⟨leftPlaced,otherPlaced⟩,completesFirst⟩

theorem mono (h : Lays targets first second m placed) (imp : ∀ code, placed code → other code) :
    Lays targets first second m other := by
  refine ⟨h.size,h.loops,?_⟩
  intro final extra free completes
  obtain ⟨held,before⟩ := h.backward free completes
  exact ⟨imp final held,before⟩

theorem refl (targets : List Targets) (state : EmitState) :
    Lays targets state state 0 fun _ => True :=
  ⟨rfl,.refl _ _ _,fun _ completes => ⟨trivial,completes⟩⟩

theorem congr {first' second' : EmitState} (h : Lays targets first second m placed)
    (code : first'.code = first.code) (loops : first'.loops = first.loops)
    (code' : second'.code = second.code) (loops' : second'.loops = second.loops) :
    Lays targets first' second' m placed := by
  refine ⟨?_,?_,?_⟩
  · have := h.size
    simpa only [EmitState.size,code,code'] using this
  · have := h.loops
    simpa only [EmitState.size,code,code',loops,loops'] using this
  · intro final extra free completes
    rw [EmitState.size,code,loops] at free
    rw [code',loops'] at completes
    rw [code,loops]
    exact h.backward free completes

variable {state : EmitState}

theorem emit (targets : List Targets) (instruction : Instruction)
    (at_ : state.size = start) : Lays targets state (state.emit instruction) instruction.size
      fun code => code.fetch start = some instruction := by
  subst at_
  refine ⟨by simp [EmitState.size,EmitState.emit],.refl _ _ _,?_⟩
  intro final extra free completes
  have found : final.fetch state.size =
      some ((extra ++ pendingOf state.loops targets).resolve state.size instruction) := completes.last
  rw [free.resolve (Nat.le_refl _)] at found
  exact ⟨found,completes.before⟩

theorem run (targets : List Targets) (emission : Emission)
    (at_ : state.size = start) :
    Lays targets state (emission.run state) emission.size fun code => emission.Placed code start := by
  subst at_
  have same : (emission.run state).loops = state.loops := by rw [Emission.run_frame]
  refine ⟨Emission.size_run emission state,?_,?_⟩
  · rw [same]
    exact .refl _ _ _
  · intro final extra free completes
    rw [same] at completes
    exact Emission.placed_of_completes emission state completes free

theorem emitDrain (targets : List Targets) (count : Nat)
    (at_ : state.size = start) : Lays targets state (state.emitDrain count) (drainSize count)
      fun code => DrainPlaced code count start := by
  subst at_
  unfold EmitState.emitDrain drainSize
  split
  · have drain : Lays targets state (state.emit (.deferDrain count)).evalDrainDefers 10
        fun code => code.fetch state.size = some (.deferDrain count) :=
      (emit targets (.deferDrain count) rfl).congr rfl rfl rfl rfl
    exact drain.mono fun _ found _ => found
  · exact (refl targets state).mono fun _ _ positive => absurd positive (by assumption)

theorem patched {state : EmitState} {jump : Instruction} {target : Nat}
    (body : Lays targets (state.emit jump) second m placed) :
    Lays targets state (second.paste state.size target) (jump.size + m) fun code =>
      code.fetch state.size = some (jump.withTarget 0 target) ∧ placed code := by
  have positive := jump.size_pos
  have emitted : (state.emit jump).size = state.size + jump.size := by simp [EmitState.size,EmitState.emit]
  have bodySize := body.size
  have pastedSize : (second.paste state.size target).size = second.size := by
    simp [EmitState.size,EmitState.paste]
  refine ⟨by omega,?_,?_⟩
  · have grows := (Grows.refl state.size (state.emit jump).size state.loops).trans body.loops (by omega) (by omega)
    rw [pastedSize]
    exact grows
  · intro final extra free completes
    have freed : List.lookup state.size (extra ++ pendingOf second.loops targets) = none := by
      have none_ := free state.size (Nat.le_refl _)
      have same := body.loops.lookup targets (Or.inl (show state.size < (state.emit jump).size by omega))
      rw [List.lookup_append] at none_ ⊢
      rw [same]
      exact none_
    have free' : Pending.FreeFrom (((state.size,target) :: extra) ++ pendingOf state.loops targets)
        (state.emit jump).size := (free.later (by omega)).cons (by omega)
    obtain ⟨bodyPlaced,completesJump⟩ := body.backward free' (completes.pasteFree freed)
    have found : final.fetch state.size = some (Pending.resolve
        ((state.size,target) :: (extra ++ pendingOf state.loops targets)) state.size jump) :=
      completesJump.last
    rw [Pending.resolve_cons_self] at found
    exact ⟨⟨found,bodyPlaced⟩,completesJump.before.drop (Nat.le_refl _)⟩

theorem crossed {state middle last : EmitState} {jump next : Instruction} {target nextTarget : Nat}
    (left : Lays targets (state.emit jump) middle m placed)
    (right : Lays targets ((middle.emit next).paste state.size target) last n other) :
    Lays targets state (last.paste middle.size nextTarget) (jump.size + m + (next.size + n)) fun code =>
      (code.fetch state.size = some (jump.withTarget 0 target) ∧ placed code) ∧
        code.fetch middle.size = some (next.withTarget 0 nextTarget) ∧ other code := by
  have positive := jump.size_pos
  have nextPositive := next.size_pos
  have emitted : (state.emit jump).size = state.size + jump.size := by simp [EmitState.size,EmitState.emit]
  have leftSize := left.size
  have nextSize : ((middle.emit next).paste state.size target).size = middle.size + next.size := by
    simp [EmitState.size,EmitState.emit,EmitState.paste]
  have rightSize := right.size
  have pastedSize : (last.paste middle.size nextTarget).size = last.size := by
    simp [EmitState.size,EmitState.paste]
  have grows : Grows state.size last.size state.loops last.loops :=
    ((Grows.refl state.size (state.emit jump).size state.loops).trans left.loops (by omega) (by omega)).trans
      ((Grows.refl middle.size (middle.size + next.size) middle.loops).trans
        (nextSize ▸ right.loops) (by omega) (by omega)) (by omega) (by omega)
  refine ⟨by omega,by rw [pastedSize]; exact grows,?_⟩
  intro final extra free completes
  have freeMiddle : Pending.FreeFrom (extra ++ pendingOf middle.loops targets) middle.size :=
    left.free_after (free.later (by omega))
  have freeLast : List.lookup middle.size (extra ++ pendingOf last.loops targets) = none := by
    have none_ := freeMiddle middle.size (Nat.le_refl _)
    have same := right.loops.lookup targets (Or.inl (show middle.size < _ by omega))
    rw [List.lookup_append] at none_ ⊢
    rw [same]
    exact none_
  have freeNext : Pending.FreeFrom (((middle.size,nextTarget) :: extra) ++ pendingOf middle.loops targets)
      ((middle.emit next).paste state.size target).size := (freeMiddle.later (by omega)).cons (by omega)
  obtain ⟨rightPlaced,completesPaste⟩ := right.backward freeNext (completes.pasteFree freeLast)
  have freeJump : List.lookup state.size
      (((middle.size,nextTarget) :: extra) ++ pendingOf middle.loops targets) = none := by
    have none_ := free state.size (Nat.le_refl _)
    have same := left.loops.lookup targets (Or.inl (show state.size < _ by omega))
    have different : (state.size == middle.size) = false := by
      rw [beq_eq_false_iff_ne]
      omega
    rw [List.lookup_append] at none_
    rw [List.cons_append,List.lookup_cons,different,List.lookup_append,same]
    exact none_
  have completesNext : Completes final (middle.code ++ [next]) ((state.size,target) ::
      (middle.size,nextTarget) :: (extra ++ pendingOf middle.loops targets)) :=
    completesPaste.pasteFree freeJump
  have found : final.fetch middle.size = _ := completesNext.last
  rw [show middle.code.size = middle.size from rfl,Pending.resolve_cons_of_ne (by omega),
    Pending.resolve_cons_self] at found
  have freeLeft : Pending.FreeFrom (((state.size,target) :: extra) ++ pendingOf state.loops targets)
      (state.emit jump).size := (free.later (by omega)).cons (by omega)
  obtain ⟨leftPlaced,completesJump⟩ :=
    left.backward freeLeft (completesNext.before.dropSecond (Nat.le_refl _))
  have foundJump : final.fetch state.size = some (Pending.resolve
      ((state.size,target) :: (extra ++ pendingOf state.loops targets)) state.size jump) :=
    completesJump.last
  rw [Pending.resolve_cons_self] at foundJump
  exact ⟨⟨⟨foundJump,leftPlaced⟩,found,rightPlaced⟩,completesJump.before.drop (Nat.le_refl _)⟩

end Lays

theorem lookup_exitsTo_snoc {offset target : Nat} (h : offset ∉ offsets) :
    List.lookup offset (exitsTo (offsets ++ [offset]) (some target)) = some target := by
  rw [exitsTo_append,List.lookup_append,lookup_exitsTo_of_notMem _ h]
  simp [exitsTo]

theorem notMem_of_lookup_exitsTo {offset target : Nat}
    (h : List.lookup offset (exitsTo offsets (some target)) = none) : offset ∉ offsets := by
  intro member
  induction offsets with
  | nil => cases member
  | cons first offsets ih =>
    rw [exitsTo,List.map_cons,List.lookup_cons] at h
    split at h
    · cases h
    · rename_i different
      rcases List.mem_cons.mp member with same | member
      · simp [same] at different
      · exact ih h member

namespace Lays

variable {target : Targets} {targets : List Targets}

theorem awaitLoopEnd {state : EmitState} (jump : Instruction) (open_ : state.loops ≠ []) :
    Lays (target :: targets) state (state.awaitLoopEnd.emit jump) jump.size fun code =>
      code.fetch state.size = some (jump.withTarget 0 target.loopEnd) := by
  obtain ⟨scope,scopes,loops⟩ := List.exists_cons_of_ne_nil open_
  have positive := jump.size_pos
  have emitted : (state.awaitLoopEnd.emit jump).size = state.size + jump.size := by
    simp [EmitState.size,EmitState.emit,EmitState.awaitLoopEnd,EmitState.updateLoop]
  have awaited : (state.awaitLoopEnd.emit jump).loops =
      { scope with loopEndBacktracks := scope.loopEndBacktracks ++ [state.size] } :: scopes := by
    simp [EmitState.emit,EmitState.awaitLoopEnd,EmitState.updateLoop,loops]
  have grows : Grows state.size (state.awaitLoopEnd.emit jump).size state.loops
      (state.awaitLoopEnd.emit jump).loops := by
    rw [awaited,loops,emitted]
    exact .cons [] [state.size] (by simp) rfl (by simp; omega) (by simp)
  refine ⟨emitted,grows,?_⟩
  intro final extra free completes
  have freed := free state.size (Nat.le_refl _)
  have found : final.fetch state.size = some (Pending.resolve
      (extra ++ pendingOf (state.awaitLoopEnd.emit jump).loops (target :: targets)) state.size jump) :=
    completes.last
  refine ⟨?_,completes.before.agree ?_⟩
  · simp only [loops,pendingOf,List.lookup_append,Option.or_eq_none_iff] at freed
    rw [found]
    simp only [Pending.resolve,awaited,pendingOf,List.lookup_append,freed.1,freed.2.1.1,Option.none_or,
      lookup_exitsTo_snoc (notMem_of_lookup_exitsTo freed.2.1.2),Option.some_or]
  · intro offset bound
    rw [List.lookup_append,List.lookup_append,grows.lookup _ (Or.inl bound)]

theorem awaitBlockEnd {state : EmitState} (jump : Instruction) (open_ : state.loops ≠ []) :
    Lays (target :: targets) state (state.awaitBlockEnd.emit jump) jump.size fun code =>
      code.fetch state.size = some (target.blockEnd.elim jump fun blockEnd => jump.withTarget 0 blockEnd) := by
  obtain ⟨scope,scopes,loops⟩ := List.exists_cons_of_ne_nil open_
  have positive := jump.size_pos
  have emitted : (state.awaitBlockEnd.emit jump).size = state.size + jump.size := by
    simp [EmitState.size,EmitState.emit,EmitState.awaitBlockEnd,EmitState.updateLoop]
  have awaited : (state.awaitBlockEnd.emit jump).loops =
      { scope with blockEndBacktracks := scope.blockEndBacktracks ++ [state.size] } :: scopes := by
    simp [EmitState.emit,EmitState.awaitBlockEnd,EmitState.updateLoop,loops]
  have grows : Grows state.size (state.awaitBlockEnd.emit jump).size state.loops
      (state.awaitBlockEnd.emit jump).loops := by
    rw [awaited,loops,emitted]
    exact .cons [state.size] [] rfl (by simp) (by simp; omega) (by simp)
  refine ⟨emitted,grows,?_⟩
  intro final extra free completes
  have freed := free state.size (Nat.le_refl _)
  have found : final.fetch state.size = some (Pending.resolve
      (extra ++ pendingOf (state.awaitBlockEnd.emit jump).loops (target :: targets)) state.size jump) :=
    completes.last
  refine ⟨?_,completes.before.agree ?_⟩
  · simp only [loops,pendingOf,List.lookup_append,Option.or_eq_none_iff] at freed
    rw [found]
    cases ended : target.blockEnd with
    | none =>
      simp only [Pending.resolve,awaited,pendingOf,ended,exitsTo,List.lookup_append,freed.1,
        List.lookup_nil,Option.none_or,Option.elim_none]
      simp only [exitsTo] at freed
      rw [freed.2.1.2,freed.2.2]
      rfl
    | some blockEnd =>
      rw [ended] at freed
      simp only [Pending.resolve,awaited,pendingOf,ended,List.lookup_append,freed.1,Option.none_or,
        lookup_exitsTo_snoc (notMem_of_lookup_exitsTo freed.2.1.1),Option.some_or,Option.elim_some]
  · intro offset bound
    rw [List.lookup_append,List.lookup_append,grows.lookup _ (Or.inl bound)]

theorem completes_exits {final code : Code} {blocks loops : List Nat} {low blockEnd loopEnd : Nat}
    {extra outer : Pending} (free : Pending.FreeFrom (extra ++ outer) low)
    (bounds : ∀ offset ∈ blocks ++ loops, low ≤ offset)
    (h : Completes final code
      (exitsTo blocks (some blockEnd) ++ (exitsTo loops (some loopEnd) ++ (extra ++ outer)))) :
    Completes final code
      (extra ++ (exitsTo blocks (some blockEnd) ++ exitsTo loops (some loopEnd) ++ outer)) := by
  apply h.agree
  intro offset _
  simp only [List.lookup_append]
  by_cases below : offset < low
  · have notBlock : offset ∉ blocks := fun member => by
      have := bounds offset (List.mem_append_left _ member)
      omega
    have notLoop : offset ∉ loops := fun member => by
      have := bounds offset (List.mem_append_right _ member)
      omega
    simp only [lookup_exitsTo_of_notMem _ notBlock,lookup_exitsTo_of_notMem _ notLoop,Option.none_or]
  · have none_ := free offset (by omega)
    rw [List.lookup_append,Option.or_eq_none_iff] at none_
    simp only [none_.1,none_.2,Option.none_or,Option.or_none]

theorem closeLoop {outer state : EmitState} {stop n : Nat} {placed : Code → Prop} (loopStart : Nat)
    (at_ : state.size = stop) (body : Lays (⟨stop + 10,some stop⟩ :: targets) outer.enterLoop state n placed) :
    Lays targets outer (state.closeLoop loopStart) (n + 10) fun code =>
      placed code ∧ code.fetch stop = some (.jump loopStart) := by
  subst at_
  have bodySize : state.size = outer.size + n := body.size
  have closedSize : (state.closeLoop loopStart).size = state.size + 10 := by
    simp [EmitState.closeLoop,EmitState.leaveLoop,EmitState.pasteAll,EmitState.emit,EmitState.size,
      Instruction.size]
  obtain ⟨scope,loopsState,blocks,loops,block,loop,bounds,disjoint⟩ :
      ∃ scope, state.loops = scope :: outer.loops ∧ ∃ blocks loops,
        scope.blockEndBacktracks = blocks ∧ scope.loopEndBacktracks = loops ∧
        (∀ offset ∈ blocks ++ loops, outer.size ≤ offset ∧ offset < state.size) ∧
        ∀ offset ∈ blocks, offset ∉ loops := by
    have grows : Grows outer.size state.size ({} :: outer.loops) state.loops := body.loops
    generalize state.loops = inner at grows
    cases grows with
    | cons blocks loops block loop bounds disjoint =>
      exact ⟨_,rfl,blocks,loops,by simpa using block,by simpa using loop,bounds,disjoint⟩
  have closedLoops : (state.closeLoop loopStart).loops = outer.loops := by
    simp [EmitState.closeLoop,EmitState.leaveLoop,EmitState.pasteAll,EmitState.emit,loopsState]
  refine ⟨by omega,by rw [closedLoops]; exact .refl _ _ _,?_⟩
  intro final extra free completes
  rw [closedLoops] at completes
  have pasted : Completes final (((state.code ++ [Instruction.jump loopStart]).pasteAll blocks state.size).pasteAll
      loops (state.size + 10)) (extra ++ pendingOf outer.loops targets) := by
    simpa [EmitState.closeLoop,EmitState.leaveLoop,EmitState.pasteAll,EmitState.emit,EmitState.size,
      Instruction.size,loopsState,block,loop] using completes
  have noExit : ∀ offset ∈ blocks ++ loops, List.lookup offset (extra ++ pendingOf outer.loops targets) = none :=
    fun offset member => free offset (bounds offset member).1
  have unpatchedLoops := pasted.pasteAll fun offset member => noExit offset (List.mem_append_right _ member)
  have unpatched := unpatchedLoops.pasteAll fun offset member => by
    rw [List.lookup_append,lookup_map_of_notMem (disjoint offset member)]
    exact noExit offset (List.mem_append_left _ member)
  have notBlock : state.size ∉ blocks := fun member => by
    have := bounds _ (List.mem_append_left _ member)
    omega
  have notLoop : state.size ∉ loops := fun member => by
    have := bounds _ (List.mem_append_right _ member)
    omega
  have jumped : final.fetch state.size = _ := unpatched.last
  have unpending := free state.size (by omega)
  simp only [Pending.resolve,show state.code.size = state.size from rfl,List.lookup_append,
    lookup_map_of_notMem notBlock,lookup_map_of_notMem notLoop,Option.none_or] at jumped
  rw [List.lookup_append] at unpending
  rw [unpending] at jumped
  have inside := completes_exits free (fun offset member => (bounds offset member).1) unpatched.before
  obtain ⟨bodyPlaced,before⟩ := body.backward free
    (by rw [loopsState,pendingOf,block,loop]; exact inside)
  exact ⟨⟨bodyPlaced,jumped⟩,before⟩

theorem closeSwitch {outer state : EmitState} {stop n : Nat} {placed : Code → Prop}
    (at_ : state.size = stop) (body : Lays (⟨stop,none⟩ :: targets) outer.enterLoop state n placed) :
    Lays targets outer state.closeSwitch n placed := by
  subst at_
  have bodySize : state.size = outer.size + n := body.size
  have closedSize : state.closeSwitch.size = state.size := by
    simp [EmitState.closeSwitch,EmitState.leaveLoop,EmitState.pasteAll,EmitState.size]
  obtain ⟨scope,loopsState,loops,loop,bounds⟩ :
      ∃ scope, state.loops = scope :: outer.loops ∧ ∃ loops, scope.loopEndBacktracks = loops ∧
        ∀ offset ∈ loops, outer.size ≤ offset ∧ offset < state.size := by
    have grows : Grows outer.size state.size ({} :: outer.loops) state.loops := body.loops
    generalize state.loops = inner at grows
    cases grows with
    | cons blocks loops block loop bounds disjoint =>
      exact ⟨_,rfl,loops,by simpa using loop,fun offset member => bounds offset (List.mem_append_right _ member)⟩
  have closedLoops : state.closeSwitch.loops = outer.loops := by
    simp [EmitState.closeSwitch,EmitState.leaveLoop,EmitState.pasteAll,loopsState]
  refine ⟨by omega,by rw [closedLoops]; exact .refl _ _ _,?_⟩
  intro final extra free completes
  rw [closedLoops] at completes
  have pasted : Completes final (state.code.pasteAll loops state.size)
      (extra ++ pendingOf outer.loops targets) := by
    simpa [EmitState.closeSwitch,EmitState.leaveLoop,EmitState.pasteAll,loopsState,loop] using completes
  have unpatched := pasted.pasteAll fun offset member => free offset (bounds offset member).1
  have inside := @completes_exits _ _ [] _ _ 0 _ _ _ free
    (fun offset member => (bounds offset (by simpa using member)).1) unpatched
  obtain ⟨bodyPlaced,before⟩ := body.backward free
    (by rw [loopsState,pendingOf,loop]; exact inside)
  exact ⟨bodyPlaced,before⟩

end Lays
end ShardScript.Emitter
