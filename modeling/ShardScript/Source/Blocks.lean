import ShardScript.Emitter.Layout

/-! The blocks that are open at a statement, with the registrations that the emitter counts
for them and those that are really made. -/
namespace ShardScript.Source
open ByteCode Emitter

inductive LoopKind where
  | loop | counting | switch
  deriving DecidableEq

/-- A block at some point of its text: `registered` registrations stand before the point, and
`construct` is the loop or switch that the block is the body of. -/
structure OpenBlock extends DeferScope where
  registered : Nat
  construct : Option LoopKind
  /-- Only the bodies of loops are marked as loops for the emitter. -/
  marked : isLoop = true → construct.isSome = true
  deriving DecidableEq

namespace OpenBlock

def plain : OpenBlock := ⟨⟨0,false⟩,0,none,nofun⟩

def body (isLoop : Bool) (construct : LoopKind) : OpenBlock := ⟨⟨0,isLoop⟩,0,some construct,fun _ => rfl⟩

def clear (block : OpenBlock) : OpenBlock := { block with count := 0 }

def gain (registrations : Nat) (block : OpenBlock) : OpenBlock :=
  { block with count := 0, registered := block.registered + registrations }

end OpenBlock

def clearUntilLoop : List OpenBlock → List OpenBlock
  | [] => []
  | block :: blocks => block.clear :: if block.isLoop then blocks else clearUntilLoop blocks

def leftBlocks : List OpenBlock → List OpenBlock
  | [] => []
  | block :: blocks => block :: if block.construct.isSome then [] else leftBlocks blocks

/-- The blocks that it stays in but whose registrations the emitter counts for a `break`. -/
def overdrained : List OpenBlock → List OpenBlock
  | [] => []
  | block :: blocks =>
    if block.isLoop then []
    else if block.construct.isSome then untilLoop blocks
    else overdrained blocks
where
  untilLoop : List OpenBlock → List OpenBlock
    | [] => []
    | block :: blocks => block :: if block.isLoop then [] else untilLoop blocks

def construct? : List OpenBlock → Option LoopKind
  | [] => none
  | block :: blocks => block.construct <|> construct? blocks

variable (blocks : List OpenBlock)

def scopesOf : List DeferScope := blocks.map OpenBlock.toDeferScope

def totalRegistered : Nat := (blocks.map OpenBlock.registered).sum

@[grind] def blocksAfter : {kind : StatementKind} → Statement kind → List OpenBlock → List OpenBlock
  | _,.simple _,blocks | _,.throwStatement _,blocks | _,.continueStatement,blocks => blocks
  | _,.returnStatement _,blocks => blocks.map OpenBlock.clear
  | _,.breakStatement,blocks => clearUntilLoop blocks
  | _,.whileStatement _ body,blocks | _,.untilStatement _ body,blocks =>
      (blocksAfter body (.body true .loop :: blocks)).tail
  | _,.forStatement _ _ _ body,blocks => (blocksAfter body (.body true .counting :: blocks)).tail
  | _,.enumeration forEach _ _ _ body,blocks =>
      (blocksAfter body (.body forEach .loop :: blocks)).tail
  | _,.conditional first,blocks => blocksAfter first blocks
  | _,.switchStatement _ cases,blocks => blocksAfter cases blocks
  | _,.tryStatement body catches,blocks =>
      blocksAfter catches (blocksAfter body (.plain :: blocks)).tail
  | _,.deferStatement _ _,blocks => blocks.modifyHead fun block =>
      { block with count := block.count + 1, registered := block.registered + 1 }
  | _,.empty,blocks | _,.noNext,blocks | _,.noCase,blocks | _,.noCatch,blocks => blocks
  | _,.cons first rest,blocks => blocksAfter rest (blocksAfter first blocks)
  | _,.ifClause _ _ body next,blocks => blocksAfter next (blocksAfter body (.plain :: blocks)).tail
  | _,.elseClause body,blocks => (blocksAfter body (.plain :: blocks)).tail
  | _,.elseIf clause,blocks => blocksAfter clause blocks
  | _,.defaultClause body rest,blocks =>
      blocksAfter rest (blocksAfter body (.body false .switch :: blocks)).tail
  | _,.caseClause _ _ body rest,blocks =>
      blocksAfter rest (blocksAfter body (.body false .switch :: blocks)).tail
  | _,.catchClause _ _ body rest,blocks =>
      blocksAfter rest (blocksAfter body (.plain :: blocks)).tail

theorem scopesOf_clearUntilLoop :
    scopesOf (clearUntilLoop blocks) = clearCounts (scopesUntilLoop (scopesOf blocks)).1 ++
      (scopesUntilLoop (scopesOf blocks)).2 := by
  induction blocks with
  | nil => rfl
  | cons block blocks ih =>
    simp only [clearUntilLoop,scopesOf,List.map_cons,scopesUntilLoop]
    split
    · simp [clearCounts,OpenBlock.clear]
    · simpa [scopesOf,clearCounts,OpenBlock.clear] using ih

variable {kind : StatementKind}

theorem scopesOf_blocksAfter (statement : Statement kind) (blocks : List OpenBlock) :
    scopesOf (blocksAfter statement blocks) = statement.scopes (scopesOf blocks) := by
  induction statement generalizing blocks with
  | returnStatement value =>
    simp [blocksAfter,Statement.scopes,scopesOf,clearCounts,OpenBlock.clear]
  | breakStatement => exact scopesOf_clearUntilLoop blocks
  | deferStatement resource body => cases blocks <;> rfl
  | _ => simp_all [blocksAfter,Statement.scopes,scopesOf,OpenBlock.plain,OpenBlock.body]

@[grind] def registrations : {kind : StatementKind} → Statement kind → Nat
  | _,.deferStatement _ _ => 1
  | _,.cons first rest => registrations first + registrations rest
  | _,_ => 0

theorem registrations_clause (statement : Statement kind) (other : kind ≠ .statement)
    (block : kind ≠ .block) : registrations statement = 0 := by
  cases statement <;> simp_all [registrations]

theorem gain_zero :
    (blocks.map OpenBlock.clear).modifyHead (OpenBlock.gain 0) = blocks.map OpenBlock.clear := by
  cases blocks <;> rfl

theorem clear_clearUntilLoop :
    (clearUntilLoop blocks).map OpenBlock.clear = blocks.map OpenBlock.clear := by
  induction blocks with
  | nil => rfl
  | cons block blocks ih =>
    rw [clearUntilLoop]
    split
    · rfl
    · exact congrArg (block.clear :: ·) ih

theorem clear_blocksAfter (statement : Statement kind) (blocks : List OpenBlock) :
    (blocksAfter statement blocks).map OpenBlock.clear =
      (blocks.map OpenBlock.clear).modifyHead (OpenBlock.gain (registrations statement)) := by
  have inner : ∀ (body : Statement .block) (block : OpenBlock) (blocks : List OpenBlock),
      (∀ blocks, (blocksAfter body blocks).map OpenBlock.clear =
        (blocks.map OpenBlock.clear).modifyHead (OpenBlock.gain (registrations body))) →
      (blocksAfter body (block :: blocks)).tail.map OpenBlock.clear = blocks.map OpenBlock.clear := by
    intro body block blocks ih
    rw [List.map_tail,ih]
    rfl
  induction statement generalizing blocks with
  | simple | throwStatement | continueStatement | empty | noNext | noCase | noCatch =>
    exact (gain_zero blocks).symm
  | returnStatement value =>
    refine Eq.trans ?_ (gain_zero blocks).symm
    rw [blocksAfter,List.map_map]
    rfl
  | breakStatement => exact (clear_clearUntilLoop blocks).trans (gain_zero blocks).symm
  | deferStatement resource body => cases blocks <;> rfl
  | cons first rest ihFirst ihRest =>
    rw [blocksAfter,ihRest,ihFirst,registrations]
    cases blocks with
    | nil => rfl
    | cons block blocks => simp [OpenBlock.gain,OpenBlock.clear,Nat.add_assoc]
  | whileStatement condition body ih | untilStatement condition body ih
  | forStatement initializer condition afterRepeat body ih | enumeration forEach start moveNext current body ih =>
    exact (inner body _ blocks ih).trans (gain_zero blocks).symm
  | conditional first ih =>
    have none_ := registrations_clause first (by simp) (by simp)
    exact (ih blocks).trans (by rw [none_]; rfl)
  | switchStatement scrutinee cases ih =>
    have none_ := registrations_clause cases (by simp) (by simp)
    exact (ih blocks).trans (by rw [none_]; rfl)
  | tryStatement body catches ihBody ihCatches =>
    have none_ := registrations_clause catches (by simp) (by simp)
    rw [blocksAfter,ihCatches,inner body _ blocks ihBody,none_]
    rfl
  | ifClause negated condition body next ihBody ihNext =>
    have none_ := registrations_clause next (by simp) (by simp)
    rw [blocksAfter,ihNext,inner body _ blocks ihBody,none_]
    rfl
  | elseClause body ih => exact (inner body _ blocks ih).trans (gain_zero blocks).symm
  | elseIf clause ih =>
    have none_ := registrations_clause clause (by simp) (by simp)
    exact (ih blocks).trans (by rw [none_]; rfl)
  | defaultClause body rest ihBody ihRest | caseClause test bind body rest ihBody ihRest
  | catchClause filter bind body rest ihBody ihRest =>
    have none_ := registrations_clause rest (by simp) (by simp)
    rw [blocksAfter,ihRest,inner body _ blocks ihBody,none_]
    rfl

theorem leftBlocks_clear :
    leftBlocks (blocks.map OpenBlock.clear) = (leftBlocks blocks).map OpenBlock.clear := by
  induction blocks with
  | nil => rfl
  | cons block blocks ih =>
    simp only [leftBlocks,List.map_cons,ih]
    change block.clear :: (if block.construct.isSome = true then _ else _) = _
    split <;> rfl

theorem totalRegistered_clear :
    totalRegistered (blocks.map OpenBlock.clear) = totalRegistered blocks := by
  simp only [totalRegistered,List.map_map]
  rfl

theorem construct?_clear :
    construct? (blocks.map OpenBlock.clear) = construct? blocks := by
  induction blocks with
  | nil => rfl
  | cons block blocks ih =>
    simp only [construct?,List.map_cons,ih]
    rfl

theorem totalCount_scopesUntilLoop {blocks : List OpenBlock}
    (counted : ∀ block ∈ leftBlocks blocks, block.count = block.registered)
    (beyond : ∀ block ∈ overdrained blocks, block.count = 0) :
    totalCount (scopesUntilLoop (scopesOf blocks)).1 = totalRegistered (leftBlocks blocks) := by
  have rest : ∀ blocks : List OpenBlock, (∀ block ∈ overdrained.untilLoop blocks, block.count = 0) →
      totalCount (scopesUntilLoop (scopesOf blocks)).1 = 0 := by
    intro blocks zero
    induction blocks with
    | nil => rfl
    | cons block blocks ih =>
      simp only [scopesOf,List.map_cons,scopesUntilLoop,overdrained.untilLoop] at zero ⊢
      have head := zero block (by simp)
      split
      · simpa [totalCount] using head
      · rename_i open_
        have tail := ih fun other member => zero other (by simp [open_,member])
        simpa [scopesOf,totalCount,head] using tail
  induction blocks with
  | nil => rfl
  | cons block blocks ih =>
    have head := counted block (by simp [leftBlocks])
    simp only [scopesOf,List.map_cons,scopesUntilLoop,leftBlocks,overdrained] at counted beyond ⊢
    by_cases loop : block.isLoop = true
    · have construct := block.marked loop
      simpa [loop,construct,totalCount,totalRegistered] using head
    · by_cases construct : block.construct.isSome = true
      · have none_ := rest blocks (by simpa [loop,construct] using beyond)
        have none_ : totalCount (scopesUntilLoop (blocks.map OpenBlock.toDeferScope)).1 = 0 := none_
        simp only [totalCount] at none_
        simp [loop,construct,totalCount,totalRegistered,head,none_]
      · have tail := ih (by simpa [construct,head] using counted) (by simpa [loop,construct] using beyond)
        have tail : totalCount (scopesUntilLoop (blocks.map OpenBlock.toDeferScope)).1 = _ := tail
        simp only [totalCount,totalRegistered] at tail
        simp [loop,construct,totalCount,totalRegistered,head,tail]

theorem totalCount_scopesOf {blocks : List OpenBlock}
    (counted : ∀ block ∈ blocks, block.count = block.registered) :
    totalCount (scopesOf blocks) = totalRegistered blocks := by
  simp only [totalCount,scopesOf,totalRegistered,List.map_map]
  congr 1
  exact List.map_congr_left counted

end ShardScript.Source
