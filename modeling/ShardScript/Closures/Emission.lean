import ShardScript.ByteCode.Code
import ShardScript.Emitter.EmitState
import Mathlib.Logic.Function.Basic

/-! Method bodies with the lambda expressions in them. -/
namespace ShardScript.Closures
open ByteCode

inductive Kind where
  | expression | statement | block | clause | next | cases | catches

inductive Node : Kind → Type where
  | skip : Node .expression
  | op (instruction : Instruction) (data : instruction.isData = true := by exact @rfl Bool true) : Node .expression
  | seq (first second : Node .expression) : Node .expression
  | branch (condition whenTrue whenFalse : Node .expression) : Node .expression
  | always (arm rest : Node .expression) : Node .expression
  | lambda (body : Node .block) : Node .expression
  | simple (expression : Node .expression) : Node .statement
  | returnStatement (value : Node .expression) : Node .statement
  | throwStatement (exception : Node .expression) : Node .statement
  | rethrow : Node .statement
  | breakStatement : Node .statement
  | continueStatement : Node .statement
  | whileStatement (condition : Node .expression) (body : Node .block) : Node .statement
  | untilStatement (condition : Node .expression) (body : Node .block) : Node .statement
  | forStatement (initializer : Node .statement) (condition : Node .expression) (afterRepeat : Node .statement)
      (body : Node .block) : Node .statement
  | enumeration (forEach : Bool) (start moveNext current : Node .expression) (body : Node .block) : Node .statement
  | conditional (first : Node .clause) : Node .statement
  | switchStatement (scrutinee : Node .expression) (cases : Node .cases) : Node .statement
  | tryStatement (body : Node .block) (catches : Node .catches) : Node .statement
  | deferStatement (resource statement : Node .statement) : Node .statement
  | empty : Node .block
  | cons (first : Node .statement) (rest : Node .block) : Node .block
  | ifClause (negated : Bool) (condition : Node .expression) (body : Node .block) (next : Node .next) : Node .clause
  | noNext : Node .next
  | elseClause (body : Node .block) : Node .next
  | elseIf (clause : Node .clause) : Node .next
  | noCase : Node .cases
  | defaultClause (body : Node .block) (rest : Node .cases) : Node .cases
  | caseClause (test bind : Node .expression) (body : Node .block) (rest : Node .cases) : Node .cases
  | noCatch : Node .catches
  | catchAll (bind : Node .expression) (body : Node .block) (rest : Node .catches) : Node .catches
  | catchClause (filter bind : Node .expression) (body : Node .block) (rest : Node .catches) : Node .catches

inductive Scope where
  | loop | switch
  deriving DecidableEq

namespace Node

def isNoNext : Node .next → Bool
  | noNext => true
  | _ => false

def isNoCase : Node .cases → Bool
  | noCase => true
  | _ => false

def isNoCatch : Node .catches → Bool
  | noCatch => true
  | _ => false

/-- No `break` or `continue` of a lambda expression is left to a scope around the lambda expression, and no `continue`
to a `switch`. The scope is the innermost one of the method; nested means that there are scopes around the method. -/
@[grind] def isPatchable : {kind : Kind} → (scope : Option Scope) → (isNested : Bool) → Node kind → Bool
  | _,_,_,skip | _,_,_,op _ _ | _,_,_,rethrow | _,_,_,empty | _,_,_,noNext | _,_,_,noCase | _,_,_,noCatch => true
  | _,scope,isNested,seq first second | _,scope,isNested,always first second =>
      first.isPatchable scope isNested && second.isPatchable scope isNested
  | _,scope,isNested,branch condition whenTrue whenFalse =>
      condition.isPatchable scope isNested && (whenTrue.isPatchable scope isNested && whenFalse.isPatchable scope isNested)
  | _,scope,isNested,lambda body => body.isPatchable none (scope.isSome || isNested)
  | _,scope,isNested,simple expression | _,scope,isNested,returnStatement expression
  | _,scope,isNested,throwStatement expression => expression.isPatchable scope isNested
  | _,scope,isNested,breakStatement => scope.isSome || !isNested
  | _,scope,isNested,continueStatement => scope = some .loop || scope.isNone && !isNested
  | _,_,isNested,whileStatement condition body | _,_,isNested,untilStatement condition body =>
      condition.isPatchable (some .loop) isNested && body.isPatchable (some .loop) isNested
  | _,_,isNested,forStatement initializer condition afterRepeat body =>
      initializer.isPatchable (some .loop) isNested && (condition.isPatchable (some .loop) isNested &&
        (body.isPatchable (some .loop) isNested && afterRepeat.isPatchable (some .loop) isNested))
  | _,_,isNested,enumeration _ start moveNext current body =>
      start.isPatchable (some .loop) isNested && (moveNext.isPatchable (some .loop) isNested &&
        (current.isPatchable (some .loop) isNested && body.isPatchable (some .loop) isNested))
  | _,scope,isNested,conditional first => first.isPatchable scope isNested
  | _,scope,isNested,switchStatement scrutinee cases =>
      cases.isNoCase || scrutinee.isPatchable scope isNested && cases.isPatchable (some .switch) isNested
  | _,scope,isNested,tryStatement body catches => body.isPatchable scope isNested && catches.isPatchable scope isNested
  | _,scope,isNested,deferStatement resource statement =>
      resource.isPatchable scope isNested && statement.isPatchable scope isNested
  | _,scope,isNested,cons first rest => first.isPatchable scope isNested && rest.isPatchable scope isNested
  | _,scope,isNested,ifClause _ condition body next =>
      condition.isPatchable scope isNested && (body.isPatchable scope isNested && next.isPatchable scope isNested)
  | _,scope,isNested,elseClause body => body.isPatchable scope isNested
  | _,scope,isNested,elseIf clause => clause.isPatchable scope isNested
  | _,scope,isNested,defaultClause body rest => body.isPatchable scope isNested && rest.isPatchable scope isNested
  | _,scope,isNested,caseClause test bind body rest | _,scope,isNested,catchClause test bind body rest =>
      test.isPatchable scope isNested && (bind.isPatchable scope isNested &&
        (body.isPatchable scope isNested && rest.isPatchable scope isNested))
  | _,scope,isNested,catchAll bind body rest =>
      bind.isPatchable scope isNested && (body.isPatchable scope isNested && rest.isPatchable scope isNested)

end Node
end ShardScript.Closures

/-! The emitter on method bodies with lambda expressions: the code vector that it generates changes in the middle of an
expression, its stacks of loop and of clause scopes do not. The evaluation-layout tracker is left out. -/
namespace ShardScript.Closures
open ByteCode

def hasJumpOperand : Instruction → Bool
  | .jump _ | .jumpTrue _ | .jumpFalse _ | .branchNull _ | .enterTry _ | .defer _ => true
  | _ => false

/-- A call of `PasteData`, with the instruction of the code vector that starts where the opcode is expected. -/
structure Paste where
  method : Nat
  offset : Nat
  onto : Option Instruction

def Paste.isProper (paste : Paste) : Bool := paste.onto.any hasJumpOperand

structure LoopScope where
  blockEndBacktracks : List Nat := []
  loopEndBacktracks : List Nat := []
  deriving DecidableEq

structure AbstractEmiter where
  generatingFor : Nat
  codes : Nat → Code
  methods : Nat
  loops : List LoopScope
  clauses : List (List Nat)
  deferScopes : List Emitter.DeferScope
  diagnostics : List String
  /-- Jump operands that were emitted as a placeholder and have not been overwritten: the method and the offset. -/
  placeholders : List (Nat × Nat)
  pastes : List Paste

namespace AbstractEmiter

variable (emiter : AbstractEmiter)

def code : Code := emiter.codes emiter.generatingFor

def size : Nat := emiter.code.size

def emit (instruction : Instruction) (emiter : AbstractEmiter) : AbstractEmiter :=
  { emiter with codes := Function.update emiter.codes emiter.generatingFor (emiter.code ++ [instruction]) }

def emitPlaceholder (instruction : Instruction) (emiter : AbstractEmiter) : AbstractEmiter :=
  { emiter.emit instruction with placeholders := (emiter.generatingFor,emiter.size) :: emiter.placeholders }

def paste (target : Nat) (emiter : AbstractEmiter) (offset : Nat) : AbstractEmiter :=
  { emiter with
    codes := Function.update emiter.codes emiter.generatingFor (emiter.code.paste offset target)
    placeholders := emiter.placeholders.filter (· ≠ (emiter.generatingFor,offset))
    pastes := ⟨emiter.generatingFor,offset,emiter.code.fetch offset⟩ :: emiter.pastes }

def pasteAll (offsets : List Nat) (target : Nat) (emiter : AbstractEmiter) : AbstractEmiter :=
  offsets.foldl (paste target) emiter

def report (message : String) (emiter : AbstractEmiter) : AbstractEmiter :=
  { emiter with diagnostics := emiter.diagnostics ++ [message] }

def enterLoop : AbstractEmiter := { emiter with loops := {} :: emiter.loops }

def leaveLoop : AbstractEmiter := { emiter with loops := emiter.loops.tail }

def jumpToLoopEnd (instruction : Instruction) (emiter : AbstractEmiter) : AbstractEmiter :=
  { emiter.emitPlaceholder instruction with
    loops := emiter.loops.modifyHead fun scope =>
      { scope with loopEndBacktracks := scope.loopEndBacktracks ++ [emiter.size] } }

def jumpToBlockEnd : AbstractEmiter :=
  { emiter.emitPlaceholder (.jump 0) with
    loops := emiter.loops.modifyHead fun scope =>
      { scope with blockEndBacktracks := scope.blockEndBacktracks ++ [emiter.size] } }

def jumpToClauseEnd : AbstractEmiter :=
  { emiter.emitPlaceholder (.jump 0) with
    clauses := emiter.clauses.modifyHead (· ++ [emiter.size]) }

def enterClauses : AbstractEmiter := { emiter with clauses := [] :: emiter.clauses }

def leaveClauses : AbstractEmiter :=
  { emiter.pasteAll (emiter.clauses.headD []) emiter.size with clauses := emiter.clauses.tail }

def emitDrain (count : Nat) (emiter : AbstractEmiter) : AbstractEmiter :=
  if count > 0 then emiter.emit (.deferDrain count) else emiter

def emitCurrentScopeDefers : AbstractEmiter :=
  match emiter.deferScopes with
  | [] => emiter
  | scope :: scopes => { emiter.emitDrain scope.count with deferScopes := { scope with count := 0 } :: scopes }

def emitDefersUntilLoop : AbstractEmiter :=
  { emiter.emitDrain (Emitter.totalCount (Emitter.scopesUntilLoop emiter.deferScopes).1) with
    deferScopes := Emitter.clearCounts (Emitter.scopesUntilLoop emiter.deferScopes).1 ++
      (Emitter.scopesUntilLoop emiter.deferScopes).2 }

def emitAllDefers : AbstractEmiter :=
  { emiter.emitDrain (Emitter.totalCount emiter.deferScopes) with
    deferScopes := Emitter.clearCounts emiter.deferScopes }

def enterBlock (isLoop : Bool) (emiter : AbstractEmiter) : AbstractEmiter :=
  { emiter with deferScopes := ⟨0,isLoop⟩ :: emiter.deferScopes }

def leaveBlock : AbstractEmiter :=
  { emiter.emitCurrentScopeDefers with deferScopes := emiter.emitCurrentScopeDefers.deferScopes.tail }

def countDefer : AbstractEmiter :=
  { emiter with deferScopes := emiter.deferScopes.modifyHead fun scope => { scope with count := scope.count + 1 } }

def closeLoop (loopStart : Nat) (emiter : AbstractEmiter) : AbstractEmiter :=
  ((((emiter.emit (.jump loopStart)).pasteAll (emiter.loops.headD {}).blockEndBacktracks emiter.size).pasteAll
    (emiter.loops.headD {}).loopEndBacktracks (emiter.emit (.jump loopStart)).size)).leaveLoop

def closeSwitch : AbstractEmiter :=
  (emiter.pasteAll (emiter.loops.headD {}).loopEndBacktracks emiter.size).leaveLoop

def enterClosure : AbstractEmiter :=
  { emiter with generatingFor := emiter.methods, methods := emiter.methods + 1, deferScopes := [] }

def leaveClosure (outer emiter : AbstractEmiter) : AbstractEmiter :=
  { emiter with generatingFor := outer.generatingFor, deferScopes := outer.deferScopes }

end AbstractEmiter

open AbstractEmiter in
@[grind] def Node.visit : {kind : Kind} → Node kind → AbstractEmiter → AbstractEmiter
  | _,skip,emiter => emiter
  | _,op instruction _,emiter => emiter.emit instruction
  | _,seq first second,emiter => second.visit (first.visit emiter)
  | _,branch condition whenTrue whenFalse,emiter =>
      let tested := condition.visit emiter
      let left := whenTrue.visit (tested.emitPlaceholder (.jumpFalse 0))
      let jumped := left.emitPlaceholder (.jump 0)
      let right := whenFalse.visit jumped
      (right.paste jumped.size tested.size).paste right.size left.size
  | _,always arm rest,emiter =>
      let armed := arm.visit emiter
      let rested := rest.visit (armed.emitPlaceholder (.jump 0))
      rested.paste rested.size armed.size
  | _,lambda body,emiter =>
      emiter.leaveClosure (((body.visit (emiter.enterClosure.enterBlock false)).leaveBlock).emit .return)
  | _,simple expression,emiter => expression.visit emiter
  | _,returnStatement value,emiter => (value.visit emiter).emitAllDefers.emit .return
  | _,throwStatement exception,emiter => (exception.visit emiter).emit .throw
  | _,rethrow,emiter => emiter.emit .rethrow
  | _,breakStatement,emiter =>
      if emiter.loops.isEmpty then emiter.report "'break' must be inside a loop or switch"
      else emiter.emitDefersUntilLoop.jumpToLoopEnd (.jump 0)
  | _,continueStatement,emiter =>
      if emiter.loops.isEmpty then emiter.report "'continue' must be inside a loop"
      else emiter.jumpToBlockEnd
  | _,whileStatement condition body,emiter =>
      let tested := (condition.visit emiter.enterLoop).jumpToLoopEnd (.jumpFalse 0)
      ((body.visit (tested.enterBlock true)).leaveBlock).closeLoop emiter.size
  | _,untilStatement condition body,emiter =>
      let tested := (condition.visit emiter.enterLoop).jumpToLoopEnd (.jumpTrue 0)
      ((body.visit (tested.enterBlock true)).leaveBlock).closeLoop emiter.size
  | _,forStatement initializer condition afterRepeat body,emiter =>
      let initialized := initializer.visit emiter.enterLoop
      let tested := (condition.visit initialized).jumpToLoopEnd (.jumpFalse 0)
      let bodied := (body.visit (tested.enterBlock true)).leaveBlock
      -- The block end is taken after the after-repeat statement.
      (afterRepeat.visit bodied).closeLoop initialized.size
  | _,enumeration forEach start moveNext current body,emiter =>
      let started := start.visit emiter.enterLoop
      let tested := (moveNext.visit started).jumpToLoopEnd (.jumpFalse 0)
      ((body.visit ((current.visit tested).enterBlock forEach)).leaveBlock).closeLoop started.size
  | _,conditional first,emiter => (first.visit emiter.enterClauses).leaveClauses
  | _,switchStatement scrutinee cases,emiter =>
      if cases.isNoCase then emiter else (cases.visit (scrutinee.visit emiter).enterLoop).closeSwitch
  | _,tryStatement body catches,emiter =>
      if catches.isNoCatch then (body.visit (emiter.enterBlock false)).leaveBlock
      else
        let bodied := (body.visit ((emiter.emitPlaceholder (.enterTry 0)).enterBlock false)).leaveBlock
        let left := bodied.emit .leaveTry
        let jumped := left.emitPlaceholder (.jump 0)
        let handled := catches.visit (jumped.paste jumped.size emiter.size)
        (handled.emit .endCatch).paste handled.size left.size
  | _,deferStatement resource statement,emiter =>
      if emiter.deferScopes.isEmpty then emiter.report "defer statement must be inside a block"
      else
        let counted := (resource.visit emiter).countDefer
        let registered := counted.emitPlaceholder (.defer 0)
        let jumped := registered.emitPlaceholder (.jump 0)
        let deferred := (statement.visit jumped).emit .deferBreak
        (deferred.paste jumped.size counted.size).paste deferred.size registered.size
  | _,empty,emiter => emiter
  | _,cons first rest,emiter => rest.visit (first.visit emiter)
  | _,ifClause negated condition body next,emiter =>
      let conditioned := condition.visit emiter
      let tested := conditioned.emitPlaceholder (if negated then .jumpTrue 0 else .jumpFalse 0)
      let bodied := (body.visit (tested.enterBlock false)).leaveBlock
      if next.isNoNext then bodied.paste bodied.size conditioned.size
      else
        let jumped := bodied.jumpToClauseEnd
        next.visit (jumped.paste jumped.size conditioned.size)
  | _,noNext,emiter => emiter
  | _,elseClause body,emiter => (body.visit (emiter.enterBlock false)).leaveBlock
  | _,elseIf clause,emiter => clause.visit emiter
  | _,noCase,emiter => emiter
  | _,defaultClause body rest,emiter =>
      let bodied := (body.visit (emiter.enterBlock false)).leaveBlock
      let rested := rest.visit (bodied.emitPlaceholder (.jump 0))
      rested.paste rested.size bodied.size
  | _,caseClause test bind body rest,emiter =>
      let conditioned := test.visit emiter
      let bound := bind.visit (conditioned.emitPlaceholder (.jumpFalse 0))
      let bodied := (body.visit (bound.enterBlock false)).leaveBlock
      let jumped := bodied.emitPlaceholder (.jump 0)
      let rested := rest.visit (jumped.paste jumped.size conditioned.size)
      rested.paste rested.size bodied.size
  | _,noCatch,emiter => emiter.emit .throw
  | _,catchAll bind body rest,emiter =>
      let bodied := (body.visit ((bind.visit emiter).enterBlock false)).leaveBlock
      let rested := rest.visit (bodied.emitPlaceholder (.jump 0))
      rested.paste rested.size bodied.size
  | _,catchClause filter bind body rest,emiter =>
      let conditioned := filter.visit emiter
      let bound := bind.visit (conditioned.emitPlaceholder (.jumpFalse 0))
      let bodied := (body.visit (bound.enterBlock false)).leaveBlock
      let jumped := bodied.emitPlaceholder (.jump 0)
      let rested := rest.visit (jumped.paste jumped.size conditioned.size)
      rested.paste rested.size bodied.size

namespace AbstractEmiter

def initial : AbstractEmiter where
  generatingFor := 0
  codes _ := []
  methods := 0
  loops := []
  clauses := []
  deferScopes := []
  diagnostics := []
  placeholders := []
  pastes := []

def visitMethod (emiter : AbstractEmiter) (body : Node .block) : AbstractEmiter :=
  ((body.visit (emiter.enterClosure.enterBlock false)).leaveBlock).emit .return

def visitProgram (bodies : List (Node .block)) : AbstractEmiter := bodies.foldl visitMethod initial

end AbstractEmiter
end ShardScript.Closures
