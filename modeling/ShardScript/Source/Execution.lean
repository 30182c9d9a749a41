import ShardScript.Source.Blocks
import ShardScript.Runtime.Frame

/-! What a statement does: the reference that the emitted code is compared with. A block
evaluates its own registrations when control leaves it, the last one first. -/
namespace ShardScript.Source
open ByteCode Emitter ShardScript.Runtime

inductive Exit where
  | fallsOff (block : OpenBlock)
  | breaks (blocks : List OpenBlock)
  | continues (blocks : List OpenBlock)
  | returns (blocks : List OpenBlock)

inductive Event where
  | ran (instruction : Instruction)
  | left (exit : Exit)

def instructions (trace : List Event) : List Instruction :=
  trace.filterMap fun
    | .ran instruction => some instruction
    | .left _ => none

def exits (trace : List Event) : List Exit :=
  trace.filterMap fun
    | .ran _ => none
    | .left exit => some exit

/-- A run that comes to a value, takes too many turns of a loop, or stops at an instruction that
raises an exception. -/
inductive Progress (α : Type) where
  | value (value : α) (trace : List Event)
  | timeout (trace : List Event)
  | stopped (trace : List Event)

namespace Progress

variable {α β : Type}

def trace : Progress α → List Event
  | value _ trace | timeout trace | stopped trace => trace

def after (earlier : List Event) : Progress α → Progress α
  | value result trace => value result (earlier ++ trace)
  | timeout trace => timeout (earlier ++ trace)
  | stopped trace => stopped (earlier ++ trace)

def bind (first : Progress α) (rest : α → Progress β) : Progress β :=
  match first with
  | value result trace => (rest result).after trace
  | timeout trace => timeout trace
  | stopped trace => stopped trace

end Progress

inductive Completion where
  | normal | break | continue | return | restart
  deriving DecidableEq

/-- How a `continue` goes on: as the language has it, or as the emitter's jump targets have it.
There a `for` skips its after-repeat statement, and a `switch` starts the method again. -/
inductive Policy where
  | prescribed | emitted
  deriving DecidableEq

variable {Data Exception : Type} (machine : DataMachine Data Exception)

@[grind] def execEmission : Emission → Data → Progress Data
  | .skip,data | .evalPush _,data | .evalPop _,data => .value data []
  | .op instruction _,data =>
    match machine.execute instruction data with
    | .ok data => .value data [.ran instruction]
    | _ => .stopped []
  | .seq first second,data => (execEmission first data).bind (execEmission second)
  | .branch condition whenTrue whenFalse,data =>
    (execEmission condition data).bind fun data =>
      match machine.popTruth data with
      | none => .stopped []
      | some (true,data) => execEmission whenTrue data
      | some (false,data) => execEmission whenFalse data
  | .always arm _,data => execEmission arm data

def execOption : Option Emission → Data → Progress Data
  | some emission,data => execEmission machine emission data
  | none,data => .value data []

def execTest (condition : Emission) (data : Data) : Progress (Bool × Data) :=
  (execEmission machine condition data).bind fun data =>
    match machine.popTruth data with
    | none => .stopped []
    | some result => .value result []

def evaluate : List Emission → Data → Progress Data
  | [],data => .value data []
  | body :: registrations,data => (execEmission machine body data).bind (evaluate registrations)

def blockAtEnd (body : Statement .block) (inner : List OpenBlock) : OpenBlock :=
  (blocksAfter body inner).headD .plain

def leave (block : OpenBlock) (result : Completion × Data × List Emission) :
    Progress (Completion × Data) :=
  ((evaluate machine result.2.2 result.2.1).bind fun data => .value (result.1,data) []).after
    (if result.1 = .normal then [.left (.fallsOff block)] else [])

@[grind] def iterate (test : Data → Progress (Bool × Data)) (body : Data → Progress (Completion × Data)) :
    (turns : Nat) → Data → Progress (Completion × Data)
  | 0,_ => .timeout []
  | turns + 1,data =>
    (test data).bind fun
      | (false,data) => .value (.normal,data) []
      | (true,data) => (body data).bind fun
        | (.normal,data) | (.continue,data) => iterate test body turns data
        | (.break,data) => .value (.normal,data) []
        | (completion,data) => .value (completion,data) []

/-- A construct other than a block keeps the registrations of the block that it stands in. -/
def keeping (own : List Emission) (result : Progress (Completion × Data)) :
    Progress (Completion × Data × List Emission) :=
  result.bind fun (completion,data) => .value (completion,data,own) []

def repeating (policy : Policy) (afterRepeat : Emission) : Completion × Data → Progress (Completion × Data)
  | (.normal,data) => (execEmission machine afterRepeat data).bind fun data => .value (.normal,data) []
  | (.continue,data) =>
    match policy with
    | .prescribed => (execEmission machine afterRepeat data).bind fun data => .value (.normal,data) []
    | .emitted => .value (.normal,data) []
  | (completion,data) => .value (completion,data) []

def endSwitch (policy : Policy) : Completion × Data → Progress (Completion × Data)
  | (.break,data) => .value (.normal,data) []
  | (.continue,data) =>
    match policy with
    | .prescribed => .value (.continue,data) []
    | .emitted => .value (.restart,data) []
  | (completion,data) => .value (completion,data) []

/-- The statement run under open blocks, with the registrations made in the innermost one. A
`try` or a `throw` stops the run. -/
@[grind] def exec (policy : Policy) (turns : Nat) : {kind : StatementKind} → Statement kind → List OpenBlock →
    Data → List Emission → Progress (Completion × Data × List Emission)
  | _,.simple emission,_,data,own => (execEmission machine emission data).bind fun data =>
      .value (.normal,data,own) []
  | _,.returnStatement value,blocks,data,own => (execOption machine value data).bind fun data =>
      .value (.return,data,own) [.left (.returns blocks)]
  | _,.breakStatement,blocks,data,own => .value (.break,data,own) [.left (.breaks blocks)]
  | _,.continueStatement,blocks,data,own => .value (.continue,data,own) [.left (.continues blocks)]
  | _,.whileStatement condition body,blocks,data,own =>
      let inner := .body true .loop :: blocks
      keeping own (iterate (execTest machine condition) (fun data =>
        (exec policy turns body inner data []).bind (leave machine (blockAtEnd body inner))) turns data)
  | _,.untilStatement condition body,blocks,data,own =>
      let inner := .body true .loop :: blocks
      keeping own (iterate
        (fun data => (execTest machine condition data).bind fun (truth,data) => .value (!truth,data) [])
        (fun data => (exec policy turns body inner data []).bind (leave machine (blockAtEnd body inner)))
        turns data)
  | _,.forStatement initializer condition afterRepeat body,blocks,data,own =>
      let inner := .body true .counting :: blocks
      (execEmission machine initializer data).bind fun data =>
        keeping own (iterate (execTest machine condition) (fun data =>
          ((exec policy turns body inner data []).bind (leave machine (blockAtEnd body inner))).bind
            (repeating machine policy afterRepeat)) turns data)
  | _,.enumeration forEach start moveNext current body,blocks,data,own =>
      let inner := .body forEach .loop :: blocks
      (execEmission machine start data).bind fun data =>
        keeping own (iterate (execTest machine moveNext) (fun data =>
          (execEmission machine current data).bind fun data =>
            (exec policy turns body inner data []).bind (leave machine (blockAtEnd body inner))) turns data)
  | _,.conditional first,blocks,data,own => exec policy turns first blocks data own
  | _,.switchStatement scrutinee cases,blocks,data,own =>
      if cases.isNoCase then .value (.normal,data,own) []
      else (execEmission machine scrutinee data).bind fun data =>
        (exec policy turns cases blocks data own).bind fun (completion,data,own) =>
          keeping own (endSwitch policy (completion,data))
  | _,.deferStatement resource body,_,data,own => (execEmission machine resource data).bind fun data =>
      .value (.normal,data,body :: own) []
  | _,.empty,_,data,own | _,.noNext,_,data,own | _,.noCase,_,data,own => .value (.normal,data,own) []
  | _,.cons first rest,blocks,data,own =>
      (exec policy turns first blocks data own).bind fun
        | (.normal,data,own) => exec policy turns rest (blocksAfter first blocks) data own
        | result => .value result []
  | _,.ifClause negated condition body next,blocks,data,own =>
      let inner := .plain :: blocks
      (execTest machine condition data).bind fun (truth,data) =>
        if truth = negated then exec policy turns next (blocksAfter body inner).tail data own
        else keeping own ((exec policy turns body inner data []).bind (leave machine (blockAtEnd body inner)))
  | _,.elseClause body,blocks,data,own =>
      let inner := .plain :: blocks
      keeping own ((exec policy turns body inner data []).bind (leave machine (blockAtEnd body inner)))
  | _,.elseIf clause,blocks,data,own => exec policy turns clause blocks data own
  | _,.defaultClause body _,blocks,data,own =>
      let inner := .body false .switch :: blocks
      keeping own ((exec policy turns body inner data []).bind (leave machine (blockAtEnd body inner)))
  | _,.caseClause test bind body rest,blocks,data,own =>
      let inner := .body false .switch :: blocks
      (execTest machine test data).bind fun
        | (true,data) => (execEmission machine bind data).bind fun data =>
            keeping own ((exec policy turns body inner data []).bind (leave machine (blockAtEnd body inner)))
        | (false,data) => exec policy turns rest (blocksAfter body inner).tail data own
  | _,.throwStatement _,_,_,_ | _,.tryStatement _ _,_,_,_ | _,.noCatch,_,_,_
  | _,.catchClause _ _ _ _,_,_,_ => .stopped []

def placeReturned (data : Data) : Progress Data :=
  if machine.returnsValue then
    match machine.placeReturned data with
    | none => .stopped []
    | some data => .value data []
  else .value data []

def bodyBlocks : List OpenBlock := [.plain]

def execBody (policy : Policy) (turns : Nat) (body : Statement .block) (data : Data) :
    Progress (Completion × Data) :=
  ((exec machine policy turns body bodyBlocks data []).bind
    (leave machine (blockAtEnd body bodyBlocks))).bind fun
    | (.restart,data) => .value (.restart,data) []
    | (_,data) => (placeReturned machine data).bind fun data => .value (.return,data) []

def Exit.drains : Exit → Bool
  | .fallsOff block => block.count = block.registered
  | .breaks blocks =>
      (leftBlocks blocks).all (fun block => block.count = block.registered) &&
        (overdrained blocks).all fun block => block.count = 0
  | .continues blocks =>
      (if construct? blocks = some .switch then blocks else leftBlocks blocks).all
        fun block => block.registered = 0
  | .returns blocks => blocks.all fun block => block.count = block.registered

def Exit.lands : Exit → Bool
  | .continues blocks => construct? blocks = some .loop
  | _ => true

end ShardScript.Source
