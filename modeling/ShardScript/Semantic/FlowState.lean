import ShardScript.Syntax.Statement

/-! The flow analysis of member bodies: which ways out of a statement there are, and what is
reported of the body. -/
namespace ShardScript.Semantic
open Syntax

structure FlowState where
  returns : Bool := false
  breaks : Bool := false
  continues : Bool := false
  throws : Bool := false
  normal : Bool := false
  deriving DecidableEq

namespace FlowState

def isTerminal (state : FlowState) : Bool := !state.normal

def mergeBranches (one two : FlowState) : FlowState :=
  ⟨one.returns || two.returns,one.breaks || two.breaks,one.continues || two.continues,
    one.throws || two.throws,one.normal || two.normal⟩

/-- A consumed jump leaves normal flow behind unless the body also returns or throws. -/
def withoutBreaksAndContinues (state : FlowState) : FlowState :=
  if !state.normal && !state.returns && !state.throws then { normal := true }
  else { state with breaks := false, continues := false }

def withoutThrows (state : FlowState) : FlowState :=
  if !state.normal && !state.returns && !state.breaks && !state.continues then { normal := true }
  else { state with throws := false }

end FlowState

inductive Location where
  | statement (path : Path)
  | endOfBody
  deriving DecidableEq

structure Report where
  location : Location
  message : String
  deriving DecidableEq

namespace Report

def breakOutside (path : Path) : Report :=
  ⟨.statement path,"Break statement must be inside a loop or switch"⟩

def continueOutside (path : Path) : Report :=
  ⟨.statement path,"Continue statement must be inside a loop"⟩

def unreachableCode (path : Path) : Report := ⟨.statement path,"Unreachable code detected"⟩

def missingReturn (returnType : String) : Report :=
  ⟨.endOfBody,"Method must return a value of type '" ++ returnType ++ "'"⟩

end Report

structure Analysis where
  state : FlowState
  reports : List Report

variable {Expression TypeSymbol : Type}

@[grind] def analyze (isAsync : Bool) : {kind : StatementKind} → Statement Expression TypeSymbol kind →
    (loopDepth switchDepth : Nat) → Path → Analysis
  | _,.simple _,_,_,_ | _,.deferStatement _ _,_,_,_ => ⟨{ normal := true },[]⟩
  | _,.returnStatement _,_,_,_ => ⟨{ returns := true },[]⟩
  | _,.throwStatement _,_,_,_ => ⟨{ throws := true },[]⟩
  | _,.breakStatement,loopDepth,switchDepth,path =>
      ⟨{ breaks := true },if loopDepth = 0 ∧ switchDepth = 0 then [.breakOutside path] else []⟩
  | _,.continueStatement,loopDepth,_,path =>
      ⟨{ continues := true },if loopDepth = 0 then [.continueOutside path] else []⟩
  | _,.whileStatement _ body,loopDepth,switchDepth,path
  | _,.untilStatement _ body,loopDepth,switchDepth,path
  | _,.forStatement _ _ _ body,loopDepth,switchDepth,path
  | _,.forEachStatement _ _ body,loopDepth,switchDepth,path
  | _,.forInStatement _ _ body,loopDepth,switchDepth,path =>
      ⟨{ normal := true },(analyze isAsync body (loopDepth + 1) switchDepth (0 :: path)).reports⟩
  | _,.conditional first,loopDepth,switchDepth,path =>
      analyze isAsync first loopDepth switchDepth (0 :: path)
  | _,.switchStatement _ cases,loopDepth,switchDepth,path =>
      let clauses := analyze isAsync cases loopDepth (switchDepth + 1) (0 :: path)
      ⟨if cases.isNoCase then { normal := true } else clauses.state,clauses.reports⟩
  | _,.tryStatement body catches,loopDepth,switchDepth,path =>
      let tried := analyze isAsync body loopDepth switchDepth (0 :: path)
      let caught := analyze isAsync catches loopDepth switchDepth (1 :: path)
      ⟨if catches.isNoCatch then tried.state else tried.state.withoutThrows.mergeBranches caught.state,
        tried.reports ++ caught.reports⟩
  | _,.empty,_,_,_ | _,.noNext,_,_,_ => ⟨{ normal := true },[]⟩
  | _,.cons first rest,loopDepth,switchDepth,path =>
      let analyzed := analyze isAsync first loopDepth switchDepth (0 :: path)
      if rest.isEmpty then analyzed
      else if analyzed.state.isTerminal then
        -- The statements behind a terminal one are not looked at.
        ⟨analyzed.state,
          analyzed.reports ++ if isAsync then [] else [.unreachableCode (0 :: 1 :: path)]⟩
      else
        let following := analyze isAsync rest loopDepth switchDepth (1 :: path)
        ⟨following.state,analyzed.reports ++ following.reports⟩
  | _,.ifClause _ _ body next,loopDepth,switchDepth,path =>
      let taken := analyze isAsync body loopDepth switchDepth (0 :: path)
      let passed := analyze isAsync next loopDepth switchDepth (1 :: path)
      ⟨taken.state.mergeBranches passed.state,taken.reports ++ passed.reports⟩
  | _,.elseClause body,loopDepth,switchDepth,path =>
      analyze isAsync body loopDepth switchDepth (0 :: path)
  | _,.elseIf clause,loopDepth,switchDepth,path =>
      analyze isAsync clause loopDepth switchDepth (0 :: path)
  | _,.noCase,_,_,_ | _,.noCatch,_,_,_ => ⟨{},[]⟩
  | _,.defaultClause body rest,loopDepth,switchDepth,path
  | _,.caseClause _ body rest,loopDepth,switchDepth,path =>
      let clause := analyze isAsync body loopDepth switchDepth (0 :: path)
      let others := analyze isAsync rest loopDepth switchDepth (1 :: path)
      ⟨clause.state.withoutBreaksAndContinues.mergeBranches others.state,clause.reports ++ others.reports⟩
  | _,.catchClause _ _ body rest,loopDepth,switchDepth,path =>
      let clause := analyze isAsync body loopDepth switchDepth (0 :: path)
      let others := analyze isAsync rest loopDepth switchDepth (1 :: path)
      ⟨clause.state.mergeBranches others.state,clause.reports ++ others.reports⟩

/-- What is reported of a member's body; a body of no value has no return type here. -/
def analyzeMemberBody (isAsync : Bool) (returnType : Option String)
    (body : Statement Expression TypeSymbol .block) (loopDepth switchDepth : Nat) : List Report :=
  let analyzed := analyze isAsync body loopDepth switchDepth []
  analyzed.reports ++
    match isAsync,returnType with
    | false,some returnType =>
      if analyzed.state.normal || analyzed.state.breaks || analyzed.state.continues
      then [.missingReturn returnType] else []
    | _,_ => []

end ShardScript.Semantic
