import ShardScript.Emitter.Emission
import ShardScript.Syntax.Statement

/-! The scan of a hoisted body for its await sites: where each of them stands, and which statement
goes on after it. -/
namespace ShardScript.Async
open Syntax ByteCode
open Emitter (Emission EvalLayoutTracker)

structure Callee where
  address : Address
  isInterfaceMember : Bool
  argumentsCount : Nat
  returns : Option Nat

structure AwaitExpression where
  operand : Emission
  awaiterType : Option Nat
  getAwaiterMethod : Option Callee
  isCompletedMethod : Callee
  onCompletedMethod : Callee
  getResultMethod : Option Callee

inductive Expression where
  | plain (emission : Emission)
  | await (expression : AwaitExpression)

abbrev TypeSymbol := Address

abbrev Body := Statement Expression TypeSymbol

inductive Owner where
  | method | clause
  | loop (statement : Path)
  | tryBlock (statement : Path)
  | catchClause (statement : Path)
  | switchClause
  deriving DecidableEq

structure Level where
  owner : Owner
  next : Option Path
  deriving DecidableEq

def findResumeStatement : List Level → Option Path
  | [] => none
  | level :: outer =>
    match level.next with
    | some statement => some statement
    | none =>
      match level.owner with
      | .loop statement => some statement
      | _ => findResumeStatement outer

structure AwaitSite where
  expression : AwaitExpression
  statement : Path
  ancestors : Option (List Level)
  nextStatement : Option Path
  activeTryStack : List Path
  resultVariable : Option Path
  isReturnAwait : Bool
  enclosingCatch : Option Path

structure Scan where
  awaitSites : List AwaitSite := []
  supported : Bool := true
  enumeratorLoops : List Path := []

structure Surroundings where
  ancestors : Option (List Level)
  activeTryStack : List Path := []
  currentCatch : Option Path := none

namespace Surroundings

def site (around : Surroundings) (expression : AwaitExpression) (statement : Path) : AwaitSite where
  expression := expression
  statement := statement
  ancestors := around.ancestors
  nextStatement := around.ancestors.bind findResumeStatement
  activeTryStack := around.activeTryStack
  resultVariable := none
  isReturnAwait := false
  enclosingCatch := around.currentCatch

def block (around : Surroundings) (owner : Owner) (next : Option Path) : Surroundings :=
  { around with ancestors := some (⟨owner,next⟩ :: around.ancestors.getD []) }

def head (around : Surroundings) : Surroundings := { around with ancestors := none }

end Surroundings

namespace Scan

def add (site : AwaitSite) (scan : Scan) : Scan := { scan with awaitSites := scan.awaitSites ++ [site] }

/-- `VisitExpressionStatement` and `VisitVariableStatement`. The second one assigns the flag, and may
set it again. -/
def visitSimple (around : Surroundings) (path : Path) : Simple Expression → Scan → Scan
  | .expressionStatement (.await expression),scan =>
      if expression.awaiterType.isNone then { scan with supported := false }
      else scan.add (around.site expression path)
  | .variableStatement _ (some (.await expression)),scan =>
      if expression.awaiterType.isNone then { scan with supported := false }
      else { scan with supported := true }.add
        { around.site expression path with resultVariable := some path }
  | _,scan => scan

def visitReturn (around : Surroundings) (path : Path) : Option Expression → Scan → Scan
  | some (.await expression),scan =>
      if expression.awaiterType.isNone then { scan with supported := false }
      else { scan with supported := true }.add
        { around.site expression path with nextStatement := none, isReturnAwait := true }
  | _,scan => scan

def visitOptional (around : Surroundings) (path : Path) (statement : Option (Simple Expression))
    (scan : Scan) : Scan :=
  match statement with
  | none => scan
  | some statement => scan.visitSimple around path statement

def guarded (step : Scan → Scan) (scan : Scan) : Scan := if scan.supported then step scan else scan

def enumeration (loop : Path) (body : Scan → Scan) (scan : Scan) : Scan :=
  let bodied := body scan
  if bodied.awaitSites.length ≠ scan.awaitSites.length
  then { bodied with enumeratorLoops := bodied.enumeratorLoops ++ [loop] } else bodied

end Scan

/-- The `AwaitScanVisitor`, for bodies without lambdas in thrown expressions, in the heads of loops and in switches,
into which it goes on. The statements of a block have its owner, and a node the surroundings of the statement that it is
a part of. -/
@[grind] def visit : {kind : StatementKind} → Body kind → Owner → Surroundings → Path → Scan → Scan
  | _,.simple statement,_,around,path,scan => scan.visitSimple around path statement
  | _,.returnStatement value,_,around,path,scan => scan.visitReturn around path value
  | _,.throwStatement _,_,_,_,scan | _,.breakStatement,_,_,_,scan | _,.continueStatement,_,_,_,scan => scan
  | _,.whileStatement _ body,_,around,path,scan | _,.untilStatement _ body,_,around,path,scan =>
      scan.guarded (visit body (.loop path) around (0 :: path))
  | _,.forStatement initializer _ afterRepeat body,_,around,path,scan =>
      scan.guarded fun scan => (scan.visitOptional around.head path initializer).guarded
        fun scan => (scan.visitOptional around.head path afterRepeat).guarded
          (visit body (.loop path) around (0 :: path))
  | _,.forEachStatement _ _ body,_,around,path,scan | _,.forInStatement _ _ body,_,around,path,scan =>
      scan.guarded (Scan.enumeration path (visit body (.loop path) around (0 :: path)))
  | _,.conditional first,owner,around,path,scan => visit first owner around (0 :: path) scan
  | _,.switchStatement _ cases,owner,around,path,scan => visit cases owner around (0 :: path) scan
  | _,.tryStatement body catches,owner,around,path,scan =>
      let tried := visit body (.tryBlock path)
        { around with activeTryStack := around.activeTryStack ++ [path] } (0 :: path) scan
      tried.guarded (visit catches owner around (1 :: path))
  | _,.deferStatement _ statement,_,around,path,scan =>
      let visited := scan.visitSimple around.head path statement
      if visited.awaitSites.length ≠ scan.awaitSites.length then { visited with supported := false }
      else visited
  | _,.empty,_,_,_,scan | _,.noNext,_,_,_,scan | _,.noCase,_,_,_,scan | _,.noCatch,_,_,_,scan => scan
  | _,.cons first rest,owner,around,path,scan =>
      let next := if rest.isEmpty then none else some (0 :: 1 :: path)
      visit rest owner around (1 :: path)
        (visit first owner (around.block owner next) (0 :: path) scan)
  | _,.ifClause _ _ body next,owner,around,path,scan =>
      (visit body .clause around (0 :: path) scan).guarded (visit next owner around (1 :: path))
  | _,.elseClause body,_,around,path,scan => visit body .clause around (0 :: path) scan
  | _,.elseIf clause,owner,around,path,scan => visit clause owner around (0 :: path) scan
  | _,.defaultClause body rest,owner,around,path,scan | _,.caseClause _ body rest,owner,around,path,scan =>
      visit rest owner around (1 :: path) (visit body .switchClause around (0 :: path) scan)
  | _,.catchClause _ _ body rest,owner,around,path,scan =>
      (visit body (.catchClause path) { around with currentCatch := some path } (0 :: path) scan).guarded
        (visit rest owner around (1 :: path))

def scanBody (body : Body .block) : Scan := visit body .method ⟨none,[],none⟩ [] {}

def tryBlocks (levels : List Level) : List Path :=
  levels.filterMap fun level =>
    match level.owner with
    | .tryBlock statement => some statement
    | _ => none

structure AwaitSite.Described (site : AwaitSite) : Prop where
  tries : ∀ levels, site.ancestors = some levels → site.activeTryStack.reverse = tryBlocks levels
  next : ∀ levels, site.ancestors = some levels → site.isReturnAwait = false →
    site.nextStatement = findResumeStatement levels

def AllDescribed (scan : Scan) : Prop := ∀ site ∈ scan.awaitSites, site.Described

/-- The scan's stack is made of the `try` blocks around what is visited; a block's own one counts. -/
def Surroundings.Fits (around : Surroundings) : StatementKind → Owner → Prop
  | .block,owner => around.activeTryStack.reverse = tryBlocks (⟨owner,none⟩ :: around.ancestors.getD [])
  | _,_ => around.activeTryStack.reverse = tryBlocks (around.ancestors.getD [])

namespace AllDescribed

variable {scan : Scan} {around : Surroundings} {path : Path}

theorem add {site : AwaitSite} (described : AllDescribed scan) (site_ : site.Described) :
    AllDescribed (scan.add site) := by
  intro other member
  rcases List.mem_append.1 member with member | member
  · exact described other member
  · rw [List.mem_singleton.1 member]
    exact site_

theorem guarded {step : Scan → Scan} (described : AllDescribed scan)
    (kept : ∀ scan, AllDescribed scan → AllDescribed (step scan)) : AllDescribed (scan.guarded step) := by
  unfold Scan.guarded
  split
  · exact kept scan described
  · exact described

theorem resume_eq {levels : List Level} (blocks : around.ancestors = some levels) :
    around.ancestors.bind findResumeStatement = findResumeStatement levels := by
  rw [blocks,Option.bind_some]

theorem visitSimple (described : AllDescribed scan) (statement : Simple Expression)
    (tries : ∀ levels, around.ancestors = some levels → around.activeTryStack.reverse = tryBlocks levels) :
    AllDescribed (scan.visitSimple around path statement) := by
  unfold Scan.visitSimple
  split
  · split
    · exact described
    · exact described.add ⟨tries,fun _ blocks _ => resume_eq blocks⟩
  · split
    · exact described
    · exact add described ⟨tries,fun _ blocks _ => resume_eq blocks⟩
  · exact described

theorem visitReturn (described : AllDescribed scan) (value : Option Expression)
    (tries : ∀ levels, around.ancestors = some levels → around.activeTryStack.reverse = tryBlocks levels) :
    AllDescribed (scan.visitReturn around path value) := by
  unfold Scan.visitReturn
  split
  · split
    · exact described
    · exact add described ⟨tries,fun _ _ other => absurd other (by simp)⟩
  · exact described

theorem visitOptional (described : AllDescribed scan) (statement : Option (Simple Expression)) :
    AllDescribed (scan.visitOptional around.head path statement) := by
  cases statement with
  | none => exact described
  | some statement => exact described.visitSimple statement (by simp [Surroundings.head])

theorem enumeration {body : Scan → Scan} (bodied : AllDescribed (body scan)) :
    AllDescribed (scan.enumeration path body) := by
  unfold Scan.enumeration
  dsimp only
  split
  · exact bodied
  · exact bodied

end AllDescribed

theorem visit_described {kind : StatementKind} (node : Body kind) (owner : Owner) (around : Surroundings)
    (path : Path) (scan : Scan) (fits : around.Fits kind owner) (described : AllDescribed scan) :
    AllDescribed (visit node owner around path scan) := by
  induction node generalizing owner around path scan with
  | simple statement =>
    refine described.visitSimple statement fun levels blocks => ?_
    simpa [Surroundings.Fits,blocks] using fits
  | returnStatement value =>
    refine described.visitReturn value fun levels blocks => ?_
    simpa [Surroundings.Fits,blocks] using fits
  | throwStatement | breakStatement | continueStatement | empty | noNext | noCase | noCatch =>
    exact described
  | whileStatement condition body ih | untilStatement condition body ih =>
    exact described.guarded fun scan described => ih _ _ _ _ fits described
  | forStatement initializer condition afterRepeat body ih =>
    refine described.guarded fun scan described => ?_
    refine (described.visitOptional initializer).guarded fun scan described => ?_
    exact (described.visitOptional afterRepeat).guarded fun scan described => ih _ _ _ _ fits described
  | forEachStatement name range body ih | forInStatement name range body ih =>
    exact described.guarded fun scan described => .enumeration (ih _ _ _ _ fits described)
  | conditional first ih | switchStatement scrutinee cases ih | elseIf clause ih =>
    exact ih _ _ _ _ fits described
  | elseClause body ih => exact ih _ _ _ _ fits described
  | tryStatement body catches ihBody ihCatches =>
    refine AllDescribed.guarded (ihBody _ _ _ _ ?_ described) fun scan described => ihCatches _ _ _ _ fits described
    have outer : around.activeTryStack.reverse = tryBlocks (around.ancestors.getD []) := fits
    simp [Surroundings.Fits,tryBlocks,outer]
  | deferStatement isResource statement =>
    have visited : AllDescribed (scan.visitSimple around.head path statement) :=
      described.visitSimple statement (by simp [Surroundings.head])
    simp only [visit]
    split
    · exact visited
    · exact visited
  | cons first rest ihFirst ihRest =>
    exact ihRest _ _ _ _ fits (ihFirst _ _ _ _ fits described)
  | ifClause negated condition body next ihBody ihNext =>
    exact AllDescribed.guarded (ihBody _ _ _ _ fits described) fun scan described => ihNext _ _ _ _ fits described
  | defaultClause body rest ihBody ihRest | caseClause pattern body rest ihBody ihRest =>
    exact ihRest _ _ _ _ fits (ihBody _ _ _ _ fits described)
  | catchClause type name body rest ihBody ihRest =>
    exact AllDescribed.guarded (ihBody _ _ _ _ fits described) fun scan described => ihRest _ _ _ _ fits described

theorem scanBody_described (body : Body .block) : AllDescribed (scanBody body) :=
  visit_described body .method ⟨none,[],none⟩ [] {} rfl (by simp [AllDescribed])

end ShardScript.Async
