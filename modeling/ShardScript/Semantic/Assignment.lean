import Mathlib.Data.Finset.Basic
import ShardScript.Binding.Scope
import ShardScript.Semantic.Expression
import ShardScript.Semantic.FlowState
import ShardScript.Syntax.Statement

/-! The definite assignment check of the flow analysis: one set of assigned variables, and a search by
name in the scopes that the analysis pushes. -/
namespace ShardScript.Semantic.Assignment
open Syntax
open Binding (Owner SemanticScope Scopes SyntaxSymbol lookup)

inductive Expression (Form : Type) where
  | memberAccess (identifierToken : SyntaxToken) (word : String)
  | binary (operator : TokenType) (left right : Expression Form)
  | other (form : Form)

inductive Code (Form : Type) where
  | expression (expression : Expression Form)
  | declaration (symbol : SyntaxSymbol) (initializer : Option (Expression Form))

structure UseReport where
  token : SyntaxToken
  message : String
  deriving DecidableEq

structure Assignments where
  assigned : Finset SyntaxSymbol
  reports : List UseReport

namespace Assignments

def markAssigned (symbol : SyntaxSymbol) (state : Assignments) : Assignments :=
  { state with assigned := insert symbol state.assigned }

def report (reports : List UseReport) (state : Assignments) : Assignments :=
  { state with reports := state.reports ++ reports }

def restoring (part : Assignments → Assignments) (state : Assignments) : Assignments :=
  { part state with assigned := state.assigned }

end Assignments

section Analyzer

variable {Form TypeSymbol : Type} (scopes : Scopes)

def lookupVariable (word : String) : Option SyntaxSymbol :=
  (lookup scopes word).filter fun symbol => symbol.kind = .variableStatement

def analyzeExpressionForAssignment : Expression Form → Assignments → Assignments
  | .binary .assignOperator (.memberAccess _ word) _,state =>
      match lookupVariable scopes word with
      | some symbol => state.markAssigned symbol
      | none => state
  | _,state => state

def unassignedUses (assigned : Finset SyntaxSymbol) : Expression Form → List UseReport
  | .memberAccess token word =>
      match lookupVariable scopes word with
      | some symbol =>
        if symbol ∈ assigned then []
        else [⟨token,"Use of unassigned local variable '" ++ symbol.name ++ "'"⟩]
      | none => []
  | .binary _ left right => unassignedUses assigned left ++ unassignedUses assigned right
  | .other _ => []

def analyzeExpressionForUse (expression : Expression Form) (state : Assignments) : Assignments :=
  state.report (unassignedUses scopes state.assigned expression)

def visitVariableStatement : Option (Code Form) → Assignments → Assignments
  | some (.declaration symbol (some initializer)),state =>
      (analyzeExpressionForUse scopes initializer state).markAssigned symbol
  | _,state => state

def analyzeSimple : Simple (Code Form) → Assignments → Assignments
  | .expressionStatement (.expression expression),state =>
      analyzeExpressionForUse scopes expression (analyzeExpressionForAssignment scopes expression state)
  | .expressionStatement (.declaration _ _),state => state
  | .variableStatement _ value,state => visitVariableStatement scopes value state

def analyzeHead (statement : Option (Simple (Code Form))) (state : Assignments) : Assignments :=
  match statement with
  | none => state
  | some statement => analyzeSimple scopes statement state

def scanStatement : Simple (Code Form) → Assignments → Assignments
  | .expressionStatement _,state => state
  | .variableStatement _ value,state => visitVariableStatement scopes value state

variable (catchSymbols : Path → Option SyntaxSymbol)

/-- The assignments of `AnalyzeStatement` and `AnalyzeStatementsBlock` in a member that is not async. -/
@[grind] def analyzeAssignments : {kind : StatementKind} → Statement (Code Form) TypeSymbol kind → Path →
    Assignments → Assignments
  | _,.simple statement,_,state | _,.deferStatement _ statement,_,state =>
      analyzeSimple scopes statement state
  | _,.returnStatement _,_,state | _,.throwStatement _,_,state | _,.breakStatement,_,state
  | _,.continueStatement,_,state => state
  | _,.whileStatement _ body,path,state | _,.untilStatement _ body,path,state
  | _,.forEachStatement _ _ body,path,state | _,.forInStatement _ _ body,path,state =>
      state.restoring (analyzeAssignments body (0 :: path))
  | _,.forStatement initializer _ afterRepeat body,path,state =>
      analyzeHead scopes afterRepeat
        ((analyzeHead scopes initializer state).restoring (analyzeAssignments body (0 :: path)))
  | _,.conditional first,path,state => analyzeAssignments first (0 :: path) state
  | _,.switchStatement _ cases,path,state => state.restoring (analyzeAssignments cases (0 :: path))
  | _,.tryStatement body catches,path,state =>
      analyzeAssignments catches (1 :: path) (analyzeAssignments body (0 :: path) state)
  | _,.empty,_,state | _,.noNext,_,state | _,.noCase,_,state | _,.noCatch,_,state => state
  | _,.cons first rest,path,state =>
      let behind := analyzeAssignments first (0 :: path) state
      -- The statements behind a terminal one are not looked at.
      if (analyze false first 0 0 (0 :: path)).state.isTerminal then behind
      else analyzeAssignments rest (1 :: path) behind
  | _,.ifClause _ condition body next,path,state =>
      analyzeAssignments next (1 :: path)
        (analyzeAssignments body (0 :: path) (scanStatement scopes condition state))
  | _,.elseClause body,path,state => analyzeAssignments body (0 :: path) state
  | _,.elseIf clause,path,state => analyzeAssignments clause (0 :: path) state
  | _,.defaultClause body rest,path,state | _,.caseClause _ body rest,path,state =>
      analyzeAssignments rest (1 :: path) (analyzeAssignments body (0 :: path) state)
  | _,.catchClause _ _ body rest,path,state =>
      let caught := match catchSymbols path with
        | some symbol => state.markAssigned symbol
        | none => state
      analyzeAssignments rest (1 :: path) (analyzeAssignments body (0 :: path) caught)

end Analyzer

/-- The scopes around members. No variable is declared outside of a member. -/
structure Surroundings where
  scopes : Scopes
  no_variable : ∀ word symbol, lookup scopes word = some symbol → symbol.kind ≠ .variableStatement

structure MethodDeclaration (Form TypeSymbol : Type) where
  symbol : Owner
  declared : List SyntaxSymbol
  body : Statement (Code Form) TypeSymbol .block
  catchSymbols : Path → Option SyntaxSymbol
  declared_kind : ∀ symbol ∈ declared, symbol.kind = .typeParameter ∨ symbol.kind = .parameter

variable {Form TypeSymbol : Type}

def MethodDeclaration.scope (method : MethodDeclaration Form TypeSymbol) : Except String SemanticScope :=
  method.declared.foldlM SemanticScope.declareSymbol (SemanticScope.fresh (some method.symbol) none)

def visitMethodDeclaration (around : Surroundings) (method : MethodDeclaration Form TypeSymbol)
    (assigned : Finset SyntaxSymbol) : Except String Assignments :=
  method.scope.map fun scope =>
    analyzeAssignments (scope :: around.scopes) method.catchSymbols method.body [] ⟨assigned,[]⟩

end ShardScript.Semantic.Assignment
