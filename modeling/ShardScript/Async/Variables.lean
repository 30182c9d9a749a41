import Mathlib.Algebra.Order.Group.Multiset
import Mathlib.Tactic.Abel
import ShardScript.Async.MethodInfo
import ShardScript.Syntax.Statement

/-! The variables of an async method: the walks of the analysis pass that collect them, and the slots of
`MoveNext` that it gives to those it finds. -/
namespace ShardScript.Async
open Syntax ByteCode

structure VariableSymbol where
  type : Option Nat
  slotIndex : UInt16

/-- What the passes in front of the lowering know of the variables, which are told apart by their
addresses. -/
structure SemanticModel where
  lookupSymbol : Path → Option Nat
  symbol : Nat → VariableSymbol
  lambdaVariables : Expression → List Nat

def Expression.isPlain : Expression → Bool
  | .plain _ => true
  | .await _ => false

abbrev SyntaxNode := Path × Node Expression TypeSymbol

namespace SemanticModel

variable (model : SemanticModel)

def lambdaVariablesOf (value : Option Expression) : List Nat := value.toList.flatMap model.lambdaVariables

/-- `VisitExpressionStatement` and `VisitVariableStatement` of the `VariableCollector`. -/
def collectSimple : Simple Expression → Path → List Nat
  | .expressionStatement expression,_ => model.lambdaVariables expression
  | .variableStatement _ value,path => (model.lookupSymbol path).toList ++ model.lambdaVariablesOf value

def collectHead (child : Nat) (path : Path) (statement : Option (Simple Expression)) : List Nat :=
  statement.toList.flatMap fun statement => model.collectSimple statement (child :: path)

@[grind] def collect : {kind : StatementKind} → Body kind → Path → List Nat
  | _,.simple statement,path => model.collectSimple statement path
  | _,.returnStatement value,_ | _,.throwStatement value,_ => model.lambdaVariablesOf value
  | _,.breakStatement,_ | _,.continueStatement,_ => []
  | _,.whileStatement condition body,path | _,.untilStatement condition body,path =>
      model.lambdaVariables condition ++ collect body (0 :: path)
  | _,.forStatement initializer condition afterRepeat body,path =>
      model.collectHead 1 path initializer ++ model.lambdaVariablesOf condition ++
        model.collectHead 2 path afterRepeat ++ collect body (0 :: path)
  | _,.forEachStatement _ range body,path | _,.forInStatement _ range body,path =>
      (model.lookupSymbol path).toList ++ model.lambdaVariables range ++ collect body (0 :: path)
  | _,.conditional first,path => collect first (0 :: path)
  | _,.switchStatement scrutinee cases,path =>
      model.lambdaVariables scrutinee ++ collect cases (0 :: path)
  | _,.tryStatement body catches,path => collect body (0 :: path) ++ collect catches (1 :: path)
  | _,.deferStatement _ statement,path => model.collectHead 0 path (some statement)
  | _,.empty,_ | _,.noNext,_ | _,.noCase,_ | _,.noCatch,_ => []
  | _,.cons first rest,path => collect first (0 :: path) ++ collect rest (1 :: path)
  | _,.ifClause _ condition body next,path =>
      model.collectHead 2 path (some condition) ++ collect body (0 :: path) ++ collect next (1 :: path)
  | _,.elseClause body,path => collect body (0 :: path)
  | _,.elseIf clause,path => collect clause (0 :: path)
  | _,.defaultClause body rest,path => collect body (0 :: path) ++ collect rest (1 :: path)
  | _,.caseClause pattern body rest,path =>
      model.lambdaVariables pattern ++ collect body (0 :: path) ++ collect rest (1 :: path)
  | _,.catchClause _ _ body rest,path => collect body (0 :: path) ++ collect rest (1 :: path)

@[grind] def declared : SyntaxNode → List Nat
  | (path,⟨_,.simple statement⟩) => model.collectSimple statement path
  | (_,⟨_,.returnStatement value⟩) | (_,⟨_,.throwStatement value⟩) => model.lambdaVariablesOf value
  | (_,⟨_,.whileStatement condition _⟩) | (_,⟨_,.untilStatement condition _⟩) =>
      model.lambdaVariables condition
  | (_,⟨_,.forStatement _ condition _ _⟩) => model.lambdaVariablesOf condition
  | (path,⟨_,.forEachStatement _ range _⟩) | (path,⟨_,.forInStatement _ range _⟩) =>
      (model.lookupSymbol path).toList ++ model.lambdaVariables range
  | (_,⟨_,.switchStatement scrutinee _⟩) => model.lambdaVariables scrutinee
  | (_,⟨_,.caseClause pattern _ _⟩) => model.lambdaVariables pattern
  | _ => []

def locals (body : Body .block) : List Nat := (body.nodes []).flatMap model.declared

theorem declared_heads (child : Nat) (path : Path) (statement : Option (Simple Expression)) :
    (Statement.heads child path statement).flatMap model.declared = model.collectHead child path statement := by
  rw [Statement.heads,List.flatMap_map]
  rfl

theorem collect_nodes {kind : StatementKind} (node : Body kind) (path : Path) :
    (model.collect node path : Multiset Nat) = (node.nodes path).flatMap model.declared := by
  induction node generalizing path with
  | simple statement | returnStatement value | throwStatement value =>
    simp [collect,Statement.nodes,declared]
  | breakStatement | continueStatement | empty | noNext | noCase | noCatch =>
    simp [collect,Statement.nodes,declared]
  | whileStatement condition body ih | untilStatement condition body ih =>
    simp only [collect,Statement.nodes,declared,List.flatMap_cons,← Multiset.coe_add,ih]
  | forStatement initializer condition afterRepeat body ih =>
    simp only [collect,Statement.nodes,declared,List.flatMap_cons,List.flatMap_append,declared_heads,
      ← Multiset.coe_add,ih]
    abel
  | forEachStatement name range body ih | forInStatement name range body ih =>
    simp only [collect,Statement.nodes,declared,List.flatMap_cons,← Multiset.coe_add,ih]
  | conditional first ih | elseIf clause ih | elseClause body ih =>
    simp only [collect,Statement.nodes,declared,List.flatMap_cons,List.nil_append,ih]
  | switchStatement scrutinee cases ih =>
    simp only [collect,Statement.nodes,declared,List.flatMap_cons,← Multiset.coe_add,ih]
  | deferStatement isResource statement =>
    simp only [collect,Statement.nodes,declared,List.flatMap_cons,List.nil_append,declared_heads]
  | ifClause negated condition body next ihBody ihNext =>
    simp only [collect,Statement.nodes,declared,List.flatMap_cons,List.flatMap_append,List.nil_append,
      declared_heads,← Multiset.coe_add,ihBody,ihNext]
    abel
  | tryStatement first rest ihFirst ihRest | cons first rest ihFirst ihRest
  | defaultClause first rest ihFirst ihRest | catchClause type name first rest ihFirst ihRest =>
    simp only [collect,Statement.nodes,declared,List.flatMap_cons,List.flatMap_append,List.nil_append,
      ← Multiset.coe_add,ihFirst,ihRest]
  | caseClause pattern body rest ihBody ihRest =>
    simp only [collect,Statement.nodes,declared,List.flatMap_cons,List.flatMap_append,
      ← Multiset.coe_add,ihBody,ihRest]
    abel

end SemanticModel

@[grind] def catchClauses : {kind : StatementKind} → Body kind → Path → List SyntaxNode
  | _,.catchClause type name body rest,path =>
      (path,⟨_,.catchClause type name body rest⟩) :: catchClauses rest (1 :: path)
  | _,_,_ => []

/-- `CollectMethodCatchClauses`. It goes on into the blocks of `try` statements and into their clauses
only. -/
@[grind] def collectMethodCatchClauses : {kind : StatementKind} → Body kind → Path → List SyntaxNode
  | _,.tryStatement body catches,path =>
      catchClauses catches (1 :: path) ++ collectMethodCatchClauses body (0 :: path) ++
        collectMethodCatchClauses catches (1 :: path)
  | _,.cons first rest,path =>
      collectMethodCatchClauses first (0 :: path) ++ collectMethodCatchClauses rest (1 :: path)
  | _,.catchClause _ _ body rest,path =>
      collectMethodCatchClauses body (0 :: path) ++ collectMethodCatchClauses rest (1 :: path)
  | _,.simple _,_ | _,.returnStatement _,_ | _,.throwStatement _,_ | _,.breakStatement,_ => []
  | _,.continueStatement,_ | _,.whileStatement _ _,_ | _,.untilStatement _ _,_ => []
  | _,.forStatement _ _ _ _,_ | _,.forEachStatement _ _ _,_ | _,.forInStatement _ _ _,_ => []
  | _,.conditional _,_ | _,.switchStatement _ _,_ | _,.deferStatement _ _,_ | _,.empty,_ => []
  | _,.ifClause _ _ _ _,_ | _,.noNext,_ | _,.elseClause _,_ | _,.elseIf _,_ | _,.noCase,_ => []
  | _,.defaultClause _ _,_ | _,.caseClause _ _ _,_ | _,.noCatch,_ => []

def isCatchClause : SyntaxNode → Bool
  | (_,⟨_,.catchClause _ _ _ _⟩) => true
  | _ => false

def allCatchClauses {kind : StatementKind} (node : Body kind) (path : Path) : List SyntaxNode :=
  (node.nodes path).filter isCatchClause

@[grind] def branchCatchClauses : {kind : StatementKind} → Body kind → Path → List SyntaxNode
  | _,.whileStatement _ body,path | _,.untilStatement _ body,path => allCatchClauses body (0 :: path)
  | _,.forStatement _ _ _ body,path => allCatchClauses body (0 :: path)
  | _,.forEachStatement _ _ body,path | _,.forInStatement _ _ body,path =>
      allCatchClauses body (0 :: path)
  | _,.conditional first,path => allCatchClauses first (0 :: path)
  | _,.switchStatement _ cases,path => allCatchClauses cases (0 :: path)
  | _,.tryStatement body catches,path =>
      branchCatchClauses body (0 :: path) ++ branchCatchClauses catches (1 :: path)
  | _,.cons first rest,path =>
      branchCatchClauses first (0 :: path) ++ branchCatchClauses rest (1 :: path)
  | _,.catchClause _ _ body rest,path =>
      branchCatchClauses body (0 :: path) ++ branchCatchClauses rest (1 :: path)
  | _,.simple _,_ | _,.returnStatement _,_ | _,.throwStatement _,_ | _,.breakStatement,_ => []
  | _,.continueStatement,_ | _,.deferStatement _ _,_ | _,.empty,_ | _,.noCatch,_ => []
  -- The parts of a conditional or a `switch` are inside it already.
  | _,.ifClause negated condition body next,path =>
      allCatchClauses (.ifClause negated condition body next) path
  | _,.elseClause body,path => allCatchClauses (.elseClause body) path
  | _,.elseIf clause,path => allCatchClauses (.elseIf clause) path
  | _,.defaultClause body rest,path => allCatchClauses (.defaultClause body rest) path
  | _,.caseClause pattern body rest,path => allCatchClauses (.caseClause pattern body rest) path
  | _,.noNext,_ | _,.noCase,_ => []

theorem filter_heads (child : Nat) (path : Path) (statement : Option (Simple Expression)) :
    (Statement.heads child path statement : List SyntaxNode).filter isCatchClause = [] := by
  cases statement with
  | none => rfl
  | some statement => rfl

theorem catchClauses_statement (node : Body .statement) (path : Path) : catchClauses node path = [] := by
  cases node <;> rfl

theorem catchClauses_block (node : Body .block) (path : Path) : catchClauses node path = [] := by
  cases node <;> rfl

theorem allCatchClauses_split {kind : StatementKind} (node : Body kind) (path : Path) :
    (allCatchClauses node path : Multiset SyntaxNode) =
      catchClauses node path + collectMethodCatchClauses node path + branchCatchClauses node path := by
  induction node generalizing path with
  | simple | returnStatement | throwStatement | breakStatement | continueStatement | empty | noNext
  | noCase | noCatch => rfl
  | whileStatement | untilStatement | forEachStatement | forInStatement | conditional | switchStatement
  | elseClause | elseIf | defaultClause | caseClause | ifClause =>
    exact (zero_add _).symm
  | forStatement initializer condition afterRepeat body ih =>
    have heads : allCatchClauses (.forStatement initializer condition afterRepeat body) path =
        allCatchClauses body (0 :: path) := by
      simp only [allCatchClauses,Statement.nodes,List.filter_cons,isCatchClause,List.filter_append,
        filter_heads,List.nil_append,Bool.false_eq_true,if_false]
    rw [heads]
    exact (zero_add _).symm
  | deferStatement isResource statement => rfl
  | cons first rest ihFirst ihRest =>
    have parts : allCatchClauses (.cons first rest) path =
        allCatchClauses first (0 :: path) ++ allCatchClauses rest (1 :: path) := List.filter_append ..
    rw [parts,← Multiset.coe_add,ihFirst,ihRest,catchClauses_statement,catchClauses_block]
    simp only [catchClauses,collectMethodCatchClauses,branchCatchClauses,← Multiset.coe_add,
      Multiset.coe_nil]
    abel
  | tryStatement body catches ihBody ihCatches =>
    have parts : allCatchClauses (.tryStatement body catches) path =
        allCatchClauses body (0 :: path) ++ allCatchClauses catches (1 :: path) := List.filter_append ..
    rw [parts,← Multiset.coe_add,ihBody,ihCatches,catchClauses_block]
    simp only [catchClauses,collectMethodCatchClauses,branchCatchClauses,← Multiset.coe_add,
      Multiset.coe_nil]
    abel
  | catchClause type name body rest ihBody ihRest =>
    have parts : allCatchClauses (.catchClause type name body rest) path =
        (path,⟨_,.catchClause type name body rest⟩) ::
          (allCatchClauses body (0 :: path) ++ allCatchClauses rest (1 :: path)) :=
      congrArg _ (List.filter_append ..)
    rw [parts,← Multiset.cons_coe,← Multiset.coe_add,ihBody,ihRest,catchClauses_block]
    simp only [catchClauses,collectMethodCatchClauses,branchCatchClauses,← Multiset.coe_add,
      ← Multiset.cons_coe,Multiset.coe_nil,← Multiset.singleton_add]
    abel

theorem allCatchClauses_body (body : Body .block) :
    (allCatchClauses body [] : Multiset SyntaxNode) =
      collectMethodCatchClauses body [] + branchCatchClauses body [] := by
  rw [allCatchClauses_split,catchClauses_block]
  exact congrArg (· + _) (zero_add _)

end ShardScript.Async
