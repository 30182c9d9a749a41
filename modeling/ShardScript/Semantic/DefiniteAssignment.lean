import ShardScript.Semantic.Assignment
import ShardScript.Syntax.Flow

/-! The definite assignment check finds no variable and reports nothing, so it is right exactly about the
bodies in which no path of the text leads to a use of a local in front of its assignments. -/
namespace ShardScript.Semantic.Assignment
open Library Syntax
open Binding (Owner SemanticScope Scopes SyntaxSymbol lookup)

section Silence

variable {Form TypeSymbol : Type} {scopes : Scopes}

def NoVariable (scopes : Scopes) : Prop := ∀ word, lookupVariable scopes word = none

theorem unassignedUses_eq_nil (none_ : NoVariable scopes) (assigned : Finset SyntaxSymbol)
    (expression : Expression Form) : unassignedUses scopes assigned expression = [] := by
  induction expression with
  | memberAccess token word => rw [unassignedUses,none_ word]
  | binary operator left right ihLeft ihRight => rw [unassignedUses,ihLeft,ihRight,List.append_nil]
  | other form => rfl

theorem analyzeExpressionForUse_eq (none_ : NoVariable scopes) (expression : Expression Form)
    (state : Assignments) : analyzeExpressionForUse scopes expression state = state := by
  rw [analyzeExpressionForUse,unassignedUses_eq_nil none_,Assignments.report,List.append_nil]

theorem analyzeExpressionForAssignment_eq (none_ : NoVariable scopes) (expression : Expression Form)
    (state : Assignments) : analyzeExpressionForAssignment scopes expression state = state := by
  unfold analyzeExpressionForAssignment
  split
  · rw [none_]
  · rfl

theorem visitVariableStatement_reports (none_ : NoVariable scopes) (value : Option (Code Form))
    (state : Assignments) : (visitVariableStatement scopes value state).reports = state.reports := by
  unfold visitVariableStatement
  split
  · rw [analyzeExpressionForUse_eq none_]
    rfl
  · rfl

theorem analyzeSimple_reports (none_ : NoVariable scopes) (statement : Simple (Code Form))
    (state : Assignments) : (analyzeSimple scopes statement state).reports = state.reports := by
  unfold analyzeSimple
  split
  · rw [analyzeExpressionForUse_eq none_,analyzeExpressionForAssignment_eq none_]
  · rfl
  · exact visitVariableStatement_reports none_ _ _

theorem analyzeHead_reports (none_ : NoVariable scopes) (statement : Option (Simple (Code Form)))
    (state : Assignments) : (analyzeHead scopes statement state).reports = state.reports := by
  cases statement with
  | none => rfl
  | some statement => exact analyzeSimple_reports none_ statement state

theorem scanStatement_reports (none_ : NoVariable scopes) (statement : Simple (Code Form))
    (state : Assignments) : (scanStatement scopes statement state).reports = state.reports := by
  cases statement with
  | expressionStatement expression => rfl
  | variableStatement name value => exact visitVariableStatement_reports none_ value state

theorem analyzeAssignments_reports (none_ : NoVariable scopes) (catchSymbols : Path → Option SyntaxSymbol)
    {kind : StatementKind} (node : Statement (Code Form) TypeSymbol kind) (path : Path) (state : Assignments) :
    (analyzeAssignments scopes catchSymbols node path state).reports = state.reports := by
  induction node generalizing path state with
  | simple statement | deferStatement isResource statement => exact analyzeSimple_reports none_ statement state
  | returnStatement | throwStatement | breakStatement | continueStatement | empty | noNext | noCase
  | noCatch => rfl
  | whileStatement condition body ih | untilStatement condition body ih => exact ih _ _
  | forEachStatement name range body ih | forInStatement name range body ih => exact ih _ _
  | forStatement initializer condition afterRepeat body ih =>
    rw [analyzeAssignments,analyzeHead_reports none_]
    exact (ih _ _).trans (analyzeHead_reports none_ initializer state)
  | conditional first ih | switchStatement scrutinee first ih | elseClause first ih | elseIf first ih =>
    exact ih _ _
  | tryStatement body rest ihBody ihRest => exact (ihRest _ _).trans (ihBody _ _)
  | defaultClause body rest ihBody ihRest | caseClause pattern body rest ihBody ihRest =>
    exact (ihRest _ _).trans (ihBody _ _)
  | cons first rest ihFirst ihRest =>
    rw [analyzeAssignments]
    split
    · exact ihFirst _ _
    · exact (ihRest _ _).trans (ihFirst _ _)
  | ifClause negated condition body next ihBody ihNext =>
    exact (ihNext _ _).trans ((ihBody _ _).trans (scanStatement_reports none_ condition state))
  | catchClause type name body rest ihBody ihRest =>
    rw [analyzeAssignments,ihRest,ihBody]
    split
    · rfl
    · rfl

def Declares (scope : SemanticScope) : Prop :=
  scope.namespaceNode = none ∧
    ∀ word symbol, scope.symbols word = some symbol → symbol.kind ≠ .variableStatement

theorem declares_declareSymbol {scope next : SemanticScope} {symbol : SyntaxSymbol} (declares : Declares scope)
    (kind : symbol.kind ≠ .variableStatement) (declared : scope.declareSymbol symbol = .ok next) :
    Declares next := by
  unfold SemanticScope.declareSymbol at declared
  split at declared
  · cases declared
  · cases declared
    refine ⟨declares.1,fun word other found => ?_⟩
    dsimp only at found
    by_cases same : word = symbol.name
    · subst same
      rw [Function.update_self] at found
      cases found
      exact kind
    · rw [Function.update_of_ne same] at found
      exact declares.2 word other found

theorem declares_foldlM {symbols : List SyntaxSymbol} {scope next : SemanticScope} (declares : Declares scope)
    (kinds : ∀ symbol ∈ symbols, symbol.kind ≠ .variableStatement)
    (declared : symbols.foldlM SemanticScope.declareSymbol scope = .ok next) : Declares next := by
  induction symbols generalizing scope with
  | nil =>
    cases declared
    exact declares
  | cons symbol symbols ih =>
    rw [List.foldlM_cons] at declared
    cases first : scope.declareSymbol symbol with
    | error message =>
      rw [first] at declared
      cases declared
    | ok middle =>
      rw [first] at declared
      exact ih (declares_declareSymbol declares (kinds symbol List.mem_cons_self) first)
        (fun other member => kinds other (List.mem_cons_of_mem _ member)) declared

theorem noVariable_scope (around : Surroundings) (method : MethodDeclaration Form TypeSymbol)
    {scope : SemanticScope} (pushed : method.scope = .ok scope) : NoVariable (scope :: around.scopes) := by
  have declares : Declares scope := by
    refine declares_foldlM ⟨rfl,fun word symbol found => ?_⟩ (fun symbol member => ?_) pushed
    · cases found
    · rcases method.declared_kind symbol member with kind | kind
      · rw [kind]
        decide
      · rw [kind]
        decide
  intro word
  rw [lookupVariable,Option.filter_eq_none_iff]
  intro symbol found variable_
  rw [Binding.lookup_cons,SemanticScope.find,declares.1,Option.bind_none,Option.or_none] at found
  have kind : symbol.kind = .variableStatement := of_decide_eq_true variable_
  rcases Option.or_eq_some_iff.1 found with own | ⟨_,outer⟩
  · exact declares.2 word symbol own kind
  · exact around.no_variable word symbol outer kind

theorem visitMethodDeclaration_reports {around : Surroundings} {method : MethodDeclaration Form TypeSymbol}
    {assigned : Finset SyntaxSymbol} {result : Assignments}
    (visited : visitMethodDeclaration around method assigned = .ok result) : result.reports = [] := by
  unfold visitMethodDeclaration at visited
  cases pushed : method.scope with
  | error message =>
    rw [pushed] at visited
    cases visited
  | ok scope =>
    rw [pushed] at visited
    cases visited
    exact analyzeAssignments_reports (noVariable_scope around method pushed) _ _ _ _

end Silence

inductive Access where
  | reads (token : SyntaxToken) (variable_ : SyntaxSymbol)
  | assigns (variable_ : SyntaxSymbol)
  deriving DecidableEq

namespace Access

def readsOf (symbol : SyntaxSymbol) : Access → Prop
  | reads _ read => read = symbol
  | assigns _ => False

def assignsTo (symbol : SyntaxSymbol) : Access → Prop
  | reads _ _ => False
  | assigns assigned => assigned = symbol

end Access

/-- What expressions do: in which order they read and assign locals, and what they throw. -/
structure Evaluation (Form TypeSymbol Exception : Type) where
  evaluate : Expression Form → Behaviour Access Exception
  advance : Expression Form → Behaviour Access Exception
  dispose : Simple (Code Form) → Behaviour Access Exception
  denotes : Expression Form → Exception → Prop
  catches : TypeSymbol → Exception → Prop
  evaluate_live : ∀ expression, (evaluate expression).Live
  advance_live : ∀ range, (advance range).Live
  dispose_live : ∀ resource, (dispose resource).Live
  denotes_some : ∀ expression, ∃ exception, denotes expression exception

namespace Evaluation

variable {Form TypeSymbol Exception : Type} (evaluation : Evaluation Form TypeSymbol Exception)

def evaluateCode : Code Form → Behaviour Access Exception
  | .expression expression => evaluation.evaluate expression
  | .declaration symbol (some initializer) =>
      .seq (evaluation.evaluate initializer) (.perform (.assigns symbol))
  | .declaration _ none => .done

def advanceCode : Code Form → Behaviour Access Exception
  | .expression range => evaluation.advance range
  | .declaration _ _ => .done

def denotesCode : Code Form → Exception → Prop
  | .expression exception => evaluation.denotes exception
  | .declaration _ (some initializer) => evaluation.denotes initializer
  | .declaration _ none => fun _ => True

def meaning : Meaning (Code Form) TypeSymbol Access Exception where
  evaluate := evaluation.evaluateCode
  advance := evaluation.advanceCode
  dispose := evaluation.dispose
  denotes := evaluation.denotesCode
  catches := evaluation.catches

theorem live (handled : Exception) : evaluation.meaning.Live where
  evaluate code := by
    rcases code with expression | ⟨symbol,_ | initializer⟩
    · exact evaluation.evaluate_live expression
    · exact ⟨[],.normal,rfl,rfl⟩
    · obtain ⟨events,ending,run⟩ := evaluation.evaluate_live initializer
      by_cases normal : ending = .normal
      · subst normal
        exact ⟨events ++ [.assigns symbol],.normal,Behaviour.seq_run run (Behaviour.perform_run _)⟩
      · exact ⟨events,ending,Behaviour.seq_abrupt run normal⟩
  advance code := by
    cases code with
    | expression range => exact evaluation.advance_live range
    | declaration symbol initializer => exact ⟨[],.normal,rfl,rfl⟩
  dispose := evaluation.dispose_live
  denotes code := by
    rcases code with expression | ⟨symbol,_ | initializer⟩
    · exact evaluation.denotes_some expression
    · exact ⟨handled,trivial⟩
    · exact evaluation.denotes_some initializer

end Evaluation

/-- The variable that a node declares. Those of loops and of catch clauses count as assigned. -/
def declaredVariable {Form TypeSymbol : Type} : Path × Node (Code Form) TypeSymbol → Option SyntaxSymbol
  | (_,⟨_,.simple (.variableStatement _ (some (.declaration symbol _)))⟩) => some symbol
  | _ => none

section Verdict

variable {Form TypeSymbol Exception : Type} (evaluation : Evaluation Form TypeSymbol Exception)
  (method : MethodDeclaration Form TypeSymbol)

def MethodDeclaration.locals : List SyntaxSymbol := (method.body.nodes []).filterMap declaredVariable

/-- In some run of the body a read of the local at a token comes before each of its assignments. -/
def ReadsUnassigned (symbol : SyntaxSymbol) (token : SyntaxToken) : Prop :=
  ∃ handled before behind ending, method.body.runs evaluation.meaning handled []
    (before ++ .effect (.reads token symbol) :: behind) ending ∧ .effect (.assigns symbol) ∉ before

structure DefiniteAssignment (reports : List UseReport) : Prop where
  sound : reports = [] → ∀ symbol ∈ method.locals, ∀ token, ¬ ReadsUnassigned evaluation method symbol token
  lenient : ∀ report ∈ reports, ∃ symbol, ReadsUnassigned evaluation method symbol report.token

def DefinitelyAssigned (symbol : SyntaxSymbol) : Prop :=
  ∀ handled, ¬ (method.body.flow evaluation.meaning (Access.readsOf symbol) (Access.assignsTo symbol)
    handled).exposes

theorem reads_iff {TypeSymbol : Type} (symbol : SyntaxSymbol) (event : Event (Code Form) TypeSymbol Access) :
    event.onEffect (Access.readsOf symbol) ↔ ∃ token, event = .effect (.reads token symbol) := by
  rcases event with path | cases_ | ⟨token,read⟩ | assigned
  · exact ⟨False.elim,fun ⟨_,same⟩ => by cases same⟩
  · exact ⟨False.elim,fun ⟨_,same⟩ => by cases same⟩
  · constructor
    · rintro rfl
      exact ⟨token,rfl⟩
    · rintro ⟨_,same⟩
      cases same
      exact rfl
  · exact ⟨False.elim,fun ⟨_,same⟩ => by cases same⟩

theorem undefined_iff {TypeSymbol : Type} (symbol : SyntaxSymbol)
    (events : List (Event (Code Form) TypeSymbol Access)) :
    Undefined (Event.onEffect (Access.assignsTo symbol)) events ↔ .effect (.assigns symbol) ∉ events := by
  constructor
  · intro undefined member
    exact undefined _ member rfl
  · intro absent event member assigns
    rcases event with path | cases_ | ⟨token,read⟩ | assigned
    · exact assigns
    · exact assigns
    · exact assigns
    · cases assigns
      exact absent member

theorem definitelyAssigned_iff (symbol : SyntaxSymbol) :
    DefinitelyAssigned evaluation method symbol ↔ ∀ token, ¬ ReadsUnassigned evaluation method symbol token := by
  have described (handled : Exception) : Described (Access.readsOf symbol) (Access.assignsTo symbol) _
      (method.body.runs evaluation.meaning handled []) := flow_described (evaluation.live handled) _ _ _
  constructor
  · rintro assigned token ⟨handled,before,behind,ending,run,absent⟩
    refine assigned handled ((described handled).exposes.1 ⟨_,ending,run,?_⟩)
    rw [exposed_iff]
    exact ⟨before,_,behind,rfl,(undefined_iff _ _).2 absent,rfl⟩
  · intro unread handled exposes
    obtain ⟨events,ending,run,exposed⟩ := (described handled).exposes.2 exposes
    obtain ⟨before,event,behind,rfl,undefined,reads⟩ := (exposed_iff _).1 exposed
    obtain ⟨token,rfl⟩ := (reads_iff symbol event).1 reads
    exact unread token ⟨handled,before,behind,ending,run,(undefined_iff _ _).1 undefined⟩

/-- As nothing is reported, the reports are right exactly if there is nothing to report. -/
theorem definiteAssignment_iff (around : Surroundings) (assigned : Finset SyntaxSymbol) (result : Assignments)
    (visited : visitMethodDeclaration around method assigned = .ok result) :
    DefiniteAssignment evaluation method result.reports ↔
      ∀ symbol ∈ method.locals, DefinitelyAssigned evaluation method symbol := by
  have silent := visitMethodDeclaration_reports visited
  constructor
  · intro right symbol member
    exact (definitelyAssigned_iff evaluation method symbol).2 (right.sound silent symbol member)
  · intro assigned
    refine ⟨fun _ symbol member => ?_,fun report member => ?_⟩
    · exact (definitelyAssigned_iff evaluation method symbol).1 (assigned symbol member)
    · rw [silent] at member
      cases member

end Verdict

section Examples

def access (kind : SyntaxSymbol → Access) : Option SyntaxSymbol → Behaviour Access Unit
  | none => .done
  | some symbol => .perform (kind symbol)

def assignedWord : TokenType → Expression Unit → Option String
  | .assignOperator,.memberAccess _ word => some word
  | _,_ => none

/-- Names read a variable, and an assignment to a name stores the value of its right side. -/
def evaluateNames (variables_ : String → Option SyntaxSymbol) : Expression Unit → Behaviour Access Unit
  | .memberAccess token word => access (.reads token) (variables_ word)
  | .binary operator left right =>
    match assignedWord operator left with
    | some word => .seq (evaluateNames variables_ right) (access .assigns (variables_ word))
    | none => .seq (evaluateNames variables_ left) (evaluateNames variables_ right)
  | .other _ => .done

theorem access_normal (kind : SyntaxSymbol → Access) (symbol : Option SyntaxSymbol) :
    ∃ events, access kind symbol events .normal := by
  cases symbol with
  | none => exact ⟨[],rfl,rfl⟩
  | some symbol => exact ⟨_,Behaviour.perform_run _⟩

theorem evaluateNames_normal (variables_ : String → Option SyntaxSymbol) (expression : Expression Unit) :
    ∃ events, evaluateNames variables_ expression events .normal := by
  induction expression with
  | memberAccess token word => exact access_normal _ _
  | binary operator left right ihLeft ihRight =>
    obtain ⟨early,ranLeft⟩ := ihLeft
    obtain ⟨late,ranRight⟩ := ihRight
    rw [evaluateNames]
    cases assignedWord operator left with
    | none => exact ⟨_,Behaviour.seq_run ranLeft ranRight⟩
    | some word =>
      obtain ⟨stored,ran⟩ := access_normal .assigns (variables_ word)
      exact ⟨_,Behaviour.seq_run ranRight ran⟩
  | other form => exact ⟨[],rfl,rfl⟩

def names (variables_ : String → Option SyntaxSymbol) : Evaluation Unit Unit Unit where
  evaluate := evaluateNames variables_
  advance _ := .done
  dispose _ := .done
  denotes _ _ := True
  catches _ _ := True
  evaluate_live expression :=
    let ⟨events,run⟩ := evaluateNames_normal variables_ expression
    ⟨events,.normal,run⟩
  advance_live _ := ⟨[],.normal,rfl,rfl⟩
  dispose_live _ := ⟨[],.normal,rfl,rfl⟩
  denotes_some _ := ⟨(),trivial⟩

def variableOf (index : Nat) (name : String) : SyntaxSymbol :=
  ⟨index,.variableStatement,name,none,.acsPublic,.linkInstance,none⟩

def locals : String → Option SyntaxSymbol
  | "x" => some (variableOf 0 "x")
  | "y" => some (variableOf 1 "y")
  | _ => none

def declare (index : Nat) (name : String) (value : Expression Unit) :
    Statement (Code Unit) Unit .statement :=
  .simple (.variableStatement name (some (.declaration (variableOf index name) (some value))))

def plainMethod (body : Statement (Code Unit) Unit .block) : MethodDeclaration Unit Unit :=
  ⟨.member 0 none,[],body,fun _ => none,List.forall_mem_nil _⟩

def noSurroundings : Surroundings := ⟨[],fun _ _ found => by cases found⟩

def assignedInBranch : Statement (Code Unit) Unit .block :=
  .cons (.conditional (.ifClause false (.expressionStatement (.expression (.other ())))
      (.cons (declare 0 "x" (.other ())) .empty) .noNext))
    (.cons (declare 1 "y" (.memberAccess 5 "x")) .empty)

theorem assignedInBranch_reads :
    ReadsUnassigned (names locals) (plainMethod assignedInBranch) (variableOf 0 "x") 5 := by
  refine ⟨(),[.reached [0],.reached [0,1]],[.effect (.assigns (variableOf 1 "y"))],.normal,?_,by simp⟩
  have condition : (names locals).meaning.simple (.expressionStatement (.expression (.other ()))) [] .normal :=
    ⟨[],.normal,rfl,rfl,rfl,rfl⟩
  have declared : (names locals).meaning.simple
      (.variableStatement "y" (some (.declaration (variableOf 1 "y") (some (.memberAccess 5 "x")))))
        [.effect (.reads 5 (variableOf 0 "x")),.effect (.assigns (variableOf 1 "y"))] .normal :=
    ⟨_,.normal,rfl,rfl,Behaviour.seq_run (Behaviour.perform_run _) (Behaviour.perform_run _)⟩
  refine .inr ⟨[.reached [0]],_,rfl,Behaviour.perform_run _,.inr ⟨[],_,rfl,?_,?_⟩⟩
  · exact .inr ⟨[],[],rfl,condition,.inr ⟨rfl,rfl⟩⟩
  · exact .inr ⟨[.reached [0,1]],_,rfl,Behaviour.perform_run _,
      .inr ⟨_,[],(List.append_nil _).symm,declared,rfl,rfl⟩⟩

/-- The use behind the branch is not reported. -/
theorem assignedInBranch_unreported :
    ¬ ∀ (around : Surroundings) (method : MethodDeclaration Unit Unit) (assigned : Finset SyntaxSymbol)
      (result : Assignments), visitMethodDeclaration around method assigned = .ok result →
        DefiniteAssignment (names locals) method result.reports := by
  intro claimed
  have right := claimed noSurroundings (plainMethod assignedInBranch) ∅ _ rfl
  exact right.sound rfl (variableOf 0 "x") (by decide) 5 assignedInBranch_reads

def assignedAtOnce : Statement (Code Unit) Unit .block :=
  .cons (declare 0 "x" (.other ())) (.cons (declare 1 "y" (.memberAccess 5 "x")) .empty)

theorem declaration_runs (index : Nat) (name : String) {value : Expression Unit} {performed : List Access}
    (runs : ∀ events ending, evaluateNames locals value events ending → events = performed ∧ ending = .normal)
    {events : List Access} {ending : Ending Unit}
    (run : (names locals).evaluateCode (.declaration (variableOf index name) (some value)) events ending) :
    events = performed ++ [.assigns (variableOf index name)] ∧ ending = .normal := by
  rcases run with ⟨run,abrupt⟩ | ⟨before,behind,rfl,run,rfl,normal⟩
  · exact absurd (runs _ _ run).2 abrupt
  · rw [(runs _ _ run).1]
    exact ⟨rfl,normal⟩

theorem assignedAtOnce_definite :
    DefiniteAssignment (names locals) (plainMethod assignedAtOnce) [] := by
  refine (definiteAssignment_iff (names locals) (plainMethod assignedAtOnce) noSurroundings ∅ _ rfl).2 ?_
  have silent (events : List Access) (ending : Ending Unit)
      (run : evaluateNames locals (.other ()) events ending) : events = [] ∧ ending = .normal := run
  have read (events : List Access) (ending : Ending Unit)
      (run : evaluateNames locals (.memberAccess 5 "x") events ending) :
      events = [.reads 5 (variableOf 0 "x")] ∧ ending = .normal := run
  intro symbol member handled exposes
  rcases exposes with nothing | ⟨_,⟨events,ending,run,exposed⟩ | ⟨⟨first,_,before,run,undefined⟩,second⟩⟩
  · exact nothing
  · rw [(declaration_runs 0 "x" silent run).1] at exposed
    rcases exposed with reads | ⟨_,nothing⟩
    · exact reads
    · exact nothing
  · rw [(declaration_runs 0 "x" silent run).1] at undefined
    have other : variableOf 0 "x" ≠ symbol := undefined _ List.mem_cons_self
    rcases second with nothing | ⟨_,⟨events,ending,ran,exposed⟩ | ⟨_,nothing⟩⟩
    · exact nothing
    · rw [(declaration_runs 1 "y" read ran).1] at exposed
      rcases exposed with reads | ⟨_,reads | ⟨_,nothing⟩⟩
      · exact other reads
      · exact reads
      · exact nothing
    · exact nothing

end Examples

end ShardScript.Semantic.Assignment
