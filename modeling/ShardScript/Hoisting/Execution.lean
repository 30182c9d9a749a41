import ShardScript.Hoisting.Evaluation
import ShardScript.Hoisting.Statements

/-! What the statements of a body do, before and after the hoisting. -/
namespace ShardScript.Hoisting
open Library Semantic Syntax

inductive Completion (Value : Type) where
  | normal | breaks | continues
  | returns (value : Option Value)
  | ongoing

structure Surroundings (Value Exception : Type) (m : Type → Type) extends Host Value m where
  define : String → Option Value → m Unit
  /-- The exception of a `throw`. Without a value it is the one that is being handled. -/
  exception : Option Value → m Exception
  enumerator : (isForEach : Bool) → Value → m Value
  moveNext : Value → m Bool
  current : Value → String → m Unit
  accepts : Option TypeSymbol → Exception → Bool
  caught : Option String → Exception → m Unit
  dispose : Simple (Expression .expression) → m Unit

section Execution

variable {Value Exception : Type} {m : Type → Type} [Monad m]

namespace Completion

def followedBy (next : m (Completion Value)) : Completion Value → m (Completion Value)
  | normal => next
  | completion => pure completion

def turned (next : m (Completion Value)) : Completion Value → m (Completion Value)
  | normal | continues => next
  | breaks => pure normal
  | completion => pure completion

def endSwitch : Completion Value → Completion Value
  | breaks => normal
  | completion => completion

end Completion

def iterate (test : m Bool) (body : m (Completion Value)) (afterRepeat : m Unit) : (fuel : Nat) → m (Completion Value)
  | 0 => pure .ongoing
  | fuel + 1 => do
      let holds ← test
      if holds then do
        let completion ← body
        completion.turned do
          afterRepeat
          iterate test body afterRepeat fuel
      else pure .normal

variable [MonadExcept Exception m]

def ensuring (body : m (Completion Value)) (last : m Unit) : m (Completion Value) := do
  let completion ← tryCatch body fun exception => do
    last
    throw exception
  last
  pure completion

variable (surroundings : Surroundings Value Exception m)

def evaluateOption : Option (Expression .expression) → m (Option Value)
  | none => pure none
  | some expression => do
      let value ← evaluate surroundings.toHost expression false
      pure (some value)

def executeSimple : Simple (Expression .expression) → m Unit
  | .expressionStatement expression => do
      let _ ← evaluate surroundings.toHost expression false
      pure ()
  | .variableStatement name value => do
      let value ← evaluateOption surroundings value
      surroundings.define name value

def executeOptional : Option (Simple (Expression .expression)) → m Unit
  | none => pure ()
  | some statement => executeSimple surroundings statement

def test (condition : Expression .expression) : m Bool := do
  let value ← evaluate surroundings.toHost condition false
  pure (surroundings.truth value)

def testSimple : Simple (Expression .expression) → m Bool
  | .expressionStatement condition => test surroundings condition
  | .variableStatement name value => do
      let value ← evaluateOption surroundings value
      surroundings.define name value
      pure (value.any surroundings.truth)

def testOption : Option (Expression .expression) → m Bool
  | none => pure true
  | some condition => test surroundings condition

def enumerate (isForEach : Bool) (name : String) (range : Expression .expression) (body : m (Completion Value))
    (fuel : Nat) : m (Completion Value) := do
  let range ← evaluate surroundings.toHost range false
  let enumerator ← surroundings.enumerator isForEach range
  iterate (surroundings.moveNext enumerator) (do surroundings.current enumerator name; body) (pure ()) fuel

def registration : Hoisted .statement → Option (Bool × Simple (Expression .expression))
  | .deferStatement isResource statement => some (isResource,statement)
  | _ => none

def precede (registered : Option (Bool × Simple (Expression .expression))) (first rest : m (Completion Value)) :
    m (Completion Value) :=
  match registered with
  | none => first >>= Completion.followedBy rest
  | some (true,statement) => do
      executeSimple surroundings statement
      ensuring rest (surroundings.dispose statement)
  | some (false,statement) => ensuring rest (executeSimple surroundings statement)

def runAll : List (Path × Prefix) → m Unit
  | [] => pure ()
  | group :: groups => do
      group.2.run surroundings.toHost
      runAll groups

variable (Value Exception m) in
abbrev Execution : StatementKind → Type
  | .cases => (scrutinee : Value) → m (Completion Value)
  | .catches => (exception : Exception) → m (Completion Value)
  | _ => m (Completion Value)

@[grind] def execute (fuel : Nat) : {kind : StatementKind} → Hoisted kind → Execution Value Exception m kind
  | _,.simple statement => do
      executeSimple surroundings statement
      pure .normal
  | _,.returnStatement value => do
      let value ← evaluateOption surroundings value
      pure (.returns value)
  | _,.throwStatement exception => do
      let value ← evaluateOption surroundings exception
      let exception ← surroundings.exception value
      throw exception
  | _,.breakStatement => pure .breaks
  | _,.continueStatement => pure .continues
  | _,.whileStatement condition body => iterate (test surroundings condition) (execute fuel body) (pure ()) fuel
  | _,.untilStatement condition body =>
      iterate (do let holds ← test surroundings condition; pure !holds) (execute fuel body) (pure ()) fuel
  | _,.forStatement initializer condition afterRepeat body => do
      executeOptional surroundings initializer
      iterate (testOption surroundings condition) (execute fuel body) (executeOptional surroundings afterRepeat) fuel
  | _,.forEachStatement name range body => enumerate surroundings true name range (execute fuel body) fuel
  | _,.forInStatement name range body => enumerate surroundings false name range (execute fuel body) fuel
  | _,.conditional first => (execute fuel first : Execution Value Exception m .clause)
  | _,.switchStatement scrutinee cases => do
      let value ← evaluate surroundings.toHost scrutinee false
      let completion ← execute fuel cases value
      pure completion.endSwitch
  | _,.tryStatement body catches => tryCatch (execute fuel body) (execute fuel catches)
  -- It is executed at the end of its block.
  | _,.deferStatement _ _ => pure .normal
  | _,.movedFrom => pure .normal
  | _,.empty | _,.noNext => pure .normal
  | _,.cons before first rest => do
      runAll surroundings before
      precede surroundings (registration first) (execute fuel first) (execute fuel rest)
  | _,.tested before isUntil condition rest => do
      before.run surroundings.toHost
      let value ← surroundings.read condition
      if surroundings.truth value = isUntil then pure .breaks else execute fuel rest
  | _,.ifClause negated condition body next => do
      let holds ← testSimple surroundings condition
      if holds == negated then execute fuel next else execute fuel body
  | _,.elseClause body => (execute fuel body : Execution Value Exception m .block)
  | _,.elseIf clause => (execute fuel clause : Execution Value Exception m .clause)
  | _,.noCase => fun _ => pure .normal
  | _,.defaultClause body _ => fun _ => execute fuel body
  | _,.caseClause pattern body rest => fun scrutinee => do
      let pattern ← evaluate surroundings.toHost pattern false
      if surroundings.takes scrutinee (some pattern) then execute fuel body else execute fuel rest scrutinee
  | _,.noCatch => fun exception => throw exception
  | _,.catchClause type name body rest => fun exception =>
      if surroundings.accepts type exception then do
        surroundings.caught name exception
        execute fuel body
      else execute fuel rest exception

end Execution

end ShardScript.Hoisting
