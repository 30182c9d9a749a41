import ShardScript.Library.Behaviour
import ShardScript.Syntax.Statement

/-! The runs of a statement. What its expressions do is a parameter, and so is the outcome of
every condition and of every match: each of them can come out either way. -/
namespace ShardScript.Syntax
open Library Behaviour

inductive Jump (Exception : Type) where
  | breaks | continues | returns
  | throws (exception : Exception)

inductive Event (Expression TypeSymbol Effect : Type) where
  | reached (statement : Path)
  | leavesSwitch (cases : Statement Expression TypeSymbol .cases)
  | effect (effect : Effect)

structure Meaning (Expression TypeSymbol Effect Exception : Type) where
  evaluate : Expression → Behaviour Effect Exception
  advance : Expression → Behaviour Effect Exception
  dispose : Simple Expression → Behaviour Effect Exception
  denotes : Expression → Exception → Prop
  catches : TypeSymbol → Exception → Prop

namespace Meaning

variable {Expression TypeSymbol Effect Exception : Type}

abbrev Runs (_ : Meaning Expression TypeSymbol Effect Exception) :=
  Behaviour (Event Expression TypeSymbol Effect) (Jump Exception)

variable (meaning : Meaning Expression TypeSymbol Effect Exception)

def inner (behaviour : Behaviour Effect Exception) : meaning.Runs := behaviour.map .effect .throws

def expression (expression : Expression) : meaning.Runs := meaning.inner (meaning.evaluate expression)

def optional : Option Expression → meaning.Runs
  | none => done
  | some expression => meaning.expression expression

def simple : Simple Expression → meaning.Runs
  | .expressionStatement expression => meaning.expression expression
  | .variableStatement _ value => meaning.optional value

def optionalSimple : Option (Simple Expression) → meaning.Runs
  | none => done
  | some statement => meaning.simple statement

def raise (exception : Expression) : meaning.Runs := fun events ending =>
  ∃ raised, meaning.denotes exception raised ∧ leave (.throws raised) events ending

def endContinue : Jump Exception → meaning.Runs
  | .continues => done
  | jump => leave jump

def endBreak : Jump Exception → meaning.Runs
  | .breaks => done
  | jump => leave jump

def endSwitch (cases : Statement Expression TypeSymbol .cases) : Jump Exception → meaning.Runs
  | .breaks => perform (.leavesSwitch cases)
  | jump => leave jump

def endTry (catches : Exception → meaning.Runs) : Jump Exception → meaning.Runs
  | .throws exception => catches exception
  | jump => leave jump

/-- Any number of turns; a `for` without a condition never comes to its end. -/
def loop (again last turn : meaning.Runs) : meaning.Runs :=
  rescue (seq (Many (seq again turn)) last) meaning.endBreak

def turn (body : meaning.Runs) : meaning.Runs := rescue body meaning.endContinue

def Takes : Option TypeSymbol → Exception → Prop
  | none,_ => True
  | some type,exception => meaning.catches type exception

def unwound : Statement Expression TypeSymbol .statement → meaning.Runs → meaning.Runs
  | .deferStatement true resource,rest => unwinding rest (meaning.inner (meaning.dispose resource))
  | .deferStatement false deferred,rest => unwinding rest (meaning.simple deferred)
  | _,rest => rest

end Meaning

variable {Expression TypeSymbol Effect Exception : Type}
  (meaning : Meaning Expression TypeSymbol Effect Exception)

/-- The runs of a statement at a path, while an exception is handled: catch clauses look at it, and
a bare `throw` raises it again. -/
def Statement.runs : {kind : StatementKind} → Statement Expression TypeSymbol kind → Exception →
    Path → meaning.Runs
  | _,.simple statement,_,_ => meaning.simple statement
  | _,.returnStatement value,_,_ => seq (meaning.optional value) (leave .returns)
  | _,.throwStatement (some exception),_,_ =>
      seq (meaning.expression exception) (meaning.raise exception)
  | _,.throwStatement none,handled,_ => leave (.throws handled)
  | _,.breakStatement,_,_ => leave .breaks
  | _,.continueStatement,_,_ => leave .continues
  | _,.whileStatement condition body,handled,path | _,.untilStatement condition body,handled,path =>
      meaning.loop (meaning.expression condition) (meaning.expression condition)
        (meaning.turn (body.runs handled (0 :: path)))
  | _,.forStatement initializer condition afterRepeat body,handled,path =>
      seq (meaning.optionalSimple initializer)
        (meaning.loop (meaning.optional condition)
          (match condition with
            | none => stall
            | some condition => meaning.expression condition)
          (seq (meaning.turn (body.runs handled (0 :: path))) (meaning.optionalSimple afterRepeat)))
  | _,.forEachStatement _ range body,handled,path | _,.forInStatement _ range body,handled,path =>
      seq (meaning.expression range)
        (meaning.loop (meaning.inner (meaning.advance range)) (meaning.inner (meaning.advance range))
          (meaning.turn (body.runs handled (0 :: path))))
  | _,.conditional first,handled,path => first.runs handled (0 :: path)
  | _,.switchStatement scrutinee cases,handled,path =>
      seq (meaning.expression scrutinee)
        (rescue (cases.runs handled (0 :: path)) (meaning.endSwitch cases))
  | _,.tryStatement body catches,handled,path =>
      rescue (body.runs handled (0 :: path))
        (meaning.endTry fun exception => catches.runs exception (1 :: path))
  | _,.deferStatement isResource statement,_,_ => if isResource then meaning.simple statement else done
  | _,.empty,_,_ | _,.noNext,_,_ => done
  | _,.cons first rest,handled,path =>
      seq (perform (.reached (0 :: path)))
        (seq (first.runs handled (0 :: path)) (meaning.unwound first (rest.runs handled (1 :: path))))
  | _,.ifClause _ condition body next,handled,path =>
      seq (meaning.simple condition)
        (either (body.runs handled (0 :: path)) (next.runs handled (1 :: path)))
  | _,.elseClause body,handled,path => body.runs handled (0 :: path)
  | _,.elseIf clause,handled,path => clause.runs handled (0 :: path)
  -- Behind the last clause the switch is left as by a break.
  | _,.noCase,_,_ => leave .breaks
  | _,.defaultClause body _,handled,path => body.runs handled (0 :: path)
  | _,.caseClause pattern body rest,handled,path =>
      seq (meaning.expression pattern)
        (either (body.runs handled (0 :: path)) (rest.runs handled (1 :: path)))
  | _,.noCatch,handled,_ => leave (.throws handled)
  | _,.catchClause type _ body rest,handled,path => fun events ending =>
      (meaning.Takes type handled ∧ body.runs handled (0 :: path) events ending) ∨
        (¬ meaning.Takes type handled ∧ rest.runs handled (1 :: path) events ending)

end ShardScript.Syntax
