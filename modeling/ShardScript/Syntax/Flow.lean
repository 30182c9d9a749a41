import ShardScript.Library.FirstUse
import ShardScript.Syntax.Runs

/-! Uses in front of definitions among the effects of a statement: the rules that find them in its
text, and that they find what the runs do. -/
namespace ShardScript.Syntax
open Library

variable {Expression TypeSymbol Effect Exception : Type}

def Event.onEffect (holds : Effect → Prop) : Event Expression TypeSymbol Effect → Prop
  | .effect performed => holds performed
  | _ => False

namespace Meaning

structure Live (meaning : Meaning Expression TypeSymbol Effect Exception) : Prop where
  evaluate : ∀ expression, (meaning.evaluate expression).Live
  advance : ∀ range, (meaning.advance range).Live
  dispose : ∀ resource, (meaning.dispose resource).Live
  denotes : ∀ expression, ∃ exception, meaning.denotes expression exception

variable (meaning : Meaning Expression TypeSymbol Effect Exception) (uses defines : Effect → Prop)

def innerFlow (body : Behaviour Effect Exception) : Flow (Jump Exception) :=
  (Flow.of uses defines body).map Jump.throws

def expressionFlow (expression : Expression) : Flow (Jump Exception) :=
  innerFlow uses defines (meaning.evaluate expression)

def optionalFlow : Option Expression → Flow (Jump Exception)
  | none => .done
  | some expression => meaning.expressionFlow uses defines expression

def simpleFlow : Simple Expression → Flow (Jump Exception)
  | .expressionStatement expression => meaning.expressionFlow uses defines expression
  | .variableStatement _ value => meaning.optionalFlow uses defines value

def optionalSimpleFlow : Option (Simple Expression) → Flow (Jump Exception)
  | none => .done
  | some statement => meaning.simpleFlow uses defines statement

def raiseFlow (exception : Expression) : Flow (Jump Exception) where
  exposes := False
  passes ending := ∃ raised, meaning.denotes exception raised ∧ ending = .jump (.throws raised)

def endContinueFlow : Jump Exception → Flow (Jump Exception)
  | .continues => .done
  | jump => .leave jump

def endBreakFlow : Jump Exception → Flow (Jump Exception)
  | .breaks => .done
  | jump => .leave jump

def endTryFlow (catches : Exception → Flow (Jump Exception)) : Jump Exception → Flow (Jump Exception)
  | .throws exception => catches exception
  | jump => .leave jump

def loopFlow (again last turn : Flow (Jump Exception)) : Flow (Jump Exception) :=
  .rescue (.seq (.many (.seq again turn)) last) endBreakFlow

def turnFlow (body : Flow (Jump Exception)) : Flow (Jump Exception) := .rescue body endContinueFlow

def unwoundFlow : Statement Expression TypeSymbol .statement → Flow (Jump Exception) → Flow (Jump Exception)
  | .deferStatement true resource,rest => rest.unwinding (innerFlow uses defines (meaning.dispose resource))
  | .deferStatement false deferred,rest => rest.unwinding (meaning.simpleFlow uses defines deferred)
  | _,rest => rest

end Meaning

variable (meaning : Meaning Expression TypeSymbol Effect Exception) (uses defines : Effect → Prop)

def Statement.flow : {kind : StatementKind} → Statement Expression TypeSymbol kind → Exception →
    Flow (Jump Exception)
  | _,.simple statement,_ => meaning.simpleFlow uses defines statement
  | _,.returnStatement value,_ => .seq (meaning.optionalFlow uses defines value) (.leave .returns)
  | _,.throwStatement (some exception),_ =>
      .seq (meaning.expressionFlow uses defines exception) (meaning.raiseFlow exception)
  | _,.throwStatement none,handled => .leave (.throws handled)
  | _,.breakStatement,_ => .leave .breaks
  | _,.continueStatement,_ => .leave .continues
  | _,.whileStatement condition body,handled | _,.untilStatement condition body,handled =>
      Meaning.loopFlow (meaning.expressionFlow uses defines condition)
        (meaning.expressionFlow uses defines condition) (Meaning.turnFlow (body.flow handled))
  | _,.forStatement initializer condition afterRepeat body,handled =>
      .seq (meaning.optionalSimpleFlow uses defines initializer)
        (Meaning.loopFlow (meaning.optionalFlow uses defines condition)
          (match condition with
            | none => .stall
            | some condition => meaning.expressionFlow uses defines condition)
          (.seq (Meaning.turnFlow (body.flow handled)) (meaning.optionalSimpleFlow uses defines afterRepeat)))
  | _,.forEachStatement _ range body,handled | _,.forInStatement _ range body,handled =>
      .seq (meaning.expressionFlow uses defines range)
        (Meaning.loopFlow (Meaning.innerFlow uses defines (meaning.advance range))
          (Meaning.innerFlow uses defines (meaning.advance range)) (Meaning.turnFlow (body.flow handled)))
  | _,.conditional first,handled => first.flow handled
  | _,.switchStatement scrutinee cases,handled =>
      .seq (meaning.expressionFlow uses defines scrutinee) (.rescue (cases.flow handled) Meaning.endBreakFlow)
  | _,.tryStatement body catches,handled =>
      .rescue (body.flow handled) (Meaning.endTryFlow fun exception => catches.flow exception)
  | _,.deferStatement isResource statement,_ =>
      if isResource then meaning.simpleFlow uses defines statement else .done
  | _,.empty,_ | _,.noNext,_ => .done
  | _,.cons first rest,handled =>
      .seq .done (.seq (first.flow handled) (meaning.unwoundFlow uses defines first (rest.flow handled)))
  | _,.ifClause _ condition body next,handled =>
      .seq (meaning.simpleFlow uses defines condition) (.either (body.flow handled) (next.flow handled))
  | _,.elseClause body,handled => body.flow handled
  | _,.elseIf clause,handled => clause.flow handled
  | _,.noCase,_ => .leave .breaks
  | _,.defaultClause body _,handled => body.flow handled
  | _,.caseClause pattern body rest,handled =>
      .seq (meaning.expressionFlow uses defines pattern) (.either (body.flow handled) (rest.flow handled))
  | _,.noCatch,handled => .leave (.throws handled)
  | _,.catchClause type _ body rest,handled =>
      .choose (meaning.Takes type handled) (body.flow handled) (rest.flow handled)

section Described

variable {meaning uses defines}

abbrev Described (uses defines : Effect → Prop) (flow : Flow (Jump Exception)) (runs : meaning.Runs) : Prop :=
  flow.Describes (Event.onEffect uses) (Event.onEffect defines) runs

theorem inner_described {body : Behaviour Effect Exception} (runs : body.Live) :
    Described uses defines (Meaning.innerFlow uses defines body) (meaning.inner body) :=
  .map (.of_live runs)

theorem expression_described (live : meaning.Live) (expression : Expression) :
    Described uses defines (meaning.expressionFlow uses defines expression) (meaning.expression expression) :=
  inner_described (live.evaluate expression)

theorem optional_described (live : meaning.Live) (value : Option Expression) :
    Described uses defines (meaning.optionalFlow uses defines value) (meaning.optional value) := by
  cases value with
  | none => exact .done
  | some expression => exact expression_described live expression

theorem simple_described (live : meaning.Live) (statement : Simple Expression) :
    Described uses defines (meaning.simpleFlow uses defines statement) (meaning.simple statement) := by
  cases statement with
  | expressionStatement expression => exact expression_described live expression
  | variableStatement name value => exact optional_described live value

theorem optionalSimple_described (live : meaning.Live) (statement : Option (Simple Expression)) :
    Described uses defines (meaning.optionalSimpleFlow uses defines statement)
      (meaning.optionalSimple statement) := by
  cases statement with
  | none => exact .done
  | some statement => exact simple_described live statement

theorem raise_described (live : meaning.Live) (exception : Expression) :
    Described uses defines (meaning.raiseFlow exception) (meaning.raise exception) := by
  refine ⟨?_,fun ending => ?_,?_⟩
  · constructor
    · rintro ⟨events,ending,⟨raised,_,rfl,_⟩,exposed⟩
      exact exposed
    · exact False.elim
  · constructor
    · rintro ⟨events,⟨raised,denoted,_,ends⟩,_⟩
      exact ⟨raised,denoted,ends⟩
    · rintro ⟨raised,denoted,ends⟩
      exact ⟨[],⟨raised,denoted,rfl,ends⟩,List.forall_mem_nil _⟩
  · obtain ⟨raised,denoted⟩ := live.denotes exception
    exact ⟨[],_,raised,denoted,rfl,rfl⟩

theorem endContinue_described (jump : Jump Exception) :
    Described uses defines (Meaning.endContinueFlow jump) (meaning.endContinue jump) := by
  cases jump with
  | continues => exact .done
  | breaks | returns | throws exception => exact .leave _

theorem endBreak_described (jump : Jump Exception) :
    Described uses defines (Meaning.endBreakFlow jump) (meaning.endBreak jump) := by
  cases jump with
  | breaks => exact .done
  | continues | returns | throws exception => exact .leave _

theorem endSwitch_described (cases_ : Statement Expression TypeSymbol .cases) (jump : Jump Exception) :
    Described uses defines (Meaning.endBreakFlow jump) (meaning.endSwitch cases_ jump) := by
  cases jump with
  | breaks => exact .silent id id
  | continues | returns | throws exception => exact .leave _

theorem endTry_described {flow : Exception → Flow (Jump Exception)} {catches : Exception → meaning.Runs}
    (caught : ∀ exception, Described uses defines (flow exception) (catches exception))
    (jump : Jump Exception) :
    Described uses defines (Meaning.endTryFlow flow jump) (meaning.endTry catches jump) := by
  cases jump with
  | throws exception => exact caught exception
  | breaks | continues | returns => exact .leave _

theorem loop_described {againFlow lastFlow turnFlow : Flow (Jump Exception)} {again last turn : meaning.Runs}
    (asks : Described uses defines againFlow again) (ends : Described uses defines lastFlow last)
    (turns : Described uses defines turnFlow turn) :
    Described uses defines (Meaning.loopFlow againFlow lastFlow turnFlow) (meaning.loop again last turn) :=
  .rescue (.seq (.many (.seq asks turns)) ends) endBreak_described

variable {flow : Flow (Jump Exception)}

theorem turn_described {body : meaning.Runs}
    (runs : Described uses defines flow body) :
    Described uses defines (Meaning.turnFlow flow) (meaning.turn body) :=
  .rescue runs endContinue_described

theorem unwound_described (live : meaning.Live) (first : Statement Expression TypeSymbol .statement)
    {rest : meaning.Runs} (runs : Described uses defines flow rest) :
    Described uses defines (meaning.unwoundFlow uses defines first flow) (meaning.unwound first rest) := by
  cases first with
  | deferStatement isResource statement =>
    cases isResource with
    | true => exact .unwinding runs (inner_described (live.dispose statement))
    | false => exact .unwinding runs (simple_described live statement)
  | simple | returnStatement | throwStatement | breakStatement | continueStatement | whileStatement
  | untilStatement | forStatement | forEachStatement | forInStatement | conditional | switchStatement
  | tryStatement => exact runs

theorem flow_described (live : meaning.Live) {kind : StatementKind}
    (statement : Statement Expression TypeSymbol kind) (handled : Exception) (path : Path) :
    Described uses defines (statement.flow meaning uses defines handled) (statement.runs meaning handled path) := by
  induction statement generalizing handled path with
  | simple statement => exact simple_described live statement
  | returnStatement value => exact .seq (optional_described live value) (.leave _)
  | throwStatement exception =>
    cases exception with
    | none => exact .leave _
    | some exception => exact .seq (expression_described live exception) (raise_described live exception)
  | breakStatement | continueStatement | noCase | noCatch => exact .leave _
  | whileStatement condition body ih | untilStatement condition body ih =>
    exact loop_described (expression_described live condition) (expression_described live condition)
      (turn_described (ih _ _))
  | forStatement initializer condition afterRepeat body ih =>
    refine .seq (optionalSimple_described live initializer) (loop_described
      (optional_described live condition) ?_
      (.seq (turn_described (ih _ _)) (optionalSimple_described live afterRepeat)))
    cases condition with
    | none => exact .stall
    | some condition => exact expression_described live condition
  | forEachStatement name range body ih | forInStatement name range body ih =>
    exact .seq (expression_described live range) (loop_described (inner_described (live.advance range))
      (inner_described (live.advance range)) (turn_described (ih _ _)))
  | conditional first ih | elseIf clause ih => exact ih _ _
  | switchStatement scrutinee cases ih =>
    exact .seq (expression_described live scrutinee) (.rescue (ih _ _) (endSwitch_described cases))
  | tryStatement body catches ihBody ihCatches =>
    exact .rescue (ihBody _ _) (endTry_described fun exception => ihCatches _ _)
  | deferStatement isResource statement =>
    cases isResource with
    | true => exact simple_described live statement
    | false => exact .done
  | empty | noNext => exact .done
  | cons first rest ihFirst ihRest =>
    exact .seq (.silent id id) (.seq (ihFirst _ _) (unwound_described live first (ihRest _ _)))
  | ifClause negated condition body next ihBody ihNext =>
    exact .seq (simple_described live condition) (.either (ihBody _ _) (ihNext _ _))
  | elseClause body ih => exact ih _ _
  | defaultClause body rest ihBody ihRest => exact ihBody _ _
  | caseClause pattern body rest ihBody ihRest =>
    exact .seq (expression_described live pattern) (.either (ihBody _ _) (ihRest _ _))
  | catchClause type name body rest ihBody ihRest => exact .choose (ihBody _ _) (ihRest _ _)

end Described

end ShardScript.Syntax
