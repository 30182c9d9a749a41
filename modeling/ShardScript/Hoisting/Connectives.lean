import ShardScript.Hoisting.Order
import ShardScript.Library.Journal
import ShardScript.Primitive.Soundness

/-! `&&` and `||` as they are emitted, and as they are spilled. -/
namespace ShardScript.Hoisting
open Library Scratch Semantic Attempt

inductive Logical (Operand : Type) where
  | operand (operand : Operand)
  | connective (isOr : Bool) (left right : Logical Operand)

/-- Where an operand stands; a right side is one that is `true`. -/
abbrev Position := List Bool

def connectiveOperator (isOr : Bool) : TokenType := if isOr then .orOperator else .andOperator

theorem connectiveOperator_connective (isOr : Bool) :
    connectiveOperator isOr = .andOperator ∨ connectiveOperator isOr = .orOperator := by
  cases isOr
  · exact .inl rfl
  · exact .inr rfl

theorem connectiveOperator_isOr (isOr : Bool) : decide (connectiveOperator isOr = .orOperator) = isOr := by
  cases isOr
  · rfl
  · rfl

inductive Step (Operand : Type) where
  | evaluate (position : Position) (operand : Operand)
  | mathBinary (operator : TokenType)

namespace Logical

def toExpression : Logical (Expression .expression) → Expression .expression
  | operand expression => expression
  | connective isOr left right => .binaryExpression (connectiveOperator isOr) left.toExpression right.toExpression

inductive Matches {Operand Operand' : Type} (related : Operand → Operand' → Prop) :
    Logical Operand → Logical Operand' → Prop where
  | operand {one : Operand} {other : Operand'} (known : related one other) : Matches related (.operand one) (.operand other)
  | connective (isOr : Bool) {left right : Logical Operand} {left' right' : Logical Operand'}
      (first : Matches related left left') (second : Matches related right right') :
      Matches related (.connective isOr left right) (.connective isOr left' right')

section Evaluation

variable {Operand Value : Type} {m : Type → Type} [Monad m]

def shortCircuit (truth : Value → Bool) (evaluateOperand : Position → Operand → m Value) (position : Position) :
    Logical Operand → m Value
  | operand item => evaluateOperand position item
  | connective isOr left right => do
      let value ← shortCircuit truth evaluateOperand (position ++ [false]) left
      if truth value = isOr then pure value else shortCircuit truth evaluateOperand (position ++ [true]) right

def eager (evaluateOperand : Position → Operand → m Bool) (position : Position) : Logical Operand → m Bool
  | operand item => evaluateOperand position item
  | connective isOr left right => do
      let first ← eager evaluateOperand (position ++ [false]) left
      let second ← eager evaluateOperand (position ++ [true]) right
      pure (if isOr then first || second else first && second)

end Evaluation

section Emission

variable {Operand : Type}

def emit (position : Position) : Logical Operand → Option (List (Step Operand))
  | operand item => some [.evaluate position item]
  | connective isOr left right => do
      let left ← emit (position ++ [false]) left
      let right ← emit (position ++ [true]) right
      let operation ← Primitive.binaryInstruction (connectiveOperator isOr)
      some (left ++ right ++ [.mathBinary operation])

variable {m : Type → Type} [Monad m] {Double : Type} [Primitive.FloatingPoint Double]
  (invokeOperatorMethod : TokenType → List (Primitive.Instance Double) → Except Primitive.Failure (Primitive.Instance Double))
  (raise : Primitive.Failure → m (List (Primitive.Instance Double))) (evaluateOperand : Position → Operand → m Bool)

@[grind] def run : List (Step Operand) → List (Primitive.Instance Double) → m (List (Primitive.Instance Double))
  | [],stack => pure stack
  | .evaluate position item :: code,stack => do
      let value ← evaluateOperand position item
      run code (.boolean value :: stack)
  | .mathBinary operator :: code,right :: left :: stack =>
      match Primitive.Machine.executeBinary invokeOperatorMethod operator left right with
      | .ok result => run code (result :: stack)
      | .error failure => raise failure
  | .mathBinary _ :: _,_ => raise .undefined

theorem emit_isSome (position : Position) (tree : Logical Operand) : ∃ code, emit position tree = some code := by
  induction tree generalizing position with
  | operand item => exact ⟨_,rfl⟩
  | connective isOr left right ihLeft ihRight =>
    obtain ⟨first,left⟩ := ihLeft (position ++ [false])
    obtain ⟨second,right⟩ := ihRight (position ++ [true])
    rw [emit,left,right]
    cases isOr
    · exact ⟨_,rfl⟩
    · exact ⟨_,rfl⟩

theorem run_emit [LawfulMonad m] {position : Position} {tree : Logical Operand} {code : List (Step Operand)}
    (emitted : emit position tree = some code) (behind : List (Step Operand)) (stack : List (Primitive.Instance Double)) :
    run invokeOperatorMethod raise evaluateOperand (code ++ behind) stack =
      eager evaluateOperand position tree >>= fun value =>
        run invokeOperatorMethod raise evaluateOperand behind (.boolean value :: stack) := by
  induction tree generalizing position code behind stack with
  | operand item =>
    cases emitted
    rfl
  | connective isOr left right ihLeft ihRight =>
    obtain ⟨first,one⟩ := emit_isSome (position ++ [false]) left
    obtain ⟨second,two⟩ := emit_isSome (position ++ [true]) right
    rw [emit,one,two] at emitted
    have known : ∃ operation, Primitive.binaryInstruction (connectiveOperator isOr) = some operation ∧
        ∀ value value', Primitive.Machine.executeBinary invokeOperatorMethod operation (.boolean value) (.boolean value') =
          .ok (.boolean (if isOr then value || value' else value && value')) := by
      cases isOr
      · exact ⟨_,rfl,fun _ _ => rfl⟩
      · exact ⟨_,rfl,fun _ _ => rfl⟩
    obtain ⟨operation,known,performed⟩ := known
    rw [known] at emitted
    cases emitted
    rw [List.append_assoc,List.append_assoc,ihLeft one,eager,bind_assoc]
    refine bind_congr fun value => ?_
    rw [ihRight two,bind_assoc]
    refine bind_congr fun value' => ?_
    rw [pure_bind,List.singleton_append,run,performed]

end Emission

section Journal

open Journal

variable {Operand State Exception : Type} (evaluateOperand : Position → Operand → State → Except Exception Bool × State)

def noted (position : Position) (operand : Operand) : Journal Position State Exception Bool :=
  Journal.note position (evaluateOperand position operand)

def Undecided (position : Position) : Logical Operand → State → Prop
  | operand _,_ => True
  | connective isOr left right,state =>
      Undecided (position ++ [false]) left state ∧ ∀ noting value middle,
        Goes (shortCircuit id (noted evaluateOperand) (position ++ [false]) left) state noting (.ok value) middle →
          value ≠ isOr ∧ Undecided (position ++ [true]) right middle

variable {evaluateOperand}

theorem below_left {position place : Position} (below : position ++ [false] <+: place) : position <+: place :=
  (List.prefix_append _ _).trans below

theorem below_right {position place : Position} (below : position ++ [true] <+: place) : position <+: place :=
  (List.prefix_append _ _).trans below

theorem not_below_both {position place : Position} (left : position ++ [false] <+: place)
    (right : position ++ [true] <+: place) : False := by
  obtain ⟨rest,rfl⟩ := left
  rw [List.append_assoc,List.prefix_append_right_inj] at right
  obtain ⟨rest',same⟩ := right
  cases same

variable {position : Position}

theorem sides_inj {first first' second second' : List Position}
    (left : ∀ place ∈ first, position ++ [false] <+: place) (left' : ∀ place ∈ first', position ++ [false] <+: place)
    (right : ∀ place ∈ second, position ++ [true] <+: place) (right' : ∀ place ∈ second', position ++ [true] <+: place)
    (same : first ++ second = first' ++ second') : first = first' ∧ second = second' := by
  have filtered : ∀ {one two : List Position}, (∀ place ∈ one, position ++ [false] <+: place) →
      (∀ place ∈ two, position ++ [true] <+: place) →
      (one ++ two).filter (fun place => decide (position ++ [false] <+: place)) = one := by
    intro one two left right
    have all : one.filter (fun place => decide (position ++ [false] <+: place)) = one := by
      rw [List.filter_eq_self]
      exact fun place member => decide_eq_true (left place member)
    have none : two.filter (fun place => decide (position ++ [false] <+: place)) = [] := by
      rw [List.filter_eq_nil_iff]
      exact fun place member below => not_below_both (of_decide_eq_true below) (right place member)
    rw [List.filter_append,all,none,List.append_nil]
  have firsts : first = first' := by rw [← filtered left right,same,filtered left' right']
  subst firsts
  exact ⟨rfl,List.append_cancel_left same⟩

variable {left right : Logical Operand} {state middle after : State} {isOr : Bool} {value : Bool}

theorem both_goes
    {noting noting' : List Position} {outcome : Except Exception Bool}
    (first : Goes (eager (noted evaluateOperand) (position ++ [false]) left) state noting (.ok value) middle)
    (second : Goes (eager (noted evaluateOperand) (position ++ [true]) right) middle noting' outcome after) :
    Goes (eager (noted evaluateOperand) position (.connective isOr left right)) state (noting ++ noting')
      (outcome.map fun value' => if isOr then value || value' else value && value') after := by
  cases outcome with
  | error exception => exact first.bind second.stopped
  | ok value' =>
    rw [← List.append_nil noting']
    exact first.bind (second.bind (Goes.pure _ after))

variable (evaluateOperand) in
theorem eager_goes (position : Position) (tree : Logical Operand) (state : State) : ∃ noting outcome after,
    Goes (eager (noted evaluateOperand) position tree) state noting outcome after ∧ noting ≠ [] ∧
      ∀ place ∈ noting, position <+: place := by
  induction tree generalizing position state with
  | operand item =>
    refine ⟨_,_,_,Goes.note position (evaluateOperand position item) state,List.cons_ne_nil _ _,?_⟩
    intro place member
    obtain rfl := List.mem_singleton.1 member
    exact List.prefix_rfl
  | connective isOr left right ihLeft ihRight =>
    obtain ⟨noting,outcome,middle,goes,some,below⟩ := ihLeft (position ++ [false]) state
    cases outcome with
    | error exception => exact ⟨_,_,_,goes.stopped,some,fun place member => below_left (below place member)⟩
    | ok value =>
      obtain ⟨noting',outcome',after,goes',_,below'⟩ := ihRight (position ++ [true]) middle
      refine ⟨_,_,_,both_goes goes goes',fun none => some (List.append_eq_nil_iff.1 none).1,?_⟩
      intro place member
      rcases List.mem_append.1 member with member | member
      · exact below_left (below place member)
      · exact below_right (below' place member)

variable (evaluateOperand) in
theorem shortCircuit_goes (position : Position) (tree : Logical Operand) (state : State) : ∃ noting outcome after,
    Goes (shortCircuit id (noted evaluateOperand) position tree) state noting outcome after ∧
      ∀ place ∈ noting, position <+: place := by
  induction tree generalizing position state with
  | operand item =>
    refine ⟨_,_,_,Goes.note position (evaluateOperand position item) state,?_⟩
    intro place member
    obtain rfl := List.mem_singleton.1 member
    exact List.prefix_rfl
  | connective isOr left right ihLeft ihRight =>
    obtain ⟨noting,outcome,middle,goes,below⟩ := ihLeft (position ++ [false]) state
    cases outcome with
    | error exception => exact ⟨_,_,_,goes.stopped,fun place member => below_left (below place member)⟩
    | ok value =>
      obtain ⟨noting',outcome',after,goes',below'⟩ : ∃ noting' outcome' after,
          Goes (if id value = isOr then pure value else
            shortCircuit id (noted evaluateOperand) (position ++ [true]) right) middle noting' outcome' after ∧
          ∀ place ∈ noting', position ++ [true] <+: place := by
        split
        · exact ⟨_,_,_,Goes.pure value middle,by simp⟩
        · exact ihRight (position ++ [true]) middle
      refine ⟨_,_,_,goes.bind goes',?_⟩
      intro place member
      rcases List.mem_append.1 member with member | member
      · exact below_left (below place member)
      · exact below_right (below' place member)

variable {noting : List Position}

theorem decided_goes {left : Logical Operand} (right : Logical Operand)
    {state middle : State} (decides : value = isOr)
    (first : Goes (shortCircuit id (noted evaluateOperand) (position ++ [false]) left) state noting (.ok value) middle) :
    Goes (shortCircuit id (noted evaluateOperand) position (.connective isOr left right)) state noting (.ok value)
      middle := by
  rw [← List.append_nil noting]
  refine first.bind ?_
  rw [id_eq,if_pos decides]
  exact Goes.pure value middle

theorem undecided_goes
    {noting noting' : List Position} {outcome : Except Exception Bool} (undecided : value ≠ isOr)
    (first : Goes (shortCircuit id (noted evaluateOperand) (position ++ [false]) left) state noting (.ok value) middle)
    (second : Goes (shortCircuit id (noted evaluateOperand) (position ++ [true]) right) middle noting' outcome after) :
    Goes (shortCircuit id (noted evaluateOperand) position (.connective isOr left right)) state (noting ++ noting')
      outcome after := by
  refine first.bind ?_
  rw [id_eq,if_neg undecided]
  exact second

theorem Undecided.goes {tree : Logical Operand} {state after : State}
    {outcome : Except Exception Bool} (undecided : Undecided evaluateOperand position tree state)
    (goes : Goes (eager (noted evaluateOperand) position tree) state noting outcome after) :
    Goes (shortCircuit id (noted evaluateOperand) position tree) state noting outcome after := by
  induction tree generalizing position state after noting outcome with
  | operand item => exact goes
  | connective isOr left right ihLeft ihRight =>
    obtain ⟨noting',outcome',middle,first,_⟩ := eager_goes evaluateOperand (position ++ [false]) left state
    have first' := ihLeft undecided.1 first
    cases outcome' with
    | error exception =>
      obtain ⟨rfl,rfl,rfl⟩ := goes.unique first.stopped
      exact first'.stopped
    | ok value =>
      obtain ⟨other,undecided⟩ := undecided.2 noting' value middle first'
      obtain ⟨noting'',outcome'',after',second,_⟩ :=
        eager_goes evaluateOperand (position ++ [true]) right middle
      obtain ⟨rfl,rfl,rfl⟩ := goes.unique (both_goes first second)
      have same : (outcome''.map fun value' => if isOr then value || value' else value && value') = outcome'' := by
        cases outcome'' with
        | error exception => rfl
        | ok value' =>
          cases isOr
          · rw [ne_eq,Bool.not_eq_false] at other
            rw [other]
            rfl
          · rw [ne_eq,Bool.not_eq_true] at other
            rw [other]
            rfl
      rw [same]
      exact undecided_goes other first' (ihRight undecided second)

variable {outcome outcome' : Except Exception Bool}

theorem eager_added
    {one noting : List Position}
    (first : Goes (eager (noted evaluateOperand) (position ++ [false]) left) state one outcome middle)
    (goes : Goes (eager (noted evaluateOperand) position (.connective isOr left right)) state noting outcome' after) :
    ∃ added, noting = one ++ added ∧ (∀ place ∈ added, position ++ [true] <+: place) ∧
      ∀ value, outcome = .ok value → added ≠ [] ∧
        ∃ outcome after, Goes (eager (noted evaluateOperand) (position ++ [true]) right) middle added outcome after := by
  cases outcome with
  | error exception =>
    obtain ⟨rfl,_⟩ := goes.unique first.stopped
    exact ⟨[],(List.append_nil _).symm,by simp,by simp⟩
  | ok value =>
    obtain ⟨added,outcome,after,second,some,below⟩ :=
      eager_goes evaluateOperand (position ++ [true]) right middle
    obtain ⟨rfl,_⟩ := goes.unique (both_goes first second)
    exact ⟨added,rfl,below,fun _ _ => ⟨some,_,_,second⟩⟩

theorem shortCircuit_added
    {one noting : List Position}
    (first : Goes (shortCircuit id (noted evaluateOperand) (position ++ [false]) left) state one outcome middle)
    (goes : Goes (shortCircuit id (noted evaluateOperand) position (.connective isOr left right)) state noting outcome'
      after) :
    ∃ added, noting = one ++ added ∧ (∀ place ∈ added, position ++ [true] <+: place) ∧
      ∀ value, outcome = .ok value → (value = isOr → added = []) ∧ (value ≠ isOr → ∃ outcome after,
        Goes (shortCircuit id (noted evaluateOperand) (position ++ [true]) right) middle added outcome after) := by
  cases outcome with
  | error exception =>
    obtain ⟨rfl,_⟩ := goes.unique first.stopped
    exact ⟨[],(List.append_nil _).symm,by simp,by simp⟩
  | ok value =>
    by_cases decides : value = isOr
    · obtain ⟨rfl,_⟩ := goes.unique (decided_goes right decides first)
      refine ⟨[],(List.append_nil _).symm,by simp,fun value' same => ⟨fun _ => rfl,fun other => ?_⟩⟩
      cases same
      exact absurd decides other
    · obtain ⟨added,outcome,after,second,below⟩ :=
        shortCircuit_goes evaluateOperand (position ++ [true]) right middle
      obtain ⟨rfl,_⟩ := goes.unique (undecided_goes decides first second)
      refine ⟨added,rfl,below,fun value' same => ⟨fun decides' => ?_,fun _ => ⟨_,_,second⟩⟩⟩
      cases same
      exact absurd decides' decides

theorem undecided_of_goes {tree : Logical Operand} {state after after' : State}

    (goes : Goes (eager (noted evaluateOperand) position tree) state noting outcome after)
    (goes' : Goes (shortCircuit id (noted evaluateOperand) position tree) state noting outcome' after') :
    Undecided evaluateOperand position tree state := by
  induction tree generalizing position state after after' noting outcome outcome' with
  | operand item => exact trivial
  | connective isOr left right ihLeft ihRight =>
    obtain ⟨one,known,middle,first,_,below⟩ :=
      eager_goes evaluateOperand (position ++ [false]) left state
    obtain ⟨one',known',middle',first',below'⟩ :=
      shortCircuit_goes evaluateOperand (position ++ [false]) left state
    obtain ⟨added,parts,behind,evaluated⟩ := eager_added first goes
    obtain ⟨added',parts',behind',evaluated'⟩ := shortCircuit_added first' goes'
    obtain ⟨rfl,rfl⟩ := sides_inj below below' behind behind' (parts.symm.trans parts')
    have undecided := ihLeft first first'
    refine ⟨undecided,?_⟩
    intro noting' value middle'' left
    obtain ⟨_,rfl,rfl⟩ := (undecided.goes first).unique left
    obtain ⟨_,rfl,rfl⟩ := first'.unique left
    obtain ⟨some,_,_,second⟩ := evaluated value rfl
    obtain ⟨decided,otherwise⟩ := evaluated' value rfl
    have other : value ≠ isOr := fun decides => some (decided decides)
    obtain ⟨_,_,second'⟩ := otherwise other
    exact ⟨other,ihRight second second'⟩

theorem events_eager_iff (position : Position) (tree : Logical Operand) (state : State) :
    events (eager (noted evaluateOperand) position tree) state =
        events (shortCircuit id (noted evaluateOperand) position tree) state ↔
      Undecided evaluateOperand position tree state := by
  obtain ⟨noting,_,_,goes,_⟩ := eager_goes evaluateOperand position tree state
  obtain ⟨noting',_,_,goes',_⟩ := shortCircuit_goes evaluateOperand position tree state
  constructor
  · intro same
    rw [goes.events_eq,goes'.events_eq] at same
    rw [← same] at goes'
    exact undecided_of_goes goes goes'
  · intro undecided
    rw [goes.events_eq,(undecided.goes goes).events_eq]

end Journal

section Spill

theorem run_branch_fetch {Value Exception : Type} {M : Type → Type} [Monad M] [LawfulMonad M]
    (host : Host Value (ExceptT Exception M)) (isOr : Bool) (destination : VariableSymbol) (statements : Prefix) :
    ((Prefix.branch isOr destination statements .nil .nil).run host.onScratch >>= fun _ => fetch destination) =
      fetch destination >>= fun value => if host.truth value = isOr then pure value
        else statements.run host.onScratch >>= fun _ => fetch destination := by
  have tested : ∀ value, ((if host.truth value = isOr then pure () else statements.run host.onScratch) >>=
      fun _ => fetch destination) = if host.truth value = isOr then fetch destination
        else statements.run host.onScratch >>= fun _ => fetch destination := by
    intro value
    split
    · rw [pure_bind]
    · rfl
  simp only [Prefix.run,Host.onScratch_read,Host.onScratch_truth,bind_assoc,bind_pure_unit]
  refine (bind_congr tested).trans ?_
  exact fetch_fetch destination (fun value => host.truth value = isOr) _

theorem spillExpressionInto_shortCircuits (tree : Logical (Expression .expression)) (destination : VariableSymbol)
    (position : Position) :
    Yields (spillExpressionInto tree.toExpression destination) fun statements => ∃ spilled : Logical Prefix,
      Matches (fun operand statements => ∃ state after,
        spillExpressionInto operand destination state = (some statements,after)) tree spilled ∧
      ∀ (Value Exception : Type) (M : Type → Type) [Monad M] [LawfulMonad M] (host : Host Value (ExceptT Exception M)),
        (statements.run host.onScratch >>= fun _ => fetch destination) =
          shortCircuit host.truth (fun _ statements => statements.run host.onScratch >>= fun _ => fetch destination)
            position spilled := by
  induction tree generalizing position with
  | operand item =>
    intro state statements after known
    exact ⟨.operand statements,.operand ⟨state,after,known⟩,fun _ _ _ _ _ _ => rfl⟩
  | connective isOr left right ihLeft ihRight =>
    rw [toExpression,spillExpressionInto,if_pos (connectiveOperator_connective isOr)]
    refine (ihLeft (position ++ [false])).bind fun first one => (ihRight (position ++ [true])).map fun second two => ?_
    obtain ⟨spilled,matched,known⟩ := one
    obtain ⟨spilled',matched',known'⟩ := two
    refine ⟨.connective isOr spilled spilled',.connective isOr matched matched',?_⟩
    intro Value Exception M _ _ host
    rw [shortCircuit,← known,bind_assoc,Prefix.run_append,bind_assoc,connectiveOperator_isOr]
    refine bind_congr fun _ => ?_
    rw [run_branch_fetch]
    refine bind_congr fun value => ?_
    rw [← known']

end Spill

section Agreement

open Journal

theorem events_emit {Operand State Exception Double : Type} [Primitive.FloatingPoint Double]
    (invokeOperatorMethod : TokenType → List (Primitive.Instance Double) →
      Except Primitive.Failure (Primitive.Instance Double))
    (raise : Primitive.Failure → Journal Position State Exception (List (Primitive.Instance Double)))
    (evaluateOperand : Position → Operand → State → Except Exception Bool × State) {position : Position}
    {tree : Logical Operand} {code : List (Step Operand)} (emitted : emit position tree = some code) (state : State) :
    events (run invokeOperatorMethod raise (noted evaluateOperand) code []) state =
      events (eager (noted evaluateOperand) position tree) state := by
  rw [← List.append_nil code,run_emit invokeOperatorMethod raise (noted evaluateOperand) emitted]
  obtain ⟨noting,outcome,after,goes,_⟩ := eager_goes evaluateOperand position tree state
  rw [goes.events_eq]
  cases outcome with
  | error exception => exact goes.stopped.events_eq
  | ok value =>
    rw [← List.append_nil noting]
    exact (goes.bind (Goes.pure [Primitive.Instance.boolean value] after)).events_eq

/-- The spilled statements of a condition evaluate the right side of `&&` and `||` if and only if the left one does not
decide. The code of an expression does the same if and only if no left side decides. -/
theorem connectives_agree (tree : Logical (Expression .expression)) :
    (∀ destination, Yields (spillExpressionInto tree.toExpression destination) fun statements =>
      ∃ spilled : Logical Prefix,
        Matches (fun operand statements => ∃ state after,
          spillExpressionInto operand destination state = (some statements,after)) tree spilled ∧
        ∀ (Value Exception : Type) (M : Type → Type) [Monad M] [LawfulMonad M] (host : Host Value (ExceptT Exception M)),
          (statements.run host.onScratch >>= fun _ => fetch destination) =
            shortCircuit host.truth (fun _ statements => statements.run host.onScratch >>= fun _ => fetch destination)
              [] spilled) ∧
    ∃ code, emit [] tree = some code ∧
      ∀ (State Exception Double : Type) [Primitive.FloatingPoint Double]
        (invokeOperatorMethod : TokenType → List (Primitive.Instance Double) →
          Except Primitive.Failure (Primitive.Instance Double))
        (raise : Primitive.Failure → Journal Position State Exception (List (Primitive.Instance Double)))
        (evaluateOperand : Position → Expression .expression → State → Except Exception Bool × State) (state : State),
        events (run invokeOperatorMethod raise (noted evaluateOperand) code []) state =
            events (shortCircuit id (noted evaluateOperand) [] tree) state ↔
          Undecided evaluateOperand [] tree state := by
  refine ⟨fun destination => spillExpressionInto_shortCircuits tree destination [],?_⟩
  obtain ⟨code,emitted⟩ := emit_isSome [] tree
  refine ⟨code,emitted,?_⟩
  intro State Exception Double _ invokeOperatorMethod raise evaluateOperand state
  rw [events_emit invokeOperatorMethod raise evaluateOperand emitted]
  exact events_eager_iff [] tree state

def bothCalls : Logical (Expression .expression) :=
  .connective false (.operand (.invocationExpression 1 .absent .noArgument))
    (.operand (.invocationExpression 2 .absent .noArgument))

def refusing : Position → Expression .expression → Unit → Except Unit Bool × Unit := fun _ _ state => (.ok false,state)

/-- The second call is made although the first one decides. -/
theorem bothCalls_evaluated : ∃ code, emit [] bothCalls = some code ∧
    events (run Primitive.noOperatorMethod (fun _ => throw ()) (noted refusing) code []) () = [[false],[true]] ∧
    events (shortCircuit id (noted refusing) [] bothCalls) () = [[false]] := ⟨_,rfl,rfl,rfl⟩

end Agreement

end Logical

end ShardScript.Hoisting
