import ShardScript.Semantic.EffectBodies
import ShardScript.Semantic.HiddenEffects

/-! The effect summaries of a program against the runs of its methods. -/
namespace ShardScript.Semantic
open Library Behaviour Syntax

namespace Program

variable {TypeSymbol : Type} (program : Program TypeSymbol)

/-- The effects in a body that are hidden from the scan: all of them, if the analyzer does not come to it. -/
def hiddenIn {level : Nat} (current : Option MethodSymbol) (body : Code TypeSymbol level .block) : List Site :=
  hiddenEffects body [] current.isNone

def hiddenOf (method : MethodSymbol) : List Site :=
  match program.body method with
  | none => []
  | some body => hiddenIn (some method) body

theorem unheard_walk {level : Nat} (current : Option MethodSymbol) (method : MethodSymbol)
    (body : Code TypeSymbol level .block) :
    (program.walk current method body).unheard = hiddenIn current body :=
  hides_analyzeStatement program.types program.typeOf body (memberContext method) [] current

theorem analyze_terminates [DecidableEq TypeSymbol] (callers : List MethodSymbol) :
    ∃ fuel final, program.analyze callers fuel = some final :=
  propagateEffects_terminates _ _ _ _

theorem hasBody_of_body {method : MethodSymbol} {body : Code TypeSymbol program.level .block}
    (known : program.body method = some body) : program.HasBody (some method) method body := by
  rw [Program.body,Option.map_eq_some_iff] at known
  rcases known with ⟨member,found,rfl⟩
  have same : member.1 = method := by simpa using List.find?_some found
  have listed : (member.1,member.2) ∈ program.members := List.mem_of_find?_eq_some found
  rw [← same]
  exact .member listed

variable {program} [DecidableEq TypeSymbol] {callers : List MethodSymbol} {fuel : Nat}
  {final : Summaries TypeSymbol}

theorem settled (analyzed : program.analyze callers fuel = some final)
    (listed : ∀ method edge, (method,.calls edge) ∈ program.records → method ∈ callers)
    (method : MethodSymbol) : Settled program.types program.records final method := by
  have kept {record : Record TypeSymbol} (recorded : (method,record) ∈ program.records) :
      ∃ summary : EffectSummary TypeSymbol, (summary.add record).Within (final method) := by
    have noted : ∃ summary : EffectSummary TypeSymbol, (summary.add record).Within
        (scanned program.native program.records method) := scanned_add recorded
    rcases noted with ⟨summary,within⟩
    exact ⟨summary,within.trans (propagateEffects_within analyzed method)⟩
  constructor
  · intro thrownType recorded
    rcases kept recorded with ⟨summary,within⟩
    exact within.thrownTypes (by simp [EffectSummary.add])
  · intro recorded
    rcases kept recorded with ⟨summary,within⟩
    exact within.mutatesStatic rfl
  · intro recorded
    rcases kept recorded with ⟨summary,within⟩
    exact within.mutatesInstance rfl
  · intro field recorded
    rcases kept recorded with ⟨summary,within⟩
    exact within.mayAssignStaticFields (by simp [EffectSummary.add])
  · intro field recorded
    rcases kept recorded with ⟨summary,within⟩
    exact within.mayAssignInstanceFields (by simp [EffectSummary.add])
  · intro edge recorded calleeSync sync thrownType thrown uncaught
    exact thrown_of_callee analyzed (listed _ _ recorded) recorded sync calleeSync thrown uncaught
  · intro edge recorded mutates
    exact mutatesStatic_of_callee analyzed (listed _ _ recorded) recorded mutates
  · intro edge recorded mutates
    exact mutatesInstance_of_callee analyzed (listed _ _ recorded) recorded mutates

section Runs

variable {strict : Prop} {execute : MethodSymbol → Behaviour (Happening TypeSymbol) (Raised TypeSymbol)}

omit [DecidableEq TypeSymbol] in
theorem bodyRuns_ensured (callees : Callees program.types program.hiddenOf final strict execute)
    {level : Nat} {current : Option MethodSymbol} {method : MethodSymbol} {body : Code TypeSymbol level .block}
    (settled : Settled program.types program.records final method)
    (has : program.HasBody current method body) (sync : strict → method.isAsync = false) :
    Ensures (bodyRuns execute program.types program.typeOf body)
      (fun happening => strict → Heard program.hiddenOf (hiddenIn current body) happening)
      (Summarized program.hiddenOf (final method) (hiddenIn current body))
      (fun ending => strict → ∀ exception, ending = .jump (some exception) →
        Accounted program.types (final method) [] exception) := by
  have covers : Covers program.records (hiddenIn current body) method
      (analyzeStatement program.types program.typeOf body (memberContext method) []) current :=
    ⟨has.current_eq program,fun known _ recorded => has.records program known recorded,fun site member =>
      program.unheard_walk current method body ▸ member⟩
  have plain : strict → (memberContext method : Context TypeSymbol).isAsync = false := sync
  have safe := statement_safe callees settled sync body plain none [] covers (by simp [Ready,Handles])
  refine .through safe ?_
  intro ending ends strictly exception jumps
  cases ending with
  | normal | ongoing => cases jumps
  | jump jump =>
    cases jump with
    | breaks | continues | returns => cases jumps
    | throws raised =>
      cases jumps
      exact ends strictly exception rfl

omit [DecidableEq TypeSymbol] in
theorem nativeRuns_ensured (method : MethodSymbol) (unheard : List Site) :
    Ensures (nativeRuns : Behaviour (Happening TypeSymbol) (Raised TypeSymbol))
      (fun happening => strict → method.isAsync = true ∨ Heard program.hiddenOf unheard happening)
      (Summarized program.hiddenOf (final method) unheard)
      (fun ending => strict → method.isAsync = true ∨
        ∀ exception, ending = .jump (some exception) → Accounted program.types (final method) [] exception) := by
  have raises : Ensures (perform .nativeRaises : Behaviour (Happening TypeSymbol) (Raised TypeSymbol))
      (fun happening => strict → method.isAsync = true ∨ Heard program.hiddenOf unheard happening)
      (Summarized program.hiddenOf (final method) unheard) fun _ => strict → method.isAsync = true :=
    .perform (fun _ => ⟨False.elim,False.elim,fun _ => False.elim⟩) fun heard strictly => (heard strictly).resolve_right id
  refine .either (.done (by simp)) (.seq raises (fun _ _ lax strictly => .inl (lax strictly)) fun lax => ?_)
  exact .pick fun exception _ => .leave fun strictly => .inl (lax strictly)

theorem execute_ensured (analyzed : program.analyze callers fuel = some final)
    (listed : ∀ method edge, (method,.calls edge) ∈ program.records → method ∈ callers) (depth : Nat)
    (transitive : strict → ∀ target middle source, program.types.isAssignableTo target middle = true →
      program.types.isAssignableTo middle source = true → program.types.isAssignableTo target source = true) :
    Callees program.types program.hiddenOf final strict (program.execute depth) := by
  induction depth generalizing strict with
  | zero => exact ⟨transitive,fun callee events ending run => run.elim⟩
  | succ depth ih =>
    refine ⟨transitive,fun callee => ?_⟩
    cases known : program.body callee with
    | none =>
      rw [Program.execute,known]
      exact nativeRuns_ensured callee _
    | some body =>
      have has := program.hasBody_of_body known
      have hidden : program.hiddenOf callee = hiddenIn (some callee) body := by
        rw [hiddenOf,known]
      rw [Program.execute,known,hidden]
      cases isAsync : callee.isAsync with
      | true =>
        -- The exceptions of an asynchronous method do not come out of it.
        have lax : Callees program.types program.hiddenOf final False (program.execute depth) := ih (by simp)
        intro happenings ending run _
        have kept := bodyRuns_ensured lax (settled analyzed listed callee) has (by simp) happenings ending run
          (by simp)
        exact ⟨kept.1,fun _ => .inl rfl⟩
      | false =>
        intro happenings ending run heard
        have kept := bodyRuns_ensured (ih transitive) (settled analyzed listed callee) has (fun _ => isAsync)
          happenings ending run fun happening member strictly =>
            (heard happening member strictly).resolve_left (by simp)
        exact ⟨kept.1,fun strictly => .inr (kept.2 strictly)⟩

end Runs

/-- An exception that escapes a method is of a type in its summary, if the scan heard of every `throw` and of
every call that the exceptions of the run go through, and no native raised one. -/
theorem escaping_exception_summarized (program : Program TypeSymbol)
    (transitive : ∀ target middle source, program.types.isAssignableTo target middle = true →
      program.types.isAssignableTo middle source = true → program.types.isAssignableTo target source = true)
    (callers : List MethodSymbol)
    (listed : ∀ method edge, (method,.calls edge) ∈ program.records → method ∈ callers)
    (fuel : Nat) (final : Summaries TypeSymbol) (analyzed : program.analyze callers fuel = some final)
    {level : Nat} {current : Option MethodSymbol} {method : MethodSymbol} {body : Code TypeSymbol level .block}
    (has : program.HasBody current method body) (sync : method.isAsync = false) (depth : Nat)
    {happenings : List (Happening TypeSymbol)} {exception : TypeSymbol}
    (ran : bodyRuns (program.execute depth) program.types program.typeOf body happenings (.jump (some exception)))
    (heard : ∀ happening ∈ happenings, Heard program.hiddenOf (hiddenIn current body) happening) :
    ∃ thrownType ∈ (final method).thrownTypes, program.types.isAssignableTo thrownType exception = true := by
  have callees : Callees program.types program.hiddenOf final True (program.execute depth) :=
    execute_ensured analyzed listed depth fun _ => transitive
  have ensured := bodyRuns_ensured callees (settled analyzed listed method) has (fun _ => sync)
    happenings _ ran fun happening member _ => heard happening member
  rcases ensured.2 trivial exception rfl with ⟨thrownType,assignable,caught | thrown⟩
  · cases caught
  · exact ⟨thrownType,thrown,assignable⟩

section Examples

inductive Thrown where
  | any | error
  deriving DecidableEq

def thrownTypes : TypeModel Thrown := .nominal .any (fun _ => []) fun _ => false

abbrev ThrownCode := Code Thrown 1 .block

def raising : ThrownCode := .cons (.throwStatement (some .literalExpression)) .empty

abbrev ThrownExpression := Expression (Lambda Thrown 1) .expression

def callOfThrower : ThrownExpression := .invocationExpression 7 .absent (some ⟨1,false⟩) .noArgument

def calling : ThrownCode := .cons (.simple (.expressionStatement callOfThrower)) .empty

def chaining : ThrownCode :=
  .cons (.simple (.expressionStatement
    (.invocationExpression 8 (.present callOfThrower) (some ⟨2,false⟩) .noArgument))) .empty

/-- One method that raises an exception, and one that calls it or is some other code. -/
def thrower (body : ThrownCode) : Program Thrown where
  types := thrownTypes
  level := 1
  members := [(⟨0,false⟩,body),(⟨1,false⟩,raising)]
  typeOf := fun _ => some .error
  native := fun _ => {}

abbrev thrownMeaning (execute : MethodSymbol → Behaviour (Happening Thrown) (Raised Thrown)) :
    Meaning (Expression (Lambda Thrown 1) .expression) Thrown (Happening Thrown) (Raised Thrown) :=
  effectMeaning execute thrownTypes fun _ => some .error

variable (execute : MethodSymbol → Behaviour (Happening Thrown) (Raised Thrown))

theorem immediate {expression : Expression (Lambda Thrown 1) .expression}
    (silent : expression.runs execute false [] .normal) : (thrownMeaning execute).expression expression [] .normal :=
  ⟨[],.normal,rfl,rfl,silent⟩

theorem raising_run (path : Path) :
    raising.runs (thrownMeaning execute) none path [.reached (0 :: path)] (.jump (.throws (some .error))) := by
  have value : (thrownMeaning execute).expression .literalExpression [] .normal := immediate execute ⟨rfl,rfl⟩
  have raised : (thrownMeaning execute).raise .literalExpression [] (.jump (.throws (some .error))) := by
    refine ⟨some .error,?_,rfl,rfl⟩
    intro exception same
    cases same
    rfl
  exact seq_run (perform_run _) (seq_abrupt (seq_run value raised) (by simp))

def call : Call := ⟨.call 7,⟨1,false⟩,false,false⟩

theorem callOfThrower_run (raised : execute ⟨1,false⟩ [.reached [0]] (.jump (some .error))) :
    callOfThrower.runs execute false [.within call (.reached [0]),.passes (.call 7) .error]
      (.jump (some .error)) := by
  have inside : through (Happening.within call) id (execute ⟨1,false⟩) [.within call (.reached [0])]
      (.jump (some .error)) := ⟨[.reached [0]],.jump (some .error),rfl,rfl,raised⟩
  have escapes : escape (.call 7) (some .error) [.passes (.call 7) .error] (.jump (some Thrown.error)) :=
    seq_run (perform_run _) ⟨rfl,rfl⟩
  have invoked : invoke execute call [.within call (.reached [0]),.passes (.call 7) .error]
      (.jump (some .error)) := rescue_run inside escapes
  have nothing : (done : Behaviour (Happening Thrown) (Raised Thrown)) [] .normal := ⟨rfl,rfl⟩
  exact seq_run nothing (seq_run nothing invoked)

theorem statement_run {expression : ThrownExpression} {happenings : List (Happening Thrown)}
    (evaluated : expression.runs execute false happenings (.jump (some .error))) :
    (Statement.cons (.simple (.expressionStatement expression)) .empty : ThrownCode).runs (thrownMeaning execute)
      none [] (.reached [0] :: happenings.map .effect) (.jump (.throws (some .error))) :=
  seq_run (perform_run _) (seq_abrupt (map_run evaluated) (by simp))

theorem thrower_execute (body : ThrownCode) :
    (thrower body).execute 1 ⟨1,false⟩ [.reached [0]] (.jump (some .error)) :=
  ⟨[.reached [0]],_,rfl,rfl,raising_run _ []⟩

theorem calling_bodyRuns : bodyRuns ((thrower calling).execute 1) thrownTypes (thrower calling).typeOf calling
    [.reached [0],.within call (.reached [0]),.passes (.call 7) .error] (.jump (some .error)) :=
  ⟨_,_,rfl,rfl,statement_run _ (callOfThrower_run _ (thrower_execute calling))⟩

/-- The walk does not come to the call, which stands in front of a dot. -/
theorem throwInReceiver_unsummarized :
    (thrower chaining).HasBody (some ⟨0,false⟩) ⟨0,false⟩ chaining ∧
      bodyRuns ((thrower chaining).execute 1) thrownTypes (thrower chaining).typeOf chaining
        [.reached [0],.within call (.reached [0]),.passes (.call 7) .error] (.jump (some .error)) ∧
      ∃ final, (thrower chaining).analyze [⟨0,false⟩] 1 = some final ∧
        ¬ ∃ thrownType ∈ (final ⟨0,false⟩).thrownTypes, thrownTypes.isAssignableTo thrownType .error = true := by
  have receiver := callOfThrower_run _ (thrower_execute chaining)
  refine ⟨.member List.mem_cons_self,⟨_,_,rfl,rfl,statement_run _ (seq_abrupt receiver (by simp))⟩,_,rfl,?_⟩
  decide

theorem escaping_exception_summarized_call : ∃ fuel final,
    (thrower calling).analyze [⟨0,false⟩] fuel = some final ∧
      ∃ thrownType ∈ (final ⟨0,false⟩).thrownTypes, thrownTypes.isAssignableTo thrownType .error = true := by
  rcases (thrower calling).analyze_terminates [⟨0,false⟩] with ⟨fuel,final,analyzed⟩
  refine ⟨fuel,final,analyzed,?_⟩
  have has : (thrower calling).HasBody (some ⟨0,false⟩) ⟨0,false⟩ calling := .member List.mem_cons_self
  refine escaping_exception_summarized (thrower calling) (TypeModel.nominal_trans rfl (by simp)) [⟨0,false⟩] ?_
    fuel final analyzed has rfl 1 calling_bodyRuns ?_
  · intro method edge recorded
    have records : (thrower calling).records = [(⟨0,false⟩,.calls ⟨⟨1,false⟩,7,[],false,false⟩),
        (⟨1,false⟩,.throws .error false false)] := rfl
    rw [records] at recorded
    simp only [List.mem_cons,Prod.mk.injEq,reduceCtorEq,and_false,List.not_mem_nil,or_false] at recorded
    exact List.mem_singleton.2 recorded.1
  · have hidden : hiddenIn (some ⟨0,false⟩) calling = [] := rfl
    have callee : (thrower calling).hiddenOf ⟨1,false⟩ = [] := rfl
    rw [hidden]
    simp only [List.forall_mem_cons,List.not_mem_nil,false_implies,implies_true,and_true]
    exact ⟨List.not_mem_nil,.inr (by rw [show call.callee = ⟨1,false⟩ from rfl,callee]; exact List.not_mem_nil),
      List.not_mem_nil⟩

end Examples

/-- A write that the scan heard of, with the calls around it, is in the summary of the method. -/
theorem writes_summarized (program : Program TypeSymbol) (callers : List MethodSymbol)
    (listed : ∀ method edge, (method,.calls edge) ∈ program.records → method ∈ callers)
    (fuel : Nat) (final : Summaries TypeSymbol) (analyzed : program.analyze callers fuel = some final)
    {level : Nat} {current : Option MethodSymbol} {method : MethodSymbol} {body : Code TypeSymbol level .block}
    (has : program.HasBody current method body) (depth : Nat)
    {happenings : List (Happening TypeSymbol)} {ending : Ending (Raised TypeSymbol)}
    (ran : bodyRuns (program.execute depth) program.types program.typeOf body happenings ending)
    {happening : Happening TypeSymbol} (performed : happening ∈ happenings)
    (heard : HeardWrite program.hiddenOf (hiddenIn current body) happening) :
    (WritesStatic happening → (final method).mutatesStatic = true) ∧
      (WritesThis happening → (final method).mutatesInstance = true) ∧
      ∀ field, Assigns field happening → field ∈
        if field.isStatic then (final method).mayAssignStaticFields else (final method).mayAssignInstanceFields := by
  have callees : Callees program.types program.hiddenOf final False (program.execute depth) :=
    execute_ensured analyzed listed depth (by simp)
  have ensured := bodyRuns_ensured callees (settled analyzed listed method) has (by simp)
    happenings ending ran (by simp)
  have sound := ensured.1 happening performed
  exact ⟨fun writes => sound.static writes heard,fun writes => sound.this writes heard,
    fun field assigns => sound.assigned field assigns heard⟩

section Examples

abbrev WritingExpression := Expression (Lambda Unit 0) .expression

def assignment (target : WritingExpression) : Code Unit 0 .block :=
  .cons (.simple (.expressionStatement (.binaryExpression .assignOperator target .literalExpression))) .empty

def staticField : WritingExpression :=
  .memberAccessExpression 3 (.present (.memberAccessExpression 2 .absent .type)) (.field ⟨0,true⟩)

def staticProperty : WritingExpression :=
  .memberAccessExpression 3 .absent (.property ⟨none,some ⟨1,false⟩⟩)

def backingField : WritingExpression := .memberAccessExpression 5 .absent (.backingField ⟨0,true⟩)

def writer (target : WritingExpression) : Program Unit where
  types := .nominal () (fun _ => []) fun _ => false
  level := 0
  members := [(⟨0,false⟩,assignment target),(⟨1,false⟩,assignment backingField)]
  typeOf := fun _ => none
  native := fun _ => {}

variable (execute : MethodSymbol → Behaviour (Happening Unit) (Raised Unit))

theorem assignment_bodyRuns {target : WritingExpression} {happenings : List (Happening Unit)}
    (operands : target.runs execute true [] .normal) (stored : store execute target happenings .normal) :
    bodyRuns execute (writer target).types (writer target).typeOf (assignment target)
      (.reached [0] :: happenings) .normal := by
  have nothing : (done : Behaviour (Happening Unit) (Raised Unit)) [] .normal := ⟨rfl,rfl⟩
  have assigned : (Expression.binaryExpression .assignOperator target .literalExpression).runs execute false
      happenings .normal := seq_run operands (seq_run nothing (seq_run nothing stored))
  have last : (done : BodyRuns Unit (Lambda Unit 0)) [] .normal := ⟨rfl,rfl⟩
  refine ⟨_,_,?_,?_,seq_run (perform_run _) (seq_run (map_run assigned) last)⟩
  · simp [Happening.ofEvent,Function.comp_def]
  · rfl

/-- The flag that decides about static fields is cleared on every node that names one. -/
theorem staticField_unsummarized :
    (writer staticField).HasBody (some ⟨0,false⟩) ⟨0,false⟩ (assignment staticField) ∧
      bodyRuns ((writer staticField).execute 0) (writer staticField).types (writer staticField).typeOf
        (assignment staticField) [.reached [0],.writes (.write 3) ⟨0,true⟩ false] .normal ∧
      WritesStatic (.writes (.write 3) ⟨0,true⟩ false : Happening Unit) ∧
      ∃ final, (writer staticField).analyze [] 1 = some final ∧ (final ⟨0,false⟩).mutatesStatic = false := by
  have nothing : (done : Behaviour (Happening Unit) (Raised Unit)) [] .normal := ⟨rfl,rfl⟩
  refine ⟨.member List.mem_cons_self,assignment_bodyRuns _ ?_ ?_,rfl,?_⟩
  · exact seq_run (seq_run nothing nothing) nothing
  · exact ⟨false,rfl,perform_run _⟩
  · exact ⟨_,rfl,by decide⟩

def setting : Call := ⟨.write 3,⟨1,false⟩,true,true⟩

theorem writes_summarized_setter : ∃ fuel final,
    (writer staticProperty).analyze [⟨0,false⟩] fuel = some final ∧ (final ⟨0,false⟩).mutatesStatic = true := by
  rcases (writer staticProperty).analyze_terminates [⟨0,false⟩] with ⟨fuel,final,analyzed⟩
  refine ⟨fuel,final,analyzed,?_⟩
  have nothing : (done : Behaviour (Happening Unit) (Raised Unit)) [] .normal := ⟨rfl,rfl⟩
  have written : (writer staticProperty).execute 1 ⟨1,false⟩ [.reached [0],.writes (.write 5) ⟨0,true⟩ false]
      .normal := by
    have operands : backingField.runs ((writer staticProperty).execute 0) true [] .normal :=
      seq_run nothing nothing
    have stored : store ((writer staticProperty).execute 0) backingField
        [.writes (.write 5) ⟨0,true⟩ false] .normal := ⟨false,rfl,perform_run _⟩
    exact assignment_bodyRuns _ operands stored
  have stored : store ((writer staticProperty).execute 1) staticProperty
      [.within setting (.reached [0]),.within setting (.writes (.write 5) ⟨0,true⟩ false)] .normal :=
    ⟨true,fun _ => rfl,.inl ⟨⟨_,_,rfl,rfl,written⟩,by simp⟩⟩
  have operands : staticProperty.runs ((writer staticProperty).execute 1) true [] .normal :=
    seq_run nothing nothing
  have ran := assignment_bodyRuns ((writer staticProperty).execute 1) operands stored
  have has : (writer staticProperty).HasBody (some ⟨0,false⟩) ⟨0,false⟩ (assignment staticProperty) :=
    .member List.mem_cons_self
  have hidden : hiddenIn (some ⟨0,false⟩) (assignment staticProperty) = [] := rfl
  have callee : (writer staticProperty).hiddenOf ⟨1,false⟩ = [] := rfl
  have heard : HeardWrite (writer staticProperty).hiddenOf
      (hiddenIn (some ⟨0,false⟩) (assignment staticProperty))
        (.within setting (.writes (.write 5) ⟨0,true⟩ false) : Happening Unit) := by
    rw [hidden]
    refine ⟨List.not_mem_nil,?_⟩
    rw [show setting.callee = ⟨1,false⟩ from rfl,callee]
    exact List.not_mem_nil
  refine (writes_summarized (writer staticProperty) [⟨0,false⟩] ?_ fuel final analyzed has 1 ran
    (List.mem_cons_of_mem _ (List.mem_cons_of_mem _ List.mem_cons_self)) heard).1 rfl
  intro method edge recorded
  have records : (writer staticProperty).records = [(⟨0,false⟩,.mutatesInstance),
      (⟨0,false⟩,.calls ⟨⟨1,false⟩,3,[],false,false⟩),(⟨1,false⟩,.mutatesStatic),
      (⟨1,false⟩,.assignsStaticField ⟨0,true⟩)] := rfl
  rw [records] at recorded
  simp only [List.mem_cons,Prod.mk.injEq,reduceCtorEq,and_false,false_or,List.not_mem_nil,or_false] at recorded
  exact List.mem_singleton.2 recorded.1

end Examples

end Program

end ShardScript.Semantic
