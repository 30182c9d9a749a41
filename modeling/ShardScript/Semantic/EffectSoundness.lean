import ShardScript.Semantic.EffectRuns

/-! What the summaries say of the runs of a body, as far as the scan heard of what the runs do. -/
namespace ShardScript.Semantic
open Library Behaviour Syntax

section Catching

variable {TypeSymbol : Type} {types : TypeModel TypeSymbol} {stack more : List (TryCatchFrame TypeSymbol)}
  {frame : TryCatchFrame TypeSymbol} {thrownType : TypeSymbol}

theorem isCaughtBy_append :
    isCaughtBy types (stack ++ more) thrownType =
      (isCaughtBy types stack thrownType || isCaughtBy types more thrownType) := by
  simp only [isCaughtBy,catchAllDepth,effectiveCaughtTypes,List.filter_append,List.length_append,
    List.flatMap_append,List.any_append,Nat.add_pos_iff_pos_or_pos,Bool.decide_or]
  ac_rfl

theorem isCaughtBy_singleton :
    isCaughtBy types [frame] thrownType =
      (frame.catchesAll || frame.caughtTypes.any (types.isAssignableTo · thrownType)) := by
  cases known : frame.catchesAll <;> simp [isCaughtBy,catchAllDepth,effectiveCaughtTypes,known]

theorem isCaughtBy_cons :
    isCaughtBy types (frame :: stack) thrownType =
      (isCaughtBy types [frame] thrownType || isCaughtBy types stack thrownType) :=
  @isCaughtBy_append _ _ [frame] _ _

theorem callEdge_catches (context : Context TypeSymbol) (callee : MethodSymbol) (callSite : SyntaxToken)
    (isAwaited : Bool) :
    (callEdge context callee callSite isAwaited).catches types thrownType =
      context.isCaughtByActiveTry types thrownType := rfl

end Catching

/-- The walk over a part that belongs to the body of a method: its records are among those of the
program, and what it leaves unheard is known. -/
structure Covers {TypeSymbol Lambda : Type} (records : Records TypeSymbol) (unheard : List Site)
    (method : MethodSymbol) (walker : Walker TypeSymbol Lambda) (current : Option MethodSymbol) : Prop where
  own : current = none ∨ current = some method
  records : current = some method → ∀ entry ∈ (walker current).records, entry ∈ records
  unheard : ∀ site ∈ (walker current).unheard, site ∈ unheard

namespace Covers

variable {TypeSymbol Lambda : Type} {records : Records TypeSymbol} {sites : List Site} {method : MethodSymbol}
  {first second : Walker TypeSymbol Lambda} {current : Option MethodSymbol}

theorem left (covers : Covers records sites method (.seq first second) current) :
    Covers records sites method first current where
  own := covers.own
  records := fun known entry member => covers.records known entry (List.mem_append_left _ member)
  unheard := fun site member => covers.unheard site (List.mem_append_left _ member)

theorem right (covers : Covers records sites method (.seq first second) current) :
    Covers records sites method second current where
  own := covers.own
  records := fun known entry member => covers.records known entry (List.mem_append_right _ member)
  unheard := fun site member => covers.unheard site (List.mem_append_right _ member)

theorem passedBy (covers : Covers records sites method (.passedBy first) current) :
    Covers records sites method first none :=
  ⟨.inl rfl,by simp,covers.unheard⟩

theorem record {site : Site} {entries : List (Record TypeSymbol)}
    (covers : Covers records sites method (Walker.record site entries : Walker TypeSymbol Lambda) current)
    (heard : site ∉ sites) : ∀ entry ∈ entries, (method,entry) ∈ records := by
  intro entry member
  rcases covers.own with rfl | rfl
  · exact absurd (covers.unheard site (by simp [Walker.record])) heard
  · exact covers.records rfl (method,entry) (List.mem_map_of_mem member)

theorem unheardSite {site : Site}
    (covers : Covers records sites method (Walker.unheard site : Walker TypeSymbol Lambda) current) :
    site ∈ sites :=
  covers.unheard site (by simp [Walker.unheard])

end Covers

section Judgments

variable {TypeSymbol : Type} (types : TypeModel TypeSymbol) (hiddenOf : MethodSymbol → List Site)

/-- Every `throw` that is reached, and every call that an exception goes on through, is heard, and no native raises one. -/
def Heard : List Site → Happening TypeSymbol → Prop
  | unheard,.reached statement => .throwing statement ∉ unheard
  | unheard,.passes site _ => site ∉ unheard
  | _,.within call happening => call.callee.isAsync = true ∨ Heard (hiddenOf call.callee) happening
  | _,.awaits | _,.indirectCall | _,.nativeRaises => False
  | _,.leavesSwitch | _,.writes _ _ _ => True

def WritesStatic : Happening TypeSymbol → Prop
  | .writes _ field _ => field.isStatic = true
  | .within _ happening => WritesStatic happening
  | _ => False

/-- A field of `this` is written, by the body itself or by an accessor that it invokes on `this`. -/
def WritesThis : Happening TypeSymbol → Prop
  | .writes _ field onThis => field.isStatic = false ∧ onThis = true
  | .within call happening => call.isAccessor = true ∧ call.onThis = true ∧ WritesThis happening
  | _ => False

def Assigns (field : FieldSymbol) : Happening TypeSymbol → Prop
  | .writes _ written _ => written = field
  | _ => False

def HeardWrite : List Site → Happening TypeSymbol → Prop
  | unheard,.writes site _ _ => site ∉ unheard
  | unheard,.within call happening => call.site ∉ unheard ∧ HeardWrite (hiddenOf call.callee) happening
  | _,_ => True

structure Summarized (summary : EffectSummary TypeSymbol) (unheard : List Site)
    (happening : Happening TypeSymbol) : Prop where
  static : WritesStatic happening → HeardWrite hiddenOf unheard happening → summary.mutatesStatic = true
  this : WritesThis happening → HeardWrite hiddenOf unheard happening → summary.mutatesInstance = true
  assigned : ∀ field, Assigns field happening → HeardWrite hiddenOf unheard happening →
    field ∈ if field.isStatic then summary.mayAssignStaticFields else summary.mayAssignInstanceFields

def Accounted (summary : EffectSummary TypeSymbol) (own : List (TryCatchFrame TypeSymbol))
    (exception : TypeSymbol) : Prop :=
  ∃ thrownType, types.isAssignableTo thrownType exception = true ∧
    (isCaughtBy types own thrownType = true ∨ thrownType ∈ summary.thrownTypes)

end Judgments

/-- What the results of an analysis give for one body: `records` are those of the program, `final` the
summaries. -/
structure Settled {TypeSymbol : Type} (types : TypeModel TypeSymbol) (records : Records TypeSymbol)
    (final : Summaries TypeSymbol) (method : MethodSymbol) : Prop where
  throws : ∀ thrownType, (method,.throws thrownType false false) ∈ records →
    thrownType ∈ (final method).thrownTypes
  mutatesStatic : (method,.mutatesStatic) ∈ records → (final method).mutatesStatic = true
  mutatesInstance : (method,.mutatesInstance) ∈ records → (final method).mutatesInstance = true
  assignsStaticField : ∀ field, (method,.assignsStaticField field) ∈ records →
    field ∈ (final method).mayAssignStaticFields
  assignsInstanceField : ∀ field, (method,.assignsInstanceField field) ∈ records →
    field ∈ (final method).mayAssignInstanceFields
  thrownOf : ∀ edge, (method,.calls edge) ∈ records → edge.callee.isAsync = false → method.isAsync = false →
    ∀ thrownType ∈ (final edge.callee).thrownTypes, edge.catches types thrownType = false →
      thrownType ∈ (final method).thrownTypes
  staticOf : ∀ edge, (method,.calls edge) ∈ records → (final edge.callee).mutatesStatic = true →
    (final method).mutatesStatic = true
  instanceOf : ∀ edge, (method,.calls edge) ∈ records → (final edge.callee).mutatesInstance = true →
    (final method).mutatesInstance = true

structure Callees {TypeSymbol : Type} (types : TypeModel TypeSymbol) (hiddenOf : MethodSymbol → List Site)
    (final : Summaries TypeSymbol) (strict : Prop)
    (execute : MethodSymbol → Behaviour (Happening TypeSymbol) (Raised TypeSymbol)) : Prop where
  transitive : strict → ∀ target middle source, types.isAssignableTo target middle = true →
    types.isAssignableTo middle source = true → types.isAssignableTo target source = true
  ensured : ∀ callee, Ensures (execute callee)
    (fun happening => strict → callee.isAsync = true ∨ Heard hiddenOf (hiddenOf callee) happening)
    (Summarized hiddenOf (final callee) (hiddenOf callee))
    (fun ending => strict → callee.isAsync = true ∨
      ∀ exception, ending = .jump (some exception) → Accounted types (final callee) [] exception)

section Soundness

variable {TypeSymbol Lambda : Type} {types : TypeModel TypeSymbol} {hiddenOf : MethodSymbol → List Site}
  {records : Records TypeSymbol} {final : Summaries TypeSymbol} {strict : Prop}
  {execute : MethodSymbol → Behaviour (Happening TypeSymbol) (Raised TypeSymbol)}
  {method : MethodSymbol} {sites : List Site} {context : Context TypeSymbol}

variable (types hiddenOf final strict method sites context) in
/-- The runs of an expression in the body do what the summary says, if strictly looked at also with their
exceptions. -/
abbrev Safe (behaviour : Behaviour (Happening TypeSymbol) (Raised TypeSymbol)) : Prop :=
  Ensures behaviour (fun happening => strict → Heard hiddenOf sites happening)
    (Summarized hiddenOf (final method) sites)
    (fun ending => strict → ∀ exception, ending = .jump (some exception) →
      Accounted types (final method) context.tryCatchStack exception)

namespace Safe

variable {first second : Behaviour (Happening TypeSymbol) (Raised TypeSymbol)}

theorem done : Safe types hiddenOf final strict method sites context .done :=
  Ensures.done (by simp)

theorem seq (one : Safe types hiddenOf final strict method sites context first)
    (two : Safe types hiddenOf final strict method sites context second) :
    Safe types hiddenOf final strict method sites context (.seq first second) :=
  Ensures.seq one (fun _ _ => id) fun _ => two

theorem either (one : Safe types hiddenOf final strict method sites context first)
    (two : Safe types hiddenOf final strict method sites context second) :
    Safe types hiddenOf final strict method sites context (.either first second) :=
  Ensures.either one two

theorem pick {Index : Type} {choices : Index → Prop}
    {each : Index → Behaviour (Happening TypeSymbol) (Raised TypeSymbol)}
    (safe : ∀ index, choices index → Safe types hiddenOf final strict method sites context (each index)) :
    Safe types hiddenOf final strict method sites context (.pick choices each) :=
  Ensures.pick safe

theorem excluded {happening : Happening TypeSymbol} (sound : Summarized hiddenOf (final method) sites happening)
    (unheard : ¬ Heard hiddenOf sites happening)
    (rest : ¬ strict → Safe types hiddenOf final strict method sites context second) :
    Safe types hiddenOf final strict method sites context (.seq (.perform happening) second) := by
  have performed : Ensures (.perform happening : Behaviour (Happening TypeSymbol) (Raised TypeSymbol))
      (fun happening => strict → Heard hiddenOf sites happening)
      (Summarized hiddenOf (final method) sites) fun _ => ¬ strict :=
    .perform (fun _ => sound) fun heard strictly => unheard (heard strictly)
  exact Ensures.seq performed (fun _ _ lax strictly => absurd strictly lax) rest

theorem indirectCall : Safe types hiddenOf final strict method sites context (.perform .indirectCall) :=
  .perform (fun _ => ⟨False.elim,False.elim,fun _ => False.elim⟩) (by simp)

end Safe

def Edged (records : Records TypeSymbol) (method : MethodSymbol) (sites : List Site)
    (types : TypeModel TypeSymbol) (context : Context TypeSymbol) (call : Call) : Prop :=
  call.site ∉ sites → ∃ edge, (method,.calls edge) ∈ records ∧ edge.callee = call.callee ∧
    ∀ thrownType, edge.catches types thrownType = context.isCaughtByActiveTry types thrownType

section Calls

variable {call : Call}

theorem sound_within (settled : Settled types records final method)
    (edged : Edged records method sites types context call) {happening : Happening TypeSymbol}
    (sound : Summarized hiddenOf (final call.callee) (hiddenOf call.callee) happening) :
    Summarized hiddenOf (final method) sites (.within call happening) where
  static := by
    intro writes heard
    rcases edged heard.1 with ⟨edge,recorded,same,_⟩
    exact settled.staticOf edge recorded (by rw [same]; exact sound.static writes heard.2)
  this := by
    intro writes heard
    rcases edged heard.1 with ⟨edge,recorded,same,_⟩
    exact settled.instanceOf edge recorded (by rw [same]; exact sound.this writes.2.2 heard.2)
  assigned := fun _ => False.elim

theorem accounted_of_callee (settled : Settled types records final method) (sync : method.isAsync = false)
    (calleeSync : call.callee.isAsync = false) (edged : Edged records method sites types context call)
    {exception : TypeSymbol} (heard : call.site ∉ sites)
    (thrown : Accounted types (final call.callee) [] exception) :
    Accounted types (final method) context.tryCatchStack exception := by
  rcases edged heard with ⟨edge,recorded,same,catches⟩
  rcases thrown with ⟨thrownType,assignable,caught | thrown⟩
  · cases caught
  · refine ⟨thrownType,assignable,?_⟩
    cases caught : edge.catches types thrownType with
    | false =>
      refine .inr (settled.thrownOf edge recorded (by rw [same]; exact calleeSync) sync thrownType ?_ caught)
      rw [same]
      exact thrown
    | true =>
      rw [catches] at caught
      exact .inl caught

theorem invoke_safe (callees : Callees types hiddenOf final strict execute)
    (settled : Settled types records final method) (sync : strict → method.isAsync = false)
    (edged : Edged records method sites types context call) :
    Safe types hiddenOf final strict method sites context (invoke execute call) := by
  have inside : Ensures (through (.within call) id (execute call.callee))
      (fun happening => strict → Heard hiddenOf sites happening)
      (Summarized hiddenOf (final method) sites)
      (fun ending => strict → call.callee.isAsync = true ∨
        ∀ exception, ending = .jump (some exception) → Accounted types (final call.callee) [] exception) :=
    .through ((callees.ensured call.callee).mono (fun _ => sound_within settled edged) fun _ => id) fun _ => id
  refine Ensures.rescue inside ?_ ?_
  · intro ending stays _ _ exception jumps
    exact absurd jumps (stays _)
  · intro raised escaped
    cases calleeAsync : call.callee.isAsync with
    | true => exact Safe.done
    | false =>
      cases raised with
      | none => exact .leave (by simp)
      | some exception =>
        have performed : Ensures
            (.perform (.passes call.site exception) : Behaviour (Happening TypeSymbol) (Raised TypeSymbol))
            (fun happening => strict → Heard hiddenOf sites happening)
            (Summarized hiddenOf (final method) sites) fun ending => ending = .normal ∧
              (strict → call.site ∉ sites) :=
          .perform (fun _ => ⟨False.elim,False.elim,fun _ => False.elim⟩) fun heard => ⟨rfl,heard⟩
        refine Ensures.seq performed (fun _ abrupt ends => absurd ends.1 abrupt) fun ends => .leave ?_
        intro strictly other same
        cases same
        have thrown := (escaped strictly).resolve_left (by simp [calleeAsync]) exception rfl
        exact accounted_of_callee settled (sync strictly) calleeAsync edged (ends.2 strictly) thrown

theorem invokeAccessor_safe (callees : Callees types hiddenOf final strict execute)
    (settled : Settled types records final method) (sync : strict → method.isAsync = false)
    {site : Site} {previous : Expression Lambda .optional} {accessor : Option MethodSymbol}
    (edged : ∀ onThis callee, accessor = some callee →
      Edged records method sites types context ⟨site,callee,true,onThis⟩) :
    Safe types hiddenOf final strict method sites context (invokeAccessor execute site previous accessor) := by
  cases accessor with
  | none => exact Safe.done
  | some callee => exact Safe.pick fun onThis _ => invoke_safe callees settled sync (edged onThis callee rfl)

end Calls

section Expressions

variable {typeOf : Expression Lambda .expression → Option TypeSymbol} {current : Option MethodSymbol} {callee : MethodSymbol}

variable {entries : List (Record TypeSymbol)}

theorem edged_of_record {site : Site}
    (token : SyntaxToken) (isAccessor onThis : Bool)
    (covers : Covers records sites method
      (Walker.record site entries : Walker TypeSymbol Lambda) current)
    (member : .calls (callEdge context callee token false) ∈ entries) :
    Edged records method sites types context ⟨site,callee,isAccessor,onThis⟩ := by
  intro heard
  exact ⟨_,covers.record heard _ member,rfl,fun thrownType => callEdge_catches context callee token false⟩

theorem edged_of_unheard {site : Site} (isAccessor onThis : Bool)
    (covers : Covers records sites method (Walker.unheard site : Walker TypeSymbol Lambda) current) :
    Edged records method sites types context ⟨site,callee,isAccessor,onThis⟩ :=
  fun heard => absurd covers.unheardSite heard

variable {token : SyntaxToken}

theorem getter_safe (callees : Callees types hiddenOf final strict execute)
    (settled : Settled types records final method) (sync : strict → method.isAsync = false)
    {property : PropertySymbol} (previous : Expression Lambda .optional)
    (covers : Covers records sites method
      (unheardGetter token property : Walker TypeSymbol Lambda) current) :
    Safe types hiddenOf final strict method sites context
      (invokeAccessor execute (.read token) previous property.getter) := by
  refine invokeAccessor_safe callees settled sync ?_
  intro onThis callee known
  rw [unheardGetter,known] at covers
  exact edged_of_unheard true onThis covers

theorem setter_edged {property : PropertySymbol}
    (covers : Covers records sites method
      (Walker.record (.write token) (entries ++ recordSetter context token property) : Walker TypeSymbol Lambda)
      current)
    (onThis : Bool) (callee : MethodSymbol) (known : property.setter = some callee) :
    Edged records method sites types context ⟨.write token,callee,true,onThis⟩ :=
  edged_of_record token true onThis covers (by simp [recordSetter,known])

theorem writeField_safe (settled : Settled types records final method)
    {isStaticContext isThisReceiver : Bool} {field : FieldSymbol} (previous : Expression Lambda .optional)
    (covers : Covers records sites method
      (recordFieldWrite token isStaticContext isThisReceiver field : Walker TypeSymbol Lambda) current) :
    Safe types hiddenOf final strict method sites context
      (writeField (.write token) previous field : Behaviour (Happening TypeSymbol) (Raised TypeSymbol)) := by
  have recorded : Site.write token ∉ sites → ∀ entry ∈ assigns isStaticContext isThisReceiver field,
      (method,entry) ∈ records := covers.left.record
  have kind : Site.write token ∉ sites → isHeard isStaticContext isThisReceiver field = true := by
    intro heard
    by_contra silent
    have rest := covers.right
    rw [if_neg silent] at rest
    exact heard rest.unheardSite
  refine Safe.pick fun onThis chosen => .perform (fun _ => ⟨?_,?_,?_⟩) (by simp)
  · intro static heard
    have known := kind heard
    simp only [isHeard,show field.isStatic = true from static,Bool.not_true,Bool.and_false,Bool.or_false,Bool.and_true] at known
    exact settled.mutatesStatic (recorded heard _ (by simp [assigns,known]))
  · intro own heard
    have known := kind heard
    simp only [isHeard,own.1,Bool.and_false,Bool.false_or,Bool.not_false,Bool.and_true,Bool.and_eq_true,
      Bool.not_eq_true'] at known
    exact settled.mutatesInstance (recorded heard _ (by simp [assigns,known]))
  · rintro written rfl heard
    have known := kind heard
    cases static : field.isStatic with
    | true =>
      simp only [isHeard,static,Bool.not_true,Bool.and_false,Bool.or_false,Bool.and_true] at known
      exact settled.assignsStaticField field (recorded heard _ (by simp [assigns,known]))
    | false =>
      simp only [isHeard,static,Bool.and_false,Bool.false_or,Bool.not_false,Bool.and_true,Bool.and_eq_true,
        Bool.not_eq_true'] at known
      exact settled.assignsInstanceField field (recorded heard _ (by simp [assigns,known]))

theorem store_safe (callees : Callees types hiddenOf final strict execute)
    (settled : Settled types records final method) (sync : strict → method.isAsync = false)
    (target : Expression Lambda .expression)
    (covers : Covers records sites method (recordWrite context target) current) :
    Safe types hiddenOf final strict method sites context (store execute target) := by
  cases target with
  | memberAccessExpression token previous member =>
    cases member with
    | field field => exact writeField_safe settled previous covers
    | backingField field => exact writeField_safe settled previous covers
    | property property =>
      exact invokeAccessor_safe callees settled sync (setter_edged covers)
    | type | localVariable | parameter | method => exact Safe.done
  | indexatorExpression token previous property arguments =>
    exact invokeAccessor_safe callees settled sync (setter_edged covers)
  | literalExpression | binaryExpression | unaryExpression | awaitExpression | invocationExpression
  | objectExpression | collectionExpression | rangeExpression | lambdaExpression | ternaryExpression
  | switchExpression | castExpression => exact Safe.done

theorem fetch_safe (callees : Callees types hiddenOf final strict execute)
    (settled : Settled types records final method) (sync : strict → method.isAsync = false)
    (target : Expression Lambda .expression)
    (covers : Covers records sites method (visitExpression types typeOf context target) current) :
    Safe types hiddenOf final strict method sites context (fetch execute target) := by
  cases target with
  | memberAccessExpression token previous member =>
    cases member with
    | property property => exact getter_safe callees settled sync previous covers.right
    | field | backingField | type | localVariable | parameter | method => exact Safe.done
  | indexatorExpression token previous property arguments =>
    exact getter_safe callees settled sync previous covers.right.right.left
  | literalExpression | binaryExpression | unaryExpression | awaitExpression | invocationExpression
  | objectExpression | collectionExpression | rangeExpression | lambdaExpression | ternaryExpression
  | switchExpression | castExpression => exact Safe.done

theorem call_safe (callees : Callees types hiddenOf final strict execute)
    (settled : Settled types records final method) (sync : strict → method.isAsync = false)

    (covers : Covers records sites method
      (if callee.isAsync then .unheard (.call token)
        else .record (.call token) [.calls (callEdge context callee token false)] :
        Walker TypeSymbol Lambda) current) :
    Safe types hiddenOf final strict method sites context
      (invoke execute ⟨.call token,callee,false,false⟩) := by
  refine invoke_safe callees settled sync ?_
  split at covers
  · exact edged_of_unheard false false covers
  · exact edged_of_record token false false covers (by simp)

theorem expression_safe (callees : Callees types hiddenOf final strict execute)
    (settled : Settled types records final method) (sync : strict → method.isAsync = false)
    {kind : ExpressionKind} (expression : Expression Lambda kind) (isTarget : Bool)
    (covers : Covers records sites method (visitExpression types typeOf context expression) current) :
    Safe types hiddenOf final strict method sites context (expression.runs execute isTarget) := by
  induction expression generalizing isTarget current with
  | literalExpression | lambdaExpression | absent | noArgument | noArm => exact Safe.done
  | binaryExpression operator left right ihLeft ihRight =>
    have operands := covers.right
    rw [Expression.runs]
    split
    · rename_i assigns
      have target : Covers records sites method (recordWrite context left) current := by
        have first := covers.left
        rwa [if_pos assigns] at first
      refine (ihLeft true operands.left).seq (Safe.seq ?_ ((ihRight false operands.right.left).seq ?_))
      · split
        · exact Safe.done
        · exact fetch_safe callees settled sync left operands.left
      · exact store_safe callees settled sync left target
    · refine (ihLeft false operands.left).seq ?_
      split
      · exact Safe.done.either (ihRight false operands.right.left)
      · exact ihRight false operands.right.left
  | unaryExpression operator operand ih =>
    rw [Expression.runs]
    split
    · rename_i changes
      have target : Covers records sites method (recordWrite context operand) current := by
        have first := covers.left
        rwa [if_pos changes] at first
      exact (ih true covers.right).seq ((fetch_safe callees settled sync operand covers.right).seq
        (store_safe callees settled sync operand target))
    · exact ih false covers.right
  | awaitExpression operand ih =>
    refine (ih false covers.right).seq (Safe.excluded ⟨False.elim,False.elim,fun _ => False.elim⟩ id ?_)
    intro lax
    exact Safe.done.either (Safe.pick fun raised _ => .leave fun strictly => absurd strictly lax)
  | memberAccessExpression token previous member ih =>
    refine (ih false covers.left.passedBy).seq ?_
    split
    · exact Safe.done
    · exact fetch_safe callees settled sync _ covers
  | invocationExpression token previous callee arguments ihPrevious ihArguments =>
    refine (ihPrevious false covers.right.left.passedBy).seq
      ((ihArguments false covers.right.right.left).seq ?_)
    cases callee with
    | none => exact Safe.indirectCall
    | some callee => exact call_safe callees settled sync covers.left
  | indexatorExpression token previous property arguments ihPrevious ihArguments =>
    refine (ihPrevious false covers.left.passedBy).seq ((ihArguments false covers.right.left).seq ?_)
    split
    · exact Safe.done
    · exact fetch_safe callees settled sync _ covers
  | objectExpression token constructor arraySize arguments ihSize ihArguments =>
    refine (ihSize false covers.right.left).seq ((ihArguments false covers.right.right.left).seq ?_)
    cases constructor with
    | none => exact Safe.done
    | some constructor =>
      exact invoke_safe callees settled sync (edged_of_record token false false covers.left (by simp))
  | collectionExpression values ih => exact ih false covers
  | castExpression operand ih => exact ih false covers
  | present expression ih => exact ih false covers
  | rangeExpression left right ihLeft ihRight => exact (ihLeft false covers.left).seq (ihRight false covers.right)
  | switchExpression left right ihLeft ihRight => exact (ihLeft false covers.left).seq (ihRight false covers.right)
  | argument left right ihLeft ihRight => exact (ihLeft false covers.left).seq (ihRight false covers.right)
  | ternaryExpression condition left right ihCondition ihLeft ihRight =>
    exact (ihCondition false covers.left).seq
      ((ihLeft false covers.right.left).either (ihRight false covers.right.right.left))
  | arm pattern value rest ihPattern ihValue ihRest =>
    exact (ihPattern false covers.left).seq
      ((ihValue false covers.right.left).either (ihRest false covers.right.right.left))

end Expressions

end Soundness

end ShardScript.Semantic
