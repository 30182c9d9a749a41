import ShardScript.Semantic.EffectSummary

/-! `PropagateEffects` finds the least summaries that hold the direct effects and are closed under the calls. -/
namespace ShardScript.Semantic
open Library

variable {TypeSymbol : Type}

instance : PartialOrder (EffectSummary TypeSymbol) where
  le := EffectSummary.Within
  le_refl _ := .refl
  le_trans _ _ _ := .trans
  le_antisymm _ _ := EffectSummary.Within.antisymm

section Transfer

def EffectSummary.escaping (summary : EffectSummary TypeSymbol) (isAsync : Bool) : Finset TypeSymbol :=
  if isAsync then summary.asyncThrownTypes else summary.thrownTypes

variable (types : TypeModel TypeSymbol)

/-- The caller has what a call edge passes to it: mutations always, thrown types unless they are caught at the edge,
and those of an asynchronous callee only where it is awaited. -/
structure Transferred (callerIsAsync calleeIsAsync : Bool) (caller callee : EffectSummary TypeSymbol)
    (edge : CallEdge TypeSymbol) : Prop where
  mutatesInstance : callee.mutatesInstance = true → caller.mutatesInstance = true
  mutatesStatic : callee.mutatesStatic = true → caller.mutatesStatic = true
  mutatesArguments : callee.mutatesArguments = true → caller.mutatesArguments = true
  hasUnknownSideEffects : callee.hasUnknownSideEffects = true → caller.hasUnknownSideEffects = true
  thrown : (calleeIsAsync = true → edge.isAwaited = true) → ∀ thrownType ∈ callee.escaping calleeIsAsync,
    edge.catches types thrownType = false → thrownType ∈ caller.escaping callerIsAsync ∧ caller.mayThrow = true

def Closed (records : Records TypeSymbol) (callers : List MethodSymbol) (summaries : Summaries TypeSymbol) : Prop :=
  ∀ caller ∈ callers, ∀ edge ∈ edgesOf records caller,
    Transferred types caller.isAsync edge.callee.isAsync (summaries caller) (summaries edge.callee) edge

variable {types} {callerIsAsync calleeIsAsync : Bool}
  {caller callee : EffectSummary TypeSymbol} {edge : CallEdge TypeSymbol}

theorem mem_passed {thrownType : TypeSymbol} :
    thrownType ∈ EffectSummary.passed types calleeIsAsync callee edge ↔
      (calleeIsAsync = true → edge.isAwaited = true) ∧ thrownType ∈ callee.escaping calleeIsAsync ∧
        edge.catches types thrownType = false := by
  cases calleeIsAsync <;> cases awaited : edge.isAwaited <;>
    simp [EffectSummary.passed,EffectSummary.escaping,awaited]

variable [DecidableEq TypeSymbol]

theorem absorb_eq_iff :
    EffectSummary.absorb types callerIsAsync calleeIsAsync caller callee edge = caller ↔
      Transferred types callerIsAsync calleeIsAsync caller callee edge := by
  constructor
  · intro same
    have flag {one two : Bool} (kept : (one || two) = one) : two = true → one = true := by
      intro holds
      rw [← kept,holds,Bool.or_true]
    refine ⟨flag (congrArg EffectSummary.mutatesInstance same),flag (congrArg EffectSummary.mutatesStatic same),
      flag (congrArg EffectSummary.mutatesArguments same),flag (congrArg EffectSummary.hasUnknownSideEffects same),?_⟩
    intro awaited thrownType escapes uncaught
    have passed : thrownType ∈ EffectSummary.passed types calleeIsAsync callee edge :=
      mem_passed.2 ⟨awaited,escapes,uncaught⟩
    constructor
    · rw [← same]
      cases callerIsAsync <;> simp [EffectSummary.escaping,EffectSummary.absorb,passed]
    · exact flag (congrArg EffectSummary.mayThrow same) (decide_eq_true ⟨thrownType,passed⟩)
  · intro transferred
    have within : (EffectSummary.absorb types callerIsAsync calleeIsAsync caller callee edge).Within caller := by
      have passed (thrownType : TypeSymbol) (member : thrownType ∈ EffectSummary.passed types calleeIsAsync callee edge) :
          thrownType ∈ caller.escaping callerIsAsync ∧ caller.mayThrow = true := by
        obtain ⟨awaited,escapes,uncaught⟩ := mem_passed.1 member
        exact transferred.thrown awaited thrownType escapes uncaught
      have flag {one two : Bool} (taken : two = true → one = true) : (one || two) = true → one = true := by
        intro holds
        exact (Bool.or_eq_true _ _ |>.mp holds).elim id taken
      refine ⟨flag ?_,flag transferred.mutatesInstance,flag transferred.mutatesStatic,
        flag transferred.mutatesArguments,flag transferred.hasUnknownSideEffects,?_,?_,fun _ => id,fun _ => id⟩
      · intro throws
        obtain ⟨thrownType,member⟩ := of_decide_eq_true throws
        exact (passed thrownType member).2
      · cases callerIsAsync with
        | true => exact fun _ => id
        | false => exact Finset.union_subset (fun _ => id) fun thrownType member => (passed thrownType member).1
      · cases callerIsAsync with
        | true => exact Finset.union_subset (fun _ => id) fun thrownType member => (passed thrownType member).1
        | false => exact fun _ => id
    exact within.antisymm (EffectSummary.within_absorb _ _ _ _ _ _)

theorem absorb_mono {more : EffectSummary TypeSymbol} {most : EffectSummary TypeSymbol} (callers : caller ≤ more)
    (callees : callee ≤ most) : EffectSummary.absorb types callerIsAsync calleeIsAsync caller callee edge ≤
      EffectSummary.absorb types callerIsAsync calleeIsAsync more most edge := by
  have passed : EffectSummary.passed types calleeIsAsync callee edge ⊆ EffectSummary.passed types calleeIsAsync most edge := by
    intro thrownType member
    obtain ⟨awaited,escapes,uncaught⟩ := mem_passed.1 member
    refine mem_passed.2 ⟨awaited,?_,uncaught⟩
    cases calleeIsAsync with
    | true => exact callees.asyncThrownTypes escapes
    | false => exact callees.thrownTypes escapes
  have flag {one two one' two' : Bool} (left : one = true → one' = true) (right : two = true → two' = true) :
      (one || two) = true → (one' || two') = true := by
    intro holds
    rw [Bool.or_eq_true] at holds ⊢
    exact holds.imp left right
  refine ⟨flag callers.mayThrow ?_,flag callers.mutatesInstance callees.mutatesInstance,
    flag callers.mutatesStatic callees.mutatesStatic,flag callers.mutatesArguments callees.mutatesArguments,
    flag callers.hasUnknownSideEffects callees.hasUnknownSideEffects,?_,?_,callers.mayAssignInstanceFields,
    callers.mayAssignStaticFields⟩
  · intro throws
    exact decide_eq_true ((of_decide_eq_true throws).mono passed)
  · cases callerIsAsync with
    | true => exact callers.thrownTypes
    | false => exact Finset.union_subset_union callers.thrownTypes passed
  · cases callerIsAsync with
    | true => exact Finset.union_subset_union callers.asyncThrownTypes passed
    | false => exact callers.asyncThrownTypes

end Transfer

section Propagation

variable [DecidableEq TypeSymbol] {types : TypeModel TypeSymbol} {records : Records TypeSymbol}

theorem absorbInto_mono (caller : MethodSymbol) (edge : CallEdge TypeSymbol) :
    Monotone fun summaries => absorbInto types caller summaries edge := by
  intro summaries more below method
  by_cases own : method = caller
  · simp only [own,absorbInto,Function.update_self]
    exact absorb_mono (below caller) (below edge.callee)
  · simp only [absorbInto_of_ne types own]
    exact below method

theorem absorbAll_mono (caller : MethodSymbol) (edges : List (CallEdge TypeSymbol)) :
    Monotone (absorbAll types caller edges) := by
  induction edges with
  | nil => exact monotone_id
  | cons edge rest ih => exact fun summaries more below => ih (absorbInto_mono caller edge below)

variable {summaries : Summaries TypeSymbol}

theorem absorbInto_eq_iff {caller : MethodSymbol} {edge : CallEdge TypeSymbol} :
    absorbInto types caller summaries edge = summaries ↔
      Transferred types caller.isAsync edge.callee.isAsync (summaries caller) (summaries edge.callee) edge := by
  rw [absorbInto,Function.update_eq_self_iff]
  exact absorb_eq_iff

theorem propagateTo_fixed_iff {caller : MethodSymbol} :
    (propagateTo types records caller).apply summaries = summaries ↔ ∀ edge ∈ edgesOf records caller,
      Transferred types caller.isAsync edge.callee.isAsync (summaries caller) (summaries edge.callee) edge := by
  constructor
  · intro fixed edge member
    exact absorbInto_eq_iff.1 (absorbed types fixed edge member)
  · intro transferred
    change absorbAll types caller (edgesOf records caller) summaries = summaries
    generalize edgesOf records caller = edges at transferred
    induction edges with
    | nil => rfl
    | cons edge rest ih =>
      rw [List.forall_mem_cons] at transferred
      rw [absorbAll,List.foldl_cons,absorbInto_eq_iff.2 transferred.1]
      exact ih transferred.2

variable {callers : List MethodSymbol}

theorem closed_iff_fixed :
    Closed types records callers summaries ↔
      ∀ step ∈ callers.map (propagateTo types records), step.apply summaries = summaries := by
  rw [List.forall_mem_map]
  exact forall₂_congr fun _ _ => propagateTo_fixed_iff.symm

theorem propagateEffects_least {fuel : Nat} {summaries final : Summaries TypeSymbol}
    (propagated : propagateEffects types records callers fuel summaries = some final) :
    IsLeast {state | summaries ≤ state ∧ Closed types records callers state} final := by
  simp only [closed_iff_fixed]
  refine settle_isLeast ?_ ?_ propagated
  · rw [List.forall_mem_map]
    exact fun caller _ state method => within_absorbAll types caller method _ state
  · rw [List.forall_mem_map]
    exact fun caller _ => absorbAll_mono caller _

theorem add_mono {summary more : EffectSummary TypeSymbol} (within : summary ≤ more) (record : Record TypeSymbol) :
    summary.add record ≤ more.add record := by
  obtain ⟨throws,inst,static,arguments,unknown,thrown,asyncThrown,instanceFields,staticFields⟩ := within
  cases record with
  | throws thrownType isCaught isAsync =>
      refine ⟨fun _ => rfl,inst,static,arguments,unknown,?_,?_,instanceFields,staticFields⟩
      · cases isCaught <;> cases isAsync <;> first | exact thrown | exact Finset.insert_subset_insert _ thrown
      · cases isCaught <;> cases isAsync <;> first | exact asyncThrown | exact Finset.insert_subset_insert _ asyncThrown
  | mayThrow => exact ⟨fun _ => rfl,inst,static,arguments,unknown,thrown,asyncThrown,instanceFields,staticFields⟩
  | calls => exact ⟨throws,inst,static,arguments,unknown,thrown,asyncThrown,instanceFields,staticFields⟩
  | hasUnknownSideEffects =>
      exact ⟨throws,inst,static,arguments,fun _ => rfl,thrown,asyncThrown,instanceFields,staticFields⟩
  | mutatesInstance => exact ⟨throws,fun _ => rfl,static,arguments,unknown,thrown,asyncThrown,instanceFields,staticFields⟩
  | mutatesStatic => exact ⟨throws,inst,fun _ => rfl,arguments,unknown,thrown,asyncThrown,instanceFields,staticFields⟩
  | assignsInstanceField =>
      exact ⟨throws,inst,static,arguments,unknown,thrown,asyncThrown,Finset.insert_subset_insert _ instanceFields,staticFields⟩
  | assignsStaticField =>
      exact ⟨throws,inst,static,arguments,unknown,thrown,asyncThrown,instanceFields,Finset.insert_subset_insert _ staticFields⟩

theorem foldl_add_mono {written more : List (Record TypeSymbol)} (sublist : written.Sublist more)
    {summary greater : EffectSummary TypeSymbol} (within : summary ≤ greater) :
    written.foldl EffectSummary.add summary ≤ more.foldl EffectSummary.add greater := by
  induction sublist generalizing summary greater with
  | slnil => exact within
  | cons record _ ih => exact ih (within.trans (EffectSummary.within_add greater record))
  | cons_cons record _ ih => exact ih (add_mono within record)

/-- Code that is added to a program takes no effect away from a method. -/
theorem effects_mono {more : Records TypeSymbol} (sublist : records.Sublist more) {callers others : List MethodSymbol}
    (subset : callers ⊆ others) {native final final' : Summaries TypeSymbol} {fuel fuel' : Nat}
    (propagated : propagateEffects types records callers fuel (scanned native records) = some final)
    (propagated' : propagateEffects types more others fuel' (scanned native more) = some final') : final ≤ final' := by
  have written (method : MethodSymbol) : (recordsOf records method).Sublist (recordsOf more method) :=
    (sublist.filter _).map Prod.snd
  obtain ⟨above,closed⟩ := (propagateEffects_least propagated').1
  refine (propagateEffects_least propagated).2 ⟨?_,fun caller member edge inside => ?_⟩
  · intro method
    exact (foldl_add_mono (written method) le_rfl).trans (above method)
  · obtain ⟨record,recorded,same⟩ := List.mem_flatMap.1 inside
    exact closed caller (subset member) edge (List.mem_flatMap.2 ⟨record,(written caller).subset recorded,same⟩)

theorem effects_mono_call :
    let types : TypeModel Unit := .nominal () (fun _ => []) (fun _ => false)
    let writes : Records Unit := [(⟨1,false⟩,.mutatesStatic)]
    let calls : Records Unit := (⟨0,false⟩,.calls ⟨⟨1,false⟩,0,[],false,false⟩) :: writes
    ∃ fuel fuel' final final',propagateEffects types writes [⟨0,false⟩] fuel (scanned (fun _ => {}) writes) = some final ∧
      propagateEffects types calls [⟨0,false⟩] fuel' (scanned (fun _ => {}) calls) = some final' ∧ final ≤ final' := by
  intro types writes calls
  obtain ⟨fuel,final,propagated⟩ := propagateEffects_terminates types writes [⟨0,false⟩] (scanned (fun _ => {}) writes)
  obtain ⟨fuel',final',propagated'⟩ := propagateEffects_terminates types calls [⟨0,false⟩] (scanned (fun _ => {}) calls)
  exact ⟨fuel,fuel',final,final',propagated,propagated',
    effects_mono (List.sublist_cons_self _ _) (List.Subset.refl _) propagated propagated'⟩

/-- The loop comes to an end in every order of the callers, and always with the least summaries that hold the ones
before it and are closed under the call graph. -/
theorem propagateEffects_isLeast (types : TypeModel TypeSymbol) (records : Records TypeSymbol)
    (callers : List MethodSymbol) (summaries : Summaries TypeSymbol) :
    ∃ final, IsLeast {state | summaries ≤ state ∧ Closed types records callers state} final ∧
      ∀ order, order.Perm callers → (∃ fuel, propagateEffects types records order fuel summaries = some final) ∧
        ∀ fuel result, propagateEffects types records order fuel summaries = some result → result = final := by
  obtain ⟨fuel,final,propagated⟩ := propagateEffects_terminates types records callers summaries
  have least := propagateEffects_least propagated
  refine ⟨final,least,fun order permuted => ?_⟩
  have same (state : Summaries TypeSymbol) : Closed types records order state ↔ Closed types records callers state :=
    forall_congr' fun _ => imp_congr_left permuted.mem_iff
  have unique {fuel : Nat} {result : Summaries TypeSymbol}
      (propagated : propagateEffects types records order fuel summaries = some result) : result = final := by
    have found := propagateEffects_least propagated
    simp only [same] at found
    exact found.unique least
  obtain ⟨fuel,result,propagated⟩ := propagateEffects_terminates types records order summaries
  exact ⟨⟨fuel,unique propagated ▸ propagated⟩,fun _ _ => unique⟩

end Propagation

end ShardScript.Semantic
