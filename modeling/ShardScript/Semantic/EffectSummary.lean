import ShardScript.Semantic.EffectScan
import ShardScript.Library.Iteration
import Mathlib.Data.Finset.Lattice.Basic
import Mathlib.Data.Finset.Union
import Mathlib.Data.Finset.Card
import Mathlib.Algebra.Order.BigOperators.Group.List
import Mathlib.Algebra.Order.Ring.Nat
import Mathlib.Logic.Function.Basic

/-! The summaries of methods: what the scan puts into them, and what they take from each other
along the call edges. -/
namespace ShardScript.Semantic
open Library Syntax

structure EffectSummary (TypeSymbol : Type) where
  mayThrow : Bool := false
  mutatesInstance : Bool := false
  mutatesStatic : Bool := false
  mutatesArguments : Bool := false
  hasUnknownSideEffects : Bool := false
  thrownTypes : Finset TypeSymbol := ∅
  asyncThrownTypes : Finset TypeSymbol := ∅
  mayAssignInstanceFields : Finset FieldSymbol := ∅
  mayAssignStaticFields : Finset FieldSymbol := ∅
  deriving DecidableEq

variable {TypeSymbol : Type}

namespace EffectSummary

structure Within (summary more : EffectSummary TypeSymbol) : Prop where
  mayThrow : summary.mayThrow = true → more.mayThrow = true
  mutatesInstance : summary.mutatesInstance = true → more.mutatesInstance = true
  mutatesStatic : summary.mutatesStatic = true → more.mutatesStatic = true
  mutatesArguments : summary.mutatesArguments = true → more.mutatesArguments = true
  hasUnknownSideEffects : summary.hasUnknownSideEffects = true → more.hasUnknownSideEffects = true
  thrownTypes : summary.thrownTypes ⊆ more.thrownTypes
  asyncThrownTypes : summary.asyncThrownTypes ⊆ more.asyncThrownTypes
  mayAssignInstanceFields : summary.mayAssignInstanceFields ⊆ more.mayAssignInstanceFields
  mayAssignStaticFields : summary.mayAssignStaticFields ⊆ more.mayAssignStaticFields

namespace Within

variable {summary more most : EffectSummary TypeSymbol}

theorem refl : Within summary summary :=
  ⟨id,id,id,id,id,fun _ => id,fun _ => id,fun _ => id,fun _ => id⟩

theorem trans (one : Within summary more) (two : Within more most) : Within summary most where
  mayThrow := two.mayThrow ∘ one.mayThrow
  mutatesInstance := two.mutatesInstance ∘ one.mutatesInstance
  mutatesStatic := two.mutatesStatic ∘ one.mutatesStatic
  mutatesArguments := two.mutatesArguments ∘ one.mutatesArguments
  hasUnknownSideEffects := two.hasUnknownSideEffects ∘ one.hasUnknownSideEffects
  thrownTypes := one.thrownTypes.trans two.thrownTypes
  asyncThrownTypes := one.asyncThrownTypes.trans two.asyncThrownTypes
  mayAssignInstanceFields := one.mayAssignInstanceFields.trans two.mayAssignInstanceFields
  mayAssignStaticFields := one.mayAssignStaticFields.trans two.mayAssignStaticFields

theorem antisymm (one : Within summary more) (two : Within more summary) : summary = more := by
  cases summary
  cases more
  simp only [EffectSummary.mk.injEq]
  exact ⟨Bool.eq_iff_iff.2 ⟨one.mayThrow,two.mayThrow⟩,
    Bool.eq_iff_iff.2 ⟨one.mutatesInstance,two.mutatesInstance⟩,
    Bool.eq_iff_iff.2 ⟨one.mutatesStatic,two.mutatesStatic⟩,
    Bool.eq_iff_iff.2 ⟨one.mutatesArguments,two.mutatesArguments⟩,
    Bool.eq_iff_iff.2 ⟨one.hasUnknownSideEffects,two.hasUnknownSideEffects⟩,
    one.thrownTypes.antisymm two.thrownTypes,one.asyncThrownTypes.antisymm two.asyncThrownTypes,
    one.mayAssignInstanceFields.antisymm two.mayAssignInstanceFields,
    one.mayAssignStaticFields.antisymm two.mayAssignStaticFields⟩

end Within

def size (summary : EffectSummary TypeSymbol) : Nat :=
  summary.mayThrow.toNat + summary.mutatesInstance.toNat + summary.mutatesStatic.toNat +
    summary.mutatesArguments.toNat + summary.hasUnknownSideEffects.toNat + summary.thrownTypes.card +
    summary.asyncThrownTypes.card + summary.mayAssignInstanceFields.card +
    summary.mayAssignStaticFields.card

private theorem toNat_le {one two : Bool} (within : one = true → two = true) : one.toNat ≤ two.toNat := by
  cases one <;> cases two <;> simp_all

theorem Within.size_le {summary more : EffectSummary TypeSymbol} (within : Within summary more) :
    summary.size ≤ more.size := by
  have throws := toNat_le within.mayThrow
  have inst := toNat_le within.mutatesInstance
  have static := toNat_le within.mutatesStatic
  have arguments := toNat_le within.mutatesArguments
  have unknown := toNat_le within.hasUnknownSideEffects
  have thrown := Finset.card_le_card within.thrownTypes
  have asyncThrown := Finset.card_le_card within.asyncThrownTypes
  have instanceFields := Finset.card_le_card within.mayAssignInstanceFields
  have staticFields := Finset.card_le_card within.mayAssignStaticFields
  unfold size
  omega

theorem Within.size_lt {summary more : EffectSummary TypeSymbol} (within : Within summary more)
    (apart : summary ≠ more) : summary.size < more.size := by
  refine lt_of_le_of_ne within.size_le ?_
  intro same
  apply apart
  have throws := toNat_le within.mayThrow
  have inst := toNat_le within.mutatesInstance
  have static := toNat_le within.mutatesStatic
  have arguments := toNat_le within.mutatesArguments
  have unknown := toNat_le within.hasUnknownSideEffects
  have thrown := Finset.card_le_card within.thrownTypes
  have asyncThrown := Finset.card_le_card within.asyncThrownTypes
  have instanceFields := Finset.card_le_card within.mayAssignInstanceFields
  have staticFields := Finset.card_le_card within.mayAssignStaticFields
  unfold size at same
  have flag {one two : Bool} (same : one.toNat = two.toNat) : one = two := by
    cases one <;> cases two <;> simp_all
  cases summary
  cases more
  simp only [EffectSummary.mk.injEq]
  dsimp only at *
  exact ⟨flag (by omega),flag (by omega),flag (by omega),flag (by omega),flag (by omega),
    Finset.eq_of_subset_of_card_le within.thrownTypes (by omega),
    Finset.eq_of_subset_of_card_le within.asyncThrownTypes (by omega),
    Finset.eq_of_subset_of_card_le within.mayAssignInstanceFields (by omega),
    Finset.eq_of_subset_of_card_le within.mayAssignStaticFields (by omega)⟩

variable [DecidableEq TypeSymbol] (types : TypeModel TypeSymbol)

def add (summary : EffectSummary TypeSymbol) : Record TypeSymbol → EffectSummary TypeSymbol
  | .throws thrownType isCaught isAsync =>
      { summary with
        mayThrow := true
        thrownTypes := if isCaught || isAsync then summary.thrownTypes else insert thrownType summary.thrownTypes
        asyncThrownTypes :=
          if isCaught || !isAsync then summary.asyncThrownTypes else insert thrownType summary.asyncThrownTypes }
  | .mayThrow => { summary with mayThrow := true }
  | .calls _ => summary
  | .hasUnknownSideEffects => { summary with hasUnknownSideEffects := true }
  | .mutatesInstance => { summary with mutatesInstance := true }
  | .mutatesStatic => { summary with mutatesStatic := true }
  | .assignsInstanceField field =>
      { summary with mayAssignInstanceFields := insert field summary.mayAssignInstanceFields }
  | .assignsStaticField field =>
      { summary with mayAssignStaticFields := insert field summary.mayAssignStaticFields }

def passed (calleeIsAsync : Bool) (callee : EffectSummary TypeSymbol) (edge : CallEdge TypeSymbol) :
    Finset TypeSymbol :=
  (if calleeIsAsync then if edge.isAwaited then callee.asyncThrownTypes else ∅ else callee.thrownTypes).filter
    fun thrownType => edge.catches types thrownType = false

def absorb (callerIsAsync calleeIsAsync : Bool) (caller callee : EffectSummary TypeSymbol)
    (edge : CallEdge TypeSymbol) : EffectSummary TypeSymbol :=
  let passed := passed types calleeIsAsync callee edge
  { caller with
    mayThrow := caller.mayThrow || decide passed.Nonempty
    mutatesInstance := caller.mutatesInstance || callee.mutatesInstance
    mutatesStatic := caller.mutatesStatic || callee.mutatesStatic
    mutatesArguments := caller.mutatesArguments || callee.mutatesArguments
    hasUnknownSideEffects := caller.hasUnknownSideEffects || callee.hasUnknownSideEffects
    thrownTypes := if callerIsAsync then caller.thrownTypes else caller.thrownTypes ∪ passed
    asyncThrownTypes := if callerIsAsync then caller.asyncThrownTypes ∪ passed else caller.asyncThrownTypes }

theorem within_absorb (callerIsAsync calleeIsAsync : Bool) (caller callee : EffectSummary TypeSymbol)
    (edge : CallEdge TypeSymbol) : Within caller (absorb types callerIsAsync calleeIsAsync caller callee edge) := by
  cases callerIsAsync <;>
    exact ⟨by simp +contextual [absorb],by simp +contextual [absorb],by simp +contextual [absorb],
      by simp +contextual [absorb],by simp +contextual [absorb],by simp [absorb],by simp [absorb],
      by simp [absorb],by simp [absorb]⟩

theorem within_add (summary : EffectSummary TypeSymbol) (record : Record TypeSymbol) :
    Within summary (summary.add record) := by
  cases record with
  | throws thrownType isCaught isAsync =>
    cases isCaught <;> cases isAsync <;>
      exact ⟨by simp [add],by simp [add],by simp [add],by simp [add],by simp [add],by simp [add],by simp [add],
        by simp [add],by simp [add]⟩
  | mayThrow | calls | hasUnknownSideEffects | mutatesInstance | mutatesStatic | assignsInstanceField
  | assignsStaticField =>
    exact ⟨by simp [add],by simp [add],by simp [add],by simp [add],by simp [add],by simp [add],by simp [add],
      by simp [add],by simp [add]⟩

end EffectSummary

abbrev Summaries (TypeSymbol : Type) := MethodSymbol → EffectSummary TypeSymbol

section Propagation

variable [DecidableEq TypeSymbol] (types : TypeModel TypeSymbol)

def recordsOf (records : Records TypeSymbol) (method : MethodSymbol) : List (Record TypeSymbol) :=
  (records.filter fun entry => entry.1 = method).map Prod.snd

/-- The summaries behind the walk over the text, from those that were there before it. -/
def scanned (native : Summaries TypeSymbol) (records : Records TypeSymbol) : Summaries TypeSymbol :=
  fun method => (recordsOf records method).foldl EffectSummary.add (native method)

def edgesOf (records : Records TypeSymbol) (method : MethodSymbol) : List (CallEdge TypeSymbol) :=
  (recordsOf records method).flatMap fun record =>
    match record with
    | .calls edge => [edge]
    | _ => []

def absorbInto (caller : MethodSymbol) (summaries : Summaries TypeSymbol) (edge : CallEdge TypeSymbol) :
    Summaries TypeSymbol :=
  Function.update summaries caller
    (EffectSummary.absorb types caller.isAsync edge.callee.isAsync (summaries caller) (summaries edge.callee) edge)

def absorbAll (caller : MethodSymbol) (edges : List (CallEdge TypeSymbol)) (summaries : Summaries TypeSymbol) :
    Summaries TypeSymbol :=
  edges.foldl (absorbInto types caller) summaries

theorem absorbInto_of_ne {caller method : MethodSymbol} (apart : method ≠ caller)
    (summaries : Summaries TypeSymbol) (edge : CallEdge TypeSymbol) :
    absorbInto types caller summaries edge method = summaries method :=
  Function.update_of_ne apart _ _

theorem within_absorbInto (caller method : MethodSymbol) (summaries : Summaries TypeSymbol)
    (edge : CallEdge TypeSymbol) : (summaries method).Within (absorbInto types caller summaries edge method) := by
  by_cases same : method = caller
  · rw [same,absorbInto,Function.update_self]
    exact EffectSummary.within_absorb _ _ _ _ _ _
  · rw [absorbInto_of_ne types same]
    exact .refl

theorem within_absorbAll (caller method : MethodSymbol) (edges : List (CallEdge TypeSymbol))
    (summaries : Summaries TypeSymbol) :
    (summaries method).Within (absorbAll types caller edges summaries method) := by
  induction edges generalizing summaries with
  | nil => exact .refl
  | cons edge rest ih => exact (within_absorbInto types caller method summaries edge).trans (ih _)

theorem absorbAll_of_ne {caller method : MethodSymbol} (apart : method ≠ caller)
    (edges : List (CallEdge TypeSymbol)) (summaries : Summaries TypeSymbol) :
    absorbAll types caller edges summaries method = summaries method := by
  induction edges generalizing summaries with
  | nil => rfl
  | cons edge rest ih => exact (ih _).trans (absorbInto_of_ne types apart summaries edge)

variable {caller : MethodSymbol} {edges : List (CallEdge TypeSymbol)}

theorem absorbed {summaries : Summaries TypeSymbol}
    (fixed : absorbAll types caller edges summaries = summaries) :
    ∀ edge ∈ edges, absorbInto types caller summaries edge = summaries := by
  induction edges with
  | nil => simp
  | cons edge rest ih =>
    have first : absorbInto types caller summaries edge = summaries := by
      funext method
      have later := within_absorbAll types caller method rest (absorbInto types caller summaries edge)
      rw [show absorbAll types caller rest (absorbInto types caller summaries edge) = summaries from fixed]
        at later
      exact later.antisymm (within_absorbInto types caller method summaries edge)
    refine List.forall_mem_cons.2 ⟨first,ih ?_⟩
    rw [absorbAll,List.foldl_cons,first] at fixed
    exact fixed

def propagateTo (records : Records TypeSymbol) (caller : MethodSymbol) : Step (Summaries TypeSymbol) where
  apply := absorbAll types caller (edgesOf records caller)
  changes := fun summaries =>
    decide (summaries caller ≠ absorbAll types caller (edgesOf records caller) summaries caller)
  changes_iff := by
    intro summaries
    rw [decide_eq_false_iff_not,not_not]
    constructor
    · intro same
      funext method
      by_cases own : method = caller
      · rw [own,← same]
      · exact absorbAll_of_ne types own _ _
    · intro fixed
      rw [fixed]

/-- The call graph is swept, in some order of the callers, until no summary changes. -/
def propagateEffects (records : Records TypeSymbol) (callers : List MethodSymbol) (fuel : Nat)
    (summaries : Summaries TypeSymbol) : Option (Summaries TypeSymbol) :=
  settle (callers.map (propagateTo types records)) fuel summaries

variable {types} {records : Records TypeSymbol} {callers : List MethodSymbol} {fuel : Nat}
  {summaries final : Summaries TypeSymbol}

theorem propagateEffects_within (propagated : propagateEffects types records callers fuel summaries = some final)
    (method : MethodSymbol) : (summaries method).Within (final method) := by
  have keeps : ∀ step ∈ callers.map (propagateTo types records), ∀ state,
      (summaries method).Within (state method) → (summaries method).Within (step.apply state method) := by
    intro step member state within
    rcases List.mem_map.1 member with ⟨caller,_,rfl⟩
    exact within.trans (within_absorbAll types caller method _ state)
  exact settle_keeps keeps .refl propagated

variable {edge : CallEdge TypeSymbol}

theorem propagateEffects_absorbed
    (propagated : propagateEffects types records callers fuel summaries = some final)
    (listed : caller ∈ callers)
    (recorded : (caller,.calls edge) ∈ records) :
    EffectSummary.absorb types caller.isAsync edge.callee.isAsync (final caller) (final edge.callee) edge =
      final caller := by
  have fixed := settle_fixed propagated _ (List.mem_map_of_mem listed)
  have member : edge ∈ edgesOf records caller := by
    rw [edgesOf,recordsOf,List.mem_flatMap]
    refine ⟨.calls edge,?_,by simp⟩
    simpa using recorded
  have taken := congrFun (absorbed types fixed edge member) caller
  rwa [absorbInto,Function.update_self] at taken

theorem thrown_of_callee (propagated : propagateEffects types records callers fuel summaries = some final)
    (listed : caller ∈ callers)
    (recorded : (caller,.calls edge) ∈ records) (sync : caller.isAsync = false)
    (calleeSync : edge.callee.isAsync = false) {thrownType : TypeSymbol}
    (thrown : thrownType ∈ (final edge.callee).thrownTypes) (uncaught : edge.catches types thrownType = false) :
    thrownType ∈ (final caller).thrownTypes := by
  rw [← propagateEffects_absorbed propagated listed recorded]
  simp [EffectSummary.absorb,EffectSummary.passed,sync,calleeSync,thrown,uncaught]

theorem mutatesStatic_of_callee
    (propagated : propagateEffects types records callers fuel summaries = some final)
    (listed : caller ∈ callers)
    (recorded : (caller,.calls edge) ∈ records) (mutates : (final edge.callee).mutatesStatic = true) :
    (final caller).mutatesStatic = true := by
  rw [← propagateEffects_absorbed propagated listed recorded]
  simp [EffectSummary.absorb,mutates]

theorem mutatesInstance_of_callee
    (propagated : propagateEffects types records callers fuel summaries = some final)
    (listed : caller ∈ callers)
    (recorded : (caller,.calls edge) ∈ records) (mutates : (final edge.callee).mutatesInstance = true) :
    (final caller).mutatesInstance = true := by
  rw [← propagateEffects_absorbed propagated listed recorded]
  simp [EffectSummary.absorb,mutates]

theorem within_foldl_add (entries : List (Record TypeSymbol)) (start : EffectSummary TypeSymbol) :
    start.Within (entries.foldl EffectSummary.add start) := by
  induction entries generalizing start with
  | nil => exact .refl
  | cons entry rest ih => exact (EffectSummary.within_add start entry).trans (ih _)

theorem add_within_foldl_add {entries : List (Record TypeSymbol)} {record : Record TypeSymbol}
    (member : record ∈ entries) (start : EffectSummary TypeSymbol) :
    ∃ summary : EffectSummary TypeSymbol, (summary.add record).Within (entries.foldl EffectSummary.add start) := by
  induction entries generalizing start with
  | nil => cases member
  | cons entry rest ih =>
    rcases List.mem_cons.1 member with rfl | later
    · exact ⟨start,within_foldl_add rest _⟩
    · exact ih later _

theorem scanned_add {native : Summaries TypeSymbol} {method : MethodSymbol} {record : Record TypeSymbol}
    (recorded : (method,record) ∈ records) :
    ∃ summary : EffectSummary TypeSymbol, (summary.add record).Within (scanned native records method) :=
  add_within_foldl_add (by simpa [recordsOf] using recorded) (native method)

section Termination

def startTypes (summaries : Summaries TypeSymbol) (methods : List MethodSymbol) : Finset TypeSymbol :=
  methods.toFinset.biUnion fun method => (summaries method).thrownTypes ∪ (summaries method).asyncThrownTypes

def ceiling (known : Finset TypeSymbol) (summary : EffectSummary TypeSymbol) : EffectSummary TypeSymbol :=
  { summary with
    mayThrow := true, mutatesInstance := true, mutatesStatic := true, mutatesArguments := true,
    hasUnknownSideEffects := true
    thrownTypes := known ∪ summary.thrownTypes
    asyncThrownTypes := known ∪ summary.asyncThrownTypes }

theorem within_ceiling (known : Finset TypeSymbol) (summary : EffectSummary TypeSymbol) :
    summary.Within (ceiling known summary) :=
  ⟨by simp [ceiling],by simp [ceiling],by simp [ceiling],by simp [ceiling],by simp [ceiling],by simp [ceiling],
    by simp [ceiling],by simp [ceiling],by simp [ceiling]⟩

theorem passed_subset (calleeIsAsync : Bool) (callee : EffectSummary TypeSymbol) (edge : CallEdge TypeSymbol) :
    EffectSummary.passed types calleeIsAsync callee edge ⊆ callee.thrownTypes ∪ callee.asyncThrownTypes := by
  intro thrownType member
  rw [EffectSummary.passed,Finset.mem_filter] at member
  rw [Finset.mem_union]
  cases calleeIsAsync with
  | false => exact .inl (by simpa using member.1)
  | true =>
    cases awaited : edge.isAwaited with
    | false => simp [awaited] at member
    | true => exact .inr (by simpa [awaited] using member.1)

theorem absorb_ceiling {known : Finset TypeSymbol} {start caller callee : EffectSummary TypeSymbol}
    (within : caller.Within (ceiling known start)) (thrown : callee.thrownTypes ⊆ known)
    (asyncThrown : callee.asyncThrownTypes ⊆ known) (callerIsAsync calleeIsAsync : Bool)
    (edge : CallEdge TypeSymbol) :
    (EffectSummary.absorb types callerIsAsync calleeIsAsync caller callee edge).Within (ceiling known start) := by
  have passed : EffectSummary.passed types calleeIsAsync callee edge ⊆ known :=
    (passed_subset calleeIsAsync callee edge).trans (Finset.union_subset thrown asyncThrown)
  refine ⟨by simp [ceiling],by simp [ceiling],by simp [ceiling],by simp [ceiling],by simp [ceiling],?_,?_,
    within.mayAssignInstanceFields,within.mayAssignStaticFields⟩
  · cases callerIsAsync with
    | true => exact within.thrownTypes
    | false =>
      exact Finset.union_subset within.thrownTypes (passed.trans Finset.subset_union_left)
  · cases callerIsAsync with
    | true =>
      exact Finset.union_subset within.asyncThrownTypes (passed.trans Finset.subset_union_left)
    | false => exact within.asyncThrownTypes

def involved (records : Records TypeSymbol) (callers : List MethodSymbol) : List MethodSymbol :=
  callers ++ callers.flatMap fun caller => (edgesOf records caller).map CallEdge.callee

def Low (known : Finset TypeSymbol) (start state : Summaries TypeSymbol) : Prop :=
  ∀ method, (state method).Within (ceiling known (start method))

variable {methods : List MethodSymbol}

theorem startTypes_of_mem {start : Summaries TypeSymbol} {method : MethodSymbol}
    (member : method ∈ methods) :
    (start method).thrownTypes ⊆ startTypes start methods ∧
      (start method).asyncThrownTypes ⊆ startTypes start methods := by
  have inside := Finset.subset_biUnion_of_mem
    (fun method => (start method).thrownTypes ∪ (start method).asyncThrownTypes) (List.mem_toFinset.2 member)
  exact ⟨Finset.subset_union_left.trans inside,Finset.subset_union_right.trans inside⟩

theorem absorbAll_low {start state : Summaries TypeSymbol}
    (low : Low (startTypes start methods) start state) (caller : MethodSymbol)
    (callees : ∀ edge ∈ edges, edge.callee ∈ methods) :
    Low (startTypes start methods) start (absorbAll types caller edges state) := by
  induction edges generalizing state with
  | nil => exact low
  | cons edge rest ih =>
    rcases List.forall_mem_cons.1 callees with ⟨one,others⟩
    refine ih ?_ others
    intro method
    by_cases own : method = caller
    · rw [own,absorbInto,Function.update_self]
      have known : (start edge.callee).thrownTypes ⊆ startTypes start methods ∧
          (start edge.callee).asyncThrownTypes ⊆ startTypes start methods := startTypes_of_mem one
      have callee := low edge.callee
      exact absorb_ceiling (low caller)
        (callee.thrownTypes.trans (Finset.union_subset (Finset.Subset.refl _) known.1))
        (callee.asyncThrownTypes.trans (Finset.union_subset (Finset.Subset.refl _) known.2)) _ _ _
    · rw [absorbInto_of_ne types own]
      exact low method

def totalSize (callers : List MethodSymbol) (state : Summaries TypeSymbol) : Nat :=
  (callers.map fun caller => (state caller).size).sum

theorem totalSize_lt (listed : caller ∈ callers) {state : Summaries TypeSymbol}
    (changed : (propagateTo types records caller).changes state = true) :
    totalSize callers state < totalSize callers ((propagateTo types records caller).apply state) := by
  have apart : state caller ≠ absorbAll types caller (edgesOf records caller) state caller := by
    simpa [propagateTo] using changed
  refine List.sum_lt_sum _ _ ?_ ⟨caller,listed,?_⟩
  · intro method _
    exact (within_absorbAll types caller method _ state).size_le
  · exact (within_absorbAll types caller caller _ state).size_lt apart

theorem propagateEffects_terminates (types : TypeModel TypeSymbol) (records : Records TypeSymbol)
    (callers : List MethodSymbol) (summaries : Summaries TypeSymbol) :
    ∃ fuel final, propagateEffects types records callers fuel summaries = some final := by
  have keeps : ∀ step ∈ callers.map (propagateTo types records), ∀ state,
      Low (startTypes summaries (involved records callers)) summaries state →
        Low (startTypes summaries (involved records callers)) summaries (step.apply state) := by
    intro step member state low
    rcases List.mem_map.1 member with ⟨caller,listed,rfl⟩
    refine absorbAll_low low caller ?_
    intro edge member
    exact List.mem_append_right _ (List.mem_flatMap.2 ⟨caller,listed,List.mem_map_of_mem member⟩)
  have raises : ∀ step ∈ callers.map (propagateTo types records), ∀ state,
      Low (startTypes summaries (involved records callers)) summaries state → step.changes state = true →
        totalSize callers state < totalSize callers (step.apply state) := by
    intro step member state _ changed
    rcases List.mem_map.1 member with ⟨caller,listed,rfl⟩
    exact totalSize_lt listed changed
  have bounded : ∀ state, Low (startTypes summaries (involved records callers)) summaries state →
      totalSize callers state ≤ totalSize callers fun method =>
        ceiling (startTypes summaries (involved records callers)) (summaries method) := by
    intro state low
    exact List.sum_le_sum fun caller _ => (low caller).size_le
  exact settle_terminates keeps raises bounded fun method => within_ceiling _ _

end Termination

end Propagation

end ShardScript.Semantic
