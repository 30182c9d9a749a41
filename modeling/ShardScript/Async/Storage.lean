import ShardScript.Async.MoveNext
import ShardScript.Async.Variables

/-! The fields and the slots of the variables of an async method after the analysis pass, and when they
are distinct. -/
namespace ShardScript.Async
open Syntax ByteCode

namespace SemanticModel

def catchVariables (model : SemanticModel) (clauses : List SyntaxNode) : List Nat :=
  clauses.filterMap fun clause => model.lookupSymbol clause.1

end SemanticModel

/-- A method behind the semantic passes. They give each declaration a symbol of its own, and report a
variable that they find no type for. -/
structure AsyncMethod where
  parameters : List Nat
  hasOuterThis : Bool
  body : Body .block
  model : SemanticModel
  typed : ∀ symbol ∈ model.locals body, (model.symbol symbol).type.isSome
  symbols_nodup : (model.locals body ++ model.catchVariables (allCatchClauses body [])).Nodup

structure Analysis where
  liftedParameters : List Lifted
  liftedLocals : List (Nat × Lifted)
  catchVariables : List Nat
  slotIndex : Nat → UInt16

def assignSlots (first : Nat) : List Nat → (Nat → UInt16) → Nat → UInt16
  | [],slots => slots
  | symbol :: symbols,slots =>
      assignSlots (first + 1) symbols (Function.update slots symbol (UInt16.ofNat first))

namespace AsyncMethod

variable (method : AsyncMethod)

def locals : List Nat := method.model.locals method.body

def catchVariables : List Nat := method.model.catchVariables (allCatchClauses method.body [])

def typedVariables : List (Nat × Nat) :=
  (method.model.collect method.body []).filterMap fun symbol =>
    (method.model.symbol symbol).type.map (Prod.mk symbol)

def collectedCatchVariables : List Nat :=
  method.model.catchVariables (collectMethodCatchClauses method.body [])

def firstField : Nat :=
  let scan := scanBody method.body
  2 + scan.enumeratorLoops.length + (scan.awaitSites.any (·.enclosingCatch.isSome)).toNat +
    method.hasOuterThis.toNat + scan.awaitSites.length

/-- `AsyncAnalysisPass::Run`. The receiver of `MoveNext` is in slot zero. -/
def run : Option Analysis :=
  if (scanBody method.body).supported then
    let parameters := method.parameters.length
    let variables_ := method.typedVariables
    some {
      liftedParameters := AsyncMethodInfo.liftAll method.firstField 1 method.parameters
      liftedLocals := (variables_.map Prod.fst).zip
        (AsyncMethodInfo.liftAll (method.firstField + parameters) (1 + parameters) (variables_.map Prod.snd))
      catchVariables := method.collectedCatchVariables
      slotIndex := assignSlots (1 + parameters + variables_.length) method.collectedCatchVariables
        (assignSlots (1 + parameters) (variables_.map Prod.fst) fun symbol =>
          (method.model.symbol symbol).slotIndex) }
  else none

end AsyncMethod

section Slots

theorem liftAll_slots (firstField firstSlot : Nat) (payloads : List Nat) :
    (AsyncMethodInfo.liftAll firstField firstSlot payloads).map Lifted.moveNextSlot =
      (List.range' firstSlot payloads.length).map UInt16.ofNat := by
  induction payloads generalizing firstField firstSlot with
  | nil => rfl
  | cons payload payloads ih =>
    rw [AsyncMethodInfo.liftAll,List.map_cons,ih,List.length_cons,List.range'_succ,List.map_cons]

theorem liftAll_fields (firstField firstSlot : Nat) (payloads : List Nat) :
    (AsyncMethodInfo.liftAll firstField firstSlot payloads).map Lifted.field =
      (List.range' firstField payloads.length).map UInt32.ofNat := by
  induction payloads generalizing firstField firstSlot with
  | nil => rfl
  | cons payload payloads ih =>
    rw [AsyncMethodInfo.liftAll,List.map_cons,ih,List.length_cons,List.range'_succ,List.map_cons]

theorem liftAll_payloads (firstField firstSlot : Nat) (payloads : List Nat) :
    (AsyncMethodInfo.liftAll firstField firstSlot payloads).map Lifted.payload = payloads := by
  induction payloads generalizing firstField firstSlot with
  | nil => rfl
  | cons payload payloads ih => rw [AsyncMethodInfo.liftAll,List.map_cons,ih]

theorem liftAll_length (firstField firstSlot : Nat) (payloads : List Nat) :
    (AsyncMethodInfo.liftAll firstField firstSlot payloads).length = payloads.length := by
  have lengths := congrArg List.length (liftAll_slots firstField firstSlot payloads)
  simpa using lengths

theorem assignSlots_of_not_mem (first : Nat) (symbols : List Nat) (slots : Nat → UInt16) (symbol : Nat)
    (absent : symbol ∉ symbols) : assignSlots first symbols slots symbol = slots symbol := by
  induction symbols generalizing first slots with
  | nil => rfl
  | cons head symbols ih =>
    rw [List.mem_cons,not_or] at absent
    rw [assignSlots,ih _ _ absent.2]
    exact Function.update_of_ne absent.1 _ _

theorem map_assignSlots (first : Nat) (symbols : List Nat) (slots : Nat → UInt16)
    (distinct : symbols.Nodup) :
    symbols.map (assignSlots first symbols slots) =
      (List.range' first symbols.length).map UInt16.ofNat := by
  induction symbols generalizing first slots with
  | nil => rfl
  | cons symbol symbols ih =>
    rw [List.nodup_cons] at distinct
    rw [List.map_cons,List.length_cons,List.range'_succ,List.map_cons,assignSlots,ih _ _ distinct.2,
      assignSlots_of_not_mem _ _ _ _ distinct.1,Function.update_self]

theorem map_assignSlots_of_disjoint (first : Nat) (symbols others : List Nat) (slots : Nat → UInt16)
    (apart : ∀ symbol ∈ others, symbol ∉ symbols) :
    others.map (assignSlots first symbols slots) = others.map slots :=
  List.map_congr_left fun symbol member => assignSlots_of_not_mem _ _ _ _ (apart symbol member)

theorem slots_nodup_iff (first count : Nat) :
    ((List.range' first count).map UInt16.ofNat).Nodup ↔ count ≤ 65536 := by
  constructor
  · intro distinct
    by_contra more
    have wrapped : UInt16.ofNat first = UInt16.ofNat (first + 65536) := by
      apply UInt16.toNat_inj.1
      simp only [UInt16.toNat_ofNat']
      omega
    have same := List.inj_on_of_nodup_map distinct (List.mem_range'_1.2 (by omega))
      (List.mem_range'_1.2 (by omega)) wrapped
    omega
  · intro bound
    refine List.Nodup.map_on ?_ List.nodup_range'
    intro left leftMember right rightMember same
    rw [List.mem_range'_1] at leftMember rightMember
    have := congrArg UInt16.toNat same
    simp only [UInt16.toNat_ofNat'] at this
    omega

theorem fields_nodup (first count : Nat) (bound : count ≤ 4294967296) :
    ((List.range' first count).map UInt32.ofNat).Nodup := by
  refine List.Nodup.map_on ?_ List.nodup_range'
  intro left leftMember right rightMember same
  rw [List.mem_range'_1] at leftMember rightMember
  have := congrArg UInt32.toNat same
  simp only [UInt32.toNat_ofNat'] at this
  omega

end Slots

def awaitsInside : SyntaxNode → Bool
  | (_,⟨_,.catchClause _ _ body _⟩) => !body.all Expression.isPlain
  | _ => false

/-- The storage that the analysis leaves each variable with. A catch variable has a slot only, where the
locals and the parameters have a field too. -/
structure DistinctStorage (method : AsyncMethod) (info : Analysis) : Prop where
  fields : ((info.liftedParameters ++ info.liftedLocals.map Prod.snd).map Lifted.field).Nodup
  slots : (info.liftedParameters.map Lifted.moveNextSlot ++
    (method.locals ++ method.catchVariables).map info.slotIndex).Nodup
  parameters : info.liftedParameters.map Lifted.payload = method.parameters
  locals : ∀ symbol ∈ method.locals, ∃ lifted, (symbol,lifted) ∈ info.liftedLocals ∧
    info.slotIndex symbol = lifted.moveNextSlot
  catchVariables : ∀ clause ∈ allCatchClauses method.body [], ∀ symbol,
    method.model.lookupSymbol clause.1 = some symbol → awaitsInside clause = true →
      symbol ∈ info.catchVariables

namespace AsyncMethod

variable (method : AsyncMethod)

def branchCatchVariables : List Nat :=
  method.model.catchVariables (branchCatchClauses method.body [])

def slotCount : Nat :=
  method.parameters.length + method.locals.length + method.collectedCatchVariables.length

/-- The slots fit, and the clauses inside loops, conditionals and `switch` statements neither await nor
came with a slot that is given to another variable. -/
structure Separable : Prop where
  fit : method.slotCount ≤ 65536
  calm : ∀ clause ∈ branchCatchClauses method.body [], (method.model.lookupSymbol clause.1).isSome →
    awaitsInside clause = false
  kept : (method.branchCatchVariables.map fun symbol => (method.model.symbol symbol).slotIndex).Nodup
  apart : ∀ symbol ∈ method.branchCatchVariables, ∀ index < method.slotCount,
    (method.model.symbol symbol).slotIndex ≠ UInt16.ofNat (1 + index)

theorem collect_perm : (method.model.collect method.body []).Perm method.locals :=
  Multiset.coe_eq_coe.1 (method.model.collect_nodes method.body [])

theorem catchVariables_perm :
    method.catchVariables.Perm (method.collectedCatchVariables ++ method.branchCatchVariables) := by
  have clauses : (allCatchClauses method.body []).Perm
      (collectMethodCatchClauses method.body [] ++ branchCatchClauses method.body []) :=
    Multiset.coe_eq_coe.1 (allCatchClauses_body method.body)
  have variables_ := clauses.filterMap fun clause => method.model.lookupSymbol clause.1
  rw [List.filterMap_append] at variables_
  exact variables_

theorem typedVariables_symbols :
    method.typedVariables.map Prod.fst = method.model.collect method.body [] := by
  have typed : ∀ symbols : List Nat, (∀ symbol ∈ symbols, (method.model.symbol symbol).type.isSome) →
      (symbols.filterMap fun symbol =>
        (method.model.symbol symbol).type.map (Prod.mk symbol)).map Prod.fst = symbols := by
    intro symbols typed
    induction symbols with
    | nil => rfl
    | cons symbol symbols ih =>
      obtain ⟨payload,type⟩ := Option.isSome_iff_exists.1 (typed symbol List.mem_cons_self)
      have rest := ih fun symbol member => typed symbol (List.mem_cons_of_mem _ member)
      rw [List.filterMap_cons,type]
      exact congrArg (symbol :: ·) rest
  exact typed _ fun symbol member => method.typed symbol (method.collect_perm.subset member)

theorem typedVariables_length : method.typedVariables.length = method.locals.length := by
  have lengths := congrArg List.length method.typedVariables_symbols
  rw [List.length_map] at lengths
  rw [lengths]
  exact method.collect_perm.length_eq

theorem symbols_apart :
    (method.model.collect method.body [] ++
      (method.collectedCatchVariables ++ method.branchCatchVariables)).Nodup :=
  (method.collect_perm.append method.catchVariables_perm.symm).nodup_iff.2 method.symbols_nodup

theorem collect_nodup : (method.model.collect method.body []).Nodup :=
  (List.nodup_append.1 method.symbols_apart).1

theorem catch_not_collected : ∀ symbol ∈ method.model.collect method.body [],
    symbol ∉ method.collectedCatchVariables ++ method.branchCatchVariables :=
  fun _ member other => (List.nodup_append.1 method.symbols_apart).2.2 _ member _ other rfl

theorem branch_not_collected : ∀ symbol ∈ method.branchCatchVariables,
    symbol ∉ method.collectedCatchVariables :=
  fun _ member other =>
    (List.nodup_append.1 (List.nodup_append.1 method.symbols_apart).2.1).2.2 _ other _ member rfl

end AsyncMethod

section Analysed

variable {method : AsyncMethod} {info : Analysis}

theorem run_eq (ran : method.run = some info) : (scanBody method.body).supported = true ∧ info = ⟨
    AsyncMethodInfo.liftAll method.firstField 1 method.parameters,
    (method.typedVariables.map Prod.fst).zip
      (AsyncMethodInfo.liftAll (method.firstField + method.parameters.length)
        (1 + method.parameters.length) (method.typedVariables.map Prod.snd)),
    method.collectedCatchVariables,
    assignSlots (1 + method.parameters.length + method.typedVariables.length)
      method.collectedCatchVariables
      (assignSlots (1 + method.parameters.length) (method.typedVariables.map Prod.fst) fun symbol =>
        (method.model.symbol symbol).slotIndex)⟩ := by
  unfold AsyncMethod.run at ran
  split at ran
  · next supported => exact ⟨supported,(Option.some.inj ran).symm⟩
  · cases ran

theorem parameter_slots (ran : method.run = some info) :
    info.liftedParameters.map Lifted.moveNextSlot =
      (List.range' 1 method.parameters.length).map UInt16.ofNat := by
  rw [(run_eq ran).2]
  exact liftAll_slots _ _ _

theorem local_lifted (ran : method.run = some info) :
    info.liftedLocals.map Prod.snd = AsyncMethodInfo.liftAll
      (method.firstField + method.parameters.length) (1 + method.parameters.length)
        (method.typedVariables.map Prod.snd) := by
  rw [(run_eq ran).2]
  refine List.map_snd_zip ?_
  rw [liftAll_length,List.length_map,List.length_map]

theorem local_slots (ran : method.run = some info) :
    (method.model.collect method.body []).map info.slotIndex =
      (List.range' (1 + method.parameters.length) method.locals.length).map UInt16.ofNat := by
  rw [(run_eq ran).2,method.typedVariables_symbols,map_assignSlots_of_disjoint,map_assignSlots]
  · rw [method.collect_perm.length_eq]
  · exact method.collect_nodup
  · exact fun symbol member other =>
      method.catch_not_collected symbol member (List.mem_append_left _ other)

theorem catch_slots (ran : method.run = some info) :
    method.collectedCatchVariables.map info.slotIndex =
      (List.range' (1 + method.parameters.length + method.locals.length)
        method.collectedCatchVariables.length).map UInt16.ofNat := by
  rw [(run_eq ran).2,map_assignSlots,method.typedVariables_length]
  exact (List.nodup_append.1 (List.nodup_append.1 method.symbols_apart).2.1).1

theorem branch_slots (ran : method.run = some info) :
    method.branchCatchVariables.map info.slotIndex =
      method.branchCatchVariables.map fun symbol => (method.model.symbol symbol).slotIndex := by
  rw [(run_eq ran).2,map_assignSlots_of_disjoint,map_assignSlots_of_disjoint]
  · intro symbol member other
    rw [method.typedVariables_symbols] at other
    exact method.catch_not_collected symbol other (List.mem_append_right _ member)
  · exact method.branch_not_collected

theorem slots_perm (ran : method.run = some info) :
    (info.liftedParameters.map Lifted.moveNextSlot ++
      (method.locals ++ method.catchVariables).map info.slotIndex).Perm
    ((List.range' 1 method.slotCount).map UInt16.ofNat ++
      method.branchCatchVariables.map fun symbol => (method.model.symbol symbol).slotIndex) := by
  have given : (List.range' 1 method.slotCount).map UInt16.ofNat =
      info.liftedParameters.map Lifted.moveNextSlot ++
        ((method.model.collect method.body []).map info.slotIndex ++
          method.collectedCatchVariables.map info.slotIndex) := by
    rw [parameter_slots ran,local_slots ran,catch_slots ran,← List.map_append,← List.map_append,
      List.range'_append_1,List.range'_append_1,AsyncMethod.slotCount,Nat.add_assoc]
  rw [given,← branch_slots ran,List.append_assoc,List.append_assoc,← List.map_append,← List.map_append]
  refine List.Perm.append_left _ (List.Perm.map _ ?_)
  exact method.collect_perm.symm.append method.catchVariables_perm

theorem local_symbols (ran : method.run = some info) :
    info.liftedLocals.map Prod.fst = method.model.collect method.body [] := by
  rw [← method.typedVariables_symbols,(run_eq ran).2]
  refine List.map_fst_zip ?_
  rw [liftAll_length,List.length_map,List.length_map]

theorem local_assigned (ran : method.run = some info) (symbol : Nat) (member : symbol ∈ method.locals) :
    ∃ lifted, (symbol,lifted) ∈ info.liftedLocals ∧ info.slotIndex symbol = lifted.moveNextSlot := by
  have collected := method.collect_perm.mem_iff.2 member
  rw [← local_symbols ran] at collected
  rcases List.mem_map.1 collected with ⟨⟨_,lifted⟩,inside,rfl⟩
  have saved : info.liftedLocals.map (fun pair => pair.2.moveNextSlot) =
      info.liftedLocals.map (fun pair => info.slotIndex pair.1) := by
    have used := local_slots ran
    rw [← local_symbols ran,List.map_map] at used
    have given := congrArg (List.map Lifted.moveNextSlot) (local_lifted ran)
    rw [List.map_map,liftAll_slots,List.length_map,method.typedVariables_length] at given
    exact given.trans used.symm
  exact ⟨lifted,inside,(List.map_inj_left.1 saved _ inside).symm⟩

theorem lifted_fields_nodup (ran : method.run = some info)
    (fit : method.parameters.length + method.locals.length ≤ 65536) :
    ((info.liftedParameters ++ info.liftedLocals.map Prod.snd).map Lifted.field).Nodup := by
  rw [local_lifted ran,(run_eq ran).2,List.map_append,liftAll_fields,liftAll_fields,List.length_map,
    method.typedVariables_length,← List.map_append,List.range'_append_1]
  exact fields_nodup _ _ (by omega)

theorem lifted_payloads (ran : method.run = some info) :
    info.liftedParameters.map Lifted.payload = method.parameters := by
  rw [(run_eq ran).2]
  exact liftAll_payloads _ _ _

theorem slots_distinct_iff (ran : method.run = some info) :
    (info.liftedParameters.map Lifted.moveNextSlot ++
      (method.locals ++ method.catchVariables).map info.slotIndex).Nodup ↔
    method.slotCount ≤ 65536 ∧
      (method.branchCatchVariables.map fun symbol => (method.model.symbol symbol).slotIndex).Nodup ∧
      ∀ symbol ∈ method.branchCatchVariables, ∀ index < method.slotCount,
        (method.model.symbol symbol).slotIndex ≠ UInt16.ofNat (1 + index) := by
  rw [(slots_perm ran).nodup_iff,List.nodup_append,slots_nodup_iff]
  refine and_congr_right fun _ => and_congr_right fun _ => ?_
  constructor
  · intro apart symbol member index inside same
    exact apart _ (List.mem_map_of_mem (List.mem_range'_1.2 (by omega))) _ (List.mem_map_of_mem member)
      same.symm
  · intro apart slot given other kept same
    rcases List.mem_map.1 given with ⟨number,inside,rfl⟩
    rcases List.mem_map.1 kept with ⟨symbol,member,rfl⟩
    rw [List.mem_range'_1] at inside
    refine apart symbol member (number - 1) (by omega) ?_
    rw [← same]
    congr 1
    omega

theorem catches_assigned_iff (ran : method.run = some info) :
    (∀ clause ∈ allCatchClauses method.body [], ∀ symbol,
      method.model.lookupSymbol clause.1 = some symbol → awaitsInside clause = true →
        symbol ∈ info.catchVariables) ↔
    ∀ clause ∈ branchCatchClauses method.body [], (method.model.lookupSymbol clause.1).isSome →
      awaitsInside clause = false := by
  have parts : (allCatchClauses method.body []).Perm
      (collectMethodCatchClauses method.body [] ++ branchCatchClauses method.body []) :=
    Multiset.coe_eq_coe.1 (allCatchClauses_body method.body)
  have assigned : info.catchVariables = method.collectedCatchVariables := by rw [(run_eq ran).2]
  constructor
  · intro reached clause member named
    obtain ⟨symbol,found⟩ := Option.isSome_iff_exists.1 named
    by_contra awaits
    rw [Bool.not_eq_false] at awaits
    have given := reached clause (parts.mem_iff.2 (List.mem_append_right _ member)) symbol found awaits
    rw [assigned] at given
    exact method.branch_not_collected symbol (List.mem_filterMap.2 ⟨clause,member,found⟩) given
  · intro calm clause member symbol found awaits
    rw [assigned]
    rcases List.mem_append.1 (parts.mem_iff.1 member) with collected | inside
    · exact List.mem_filterMap.2 ⟨clause,collected,found⟩
    · have silent := calm clause inside (Option.isSome_iff_exists.2 ⟨symbol,found⟩)
      rw [awaits] at silent
      cases silent

/-- The analysis gives all variables distinct storage exactly if the clauses that it does not collect are
in nobody's way. -/
theorem distinctStorage_iff (method : AsyncMethod) (info : Analysis) (ran : method.run = some info) :
    DistinctStorage method info ↔ method.Separable := by
  constructor
  · intro distinct
    obtain ⟨fit,kept,apart⟩ := (slots_distinct_iff ran).1 distinct.slots
    exact ⟨fit,(catches_assigned_iff ran).1 distinct.catchVariables,kept,apart⟩
  · intro separable
    have fit : method.parameters.length + method.locals.length ≤ 65536 :=
      (Nat.le_add_right _ _).trans separable.fit
    exact ⟨lifted_fields_nodup ran fit,
      (slots_distinct_iff ran).2 ⟨separable.fit,separable.kept,separable.apart⟩,
      lifted_payloads ran,local_assigned ran,(catches_assigned_iff ran).2 separable.calm⟩

end Analysed

section Examples

/-- A task that is waited for in the clause of `while (again()) { try { } catch (e) { await task; } }`. -/
def awaitInLoopCatch : Body .block :=
  .cons (.whileStatement (.plain .skip)
    (.cons (.tryStatement .empty (.catchClause none (some "e")
      (.cons (.simple (.expressionStatement (.await (awaitOf .skip)))) .empty) .noCatch)) .empty)) .empty

def loopCatchMethod : AsyncMethod where
  parameters := []
  hasOuterThis := false
  body := awaitInLoopCatch
  model := ⟨fun path => if path = [1,0,0,0] then some 0 else none,fun _ => ⟨some 8,0⟩,fun _ => []⟩
  typed := by decide
  symbols_nodup := by decide

theorem loopCatch_unassigned :
    ¬ ∀ (method : AsyncMethod) (info : Analysis), method.run = some info → DistinctStorage method info := by
  intro claimed
  have distinct := claimed loopCatchMethod _ rfl
  have assigned := distinct.catchVariables
    ([1,0,0,0],⟨_,.catchClause none (some "e")
      (.cons (.simple (.expressionStatement (.await (awaitOf .skip)))) .empty) .noCatch⟩)
    (List.mem_singleton.2 rfl) 0 rfl rfl
  exact absurd assigned List.not_mem_nil

def awaitInCatch : Body .block :=
  .cons (.simple (.variableStatement "n" (some (.plain .skip))))
    (.cons (.tryStatement .empty (.catchClause none (some "e")
      (.cons (.simple (.expressionStatement (.await (awaitOf .skip)))) .empty) .noCatch)) .empty)

def catchMethod : AsyncMethod where
  parameters := [8]
  hasOuterThis := true
  body := awaitInCatch
  model := ⟨fun path => if path = [0] then some 0 else if path = [1,0,1] then some 1 else none,
    fun symbol => ⟨some 8,UInt16.ofNat (2 + symbol)⟩,fun _ => []⟩
  typed := by decide
  symbols_nodup := by decide

theorem catchMethod_distinct :
    DistinctStorage catchMethod ⟨[⟨5,1,8⟩],[(0,⟨6,2,8⟩)],[1],
      assignSlots 3 [1] (assignSlots 2 [0] fun symbol => UInt16.ofNat (2 + symbol))⟩ :=
  (distinctStorage_iff catchMethod _ rfl).2 ⟨by decide,by simp [catchMethod,awaitInCatch,branchCatchClauses],
    by decide,by decide⟩

end Examples

end ShardScript.Async
