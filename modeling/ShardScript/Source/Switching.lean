import ShardScript.Source.Dispatch
import Mathlib.Data.List.Forall2

/-! What the clauses of a switch match: the emitted tests on the value of the scrutinee, against the first clause, wherever a
default stands, whose pattern matches it. -/
namespace ShardScript.Source
open Library ByteCode Emitter ShardScript.Runtime FrameState

/-- The evaluation stack, and the local slot for the scrutinee. -/
structure SwitchData (Shape Rest : Type) where
  stack : EvalStack Shape Rest
  slot : StackEntry Shape

/-- The instructions of a switch, over types, a heap and comparisons that are left open, as are the other instructions. Nothing
else reaches the slot. -/
structure Switching (Shape Rest Exception : Type) where
  isReferenceType : Shape → Bool
  size : Shape → Nat
  isAssignableTo : Shape → Address → Bool
  boolean : Shape
  /-- `SetLocal` releases what the slot held, and counts what is stored. -/
  stored : StackEntry Shape → StackEntry Shape → Rest → Rest
  pushed : StackEntry Shape → Rest → Rest
  discarded : StackEntry Shape → Rest → Rest
  /-- `ExecuteBinary` with `==`, of operands that are not null. -/
  executeBinary : StackEntry Shape → StackEntry Shape → Rest → Effect (StackEntry Shape × Rest) Exception
  /-- The calls that take two arguments. -/
  isBinaryCall : Instruction → Bool
  invokeMethod : Instruction → StackEntry Shape → StackEntry Shape → Rest → Effect (StackEntry Shape × Rest) Exception
  /-- What a store does to the frame if the slot is no place for the value. -/
  corrupted : SwitchData Shape Rest → Effect (SwitchData Shape Rest) Exception
  others : DataMachine (EvalStack Shape Rest) Exception

namespace Progress

variable {α β : Type}

def value? : Progress α → Option α
  | .value result _ => some result
  | .timeout _ | .stopped _ => none

@[simp] theorem value?_value (result : α) (trace : List Event) : (value result trace).value? = some result := rfl

@[simp] theorem value?_after (trace : List Event) (progress : Progress α) : (progress.after trace).value? = progress.value? := by
  cases progress <;> rfl

@[simp] theorem value?_bind (first : Progress α) (rest : α → Progress β) :
    (first.bind rest).value? = first.value?.bind fun result => (rest result).value? := by
  cases first with
  | value result trace => exact value?_after trace (rest result)
  | timeout | stopped => rfl

end Progress

namespace Switching

variable {Shape Rest Exception : Type} [DecidableEq Shape] (operations : Switching Shape Rest Exception)

section Machine

def isNullInstance (entry : StackEntry Shape) : Bool :=
  match entry.shape with
  | none => true
  | some shape => operations.isReferenceType shape && entry.payload == 0

def isInstance (targetType : Address) (entry : StackEntry Shape) : Bool :=
  match entry.shape with
  | none => false
  | some shape => !operations.isNullInstance entry && operations.isAssignableTo shape targetType

/-- What `SetLocal` leaves in a slot: a null keeps the shape that the slot has if it is without one. -/
def held (slot value : StackEntry Shape) : StackEntry Shape :=
  ⟨value.shape.or slot.shape,if operations.isNullInstance value then 0 else value.payload⟩

/-- The slot has 8 bytes, and `SetLocal` takes the old ones for a pointer if the new value is one, and for a value otherwise. A
slot without a shape cannot be loaded. -/
def fits (slot value : StackEntry Shape) : Bool :=
  match value.shape with
  | none => slot.shape.any operations.isReferenceType
  | some shape =>
    if operations.isReferenceType shape then
      value.payload == 0 || slot.payload == 0 || slot.shape.all operations.isReferenceType
    else decide (operations.size shape ≤ 8) && slot.shape.all fun old => !operations.isReferenceType old

def truth (entry : StackEntry Shape) : Option Bool :=
  if entry.shape = some operations.boolean then some (entry.payload != 0) else none

def ofTruth (truth : Bool) : StackEntry Shape := ⟨some operations.boolean,truth.toNat⟩

def compareEqual (left right : StackEntry Shape) (rest : Rest) : Effect (StackEntry Shape × Rest) Exception :=
  if operations.isNullInstance right || operations.isNullInstance left then .ok (operations.ofTruth false,rest)
  else operations.executeBinary left right rest

/-- The result of an instruction lies on the entries below its operands. -/
def push (data : SwitchData Shape Rest) (entries : List (StackEntry Shape)) :
    Effect (StackEntry Shape × Rest) Exception → Effect (SwitchData Shape Rest) Exception
  | .ok (value,rest) => .ok { data with stack := ⟨value :: entries,rest⟩ }
  | .raised exception (_,rest) => .raised exception { data with stack := ⟨entries,rest⟩ }
  | .fault => .fault

def lift (data : SwitchData Shape Rest) : Effect (EvalStack Shape Rest) Exception → Effect (SwitchData Shape Rest) Exception
  | .ok stack => .ok { data with stack := stack }
  | .raised exception stack => .raised exception { data with stack := stack }
  | .fault => .fault

def executeOther (instruction : Instruction) (data : SwitchData Shape Rest) : Effect (SwitchData Shape Rest) Exception :=
  match data.stack.entries with
  | first :: second :: entries =>
    if operations.isBinaryCall instruction then push data entries (operations.invokeMethod instruction first second data.stack.rest)
    else lift data (operations.others.execute instruction data.stack)
  | _ => lift data (operations.others.execute instruction data.stack)

variable (switchSlot : UInt16)

def execute (instruction : Instruction) (data : SwitchData Shape Rest) : Effect (SwitchData Shape Rest) Exception :=
  match instruction,data.stack.entries with
  | .loadLocal slot,entries =>
    if slot = switchSlot then
      if data.slot.shape.isSome then push data entries (.ok (data.slot,operations.pushed data.slot data.stack.rest)) else .fault
    else operations.executeOther (.loadLocal slot) data
  | .storeLocal slot,value :: entries =>
    if slot = switchSlot then
      if operations.fits data.slot value then
        .ok ⟨⟨entries,operations.stored data.slot value data.stack.rest⟩,operations.held data.slot value⟩
      else operations.corrupted data
    else operations.executeOther (.storeLocal slot) data
  | .isInstance targetType,value :: entries =>
    if value.shape.isSome then
      push data entries (.ok (operations.ofTruth (operations.isInstance targetType value),operations.discarded value data.stack.rest))
    else .fault
  | .compareEqual,right :: left :: entries => push data entries (operations.compareEqual left right data.stack.rest)
  | instruction,_ => operations.executeOther instruction data

def machine : DataMachine (SwitchData Shape Rest) Exception where
  execute := operations.execute switchSlot
  popTruth data := match data.stack.entries with
    | value :: entries => (operations.truth value).map fun truth => (truth,{ data with stack := ⟨entries,data.stack.rest⟩ })
    | [] => none
  popNull data := (operations.others.popNull data.stack).map fun result => (result.1,{ data with stack := result.2 })
  popIndex data := (operations.others.popIndex data.stack).map fun result => (result.1,{ data with stack := result.2 })
  popThrown data := (operations.others.popThrown data.stack).map fun result => (result.1,{ data with stack := result.2 })
  returnsValue := operations.others.returnsValue
  placeReturned data := (operations.others.placeReturned data.stack).map fun stack => { data with stack := stack }
  incrementReference exception data := { data with stack := operations.others.incrementReference exception data.stack }
  collectInstance exception data := { data with stack := operations.others.collectInstance exception data.stack }
  holdsNullLiteral data := data.stack.entries.any fun entry => entry.shape.isNone
  drainEvalReferences data := { data with stack := operations.others.drainEvalReferences data.stack }
  pushException exception data := { data with stack := operations.others.pushException exception data.stack }
  pushCurrent exception data := { data with stack := operations.others.pushCurrent exception data.stack }
  popCurrent exception data :=
    (operations.others.popCurrent exception data.stack).map fun result => (result.1,{ data with stack := result.2 })

end Machine

section Matching

variable (switchSlot : UInt16)

/-- The value of an expression, by its code on an empty stack. -/
def evaluate (expression : Emission) (rest : Rest) : Option (StackEntry Shape × Rest) :=
  (execEmission (operations.machine switchSlot) expression ⟨⟨[],rest⟩,⟨none,0⟩⟩).value?.bind fun data =>
    data.stack.entries.head?.map fun value => (value,data.stack.rest)

/-- The code leaves a value, and what is below as it is. -/
def IsExpression (expression : Emission) : Prop := ∀ data : SwitchData Shape Rest,
  (execEmission (operations.machine switchSlot) expression data).value? =
    (operations.evaluate switchSlot expression data.stack.rest).map fun result =>
      { data with stack := ⟨result.1 :: data.stack.entries,result.2⟩ }

/-- How a pattern and the scrutinee compare. Two nulls are equal, but not for `COMPARE_EQUAL`. -/
inductive Outcome where
  | agrees | differs | bothNull
  deriving DecidableEq

def settle : Effect (StackEntry Shape × Rest) Exception → Option (Outcome × Rest)
  | .ok (result,rest) => (operations.truth result).map fun truth => (if truth then .agrees else .differs,rest)
  | .raised _ _ | .fault => none

def typeOutcome (targetType : Address) (value : StackEntry Shape) (rest : Rest) : Option (Outcome × Rest) :=
  some (if operations.isInstance targetType value then .agrees else .differs,
    operations.discarded value (operations.pushed value rest))

def methodCall (method : OperatorSymbol) : Instruction :=
  if method.isInterfaceMember then .callInterface method.address else .callMethodSymbol method.address

def valueOutcome (pattern : Emission) (equalityOperator : Option OperatorSymbol) (value : StackEntry Shape) (rest : Rest) :
    Option (Outcome × Rest) :=
  match equalityOperator with
  | none => (operations.evaluate switchSlot pattern (operations.pushed value rest)).bind fun found =>
      if operations.isNullInstance value && operations.isNullInstance found.1 then some (.bothNull,found.2)
      else operations.settle (operations.compareEqual value found.1 found.2)
  | some method => (operations.evaluate switchSlot pattern rest).bind fun found =>
      operations.settle (operations.invokeMethod (methodCall method) value found.1 (operations.pushed value found.2))

/-- What there is to try of a clause, for a given value of the scrutinee. -/
inductive Trial (Rest : Type) where
  | skipped
  | untested
  | tested (outcome : Rest → Option (Outcome × Rest))

def clauseTrial (value : StackEntry Shape) : Option SwitchCaseClause → Trial Rest
  | none | some ⟨_,none,_⟩ | some ⟨some (.isPattern none _),_,_⟩ => .skipped
  | some ⟨none,some _,_⟩ => .untested
  | some ⟨some (.isPattern (some targetType) _),some _,_⟩ => .tested (operations.typeOutcome targetType value)
  | some ⟨some (.expression pattern _),some _,equalityOperator⟩ =>
      .tested (operations.valueOutcome switchSlot pattern equalityOperator value)

def armTrial (value : StackEntry Shape) : Option SwitchArm → Trial Rest
  | none | some ⟨none,_⟩ | some ⟨_,none⟩ | some ⟨some (.isPattern none _),_⟩ | some ⟨some (.expression _ false),some _⟩ => .skipped
  | some ⟨some (.expression _ true),some _⟩ => .untested
  | some ⟨some (.isPattern (some targetType) _),some _⟩ => .tested (operations.typeOutcome targetType value)

/-- The patterns of a clause are expressions, and its operator takes two arguments. -/
structure IsClause (clause : Option SwitchCaseClause) : Prop where
  pattern : ∀ found ∈ clause, ∀ pattern discards, found.pattern = some (.expression pattern discards) →
    operations.IsExpression switchSlot pattern
  equality : ∀ found ∈ clause, ∀ method ∈ found.equalityOperator, operations.isBinaryCall (methodCall method) = true

end Matching

namespace Trial

/-- The trial that the emitted code ends with. -/
@[grind] def dispatch : List (Trial Rest) → Nat → Rest → Option (Option Nat × Rest)
  | [],_,rest => some (none,rest)
  | .skipped :: trials,index,rest => dispatch trials (index + 1) rest
  | .untested :: _,index,rest => some (some index,rest)
  | .tested outcome :: trials,index,rest => (outcome rest).bind fun result =>
      if result.1 = .agrees then some (some index,result.2) else dispatch trials (index + 1) result.2

@[grind] def firstMatch : List (Trial Rest) → Nat → Rest → Option (Option Nat × Rest)
  | [],_,rest => some (none,rest)
  | .skipped :: trials,index,rest | .untested :: trials,index,rest => firstMatch trials (index + 1) rest
  | .tested outcome :: trials,index,rest => (outcome rest).bind fun result =>
      if result.1 = .differs then firstMatch trials (index + 1) result.2 else some (some index,result.2)

def defaultClause : List (Trial Rest) → Nat → Option Nat
  | [],_ => none
  | .untested :: _,index => some index
  | .skipped :: trials,index | .tested _ :: trials,index => defaultClause trials (index + 1)

/-- The clause that is prescribed: the default if no pattern matches, wherever it stands. -/
def select (trials : List (Trial Rest)) (index : Nat) (rest : Rest) : Option (Option Nat × Rest) :=
  (firstMatch trials index rest).map fun result => (result.1.or (defaultClause trials index),result.2)

@[grind] def Unmatched : List (Trial Rest) → Rest → Prop
  | [],_ => True
  | .skipped :: trials,rest | .untested :: trials,rest => Unmatched trials rest
  | .tested outcome :: trials,rest => ∃ next, outcome rest = some (.differs,next) ∧ Unmatched trials next

/-- No trial that is come to is of two nulls, and behind a default that is come to nothing matches. -/
@[grind] def Settled : List (Trial Rest) → Rest → Prop
  | [],_ => True
  | .skipped :: trials,rest => Settled trials rest
  | .untested :: trials,rest => Unmatched trials rest
  | .tested outcome :: trials,rest => ∀ result next, outcome rest = some (result,next) →
      result ≠ .bothNull ∧ (result = .differs → Settled trials next)

theorem dispatch_ge (trials : List (Trial Rest)) {index found : Nat} {rest next : Rest}
    (h : dispatch trials index rest = some (some found,next)) : index ≤ found := by
  induction trials generalizing index rest with
  | nil => cases h
  | cons trial trials ih =>
    cases trial with
    | skipped => exact Nat.le_of_succ_le (ih h)
    | untested => exact (Option.some.inj (congrArg Prod.fst (Option.some.inj h))).le
    | tested outcome =>
      obtain ⟨⟨result,after⟩,_,chosen⟩ := Option.bind_eq_some_iff.mp h
      by_cases agrees : result = .agrees
      · rw [if_pos agrees] at chosen
        exact (Option.some.inj (congrArg Prod.fst (Option.some.inj chosen))).le
      · rw [if_neg agrees] at chosen
        exact Nat.le_of_succ_le (ih chosen)

theorem firstMatch_ge (trials : List (Trial Rest)) {index found : Nat} {rest next : Rest}
    (h : firstMatch trials index rest = some (some found,next)) : index ≤ found := by
  induction trials generalizing index rest with
  | nil => cases h
  | cons trial trials ih =>
    cases trial with
    | skipped | untested => exact Nat.le_of_succ_le (ih h)
    | tested outcome =>
      obtain ⟨⟨result,after⟩,_,chosen⟩ := Option.bind_eq_some_iff.mp h
      by_cases differs : result = .differs
      · rw [if_pos differs] at chosen
        exact Nat.le_of_succ_le (ih chosen)
      · rw [if_neg differs] at chosen
        exact (Option.some.inj (congrArg Prod.fst (Option.some.inj chosen))).le

theorem firstMatch_none_iff (trials : List (Trial Rest)) (index : Nat) (rest : Rest) :
    (∃ next, firstMatch trials index rest = some (none,next)) ↔ Unmatched trials rest := by
  induction trials generalizing index rest with
  | nil => exact ⟨fun _ => trivial,fun _ => ⟨rest,rfl⟩⟩
  | cons trial trials ih =>
    cases trial with
    | skipped | untested => exact ih (index + 1) rest
    | tested outcome =>
      rw [firstMatch,Unmatched]
      cases tried : outcome rest with
      | none => simp
      | some result =>
        obtain ⟨result,after⟩ := result
        cases result with
        | differs => simpa using ih (index + 1) after
        | agrees | bothNull => simp

theorem dispatch_select_iff (trials : List (Trial Rest)) (index : Nat) (rest : Rest) :
    (dispatch trials index rest).map Prod.fst = (select trials index rest).map Prod.fst ↔ Settled trials rest := by
  induction trials generalizing index rest with
  | nil => exact ⟨fun _ => trivial,fun _ => rfl⟩
  | cons trial trials ih =>
    cases trial with
    | skipped => exact ih (index + 1) rest
    | untested =>
      rw [Settled,← firstMatch_none_iff trials (index + 1),select,firstMatch]
      cases matched : firstMatch trials (index + 1) rest with
      | none => simp [dispatch]
      | some result =>
        obtain ⟨found,next⟩ := result
        cases found with
        | none => simp [dispatch,defaultClause]
        | some found =>
          have bound := firstMatch_ge trials matched
          simp [dispatch]
          omega
    | tested outcome =>
      rw [dispatch,Settled,select,firstMatch]
      cases tried : outcome rest with
      | none => simp
      | some result =>
        obtain ⟨result,after⟩ := result
        cases result with
        | agrees => simp
        | differs => simpa [select,defaultClause] using ih (index + 1) after
        | bothNull =>
          cases chosen : dispatch trials (index + 1) after with
          | none => simp [chosen]
          | some found =>
            obtain ⟨found,next⟩ := found
            cases found with
            | none => simp [chosen]
            | some found =>
              have bound := dispatch_ge trials chosen
              simp [chosen]
              omega

end Trial

section Tests

def completed {Data : Type} : Effect Data Exception → Option Data
  | .ok data => some data
  | .raised _ _ | .fault => none

section Code

variable {Data : Type} (machine : DataMachine Data Exception)

theorem value?_seq (first second : Emission) (data : Data) :
    (execEmission machine (.seq first second) data).value? =
      (execEmission machine first data).value?.bind fun next => (execEmission machine second next).value? :=
  Progress.value?_bind _ _

theorem value?_skip (data : Data) : (execEmission machine .skip data).value? = some data := rfl

theorem value?_evalPush (payload : Nat) (data : Data) :
    (execEmission machine (.evalPush payload) data).value? = some data := rfl

theorem value?_evalPop (count : Nat) (data : Data) : (execEmission machine (.evalPop count) data).value? = some data := rfl

theorem value?_op (instruction : Instruction)
    (isData : instruction.isData = true) (data : Data) :
    (execEmission machine (.op instruction isData) data).value? = completed (machine.execute instruction data) := by
  rw [execEmission]
  cases machine.execute instruction data <;> rfl

/-- An instruction leaves a trace, or stops. -/
theorem op_bind_ne {β : Type} (instruction : Instruction) (isData : instruction.isData = true) (data : Data)
    (rest : Data → Progress β) (result : β) : (execEmission machine (.op instruction isData) data).bind rest ≠ .value result [] := by
  rw [execEmission]
  intro h
  cases performed : machine.execute instruction data with
  | raised | fault =>
    rw [performed] at h
    cases h
  | ok next =>
    rw [performed,Progress.bind] at h
    cases result : rest next <;> rw [result] at h <;> cases h

theorem value?_execTest (condition : Emission) (data : Data) :
    (execTest machine condition data).value? = (execEmission machine condition data).value?.bind machine.popTruth := by
  rw [execTest,Progress.value?_bind]
  congr 1
  funext next
  cases machine.popTruth next <;> rfl

end Code

variable (slot : SwitchSlot) {value : StackEntry Shape}

theorem truth_ofTruth (truth : Bool) : operations.truth (operations.ofTruth truth) = some truth := by
  cases truth <;> simp [Switching.truth,ofTruth]

theorem completed_push (data : SwitchData Shape Rest) (entries : List (StackEntry Shape))
    (effect : Effect (StackEntry Shape × Rest) Exception) :
    (completed (push data entries effect)).bind (operations.machine slot.switchSlot).popTruth =
      (operations.settle effect).map fun result =>
        (decide (result.1 = .agrees),{ data with stack := ⟨entries,result.2⟩ }) := by
  cases effect with
  | raised | fault => rfl
  | ok result =>
    obtain ⟨result,rest⟩ := result
    simp only [push,completed,settle,machine,Option.bind_some]
    cases operations.truth result with
    | none => rfl
    | some truth => cases truth <;> rfl

/-- A test in the emitted code tells the outcome. -/
def Tells (value : StackEntry Shape) (test : Emission) (outcome : Rest → Option (Outcome × Rest)) : Prop :=
  ∀ data : SwitchData Shape Rest, data.slot = value →
    (execTest (operations.machine slot.switchSlot) test data).value? = (outcome data.stack.rest).map fun result =>
      (decide (result.1 = .agrees),{ data with stack := ⟨data.stack.entries,result.2⟩ })

theorem value?_load (shaped : value.shape.isSome = true) {data : SwitchData Shape Rest} (stored : data.slot = value) :
    (execEmission (operations.machine slot.switchSlot) (.op (.loadLocal slot.switchSlot)) data).value? =
      some { data with stack := ⟨value :: data.stack.entries,operations.pushed value data.stack.rest⟩ } := by
  subst stored
  have executed : (operations.machine slot.switchSlot).execute (.loadLocal slot.switchSlot) data =
      push data data.stack.entries (.ok (data.slot,operations.pushed data.slot data.stack.rest)) :=
    (if_pos rfl).trans (if_pos shaped)
  exact (value?_op _ _ _ data).trans (congrArg completed executed)

theorem typeTest_tells (shaped : value.shape.isSome = true) (targetType : Address) :
    operations.Tells slot value (slot.typeTest targetType) (operations.typeOutcome targetType value) := by
  intro data stored
  have loaded := operations.value?_load slot shaped stored
  have tested : (execEmission (operations.machine slot.switchSlot) (.op (.isInstance targetType))
      { data with stack := ⟨value :: data.stack.entries,operations.pushed value data.stack.rest⟩ }).value? =
        completed (push data data.stack.entries (.ok (operations.ofTruth (operations.isInstance targetType value),
          operations.discarded value (operations.pushed value data.stack.rest)) : Effect _ Exception)) :=
    (value?_op _ _ _ _).trans (congrArg completed (if_pos shaped))
  simp only [value?_execTest,SwitchSlot.typeTest,SwitchSlot.load,Emission.all,List.foldr,value?_seq,value?_skip,value?_evalPush,
    value?_evalPop,loaded,tested,Option.bind_some,Option.bind_assoc]
  rw [completed_push,typeOutcome,settle,truth_ofTruth]
  cases operations.isInstance targetType value <;> rfl

/-- The emitted comparison, once the pattern has its value. -/
theorem compareEqual_tells (data : SwitchData Shape Rest) (found : StackEntry Shape) (rest : Rest) :
    ((execEmission (operations.machine slot.switchSlot) (.op .compareEqual)
      { data with stack := ⟨found :: value :: data.stack.entries,rest⟩ }).value?.bind
        (operations.machine slot.switchSlot).popTruth) =
      (if operations.isNullInstance value && operations.isNullInstance found then some (.bothNull,rest)
        else operations.settle (operations.compareEqual value found rest)).map fun result =>
          (decide (result.1 = .agrees),{ data with stack := ⟨data.stack.entries,result.2⟩ }) := by
  have compared : (execEmission (operations.machine slot.switchSlot) (.op .compareEqual)
      { data with stack := ⟨found :: value :: data.stack.entries,rest⟩ }).value? =
        completed (push data data.stack.entries (operations.compareEqual value found rest)) := value?_op _ _ _ _
  rw [compared,completed_push]
  split
  next nulls =>
    rw [compareEqual,if_pos (by simp_all),settle,truth_ofTruth]
    rfl
  next => rfl

theorem value?_emitMethodCall {method : OperatorSymbol} (binary : operations.isBinaryCall (methodCall method) = true)
    (data : SwitchData Shape Rest) (found : StackEntry Shape) (rest : Rest) :
    (execEmission (operations.machine slot.switchSlot) (emitMethodCall method)
      { data with stack := ⟨value :: found :: data.stack.entries,rest⟩ }).value? =
        completed (push data data.stack.entries (operations.invokeMethod (methodCall method) value found rest)) := by
  have invoked : operations.executeOther (methodCall method) { data with stack := ⟨value :: found :: data.stack.entries,rest⟩ } =
      push data data.stack.entries (operations.invokeMethod (methodCall method) value found rest) := if_pos binary
  have called (call behind : Emission) (silent : ∀ data, (execEmission (operations.machine slot.switchSlot) behind data).value? = some data)
      (performed : (execEmission (operations.machine slot.switchSlot) call
        { data with stack := ⟨value :: found :: data.stack.entries,rest⟩ }).value? =
          completed (operations.executeOther (methodCall method) { data with stack := ⟨value :: found :: data.stack.entries,rest⟩ })) :
      (execEmission (operations.machine slot.switchSlot) (.all [call,.evalPop method.evalStackArguments,behind])
        { data with stack := ⟨value :: found :: data.stack.entries,rest⟩ }).value? =
        completed (push data data.stack.entries (operations.invokeMethod (methodCall method) value found rest)) := by
    simp only [Emission.all,List.foldr,value?_seq,value?_skip,value?_evalPop,Option.bind_some,performed,invoked,silent]
    exact Option.bind_fun_some _
  unfold emitMethodCall
  apply called
  · intro next
    cases method.returns <;> rfl
  · cases interface : method.isInterfaceMember with
    | true =>
      rw [if_pos rfl,methodCall,if_pos interface]
      exact value?_op _ _ _ _
    | false =>
      rw [if_neg Bool.false_ne_true,methodCall,if_neg (by rw [interface]; exact Bool.false_ne_true)]
      exact value?_op _ _ _ _

theorem valueTest_tells (shaped : value.shape.isSome = true) {pattern : Emission}
    (expression : operations.IsExpression slot.switchSlot pattern) {equalityOperator : Option OperatorSymbol}
    (binary : ∀ method ∈ equalityOperator, operations.isBinaryCall (methodCall method) = true) :
    operations.Tells slot value (slot.valueTest pattern equalityOperator)
      (operations.valueOutcome slot.switchSlot pattern equalityOperator value) := by
  intro data stored
  cases equalityOperator with
  | none =>
    have loaded := operations.value?_load slot shaped stored
    simp only [value?_execTest,SwitchSlot.valueTest,SwitchSlot.load,Emission.all,List.foldr,value?_seq,value?_skip,value?_evalPush,
      value?_evalPop,loaded,expression _,valueOutcome,Option.bind_some,Option.bind_assoc]
    cases operations.evaluate slot.switchSlot pattern (operations.pushed value data.stack.rest) with
    | none => rfl
    | some found => exact operations.compareEqual_tells slot data found.1 found.2
  | some method =>
    simp only [value?_execTest,SwitchSlot.valueTest,Emission.all,List.foldr,value?_seq,value?_skip,expression _,valueOutcome,
      Option.bind_some,Option.bind_assoc]
    cases operations.evaluate slot.switchSlot pattern data.stack.rest with
    | none => rfl
    | some found =>
      let evaluated : SwitchData Shape Rest := { data with stack := ⟨found.1 :: data.stack.entries,found.2⟩ }
      have loaded := @value?_load _ _ _ _ operations slot _ shaped evaluated stored
      have called := @value?_emitMethodCall _ _ _ _ operations slot value _ (binary method rfl) data found.1
        (operations.pushed value found.2)
      simp only [Option.map_some,Option.bind_some]
      rw [loaded,Option.bind_some,called,completed_push]

variable {Body : Type}

/-- A section of the emitted code, and what there is to try of its clause. -/
inductive Tries (value : StackEntry Shape) : Section Body → Trial Rest → Prop
  | skipped : Tries value .skipped .skipped
  | reported (message : String) : Tries value (.reported message) .skipped
  | untested (body : Body) : Tries value (.untested body) .untested
  | tested {test : Emission} {outcome : Rest → Option (Outcome × Rest)} (bind : Emission) (body : Body)
      (tells : operations.Tells slot value test outcome) : Tries value (.tested test bind body) (.tested outcome)

theorem dispatch_trials {sections : List (Section Body)} {trials : List (Trial Rest)}
    (tries : List.Forall₂ (operations.Tries slot value) sections trials) (index : Nat) {data : SwitchData Shape Rest}
    (stored : data.slot = value) :
    (dispatch (operations.machine slot.switchSlot) sections index data).value? =
      (Trial.dispatch trials index data.stack.rest).map fun result =>
        (result.1,{ data with stack := ⟨data.stack.entries,result.2⟩ }) := by
  induction tries generalizing index data with
  | nil => rfl
  | cons first _ ih =>
    cases first with
    | skipped | reported => exact ih (index + 1) stored
    | untested => rfl
    | tested bind body tells =>
      rw [Source.dispatch,Trial.dispatch,Progress.value?_bind,tells data stored]
      rename_i test outcome
      cases outcome data.stack.rest with
      | none => rfl
      | some result =>
        obtain ⟨result,after⟩ := result
        by_cases agrees : result = .agrees
        · simp [agrees]
        · have rest := @ih (index + 1) { data with stack := ⟨data.stack.entries,after⟩ } stored
          simpa [agrees] using rest

theorem clauseSection_tries (shaped : value.shape.isSome = true) {clause : Option SwitchCaseClause}
    (isClause : operations.IsClause slot.switchSlot clause) :
    operations.Tries slot value (slot.clauseSection clause) (operations.clauseTrial slot.switchSlot value clause) := by
  obtain ⟨pattern_,equality⟩ := isClause
  rcases clause with _ | ⟨pattern,body,equalityOperator⟩
  · exact .skipped
  rcases body with _ | body
  · exact .skipped
  rcases pattern with _ | ⟨targetType,symbol⟩ | ⟨pattern,discards⟩
  · exact .untested body
  · cases targetType with
    | none => exact .skipped
    | some targetType => exact .tested _ body (operations.typeTest_tells slot shaped targetType)
  · exact .tested _ body (operations.valueTest_tells slot shaped (pattern_ _ rfl pattern discards rfl) (equality _ rfl))

theorem armSection_tries (shaped : value.shape.isSome = true) (arm : Option SwitchArm) :
    operations.Tries slot value (slot.armSection arm) (operations.armTrial value arm) := by
  rcases arm with _ | ⟨pattern,expression⟩
  · exact .skipped
  rcases pattern with _ | ⟨targetType,symbol⟩ | ⟨pattern,discards⟩
  · exact .skipped
  · rcases expression with _ | expression
    · cases targetType <;> exact .skipped
    · cases targetType with
      | none => exact .skipped
      | some targetType => exact .tested _ expression (operations.typeTest_tells slot shaped targetType)
  · rcases expression with _ | expression
    · cases discards <;> exact .skipped
    · cases discards with
      | true => exact .untested expression
      | false => exact .reported _

end Tests

section Dispatching

variable (slot : SwitchSlot) (expression : Emission) {Body : Type} (sections : List (Section Body))
  (trials : StackEntry Shape → List (Trial Rest)) (data : SwitchData Shape Rest)

/-- The clause that is prescribed for the value that the scrutinee has. -/
def prescribed : Option (Option Nat) :=
  (operations.evaluate slot.switchSlot expression data.stack.rest).bind fun found =>
    (Trial.select (trials (held operations data.slot found.1)) 0 (operations.stored data.slot found.1 found.2)).map Prod.fst

structure Dispatches : Prop where
  /-- The scrutinee runs once: whatever stands in its place, the rest is the same. -/
  evaluated : ∃ rest, ∀ other : Emission, emittedSwitch (operations.machine slot.switchSlot) (slot.store other) sections data =
    (execEmission (operations.machine slot.switchSlot) other data).bind rest
  chosen : (emittedSwitch (operations.machine slot.switchSlot) (slot.store expression) sections data).value?.map Prod.fst =
    operations.prescribed slot expression trials data

structure Orderly : Prop where
  nonempty : sections ≠ []
  settled : ∀ found ∈ operations.evaluate slot.switchSlot expression data.stack.rest,
    Trial.Settled (trials (held operations data.slot found.1)) (operations.stored data.slot found.1 found.2)

def Fits : Prop :=
  ∀ found ∈ operations.evaluate slot.switchSlot expression data.stack.rest, operations.fits data.slot found.1 = true

omit [DecidableEq Shape] in
theorem held_shape {old value : StackEntry Shape} (fits : operations.fits old value = true) :
    (operations.held old value).shape.isSome = true := by
  unfold Switching.fits at fits
  cases shape : value.shape with
  | some => simp [held,shape]
  | none =>
    rw [shape] at fits
    cases old_ : old.shape with
    | none => simp [old_] at fits
    | some => simp [held,shape,old_]

variable {slot} {expression} {sections} {trials} {data}

theorem value?_store (scrutinized : operations.IsExpression slot.switchSlot expression)
    (fits : operations.Fits slot expression data) :
    (execEmission (operations.machine slot.switchSlot) (slot.store expression) data).value? =
      (operations.evaluate slot.switchSlot expression data.stack.rest).map fun found =>
        ⟨⟨data.stack.entries,operations.stored data.slot found.1 found.2⟩,operations.held data.slot found.1⟩ := by
  simp only [SwitchSlot.store,Emission.all,List.foldr,value?_seq,value?_skip,value?_evalPop,scrutinized data]
  cases evaluated : operations.evaluate slot.switchSlot expression data.stack.rest with
  | none => rfl
  | some found =>
    have placed := fits found evaluated
    have stored : (execEmission (operations.machine slot.switchSlot) (.op (.storeLocal slot.switchSlot))
        { data with stack := ⟨found.1 :: data.stack.entries,found.2⟩ }).value? =
          some ⟨⟨data.stack.entries,operations.stored data.slot found.1 found.2⟩,operations.held data.slot found.1⟩ :=
      (value?_op _ _ _ _).trans (congrArg completed ((if_pos rfl).trans (if_pos placed)))
    simp only [Option.map_some,Option.bind_some,stored]

theorem chosen_eq (scrutinized : operations.IsExpression slot.switchSlot expression)
    (fits : operations.Fits slot expression data)
    (tries : ∀ value : StackEntry Shape, value.shape.isSome = true → List.Forall₂ (operations.Tries slot value) sections (trials value))
    (nonempty : sections ≠ []) :
    (emittedSwitch (operations.machine slot.switchSlot) (slot.store expression) sections data).value?.map Prod.fst =
      (operations.evaluate slot.switchSlot expression data.stack.rest).bind fun found =>
        (Trial.dispatch (trials (operations.held data.slot found.1)) 0 (operations.stored data.slot found.1 found.2)).map Prod.fst := by
  rw [emittedSwitch,if_neg (by simpa using nonempty),Progress.value?_bind,operations.value?_store scrutinized fits]
  cases evaluated : operations.evaluate slot.switchSlot expression data.stack.rest with
  | none => rfl
  | some found =>
    have shaped := operations.held_shape (fits found evaluated)
    simp only [Option.map_some,Option.bind_some]
    rw [operations.dispatch_trials slot (tries _ shaped) 0 rfl,Option.map_map]
    rfl

theorem dispatches_iff (scrutinized : operations.IsExpression slot.switchSlot expression)
    (fits : operations.Fits slot expression data)
    (tries : ∀ value : StackEntry Shape, value.shape.isSome = true → List.Forall₂ (operations.Tries slot value) sections (trials value)) :
    operations.Dispatches slot expression sections trials data ↔ operations.Orderly slot expression sections trials data := by
  by_cases nonempty : sections = []
  · subst nonempty
    refine ⟨fun ⟨⟨rest,runs⟩,_⟩ => ?_,fun orderly => absurd rfl orderly.nonempty⟩
    exact absurd (runs (.op .pop)).symm (op_bind_ne _ _ _ data rest _)
  · have chosen := operations.chosen_eq scrutinized fits tries nonempty
    have evaluated : ∃ rest, ∀ other : Emission, emittedSwitch (operations.machine slot.switchSlot) (slot.store other) sections data =
        (execEmission (operations.machine slot.switchSlot) other data).bind rest := by
      refine ⟨fun next => (execEmission (operations.machine slot.switchSlot)
        (.all [.op (.storeLocal slot.switchSlot),.evalPop 1]) next).bind
          (dispatch (operations.machine slot.switchSlot) sections 0),fun other => ?_⟩
      rw [emittedSwitch,if_neg (by simpa using nonempty)]
      exact Progress.bind_assoc _ _ _
    rw [show operations.Dispatches slot expression sections trials data ↔ _ from
      ⟨Dispatches.chosen,fun h => ⟨evaluated,h⟩⟩,chosen,prescribed]
    cases found : operations.evaluate slot.switchSlot expression data.stack.rest with
    | none => simpa using ⟨nonempty,fun _ h => absurd (found.symm.trans h) (Option.some_ne_none _).symm⟩
    | some value =>
      rw [Option.bind_some,Option.bind_some,Trial.dispatch_select_iff]
      refine ⟨fun settled => ⟨nonempty,fun other h => ?_⟩,fun orderly => orderly.settled value found⟩
      cases found.symm.trans h
      exact settled

end Dispatching
end Switching

variable {Shape Rest Exception : Type} [DecidableEq Shape]

inductive LiteralShape where
  | boolean | integer | string
  deriving DecidableEq

/-- Integers, and strings that are null. -/
def literals : Switching LiteralShape Unit Unit where
  isReferenceType shape := shape = .string
  size _ := 8
  isAssignableTo _ _ := false
  boolean := .boolean
  stored _ _ rest := rest
  pushed _ rest := rest
  discarded _ rest := rest
  executeBinary left right rest := .ok (⟨some .boolean,(left.payload == right.payload).toNat⟩,rest)
  isBinaryCall _ := false
  invokeMethod _ _ _ _ := .fault
  corrupted _ := .fault
  others := { DataMachine.idle () with
    execute := fun instruction stack => match instruction with
      | .loadConstInt64 value => .ok { stack with entries := ⟨some .integer,value.toBitVec.toNat⟩ :: stack.entries }
      | .loadConstNull => .ok { stack with entries := ⟨none,0⟩ :: stack.entries }
      | .loadLocal _ => .ok { stack with entries := ⟨some .string,0⟩ :: stack.entries }
      | _ => .fault }

def caseOf (pattern : Emission) : SwitchCaseClause := ⟨some (.expression pattern false),some .empty,none⟩

def emptyDefault : SwitchCaseClause := ⟨none,some .empty,none⟩

def untouched : SwitchData LiteralShape Unit := ⟨⟨[],()⟩,⟨none,0⟩⟩

end ShardScript.Source
