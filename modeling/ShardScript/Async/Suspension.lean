import ShardScript.Async.MoveNext
import ShardScript.Source.Execution
import Mathlib.Logic.Function.Basic

/-! The variables of a method around a suspension: what is saved before the awaited expression is
evaluated is what is restored. -/
namespace ShardScript.Async
open Syntax ByteCode ShardScript.Runtime
open Emitter (Emission)
open Source (execEmission Progress)

structure Memory (Value : Type) where
  slots : UInt16 → Value
  fields : UInt32 → Value
  stack : List Value

namespace Memory

variable {Value : Type}

def push (value : Value) (memory : Memory Value) : Memory Value :=
  { memory with stack := value :: memory.stack }

def setSlot (slot : UInt16) (value : Value) (memory : Memory Value) : Memory Value :=
  { memory with slots := Function.update memory.slots slot value }

def setField (field : UInt32) (value : Value) (memory : Memory Value) : Memory Value :=
  { memory with fields := Function.update memory.fields field value }

end Memory

structure Keeps {Value : Type} (slots : List UInt16) (fields : List UInt32)
    (memory after : Memory Value) : Prop where
  slots : ∀ slot ∉ slots, after.slots slot = memory.slots slot
  fields : ∀ field ∉ fields, after.fields field = memory.fields field

namespace Keeps

variable {Value : Type} {slots slots' : List UInt16} {fields fields' : List UInt32}
  {memory middle after : Memory Value}

theorem refl : Keeps slots fields memory memory := ⟨fun _ _ => rfl,fun _ _ => rfl⟩

theorem trans (one : Keeps slots fields memory middle) (two : Keeps slots' fields' middle after) :
    Keeps (slots ++ slots') (fields ++ fields') memory after := by
  constructor
  · intro slot apart
    rw [List.mem_append,not_or] at apart
    exact (two.slots slot apart.2).trans (one.slots slot apart.1)
  · intro field apart
    rw [List.mem_append,not_or] at apart
    exact (two.fields field apart.2).trans (one.fields field apart.1)

theorem mono (one : Keeps slots fields memory after) (more : slots ⊆ slots') (more' : fields ⊆ fields') :
    Keeps slots' fields' memory after :=
  ⟨fun slot apart => one.slots slot fun member => apart (more member),
    fun field apart => one.fields field fun member => apart (more' member)⟩

end Keeps

def Part.isControl : Part → Bool
  | enterTry _ | leaveTry | defer _ => true
  | _ => false

/-- The rest of the virtual machine. What it does leaves the slots of the frame alone, and the fields
of the state machine, which no source text can name. -/
structure Host (Value Exception : Type) where
  base : DataMachine (Memory Value) Exception
  self : Value
  null : Value
  truth : Value → Bool
  reference : Option Exception → Value
  exception : Value → Option Exception
  keeps : ∀ instruction memory after, base.execute instruction memory = .ok after →
    after.slots = memory.slots ∧ after.fields = memory.fields

variable {Value Exception : Type} [DecidableEq Value] (host : Host Value Exception)

namespace Host

def execute (instruction : Instruction) (memory : Memory Value) : Effect (Memory Value) Exception :=
  match instruction,memory.stack with
  | .loadLocal index,_ => .ok (memory.push (memory.slots index))
  | .storeLocal index,value :: stack => .ok ({ memory with stack := stack }.setSlot index value)
  | .loadField slot,object :: stack =>
      if object = host.self then .ok ({ memory with stack := stack }.push (memory.fields slot))
      else host.base.execute instruction memory
  | .storeField slot,value :: object :: stack =>
      if object = host.self then .ok ({ memory with stack := stack }.setField slot value)
      else host.base.execute instruction memory
  | .loadConstNull,_ => .ok (memory.push host.null)
  | .pop,_ :: stack => .ok { memory with stack := stack }
  | _,_ => host.base.execute instruction memory

def popTruth (memory : Memory Value) : Option (Bool × Memory Value) :=
  match memory.stack with
  | [] => none
  | value :: stack => some (host.truth value,{ memory with stack := stack })

def machine : DataMachine (Memory Value) Exception :=
  { host.base with execute := host.execute, popTruth := host.popTruth }

end Host

def Runs (emission : Emission) (memory after : Memory Value) : Prop :=
  ∃ trace, execEmission host.machine emission memory = .value after trace

/-- What a part does to the memory and to the exception being handled, if the awaiter is not
completed. -/
def RunPart : Part → Memory Value → Option Exception → Memory Value → Option Exception → Prop
  | .emission visited,memory,exception,after,exception' =>
      Runs host visited memory after ∧ exception' = exception
  | .jumpTrue,memory,exception,after,exception' =>
      host.popTruth memory = some (false,after) ∧ exception' = exception
  | .loadCurrentException,memory,exception,after,exception' =>
      after = memory.push (host.reference exception) ∧ exception' = exception
  | .storeCurrentException,memory,_,after,exception' => ∃ value stack, memory.stack = value :: stack ∧
      after = { memory with stack := stack } ∧ exception' = host.exception value
  | .enterTry _,memory,exception,after,exception' | .leaveTry,memory,exception,after,exception'
  | .defer _,memory,exception,after,exception' => after = memory ∧ exception' = exception

def RunAll : List Part → Memory Value → Option Exception → Memory Value → Option Exception → Prop
  | [],memory,exception,after,exception' => after = memory ∧ exception' = exception
  | part :: parts,memory,exception,after,exception' =>
      ∃ middle middle', RunPart host part memory exception middle middle' ∧
        RunAll parts middle middle' after exception'

section Runs

variable {host} {memory after : Memory Value}

theorem runs_seq {first second : Emission} :
    Runs host (.seq first second) memory after ↔
      ∃ middle, Runs host first memory middle ∧ Runs host second middle after := by
  unfold Runs
  rw [execEmission]
  cases execEmission host.machine first memory with
  | value middle trace =>
    simp only [Progress.bind]
    cases last : execEmission host.machine second middle <;> simp [Progress.after,last]
  | timeout | stopped => simp [Progress.bind]

theorem runs_skip : Runs host .skip memory after ↔ after = memory := by
  simp [Runs,execEmission,eq_comm]

theorem runs_evalPush {payload : Nat} : Runs host (.evalPush payload) memory after ↔ after = memory := by
  simp [Runs,execEmission,eq_comm]

theorem runs_evalPop {count : Nat} : Runs host (.evalPop count) memory after ↔ after = memory := by
  simp [Runs,execEmission,eq_comm]

theorem runs_op {instruction : Instruction} {data : instruction.isData = true} :
    Runs host (.op instruction data) memory after ↔ host.execute instruction memory = .ok after := by
  unfold Runs
  rw [execEmission]
  rw [show host.machine.execute instruction memory = host.execute instruction memory from rfl]
  cases host.execute instruction memory <;> simp

end Runs

@[grind] def storedSlots : Emission → List UInt16
  | .op (.storeLocal slot) _ => [slot]
  | .seq first second | .always first second => storedSlots first ++ storedSlots second
  | .branch condition whenTrue whenFalse =>
      storedSlots condition ++ storedSlots whenTrue ++ storedSlots whenFalse
  | _ => []

@[grind] def storedFields : Emission → List UInt32
  | .op (.storeField field) _ => [field]
  | .seq first second | .always first second => storedFields first ++ storedFields second
  | .branch condition whenTrue whenFalse =>
      storedFields condition ++ storedFields whenTrue ++ storedFields whenFalse
  | _ => []

theorem storedFields_save (vars : List Lifted) :
    storedFields (.all (vars.map saveVariable)) = vars.map Lifted.field := by
  induction vars with
  | nil => rfl
  | cons first others ih => exact congrArg (first.field :: ·) ih

theorem storedSlots_restore (vars : List Lifted) :
    storedSlots (.all (vars.map restoreVariable)) = vars.map Lifted.moveNextSlot := by
  induction vars with
  | nil => rfl
  | cons first others ih => exact congrArg (first.moveNextSlot :: ·) ih

theorem storedFields_restore (vars : List Lifted) :
    storedFields (.all (vars.map restoreVariable)) = [] := by
  induction vars with
  | nil => rfl
  | cons first others ih => exact ih

theorem Host.execute_keeps {instruction : Instruction} {data : instruction.isData = true}
    {memory after : Memory Value} (ran : host.execute instruction memory = .ok after) :
    Keeps (storedSlots (.op instruction data)) (storedFields (.op instruction data)) memory after := by
  have outside (same : host.base.execute instruction memory = .ok after) :
      Keeps (storedSlots (.op instruction data)) (storedFields (.op instruction data)) memory after :=
    ⟨fun slot _ => congrFun (host.keeps _ _ _ same).1 slot,fun field _ => congrFun (host.keeps _ _ _ same).2 field⟩
  rcases memory with ⟨slots,fields,stack⟩
  cases instruction with
  | loadLocal index | loadConstNull =>
    cases ran
    exact ⟨fun _ _ => rfl,fun _ _ => rfl⟩
  | pop =>
    cases stack with
    | nil => exact outside ran
    | cons value stack =>
      cases ran
      exact ⟨fun _ _ => rfl,fun _ _ => rfl⟩
  | storeLocal index =>
    cases stack with
    | nil => exact outside ran
    | cons value stack =>
      cases ran
      exact ⟨fun slot apart => Function.update_of_ne (List.ne_of_not_mem_cons apart) _ _,fun _ _ => rfl⟩
  | loadField index =>
    cases stack with
    | nil => exact outside ran
    | cons object stack =>
      by_cases own : object = host.self
      · cases ran.symm.trans (if_pos own)
        exact ⟨fun _ _ => rfl,fun _ _ => rfl⟩
      · exact outside ((if_neg own).symm.trans ran)
  | storeField index =>
    rcases stack with _ | ⟨value,_ | ⟨object,stack⟩⟩
    · exact outside ran
    · exact outside ran
    · by_cases own : object = host.self
      · cases ran.symm.trans (if_pos own)
        exact ⟨fun _ _ => rfl,fun field apart => Function.update_of_ne (List.ne_of_not_mem_cons apart) _ _⟩
      · exact outside ((if_neg own).symm.trans ran)
  | _ => exact outside ran

omit [DecidableEq Value] in
theorem Host.popTruth_keeps {memory after : Memory Value} {truth : Bool}
    (popped : host.popTruth memory = some (truth,after)) :
    after.slots = memory.slots ∧ after.fields = memory.fields := by
  unfold Host.popTruth at popped
  split at popped
  · cases popped
  · cases popped
    exact ⟨rfl,rfl⟩

theorem runs_branch {condition whenTrue whenFalse : Emission} {memory after : Memory Value}
    (ran : Runs host (.branch condition whenTrue whenFalse) memory after) :
    ∃ tested popped truth, Runs host condition memory tested ∧
      host.popTruth tested = some (truth,popped) ∧
        Runs host (if truth then whenTrue else whenFalse) popped after := by
  rcases ran with ⟨trace,ran⟩
  rw [execEmission] at ran
  cases tested : execEmission host.machine condition memory with
  | value middle early =>
    rw [tested,Progress.bind,show host.machine.popTruth middle = host.popTruth middle from rfl] at ran
    cases popped : host.popTruth middle with
    | none => simp [popped,Progress.after] at ran
    | some result =>
      rcases result with ⟨truth,popped_⟩
      refine ⟨middle,popped_,truth,⟨early,tested⟩,popped,?_⟩
      rw [popped] at ran
      cases truth with
      | true =>
        cases last : execEmission host.machine whenTrue popped_ with
        | value result late =>
          simp only [last,Progress.after,Progress.value.injEq] at ran
          exact ⟨late,by rw [← ran.1]; exact last⟩
        | timeout | stopped => simp [last,Progress.after] at ran
      | false =>
        cases last : execEmission host.machine whenFalse popped_ with
        | value result late =>
          simp only [last,Progress.after,Progress.value.injEq] at ran
          exact ⟨late,by rw [← ran.1]; exact last⟩
        | timeout | stopped => simp [last,Progress.after] at ran
  | timeout | stopped => simp [tested,Progress.bind] at ran

theorem runs_keeps (emission : Emission) {memory after : Memory Value}
    (ran : Runs host emission memory after) :
    Keeps (storedSlots emission) (storedFields emission) memory after := by
  induction emission generalizing memory after with
  | skip =>
    rw [runs_skip] at ran
    rw [ran]
    exact .refl
  | op instruction data => exact host.execute_keeps (runs_op.1 ran)
  | evalPush payload =>
    rw [runs_evalPush] at ran
    rw [ran]
    exact .refl
  | evalPop count =>
    rw [runs_evalPop] at ran
    rw [ran]
    exact .refl
  | seq first second ihFirst ihSecond =>
    rcases runs_seq.1 ran with ⟨middle,one,two⟩
    exact (ihFirst one).trans (ihSecond two)
  | branch condition whenTrue whenFalse ihCondition ihTrue ihFalse =>
    rcases runs_branch host ran with ⟨tested,popped,truth,one,pop,two⟩
    have same := host.popTruth_keeps pop
    have kept : Keeps (storedSlots condition) (storedFields condition) memory popped :=
      ⟨fun slot apart => (congrFun same.1 slot).trans ((ihCondition one).slots slot apart),
        fun field apart => (congrFun same.2 field).trans ((ihCondition one).fields field apart)⟩
    cases truth with
    | true =>
      refine (kept.trans (ihTrue two)).mono ?_ ?_ <;> exact List.subset_append_left _ _
    | false =>
      refine (kept.trans (ihFalse two)).mono ?_ ?_ <;> simp [storedSlots,storedFields]
  | always arm rest ihArm ihRest =>
    exact (ihArm ran).mono (List.subset_append_left _ _) (List.subset_append_left _ _)

section Variables

variable {host} {memory after : Memory Value} {slot : UInt16}

theorem runs_opLoadLocal :
    Runs host (.op (.loadLocal slot)) memory after ↔ after = memory.push (memory.slots slot) := by
  have executed : host.execute (.loadLocal slot) memory = .ok (memory.push (memory.slots slot)) := rfl
  refine runs_op.trans ?_
  rw [executed,Effect.ok.injEq,eq_comm]

variable {value : Value}

theorem runs_opStoreLocal :
    Runs host (.op (.storeLocal slot)) (memory.push value) after ↔ after = memory.setSlot slot value := by
  have executed : host.execute (.storeLocal slot) (memory.push value) = .ok (memory.setSlot slot value) := rfl
  refine runs_op.trans ?_
  rw [executed,Effect.ok.injEq,eq_comm]

variable {field : UInt32}

theorem runs_opLoadField :
    Runs host (.op (.loadField field)) (memory.push host.self) after ↔
      after = memory.push (memory.fields field) := by
  have executed : host.execute (.loadField field) (memory.push host.self) =
      .ok (memory.push (memory.fields field)) := if_pos rfl
  refine runs_op.trans ?_
  rw [executed,Effect.ok.injEq,eq_comm]

theorem runs_opStoreField :
    Runs host (.op (.storeField field)) ((memory.push host.self).push value) after ↔
      after = memory.setField field value := by
  have executed : host.execute (.storeField field) ((memory.push host.self).push value) =
      .ok (memory.setField field value) := if_pos rfl
  refine runs_op.trans ?_
  rw [executed,Effect.ok.injEq,eq_comm]

theorem runs_storeTop :
    Runs host (.all [.evalPush reference,.op (.storeField field),.evalPop 2])
      ((memory.push host.self).push value) after ↔ after = memory.setField field value := by
  simp only [Emission.all,List.foldr_cons,List.foldr_nil,runs_seq,runs_evalPush,runs_evalPop,runs_skip,
    exists_eq_left,exists_eq_right']
  exact runs_opStoreField

theorem runs_loadThis (own : memory.slots 0 = host.self) :
    Runs host loadThis memory after ↔ after = memory.push host.self := by
  simp [loadThis,runs_seq,runs_opLoadLocal,runs_evalPush,own]

variable {payload : Nat}

theorem runs_loadLocal :
    Runs host (loadLocal slot payload) memory after ↔ after = memory.push (memory.slots slot) := by
  simp [loadLocal,runs_seq,runs_opLoadLocal,runs_evalPush]

theorem runs_loadOwnField (own : memory.slots 0 = host.self) :
    Runs host (loadOwnField field payload) memory after ↔ after = memory.push (memory.fields field) := by
  simp [loadOwnField,Emission.all,runs_seq,runs_evalPush,runs_evalPop,runs_skip,runs_loadThis own,
    runs_opLoadField]

theorem runs_storeLocal :
    Runs host (storeLocal slot) (memory.push value) after ↔ after = memory.setSlot slot value := by
  simp [storeLocal,runs_seq,runs_opStoreLocal,runs_evalPop]

theorem runs_storeAndLoad :
    Runs host (.all [storeLocal slot,loadLocal slot payload]) (memory.push value) after ↔
      after = (memory.setSlot slot value).push value := by
  simp [Emission.all,runs_seq,runs_storeLocal,runs_loadLocal,runs_skip,Memory.setSlot]

theorem runs_restoreVariable (own : memory.slots 0 = host.self) {lifted : Lifted} :
    Runs host (restoreVariable lifted) memory after ↔
      after = memory.setSlot lifted.moveNextSlot (memory.fields lifted.field) := by
  simp [restoreVariable,runs_seq,runs_loadOwnField own,runs_storeLocal]

theorem runs_saveVariable (own : memory.slots 0 = host.self) {lifted : Lifted} :
    Runs host (saveVariable lifted) memory after ↔
      after = memory.setField lifted.field (memory.slots lifted.moveNextSlot) := by
  simp only [saveVariable,storeOwnField,Emission.all,List.foldr_cons,List.foldr_nil,runs_seq,runs_evalPop,
    runs_skip,runs_loadThis own,runs_loadLocal,exists_eq_left,exists_eq_right']
  exact runs_opStoreField

theorem runs_save {vars : List Lifted} (own : memory.slots 0 = host.self)
    (apart : (vars.map Lifted.field).Nodup)
    (ran : Runs host (.all (vars.map saveVariable)) memory after) :
    after.slots = memory.slots ∧
      ∀ lifted ∈ vars, after.fields lifted.field = memory.slots lifted.moveNextSlot := by
  induction vars generalizing memory with
  | nil =>
    rw [List.map_nil,Emission.all,List.foldr_nil,runs_skip] at ran
    exact ⟨by rw [ran],by simp⟩
  | cons first others ih =>
    rcases runs_seq.1 ran with ⟨middle,one,rest⟩
    replace rest : Runs host (.all (others.map saveVariable)) middle after := rest
    rw [runs_saveVariable own] at one
    have slots : middle.slots = memory.slots := by rw [one]; rfl
    rw [List.map_cons,List.nodup_cons] at apart
    have saved := ih (by rw [slots]; exact own) apart.2 rest
    refine ⟨saved.1.trans slots,?_⟩
    intro lifted member
    rcases List.mem_cons.1 member with rfl | member
    · have kept := (runs_keeps host _ rest).fields lifted.field (by rw [storedFields_save]; exact apart.1)
      rw [kept,one]
      exact Function.update_self _ _ _
    · rw [saved.2 lifted member,slots]

theorem runs_restore {vars : List Lifted} (own : memory.slots 0 = host.self)
    (apart : (vars.map Lifted.moveNextSlot).Nodup)
    (notReceiver : ∀ lifted ∈ vars, lifted.moveNextSlot ≠ 0)
    (ran : Runs host (.all (vars.map restoreVariable)) memory after) :
    ∀ lifted ∈ vars, after.slots lifted.moveNextSlot = memory.fields lifted.field := by
  induction vars generalizing memory with
  | nil => simp
  | cons first others ih =>
    rcases runs_seq.1 ran with ⟨middle,one,rest⟩
    replace rest : Runs host (.all (others.map restoreVariable)) middle after := rest
    rw [runs_restoreVariable own] at one
    rw [List.map_cons,List.nodup_cons] at apart
    have receiver : middle.slots 0 = host.self := by
      rw [one,← own]
      exact Function.update_of_ne (notReceiver first (by simp)).symm _ _
    have restored := ih receiver apart.2 (fun lifted member => notReceiver lifted (by simp [member])) rest
    intro lifted member
    rcases List.mem_cons.1 member with rfl | member
    · have kept := (runs_keeps host _ rest).slots lifted.moveNextSlot (by rw [storedSlots_restore]; exact apart.1)
      rw [kept,one]
      exact Function.update_self _ _ _
    · rw [restored lifted member,one]
      rfl

theorem runs_deterministic {emission : Emission} {other : Memory Value}
    (one : Runs host emission memory after) (two : Runs host emission memory other) : after = other := by
  rcases one with ⟨trace,one⟩
  rcases two with ⟨trace',two⟩
  rw [one] at two
  cases two
  rfl

variable {info : AsyncMethodInfo} {slots : AwaitSlots} {exception exception' : Option Exception}

theorem runAll_append {first second : List Part} :
    RunAll host (first ++ second) memory exception after exception' ↔
      ∃ middle middle', RunAll host first memory exception middle middle' ∧
        RunAll host second middle middle' after exception' := by
  induction first generalizing memory exception with
  | nil => simp [RunAll]
  | cons part parts ih =>
    constructor
    · rintro ⟨next,next',one,rest⟩
      rcases ih.1 rest with ⟨middle,middle',others,behind⟩
      exact ⟨middle,middle',⟨next,next',one,others⟩,behind⟩
    · rintro ⟨middle,middle',⟨next,next',one,others⟩,behind⟩
      exact ⟨next,next',one,ih.2 ⟨middle,middle',others,behind⟩⟩

theorem runAll_saveException (own : memory.slots 0 = host.self)
    (ran : RunAll host (saveException info slots) memory exception after exception') :
    after.slots = memory.slots ∧
      (∀ field, info.currentExceptionField ≠ some field → after.fields field = memory.fields field) ∧
      ∀ field, info.currentExceptionField = some field → slots.enclosingCatch.isSome = true →
        after.fields field = host.reference exception := by
  unfold saveException at ran
  split at ran
  · rename_i field variable_ known caught
    rcases ran with ⟨loaded,_,⟨load,rfl⟩,pushed,_,⟨push,rfl⟩,stored,_,⟨store,rfl⟩,last,_⟩
    rw [runs_loadThis own] at load
    rw [push,load,runs_storeTop] at store
    rw [last,store]
    refine ⟨rfl,fun other different => ?_,fun other same _ => ?_⟩
    · exact Function.update_of_ne (fun same => different (by rw [known,same])) _ _
    · rw [known] at same
      cases same
      exact Function.update_self _ _ _
  · rename_i none_
    rcases ran with ⟨rfl,rfl⟩
    refine ⟨rfl,fun _ _ => rfl,fun field known caught => ?_⟩
    rcases Option.isSome_iff_exists.1 caught with ⟨variable_,caught⟩
    exact absurd caught (none_ field variable_ known)

theorem runAll_restoreException (own : memory.slots 0 = host.self)
    (ran : RunAll host (restoreException info slots) memory exception after exception') :
    (∀ slot, ¬ (info.currentExceptionField.isSome = true ∧ slots.enclosingCatch = some (some slot)) →
        after.slots slot = memory.slots slot) ∧
      ∀ field slot, info.currentExceptionField = some field → slots.enclosingCatch = some (some slot) →
        after.slots slot = memory.fields field := by
  unfold restoreException at ran
  split at ran
  · rename_i field variable_ known caught
    rcases ran with ⟨loaded,_,⟨load,rfl⟩,stored,_,⟨store,rfl⟩,popped,_,⟨value,stack,_,pop,rfl⟩,tracked,_,
      ⟨track,rfl⟩,last,_⟩
    rw [runs_evalPop] at track
    rw [runs_loadOwnField own] at load
    have kept : after.slots = stored.slots := by rw [last,track,pop]
    rw [load] at store
    cases variable_ with
    | none =>
      rw [runs_skip] at store
      refine ⟨fun slot _ => ?_,fun _ slot _ some_ => ?_⟩
      · rw [kept,store]
        rfl
      · simp [caught] at some_
    | some slot =>
      rw [runs_storeAndLoad] at store
      refine ⟨fun other different => ?_,fun other same field_ caught_ => ?_⟩
      · rw [kept,store]
        refine Function.update_of_ne (fun same => different ?_) _ _
        rw [known,caught,same]
        exact ⟨rfl,rfl⟩
      · rw [known] at field_
        rw [caught] at caught_
        cases field_
        cases caught_
        rw [kept,store]
        exact Function.update_self _ _ _
  · rename_i none_
    rcases ran with ⟨rfl,rfl⟩
    exact ⟨fun _ _ => rfl,fun field slot known caught => absurd caught (none_ field _ known)⟩

theorem runAll_control {parts : List Part} (control : ∀ part ∈ parts, part.isControl = true)
    (ran : RunAll host parts memory exception after exception') : after = memory ∧ exception' = exception := by
  induction parts generalizing memory exception with
  | nil => exact ran
  | cons part parts ih =>
    rcases ran with ⟨middle,middle',one,rest⟩
    have others := ih (fun other member => control other (by simp [member])) rest
    have own := control part (by simp)
    cases part with
    | enterTry | leaveTry | defer => exact ⟨others.1.trans one.1,others.2.trans one.2⟩
    | emission | jumpTrue | loadCurrentException | storeCurrentException => simp [Part.isControl] at own

/-- What an await gives back to a slot when it is resumed: the exception being handled, the value from
before the awaited expression was evaluated, or what a new frame starts with. -/
def carried (host : Host Value Exception) (info : AsyncMethodInfo) (slots : AwaitSlots)
    (before start : Memory Value) (exception : Option Exception) (slot : UInt16) : Value :=
  if info.currentExceptionField.isSome = true ∧ slots.enclosingCatch = some (some slot) then
    host.reference exception
  else if slot ∈ info.lifted.map Lifted.moveNextSlot then before.slots slot
  else start.slots slot

def Generated (slots : AwaitSlots) (slot : UInt16) : Prop :=
  slot = slots.tempAwaitable ∨ slot = slots.tempAwaiter ∨ slots.resultVariable = some slot

variable {expression : AwaitExpression} {before saved evaluated suspended start : Memory Value} {index : Nat}

@[simp] theorem storedSlots_emitMethodCall (callee : Callee) : storedSlots (emitMethodCall callee) = [] := by
  unfold emitMethodCall trackMethodCall
  split <;> split <;> rfl

@[simp] theorem storedFields_emitMethodCall (callee : Callee) : storedFields (emitMethodCall callee) = [] := by
  unfold emitMethodCall trackMethodCall
  split <;> split <;> rfl

theorem storedSlots_askAwaiter (member : slot ∈ storedSlots (askAwaiter expression slots)) :
    Generated slots slot := by
  have temporary : slot = slots.tempAwaitable ∨ slot = slots.tempAwaiter := by
    unfold askAwaiter getAwaiter at member
    split at member <;>
      simpa [Emission.all,storedSlots,loadLocal,storeLocal,storeOwnField,loadOwnField,loadThis,or_assoc,
        or_comm,or_left_comm] using member
  exact temporary.imp id .inl

theorem storedFields_askAwaiter : storedFields (askAwaiter expression slots) = [slots.awaiterField] := by
  unfold askAwaiter getAwaiter
  split <;> simp [Emission.all,storedFields,loadLocal,storeLocal,storeOwnField,loadOwnField,loadThis]

theorem storedSlots_consumePreviousAwaiter
    (member : slot ∈ storedSlots (consumePreviousAwaiter expression slots)) : Generated slots slot := by
  refine .inr (.inr ?_)
  unfold consumePreviousAwaiter trackMethodCall at member
  cases got : expression.getResultMethod <;> cases result : slots.resultVariable <;>
    simp only [got,result] at member <;> (repeat' split at member) <;>
    simp_all [Emission.all,storedSlots,loadOwnField,loadThis,storeLocal]

theorem storedFields_consumePreviousAwaiter :
    storedFields (consumePreviousAwaiter expression slots) = [] := by
  unfold consumePreviousAwaiter trackMethodCall
  cases expression.getResultMethod <;> cases slots.resultVariable <;> dsimp only <;> (repeat' split) <;>
    simp [Emission.all,storedFields,loadOwnField,loadThis,storeLocal]

theorem untilSuspended_memory (numbered : slots.awaiterField = info.awaiterField index) (bound : index < info.awaits)
    (saves : Runs host (saveLiftedParametersAndLocals info) before saved)
    (evaluates : Runs host expression.operand saved evaluated)
    (receiver : evaluated.slots 0 = host.self) (temporaries : ¬ Generated slots 0)
    (ran : RunAll host (untilSuspended info expression slots index) before exception suspended exception') :
    (∀ slot, ¬ Generated slots slot → suspended.slots slot = evaluated.slots slot) ∧
      (∀ lifted ∈ info.lifted, suspended.fields lifted.field = evaluated.fields lifted.field) ∧
      ∀ field, info.currentExceptionField = some field → slots.enclosingCatch.isSome = true →
        suspended.fields field = host.reference exception := by
  rw [untilSuspended,runAll_append] at ran
  rcases ran with ⟨pending,_,ran,stored,_,⟨store,rfl⟩,last,_⟩
  rw [runAll_append] at ran
  rcases ran with ⟨tested,_,⟨saved_,_,⟨save,rfl⟩,awaiting,_,⟨await_,rfl⟩,popped,_,⟨pop,rfl⟩,same,rfl⟩,caught⟩
  rw [runs_deterministic save saves,emitAwaiter,runs_seq] at await_
  rcases await_ with ⟨evaluated_,evaluate,ask⟩
  rw [runs_deterministic evaluate evaluates] at ask
  have asked := runs_keeps host _ ask
  have tests := host.popTruth_keeps pop
  have slots_ : ∀ slot, ¬ Generated slots slot → tested.slots slot = evaluated.slots slot := by
    intro slot user
    rw [same,tests.1]
    exact asked.slots slot fun member => user (storedSlots_askAwaiter member)
  have keeps := runAll_saveException ((slots_ 0 temporaries).trans receiver) caught
  have states := runs_keeps host _ store
  have stored_ : storedSlots (storeState info index) = [] := rfl
  have fields_ : storedFields (storeState info index) = [info.stateField] := rfl
  rw [last]
  refine ⟨fun slot user => ?_,fun lifted member => ?_,fun field known inCatch => ?_⟩
  · rw [states.slots slot (by simp [stored_]),keeps.1]
    exact slots_ slot user
  · rw [states.fields _ (by simpa [fields_] using info.field_ne_state lifted member),
      keeps.2.1 _ (info.field_ne_exception lifted member),same,tests.2]
    refine asked.fields _ ?_
    rw [storedFields_askAwaiter,numbered,List.mem_singleton]
    exact info.field_ne_awaiter lifted member index bound
  · rw [states.fields field ?_]
    · exact keeps.2.2 field known inCatch
    · rw [fields_,List.mem_singleton]
      intro state
      exact info.exception_ne_state (by rw [known,state])

theorem resumed_memory (receiver : start.slots 0 = host.self) (temporaries : ¬ Generated slots 0)
    (activeTryStack : List Path) (outerDefers : List Emission) (defersByTry : Path → List Emission)
    (nextStatement : Option Path)
    (ran : RunAll host (resumed info expression slots activeTryStack outerDefers defersByTry nextStatement)
      start exception after exception') :
    (∀ slot, ¬ Generated slots slot →
        ¬ (info.currentExceptionField.isSome = true ∧ slots.enclosingCatch = some (some slot)) →
        (∀ lifted ∈ info.lifted, lifted.moveNextSlot = slot → after.slots slot = start.fields lifted.field) ∧
        (slot ∉ info.lifted.map Lifted.moveNextSlot → after.slots slot = start.slots slot)) ∧
      ∀ field slot, info.currentExceptionField = some field → slots.enclosingCatch = some (some slot) →
        after.slots slot = start.fields field := by
  rw [resumed,runAll_append,List.cons_append] at ran
  rcases ran with ⟨given,_,⟨restored,_,⟨restore,rfl⟩,ran⟩,leave⟩
  rw [runAll_append] at ran
  rcases ran with ⟨entered,_,enter,consumed,_,⟨consume,rfl⟩,give⟩
  have left := runAll_control (by split <;> simp [Part.isControl]) leave
  have entries := runAll_control (by
    simp only [emitResumeDefersAndEnterTries,List.mem_append,List.mem_map,List.mem_flatMap,List.mem_cons]
    rintro part (⟨_,_,rfl⟩ | ⟨_,_,rfl | ⟨_,_,rfl⟩⟩) <;> rfl) enter
  have apart : ∀ slot, slot ∉ info.lifted.map Lifted.moveNextSlot → restored.slots slot = start.slots slot :=
    fun slot fresh => (runs_keeps host _ restore).slots slot
      (by rw [restoreLiftedParametersAndLocals,storedSlots_restore]; exact fresh)
  have fields : restored.fields = start.fields := by
    funext field
    exact (runs_keeps host _ restore).fields field
      (by rw [restoreLiftedParametersAndLocals,storedFields_restore]; simp)
  have kept := runs_keeps host _ consume
  have user : ∀ slot, ¬ Generated slots slot → consumed.slots slot = restored.slots slot := by
    intro slot free
    rw [kept.slots slot fun member => free (storedSlots_consumePreviousAwaiter member),entries.1]
  have own : consumed.slots 0 = host.self := by
    rw [user 0 temporaries,apart 0 ?_]
    · exact receiver
    · intro member
      rcases List.mem_map.1 member with ⟨lifted,member,zero⟩
      exact info.slot_ne_zero lifted member zero
  have gives := runAll_restoreException own give
  rw [left.1]
  refine ⟨fun slot free notCaught => ⟨?_,?_⟩,fun field slot known caught => ?_⟩
  · rintro lifted member rfl
    rw [gives.1 _ notCaught,user _ free]
    exact runs_restore receiver info.slots_nodup info.slot_ne_zero restore lifted member
  · intro fresh
    rw [gives.1 _ notCaught,user _ free,apart slot fresh]
  · rw [gives.2 field slot known caught,
      kept.fields field (by rw [storedFields_consumePreviousAwaiter]; simp),entries.1,fields]

/-- A variable has at the resumption what it had at the suspension exactly if it had, at the end of the
awaited expression, what the await carries for it. -/
theorem resumed_slot_iff (host : Host Value Exception) (info : AsyncMethodInfo)
    (expression : AwaitExpression) (slots : AwaitSlots) (index : Nat)
    (before saved evaluated suspended start after : Memory Value) (exception exception' exception'' : Option Exception)
    (activeTryStack : List Path) (outerDefers : List Emission) (defersByTry : Path → List Emission)
    (nextStatement : Option Path) (slot : UInt16)
    (numbered : slots.awaiterField = info.awaiterField index) (bound : index < info.awaits)
    (temporaries : ¬ Generated slots 0) (user : ¬ Generated slots slot)
    (own : before.slots 0 = host.self)
    (saves : Runs host (saveLiftedParametersAndLocals info) before saved)
    (evaluates : Runs host expression.operand saved evaluated)
    (receiver : evaluated.slots 0 = host.self)
    (untouched : ∀ lifted ∈ info.lifted, evaluated.fields lifted.field = saved.fields lifted.field)
    (suspends : RunAll host (untilSuspended info expression slots index) before exception suspended exception')
    (reentered : start.slots 0 = host.self) (persists : start.fields = suspended.fields)
    (resumes : RunAll host (resumed info expression slots activeTryStack outerDefers defersByTry nextStatement)
      start none after exception'') :
    after.slots slot = suspended.slots slot ↔
      evaluated.slots slot = carried host info slots before start exception slot := by
  have suspension := untilSuspended_memory numbered bound saves evaluates receiver temporaries suspends
  have resumption := resumed_memory reentered temporaries _ _ _ _ resumes
  have stored := (runs_save own info.fields_nodup saves).2
  have given : after.slots slot = carried host info slots before start exception slot := by
    unfold carried
    by_cases caught : info.currentExceptionField.isSome = true ∧ slots.enclosingCatch = some (some slot)
    · rcases Option.isSome_iff_exists.1 caught.1 with ⟨field,known⟩
      rw [if_pos caught,resumption.2 field slot known caught.2,persists]
      exact suspension.2.2 field known (by simp [caught.2])
    · rw [if_neg caught]
      by_cases variable_ : slot ∈ info.lifted.map Lifted.moveNextSlot
      · rcases List.mem_map.1 variable_ with ⟨lifted,member,same⟩
        rw [if_pos variable_,(resumption.1 slot user caught).1 lifted member same,persists,
          suspension.2.1 lifted member,untouched lifted member,← same]
        exact stored lifted member
      · rw [if_neg variable_]
        exact (resumption.1 slot user caught).2 variable_
  rw [given,suspension.1 slot user,eq_comm]

end Variables

section Examples

inductive Cell where
  | self | null | task
  | number (value : Nat)
  | boolean (value : Bool)
  deriving DecidableEq

def executeCells (instruction : Instruction) (memory : Memory Cell) : Effect (Memory Cell) Unit :=
  match instruction,memory.stack with
  | .loadConstInt64 value,_ => .ok (memory.push (.number value.toInt.toNat))
  | .mathAdd,.number right :: .number left :: stack =>
      .ok { memory with stack := .number (left + right) :: stack }
  | .callInterface _,_ :: stack => .ok { memory with stack := .boolean false :: stack }
  | .callMethodSymbol _,_ :: stack => .ok { memory with stack := stack }
  | _,_ => .fault

def cells : Host Cell Unit where
  base :=
    { DataMachine.idle () with
      execute := executeCells
      popTruth := fun _ => none
      placeReturned := fun _ => none }
  self := .self
  null := .null
  truth := fun cell => cell = .boolean true
  reference := fun _ => .null
  exception := fun _ => none
  keeps := by
    intro instruction memory after ran
    rcases memory with ⟨slots,fields,stack⟩
    cases instruction with
    | loadConstInt64 value =>
      cases ran
      exact ⟨rfl,rfl⟩
    | callInterface symbol | callMethodSymbol symbol =>
      cases stack
      all_goals cases ran
      exact ⟨rfl,rfl⟩
    | mathAdd =>
      rcases stack with _ | ⟨_ | _ | _ | right | _,_ | ⟨_ | _ | _ | left | _,stack⟩⟩
      all_goals cases ran
      exact ⟨rfl,rfl⟩
    | _ => cases ran

def counterInfo : AsyncMethodInfo := .construct 0 1 false false [] [8] (by decide) (by decide)

def counterSlots : AwaitSlots := ⟨counterInfo.awaiterField 0,2,3,none,none⟩

def increment : Emission :=
  .all [.op (.loadLocal 1),.op (.loadConstInt64 1),.op .mathAdd,.op (.storeLocal 1),.op (.loadLocal 1)]

def counterMemory (value : Nat) : Memory Cell where
  slots := fun slot => if slot = 0 then .self else if slot = 1 then .number value else .null
  fields := fun _ => .null
  stack := []

def reentered (suspended : Memory Cell) : Memory Cell where
  slots := fun slot => if slot = 0 then .self else .null
  fields := suspended.fields
  stack := []

/-- The value of the counter from before the increment comes back. -/
theorem increment_lost : ∃ suspended after : Memory Cell,
    RunAll cells (untilSuspended counterInfo (awaitOf increment) counterSlots 0) (counterMemory 0) none
        suspended none ∧
      RunAll cells (resumed counterInfo (awaitOf increment) counterSlots [] [] (fun _ => []) none)
        (reentered suspended) none after none ∧
      suspended.slots 1 = .number 1 ∧ after.slots 1 = .number 0 := by
  refine ⟨_,_,⟨_,_,⟨⟨_,rfl⟩,rfl⟩,_,_,⟨⟨_,rfl⟩,rfl⟩,_,_,⟨rfl,rfl⟩,_,_,⟨⟨_,rfl⟩,rfl⟩,rfl,rfl⟩,
    ⟨_,_,⟨⟨_,rfl⟩,rfl⟩,_,_,⟨⟨_,rfl⟩,rfl⟩,rfl,rfl⟩,?_,?_⟩
  · rfl
  · rfl

/-- `f(i)` leaves the counter alone. -/
theorem resumed_slot_counter : ∃ suspended after : Memory Cell,
    RunAll cells (untilSuspended counterInfo (awaitOf (.op (.loadLocal 1))) counterSlots 0) (counterMemory 0)
        none suspended none ∧
      RunAll cells (resumed counterInfo (awaitOf (.op (.loadLocal 1))) counterSlots [] [] (fun _ => []) none)
        (reentered suspended) none after none ∧
      after.slots 1 = suspended.slots 1 := by
  have suspends : ∃ suspended, RunAll cells
      (untilSuspended counterInfo (awaitOf (.op (.loadLocal 1))) counterSlots 0) (counterMemory 0) none
        suspended none :=
    ⟨_,_,_,⟨⟨_,rfl⟩,rfl⟩,_,_,⟨⟨_,rfl⟩,rfl⟩,_,_,⟨rfl,rfl⟩,_,_,⟨⟨_,rfl⟩,rfl⟩,rfl,rfl⟩
  rcases suspends with ⟨suspended,suspends⟩
  have resumes : ∃ after, RunAll cells
      (resumed counterInfo (awaitOf (.op (.loadLocal 1))) counterSlots [] [] (fun _ => []) none)
        (reentered suspended) none after none :=
    ⟨_,_,_,⟨⟨_,rfl⟩,rfl⟩,_,_,⟨⟨_,rfl⟩,rfl⟩,rfl,rfl⟩
  rcases resumes with ⟨after,resumes⟩
  exact ⟨suspended,after,suspends,resumes,(resumed_slot_iff cells counterInfo (awaitOf (.op (.loadLocal 1)))
    counterSlots 0 (counterMemory 0) _ _ suspended (reentered suspended) after none none none [] []
    (fun _ => []) none 1 rfl (by decide) (by simp [Generated,counterSlots]) (by simp [Generated,counterSlots]) rfl
    ⟨_,rfl⟩ ⟨_,rfl⟩ rfl (fun _ _ => rfl) suspends rfl rfl resumes).2 rfl⟩

end Examples

end ShardScript.Async
