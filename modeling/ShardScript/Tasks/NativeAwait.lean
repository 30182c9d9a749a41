import ShardScript.Library.Journal
import ShardScript.Types.Canonical

/-! Awaits of native code: the calls that it makes of an awaitable and of its awaiter, and when its callback is invoked. -/
namespace ShardScript.Tasks.NativeAwait
open Library
open ShardScript.Types (SymbolTable)
open ShardScript.Types.Shapes (Request)

structure AsyncTypes where
  table : SymbolTable
  boolean : Nat
  iAwaiter : Nat
  task : Nat
  valueTask : Nat
  apart : [boolean,iAwaiter,task,valueTask].Nodup

inductive Instance where
  | null
  | awaitable
  | continuation
  | boolean (value : Bool)
  | result (payload : Nat)
  | stacked (size : Nat)
  | freed (size : Nat)
  deriving DecidableEq

inductive Ending where
  | returned
  | raised
  | thrown
  deriving DecidableEq

inductive ReturnKind where
  | void
  | byReference
  | inline (size : Nat)
  deriving DecidableEq

inductive Implementation where
  /-- Bytecode. What it evaluates to does not get to the return slot, and what it raises is lost. -/
  | script (returns : ReturnKind) (ending : Ending)
  /-- A native function that is `noexcept`, with the shape of what it places. -/
  | native (returnType : Types.TypeSymbol) (shape : Option Request) (placed : Instance)
  | nativeVoid

inductive Role where
  | getAwaiter
  | isCompleted
  | onCompleted
  | getResult
  deriving DecidableEq

inductive Event where
  | invoked (role : Role) (arguments : List Instance)
  | completed (result : Option Instance)
  deriving DecidableEq

inductive Stop where
  | thrown
  | terminated
  | undefined
  deriving DecidableEq

/-- The state is the number of values that the calls leave on the stack of the calling frame. -/
abbrev Await := Journal Event Nat Stop

def stop {Result : Type} (reason : Stop) : Await Result := ExceptT.mk (pure (.error reason))

def push : Await Unit := ExceptT.mk fun (events,entries) => (.ok (),(events,entries + 1))

def note (event : Event) : Await Unit := Journal.note event fun entries => (.ok (),entries)

structure Awaiter where
  isCompleted : Option Implementation
  onCompleted : Option Implementation
  getResult : Option Implementation

section Code

variable (types : AsyncTypes) (callingFrame : Bool)

def Instance.isReadable : Instance → Bool
  | freed size => size == 0
  | _ => true

def invokeMethod (role : Role) (implementation : Implementation) (arguments : List Instance) : Await Instance := do
  if arguments.all Instance.isReadable then
    note (.invoked role arguments)
    match implementation with
    | .nativeVoid => return .null
    | .native returnType shape placed =>
        if some ((Request.object returnType).key types.table) = shape.map (Request.key types.table) then
          if callingFrame then push
          return placed
        else stop .terminated
    | .script _ .thrown => stop .thrown
    | .script .void _ => return .null
    | .script .byReference _ =>
        if callingFrame then push
        return .null
    | .script (.inline size) _ =>
        if callingFrame then
          push
          return .stacked size
        else return .freed size
  else stop .undefined

def asBoolean : Instance → Await Bool
  | .null => return false
  | .boolean value => return value
  | .stacked _ => return false
  | .freed _ => stop .undefined
  | .awaitable | .continuation | .result _ => stop .thrown

def getAwaiterObject : Option Implementation → Await Instance
  | some getAwaiter => invokeMethod types callingFrame .getAwaiter getAwaiter [.awaitable]
  | none => return .awaitable

def invokeIsCompleted (methods : Awaiter) (awaiter : Instance) : Await Bool :=
  match methods.isCompleted with
  | none => return true
  | some isCompleted => do
      let result ← invokeMethod types callingFrame .isCompleted isCompleted [awaiter]
      asBoolean result

def invokeOnCompleted (methods : Awaiter) (awaiter handed : Instance) : Await Unit :=
  match methods.onCompleted with
  | none => return
  | some onCompleted => do
      let _ ← invokeMethod types callingFrame .onCompleted onCompleted [handed,awaiter]

def invokeGetResult (methods : Awaiter) (awaiter : Instance) : Await Instance :=
  match methods.getResult with
  | none => return .null
  | some getResult => invokeMethod types callingFrame .getResult getResult [awaiter]

def await (hasState : Bool) (getAwaiter : Option Implementation) (methods : Awaiter) : Await Unit := do
  if hasState then
    let awaiter ← getAwaiterObject types callingFrame getAwaiter
    if awaiter = .null then note (.completed none)
    else
      let completed ← invokeIsCompleted types callingFrame methods awaiter
      if completed then note (.completed none)
      else invokeOnCompleted types callingFrame methods awaiter .continuation

def awaitResult (hasState : Bool) (getAwaiter : Option Implementation) (methods : Awaiter) : Await Unit := do
  if hasState then
    let awaiter ← getAwaiterObject types callingFrame getAwaiter
    if awaiter = .null then note (.completed (some .null))
    else
      let completed ← invokeIsCompleted types callingFrame methods awaiter
      if completed then
        let result ← invokeGetResult types callingFrame methods awaiter
        note (.completed (some result))
      else invokeOnCompleted types callingFrame methods awaiter .continuation

end Code

inductive Completion where
  | already (result : Option Nat)
  | later
  | never

structure ScriptAwaiter where
  isCompleted : Ending
  onCompleted : Ending
  result : ReturnKind
  getResult : Ending

inductive Awaitable where
  | task
  | valueTask (type : Types.TypeSymbol)
  /-- A script type that implements `IAwaitable`, with a `GetAwaiter` that returns a class, or a struct of a size. -/
  | awaitable (inlineSize : Option Nat) (getAwaiter : Ending) (awaiter : ScriptAwaiter)
  | awaiter (awaiter : ScriptAwaiter)

inductive Mode where
  | await
  | awaitResult
  deriving DecidableEq

def ScriptAwaiter.methods (awaiter : ScriptAwaiter) : Awaiter where
  isCompleted := some (.script (.inline 1) awaiter.isCompleted)
  onCompleted := some (.script .void awaiter.onCompleted)
  getResult := some (.script awaiter.result awaiter.getResult)

def Completion.isCompleted : Completion → Bool
  | already _ => true
  | later | never => false

def Completion.result : Completion → Instance
  | already (some payload) => .result payload
  | already none | later | never => .null

section Runs

variable (types : AsyncTypes)

namespace Awaitable

def getAwaiter : Awaitable → Option Implementation
  | task => some (.native (.declared types.iAwaiter) (some (.object (.declared types.task))) .awaitable)
  | valueTask type =>
      some (.native (.declared types.iAwaiter) (some (.constructed types.valueTask [type])) .awaitable)
  | awaitable none ending _ => some (.script .byReference ending)
  | awaitable (some size) ending _ => some (.script (.inline size) ending)
  | awaiter _ => none

/-- `GetResult` of a task places a null instance, which has no shape. -/
def methods (completion : Completion) : Awaitable → Awaiter
  | task =>
      let boolean := Types.TypeSymbol.declared types.boolean
      ⟨some (.native boolean (some (.plain boolean)) (.boolean completion.isCompleted)),some .nativeVoid,
        some (.native (.declared types.table.any) none .null)⟩
  | valueTask type =>
      let boolean := Types.TypeSymbol.declared types.boolean
      ⟨some (.native boolean (some (.plain boolean)) (.boolean completion.isCompleted)),some .nativeVoid,
        some (.native (.typeParameter (.type types.valueTask) 0) (some (.plain type)) completion.result)⟩
  | awaitable _ _ methods | awaiter methods => methods.methods

end Awaitable

/-- The outcome of an await, what happens in it, and how many values it leaves on the stack of the calling frame. -/
def run (mode : Mode) (hasState callingFrame : Bool) (awaitable : Awaitable) (completion : Completion) :
    Except Stop Unit × List Event × Nat :=
  match mode with
  | .await => (await types callingFrame hasState (awaitable.getAwaiter types) (awaitable.methods types completion)) ([],0)
  | .awaitResult =>
      (awaitResult types callingFrame hasState (awaitable.getAwaiter types) (awaitable.methods types completion)) ([],0)

end Runs

def Delivers : Mode → Option Nat → Option Instance → Prop
  | .await,_,delivered => delivered = none
  | .awaitResult,some payload,delivered => delivered = some (.result payload)
  | .awaitResult,none,delivered => delivered = some .null

def callbacks (events : List Event) : List (Option Instance) :=
  events.filterMap fun event =>
    match event with
    | .completed result => some result
    | .invoked _ _ => none

def Registered (events : List Event) : Prop := ∃ awaiter, Event.invoked .onCompleted [awaiter,.continuation] ∈ events

/-- The callback is invoked once, with the result, if the awaitable has completed. Otherwise the awaiter has got the
continuation to invoke it. -/
structure DeliversOnce (mode : Mode) (completion : Completion) (run : Except Stop Unit × List Event × Nat) : Prop where
  returned : run.1 = .ok ()
  clean : run.2.2 = 0
  registers : ∀ arguments, Event.invoked .onCompleted arguments ∈ run.2.1 →
    ∃ awaiter, awaiter ≠ .continuation ∧ arguments = [awaiter,.continuation]
  once : callbacks run.2.1 = [] ∧ Registered run.2.1 ∨
    ∃ result delivered, completion = .already result ∧ callbacks run.2.1 = [delivered] ∧ Delivers mode result delivered

def AwaitRight (mode : Mode) (completion : Completion) (run : Except Stop Unit × List Event × Nat) : Prop :=
  completion = .never ∨ DeliversOnce mode completion run

/-- No frame calls, and the object is of a script type whose `GetAwaiter` is to return a class and throws nothing, and has
completed, without a result if one is asked for. -/
def AwaitAllowed (mode : Mode) (hasState callingFrame : Bool) (awaitable : Awaitable) (completion : Completion) : Prop :=
  completion = .never ∨ hasState = true ∧ callingFrame = false ∧
    (∃ ending awaiter, awaitable = .awaitable none ending awaiter ∧ ending ≠ .thrown) ∧
    ∃ result, completion = .already result ∧ (mode = .awaitResult → result = none)

section Scripts

variable {types : AsyncTypes} {callingFrame : Bool}

theorem invokeIsCompleted_script (script : ScriptAwaiter) (awaiter : Instance) (entries : Nat) :
    (∃ noted reason, Journal.Goes (invokeIsCompleted types callingFrame script.methods awaiter) entries noted
      (.error reason) entries) ∨
    ∃ noted, Journal.Goes (invokeIsCompleted types callingFrame script.methods awaiter) entries noted
      (.ok false) (entries + 1) := by
  cases readable : awaiter.isReadable with
  | false =>
      refine .inl ⟨[],.undefined,fun before => ?_⟩
      simp only [invokeIsCompleted,ScriptAwaiter.methods,invokeMethod,List.all_cons,readable]
      rw [List.append_nil]
      rfl
  | true =>
      have read : [awaiter].all Instance.isReadable = true := by rw [List.all_cons,readable]; rfl
      simp only [invokeIsCompleted,ScriptAwaiter.methods,invokeMethod,if_pos read]
      cases script.isCompleted with
      | thrown => exact .inl ⟨_,_,fun _ => rfl⟩
      | returned | raised =>
          cases callingFrame with
          | false => exact .inl ⟨_,.undefined,fun _ => rfl⟩
          | true => exact .inr ⟨_,fun _ => rfl⟩

theorem invokeOnCompleted_script (script : ScriptAwaiter) (awaiter handed : Instance) (entries : Nat) :
    ∃ noted outcome, Journal.Goes (invokeOnCompleted types callingFrame script.methods awaiter handed) entries noted
      outcome entries := by
  by_cases read : [handed,awaiter].all Instance.isReadable = true
  · simp only [invokeOnCompleted,ScriptAwaiter.methods,invokeMethod,if_pos read]
    cases script.onCompleted <;> exact ⟨_,_,fun _ => rfl⟩
  · simp only [invokeOnCompleted,ScriptAwaiter.methods,invokeMethod,if_neg read]
    exact ⟨[],.error .undefined,fun before => by rw [List.append_nil]; rfl⟩

def Spoils (computation : Await Unit) : Prop :=
  ∃ noted outcome entries, Journal.Goes computation 0 noted outcome entries ∧ (outcome ≠ .ok () ∨ entries ≠ 0)

theorem spoils_of_stopped {Result : Type} {computation : Await Result} {noted : List Event} {reason : Stop} {entries : Nat}
    (next : Result → Await Unit) (goes : Journal.Goes computation 0 noted (.error reason) entries) :
    Spoils (computation >>= next) :=
  ⟨_,_,_,goes.stopped,.inl nofun⟩

theorem script_spoils {script : ScriptAwaiter} {getAwaiter : Option Implementation} {awaiter : Instance}
    {noted : List Event} {entries : Nat} (present : awaiter ≠ .null) (absent : Await Unit)
    (ready : Instance → Await Unit)
    (got : Journal.Goes (getAwaiterObject types callingFrame getAwaiter) 0 noted (.ok awaiter) entries) :
    Spoils (getAwaiterObject types callingFrame getAwaiter >>= fun awaiter =>
      if awaiter = .null then absent
      else invokeIsCompleted types callingFrame script.methods awaiter >>= fun completed =>
        if completed then ready awaiter
        else invokeOnCompleted types callingFrame script.methods awaiter .continuation) := by
  rcases @invokeIsCompleted_script types callingFrame script awaiter entries with
    ⟨noted',reason,stopped⟩ | ⟨noted',asked⟩
  · refine ⟨noted ++ noted',.error reason,entries,got.bind ?_,.inl nofun⟩
    rw [if_neg present]
    exact stopped.stopped
  · obtain ⟨noted'',outcome,handed⟩ := @invokeOnCompleted_script types callingFrame script awaiter .continuation
      (entries + 1)
    refine ⟨noted ++ (noted' ++ noted''),outcome,entries + 1,got.bind ?_,.inr (Nat.succ_ne_zero entries)⟩
    rw [if_neg present]
    exact asked.bind handed

theorem iAwaiter_ne {type : Nat} (other : type ∈ [types.task,types.valueTask]) (request : Request)
    (base : (request.key types.table).baseType = .declared type) :
    some ((Request.object (.declared types.iAwaiter)).key types.table) ≠ some (request.key types.table) := by
  have apart := types.apart
  intro same
  have base' := (congrArg Types.Key.baseType (Option.some.inj same)).trans base
  simp only [Request.key,Types.TypeSymbol.declared.injEq] at base'
  simp only [List.nodup_cons,List.mem_cons,List.not_mem_nil,or_false,not_or] at apart other
  grind

theorem invokeMethod_terminated {returnType : Types.TypeSymbol} {shape : Option Request}
    (differ : some ((Request.object returnType).key types.table) ≠ shape.map (Request.key types.table)) (role : Role)
    (placed : Instance) (entries : Nat) :
    Journal.Goes (invokeMethod types callingFrame role (.native returnType shape placed) [.awaitable]) entries
      [.invoked role [.awaitable]] (.error .terminated) entries := by
  intro before
  simp only [invokeMethod,List.all_cons,Instance.isReadable,List.all_nil,if_neg differ]
  rfl

theorem getAwaiterObject_cases {awaitable : Awaitable} (completion : Completion)
    (other : ¬ ∃ ending script, awaitable = .awaitable none ending script ∧ ending ≠ .thrown) :
    (∃ noted reason, Journal.Goes (getAwaiterObject types callingFrame (awaitable.getAwaiter types)) 0 noted
      (.error reason) 0) ∨
    ∃ (script : ScriptAwaiter) (awaiter : Instance) (noted : List Event) (entries : Nat),
      awaitable.methods types completion = script.methods ∧ awaiter ≠ .null ∧
      Journal.Goes (getAwaiterObject types callingFrame (awaitable.getAwaiter types)) 0 noted (.ok awaiter) entries := by
  cases awaitable with
  | task => exact .inl ⟨_,_,invokeMethod_terminated (iAwaiter_ne (List.mem_cons_self ..) (.object _) rfl) _ _ _⟩
  | valueTask type =>
      have member : types.valueTask ∈ [types.task,types.valueTask] := List.mem_cons_of_mem _ (List.mem_cons_self ..)
      exact .inl ⟨_,_,invokeMethod_terminated (iAwaiter_ne member (.constructed _ [type]) rfl) _ _ _⟩
  | awaiter script => exact .inr ⟨script,.awaitable,_,_,rfl,nofun,Journal.Goes.pure _ _⟩
  | awaitable inlineSize ending script =>
      cases ending with
      | thrown => cases inlineSize <;> exact .inl ⟨_,_,fun _ => rfl⟩
      | returned | raised =>
          cases inlineSize with
          | none => exact absurd ⟨_,script,rfl,nofun⟩ other
          | some size =>
              cases callingFrame with
              | false => exact .inr ⟨script,.freed size,[.invoked .getAwaiter [.awaitable]],0,rfl,nofun,fun _ => rfl⟩
              | true => exact .inr ⟨script,.stacked size,[.invoked .getAwaiter [.awaitable]],1,rfl,nofun,fun _ => rfl⟩

theorem spoils {awaitable : Awaitable} (completion : Completion)
    (other : ¬ ∃ ending script, awaitable = .awaitable none ending script ∧ ending ≠ .thrown) (absent : Await Unit)
    (ready : Instance → Await Unit) :
    Spoils (getAwaiterObject types callingFrame (awaitable.getAwaiter types) >>= fun awaiter =>
      if awaiter = .null then absent
      else invokeIsCompleted types callingFrame (awaitable.methods types completion) awaiter >>= fun completed =>
        if completed then ready awaiter
        else invokeOnCompleted types callingFrame (awaitable.methods types completion) awaiter .continuation) := by
  rcases @getAwaiterObject_cases types callingFrame awaitable completion other with
    ⟨noted,reason,stopped⟩ | ⟨script,awaiter,noted,entries,same,present,got⟩
  · exact spoils_of_stopped _ stopped
  · rw [same]
    exact script_spoils present absent ready got

end Scripts

theorem not_deliversOnce_of_spoils {mode : Mode} {completion : Completion} {computation : Await Unit}
    (spoils : Spoils computation) : ¬ DeliversOnce mode completion (computation ([],0)) := by
  obtain ⟨noted,outcome,entries,goes,spoiled⟩ := spoils
  have known : computation ([],0) = (outcome,([] ++ noted,entries)) := goes []
  intro delivers
  rw [known] at delivers
  exact spoiled.elim (· delivers.returned) (· delivers.clean)

section Runs

variable (types : AsyncTypes) (mode : Mode) (hasState callingFrame : Bool) (awaitable : Awaitable) (completion : Completion)

def Mode.nothing : Mode → Option Instance
  | await => none
  | awaitResult => some .null

theorem run_stateless : run types mode false callingFrame awaitable completion = (.ok (),[],0) := by
  cases mode <;> rfl

theorem run_class {ending : Ending} (ends : ending ≠ .thrown) (script : ScriptAwaiter) :
    run types mode true callingFrame (.awaitable none ending script) completion =
      (.ok (),[.invoked .getAwaiter [.awaitable],.completed mode.nothing],callingFrame.toNat) := by
  cases ending with
  | thrown => exact absurd rfl ends
  | returned | raised => cases mode <;> cases callingFrame <;> rfl

variable {awaitable}

theorem run_other (other : ¬ ∃ ending script, awaitable = .awaitable none ending script ∧ ending ≠ .thrown) :
    ¬ DeliversOnce mode completion (run types mode true callingFrame awaitable completion) := by
  cases mode with
  | await => exact not_deliversOnce_of_spoils (spoils completion other _ fun _ => note (.completed none))
  | awaitResult => exact not_deliversOnce_of_spoils (spoils completion other _ fun awaiter => do
      let result ← invokeGetResult types callingFrame (awaitable.methods types completion) awaiter
      note (.completed (some result)))

variable (awaitable)

theorem class_delivers_iff {ending : Ending} (ends : ending ≠ .thrown) (script : ScriptAwaiter) :
    DeliversOnce mode completion (run types mode true callingFrame (.awaitable none ending script) completion) ↔
      callingFrame = false ∧ ∃ result, completion = .already result ∧ (mode = .awaitResult → result = none) := by
  rw [run_class types mode callingFrame completion ends]
  constructor
  · rintro ⟨_,clean,_,⟨empty,_⟩ | ⟨result,delivered,already,called,delivers⟩⟩
    · cases empty
    · obtain rfl : mode.nothing = delivered := List.head_eq_of_cons_eq called
      have uncalled : callingFrame = false := by
        cases callingFrame with
        | false => rfl
        | true => cases clean
      refine ⟨uncalled,result,already,?_⟩
      rintro rfl
      cases result with
      | none => rfl
      | some payload => cases delivers
  · rintro ⟨rfl,result,already,empty⟩
    refine ⟨rfl,rfl,?_,.inr ⟨result,mode.nothing,already,rfl,?_⟩⟩
    · intro arguments handed
      simp only [List.mem_cons,List.not_mem_nil,reduceCtorEq,or_false,Event.invoked.injEq,false_and] at handed
    · cases mode with
      | await => rfl
      | awaitResult =>
          rw [empty rfl]
          rfl

theorem await_right_iff : AwaitRight mode completion (run types mode hasState callingFrame awaitable completion) ↔
    AwaitAllowed mode hasState callingFrame awaitable completion := by
  refine or_congr_right ?_
  cases hasState with
  | false =>
      rw [run_stateless]
      refine iff_of_false ?_ (fun allowed => nomatch allowed.1)
      rintro ⟨_,_,_,⟨_,_,registered⟩ | ⟨_,_,_,called,_⟩⟩
      · cases registered
      · cases called
  | true =>
      by_cases scripted : ∃ ending script, awaitable = .awaitable none ending script ∧ ending ≠ .thrown
      · obtain ⟨ending,script,rfl,ends⟩ := scripted
        rw [class_delivers_iff types mode callingFrame completion ends]
        constructor
        · rintro ⟨uncalled,empty⟩
          exact ⟨rfl,uncalled,⟨ending,script,rfl,ends⟩,empty⟩
        · rintro ⟨_,uncalled,_,empty⟩
          exact ⟨uncalled,empty⟩
      · exact iff_of_false (run_other types mode callingFrame completion scripted) fun allowed => scripted allowed.2.2.1

end Runs

theorem builtIn_apart : [0,1,2,3].Nodup := by decide

/-- `struct Boolean`, `interface IAwaiter`, `class Task` and `class Task<T>`, with the types that all tables have. -/
def builtIn : AsyncTypes where
  table := {
    declarations := [.plainStruct,.plainInterface,.plainClass,
      { Types.TypeDeclaration.plainClass with typeParameters := ["T"] },.plainStruct,.plainStruct,.plainClass,
      { Types.TypeDeclaration.plainInterface with typeParameters := ["T"] }]
    any := 4
    null := 5
    array := 6
    iEnumerable := 7
    any_ne_null := Types.four_ne_five }
  boolean := 0
  iAwaiter := 1
  task := 2
  valueTask := 3
  apart := builtIn_apart

/-- The program is terminated when a task is awaited that has completed. -/
theorem not_await_right_task :
    ¬ AwaitRight .await (.already none) (run builtIn .await true false .task (.already none)) := by
  rintro (never | delivers)
  · cases never
  · refine run_other builtIn .await false (.already none) ?_ delivers
    rintro ⟨ending,script,differs,_⟩
    cases differs

end ShardScript.Tasks.NativeAwait
