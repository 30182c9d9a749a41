import Mathlib.Control.Monad.Basic
import Mathlib.Logic.Function.Basic

/-! Computations with a scratch store on the side, and when they agree with computations without one. The
computations are those of any lawful monad, with exceptions. -/
namespace ShardScript.Library

section Scratch

variable {Name Value Exception : Type} {M : Type → Type} [Monad M]

abbrev Scratch (Name Value Exception : Type) (M : Type → Type) := ExceptT Exception (StateT (Name → Value) M)

namespace Scratch

variable {α β : Type}

def lift (computation : ExceptT Exception M α) : Scratch Name Value Exception M α :=
  ExceptT.mk (StateT.lift computation.run)

def fetch (name : Name) : Scratch Name Value Exception M Value :=
  ExceptT.mk fun store => pure (.ok (store name),store)

def store [DecidableEq Name] (name : Name) (value : Value) : Scratch Name Value Exception M Unit :=
  ExceptT.mk fun scratch => pure (.ok (),Function.update scratch name value)

def Agrees (computation : Scratch Name Value Exception M α) (plain : ExceptT Exception M α) : Prop :=
  ∀ scratch, Prod.fst <$> computation.run.run scratch = plain.run

variable [LawfulMonad M]

theorem store_fetch [DecidableEq Name] (name : Name) (value : Value)
    (continuation : Value → Scratch Name Value Exception M α) :
    (store name value >>= fun _ => fetch name >>= continuation) =
      (store name value >>= fun _ => continuation value) := by
  funext scratch
  simp [store,fetch,ExceptT.mk,bind,ExceptT.bind,ExceptT.bindCont,StateT.bind]

theorem fetch_fetch (name : Name) (test : Value → Prop) [DecidablePred test]
    (other : Value → Scratch Name Value Exception M Value) :
    (fetch name >>= fun value => if test value then fetch name else other value) =
      fetch name >>= fun value => if test value then pure value else other value := by
  funext scratch
  by_cases known : test (scratch name)
  · simp [fetch,ExceptT.mk,bind,ExceptT.bind,ExceptT.bindCont,StateT.bind,known]
    rfl
  · simp [fetch,ExceptT.mk,bind,ExceptT.bind,ExceptT.bindCont,StateT.bind,known]

namespace Agrees

variable {computation : Scratch Name Value Exception M α} {plain : ExceptT Exception M α}
  {continuation : α → Scratch Name Value Exception M β} {continuation' : α → ExceptT Exception M β}

theorem pure (result : α) : Agrees (pure result : Scratch Name Value Exception M α) (pure result) := by
  intro scratch
  exact map_pure Prod.fst (Except.ok result,scratch)

theorem lift (plain : ExceptT Exception M α) : Agrees (lift plain : Scratch Name Value Exception M α) plain := by
  intro scratch
  simp [Scratch.lift,ExceptT.mk,ExceptT.run,StateT.run,StateT.lift]

theorem bind (first : Agrees computation plain) (second : ∀ result, Agrees (continuation result) (continuation' result)) :
    Agrees (computation >>= continuation) (plain >>= continuation') := by
  intro scratch
  have outcomes : (computation >>= continuation).run.run scratch = computation.run.run scratch >>= fun outcome =>
      match outcome.1 with
      | .ok result => (continuation result).run.run outcome.2
      | .error exception => Pure.pure (.error exception,outcome.2) := by
    refine bind_congr fun outcome => ?_
    rcases outcome with ⟨_ | _,_⟩ <;> rfl
  have plainly : (plain >>= continuation').run = plain.run >>= fun result =>
      match result with
      | .ok result => (continuation' result).run
      | .error exception => Pure.pure (.error exception) := by
    refine (ExceptT.run_bind plain continuation').trans (bind_congr fun result => ?_)
    cases result <;> rfl
  rw [outcomes,plainly,← first scratch,map_bind,bind_map_left]
  refine bind_congr fun outcome => ?_
  rcases outcome with ⟨exception | result,scratch'⟩
  · exact map_pure _ _
  · exact second result scratch'

theorem started (known : Agrees computation plain) : Agrees (Pure.pure () >>= fun _ => computation) plain := by
  rwa [pure_bind]

omit [LawfulMonad M] in
theorem choice {other : Scratch Name Value Exception M α} {plain' : ExceptT Exception M α} (test : Bool)
    (first : Agrees computation plain) (second : Agrees other plain') :
    Agrees (if test then computation else other) (if test then plain else plain') := by
  cases test
  · exact second
  · exact first

theorem raise (exception : Exception) :
    Agrees (throw exception : Scratch Name Value Exception M α) (throw exception) := by
  intro scratch
  exact map_pure _ _

theorem rescue {handler : Exception → Scratch Name Value Exception M α} {handler' : Exception → ExceptT Exception M α}
    (body : Agrees computation plain) (handled : ∀ exception, Agrees (handler exception) (handler' exception)) :
    Agrees (tryCatch computation handler) (tryCatch plain handler') := by
  intro scratch
  have outcomes : (tryCatch computation handler).run.run scratch = computation.run.run scratch >>= fun outcome =>
      match outcome.1 with
      | .ok result => Pure.pure (.ok result,outcome.2)
      | .error exception => (handler exception).run.run outcome.2 := by
    refine bind_congr fun outcome => ?_
    rcases outcome with ⟨_ | _,_⟩ <;> rfl
  have plainly : (tryCatch plain handler').run = plain.run >>= fun result =>
      match result with
      | .ok result => Pure.pure (.ok result)
      | .error exception => (handler' exception).run := by
    refine bind_congr fun result => ?_
    cases result <;> rfl
  rw [outcomes,plainly,← body scratch,map_bind,bind_map_left]
  refine bind_congr fun outcome => ?_
  rcases outcome with ⟨exception | result,scratch'⟩
  · exact handled exception scratch'
  · exact map_pure _ _

theorem stored [DecidableEq Name] (name : Name) (value : Value) (known : Agrees computation plain) :
    Agrees (store name value >>= fun _ => computation) plain := by
  intro scratch
  have outcome : (store name value >>= fun _ => computation).run.run scratch =
      computation.run.run (Function.update scratch name value) := pure_bind _ _
  rw [outcome]
  exact known _

end Agrees

def Prepared (advance : Scratch Name Value Exception M Unit) (computation : Scratch Name Value Exception M α)
    (plain : ExceptT Exception M α) : Prop :=
  ∀ (β : Type) (continuation : α → Scratch Name Value Exception M β) (continuation' : α → ExceptT Exception M β),
    (∀ result, Agrees (continuation result) (continuation' result)) →
      Agrees (advance >>= fun _ => computation >>= continuation) (plain >>= continuation')

namespace Prepared

variable {advance : Scratch Name Value Exception M Unit} {computation : Scratch Name Value Exception M α}
  {plain : ExceptT Exception M α} {continuation : α → Scratch Name Value Exception M β}
  {continuation' : α → ExceptT Exception M β}

theorem of_agrees (known : Agrees computation plain) : Prepared (Pure.pure ()) computation plain := by
  intro γ last last' second
  rw [pure_bind]
  exact known.bind second

theorem followed (first : Prepared advance computation plain)
    (second : ∀ result, Agrees (continuation result) (continuation' result)) :
    Prepared advance (computation >>= continuation) (plain >>= continuation') := by
  intro γ last last' third
  rw [bind_assoc,bind_assoc]
  exact first _ _ _ fun result => (second result).bind third

theorem agrees (known : Prepared advance computation plain) : Agrees (advance >>= fun _ => computation) plain := by
  have whole := known _ _ _ fun result => Agrees.pure result
  simpa using whole

end Prepared

def Delivers [DecidableEq Name] (advance : Scratch Name Value Exception M Unit) (name : Name)
    (plain : ExceptT Exception M Value) : Prop :=
  ∀ (β : Type) (continuation : Scratch Name Value Exception M β) (continuation' : Value → ExceptT Exception M β),
    (∀ value, Agrees (store name value >>= fun _ => continuation) (continuation' value)) →
      Agrees (advance >>= fun _ => continuation) (plain >>= continuation')

namespace Delivers

variable [DecidableEq Name] {advance : Scratch Name Value Exception M Unit} {name : Name}
  {computation : Scratch Name Value Exception M Value} {plain : ExceptT Exception M Value}

theorem of_prepared (name : Name) (known : Prepared advance computation plain) :
    Delivers (advance >>= fun _ => computation >>= store name) name plain := by
  intro β continuation continuation' second
  rw [bind_assoc]
  simp only [bind_assoc]
  exact known _ _ _ second

theorem prepared (known : Delivers advance name plain) : Prepared advance (fetch name) plain := by
  intro β continuation continuation' second
  refine known _ _ _ fun value => ?_
  rw [store_fetch]
  exact (second value).stored name value

end Delivers

structure Stands (advance : Scratch Name Value Exception M Unit) (computation source : Scratch Name Value Exception M α)
    (plain : ExceptT Exception M α) (moves : Nat) (silent ordered : Bool) : Prop where
  still : moves = 0 → advance = Pure.pure () ∧ computation = source
  agrees : Agrees source plain
  silences : silent = true → moves = 0 ∧ ∃ result, source = Pure.pure result ∧ plain = Pure.pure result
  prepared : ordered = true → Prepared advance computation plain

structure Follows (advance : Scratch Name Value Exception M Unit) (computation source : α → Scratch Name Value Exception M β)
    (plain : α → ExceptT Exception M β) (moves : Nat) (silent : Bool) : Prop where
  still : moves = 0 → advance = Pure.pure () ∧ computation = source
  agrees : ∀ value, Agrees (source value) (plain value)
  silences : silent = true →
    moves = 0 ∧ ∀ value, ∃ result, source value = Pure.pure result ∧ plain value = Pure.pure result

namespace Stands

variable {advance advance' : Scratch Name Value Exception M Unit} {computation source : Scratch Name Value Exception M α}
  {plain : ExceptT Exception M α} {computation' source' : Scratch Name Value Exception M β}
  {plain' : ExceptT Exception M β} {moves moves' : Nat} {silent silent' ordered ordered' : Bool}

theorem pure (result : α) :
    Stands (Pure.pure ()) (Pure.pure result) (Pure.pure result : Scratch Name Value Exception M α) (Pure.pure result)
      0 true true :=
  ⟨fun _ => ⟨rfl,rfl⟩,.pure _,fun _ => ⟨rfl,result,rfl,rfl⟩,fun _ => .of_agrees (.pure _)⟩

omit [LawfulMonad M] in
theorem mono (known : Stands advance computation source plain moves silent ordered) (same : moves' = moves)
    (quiet : silent' = true → silent = true) (late : ordered' = true → ordered = true) :
    Stands advance computation source plain moves' silent' ordered' :=
  ⟨fun none => known.still (same ▸ none),known.agrees,fun now => same ▸ known.silences (quiet now),
    fun now => known.prepared (late now)⟩

omit [LawfulMonad M] in
theorem unmoved (known : Stands advance computation source plain moves silent ordered) (none : moves = 0) :
    advance = Pure.pure () ∧ Agrees computation plain := by
  rcases known.still none with ⟨same,rfl⟩
  exact ⟨same,known.agrees⟩

theorem sequel {computation' source' : α → Scratch Name Value Exception M β} {plain' : α → ExceptT Exception M β}
    (first : Stands advance computation source plain moves silent ordered)
    (second : Follows advance' computation' source' plain' moves' silent') :
    Stands (advance >>= fun _ => advance') (computation >>= computation') (source >>= source') (plain >>= plain')
      (moves + moves') (silent && silent') (moves' == 0 && ordered) where
  still := by
    intro none
    rcases Nat.add_eq_zero_iff.1 none with ⟨none,none'⟩
    rcases first.still none with ⟨rfl,rfl⟩
    rcases second.still none' with ⟨rfl,rfl⟩
    exact ⟨pure_bind _ _,rfl⟩
  agrees := first.agrees.bind second.agrees
  silences := by
    intro quiet
    rw [Bool.and_eq_true] at quiet
    rcases first.silences quiet.1 with ⟨none,result,same,same'⟩
    rcases second.silences quiet.2 with ⟨none',results⟩
    rcases results result with ⟨last,equal,equal'⟩
    refine ⟨by rw [none,none'],last,?_,?_⟩
    · rw [same,pure_bind,equal]
    · rw [same',pure_bind,equal']
  prepared := by
    intro order
    rw [Bool.and_eq_true,beq_iff_eq] at order
    rcases second.still order.1 with ⟨rfl,rfl⟩
    rw [bind_pure_unit]
    exact (first.prepared order.2).followed second.agrees

theorem followed {continuation : α → Scratch Name Value Exception M β} {continuation' : α → ExceptT Exception M β}
    (first : Stands advance computation source plain moves silent ordered)
    (second : ∀ result, Agrees (continuation result) (continuation' result)) :
    Stands advance (computation >>= continuation) (source >>= continuation) (plain >>= continuation')
      moves false ordered where
  still := by
    intro none
    rcases first.still none with ⟨same,rfl⟩
    exact ⟨same,rfl⟩
  agrees := first.agrees.bind second
  silences := by simp
  prepared := fun order => (first.prepared order).followed second

theorem mapped (change : α → β) (first : Stands advance computation source plain moves silent ordered) :
    Stands advance (computation >>= fun result => Pure.pure (change result))
      (source >>= fun result => Pure.pure (change result)) (plain >>= fun result => Pure.pure (change result))
      moves silent ordered where
  still := by
    intro none
    rcases first.still none with ⟨same,rfl⟩
    exact ⟨same,rfl⟩
  agrees := first.agrees.bind fun _ => .pure _
  silences := by
    intro quiet
    rcases first.silences quiet with ⟨none,result,rfl,rfl⟩
    exact ⟨none,change result,pure_bind _ _,pure_bind _ _⟩
  prepared := fun order => (first.prepared order).followed fun _ => .pure _

theorem both {γ : Type} {continuation : α → β → Scratch Name Value Exception M γ}
    {continuation' : α → β → ExceptT Exception M γ}
    (first : Stands advance computation source plain moves silent ordered)
    (second : Stands advance' computation' source' plain' moves' silent' ordered')
    (third : ∀ result result', Agrees (continuation result result') (continuation' result result')) :
    Stands (advance >>= fun _ => advance')
      (computation >>= fun result => computation' >>= fun result' => continuation result result')
      (source >>= fun result => source' >>= fun result' => continuation result result')
      (plain >>= fun result => plain' >>= fun result' => continuation' result result') (moves + moves') false
      (moves' == 0 && ordered || silent && ordered') := by
  have later : ∀ result, Agrees (source' >>= continuation result) (plain' >>= continuation' result) :=
    fun result => second.agrees.bind (third result)
  have still : moves' = 0 → advance' = Pure.pure () ∧
      (fun result => computation' >>= continuation result) = fun result => source' >>= continuation result := by
    intro none
    rcases second.still none with ⟨same,rfl⟩
    exact ⟨same,rfl⟩
  have behind : Follows advance' _ _ (fun result => plain' >>= continuation' result) moves' false :=
    ⟨still,later,by simp⟩
  have plainly := first.sequel behind
  refine ⟨plainly.still,plainly.agrees,by simp,fun order => ?_⟩
  rcases Bool.or_eq_true _ _ ▸ order with order | order
  · exact plainly.prepared order
  · rw [Bool.and_eq_true] at order
    rcases first.silences order.1 with ⟨none,result,rfl,rfl⟩
    rcases first.still none with ⟨rfl,rfl⟩
    rw [pure_bind,pure_bind,pure_bind]
    exact (second.prepared order.2).followed (third result)

theorem both_mapped {γ : Type} (combine : α → β → γ)
    (first : Stands advance computation source plain moves silent ordered)
    (second : Stands advance' computation' source' plain' moves' silent' ordered') :
    Stands (advance >>= fun _ => advance')
      (computation >>= fun result => computation' >>= fun result' => Pure.pure (combine result result'))
      (source >>= fun result => source' >>= fun result' => Pure.pure (combine result result'))
      (plain >>= fun result => plain' >>= fun result' => Pure.pure (combine result result')) (moves + moves')
      (silent && silent') (moves' == 0 && ordered || silent && ordered') := by
  have combined : ∀ result result', Agrees (Pure.pure (combine result result') : Scratch Name Value Exception M γ)
      (Pure.pure (combine result result')) := fun _ _ => .pure _
  have whole := first.both second combined
  refine ⟨whole.still,whole.agrees,fun quiet => ?_,whole.prepared⟩
  rw [Bool.and_eq_true] at quiet
  rcases first.silences quiet.1 with ⟨none,result,rfl,rfl⟩
  rcases second.silences quiet.2 with ⟨none',result',rfl,rfl⟩
  exact ⟨by rw [none,none'],combine result result',by simp,by simp⟩

omit [LawfulMonad M] in
theorem anyway {γ : Type} (known : Stands advance computation source plain moves silent ordered) :
    Follows advance (fun _ : γ => computation) (fun _ => source) (fun _ => plain) moves silent where
  still := by
    intro none
    rcases known.still none with ⟨same,rfl⟩
    exact ⟨same,rfl⟩
  agrees := fun _ => known.agrees
  silences := by
    intro quiet
    rcases known.silences quiet with ⟨none,result⟩
    exact ⟨none,fun _ => result⟩

theorem behind {γ δ ε : Type} {between : γ → Scratch Name Value Exception M δ} {between' : γ → ExceptT Exception M δ}
    {continuation : γ → δ → α → Scratch Name Value Exception M ε} {continuation' : γ → δ → α → ExceptT Exception M ε}
    (known : Stands advance computation source plain moves silent ordered)
    (first : ∀ value, Agrees (between value) (between' value))
    (third : ∀ value other result, Agrees (continuation value other result) (continuation' value other result)) :
    Follows advance (fun value => between value >>= fun other => computation >>= continuation value other)
      (fun value => between value >>= fun other => source >>= continuation value other)
      (fun value => between' value >>= fun other => plain >>= continuation' value other) moves false where
  still := by
    intro none
    rcases known.still none with ⟨same,rfl⟩
    exact ⟨same,rfl⟩
  agrees := fun value => (first value).bind fun other => known.agrees.bind (third value other)
  silences := by simp

theorem lifted [DecidableEq Name] {continuation : α → Scratch Name Value Exception M Value}
    {continuation' : α → ExceptT Exception M Value} (name : Name)
    (first : Stands advance computation source plain moves silent ordered)
    (second : ∀ result, Agrees (continuation result) (continuation' result)) :
    Stands ((computation >>= continuation) >>= fun value => store name value >>= fun _ => advance)
      (fetch name) (source >>= continuation) (plain >>= continuation') (moves + 1) false (moves == 0) where
  still := by simp
  agrees := first.agrees.bind second
  silences := by simp
  prepared := by
    intro none
    rcases first.still (beq_iff_eq.1 none) with ⟨rfl,rfl⟩
    intro β last last' third
    have known := (first.agrees.bind second).bind fun value => (third value).stored name value
    have fetched : ∀ value, (store name value >>= fun _ => fetch name >>= last) =
        (store name value >>= fun _ => last value) := fun value => store_fetch name value last
    simpa only [bind_assoc,bind_pure_unit,fetched] using known

end Stands

namespace Follows

variable {γ : Type} {advance advance' : Scratch Name Value Exception M Unit}
  {computation source computation' source' : α → Scratch Name Value Exception M β}
  {plain plain' : α → ExceptT Exception M β} {moves moves' : Nat} {silent silent' : Bool}

theorem pure : Follows (Pure.pure ()) Pure.pure (Pure.pure : α → Scratch Name Value Exception M α) Pure.pure 0 true :=
  ⟨fun _ => ⟨rfl,rfl⟩,fun _ => .pure _,fun _ => ⟨rfl,fun value => ⟨value,rfl,rfl⟩⟩⟩

theorem choice (test : α → Prop) [DecidablePred test] (first : Follows advance computation source plain moves silent)
    (second : Follows advance' computation' source' plain' moves' silent') :
    Follows (advance >>= fun _ => advance') (fun value => if test value then computation value else computation' value)
      (fun value => if test value then source value else source' value)
      (fun value => if test value then plain value else plain' value) (moves + moves') (silent && silent') where
  still := by
    intro none
    rcases Nat.add_eq_zero_iff.1 none with ⟨none,none'⟩
    rcases first.still none with ⟨rfl,rfl⟩
    rcases second.still none' with ⟨rfl,rfl⟩
    exact ⟨pure_bind _ _,rfl⟩
  agrees := by
    intro value
    split
    · exact first.agrees value
    · exact second.agrees value
  silences := by
    intro quiet
    rw [Bool.and_eq_true] at quiet
    rcases first.silences quiet.1 with ⟨none,results⟩
    rcases second.silences quiet.2 with ⟨none',results'⟩
    refine ⟨by rw [none,none'],fun value => ?_⟩
    split
    · exact results value
    · exact results' value

theorem choosing {between source'' : Scratch Name Value Exception M γ} {plain'' : ExceptT Exception M γ}
    {advance'' : Scratch Name Value Exception M Unit} {moves'' : Nat} {silent'' ordered'' : Bool}
    (test : α → γ → Prop) [∀ value other, Decidable (test value other)]
    (first : Stands advance'' between source'' plain'' moves'' silent'' ordered'')
    (second : Follows advance computation source plain moves silent)
    (third : Follows advance' computation' source' plain' moves' silent') :
    Follows (advance'' >>= fun _ => advance >>= fun _ => advance')
      (fun value => between >>= fun other => if test value other then computation value else computation' value)
      (fun value => source'' >>= fun other => if test value other then source value else source' value)
      (fun value => plain'' >>= fun other => if test value other then plain value else plain' value)
      (moves'' + (moves + moves')) false where
  still := by
    intro none
    rcases Nat.add_eq_zero_iff.1 none with ⟨none,others⟩
    rcases Nat.add_eq_zero_iff.1 others with ⟨none',none''⟩
    rcases first.still none with ⟨rfl,rfl⟩
    rcases second.still none' with ⟨rfl,rfl⟩
    rcases third.still none'' with ⟨rfl,rfl⟩
    exact ⟨by rw [pure_bind,pure_bind],rfl⟩
  agrees := by
    intro value
    refine first.agrees.bind fun other => ?_
    split
    · exact second.agrees value
    · exact third.agrees value
  silences := by simp

end Follows

end Scratch

end Scratch

end ShardScript.Library
