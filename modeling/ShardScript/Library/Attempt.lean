import Mathlib.Data.Bool.Basic

/-! Computations with a state that may fail, and keep what they have done to the state when they do. -/
namespace ShardScript.Library

def Attempt (State α : Type) := State → Option α × State

namespace Attempt

variable {State α β : Type}

instance : Monad (Attempt State) where
  pure result := fun state => (some result,state)
  bind attempt continuation := fun state =>
    match attempt state with
    | (none,after) => (none,after)
    | (some result,after) => continuation result after

theorem run_bind (attempt : Attempt State α) (continuation : α → Attempt State β) (state : State) :
    (attempt >>= continuation) state = match attempt state with
      | (none,after) => (none,after)
      | (some result,after) => continuation result after := rfl

/-- The attempt fails in the one case, in every state, and what it gives in the other case is as it should be. -/
def Gives (attempt : Attempt State α) (fails : Bool) (holds : State → α → State → Prop) : Prop :=
  ∀ state, match attempt state with
    | (none,_) => fails = true
    | (some result,after) => fails = false ∧ holds state result after

variable {attempt : Attempt State α} {continuation : α → Attempt State β} {fails fails' : Bool}
  {holds holds' : State → α → State → Prop} {after : State → β → State → Prop}

namespace Gives

theorem pure {result : α} (known : ∀ state, holds state result state) :
    Gives (Pure.pure result : Attempt State α) false holds :=
  fun state => ⟨rfl,known state⟩

theorem bindKnown (first : Gives attempt fails holds)
    (second : ∀ result, (∃ state middle, holds state result middle) → Gives (continuation result) fails'
      fun middle result' state' => ∀ state, holds state result middle → after state result' state') :
    Gives (attempt >>= continuation) (fails || fails') after := by
  intro state
  have one := first state
  rw [run_bind]
  cases known : attempt state with
  | mk outcome middle =>
    rw [known] at one
    cases outcome with
    | none =>
      simp only at one
      simp [one]
    | some result =>
      simp only at one ⊢
      have two := second result ⟨state,middle,one.2⟩ middle
      rw [one.1,Bool.false_or]
      split at two
      · exact two
      · exact ⟨two.1,two.2 state one.2⟩

theorem bind (first : Gives attempt fails holds)
    (second : ∀ result, Gives (continuation result) fails' fun middle result' state' =>
      ∀ state, holds state result middle → after state result' state') :
    Gives (attempt >>= continuation) (fails || fails') after :=
  first.bindKnown fun result _ => second result

theorem followed (first : Gives attempt fails holds)
    (second : ∀ result, Gives (continuation result) false fun middle result' state' =>
      ∀ state, holds state result middle → after state result' state') :
    Gives (attempt >>= continuation) fails after := by
  have both := first.bind second
  rwa [Bool.or_false] at both

theorem map {change : α → β} (first : Gives attempt fails holds)
    (known : ∀ state result state', holds state result state' → after state (change result) state') :
    Gives (do let result ← attempt; Pure.pure (change result)) fails after :=
  first.followed fun result => .pure fun middle state holds => known state result middle holds

theorem mono (gives : Gives attempt fails holds) (same : fails = fails')
    (implies : ∀ state result after, holds state result after → holds' state result after) :
    Gives attempt fails' holds' := by
  intro state
  have known := gives state
  split at known
  · exact same ▸ known
  · exact ⟨same ▸ known.1,implies _ _ _ known.2⟩

theorem same (gives : Gives attempt fails holds) (same : fails = fails') : Gives attempt fails' holds :=
  same ▸ gives

end Gives

def Yields (attempt : Attempt State α) (holds : α → Prop) : Prop :=
  ∀ state result after, attempt state = (some result,after) → holds result

namespace Yields

variable {attempt : Attempt State α} {continuation : α → Attempt State β} {holds holds' : α → Prop} {after : β → Prop}

theorem pure {result : α} (known : holds result) : Yields (Pure.pure result : Attempt State α) holds := by
  rintro state _ _ ⟨⟩
  exact known

theorem bind (first : Yields attempt holds) (second : ∀ result, holds result → Yields (continuation result) after) :
    Yields (attempt >>= continuation) after := by
  intro state result state' come
  rw [run_bind] at come
  cases known : attempt state with
  | mk outcome middle =>
    rw [known] at come
    cases outcome with
    | none => cases come
    | some between => exact second between (first _ _ _ known) _ _ _ come

theorem failing (fails : ∀ state, (attempt state).1 = none) : Yields attempt holds := by
  intro state result after come
  have failed := fails state
  rw [come] at failed
  cases failed

theorem mono (yields : Yields attempt holds) (implies : ∀ result, holds result → holds' result) :
    Yields attempt holds' :=
  fun _ _ _ come => implies _ (yields _ _ _ come)

theorem and (one : Yields attempt holds) (two : Yields attempt holds') :
    Yields attempt fun result => holds result ∧ holds' result :=
  fun _ _ _ come => ⟨one _ _ _ come,two _ _ _ come⟩

theorem map {change : α → β} (first : Yields attempt holds) (known : ∀ result, holds result → after (change result)) :
    Yields (do let result ← attempt; Pure.pure (change result)) after :=
  first.bind fun result holds => .pure (known result holds)

end Yields

theorem Gives.yields {attempt : Attempt State α} {fails : Bool} {holds : α → Prop}
    (gives : Gives attempt fails fun _ result _ => holds result) : Yields attempt holds := by
  intro state result after come
  have known := gives state
  rw [come] at known
  exact known.2

end Attempt

end ShardScript.Library
