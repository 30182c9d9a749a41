import Mathlib.Control.Monad.Basic
import Mathlib.Tactic.Choose

/-! Computations with exceptions, in any lawful monad, that come to results of some kind only. -/
namespace ShardScript.Library

variable {Exception : Type} {M : Type → Type} [Monad M] {α β : Type}

def Only (holds : α → Prop) (computation : ExceptT Exception M α) : Prop :=
  ∃ narrower : ExceptT Exception M { result // holds result }, computation = Subtype.val <$> narrower

namespace Only

variable [LawfulMonad M] {holds : α → Prop} {holds' : β → Prop} {computation other : ExceptT Exception M α}
  {continuation : α → ExceptT Exception M β}

theorem pure {result : α} (known : holds result) : Only holds (pure result : ExceptT Exception M α) :=
  ⟨Pure.pure ⟨result,known⟩,by rw [map_pure]⟩

theorem raise (exception : Exception) : Only holds (throw exception : ExceptT Exception M α) :=
  ⟨throw exception,by rw [ExceptT.map_throw]⟩

theorem bind (first : Only holds computation) (second : ∀ result, holds result → Only holds' (continuation result)) :
    Only holds' (computation >>= continuation) := by
  rcases first with ⟨narrower,rfl⟩
  choose others known using second
  refine ⟨narrower >>= fun result => others result.1 result.2,?_⟩
  rw [map_bind,bind_map_left]
  exact bind_congr fun result => known result.1 result.2

theorem behind (computation : ExceptT Exception M α) (second : ∀ result, Only holds' (continuation result)) :
    Only holds' (computation >>= continuation) := by
  choose others known using second
  refine ⟨computation >>= others,?_⟩
  rw [map_bind]
  exact bind_congr known

omit [LawfulMonad M] in
theorem choice (test : Bool) (first : Only holds computation) (second : Only holds other) :
    Only holds (if test then computation else other) := by
  cases test
  · exact second
  · exact first

theorem rescue {handler : Exception → ExceptT Exception M α} (body : Only holds computation)
    (handled : ∀ exception, Only holds (handler exception)) : Only holds (tryCatch computation handler) := by
  rcases body with ⟨narrower,rfl⟩
  choose others known using handled
  refine ⟨tryCatch narrower others,ExceptT.ext ?_⟩
  rw [ExceptT.run_map,ExceptT.run_tryCatch,ExceptT.run_tryCatch,ExceptT.run_map,bind_map_left,map_bind]
  refine bind_congr fun result => ?_
  cases result with
  | error exception => simp only [Except.map,known,ExceptT.run_map]
  | ok result => simp only [Except.map,map_pure]

theorem congr {continuation' : α → ExceptT Exception M β} (known : Only holds computation)
    (same : ∀ result, holds result → continuation result = continuation' result) :
    computation >>= continuation = computation >>= continuation' := by
  rcases known with ⟨narrower,rfl⟩
  rw [bind_map_left,bind_map_left]
  exact bind_congr fun result => same result.1 result.2

end Only

end ShardScript.Library
