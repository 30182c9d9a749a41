import Mathlib.Control.Monad.Basic

/-! Computations that keep a journal of what they do. -/
namespace ShardScript.Library

section Journal

variable {Event State Exception α β : Type}

abbrev Journal (Event State Exception : Type) := ExceptT Exception (StateM (List Event × State))

namespace Journal

def note (event : Event) (action : State → Except Exception α × State) : Journal Event State Exception α :=
  ExceptT.mk fun world => ((action world.2).1,(world.1 ++ [event],(action world.2).2))

def events (computation : Journal Event State Exception α) (state : State) : List Event :=
  (computation.run.run ([],state)).2.1

def Goes (computation : Journal Event State Exception α) (state : State) (noted : List Event)
    (outcome : Except Exception α) (after : State) : Prop :=
  ∀ before, computation.run.run (before,state) = (outcome,(before ++ noted,after))

namespace Goes

variable {computation : Journal Event State Exception α} {continuation : α → Journal Event State Exception β}
  {state middle after : State} {noted noted' : List Event} {outcome : Except Exception α} {outcome' : Except Exception β}

theorem pure (result : α) (state : State) :
    Goes (pure result : Journal Event State Exception α) state [] (.ok result) state := by
  intro before
  rw [List.append_nil]
  rfl

theorem note (event : Event) (action : State → Except Exception α × State) (state : State) :
    Goes (Journal.note event action) state [event] (action state).1 (action state).2 := fun _ => rfl

theorem bind {result : α} (first : Goes computation state noted (.ok result) middle)
    (second : Goes (continuation result) middle noted' outcome' after) :
    Goes (computation >>= continuation) state (noted ++ noted') outcome' after := by
  intro before
  have known := second (before ++ noted)
  rw [List.append_assoc] at known
  rw [ExceptT.run_bind,StateT.run_bind,first before]
  exact known

theorem stopped {exception : Exception} (first : Goes computation state noted (.error exception) after) :
    Goes (computation >>= continuation) state noted (.error exception) after := by
  intro before
  rw [ExceptT.run_bind,StateT.run_bind,first before]
  rfl

theorem events_eq (goes : Goes computation state noted outcome after) : events computation state = noted := by
  rw [events,goes []]
  rfl

theorem unique {outcome'' : Except Exception α} (goes : Goes computation state noted outcome after)
    (goes' : Goes computation state noted' outcome'' middle) : noted = noted' ∧ outcome = outcome'' ∧ after = middle := by
  have same := (goes []).symm.trans (goes' [])
  injection same with same same'
  injection same' with same' same''
  exact ⟨same',same,same''⟩

end Goes

end Journal

end Journal

end ShardScript.Library
