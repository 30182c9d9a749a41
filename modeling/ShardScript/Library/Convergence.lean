import Mathlib.Data.Option.Basic

/-! Computations by fuel that have the same result whenever the fuel is enough. -/
namespace ShardScript.Library

variable {α β : Type}

def Converges (computation : Nat → Option α) (result : α) : Prop :=
  ∃ enough,∀ fuel,enough ≤ fuel → computation fuel = some result

namespace Converges

variable {computation : Nat → Option α} {result : α}

theorem pure (result : α) : Converges (fun _ => some result) result := ⟨0,fun _ _ => rfl⟩

theorem congr {computation' : Nat → Option α} (converges : Converges computation result)
    (same : ∀ fuel,computation' fuel = computation fuel) : Converges computation' result := by
  obtain ⟨enough,known⟩ := converges
  exact ⟨enough,fun fuel greater => (same fuel).trans (known fuel greater)⟩

theorem spend (converges : Converges (fun fuel => computation (fuel + 1)) result) : Converges computation result := by
  obtain ⟨enough,known⟩ := converges
  refine ⟨enough + 1,fun fuel greater => ?_⟩
  obtain ⟨fuel,rfl⟩ := Nat.exists_eq_add_of_le' (Nat.le_trans (Nat.le_add_left 1 enough) greater)
  exact known fuel (Nat.le_of_succ_le_succ greater)

theorem bind {continuation : Nat → α → Option β} {result' : β} (converges : Converges computation result)
    (continues : Converges (fun fuel => continuation fuel result) result') :
    Converges (fun fuel => (computation fuel).bind (continuation fuel)) result' := by
  obtain ⟨enough,known⟩ := converges
  obtain ⟨enough',known'⟩ := continues
  refine ⟨max enough enough',fun fuel greater => ?_⟩
  have first : computation fuel = some result := known fuel (Nat.le_trans (Nat.le_max_left ..) greater)
  have second : continuation fuel result = some result' := known' fuel (Nat.le_trans (Nat.le_max_right ..) greater)
  exact Option.bind_eq_some_iff.mpr ⟨result,first,second⟩

theorem map (change : α → β) (converges : Converges computation result) :
    Converges (fun fuel => (computation fuel).map change) (change result) := by
  obtain ⟨enough,known⟩ := converges
  exact ⟨enough,fun fuel greater => congrArg (Option.map change) (known fuel greater)⟩

theorem unique {result' : α} (converges : Converges computation result) (converges' : Converges computation result') :
    result = result' := by
  obtain ⟨enough,known⟩ := converges
  obtain ⟨enough',known'⟩ := converges'
  have first := known (max enough enough') (Nat.le_max_left ..)
  rw [known' (max enough enough') (Nat.le_max_right ..)] at first
  exact (Option.some.inj first).symm

end Converges

end ShardScript.Library
