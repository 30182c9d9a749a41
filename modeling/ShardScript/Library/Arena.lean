import Mathlib.Algebra.BigOperators.Group.List.Basic
import Mathlib.Algebra.GroupWithZero.Nat
import ShardScript.Library.Storage

/-! Entries that lie in storage one behind another, each of them with an image in front and as much room as it takes. -/
namespace ShardScript.Library

structure Arena (Entry Cell : Type) where
  image : Entry → List Cell
  stride : Entry → Nat
  fits : ∀ entry, (image entry).length ≤ stride entry

namespace Arena

variable {Entry Cell : Type} (arena : Arena Entry Cell)

def total (entries : List Entry) : Nat := (entries.map arena.stride).sum

def Laid (storage : Storage Cell) : Nat → List Entry → Prop
  | _,[] => True
  | first,entry :: entries =>
      storage.read first (arena.image entry).length = arena.image entry ∧ Laid storage (first + arena.stride entry) entries

@[simp] theorem total_nil : arena.total [] = 0 := rfl

@[simp] theorem total_cons (entry : Entry) (entries : List Entry) :
    arena.total (entry :: entries) = arena.stride entry + arena.total entries := by
  rw [total,total,List.map_cons,List.sum_cons]

@[simp] theorem total_append (entries behind : List Entry) :
    arena.total (entries ++ behind) = arena.total entries + arena.total behind := by
  rw [total,total,total,List.map_append,List.sum_append]

@[simp] theorem total_reverse (entries : List Entry) : arena.total entries.reverse = arena.total entries := by
  rw [total,total,List.map_reverse,List.sum_reverse]

variable {arena} {storage : Storage Cell}

theorem laid_append {first : Nat} {entries behind : List Entry} :
    arena.Laid storage first (entries ++ behind) ↔
      arena.Laid storage first entries ∧ arena.Laid storage (first + arena.total entries) behind := by
  induction entries generalizing first with
  | nil => simp [Laid]
  | cons entry entries ih =>
    rw [List.cons_append,Laid,Laid,ih,total_cons,and_assoc,Nat.add_assoc]

theorem laid_congr {storage' : Storage Cell} {first : Nat} {entries : List Entry}
    (same : ∀ place, first ≤ place → place < first + arena.total entries → storage' place = storage place)
    (laid : arena.Laid storage first entries) : arena.Laid storage' first entries := by
  induction entries generalizing first with
  | nil => trivial
  | cons entry entries ih =>
    obtain ⟨image,rest⟩ := laid
    rw [total_cons] at same
    have fits := arena.fits entry
    constructor
    · apply Eq.trans _ image
      apply Storage.read_congr
      intro place below above
      exact same place below (by omega)
    · apply ih _ rest
      intro place below above
      exact same place (by omega) (by omega)

theorem laid_entry {first : Nat} {before behind : List Entry} {entry : Entry}
    (laid : arena.Laid storage first (before ++ entry :: behind)) :
    storage.read (first + arena.total before) (arena.image entry).length = arena.image entry :=
  (laid_append.1 laid).2.1

end Arena

end ShardScript.Library
