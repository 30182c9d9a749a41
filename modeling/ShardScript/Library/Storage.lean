import Mathlib.Data.List.GetD

/-! Storage in numbered cells, and blocks of cells that are written to it. -/
namespace ShardScript.Library

abbrev Storage (Cell : Type) := Nat → Cell

structure Block (Cell : Type) where
  first : Nat
  cells : List Cell

namespace Block

variable {Cell : Type}

def next (block : Block Cell) : Nat := block.first + block.cells.length

theorem next_mk (first : Nat) (cells : List Cell) : next ⟨first,cells⟩ = first + cells.length := rfl

def Inside (block : Block Cell) (first next : Nat) : Prop := first ≤ block.first ∧ block.next ≤ next

end Block

namespace Storage

variable {Cell : Type} (storage : Storage Cell)

def write (block : Block Cell) : Storage Cell := fun place =>
  if block.first ≤ place then block.cells.getD (place - block.first) (storage place) else storage place

def writeAll (blocks : List (Block Cell)) : Storage Cell := blocks.foldl write storage

def read (first count : Nat) : List Cell :=
  (List.range count).map fun index => storage (first + index)

@[simp] theorem length_read (first count : Nat) : (storage.read first count).length = count := by
  rw [read,List.length_map,List.length_range]

theorem getElem_read {first count index : Nat}
    (inside : index < (storage.read first count).length) : (storage.read first count)[index] = storage (first + index) := by
  simp [read]

theorem write_outside {block : Block Cell} {place : Nat}
    (outside : place < block.first ∨ block.next ≤ place) : storage.write block place = storage place := by
  rw [write]
  obtain below | above := outside
  · rw [if_neg (by omega)]
  · rw [Block.next] at above
    rw [if_pos (by omega),List.getD_eq_default _ _ (by omega)]

theorem write_inside (block : Block Cell) {index : Nat} (inside : index < block.cells.length) :
    storage.write block (block.first + index) = block.cells[index] := by
  rw [write,if_pos (by omega),Nat.add_sub_cancel_left,List.getD_eq_getElem _ _ inside]

theorem read_congr {storage storage' : Storage Cell} {first count : Nat}
    (same : ∀ place, first ≤ place → place < first + count → storage place = storage' place) :
    storage.read first count = storage'.read first count := by
  apply List.map_congr_left
  intro index inside
  rw [List.mem_range] at inside
  exact same _ (by omega) (by omega)

theorem read_add (first count more : Nat) :
    storage.read first (count + more) = storage.read first count ++ storage.read (first + count) more := by
  rw [read,read,read,List.range_add,List.map_append,List.map_map]
  congr 1
  apply List.map_congr_left
  intro index _
  rw [Function.comp_apply,Nat.add_assoc]

theorem read_write (block : Block Cell) :
    (storage.write block).read block.first block.cells.length = block.cells := by
  apply List.ext_getElem (length_read _ _ _)
  intro index inside inside'
  rw [getElem_read,write_inside _ _ inside']

theorem read_write_outside {block : Block Cell} {first count : Nat}
    (apart : first + count ≤ block.first ∨ block.next ≤ first) :
    (storage.write block).read first count = storage.read first count := by
  apply read_congr
  intro place below above
  apply write_outside
  omega

theorem writeAll_outside {first next place : Nat} (outside : place < first ∨ next ≤ place) (blocks : List (Block Cell))
    (storage : Storage Cell) (inside : ∀ block ∈ blocks, block.Inside first next) :
    storage.writeAll blocks place = storage place := by
  induction blocks generalizing storage with
  | nil => rfl
  | cons block blocks ih =>
    rw [List.forall_mem_cons] at inside
    obtain ⟨⟨below,above⟩,rest⟩ := inside
    rw [writeAll,List.foldl_cons,← writeAll,ih _ rest]
    apply write_outside
    omega

end Storage

end ShardScript.Library
