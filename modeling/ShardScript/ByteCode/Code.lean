import ShardScript.ByteCode.Instruction
import Mathlib.Tactic.SplitIfs

/-! Codes as lists of instructions addressed by byte offset. An offset that is not the start
of an instruction holds none. -/
namespace ShardScript.ByteCode

abbrev Code := List Instruction

namespace Code

def size (code : Code) : Nat := (code.map Instruction.size).sum

def fetch : Code → Nat → Option Instruction
  | [],_ => none
  | instruction :: _,0 => some instruction
  | instruction :: code,offset+1 =>
      if instruction.size ≤ offset + 1 then fetch code (offset + 1 - instruction.size) else none

def paste : Code → (offset target : Nat) → Code
  | [],_,_ => []
  | instruction :: code,0,target => instruction.withTarget 0 target :: code
  | instruction :: code,offset+1,target =>
      if instruction.size ≤ offset + 1 then instruction :: paste code (offset + 1 - instruction.size) target
      else instruction :: code

def pasteAll (code : Code) (offsets : List Nat) (target : Nat) : Code :=
  offsets.foldl (fun code offset => code.paste offset target) code

@[simp] theorem size_nil : size [] = 0 := rfl

@[simp] theorem size_cons (instruction : Instruction) (code : Code) :
    size (instruction :: code) = instruction.size + code.size := by simp [size]

@[simp] theorem size_append (left right : Code) : size (left ++ right) = left.size + right.size := by
  simp [size]

theorem fetch_cons_shift (instruction : Instruction) (code : Code) (offset : Nat) :
    fetch (instruction :: code) (instruction.size + offset) = fetch code offset := by
  have positive := instruction.size_pos
  obtain ⟨less,total⟩ : ∃ less, instruction.size + offset = less + 1 :=
    ⟨instruction.size + offset - 1,by omega⟩
  rw [total,fetch,if_pos (by omega)]
  congr 1
  omega

theorem fetch_append_right (left right : Code) (offset : Nat) :
    fetch (left ++ right) (left.size + offset) = fetch right offset := by
  induction left with
  | nil => simp
  | cons instruction left ih =>
    rw [List.cons_append,size_cons,Nat.add_assoc,fetch_cons_shift]
    exact ih

theorem fetch_size (left right : Code) (instruction : Instruction) :
    fetch (left ++ instruction :: right) left.size = some instruction :=
  fetch_append_right left (instruction :: right) 0

theorem fetch_append_left {left : Code} {offset : Nat} {instruction : Instruction} (right : Code)
    (h : fetch left offset = some instruction) : fetch (left ++ right) offset = some instruction := by
  induction left generalizing offset with
  | nil => cases h
  | cons first left ih =>
    cases offset with
    | zero => exact h
    | succ offset =>
      rw [fetch] at h
      rw [List.cons_append,fetch]
      split_ifs at h ⊢
      exact ih h

theorem lt_size_of_fetch {code : Code} {offset : Nat} {instruction : Instruction}
    (h : fetch code offset = some instruction) : offset < code.size := by
  induction code generalizing offset with
  | nil => cases h
  | cons first code ih =>
    have positive := first.size_pos
    rw [size_cons]
    cases offset with
    | zero => omega
    | succ offset =>
      rw [fetch] at h
      split_ifs at h
      have := ih h
      omega

theorem fetch_size_none (code : Code) : fetch code code.size = none := by
  cases found : fetch code code.size with
  | none => rfl
  | some instruction => exact absurd (lt_size_of_fetch found) (Nat.lt_irrefl _)

@[simp] theorem size_withTarget (instruction : Instruction) (index target : Nat) :
    (instruction.withTarget index target).size = instruction.size := by
  cases instruction <;> simp [Instruction.withTarget,Instruction.size]

@[simp] theorem size_paste (code : Code) (offset target : Nat) :
    (code.paste offset target).size = code.size := by
  induction code generalizing offset with
  | nil => rfl
  | cons first code ih =>
    cases offset with
    | zero => simp [paste]
    | succ offset =>
      rw [paste]
      split_ifs <;> simp [ih]

@[simp] theorem size_pasteAll (code : Code) (offsets : List Nat) (target : Nat) :
    (code.pasteAll offsets target).size = code.size := by
  induction offsets generalizing code with
  | nil => rfl
  | cons offset offsets ih => exact (ih _).trans (size_paste code offset target)

theorem paste_comm (code : Code) {first second : Nat} (ne : first ≠ second) (target other : Nat) :
    (code.paste first target).paste second other = (code.paste second other).paste first target := by
  induction code generalizing first second with
  | nil => rfl
  | cons instruction code ih =>
    cases first with
    | zero =>
      cases second with
      | zero => exact absurd rfl ne
      | succ second =>
        simp only [paste,size_withTarget]
        split_ifs <;> rfl
    | succ first =>
      cases second with
      | zero =>
        by_cases inside : instruction.size ≤ first + 1 <;> simp [paste,inside]
      | succ second =>
        by_cases left : instruction.size ≤ first + 1 <;> by_cases right : instruction.size ≤ second + 1
        · simp only [paste,left,right,if_true]
          rw [ih (by omega)]
        all_goals simp [paste,left,right]

theorem fetch_paste (code : Code) (offset target other : Nat) :
    fetch (code.paste offset target) other =
      if other = offset then (fetch code offset).map (Instruction.withTarget 0 target)
      else fetch code other := by
  induction code generalizing offset other with
  | nil => simp [paste,fetch]
  | cons first code ih =>
    have positive := first.size_pos
    cases offset with
    | zero =>
      cases other with
      | zero => rfl
      | succ other => simp [paste,fetch]
    | succ offset =>
      rw [paste]
      cases other with
      | zero =>
        rw [if_neg (Nat.succ_ne_zero offset).symm]
        split_ifs <;> rfl
      | succ other =>
        by_cases inside : first.size ≤ offset + 1
        · rw [if_pos inside,fetch,fetch,fetch,if_pos inside]
          by_cases past : first.size ≤ other + 1
          · rw [if_pos past,if_pos past,ih]
            by_cases same : other = offset
            · rw [if_pos (by omega),if_pos (by omega)]
            · rw [if_neg (by omega),if_neg (by omega)]
          · rw [if_neg past,if_neg past,if_neg (by omega)]
        · rw [if_neg inside]
          split_ifs with same
          · cases same
            rw [fetch,if_neg inside]
            rfl
          · rfl

end Code
end ShardScript.ByteCode

/-! Facts about every instruction between two offsets of a code. -/
namespace ShardScript.ByteCode

namespace Code

theorem fetch_inside {code : Code} {start offset : Nat} {instruction : Instruction}
    (found : code.fetch start = some instruction) (after : start < offset)
    (before : offset < start + instruction.size) : code.fetch offset = none := by
  induction code generalizing start offset with
  | nil => cases found
  | cons first code ih =>
    obtain ⟨offset,rfl⟩ := Nat.exists_eq_add_one_of_ne_zero (Nat.ne_zero_of_lt after)
    cases start with
    | zero =>
      obtain rfl : first = instruction := Option.some.inj found
      rw [fetch,if_neg (by omega)]
    | succ start =>
      simp only [fetch] at found ⊢
      split at found
      · rw [if_pos (by omega)]
        apply ih found
        · omega
        · omega
      · cases found

end Code

def Region (edge : Nat → Instruction → Prop) (code : Code) (first last : Nat) : Prop :=
  ∀ offset instruction, first ≤ offset → offset < last → code.fetch offset = some instruction →
    edge offset instruction

namespace Region

variable {edge : Nat → Instruction → Prop} {code : Code} {first middle last : Nat}

theorem nil : Region edge code first first := by
  intro offset instruction after before
  omega

theorem append (left : Region edge code first middle) (right : Region edge code middle last) :
    Region edge code first last := by
  intro offset instruction after before found
  by_cases inLeft : offset < middle
  · exact left offset instruction after inLeft found
  · exact right offset instruction (by omega) before found

theorem one {instruction : Instruction} (found : code.fetch first = some instruction)
    (holds : edge first instruction) : Region edge code first (first + instruction.size) := by
  intro offset other after before fetched
  rcases Nat.eq_or_lt_of_le after with rfl | inside
  · rw [found] at fetched
    exact Option.some.inj fetched ▸ holds
  · rw [Code.fetch_inside found inside before] at fetched
    cases fetched

end Region
end ShardScript.ByteCode
