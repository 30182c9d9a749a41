import Mathlib.Tactic.Common
import Mathlib.Data.List.Basic
import Mathlib.Tactic.Ring

/-! Memory of cells, which may not have been written yet, and texts in it that end at a mark. -/
namespace ShardScript.Library.Buffer

variable {Letter : Type}

def write (cells : List (Option Letter)) (position : Nat) (letters : List Letter) : List (Option Letter) :=
  cells.take position ++ letters.map some ++ cells.drop (position + letters.length)

@[grind] def readUntil (isMark : Letter → Bool) : List (Option Letter) → Option (List Letter)
  | some letter :: behind => if isMark letter then some [] else (readUntil isMark behind).map (letter :: ·)
  | _ => none

theorem length_write {cells : List (Option Letter)} {position : Nat} {letters : List Letter}
    (fits : position + letters.length ≤ cells.length) : (write cells position letters).length = cells.length := by
  simp only [write,List.length_append,List.length_take,List.length_map,List.length_drop]
  omega

theorem write_behind (before letters : List Letter) (behind : List (Option Letter)) :
    write (before.map some ++ behind) before.length letters =
      (before ++ letters).map some ++ behind.drop letters.length := by
  have end' : before.length = (before.map (some : Letter → Option Letter)).length :=
    (List.length_map some).symm
  rw [write,end',List.take_left,List.drop_append,List.map_append,List.drop_of_length_le (by omega),List.nil_append,
    Nat.add_sub_cancel_left]

theorem readUntil_marked {isMark : Letter → Bool} {mark : Letter} (ends : isMark mark = true) (letters : List Letter)
    (behind : List (Option Letter)) :
    readUntil isMark (letters.map some ++ some mark :: behind) = some (letters.takeWhile (!isMark ·)) := by
  induction letters with
  | nil => rw [List.map_nil,List.nil_append,readUntil,if_pos ends,List.takeWhile_nil]
  | cons letter letters ih =>
    rw [List.map_cons,List.cons_append,readUntil,ih]
    cases known : isMark letter with
    | true => rw [if_pos rfl,List.takeWhile_cons_of_neg (by simp [known])]
    | false => rw [if_neg Bool.false_ne_true,List.takeWhile_cons_of_pos (by simp [known]),Option.map_some]

end ShardScript.Library.Buffer

/-! Little-endian images of natural numbers: the bytes that a fixed-width unsigned
integer occupies in memory, and the number that such bytes spell. -/
namespace ShardScript.Library

abbrev Bytes := List UInt8

def littleEndian : (width value : Nat) → Bytes
  | 0,_ => []
  | width+1,value => UInt8.ofNat value :: littleEndian width (value / 256)

def ofLittleEndian : Bytes → Nat
  | [] => 0
  | byte :: bytes => byte.toNat + 256 * ofLittleEndian bytes

@[simp] theorem length_littleEndian (width value : Nat) :
    (littleEndian width value).length = width := by
  induction width generalizing value with
  | zero => rfl
  | succ width ih => simp [littleEndian,ih]

@[simp] theorem ofLittleEndian_littleEndian (width value : Nat) :
    ofLittleEndian (littleEndian width value) = value % 256^width := by
  induction width generalizing value with
  | zero => simp [littleEndian,ofLittleEndian,Nat.mod_one]
  | succ width ih =>
    have low : (UInt8.ofNat value).toNat = value % 256 := by simp
    rw [littleEndian,ofLittleEndian,low,ih,Nat.pow_succ',Nat.mod_mul]

theorem ofLittleEndian_littleEndian_of_lt {width value : Nat} (fits : value < 256^width) :
    ofLittleEndian (littleEndian width value) = value := by
  rw [ofLittleEndian_littleEndian,Nat.mod_eq_of_lt fits]

def window (bytes : Bytes) (start width : Nat) : Bytes := (bytes.drop start).take width

@[simp] theorem window_append (before middle after : Bytes) :
    window (before ++ (middle ++ after)) before.length middle.length = middle := by
  simp [window]

end ShardScript.Library

/-! Signed numbers of 64 bits: which results of an operation on them are such numbers again. -/
namespace ShardScript.Library

def Fits (number : Int) : Prop := Int64.minValue.toInt ≤ number ∧ number ≤ Int64.maxValue.toInt

instance (number : Int) : Decidable (Fits number) := inferInstanceAs (Decidable (_ ∧ _))

theorem fits_neg_iff (value : Int64) : Fits (-value.toInt) ↔ value ≠ Int64.minValue := by
  have low : -2^63 ≤ value.toInt := value.le_toInt
  have high : value.toInt < 2^63 := value.toInt_lt
  have least : Int64.minValue.toInt = -2^63 := rfl
  have greatest : Int64.maxValue.toInt = 2^63 - 1 := rfl
  rw [Fits,least,greatest,ne_eq,← Int64.toInt_inj,least]
  omega

theorem ofInt_tdiv (dividend divisor : Int64) :
    Int64.ofInt (dividend.toInt.tdiv divisor.toInt) = dividend / divisor := by
  apply Int64.toInt.inj
  rw [Int64.toInt_div,Int64.toInt_ofInt]

theorem ofInt_tmod (dividend divisor : Int64) :
    Int64.ofInt (dividend.toInt.tmod divisor.toInt) = dividend % divisor := by
  apply Int64.toInt.inj
  rw [Int64.toInt_mod,Int64.toInt_ofInt,← Int64.toInt_mod]
  exact Int64.toInt_bmod _

end ShardScript.Library
