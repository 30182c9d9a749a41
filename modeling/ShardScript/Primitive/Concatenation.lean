import Mathlib.Data.List.TakeWhile
import Mathlib.Tactic.NormNum
import ShardScript.Primitive.Text

/-! What comes of a concatenation does not depend on the memory, and when it is the concatenation of the texts. -/
namespace ShardScript.Primitive
open Library Instance

section Memory

def Chunk.Holds (chunk : Chunk) (text : List UInt16) : Prop := ∃ behind, chunk.cells = text.map some ++ behind

theorem Chunk.holds_nil (chunk : Chunk) : chunk.Holds [] := ⟨chunk.cells,rfl⟩

variable {chunk : Chunk}

theorem Chunk.Holds.front {text behind : List UInt16} (holds : chunk.Holds (text ++ behind)) :
    chunk.Holds text := by
  obtain ⟨rest,known⟩ := holds
  rw [List.map_append,List.append_assoc] at known
  exact ⟨_,known⟩

theorem write_behind {text : List UInt16} (holds : chunk.Holds text) (letters : List UInt16)
    (fits : text.length + letters.length ≤ chunk.cells.length) :
    ∃ after, chunk.write text.length letters = pure after ∧ after.Holds (text ++ letters) ∧
      after.cells.length = chunk.cells.length := by
  obtain ⟨behind,known⟩ := holds
  rw [Chunk.write,dif_pos fits]
  refine ⟨_,rfl,⟨behind.drop letters.length,?_⟩,Buffer.length_write fits⟩
  change Buffer.write chunk.cells text.length letters = _
  rw [known,Buffer.write_behind]

theorem write_outside {position : Nat} {letters : List UInt16}
    (outside : chunk.cells.length < position + letters.length) : chunk.write position letters = .error .undefined := by
  rw [Chunk.write,dif_neg (by omega)]
  rfl

theorem readCString_marked {text : List UInt16} (holds : chunk.Holds (text ++ [0])) :
    chunk.readCString 0 = pure (ofCString text) := by
  obtain ⟨behind,known⟩ := holds
  rw [List.map_append,List.append_assoc] at known
  rw [Chunk.readCString,List.drop_zero,known,List.map_singleton,List.singleton_append,Buffer.readUntil_marked rfl]
  rfl

theorem acquire_reset (arena : StringScratchArena) {count : Nat} (small : count < 2^62) :
    ∃ after, arena.reset.acquire count = pure (0,after) ∧ count ≤ after.chunk.cells.length := by
  rw [StringScratchArena.acquire]
  by_cases room : arena.reset.chunk.cells.length - arena.reset.cursor < count
  · have bounded : 2 * (if count < 4096 then 4096 else count) < 2^63 := by
      split
      · norm_num
      · omega
    rw [if_pos room]
    simp only [dif_pos bounded]
    refine ⟨_,rfl,?_⟩
    simp only [StringScratchArena.chunk,List.getD_eq_getElem?_getD,List.getElem?_concat_length,Option.getD_some,
      List.length_replicate]
    split
    · omega
    · exact le_refl _
  · rw [if_neg room]
    exact ⟨_,rfl,by simpa [StringScratchArena.reset,StringScratchArena.chunk] using room⟩

theorem acquire_large (arena : StringScratchArena) {count : Nat} (large : 2^62 ≤ count) :
    arena.acquire count = .error .allocationFailed := by
  have bounded := arena.chunk.bounded
  rw [StringScratchArena.acquire,if_pos (by omega)]
  simp only
  rw [dif_neg (by rw [if_neg (by omega)]; omega)]
  rfl

end Memory

section Texts

variable {Double : Type} [FloatingPoint Double]

def measured (value : Instance Double) : Nat := if value.isPrinted then negativeSize else value.textual.length

theorem formatString_measured (value : Instance Double) (chunk : Chunk) :
    formatString value none 0 chunk = pure (measured value,chunk) := by
  rw [formatString,measured]
  split
  · rfl
  · rfl

variable {value : Instance Double}

theorem formatString_printed (isPrinted : value.isPrinted = true) (dst : Nat) (chunk : Chunk) :
    formatString value (some dst) (sizeSum negativeSize 1) chunk = pure (negativeSize,chunk) := by
  have none : sizeSum negativeSize 1 = 0 := rfl
  rw [formatString,if_pos isPrinted,swprintf,none,if_neg (Nat.not_lt_zero _)]

theorem formatString_copied (copied : value.isPrinted = false) (capacity : Nat) {chunk : Chunk}
    {text : List UInt16} (holds : chunk.Holds text) (fits : text.length + value.textual.length ≤ chunk.cells.length) :
    ∃ after, formatString value (some text.length) capacity chunk = pure (value.textual.length,after) ∧
      after.Holds (text ++ value.textual) ∧ after.cells.length = chunk.cells.length := by
  obtain ⟨after,written,known⟩ := write_behind holds _ fits
  rw [formatString,if_neg (by simp [copied]),copyText]
  simp only [written]
  exact ⟨after,rfl,known⟩

theorem formatString_outside (copied : value.isPrinted = false) {dst : Nat} (capacity : Nat)
    {chunk : Chunk} (outside : chunk.cells.length < dst + value.textual.length) :
    formatString value (some dst) capacity chunk = .error .undefined := by
  rw [formatString,if_neg (by simp [copied]),copyText]
  simp only [write_outside outside]
  rfl

variable {left right : Instance Double}

theorem fillBuffer_printed_left (isPrinted : left.isPrinted = true)
    (copied : right.isPrinted = false) (rightLength : Nat) (chunk : Chunk) :
    fillBuffer left right negativeSize rightLength 0 chunk = .error .undefined := by
  have bounded := chunk.bounded
  have outside : chunk.cells.length < 0 + negativeSize + right.textual.length := by
    rw [negativeSize]
    omega
  rw [fillBuffer,formatString_printed isPrinted,pure_bind,formatString_outside copied _ outside]
  rfl

theorem fillBuffer_printed_right (copied : left.isPrinted = false)
    (isPrinted : right.isPrinted = true) (chunk : Chunk) (fits : left.textual.length ≤ chunk.cells.length)
    (present : left.textual ≠ []) :
    ∃ after, fillBuffer left right left.textual.length negativeSize 0 chunk =
      pure (ofCString left.textual.dropLast,after) := by
  have bounded := chunk.bounded
  have some := List.length_pos_iff.2 present
  have last : 0 + sizeSum left.textual.length negativeSize = left.textual.dropLast.length := by
    rw [List.length_dropLast,sizeSum,negativeSize]
    omega
  obtain ⟨first,written,holds,same⟩ := formatString_copied copied (sizeSum left.textual.length 1) chunk.holds_nil
    (by simpa using fits)
  rw [List.nil_append,← List.dropLast_concat_getLast present] at holds
  obtain ⟨after,marked,ends,_⟩ := write_behind holds.front [0]
    (by rw [List.length_dropLast,List.length_singleton]; omega)
  rw [List.length_nil] at written
  refine ⟨after,?_⟩
  rw [fillBuffer,written,pure_bind,formatString_printed isPrinted,pure_bind,last,marked,pure_bind,readCString_marked ends,
    pure_bind]

theorem fillBuffer_copied (copied : left.isPrinted = false)
    (copied' : right.isPrinted = false) (chunk : Chunk)
    (fits : left.textual.length + right.textual.length < chunk.cells.length) :
    ∃ after, fillBuffer left right left.textual.length right.textual.length 0 chunk =
      pure (ofCString (left.textual ++ right.textual),after) := by
  have bounded := chunk.bounded
  have last : sizeSum left.textual.length right.textual.length = (left.textual ++ right.textual).length := by
    rw [List.length_append,sizeSum]
    omega
  obtain ⟨first,written,holds,same⟩ := formatString_copied copied (sizeSum left.textual.length 1) chunk.holds_nil
    (by rw [List.length_nil]; omega)
  rw [List.nil_append] at holds
  obtain ⟨second,written',holds',same'⟩ := formatString_copied copied' (sizeSum right.textual.length 1) holds
    (by omega)
  obtain ⟨after,marked,ends,_⟩ := write_behind holds' [0]
    (by rw [List.length_append,List.length_singleton]; omega)
  rw [List.length_nil] at written
  refine ⟨after,?_⟩
  rw [fillBuffer,written,pure_bind,Nat.zero_add,written',pure_bind,Nat.zero_add,last,marked,pure_bind,
    readCString_marked ends,pure_bind]

theorem fillBuffer_large (copied : left.isPrinted = false) (rightLength : Nat)
    {chunk : Chunk} (large : chunk.cells.length < left.textual.length) :
    fillBuffer left right left.textual.length rightLength 0 chunk = .error .undefined := by
  rw [fillBuffer,formatString_outside copied _ (by omega)]
  rfl

theorem fillBuffer_outside (copied : left.isPrinted = false)
    (copied' : right.isPrinted = false) {chunk : Chunk}
    (outside : chunk.cells.length < left.textual.length + right.textual.length + 1) :
    fillBuffer left right left.textual.length right.textual.length 0 chunk = .error .undefined := by
  have bounded := chunk.bounded
  by_cases fits : left.textual.length ≤ chunk.cells.length
  · obtain ⟨first,written,holds,same⟩ := formatString_copied copied (sizeSum left.textual.length 1) chunk.holds_nil
      (by rw [List.length_nil]; omega)
    rw [List.nil_append] at holds
    rw [List.length_nil] at written
    rw [fillBuffer,written,pure_bind,Nat.zero_add]
    by_cases fits' : left.textual.length + right.textual.length ≤ first.cells.length
    · obtain ⟨second,written',_,same'⟩ := formatString_copied copied' (sizeSum right.textual.length 1) holds fits'
      have mark : second.cells.length < 0 + sizeSum left.textual.length right.textual.length + [0].length := by
        rw [sizeSum,List.length_singleton]
        omega
      rw [written',pure_bind,write_outside mark]
      rfl
    · rw [formatString_outside copied' _ (Nat.lt_of_not_le fits')]
      rfl
  · exact fillBuffer_large copied _ (Nat.lt_of_not_le fits)

theorem fillBuffer_printed_alone (copied : left.isPrinted = false)
    (isPrinted : right.isPrinted = true) (chunk : Chunk) (absent : left.textual = []) :
    fillBuffer left right left.textual.length negativeSize 0 chunk = .error .undefined := by
  have none : left.textual.length = 0 := by rw [absent,List.length_nil]
  obtain ⟨first,written,_,same⟩ := formatString_copied copied (sizeSum left.textual.length 1) chunk.holds_nil
    (by rw [none]; exact Nat.zero_le _)
  have bounded := first.bounded
  have mark : first.cells.length < 0 + sizeSum left.textual.length negativeSize + [0].length := by
    rw [none,sizeSum,negativeSize,List.length_singleton]
    omega
  rw [List.length_nil] at written
  rw [fillBuffer,written,pure_bind,formatString_printed isPrinted,pure_bind,write_outside mark]
  rfl

def concatenated (left right : Instance Double) : Except Failure (List UInt16) :=
  if 2^62 ≤ sizeSum (measured left + measured right) 1 then throw .allocationFailed
  else if left.isPrinted = true ∨ 2^62 ≤ left.textual.length then throw .undefined
  else if right.isPrinted then
    if left.textual = [] then throw .undefined else pure (ofCString left.textual.dropLast)
  else if 2^62 ≤ left.textual.length + right.textual.length + 1 then throw .undefined
  else pure (ofCString (left.textual ++ right.textual))

theorem fillBuffer_eq (left right : Instance Double) (chunk : Chunk)
    (small : sizeSum (measured left + measured right) 1 < 2^62)
    (room : sizeSum (measured left + measured right) 1 ≤ chunk.cells.length) :
    (fillBuffer left right (measured left) (measured right) 0 chunk).map Prod.fst = concatenated left right := by
  have bounded := chunk.bounded
  rw [concatenated,if_neg (Nat.not_le.2 small)]
  cases copied : left.isPrinted with
  | true =>
    rw [if_pos (.inl rfl),measured,if_pos copied]
    cases copied' : right.isPrinted with
    | true =>
      rw [measured,measured,if_pos copied,if_pos copied',sizeSum,negativeSize] at small
      omega
    | false =>
      rw [fillBuffer_printed_left copied copied']
      rfl
  | false =>
    have length : measured left = left.textual.length := by rw [measured,if_neg (by simp [copied])]
    rw [length] at room small ⊢
    by_cases large : 2^62 ≤ left.textual.length
    · rw [if_pos (.inr large),fillBuffer_large copied _ (by omega)]
      rfl
    rw [if_neg (not_or.2 ⟨Bool.false_ne_true,large⟩)]
    cases copied' : right.isPrinted with
    | true =>
      have length' : measured right = negativeSize := by rw [measured,if_pos copied']
      rw [if_pos rfl,length']
      rw [length',sizeSum,negativeSize] at room
      by_cases absent : left.textual = []
      · rw [if_pos absent,fillBuffer_printed_alone copied copied' chunk absent]
        rfl
      · obtain ⟨after,filled⟩ := fillBuffer_printed_right copied copied' chunk (by omega) absent
        rw [if_neg absent,filled]
        rfl
    | false =>
      have length' : measured right = right.textual.length := by rw [measured,if_neg (by simp [copied'])]
      rw [if_neg Bool.false_ne_true,length']
      rw [length',sizeSum] at room
      by_cases large' : 2^62 ≤ left.textual.length + right.textual.length + 1
      · rw [if_pos large',fillBuffer_outside copied copied' (by omega)]
        rfl
      · obtain ⟨after,filled⟩ := fillBuffer_copied copied copied' chunk (by omega)
        rw [if_neg large',filled]
        rfl

theorem concatenate_eq (arena : StringScratchArena) (left right : Instance Double) :
    (concatenate arena left right).map Prod.fst = concatenated left right := by
  rw [concatenate,formatString_measured,pure_bind,formatString_measured,pure_bind]
  by_cases small : sizeSum (measured left + measured right) 1 < 2^62
  · obtain ⟨after,acquired,room⟩ := acquire_reset arena small
    rw [acquired,pure_bind,← fillBuffer_eq left right after.chunk small room]
    cases fillBuffer left right (measured left) (measured right) 0 after.chunk with
    | error failure => rfl
    | ok filled => rfl
  · rw [acquire_large _ (Nat.le_of_not_lt small),concatenated,if_pos (Nat.le_of_not_lt small)]
    rfl

def IsWritten (left right : Instance Double) : Prop :=
  left.isPrinted = false ∧ right.isPrinted = false ∧ 0 ∉ left.textual ∧ 0 ∉ right.textual ∧
    2 * (left.textual.length + right.textual.length + 1) < 2^63

theorem ofCString_eq_self {text : List UInt16} : ofCString text = text ↔ 0 ∉ text := by
  rw [ofCString,List.takeWhile_eq_self_iff]
  simp only [bne_iff_ne,ne_eq]
  exact ⟨fun differs zero => differs 0 zero rfl,fun none letter known same => none (same ▸ known)⟩

theorem length_ofCString_le (text : List UInt16) : (ofCString text).length ≤ text.length :=
  (List.takeWhile_sublist _).length_le

theorem concatenated_eq_append (left right : Instance Double) :
    concatenated left right = .ok (left.textual ++ right.textual) ↔ IsWritten left right := by
  rw [concatenated,IsWritten]
  constructor
  · intro same
    split at same
    · cases same
    split at same
    · cases same
    rename_i copied
    rw [not_or,Bool.not_eq_true] at copied
    split at same
    · split at same
      · cases same
      · -- The last letter of the left text is lost.
        injection same with same
        have lost := congrArg List.length same
        have short := length_ofCString_le left.textual.dropLast
        rename_i present
        have some := List.length_pos_iff.2 present
        rw [List.length_append] at lost
        rw [List.length_dropLast] at short
        omega
    · rename_i copied'
      rw [Bool.not_eq_true] at copied'
      split at same
      · cases same
      · injection same with same
        have none := ofCString_eq_self.1 same
        rw [List.mem_append,not_or] at none
        exact ⟨copied.1,copied',none.1,none.2,by omega⟩
  · intro written
    obtain ⟨copied,copied',none,none',small⟩ := written
    have both : 0 ∉ left.textual ++ right.textual := by
      rw [List.mem_append,not_or]
      exact ⟨none,none'⟩
    rw [measured,measured,copied,copied',if_neg Bool.false_ne_true,if_neg Bool.false_ne_true,
      if_neg (by rw [sizeSum]; omega),if_neg (by simp only [Bool.false_eq_true,false_or]; omega),
      if_neg Bool.false_ne_true,if_neg (by omega),ofCString_eq_self.2 both]
    rfl

def IsConcatenable (left right : Instance Double) : Prop :=
  left.isPrinted = false ∧
    if right.isPrinted then left.textual ≠ [] ∧ 2 * left.textual.length < 2^63
    else 2 * (left.textual.length + right.textual.length + 1) < 2^63

theorem concatenated_isOk (left right : Instance Double) :
    (∃ text, concatenated left right = .ok text) ↔ IsConcatenable left right := by
  rw [concatenated,IsConcatenable]
  constructor
  · intro given
    obtain ⟨text,given⟩ := given
    split at given
    · cases given
    split at given
    · cases given
    rename_i copied
    rw [not_or,Bool.not_eq_true] at copied
    refine ⟨copied.1,?_⟩
    split at given
    · rename_i isPrinted
      split at given
      · cases given
      · rename_i present
        rw [if_pos isPrinted]
        exact ⟨present,by omega⟩
    · rename_i copied'
      split at given
      · cases given
      · rw [if_neg copied']
        omega
  · intro concatenable
    obtain ⟨copied,small⟩ := concatenable
    have length : measured left = left.textual.length := by rw [measured,if_neg (by simp [copied])]
    rw [length,measured]
    split at small
    · rename_i isPrinted
      rw [if_pos isPrinted,if_pos isPrinted,if_neg (by rw [sizeSum,negativeSize]; omega),
        if_neg (by simp only [copied,Bool.false_eq_true,false_or]; omega),if_neg small.1]
      exact ⟨_,rfl⟩
    · rename_i copied'
      rw [if_neg copied',if_neg copied',if_neg (by rw [sizeSum]; omega),
        if_neg (by simp only [copied,Bool.false_eq_true,false_or]; omega),if_neg (by omega)]
      exact ⟨_,rfl⟩

theorem concatenate_failure {arena : StringScratchArena} {failure : Failure}
    (failed : concatenate arena left right = .error failure) : failure = .allocationFailed ∨ failure = .undefined := by
  have same := concatenate_eq arena left right
  rw [failed,concatenated] at same
  split at same
  · cases same
    exact .inl rfl
  split at same
  · cases same
    exact .inr rfl
  split at same
  · split at same
    · cases same
      exact .inr rfl
    · cases same
  · split at same
    · cases same
      exact .inr rfl
    · cases same

def concatenateAll (arena : StringScratchArena) :
    List (Instance Double × Instance Double) → Except Failure (List (List UInt16))
  | [] => pure []
  | pair :: pairs => do
      let first ← concatenate arena pair.1 pair.2
      let behind ← concatenateAll first.2 pairs
      pure (first.1 :: behind)

theorem concatenateAll_cons (arena : StringScratchArena) (pair : Instance Double × Instance Double)
    (pairs : List (Instance Double × Instance Double)) (text : List UInt16) (texts : List (List UInt16)) :
    concatenateAll arena (pair :: pairs) = .ok (text :: texts) ↔ ∃ after,
      concatenate arena pair.1 pair.2 = .ok (text,after) ∧ concatenateAll after pairs = .ok texts := by
  rw [concatenateAll]
  cases known : concatenate arena pair.1 pair.2 with
  | error failure =>
    constructor
    · intro same
      cases same
    · intro same
      obtain ⟨after,same,_⟩ := same
      cases same
  | ok first =>
    rw [show (Except.ok first : Except Failure _) = pure first from rfl,pure_bind]
    cases behind : concatenateAll first.2 pairs with
    | error failure =>
      constructor
      · intro same
        cases same
      · intro same
        obtain ⟨after,same,given⟩ := same
        cases same
        rw [behind] at given
        cases given
    | ok rest =>
      constructor
      · intro same
        cases same
        exact ⟨first.2,rfl,behind⟩
      · intro same
        obtain ⟨after,same,given⟩ := same
        cases same
        rw [behind] at given
        cases given
        rfl

theorem concatenate_ok (arena : StringScratchArena) (left right : Instance Double) (text : List UInt16) :
    (∃ after, concatenate arena left right = .ok (text,after)) ↔ concatenated left right = .ok text := by
  rw [← concatenate_eq arena]
  cases concatenate arena left right with
  | error failure =>
    constructor
    · intro same
      obtain ⟨_,same⟩ := same
      cases same
    · intro same
      cases same
  | ok filled =>
    constructor
    · intro same
      obtain ⟨after,same⟩ := same
      cases same
      rfl
    · intro same
      cases same
      exact ⟨filled.2,rfl⟩

/-- The texts of all concatenations, whatever memory they are done in. -/
theorem concatenateAll_texts (arena : StringScratchArena) (pairs : List (Instance Double × Instance Double)) :
    concatenateAll arena pairs = .ok (pairs.map fun pair => pair.1.textual ++ pair.2.textual) ↔
      ∀ pair ∈ pairs, IsWritten pair.1 pair.2 := by
  induction pairs generalizing arena with
  | nil => exact ⟨fun _ pair member => absurd member List.not_mem_nil,fun _ => rfl⟩
  | cons pair pairs ih =>
    rw [List.map_cons,concatenateAll_cons,List.forall_mem_cons,← concatenated_eq_append]
    constructor
    · intro all
      obtain ⟨after,first,behind⟩ := all
      exact ⟨(concatenate_ok arena _ _ _).1 ⟨after,first⟩,(ih after).1 behind⟩
    · intro all
      obtain ⟨after,first⟩ := (concatenate_ok arena _ _ _).2 all.1
      exact ⟨after,first,(ih after).2 all.2⟩

end Texts

/-- `"abc" + 5` is `"ab"`, and `5 + "a"` is written in front of the memory. -/
theorem printed_text_lost :
    concatenateAll {} [((.string [97,98,99] : Instance Int64),.integer 5)] = .ok [[97,98]] ∧
      concatenateAll {} [((.integer 5 : Instance Int64),.string [97])] = .error .undefined := by
  constructor
  · obtain ⟨after,given⟩ := (concatenate_ok {} (.string [97,98,99] : Instance Int64) (.integer 5) [97,98]).2 rfl
    exact (concatenateAll_cons _ _ _ _ _).2 ⟨after,given,rfl⟩
  · have failed : concatenated (.integer 5 : Instance Int64) (.string [97]) = .error .undefined := rfl
    rw [← concatenate_eq {}] at failed
    rw [concatenateAll]
    cases outcome : concatenate {} (.integer 5 : Instance Int64) (.string [97]) with
    | error failure =>
      rw [outcome] at failed
      cases failed
      rfl
    | ok filled =>
      rw [outcome] at failed
      cases failed

end ShardScript.Primitive
