import ShardScript.ByteCode.ReadBack

/-! Instruction boundaries: a code written by the encoder, read back by the interpreter. -/
namespace ShardScript.ByteCode
open Library TriviallyCopyable Encoder

/-- An instruction of the code: where its emission started, how long the data section was
then, and where it ended. -/
structure Written where
  start : Nat
  dataOrigin : Nat
  instruction : Instruction
  stop : Nat
  deriving DecidableEq

namespace Written

def visit (written : Written) : Visit :=
  ⟨written.start,written.instruction.opCode,written.instruction.operands,written.stop⟩

def image (written : Written) : Bytes := written.instruction.image written.dataOrigin

def backpatch (index value : Nat) (written : Written) : Written :=
  { written with instruction := written.instruction.withTarget index value }

end Written

structure Session where
  buffers : Buffers
  log : List Written

/-- The sessions that `Emit*` calls and backpatches of code offsets produce. Between two calls
other methods may add to the data section. -/
inductive Session.Reached : Session → Prop where
  | start (data : Bytes) (small : data.length ≤ maxSize) : Reached ⟨⟨[],data⟩,[]⟩
  | emit {session : Session} {instruction : Instruction} {buffers : Buffers}
      (reached : Reached session) (typed : instruction.Typed)
      (emitted : instruction.emit session.buffers = some buffers) :
      Reached ⟨buffers,session.log ++
        [⟨session.buffers.code.length,session.buffers.data.length,instruction,buffers.code.length⟩]⟩
  | elsewhere {session : Session} {extra data : Bytes} (reached : Reached session)
      (appended : appendData session.buffers.data extra = some data) :
      Reached ⟨⟨session.buffers.code,data⟩,session.log⟩
  | backpatch {buffers : Buffers} {before after : List Written} {written : Written} {code : Bytes}
      (index value : Nat)
      (reached : Reached ⟨buffers,before ++ written :: after⟩)
      (site : index < written.instruction.targets.length) (typed : value < 2^64)
      (pasted : pasteData buffers.code (written.start + written.instruction.targetSite + index * 8)
        (image (UInt64.ofNat value)) = some code) :
      Reached ⟨⟨code,buffers.data⟩,before ++ written.backpatch index value :: after⟩

/-- Reading the code from offset 0 visits the emissions, one after the other: each where it
started, with its operation code and its operands, up to where it ended. -/
def Session.ReadsBack (session : Session) : Prop :=
  readAll session.buffers = some (session.log.map Written.visit)

instance (session : Session) : Decidable session.ReadsBack :=
  inferInstanceAs (Decidable (readAll session.buffers = some (session.log.map Written.visit)))

def Laid : Nat → List Written → Nat → Prop
  | start,[],stop => start = stop
  | start,written :: rest,stop => written.start = start ∧
      written.stop = start + written.instruction.size ∧ Laid written.stop rest stop

theorem Laid.append {start middle stop : Nat} {left right : List Written}
    (h : Laid start left middle) (k : Laid middle right stop) : Laid start (left ++ right) stop := by
  induction left generalizing start with
  | nil =>
    cases h
    exact k
  | cons written left ih =>
    obtain ⟨starts,stops,rest⟩ := h
    exact ⟨starts,stops,ih rest⟩

theorem Laid.split {start stop : Nat} {left right : List Written} (h : Laid start (left ++ right) stop) :
    ∃ middle, Laid start left middle ∧ Laid middle right stop := by
  induction left generalizing start with
  | nil => exact ⟨start,rfl,h⟩
  | cons written left ih =>
    obtain ⟨starts,stops,rest⟩ := h
    obtain ⟨middle,before,after⟩ := ih rest
    exact ⟨middle,⟨starts,stops,before⟩,after⟩

theorem Laid.length {start stop : Nat} {log : List Written} (h : Laid start log stop) :
    start + (log.flatMap Written.image).length = stop := by
  induction log generalizing start with
  | nil => exact h
  | cons written log ih =>
    obtain ⟨starts,stops,rest⟩ := h
    have := ih rest
    rw [List.flatMap_cons,List.length_append,Written.image,Instruction.length_image]
    omega

structure Session.Coherent (session : Session) : Prop where
  code : session.buffers.code = session.log.flatMap Written.image
  laid : Laid 0 session.log session.buffers.code.length
  typed : ∀ written ∈ session.log, written.instruction.Typed
  text : ∀ written ∈ session.log,
    written.instruction.TextAt session.buffers.data written.dataOrigin
  small : session.buffers.data.length ≤ maxSize

variable {instruction : Instruction}

theorem Instruction.TextAt.append {data : Bytes} {dataOrigin : Nat}
    (extra : Bytes) (h : instruction.TextAt data dataOrigin) :
    instruction.TextAt (data ++ extra) dataOrigin := by
  cases instruction with
  | loadConstString value =>
    obtain ⟨small,spelled⟩ := h
    refine ⟨small,?_⟩
    by_cases inside : dataOrigin ≤ data.length
    · rw [List.drop_append_of_le_length inside]
      exact wideString_append extra spelled
    · rw [List.drop_eq_nil_of_le (by omega)] at spelled
      cases spelled
  | _ => trivial

theorem Instruction.textAt_emitted (data : Bytes) (instruction : Instruction)
    (small : data.length ≤ maxSize) :
    instruction.TextAt (data ++ instruction.dataImage) data.length := by
  cases instruction with
  | loadConstString value =>
    refine ⟨Nat.lt_of_le_of_lt small (by decide),?_⟩
    rw [List.drop_left,Instruction.dataImage,← List.append_nil (List.flatMap _ _)]
    apply wideString_image
    intro character member
    have kept := List.mem_takeWhile_imp (show character ∈ value.takeWhile (· ≠ 0) from member)
    exact of_decide_eq_true kept
  | _ => trivial

theorem Instruction.TextAt.withTarget {data : Bytes} {dataOrigin : Nat}
    (h : instruction.TextAt data dataOrigin) (index value : Nat) :
    (instruction.withTarget index value).TextAt data dataOrigin := by
  cases instruction with
  | loadConstString text => exact h
  | _ => trivial

theorem Instruction.Typed.withTarget {value : Nat}
    (h : instruction.Typed) (index : Nat) (typed : value < 2^64) :
    (instruction.withTarget index value).Typed := by
  cases instruction with
  | jump old | jumpTrue old | jumpFalse old | branchNull old | enterTry old | defer old =>
    intro target member
    rw [List.mem_singleton.mp member]
    exact typed
  | jumpTable targets =>
    intro target member
    rcases List.mem_or_eq_of_mem_set member with old | rfl
    · exact h target old
    · exact typed
  | _ => exact h

theorem Instruction.image_withTarget (instruction : Instruction) (dataOrigin index value : Nat)
    (site : index < instruction.targets.length) :
    ∃ before old after, instruction.image dataOrigin = before ++ (old ++ after) ∧
      (instruction.withTarget index value).image dataOrigin =
        before ++ (TriviallyCopyable.image (UInt64.ofNat value) ++ after) ∧
      before.length = instruction.targetSite + index * 8 ∧ old.length = 8 := by
  cases instruction with
  | jumpTable targets =>
    have inside : index < targets.length := site
    refine ⟨TriviallyCopyable.image OpCode.jumpTable.word ++
        (TriviallyCopyable.image (UInt32.ofNat targets.length) ++
          (targets.take index).flatMap fun target => TriviallyCopyable.image (UInt64.ofNat target)),
      TriviallyCopyable.image (UInt64.ofNat targets[index]),
      (targets.drop (index+1)).flatMap fun target => TriviallyCopyable.image (UInt64.ofNat target),
      ?_,?_,?_,TriviallyCopyable.length_image _⟩
    · have split := congrArg (List.flatMap fun target => TriviallyCopyable.image (UInt64.ofNat target))
        (List.take_append_drop index targets)
      rw [List.drop_eq_getElem_cons inside,List.flatMap_append,List.flatMap_cons] at split
      simp only [image,operandImage,opCode,List.append_assoc,← split]
    · simp only [image,operandImage,opCode,withTarget,List.length_set]
      simp only [List.append_assoc,List.set_eq_take_append_cons_drop,if_pos inside,
        List.flatMap_append,List.flatMap_cons]
    · have short : index ≤ targets.length := Nat.le_of_lt site
      simp [targetSite,byteSize,short]
      omega
  | jump old | jumpTrue old | jumpFalse old | branchNull old | enterTry old | defer old =>
    have first : index = 0 := by simpa [targets] using site
    subst first
    exact ⟨_,_,[],(by simp only [image,operandImage,List.append_nil]; rfl),
      (by simp only [image,operandImage,List.append_nil,withTarget]; rfl),
      TriviallyCopyable.length_image _,TriviallyCopyable.length_image _⟩
  | _ => simp [targets] at site

theorem pasteData_inside {before old after new : Bytes} (same : old.length = new.length) :
    pasteData (before ++ (old ++ after)) before.length new = some (before ++ (new ++ after)) := by
  have inside : ¬ before.length + new.length > (before ++ (old ++ after)).length := by
    simp only [List.length_append]
    omega
  rw [pasteData,if_neg inside,List.take_left,← same,List.drop_append,List.drop_eq_nil_of_le (by omega),
    Nat.add_sub_cancel_left,List.drop_left,List.nil_append,List.append_assoc]

namespace Session

variable {session : Session}

theorem Coherent.emit {buffers : Buffers}
    (coherent : session.Coherent) (typed : instruction.Typed)
    (emitted : instruction.emit session.buffers = some buffers) :
    Coherent ⟨buffers,session.log ++
      [⟨session.buffers.code.length,session.buffers.data.length,instruction,buffers.code.length⟩]⟩ := by
  obtain ⟨code,data,small⟩ := Instruction.emit_image emitted
  have ends : buffers.code.length = session.buffers.code.length + instruction.size := by simp [code]
  refine ⟨?_,?_,?_,?_,small coherent.small⟩
  · simp [code,Written.image,← coherent.code]
  · exact coherent.laid.append ⟨rfl,ends,rfl⟩
  · intro written member
    rcases List.mem_append.mp member with old | new
    · exact coherent.typed written old
    · cases List.mem_singleton.mp new
      exact typed
  · intro written member
    change written.instruction.TextAt buffers.data written.dataOrigin
    rw [data]
    rcases List.mem_append.mp member with old | new
    · exact (coherent.text written old).append _
    · cases List.mem_singleton.mp new
      exact Instruction.textAt_emitted _ _ coherent.small

theorem Coherent.elsewhere {extra data : Bytes} (coherent : session.Coherent)
    (appended : appendData session.buffers.data extra = some data) :
    Coherent ⟨⟨session.buffers.code,data⟩,session.log⟩ := by
  obtain ⟨rfl,small⟩ := appendData_some appended
  exact ⟨coherent.code,coherent.laid,coherent.typed,
    fun written member => (coherent.text written member).append _,small⟩

theorem Coherent.backpatch {buffers : Buffers} {before after : List Written} {written : Written}
    {index value : Nat} {code : Bytes} (coherent : Coherent ⟨buffers,before ++ written :: after⟩)
    (site : index < written.instruction.targets.length) (typed : value < 2^64)
    (pasted : pasteData buffers.code (written.start + written.instruction.targetSite + index * 8)
      (image (UInt64.ofNat value)) = some code) :
    Coherent ⟨⟨code,buffers.data⟩,before ++ written.backpatch index value :: after⟩ := by
  obtain ⟨left,old,right,was,becomes,length,width⟩ :=
    written.instruction.image_withTarget written.dataOrigin index value site
  obtain ⟨middle,laidBefore,starts,stops,laidAfter⟩ := coherent.laid.split
  have position : written.start + written.instruction.targetSite + index * 8 =
      (before.flatMap Written.image ++ left).length := by
    have := laidBefore.length
    rw [List.length_append,length]
    omega
  have whole : buffers.code = before.flatMap Written.image ++ left ++
      (old ++ (right ++ after.flatMap Written.image)) := by
    rw [coherent.code]
    simp [Written.image,was]
  have written' : code = before.flatMap Written.image ++ left ++
      (image (UInt64.ofNat value) ++ (right ++ after.flatMap Written.image)) := by
    rw [whole,position,pasteData_inside (by rw [width,length_image]; rfl)] at pasted
    exact (Option.some.inj pasted).symm
  have size : (written.instruction.withTarget index value).size = written.instruction.size := by
    cases written.instruction <;> simp [Instruction.withTarget,Instruction.size]
  have sameLength : code.length = buffers.code.length := by
    simp [whole,written',width,byteSize]
  refine ⟨?_,?_,?_,?_,coherent.small⟩
  · simp [written',Written.image,Written.backpatch,becomes]
  · rw [sameLength]
    exact laidBefore.append ⟨starts,by rw [Written.backpatch,size]; exact stops,laidAfter⟩
  · intro other member
    rcases List.mem_append.mp member with old | new
    · exact coherent.typed other (List.mem_append_left _ old)
    · rcases List.mem_cons.mp new with rfl | new
      · exact (coherent.typed written (by simp)).withTarget index typed
      · exact coherent.typed other (by simp [new])
  · intro other member
    rcases List.mem_append.mp member with old | new
    · exact coherent.text other (List.mem_append_left _ old)
    · rcases List.mem_cons.mp new with rfl | new
      · exact (coherent.text written (by simp)).withTarget index value
      · exact coherent.text other (by simp [new])

theorem Reached.coherent (reached : session.Reached) : session.Coherent := by
  induction reached with
  | start data small => exact ⟨rfl,rfl,by simp,by simp,small⟩
  | emit _ typed emitted ih => exact ih.emit typed emitted
  | elsewhere _ appended ih => exact ih.elsewhere appended
  | backpatch _ _ _ site typed pasted ih => exact ih.backpatch site typed pasted

end Session

theorem walk_laid {data before : Bytes} {log : List Written} {start stop fuel : Nat}
    (starts : before.length = start) (laid : Laid start log stop)
    (typed : ∀ written ∈ log, written.instruction.Typed)
    (text : ∀ written ∈ log, written.instruction.TextAt data written.dataOrigin)
    (enough : (log.flatMap Written.image).length ≤ fuel) :
    walk data fuel ⟨before ++ log.flatMap Written.image,start⟩ = some (log.map Written.visit) ↔
      ∀ written ∈ log, written.instruction.Decodable := by
  induction log generalizing before start fuel with
  | nil =>
    have eof : Decoder.isEOF ⟨before ++ List.flatMap Written.image [],start⟩ = true := by
      simp [Decoder.isEOF,starts]
    cases fuel <;> simp only [walk,eof,if_true] <;> simp
  | cons written log ih =>
    obtain ⟨atStart,atStop,rest⟩ := laid
    have positive := written.instruction.size_pos
    have total : ((written :: log).flatMap Written.image).length =
        written.instruction.size + (log.flatMap Written.image).length := by
      simp [Written.image]
    obtain ⟨fuel,rfl⟩ : ∃ less, fuel = less + 1 := ⟨fuel - 1,by omega⟩
    have cursor : Decoder.At ⟨before ++ (written :: log).flatMap Written.image,start⟩
        (written.instruction.image written.dataOrigin) :=
      ⟨before,log.flatMap Written.image,rfl,starts.symm⟩
    have more : Decoder.isEOF ⟨before ++ (written :: log).flatMap Written.image,start⟩ = false := by
      have inside : ¬ start ≥ (before ++ (written :: log).flatMap Written.image).length := by
        rw [List.length_append,total]
        omega
      exact decide_eq_false inside
    have visited := Instruction.visit_image cursor (typed written (List.mem_cons_self))
      (text written (List.mem_cons_self))
    have step : walk data (fuel+1) ⟨before ++ (written :: log).flatMap Written.image,start⟩ =
        (walk data fuel ⟨before ++ (written :: log).flatMap Written.image,
          start + written.instruction.readSize⟩).map
            (⟨start,written.instruction.opCode,written.instruction.readOperands,
              start + written.instruction.readSize⟩ :: ·) := by
      rw [walk,more,visited,Option.map_eq_bind]
      rfl
    rw [step,List.map_cons,List.forall_mem_cons]
    by_cases decodable : written.instruction.Decodable
    · have next : before ++ (written :: log).flatMap Written.image =
          (before ++ written.image) ++ log.flatMap Written.image := by simp
      have ends : (before ++ written.image).length = written.stop := by
        simp [Written.image,starts,atStop]
      have tail := ih ends rest
        (fun other member => typed other (List.mem_cons_of_mem _ member))
        (fun other member => text other (List.mem_cons_of_mem _ member))
        (show (log.flatMap Written.image).length ≤ fuel by omega)
      have seen : written.visit = ⟨start,written.instruction.opCode,
          written.instruction.readOperands,written.stop⟩ := by
        rw [Written.visit,(Instruction.readOperands_eq_iff _).mpr decodable,atStart]
      rw [decodable.readSize_eq,← atStop,next,seen,← tail]
      constructor
      · intro read
        obtain ⟨visits,found,same⟩ := Option.map_eq_some_iff.mp read
        rw [found,(List.cons.inj same).2]
        exact ⟨decodable,rfl⟩
      · rintro ⟨_,found⟩
        rw [found]
        rfl
    · constructor
      · intro read
        obtain ⟨visits,_,same⟩ := Option.map_eq_some_iff.mp read
        have operands := congrArg Visit.operands (List.cons.inj same).1
        exact absurd ((Instruction.readOperands_eq_iff _).mp operands) decodable
      · intro all
        exact absurd all.1 decodable

/-- The interpreter reads a code back as it was emitted exactly when no 8-bit constant is
negative and no jump table has 2^32 targets or more. -/
theorem readsBack_iff_decodable {session : Session} (reached : session.Reached) :
    session.ReadsBack ↔ ∀ written ∈ session.log, written.instruction.Decodable := by
  have coherent := reached.coherent
  have walked := walk_laid (show ([] : Bytes).length = 0 from rfl) coherent.laid
    coherent.typed coherent.text (show _ ≤ session.buffers.code.length by rw [← coherent.code])
  rw [List.nil_append,← coherent.code] at walked
  exact walked

/-- A jump emitted with target 0, and backpatched to the end of the code. -/
theorem reached_backpatched_jump :
    Session.Reached ⟨⟨[1,0,17,0,12,0,0,0,0,0,0,0],[]⟩,[⟨0,0,.nop,2⟩,⟨2,0,.jump 12,12⟩]⟩ := by
  have start : Session.Reached ⟨⟨[],[]⟩,[]⟩ := .start [] (Nat.zero_le _)
  have nop : Session.Reached ⟨⟨[1,0],[]⟩,[⟨0,0,.nop,2⟩]⟩ :=
    .emit start (by intro target member; cases member) rfl
  have jump : Session.Reached
      ⟨⟨[1,0,17,0,0,0,0,0,0,0,0,0],[]⟩,[⟨0,0,.nop,2⟩] ++ [⟨2,0,.jump 0,12⟩]⟩ :=
    .emit nop (by intro target member; cases List.mem_singleton.mp member; decide) rfl
  exact Session.Reached.backpatch 0 12 jump (by decide) (by decide) rfl

theorem readsBack_backpatched_jump :
    Session.ReadsBack ⟨⟨[1,0,17,0,12,0,0,0,0,0,0,0],[]⟩,[⟨0,0,.nop,2⟩,⟨2,0,.jump 12,12⟩]⟩ :=
  (readsBack_iff_decodable reached_backpatched_jump).mpr (by simp [Instruction.Decodable])

theorem Session.Coherent.readsBack {session : Session} (coherent : session.Coherent)
    (decodable : ∀ written ∈ session.log, written.instruction.Decodable) : session.ReadsBack := by
  have walked := walk_laid (show ([] : Bytes).length = 0 from rfl) coherent.laid
    coherent.typed coherent.text (show _ ≤ session.buffers.code.length by rw [← coherent.code])
  rw [List.nil_append,← coherent.code] at walked
  exact walked.mpr decodable

/-- Two sessions with the same bytes have emitted the same instructions with the same operands, if these can be decoded. -/
theorem visits_unique {session session' : Session} (reached : session.Reached) (reached' : session'.Reached)
    (same : session.buffers = session'.buffers) (decodable : ∀ written ∈ session.log, written.instruction.Decodable)
    (decodable' : ∀ written ∈ session'.log, written.instruction.Decodable) :
    session.log.map Written.visit = session'.log.map Written.visit := by
  have read : readAll session.buffers = _ := reached.coherent.readsBack decodable
  have read' : readAll session'.buffers = _ := reached'.coherent.readsBack decodable'
  exact Option.some.inj (read.symm.trans (same ▸ read'))

/-- A jump that is backpatched, and one emitted with its target behind another method's byte of data. -/
theorem visits_unique_backpatched_jump :
    ([⟨0,0,.nop,2⟩,⟨2,0,.jump 12,12⟩] : List Written).map Written.visit =
      ([⟨0,1,.nop,2⟩,⟨2,1,.jump 12,12⟩] : List Written).map Written.visit := by
  have grown : Session.Reached ⟨⟨[1,0,17,0,12,0,0,0,0,0,0,0],[7]⟩,[⟨0,0,.nop,2⟩,⟨2,0,.jump 12,12⟩]⟩ :=
    .elsewhere reached_backpatched_jump (show appendData [] [7] = some [7] from rfl)
  have nop : Session.Reached ⟨⟨[1,0],[7]⟩,[⟨0,1,.nop,2⟩]⟩ :=
    .emit (.start [7] (by decide)) (by intro target member; cases member) rfl
  have jump : Session.Reached
      ⟨⟨[1,0,17,0,12,0,0,0,0,0,0,0],[7]⟩,[⟨0,1,.nop,2⟩] ++ [⟨2,1,.jump 12,12⟩]⟩ :=
    .emit nop (by intro target member; cases List.mem_singleton.mp member; decide) rfl
  exact visits_unique grown jump rfl (by simp [Instruction.Decodable]) (by simp [Instruction.Decodable])

/-- The constant -1 is written as the byte 255, and read as 255. -/
theorem negative_constant_not_readBack :
    ∃ session : Session, session.Reached ∧ ¬ session.ReadsBack := by
  refine ⟨⟨⟨[6,0,255],[]⟩,[⟨0,0,.loadConstInt8 (-1),3⟩]⟩,?_,by decide⟩
  exact .emit (.start [] (Nat.zero_le _)) (by intro target member; cases member) rfl

end ShardScript.ByteCode
