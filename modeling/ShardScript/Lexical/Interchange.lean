import ShardScript.Lexical.SourceProvider

/-! When the two sources of tokens answer alike. -/
namespace ShardScript.Lexical

variable {locale : Locale}

section Tokens

def tokensWithin (locale : Locale) : Nat → Reader → List SyntaxToken
  | 0,_ => []
  | fuel + 1,reader =>
      match readNextToken locale reader with
      | (some token,reader) => token :: tokensWithin locale fuel reader
      | (none,_) => []

def tokens (locale : Locale) (reader : Reader) : List SyntaxToken := tokensWithin locale (reader.size + 1) reader

variable {reader next : Reader}

theorem readNextToken_shorter {token : SyntaxToken}
    (read : readNextToken locale reader = (some token,next)) : next.size < reader.size := by
  have size := readNextToken_size locale reader
  rw [read] at size
  simp only [Option.toList_some,List.length_singleton] at size
  omega

theorem tokensWithin_enough {fuel more : Nat} {reader : Reader} (enough : reader.size < fuel) (greater : fuel ≤ more) :
    tokensWithin locale more reader = tokensWithin locale fuel reader := by
  induction fuel generalizing reader more with
  | zero => omega
  | succ fuel ih =>
      obtain ⟨more,rfl⟩ := Nat.exists_eq_add_of_le greater
      rw [Nat.add_right_comm,tokensWithin,tokensWithin]
      split
      · next read =>
          have := readNextToken_shorter read
          rw [ih (by omega) (by omega)]
      · rfl

theorem tokens_some {token : SyntaxToken}
    (read : readNextToken locale reader = (some token,next)) :
    tokens locale reader = token :: tokens locale next := by
  rw [tokens,tokensWithin,read]
  simp only
  rw [tokens,tokensWithin_enough (Nat.lt_succ_self _) (readNextToken_shorter read)]

theorem tokens_none (read : readNextToken locale reader = (none,next)) :
    tokens locale reader = [] := by
  rw [tokens,tokensWithin,read]

theorem populateFrom_eq {fuel : Nat} {reader : Reader} (sequence : List SyntaxToken) (enough : reader.size < fuel) :
    LexicalBuffer.populateFrom locale fuel ⟨[],reader⟩ sequence = some (sequence ++ tokens locale reader) := by
  induction fuel generalizing reader sequence with
  | zero => omega
  | succ fuel ih =>
      rcases read : readNextToken locale reader with ⟨_ | token,next⟩
      · simp [LexicalBuffer.populateFrom,LexicalAnalyzer.canConsume,LexicalAnalyzer.current,LexicalAnalyzer.consume,
          LexicalAnalyzer.push,read,tokens_none read,SyntaxToken.endOfFile,SyntaxToken.of]
      · have type := readNextToken_type (congrArg Prod.fst read)
        have shorter := readNextToken_shorter read
        simp [LexicalBuffer.populateFrom,LexicalAnalyzer.canConsume,LexicalAnalyzer.current,LexicalAnalyzer.consume,
          LexicalAnalyzer.push,read,type,tokens_some read,ih (sequence ++ [token]) (by omega : next.size < fuel)]

theorem ofText_eq (name : String) (text : List Char) :
    LexicalBuffer.ofText locale name text = some ⟨tokens locale (.of name text),0⟩ := by
  rw [LexicalBuffer.ofText,LexicalAnalyzer.of,populateFrom_eq]
  · rfl
  · simp [Reader.size,Reader.of]

end Tokens

section Agreement

def LexicalBuffer.rest (buffer : LexicalBuffer) : List SyntaxToken := buffer.sequence.drop buffer.currentIndex

/-- What the analyzer has read, with what it is going to read, is the rest of the buffer. -/
def InStep (locale : Locale) (analyzer : LexicalAnalyzer) (buffer : LexicalBuffer) : Prop :=
  analyzer.readBuffer ++ tokens locale analyzer.reader = buffer.rest

/-- What the analyzer has read is the rest of the buffer, with the ends of the file that it has met. -/
def Behind (analyzer : LexicalAnalyzer) (buffer : LexicalBuffer) : Prop :=
  ∃ ends,analyzer.readBuffer = buffer.rest ++ List.replicate ends .endOfFile

structure Agrees (locale : Locale) (analyzer : LexicalAnalyzer) (buffer : LexicalBuffer) : Prop where
  inside : buffer.currentIndex ≤ buffer.sequence.length
  same : InStep locale analyzer buffer ∨ Behind analyzer buffer

def Call.peeked : Call → Option Int
  | .peek index => some index
  | _ => none

def LexicalAnalyzer.Exhausted (locale : Locale) (analyzer : LexicalAnalyzer) : Prop :=
  (readNextToken locale analyzer.reader).1 = none

def Call.lookAhead : Call → Int
  | .canConsume | .current | .consume => 1
  | .canPeek => 2
  | .peek index => index + 2
  | .putBackToken _ => 0

/-- The calls that the defects of the analyzer do not touch: no token is consumed directly from the text, no end of file
that has been put back is asked for, nothing before the current token is peeked at, and nothing is found behind an end of
the file. -/
structure Spared (locale : Locale) (analyzer : LexicalAnalyzer) (buffer : LexicalBuffer) (call : Call) : Prop where
  consumed : call = .consume → analyzer.readBuffer = [] → analyzer.Exhausted locale
  asked : call = .canConsume → ∀ token ∈ buffer.rest[0]?,token.type ≠ .endOfFile
  askedNext : call = .canPeek → ∀ token ∈ buffer.rest[1]?,token.type ≠ .endOfFile
  peeked : ∀ index ∈ call.peeked,-1 ≤ index ∨ buffer.currentIndex + 1 + index < 0
  ended : analyzer.readBuffer.length < call.lookAhead → buffer.rest.length ≤ analyzer.readBuffer.length → analyzer.Exhausted locale

instance (analyzer : LexicalAnalyzer) : Decidable (analyzer.Exhausted locale) :=
  inferInstanceAs (Decidable ((readNextToken locale analyzer.reader).1 = none))

instance (analyzer : LexicalAnalyzer) (buffer : LexicalBuffer) (call : Call) :
    Decidable (Spared locale analyzer buffer call) :=
  decidable_of_iff
    ((call = .consume → analyzer.readBuffer = [] → analyzer.Exhausted locale) ∧
      (call = .canConsume → ∀ token ∈ buffer.rest[0]?,token.type ≠ .endOfFile) ∧
      (call = .canPeek → ∀ token ∈ buffer.rest[1]?,token.type ≠ .endOfFile) ∧
      (∀ index ∈ call.peeked,-1 ≤ index ∨ buffer.currentIndex + 1 + index < 0) ∧
      (analyzer.readBuffer.length < call.lookAhead → buffer.rest.length ≤ analyzer.readBuffer.length → analyzer.Exhausted locale))
    ⟨fun ⟨consumed,asked,askedNext,peeked,ended⟩ => ⟨consumed,asked,askedNext,peeked,ended⟩,
      fun ⟨consumed,asked,askedNext,peeked,ended⟩ => ⟨consumed,asked,askedNext,peeked,ended⟩⟩

variable {analyzer : LexicalAnalyzer} {buffer : LexicalBuffer}

theorem Agrees.getD_eq (agrees : Agrees locale analyzer buffer) {index : Nat} (read : index < analyzer.readBuffer.length) :
    analyzer.readBuffer.getD index .endOfFile = buffer.rest.getD index .endOfFile := by
  rcases agrees.same with inStep | ⟨ends,behind⟩
  · rw [← inStep,List.getD_append _ _ _ _ read]
  · rw [behind]
    rcases Nat.lt_or_ge index buffer.rest.length with inside | outside
    · rw [List.getD_append _ _ _ _ inside]
    · rw [List.getD_append_right _ _ _ _ outside,List.getD_eq_default _ _ outside]
      rw [List.getD_eq_getElem?_getD,List.getElem?_replicate]
      split <;> rfl

theorem InStep.push {next : Reader} {token : SyntaxToken} (inStep : InStep locale analyzer buffer)
    (read : readNextToken locale analyzer.reader = (some token,next)) :
    InStep locale (analyzer.push token next) buffer := by
  rw [InStep,tokens_some read] at inStep
  rw [InStep,← inStep]
  exact (List.append_assoc _ [token] _)

theorem Agrees.push_end {next : Reader} (agrees : Agrees locale analyzer buffer)
    (read : readNextToken locale analyzer.reader = (none,next)) :
    Behind (analyzer.push .endOfFile next) buffer ∧ buffer.rest.length ≤ analyzer.readBuffer.length := by
  rcases agrees.same with inStep | ⟨ends,behind⟩
  · rw [InStep,tokens_none read,List.append_nil] at inStep
    exact ⟨⟨1,congrArg (· ++ [_]) inStep⟩,inStep ▸ Nat.le_refl _⟩
  · refine ⟨⟨ends + 1,?_⟩,?_⟩
    · rw [List.replicate_succ',← List.append_assoc,← behind]
      rfl
    · rw [behind,List.length_append]
      exact Nat.le_add_right _ _

theorem extend_inStep {extendFor : Nat} (inside : buffer.currentIndex ≤ buffer.sequence.length)
    (inStep : InStep locale analyzer buffer) :
    Agrees locale (analyzer.extend locale extendFor).2 buffer ∧
      (((analyzer.extend locale extendFor).1 = true ∧
          (analyzer.extend locale extendFor).2.readBuffer.length = analyzer.readBuffer.length + extendFor) ∨
        ((analyzer.extend locale extendFor).1 = false ∧ 0 < extendFor ∧
          buffer.rest.length < analyzer.readBuffer.length + extendFor)) := by
  induction extendFor generalizing analyzer with
  | zero => exact ⟨⟨inside,.inl inStep⟩,.inl ⟨rfl,rfl⟩⟩
  | succ extendFor ih =>
      rcases read : readNextToken locale analyzer.reader with ⟨_ | token,next⟩
      · obtain ⟨behind,covered⟩ := Agrees.push_end ⟨inside,.inl inStep⟩ read
        rw [LexicalAnalyzer.extend,read]
        exact ⟨⟨inside,.inr behind⟩,.inr ⟨rfl,Nat.succ_pos _,by omega⟩⟩
      · rw [LexicalAnalyzer.extend,read]
        have pushed : (analyzer.push token next).readBuffer.length = analyzer.readBuffer.length + 1 :=
          List.length_append
        obtain ⟨agrees,result⟩ := ih (inStep.push read)
        rw [pushed,Nat.add_assoc,Nat.add_comm 1] at result
        exact ⟨agrees,result.imp_right fun failed => ⟨failed.1,Nat.succ_pos _,failed.2.2⟩⟩

theorem Agrees.extend (agrees : Agrees locale analyzer buffer) (extendFor : Nat)
    (ended : 0 < extendFor → buffer.rest.length ≤ analyzer.readBuffer.length → analyzer.Exhausted locale) :
    Agrees locale (analyzer.extend locale extendFor).2 buffer ∧
      (((analyzer.extend locale extendFor).1 = true ∧
          (analyzer.extend locale extendFor).2.readBuffer.length = analyzer.readBuffer.length + extendFor) ∨
        ((analyzer.extend locale extendFor).1 = false ∧ 0 < extendFor ∧
          buffer.rest.length < analyzer.readBuffer.length + extendFor)) := by
  rcases agrees.same with inStep | behind
  · exact extend_inStep agrees.inside inStep
  · cases extendFor with
    | zero => exact ⟨agrees,.inl ⟨rfl,rfl⟩⟩
    | succ extendFor =>
        obtain ⟨ends,same⟩ := behind
        have covered : buffer.rest.length ≤ analyzer.readBuffer.length := by
          rw [same,List.length_append]
          exact Nat.le_add_right _ _
        have exhausted := ended (Nat.succ_pos _) covered
        rcases read : readNextToken locale analyzer.reader with ⟨_ | token,next⟩
        · rw [LexicalAnalyzer.extend,read]
          exact ⟨⟨agrees.inside,.inr (agrees.push_end read).1⟩,.inr ⟨rfl,Nat.succ_pos _,by omega⟩⟩
        · rw [LexicalAnalyzer.Exhausted,read] at exhausted
          cases exhausted

end Agreement

section Calls

variable {analyzer : LexicalAnalyzer} {buffer : LexicalBuffer}

theorem LexicalBuffer.length_rest (buffer : LexicalBuffer) :
    buffer.rest.length = buffer.sequence.length - buffer.currentIndex := List.length_drop

theorem LexicalBuffer.getD_rest (buffer : LexicalBuffer) (index : Nat) :
    buffer.rest.getD index .endOfFile = buffer.sequence.getD (buffer.currentIndex + index) .endOfFile := by
  rw [List.getD_eq_getElem?_getD,List.getD_eq_getElem?_getD,LexicalBuffer.rest,List.getElem?_drop]

theorem LexicalBuffer.peek_eq {index : Int} (ahead : -1 ≤ index) :
    buffer.peek index = buffer.rest.getD (index + 1).toNat .endOfFile := by
  obtain ⟨offset,rfl⟩ : ∃ offset : Nat,index = offset - 1 := ⟨(index + 1).toNat,by omega⟩
  have target : buffer.currentIndex + 1 + ((offset : Int) - 1) = (buffer.currentIndex + offset : Nat) := by omega
  rw [LexicalBuffer.getD_rest,LexicalBuffer.peek,target,Int.sub_add_cancel,Int.toNat_natCast]
  simp only [Int.toNat_natCast]
  split
  · rw [List.getD_eq_default]
    omega
  · rfl

theorem LexicalBuffer.current_eq : buffer.current = buffer.rest.getD 0 .endOfFile := by
  rw [LexicalBuffer.getD_rest,LexicalBuffer.current]
  split
  · rw [List.getD_eq_default]
    omega
  · rfl

theorem LexicalBuffer.canConsume_eq : buffer.canConsume = decide (0 < buffer.rest.length) := by
  rw [LexicalBuffer.canConsume,buffer.length_rest]
  exact decide_eq_decide.mpr Nat.sub_pos_iff_lt.symm

theorem LexicalBuffer.canPeek_eq : buffer.canPeek = decide (1 < buffer.rest.length) := by
  rw [LexicalBuffer.canPeek,buffer.length_rest]
  split
  · next empty =>
      rw [List.isEmpty_iff.mp empty]
      simp
  · exact decide_eq_decide.mpr (by omega)

theorem peek_before (locale : Locale) (analyzer : LexicalAnalyzer) {index : Int} (before : buffer.currentIndex + 1 + index < 0) :
    analyzer.peek locale index = (.endOfFile,analyzer) ∧ buffer.peek index = .endOfFile := by
  have none : (index + 1 - analyzer.readBuffer.length + 1).toNat = 0 := by omega
  constructor
  · rw [LexicalAnalyzer.peek,none,LexicalAnalyzer.extend]
    simp only
    rw [if_pos (by omega)]
  · rw [LexicalBuffer.peek]
    exact if_pos (.inl before)

theorem LexicalAnalyzer.current_eq_peek (analyzer : LexicalAnalyzer) :
    analyzer.current locale = analyzer.peek locale (-1) := by
  rcases analyzer with ⟨_ | ⟨token,readBuffer⟩,reader⟩
  · rcases read : readNextToken locale reader with ⟨_ | token,next⟩ <;>
      simp [current,consume,peek,extend,read,push]
  · have none : (-1 + 1 - ((token :: readBuffer).length : Int) + 1).toNat = 0 := by
      rw [List.length_cons]
      omega
    rw [current,peek,none,extend]
    rfl

theorem Agrees.peek (agrees : Agrees locale analyzer buffer) {index : Int} (ahead : -1 ≤ index)
    (ended : analyzer.readBuffer.length < index + 2 → buffer.rest.length ≤ analyzer.readBuffer.length →
      analyzer.Exhausted locale) :
    (analyzer.peek locale index).1 = buffer.rest.getD (index + 1).toNat .endOfFile ∧
      Agrees locale (analyzer.peek locale index).2 buffer := by
  obtain ⟨agrees,result⟩ := agrees.extend (index + 1 - analyzer.readBuffer.length + 1).toNat fun reads => ended (by omega)
  rw [LexicalAnalyzer.peek]
  generalize analyzer.extend locale (index + 1 - analyzer.readBuffer.length + 1).toNat = extended at agrees result ⊢
  rcases extended with ⟨found,after⟩
  rcases result with ⟨rfl,length⟩ | ⟨rfl,positive,length⟩
  · simp only at agrees length ⊢
    have inside : (index + 1).toNat < after.readBuffer.length := by omega
    have successor : ¬index + 1 < 0 := by omega
    rw [if_neg successor,agrees.getD_eq inside]
    exact ⟨rfl,agrees⟩
  · refine ⟨?_,agrees⟩
    rw [List.getD_eq_default]
    omega

theorem Agrees.current (agrees : Agrees locale analyzer buffer)
    (ended : (analyzer.readBuffer.length : Int) < 1 → buffer.rest.length ≤ analyzer.readBuffer.length →
      analyzer.Exhausted locale) :
    (analyzer.current locale).1 = buffer.rest.getD 0 .endOfFile ∧ Agrees locale (analyzer.current locale).2 buffer := by
  rw [LexicalAnalyzer.current_eq_peek]
  exact agrees.peek (Int.le_refl _) ended

theorem Agrees.consume_buffered {token : SyntaxToken} {readBuffer : List SyntaxToken} {reader : Reader}
    (agrees : Agrees locale ⟨token :: readBuffer,reader⟩ buffer) :
    buffer.consume.1 = token ∧ Agrees locale ⟨readBuffer,reader⟩ buffer.consume.2 := by
  have first := agrees.getD_eq (Nat.succ_pos _)
  rw [List.getD_cons_zero,LexicalBuffer.getD_rest,Nat.add_zero] at first
  rw [LexicalBuffer.consume]
  split
  · next outside =>
      rw [List.getD_eq_default _ _ outside] at first
      have empty : buffer.rest = [] := List.drop_eq_nil_of_le outside
      refine ⟨first.symm,agrees.inside,?_⟩
      rcases agrees.same with inStep | ⟨ends,behind⟩
      · rw [InStep,empty] at inStep
        cases inStep
      · rw [empty,List.nil_append] at behind
        cases ends with
        | zero => cases behind
        | succ ends =>
            refine .inr ⟨ends,?_⟩
            rw [empty]
            exact (List.cons.inj behind).2
  · next inside =>
      have tail : buffer.rest.tail = buffer.sequence.drop (buffer.currentIndex + 1) := List.tail_drop
      refine ⟨first.symm,by simp only; omega,?_⟩
      rcases agrees.same with inStep | ⟨ends,behind⟩
      · left
        rw [InStep,LexicalBuffer.rest,← tail,← inStep]
        rfl
      · refine .inr ⟨ends,?_⟩
        rw [LexicalBuffer.rest,← tail]
        have nonempty : buffer.rest ≠ [] := fun empty => by
          have := buffer.length_rest
          rw [empty,List.length_nil] at this
          omega
        rw [← List.tail_append_of_ne_nil nonempty,← behind]
        rfl

theorem Agrees.consume_end (agrees : Agrees locale ⟨[],analyzer.reader⟩ buffer) (exhausted : analyzer.Exhausted locale) :
    ∃ next,readNextToken locale analyzer.reader = (none,next) ∧ buffer.consume = (.endOfFile,buffer) ∧
      Agrees locale ⟨[.endOfFile],next⟩ buffer := by
  rcases read : readNextToken locale analyzer.reader with ⟨_ | token,next⟩
  · obtain ⟨behind,empty⟩ := agrees.push_end read
    have outside := buffer.length_rest
    rw [LexicalBuffer.consume,if_pos]
    · exact ⟨next,rfl,rfl,agrees.inside,.inr behind⟩
    · rw [Nat.le_zero.mp empty] at outside
      omega
  · rw [LexicalAnalyzer.Exhausted,read] at exhausted
    cases exhausted

theorem Agrees.putBackToken (agrees : Agrees locale analyzer buffer) (token : SyntaxToken) :
    Agrees locale (analyzer.putBackToken token) (buffer.putBackToken token) := by
  have within := Nat.min_eq_left agrees.inside
  have rest : (buffer.putBackToken token).rest = token :: buffer.rest := by
    simp only [LexicalBuffer.rest,LexicalBuffer.putBackToken,within]
    exact List.drop_left' (List.length_take_of_le agrees.inside)
  constructor
  · simp only [LexicalBuffer.putBackToken,within,List.length_append,List.length_take_of_le agrees.inside]
    exact Nat.le_add_right _ _
  · rcases agrees.same with inStep | ⟨ends,behind⟩
    · left
      rw [InStep,rest,← inStep]
      rfl
    · refine .inr ⟨ends,?_⟩
      rw [rest,LexicalAnalyzer.putBackToken,behind]
      rfl

theorem bne_endOfFile (rest : List SyntaxToken) (index : Nat)
    (asked : ∀ token ∈ rest[index]?,token.type ≠ .endOfFile) :
    ((rest.getD index .endOfFile).type != .endOfFile) = decide (index < rest.length) := by
  rw [List.getD_eq_getElem?_getD]
  rcases Nat.lt_or_ge index rest.length with inside | outside
  · rw [List.getElem?_eq_getElem inside,Option.getD_some,bne_iff_ne.mpr (asked _ (List.getElem?_eq_getElem inside)),
      decide_eq_true inside]
  · rw [List.getElem?_eq_none outside,decide_eq_false (Nat.not_lt.mpr outside)]
    rfl

theorem respond_simulates :
    (LexicalAnalyzer.respond locale).Simulates LexicalBuffer.respond (Agrees locale) (Spared locale) := by
  intro analyzer buffer call agrees spared
  cases call with
  | canConsume =>
      obtain ⟨token,agrees⟩ := agrees.current spared.ended
      refine ⟨congrArg Answer.able ?_,agrees⟩
      rw [LexicalBuffer.canConsume_eq,← bne_endOfFile buffer.rest 0 (spared.asked rfl),← token]
      rfl
  | canPeek =>
      obtain ⟨token,agrees⟩ := agrees.peek (by decide : -1 ≤ (0 : Int)) spared.ended
      refine ⟨congrArg Answer.able ?_,agrees⟩
      rw [LexicalBuffer.canPeek_eq,← bne_endOfFile buffer.rest 1 (spared.askedNext rfl)]
      exact congrArg (fun token : SyntaxToken => token.type != .endOfFile) token
  | current =>
      obtain ⟨token,agrees⟩ := agrees.current spared.ended
      refine ⟨congrArg Answer.token ?_,agrees⟩
      rw [LexicalBuffer.current_eq]
      exact token
  | consume =>
      rcases analyzer with ⟨_ | ⟨token,readBuffer⟩,reader⟩
      · obtain ⟨next,read,consume,agrees⟩ := agrees.consume_end (spared.consumed rfl rfl)
        simpa [LexicalAnalyzer.respond,LexicalAnalyzer.consume,LexicalAnalyzer.push,LexicalBuffer.respond,read,consume]
          using agrees
      · obtain ⟨same,agrees⟩ := agrees.consume_buffered
        exact ⟨congrArg Answer.token same.symm,agrees⟩
  | peek index =>
      rcases spared.peeked index rfl with ahead | before
      · obtain ⟨token,agrees⟩ := agrees.peek ahead spared.ended
        refine ⟨congrArg Answer.token ?_,agrees⟩
        rw [LexicalBuffer.peek_eq ahead]
        exact token
      · obtain ⟨analyzed,buffered⟩ := peek_before locale analyzer before
        rw [LexicalAnalyzer.respond,LexicalBuffer.respond,analyzed,buffered]
        exact ⟨rfl,agrees⟩
  | putBackToken token => exact ⟨rfl,agrees.putBackToken token⟩

end Calls

/-- The two sources answer alike to all calls, in any order, that the defects of the analyzer do not touch. -/
theorem sources_interchangeable (locale : Locale) (name : String) (text : List Char) :
    ∃ buffer,LexicalBuffer.ofText locale name text = some buffer ∧
      ∀ calls,
        (LexicalAnalyzer.respond locale).Throughout LexicalBuffer.respond (Spared locale) (.of name text) buffer calls →
          (LexicalAnalyzer.respond locale).answers (.of name text) calls = LexicalBuffer.respond.answers buffer calls := by
  refine ⟨_,ofText_eq name text,fun calls spared => ?_⟩
  have start : Agrees locale (.of name text) ⟨tokens locale (.of name text),0⟩ := ⟨Nat.zero_le _,.inl rfl⟩
  exact respond_simulates.answers_eq start spared

theorem sources_interchangeable_peeked :
    ∃ buffer,LexicalBuffer.ofText .classic "" "a b".toList = some buffer ∧
      (LexicalAnalyzer.respond .classic).answers (.of "" "a b".toList) [.peek 0,.consume,.consume,.canConsume] =
        LexicalBuffer.respond.answers buffer [.peek 0,.consume,.consume,.canConsume] := by
  obtain ⟨buffer,filled,same⟩ := sources_interchangeable .classic "" "a b".toList
  refine ⟨buffer,filled,same _ ?_⟩
  have found : buffer = ((LexicalBuffer.ofText .classic "" "a b".toList).getD ⟨[],0⟩) := by rw [filled]; rfl
  rw [found]
  decide +kernel

/-- A token that is consumed directly from the text is read once more. -/
theorem consumed_twice :
    ∃ buffer,LexicalBuffer.ofText .classic "" "a b".toList = some buffer ∧
      (LexicalAnalyzer.respond .classic).answers (.of "" "a b".toList) [.consume,.consume] ≠
        LexicalBuffer.respond.answers buffer [.consume,.consume] := by
  refine ⟨(LexicalBuffer.ofText .classic "" "a b".toList).getD ⟨[],0⟩,?_,?_⟩ <;> decide +kernel

end ShardScript.Lexical
