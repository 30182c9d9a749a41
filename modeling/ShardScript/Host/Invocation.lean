import ShardScript.Runtime.Slots

/-! The invocation of a method by native code, and what its result tells of the way in which the method has ended. -/
namespace ShardScript.Host
open ShardScript.Runtime (FrameInterruptionReason TypeShape)

def slotHeaderBytes : Nat := 8

structure MethodSymbol where
  returnShape : Option TypeShape
  isExternal : Bool

def payloadBytes (shape : TypeShape) : Nat := if shape.isReferenceType then 8 else shape.size

def MethodSymbol.retSize (method : MethodSymbol) : Nat := method.returnShape.elim 0 payloadBytes

/-- The ways in which the code of a method ends, whatever it has invoked before. -/
inductive Ending (method : MethodSymbol) (Exception : Type) where
  | completed (value : List UInt8) (size : value.length = method.retSize)
  | raised (exception : Exception)
  /-- A C++ exception, and the script exception that stands for it. It may not be derived from `std::exception`. -/
  | thrown (isStandard : Bool) (exception : Exception)

inductive Outcome (Result : Type) where
  | returned (result : Result)
  | thrown
  | undefined

structure CallStackFrame (Exception : Type) where
  interruptionReason : FrameInterruptionReason
  currentException : Option Exception

variable {method : MethodSymbol} {Exception : Type}

section Invocation

/-- The end of an invocation, with the frame of the caller and the bytes at the return slot. The header is the address of
the return shape. -/
def invokeMethodInternal (header : List UInt8) (ending : Ending method Exception) (callingFrame : CallStackFrame Exception)
    (returnSlot : Option (List UInt8)) : Outcome (CallStackFrame Exception × Option (List UInt8)) :=
  match ending with
  | .completed value _ =>
      match method.returnShape,returnSlot with
      | none,_ => .returned (callingFrame,returnSlot)
      -- The header is written to the null pointer.
      | some _,none => .undefined
      -- `RETURN` places what the slot holds.
      | some _,some bytes =>
          .returned (callingFrame,some (header ++ if method.isExternal then value else bytes.drop slotHeaderBytes))
  -- At the end of the bytecode, and behind a native function, the interruption reason is overwritten.
  | .raised _ => .returned (callingFrame,returnSlot)
  | .thrown isStandard exception =>
      if method.isExternal && isStandard then .returned (⟨.exceptionRaised,some exception⟩,returnSlot) else .thrown

/-- The payload is copied from behind the header to the start of the buffer, by way of a variable if it is a pointer. -/
def copyReturned (method : MethodSymbol) (returnBuffer : Option (List UInt8)) : Outcome (Option (List UInt8)) :=
  match method.returnShape,returnBuffer with
  | none,_ => .returned returnBuffer
  | some _,none => .undefined
  | some shape,some bytes =>
      -- The two ranges overlap.
      if shape.isReferenceType = false ∧ slotHeaderBytes < shape.size then .undefined
      else .returned (some ((bytes.drop slotHeaderBytes).take (payloadBytes shape) ++ bytes.drop (payloadBytes shape)))

def tryInvokeMethodImpl (header : List UInt8) (ending : Ending method Exception) (callingFrame : CallStackFrame Exception)
    (returnBuffer : Option (List UInt8)) : Outcome (CallStackFrame Exception × Option (List UInt8)) :=
  match invokeMethodInternal header ending callingFrame returnBuffer with
  | .thrown => .thrown
  | .undefined => .undefined
  | .returned (callingFrame,returnBuffer) =>
      if callingFrame.interruptionReason = .none then
        match copyReturned method returnBuffer with
        | .thrown => .thrown
        | .undefined => .undefined
        | .returned returnBuffer => .returned (callingFrame,returnBuffer)
      else if callingFrame.interruptionReason = .exceptionRaised then .returned (⟨.none,none⟩,returnBuffer)
      else .returned (callingFrame,returnBuffer)

structure InvokeResult (Exception : Type) where
  frame : CallStackFrame Exception
  returned : Option (List UInt8)
  retSize : Nat

namespace InvokeResult

def isOk (result : InvokeResult Exception) : Bool := result.frame.interruptionReason == .none

def value (result : InvokeResult Exception) : Option (List UInt8) :=
  if result.isOk then result.returned.map fun bytes => bytes.take result.retSize else none

def exception (result : InvokeResult Exception) : Option Exception :=
  if result.isOk then none else result.frame.currentException

end InvokeResult

def allocateBuffer (method : MethodSymbol) (memory : List UInt8) : Option (List UInt8) :=
  if method.retSize = 0 then none else some memory

def tryInvokeMethod (header memory : List UInt8) (ending : Ending method Exception)
    (callingFrame : CallStackFrame Exception) : Outcome (InvokeResult Exception) :=
  match tryInvokeMethodImpl header ending callingFrame (allocateBuffer method memory) with
  | .thrown => .thrown
  | .undefined => .undefined
  | .returned (callingFrame,returned) => .returned ⟨callingFrame,returned,method.retSize⟩

end Invocation

def InvokeResult.Tells (result : InvokeResult Exception) : Ending method Exception → Prop
  | .completed value _ => result.isOk = true ∧ (method.returnShape.isSome = true → result.value = some value)
  | .raised exception | .thrown _ exception => result.isOk = false ∧ result.exception = some exception

def Ending.isThrown : Ending method Exception → Bool
  | .thrown _ _ => true
  | _ => false

def Outcome.Tells (ending : Ending method Exception) : Outcome (InvokeResult Exception) → Prop
  | .returned result => result.Tells ending
  | .thrown => ending.isThrown = true
  | .undefined => False

/-- The invocation is faithful, whatever the addresses and the memory that it is given are. -/
def Faithful (ending : Ending method Exception) (callingFrame : CallStackFrame Exception) : Prop :=
  ∀ header memory : List UInt8, header.length = slotHeaderBytes → memory.length = method.retSize + slotHeaderBytes →
    (tryInvokeMethod header memory ending callingFrame).Tells ending

def MethodSymbol.Passes (method : MethodSymbol) : Prop :=
  method.isExternal = true ∧ 0 < method.retSize ∧ method.retSize ≤ 8

def Ending.IsTold (callingFrame : CallStackFrame Exception) : Ending method Exception → Prop
  | .completed _ _ =>
      callingFrame.interruptionReason = .none ∧ (method.returnShape = none ∨ method.Passes) ∨
        callingFrame.interruptionReason = .exceptionRaised ∧ method.returnShape = none
  -- The exception is the one that the native code has propagated itself, before it returned a value.
  | .raised exception => callingFrame.interruptionReason ≠ .none ∧ callingFrame.interruptionReason ≠ .exceptionRaised ∧
      callingFrame.currentException = some exception
  | .thrown isStandard _ => (method.isExternal && isStandard) = false

variable {callingFrame : CallStackFrame Exception} {header memory : List UInt8}

theorem copyReturned_cases (method : MethodSymbol) (returnBuffer : Option (List UInt8)) :
    copyReturned method returnBuffer = .undefined ∨ ∃ copied, copyReturned method returnBuffer = .returned copied := by
  unfold copyReturned
  split
  · exact .inr ⟨_,rfl⟩
  · exact .inl rfl
  · split
    · exact .inl rfl
    · exact .inr ⟨_,rfl⟩

variable {ending : Ending method Exception} {returned : Option (List UInt8)}

theorem tryInvokeMethod_undefined
    (internal : invokeMethodInternal header ending callingFrame (allocateBuffer method memory) =
      .returned (callingFrame,returned))
    (reason : callingFrame.interruptionReason = .none) (copies : copyReturned method returned = .undefined) :
    tryInvokeMethod header memory ending callingFrame = .undefined := by
  rw [tryInvokeMethod,tryInvokeMethodImpl,internal]
  simp only [if_pos reason,copies]

theorem tryInvokeMethod_none
    (internal : invokeMethodInternal header ending callingFrame (allocateBuffer method memory) =
      .returned (callingFrame,returned))
    (reason : callingFrame.interruptionReason = .none) {copied : Option (List UInt8)}
    (copies : copyReturned method returned = .returned copied) :
    tryInvokeMethod header memory ending callingFrame = .returned ⟨callingFrame,copied,method.retSize⟩ := by
  rw [tryInvokeMethod,tryInvokeMethodImpl,internal]
  simp only [if_pos reason,copies]

theorem tryInvokeMethod_raised
    {frame : CallStackFrame Exception}
    (internal : invokeMethodInternal header ending callingFrame (allocateBuffer method memory) =
      .returned (frame,returned)) (reason : frame.interruptionReason = .exceptionRaised) :
    tryInvokeMethod header memory ending callingFrame = .returned ⟨⟨.none,none⟩,returned,method.retSize⟩ := by
  rw [tryInvokeMethod,tryInvokeMethodImpl,internal]
  simp [reason]

theorem tryInvokeMethod_other
    (internal : invokeMethodInternal header ending callingFrame (allocateBuffer method memory) =
      .returned (callingFrame,returned)) (some : callingFrame.interruptionReason ≠ .none)
    (other : callingFrame.interruptionReason ≠ .exceptionRaised) :
    tryInvokeMethod header memory ending callingFrame = .returned ⟨callingFrame,returned,method.retSize⟩ := by
  rw [tryInvokeMethod,tryInvokeMethodImpl,internal]
  simp only [if_neg some,if_neg other]

theorem faithful_thrown_iff (isStandard : Bool) (exception : Exception) :
    Faithful (.thrown isStandard exception : Ending method Exception) callingFrame ↔
      (method.isExternal && isStandard) = false := by
  cases caught : method.isExternal && isStandard with
  | false =>
    refine iff_of_true ?_ rfl
    intro header memory _ _
    rw [tryInvokeMethod,tryInvokeMethodImpl,invokeMethodInternal,caught,if_neg Bool.false_ne_true]
    exact rfl
  | true =>
    refine iff_of_false ?_ (by decide)
    intro faithful
    have told := faithful (List.replicate 8 0) (List.replicate (method.retSize + 8) 0) List.length_replicate
      List.length_replicate
    rw [tryInvokeMethod_raised (by rw [invokeMethodInternal,caught,if_pos rfl]) rfl] at told
    cases told.1

theorem faithful_raised_iff (exception : Exception) :
    Faithful (.raised exception : Ending method Exception) callingFrame ↔
      callingFrame.interruptionReason ≠ .none ∧ callingFrame.interruptionReason ≠ .exceptionRaised ∧
        callingFrame.currentException = some exception := by
  have internal : ∀ header memory, invokeMethodInternal header (.raised exception : Ending method Exception) callingFrame
      (allocateBuffer method memory) = .returned (callingFrame,allocateBuffer method memory) := fun _ _ => rfl
  constructor
  · intro faithful
    have told := faithful (List.replicate 8 0) (List.replicate (method.retSize + 8) 0) List.length_replicate
      List.length_replicate
    by_cases reason : callingFrame.interruptionReason = .none
    · rcases copyReturned_cases method (allocateBuffer method (List.replicate (method.retSize + 8) 0)) with
        copies | ⟨copied,copies⟩
      · rw [tryInvokeMethod_undefined (internal _ _) reason copies] at told
        exact told.elim
      · rw [tryInvokeMethod_none (internal _ _) reason copies] at told
        have failed : (callingFrame.interruptionReason == .none) = false := told.1
        rw [reason] at failed
        cases failed
    · by_cases raised : callingFrame.interruptionReason = .exceptionRaised
      · rw [tryInvokeMethod_raised (internal _ _) raised] at told
        cases told.1
      · rw [tryInvokeMethod_other (internal _ _) reason raised] at told
        refine ⟨reason,raised,?_⟩
        have exception := told.2
        rwa [InvokeResult.exception,told.1,if_neg Bool.false_ne_true] at exception
  · rintro ⟨reason,raised,same⟩ header memory _ _
    rw [tryInvokeMethod_other (internal _ _) reason raised]
    have failed : (InvokeResult.mk callingFrame (allocateBuffer method memory) method.retSize).isOk = false :=
      beq_eq_false_iff_ne.2 reason
    exact ⟨failed,by rw [InvokeResult.exception,failed,if_neg Bool.false_ne_true]; exact same⟩

theorem faithful_void_iff {value : List UInt8} {size : value.length = method.retSize} (void : method.returnShape = none) :
    Faithful (.completed value size : Ending method Exception) callingFrame ↔
      callingFrame.interruptionReason = .none ∨ callingFrame.interruptionReason = .exceptionRaised := by
  have internal : ∀ header memory, invokeMethodInternal header (.completed value size) callingFrame
      (allocateBuffer method memory) = .returned (callingFrame,allocateBuffer method memory) := by
    intro header memory
    simp only [invokeMethodInternal,void]
  have copies : ∀ buffer, copyReturned method buffer = .returned buffer := by
    intro buffer
    simp only [copyReturned,void]
  have nothing : ∀ {holds : Prop}, method.returnShape.isSome = true → holds := by
    intro holds some
    rw [void] at some
    cases some
  constructor
  · intro faithful
    have told := faithful (List.replicate 8 0) (List.replicate (method.retSize + 8) 0) List.length_replicate
      List.length_replicate
    by_contra other
    rw [not_or] at other
    rw [tryInvokeMethod_other (internal _ _) other.1 other.2] at told
    exact other.1 (beq_iff_eq.1 told.1)
  · rintro (reason | reason) header memory _ _
    · rw [tryInvokeMethod_none (internal _ _) reason (copies _)]
      exact ⟨beq_iff_eq.2 reason,nothing⟩
    · rw [tryInvokeMethod_raised (internal _ _) reason]
      exact ⟨rfl,nothing⟩

theorem copyReturned_placed {shape : TypeShape} (returns : method.returnShape = some shape)
    (apart : ¬ (shape.isReferenceType = false ∧ slotHeaderBytes < shape.size)) {placed : List UInt8}
    (length : header.length = slotHeaderBytes) (size : placed.length = method.retSize) :
    ∃ copied, copyReturned method (some (header ++ placed)) = .returned (some copied) ∧
      copied.take method.retSize = placed := by
  have retSize : payloadBytes shape = method.retSize := by rw [MethodSymbol.retSize,returns]; rfl
  refine ⟨_,by simp only [copyReturned,returns,if_neg apart]; rfl,?_⟩
  rw [retSize,← length,List.drop_left,← size,List.take_length,List.take_left]

theorem exists_byte (value : List UInt8) : ∃ byte : UInt8, ∀ rest, byte :: rest ≠ value := by
  by_cases zero : value.head? = some 0
  · refine ⟨1,fun rest same => ?_⟩
    rw [← same] at zero
    exact absurd (Option.some.inj zero) (by decide)
  · refine ⟨0,fun rest same => zero ?_⟩
    rw [← same]
    rfl

theorem faithful_value_iff {value : List UInt8} {size : value.length = method.retSize} {shape : TypeShape}
    (returns : method.returnShape = some shape) :
    Faithful (.completed value size : Ending method Exception) callingFrame ↔
      callingFrame.interruptionReason = .none ∧ method.Passes := by
  have retSize : payloadBytes shape = method.retSize := by rw [MethodSymbol.retSize,returns]; rfl
  have overlaps : (shape.isReferenceType = false ∧ slotHeaderBytes < shape.size) ↔ 8 < method.retSize := by
    rw [← retSize,payloadBytes,slotHeaderBytes]
    cases shape.isReferenceType with
    | true => simp
    | false => simp
  have some : method.returnShape.isSome = true := by rw [returns]; rfl
  have positive : 0 < method.retSize → ∀ header memory,
      invokeMethodInternal header (.completed value size) callingFrame (allocateBuffer method memory) =
        .returned (callingFrame,.some (header ++ if method.isExternal then value else memory.drop slotHeaderBytes)) := by
    intro positive header memory
    simp only [invokeMethodInternal,returns,allocateBuffer,if_neg (Nat.ne_of_gt positive)]
  constructor
  · intro faithful
    obtain ⟨byte,other⟩ := exists_byte value
    have told := faithful (List.replicate 8 byte) (List.replicate (method.retSize + 8) byte) List.length_replicate
      List.length_replicate
    rcases Nat.eq_zero_or_pos method.retSize with zero | present
    · simp only [tryInvokeMethod,tryInvokeMethodImpl,invokeMethodInternal,returns,allocateBuffer,if_pos zero] at told
      exact told.elim
    have internal := positive present (List.replicate 8 byte) (List.replicate (method.retSize + 8) byte)
    by_cases reason : callingFrame.interruptionReason = .none
    · by_cases overlap : shape.isReferenceType = false ∧ slotHeaderBytes < shape.size
      · rw [tryInvokeMethod_undefined internal reason (by simp only [copyReturned,returns,if_pos overlap])] at told
        exact told.elim
      have small : method.retSize ≤ 8 := Nat.not_lt.1 fun less => overlap (overlaps.2 less)
      have ok : ∀ returned, (InvokeResult.mk callingFrame returned method.retSize).isOk = true :=
        fun _ => beq_iff_eq.2 reason
      cases external : method.isExternal with
      | true => exact ⟨reason,external,present,small⟩
      | false =>
        have length : ((List.replicate (method.retSize + 8) byte).drop slotHeaderBytes).length = method.retSize := by
          rw [List.length_drop,List.length_replicate,slotHeaderBytes,Nat.add_sub_cancel]
        rw [external,if_neg Bool.false_ne_true] at internal
        obtain ⟨copied,copies,took⟩ := copyReturned_placed returns overlap
          (List.length_replicate : (List.replicate 8 byte).length = 8) length
        rw [tryInvokeMethod_none internal reason copies] at told
        have same := told.2 some
        rw [InvokeResult.value,if_pos (ok _)] at same
        -- What was in the memory is taken for the value.
        have taken := took.symm.trans (Option.some.inj same)
        rw [List.drop_replicate,slotHeaderBytes,Nat.add_sub_cancel,← Nat.succ_pred_eq_of_pos present,
          List.replicate_succ] at taken
        exact absurd taken (other _)
    · by_cases raised : callingFrame.interruptionReason = .exceptionRaised
      · rw [tryInvokeMethod_raised internal raised] at told
        have same : Option.some (List.take method.retSize _) = .some value := told.2 some
        have taken := Option.some.inj same
        rw [← Nat.succ_pred_eq_of_pos present] at taken
        exact absurd taken (other _)
      · rw [tryInvokeMethod_other internal reason raised] at told
        exact absurd (beq_iff_eq.1 told.1) reason
  · rintro ⟨reason,external,present,small⟩ header memory length _
    obtain ⟨copied,copies,took⟩ := copyReturned_placed returns (fun overlap => by have := overlaps.1 overlap; omega)
      length size
    have internal := positive present header memory
    rw [if_pos external] at internal
    rw [tryInvokeMethod_none internal reason copies]
    have ok : (InvokeResult.mk callingFrame (.some copied) method.retSize).isOk = true := beq_iff_eq.2 reason
    refine ⟨ok,fun _ => ?_⟩
    rw [InvokeResult.value,if_pos ok]
    exact congrArg Option.some took

/-- The result of an invocation tells of the ending of the method if and only if it is one of those that come through. -/
theorem tryInvokeMethod_faithful_iff (method : MethodSymbol) (ending : Ending method Exception)
    (callingFrame : CallStackFrame Exception) : Faithful ending callingFrame ↔ ending.IsTold callingFrame := by
  cases ending with
  | completed value size =>
    rw [Ending.IsTold]
    cases returns : method.returnShape with
    | none =>
      rw [faithful_void_iff returns]
      simp
    | some shape =>
      rw [faithful_value_iff returns]
      simp
  | raised exception => exact faithful_raised_iff exception
  | thrown isStandard exception => exact faithful_thrown_iff isStandard exception

/-- The exception of a native method is not told. -/
theorem exception_lost : ∃ result : InvokeResult String,
    tryInvokeMethod (List.replicate 8 0) (List.replicate 8 0) (.thrown true "failed" : Ending ⟨none,true⟩ String)
      ⟨.none,none⟩ = .returned result ∧ result.isOk = true := by
  refine ⟨⟨⟨.none,none⟩,none,0⟩,?_,rfl⟩
  rfl

end ShardScript.Host
