import ShardScript.Library.Bytes
import ShardScript.Primitive.Instance

/-! The texts of values, and how two of them are concatenated in memory that is used again. -/
namespace ShardScript.Primitive
open Library

def wide (text : String) : List UInt16 := text.toList.map fun letter => letter.val.toUInt16

def ofCString (text : List UInt16) : List UInt16 := text.takeWhile (· != 0)

structure Chunk where
  cells : List (Option UInt16)
  bounded : 2 * cells.length < 2^63

namespace Chunk

def null : Chunk := ⟨[],by simp⟩

def write (chunk : Chunk) (position : Nat) (letters : List UInt16) : Except Failure Chunk :=
  if fits : position + letters.length ≤ chunk.cells.length then
    pure ⟨Buffer.write chunk.cells position letters,by rw [Buffer.length_write fits]; exact chunk.bounded⟩
  else throw .undefined

def readCString (chunk : Chunk) (position : Nat) : Except Failure (List UInt16) :=
  match Buffer.readUntil (· == 0) (chunk.cells.drop position) with
  | some text => pure text
  | none => throw .undefined

end Chunk

def negativeSize : Nat := 2^64 - 1

def swprintf (text : List UInt16) (dst : Option Nat) (capacity : Nat) (chunk : Chunk) : Except Failure (Nat × Chunk) :=
  if text.length < capacity then
    match dst with
    | some position => do
        let chunk ← chunk.write position (text ++ [0])
        pure (text.length,chunk)
    | none => throw .undefined
  else pure (negativeSize,chunk)

def copyText (text : List UInt16) (dst : Option Nat) (chunk : Chunk) : Except Failure (Nat × Chunk) :=
  match dst with
  | some position => do
      let chunk ← chunk.write position text
      pure (text.length,chunk)
  | none => pure (text.length,chunk)

instance : FloatingPoint Int64 where
  ofInteger := id
  truncate := id
  fits _ := true
  add := (· + ·)
  sub := (· - ·)
  mult := (· * ·)
  div := (· / ·)
  fmod := (· % ·)
  pow left right := left ^ right.toNatClampNeg
  negative := (- ·)
  equal := (· == ·)
  less left right := decide (left < right)
  format value := wide (toString value.toInt)
  equal_comm _ _ := Bool.beq_comm

section Format

variable {Double : Type} [FloatingPoint Double]

def Instance.textual : Instance Double → List UInt16
  | .string text => text
  | .integer value | .enumeration _ value | .nativeInteger value => wide (toString value.toInt)
  | .double value => FloatingPoint.format value
  | .boolean value => wide (if value then "true" else "false")
  | .char value => [value]
  | .byte value => wide (toString value.toNat)
  | _ => []

def Instance.isPrinted : Instance Double → Bool
  | .integer _ | .enumeration _ _ | .nativeInteger _ | .double _ | .byte _ => true
  | _ => false

def formatString (value : Instance Double) (dst : Option Nat) (capacity : Nat) (chunk : Chunk) :
    Except Failure (Nat × Chunk) :=
  if value.isPrinted then swprintf value.textual dst capacity chunk else copyText value.textual dst chunk

end Format

structure StringScratchArena where
  chunks : List Chunk := []
  current : Nat := 0
  cursor : Nat := 0

namespace StringScratchArena

variable (arena : StringScratchArena)

def chunk : Chunk := arena.chunks.getD arena.current .null

def reset : StringScratchArena := { arena with current := 0, cursor := 0 }

def acquire (count : Nat) : Except Failure (Nat × StringScratchArena) :=
  if arena.chunk.cells.length - arena.cursor < count then
    let capacity := if count < 4096 then 4096 else count
    if bounded : 2 * capacity < 2^63 then
      let fresh : Chunk := ⟨List.replicate capacity none,by rw [List.length_replicate]; exact bounded⟩
      pure (0,⟨arena.chunks ++ [fresh],arena.chunks.length,count⟩)
    else throw .allocationFailed
  else pure (arena.cursor,{ arena with cursor := arena.cursor + count })

def store (chunk : Chunk) : StringScratchArena :=
  { arena with chunks := arena.chunks.set arena.current chunk }

end StringScratchArena

section Concatenation

variable {Double : Type} [FloatingPoint Double]

def sizeSum (left right : Nat) : Nat := (left + right) % 2^64

/-- Both texts and a terminating zero are written to a buffer of a chunk, and a string is made of what is there. -/
def fillBuffer (left right : Instance Double) (leftLength rightLength buffer : Nat) (chunk : Chunk) :
    Except Failure (List UInt16 × Chunk) := do
  let first ← formatString left (some buffer) (sizeSum leftLength 1) chunk
  let second ← formatString right (some (buffer + leftLength)) (sizeSum rightLength 1) first.2
  let chunk ← second.2.write (buffer + sizeSum leftLength rightLength) [0]
  let text ← chunk.readCString buffer
  pure (text,chunk)

def concatenate (arena : StringScratchArena) (left right : Instance Double) :
    Except Failure (List UInt16 × StringScratchArena) := do
  let first ← formatString left none 0 .null
  let second ← formatString right none 0 .null
  let acquired ← arena.reset.acquire (sizeSum (first.1 + second.1) 1)
  let filled ← fillBuffer left right first.1 second.1 acquired.1 acquired.2.chunk
  pure (filled.1,acquired.2.store filled.2)

end Concatenation

end ShardScript.Primitive
