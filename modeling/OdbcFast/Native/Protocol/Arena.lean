import OdbcFast.Wire.Alignment
import OdbcFast.Wire.Machine

/-!
# The arena

Memory is handed out from one chunk after the other. A chunk that has no room for a request is
put aside and a fresh one begun, and all chunks stay alive as long as the arena does.

Words have 64 bits and sums wrap around. What is in the chunks is read by no function here, so a
chunk is the address of its first byte.
-/

namespace OdbcFast.Native

open Wire

/-- The chunks that the allocator gives one after the other. It gives what is free, and it gives
no chunk that is longer than a vector may be. -/
structure ChunkMemory where
  chunkSize : BitVec 64
  address : Nat → Nat
  small : chunkSize.toNat < 2 ^ 63
  apart : ∀ {index other}, index ≠ other →
    address index + chunkSize.toNat ≤ address other ∨
      address other + chunkSize.toNat ≤ address index

/-- An alignment is a power of two. -/
structure Align where
  value : BitVec 64
  powerOfTwo : ∃ exponent, value.toNat = 2 ^ exponent

structure Arena where
  chunks : List Nat
  currentChunk : Nat
  chunkSize : BitVec 64
  currentOffset : BitVec 64
  deriving DecidableEq

/-- The bytes from an address on. -/
structure ByteRange where
  start : Nat
  size : Nat
  deriving DecidableEq, Repr

namespace Arena

variable (memory : ChunkMemory)

def new : Arena where
  chunks := []
  currentChunk := memory.address 0
  chunkSize := memory.chunkSize
  currentOffset := 0

variable (arena : Arena)

def allocateNewChunk : Arena where
  chunks := arena.chunks ++ [arena.currentChunk]
  currentChunk := memory.address (arena.chunks.length + 1)
  chunkSize := arena.chunkSize
  currentOffset := 0

/-- The pointer to the bytes. -/
def allocate (size : BitVec 64) : Arena × Nat :=
  let arena :=
    if arena.currentOffset + size > arena.chunkSize then arena.allocateNewChunk memory else arena
  ({ arena with currentOffset := arena.currentOffset + size },
    arena.currentChunk + arena.currentOffset.toNat)

/-- The pointer to the bytes, which is computed by a function that calls itself. `none` where the
calls are not enough. -/
def allocateAligned : Nat → Arena → BitVec 64 → Align → Option (Arena × Nat)
  | 0, _, _, _ => none
  | calls + 1, arena, size, align =>
    let alignedOffset := alignUp arena.currentOffset align.value
    if alignedOffset + size > arena.chunkSize then
      allocateAligned calls (arena.allocateNewChunk memory) size align
    else
      some ({ arena with currentOffset := alignedOffset + size },
        arena.currentChunk + alignedOffset.toNat)

inductive Request where
  | allocate (size : BitVec 64)
  | allocateAligned (size : BitVec 64) (align : Align)

def Request.size : Request → BitVec 64
  | .allocate size => size
  | .allocateAligned size _ => size

/-- The bytes that the caller gets. -/
def step (calls : Nat) : Request → Arena → Option (Arena × ByteRange)
  | .allocate size, arena =>
    let (arena, start) := arena.allocate memory size
    some (arena, { start := start, size := size.toNat })
  | .allocateAligned size align, arena => do
    let (arena, start) ← allocateAligned memory calls arena size align
    return (arena, { start := start, size := size.toNat })

end Arena

end OdbcFast.Native
