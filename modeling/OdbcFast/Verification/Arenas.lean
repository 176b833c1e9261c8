import OdbcFast.Native.Protocol.Arena

/-!
# Allocating from an arena

A request that is no longer than a chunk is served by the current chunk or by a fresh one, so
two calls are enough. The bytes lie behind those that were handed out before.

The offset is what is aligned. The pointer is where the chunk is, which is up to the allocator.
-/

namespace OdbcFast.Verification

open Wire OdbcFast.Native

variable {memory : ChunkMemory} {arena next : Arena} {size : BitVec 64} {align : Align}
  {request : Arena.Request} {earlier : List ByteRange} {range : ByteRange} {start calls : Nat}

/-! ## What callers rely on -/

def Holds (range : ByteRange) (byte : Nat) : Prop :=
  range.start ≤ byte ∧ byte < range.start + range.size

/-- The multiple that the start of the bytes has to be. -/
def requestAlign : Arena.Request → Nat
  | .allocate _ => 1
  | .allocateAligned _ align => align.value.toNat

/-- A request is served: all its bytes are in one chunk, aligned, and nobody else has them. -/
structure Serves (memory : ChunkMemory) (earlier : List ByteRange) (request : Arena.Request)
    (next : Arena) (range : ByteRange) : Prop where
  size : range.size = request.size.toNat
  aligned : requestAlign request ∣ range.start
  inChunk : ∃ chunk ∈ next.chunks ++ [next.currentChunk],
    chunk ≤ range.start ∧ range.start + range.size ≤ chunk + memory.chunkSize.toNat
  alone : ∀ range' ∈ earlier, ∀ byte, ¬ (Holds range' byte ∧ Holds range byte)
  offset : next.currentOffset.toNat ≤ memory.chunkSize.toNat

/-- All requests return, with bytes that nobody else has had. -/
def ServesAll (memory : ChunkMemory) : List ByteRange → List Arena.Request → Arena → Prop
  | _, [], _ => True
  | earlier, request :: requests, arena =>
    ∃ calls next range, Arena.step memory calls request arena = some (next, range) ∧
      Serves memory earlier request next range ∧
      ServesAll memory (earlier ++ [range]) requests next

/-- The chunk that a request goes to. -/
def targetChunk (memory : ChunkMemory) (arena : Arena) (size : BitVec 64) (align : Align) : Nat :=
  if (alignUp arena.currentOffset align.value).toNat + size.toNat ≤ arena.chunkSize.toNat then
    arena.currentChunk
  else memory.address (arena.chunks.length + 1)

/-- The request fits a chunk, and the chunk it goes to is aligned. -/
def FitsChunk (memory : ChunkMemory) : Arena.Request → Arena → Prop
  | .allocate size, _ => size.toNat ≤ memory.chunkSize.toNat
  | .allocateAligned size align, arena =>
    size.toNat ≤ memory.chunkSize.toNat ∧ align.value.toNat ∣ targetChunk memory arena size align

/-! ## One allocation -/

/-- The offset is inside the chunk, and the chunks are those that the allocator gave. -/
structure WellFormed (memory : ChunkMemory) (arena : Arena) : Prop where
  chunkSize : arena.chunkSize = memory.chunkSize
  offset : arena.currentOffset.toNat ≤ memory.chunkSize.toNat
  chunks : arena.chunks = (List.range arena.chunks.length).map memory.address
  current : arena.currentChunk = memory.address arena.chunks.length

theorem wellFormed_new (memory : ChunkMemory) : WellFormed memory (Arena.new memory) :=
  ⟨rfl, Nat.zero_le _, rfl, rfl⟩

theorem WellFormed.allocateNewChunk (formed : WellFormed memory arena) :
    WellFormed memory (arena.allocateNewChunk memory) := by
  have length : (arena.chunks ++ [arena.currentChunk]).length = arena.chunks.length + 1 :=
    List.length_append
  refine ⟨formed.chunkSize, Nat.zero_le _, ?_, ?_⟩
  · change arena.chunks ++ [arena.currentChunk] =
      (List.range (arena.chunks ++ [arena.currentChunk]).length).map memory.address
    rw [length, List.range_succ, List.map_append, ← formed.chunks, List.map_singleton,
      ← formed.current]
  · change memory.address (arena.chunks.length + 1) =
      memory.address (arena.chunks ++ [arena.currentChunk]).length
    rw [length]

theorem align_dvd_half (align : Align) : align.value.toNat ∣ 2 ^ 63 := by
  obtain ⟨exponent, power⟩ := align.powerOfTwo
  have below := align.value.isLt
  rw [power] at below ⊢
  have exponentBound := (Nat.pow_lt_pow_iff_right (by decide : 1 < 2)).mp below
  exact Nat.pow_dvd_pow 2 (Nat.le_of_lt_succ exponentBound)

/-- The sum of an offset inside a chunk and any alignment does not overflow. -/
theorem WellFormed.fits (formed : WellFormed memory arena) (align : Align) :
    arena.currentOffset.toNat + align.value.toNat < 2 ^ 64 := by
  have small := memory.small
  have inside := formed.offset
  have half := Nat.le_of_dvd (Nat.two_pow_pos 63) (align_dvd_half align)
  omega

/-- Nor does the offset behind the bytes, unless there are more of them than a vector can have. -/
theorem WellFormed.toNat_add (formed : WellFormed memory arena) (align : Align)
    (bounded : size.toNat < 2 ^ 63) :
    (alignUp arena.currentOffset align.value + size).toNat =
      (alignUp arena.currentOffset align.value).toNat + size.toNat := by
  obtain ⟨exponent, power⟩ := align.powerOfTwo
  have small := memory.small
  have inside := formed.offset
  have half := alignUp_le power (formed.fits align) (align_dvd_half align) (by omega)
  exact BitVec.toNat_add_of_lt (by omega)

/-- Where the bytes are. -/
structure Placed (memory : ChunkMemory) (next : Arena) (size align start offset : Nat) : Prop where
  formed : WellFormed memory next
  multiple : align ∣ offset
  start : start = next.currentChunk + offset
  stop : next.currentOffset.toNat = offset + size

/-- The current chunk is still the same, and the offset is not below where it was. -/
structure KeepsChunk (arena next : Arena) (offset : Nat) : Prop where
  chunks : next.chunks = arena.chunks
  current : next.currentChunk = arena.currentChunk
  offset : arena.currentOffset.toNat ≤ offset

/-- The current chunk has room. -/
theorem allocateAligned_of_room (calls : Nat) (formed : WellFormed memory arena)
    (room : (alignUp arena.currentOffset align.value).toNat + size.toNat ≤
      memory.chunkSize.toNat) :
    ∃ next start, Arena.allocateAligned memory (calls + 1) arena size align = some (next, start) ∧
      KeepsChunk arena next (alignUp arena.currentOffset align.value).toNat ∧
      Placed memory next size.toNat align.value.toNat start
        (alignUp arena.currentOffset align.value).toNat := by
  obtain ⟨exponent, power⟩ := align.powerOfTwo
  have short := Nat.le_trans (Nat.le_add_left _ _) room
  have sum := formed.toNat_add align (Nat.lt_of_le_of_lt short memory.small)
  have inside : ¬ alignUp arena.currentOffset align.value + size > arena.chunkSize := by
    rw [gt_iff_lt, BitVec.lt_def, sum, formed.chunkSize]
    exact Nat.not_lt.mpr room
  refine ⟨_, _, if_neg inside, ⟨rfl, rfl, le_alignUp power (formed.fits align)⟩,
    ⟨formed.chunkSize, ?_, formed.chunks, formed.current⟩, dvd_alignUp power (formed.fits align),
    rfl, sum⟩
  exact Nat.le_trans (Nat.le_of_eq sum) room

/-- The current chunk has no room, but a fresh one has. -/
theorem allocateAligned_of_full (calls : Nat) (formed : WellFormed memory arena)
    (short : size.toNat ≤ memory.chunkSize.toNat)
    (full : ¬ (alignUp arena.currentOffset align.value).toNat + size.toNat ≤
      memory.chunkSize.toNat) :
    ∃ next start, Arena.allocateAligned memory (calls + 2) arena size align = some (next, start) ∧
      KeepsChunk (arena.allocateNewChunk memory) next 0 ∧
      Placed memory next size.toNat align.value.toNat start 0 := by
  obtain ⟨exponent, power⟩ := align.powerOfTwo
  have fresh : (alignUp (arena.allocateNewChunk memory).currentOffset align.value).toNat = 0 :=
    congrArg BitVec.toNat (alignUp_zero power)
  have outside : alignUp arena.currentOffset align.value + size > arena.chunkSize := by
    rw [gt_iff_lt, BitVec.lt_def, formed.toNat_add align (Nat.lt_of_le_of_lt short memory.small),
      formed.chunkSize]
    exact Nat.lt_of_not_le full
  have again : Arena.allocateAligned memory (calls + 2) arena size align =
      Arena.allocateAligned memory (calls + 1) (arena.allocateNewChunk memory) size align :=
    if_pos outside
  have room : (alignUp (arena.allocateNewChunk memory).currentOffset align.value).toNat +
      size.toNat ≤ memory.chunkSize.toNat := by
    rwa [fresh, Nat.zero_add]
  obtain ⟨next, start, served, rest⟩ :=
    allocateAligned_of_room calls formed.allocateNewChunk room
  rw [fresh] at rest
  exact ⟨next, start, again.trans served, rest⟩

/-- More calls than are needed change nothing. -/
theorem allocateAligned_mono {calls' : Nat} {result : Arena × Nat}
    (served : Arena.allocateAligned memory calls arena size align = some result)
    (more : calls ≤ calls') :
    Arena.allocateAligned memory calls' arena size align = some result := by
  induction calls generalizing arena calls' with
  | zero => cases served
  | succ calls ih =>
      obtain ⟨calls', rfl⟩ := Nat.exists_eq_add_of_lt more
      rw [show calls + calls' + 1 = (calls + calls') + 1 from rfl]
      simp only [Arena.allocateAligned] at served ⊢
      split_ifs at served ⊢ with outside
      · exact ih served (Nat.le_add_right _ _)
      · exact served

/-- A request that is longer than a chunk is passed on forever. -/
theorem allocateAligned_diverges (formed : WellFormed memory arena)
    (long : memory.chunkSize.toNat < size.toNat) (bounded : size.toNat < 2 ^ 63) :
    Arena.allocateAligned memory calls arena size align = none := by
  induction calls generalizing arena with
  | zero => rfl
  | succ calls ih =>
      have outside : alignUp arena.currentOffset align.value + size > arena.chunkSize := by
        rw [gt_iff_lt, BitVec.lt_def, formed.toNat_add align bounded, formed.chunkSize]
        exact Nat.lt_of_lt_of_le long (Nat.le_add_left _ _)
      exact (if_pos outside).trans (ih formed.allocateNewChunk)

/-- Plain requests are requests with the least alignment. -/
theorem allocateAligned_of_one (size : BitVec 64) (one : align.value.toNat = 1)
    (formed : WellFormed memory arena) (short : size.toNat ≤ memory.chunkSize.toNat) :
    Arena.allocateAligned memory 2 arena size align = some (arena.allocate memory size) := by
  have same {arena : Arena} (formed : WellFormed memory arena) :
      alignUp arena.currentOffset align.value = arena.currentOffset := by
    have fits := formed.fits align
    rw [one] at fits
    exact alignUp_one one fits
  have enough : ¬ (arena.allocateNewChunk memory).currentOffset + size > arena.chunkSize := by
    change ¬ 0#64 + size > arena.chunkSize
    rw [BitVec.zero_add, gt_iff_lt, BitVec.lt_def, formed.chunkSize]
    exact Nat.not_lt.mpr short
  simp only [Arena.allocateAligned, Arena.allocate, same formed, same formed.allocateNewChunk]
  split_ifs with full passed
  · exact absurd passed enough
  · rfl
  · rfl

/-! ## One request -/

/-- The bytes that were handed out are in chunks that were put aside, or below the offset. -/
def Behind (memory : ChunkMemory) (arena : Arena) (earlier : List ByteRange) : Prop :=
  ∀ range ∈ earlier,
    (∃ index < arena.chunks.length, memory.address index ≤ range.start ∧
      range.start + range.size ≤ memory.address index + memory.chunkSize.toNat) ∨
    arena.currentChunk ≤ range.start ∧
      range.start + range.size ≤ arena.currentChunk + arena.currentOffset.toNat

theorem Behind.allocateNewChunk (behind : Behind memory arena earlier)
    (formed : WellFormed memory arena) : Behind memory (arena.allocateNewChunk memory) earlier := by
  have length : (arena.allocateNewChunk memory).chunks.length = arena.chunks.length + 1 :=
    List.length_append
  intro range member
  left
  rw [length]
  obtain ⟨index, below, starts, stops⟩ | ⟨starts, stops⟩ := behind range member
  · exact ⟨index, Nat.lt_succ_of_lt below, starts, stops⟩
  · have inside := formed.offset
    rw [formed.current] at starts stops
    exact ⟨arena.chunks.length, Nat.lt_succ_self _, starts, by omega⟩

/-- What serving a request does. -/
structure ServedBy (memory : ChunkMemory) (request : Arena.Request) (arena next : Arena)
    (range : ByteRange) (offset : Nat) : Prop where
  size : range.size = request.size.toNat
  continues : KeepsChunk arena next offset ∨ KeepsChunk (arena.allocateNewChunk memory) next offset
  placed : Placed memory next range.size (requestAlign request) range.start offset

theorem ServedBy.inChunk {offset : Nat} (served : ServedBy memory request arena next range offset) :
    next.currentChunk ≤ range.start ∧
      range.start + range.size ≤ next.currentChunk + memory.chunkSize.toNat := by
  obtain ⟨formed, -, start, stop⟩ := served.placed
  have inside := formed.offset
  omega

/-- The bytes are behind all those before, and everything is behind what comes next. -/
theorem alone_of_continues {offset : Nat} (formed : WellFormed memory arena)
    (behind : Behind memory arena earlier) (continues : KeepsChunk arena next offset)
    (placed : Placed memory next range.size (requestAlign request) range.start offset) :
    (∀ range' ∈ earlier, ∀ byte, ¬ (Holds range' byte ∧ Holds range byte)) ∧
      Behind memory next (earlier ++ [range]) := by
  obtain ⟨formed', -, start, stop⟩ := placed
  have inside := formed'.offset
  have passed := continues.offset
  have current := continues.current
  refine ⟨?_, ?_⟩
  · rintro range' member byte ⟨⟨lower', upper'⟩, lower, upper⟩
    obtain ⟨index, below, starts, stops⟩ | ⟨starts, stops⟩ := behind range' member
    · have apart := memory.apart (Nat.ne_of_lt below)
      rw [current, formed.current] at start
      omega
    · omega
  · intro range' member
    obtain old | rfl := List.mem_append.mp member |>.imp_right List.mem_singleton.mp
    · rw [continues.chunks, current]
      obtain aside | ⟨starts, stops⟩ := behind range' old
      · exact .inl aside
      · exact .inr ⟨starts, by omega⟩
    · exact .inr ⟨by omega, by omega⟩

theorem ServedBy.alone {offset : Nat} (served : ServedBy memory request arena next range offset)
    (formed : WellFormed memory arena) (behind : Behind memory arena earlier) :
    (∀ range' ∈ earlier, ∀ byte, ¬ (Holds range' byte ∧ Holds range byte)) ∧
      Behind memory next (earlier ++ [range]) := by
  obtain continues | continues := served.continues
  · exact alone_of_continues formed behind continues served.placed
  · exact alone_of_continues formed.allocateNewChunk (behind.allocateNewChunk formed) continues
      served.placed

/-- The bytes are aligned exactly if the chunk they are in is. -/
theorem ServedBy.aligned_iff {offset : Nat}
    (served : ServedBy memory request arena next range offset) :
    requestAlign request ∣ range.start ↔ requestAlign request ∣ next.currentChunk := by
  rw [served.placed.start]
  exact (Nat.dvd_add_iff_left served.placed.multiple).symm

/-- An aligned request that fits is served by the chunk it should go to. -/
theorem step_allocateAligned_of_short (size : BitVec 64) (align : Align)
    (formed : WellFormed memory arena)
    (short : size.toNat ≤ memory.chunkSize.toNat) :
    ∃ next range offset,
      Arena.step memory 2 (.allocateAligned size align) arena = some (next, range) ∧
      ServedBy memory (.allocateAligned size align) arena next range offset ∧
      next.currentChunk = targetChunk memory arena size align := by
  have step {next : Arena} {start : Nat}
      (served : Arena.allocateAligned memory 2 arena size align = some (next, start)) :
      Arena.step memory 2 (.allocateAligned size align) arena =
        some (next, { start := start, size := size.toNat }) := by
    simp only [Arena.step, served, Option.bind_eq_bind, Option.bind_some, pure]
  rw [targetChunk, formed.chunkSize]
  split_ifs with room
  · obtain ⟨next, start, served, continues, placed⟩ :=
      allocateAligned_of_room 1 formed room
    exact ⟨next, _, _, step served, ⟨rfl, .inl continues, placed⟩, continues.current⟩
  · obtain ⟨next, start, served, continues, placed⟩ :=
      allocateAligned_of_full 0 formed short room
    exact ⟨next, _, _, step served, ⟨rfl, .inr continues, placed⟩, continues.current⟩

theorem step_of_short (formed : WellFormed memory arena)
    (short : request.size.toNat ≤ memory.chunkSize.toNat) :
    ∃ next range offset, Arena.step memory 2 request arena = some (next, range) ∧
      ServedBy memory request arena next range offset ∧
      (requestAlign request ∣ range.start ↔ FitsChunk memory request arena) := by
  cases request with
  | allocate size =>
      have one : (Align.mk 1 ⟨0, rfl⟩).value.toNat = 1 := rfl
      have least := allocateAligned_of_one size one formed short
      obtain ⟨next, range, offset, served, ⟨whole, continues, placed⟩, -⟩ :=
        step_allocateAligned_of_short size ⟨1, 0, rfl⟩ formed short
      rw [Arena.step, least] at served
      exact ⟨next, range, offset, served, ⟨whole, continues, placed⟩,
        iff_of_true (Nat.one_dvd _) short⟩
  | allocateAligned size align =>
      obtain ⟨next, range, offset, served, by', target⟩ :=
        step_allocateAligned_of_short size align formed short
      refine ⟨next, range, offset, served, by', ?_⟩
      rw [by'.aligned_iff, target]
      exact (and_iff_right short).symm

/-- However many calls there are, what is returned is the same. -/
theorem step_unique {calls' : Nat} {result result' : Arena × ByteRange}
    (served : Arena.step memory calls request arena = some result)
    (served' : Arena.step memory calls' request arena = some result') : result = result' := by
  cases request with
  | allocate size => exact Option.some.inj (served.symm.trans served')
  | allocateAligned size align =>
      simp only [Arena.step, Option.bind_eq_bind, Option.bind_eq_some_iff] at served served'
      obtain ⟨pair, first, rest⟩ := served
      obtain ⟨pair', first', rest'⟩ := served'
      have most := allocateAligned_mono first (Nat.le_max_left calls calls')
      have most' := allocateAligned_mono first' (Nat.le_max_right calls calls')
      obtain rfl := Option.some.inj (most.symm.trans most')
      exact Option.some.inj (rest.symm.trans rest')

/-- Bytes that are in one chunk are no more than a chunk has. -/
theorem Serves.short (serves : Serves memory earlier request next range) :
    request.size.toNat ≤ memory.chunkSize.toNat := by
  obtain ⟨chunk, -, lower, upper⟩ := serves.inChunk
  have size := serves.size
  omega

/-! ## Runs -/

/-- All requests are served exactly if each fits a chunk and meets an aligned one. -/
theorem servesAll_iff_of_wellFormed {requests : List Arena.Request}
    (formed : WellFormed memory arena) (behind : Behind memory arena earlier) :
    ServesAll memory earlier requests arena ↔
      Along (Arena.step memory 2) (FitsChunk memory) requests arena := by
  induction requests generalizing arena earlier with
  | nil => exact Iff.rfl
  | cons request requests ih =>
      constructor
      · rintro ⟨calls, next, range, served, serves, rest⟩
        obtain ⟨next', range', offset, served', by', aligned⟩ := step_of_short formed serves.short
        obtain ⟨rfl, rfl⟩ := Prod.mk.inj (step_unique served served')
        refine (along_cons_iff served').mpr ⟨aligned.mp serves.aligned, ?_⟩
        exact (ih by'.placed.formed (by'.alone formed behind).2).mp rest
      · intro along
        have short : request.size.toNat ≤ memory.chunkSize.toNat := by
          cases request with
          | allocate size => exact along.1
          | allocateAligned size align => exact along.1.1
        obtain ⟨next, range, offset, served, by', aligned⟩ := step_of_short formed short
        obtain ⟨fits, rest⟩ := (along_cons_iff served).mp along
        obtain ⟨alone, behind'⟩ := by'.alone formed behind
        refine ⟨2, next, range, served, ?_, (ih by'.placed.formed behind').mpr rest⟩
        exact ⟨by'.size, aligned.mpr fits,
          ⟨next.currentChunk, List.mem_append_right _ List.mem_cons_self, by'.inChunk⟩, alone,
          by'.placed.formed.offset⟩

/-- All requests are served exactly if each fits a chunk and meets an aligned one. -/
theorem arena_servesAll_iff (memory : ChunkMemory) (requests : List Arena.Request) :
    ServesAll memory [] requests (Arena.new memory) ↔
      Along (Arena.step memory 2) (FitsChunk memory) requests (Arena.new memory) :=
  servesAll_iff_of_wellFormed (wellFormed_new memory)
    (List.forall_mem_nil _)

/-- Chunks of a hundred bytes. -/
def hundredBytes : ChunkMemory where
  chunkSize := 100
  address index := 4096 * index + 16
  small := by decide
  apart := by
    intro index other differ
    have hundred : (100 : BitVec 64).toNat = 100 := rfl
    omega

/-- A hundred and fifty bytes are handed out from a chunk of a hundred, they are never handed out
aligned, and eight bytes that should be aligned to sixty-four are where the chunk is. -/
theorem arena_serves_wrong :
    ¬ ServesAll hundredBytes [] [.allocate 150] (Arena.new hundredBytes) ∧
      ¬ ServesAll hundredBytes [] [.allocateAligned 150 ⟨1, 0, rfl⟩] (Arena.new hundredBytes) ∧
      ¬ ServesAll hundredBytes [] [.allocateAligned 8 ⟨64, 6, rfl⟩] (Arena.new hundredBytes) := by
  refine ⟨?_, ?_, ?_⟩
  · rintro ⟨calls, next, range, -, serves, -⟩
    exact absurd serves.short (by decide)
  · rintro ⟨calls, next, range, -, serves, -⟩
    exact absurd serves.short (by decide)
  · rintro ⟨calls, next, range, served, serves, -⟩
    have returned : Arena.step hundredBytes 2 (.allocateAligned 8 ⟨64, 6, rfl⟩)
        (Arena.new hundredBytes) = some (⟨[], 16, 100, 8⟩, ⟨16, 8⟩) := rfl
    obtain ⟨rfl, rfl⟩ := Prod.mk.inj (step_unique served returned)
    exact absurd serves.aligned (by decide)

end OdbcFast.Verification
