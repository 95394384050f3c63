/-
What `kv_allocate` returns, for every block table that calls can lead to.  The blocks are
the first that fit; but the number of blocks is rounded up in 32 bits, so that a request
near the limit of the type gets a single block.
-/

import AgentNucleus.Top.KvLedger

set_option autoImplicit false

namespace AgentNucleus.Top

open AgentNucleus.Library

theorem KvBlock.occupy_id {agent : UInt64} {blockSize : UInt32} (block : KvBlock) :
    (block.occupy agent blockSize).id = block.id := rfl

theorem KvBlock.restore_id (block : KvBlock) : block.restore.id = block.id := rfl

theorem KvBlock.reuse_id (block : KvBlock) : block.reuse.id = block.id := rfl

namespace KvCache

variable {cache after : KvCache} {range : KvRange}

/-! ### The same blocks after every call -/

theorem SamePool.refl (cache : KvCache) : cache.SamePool cache := ⟨rfl, rfl⟩

theorem SamePool.trans {middle : KvCache} (first : cache.SamePool middle)
    (second : middle.SamePool after) : cache.SamePool after :=
  ⟨second.blockSize.trans first.blockSize, second.ids.trans first.ids⟩

theorem samePool_modifyEach {update : KvBlock → KvBlock}
    (keeps : ∀ block, (update block).id = block.id) (indices : List Nat) (usedSize : UInt64) :
    cache.SamePool
      { cache with
        blocks := modifyEach update indices cache.blocks
        usedSize := usedSize } :=
  ⟨rfl, map_modifyEach keeps indices cache.blocks⟩

theorem samePool_sweep {update : KvBlock → KvBlock}
    (keeps : ∀ block, (update block).id = block.id) (indices : List Nat) (cache : KvCache) :
    cache.SamePool (cache.sweep update indices).1 := by
  induction indices generalizing cache with
  | nil => exact SamePool.refl cache
  | cons index rest ih =>
      unfold sweep
      split
      · have first : cache.SamePool { cache with blocks := cache.blocks.modify index update } :=
          ⟨rfl, map_modify keeps index cache.blocks⟩
        exact first.trans (ih _)
      · exact SamePool.refl cache

theorem samePool_kvFree (range : KvRange) : cache.SamePool (cache.kvFree range).1 := by
  have swept := samePool_sweep (fun _ => KvBlock.release_id) range.indices cache
  unfold kvFree
  split
  · next stopped result =>
      rw [result] at swept
      exact swept
  · next finished result =>
      rw [result] at swept
      exact ⟨swept.blockSize, swept.ids⟩

theorem copySamples_ids (source target : Nat → Nat) (positions : List Nat)
    (blocks : List KvBlock) :
    (positions.foldl (fun blocks i => copySample (source i) (target i) blocks)
      blocks).map (·.id) = blocks.map (·.id) := by
  induction positions generalizing blocks with
  | nil => rfl
  | cons i rest ih =>
      rw [List.foldl_cons, ih]
      unfold copySample
      cases blocks[source i]? with
      | none => rfl
      | some sample =>
          apply map_modify
          intro block
          rfl

theorem samePool_kvCompress {input : KvRange} {ratio : KvRatio}
    (compressed : cache.kvCompress input ratio = some (range, after)) : cache.SamePool after := by
  unfold kvCompress at compressed
  dsimp only at compressed
  split at compressed
  · cases compressed
  · split at compressed
    · cases compressed
    · rw [Option.some.injEq, Prod.mk.injEq] at compressed
      obtain ⟨_, rfl⟩ := compressed
      exact ⟨rfl, copySamples_ids _ _ _ _⟩

theorem samePool_kvAllocate {agent : UInt64} {size : UInt32}
    (allocated : cache.kvAllocate agent size = some (range, after)) : cache.SamePool after := by
  unfold kvAllocate at allocated
  dsimp only at allocated
  split at allocated
  · cases allocated
  · rw [Option.some.injEq, Prod.mk.injEq] at allocated
    obtain ⟨_, rfl⟩ := allocated
    exact samePool_modifyEach KvBlock.occupy_id _ _

theorem samePool_kvReusePrefix {agent : UInt64} {wanted : List UInt8} {wantedSize : UInt32}
    (reused : cache.kvReusePrefix agent wanted wantedSize = some (range, after)) :
    cache.SamePool after := by
  unfold kvReusePrefix at reused
  split at reused
  · cases reused
  · rw [Option.some.injEq, Prod.mk.injEq] at reused
    obtain ⟨_, rfl⟩ := reused
    exact ⟨rfl, map_modify KvBlock.reuse_id _ _⟩

end KvCache

namespace KvPool

variable {pool : KvPool}

theorem receive_samePool {result : Option (KvRange × KvCache)}
    (each : ∀ range cache, result = some (range, cache) → pool.cache.SamePool cache) :
    pool.cache.SamePool (pool.receive result).cache := by
  cases result with
  | none => exact KvCache.SamePool.refl pool.cache
  | some given => exact each given.1 given.2 rfl

/-- Whatever ranges the calls get, the blocks stay where they are. -/
theorem step_samePool (pool : KvPool) (call : PoolCall) :
    pool.cache.SamePool (pool.step call).cache := by
  have refl := KvCache.SamePool.refl pool.cache
  cases call with
  | allocate agent size =>
      exact receive_samePool fun _ _ => KvCache.samePool_kvAllocate
  | free place =>
      apply onRange_rule (fun next => pool.cache.SamePool next.cache) refl
      intro range _ _
      exact KvCache.samePool_kvFree range
  | share src dst place =>
      apply onRange_rule (fun next => pool.cache.SamePool next.cache) refl
      intro range _ _
      exact KvCache.samePool_sweep (fun _ => KvBlock.lend_id src) range.indices pool.cache
  | unshare id place =>
      apply onRange_rule (fun next => pool.cache.SamePool next.cache) refl
      intro range _ _
      exact KvCache.samePool_modifyEach (fun _ => KvBlock.giveBack_id) range.indices _
  | compress place ratio =>
      apply onRange_rule (fun next => pool.cache.SamePool next.cache) refl
      intro range _ _
      exact receive_samePool fun _ _ => KvCache.samePool_kvCompress
  | decompress place =>
      apply onRange_rule (fun next => pool.cache.SamePool next.cache) refl
      intro range _ _
      exact KvCache.samePool_modifyEach KvBlock.restore_id range.indices _
  | reusePrefix agent wanted wantedSize =>
      exact receive_samePool fun _ _ => KvCache.samePool_kvReusePrefix
  | write place data dataSize =>
      apply onRange_rule (fun next => pool.cache.SamePool next.cache) refl
      intro range _ _
      exact KvCache.samePool_of_entries
        (KvCache.writeBlocks_entries pool.cache data dataSize range.indices 0 pool.cache.blocks)
        rfl

end KvPool

theorem run_laid (config : KvConfig) (memory : Nat → List UInt8) (calls : List PoolCall) :
    ((poolMachine config memory).run calls).cache.Laid :=
  (poolMachine config memory).runFrom_invariant (fun pool => pool.cache.Laid)
    (fun pool call laid => (pool.step_samePool call).laid laid) _ calls
    (kvCacheInit_laid config memory)

/-! ### One request -/

namespace KvCache

variable {cache after : KvCache} {range : KvRange}

/-- `count` free blocks from the block with index `start` on. -/
def FreeBlocks (cache : KvCache) (count start : Nat) : Prop :=
  start + count ≤ cache.blocks.length ∧
    ∀ block ∈ stretch start count cache.blocks, block.state = .free

theorem freeRun_iff {count : UInt32} {start : Nat} :
    cache.FreeRun count start ↔ cache.FreeBlocks count.toNat start :=
  ⟨fun run => ⟨run.inside, run.free⟩, fun blocks => ⟨blocks.1, blocks.2⟩⟩

/-- How many blocks hold that many bytes; at least one is given out. -/
def requiredBlocks (cache : KvCache) (size : UInt32) : Nat :=
  max 1 ((size.toNat + cache.blockSize.toNat - 1) / cache.blockSize.toNat)

/-- Rounding up leaves 32 bits. -/
def RoundingWraps (cache : KvCache) (size : UInt32) : Prop :=
  2 ^ 32 ≤ size.toNat + cache.blockSize.toNat - 1

/-- The sum that `kv_allocate` divides. -/
theorem Laid.rounded_toNat (laid : cache.Laid) (size : UInt32) :
    (size + cache.blockSize - 1).toNat =
      (size.toNat + cache.blockSize.toNat - 1) % 2 ^ 32 := by
  have sized := laid.sized
  have first := size.toNat_lt
  have second := cache.blockSize.toNat_lt
  rw [UInt32.toNat_sub, UInt32.toNat_add]
  change (2 ^ 32 - 1 + (size.toNat + cache.blockSize.toNat) % 2 ^ 32) % 2 ^ 32 = _
  omega

theorem blocksNeeded_toNat (size : UInt32) :
    (cache.blocksNeeded size).toNat =
      max 1 ((size + cache.blockSize - 1).toNat / cache.blockSize.toNat) := by
  unfold blocksNeeded
  dsimp only
  split
  · next zero =>
      rw [← UInt32.toNat_inj, UInt32.toNat_div] at zero
      rw [zero]
      rfl
  · next nonzero =>
      rw [← UInt32.toNat_inj, UInt32.toNat_div] at nonzero
      rw [UInt32.toNat_div]
      exact (Nat.max_eq_right (Nat.one_le_iff_ne_zero.mpr nonzero)).symm

/-- Where nothing wraps, the blocks needed are those required. -/
theorem Laid.blocksNeeded_eq (laid : cache.Laid) {size : UInt32}
    (fits : ¬cache.RoundingWraps size) :
    (cache.blocksNeeded size).toNat = cache.requiredBlocks size := by
  unfold RoundingWraps at fits
  unfold requiredBlocks
  rw [blocksNeeded_toNat, laid.rounded_toNat, Nat.mod_eq_of_lt (by omega)]

/-- Where it wraps, one block is given out. -/
theorem Laid.blocksNeeded_of_wraps (laid : cache.Laid) {size : UInt32}
    (wraps : cache.RoundingWraps size) : (cache.blocksNeeded size).toNat = 1 := by
  have first := size.toNat_lt
  have second := cache.blockSize.toNat_lt
  unfold RoundingWraps at wraps
  have none : (size.toNat + cache.blockSize.toNat - 1) % 2 ^ 32 / cache.blockSize.toNat = 0 :=
    Nat.div_eq_of_lt (by omega)
  rw [blocksNeeded_toNat, laid.rounded_toNat, none]
  rfl

/-- One block is enough for a request that is no larger. -/
theorem Laid.requiredBlocks_of_small (laid : cache.Laid) {size : UInt32}
    (small : size.toNat ≤ cache.blockSize.toNat) : cache.requiredBlocks size = 1 := by
  have sized := laid.sized
  unfold requiredBlocks
  have few : (size.toNat + cache.blockSize.toNat - 1) / cache.blockSize.toNat ≤ 1 := by
    rw [Nat.div_le_iff_le_mul (by omega)]
    omega
  exact Nat.max_eq_left few

/-- The blocks required hold the request. -/
theorem Laid.requiredBlocks_hold (laid : cache.Laid) (size : UInt32) :
    size.toNat ≤ cache.requiredBlocks size * cache.blockSize.toNat := by
  have sized := laid.sized
  have rounded := Nat.lt_mul_div_succ (size.toNat + cache.blockSize.toNat - 1)
    (b := cache.blockSize.toNat) (by omega)
  have most : (size.toNat + cache.blockSize.toNat - 1) / cache.blockSize.toNat ≤
      cache.requiredBlocks size := Nat.le_max_right _ _
  have larger := Nat.mul_le_mul_left cache.blockSize.toNat most
  rw [Nat.mul_add, Nat.mul_one] at rounded
  rw [Nat.mul_comm]
  omega

/-! ### First fit -/

theorem FreeBlocks.some {count start : Nat} (blocks : cache.FreeBlocks count start)
    (positive : 1 ≤ count) : ∃ block ∈ cache.blocks, block.state = .free := by
  have inside := blocks.1
  have found := List.getElem?_eq_getElem (l := cache.blocks) (i := start) (by omega)
  have member : cache.blocks[start] ∈ stretch start count cache.blocks :=
    mem_stretch_iff.mpr ⟨0, positive, found⟩
  exact ⟨_, mem_of_mem_stretch member, blocks.2 _ member⟩

theorem freeBlocks_one {block : KvBlock} (member : block ∈ cache.blocks)
    (free : block.state = .free) : ∃ start, cache.FreeBlocks 1 start := by
  obtain ⟨start, below, found⟩ := List.getElem_of_mem member
  refine ⟨start, by omega, ?_⟩
  intro other inside
  obtain ⟨offset, small, same⟩ := mem_stretch_iff.mp inside
  rw [Nat.lt_one_iff.mp small, Nat.add_zero, List.getElem?_eq_getElem below, found,
    Option.some.injEq] at same
  rw [← same]
  exact free

/-- No free blocks of that number begin earlier. -/
theorem Laid.findFreeBlock_first (laid : cache.Laid) {count : UInt32}
    (positive : 1 ≤ count.toNat) (found : cache.findFreeBlock count ≠ 0) :
    ∀ earlier, earlier < (cache.findFreeBlock count).toNat - 1 →
      ¬cache.FreeBlocks count.toNat earlier := by
  intro earlier before blocks
  unfold findFreeBlock at found before
  cases search : (List.range cache.blocks.length).find? (cache.freeFrom count) with
  | none =>
      rw [search] at found
      exact found rfl
  | some i =>
      rw [search] at before
      obtain ⟨_, member, missed⟩ := List.find?_range_eq_some.mp search
      have below := List.mem_range.mp member
      have here := List.getElem?_eq_getElem below
      have id := laid.id_toNat here
      simp only [here, id] at before
      have free := (freeFrom_iff laid.few positive (by omega)).mpr (freeRun_iff.mpr blocks)
      have skipped := missed earlier (by omega)
      rw [free] at skipped
      cases skipped

theorem kvAllocate_range {agent : UInt64} {size : UInt32}
    (allocated : cache.kvAllocate agent size = some (range, after)) :
    cache.findFreeBlock (cache.blocksNeeded size) ≠ 0 ∧
      range.start = cache.findFreeBlock (cache.blocksNeeded size) ∧
      range.count = cache.blocksNeeded size := by
  unfold kvAllocate at allocated
  dsimp only at allocated
  split at allocated
  · cases allocated
  · next found =>
      rw [Option.some.injEq, Prod.mk.injEq] at allocated
      rw [← allocated.1]
      exact ⟨found, rfl, rfl⟩

theorem kvAllocate_none_iff {agent : UInt64} {size : UInt32} :
    cache.kvAllocate agent size = none ↔ cache.findFreeBlock (cache.blocksNeeded size) = 0 := by
  unfold kvAllocate
  dsimp only
  split
  · next zero => simp [zero]
  · next nonzero => simp [nonzero]

end KvCache

/-- A request that succeeds gets enough blocks, the first free ones of that number; one that
fails found no run of the blocks it needs, and has changed nothing. -/
structure KvPool.CoversRequest (pool : KvPool) (agent : UInt64) (size : UInt32) : Prop where
  granted : ∀ range after, pool.cache.kvAllocate agent size = some (range, after) →
    size.toNat ≤ range.size.toNat ∧
      range.size.toNat = range.count.toNat * pool.cache.blockSize.toNat ∧
      1 ≤ range.start.toNat ∧
      pool.cache.FreeBlocks range.count.toNat (range.start.toNat - 1) ∧
      ∀ earlier, earlier < range.start.toNat - 1 →
        ¬pool.cache.FreeBlocks range.count.toNat earlier
  refused : pool.cache.kvAllocate agent size = none →
    (∀ start, ¬pool.cache.FreeBlocks (pool.cache.requiredBlocks size) start) ∧
      pool.step (.allocate agent size) = pool

namespace KvPool

variable {pool : KvPool} {agent : UInt64} {size : UInt32}

/-- What is always right about a request that succeeds. -/
theorem granted_first (laid : pool.cache.Laid) {range : KvRange} {after : KvCache}
    (allocated : pool.cache.kvAllocate agent size = some (range, after)) :
    range.size.toNat = range.count.toNat * pool.cache.blockSize.toNat ∧
      1 ≤ range.start.toNat ∧
      pool.cache.FreeBlocks range.count.toNat (range.start.toNat - 1) ∧
      ∀ earlier, earlier < range.start.toNat - 1 →
        ¬pool.cache.FreeBlocks range.count.toNat earlier := by
  obtain ⟨fits, free, _, _⟩ := KvCache.kvAllocate_updates laid allocated
  obtain ⟨found, start, count⟩ := KvCache.kvAllocate_range allocated
  have positive := (laid.blocksNeeded_size size).1
  refine ⟨fits.size, fits.positive, ⟨fits.inside, free⟩, ?_⟩
  rw [start, count]
  exact laid.findFreeBlock_first positive found

/-- Enough blocks are counted, where the sum does not wrap or one block is enough. -/
theorem coversRequest_of_exact (laid : pool.cache.Laid)
    (exact_count : (pool.cache.blocksNeeded size).toNat = pool.cache.requiredBlocks size) :
    pool.CoversRequest agent size := by
  constructor
  · intro range after allocated
    have first := granted_first laid allocated
    have count := (KvCache.kvAllocate_range allocated).2.2
    refine ⟨?_, first⟩
    rw [first.1, count, exact_count]
    exact laid.requiredBlocks_hold size
  · intro none
    have positive := (laid.blocksNeeded_size size).1
    have missed := (laid.findFreeBlock_eq_zero_iff positive).mp
      (KvCache.kvAllocate_none_iff.mp none)
    constructor
    · intro start blocks
      rw [← exact_count] at blocks
      exact missed start (KvCache.freeRun_iff.mpr blocks)
    · change pool.receive (pool.cache.kvAllocate agent size) = pool
      rw [none]
      rfl

/-- Without free blocks no request succeeds. -/
theorem coversRequest_of_full (laid : pool.cache.Laid)
    (full : ¬∃ block ∈ pool.cache.blocks, block.state = .free) :
    pool.CoversRequest agent size := by
  constructor
  · intro range after allocated
    have blocks := (granted_first laid allocated).2.2.1
    have positive := (laid.blocksNeeded_size size).1
    rw [← (KvCache.kvAllocate_range allocated).2.2] at positive
    exact absurd (blocks.some positive) full
  · intro none
    constructor
    · intro start blocks
      exact full (blocks.some (Nat.le_max_left _ _))
    · change pool.receive (pool.cache.kvAllocate agent size) = pool
      rw [none]
      rfl

/-- A larger request that wraps gets one block. -/
theorem not_coversRequest (laid : pool.cache.Laid) (wraps : pool.cache.RoundingWraps size)
    (large : pool.cache.blockSize < size)
    (spare : ∃ block ∈ pool.cache.blocks, block.state = .free) :
    ¬pool.CoversRequest agent size := by
  intro covers
  obtain ⟨block, member, free⟩ := spare
  obtain ⟨start, blocks⟩ := KvCache.freeBlocks_one member free
  have one := laid.blocksNeeded_of_wraps wraps
  cases result : pool.cache.kvAllocate agent size with
  | none =>
      have missed := (laid.findFreeBlock_eq_zero_iff (Nat.le_of_eq one.symm)).mp
        (KvCache.kvAllocate_none_iff.mp result)
      rw [← one] at blocks
      exact missed start (KvCache.freeRun_iff.mpr blocks)
  | some given =>
      obtain ⟨range, after⟩ := given
      obtain ⟨enough, product, _⟩ := covers.granted range after result
      rw [product, (KvCache.kvAllocate_range result).2.2, one, Nat.one_mul] at enough
      have more := UInt32.lt_iff_toNat_lt.mp large
      omega

end KvPool

/-- In every state that calls lead to, a request is covered, unless its size wraps when it is
rounded up, is larger than a block, and there is a free block. -/
theorem request_covered_iff (config : KvConfig) (memory : Nat → List UInt8)
    (calls : List PoolCall) (agent : UInt64) (size : UInt32) :
    ((poolMachine config memory).run calls).CoversRequest agent size ↔
      ¬(((poolMachine config memory).run calls).cache.RoundingWraps size ∧
        ((poolMachine config memory).run calls).cache.blockSize < size ∧
        ∃ block ∈ ((poolMachine config memory).run calls).cache.blocks,
          block.state = .free) := by
  have laid := run_laid config memory calls
  generalize (poolMachine config memory).run calls = pool at laid
  constructor
  · intro covers ⟨wraps, large, spare⟩
    exact KvPool.not_coversRequest laid wraps large spare covers
  · intro spared
    by_cases wraps : pool.cache.RoundingWraps size
    · by_cases large : pool.cache.blockSize < size
      · exact KvPool.coversRequest_of_full laid fun spare => spared ⟨wraps, large, spare⟩
      · apply KvPool.coversRequest_of_exact laid
        rw [UInt32.lt_iff_toNat_lt, Nat.not_lt] at large
        rw [laid.blocksNeeded_of_wraps wraps, laid.requiredBlocks_of_small large]
    · exact KvPool.coversRequest_of_exact laid (laid.blocksNeeded_eq wraps)

/-- Almost the whole range of the type, from a pool of the default size: one block of 4096
bytes. -/
theorem large_request_uncovered :
    ¬∀ (config : KvConfig) (memory : Nat → List UInt8) (calls : List PoolCall) (agent : UInt64)
      (size : UInt32), ((poolMachine config memory).run calls).CoversRequest agent size := by
  intro always
  have covers := always { blockSize := 4096, maxBlocks := 2 } (fun _ => []) [] 1 4294967295
  have laid := run_laid { blockSize := 4096, maxBlocks := 2 } (fun _ => []) []
  have wraps : ((poolMachine { blockSize := 4096, maxBlocks := 2 } fun _ => []).run
      []).cache.RoundingWraps 4294967295 := by
    change 2 ^ 32 ≤ 4294967295 + 4096 - 1
    decide
  have large : ((poolMachine { blockSize := 4096, maxBlocks := 2 } fun _ => []).run
      []).cache.blockSize < 4294967295 := by
    change (4096 : UInt32) < 4294967295
    decide
  have spare : ∃ block ∈ ((poolMachine { blockSize := 4096, maxBlocks := 2 } fun _ => []).run
      []).cache.blocks, block.state = .free :=
    ⟨_, List.mem_cons_self .., rfl⟩
  exact KvPool.not_coversRequest laid wraps large spare covers

end AgentNucleus.Top
