/-
What `kv_write` puts into a range, `kv_read` takes out of it, after every run of other
calls in which no block of the range becomes free and nobody writes into it.
-/

import Mathlib.Data.List.Nodup
import AgentNucleus.Top.KvRequests

set_option autoImplicit false

namespace AgentNucleus.Top

open AgentNucleus.Library

namespace KvCache

variable {cache after : KvCache} {range : KvRange}

/-- The size of a copy, where the sum of 32 bits does not wrap. -/
theorem copySize_toNat {total done blockSize : UInt32} (behind : done < total)
    (fits : total.toNat + blockSize.toNat ≤ 2 ^ 32) :
    (if total < done + blockSize then total - done else blockSize).toNat =
      min blockSize.toNat (total.toNat - done.toNat) := by
  rw [UInt32.lt_iff_toNat_lt] at behind
  have sum : (done + blockSize).toNat = done.toNat + blockSize.toNat := by
    rw [UInt32.toNat_add]
    exact Nat.mod_eq_of_lt (by omega)
  have difference : (total - done).toNat = total.toNat - done.toNat :=
    UInt32.toNat_sub_of_le _ _ (UInt32.le_iff_toNat_le.mpr (by omega))
  split
  · next larger =>
      rw [UInt32.lt_iff_toNat_lt, sum] at larger
      rw [difference]
      omega
  · next smaller =>
      rw [UInt32.lt_iff_toNat_lt, sum] at smaller
      omega

/-- Every index names a block that is in use. -/
def InUse (indices : List Nat) (blocks : List KvBlock) : Prop :=
  ∀ index ∈ indices, ∃ block, blocks[index]? = some block ∧ block.state ≠ .free

/-- What the blocks at these indices hold is the same. -/
def SameData (indices : List Nat) (blocks others : List KvBlock) : Prop :=
  ∀ index ∈ indices, blocks[index]?.map KvBlock.data = others[index]?.map KvBlock.data

/-- A write leaves the blocks alone that it does not name. -/
theorem writeBlocks_getElem? (cache : KvCache) (data : List UInt8) (dataSize : UInt32)
    (indices : List Nat) (written : UInt32) (blocks : List KvBlock) (other : Nat)
    (outside : other ∉ indices) :
    (cache.writeBlocks data dataSize indices written blocks).1[other]? = blocks[other]? := by
  induction indices generalizing written blocks with
  | nil => rfl
  | cons index rest ih =>
      have different : index ≠ other := fun same => outside (same ▸ List.mem_cons_self ..)
      have later : other ∉ rest := fun member => outside (List.mem_cons_of_mem index member)
      unfold writeBlocks
      split
      · split
        · rfl
        · split
          · exact ih written blocks later
          · rw [ih _ _ later, List.getElem?_set_ne different]
      · rfl

/-- Where nothing is left to read, the rest of the range does not matter. -/
theorem readBlocks_full (cache : KvCache) (bufferSize : UInt32) (indices : List Nat) :
    cache.readBlocks bufferSize indices bufferSize = ([], bufferSize) := by
  cases indices with
  | nil => rfl
  | cons index rest =>
      unfold readBlocks
      rw [if_neg (UInt32.lt_irrefl bufferSize)]

theorem InUse.tail {index : Nat} {rest : List Nat} {blocks : List KvBlock}
    (inUse : InUse (index :: rest) blocks) : InUse rest blocks :=
  fun other member => inUse other (List.mem_cons_of_mem index member)

theorem InUse.set {rest : List Nat} {blocks : List KvBlock} (inUse : InUse rest blocks)
    (index : Nat) (block : KvBlock) (apart : index ∉ rest) :
    InUse rest (blocks.set index block) := by
  intro other member
  obtain ⟨found, present, busy⟩ := inUse other member
  have different : index ≠ other := fun same => apart (same ▸ member)
  exact ⟨found, (List.getElem?_set_ne different).trans present, busy⟩

/-- A write never counts more than the data has. -/
theorem writeBlocks_le (cache : KvCache) (data : List UInt8) (dataSize : UInt32)
    (fits : dataSize.toNat + cache.blockSize.toNat ≤ 2 ^ 32) (indices : List Nat)
    (written : UInt32) (blocks : List KvBlock) (begun : written.toNat ≤ dataSize.toNat) :
    (cache.writeBlocks data dataSize indices written blocks).2.toNat ≤ dataSize.toNat := by
  induction indices generalizing written blocks with
  | nil => exact begun
  | cons index rest ih =>
      unfold writeBlocks
      split
      · next behind =>
          split
          · exact begun
          · split
            · exact ih written blocks begun
            · apply ih
              have size := copySize_toNat behind fits
              have bound := dataSize.toNat_lt
              rw [UInt32.toNat_add, size]
              omega
      · exact begun

/-- The read follows the write block by block; `later` holds in these blocks what the write
has left there. -/
theorem readBlocks_writeBlocks (cache later : KvCache) (data : List UInt8)
    (dataSize bufferSize : UInt32) (length : data.length = dataSize.toNat)
    (fits : dataSize.toNat + cache.blockSize.toNat ≤ 2 ^ 32)
    (sized : later.blockSize = cache.blockSize) (indices : List Nat) (distinct : indices.Nodup)
    (written : UInt32) (blocks : List KvBlock) (inUse : InUse indices blocks)
    (begun : written.toNat ≤ dataSize.toNat) (started : written.toNat ≤ bufferSize.toNat)
    (enough : bufferSize.toNat ≤
      (cache.writeBlocks data dataSize indices written blocks).2.toNat)
    (still : InUse indices later.blocks)
    (same : SameData indices (cache.writeBlocks data dataSize indices written blocks).1
      later.blocks) :
    later.readBlocks bufferSize indices written =
      ((data.drop written.toNat).take (bufferSize.toNat - written.toNat), bufferSize) := by
  -- The whole buffer is filled already.
  have full : written = bufferSize → later.readBlocks bufferSize indices written =
      ((data.drop written.toNat).take (bufferSize.toNat - written.toNat), bufferSize) := by
    intro equal
    rw [equal, readBlocks_full, Nat.sub_self, List.take_zero]
  induction indices generalizing written blocks with
  | nil => exact full (UInt32.toNat_inj.mp (Nat.le_antisymm started enough))
  | cons index rest ih =>
      by_cases more : written < bufferSize
      · have ahead : written.toNat < bufferSize.toNat := UInt32.lt_iff_toNat_lt.mp more
        obtain ⟨block, present, busy⟩ := inUse index (List.mem_cons_self ..)
        obtain ⟨kept, present', busy'⟩ := still index (List.mem_cons_self ..)
        obtain ⟨apart, distinct⟩ := List.nodup_cons.mp distinct
        have inside : index < blocks.length := (List.getElem?_eq_some_iff.mp present).1
        by_cases open_ : written < dataSize
        · have behind : written.toNat < dataSize.toNat := UInt32.lt_iff_toNat_lt.mp open_
          unfold writeBlocks at enough same
          rw [if_pos open_] at enough same
          simp only [present, if_neg busy] at enough same
          have copySize := copySize_toNat open_ fits
          generalize (if dataSize < written + cache.blockSize then dataSize - written
            else cache.blockSize) = copied at copySize enough same
          have next : (written + copied).toNat = written.toNat + copied.toNat := by
            rw [UInt32.toNat_add]
            exact Nat.mod_eq_of_lt (by have := dataSize.toNat_lt; omega)
          have bounded := writeBlocks_le cache data dataSize fits rest (written + copied)
            (blocks.set index
              { block with
                data := (data.drop written.toNat).take copied.toNat ++
                  block.data.drop copied.toNat }) (by omega)
          have within : bufferSize.toNat ≤ dataSize.toNat := by omega
          -- What the write has left in the first block.
          have first := same index (List.mem_cons_self ..)
          rw [writeBlocks_getElem? _ _ _ _ _ _ _ apart, List.getElem?_set_self inside,
            present', Option.map_some, Option.map_some, Option.some.injEq] at first
          have readSize := copySize_toNat more
            (show bufferSize.toNat + later.blockSize.toNat ≤ 2 ^ 32 by rw [sized]; omega)
          rw [sized] at readSize
          unfold readBlocks
          rw [if_pos more]
          simp only [present', if_neg busy', sized]
          generalize (if bufferSize < written + cache.blockSize then bufferSize - written
            else cache.blockSize) = taken at readSize
          have less : taken.toNat ≤ copied.toNat := by omega
          have long : copied.toNat ≤ (data.drop written.toNat).length := by
            rw [List.length_drop, length]
            omega
          have head : kept.data.take taken.toNat =
              (data.drop written.toNat).take taken.toNat := by
            rw [← first]
            change (_ ++ _ : List UInt8).take taken.toNat = _
            rw [List.take_append_of_le_length (by rw [List.length_take]; omega), List.take_take,
              Nat.min_eq_left less]
          rw [head]
          by_cases filled : taken.toNat = bufferSize.toNat - written.toNat
          · have all : written + taken = bufferSize := by
              apply UInt32.toNat_inj.mp
              rw [UInt32.toNat_add, Nat.mod_eq_of_lt (by have := bufferSize.toNat_lt; omega)]
              omega
            rw [all, readBlocks_full, List.append_nil, filled]
          · have equal : taken = copied := UInt32.toNat_inj.mp (by omega)
            have rest_ := ih distinct (written + copied) _
              ((inUse.tail).set index _ apart) (by omega) (by omega) enough still.tail
              (fun other member => same other (List.mem_cons_of_mem index member))
              (fun full => by rw [full, readBlocks_full, Nat.sub_self, List.take_zero])
            rw [equal, rest_, next, ← List.drop_drop]
            have split_ : bufferSize.toNat - written.toNat =
                copied.toNat + (bufferSize.toNat - (written.toNat + copied.toNat)) := by omega
            rw [split_, List.take_add]
        · have past : ¬written.toNat < dataSize.toNat := fun behind =>
            open_ (UInt32.lt_iff_toNat_lt.mpr behind)
          unfold writeBlocks at enough
          rw [if_neg open_] at enough
          exact absurd ahead (Nat.not_lt.mpr enough)
      · have past : ¬written.toNat < bufferSize.toNat := fun ahead =>
          more (UInt32.lt_iff_toNat_lt.mpr ahead)
        exact full (UInt32.toNat_inj.mp (by omega))

/-! ### What the other calls leave alone -/

theorem sweep_data {update : KvBlock → KvBlock}
    (keeps : ∀ block, (update block).data = block.data) (indices : List Nat) (cache : KvCache) :
    (cache.sweep update indices).1.blocks.map KvBlock.data = cache.blocks.map KvBlock.data := by
  induction indices generalizing cache with
  | nil => rfl
  | cons index rest ih =>
      unfold sweep
      split
      · rw [ih]
        exact map_modify keeps index cache.blocks
      · rfl

theorem kvFree_data (range : KvRange) :
    (cache.kvFree range).1.blocks.map KvBlock.data = cache.blocks.map KvBlock.data := by
  have keeps : ∀ block : KvBlock, block.release.data = block.data := by
    intro block
    unfold KvBlock.release
    dsimp only
    split
    · rfl
    · split <;> rfl
  have swept := sweep_data keeps range.indices cache
  unfold kvFree
  split
  · next stopped result =>
      rw [result] at swept
      exact swept
  · next finished result =>
      rw [result] at swept
      exact swept

theorem lend_data (src : UInt64) (block : KvBlock) : (block.lend src).data = block.data := by
  unfold KvBlock.lend
  split <;> rfl

theorem giveBack_data (block : KvBlock) : block.giveBack.data = block.data := by
  unfold KvBlock.giveBack
  dsimp only
  split
  · split <;> rfl
  · rfl

theorem restore_data (block : KvBlock) : block.restore.data = block.data := rfl

theorem reuse_data (block : KvBlock) : block.reuse.data = block.data := rfl

/-- The blocks outside the range of an update. -/
theorem Updates.getElem?_outside {update : KvBlock → KvBlock}
    (updates : cache.Updates range update after) {index : Nat} {block : KvBlock}
    (present : cache.blocks[index]? = some block) (outside : block ∉ cache.covered range) :
    after.blocks[index]? = some block := by
  obtain ⟨before, rest, whole, changed⟩ := updates.blocks
  rw [whole] at present
  rw [changed]
  rcases Nat.lt_or_ge index before.length with below | above
  · rw [List.getElem?_append_left below] at present ⊢
    exact present
  · rw [List.getElem?_append_right above] at present ⊢
    rcases Nat.lt_or_ge (index - before.length) (cache.covered range).length with inside | past
    · rw [List.getElem?_append_left inside] at present
      exact absurd (List.mem_of_getElem? present) outside
    · rw [List.getElem?_append_right past] at present
      rw [List.getElem?_append_right (by rw [List.length_map]; exact past), List.length_map]
      exact present

/-- The indices of a range are consecutive, as long as they have 32 bits. -/
theorem index_toNat (range : KvRange) (positive : 1 ≤ range.start.toNat) {i : Nat}
    (below : range.start.toNat - 1 + i < 2 ^ 32) : range.index i = range.start.toNat - 1 + i := by
  have one : (1 : UInt64) ≤ range.start := UInt64.le_iff_toNat_le.mpr positive
  unfold KvRange.index
  rw [UInt64.toNat_toUInt32, UInt64.toNat_add, UInt64.toNat_sub_of_le _ _ one,
    UInt64.toNat_ofNat']
  change ((range.start.toNat - 1 + i % 2 ^ 64) % 2 ^ 64) % 2 ^ 32 = _
  omega

theorem copySamples_getElem? (source target : Nat → Nat) (positions : List Nat)
    (blocks : List KvBlock) (index : Nat) (apart : ∀ i ∈ positions, target i ≠ index) :
    (positions.foldl (fun blocks i => copySample (source i) (target i) blocks) blocks)[index]? =
      blocks[index]? := by
  induction positions generalizing blocks with
  | nil => rfl
  | cons i rest ih =>
      rw [List.foldl_cons, ih _ fun j member => apart j (List.mem_cons_of_mem i member)]
      unfold copySample
      cases blocks[source i]? with
      | none => rfl
      | some sample => exact List.getElem?_modify_ne _ _ (apart i (List.mem_cons_self ..))

/-- `kv_compress` writes into blocks that were free. -/
theorem kvCompress_getElem? (laid : cache.Laid) {input output : KvRange} {ratio : KvRatio}
    (compressed : cache.kvCompress input ratio = some (output, after)) {index : Nat}
    {block : KvBlock} (present : cache.blocks[index]? = some block)
    (busy : block.state ≠ .free) : after.blocks[index]? = some block := by
  have positive := ratio.outputBlocks_pos input
  have few := laid.few
  unfold kvCompress at compressed
  dsimp only at compressed
  split at compressed
  · cases compressed
  · split at compressed
    · cases compressed
    · next found =>
        rcases laid.findFreeBlock_spec positive with ⟨zero, _⟩ | ⟨nonzero, run⟩
        · exact absurd zero found
        · rw [Option.some.injEq, Prod.mk.injEq] at compressed
          obtain ⟨rfl, rfl⟩ := compressed
          have inside := run.inside
          rw [← present]
          apply copySamples_getElem?
          intro i member same
          have below := List.mem_range.mp member
          rw [index_toNat _ nonzero (by dsimp only; omega)] at same
          have free := run.free block
            (mem_stretch_iff.mpr ⟨i, below, by rw [← present, ← same]⟩)
          exact busy free

end KvCache

namespace KvPool

variable {pool : KvPool}

/-- The call does not write into the block with this index. -/
def Spares (pool : KvPool) (index : Nat) : PoolCall → Prop
  | .write place _ _ => ∀ range, pool.issued[place]? = some range → index ∉ range.indices
  | _ => True

/-- Only a write changes what a block in use holds. -/
theorem step_data (laid : pool.cache.Laid) (call : PoolCall) {index : Nat} {block : KvBlock}
    (present : pool.cache.blocks[index]? = some block) (busy : block.state ≠ .free)
    (spared : pool.Spares index call) :
    (pool.step call).cache.blocks[index]?.map KvBlock.data = some block.data := by
  have start : pool.cache.blocks[index]?.map KvBlock.data = some block.data := by
    rw [present]
    rfl
  have of_map : ∀ cache : KvCache,
      cache.blocks.map KvBlock.data = pool.cache.blocks.map KvBlock.data →
        cache.blocks[index]?.map KvBlock.data = some block.data := by
    intro cache same
    rw [← List.getElem?_map, same, List.getElem?_map]
    exact start
  cases call with
  | allocate agent size =>
      change (pool.receive (pool.cache.kvAllocate agent size)).cache.blocks[index]?.map _ = _
      cases result : pool.cache.kvAllocate agent size with
      | none => exact start
      | some allocated =>
          obtain ⟨range, cache⟩ := allocated
          obtain ⟨_, free, updates, _⟩ := KvCache.kvAllocate_updates laid result
          have kept := updates.getElem?_outside present fun member => busy (free block member)
          exact congrArg (Option.map KvBlock.data) kept
  | free place =>
      apply onRange_rule (fun next => next.cache.blocks[index]?.map KvBlock.data = _) start
      intro range _ _
      exact of_map _ (KvCache.kvFree_data range)
  | share src dst place =>
      apply onRange_rule (fun next => next.cache.blocks[index]?.map KvBlock.data = _) start
      intro range _ _
      exact of_map _ (KvCache.sweep_data (KvCache.lend_data src) range.indices pool.cache)
  | unshare id place =>
      apply onRange_rule (fun next => next.cache.blocks[index]?.map KvBlock.data = _) start
      intro range _ _
      exact of_map (pool.cache.kvUnshare id range)
        (map_modifyEach KvCache.giveBack_data range.indices pool.cache.blocks)
  | compress place ratio =>
      apply onRange_rule (fun next => next.cache.blocks[index]?.map KvBlock.data = _) start
      intro range _ _
      cases result : pool.cache.kvCompress range ratio with
      | none => exact start
      | some compressed =>
          have kept := KvCache.kvCompress_getElem? laid result present busy
          exact congrArg (Option.map KvBlock.data) kept
  | decompress place =>
      apply onRange_rule (fun next => next.cache.blocks[index]?.map KvBlock.data = _) start
      intro range _ _
      exact of_map (pool.cache.kvDecompress range).2
        (map_modifyEach KvCache.restore_data range.indices pool.cache.blocks)
  | reusePrefix agent wanted wantedSize =>
      change (pool.receive (pool.cache.kvReusePrefix agent wanted wantedSize)).cache.blocks[
        index]?.map _ = _
      cases result : pool.cache.kvReusePrefix agent wanted wantedSize with
      | none => exact start
      | some reused =>
          apply of_map
          unfold KvCache.kvReusePrefix at result
          split at result
          · cases result
          · rw [Option.some.injEq] at result
            rw [← result]
            exact map_modify KvCache.reuse_data _ pool.cache.blocks
  | write place data dataSize =>
      apply onRange_rule (fun next => next.cache.blocks[index]?.map KvBlock.data = _) start
      intro range _ found
      change ((pool.cache.writeBlocks data dataSize range.indices 0
        pool.cache.blocks).1)[index]?.map KvBlock.data = _
      rw [KvCache.writeBlocks_getElem? _ _ _ _ _ _ _ (spared range found)]
      exact start

end KvPool

namespace KvCache

variable {cache : KvCache} {range : KvRange}

theorem indices_nodup (range : KvRange) : range.indices.Nodup := by
  have bound := range.count.toNat_lt
  apply List.Nodup.map_on _ List.nodup_range
  intro i first j second same
  have first := List.mem_range.mp first
  have second := List.mem_range.mp second
  unfold KvRange.index at same
  rw [UInt64.toNat_toUInt32, UInt64.toNat_toUInt32, UInt64.toNat_add, UInt64.toNat_add,
    UInt64.toNat_ofNat', UInt64.toNat_ofNat'] at same
  change (_ % 2 ^ 64) % 2 ^ 32 = (_ % 2 ^ 64) % 2 ^ 32 at same
  omega

/-- A write leaves the same blocks in use. -/
theorem InUse.of_entries {indices : List Nat} {blocks others : List KvBlock}
    (inUse : InUse indices blocks)
    (entries : blocks.map KvBlock.entry = others.map KvBlock.entry) : InUse indices others := by
  intro index member
  obtain ⟨block, present, busy⟩ := inUse index member
  have kept := congrArg (fun list => list[index]?) entries
  simp only [List.getElem?_map, present, Option.map_some] at kept
  obtain ⟨other, present', same⟩ := Option.map_eq_some_iff.mp kept.symm
  have state : other.state = block.state := congrArg (fun entry => entry.2.1) same
  exact ⟨other, present', by rw [state]; exact busy⟩

/-- A write into blocks in use fills them one after the other. -/
theorem writeBlocks_total (cache : KvCache) (data : List UInt8) (dataSize : UInt32)
    (fits : dataSize.toNat + cache.blockSize.toNat ≤ 2 ^ 32) (indices : List Nat)
    (distinct : indices.Nodup) (written : UInt32) (blocks : List KvBlock)
    (inUse : InUse indices blocks) (begun : written.toNat ≤ dataSize.toNat) :
    (cache.writeBlocks data dataSize indices written blocks).2.toNat =
      min dataSize.toNat (written.toNat + indices.length * cache.blockSize.toNat) := by
  induction indices generalizing written blocks with
  | nil =>
      change written.toNat = min dataSize.toNat (written.toNat + 0 * _)
      omega
  | cons index rest ih =>
      obtain ⟨block, present, busy⟩ := inUse index (List.mem_cons_self ..)
      obtain ⟨apart, distinct⟩ := List.nodup_cons.mp distinct
      rw [List.length_cons, Nat.add_mul, Nat.one_mul]
      unfold writeBlocks
      by_cases behind : written < dataSize
      · rw [if_pos behind]
        simp only [present, if_neg busy]
        have size := copySize_toNat behind fits
        have ahead := UInt32.lt_iff_toNat_lt.mp behind
        have bound := dataSize.toNat_lt
        generalize (if dataSize < written + cache.blockSize then dataSize - written
          else cache.blockSize) = copied at size
        have next : (written + copied).toNat = written.toNat + copied.toNat := by
          rw [UInt32.toNat_add]
          exact Nat.mod_eq_of_lt (by omega)
        rw [ih distinct (written + copied) _ (inUse.tail.set index _ apart) (by omega), next]
        omega
      · have past : ¬written.toNat < dataSize.toNat := fun ahead =>
          behind (UInt32.lt_iff_toNat_lt.mpr ahead)
        rw [if_neg behind]
        change written.toNat = _
        omega

end KvCache

/-- What a range holds after calls that leave its blocks in use and do not write them. -/
theorem runFrom_data (config : KvConfig) (memory : Nat → List UInt8) (indices : List Nat)
    (calls : List PoolCall) (pool : KvPool) (laid : pool.cache.Laid)
    (inUse : (poolMachine config memory).Throughout
      (fun pool => KvCache.InUse indices pool.cache.blocks) pool calls)
    (spared : (poolMachine config memory).Along
      (fun pool call => ∀ index ∈ indices, pool.Spares index call) pool calls) :
    let last := ((poolMachine config memory).runFrom pool calls).cache
    KvCache.InUse indices last.blocks ∧ pool.cache.SamePool last ∧
      KvCache.SameData indices pool.cache.blocks last.blocks := by
  induction calls generalizing pool with
  | nil => exact ⟨inUse, KvCache.SamePool.refl pool.cache, fun _ _ => rfl⟩
  | cons call rest ih =>
      obtain ⟨here, later⟩ := inUse
      obtain ⟨spares, sparesLater⟩ := spared
      have kept := pool.step_samePool call
      obtain ⟨busy, same, data⟩ := ih (pool.step call) (kept.laid laid) later sparesLater
      refine ⟨busy, kept.trans same, ?_⟩
      intro index member
      obtain ⟨block, present, used⟩ := here index member
      have first := KvPool.step_data laid call present used (spares index member)
      have start : pool.cache.blocks[index]?.map KvBlock.data = some block.data := by
        rw [present]
        rfl
      exact start.trans (first.symm.trans (data index member))

/-- After a write into blocks that are in use, and after any calls in which these blocks
stay in use and are not written, a read returns the bytes that were written. -/
theorem read_after_write (config : KvConfig) (memory : Nat → List UInt8)
    (before later : List PoolCall) (place : Nat) (range : KvRange) (data : List UInt8)
    (dataSize bufferSize : UInt32)
    (given : ((poolMachine config memory).run before).issued[place]? = some range)
    (length : data.length = dataSize.toNat)
    (fits : dataSize.toNat +
      ((poolMachine config memory).run before).cache.blockSize.toNat ≤ 2 ^ 32)
    (inUse : (poolMachine config memory).Throughout
      (fun pool => KvCache.InUse range.indices pool.cache.blocks)
      ((poolMachine config memory).run (before ++ [.write place data dataSize])) later)
    (spared : (poolMachine config memory).Along
      (fun pool call => ∀ index ∈ range.indices, pool.Spares index call)
      ((poolMachine config memory).run (before ++ [.write place data dataSize])) later)
    (few : bufferSize.toNat ≤ min dataSize.toNat (range.count.toNat *
      ((poolMachine config memory).run before).cache.blockSize.toNat)) :
    ((poolMachine config memory).runFrom
        ((poolMachine config memory).run (before ++ [.write place data dataSize]))
        later).cache.kvRead range bufferSize =
      (data.take bufferSize.toNat, bufferSize) := by
  have laid := run_laid config memory before
  rw [Machine.run_snoc] at inUse spared ⊢
  generalize (poolMachine config memory).run before = pool at *
  have written : (poolMachine config memory).step pool (.write place data dataSize) =
      { pool with cache := (pool.cache.kvWrite range data dataSize).1 } := by
    change pool.onRange place _ = _
    unfold KvPool.onRange
    rw [given]
  rw [written] at inUse spared ⊢
  have entries := KvCache.writeBlocks_entries pool.cache data dataSize range.indices 0
    pool.cache.blocks
  have samePool : pool.cache.SamePool (pool.cache.kvWrite range data dataSize).1 :=
    KvCache.samePool_of_entries entries rfl
  have laid' := samePool.laid laid
  have nodup := KvCache.indices_nodup range
  have first := Machine.Throughout.at_segment [] later inUse
  have started : KvCache.InUse range.indices pool.cache.blocks :=
    KvCache.InUse.of_entries first entries
  have total := KvCache.writeBlocks_total pool.cache data dataSize fits range.indices nodup 0
    pool.cache.blocks started (Nat.zero_le _)
  have count : range.indices.length = range.count.toNat := by
    unfold KvRange.indices
    rw [List.length_map, List.length_range]
  obtain ⟨still, kept, same⟩ := runFrom_data config memory range.indices later _ laid' inUse spared
  have read := KvCache.readBlocks_writeBlocks pool.cache _ data dataSize bufferSize length fits
    kept.blockSize range.indices nodup 0 pool.cache.blocks started (Nat.zero_le _)
    (Nat.zero_le _) (by rw [total, count]; simpa using few) still same
  exact read

/-- Two agents in a pool of four blocks; the second writes between the first one's write
and read. -/
theorem read_after_write_between :
    ((poolMachine { blockSize := 4, maxBlocks := 4 } fun _ => [0, 0, 0, 0]).run
        [.allocate 1 6, .write 0 [1, 2, 3, 4, 5, 6] 6, .allocate 2 4,
          .write 1 [9, 9, 9, 9] 4]).cache.kvRead { start := 1, count := 2, size := 8 } 5 =
      ([1, 2, 3, 4, 5], 5) := by
  refine read_after_write { blockSize := 4, maxBlocks := 4 } (fun _ => [0, 0, 0, 0])
    [.allocate 1 6] [.allocate 2 4, .write 1 [9, 9, 9, 9] 4] 0
    { start := 1, count := 2, size := 8 } [1, 2, 3, 4, 5, 6] 6 5 rfl rfl (by decide) ?_ ?_
    (by decide)
  · have busy : ∀ blocks : List KvBlock,
        (∀ index ∈ [0, 1], (blocks[index]?.any fun block => decide (block.state ≠ .free)) = true) →
          KvCache.InUse [0, 1] blocks := by
      intro blocks each index member
      obtain ⟨block, present, used⟩ := (Option.any_eq_true _ _).mp (each index member)
      exact ⟨block, present, of_decide_eq_true used⟩
    exact ⟨busy _ (by decide), busy _ (by decide), busy _ (by decide)⟩
  · refine ⟨fun _ _ => trivial, ?_, trivial⟩
    rintro index member range ⟨⟩
    revert index
    decide

end AgentNucleus.Top
