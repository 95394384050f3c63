/-
The ledger of the block pool: the states, the reference counts and the used size of
kv_cache.c.  The three agree in every state of a run exactly if no call of the run
meets one of the cases that the code leaves out.
-/

import AgentNucleus.Top.KvCache

set_option autoImplicit false

namespace AgentNucleus.Top

open AgentNucleus.Library

def KvBlock.busy (block : KvBlock) : Bool :=
  decide (block.state ≠ .free)

/-- The largest reference count. -/
def kvMaxRefs : UInt32 := 4294967295

/-- The count of the block has been increased past its largest value, or decreased below
zero.  No call changes the count of a block by more than one, or else it sets it to one. -/
def KvBlock.Wraps (before after : KvBlock) : Prop :=
  (before.refCount = kvMaxRefs ∧ after.refCount = 0) ∨
    (before.refCount = 0 ∧ after.refCount = kvMaxRefs)

/-- The part of a block that `kv_write` does not touch. -/
def KvBlock.entry (block : KvBlock) : UInt64 × KvBlockState × UInt32 :=
  (block.id, block.state, block.refCount)

/-- Free if and only if not referenced. -/
def KvBlock.Agrees (block : KvBlock) : Prop :=
  block.state = .free ↔ block.refCount = 0

namespace KvCache

variable (cache : KvCache)

/-- The blocks of a range. -/
def covered (range : KvRange) : List KvBlock :=
  stretch (range.start.toNat - 1) range.count.toNat cache.blocks

/-- A block is free if and only if nobody references it, and the used size is that of the
blocks that are not free. -/
structure Balanced : Prop where
  free_iff : ∀ block ∈ cache.blocks, block.Agrees
  used : cache.usedSize.toNat = cache.blockSize.toNat * cache.blocks.countP KvBlock.busy

/-- Consecutive free blocks. -/
structure FreeRun (count : UInt32) (start : Nat) : Prop where
  inside : start + count.toNat ≤ cache.blocks.length
  free : ∀ block ∈ stretch start count.toNat cache.blocks, block.state = .free

/-- The range lies in the pool and its size is that of its blocks. -/
structure Fits (range : KvRange) : Prop where
  positive : 1 ≤ range.start.toNat
  nonempty : 1 ≤ range.count.toNat
  inside : range.start.toNat - 1 + range.count.toNat ≤ cache.blocks.length
  size : range.size.toNat = range.count.toNat * cache.blockSize.toNat

/-- What `kv_cache_init` establishes once and for all. -/
structure Laid : Prop where
  sized : cache.blockSize.toNat ≠ 0
  few : cache.blocks.length < 2 ^ 32
  numbered : cache.blocks.map (fun block => block.id.toNat) =
    List.range' 1 cache.blocks.length

/-- The pool has the same blocks as before, in another state. -/
structure SamePool (after : KvCache) : Prop where
  blockSize : after.blockSize = cache.blockSize
  ids : after.blocks.map (·.id) = cache.blocks.map (·.id)

/-- An update of the blocks of a range. -/
structure Updates (range : KvRange) (update : KvBlock → KvBlock) (after : KvCache) : Prop where
  blockSize : after.blockSize = cache.blockSize
  blocks : ∃ before rest,
    cache.blocks = before ++ (cache.covered range ++ rest) ∧
      after.blocks = before ++ ((cache.covered range).map update ++ rest)

end KvCache

/-! ### Counts of 32 bits -/

private theorem sub_one_toNat {count : UInt32} (positive : count ≠ 0) :
    (count - 1).toNat + 1 = count.toNat := by
  have nonzero : count.toNat ≠ 0 := fun zero => positive (UInt32.toNat_inj.mp zero)
  have below := count.toNat_lt
  rw [UInt32.toNat_sub]
  change (2 ^ 32 - 1 + count.toNat) % 2 ^ 32 + 1 = _
  omega

private theorem sub_one_eq_iff {count target : UInt32} (positive : count ≠ 0) :
    count - 1 = target ↔ count.toNat = target.toNat + 1 := by
  have lowered := sub_one_toNat positive
  rw [← UInt32.toNat_inj]
  omega

private theorem add_one_eq_zero_iff (count : UInt32) : count + 1 = 0 ↔ count = kvMaxRefs := by
  have below := count.toNat_lt
  rw [← UInt32.toNat_inj, ← UInt32.toNat_inj, UInt32.toNat_add]
  change (count.toNat + 1) % 2 ^ 32 = 0 ↔ count.toNat = 4294967295
  omega

private theorem add_one_toNat {count : UInt32} (below : count ≠ kvMaxRefs) :
    (count + 1).toNat = count.toNat + 1 := by
  have bound := count.toNat_lt
  rw [Ne, ← UInt32.toNat_inj] at below
  change count.toNat ≠ 4294967295 at below
  rw [UInt32.toNat_add]
  change (count.toNat + 1) % 2 ^ 32 = _
  omega

/-! ### The updates of one block -/

namespace KvBlock

variable {block : KvBlock}

@[simp] theorem busy_eq_true : block.busy = true ↔ block.state ≠ .free :=
  decide_eq_true_iff

@[simp] theorem busy_eq_false : block.busy = false ↔ block.state = .free := by
  unfold busy
  rw [decide_eq_false_iff_not, not_not]

@[simp] theorem release_id : block.release.id = block.id := by
  unfold release
  split
  · rfl
  · dsimp only
    split <;> rfl

@[simp] theorem lend_id (src : UInt64) : (block.lend src).id = block.id := by
  unfold lend
  split <;> rfl

@[simp] theorem giveBack_id : block.giveBack.id = block.id := by
  unfold giveBack
  split
  · dsimp only
    split <;> rfl
  · rfl

theorem not_wraps {before after : KvBlock}
    (moves : after.refCount.toNat = before.refCount.toNat + 1 ∨
      after.refCount.toNat + 1 = before.refCount.toNat ∨
      after.refCount = before.refCount ∨ after.refCount = 1) : ¬Wraps before after := by
  intro wraps
  unfold Wraps kvMaxRefs at wraps
  simp only [← UInt32.toNat_inj] at wraps moves
  change (_ = 4294967295 ∧ _ = 0) ∨ (_ = 0 ∧ _ = 4294967295) at wraps
  change _ ∨ _ ∨ _ ∨ _ = 1 at moves
  omega

theorem not_wraps_self (block : KvBlock) : ¬Wraps block block :=
  not_wraps (Or.inr (Or.inr (Or.inl rfl)))

/-! #### Release -/

theorem release_of_free (free : block.state = .free) : block.release = block := by
  unfold release
  rw [if_pos free]

theorem release_refCount (busy : block.state ≠ .free) :
    block.release.refCount = block.refCount - 1 := by
  unfold release
  rw [if_neg busy]
  dsimp only
  split <;> rfl

theorem release_state (busy : block.state ≠ .free) :
    block.release.state = .free ↔ block.refCount - 1 = 0 := by
  unfold release
  rw [if_neg busy]
  dsimp only
  split
  · next zero => exact ⟨fun _ => zero, fun _ => rfl⟩
  · next nonzero => exact ⟨fun free => absurd free busy, fun zero => absurd zero nonzero⟩

theorem release_agrees (agrees : block.Agrees) : block.release.Agrees := by
  by_cases free : block.state = .free
  · rw [release_of_free free]
    exact agrees
  · unfold Agrees
    rw [release_state free, release_refCount free]

theorem release_busy (agrees : block.Agrees) :
    block.busy.toNat + false.toNat =
      block.release.busy.toNat + (decide (block.refCount = 1)).toNat := by
  by_cases free : block.state = .free
  · have zero := agrees.mp free
    rw [release_of_free free, zero]
    rfl
  · have positive : block.refCount ≠ 0 := fun zero => free (agrees.mpr zero)
    have freed := release_state free
    have one : block.refCount - 1 = 0 ↔ block.refCount = 1 := by
      rw [sub_one_eq_iff positive, ← UInt32.toNat_inj]
      rfl
    rw [busy_eq_true.mpr free]
    by_cases last : block.refCount = 1
    · rw [busy_eq_false.mpr (freed.mpr (one.mpr last)), decide_eq_true last]
      rfl
    · rw [busy_eq_true.mpr (fun state => last (one.mp (freed.mp state))),
        decide_eq_false last]

theorem release_not_wraps (agrees : block.Agrees) : ¬Wraps block block.release := by
  by_cases free : block.state = .free
  · rw [release_of_free free]
    exact not_wraps_self block
  · have positive : block.refCount ≠ 0 := fun zero => free (agrees.mpr zero)
    apply not_wraps
    rw [release_refCount free]
    exact Or.inr (Or.inl (sub_one_toNat positive))

/-! #### Sharing -/

theorem lend_agrees_iff (src : UInt64) (agrees : block.Agrees) :
    (block.lend src).Agrees ↔ (block.owner = src → block.refCount ≠ kvMaxRefs) := by
  unfold lend
  split
  · next owned =>
      unfold Agrees
      rw [add_one_eq_zero_iff]
      simp [owned]
  · next other => exact ⟨fun _ owned => absurd owned other, fun _ => agrees⟩

theorem lend_busy (src : UInt64) :
    block.busy.toNat + (decide (block.owner = src ∧ block.state = .free)).toNat =
      (block.lend src).busy.toNat + false.toNat := by
  unfold lend busy
  by_cases owned : block.owner = src
  · by_cases free : block.state = .free
    · simp [owned, free]
    · simp [owned, free]
  · simp [owned]

theorem lend_not_wraps (src : UInt64)
    (below : block.owner = src → block.refCount ≠ kvMaxRefs) : ¬Wraps block (block.lend src) := by
  by_cases owned : block.owner = src
  · have small := below owned
    apply not_wraps
    unfold lend
    rw [if_pos owned]
    exact Or.inl (add_one_toNat small)
  · unfold lend
    rw [if_neg owned]
    exact not_wraps_self block

/-! #### The end of sharing -/

theorem giveBack_refCount (positive : block.refCount ≠ 0) :
    block.giveBack.refCount = block.refCount - 1 := by
  unfold giveBack
  rw [if_pos (UInt32.pos_iff_ne_zero.mpr positive)]
  dsimp only
  split <;> rfl

theorem giveBack_of_zero (zero : block.refCount = 0) : block.giveBack = block := by
  unfold giveBack
  rw [zero]
  rfl

theorem giveBack_state (busy : block.state ≠ .free) : block.giveBack.state ≠ .free := by
  unfold giveBack
  split
  · dsimp only
    split
    · exact KvBlockState.noConfusion
    · exact busy
  · exact busy

theorem giveBack_agrees_iff (agrees : block.Agrees) :
    block.giveBack.Agrees ↔ block.refCount ≠ 1 := by
  by_cases zero : block.refCount = 0
  · rw [giveBack_of_zero zero, zero]
    exact ⟨fun _ => by decide, fun _ => agrees⟩
  · have busy : block.state ≠ .free := fun free => zero (agrees.mp free)
    have state := giveBack_state busy
    have lowered : block.refCount - 1 = 0 ↔ block.refCount = 1 := by
      rw [sub_one_eq_iff zero, ← UInt32.toNat_inj]
      rfl
    unfold Agrees
    rw [giveBack_refCount zero, lowered]
    exact ⟨fun same one => state (same.mpr one), fun more =>
      ⟨fun free => absurd free state, fun one => absurd one more⟩⟩

theorem giveBack_busy (agrees : block.Agrees) : block.giveBack.busy = block.busy := by
  by_cases zero : block.refCount = 0
  · rw [giveBack_of_zero zero]
  · have busy : block.state ≠ .free := fun free => zero (agrees.mp free)
    rw [busy_eq_true.mpr busy, busy_eq_true.mpr (giveBack_state busy)]

theorem giveBack_not_wraps : ¬Wraps block block.giveBack := by
  by_cases zero : block.refCount = 0
  · rw [giveBack_of_zero zero]
    exact not_wraps_self block
  · apply not_wraps
    rw [giveBack_refCount zero]
    exact Or.inr (Or.inl (sub_one_toNat zero))

/-! #### Decompression and reuse -/

theorem restore_agrees_iff (agrees : block.Agrees) :
    block.restore.Agrees ↔ block.state ≠ .free := by
  unfold Agrees at agrees
  unfold Agrees restore
  rw [Ne, agrees]
  simp

theorem reuse_agrees_iff (busy : block.state ≠ .free) :
    block.reuse.Agrees ↔ block.refCount ≠ kvMaxRefs := by
  unfold Agrees reuse
  rw [add_one_eq_zero_iff]
  simp [busy]

theorem reuse_not_wraps (below : block.refCount ≠ kvMaxRefs) : ¬Wraps block block.reuse :=
  not_wraps (Or.inl (add_one_toNat below))

end KvBlock

theorem KvRatio.outputBlocks_pos (ratio : KvRatio) (input : KvRange) :
    1 ≤ (ratio.outputBlocks input).toNat := by
  unfold outputBlocks
  dsimp only
  split
  · exact Nat.le_refl 1
  · next nonzero =>
      rw [← UInt32.toNat_inj] at nonzero
      exact Nat.one_le_iff_ne_zero.mpr nonzero

/-! ### Updates of a range -/

namespace KvCache

variable {cache after : KvCache} {range : KvRange} {update : KvBlock → KvBlock}

theorem Updates.samePool (updates : cache.Updates range update after)
    (keeps : ∀ block, (update block).id = block.id) : cache.SamePool after := by
  refine ⟨updates.blockSize, ?_⟩
  obtain ⟨before, rest, whole, changed⟩ := updates.blocks
  have ids : ((cache.covered range).map update).map (·.id) =
      (cache.covered range).map (·.id) := by
    rw [List.map_map]
    exact List.map_congr_left fun block _ => keeps block
  rw [changed]
  conv_rhs => rw [whole]
  simp only [List.map_append, ids]

theorem mem_of_mem_covered {block : KvBlock} (member : block ∈ cache.covered range) :
    block ∈ cache.blocks :=
  mem_of_mem_stretch member

/-- The busy blocks after an update are those before, but for the range. -/
theorem Updates.busy (updates : cache.Updates range update after) :
    after.blocks.countP KvBlock.busy + (cache.covered range).countP KvBlock.busy =
      cache.blocks.countP KvBlock.busy +
        ((cache.covered range).map update).countP KvBlock.busy := by
  obtain ⟨before, rest, whole, changed⟩ := updates.blocks
  rw [changed]
  conv_rhs => rw [whole]
  simp only [List.countP_append]
  omega

/-- The ledger after an update depends on the blocks of the range only. -/
theorem Updates.balanced_iff (updates : cache.Updates range update after)
    (balanced : cache.Balanced) :
    after.Balanced ↔
      (∀ block ∈ cache.covered range, (update block).Agrees) ∧
        after.usedSize.toNat +
            cache.blockSize.toNat * (cache.covered range).countP KvBlock.busy =
          cache.usedSize.toNat +
            cache.blockSize.toNat * ((cache.covered range).map update).countP KvBlock.busy := by
  have busy := congrArg (cache.blockSize.toNat * ·) updates.busy
  simp only [Nat.mul_add] at busy
  have used := balanced.used
  obtain ⟨before, rest, whole, changed⟩ := updates.blocks
  constructor
  · intro later
    have total := later.used
    rw [updates.blockSize] at total
    refine ⟨?_, by omega⟩
    intro block member
    apply later.free_iff
    rw [changed]
    exact List.mem_append_right _ (List.mem_append_left _ (List.mem_map_of_mem member))
  · intro ⟨agree, same⟩
    refine ⟨?_, ?_⟩
    · intro block member
      rw [changed, List.mem_append, List.mem_append] at member
      rcases member with first | inner | last
      · apply balanced.free_iff
        rw [whole]
        exact List.mem_append_left _ first
      · obtain ⟨old, member, rfl⟩ := List.mem_map.mp inner
        exact agree old member
      · apply balanced.free_iff
        rw [whole]
        exact List.mem_append_right _ (List.mem_append_right _ last)
    · rw [updates.blockSize]
      omega

theorem Updates.not_wraps (updates : cache.Updates range update after)
    (each : ∀ block ∈ cache.covered range, ¬KvBlock.Wraps block (update block)) :
    List.Forall₂ (fun before after => ¬KvBlock.Wraps before after) cache.blocks
      after.blocks := by
  obtain ⟨before, rest, whole, changed⟩ := updates.blocks
  rw [whole, changed]
  exact forall₂_update KvBlock.not_wraps_self each before rest

/-! ### Visiting a range -/

theorem Fits.indices (fits : cache.Fits range) (few : cache.blocks.length < 2 ^ 32) :
    range.indices = List.range' (range.start.toNat - 1) range.count.toNat := by
  have positive := fits.positive
  have inside := fits.inside
  unfold KvRange.indices
  rw [List.range'_eq_map_range]
  apply List.map_congr_left
  intro i member
  have below := List.mem_range.mp member
  have one : (1 : UInt64) ≤ range.start := UInt64.le_iff_toNat_le.mpr positive
  unfold KvRange.index
  rw [UInt64.toNat_toUInt32, UInt64.toNat_add, UInt64.toNat_sub_of_le _ _ one,
    UInt64.toNat_ofNat']
  change ((range.start.toNat - 1 + i % 2 ^ 64) % 2 ^ 64) % 2 ^ 32 = _
  omega

/-- The loop over the indices of a range updates the blocks of the range. -/
theorem Fits.updates (fits : cache.Fits range) (few : cache.blocks.length < 2 ^ 32)
    (update : KvBlock → KvBlock) (usedSize : UInt64) :
    cache.Updates range update
      { cache with
        blocks := modifyEach update range.indices cache.blocks
        usedSize := usedSize } := by
  obtain ⟨before, rest, whole, first, count⟩ := exists_split_stretch fits.inside
  refine ⟨rfl, before, rest, whole, ?_⟩
  change modifyEach update range.indices cache.blocks = _
  have visited := modifyEach_stretch update before (cache.covered range) rest
  rw [first] at visited
  unfold covered at visited ⊢
  rw [count, ← whole] at visited
  rw [fits.indices few]
  exact visited

theorem sweep_of_inside (update : KvBlock → KvBlock) (indices : List Nat) (cache : KvCache)
    (inside : ∀ index ∈ indices, index < cache.blocks.length) :
    cache.sweep update indices =
      ({ cache with blocks := modifyEach update indices cache.blocks }, true) := by
  induction indices generalizing cache with
  | nil => rfl
  | cons index rest ih =>
      have here := inside index (List.mem_cons_self ..)
      unfold sweep
      rw [if_pos here, ih]
      · rfl
      · intro later member
        rw [List.length_modify]
        exact inside later (List.mem_cons_of_mem index member)

/-- `kv_free` and `kv_share` visit all blocks of a range that lies in the pool. -/
theorem Fits.sweep (fits : cache.Fits range) (few : cache.blocks.length < 2 ^ 32)
    (update : KvBlock → KvBlock) :
    cache.sweep update range.indices =
      ({ cache with blocks := modifyEach update range.indices cache.blocks }, true) := by
  apply sweep_of_inside
  intro index member
  have inside := fits.inside
  rw [fits.indices few, List.mem_range'_1] at member
  omega

theorem kvFree_updates (fits : cache.Fits range) (few : cache.blocks.length < 2 ^ 32) :
    cache.Updates range KvBlock.release (cache.kvFree range).1 ∧
      (cache.kvFree range).1.usedSize = cache.usedSize - range.size.toUInt64 := by
  unfold kvFree
  rw [fits.sweep few]
  exact ⟨fits.updates few KvBlock.release _, rfl⟩

theorem kvShare_updates (fits : cache.Fits range) (few : cache.blocks.length < 2 ^ 32)
    (src dst : UInt64) :
    cache.Updates range (KvBlock.lend src) (cache.kvShare src dst range).1 ∧
      (cache.kvShare src dst range).1.usedSize = cache.usedSize := by
  unfold kvShare
  rw [fits.sweep few]
  exact ⟨fits.updates few (KvBlock.lend src) cache.usedSize, rfl⟩

theorem kvUnshare_updates (fits : cache.Fits range) (few : cache.blocks.length < 2 ^ 32)
    (id : UInt64) : cache.Updates range KvBlock.giveBack (cache.kvUnshare id range) :=
  fits.updates few KvBlock.giveBack cache.usedSize

theorem kvDecompress_updates (fits : cache.Fits range) (few : cache.blocks.length < 2 ^ 32) :
    cache.Updates range KvBlock.restore (cache.kvDecompress range).2 :=
  fits.updates few KvBlock.restore cache.usedSize

/-! ### Free, share, unshare, decompress -/

theorem Fits.length_covered (fits : cache.Fits range) :
    (cache.covered range).length = range.count.toNat := by
  obtain ⟨_, _, _, _, length⟩ := exists_split_stretch fits.inside
  exact length

theorem covered_busy_le (cache : KvCache) (range : KvRange) :
    (cache.covered range).countP KvBlock.busy ≤ cache.blocks.countP KvBlock.busy :=
  ((List.take_sublist _ _).trans (List.drop_sublist _ _)).countP_le

/-- `kv_free` lowers the used size by the whole range, so it keeps the ledger exactly if it
frees every block. -/
theorem kvFree_balanced_iff (laid : cache.Laid) (balanced : cache.Balanced)
    (fits : cache.Fits range) :
    (cache.kvFree range).1.Balanced ↔ ∀ block ∈ cache.covered range, block.refCount = 1 := by
  obtain ⟨updates, used⟩ := kvFree_updates fits laid.few
  have agrees : ∀ block ∈ cache.covered range, block.Agrees := fun block member =>
    balanced.free_iff block (mem_of_mem_covered member)
  have released : ∀ block ∈ cache.covered range, block.release.Agrees := fun block member =>
    KvBlock.release_agrees (agrees block member)
  have freed := countP_add_countP KvBlock.busy (fun _ => false)
    (fun block => decide (block.refCount = 1)) KvBlock.release (cache.covered range)
    fun block member => KvBlock.release_busy (agrees block member)
  rw [List.countP_false, Function.const_apply, Nat.add_zero] at freed
  have all : (cache.covered range).countP (fun block => decide (block.refCount = 1)) =
      range.count.toNat ↔ ∀ block ∈ cache.covered range, block.refCount = 1 := by
    rw [← fits.length_covered, List.countP_eq_length]
    simp only [decide_eq_true_eq]
  rw [updates.balanced_iff balanced, and_iff_right released, ← all, used, UInt64.toNat_sub,
    UInt32.toNat_toUInt64, fits.size, freed, Nat.mul_add]
  have some := covered_busy_le cache range
  have few := List.countP_le_length (p := fun block : KvBlock => decide (block.refCount = 1))
    (l := cache.covered range)
  have size := fits.size
  have bound := range.size.toNat_lt
  have width := cache.usedSize.toNat_lt
  have total := balanced.used
  rw [fits.length_covered] at few
  rw [freed] at some
  -- `K` of the `n` blocks are freed: the sizes agree exactly if `K = n`
  generalize (cache.covered range).countP (fun block => decide (block.refCount = 1)) = K
    at some few
  generalize range.count.toNat = n at size few
  have enough : cache.blockSize.toNat * K ≤ cache.usedSize.toNat := by
    rw [total]
    exact Nat.mul_le_mul_left _ (by omega)
  have most : cache.blockSize.toNat * K ≤ n * cache.blockSize.toNat := by
    rw [Nat.mul_comm n]
    exact Nat.mul_le_mul_left _ few
  have same : cache.blockSize.toNat * K = n * cache.blockSize.toNat ↔ K = n := by
    rw [Nat.mul_comm n]
    exact Nat.mul_right_inj laid.sized
  rw [← same]
  omega

/-- `kv_share` leaves the used size, so it must not share a free block; and it does not
check the counts. -/
theorem kvShare_balanced_iff (laid : cache.Laid) (balanced : cache.Balanced)
    (fits : cache.Fits range) (src dst : UInt64) :
    (cache.kvShare src dst range).1.Balanced ↔
      ∀ block ∈ cache.covered range, block.owner = src →
        block.state ≠ .free ∧ block.refCount ≠ kvMaxRefs := by
  obtain ⟨updates, used⟩ := kvShare_updates fits laid.few src dst
  have shared := countP_add_countP KvBlock.busy
    (fun block => decide (block.owner = src ∧ block.state = .free)) (fun _ => false)
    (KvBlock.lend src) (cache.covered range) fun block _ => KvBlock.lend_busy src
  rw [List.countP_false, Function.const_apply, Nat.add_zero] at shared
  have none : (cache.covered range).countP
      (fun block => decide (block.owner = src ∧ block.state = .free)) = 0 ↔
        ∀ block ∈ cache.covered range, ¬(block.owner = src ∧ block.state = .free) := by
    rw [List.countP_eq_zero]
    simp only [decide_eq_true_eq]
  have same : cache.usedSize.toNat +
        cache.blockSize.toNat * (cache.covered range).countP KvBlock.busy =
      cache.usedSize.toNat + cache.blockSize.toNat *
        ((cache.covered range).map (KvBlock.lend src)).countP KvBlock.busy ↔
      ∀ block ∈ cache.covered range, ¬(block.owner = src ∧ block.state = .free) := by
    rw [Nat.add_right_inj, Nat.mul_right_inj laid.sized, ← none]
    omega
  have counts : (∀ block ∈ cache.covered range, (block.lend src).Agrees) ↔
      ∀ block ∈ cache.covered range, block.owner = src → block.refCount ≠ kvMaxRefs :=
    forall₂_congr fun block member =>
      KvBlock.lend_agrees_iff src (balanced.free_iff block (mem_of_mem_covered member))
  rw [updates.balanced_iff balanced, used, same, counts]
  constructor
  · intro ⟨below, taken⟩ block member owned
    exact ⟨fun free => taken block member ⟨owned, free⟩, below block member owned⟩
  · intro each
    exact ⟨fun block member owned => (each block member owned).2,
      fun block member free => (each block member free.1).1 free.2⟩

/-- `kv_unshare` does not free a block whose count it takes from one to zero. -/
theorem kvUnshare_balanced_iff (laid : cache.Laid) (balanced : cache.Balanced)
    (fits : cache.Fits range) (id : UInt64) :
    (cache.kvUnshare id range).Balanced ↔
      ∀ block ∈ cache.covered range, block.refCount ≠ 1 := by
  have updates := kvUnshare_updates fits laid.few id
  have agrees : ∀ block ∈ cache.covered range, block.Agrees := fun block member =>
    balanced.free_iff block (mem_of_mem_covered member)
  have busy : ((cache.covered range).map KvBlock.giveBack).countP KvBlock.busy =
      (cache.covered range).countP KvBlock.busy := by
    rw [List.countP_map]
    apply List.countP_congr
    intro block member
    rw [Function.comp_apply, KvBlock.giveBack_busy (agrees block member)]
  rw [updates.balanced_iff balanced, busy]
  constructor
  · intro ⟨later, _⟩ block member
    exact (KvBlock.giveBack_agrees_iff (agrees block member)).mp (later block member)
  · intro more
    exact ⟨fun block member =>
      (KvBlock.giveBack_agrees_iff (agrees block member)).mpr (more block member), rfl⟩

/-- `kv_decompress` marks the blocks as allocated, those that are free as well. -/
theorem kvDecompress_balanced_iff (laid : cache.Laid) (balanced : cache.Balanced)
    (fits : cache.Fits range) :
    (cache.kvDecompress range).2.Balanced ↔
      ∀ block ∈ cache.covered range, block.state ≠ .free := by
  have updates := kvDecompress_updates fits laid.few
  have agrees : ∀ block ∈ cache.covered range, block.Agrees := fun block member =>
    balanced.free_iff block (mem_of_mem_covered member)
  rw [updates.balanced_iff balanced]
  constructor
  · intro ⟨later, _⟩ block member
    exact (KvBlock.restore_agrees_iff (agrees block member)).mp (later block member)
  · intro taken
    have busy : ((cache.covered range).map KvBlock.restore).countP KvBlock.busy =
        (cache.covered range).countP KvBlock.busy := by
      rw [List.countP_map]
      apply List.countP_congr
      intro block member
      rw [KvBlock.busy_eq_true]
      exact ⟨fun _ => taken block member, fun _ => rfl⟩
    rw [busy]
    exact ⟨fun block member =>
      (KvBlock.restore_agrees_iff (agrees block member)).mpr (taken block member), rfl⟩

/-! ### Search for free blocks -/

theorem isFree_iff {index : Nat} :
    cache.isFree index = true ↔
      ∃ block, cache.blocks[index]? = some block ∧ block.state = .free := by
  unfold isFree
  rw [Option.any_eq_true]
  simp only [decide_eq_true_eq]

/-- The sum of 32 bits does not matter: the loop ends at the first index past the last block. -/
theorem freeFrom_iff (few : cache.blocks.length < 2 ^ 32) {count : UInt32}
    (positive : 1 ≤ count.toNat) {i : Nat} (below : i < cache.blocks.length) :
    cache.freeFrom count i = true ↔ cache.FreeRun count i := by
  unfold freeFrom
  rw [Bool.and_eq_true, List.all_eq_true]
  constructor
  · intro ⟨first, later⟩
    have inside : i + count.toNat ≤ cache.blocks.length := by
      by_contra outside
      have past := later (cache.blocks.length - i)
        (List.mem_range'_1.mpr ⟨by omega, by omega⟩)
      rw [show (i + (cache.blocks.length - i)) % 2 ^ 32 = cache.blocks.length by omega] at past
      obtain ⟨block, found, _⟩ := isFree_iff.mp past
      rw [List.getElem?_eq_none (Nat.le_refl _)] at found
      cases found
    refine ⟨inside, ?_⟩
    intro block member
    obtain ⟨offset, small, found⟩ := mem_stretch_iff.mp member
    have free : cache.isFree (i + offset) = true := by
      by_cases zero : offset = 0
      · rw [zero]
        exact first
      · have checked := later offset (List.mem_range'_1.mpr ⟨by omega, by omega⟩)
        rw [Nat.mod_eq_of_lt (by omega)] at checked
        exact checked
    obtain ⟨other, same, state⟩ := isFree_iff.mp free
    rw [found, Option.some.injEq] at same
    rw [same]
    exact state
  · intro run
    have inside := run.inside
    have free : ∀ offset, offset < count.toNat → cache.isFree (i + offset) = true := by
      intro offset small
      have found := List.getElem?_eq_getElem (l := cache.blocks) (i := i + offset) (by omega)
      exact isFree_iff.mpr ⟨_, found, run.free _ (mem_stretch_iff.mpr ⟨offset, small, found⟩)⟩
    refine ⟨free 0 (by omega), ?_⟩
    intro offset member
    have bounds := List.mem_range'_1.mp member
    rw [Nat.mod_eq_of_lt (by omega)]
    exact free offset (by omega)

theorem Laid.id_toNat (laid : cache.Laid) {i : Nat} {block : KvBlock}
    (found : cache.blocks[i]? = some block) : block.id.toNat = i + 1 := by
  have below := (List.getElem?_eq_some_iff.mp found).1
  have ids := congrArg (fun list => list[i]?) laid.numbered
  simp only [List.getElem?_map, found, Option.map_some, List.getElem?_range' below,
    Option.some.injEq] at ids
  omega

/-- First fit: what the search returns is a run of free blocks, if there is one at all. -/
theorem Laid.findFreeBlock_spec (laid : cache.Laid) {count : UInt32}
    (positive : 1 ≤ count.toNat) :
    (cache.findFreeBlock count = 0 ∧ ∀ start, ¬cache.FreeRun count start) ∨
      (1 ≤ (cache.findFreeBlock count).toNat ∧
        cache.FreeRun count ((cache.findFreeBlock count).toNat - 1)) := by
  unfold findFreeBlock
  cases search : (List.range cache.blocks.length).find? (cache.freeFrom count) with
  | none =>
      refine Or.inl ⟨rfl, ?_⟩
      intro start run
      have inside := run.inside
      have below : start < cache.blocks.length := by omega
      have missed := List.find?_eq_none.mp search start (List.mem_range.mpr below)
      exact missed ((freeFrom_iff laid.few positive below).mpr run)
  | some i =>
      have below := List.mem_range.mp (List.mem_of_find?_eq_some search)
      have run := (freeFrom_iff laid.few positive below).mp (List.find?_some search)
      have found := List.getElem?_eq_getElem below
      have id := laid.id_toNat found
      simp only [found]
      rw [id]
      exact Or.inr ⟨by omega, run⟩

theorem Laid.findFreeBlock_eq_zero_iff (laid : cache.Laid) {count : UInt32}
    (positive : 1 ≤ count.toNat) :
    cache.findFreeBlock count = 0 ↔ ∀ start, ¬cache.FreeRun count start := by
  rcases laid.findFreeBlock_spec positive with ⟨zero, none⟩ | ⟨nonzero, run⟩
  · exact ⟨fun _ => none, fun _ => zero⟩
  · constructor
    · intro zero
      rw [zero] at nonzero
      exact absurd nonzero (by decide)
    · intro none
      exact absurd run (none _)

/-! ### Allocation -/

theorem Laid.blocksNeeded_size (laid : cache.Laid) (size : UInt32) :
    1 ≤ (cache.blocksNeeded size).toNat ∧
      (cache.blocksNeeded size * cache.blockSize).toNat =
        (cache.blocksNeeded size).toNat * cache.blockSize.toNat := by
  have sized := laid.sized
  have bound := cache.blockSize.toNat_lt
  have rounded := (size + cache.blockSize - 1).toNat_lt
  unfold blocksNeeded
  dsimp only
  rw [UInt32.toNat_mul]
  split
  · refine ⟨Nat.le_refl 1, ?_⟩
    change (1 * _) % 2 ^ 32 = 1 * _
    omega
  · next nonzero =>
      rw [← UInt32.toNat_inj, UInt32.toNat_div] at nonzero
      rw [UInt32.toNat_div]
      have product := Nat.div_mul_le_self (size + cache.blockSize - 1).toNat
        cache.blockSize.toNat
      refine ⟨Nat.one_le_iff_ne_zero.mpr nonzero, ?_⟩
      exact Nat.mod_eq_of_lt (by omega)

theorem kvAllocate_updates (laid : cache.Laid) {agent : UInt64} {size : UInt32}
    (allocated : cache.kvAllocate agent size = some (range, after)) :
    cache.Fits range ∧ (∀ block ∈ cache.covered range, block.state = .free) ∧
      cache.Updates range (KvBlock.occupy agent cache.blockSize) after ∧
      after.usedSize = cache.usedSize + range.size.toUInt64 := by
  obtain ⟨positive, product⟩ := laid.blocksNeeded_size size
  unfold kvAllocate at allocated
  dsimp only at allocated
  split at allocated
  · cases allocated
  · next found =>
      rcases laid.findFreeBlock_spec positive with ⟨zero, _⟩ | ⟨nonzero, run⟩
      · exact absurd zero found
      · rw [Option.some.injEq, Prod.mk.injEq] at allocated
        obtain ⟨rfl, rfl⟩ := allocated
        have fits : cache.Fits
            { start := cache.findFreeBlock (cache.blocksNeeded size)
              count := cache.blocksNeeded size
              size := cache.blocksNeeded size * cache.blockSize } :=
          ⟨nonzero, positive, run.inside, product⟩
        exact ⟨fits, run.free, fits.updates laid.few _ _, rfl⟩

/-- `kv_allocate` always keeps the ledger. -/
theorem kvAllocate_balanced (laid : cache.Laid) (balanced : cache.Balanced) {agent : UInt64}
    {size : UInt32} (allocated : cache.kvAllocate agent size = some (range, after)) :
    after.Balanced := by
  obtain ⟨fits, free, updates, used⟩ := kvAllocate_updates laid allocated
  have none : (cache.covered range).countP KvBlock.busy = 0 := by
    rw [List.countP_eq_zero]
    intro block member busy
    exact KvBlock.busy_eq_true.mp busy (free block member)
  have all : ((cache.covered range).map (KvBlock.occupy agent cache.blockSize)).countP
      KvBlock.busy = range.count.toNat := by
    rw [← fits.length_covered, List.countP_map]
    exact List.countP_eq_length.mpr fun block _ => rfl
  have within : cache.blocks.countP KvBlock.busy + range.count.toNat ≤ cache.blocks.length := by
    have same := updates.samePool (fun block => rfl)
    have length := congrArg List.length same.ids
    rw [List.length_map, List.length_map] at length
    have total := updates.busy
    have part := List.countP_le_length (p := KvBlock.busy) (l := after.blocks)
    omega
  have total := balanced.used
  have fitting : cache.usedSize.toNat + range.size.toNat < 2 ^ 64 := by
    have few := laid.few
    have bound := cache.blockSize.toNat_lt
    calc
      cache.usedSize.toNat + range.size.toNat
          = cache.blockSize.toNat *
              (cache.blocks.countP KvBlock.busy + range.count.toNat) := by
            rw [total, fits.size, Nat.mul_add, Nat.mul_comm range.count.toNat]
      _ ≤ cache.blockSize.toNat * (2 ^ 32 - 1) := Nat.mul_le_mul_left _ (by omega)
      _ < 2 ^ 64 := by omega
  apply (updates.balanced_iff balanced).mpr
  refine ⟨?_, ?_⟩
  · intro block _
    have one : (KvBlock.occupy agent cache.blockSize block).refCount ≠ 0 := by
      change (1 : UInt32) ≠ 0
      decide
    constructor
    · intro state
      cases state
    · intro zero
      exact absurd zero one
  · rw [none, all, used, UInt64.toNat_add, UInt32.toNat_toUInt64, Nat.mod_eq_of_lt fitting,
      fits.size, Nat.mul_zero, Nat.add_zero, Nat.mul_comm range.count.toNat]

/-! ### Compression -/


theorem copySample_busy (source target : Nat) (blocks : List KvBlock) :
    blocks.countP KvBlock.busy ≤ (copySample source target blocks).countP KvBlock.busy := by
  unfold copySample
  cases blocks[source]? with
  | none => exact Nat.le_refl _
  | some sample =>
      apply countP_le_countP_modify
      intro block
      rfl

theorem copySamples_busy (source target : Nat → Nat) (positions : List Nat)
    (blocks : List KvBlock) :
    blocks.countP KvBlock.busy ≤
      (positions.foldl (fun blocks i => copySample (source i) (target i) blocks)
        blocks).countP KvBlock.busy := by
  induction positions generalizing blocks with
  | nil => exact Nat.le_refl _
  | cons i rest ih =>
      have first := copySample_busy (source i) (target i) blocks
      have later := ih (copySample (source i) (target i) blocks)
      rw [List.foldl_cons]
      omega

theorem kvCompress_none_iff (laid : cache.Laid) {input : KvRange} (ratio : KvRatio) :
    cache.kvCompress input ratio = none ↔
      (ratio.accepted = true → ∀ start, ¬cache.FreeRun (ratio.outputBlocks input) start) := by
  rw [← laid.findFreeBlock_eq_zero_iff (ratio.outputBlocks_pos input)]
  unfold kvCompress
  cases ratio.accepted with
  | false => simp
  | true =>
      simp only [Bool.true_eq_false, if_false, forall_const]
      split
      · next zero => simp [zero]
      · next nonzero => simp [nonzero]

/-- The first index of a range, in 32 bits. -/
theorem low_index {start : UInt64} (positive : 1 ≤ start.toNat)
    (below : start.toNat - 1 < 2 ^ 32) : (start - 1).toUInt32.toNat = start.toNat - 1 := by
  have one : (1 : UInt64) ≤ start := UInt64.le_iff_toNat_le.mpr positive
  rw [UInt64.toNat_toUInt32, UInt64.toNat_sub_of_le _ _ one]
  exact Nat.mod_eq_of_lt below

theorem index_zero (range : KvRange) : range.index 0 = (range.start - 1).toUInt32.toNat := by
  unfold KvRange.index
  rw [show UInt64.ofNat 0 = 0 from rfl, UInt64.add_zero]

theorem sample_zero (input : KvRange) (outputBlocks : UInt32) :
    input.sample outputBlocks 0 = (input.start - 1).toUInt32.toNat := by
  have none : (UInt32.ofNat 0 * input.count / outputBlocks).toUInt64 = 0 := by
    rw [← UInt64.toNat_inj, UInt32.toNat_toUInt64, UInt32.toNat_div, UInt32.toNat_mul]
    simp
  unfold KvRange.sample
  rw [none, UInt64.add_zero]

/-- At least one block of the output is taken: the first, whose sample is the first block of
the input. -/
theorem first_sample_busy (laid : cache.Laid) {input : KvRange} (fits : cache.Fits input)
    (output : KvRange) {outputBlocks : UInt32} (positive : 1 ≤ outputBlocks.toNat)
    (nonzero : 1 ≤ output.start.toNat)
    (run : cache.FreeRun outputBlocks (output.start.toNat - 1)) :
    cache.blocks.countP KvBlock.busy <
      ((List.range outputBlocks.toNat).foldl
        (fun blocks i => copySample (input.sample outputBlocks i) (output.index i) blocks)
        cache.blocks).countP KvBlock.busy := by
  have few := laid.few
  have inside := run.inside
  have within := fits.inside
  have some := fits.nonempty
  have source : input.sample outputBlocks 0 = input.start.toNat - 1 := by
    rw [sample_zero, low_index fits.positive (by omega)]
  have target : output.index 0 = output.start.toNat - 1 := by
    rw [index_zero, low_index nonzero (by omega)]
  have sample := List.getElem?_eq_getElem (l := cache.blocks) (i := input.start.toNat - 1)
    (by omega)
  have taken := List.getElem?_eq_getElem (l := cache.blocks) (i := output.start.toNat - 1)
    (by omega)
  have free := run.free _ (mem_stretch_iff.mpr ⟨0, positive, taken⟩)
  have first : cache.blocks.countP KvBlock.busy <
      (copySample (input.sample outputBlocks 0) (output.index 0) cache.blocks).countP
        KvBlock.busy := by
    unfold copySample
    rw [source, target, sample]
    exact countP_lt_countP_modify KvBlock.busy _ taken (KvBlock.busy_eq_false.mpr free) rfl
  obtain ⟨more, count⟩ := Nat.exists_eq_add_of_le positive
  rw [count, Nat.add_comm 1 more, List.range_eq_range', List.range'_succ, List.foldl_cons]
  exact Nat.lt_of_lt_of_le first (copySamples_busy _ _ _ _)

/-- `kv_compress` takes free blocks, and the used size stays what it was. -/
theorem kvCompress_unbalanced (laid : cache.Laid) (balanced : cache.Balanced)
    {input output : KvRange} (fits : cache.Fits input) {ratio : KvRatio}
    (compressed : cache.kvCompress input ratio = some (output, after)) : ¬after.Balanced := by
  have positive := ratio.outputBlocks_pos input
  intro later
  unfold kvCompress at compressed
  dsimp only at compressed
  split at compressed
  · cases compressed
  · split at compressed
    · cases compressed
    · next found =>
        rcases laid.findFreeBlock_spec positive with ⟨zero, _⟩ | ⟨nonzero, run⟩
        · exact absurd zero found
        · rw [Option.some.injEq, Prod.mk.injEq] at compressed
          obtain ⟨rfl, rfl⟩ := compressed
          have more := first_sample_busy laid fits
            { start := cache.findFreeBlock (ratio.outputBlocks input)
              count := ratio.outputBlocks input
              size := ratio.outputBlocks input * cache.blockSize } positive nonzero run
          have total := balanced.used
          have counted := later.used
          dsimp only at counted
          rw [total, Nat.mul_right_inj laid.sized] at counted
          omega

/-! ### Reuse -/

theorem kvReusePrefix_updates (laid : cache.Laid) {agent : UInt64} {wanted : List UInt8}
    {wantedSize : UInt32}
    (reused : cache.kvReusePrefix agent wanted wantedSize = some (range, after)) :
    ∃ block, cache.blocks.find? (cache.reusable agent wanted wantedSize) = some block ∧
      block.state ≠ .free ∧ cache.Fits range ∧ cache.covered range = [block] ∧
      cache.Updates range KvBlock.reuse after ∧ after.usedSize = cache.usedSize := by
  unfold kvReusePrefix at reused
  split at reused
  · cases reused
  · next block found =>
      rw [Option.some.injEq, Prod.mk.injEq] at reused
      obtain ⟨rfl, rfl⟩ := reused
      have matching := List.find?_some found
      have state : block.state ≠ .free := by
        unfold reusable at matching
        simp only [Bool.and_eq_true, decide_eq_true_eq] at matching
        exact matching.1.1.1
      obtain ⟨_, before, rest, whole, missed⟩ := List.find?_eq_some_iff_append.mp found
      have others : ∀ earlier ∈ before,
          cache.reusable agent wanted wantedSize earlier = false := by
        intro earlier member
        simpa using missed earlier member
      have place : cache.blocks.findIdx (cache.reusable agent wanted wantedSize) =
          before.length := by
        rw [whole]
        exact findIdx_append_cons others matching rest
      have at_place : cache.blocks[before.length]? = some block := by
        rw [whole, List.getElem?_append_right (Nat.le_refl _), Nat.sub_self]
        rfl
      have id := laid.id_toNat at_place
      have below := (List.getElem?_eq_some_iff.mp at_place).1
      have covers : cache.covered { start := block.id, count := 1, size := cache.blockSize } =
          [block] := by
        have held := stretch_append before [block] rest
        unfold covered
        dsimp only
        rw [id, whole]
        exact held
      refine ⟨block, found, state, ⟨?_, Nat.le_refl 1, ?_, ?_⟩, covers,
        ⟨rfl, before, rest, ?_, ?_⟩, rfl⟩
      · change 1 ≤ block.id.toNat
        omega
      · change block.id.toNat - 1 + 1 ≤ cache.blocks.length
        omega
      · exact (Nat.one_mul _).symm
      · rw [covers]
        exact whole
      · change cache.blocks.modify _ KvBlock.reuse = _
        rw [place, covers, whole]
        exact modify_append_cons KvBlock.reuse before rest block

/-- `kv_reuse_prefix` does not check the count of the block that it finds. -/
theorem kvReusePrefix_balanced_iff (laid : cache.Laid) (balanced : cache.Balanced)
    {agent : UInt64} {wanted : List UInt8} {wantedSize : UInt32}
    (reused : cache.kvReusePrefix agent wanted wantedSize = some (range, after)) :
    after.Balanced ↔ ∀ block,
      cache.blocks.find? (cache.reusable agent wanted wantedSize) = some block →
        block.refCount ≠ kvMaxRefs := by
  obtain ⟨block, found, state, _, covers, updates, used⟩ := kvReusePrefix_updates laid reused
  have busy : ([block].map KvBlock.reuse).countP KvBlock.busy = [block].countP KvBlock.busy :=
    rfl
  rw [updates.balanced_iff balanced, covers, used, busy, found]
  simp only [List.forall_mem_singleton, and_true, Option.some.injEq, forall_eq']
  exact KvBlock.reuse_agrees_iff state

/-! ### Writing -/

theorem writeBlocks_entries (cache : KvCache) (data : List UInt8) (dataSize : UInt32)
    (indices : List Nat) (written : UInt32) (blocks : List KvBlock) :
    (cache.writeBlocks data dataSize indices written blocks).1.map KvBlock.entry =
      blocks.map KvBlock.entry := by
  induction indices generalizing written blocks with
  | nil => rfl
  | cons index rest ih =>
      unfold writeBlocks
      split
      · split
        · rfl
        · next block found =>
            split
            · exact ih written blocks
            · have kept : (blocks.map KvBlock.entry)[index]? = some block.entry := by
                rw [List.getElem?_map, found]
                rfl
              rw [ih, List.map_set]
              exact set_of_getElem? kept
      · rfl

/-- Neither the ledger nor the numbering depends on the data. -/
theorem Balanced.of_entries (balanced : cache.Balanced)
    (entries : after.blocks.map KvBlock.entry = cache.blocks.map KvBlock.entry)
    (blockSize : after.blockSize = cache.blockSize) (used : after.usedSize = cache.usedSize) :
    after.Balanced := by
  have busy : ∀ list : List KvBlock, list.countP KvBlock.busy =
      (list.map KvBlock.entry).countP (fun entry => decide (entry.2.1 ≠ .free)) := by
    intro list
    rw [List.countP_map]
    rfl
  refine ⟨?_, ?_⟩
  · intro block member
    have listed := List.mem_map_of_mem (f := KvBlock.entry) member
    rw [entries] at listed
    obtain ⟨old, present, same⟩ := List.mem_map.mp listed
    have agrees := balanced.free_iff old present
    unfold KvBlock.entry at same
    rw [Prod.mk.injEq, Prod.mk.injEq] at same
    unfold KvBlock.Agrees at agrees ⊢
    rw [← same.2.1, ← same.2.2]
    exact agrees
  · rw [busy, entries, ← busy, blockSize, used]
    exact balanced.used

theorem not_wraps_of_entries
    (entries : after.blocks.map KvBlock.entry = cache.blocks.map KvBlock.entry) :
    List.Forall₂ (fun before after => ¬KvBlock.Wraps before after) cache.blocks
      after.blocks := by
  rw [← List.forall₂_eq_eq_eq, List.forall₂_map_left_iff, List.forall₂_map_right_iff] at entries
  apply List.Forall₂.flip
  refine entries.imp ?_
  intro later earlier same
  apply KvBlock.not_wraps
  unfold KvBlock.entry at same
  rw [Prod.mk.injEq, Prod.mk.injEq] at same
  exact Or.inr (Or.inr (Or.inl same.2.2))

theorem samePool_of_entries
    (entries : after.blocks.map KvBlock.entry = cache.blocks.map KvBlock.entry)
    (blockSize : after.blockSize = cache.blockSize) : cache.SamePool after := by
  refine ⟨blockSize, ?_⟩
  have ids := congrArg (·.map Prod.fst) entries
  rw [List.map_map, List.map_map] at ids
  exact ids

/-! ### The same blocks -/

theorem SamePool.length (same : cache.SamePool after) :
    after.blocks.length = cache.blocks.length := by
  have length := congrArg List.length same.ids
  rw [List.length_map, List.length_map] at length
  exact length

theorem SamePool.laid (same : cache.SamePool after) (laid : cache.Laid) : after.Laid := by
  refine ⟨?_, ?_, ?_⟩
  · rw [same.blockSize]
    exact laid.sized
  · rw [same.length]
    exact laid.few
  · have ids := congrArg (·.map UInt64.toNat) same.ids
    rw [List.map_map, List.map_map] at ids
    rw [same.length, ← laid.numbered]
    exact ids

theorem SamePool.fits (same : cache.SamePool after) (fits : cache.Fits range) :
    after.Fits range := by
  refine ⟨fits.positive, fits.nonempty, ?_, ?_⟩
  · rw [same.length]
    exact fits.inside
  · rw [same.blockSize]
    exact fits.size

end KvCache

/-! ### One call -/

namespace KvPool

variable {pool : KvPool} {call : PoolCall}

/-- What is true of every pool, whatever the ledger says. -/
structure Sound (pool : KvPool) : Prop where
  laid : pool.cache.Laid
  issued : ∀ range ∈ pool.issued, pool.cache.Fits range

/-- The cases that the calls leave out: a range may be freed when every block of it has one
reference left, and given back when none has; only blocks in use may be shared or
decompressed; the counts must not be at their largest value; and `kv_compress` must not find
the blocks that it looks for. -/
def Careful (pool : KvPool) : PoolCall → Prop
  | .allocate _ _ => True
  | .free place => ∀ range, pool.issued[place]? = some range →
      ∀ block ∈ pool.cache.covered range, block.refCount = 1
  | .share src _ place => ∀ range, pool.issued[place]? = some range →
      ∀ block ∈ pool.cache.covered range, block.owner = src →
        block.state ≠ .free ∧ block.refCount ≠ kvMaxRefs
  | .unshare _ place => ∀ range, pool.issued[place]? = some range →
      ∀ block ∈ pool.cache.covered range, block.refCount ≠ 1
  | .compress place ratio => ∀ range, pool.issued[place]? = some range →
      ratio.accepted = true → ∀ start, ¬pool.cache.FreeRun (ratio.outputBlocks range) start
  | .decompress place => ∀ range, pool.issued[place]? = some range →
      ∀ block ∈ pool.cache.covered range, block.state ≠ .free
  | .reusePrefix agent wanted wantedSize => ∀ block,
      pool.cache.blocks.find? (pool.cache.reusable agent wanted wantedSize) = some block →
        block.refCount ≠ kvMaxRefs
  | .write _ _ _ => True

/-- The call wraps the reference count of no block. -/
def WrapsNoCount (pool : KvPool) (call : PoolCall) : Prop :=
  List.Forall₂ (fun before after => ¬KvBlock.Wraps before after) pool.cache.blocks
    (pool.step call).cache.blocks

/-- An allocation returns blocks only that nobody references. -/
def TakesUnreferenced (pool : KvPool) : PoolCall → Prop
  | .allocate agent size => ∀ range after,
      pool.cache.kvAllocate agent size = some (range, after) →
        ∀ block ∈ pool.cache.covered range, block.refCount = 0
  | _ => True

theorem onRange_iff (property : KvPool → Prop) {place : Nat} {perform : KvRange → KvPool}
    {guard : KvRange → Prop} (start : property pool)
    (each : ∀ range ∈ pool.issued, (property (perform range) ↔ guard range)) :
    property (pool.onRange place perform) ↔
      ∀ range, pool.issued[place]? = some range → guard range := by
  unfold onRange
  cases found : pool.issued[place]? with
  | none => exact ⟨fun _ range impossible => (by cases impossible), fun _ => start⟩
  | some range =>
      have member := List.mem_of_getElem? found
      simp only [Option.some.injEq, forall_eq']
      exact each range member

theorem onRange_rule (property : KvPool → Prop) {place : Nat} {perform : KvRange → KvPool}
    (start : property pool)
    (each : ∀ range ∈ pool.issued, pool.issued[place]? = some range → property (perform range)) :
    property (pool.onRange place perform) := by
  unfold onRange
  cases found : pool.issued[place]? with
  | none => exact start
  | some range => exact each range (List.mem_of_getElem? found) found

/-- A call keeps the ledger exactly if it is careful. -/
theorem step_balanced_iff (sound : pool.Sound) (balanced : pool.cache.Balanced)
    (call : PoolCall) : (pool.step call).cache.Balanced ↔ pool.Careful call := by
  have laid := sound.laid
  cases call with
  | allocate agent size =>
      refine ⟨fun _ => trivial, fun _ => ?_⟩
      change (pool.receive (pool.cache.kvAllocate agent size)).cache.Balanced
      cases result : pool.cache.kvAllocate agent size with
      | none => exact balanced
      | some allocated => exact KvCache.kvAllocate_balanced laid balanced result
  | free place =>
      exact onRange_iff (fun pool => pool.cache.Balanced) balanced
        fun range member => KvCache.kvFree_balanced_iff laid balanced (sound.issued range member)
  | share src dst place =>
      exact onRange_iff (fun pool => pool.cache.Balanced) balanced
        fun range member =>
          KvCache.kvShare_balanced_iff laid balanced (sound.issued range member) src dst
  | unshare id place =>
      exact onRange_iff (fun pool => pool.cache.Balanced) balanced
        fun range member =>
          KvCache.kvUnshare_balanced_iff laid balanced (sound.issued range member) id
  | compress place ratio =>
      apply onRange_iff (fun pool => pool.cache.Balanced) balanced
      intro range member
      rw [← KvCache.kvCompress_none_iff laid ratio]
      cases result : pool.cache.kvCompress range ratio with
      | none => exact ⟨fun _ => rfl, fun _ => balanced⟩
      | some compressed =>
          have broken := KvCache.kvCompress_unbalanced laid balanced (sound.issued range member)
            result
          exact ⟨fun kept => absurd kept broken, fun impossible => (by cases impossible)⟩
  | decompress place =>
      exact onRange_iff (fun pool => pool.cache.Balanced) balanced
        fun range member =>
          KvCache.kvDecompress_balanced_iff laid balanced (sound.issued range member)
  | reusePrefix agent wanted wantedSize =>
      change (pool.receive (pool.cache.kvReusePrefix agent wanted wantedSize)).cache.Balanced ↔ _
      cases result : pool.cache.kvReusePrefix agent wanted wantedSize with
      | none =>
          refine ⟨fun _ block found => ?_, fun _ => balanced⟩
          unfold KvCache.kvReusePrefix at result
          rw [found] at result
          cases result
      | some reused => exact KvCache.kvReusePrefix_balanced_iff laid balanced result
  | write place data dataSize =>
      refine ⟨fun _ => trivial, fun _ => ?_⟩
      apply onRange_rule (fun pool => pool.cache.Balanced) balanced
      intro range _ _
      exact balanced.of_entries
        (KvCache.writeBlocks_entries pool.cache data dataSize range.indices 0 pool.cache.blocks)
        rfl rfl

/-! ### The ranges given out -/

theorem Sound.same (sound : pool.Sound) {cache : KvCache} (same : pool.cache.SamePool cache) :
    Sound { pool with cache := cache } :=
  ⟨same.laid sound.laid, fun range member => same.fits (sound.issued range member)⟩

theorem Sound.receive (sound : pool.Sound) {cache : KvCache} {range : KvRange}
    (same : pool.cache.SamePool cache) (fits : pool.cache.Fits range) :
    (pool.receive (some (range, cache))).Sound := by
  refine ⟨same.laid sound.laid, ?_⟩
  intro other member
  apply same.fits
  rcases List.mem_append.mp member with old | new
  · exact sound.issued other old
  · rw [List.mem_singleton.mp new]
    exact fits

/-- As long as the ledger is kept, every range given out lies in the pool. -/
theorem step_sound (sound : pool.Sound) (balanced : pool.cache.Balanced)
    (kept : (pool.step call).cache.Balanced) : (pool.step call).Sound := by
  have laid := sound.laid
  have few := laid.few
  have careful := (step_balanced_iff sound balanced call).mp kept
  cases call with
  | allocate agent size =>
      change (pool.receive (pool.cache.kvAllocate agent size)).Sound
      cases result : pool.cache.kvAllocate agent size with
      | none => exact sound
      | some allocated =>
          obtain ⟨range, cache⟩ := allocated
          obtain ⟨fits, _, updates, _⟩ := KvCache.kvAllocate_updates laid result
          exact sound.receive (updates.samePool fun _ => rfl) fits
  | free place =>
      apply onRange_rule Sound sound
      intro range member _
      have fits := sound.issued range member
      exact sound.same ((KvCache.kvFree_updates fits few).1.samePool
        fun _ => KvBlock.release_id)
  | share src dst place =>
      apply onRange_rule Sound sound
      intro range member _
      have fits := sound.issued range member
      exact sound.same ((KvCache.kvShare_updates fits few src dst).1.samePool
        fun _ => KvBlock.lend_id src)
  | unshare id place =>
      apply onRange_rule Sound sound
      intro range member _
      have fits := sound.issued range member
      exact sound.same ((KvCache.kvUnshare_updates fits few id).samePool
        fun _ => KvBlock.giveBack_id)
  | compress place ratio =>
      apply onRange_rule Sound sound
      intro range _ found
      rw [(KvCache.kvCompress_none_iff laid ratio).mpr (careful range found)]
      exact sound
  | decompress place =>
      apply onRange_rule Sound sound
      intro range member _
      have fits := sound.issued range member
      exact sound.receive ((KvCache.kvDecompress_updates fits few).samePool fun _ => rfl) fits
  | reusePrefix agent wanted wantedSize =>
      change (pool.receive (pool.cache.kvReusePrefix agent wanted wantedSize)).Sound
      cases result : pool.cache.kvReusePrefix agent wanted wantedSize with
      | none => exact sound
      | some reused =>
          obtain ⟨range, cache⟩ := reused
          obtain ⟨_, _, _, fits, _, updates, _⟩ := KvCache.kvReusePrefix_updates laid result
          exact sound.receive (updates.samePool fun _ => rfl) fits
  | write place data dataSize =>
      apply onRange_rule Sound sound
      intro range _ _
      exact sound.same (KvCache.samePool_of_entries
        (KvCache.writeBlocks_entries pool.cache data dataSize range.indices 0 pool.cache.blocks)
        rfl)

/-! ### Counts and allocations -/

/-- A careful call wraps no count. -/
theorem step_wrapsNoCount (sound : pool.Sound) (balanced : pool.cache.Balanced)
    (careful : pool.Careful call) : pool.WrapsNoCount call := by
  have laid := sound.laid
  have few := laid.few
  have unchanged : List.Forall₂ (fun before after => ¬KvBlock.Wraps before after)
      pool.cache.blocks pool.cache.blocks := KvCache.not_wraps_of_entries rfl
  have agrees : ∀ {range block}, block ∈ pool.cache.covered range → block.Agrees :=
    fun member => balanced.free_iff _ (KvCache.mem_of_mem_covered member)
  unfold WrapsNoCount
  cases call with
  | allocate agent size =>
      change List.Forall₂ _ _ (pool.receive (pool.cache.kvAllocate agent size)).cache.blocks
      cases result : pool.cache.kvAllocate agent size with
      | none => exact unchanged
      | some allocated =>
          obtain ⟨range, cache⟩ := allocated
          obtain ⟨_, _, updates, _⟩ := KvCache.kvAllocate_updates laid result
          exact updates.not_wraps fun _ _ =>
            KvBlock.not_wraps (Or.inr (Or.inr (Or.inr rfl)))
  | free place =>
      apply onRange_rule (fun next => List.Forall₂ _ _ next.cache.blocks) unchanged
      intro range member _
      have fits := sound.issued range member
      exact (KvCache.kvFree_updates fits few).1.not_wraps fun block covered =>
        KvBlock.release_not_wraps (agrees covered)
  | share src dst place =>
      apply onRange_rule (fun next => List.Forall₂ _ _ next.cache.blocks) unchanged
      intro range member found
      have fits := sound.issued range member
      exact (KvCache.kvShare_updates fits few src dst).1.not_wraps fun block covered =>
        KvBlock.lend_not_wraps src fun owned => (careful range found block covered owned).2
  | unshare id place =>
      apply onRange_rule (fun next => List.Forall₂ _ _ next.cache.blocks) unchanged
      intro range member _
      have fits := sound.issued range member
      exact (KvCache.kvUnshare_updates fits few id).not_wraps fun block _ =>
        KvBlock.giveBack_not_wraps
  | compress place ratio =>
      apply onRange_rule (fun next => List.Forall₂ _ _ next.cache.blocks) unchanged
      intro range _ found
      rw [(KvCache.kvCompress_none_iff laid ratio).mpr (careful range found)]
      exact unchanged
  | decompress place =>
      apply onRange_rule (fun next => List.Forall₂ _ _ next.cache.blocks) unchanged
      intro range member _
      have fits := sound.issued range member
      exact (KvCache.kvDecompress_updates fits few).not_wraps fun block _ =>
        KvBlock.not_wraps (Or.inr (Or.inr (Or.inl rfl)))
  | reusePrefix agent wanted wantedSize =>
      change List.Forall₂ _ _
        (pool.receive (pool.cache.kvReusePrefix agent wanted wantedSize)).cache.blocks
      cases result : pool.cache.kvReusePrefix agent wanted wantedSize with
      | none => exact unchanged
      | some reused =>
          obtain ⟨range, cache⟩ := reused
          obtain ⟨found, present, _, _, covers, updates, _⟩ :=
            KvCache.kvReusePrefix_updates laid result
          apply updates.not_wraps
          rw [covers]
          exact List.forall_mem_singleton.mpr
            (KvBlock.reuse_not_wraps (careful found present))
  | write place data dataSize =>
      apply onRange_rule (fun next => List.Forall₂ _ _ next.cache.blocks) unchanged
      intro range _ _
      exact KvCache.not_wraps_of_entries
        (KvCache.writeBlocks_entries pool.cache data dataSize range.indices 0 pool.cache.blocks)

theorem step_takesUnreferenced (sound : pool.Sound) (balanced : pool.cache.Balanced)
    (call : PoolCall) : pool.TakesUnreferenced call := by
  cases call with
  | allocate agent size =>
      intro range after allocated block member
      obtain ⟨_, free, _, _⟩ := KvCache.kvAllocate_updates sound.laid allocated
      exact (balanced.free_iff block (KvCache.mem_of_mem_covered member)).mp (free block member)
  | free place => trivial
  | share src dst place => trivial
  | unshare id place => trivial
  | compress place ratio => trivial
  | decompress place => trivial
  | reusePrefix agent wanted wantedSize => trivial
  | write place data dataSize => trivial

end KvPool

/-! ### Runs -/

theorem kvCacheInit_laid (config : KvConfig) (memory : Nat → List UInt8) :
    (kvCacheInit config memory).Laid := by
  have few : (kvCacheInit config memory).blocks.length < 2 ^ 32 := by
    unfold kvCacheInit
    dsimp only
    rw [List.length_map, List.length_range]
    exact UInt32.toNat_lt _
  refine ⟨?_, few, ?_⟩
  · unfold kvCacheInit
    dsimp only
    split
    · decide
    · next given => exact fun zero => given (UInt32.toNat_inj.mp zero)
  · unfold kvCacheInit at few ⊢
    dsimp only at few ⊢
    rw [List.length_map, List.length_range] at few ⊢
    rw [List.map_map, List.range'_eq_map_range]
    apply List.map_congr_left
    intro i member
    have below := List.mem_range.mp member
    change (UInt64.ofNat (i + 1)).toNat = 1 + i
    rw [UInt64.toNat_ofNat', Nat.mod_eq_of_lt (by omega), Nat.add_comm]

theorem kvCacheInit_balanced (config : KvConfig) (memory : Nat → List UInt8) :
    (kvCacheInit config memory).Balanced := by
  have fresh : ∀ block ∈ (kvCacheInit config memory).blocks,
      block.state = .free ∧ block.refCount = 0 := by
    intro block member
    obtain ⟨i, _, rfl⟩ := List.mem_map.mp member
    exact ⟨rfl, rfl⟩
  refine ⟨fun block member => ?_, ?_⟩
  · exact ⟨fun _ => (fresh block member).2, fun _ => (fresh block member).1⟩
  · have none : (kvCacheInit config memory).blocks.countP KvBlock.busy = 0 := by
      rw [List.countP_eq_zero]
      intro block member busy
      exact KvBlock.busy_eq_true.mp busy (fresh block member).1
    rw [none]
    rfl

/-- The ledger is right in every state of a run, no count wraps, and no allocation takes a
block that is referenced, exactly if every call of the run is careful. -/
theorem ledger_balanced_iff_careful (config : KvConfig) (memory : Nat → List UInt8)
    (calls : List PoolCall) :
    ((poolMachine config memory).Throughout (fun pool => pool.cache.Balanced)
        (poolMachine config memory).initial calls ∧
      (poolMachine config memory).Along KvPool.WrapsNoCount
        (poolMachine config memory).initial calls ∧
      (poolMachine config memory).Along KvPool.TakesUnreferenced
        (poolMachine config memory).initial calls) ↔
      (poolMachine config memory).Along KvPool.Careful
        (poolMachine config memory).initial calls := by
  have sound : (poolMachine config memory).initial.Sound := by
    refine ⟨kvCacheInit_laid config memory, ?_⟩
    intro range member
    cases member
  have balanced := kvCacheInit_balanced config memory
  have runs := (poolMachine config memory).throughout_iff_along_of_kept KvPool.Sound
    (fun pool => pool.cache.Balanced) KvPool.Careful (fun _ => True)
    (fun _ _ sound balanced kept _ => KvPool.step_sound sound balanced kept)
    (fun _ call sound balanced _ => KvPool.step_balanced_iff sound balanced call)
    _ calls sound balanced (fun _ _ => trivial)
  rw [runs]
  refine ⟨fun kept => kept.1, fun careful => ⟨careful, ?_, ?_⟩⟩
  · apply Machine.Along.of_invariant (fun pool : KvPool => pool.Sound ∧ pool.cache.Balanced)
      _ _ ⟨sound, balanced⟩ careful
    · intro pool call holds careful
      have kept := (KvPool.step_balanced_iff holds.1 holds.2 call).mpr careful
      exact ⟨KvPool.step_sound holds.1 holds.2 kept, kept⟩
    · intro pool call holds careful
      exact KvPool.step_wrapsNoCount holds.1 holds.2 careful
  · apply Machine.Along.of_invariant (fun pool : KvPool => pool.Sound ∧ pool.cache.Balanced)
      _ _ ⟨sound, balanced⟩ careful
    · intro pool call holds careful
      have kept := (KvPool.step_balanced_iff holds.1 holds.2 call).mpr careful
      exact ⟨KvPool.step_sound holds.1 holds.2 kept, kept⟩
    · intro pool call holds _
      exact KvPool.step_takesUnreferenced holds.1 holds.2 call

/-- Agent 1 allocates one block, shares it with agent 2, and frees its range. -/
def sharedThenFreed : List PoolCall :=
  [.allocate 1 4096, .share 1 2 0, .free 0]

/-- Agent 2 still references the block, and the used size is zero. -/
theorem freed_shared_unbalanced :
    ¬∀ (config : KvConfig) (memory : Nat → List UInt8) (calls : List PoolCall),
      (poolMachine config memory).Throughout (fun pool => pool.cache.Balanced)
          (poolMachine config memory).initial calls ∧
        (poolMachine config memory).Along KvPool.WrapsNoCount
          (poolMachine config memory).initial calls ∧
        (poolMachine config memory).Along KvPool.TakesUnreferenced
          (poolMachine config memory).initial calls := by
  intro always
  have throughout := (always { blockSize := 4096, maxBlocks := 2 } (fun _ => [])
    sharedThenFreed).1
  have last := Machine.Throughout.at_segment sharedThenFreed [] throughout
  have used := last.used
  have none : ((poolMachine { blockSize := 4096, maxBlocks := 2 } fun _ => []).run
      sharedThenFreed).cache.usedSize.toNat = 0 := by decide
  have busy : ((poolMachine { blockSize := 4096, maxBlocks := 2 } fun _ => []).run
      sharedThenFreed).cache.blocks.countP KvBlock.busy = 1 := by decide
  unfold Machine.run at none busy
  rw [none, busy] at used
  exact absurd used (by decide)

end AgentNucleus.Top
