/-
The block pool of kv_cache.c.  The global `g_kv_cache` is the structure `KvCache`; every
function takes it and returns it changed.  Access times, priorities and statistics are
left out: no decision of the functions below reads them.
-/

import Mathlib.Algebra.Order.Ring.Nat
import AgentNucleus.Library.Machine
import AgentNucleus.Library.Stretches

set_option autoImplicit false

namespace AgentNucleus.Top

open AgentNucleus.Library

inductive KvBlockState
  | free
  | allocated
  | shared
  | compressed
  deriving DecidableEq

/-- `AGENT_ID_INVALID` -/
def kvNoOwner : UInt64 := 0

structure KvBlock where
  id : UInt64
  state : KvBlockState
  refCount : UInt32
  owner : UInt64
  data : List UInt8

structure KvRange where
  start : UInt64
  count : UInt32
  size : UInt32

structure KvConfig where
  blockSize : UInt32
  maxBlocks : UInt32

structure KvCache where
  blocks : List KvBlock
  blockSize : UInt32
  usedSize : UInt64

/-- A successful `kv_cache_init`; `memory` is what the allocated buffers contain. -/
def kvCacheInit (config : KvConfig) (memory : Nat → List UInt8) : KvCache :=
  let blockSize := if config.blockSize = 0 then 4096 else config.blockSize
  let blockCount := if config.maxBlocks = 0 then 1024 * 1024 else config.maxBlocks
  { blocks := (List.range blockCount.toNat).map fun i =>
      { id := UInt64.ofNat (i + 1)
        state := .free
        refCount := 0
        owner := kvNoOwner
        data := memory i }
    blockSize := blockSize
    usedSize := 0 }

/-- `range->start - 1 + i`, cut to 32 bits -/
def KvRange.index (range : KvRange) (i : Nat) : Nat :=
  (range.start - 1 + UInt64.ofNat i).toUInt32.toNat

def KvRange.indices (range : KvRange) : List Nat :=
  (List.range range.count.toNat).map range.index

/-! ### What the calls do to one block -/

def KvBlock.occupy (agent : UInt64) (blockSize : UInt32) (block : KvBlock) : KvBlock :=
  { block with
    state := .allocated
    refCount := 1
    owner := agent
    data := List.replicate blockSize.toNat 0 }

def KvBlock.release (block : KvBlock) : KvBlock :=
  if block.state = .free then block
  else
    let refCount := block.refCount - 1
    if refCount = 0 then
      { block with state := .free, refCount := refCount, owner := kvNoOwner }
    else { block with refCount := refCount }

def KvBlock.lend (src : UInt64) (block : KvBlock) : KvBlock :=
  if block.owner = src then { block with state := .shared, refCount := block.refCount + 1 }
  else block

def KvBlock.giveBack (block : KvBlock) : KvBlock :=
  if 0 < block.refCount then
    let refCount := block.refCount - 1
    if refCount = 1 then { block with state := .allocated, refCount := refCount }
    else { block with refCount := refCount }
  else block

def KvBlock.restore (block : KvBlock) : KvBlock :=
  { block with state := .allocated }

def KvBlock.reuse (block : KvBlock) : KvBlock :=
  { block with refCount := block.refCount + 1 }

/-! ### The calls -/

namespace KvCache

variable (cache : KvCache)

def isFree (index : Nat) : Bool :=
  (cache.blocks[index]?).any fun block => decide (block.state = .free)

/-- The inner loop of `find_free_block`: the sum `i + j` has 32 bits. -/
def freeFrom (count : UInt32) (i : Nat) : Bool :=
  cache.isFree i &&
    (List.range' 1 (count.toNat - 1)).all fun j => cache.isFree ((i + j) % 2 ^ 32)

def findFreeBlock (count : UInt32) : UInt64 :=
  match (List.range cache.blocks.length).find? (cache.freeFrom count) with
  | none => 0
  | some i =>
      match cache.blocks[i]? with
      | none => 0
      | some block => block.id

def blocksNeeded (size : UInt32) : UInt32 :=
  let needed := (size + cache.blockSize - 1) / cache.blockSize
  if needed = 0 then 1 else needed

/-- `none` is the `-1` of the source, and then nothing has changed. -/
def kvAllocate (agent : UInt64) (size : UInt32) : Option (KvRange × KvCache) :=
  let needed := cache.blocksNeeded size
  let start := cache.findFreeBlock needed
  if start = 0 then none
  else
    let range : KvRange := { start := start, count := needed, size := needed * cache.blockSize }
    some (range,
      { cache with
        blocks := modifyEach (KvBlock.occupy agent cache.blockSize) range.indices cache.blocks
        usedSize := cache.usedSize + range.size.toUInt64 })

/-- The loops of `kv_free` and `kv_share`.  They end with `-1`, here `false`, at the first
index past the last block, and keep what they have done so far. -/
def sweep (update : KvBlock → KvBlock) : List Nat → KvCache → KvCache × Bool
  | [], cache => (cache, true)
  | index :: rest, cache =>
      if index < cache.blocks.length then
        sweep update rest { cache with blocks := cache.blocks.modify index update }
      else (cache, false)

end KvCache

/-- What `kv_compress` reads of its float: whether it lies strictly between 0 and 1, and
its product with a number of blocks, cut to an integer. -/
structure KvRatio where
  accepted : Bool
  scale : UInt32 → UInt32

def KvRatio.outputBlocks (ratio : KvRatio) (input : KvRange) : UInt32 :=
  let outputBlocks := ratio.scale input.count
  if outputBlocks = 0 then 1 else outputBlocks

/-- `(input->start - 1) + (i * input->count / output_blocks)` -/
def KvRange.sample (input : KvRange) (outputBlocks : UInt32) (i : Nat) : Nat :=
  (input.start - 1 + (UInt32.ofNat i * input.count / outputBlocks).toUInt64).toUInt32.toNat

def copySample (source target : Nat) (blocks : List KvBlock) : List KvBlock :=
  match blocks[source]? with
  | none => blocks
  | some sample =>
      blocks.modify target fun block =>
        { block with
          state := .compressed
          refCount := 1
          owner := sample.owner
          data := sample.data }

namespace KvCache

variable (cache : KvCache)

def kvFree (range : KvRange) : KvCache × Bool :=
  match cache.sweep KvBlock.release range.indices with
  | (swept, false) => (swept, false)
  | (swept, true) =>
      ({ swept with usedSize := swept.usedSize - range.size.toUInt64 }, true)

/-- The agent that the blocks are shared with is not recorded. -/
def kvShare (src _dst : UInt64) (range : KvRange) : KvCache × Bool :=
  cache.sweep (KvBlock.lend src) range.indices

def kvUnshare (_id : UInt64) (range : KvRange) : KvCache :=
  { cache with blocks := modifyEach KvBlock.giveBack range.indices cache.blocks }

def kvCompress (input : KvRange) (ratio : KvRatio) : Option (KvRange × KvCache) :=
  if ratio.accepted = false then none
  else
    let outputBlocks := ratio.outputBlocks input
    let outStart := cache.findFreeBlock outputBlocks
    if outStart = 0 then none
    else
      let output : KvRange :=
        { start := outStart, count := outputBlocks, size := outputBlocks * cache.blockSize }
      some (output,
        { cache with
          blocks := (List.range outputBlocks.toNat).foldl
            (fun blocks i => copySample (input.sample outputBlocks i) (output.index i) blocks)
            cache.blocks })

def kvDecompress (range : KvRange) : KvRange × KvCache :=
  (range, { cache with blocks := modifyEach KvBlock.restore range.indices cache.blocks })

/-- The block belongs to the agent, and the bytes compared are equal and not none at all. -/
def reusable (agent : UInt64) (wanted : List UInt8) (wantedSize : UInt32) (block : KvBlock) :
    Bool :=
  let checkSize := if wantedSize < cache.blockSize then wantedSize else cache.blockSize
  decide (block.state ≠ .free) && decide (block.owner = agent) &&
    decide (block.data.take checkSize.toNat = wanted.take checkSize.toNat) &&
    decide (0 < checkSize)

def kvReusePrefix (agent : UInt64) (wanted : List UInt8) (wantedSize : UInt32) :
    Option (KvRange × KvCache) :=
  match cache.blocks.find? (cache.reusable agent wanted wantedSize) with
  | none => none
  | some block =>
      let i := cache.blocks.findIdx (cache.reusable agent wanted wantedSize)
      some ({ start := block.id, count := 1, size := cache.blockSize },
        { cache with blocks := cache.blocks.modify i KvBlock.reuse })

/-- The loop of `kv_write`: free blocks are skipped, an index past the last block ends it. -/
def writeBlocks (data : List UInt8) (dataSize : UInt32) :
    List Nat → UInt32 → List KvBlock → List KvBlock × UInt32
  | [], written, blocks => (blocks, written)
  | index :: rest, written, blocks =>
      if written < dataSize then
        match blocks[index]? with
        | none => (blocks, written)
        | some block =>
            if block.state = .free then writeBlocks data dataSize rest written blocks
            else
              let copySize :=
                if dataSize < written + cache.blockSize then dataSize - written
                else cache.blockSize
              let copied := (data.drop written.toNat).take copySize.toNat
              writeBlocks data dataSize rest (written + copySize)
                (blocks.set index
                  { block with data := copied ++ block.data.drop copySize.toNat })
      else (blocks, written)

def kvWrite (range : KvRange) (data : List UInt8) (dataSize : UInt32) : KvCache × UInt32 :=
  let (blocks, written) := cache.writeBlocks data dataSize range.indices 0 cache.blocks
  ({ cache with blocks := blocks }, written)

/-- The loop of `kv_read`: the bytes that it copies and the size that it counts. -/
def readBlocks (bufferSize : UInt32) : List Nat → UInt32 → List UInt8 × UInt32
  | [], readSize => ([], readSize)
  | index :: rest, readSize =>
      if readSize < bufferSize then
        match cache.blocks[index]? with
        | none => ([], readSize)
        | some block =>
            if block.state = .free then readBlocks bufferSize rest readSize
            else
              let copySize :=
                if bufferSize < readSize + cache.blockSize then bufferSize - readSize
                else cache.blockSize
              let (copied, total) := readBlocks bufferSize rest (readSize + copySize)
              (block.data.take copySize.toNat ++ copied, total)
      else ([], readSize)

def kvRead (range : KvRange) (bufferSize : UInt32) : List UInt8 × UInt32 :=
  cache.readBlocks bufferSize range.indices 0

end KvCache

/-! ### Runs -/

/-- The pool and the ranges that its callers have been given so far. -/
structure KvPool where
  cache : KvCache
  issued : List KvRange

/-- A call; ranges are named by their places in the list of those given out. -/
inductive PoolCall
  | allocate (agent : UInt64) (size : UInt32)
  | free (range : Nat)
  | share (src dst : UInt64) (range : Nat)
  | unshare (id : UInt64) (range : Nat)
  | compress (input : Nat) (ratio : KvRatio)
  | decompress (compressed : Nat)
  | reusePrefix (agent : UInt64) (wanted : List UInt8) (wantedSize : UInt32)
  | write (range : Nat) (data : List UInt8) (dataSize : UInt32)

namespace KvPool

variable (pool : KvPool)

def receive : Option (KvRange × KvCache) → KvPool
  | none => pool
  | some (range, cache) => { cache := cache, issued := pool.issued ++ [range] }

/-- A range that nobody has been given is not passed. -/
def onRange (place : Nat) (call : KvRange → KvPool) : KvPool :=
  match pool.issued[place]? with
  | none => pool
  | some range => call range

def step : PoolCall → KvPool
  | .allocate agent size => pool.receive (pool.cache.kvAllocate agent size)
  | .free range =>
      pool.onRange range fun range => { pool with cache := (pool.cache.kvFree range).1 }
  | .share src dst range =>
      pool.onRange range fun range => { pool with cache := (pool.cache.kvShare src dst range).1 }
  | .unshare id range =>
      pool.onRange range fun range => { pool with cache := pool.cache.kvUnshare id range }
  | .compress input ratio =>
      pool.onRange input fun input => pool.receive (pool.cache.kvCompress input ratio)
  | .decompress compressed =>
      pool.onRange compressed fun compressed =>
        pool.receive (some (pool.cache.kvDecompress compressed))
  | .reusePrefix agent wanted wantedSize =>
      pool.receive (pool.cache.kvReusePrefix agent wanted wantedSize)
  | .write range data dataSize =>
      pool.onRange range fun range =>
        { pool with cache := (pool.cache.kvWrite range data dataSize).1 }

end KvPool

def poolMachine (config : KvConfig) (memory : Nat → List UInt8) : Machine KvPool PoolCall where
  initial := { cache := kvCacheInit config memory, issued := [] }
  step := KvPool.step

end AgentNucleus.Top
