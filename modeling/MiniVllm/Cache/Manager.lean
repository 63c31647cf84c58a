import MiniVllm.Cache.Allocator
import MiniVllm.Cache.BlockTable
import MiniVllm.Cache.PrefixCache

/-! `cache/manager.py`: block tables over the allocator and the prefix cache. -/

namespace MiniVllm

/-- What a `BlockManager` is built with; `blockHash` is Python's `hash` of the tuple of tokens. -/
structure BlockParams (ε : Type) where
  blockSize : ℕ
  enablePrefixCaching : Bool
  blockHash : List ℕ → ℤ
  callbacks : Callbacks ε

/-- What happens to the pool. A block is allocated for a hash, or for no prompt block; a slot is written with the
KV of a position, which is computed from the tokens up to it. -/
inductive CacheEvent
  | allocated (block : ℕ) (seqId : SeqId) (hash : Option ℤ)
  | wrote (slot : ℤ) (seqId : SeqId) (position : ℕ) (context : List ℕ)
  deriving DecidableEq, Repr

/-- `history`, latest first, is read by no operation. -/
structure BlockManager (ε : Type) where
  allocator : BlockAllocator ε
  tables : Dict SeqId BlockTable := .empty
  prefixCache : PrefixCache := Dict.empty
  sharedPrefixBlocks : Dict SeqId ℕ := .empty
  blockHashes : Dict SeqId (List ℤ) := .empty
  history : List CacheEvent := []

namespace BlockManager

variable {ε : Type} (P : BlockParams ε) (bm : BlockManager ε)

def getTable (seqId : SeqId) : BlockTable := (bm.tables.get? seqId).getD {}

def getBlockTable (seqId : SeqId) : List ℕ := (bm.getTable seqId).getBlockIds

def getSharedPrefixLength (seqId : SeqId) : ℕ := (bm.sharedPrefixBlocks.get? seqId).getD 0

def cachedBlock (h : ℤ) : Option ℕ :=
  match bm.prefixCache.lookup h with
  | some pid => if bm.allocator.getRefCount pid > 0 then some pid else none
  | none => none

def matchPrefix : List ℤ → List ℕ
  | [] => []
  | h :: hashes =>
    match bm.cachedBlock h with
    | some pid => pid :: matchPrefix hashes
    | none => []

def probePrefixCache (promptTokenIds : List ℕ) : PrefixCacheProbeResult :=
  if P.enablePrefixCaching then
    let matched := bm.matchPrefix (computeBlockHashes P.blockHash P.blockSize promptTokenIds)
    { matchedBlockCount := matched.length
      cachedTokenCount := min (matched.length * P.blockSize) promptTokenIds.length
      matchedPhysicalBlockIds := matched }
  else {}

def shareBlock (seqId : SeqId) (pid : ℕ) : Except Exn Unit × BlockManager ε :=
  match bm.allocator.incrementRef pid with
  | .error err => (.error err, bm)
  | .ok allocator =>
    (.ok (), { bm with
      allocator := allocator
      tables := bm.tables.set seqId ((bm.getTable seqId).addSharedBlock pid) })

def sharePrefix (seqId : SeqId) : List ℤ → BlockManager ε → Except Exn ℕ × BlockManager ε
  | [], bm => (.ok 0, bm)
  | h :: hashes, bm =>
    match bm.cachedBlock h with
    | none => (.ok 0, bm)
    | some pid =>
      match bm.shareBlock seqId pid with
      | (.error err, bm) => (.error err, bm)
      | (.ok _, bm) =>
        match sharePrefix seqId hashes bm with
        | (.error err, bm) => (.error err, bm)
        | (.ok n, bm) => (.ok (n + 1), bm)

def allocateForSeq (seq : Sequence) : Except Exn Unit × BlockManager ε :=
  let bm := { bm with tables := bm.tables.set seq.seqId {} }
  if P.enablePrefixCaching then
    let hashes := computeBlockHashes P.blockHash P.blockSize seq.promptTokenIds
    match sharePrefix seq.seqId hashes { bm with blockHashes := bm.blockHashes.set seq.seqId hashes } with
    | (.error err, bm) => (.error err, bm)
    | (.ok n, bm) => (.ok (), { bm with sharedPrefixBlocks := bm.sharedPrefixBlocks.set seq.seqId n })
  else (.ok (), { bm with sharedPrefixBlocks := bm.sharedPrefixBlocks.set seq.seqId 0 })

def promptHash (seq : Sequence) (position logicalIdx : ℕ) : Option ℤ :=
  if position < seq.promptTokenIds.length ∧ P.enablePrefixCaching then
    (bm.blockHashes.get? seq.seqId).bind (·[logicalIdx]?)
  else none

def registerBlock (hash : Option ℤ) (pid : ℕ) : PrefixCache :=
  match hash with
  | some h => bm.prefixCache.insert h pid
  | none => bm.prefixCache

def allocateBlock (cb : Callbacks ε) (seqId : SeqId) (hash : Option ℤ) (oom : Exn) :
    Except Exn Unit × BlockManager ε :=
  match bm.allocator.allocate cb 1 with
  | (none, _) => (.error oom, bm)
  | (some [], allocator) => (.error .indexError, { bm with allocator := allocator })
  | (some (pid :: _), allocator) =>
    (.ok (), { bm with
      allocator := allocator
      tables := bm.tables.set seqId ((bm.getTable seqId).addBlock pid)
      prefixCache := bm.registerBlock hash pid
      history := .allocated pid seqId hash :: bm.history })

def growTable (seq : Sequence) (position logicalIdx : ℕ) : Except Exn Unit × BlockManager ε :=
  let hash := bm.promptHash P seq position logicalIdx
  match hash.bind bm.cachedBlock with
  | some pid => bm.shareBlock seq.seqId pid
  | none =>
    bm.allocateBlock P.callbacks seq.seqId hash
      (.outOfMemory seq.seqId position (some (bm.getSharedPrefixLength seq.seqId)))

def growLoop (body : BlockManager ε → Except Exn Unit × BlockManager ε) :
    ℕ → BlockManager ε → Except Exn Unit × BlockManager ε
  | 0, bm => (.ok (), bm)
  | n + 1, bm =>
    match body bm with
    | (.error err, bm) => (.error err, bm)
    | (.ok _, bm) => growLoop body n bm

def withTable (seqId : SeqId) : BlockManager ε :=
  if bm.tables.contains seqId then bm else { bm with tables := bm.tables.set seqId {} }

def ensureBlock (seq : Sequence) (position : ℕ) : Except Exn (Option ℕ) × BlockManager ε :=
  let logicalIdx := position / P.blockSize
  let bm := bm.withTable seq.seqId
  match growLoop (fun bm => bm.growTable P seq position logicalIdx)
      (logicalIdx + 1 - (bm.getTable seq.seqId).numBlocks) bm with
  | (.error err, bm) => (.error err, bm)
  | (.ok _, bm) => (.ok ((bm.getTable seq.seqId).getPhysicalBlock P.blockSize position), bm)

def ensureBlockByIds (cb : Callbacks ε) (blockSize : ℕ) (seqId : SeqId) (position : ℕ) :
    Except Exn (Option ℕ) × BlockManager ε :=
  let logicalIdx := position / blockSize
  let bm := bm.withTable seqId
  match growLoop (fun bm => bm.allocateBlock cb seqId none (.outOfMemory seqId position none))
      (logicalIdx + 1 - (bm.getTable seqId).numBlocks) bm with
  | (.error err, bm) => (.error err, bm)
  | (.ok _, bm) => (.ok ((bm.getTable seqId).getPhysicalBlock blockSize position), bm)

def isBlockShared (seq : Sequence) (position : ℕ) : Bool :=
  (bm.getTable seq.seqId).isSharedAt P.blockSize position

def free (seqId : SeqId) : BlockManager ε :=
  match bm.tables.get? seqId with
  | none => bm
  | some table =>
    { bm with
      tables := bm.tables.pop seqId
      allocator := bm.allocator.free P.callbacks table.getBlockIds
      sharedPrefixBlocks := bm.sharedPrefixBlocks.pop seqId
      blockHashes := bm.blockHashes.pop seqId }

def withListener (x : ε) : BlockManager ε := { bm with allocator := { bm.allocator with listener := x } }

def record (events : List CacheEvent) : BlockManager ε := { bm with history := events ++ bm.history }

lemma withTable_of_contains {seqId : SeqId} (h : bm.tables.contains seqId) : bm.withTable seqId = bm := by
  simp [withTable, h]

lemma ensureBlockByIds_covered (cb : Callbacks ε) (blockSize : ℕ) {seqId : SeqId} {position : ℕ}
    (ht : bm.tables.contains seqId)
    (hp : position / blockSize < (bm.getBlockTable seqId).length) :
    bm.ensureBlockByIds cb blockSize seqId position =
      (.ok (some ((bm.getBlockTable seqId)[position / blockSize])), bm) := by
  have hz : position / blockSize + 1 - (bm.getTable seqId).numBlocks = 0 := by
    rw [BlockTable.numBlocks_eq]
    exact Nat.sub_eq_zero_of_le hp
  simp only [ensureBlockByIds, bm.withTable_of_contains ht, hz, growLoop, BlockTable.getPhysicalBlock]
  exact congrArg (fun pid => (Except.ok pid, bm)) (List.getElem?_eq_getElem hp)

section WithListener

variable (x : ε) (seqId : SeqId)

@[simp] lemma withListener_tables : (bm.withListener x).tables = bm.tables := rfl

@[simp] lemma withListener_prefixCache : (bm.withListener x).prefixCache = bm.prefixCache := rfl

@[simp] lemma withListener_blockHashes : (bm.withListener x).blockHashes = bm.blockHashes := rfl

@[simp] lemma withListener_history : (bm.withListener x).history = bm.history := rfl

@[simp] lemma withListener_listener : (bm.withListener x).allocator.listener = x := rfl

@[simp] lemma withListener_getTable : (bm.withListener x).getTable seqId = bm.getTable seqId := rfl

@[simp] lemma withListener_getBlockTable :
    (bm.withListener x).getBlockTable seqId = bm.getBlockTable seqId := rfl

@[simp] lemma withListener_withListener (y : ε) :
    (bm.withListener x).withListener y = bm.withListener y := rfl

@[simp] lemma withListener_self : bm.withListener bm.allocator.listener = bm := rfl

end WithListener

section Record

variable (events : List CacheEvent) (seqId : SeqId)

@[simp] lemma record_allocator : (bm.record events).allocator = bm.allocator := rfl

@[simp] lemma record_tables : (bm.record events).tables = bm.tables := rfl

@[simp] lemma record_prefixCache : (bm.record events).prefixCache = bm.prefixCache := rfl

@[simp] lemma record_blockHashes : (bm.record events).blockHashes = bm.blockHashes := rfl

@[simp] lemma record_history : (bm.record events).history = events ++ bm.history := rfl

@[simp] lemma record_getBlockTable : (bm.record events).getBlockTable seqId = bm.getBlockTable seqId := rfl

end Record

end BlockManager

end MiniVllm
