import MiniVllm.Sequence

/-! `cache/allocator.py`. The listener is the executor's state behind the two callbacks. -/

namespace MiniVllm

structure Callbacks (ε : Type) where
  onAllocate : ε → ℕ → ε
  onFree : ε → ℕ → ε

structure BlockAllocator (ε : Type) where
  numBlocks : ℕ
  freeFlags : List Bool
  refCounts : List ℤ
  listener : ε

namespace BlockAllocator

variable {ε : Type} (cb : Callbacks ε) (a : BlockAllocator ε)

def initial (numBlocks : ℕ) (listener : ε) : BlockAllocator ε where
  numBlocks := numBlocks
  freeFlags := List.replicate numBlocks true
  refCounts := List.replicate numBlocks 0
  listener := listener

def isFree (pid : ℕ) : Bool := a.freeFlags.getD pid false

def getRefCount (pid : ℕ) : ℤ := a.refCounts.getD pid 0

/-- The block that `allocate(1)` would take. -/
def nextFree : Option ℕ := (List.range a.numBlocks).find? a.isFree

def numFreeBlocks : ℕ := a.freeFlags.countP (· = true)

def numTotalBlocks : ℕ := a.numBlocks

def numUsedBlocks : ℕ := a.numBlocks - a.numFreeBlocks

def freeIds : ℕ → List Bool → List ℕ
  | _, [] => []
  | i, true :: flags => i :: freeIds (i + 1) flags
  | i, false :: flags => freeIds (i + 1) flags

def dumpFreeList : List ℕ := freeIds 0 a.freeFlags

/-- The scan of `allocate` from block `i` on: the length test follows the append. -/
def scanFree (numBlocks : ℕ) : ℕ → List Bool → List ℕ → List ℕ
  | _, [], indices => indices
  | i, true :: flags, indices =>
    if (indices ++ [i]).length = numBlocks then indices ++ [i]
    else scanFree numBlocks (i + 1) flags (indices ++ [i])
  | i, false :: flags, indices => scanFree numBlocks (i + 1) flags indices

def takeBlock (pid : ℕ) : BlockAllocator ε :=
  { a with
    freeFlags := a.freeFlags.set pid false
    refCounts := a.refCounts.set pid 1
    listener := cb.onAllocate a.listener pid }

def allocate (numBlocks : ℕ) : Option (List ℕ) × BlockAllocator ε :=
  if numBlocks > a.numFreeBlocks then (none, a)
  else
    let indices := scanFree numBlocks 0 a.freeFlags []
    (some indices, indices.foldl (takeBlock cb) a)

def releaseBlock (pid : ℕ) : BlockAllocator ε :=
  if a.getRefCount pid = 0 then a
  else if a.getRefCount pid - 1 = 0 then
    { a with
      freeFlags := a.freeFlags.set pid true
      refCounts := a.refCounts.set pid (a.getRefCount pid - 1)
      listener := cb.onFree a.listener pid }
  else { a with refCounts := a.refCounts.set pid (a.getRefCount pid - 1) }

def free (physicalBlockIds : List ℕ) : BlockAllocator ε :=
  physicalBlockIds.foldl (releaseBlock cb) a

def incrementRef (pid : ℕ) : Except Exn (BlockAllocator ε) :=
  if a.isFree pid then .error .assertionError
  else .ok { a with refCounts := a.refCounts.set pid (a.getRefCount pid + 1) }

def checkBlock (s : List String × ℕ) (i : ℕ) : List String × ℕ :=
  let count := a.getRefCount i
  let violations := if a.isFree i = false ∧ count = 0 then s.1 ++ [s!"Block {i}: in-use but ref_count = 0"] else s.1
  let violations :=
    if a.isFree i = true ∧ count ≠ 0 then violations ++ [s!"Block {i}: free but ref_count = {count}"] else violations
  (violations, if a.isFree i = false then s.2 + 1 else s.2)

def checkInvariants : List String :=
  let checked := (List.range a.numBlocks).foldl a.checkBlock ([], 0)
  let computed := a.numBlocks - checked.2
  let reported := a.numFreeBlocks
  if computed ≠ reported then
    checked.1 ++ [s!"Free count mismatch: computed={computed}, reported={reported}"]
  else checked.1

end BlockAllocator

end MiniVllm
