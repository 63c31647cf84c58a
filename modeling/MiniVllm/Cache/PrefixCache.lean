import MiniVllm.Library.Dict

/-! `cache/prefix_cache.py`. -/

namespace MiniVllm

structure PrefixCacheProbeResult where
  matchedBlockCount : ℕ := 0
  cachedTokenCount : ℕ := 0
  matchedPhysicalBlockIds : List ℕ := []
  deriving DecidableEq, Repr

def numPromptBlocks (blockSize : ℕ) (promptTokenIds : List ℕ) : ℕ :=
  (promptTokenIds.length + blockSize - 1) / blockSize

def promptBlock (blockSize : ℕ) (promptTokenIds : List ℕ) (i : ℕ) : List ℕ :=
  (promptTokenIds.drop (i * blockSize)).take blockSize

def computeBlockHashes (blockHash : List ℕ → ℤ) (blockSize : ℕ) (promptTokenIds : List ℕ) : List ℤ :=
  (List.range (numPromptBlocks blockSize promptTokenIds)).map
    (fun i => blockHash (promptBlock blockSize promptTokenIds i))

abbrev PrefixCache := Dict ℤ ℕ

namespace PrefixCache

def lookup (cache : PrefixCache) (blockHash : ℤ) : Option ℕ := cache.get? blockHash

def insert (cache : PrefixCache) (blockHash : ℤ) (physicalBlockId : ℕ) : PrefixCache :=
  cache.set blockHash physicalBlockId

end PrefixCache

end MiniVllm
