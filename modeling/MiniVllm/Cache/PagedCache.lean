import MiniVllm.Library.Loop
import MiniVllm.Sequence

/-! The key and value caches of one layer: `cache/cache_write.py` and `cache/cache_read.py`. -/

namespace MiniVllm

/-- `K` and `V` are the types of one token's key and value; `key_cache` and `value_cache` have one shape. -/
structure LayerCache (K V : Type) where
  numBlocks : ℕ
  blockSize : ℕ
  key : ℕ × ℕ → K
  value : ℕ × ℕ → V

inductive CacheError
  | keyValueShape (keyTokens valueTokens : ℕ)
  | blockSizeNotPositive (blockSize : ℕ)
  | slotMappingLength (slots numTokens : ℕ)
  | blockSizeMismatch (argument cacheBlockSize : ℕ)
  | slotOutOfRange (token : ℕ) (slot : ℤ) (totalSlots blockSize numBlocks : ℕ)
  | blockTableTooShort (tableLength numTokens logicalIdx blockSize : ℕ)
  | blockIdOutOfRange (blockId numBlocks : ℕ)
  deriving DecidableEq, Repr

def CacheError.toExn : CacheError → Exn
  | .slotOutOfRange .. | .blockTableTooShort .. | .blockIdOutOfRange .. => .indexError
  | _ => .valueError

namespace LayerCache

variable {K V : Type}

def cellOf (blockSize slot : ℕ) : ℕ × ℕ := (slot / blockSize, slot % blockSize)

def setCell (cache : LayerCache K V) (cell : ℕ × ℕ) (k : K) (v : V) : LayerCache K V :=
  { cache with key := Function.update cache.key cell k, value := Function.update cache.value cell v }

def validateInputs (key : List K) (value : List V) (cache : LayerCache K V) (slotMapping : List ℤ)
    (blockSize : ℕ) : Except CacheError Unit :=
  if key.length ≠ value.length then .error (.keyValueShape key.length value.length)
  else if blockSize = 0 then .error (.blockSizeNotPositive blockSize)
  else if slotMapping.length ≠ key.length then .error (.slotMappingLength slotMapping.length key.length)
  else if blockSize ≠ cache.blockSize then .error (.blockSizeMismatch blockSize cache.blockSize)
  else .ok ()

def writeToken (blockSize : ℕ) (cache : LayerCache K V) (item : (ℤ × K × V) × ℕ) :
    Except CacheError Unit × LayerCache K V :=
  let ((slot, k, v), t) := item
  if slot = -1 then (.ok (), cache)
  else if slot < -1 ∨ (cache.numBlocks * blockSize : ℕ) ≤ slot then
    (.error (.slotOutOfRange t slot (cache.numBlocks * blockSize) blockSize cache.numBlocks), cache)
  else (.ok (), cache.setCell (cellOf blockSize slot.toNat) k v)

def writeToPagedCache (key : List K) (value : List V) (cache : LayerCache K V) (slotMapping : List ℤ)
    (blockSize : ℕ) : Except CacheError Unit × LayerCache K V :=
  match validateInputs key value cache slotMapping blockSize with
  | .error err => (.error err, cache)
  | .ok _ => forEach (writeToken blockSize) cache (slotMapping.zip (key.zip value)).zipIdx

def gatherBlocks (cache : LayerCache K V) (tableLength numTokens blockSize : ℕ) :
    ℕ → List ℕ → ℕ → Except CacheError (List K × List V)
  | _, _, 0 => .ok ([], [])
  | logicalIdx, [], _ + 1 => .error (.blockTableTooShort tableLength numTokens logicalIdx blockSize)
  | logicalIdx, physicalId :: rest, remaining@(_ + 1) =>
    if cache.numBlocks ≤ physicalId then .error (.blockIdOutOfRange physicalId cache.numBlocks)
    else
      let tokensThisBlock := min blockSize remaining
      match gatherBlocks cache tableLength numTokens blockSize (logicalIdx + 1) rest
          (remaining - tokensThisBlock) with
      | .error err => .error err
      | .ok (keys, values) =>
        let offsets := List.range (min tokensThisBlock cache.blockSize)
        .ok (offsets.map (fun o => cache.key (physicalId, o)) ++ keys,
          offsets.map (fun o => cache.value (physicalId, o)) ++ values)

def gatherPagedKv (cache : LayerCache K V) (blockTable : List ℕ) (numTokens blockSize : ℕ) :
    Except CacheError (List K × List V) :=
  gatherBlocks cache blockTable.length numTokens blockSize 0 blockTable numTokens

end LayerCache

end MiniVllm
