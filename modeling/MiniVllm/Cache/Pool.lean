import MiniVllm.Sequence

/-! The sizes of `cache/pool.py`. -/

namespace MiniVllm

/-- The dimensions of a `KVCachePool`; the positivity fields are the checks of `allocate`. -/
structure KVCacheShape where
  numLayers : ℕ
  numKvHeads : ℕ
  headDim : ℕ
  blockSize : ℕ
  itemsize : ℕ
  numLayers_pos : 0 < numLayers
  numKvHeads_pos : 0 < numKvHeads
  headDim_pos : 0 < headDim
  blockSize_pos : 0 < blockSize
  itemsize_pos : 0 < itemsize

namespace KVCacheShape

variable (shape : KVCacheShape)

def bytesPerBlockPerLayer : ℕ := 2 * shape.numKvHeads * shape.blockSize * shape.headDim * shape.itemsize

def bytesPerBlockTotal : ℕ := shape.numLayers * shape.bytesPerBlockPerLayer

end KVCacheShape

/-- The device that is used; of a GPU, the first component of `mem_get_info`. -/
inductive Device
  | cuda (freeBytes : ℤ)
  | cpu
  deriving DecidableEq, Repr

inductive PoolError
  | utilizationOutOfRange (gpuMemoryUtilization : ℚ)
  | overrideTooSmall (numGpuBlocksOverride : ℤ)
  | memoryExhausted (freeBytes peakRuntimeEstimate workspaceReserve : ℤ)
  | memoryInsufficient (numBlocks : ℤ) (gpuMemoryUtilization : ℚ)
  deriving DecidableEq, Repr

def PoolError.isRuntimeError : PoolError → Bool
  | .utilizationOutOfRange _ => false
  | _ => true

def minBlocks : ℤ := 16

def workspaceReserveBytes : ℤ := 256 * 1024 * 1024

def pyInt (x : ℚ) : ℤ := if 0 ≤ x then ⌊x⌋ else ⌈x⌉

/-- The utilization is an exact rational, and so is its product with the bytes that are left, which the code rounds to a
float before it takes the integer part. -/
def computeNumGpuBlocks (shape : KVCacheShape) (dev : Device) (gpuMemoryUtilization : ℚ)
    (peakRuntimeEstimate workspaceReserve : ℤ) (numGpuBlocksOverride : Option ℤ) : Except PoolError ℤ :=
  if ¬ (0 < gpuMemoryUtilization ∧ gpuMemoryUtilization ≤ 1) then
    .error (.utilizationOutOfRange gpuMemoryUtilization)
  else
    match numGpuBlocksOverride with
    | some n => if n < minBlocks then .error (.overrideTooSmall n) else .ok n
    | none =>
      match dev with
      | .cpu => .ok minBlocks
      | .cuda freeBytes =>
        let postDeduction := freeBytes - peakRuntimeEstimate - workspaceReserve
        if postDeduction ≤ 0 then .error (.memoryExhausted freeBytes peakRuntimeEstimate workspaceReserve)
        else
          let budget := pyInt (postDeduction * gpuMemoryUtilization)
          let bytesPerBlockTotal :=
            shape.numLayers * 2 * shape.numKvHeads * shape.blockSize * shape.headDim * shape.itemsize
          -- The clamp comes before the check.
          let numBlocks := max minBlocks (budget.fdiv bytesPerBlockTotal)
          if numBlocks < minBlocks then .error (.memoryInsufficient numBlocks gpuMemoryUtilization)
          else .ok numBlocks

end MiniVllm
