import Mathlib.Tactic

namespace MiniVllm

/-- `config.py`; the positivity fields are the assertions of `__post_init__`. -/
structure Config where
  maxNumSeqs : ℕ := 4
  maxNumBatchedTokens : ℕ := 16
  maxNumPrefillTokens : ℕ := 16
  chunkedPrefillEnabled : Bool := true
  maxPrefillChunkSize : ℕ := 4
  blockSize : ℕ := 4
  numGpuBlocks : ℕ := 8
  requestTimeoutS : ℚ := 60
  vocabSize : ℕ := 256
  enablePrefixCaching : Bool := true
  staticBatchMode : Bool := false
  maxModelLen : ℕ := 2048
  maxQueueLen : ℕ := 32
  maxNumStreams : ℕ := 16
  rateLimitRpm : ℕ := 60
  rateLimitTpm : ℕ := 100000
  maxNumSeqs_pos : 0 < maxNumSeqs := by decide
  maxNumBatchedTokens_pos : 0 < maxNumBatchedTokens := by decide
  maxNumPrefillTokens_pos : 0 < maxNumPrefillTokens := by decide
  maxPrefillChunkSize_pos : 0 < maxPrefillChunkSize := by decide
  blockSize_pos : 0 < blockSize := by decide
  numGpuBlocks_pos : 0 < numGpuBlocks := by decide
  vocabSize_pos : 0 < vocabSize := by decide
  maxQueueLen_pos : 0 < maxQueueLen := by decide
  maxNumStreams_pos : 0 < maxNumStreams := by decide
  rateLimitRpm_pos : 0 < rateLimitRpm := by decide
  rateLimitTpm_pos : 0 < rateLimitTpm := by decide
  requestTimeoutS_pos : 0 < requestTimeoutS := by decide +kernel

def Config.default : Config := {}

end MiniVllm
